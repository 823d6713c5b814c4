import OpenRun.Sync.Store

/-!
# `runSyncJob`

One run of a sync entry, as `Server.runSyncJob` in the Go source does it. The function is
split along its phases, each a definition of its own so that later proofs can cite one
lemma per phase:

* `applyStatus`: the status built from the outcome of `Apply`, with the failure
  transition (`FailureCount + 1`, then `"Disabled"` at the configured maximum, else
  `"Failing"`);
* `skipPath`, with `lookupApps` and `reloadApps`: the skip optimisation, taken when
  `Apply` reports a skipped apply and the reload policy is `matched` (`afterApply`). The
  lookups stop at the first missing app; the reloads stop at the first failing reload and
  record the same failure transition as a failed `Apply`;
* `finishSyncJob` and `persistStatus`: on failure, roll back the transaction in use and
  write the status through a fresh one; then write the status and, on success of a run
  that owns its transaction, complete it.

The Go function calls itself once, with `checkCommitHash = false`, when an app of the last
run is missing. `runSyncJobWith` takes the job that branch runs as a parameter, and
`runSyncJob` ties the knot one level deep (`rerunSyncJob`): with `checkCommitHash = false`
the branch returns an error instead of re-running, so nothing deeper is ever reached, and
the equation of the Go recursion holds by definition. Each call is recorded
with its arguments; the call the function makes of itself is recorded as nested, so that
the calls of its callers are the calls that are not nested.
-/

set_option autoImplicit false

namespace OpenRun.Sync

open Go

/-- The error of the missing-app branch of a run that already is a re-run. -/
def rerunNoCommitHashError : String := "Unexpected error, sync rerun with no commit hash"

/-- What a sync job returns: the status it wrote and the apps it updated. -/
abbrev JobResult := SyncJobStatus × List AppPathDomain

/-- The results the reload loop accumulates. -/
structure ReloadResults where
  reloadResults : List AppPathDomain := []
  approveResults : List ApproveResult := []
  promoteResults : List AppPathDomain := []
deriving DecidableEq, Repr

/-- Append the results of one successful `ReloadApp`. -/
def ReloadResults.add (acc : ReloadResults) (r : AppReloadResult) : ReloadResults where
  reloadResults := acc.reloadResults ++ r.reloadResults
  approveResults := acc.approveResults ++ r.approveResult.toList
  promoteResults := acc.promoteResults ++ r.promoteResults

/-- After a sequence of successful reloads, each accumulator is what it started with followed
by what the reloads reported, in order. -/
theorem ReloadResults.foldl_add (acc : ReloadResults) (rs : List AppReloadResult) :
    rs.foldl ReloadResults.add acc =
      { reloadResults := acc.reloadResults ++ rs.flatMap AppReloadResult.reloadResults
        approveResults := acc.approveResults ++ rs.filterMap AppReloadResult.approveResult
        promoteResults := acc.promoteResults ++ rs.flatMap AppReloadResult.promoteResults } := by
  induction rs generalizing acc with
  | nil => simp
  | cons r rs ih => rcases r with ⟨_, _ | _, _⟩ <;> simp [ih, ReloadResults.add]

/-- The state a failed step leaves: `"Disabled"` once the count reaches the maximum. -/
def failureState (maxSyncFailureCount failureCount : GoInt) : String :=
  if maxSyncFailureCount.sle failureCount then "Disabled" else "Failing"

/-- The arguments of the `Apply` call of a sync job. -/
def applyCall (tx : Nat) (entry : SyncEntry) (dryRun : Bool) (lastRunCommitId : String)
    (repoCache : Nat) : ApplyCall where
  tx := tx
  path := entry.path
  scope := "all"
  approve := entry.metadata.approve
  dryRun := dryRun
  promote := entry.metadata.promote
  reloadOption := entry.metadata.reload
  gitBranch := entry.metadata.gitBranch
  gitCommit := ""
  gitAuth := entry.metadata.gitAuth
  clobber := entry.metadata.clobber
  forceReload := entry.metadata.forceReload
  lastRunCommitId := lastRunCommitId
  repoCache := repoCache
  isWebhook := false

/-- The arguments of the `ReloadApp` call for one app. -/
def reloadCall (tx : Nat) (entry : SyncEntry) (app : AppEntry) (repoCache : Nat) :
    ReloadCall where
  tx := tx
  app := app
  approve := entry.metadata.approve
  dryRun := false
  promote := entry.metadata.promote
  gitBranch := app.gitBranch
  gitCommit := ""
  gitAuth := app.gitAuthName
  repoCache := repoCache
  forceReload := entry.metadata.forceReload

section

variable (s : Server)

/-- The status built from the outcome of `Apply`, and the apply response the run keeps. -/
def applyStatus (entry : SyncEntry) (dryRun : Bool) (now : Time)
    (lastRunApps : List AppPathDomain) :
    Except String AppApplyResponse → SyncJobStatus × AppApplyResponse
  | .error applyErr =>
    ({ lastExecutionTime := now, isApply := true, error := applyErr
       failureCount := entry.status.failureCount + 1
       state := failureState s.config.maxSyncFailureCount (entry.status.failureCount + 1) },
      { dryRun := dryRun, filteredApps := lastRunApps })
  | .ok applyInfo =>
    ({ lastExecutionTime := now, isApply := true, state := "Enabled"
       commitId := applyInfo.commitId, failureCount := 0 }, applyInfo)

/-- The lookups of the skip path: `none` at the first app that cannot be read
(`appMissing`), else the app map, the latest lookup of a path first. -/
def lookupApps (tx : Nat) :
    List AppPathDomain → List (AppPathDomain × AppEntry) →
      Job (Option (List (AppPathDomain × AppEntry)))
  | [], appMap => fun w => (some appMap, w)
  | appPath :: rest, appMap => fun w =>
    match s.getAppTx tx appPath w with
    | (.error _, w) => (none, w)
    | (.ok app, w) => lookupApps tx rest ((appPath, app) :: appMap) w

/-- The reload loop of the skip path: one `ReloadApp` per app, in order, stopping at the
first error, which it records in the status with the failure transition. The `none` branch
of the map lookup is never taken (`lookupApps_spec`): in Go it would be a nil
dereference. -/
def reloadApps (tx : Nat) (entry : SyncEntry) (repoCache : Nat)
    (appMap : List (AppPathDomain × AppEntry)) :
    List AppPathDomain → SyncJobStatus → ReloadResults →
      Job (SyncJobStatus × Option String × ReloadResults)
  | [], status, acc => fun w => ((status, none, acc), w)
  | appPath :: rest, status, acc => fun w =>
    match appMap.lookup appPath with
    | none => ((status, none, acc), w)
    | some app =>
    match s.reloadApp (reloadCall tx entry app repoCache) w with
    | (.error reloadErr, w) =>
      (({ status with
          error := reloadErr
          failureCount := entry.status.failureCount + 1
          state := failureState s.config.maxSyncFailureCount (entry.status.failureCount + 1) },
        some reloadErr, acc), w)
    | (.ok reloadResult, w) => reloadApps tx entry repoCache appMap rest status (acc.add reloadResult) w

/-- Write the status and, when the run succeeded on a transaction of its own, complete
the transaction. -/
def persistStatus (inputTx : Transaction) (tx : Nat) (entry : SyncEntry) (dryRun : Bool)
    (status : SyncJobStatus) (updatedApps : List AppPathDomain) :
    Job (Except String JobResult) := fun w =>
  match s.updateSyncStatus tx entry.id status w with
  | (.error e, w) => (.error e, w)
  | (.ok (), w) =>
  if status.error = "" ∧ inputTx.tx = none then
    match s.completeTransaction tx updatedApps dryRun "sync" w with
    | (.error e, w) => (.error e, w)
    | (.ok (), w) => (.ok (status, updatedApps), w)
  else (.ok (status, updatedApps), w)

/-- The end of a run: a failed run rolls back the transaction in use, writes its status
through a fresh transaction and reports no updated apps. -/
def finishSyncJob (inputTx : Transaction) (tx : Nat) (entry : SyncEntry) (dryRun : Bool)
    (status : SyncJobStatus) (applyInfo : AppApplyResponse) (updatedApps : List AppPathDomain) :
    Job (Except String JobResult) := fun w =>
  if status.error ≠ "" then
    s.inTransaction (fun freshTx =>
      persistStatus s inputTx freshTx entry dryRun { status with applyResponse := applyInfo } [])
      (rollback tx w)
  else persistStatus s inputTx tx entry dryRun { status with applyResponse := applyInfo } updatedApps w

/-- The apply response of a skipped run: the last run's apps when `Apply` reported none. -/
def skippedApplyInfo (applyInfo : AppApplyResponse) (lastRunApps : List AppPathDomain) :
    AppApplyResponse :=
  if applyInfo.filteredApps.isEmpty then { applyInfo with filteredApps := lastRunApps } else applyInfo

@[simp] theorem skippedApplyInfo_skippedApply (applyInfo : AppApplyResponse)
    (lastRunApps : List AppPathDomain) :
    (skippedApplyInfo applyInfo lastRunApps).skippedApply = applyInfo.skippedApply := by
  unfold skippedApplyInfo
  split <;> rfl

/-- A skipped run whose `Apply` reported no apps records the last run's. -/
theorem skippedApplyInfo_filteredApps {applyInfo : AppApplyResponse}
    (noApps : applyInfo.filteredApps = []) (lastRunApps : List AppPathDomain) :
    (skippedApplyInfo applyInfo lastRunApps).filteredApps = lastRunApps := by
  simp [skippedApplyInfo, noApps]

/-- The apply response after the reloads: the accumulated results are attached when a
reload failed. -/
def reloadedApplyInfo (applyInfo : AppApplyResponse) (reloadErr : Option String)
    (acc : ReloadResults) : AppApplyResponse :=
  if reloadErr.isSome then
    { applyInfo with
      reloadResults := acc.reloadResults
      approveResults := acc.approveResults
      promoteResults := acc.promoteResults }
  else applyInfo

@[simp] theorem reloadedApplyInfo_filteredApps (applyInfo : AppApplyResponse)
    (reloadErr : Option String) (acc : ReloadResults) :
    (reloadedApplyInfo applyInfo reloadErr acc).filteredApps = applyInfo.filteredApps := by
  unfold reloadedApplyInfo
  split <;> rfl

/-- The skip path, taken when `Apply` reported a skipped apply and the reload policy is
`matched`: the lookups, then the missing-app branch `onAppMissing`, or the reloads and the
end of the run. -/
def skipPath (onAppMissing : Job (Except String JobResult)) (inputTx : Transaction) (tx : Nat)
    (entry : SyncEntry) (dryRun : Bool) (repoCache : Nat) (status : SyncJobStatus)
    (applyInfo : AppApplyResponse) (updatedApps : List AppPathDomain) :
    Job (Except String JobResult) := fun w =>
  let lastRunApps := entry.status.applyResponse.filteredApps
  match lookupApps s tx lastRunApps [] w with
  | (none, w) => onAppMissing w
  | (some appMap, w) =>
  match reloadApps s tx entry repoCache appMap lastRunApps status {} w with
  | ((status, reloadErr, acc), w) =>
  finishSyncJob s inputTx tx entry dryRun status
    (reloadedApplyInfo (skippedApplyInfo applyInfo lastRunApps) reloadErr acc) updatedApps w

/-- The run after `Apply` returned `applyResult` and the clock read `now`: the skip path, or
the end of the run. -/
def afterApply (onAppMissing : Job (Except String JobResult)) (inputTx : Transaction)
    (tx : Nat) (entry : SyncEntry) (dryRun : Bool) (repoCache : Nat) (now : Time)
    (applyResult : Except String AppApplyResponse) (updatedApps : List AppPathDomain) :
    Job (Except String JobResult) := fun w =>
  match applyStatus s entry dryRun now entry.status.applyResponse.filteredApps applyResult with
  | (status, applyInfo) =>
  if applyResult.toBool ∧ applyInfo.skippedApply ∧ entry.metadata.reload = appReloadOptionMatched
  then skipPath s onAppMissing inputTx tx entry dryRun repoCache status applyInfo updatedApps w
  else finishSyncJob s inputTx tx entry dryRun status applyInfo updatedApps w

/-- The commit id a run hands to `Apply`: the last run's, when the run checks it. -/
def lastRunCommitId (entry : SyncEntry) (checkCommitHash : Bool) : String :=
  if checkCommitHash then entry.status.commitId else ""

/-- The attempt of a run, from the `Apply` call on, on transaction `tx` and cache
`repoCache`; `onAppMissing` is what the missing-app branch returns. -/
def syncJobMain (onAppMissing : Job (Except String JobResult)) (inputTx : Transaction)
    (tx : Nat) (entry : SyncEntry) (dryRun checkCommitHash : Bool) (repoCache : Nat) :
    Job (Except String JobResult) := fun w =>
  match s.apply (applyCall tx entry dryRun (lastRunCommitId entry checkCommitHash) repoCache) w with
  | ((applyResult, updatedApps), w) =>
  match s.timeNow w with
  | (now, w) =>
    afterApply s onAppMissing inputTx tx entry dryRun repoCache now applyResult updatedApps w

/-- Record the call of `runSyncJob` with its arguments in the log; `nested` marks the call
the function makes of itself. -/
def logRunSyncJob (nested : Bool) (inputTx : Transaction) (entry : SyncEntry)
    (dryRun checkCommitHash : Bool) (repoCache : Option Nat) (w : World) : World :=
  { w with log := .runSyncJob nested ⟨inputTx, entry, dryRun, checkCommitHash, repoCache⟩ :: w.log }

/-- The attempt of a run on transaction `tx` and cache `repoCache`: its missing-app branch
runs `rerun` on the cache when the run checks the commit hash, and fails otherwise. -/
def attempt (rerun : Nat → Job (Except String JobResult)) (inputTx : Transaction)
    (entry : SyncEntry) (dryRun checkCommitHash : Bool) (tx repoCache : Nat) :
    Job (Except String JobResult) :=
  syncJobMain s
    (if checkCommitHash then rerun repoCache else fun w => (.error rerunNoCommitHashError, w))
    inputTx tx entry dryRun checkCommitHash repoCache

/-- Run `body` on the caller's transaction, or on a new one that is rolled back at exit. -/
def withTransaction {α : Type} (inputTx : Transaction) (body : Nat → Job (Except String α)) :
    Job (Except String α) :=
  match inputTx.tx with
  | some tx => body tx
  | none => s.inTransaction body

/-- Run `body` on the caller's cache, or on a new one that is cleaned up at exit. -/
def withRepoCache {α : Type} (repoCache : Option Nat) (body : Nat → Job (Except String α)) :
    Job (Except String α) :=
  match repoCache with
  | some rc => body rc
  | none => s.inRepoCache body

/-- `runSyncJob`, recorded as `nested` or not, with the job the missing-app branch re-runs
given by `rerun`, applied to the cache in use. A caller that passes no transaction gets one
opened and rolled back at exit; a caller that passes no cache gets one created and cleaned up
at exit. -/
def runSyncJobWith (nested : Bool) (rerun : Nat → Job (Except String JobResult))
    (inputTx : Transaction) (entry : SyncEntry) (dryRun checkCommitHash : Bool)
    (repoCache : Option Nat) : Job (Except String JobResult) := fun w =>
  withTransaction s inputTx
    (fun tx => withRepoCache s repoCache (attempt s rerun inputTx entry dryRun checkCommitHash tx))
    (logRunSyncJob nested inputTx entry dryRun checkCommitHash repoCache w)

/-- The call `runSyncJob` makes of itself in its missing-app branch, with
`checkCommitHash = false`, on the caller's transaction and the cache in use. The missing-app
branch of that call returns `rerunNoCommitHashError`, so it calls nothing further. -/
def rerunSyncJob (inputTx : Transaction) (entry : SyncEntry) (dryRun : Bool) (repoCache : Nat) :
    Job (Except String JobResult) :=
  runSyncJobWith s true (fun _ w => (.error rerunNoCommitHashError, w))
    inputTx entry dryRun false (some repoCache)

/-- `runSyncJob`, as its callers call it: the missing-app branch re-runs the job once
(`rerunSyncJob`). -/
def runSyncJob (inputTx : Transaction) (entry : SyncEntry) (dryRun checkCommitHash : Bool)
    (repoCache : Option Nat) : Job (Except String JobResult) :=
  runSyncJobWith s false (rerunSyncJob s inputTx entry dryRun) inputTx entry dryRun
    checkCommitHash repoCache

end

end OpenRun.Sync
