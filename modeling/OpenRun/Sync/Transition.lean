import OpenRun.Sync.Phases

/-!
# The status transition of a run

The status a run returns is decided by the last `Apply` it made (its own, or its re-run's)
and by the `ReloadApp` calls after it: when all of these succeeded, `FailureCount` is `0`,
the state `"Enabled"` and the commit id the one `Apply` returned; when one failed,
`FailureCount` is one more than the entry's and the state is `"Disabled"` once that reaches
the configured maximum, `"Failing"` before. The failure of `Apply` and the failure of a
reload give the same transition (`Transition`).

`StatusFollowsApply` says this of every status a job returns, with respect to the events
the job added. It holds of the end of a run whatever `onAppMissing` does
(`afterApply_follows`), is kept by the wrappers of a run, and so holds of `runSyncJob`
(`runSyncJob_status`).
-/

set_option autoImplicit false

namespace OpenRun.Sync

open Go

/-- The status transition of a run, from the outcome of its last `Apply` and of the
`ReloadApp` calls made after it, for an entry whose failure count was `failureCount`. -/
def Transition (config : SystemConfig) (failureCount : GoInt)
    (applyResult : Except String AppApplyResponse) (reloads : List (Except String AppReloadResult))
    (status : SyncJobStatus) : Prop :=
  (∀ info, applyResult = .ok info → (∀ r ∈ reloads, r.toBool) →
    status.failureCount = 0 ∧ status.state = "Enabled" ∧ status.commitId = info.commitId) ∧
  ((applyResult.toBool = false ∨ ∃ r ∈ reloads, r.toBool = false) →
    status.failureCount = failureCount + 1 ∧
    status.state = if config.maxSyncFailureCount.sle (failureCount + 1) then "Disabled" else "Failing")

/-- Every status `m` returns follows `Transition` from the last `Apply` among the events `m`
added and the reloads after it. -/
def StatusFollowsApply (s : Server) (entry : SyncEntry) (m : Job (Except String JobResult)) :
    Prop :=
  ∀ w status updatedApps w', m w = (.ok (status, updatedApps), w') →
    ∃ new applyResult reloads, w'.log = new ++ w.log ∧
      lastApply new = some (applyResult, reloads) ∧
      Transition s.config entry.status.failureCount applyResult reloads status

section

variable (s : Server)

/-- The transition does not look at the apply response a status carries. -/
theorem transition_applyResponse {config : SystemConfig} {failureCount : GoInt}
    {applyResult : Except String AppApplyResponse} {reloads : List (Except String AppReloadResult)}
    {status : SyncJobStatus} {applyResponse : AppApplyResponse} :
    Transition config failureCount applyResult reloads { status with applyResponse } ↔
      Transition config failureCount applyResult reloads status :=
  Iff.rfl

theorem transition_applyStatus (entry : SyncEntry) (dryRun : Bool) (now : Time)
    (lastRunApps : List AppPathDomain) (applyResult : Except String AppApplyResponse) :
    Transition s.config entry.status.failureCount applyResult []
      (applyStatus s entry dryRun now lastRunApps applyResult).1 := by
  cases applyResult with
  | error err => exact ⟨fun _ h => (nomatch h), fun _ => ⟨rfl, rfl⟩⟩
  | ok info =>
    refine ⟨fun _ h _ => ?_, fun h => ?_⟩
    · cases h; exact ⟨rfl, rfl, rfl⟩
    · rcases h with h | ⟨_, h, _⟩ <;> exact nomatch h

theorem transition_failedStatus (entry : SyncEntry) (status : SyncJobStatus) (err : String)
    (info : AppApplyResponse) (reloads : List (Except String AppReloadResult))
    (failed : ∃ r ∈ reloads, r.toBool = false) :
    Transition s.config entry.status.failureCount (.ok info) reloads (failedStatus s entry status err) := by
  refine ⟨fun _ _ allOk => ?_, fun _ => ⟨rfl, rfl⟩⟩
  obtain ⟨r, hr, hfalse⟩ := failed
  simp [allOk r hr] at hfalse

theorem StatusFollowsApply.of_error {entry : SyncEntry} (err : String) :
    StatusFollowsApply s entry fun w => (.error err, w) := by
  intro w status updatedApps w' h
  cases h

/-- The end of a run, after `Apply` returned `applyResult`: the missing-app branch returns
what `onAppMissing` returns; otherwise the status is the one `applyStatus` built, or the
one the reload loop left. -/
theorem afterApply_follows {entry : SyncEntry} {onAppMissing : Job (Except String JobResult)}
    (hm : StatusFollowsApply s entry onAppMissing) (inputTx : Transaction) (tx : Nat)
    (dryRun : Bool) (repoCache : Nat) (now : Time) (call : ApplyCall)
    (applyResult : Except String AppApplyResponse) (updatedApps : List AppPathDomain)
    {w w₂ w' : World} {status : SyncJobStatus} {apps : List AppPathDomain}
    (log₂ : w₂.log = .now now :: .apply call applyResult :: w.log)
    (h : afterApply s onAppMissing inputTx tx entry dryRun repoCache now applyResult updatedApps w₂ =
      (.ok (status, apps), w')) :
    ∃ new applyResult reloads, w'.log = new ++ w.log ∧
      lastApply new = some (applyResult, reloads) ∧
      Transition s.config entry.status.failureCount applyResult reloads status := by
  rcases afterApply_cases s onAppMissing inputTx tx entry dryRun repoCache now applyResult
    updatedApps w₂ with hA | ⟨info, rfl, -, -, hA⟩ <;> rw [hA] at h
  · obtain ⟨newF, logF, kindsF, -⟩ := (adds_finishSyncJob s inputTx tx entry dryRun _ _ _ w₂).of_eq h
    obtain ⟨rfl, -⟩ := Prod.mk.inj (finishSyncJob_ok s h)
    refine ⟨newF ++ [.now now, .apply call applyResult], applyResult, [], by simp [logF, log₂], ?_,
      transition_applyStatus s entry dryRun now _ applyResult⟩
    rw [lastApply_append_of_kinds (by decide) (by decide) kindsF]
    rfl
  obtain ⟨lookups, lookupKinds, ⟨hS, -⟩ | ⟨found, -, covered, -, hS⟩⟩ :=
    skipPath_cases s onAppMissing inputTx tx entry dryRun repoCache _ info updatedApps w₂ <;>
    rw [hS] at h
  · obtain ⟨newM, a, rs, logM, lastM, transition⟩ := hm _ _ _ _ h
    refine ⟨newM ++ lookups ++ [.now now, .apply call (.ok info)], a, rs,
      by simp [logM, log₂], ?_, transition⟩
    rw [List.append_assoc, lastApply_append_of_isSome (by simp [lastM]), lastM]
  obtain ⟨-, rs, logR, -, -, outcome⟩ := reloadApps_spec s tx entry repoCache found
    entry.status.applyResponse.filteredApps
    (applyStatus s entry dryRun now entry.status.applyResponse.filteredApps (.ok info)).1 {}
    { w₂ with log := lookups ++ w₂.log }
    fun a ha => by obtain ⟨app, happ, -⟩ := covered a ha; simp [happ]
  obtain ⟨newF, logF, kindsF, -⟩ := (adds_finishSyncJob s inputTx tx entry dryRun _ _ _ _).of_eq h
  obtain ⟨rfl, -⟩ := Prod.mk.inj (finishSyncJob_ok s h)
  have lookedUp : ∀ e ∈ lookups, e.kind ∈ [Kind.getApp] := fun e he => by simp [lookupKinds e he]
  refine ⟨newF ++ (rs.map fun p => Event.reloadApp p.1 p.2).reverse ++ lookups ++
    [.now now, .apply call (.ok info)], .ok info, rs.map Prod.snd, by rw [logF, logR]; simp [log₂], ?_, ?_⟩
  · rw [List.append_assoc, List.append_assoc, lastApply_append_of_kinds (by decide) (by decide) kindsF,
      lastApply_append (fun e he => by
        obtain ⟨_, -, rfl⟩ := List.mem_map.mp (List.mem_reverse.mp he); nofun),
      reloadsOf_reloadEvents, lastApply_append_of_kinds (by decide) (by decide) lookedUp]
    rfl
  rw [transition_applyResponse]
  rcases outcome with ⟨-, allOk, same, -⟩ | ⟨err, -, lastErr, failed, -⟩
  · rw [same]
    refine ⟨fun _ hinfo _ => ?_, fun hfail => ?_⟩
    · cases hinfo
      exact ⟨rfl, rfl, rfl⟩
    · rcases hfail with hfail | ⟨r, hr, hfalse⟩
      · cases hfail
      · obtain ⟨p, hp, rfl⟩ := List.mem_map.mp hr
        simp [allOk p hp] at hfalse
  · rw [failed]
    obtain ⟨p, hp, hlast⟩ := Option.map_eq_some'.mp lastErr
    exact transition_failedStatus s entry _ err info _
      ⟨p.2, List.mem_map_of_mem _ (List.mem_of_mem_getLast? hp), by simp [hlast, Except.toBool]⟩

theorem syncJobMain_follows {entry : SyncEntry} {onAppMissing : Job (Except String JobResult)}
    (hm : StatusFollowsApply s entry onAppMissing) (inputTx : Transaction) (tx : Nat)
    (dryRun checkCommitHash : Bool) (repoCache : Nat) :
    StatusFollowsApply s entry
      (syncJobMain s onAppMissing inputTx tx entry dryRun checkCommitHash repoCache) := by
  intro w status updatedApps w' h
  obtain ⟨now, w₂, log₂, -, main⟩ :=
    syncJobMain_eq s onAppMissing inputTx tx entry dryRun checkCommitHash repoCache w
  rw [main] at h
  exact afterApply_follows s hm inputTx tx dryRun repoCache now _ _ _ log₂ h

theorem attempt_follows {entry : SyncEntry} {rerun : Nat → Job (Except String JobResult)}
    (hr : ∀ rc, StatusFollowsApply s entry (rerun rc)) (inputTx : Transaction)
    (dryRun checkCommitHash : Bool) (tx repoCache : Nat) :
    StatusFollowsApply s entry (attempt s rerun inputTx entry dryRun checkCommitHash tx repoCache) := by
  apply syncJobMain_follows
  cases checkCommitHash
  · exact StatusFollowsApply.of_error s _
  · exact hr repoCache

/-- The wrappers of a run add bookkeeping around the attempt, which leaves its last `Apply`
as the last one. -/
theorem runSyncJobWith_follows {entry : SyncEntry} {nested : Bool}
    {rerun : Nat → Job (Except String JobResult)}
    (hr : ∀ rc, StatusFollowsApply s entry (rerun rc)) (inputTx : Transaction)
    (dryRun checkCommitHash : Bool) (repoCache : Option Nat) :
    StatusFollowsApply s entry
      (runSyncJobWith s nested rerun inputTx entry dryRun checkCommitHash repoCache) := by
  intro w status updatedApps w' h
  rcases runSyncJobWith_cases s nested rerun inputTx entry dryRun checkCommitHash repoCache w with
    ⟨e, failed, -⟩ | ⟨tx, rc, w₁, -, -, pre, result, post⟩
  · simp [h] at failed
  simp only [h] at result post
  obtain ⟨newA, a, rs, logA, lastA, transition⟩ := attempt_follows s hr inputTx dryRun
    checkCommitHash tx rc w₁ status updatedApps _ (Prod.ext result.symm rfl)
  obtain ⟨newPre, logPre, -, -⟩ := pre
  obtain ⟨newPost, logPost, kindsPost, -⟩ := post
  refine ⟨newPost ++ newA ++ newPre ++
      [.runSyncJob nested ⟨inputTx, entry, dryRun, checkCommitHash, repoCache⟩], a,
    rs, by simp [logPost, logA, logPre, logRunSyncJob], ?_, transition⟩
  rw [List.append_assoc, List.append_assoc, lastApply_append_of_kinds (by decide) (by decide)
    kindsPost, lastApply_append_of_isSome (by simp [lastA]), lastA]

end

/-- **The status transition of a run.** Whatever the prior status, the threshold, the
checks and the outcomes of `Apply`, the lookups and the reloads, a status `runSyncJob`
returns follows the last `Apply` of its run (its own or its re-run's) and the `ReloadApp`
calls after it: all succeeded gives `FailureCount = 0`, `"Enabled"` and the commit id
`Apply` returned; a failure of `Apply` or of a reload gives `FailureCount + 1` and
`"Disabled"` exactly when that reaches the maximum. -/
theorem runSyncJob_status (s : Server) (inputTx : Transaction) (entry : SyncEntry)
    (dryRun checkCommitHash : Bool) (repoCache : Option Nat) {w w' : World}
    {status : SyncJobStatus} {updatedApps : List AppPathDomain}
    (h : runSyncJob s inputTx entry dryRun checkCommitHash repoCache w =
      (.ok (status, updatedApps), w')) :
    ∃ new applyResult reloads, w'.log = new ++ w.log ∧
      lastApply new = some (applyResult, reloads) ∧
      (∀ info, applyResult = .ok info → (∀ r ∈ reloads, r.toBool) →
        status.failureCount = 0 ∧ status.state = "Enabled" ∧ status.commitId = info.commitId) ∧
      ((applyResult.toBool = false ∨ ∃ r ∈ reloads, r.toBool = false) →
        status.failureCount = entry.status.failureCount + 1 ∧
        status.state = if s.config.maxSyncFailureCount.sle (entry.status.failureCount + 1)
          then "Disabled" else "Failing") :=
  runSyncJobWith_follows s (fun _ => runSyncJobWith_follows s (fun _ => .of_error s _) _ _ _ _)
    inputTx dryRun checkCommitHash repoCache w status updatedApps w' h

/-- A configuration that disables an entry after three failed runs in a row. -/
def demoConfig : SystemConfig := { maxSyncFailureCount := 3, defaultScheduleMins := 5 }

/-- A server whose store, clock, lookups and reloads always succeed, and whose `Apply`
makes one write and returns `applyResult`. -/
def demoServer (applyResult : Except String AppApplyResponse) : Server where
  config := demoConfig
  beginOutcome := fun _ => .ok ()
  commitOutcome := fun _ => .ok ()
  notifyOutcome := fun _ => .ok ()
  storeOutcome := fun _ => .ok ()
  newRepoCacheOutcome := fun _ => .ok ()
  clock := fun _ => ⟨1000#64, 0⟩
  randomOutcome := fun _ => .ok "r"
  applyOutcome := fun _ _ => ⟨["apply"], [], applyResult⟩
  getAppOutcome := fun _ app => .ok ⟨app, "main", ""⟩
  reloadOutcome := fun _ _ => ⟨[], .ok ⟨[], none, []⟩⟩

/-- A scheduled entry with a five-minute schedule that has never run. -/
def demoEntry : SyncEntry :=
  { id := "cl_syn_1", path := "github.com/org/apps", isScheduled := true, userId := "admin"
    metadata := { scheduleFrequency := 5 } }

/-- A store that holds `demoEntry`. -/
def demoWorld : World := { db := { committed := { syncs := [demoEntry] } } }

/-- The status of `demoEntry` after an `Apply` that failed with `"boom"`. -/
def boomStatus : SyncJobStatus :=
  { lastExecutionTime := ⟨1000#64, 0⟩, isApply := true, state := "Failing", error := "boom"
    failureCount := 1, applyResponse := {} }

theorem runSyncJob_status_boom :
    runSyncJob (demoServer (.error "boom")) ⟨none⟩ demoEntry false true none demoWorld =
      (.ok (boomStatus, []), (runSyncJob (demoServer (.error "boom")) ⟨none⟩ demoEntry false true
        none demoWorld).2) ∧
    ∃ new applyResult reloads,
      (runSyncJob (demoServer (.error "boom")) ⟨none⟩ demoEntry false true none demoWorld).2.log =
        new ++ demoWorld.log ∧
      lastApply new = some (applyResult, reloads) ∧
      (∀ info, applyResult = .ok info → (∀ r ∈ reloads, r.toBool) →
        boomStatus.failureCount = 0 ∧ boomStatus.state = "Enabled" ∧ boomStatus.commitId = info.commitId) ∧
      ((applyResult.toBool = false ∨ ∃ r ∈ reloads, r.toBool = false) →
        boomStatus.failureCount = demoEntry.status.failureCount + 1 ∧
        boomStatus.state = if demoConfig.maxSyncFailureCount.sle (demoEntry.status.failureCount + 1)
          then "Disabled" else "Failing") :=
  ⟨rfl, runSyncJob_status (demoServer (.error "boom")) ⟨none⟩ demoEntry false true none rfl⟩

end OpenRun.Sync
