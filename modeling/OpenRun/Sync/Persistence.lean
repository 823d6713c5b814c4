import OpenRun.Sync.Transition
import OpenRun.Sync.Api

/-!
# What a run leaves in the committed store

A run that fails (its status carries an error) rolls back the transaction in use and
writes its status through a fresh transaction; that transaction is never committed,
neither by the run (which completes only error-free runs) nor by its caller, which only
sees the fresh transaction's status and returns the error. So a failed run commits
nothing and returns no updated apps (`runSyncJob_failure_commits_nothing`): its failure
status is lost, the stored failure count never grows, and the scheduler's circuit breaker
never trips (`failed_runs_never_persist`).

A run handed its caller's transaction never commits (`committed_runSyncJob_of_caller`): the
caller decides, and `OpenRun.Sync.Success` says what `RunSync` and `CreateSyncEntry` commit.

A failed step is told apart from a successful one by its error text only, so an `Apply`
error whose text is empty goes down the success path: the run keeps and commits the
writes of the failed `Apply` (`empty_apply_error_commits`), and `createSyncEntry` commits
the new entry with its failure recorded and reports success
(`createSyncEntry_empty_apply_error`).
-/

set_option autoImplicit false

namespace OpenRun.Sync

open Go

/-! ## Failed runs -/

/-- A job whose failed runs commit nothing: when a status it returns carries an error, the
job added no commit to the log, and it returns no updated apps. -/
def FailureCommitsNothing (m : Job (Except String JobResult)) : Prop :=
  ∀ w status updatedApps w', m w = (.ok (status, updatedApps), w') → status.error ≠ "" →
    Adds [.run, .rerun, .apply, .getApp, .reload, .bookkeeping] w w' ∧ updatedApps = []

theorem Adds.committed_eq {ks : List Kind} {w w' : World} (h : Adds ks w w')
    (noCommit : .commit ∉ ks) : w'.db.committed = w.db.committed := by
  obtain ⟨new, -, kinds, committed⟩ := h
  exact committed fun e he hk => noCommit (hk ▸ kinds e he)

section

variable (s : Server)

theorem FailureCommitsNothing.of_error (err : String) :
    FailureCommitsNothing fun w => (.error err, w) := by
  intro w status updatedApps w' h
  cases h

theorem afterApply_failure {entry : SyncEntry} {onAppMissing : Job (Except String JobResult)}
    (hm : FailureCommitsNothing onAppMissing) (inputTx : Transaction) (tx : Nat) (dryRun : Bool)
    (repoCache : Nat) (now : Time) (applyResult : Except String AppApplyResponse)
    (updatedApps : List AppPathDomain) {w w' : World} {status : SyncJobStatus}
    {apps : List AppPathDomain}
    (h : afterApply s onAppMissing inputTx tx entry dryRun repoCache now applyResult updatedApps w =
      (.ok (status, apps), w')) (failed : status.error ≠ "") :
    Adds [.run, .rerun, .apply, .getApp, .reload, .bookkeeping] w w' ∧ apps = [] := by
  have finish : ∀ {st info apps' w₁}, finishSyncJob s inputTx tx entry dryRun st info apps' w₁ =
      (.ok (status, apps), w') →
      Adds [.run, .rerun, .apply, .getApp, .reload, .bookkeeping] w₁ w' ∧ apps = [] := fun hf => by
    obtain ⟨rfl, rfl⟩ := Prod.mk.inj (finishSyncJob_ok s hf)
    exact ⟨((adds_finishSyncJob_of_error s failed _ _ _).of_eq hf).mono (by decide),
      by simp [show _ ≠ "" from failed]⟩
  rcases afterApply_cases s onAppMissing inputTx tx entry dryRun repoCache now applyResult
    updatedApps w with hA | ⟨info, -, -, -, hA⟩ <;> rw [hA] at h
  · exact finish h
  obtain ⟨lookups, lookupKinds, outcome⟩ :=
    skipPath_cases s onAppMissing inputTx tx entry dryRun repoCache _ info updatedApps w
  have looked : Adds [.run, .rerun, .apply, .getApp, .reload, .bookkeeping] w
      { w with log := lookups ++ w.log } :=
    ⟨lookups, rfl, fun e he => by simp [lookupKinds e he], fun _ => rfl⟩
  rcases outcome with ⟨hS, -⟩ | ⟨found, -, covered, -, hS⟩ <;> rw [hS] at h
  · obtain ⟨adds, noApps⟩ := hm _ _ _ _ h failed
    exact ⟨looked.trans adds, noApps⟩
  obtain ⟨reloaded, -⟩ := reloadApps_spec s tx entry repoCache found
    entry.status.applyResponse.filteredApps
    (applyStatus s entry dryRun now entry.status.applyResponse.filteredApps (.ok info)).1 {}
    { w with log := lookups ++ w.log }
    fun a ha => by obtain ⟨app, happ, -⟩ := covered a ha; simp [happ]
  obtain ⟨adds, noApps⟩ := finish h
  exact ⟨looked.trans ((reloaded.mono (by decide)).trans adds), noApps⟩

theorem syncJobMain_failure {entry : SyncEntry} {onAppMissing : Job (Except String JobResult)}
    (hm : FailureCommitsNothing onAppMissing) (inputTx : Transaction) (tx : Nat)
    (dryRun checkCommitHash : Bool) (repoCache : Nat) :
    FailureCommitsNothing
      (syncJobMain s onAppMissing inputTx tx entry dryRun checkCommitHash repoCache) := by
  intro w status updatedApps w' h failed
  obtain ⟨now, w₂, log₂, db₂, main⟩ :=
    syncJobMain_eq s onAppMissing inputTx tx entry dryRun checkCommitHash repoCache w
  rw [main] at h
  obtain ⟨adds, noApps⟩ := afterApply_failure s hm inputTx tx dryRun repoCache now _ _ h failed
  have applied : Adds [.run, .rerun, .apply, .getApp, .reload, .bookkeeping] w w₂ :=
    ⟨[_, _], by rw [log₂]; rfl, by simp, fun _ => (congrArg Db.committed db₂ :)⟩
  exact ⟨applied.trans adds, noApps⟩

theorem attempt_failure {entry : SyncEntry} {rerun : Nat → Job (Except String JobResult)}
    (hr : ∀ rc, FailureCommitsNothing (rerun rc)) (inputTx : Transaction)
    (dryRun checkCommitHash : Bool) (tx repoCache : Nat) :
    FailureCommitsNothing (attempt s rerun inputTx entry dryRun checkCommitHash tx repoCache) := by
  apply syncJobMain_failure
  cases checkCommitHash
  · exact FailureCommitsNothing.of_error _
  · exact hr repoCache

theorem runSyncJobWith_failure {entry : SyncEntry} {nested : Bool}
    {rerun : Nat → Job (Except String JobResult)}
    (hr : ∀ rc, FailureCommitsNothing (rerun rc)) (inputTx : Transaction)
    (dryRun checkCommitHash : Bool) (repoCache : Option Nat) :
    FailureCommitsNothing
      (runSyncJobWith s nested rerun inputTx entry dryRun checkCommitHash repoCache) := by
  intro w status updatedApps w' h failed
  rcases runSyncJobWith_cases s nested rerun inputTx entry dryRun checkCommitHash repoCache w with
    ⟨e, result, -⟩ | ⟨tx, rc, w₁, -, -, pre, result, post⟩
  · simp [h] at result
  simp only [h] at result post
  obtain ⟨adds, noApps⟩ := attempt_failure s hr inputTx dryRun checkCommitHash tx rc w₁ status
    updatedApps _ (Prod.ext result.symm rfl) failed
  exact ⟨((adds_logRunSyncJob nested inputTx entry dryRun checkCommitHash repoCache w).mono
    (by decide)).trans
    ((pre.mono (by decide)).trans (adds.trans (post.mono (by decide)))), noApps⟩

end

/-- **Failed runs commit nothing.** Whatever the server, the entry, the checks and the
caller's transaction, a run that returns a status carrying an error leaves the committed
store as it was and returns no updated apps: the status it wrote is rolled back with the
fresh transaction that held it. -/
theorem runSyncJob_failure_commits_nothing (s : Server) (inputTx : Transaction)
    (entry : SyncEntry) (dryRun checkCommitHash : Bool) (repoCache : Option Nat) {w w' : World}
    {status : SyncJobStatus} {updatedApps : List AppPathDomain}
    (h : runSyncJob s inputTx entry dryRun checkCommitHash repoCache w =
      (.ok (status, updatedApps), w')) (failed : status.error ≠ "") :
    w'.db.committed = w.db.committed ∧ updatedApps = [] := by
  obtain ⟨adds, noApps⟩ :=
    runSyncJobWith_failure s (fun _ => runSyncJobWith_failure s (fun _ => .of_error _) _ _ _ _)
      inputTx dryRun checkCommitHash repoCache w status updatedApps w' h failed
  exact ⟨adds.committed_eq (by decide), noApps⟩

theorem runSyncJob_failure_commits_nothing_boom :
    (runSyncJob (demoServer (.error "boom")) ⟨none⟩ demoEntry false true none demoWorld =
      (.ok (boomStatus, []), (runSyncJob (demoServer (.error "boom")) ⟨none⟩ demoEntry false true
        none demoWorld).2) ∧ boomStatus.error ≠ "") ∧
    (runSyncJob (demoServer (.error "boom")) ⟨none⟩ demoEntry false true none demoWorld).2.db.committed =
      demoWorld.db.committed ∧ ([] : List AppPathDomain) = [] :=
  ⟨⟨rfl, by decide⟩, runSyncJob_failure_commits_nothing (demoServer (.error "boom")) ⟨none⟩ demoEntry
    false true none rfl (by decide)⟩

/-! ## Runs on the caller's transaction -/

section

variable (s : Server)

theorem adds_runSyncJob_of_caller {inputTx : Transaction} (caller : inputTx.tx ≠ none)
    (entry : SyncEntry) (dryRun checkCommitHash : Bool) (repoCache : Option Nat) (w : World) :
    Adds (.run :: callerKinds) w (runSyncJob s inputTx entry dryRun checkCommitHash repoCache w).2 := by
  have phases : ∀ k ∈ callerKinds, k ∈ Kind.run :: callerKinds := fun _ => List.mem_cons_of_mem _
  have finish : ∀ tx status applyInfo apps w, Adds (.run :: callerKinds) w
      (finishSyncJob s inputTx tx entry dryRun status applyInfo apps w).2 :=
    fun tx _ _ _ w => (adds_finishSyncJob_of_caller s caller tx entry dryRun _ _ _ w).mono (by decide)
  have marker : Adds (.run :: callerKinds) w
      (logRunSyncJob false inputTx entry dryRun checkCommitHash repoCache w) :=
    Adds.single rfl (.head _) fun _ => rfl
  exact marker.trans (adds_runSyncJobWith s phases finish (adds_rerunSyncJob s phases finish)
    checkCommitHash repoCache w)

/-- A run on its caller's transaction never commits: completing it is the caller's. -/
theorem committed_runSyncJob_of_caller {inputTx : Transaction} (caller : inputTx.tx ≠ none)
    (entry : SyncEntry) (dryRun checkCommitHash : Bool) (repoCache : Option Nat) (w : World) :
    (runSyncJob s inputTx entry dryRun checkCommitHash repoCache w).2.db.committed =
      w.db.committed :=
  (adds_runSyncJob_of_caller s caller entry dryRun checkCommitHash repoCache w).committed_eq
    (by decide)

end

/-! ## Runs on concrete stores -/

/-- A failed run of `demoEntry` from the scheduler returns its failure status, but the
committed store keeps the entry's old status; so four ticks of a scheduler whose maximum
is three failures run the entry four times, and its committed failure count stays `0`. -/
theorem failed_runs_never_persist :
    (runSyncJob (demoServer (.error "boom")) ⟨none⟩ demoEntry false true (some 0) demoWorld).1 =
      .ok (boomStatus, []) ∧
    ((runSyncJob (demoServer (.error "boom")) ⟨none⟩ demoEntry false true (some 0)
      demoWorld).2.db.committed.find? demoEntry.id).map (fun e => e.status) = some demoEntry.status ∧
    demoConfig.maxSyncFailureCount = 3 ∧
    (topLevelRuns (syncRunner (demoServer (.error "boom")) 4 demoWorld).log).map
      (fun run => run.entry.id) = List.replicate 4 demoEntry.id ∧
    ((syncRunner (demoServer (.error "boom")) 4 demoWorld).db.committed.find? demoEntry.id).map
      (fun e => e.status.failureCount) = some 0 :=
  ⟨rfl, rfl, rfl, rfl, rfl⟩

/-- An app the failing `Apply` of `emptyErrorServer` reports updated. -/
def demoApp : AppPathDomain := { path := "/app", domain := "" }

/-- A server whose `Apply` makes one write, reports `demoApp` updated and fails with an
error whose text is empty. -/
def emptyErrorServer : Server :=
  { demoServer (.error "") with applyOutcome := fun _ _ => ⟨["apply"], [demoApp], .error ""⟩ }

/-- A run whose `Apply` fails with an empty error text is taken for a successful one: the
scheduler's run commits `Apply`'s write and returns its updated apps, and so does the
transaction of `RunSync`. -/
theorem empty_apply_error_commits :
    (runSyncJob emptyErrorServer ⟨none⟩ demoEntry false true (some 0) demoWorld).1 =
      .ok ({ boomStatus with error := "" }, [demoApp]) ∧
    (runSyncJob emptyErrorServer ⟨none⟩ demoEntry false true (some 0) demoWorld).2.db.committed.apps =
      ["apply"] ∧
    (runSync emptyErrorServer demoEntry.id false demoWorld).1 = .ok { boomStatus with error := "" } ∧
    (runSync emptyErrorServer demoEntry.id false demoWorld).2.db.committed.apps = ["apply"] :=
  ⟨rfl, rfl, rfl, rfl⟩

/-- `CreateSyncEntry` whose initial run's `Apply` fails with an empty error text reports
success, and commits the new entry with its failure recorded and `Apply`'s write. -/
theorem createSyncEntry_empty_apply_error :
    (createSyncEntry (demoServer (.error "")) "admin" "github.com/org/apps" true false
      { scheduleFrequency := 5 } { db := { committed := {} } }).1.toBool = true ∧
    ((createSyncEntry (demoServer (.error "")) "admin" "github.com/org/apps" true false
      { scheduleFrequency := 5 } { db := { committed := {} } }).2.db.committed.find? "cl_syn_r").map
      (fun e => (e.status.failureCount, e.status.state)) = some (1, "Failing") ∧
    (createSyncEntry (demoServer (.error "")) "admin" "github.com/org/apps" true false
      { scheduleFrequency := 5 } { db := { committed := {} } }).2.db.committed.apps = ["apply"] :=
  ⟨rfl, by decide, rfl⟩

end OpenRun.Sync
