import OpenRun.Sync.Persistence

/-!
# Runs on an unchanged upstream head

The spec's contract of `Apply` (`ApplyContract`): while the head of the entry's apply
repository is `head`, a call skips exactly when it hands a non-empty commit id equal to
`head`, and a call that does not skip returns `head`. A run hands `Apply` the commit id of
the entry's last status and keeps the commit id `Apply` returns, skipped or not; the contract
leaves the commit id of a skipped result open, so a skipped run may store a commit id that
the next run cannot skip on: three `RunSync` calls in a row report `SkippedApply` false,
true, false (`skipped_apply_forgets_commit_id`).

When a skipped `Apply` also returns `head` (`ReturnsHead`), and the lookups and reloads of
the runs succeed, every successful run returns commit id `head` and `FailureCount = 0`, and
skips exactly when the entry's stored commit id is `head` (`runSyncJob_of_contract`). Over a
chain of runs, each on the status the run before returned (`SuccessfulRuns`), every run
after the first skips (`consecutive_runs_skip`).
-/

set_option autoImplicit false

namespace OpenRun.Sync

open Go

/-- The spec's contract of `Apply` while the upstream head of the entry's apply repository
is `head`: a call skips exactly when it hands a non-empty commit id equal to `head`, and a
call that does not skip returns `head` as its commit id. -/
def ApplyContract (s : Server) (head : String) : Prop :=
  ∀ log call info, (s.applyOutcome log call).result = .ok info →
    info.skippedApply = (call.lastRunCommitId != "" && call.lastRunCommitId == head) ∧
    (info.skippedApply = false → info.commitId = head)

/-- An `Apply` whose every response, skipped or not, carries the commit id `head`. -/
def ReturnsHead (s : Server) (head : String) : Prop :=
  ∀ log call info, (s.applyOutcome log call).result = .ok info → info.commitId = head

/-- A chain of runs of an entry that all return a status: each run after the first runs the
entry with the status the run before returned, which is what a successful run stores. -/
inductive SuccessfulRuns (s : Server) : SyncEntry → List SyncJobStatus → Prop
  | nil (entry : SyncEntry) : SuccessfulRuns s entry []
  | cons {entry : SyncEntry} {status : SyncJobStatus} {statuses : List SyncJobStatus}
      (inputTx : Transaction) (repoCache : Option Nat) (w w' : World) (apps : List AppPathDomain)
      (run : runSyncJob s inputTx entry false true repoCache w = (.ok (status, apps), w'))
      (next : SuccessfulRuns s { entry with status } statuses) :
      SuccessfulRuns s entry (status :: statuses)

section

variable (s : Server)

theorem lookupApps_of_ok (lookupsOk : ∀ log a, ∃ app, s.getAppOutcome log a = .ok app) (tx : Nat) :
    ∀ (apps : List AppPathDomain) (appMap : List (AppPathDomain × AppEntry)) (w : World),
    ∃ found, (lookupApps s tx apps appMap w).1 = some found
  | [], appMap, _ => ⟨appMap, rfl⟩
  | a :: rest, appMap, w => by
    obtain ⟨app, happ⟩ := lookupsOk w.log a
    simp only [lookupApps, Server.getAppTx, happ]
    exact lookupApps_of_ok lookupsOk tx rest _ _

theorem reloadApps_of_ok (reloadsOk : ∀ log call, ∃ r, (s.reloadOutcome log call).result = .ok r)
    (tx : Nat) (entry : SyncEntry) (repoCache : Nat) (appMap : List (AppPathDomain × AppEntry)) :
    ∀ (apps : List AppPathDomain) (status : SyncJobStatus) (acc : ReloadResults) (w : World),
    (reloadApps s tx entry repoCache appMap apps status acc w).1.1 = status ∧
      (reloadApps s tx entry repoCache appMap apps status acc w).1.2.1 = none
  | [], _, _, _ => ⟨rfl, rfl⟩
  | a :: rest, status, acc, w => by
    simp only [reloadApps]
    rcases appMap.lookup a with _ | app
    · exact ⟨rfl, rfl⟩
    obtain ⟨r, hr⟩ := reloadsOk w.log (reloadCall tx entry app repoCache)
    simp only [Server.reloadApp, hr]
    exact reloadApps_of_ok reloadsOk tx entry repoCache appMap rest status _ _

/-- One successful run, under the contract with an `Apply` that returns `head` and with
lookups and reloads that succeed: the status carries `head` and no failure, and the run
skipped exactly when the entry's stored commit id was `head`. -/
theorem runSyncJob_of_contract {head : String} (contract : ApplyContract s head)
    (returnsHead : ReturnsHead s head) (nonEmpty : head ≠ "")
    (applyOk : ∀ log call, ∃ info, (s.applyOutcome log call).result = .ok info)
    (lookupsOk : ∀ log a, ∃ app, s.getAppOutcome log a = .ok app)
    (reloadsOk : ∀ log call, ∃ r, (s.reloadOutcome log call).result = .ok r)
    {inputTx : Transaction} {entry : SyncEntry} {dryRun : Bool} {repoCache : Option Nat}
    {w w' : World} {status : SyncJobStatus} {apps : List AppPathDomain}
    (h : runSyncJob s inputTx entry dryRun true repoCache w = (.ok (status, apps), w')) :
    status.commitId = head ∧ status.failureCount = 0 ∧
      status.applyResponse.skippedApply = (entry.status.commitId == head) := by
  rw [runSyncJob] at h
  rcases runSyncJobWith_cases s false (rerunSyncJob s inputTx entry dryRun) inputTx
    entry dryRun true repoCache w with ⟨e, failed, -⟩ | ⟨tx, rc, w₁, -, -, -, result, -⟩
  · simp [h] at failed
  rw [h] at result
  obtain ⟨now, w₂, -, -, main⟩ := syncJobMain_eq s (rerunSyncJob s inputTx entry dryRun rc)
    inputTx tx entry dryRun true rc w₁
  obtain ⟨info, hinfo⟩ := applyOk w₁.log (applyCall tx entry dryRun (lastRunCommitId entry true) rc)
  have skipEq : info.skippedApply = (entry.status.commitId == head) := by
    rw [(contract _ _ info hinfo).1]
    by_cases same : entry.status.commitId = head
    · simp [applyCall, lastRunCommitId, same, nonEmpty]
    · simp [applyCall, lastRunCommitId, same]
  have commitEq : info.commitId = head := returnsHead _ _ info hinfo
  simp only [attempt, if_true, main, hinfo] at result
  rcases afterApply_cases s _ inputTx tx entry dryRun rc now (.ok info) _ w₂ with
    hA | ⟨_, ⟨⟩, -, -, hA⟩
  · rw [hA] at result
    obtain ⟨rfl, -⟩ := Prod.mk.inj (finishSyncJob_ok s (Prod.ext result.symm rfl))
    simp [applyStatus, commitEq, skipEq]
  rw [hA] at result
  obtain ⟨found, hfound⟩ := lookupApps_of_ok s lookupsOk tx entry.status.applyResponse.filteredApps [] w₂
  rw [skipPath_of_some s (Prod.ext hfound rfl)] at result
  obtain ⟨same, noErr⟩ := reloadApps_of_ok s reloadsOk tx entry rc found
    entry.status.applyResponse.filteredApps
    (applyStatus s entry dryRun now entry.status.applyResponse.filteredApps (.ok info)).1 {}
    (lookupApps s tx entry.status.applyResponse.filteredApps [] w₂).2
  simp only [same, noErr] at result
  obtain ⟨rfl, -⟩ := Prod.mk.inj (finishSyncJob_ok s (Prod.ext result.symm rfl))
  simp [applyStatus, reloadedApplyInfo, commitEq, skipEq]

/-- Over a chain of successful runs, every status carries `head` and no failure, and each run
skipped exactly when the status before it carried `head`. -/
theorem successfulRuns_spec {head : String} (contract : ApplyContract s head)
    (returnsHead : ReturnsHead s head) (nonEmpty : head ≠ "")
    (applyOk : ∀ log call, ∃ info, (s.applyOutcome log call).result = .ok info)
    (lookupsOk : ∀ log a, ∃ app, s.getAppOutcome log a = .ok app)
    (reloadsOk : ∀ log call, ∃ r, (s.reloadOutcome log call).result = .ok r)
    {entry : SyncEntry} {statuses : List SyncJobStatus} (runs : SuccessfulRuns s entry statuses) :
    (∀ status ∈ statuses, status.commitId = head ∧ status.failureCount = 0) ∧
    List.Chain (fun prev next => next.applyResponse.skippedApply = (prev.commitId == head))
      entry.status statuses := by
  induction runs with
  | nil => exact ⟨by simp, .nil⟩
  | cons _ _ _ _ _ run _ ih =>
    obtain ⟨commit, noFailure, skipped⟩ :=
      runSyncJob_of_contract s contract returnsHead nonEmpty applyOk lookupsOk reloadsOk run
    exact ⟨List.forall_mem_cons.2 ⟨⟨commit, noFailure⟩, ih.1⟩, .cons skipped ih.2⟩

end

theorem skipped_of_chain {head : String} :
    ∀ {prev : SyncJobStatus} {rest : List SyncJobStatus},
    List.Chain (fun prev next => next.applyResponse.skippedApply = (prev.commitId == head)) prev rest →
    (∀ status ∈ prev :: rest, status.commitId = head) →
    ∀ status ∈ rest, status.applyResponse.skippedApply = true
  | _, [], _, _ => by simp
  | _, _ :: _, .cons skipped chain, heads => by
    rw [List.forall_mem_cons] at heads ⊢
    exact ⟨by simp [skipped, heads.1], skipped_of_chain chain heads.2⟩

/-- **Idempotence, amended.** With an `Apply` that follows the contract for a non-empty head
`head` and returns `head` also when it skips, and with `Apply`, the lookups and the reloads
succeeding: over any chain of successful runs of an entry, each run on the status the run
before returned, every status carries commit id `head` and `FailureCount = 0`, so every run
after the first hands `Apply` the commit id `head`, and every run after the first reports a
skipped apply. -/
theorem consecutive_runs_skip (s : Server) {head : String} (contract : ApplyContract s head)
    (returnsHead : ReturnsHead s head) (nonEmpty : head ≠ "")
    (applyOk : ∀ log call, ∃ info, (s.applyOutcome log call).result = .ok info)
    (lookupsOk : ∀ log a, ∃ app, s.getAppOutcome log a = .ok app)
    (reloadsOk : ∀ log call, ∃ r, (s.reloadOutcome log call).result = .ok r)
    {entry : SyncEntry} {statuses : List SyncJobStatus} (runs : SuccessfulRuns s entry statuses) :
    (∀ status ∈ statuses, status.commitId = head ∧ status.failureCount = 0) ∧
    ∀ status ∈ statuses.tail, status.applyResponse.skippedApply = true := by
  obtain ⟨heads, chain⟩ :=
    successfulRuns_spec s contract returnsHead nonEmpty applyOk lookupsOk reloadsOk runs
  refine ⟨heads, ?_⟩
  rcases statuses with _ | ⟨first, rest⟩
  · simp
  exact skipped_of_chain (List.chain_cons.1 chain).2 fun status h => (heads status h).1

/-- A server whose `Apply` follows the contract for the head `"h1"`, and returns
`skippedCommitId` as the commit id of a skipped result. -/
def contractServer (skippedCommitId : String) : Server :=
  { demoServer (.ok {}) with
    applyOutcome := fun _ call =>
      ⟨[], [], .ok (if call.lastRunCommitId != "" && call.lastRunCommitId == "h1"
        then { skippedApply := true, commitId := skippedCommitId } else { commitId := "h1" })⟩ }

theorem contractServer_contract (skippedCommitId : String) :
    ApplyContract (contractServer skippedCommitId) "h1" := by
  intro log call info h
  simp only [contractServer] at h
  split at h <;> cases h <;> simp_all

/-- Three `RunSync` calls of `demoEntry` on a server whose `Apply` follows the contract for
the head `"h1"` but returns an empty commit id when it skips: the second call skips and
stores the empty commit id, so the third hands `Apply` no commit id and does not skip. -/
theorem skipped_apply_forgets_commit_id :
    ApplyContract (contractServer "") "h1" ∧
    ((runSync (contractServer "") demoEntry.id false demoWorld).1.map fun status =>
      (status.applyResponse.skippedApply, status.commitId)) = .ok (false, "h1") ∧
    ((runSync (contractServer "") demoEntry.id false
      (runSync (contractServer "") demoEntry.id false demoWorld).2).1.map fun status =>
      (status.applyResponse.skippedApply, status.commitId)) = .ok (true, "") ∧
    ((runSync (contractServer "") demoEntry.id false
      (runSync (contractServer "") demoEntry.id false
        (runSync (contractServer "") demoEntry.id false demoWorld).2).2).1.map fun status =>
      (status.applyResponse.skippedApply, status.commitId)) = .ok (false, "h1") :=
  ⟨contractServer_contract "", rfl, rfl, rfl⟩

theorem contractServer_returnsHead : ReturnsHead (contractServer "h1") "h1" := by
  intro log call info h
  simp only [contractServer] at h
  split at h <;> cases h <;> rfl

/-- The status a successful run on `contractServer "h1"` returns at second 1000. -/
def headStatus (skipped : Bool) : SyncJobStatus :=
  { lastExecutionTime := ⟨1000#64, 0⟩, isApply := true, state := "Enabled", commitId := "h1"
    applyResponse := { commitId := "h1", skippedApply := skipped } }

theorem consecutive_runs_skip_h1 :
    (ApplyContract (contractServer "h1") "h1" ∧ ReturnsHead (contractServer "h1") "h1" ∧
      "h1" ≠ "" ∧
      (∀ log call, ∃ info, ((contractServer "h1").applyOutcome log call).result = .ok info) ∧
      (∀ log a, ∃ app, (contractServer "h1").getAppOutcome log a = .ok app) ∧
      (∀ log call, ∃ r, ((contractServer "h1").reloadOutcome log call).result = .ok r) ∧
      SuccessfulRuns (contractServer "h1") demoEntry [headStatus false, headStatus true]) ∧
    (∀ status ∈ [headStatus false, headStatus true],
      status.commitId = "h1" ∧ status.failureCount = 0) ∧
    ∀ status ∈ [headStatus false, headStatus true].tail, status.applyResponse.skippedApply = true :=
  have runs : SuccessfulRuns (contractServer "h1") demoEntry [headStatus false, headStatus true] :=
    .cons ⟨none⟩ none demoWorld _ [] rfl (.cons ⟨none⟩ none demoWorld _ [] rfl (.nil _))
  ⟨⟨contractServer_contract "h1", contractServer_returnsHead, by decide, fun _ _ => ⟨_, rfl⟩,
      fun _ _ => ⟨_, rfl⟩, fun _ _ => ⟨_, rfl⟩, runs⟩,
    consecutive_runs_skip (contractServer "h1") (contractServer_contract "h1")
      contractServer_returnsHead (by decide) (fun _ _ => ⟨_, rfl⟩) (fun _ _ => ⟨_, rfl⟩)
      (fun _ _ => ⟨_, rfl⟩) runs⟩

end OpenRun.Sync
