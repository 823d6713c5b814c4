import OpenRun.Sync.Log

/-!
# The phases of a run

One lemma per phase of `runSyncJob`, which the statements about whole runs cite instead of
unfolding the phase:

* `lookupApps_spec`: the lookups only read. They stop at the first failing lookup and
  return `none`, or return a map in which every app of the list has the entry one of the
  recorded lookups returned;
* `reloadApps_spec`: one `ReloadApp` per app, in order, with the looked-up entry, stopping
  at the first failure; the accumulators gather what the successful reloads reported; the
  status is unchanged when all succeed, and otherwise carries the error, `FailureCount + 1`
  and `failureState`;
* `finishSyncJob_ok`, `adds_finishSyncJob`: the status a run returns is the one it built,
  with its apply response attached, and a failed run returns no updated apps and adds no
  commit (`adds_finishSyncJob_of_error`).
-/

set_option autoImplicit false

namespace OpenRun.Sync

open Go

section

variable (s : Server)

/-! ## Lookups -/

theorem lookupApps_spec (tx : Nat) :
    ∀ (apps : List AppPathDomain) (appMap : List (AppPathDomain × AppEntry)) (w : World),
    ∃ new, (lookupApps s tx apps appMap w).2 = { w with log := new ++ w.log } ∧
      (∀ e ∈ new, e.kind = .getApp) ∧
      (((lookupApps s tx apps appMap w).1 = none ∧
          ∃ a ∈ apps, ∃ err, Event.getAppTx tx a (.error err) ∈ new) ∨
       ∃ found, (lookupApps s tx apps appMap w).1 = some found ∧
          (∀ a err, Event.getAppTx tx a (.error err) ∉ new) ∧
          (∀ a ∈ apps, ∃ app, found.lookup a = some app ∧ Event.getAppTx tx a (.ok app) ∈ new) ∧
          ∀ a, a ∉ apps → found.lookup a = appMap.lookup a)
  | [], appMap, w => ⟨[], rfl, fun _ h => (nomatch h),
    .inr ⟨appMap, rfl, fun _ _ h => (nomatch h), fun _ h => (nomatch h), fun _ _ => rfl⟩⟩
  | a :: rest, appMap, w => by
    simp only [lookupApps, Server.getAppTx]
    rcases hr : s.getAppOutcome w.log a with err | app
    · exact ⟨[.getAppTx tx a (.error err)], rfl, by simp,
        .inl ⟨rfl, a, List.mem_cons_self _ _, err, List.mem_singleton_self _⟩⟩
    obtain ⟨new, world, kinds, outcome⟩ := lookupApps_spec tx rest ((a, app) :: appMap)
      { w with log := .getAppTx tx a (.ok app) :: w.log }
    refine ⟨new ++ [.getAppTx tx a (.ok app)], by simp [world], ?_, ?_⟩
    · simpa only [List.mem_append, List.mem_singleton, or_imp, forall_and, forall_eq,
        Event.kind_getAppTx, and_true] using kinds
    rcases outcome with ⟨missing, b, hb, err, failed⟩ | ⟨found, hfound, noFailure, covered, outside⟩
    · exact .inl ⟨missing, b, List.mem_cons_of_mem _ hb, err, by simp [failed]⟩
    refine .inr ⟨found, hfound, by simpa only [List.mem_append, List.mem_singleton,
      Event.getAppTx.injEq, reduceCtorEq, and_false, or_false] using noFailure,
      fun b hb => ?_, fun b hb => ?_⟩
    · by_cases hrest : b ∈ rest
      · obtain ⟨app', hl, hev⟩ := covered b hrest
        exact ⟨app', hl, by simp [hev]⟩
      · have hba : b = a := by simpa [hrest] using hb
        subst hba
        exact ⟨app, by simp [outside b hrest], by simp⟩
    · have hba : b ≠ a := fun h => hb (h ▸ List.mem_cons_self _ _)
      rw [outside b fun h => hb (List.mem_cons_of_mem _ h)]
      simp [List.lookup_cons, beq_false_of_ne hba]

/-! ## Reloads -/

/-- The status after a failed step: the error, one more failure, and `"Disabled"` once the
count reaches the maximum. -/
def failedStatus (entry : SyncEntry) (status : SyncJobStatus) (err : String) : SyncJobStatus :=
  { status with
    error := err
    failureCount := entry.status.failureCount + 1
    state := failureState s.config.maxSyncFailureCount (entry.status.failureCount + 1) }

theorem reloadApps_spec (tx : Nat) (entry : SyncEntry) (repoCache : Nat)
    (appMap : List (AppPathDomain × AppEntry)) :
    ∀ (apps : List AppPathDomain) (status : SyncJobStatus) (acc : ReloadResults) (w : World),
    (∀ a ∈ apps, (appMap.lookup a).isSome) →
    Adds [.reload] w (reloadApps s tx entry repoCache appMap apps status acc w).2 ∧
    ∃ rs : List (ReloadCall × Except String AppReloadResult),
      (reloadApps s tx entry repoCache appMap apps status acc w).2.log =
        (rs.map fun p => Event.reloadApp p.1 p.2).reverse ++ w.log ∧
      List.Forall₂ (fun a p => ∃ app, appMap.lookup a = some app ∧
        p.1 = reloadCall tx entry app repoCache) (apps.take rs.length) rs ∧
      (reloadApps s tx entry repoCache appMap apps status acc w).1.2.2 =
        (rs.filterMap fun p => p.2.toOption).foldl ReloadResults.add acc ∧
      ((rs.length = apps.length ∧ (∀ p ∈ rs, p.2.toBool) ∧
          (reloadApps s tx entry repoCache appMap apps status acc w).1.1 = status ∧
          (reloadApps s tx entry repoCache appMap apps status acc w).1.2.1 = none) ∨
       ∃ err, (∀ p ∈ rs.dropLast, p.2.toBool) ∧ rs.getLast?.map Prod.snd = some (.error err) ∧
          (reloadApps s tx entry repoCache appMap apps status acc w).1.1 =
            failedStatus s entry status err ∧
          (reloadApps s tx entry repoCache appMap apps status acc w).1.2.1 = some err)
  | [], status, acc, w, _ =>
    ⟨Adds.refl w, [], rfl, .nil, rfl, .inl ⟨rfl, by simp, rfl, rfl⟩⟩
  | a :: rest, status, acc, w, covered => by
    obtain ⟨app, happ⟩ := Option.isSome_iff_exists.mp (covered a (List.mem_cons_self _ _))
    have first := s.adds_reloadApp (reloadCall tx entry app repoCache) w
    simp only [reloadApps, happ, Server.reloadApp] at first ⊢
    rcases hr : (s.reloadOutcome w.log (reloadCall tx entry app repoCache)).result with err | v
    · simp only [hr] at first ⊢
      exact ⟨first, [(reloadCall tx entry app repoCache, .error err)], rfl,
        .cons ⟨app, happ, rfl⟩ .nil, rfl, .inr ⟨err, by simp, rfl, rfl, rfl⟩⟩
    simp only [hr] at first ⊢
    obtain ⟨adds, rs, log, calls, acc', outcome⟩ :=
      reloadApps_spec tx entry repoCache appMap rest status (acc.add v) _
        fun b hb => covered b (List.mem_cons_of_mem _ hb)
    refine ⟨first.trans adds, (reloadCall tx entry app repoCache, .ok v) :: rs,
      by simp [log], .cons ⟨app, happ, rfl⟩ calls, acc', ?_⟩
    rcases outcome with ⟨length, allOk, same, noErr⟩ | ⟨err, okBefore, lastErr, failed, someErr⟩
    · exact .inl ⟨by simp [length], List.forall_mem_cons.mpr ⟨rfl, allOk⟩, same, noErr⟩
    · rcases rs with _ | ⟨r, rs⟩
      · simp at lastErr
      refine .inr ⟨err, ?_, by simpa only [List.getLast?_cons_cons] using lastErr, failed, someErr⟩
      rw [List.dropLast_cons₂]
      exact List.forall_mem_cons.mpr ⟨rfl, okBefore⟩

/-! ## The end of a run -/

theorem persistStatus_ok {inputTx : Transaction} {tx : Nat} {entry : SyncEntry} {dryRun : Bool}
    {status : SyncJobStatus} {updatedApps : List AppPathDomain} {w w' : World} {r : JobResult}
    (h : persistStatus s inputTx tx entry dryRun status updatedApps w = (.ok r, w')) :
    r = (status, updatedApps) := by
  simp only [persistStatus] at h
  split at h
  · cases h
  split at h
  · split at h
    · cases h
    · cases h; rfl
  · cases h; rfl

theorem adds_persistStatus (inputTx : Transaction) (tx : Nat) (entry : SyncEntry) (dryRun : Bool)
    (status : SyncJobStatus) (updatedApps : List AppPathDomain) (w : World) :
    Adds [.bookkeeping, .commit] w (persistStatus s inputTx tx entry dryRun status updatedApps w).2 := by
  have update : Adds [.bookkeeping, .commit] w (s.updateSyncStatus tx entry.id status w).2 :=
    (s.adds_updateSyncStatus tx entry.id status w).mono (by simp)
  simp only [persistStatus]
  split
  · next h => simpa [h] using update
  next w₁ h =>
  have update : Adds [.bookkeeping, .commit] w w₁ := by simpa [h] using update
  split
  · have complete : Adds [.bookkeeping, .commit] w₁
        (s.completeTransaction tx updatedApps dryRun "sync" w₁).2 :=
      (s.adds_completeTransaction tx updatedApps dryRun "sync" w₁).mono (by simp)
    split <;> next h' => exact update.trans (by simpa [h'] using complete)
  · exact update

/-- A status write that does not complete the transaction adds no commit: the run failed,
or the transaction is its caller's. -/
theorem adds_persistStatus_of_keep {inputTx : Transaction} {tx : Nat} {entry : SyncEntry}
    {dryRun : Bool} {status : SyncJobStatus} (keep : ¬(status.error = "" ∧ inputTx.tx = none))
    (updatedApps : List AppPathDomain) (w : World) :
    Adds [.bookkeeping] w (persistStatus s inputTx tx entry dryRun status updatedApps w).2 := by
  have update := s.adds_updateSyncStatus tx entry.id status w
  simp only [persistStatus, keep, if_false]
  split <;> next h => simpa [h] using update

theorem finishSyncJob_ok {inputTx : Transaction} {tx : Nat} {entry : SyncEntry} {dryRun : Bool}
    {status : SyncJobStatus} {applyInfo : AppApplyResponse} {updatedApps : List AppPathDomain}
    {w w' : World} {r : JobResult}
    (h : finishSyncJob s inputTx tx entry dryRun status applyInfo updatedApps w = (.ok r, w')) :
    r = ({ status with applyResponse := applyInfo }, if status.error ≠ "" then [] else updatedApps) := by
  simp only [finishSyncJob] at h
  split at h
  · next failed =>
    rcases s.inTransaction_cases _ (rollback tx w) with ⟨e, w₁, -, h'⟩ | ⟨freshTx, w₁, -, h'⟩ <;>
      rw [h'] at h
    · cases h
    · simpa [failed] using persistStatus_ok s (Prod.ext (by simpa using congrArg Prod.fst h) rfl)
  · next ok => simpa [ok] using persistStatus_ok s h

theorem adds_finishSyncJob (inputTx : Transaction) (tx : Nat) (entry : SyncEntry) (dryRun : Bool)
    (status : SyncJobStatus) (applyInfo : AppApplyResponse) (updatedApps : List AppPathDomain)
    (w : World) :
    Adds [.bookkeeping, .commit] w
      (finishSyncJob s inputTx tx entry dryRun status applyInfo updatedApps w).2 := by
  simp only [finishSyncJob]
  split
  · exact ((adds_rollback tx w).mono (by simp)).trans (s.adds_inTransaction (by simp) _
      (fun freshTx => adds_persistStatus s inputTx freshTx entry dryRun _ []) _)
  · exact adds_persistStatus s inputTx tx entry dryRun _ updatedApps w

/-- A failed run adds no commit: it rolls back, then writes its status through a
transaction it never commits. -/
theorem adds_finishSyncJob_of_error {inputTx : Transaction} {tx : Nat} {entry : SyncEntry}
    {dryRun : Bool} {status : SyncJobStatus} (failed : status.error ≠ "")
    (applyInfo : AppApplyResponse) (updatedApps : List AppPathDomain) (w : World) :
    Adds [.bookkeeping] w (finishSyncJob s inputTx tx entry dryRun status applyInfo updatedApps w).2 := by
  simp only [finishSyncJob, failed, ne_eq, not_false_eq_true, if_true]
  exact (adds_rollback tx w).trans (s.adds_inTransaction (by simp) _
    (fun freshTx => adds_persistStatus_of_keep s (by exact fun ok => failed ok.1) []) _)

/-- A run on its caller's transaction adds no commit at its end, failed or not. -/
theorem adds_finishSyncJob_of_caller {inputTx : Transaction} (caller : inputTx.tx ≠ none)
    (tx : Nat) (entry : SyncEntry) (dryRun : Bool) (status : SyncJobStatus)
    (applyInfo : AppApplyResponse) (updatedApps : List AppPathDomain) (w : World) :
    Adds [.bookkeeping] w (finishSyncJob s inputTx tx entry dryRun status applyInfo updatedApps w).2 := by
  by_cases failed : status.error ≠ ""
  · exact adds_finishSyncJob_of_error s failed applyInfo updatedApps w
  simp only [finishSyncJob, failed, if_false]
  exact adds_persistStatus_of_keep s (fun ok => caller ok.2) _ w

/-! ## The attempt -/

/-- A run's attempt calls `Apply`, reads the clock, and goes on with `afterApply`. -/
theorem syncJobMain_eq (onAppMissing : Job (Except String JobResult)) (inputTx : Transaction)
    (tx : Nat) (entry : SyncEntry) (dryRun checkCommitHash : Bool) (repoCache : Nat) (w : World) :
    ∃ now w₂, w₂.log = .now now :: .apply (applyCall tx entry dryRun
        (lastRunCommitId entry checkCommitHash) repoCache) (s.applyOutcome w.log (applyCall tx entry
        dryRun (lastRunCommitId entry checkCommitHash) repoCache)).result :: w.log ∧
      w₂.db = w.db.write tx ((s.applyOutcome w.log (applyCall tx entry dryRun
        (lastRunCommitId entry checkCommitHash) repoCache)).writes.map .app) ∧
      syncJobMain s onAppMissing inputTx tx entry dryRun checkCommitHash repoCache w =
        afterApply s onAppMissing inputTx tx entry dryRun repoCache now
          (s.applyOutcome w.log (applyCall tx entry dryRun (lastRunCommitId entry checkCommitHash)
            repoCache)).result
          (s.applyOutcome w.log (applyCall tx entry dryRun (lastRunCommitId entry checkCommitHash)
            repoCache)).updatedApps w₂ :=
  let call := applyCall tx entry dryRun (lastRunCommitId entry checkCommitHash) repoCache
  ⟨s.clock (s.apply call w).2.log, (s.timeNow (s.apply call w).2).2, rfl, rfl, rfl⟩

theorem afterApply_of_not_skip {onAppMissing : Job (Except String JobResult)}
    {inputTx : Transaction} {tx : Nat} {entry : SyncEntry} {dryRun : Bool} {repoCache : Nat}
    {now : Time} {applyResult : Except String AppApplyResponse}
    (noSkip : ¬(applyResult.toBool ∧ (applyStatus s entry dryRun now
      entry.status.applyResponse.filteredApps applyResult).2.skippedApply ∧
      entry.metadata.reload = appReloadOptionMatched))
    (updatedApps : List AppPathDomain) (w : World) :
    afterApply s onAppMissing inputTx tx entry dryRun repoCache now applyResult updatedApps w =
      finishSyncJob s inputTx tx entry dryRun
        (applyStatus s entry dryRun now entry.status.applyResponse.filteredApps applyResult).1
        (applyStatus s entry dryRun now entry.status.applyResponse.filteredApps applyResult).2
        updatedApps w := by
  simp only [afterApply, noSkip, if_false]

theorem afterApply_of_skip {onAppMissing : Job (Except String JobResult)}
    {inputTx : Transaction} {tx : Nat} {entry : SyncEntry} {dryRun : Bool} {repoCache : Nat}
    {now : Time} {info : AppApplyResponse} (skipped : info.skippedApply = true)
    (matched : entry.metadata.reload = appReloadOptionMatched)
    (updatedApps : List AppPathDomain) (w : World) :
    afterApply s onAppMissing inputTx tx entry dryRun repoCache now (.ok info) updatedApps w =
      skipPath s onAppMissing inputTx tx entry dryRun repoCache
        (applyStatus s entry dryRun now entry.status.applyResponse.filteredApps (.ok info)).1 info
        updatedApps w := by
  simp [afterApply, applyStatus, skipped, matched, Except.toBool]

theorem skipPath_of_none {onAppMissing : Job (Except String JobResult)} {inputTx : Transaction}
    {tx : Nat} {entry : SyncEntry} {dryRun : Bool} {repoCache : Nat} {status : SyncJobStatus}
    {applyInfo : AppApplyResponse} {updatedApps : List AppPathDomain} {w w₃ : World}
    (missing : lookupApps s tx entry.status.applyResponse.filteredApps [] w = (none, w₃)) :
    skipPath s onAppMissing inputTx tx entry dryRun repoCache status applyInfo updatedApps w =
      onAppMissing w₃ := by
  simp only [skipPath, missing]

theorem skipPath_of_some {onAppMissing : Job (Except String JobResult)} {inputTx : Transaction}
    {tx : Nat} {entry : SyncEntry} {dryRun : Bool} {repoCache : Nat} {status : SyncJobStatus}
    {applyInfo : AppApplyResponse} {updatedApps : List AppPathDomain} {w w₃ : World}
    {appMap : List (AppPathDomain × AppEntry)}
    (found : lookupApps s tx entry.status.applyResponse.filteredApps [] w = (some appMap, w₃)) :
    skipPath s onAppMissing inputTx tx entry dryRun repoCache status applyInfo updatedApps w =
      let r := reloadApps s tx entry repoCache appMap entry.status.applyResponse.filteredApps
        status {} w₃
      finishSyncJob s inputTx tx entry dryRun r.1.1
        (reloadedApplyInfo (skippedApplyInfo applyInfo entry.status.applyResponse.filteredApps)
          r.1.2.1 r.1.2.2) updatedApps r.2 := by
  simp only [skipPath, found]

/-- After `Apply`, a run either finishes with the status `applyStatus` built, or takes the
skip path, which only a successful `Apply` reporting a skip leads to. -/
theorem afterApply_cases (onAppMissing : Job (Except String JobResult)) (inputTx : Transaction)
    (tx : Nat) (entry : SyncEntry) (dryRun : Bool) (repoCache : Nat) (now : Time)
    (applyResult : Except String AppApplyResponse) (updatedApps : List AppPathDomain) (w : World) :
    afterApply s onAppMissing inputTx tx entry dryRun repoCache now applyResult updatedApps w =
      finishSyncJob s inputTx tx entry dryRun
        (applyStatus s entry dryRun now entry.status.applyResponse.filteredApps applyResult).1
        (applyStatus s entry dryRun now entry.status.applyResponse.filteredApps applyResult).2
        updatedApps w ∨
    ∃ info, applyResult = .ok info ∧ info.skippedApply = true ∧
      entry.metadata.reload = appReloadOptionMatched ∧
      afterApply s onAppMissing inputTx tx entry dryRun repoCache now applyResult updatedApps w =
        skipPath s onAppMissing inputTx tx entry dryRun repoCache
          (applyStatus s entry dryRun now entry.status.applyResponse.filteredApps (.ok info)).1
          info updatedApps w := by
  by_cases skip : applyResult.toBool ∧ (applyStatus s entry dryRun now
    entry.status.applyResponse.filteredApps applyResult).2.skippedApply ∧
    entry.metadata.reload = appReloadOptionMatched
  case neg => exact .inl (afterApply_of_not_skip s skip updatedApps w)
  obtain ⟨info, rfl⟩ : ∃ info, applyResult = .ok info := by
    cases applyResult with
    | error e => exact absurd skip.1 Bool.false_ne_true
    | ok info => exact ⟨info, rfl⟩
  have skipped : info.skippedApply = true := by simpa [applyStatus] using skip.2.1
  exact .inr ⟨info, rfl, skipped, skip.2.2, afterApply_of_skip s skipped skip.2.2 updatedApps w⟩

/-- The skip path looks up the last run's apps: when a lookup fails it hands over to
`onAppMissing`, and otherwise it reloads every app with the entry its lookup returned and
finishes. -/
theorem skipPath_cases (onAppMissing : Job (Except String JobResult)) (inputTx : Transaction)
    (tx : Nat) (entry : SyncEntry) (dryRun : Bool) (repoCache : Nat) (status : SyncJobStatus)
    (applyInfo : AppApplyResponse) (updatedApps : List AppPathDomain) (w : World) :
    ∃ lookups, (∀ e ∈ lookups, e.kind = .getApp) ∧
      ((skipPath s onAppMissing inputTx tx entry dryRun repoCache status applyInfo updatedApps w =
          onAppMissing { w with log := lookups ++ w.log } ∧
          ∃ a ∈ entry.status.applyResponse.filteredApps, ∃ err,
            Event.getAppTx tx a (.error err) ∈ lookups) ∨
       ∃ found, (∀ a err, Event.getAppTx tx a (.error err) ∉ lookups) ∧
         (∀ a ∈ entry.status.applyResponse.filteredApps, ∃ app, found.lookup a = some app ∧
            Event.getAppTx tx a (.ok app) ∈ lookups) ∧
         (∀ a, a ∉ entry.status.applyResponse.filteredApps → found.lookup a = none) ∧
         skipPath s onAppMissing inputTx tx entry dryRun repoCache status applyInfo updatedApps w =
           let r := reloadApps s tx entry repoCache found entry.status.applyResponse.filteredApps
             status {} { w with log := lookups ++ w.log }
           finishSyncJob s inputTx tx entry dryRun r.1.1
             (reloadedApplyInfo (skippedApplyInfo applyInfo entry.status.applyResponse.filteredApps)
               r.1.2.1 r.1.2.2) updatedApps r.2) := by
  obtain ⟨lookups, world₃, kinds, outcome⟩ :=
    lookupApps_spec s tx entry.status.applyResponse.filteredApps [] w
  refine ⟨lookups, kinds, ?_⟩
  rcases outcome with ⟨missing, failed⟩ | ⟨found, hfound, noFailure, covered, outside⟩
  · exact .inl ⟨skipPath_of_none s (Prod.ext missing world₃), failed⟩
  · exact .inr ⟨found, noFailure, covered, fun a ha => outside a ha,
      skipPath_of_some s (Prod.ext hfound world₃)⟩

/-! ## The wrappers of a run -/

theorem withTransaction_cases {α : Type} (inputTx : Transaction)
    (body : Nat → Job (Except String α)) (w : World) :
    (∃ e, (withTransaction s inputTx body w).1 = .error e ∧
      Adds [.bookkeeping] w (withTransaction s inputTx body w).2) ∨
    ∃ tx w₁, (∀ t, inputTx.tx = some t → tx = t) ∧ Adds [.bookkeeping] w w₁ ∧
      (withTransaction s inputTx body w).1 = (body tx w₁).1 ∧
      Adds [.bookkeeping] (body tx w₁).2 (withTransaction s inputTx body w).2 := by
  rcases htx : inputTx.tx with _ | tx <;> simp only [withTransaction, htx]
  · rcases s.inTransaction_cases body w with ⟨e, w₁, hb, h⟩ | ⟨tx, w₁, hb, h⟩ <;> rw [h]
    · exact .inl ⟨e, rfl, by simpa [hb] using s.adds_beginTransaction w⟩
    · exact .inr ⟨tx, w₁, by simp, by simpa [hb] using s.adds_beginTransaction w, rfl,
        adds_rollback tx _⟩
  · exact .inr ⟨tx, w, by simp, Adds.refl w, rfl, Adds.refl _⟩

theorem withRepoCache_cases {α : Type} (repoCache : Option Nat)
    (body : Nat → Job (Except String α)) (w : World) :
    (∃ e, (withRepoCache s repoCache body w).1 = .error e ∧
      Adds [.bookkeeping] w (withRepoCache s repoCache body w).2) ∨
    ∃ rc w₁, (∀ r, repoCache = some r → rc = r) ∧ Adds [.bookkeeping] w w₁ ∧
      (withRepoCache s repoCache body w).1 = (body rc w₁).1 ∧
      Adds [.bookkeeping] (body rc w₁).2 (withRepoCache s repoCache body w).2 := by
  rcases repoCache with _ | rc <;> simp only [withRepoCache]
  · rcases s.inRepoCache_cases body w with ⟨e, w₁, hc, h⟩ | ⟨rc, w₁, hc, h⟩ <;> rw [h]
    · exact .inl ⟨e, rfl, by simpa [hc] using s.adds_newRepoCache w⟩
    · exact .inr ⟨rc, w₁, by simp, by simpa [hc] using s.adds_newRepoCache w, rfl,
        adds_cleanup rc _⟩
  · exact .inr ⟨rc, w, by simp, Adds.refl w, rfl, Adds.refl _⟩

/-- A run records its call, then either fails to open its transaction or its cache, or runs
its attempt on the caller's or a new transaction and cache, and then rolls back and cleans
up what it opened. -/
theorem runSyncJobWith_cases (nested : Bool) (rerun : Nat → Job (Except String JobResult))
    (inputTx : Transaction) (entry : SyncEntry) (dryRun checkCommitHash : Bool)
    (repoCache : Option Nat) (w : World) :
    (∃ e, (runSyncJobWith s nested rerun inputTx entry dryRun checkCommitHash repoCache w).1 = .error e ∧
      Adds [.bookkeeping] (logRunSyncJob nested inputTx entry dryRun checkCommitHash repoCache w)
        (runSyncJobWith s nested rerun inputTx entry dryRun checkCommitHash repoCache w).2) ∨
    ∃ tx rc w₁, (∀ t, inputTx.tx = some t → tx = t) ∧ (∀ r, repoCache = some r → rc = r) ∧
      Adds [.bookkeeping] (logRunSyncJob nested inputTx entry dryRun checkCommitHash repoCache w) w₁ ∧
      (runSyncJobWith s nested rerun inputTx entry dryRun checkCommitHash repoCache w).1 =
        (attempt s rerun inputTx entry dryRun checkCommitHash tx rc w₁).1 ∧
      Adds [.bookkeeping] (attempt s rerun inputTx entry dryRun checkCommitHash tx rc w₁).2
        (runSyncJobWith s nested rerun inputTx entry dryRun checkCommitHash repoCache w).2 := by
  unfold runSyncJobWith
  rcases withTransaction_cases s inputTx _ (logRunSyncJob nested inputTx entry dryRun checkCommitHash repoCache w)
    with ⟨e, failed, adds⟩ | ⟨tx, w₁, htx, begun, result, after⟩
  · exact .inl ⟨e, failed, adds⟩
  rcases withRepoCache_cases s repoCache _ w₁ with ⟨e, failed, adds⟩ | ⟨rc, w₂, hrc, created, result', after'⟩
  · exact .inl ⟨e, result.trans failed, begun.trans (adds.trans after)⟩
  · exact .inr ⟨tx, rc, w₂, htx, hrc, begun.trans created, result.trans result', after'.trans after⟩

/-! ## Whole runs -/

/-- The kinds of event a run on its caller's transaction adds after recording its own call:
the call of its re-run and the calls of its phases, with no commit. -/
def callerKinds : List Kind := [.rerun, .apply, .getApp, .reload, .bookkeeping]

/-- The kinds of event any run adds after recording its own call. -/
def runKinds : List Kind := .commit :: callerKinds

/-- The lemmas below hold for any list `ks` of kinds that holds the kinds of the phases, given
what the end of the run adds: `runKinds` for every run, `callerKinds` for a run on its
caller's transaction. -/
theorem adds_afterApply {ks : List Kind} (phases : ∀ k ∈ callerKinds, k ∈ ks)
    {onAppMissing : Job (Except String JobResult)} {inputTx : Transaction} {tx : Nat}
    {entry : SyncEntry} {dryRun : Bool}
    (finish : ∀ status applyInfo apps w,
      Adds ks w (finishSyncJob s inputTx tx entry dryRun status applyInfo apps w).2)
    (hm : ∀ w, Adds ks w (onAppMissing w).2) (repoCache : Nat) (now : Time)
    (applyResult : Except String AppApplyResponse) (updatedApps : List AppPathDomain) (w : World) :
    Adds ks w
      (afterApply s onAppMissing inputTx tx entry dryRun repoCache now applyResult updatedApps w).2 := by
  rcases afterApply_cases s onAppMissing inputTx tx entry dryRun repoCache now applyResult
    updatedApps w with h | ⟨info, -, -, -, h⟩ <;> rw [h]
  · exact finish _ _ _ _
  obtain ⟨lookups, kinds, outcome⟩ :=
    skipPath_cases s onAppMissing inputTx tx entry dryRun repoCache _ info updatedApps w
  have looked : Adds ks w { w with log := lookups ++ w.log } :=
    ⟨lookups, rfl, fun e he => kinds e he ▸ phases _ (by decide), fun _ => rfl⟩
  rcases outcome with ⟨h', -⟩ | ⟨found, -, covered, -, h'⟩ <;> rw [h']
  · exact looked.trans (hm _)
  have reloaded := (reloadApps_spec s tx entry repoCache found entry.status.applyResponse.filteredApps
    (applyStatus s entry dryRun now entry.status.applyResponse.filteredApps (.ok info)).1 {}
    { w with log := lookups ++ w.log }
    fun a ha => by obtain ⟨app, happ, -⟩ := covered a ha; simp [happ]).1
  exact looked.trans ((reloaded.mono fun k hk => by
    simp only [List.mem_singleton] at hk; exact hk ▸ phases _ (by decide)).trans (finish _ _ _ _))

theorem adds_syncJobMain {ks : List Kind} (phases : ∀ k ∈ callerKinds, k ∈ ks)
    {onAppMissing : Job (Except String JobResult)} {inputTx : Transaction} {tx : Nat}
    {entry : SyncEntry} {dryRun : Bool}
    (finish : ∀ status applyInfo apps w,
      Adds ks w (finishSyncJob s inputTx tx entry dryRun status applyInfo apps w).2)
    (hm : ∀ w, Adds ks w (onAppMissing w).2) (checkCommitHash : Bool) (repoCache : Nat) (w : World) :
    Adds ks w (syncJobMain s onAppMissing inputTx tx entry dryRun checkCommitHash repoCache w).2 := by
  obtain ⟨now, w₂, log₂, db₂, main⟩ :=
    syncJobMain_eq s onAppMissing inputTx tx entry dryRun checkCommitHash repoCache w
  have applied : Adds ks w w₂ := ⟨[_, _], by rw [log₂]; rfl, fun e he => by
    simp only [List.mem_cons, List.mem_singleton, List.not_mem_nil, or_false] at he
    rcases he with rfl | rfl <;> exact phases _ (by simp [callerKinds]),
    fun _ => (congrArg Db.committed db₂ :)⟩
  rw [main]
  exact applied.trans (adds_afterApply s phases finish hm repoCache now _ _ w₂)

theorem adds_attempt {ks : List Kind} (phases : ∀ k ∈ callerKinds, k ∈ ks)
    {rerun : Nat → Job (Except String JobResult)} {inputTx : Transaction} {entry : SyncEntry}
    {dryRun : Bool}
    (finish : ∀ tx status applyInfo apps w,
      Adds ks w (finishSyncJob s inputTx tx entry dryRun status applyInfo apps w).2)
    (hr : ∀ rc w, Adds ks w (rerun rc w).2) (checkCommitHash : Bool) (tx repoCache : Nat)
    (w : World) :
    Adds ks w (attempt s rerun inputTx entry dryRun checkCommitHash tx repoCache w).2 := by
  apply adds_syncJobMain s phases (finish tx)
  cases checkCommitHash
  · exact Adds.refl
  · exact hr repoCache

/-- After recording its call, a run adds the events of its phases and of its re-run, and no
other call of `runSyncJob`. -/
theorem adds_runSyncJobWith {ks : List Kind} (phases : ∀ k ∈ callerKinds, k ∈ ks) {nested : Bool}
    {rerun : Nat → Job (Except String JobResult)} {inputTx : Transaction} {entry : SyncEntry}
    {dryRun : Bool}
    (finish : ∀ tx status applyInfo apps w,
      Adds ks w (finishSyncJob s inputTx tx entry dryRun status applyInfo apps w).2)
    (hr : ∀ rc w, Adds ks w (rerun rc w).2) (checkCommitHash : Bool) (repoCache : Option Nat)
    (w : World) :
    Adds ks (logRunSyncJob nested inputTx entry dryRun checkCommitHash repoCache w)
      (runSyncJobWith s nested rerun inputTx entry dryRun checkCommitHash repoCache w).2 := by
  have book : ∀ k ∈ [Kind.bookkeeping], k ∈ ks := fun k hk => by
    simp only [List.mem_singleton] at hk; exact hk ▸ phases _ (by decide)
  rcases runSyncJobWith_cases s nested rerun inputTx entry dryRun checkCommitHash repoCache w with
    ⟨e, -, adds⟩ | ⟨tx, rc, w₁, -, -, pre, -, post⟩
  · exact adds.mono book
  exact (pre.mono book).trans ((adds_attempt s phases finish hr checkCommitHash tx rc w₁).trans
    (post.mono book))

/-- A re-run records its call, then what its phases add, ending as `finish` allows. -/
theorem adds_rerunSyncJob {ks : List Kind} (phases : ∀ k ∈ callerKinds, k ∈ ks)
    {inputTx : Transaction} {entry : SyncEntry} {dryRun : Bool}
    (finish : ∀ tx status applyInfo apps w,
      Adds ks w (finishSyncJob s inputTx tx entry dryRun status applyInfo apps w).2)
    (repoCache : Nat) (w : World) :
    Adds ks w (rerunSyncJob s inputTx entry dryRun repoCache w).2 := by
  have marker : Adds ks w (logRunSyncJob true inputTx entry dryRun false (some repoCache) w) :=
    Adds.single rfl (phases _ (by simp [callerKinds])) fun _ => rfl
  exact marker.trans (adds_runSyncJobWith s phases finish (fun _ w => Adds.refl w) false _ w)

theorem adds_finishSyncJob_run (inputTx : Transaction) (entry : SyncEntry) (dryRun : Bool)
    (tx : Nat) (status : SyncJobStatus) (applyInfo : AppApplyResponse)
    (updatedApps : List AppPathDomain) (w : World) :
    Adds runKinds w (finishSyncJob s inputTx tx entry dryRun status applyInfo updatedApps w).2 :=
  (adds_finishSyncJob s inputTx tx entry dryRun _ _ _ w).mono (by decide)

/-! ## Statuses a run returns -/

/-- Every status `m` returns satisfies `P` together with the events `m` added to the log. -/
def ReturnsWith (P : SyncJobStatus → List Event → Prop) (m : Job (Except String JobResult)) :
    Prop :=
  ∀ w status updatedApps w', m w = (.ok (status, updatedApps), w') →
    ∃ new, w'.log = new ++ w.log ∧ P status new

theorem ReturnsWith.of_error {P : SyncJobStatus → List Event → Prop} (err : String) :
    ReturnsWith P fun w => (.error err, w) := by
  intro w status updatedApps w' h
  cases h

/-- The wrappers of a run keep a property of its statuses that the record of the call and
the bookkeeping around the attempt leave alone, once the attempt's `syncJobMain` keeps it
whenever its missing-app branch does. -/
theorem runSyncJobWith_returnsWith {P : SyncJobStatus → List Event → Prop}
    (framed : ∀ status new before after, (∀ e ∈ before ++ after, e.kind ∈ [.run, .rerun, .bookkeeping]) →
      P status new → P status (after ++ new ++ before))
    {nested : Bool} {inputTx : Transaction} {entry : SyncEntry} {dryRun checkCommitHash : Bool}
    (main : ∀ onAppMissing tx repoCache, ReturnsWith P onAppMissing →
      ReturnsWith P (syncJobMain s onAppMissing inputTx tx entry dryRun checkCommitHash repoCache))
    {rerun : Nat → Job (Except String JobResult)} (hr : ∀ rc, ReturnsWith P (rerun rc))
    (repoCache : Option Nat) :
    ReturnsWith P (runSyncJobWith s nested rerun inputTx entry dryRun checkCommitHash repoCache) := by
  intro w status updatedApps w' h
  rcases runSyncJobWith_cases s nested rerun inputTx entry dryRun checkCommitHash repoCache w with
    ⟨e, failed, -⟩ | ⟨tx, rc, w₁, -, -, pre, result, post⟩
  · simp [h] at failed
  simp only [h] at result post
  have attempted : ReturnsWith P (attempt s rerun inputTx entry dryRun checkCommitHash tx rc) := by
    apply main
    cases checkCommitHash
    · exact .of_error _
    · exact hr rc
  obtain ⟨new, log, holds⟩ := attempted w₁ status updatedApps _ (Prod.ext result.symm rfl)
  obtain ⟨newPre, logPre, kindsPre, -⟩ := pre
  obtain ⟨newPost, logPost, kindsPost, -⟩ := post
  refine ⟨newPost ++ new ++
      (newPre ++ [.runSyncJob nested ⟨inputTx, entry, dryRun, checkCommitHash, repoCache⟩]),
    by simp [logPost, log, logPre, logRunSyncJob], framed _ _ _ _ (fun e he => ?_) holds⟩
  simp only [List.mem_append, List.mem_singleton] at he
  rcases he with (he | rfl) | he
  · simp [List.mem_singleton.mp (kindsPre e he)]
  · cases nested <;> simp
  · simp [List.mem_singleton.mp (kindsPost e he)]

/-- `runSyncJob` keeps such a property when `syncJobMain` does, with or without the check of
the commit hash. -/
theorem runSyncJob_returnsWith {P : SyncJobStatus → List Event → Prop}
    (framed : ∀ status new before after, (∀ e ∈ before ++ after, e.kind ∈ [.run, .rerun, .bookkeeping]) →
      P status new → P status (after ++ new ++ before))
    {inputTx : Transaction} {entry : SyncEntry} {dryRun : Bool}
    (main : ∀ onAppMissing checkCommitHash tx repoCache, ReturnsWith P onAppMissing →
      ReturnsWith P (syncJobMain s onAppMissing inputTx tx entry dryRun checkCommitHash repoCache))
    (checkCommitHash : Bool) (repoCache : Option Nat) :
    ReturnsWith P (runSyncJob s inputTx entry dryRun checkCommitHash repoCache) :=
  runSyncJobWith_returnsWith s framed (main · checkCommitHash)
    (fun _ => runSyncJobWith_returnsWith s framed (main · false) (fun _ => .of_error _) _) repoCache

/-- **One call per run.** The calls of `runSyncJob` by its callers that a run records are its
own, with its arguments: its re-run is nested. -/
theorem calls_runSyncJob (inputTx : Transaction) (entry : SyncEntry) (dryRun checkCommitHash : Bool)
    (repoCache : Option Nat) (w : World) :
    Calls [⟨inputTx, entry, dryRun, checkCommitHash, repoCache⟩] w
      (runSyncJob s inputTx entry dryRun checkCommitHash repoCache w).2 := by
  have phases : Adds runKinds (logRunSyncJob false inputTx entry dryRun checkCommitHash repoCache w)
      (runSyncJob s inputTx entry dryRun checkCommitHash repoCache w).2 :=
    adds_runSyncJobWith s (by decide) (adds_finishSyncJob_run s inputTx entry dryRun)
      (adds_rerunSyncJob s (by decide) (adds_finishSyncJob_run s inputTx entry dryRun))
      checkCommitHash repoCache w
  exact (show Calls _ w (logRunSyncJob false inputTx entry dryRun checkCommitHash repoCache w) from
    ⟨[_], rfl, rfl⟩).trans (phases.calls_nil (by decide))

end

end OpenRun.Sync
