import OpenRun.Sync.System

/-!
# No failure count is ever stored

The scheduler skips an entry whose failure count has reached the configured maximum. The
count grows only in the status of a failed run, and that status carries the failure's
error; `OpenRun.Sync.System` shows that no status with an error is ever committed. So
when `Apply` and `ReloadApp` report each failure with an error text (`ReportsErrors`), no
failure count is ever committed: from a store whose entries have never failed, every
entry of every reachable store has failure count 0, and for a positive maximum the
scheduler's gate never closes (`reachable_failureCount`).

A status is quiet when it carries an error or has failure count 0 (`SyncJobStatus.quiet`).
Under `ReportsErrors` every status a run builds is quiet: a successful `Apply` sets the count
to 0, and a failed `Apply` or reload sets the error to its non-empty text. Unlike the clean
stores of `OpenRun.Sync.System`, quietness holds of every write, pending or committed, so it
is an invariant of the whole store, transactions included (`Db.Quiet`): each operation on
the store keeps it (`Db.Quiet.commit`), and so does each step of a run
(`runSyncJob_keepsQuiet`) and each operation of the API (`Op.run_keepsQuiet`). A clean store
in which every status is quiet has failure count 0 everywhere.
-/

set_option autoImplicit false

namespace OpenRun.Sync

open Go

/-- `Apply` and `ReloadApp` report each failure with an error text. -/
def ReportsErrors (s : Server) : Prop :=
  (∀ log call err, (s.applyOutcome log call).result = .error err → err ≠ "") ∧
  ∀ log call err, (s.reloadOutcome log call).result = .error err → err ≠ ""

/-- A status that records no failure unless it carries the failure's error: without an
error, its failure count is 0. -/
def SyncJobStatus.quiet (status : SyncJobStatus) : Bool :=
  status.error != "" || status.failureCount == 0

/-- Every status of the store is quiet, committed or pending in an open transaction. -/
def Db.Quiet (db : Db) : Prop :=
  db.committed.All SyncJobStatus.quiet ∧
    ∀ p ∈ db.txs, ∀ x ∈ p.2, x.keeps SyncJobStatus.quiet = true

namespace Db.Quiet

variable {db : Db} (quiet : db.Quiet)
include quiet

theorem begin : db.begin.Quiet := by
  refine ⟨quiet.1, fun p hp x hx => ?_⟩
  rcases List.mem_append.mp hp with old | new
  · exact quiet.2 p old x hx
  · rw [List.mem_singleton.mp new] at hx
    cases hx

theorem close (tx : Nat) : (db.close tx).Quiet :=
  ⟨quiet.1, fun p hp => quiet.2 p (List.mem_of_mem_filter hp)⟩

theorem write (tx : Nat) {ws : List Write} (hws : ∀ x ∈ ws, x.keeps SyncJobStatus.quiet = true) :
    (db.write tx ws).Quiet := by
  refine ⟨quiet.1, fun p hp x hx => ?_⟩
  obtain ⟨q, old, rfl⟩ := List.mem_map.mp hp
  split at hx
  · rcases List.mem_append.mp hx with hx | hx
    · exact quiet.2 q old x hx
    · exact hws x hx
  · exact quiet.2 q old x hx

theorem pending (tx : Nat) : ∀ x ∈ db.pending tx, x.keeps SyncJobStatus.quiet = true := by
  intro x hx
  cases found : db.txs.find? (fun p => p.1 == tx) with
  | none => simp [Db.pending, found] at hx
  | some p =>
    simp only [Db.pending, found, Option.map_some', Option.getD_some] at hx
    exact quiet.2 p (List.mem_of_find?_eq_some found) x hx

/-- A commit applies quiet writes to a quiet store. -/
theorem commit (tx : Nat) : (db.commit tx).Quiet :=
  ⟨quiet.1.writeAll (quiet.pending tx), (quiet.close tx).2⟩

end Db.Quiet

/-- A job that keeps every status of the store quiet. -/
def KeepsQuiet {α : Type} (m : Job α) : Prop := ∀ w, w.db.Quiet → (m w).2.db.Quiet

theorem KeepsQuiet.of_db {α : Type} {m : Job α} (same : ∀ w, (m w).2.db = w.db) :
    KeepsQuiet m :=
  fun w quiet => (same w).symm ▸ quiet

/-! ## The store's operations -/

section

variable (s : Server)

theorem beginTransaction_keepsQuiet : KeepsQuiet s.beginTransaction := by
  intro w quiet
  simp only [Server.beginTransaction]
  split
  · exact quiet
  · exact quiet.begin

theorem commit_keepsQuiet (tx : Nat) : KeepsQuiet (s.commit tx) := by
  intro w quiet
  simp only [Server.commit]
  split
  · split
    · exact quiet.close tx
    · exact quiet.commit tx
  · exact quiet

theorem completeTransaction_keepsQuiet (tx : Nat) (updatedApps : List AppPathDomain)
    (dryRun : Bool) (op : String) : KeepsQuiet (s.completeTransaction tx updatedApps dryRun op) := by
  intro w quiet
  have kept := commit_keepsQuiet s tx w quiet
  rcases s.completeTransaction_cases tx updatedApps dryRun op w with
    ⟨-, h⟩ | ⟨-, e, w₁, committed, h⟩ | ⟨-, w₁, committed, h⟩ <;> rw [h]
  · exact quiet
  all_goals
    rw [committed] at kept
    exact kept

theorem updateSyncStatus_keepsQuiet (tx : Nat) (id : String) {status : SyncJobStatus}
    (q : status.quiet = true) : KeepsQuiet (s.updateSyncStatus tx id status) := by
  intro w quiet
  have db := s.statement_db tx (.updateSyncStatus id status) w
  rcases hs : s.statement tx (.updateSyncStatus id status) w with ⟨_ | ⟨⟩, w'⟩ <;>
    rw [hs] at db <;> simp only [Server.updateSyncStatus, hs]
  · exact db ▸ quiet
  · exact (db ▸ quiet).write tx (by simp [q])

theorem createSync_keepsQuiet (tx : Nat) {entry : SyncEntry} (q : entry.status.quiet = true) :
    KeepsQuiet (s.createSync tx entry) := by
  intro w quiet
  have db := s.statement_db tx (.createSync entry.id) w
  rcases hs : s.statement tx (.createSync entry.id) w with ⟨_ | ⟨⟩, w'⟩ <;>
    rw [hs] at db <;> simp only [Server.createSync, hs]
  · exact db ▸ quiet
  · exact (db ▸ quiet).write tx (by simp [q])

theorem deleteSync_keepsQuiet (tx : Nat) (id : String) : KeepsQuiet (s.deleteSync tx id) := by
  intro w quiet
  have db := s.statement_db tx (.deleteSync id) w
  rcases hs : s.statement tx (.deleteSync id) w with ⟨_ | ⟨⟩, w'⟩ <;>
    rw [hs] at db <;> simp only [Server.deleteSync, hs]
  · exact db ▸ quiet
  · exact (db ▸ quiet).write tx (by simp [Write.keeps])

theorem getSyncEntry_db (tx : Nat) (id : String) (w : World) :
    (s.getSyncEntry tx id w).2.db = w.db := by
  have db := s.statement_db tx (.getSyncEntry id) w
  rcases hs : s.statement tx (.getSyncEntry id) w with ⟨_ | ⟨⟩, w'⟩ <;>
    rw [hs] at db <;> simp only [Server.getSyncEntry, hs] <;> exact db

theorem getSyncEntries_db (tx : Nat) (w : World) : (s.getSyncEntries tx w).2.db = w.db := by
  have db := s.statement_db tx .getSyncEntries w
  rcases hs : s.statement tx .getSyncEntries w with ⟨_ | ⟨⟩, w'⟩ <;>
    rw [hs] at db <;> simp only [Server.getSyncEntries, hs] <;> exact db

theorem inTransaction_keepsQuiet {α : Type} (body : Nat → Job (Except String α))
    (hbody : ∀ tx, KeepsQuiet (body tx)) : KeepsQuiet (s.inTransaction body) := by
  intro w quiet
  have begun := beginTransaction_keepsQuiet s w quiet
  rcases s.inTransaction_cases body w with ⟨e, w₁, hb, h⟩ | ⟨tx, w₁, hb, h⟩ <;> rw [h] <;>
    rw [hb] at begun
  · exact begun
  · exact (hbody tx w₁ begun).close tx

theorem inRepoCache_keepsQuiet {α : Type} (body : Nat → Job (Except String α))
    (hbody : ∀ rc, KeepsQuiet (body rc)) : KeepsQuiet (s.inRepoCache body) := by
  intro w quiet
  have db := s.newRepoCache_db w
  rcases s.inRepoCache_cases body w with ⟨e, w₁, hc, h⟩ | ⟨rc, w₁, hc, h⟩ <;> rw [h] <;>
    rw [hc] at db
  · exact db ▸ quiet
  · exact hbody rc w₁ (db ▸ quiet)

theorem withTransaction_keepsQuiet {α : Type} (inputTx : Transaction)
    (body : Nat → Job (Except String α)) (hbody : ∀ tx, KeepsQuiet (body tx)) :
    KeepsQuiet (withTransaction s inputTx body) := by
  unfold withTransaction
  split
  · exact hbody _
  · exact inTransaction_keepsQuiet s body hbody

theorem withRepoCache_keepsQuiet {α : Type} (repoCache : Option Nat)
    (body : Nat → Job (Except String α)) (hbody : ∀ rc, KeepsQuiet (body rc)) :
    KeepsQuiet (withRepoCache s repoCache body) := by
  cases repoCache
  · exact inRepoCache_keepsQuiet s body hbody
  · exact hbody _

/-! ## Runs -/

/-- A failed step's status carries the failure's error. -/
theorem failedStatus_quiet (entry : SyncEntry) (status : SyncJobStatus) {err : String}
    (nonempty : err ≠ "") : (failedStatus s entry status err).quiet = true := by
  simp [SyncJobStatus.quiet, failedStatus, nonempty]

theorem persistStatus_keepsQuiet (inputTx : Transaction) (tx : Nat) (entry : SyncEntry)
    (dryRun : Bool) {status : SyncJobStatus} (q : status.quiet = true)
    (updatedApps : List AppPathDomain) :
    KeepsQuiet (persistStatus s inputTx tx entry dryRun status updatedApps) := by
  intro w quiet
  have written := updateSyncStatus_keepsQuiet s tx entry.id q w quiet
  rcases hu : s.updateSyncStatus tx entry.id status w with ⟨_ | ⟨⟩, w₁⟩ <;>
    rw [hu] at written <;> simp only [persistStatus, hu]
  · exact written
  split
  · have done := completeTransaction_keepsQuiet s tx updatedApps dryRun "sync" w₁ written
    split <;> next h => rw [h] at done; exact done
  · exact written

theorem finishSyncJob_keepsQuiet (inputTx : Transaction) (tx : Nat) (entry : SyncEntry)
    (dryRun : Bool) {status : SyncJobStatus} (q : status.quiet = true)
    (applyInfo : AppApplyResponse) (updatedApps : List AppPathDomain) :
    KeepsQuiet (finishSyncJob s inputTx tx entry dryRun status applyInfo updatedApps) := by
  intro w quiet
  have q' : ({ status with applyResponse := applyInfo } : SyncJobStatus).quiet = true := q
  simp only [finishSyncJob]
  split
  · exact inTransaction_keepsQuiet s _ (fun freshTx => persistStatus_keepsQuiet s inputTx freshTx
      entry dryRun q' []) (rollback tx w) (quiet.close tx)
  · exact persistStatus_keepsQuiet s inputTx tx entry dryRun q' updatedApps w quiet

theorem reloadApps_keepsQuiet (tx : Nat) (entry : SyncEntry) (repoCache : Nat)
    (appMap : List (AppPathDomain × AppEntry)) :
    ∀ apps status acc, KeepsQuiet (reloadApps s tx entry repoCache appMap apps status acc)
  | [], _, _ => fun _ quiet => quiet
  | a :: rest, status, acc => by
    intro w quiet
    simp only [reloadApps]
    split
    · exact quiet
    next app _ =>
    have reloaded : (s.reloadApp (reloadCall tx entry app repoCache) w).2.db.Quiet :=
      quiet.write _ (by simp)
    split
    · next w₁ h => rw [h] at reloaded; exact reloaded
    · next w₁ h =>
      rw [h] at reloaded
      exact reloadApps_keepsQuiet tx entry repoCache appMap rest _ _ w₁ reloaded

/-- The status the reload loop ends with: the one it was given, or that status failed with
the error of a reload. -/
theorem reloadApps_status (tx : Nat) (entry : SyncEntry) (repoCache : Nat)
    (appMap : List (AppPathDomain × AppEntry)) :
    ∀ apps status acc w,
    (reloadApps s tx entry repoCache appMap apps status acc w).1.1 = status ∨
    ∃ log call err, (s.reloadOutcome log call).result = .error err ∧
      (reloadApps s tx entry repoCache appMap apps status acc w).1.1 = failedStatus s entry status err
  | [], _, _, _ => .inl rfl
  | a :: rest, status, acc, w => by
    simp only [reloadApps]
    split
    · exact .inl rfl
    next app _ =>
    simp only [Server.reloadApp]
    rcases hr : (s.reloadOutcome w.log (reloadCall tx entry app repoCache)).result with err | v
    · simp only [hr]
      exact .inr ⟨_, _, err, hr, rfl⟩
    · simp only [hr]
      exact reloadApps_status tx entry repoCache appMap rest status _ _

variable {s} (reports : ReportsErrors s)
include reports

theorem skipPath_keepsQuiet {onAppMissing : Job (Except String JobResult)}
    (hm : KeepsQuiet onAppMissing) (inputTx : Transaction) (tx : Nat) (entry : SyncEntry)
    (dryRun : Bool) (repoCache : Nat) {status : SyncJobStatus} (q : status.quiet = true)
    (applyInfo : AppApplyResponse) (updatedApps : List AppPathDomain) :
    KeepsQuiet
      (skipPath s onAppMissing inputTx tx entry dryRun repoCache status applyInfo updatedApps) := by
  intro w quiet
  obtain ⟨lookups, -, ⟨hS, -⟩ | ⟨found, -, -, -, hS⟩⟩ := skipPath_cases s onAppMissing inputTx tx
    entry dryRun repoCache status applyInfo updatedApps w <;> rw [hS]
  · exact hm _ quiet
  have reloaded := reloadApps_keepsQuiet s tx entry repoCache found
    entry.status.applyResponse.filteredApps status {} { w with log := lookups ++ w.log } quiet
  refine finishSyncJob_keepsQuiet s inputTx tx entry dryRun ?_ _ updatedApps _ reloaded
  rcases reloadApps_status s tx entry repoCache found _ status {} { w with log := lookups ++ w.log }
    with same | ⟨log, call, err, failed, ended⟩
  · rw [same]
    exact q
  · rw [ended]
    exact failedStatus_quiet s entry status (reports.2 log call err failed)

theorem afterApply_keepsQuiet {onAppMissing : Job (Except String JobResult)}
    (hm : KeepsQuiet onAppMissing) (inputTx : Transaction) (tx : Nat) (entry : SyncEntry)
    (dryRun : Bool) (repoCache : Nat) (now : Time) {applyResult : Except String AppApplyResponse}
    (reported : ∀ err, applyResult = .error err → err ≠ "") (updatedApps : List AppPathDomain) :
    KeepsQuiet
      (afterApply s onAppMissing inputTx tx entry dryRun repoCache now applyResult updatedApps) := by
  have q : (applyStatus s entry dryRun now entry.status.applyResponse.filteredApps
      applyResult).1.quiet = true := by
    rcases applyResult with err | info
    · simp [applyStatus, SyncJobStatus.quiet, reported err rfl]
    · simp [applyStatus, SyncJobStatus.quiet]
  intro w quiet
  rcases afterApply_cases s onAppMissing inputTx tx entry dryRun repoCache now applyResult
    updatedApps w with h | ⟨info, rfl, -, -, h⟩ <;> rw [h]
  · exact finishSyncJob_keepsQuiet s inputTx tx entry dryRun q _ updatedApps w quiet
  · exact skipPath_keepsQuiet reports hm inputTx tx entry dryRun repoCache q info updatedApps w
      quiet

theorem syncJobMain_keepsQuiet {onAppMissing : Job (Except String JobResult)}
    (hm : KeepsQuiet onAppMissing) (inputTx : Transaction) (tx : Nat) (entry : SyncEntry)
    (dryRun checkCommitHash : Bool) (repoCache : Nat) :
    KeepsQuiet (syncJobMain s onAppMissing inputTx tx entry dryRun checkCommitHash repoCache) := by
  intro w quiet
  obtain ⟨now, w₂, -, db₂, main⟩ :=
    syncJobMain_eq s onAppMissing inputTx tx entry dryRun checkCommitHash repoCache w
  rw [main]
  exact afterApply_keepsQuiet reports hm inputTx tx entry dryRun repoCache now (reports.1 _ _) _ w₂
    (db₂ ▸ quiet.write tx (by simp))

theorem runSyncJobWith_keepsQuiet {nested : Bool} {rerun : Nat → Job (Except String JobResult)}
    (hr : ∀ rc, KeepsQuiet (rerun rc)) (inputTx : Transaction) (entry : SyncEntry)
    (dryRun checkCommitHash : Bool) (repoCache : Option Nat) :
    KeepsQuiet (runSyncJobWith s nested rerun inputTx entry dryRun checkCommitHash repoCache) := by
  have main : ∀ tx rc, KeepsQuiet (attempt s rerun inputTx entry dryRun checkCommitHash tx rc) :=
    fun tx rc => syncJobMain_keepsQuiet reports (by split; exacts [hr rc, .of_db fun _ => rfl])
      inputTx tx entry dryRun checkCommitHash rc
  intro w quiet
  exact withTransaction_keepsQuiet s inputTx _
    (fun tx => withRepoCache_keepsQuiet s repoCache _ (main tx)) _ quiet

/-- **Every run keeps the statuses quiet.** When `Apply` and `ReloadApp` report each failure
with an error text, a run writes only quiet statuses and commits only quiet writes. -/
theorem runSyncJob_keepsQuiet (inputTx : Transaction) (entry : SyncEntry)
    (dryRun checkCommitHash : Bool) (repoCache : Option Nat) :
    KeepsQuiet (runSyncJob s inputTx entry dryRun checkCommitHash repoCache) :=
  runSyncJobWith_keepsQuiet reports
    (fun _ => runSyncJobWith_keepsQuiet reports (fun _ => .of_db fun _ => rfl) _ _ _ _ _) _ _ _ _ _

/-! ## The operations -/

theorem createSyncEntry_keepsQuiet (userId path : String) (scheduled dryRun : Bool)
    (sync : SyncMetadata) : KeepsQuiet (createSyncEntry s userId path scheduled dryRun sync) := by
  refine inTransaction_keepsQuiet s _ fun tx w quiet => ?_
  have db₁ : (s.random w).2.db = w.db := rfl
  rcases hg : s.random w with ⟨_ | genId, w₁⟩ <;> rw [hg] at db₁ <;> simp only [hg]
  · exact db₁ ▸ quiet
  have db₂ := newSyncMetadata_db s scheduled sync w₁
  rcases hm : newSyncMetadata s scheduled sync w₁ with ⟨_ | metadata, w₂⟩ <;> rw [hm] at db₂ <;>
    simp only [hm]
  · exact db₂ ▸ db₁ ▸ quiet
  generalize hE : ({ id := "cl_syn_" ++ toLower genId, path := path, isScheduled := scheduled,
                     userId := userId, metadata := metadata } : SyncEntry) = entry
  have fresh : entry.status.quiet = true := by rw [← hE]; rfl
  have created := createSync_keepsQuiet s tx fresh w₂ (db₂ ▸ db₁ ▸ quiet)
  rcases hc : s.createSync tx entry w₂ with ⟨_ | ⟨⟩, w₃⟩ <;> rw [hc] at created <;> simp only [hc]
  · exact created
  have ran := runSyncJob_keepsQuiet reports ⟨some tx⟩ entry dryRun true none w₃ created
  rcases hr : runSyncJob s ⟨some tx⟩ entry dryRun true none w₃ with ⟨_ | ⟨status, apps⟩, w₄⟩ <;>
    rw [hr] at ran <;> simp only [hr]
  · exact ran
  split
  · exact ran
  have done := completeTransaction_keepsQuiet s tx apps dryRun "create_sync" w₄ ran
  split <;> next h => rw [h] at done; exact done

theorem runSync_keepsQuiet (id : String) (dryRun : Bool) : KeepsQuiet (runSync s id dryRun) := by
  refine inTransaction_keepsQuiet s _ fun tx w quiet => ?_
  have db₁ := getSyncEntry_db s tx id w
  rcases hg : s.getSyncEntry tx id w with ⟨_ | entry, w₁⟩ <;> rw [hg] at db₁ <;> simp only [hg]
  · exact db₁ ▸ quiet
  have ran := runSyncJob_keepsQuiet reports ⟨some tx⟩ entry dryRun true none w₁ (db₁ ▸ quiet)
  rcases hr : runSyncJob s ⟨some tx⟩ entry dryRun true none w₁ with ⟨_ | ⟨status, apps⟩, w₂⟩ <;>
    rw [hr] at ran <;> simp only [hr]
  · exact ran
  split
  · exact ran
  have done := completeTransaction_keepsQuiet s tx apps dryRun "sync_run" w₂ ran
  split <;> next h => rw [h] at done; exact done

end

theorem deleteSyncEntry_keepsQuiet (s : Server) (id : String) (dryRun : Bool) :
    KeepsQuiet (deleteSyncEntry s id dryRun) := by
  refine inTransaction_keepsQuiet s _ fun tx w quiet => ?_
  have deleted := deleteSync_keepsQuiet s tx id w quiet
  rcases hd : s.deleteSync tx id w with ⟨_ | ⟨⟩, w₁⟩ <;> rw [hd] at deleted <;> simp only [hd]
  · exact deleted
  split
  · exact deleted
  have done := commit_keepsQuiet s tx w₁ deleted
  split <;> next h => rw [h] at done; exact done

theorem listSyncEntries_keepsQuiet (s : Server) : KeepsQuiet (listSyncEntries s) := by
  refine inTransaction_keepsQuiet s _ fun tx w quiet => ?_
  have db₁ := getSyncEntries_db s tx w
  rcases hl : s.getSyncEntries tx w with ⟨_ | entries, w₁⟩ <;> rw [hl] at db₁ <;> simp only [hl] <;>
    exact db₁ ▸ quiet

section

variable {s : Server} (reports : ReportsErrors s)
include reports

theorem runScheduleEntries_keepsQuiet (repoCache : Nat) :
    ∀ entries, KeepsQuiet (runScheduleEntries s repoCache entries)
  | [] => fun _ quiet => quiet
  | entry :: rest => by
    intro w quiet
    have checked : (notReady s entry w).2.db.Quiet := by
      unfold notReady
      split <;> exact quiet
    simp only [runScheduleEntries]
    split
    · exact runScheduleEntries_keepsQuiet repoCache rest w quiet
    rcases hn : notReady s entry w with ⟨_ | _, w₁⟩ <;> rw [hn] at checked <;> simp only
    · split
      · exact runScheduleEntries_keepsQuiet repoCache rest w₁ checked
      · exact runScheduleEntries_keepsQuiet repoCache rest _
          (runSyncJob_keepsQuiet reports ⟨none⟩ entry false true _ w₁ checked)
    · exact runScheduleEntries_keepsQuiet repoCache rest w₁ checked

theorem runSyncJobs_keepsQuiet : KeepsQuiet (runSyncJobs s) :=
  inTransaction_keepsQuiet s _ fun tx => inRepoCache_keepsQuiet s _ fun rc w quiet => by
    have db₁ := getSyncEntries_db s tx w
    rcases hl : s.getSyncEntries tx w with ⟨_ | entries, w₁⟩ <;> rw [hl] at db₁
    · exact db₁ ▸ quiet
    · exact runScheduleEntries_keepsQuiet reports rc entries w₁ (db₁ ▸ quiet)

/-- Every operation keeps the statuses quiet. -/
theorem Op.run_keepsQuiet (op : Op) (w : World) (quiet : w.db.Quiet) : (op.run s w).db.Quiet := by
  cases op with
  | createSyncEntry userId path scheduled dryRun sync =>
    exact createSyncEntry_keepsQuiet reports userId path scheduled dryRun sync w quiet
  | runSync id dryRun => exact runSync_keepsQuiet reports id dryRun w quiet
  | deleteSyncEntry id dryRun => exact deleteSyncEntry_keepsQuiet s id dryRun w quiet
  | listSyncEntries => exact listSyncEntries_keepsQuiet s w quiet
  | runSyncJobs => exact runSyncJobs_keepsQuiet reports w quiet

end

/-- **No failure count is ever stored.** When `Apply` and `ReloadApp` report each failure with
an error text, then from a store whose entries have never failed and in which no transaction
is open, after any sequence of API calls and scheduler ticks, whatever their failures, every
entry of the committed store has failure count 0: the scheduler's gate
`MaxSyncFailureCount <= FailureCount` never closes for a positive maximum. -/
theorem reachable_failureCount (s : Server) (reports : ReportsErrors s) {w₀ w : World}
    (neverFailed : ∀ e ∈ w₀.db.committed.syncs, e.status.error = "" ∧ e.status.failureCount = 0)
    (noTxs : w₀.db.txs = []) (reach : Reachable s w₀ w) :
    ∀ e ∈ w.db.committed.syncs, e.status.failureCount = 0 := by
  have init : w₀.db.committed.Clean ∧ w₀.db.Quiet :=
    ⟨fun e he => by simp [(neverFailed e he).1],
      ⟨fun e he => by simp [SyncJobStatus.quiet, (neverFailed e he).2], fun p hp => by simp only [noTxs, List.not_mem_nil] at hp⟩⟩
  obtain ⟨clean, quiet, -⟩ := reach.invariant (I := fun w => w.db.committed.Clean ∧ w.db.Quiet)
    (fun op w h => ⟨Op.run_keepsClean s op w h.1, Op.run_keepsQuiet reports op w h.2⟩) init
  intro e he
  have noError : e.status.error = "" := by simpa using clean e he
  simpa [SyncJobStatus.quiet, noError] using quiet e he

theorem reachable_failureCount_failedRuns :
    (ReportsErrors (demoServer (.error "boom")) ∧
      (∀ e ∈ demoWorld.db.committed.syncs, e.status.error = "" ∧ e.status.failureCount = 0) ∧
      demoWorld.db.txs = [] ∧ Reachable (demoServer (.error "boom")) demoWorld failedRunsWorld) ∧
    ∀ e ∈ failedRunsWorld.db.committed.syncs, e.status.failureCount = 0 :=
  have reports : ReportsErrors (demoServer (.error "boom")) :=
    ⟨fun _ _ _ h => by cases h; decide, fun _ _ _ h => by cases h⟩
  have neverFailed : ∀ e ∈ demoWorld.db.committed.syncs,
      e.status.error = "" ∧ e.status.failureCount = 0 := by decide
  have reach : Reachable (demoServer (.error "boom")) demoWorld failedRunsWorld :=
    .step .runSyncJobs (.step (.runSync demoEntry.id false) .start)
  ⟨⟨reports, neverFailed, rfl, reach⟩,
    reachable_failureCount _ reports neverFailed rfl reach⟩

end OpenRun.Sync
