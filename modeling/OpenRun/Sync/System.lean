import OpenRun.Sync.Scheduler
import OpenRun.Sync.Success

/-!
# No stored entry carries an error

A failed run writes its status, error included, through a fresh transaction that it never
completes (`OpenRun.Sync.Persistence`). So whatever the calls of the sync API and the ticks of
the scheduler, one after another, and whatever the store, the clock and the app engines
answer, no entry of the committed store ever carries an error (`reachable_clean`).

A store is clean when none of its entries carries an error (`Store.Clean`), and a write is
clean when it stores none (`Write.keeps`). Clean writes keep a store clean
(`Store.All.writeAll`), and so does the commit of a transaction whose pending writes are
clean (`Db.CleanOn.commit`). A job keeps the store clean (`KeepsClean`) when it ends with a
clean store whenever it starts with one; a job on transaction `tx` may need the pending
writes of `tx` to be clean as well (`KeepsCleanOn`).

A run on a transaction of its own only adds clean writes to it: `Apply` and `ReloadApp`
write to the app tables, and the end of the run writes the status and completes the
transaction only when the status carries no error (`persistStatus_keepsClean`). A failed run
writes its status through a fresh transaction, which the same lemma covers: it starts empty
and is never completed (`finishSyncJob_keepsClean`). A run on its caller's transaction
commits nothing. So every run keeps the store clean (`runSyncJob_keepsClean`), and so does a
tick of the scheduler (`runSyncJobs_keepsClean`). With what `OpenRun.Sync.Success` says the
other operations commit, every operation keeps the store clean (`Op.run_keepsClean`), and by
induction every world reachable from a clean one is clean.
-/

set_option autoImplicit false

namespace OpenRun.Sync

open Go

/-! ## Clean stores -/

/-- A write that stores only statuses `P` accepts. -/
def Write.keeps (P : SyncJobStatus → Bool) : Write → Bool
  | .createSync entry => P entry.status
  | .updateSyncStatus _ status => P status
  | .deleteSync _ => true
  | .app _ => true

/-- Every entry of the store has a status `P` accepts. -/
def Store.All (P : SyncJobStatus → Bool) (st : Store) : Prop := ∀ e ∈ st.syncs, P e.status = true

instance (P : SyncJobStatus → Bool) : DecidablePred (Store.All P) := fun st =>
  inferInstanceAs (Decidable (∀ e ∈ st.syncs, P e.status = true))

@[simp] theorem Write.keeps_createSync (P : SyncJobStatus → Bool) (entry : SyncEntry) :
    (Write.createSync entry).keeps P = P entry.status := rfl

@[simp] theorem Write.keeps_updateSyncStatus (P : SyncJobStatus → Bool) (id : String)
    (status : SyncJobStatus) : (Write.updateSyncStatus id status).keeps P = P status := rfl

@[simp] theorem Write.keeps_app (P : SyncJobStatus → Bool) (change : String) :
    (Write.app change).keeps P = true := rfl

theorem Write.keeps_map_app (P : SyncJobStatus → Bool) (changes : List String) :
    ∀ x ∈ changes.map Write.app, x.keeps P = true := fun _ hx => by
  obtain ⟨_, -, rfl⟩ := List.mem_map.mp hx
  rfl

theorem Store.All.write {P : SyncJobStatus → Bool} {st : Store} (all : st.All P) {x : Write}
    (hx : x.keeps P = true) : (st.write x).All P := by
  intro e he
  cases x with
  | createSync entry =>
    rcases List.mem_append.mp he with old | new
    · exact all e old
    · rw [List.mem_singleton.mp new]
      exact hx
  | updateSyncStatus id status =>
    obtain ⟨e', old, rfl⟩ := List.mem_map.mp he
    split
    · exact hx
    · exact all e' old
  | deleteSync id => exact all e (List.mem_of_mem_filter he)
  | app change => exact all e he

theorem Store.All.writeAll {P : SyncJobStatus → Bool} {st : Store} (all : st.All P)
    {ws : List Write} (hws : ∀ x ∈ ws, x.keeps P = true) : (st.writeAll ws).All P := by
  induction ws generalizing st with
  | nil => exact all
  | cons x ws ih =>
    exact ih (all.write (hws x (List.mem_cons_self _ _))) fun y hy =>
      hws y (List.mem_cons_of_mem _ hy)

/-- A status that carries no error. -/
def SyncJobStatus.clean (status : SyncJobStatus) : Bool := status.error == ""

@[simp] theorem SyncJobStatus.clean_eq_true (status : SyncJobStatus) :
    status.clean = true ↔ status.error = "" := beq_iff_eq

/-- No entry of the store carries an error. -/
def Store.Clean (st : Store) : Prop := st.All SyncJobStatus.clean

instance : DecidablePred Store.Clean := fun st => inferInstanceAs (Decidable (st.All _))

/-- The store is clean, and so are the pending writes of transaction `tx`. -/
def Db.CleanOn (tx : Nat) (db : Db) : Prop :=
  db.committed.Clean ∧ ∀ x ∈ db.pending tx, x.keeps SyncJobStatus.clean = true

/-- Committing a transaction whose pending writes are clean keeps the store clean. -/
theorem Db.CleanOn.commit {db : Db} {tx : Nat} (clean : db.CleanOn tx) :
    (db.commit tx).committed.Clean :=
  Store.All.writeAll clean.1 clean.2

theorem Db.CleanOn.write {db : Db} {tx : Nat} (clean : db.CleanOn tx)
    (isOpen : db.isOpen tx = true) {ws : List Write}
    (hws : ∀ x ∈ ws, x.keeps SyncJobStatus.clean = true) :
    (db.write tx ws).CleanOn tx := by
  refine ⟨clean.1, fun x hx => ?_⟩
  rw [Db.pending_write_self isOpen, List.mem_append] at hx
  exact hx.elim (clean.2 x) (hws x)

/-- Writes to the app tables keep a transaction open with clean pending writes. -/
theorem AppWritesOn.cleanOn {tx : Nat} {w w₁ : World} (writes : AppWritesOn tx w w₁)
    (isOpen : w.db.isOpen tx = true) (clean : w.db.CleanOn tx) :
    w₁.db.isOpen tx = true ∧ w₁.db.CleanOn tx := by
  obtain ⟨committed, keeps⟩ := writes
  obtain ⟨isOpen₁, changes, pending⟩ := keeps isOpen
  refine ⟨isOpen₁, committed ▸ clean.1, fun x hx => ?_⟩
  rw [pending, List.mem_append] at hx
  rcases hx with old | new
  · exact clean.2 x old
  · obtain ⟨change, -, rfl⟩ := List.mem_map.mp new
    rfl

/-! ## Jobs that keep the store clean -/

/-- A job that ends with a clean store whenever it starts with one. -/
def KeepsClean {α : Type} (m : Job α) : Prop :=
  ∀ w, w.db.committed.Clean → (m w).2.db.committed.Clean

/-- A job on transaction `tx` that ends with a clean store whenever it starts with `tx` open
and both the store and the pending writes of `tx` clean. -/
def KeepsCleanOn {α : Type} (tx : Nat) (m : Job α) : Prop :=
  ∀ w, w.db.isOpen tx = true → w.db.CleanOn tx → (m w).2.db.committed.Clean

theorem KeepsClean.of_error {α : Type} (err : String) :
    KeepsClean fun w => ((.error err : Except String α), w) :=
  fun _ clean => clean

/-- A step that commits nothing keeps the store clean. -/
theorem Adds.clean {ks : List Kind} {w w' : World} (adds : Adds ks w w') (noCommit : .commit ∉ ks)
    (clean : w.db.committed.Clean) : w'.db.committed.Clean := by
  rw [adds.committed_eq noCommit]
  exact clean

section

variable (s : Server)

/-- A transaction of its own begins empty, and is rolled back at exit. -/
theorem inTransaction_keepsClean {α : Type} (body : Nat → Job (Except String α))
    (hbody : ∀ tx, KeepsCleanOn tx (body tx)) : KeepsClean (s.inTransaction body) := by
  intro w clean
  rcases s.inTransaction_cases body w with ⟨e, w₁, begun, h⟩ | ⟨tx, w₁, begun, h⟩ <;> rw [h]
  · exact ((s.adds_beginTransaction w).of_eq begun).clean (by decide) clean
  · obtain ⟨committed₁, open₁, pending₁⟩ := s.beginTransaction_ok begun
    exact hbody tx w₁ open₁ ⟨committed₁ ▸ clean, by simp [pending₁]⟩

theorem commit_keepsClean (tx : Nat) : KeepsCleanOn tx (s.commit tx) := by
  intro w isOpen clean
  simp only [Server.commit, isOpen, if_true]
  split
  · exact clean.1
  · exact clean.commit

theorem completeTransaction_keepsClean (tx : Nat) (updatedApps : List AppPathDomain)
    (dryRun : Bool) (op : String) : KeepsCleanOn tx (s.completeTransaction tx updatedApps dryRun op) := by
  intro w isOpen clean
  have kept := commit_keepsClean s tx w isOpen clean
  rcases s.completeTransaction_cases tx updatedApps dryRun op w with
    ⟨-, h⟩ | ⟨-, e, w₁, committed, h⟩ | ⟨-, w₁, committed, h⟩ <;> rw [h]
  · exact clean.1
  all_goals
    rw [committed] at kept
    exact kept

/-- **The end of a run.** Writing a status and completing the transaction keeps the store
clean: the transaction is completed only when the status carries no error. -/
theorem persistStatus_keepsClean (inputTx : Transaction) (tx : Nat) (entry : SyncEntry)
    (dryRun : Bool) (status : SyncJobStatus) (updatedApps : List AppPathDomain) :
    KeepsCleanOn tx (persistStatus s inputTx tx entry dryRun status updatedApps) := by
  intro w isOpen clean
  have written := (s.adds_updateSyncStatus tx entry.id status w).clean (by decide) clean.1
  rcases hu : s.updateSyncStatus tx entry.id status w with ⟨_ | ⟨⟩, w₁⟩ <;>
    rw [hu] at written <;> simp only [persistStatus, hu]
  · exact written
  split
  · next ok =>
    have db₁ := s.updateSyncStatus_ok hu
    have done := completeTransaction_keepsClean s tx updatedApps dryRun "sync" w₁
      (by rw [db₁, Db.isOpen_write]; exact isOpen)
      (db₁ ▸ clean.write isOpen (by simp [ok.1]))
    split <;> next h => rw [h] at done; exact done
  · exact written

theorem finishSyncJob_keepsClean (inputTx : Transaction) (tx : Nat) (entry : SyncEntry)
    (dryRun : Bool) (status : SyncJobStatus) (applyInfo : AppApplyResponse)
    (updatedApps : List AppPathDomain) :
    KeepsCleanOn tx (finishSyncJob s inputTx tx entry dryRun status applyInfo updatedApps) := by
  intro w isOpen clean
  simp only [finishSyncJob]
  split
  · exact inTransaction_keepsClean s _ (fun freshTx => persistStatus_keepsClean s inputTx freshTx
      entry dryRun _ []) _ clean.1
  · exact persistStatus_keepsClean s inputTx tx entry dryRun _ updatedApps w isOpen clean

/-- A cache of its own is created and cleaned up, which leaves the store alone. -/
theorem inRepoCache_keepsClean {α : Type} {tx : Nat} (body : Nat → Job (Except String α))
    (hbody : ∀ rc, KeepsCleanOn tx (body rc)) : KeepsCleanOn tx (s.inRepoCache body) := by
  intro w isOpen clean
  have db := s.newRepoCache_db w
  rcases s.inRepoCache_cases body w with ⟨e, w₁, created, h⟩ | ⟨rc, w₁, created, h⟩ <;>
    rw [h] <;> rw [created] at db
  · exact db ▸ clean.1
  · exact hbody rc w₁ (db ▸ isOpen) (db ▸ clean)

theorem withRepoCache_keepsClean {α : Type} {tx : Nat} (repoCache : Option Nat)
    (body : Nat → Job (Except String α)) (hbody : ∀ rc, KeepsCleanOn tx (body rc)) :
    KeepsCleanOn tx (withRepoCache s repoCache body) := by
  cases repoCache
  · exact inRepoCache_keepsClean s body hbody
  · exact hbody _

theorem skipPath_keepsClean {onAppMissing : Job (Except String JobResult)}
    (hm : KeepsClean onAppMissing) (inputTx : Transaction) (tx : Nat) (entry : SyncEntry)
    (dryRun : Bool) (repoCache : Nat) (status : SyncJobStatus) (applyInfo : AppApplyResponse)
    (updatedApps : List AppPathDomain) :
    KeepsCleanOn tx
      (skipPath s onAppMissing inputTx tx entry dryRun repoCache status applyInfo updatedApps) := by
  intro w isOpen clean
  obtain ⟨lookups, -, ⟨hS, -⟩ | ⟨found, -, -, -, hS⟩⟩ := skipPath_cases s onAppMissing inputTx tx
    entry dryRun repoCache status applyInfo updatedApps w <;> rw [hS]
  · exact hm _ clean.1
  · obtain ⟨open₁, clean₁⟩ := (appWritesOn_reloadApps s tx entry repoCache found _ status {}
      { w with log := lookups ++ w.log }).cleanOn isOpen clean
    exact finishSyncJob_keepsClean s inputTx tx entry dryRun _ _ updatedApps _ open₁ clean₁

theorem afterApply_keepsClean {onAppMissing : Job (Except String JobResult)}
    (hm : KeepsClean onAppMissing) (inputTx : Transaction) (tx : Nat) (entry : SyncEntry)
    (dryRun : Bool) (repoCache : Nat) (now : Time) (applyResult : Except String AppApplyResponse)
    (updatedApps : List AppPathDomain) :
    KeepsCleanOn tx
      (afterApply s onAppMissing inputTx tx entry dryRun repoCache now applyResult updatedApps) := by
  intro w isOpen clean
  rcases afterApply_cases s onAppMissing inputTx tx entry dryRun repoCache now applyResult
    updatedApps w with h | ⟨info, -, -, -, h⟩ <;> rw [h]
  · exact finishSyncJob_keepsClean s inputTx tx entry dryRun _ _ updatedApps w isOpen clean
  · exact skipPath_keepsClean s hm inputTx tx entry dryRun repoCache _ info updatedApps w isOpen
      clean

theorem syncJobMain_keepsClean {onAppMissing : Job (Except String JobResult)}
    (hm : KeepsClean onAppMissing) (inputTx : Transaction) (tx : Nat) (entry : SyncEntry)
    (dryRun checkCommitHash : Bool) (repoCache : Nat) :
    KeepsCleanOn tx (syncJobMain s onAppMissing inputTx tx entry dryRun checkCommitHash repoCache) := by
  intro w isOpen clean
  obtain ⟨now, w₂, -, db₂, main⟩ :=
    syncJobMain_eq s onAppMissing inputTx tx entry dryRun checkCommitHash repoCache w
  obtain ⟨open₂, clean₂⟩ := (AppWritesOn.of_write _ db₂).cleanOn isOpen clean
  rw [main]
  exact afterApply_keepsClean s hm inputTx tx entry dryRun repoCache now _ _ w₂ open₂ clean₂

/-- A run on a transaction of its own keeps the store clean when its re-run does. -/
theorem runSyncJobWith_keepsClean {nested : Bool} {rerun : Nat → Job (Except String JobResult)}
    (hr : ∀ rc, KeepsClean (rerun rc)) {inputTx : Transaction} (own : inputTx.tx = none)
    (entry : SyncEntry) (dryRun checkCommitHash : Bool) (repoCache : Option Nat) :
    KeepsClean (runSyncJobWith s nested rerun inputTx entry dryRun checkCommitHash repoCache) := by
  intro w clean
  simp only [runSyncJobWith, withTransaction, own]
  refine inTransaction_keepsClean s _ (fun tx => withRepoCache_keepsClean s repoCache _ fun rc =>
    syncJobMain_keepsClean s ?_ inputTx tx entry dryRun checkCommitHash rc) _ clean
  split
  · exact hr rc
  · exact .of_error _

end

/-- **Every run keeps the store clean.** Whatever its caller's transaction, cache and flags,
and whatever `Apply`, the lookups and the reloads return, a run ends with a clean store when
it starts with one. -/
theorem runSyncJob_keepsClean (s : Server) (inputTx : Transaction) (entry : SyncEntry)
    (dryRun checkCommitHash : Bool) (repoCache : Option Nat) :
    KeepsClean (runSyncJob s inputTx entry dryRun checkCommitHash repoCache) := by
  rcases own : inputTx.tx with _ | tx
  · exact runSyncJobWith_keepsClean s
      (fun _ => runSyncJobWith_keepsClean s (fun _ => .of_error _) own _ _ _ _) own _ _ _ _
  · intro w clean
    rw [committed_runSyncJob_of_caller s (by simp [own]) entry dryRun checkCommitHash repoCache w]
    exact clean

section

variable (s : Server)

theorem runScheduleEntries_keepsClean (repoCache : Nat) :
    ∀ entries, KeepsClean (runScheduleEntries s repoCache entries)
  | [] => fun _ clean => clean
  | entry :: rest => by
    intro w clean
    have checked := (adds_notReady s entry w).clean (by decide) clean
    simp only [runScheduleEntries]
    split
    · exact runScheduleEntries_keepsClean repoCache rest w clean
    rcases hn : notReady s entry w with ⟨_ | _, w₁⟩ <;> rw [hn] at checked <;> simp only
    · split
      · exact runScheduleEntries_keepsClean repoCache rest w₁ checked
      · exact runScheduleEntries_keepsClean repoCache rest _
          (runSyncJob_keepsClean s ⟨none⟩ entry false true _ w₁ checked)
    · exact runScheduleEntries_keepsClean repoCache rest w₁ checked

/-- **A tick of the scheduler keeps the store clean.** -/
theorem runSyncJobs_keepsClean : KeepsClean (runSyncJobs s) :=
  inTransaction_keepsClean s _ fun tx => inRepoCache_keepsClean s _ fun rc w _ clean => by
    have listed := (s.adds_getSyncEntries tx w).clean (by decide) clean.1
    rcases hl : s.getSyncEntries tx w with ⟨_ | entries, w₁⟩ <;> rw [hl] at listed
    · exact listed
    · exact runScheduleEntries_keepsClean s rc entries w₁ listed

theorem listSyncEntries_keepsClean : KeepsClean (listSyncEntries s) :=
  inTransaction_keepsClean s _ fun tx w _ clean => by
    have listed := (s.adds_getSyncEntries tx w).clean (by decide) clean.1
    rcases hl : s.getSyncEntries tx w with ⟨_ | entries, w₁⟩ <;> rw [hl] at listed <;> exact listed

end

/-! ## Every reachable world -/

/-- A call on the sync subsystem: an operation of its API, or a tick of the scheduler. -/
inductive Op
  | createSyncEntry (userId path : String) (scheduled dryRun : Bool) (sync : SyncMetadata)
  | runSync (id : String) (dryRun : Bool)
  | deleteSyncEntry (id : String) (dryRun : Bool)
  | listSyncEntries
  | runSyncJobs

/-- The world after an operation; what the operation returns goes to its caller. -/
def Op.run (s : Server) : Op → World → World
  | .createSyncEntry userId path scheduled dryRun sync, w =>
    (Sync.createSyncEntry s userId path scheduled dryRun sync w).2
  | .runSync id dryRun, w => (Sync.runSync s id dryRun w).2
  | .deleteSyncEntry id dryRun, w => (Sync.deleteSyncEntry s id dryRun w).2
  | .listSyncEntries, w => (Sync.listSyncEntries s w).2
  | .runSyncJobs, w => (Sync.runSyncJobs s w).2

/-- The worlds that operations taken one after another reach from `w₀`. -/
inductive Reachable (s : Server) (w₀ : World) : World → Prop
  | start : Reachable s w₀ w₀
  | step {w : World} (op : Op) : Reachable s w₀ w → Reachable s w₀ (op.run s w)

/-- A property that every operation keeps holds of every world reachable from one that has
it. -/
theorem Reachable.invariant {s : Server} {I : World → Prop} (step : ∀ (op : Op) w, I w → I (op.run s w))
    {w₀ w : World} (init : I w₀) (reach : Reachable s w₀ w) : I w := by
  induction reach with
  | start => exact init
  | step op _ ih => exact step op _ ih

/-- Every operation keeps the store clean: a run does, and the other operations commit only
clean writes, what `OpenRun.Sync.Success` says they commit. -/
theorem Op.run_keepsClean (s : Server) (op : Op) (w : World) (clean : w.db.committed.Clean) :
    (op.run s w).db.committed.Clean := by
  cases op with
  | createSyncEntry userId path scheduled dryRun sync =>
    rcases createSyncEntry_committed s userId path scheduled dryRun sync w with
      ⟨-, same⟩ | ⟨ret, metadata, changes, -, -, ok, committed⟩ <;> simp only [Op.run]
    · exact same ▸ clean
    · rw [committed]
      exact ((Store.All.write clean (by rfl)).writeAll (Write.keeps_map_app _ changes)).write
        ((SyncJobStatus.clean_eq_true _).mpr ok)
  | runSync id dryRun =>
    rcases runSync_committed s id dryRun w with
      ⟨-, same⟩ | ⟨status, changes, -, -, ok, -, committed⟩ <;> simp only [Op.run]
    · exact same ▸ clean
    · rw [committed]
      exact (Store.All.writeAll clean (Write.keeps_map_app _ changes)).write
        ((SyncJobStatus.clean_eq_true _).mpr ok)
  | deleteSyncEntry id dryRun =>
    rcases deleteSyncEntry_committed s id dryRun w with ⟨-, same⟩ | ⟨-, -, committed⟩ <;>
      simp only [Op.run]
    · exact same ▸ clean
    · rw [committed]
      exact Store.All.write clean (by rfl)
  | listSyncEntries => exact listSyncEntries_keepsClean s w clean
  | runSyncJobs => exact runSyncJobs_keepsClean s w clean

/-- **No stored entry carries an error.** From a store none of whose entries carries an
error, after any sequence of API calls and scheduler ticks, whatever the store, the clock,
`Apply` and `ReloadApp` answer, no entry of the committed store carries an error: a run
that fails writes its status, error included, to a transaction that is rolled back. -/
theorem reachable_clean (s : Server) {w₀ w : World} (clean : w₀.db.committed.Clean)
    (reach : Reachable s w₀ w) : w.db.committed.Clean :=
  reach.invariant (I := fun w => w.db.committed.Clean) (Op.run_keepsClean s) clean

/-- `RunSync` of `demoEntry`, then a tick of the scheduler, on a server whose `Apply` fails:
the run writes its failure status through a transaction that is rolled back. -/
def failedRunsWorld : World :=
  Op.run (demoServer (.error "boom")) .runSyncJobs
    (Op.run (demoServer (.error "boom")) (.runSync demoEntry.id false) demoWorld)

theorem reachable_clean_failedRuns :
    demoWorld.db.committed.Clean ∧ Reachable (demoServer (.error "boom")) demoWorld failedRunsWorld ∧
      failedRunsWorld.db.committed.Clean :=
  have clean : demoWorld.db.committed.Clean := by decide
  have reach : Reachable (demoServer (.error "boom")) demoWorld failedRunsWorld :=
    .step .runSyncJobs (.step (.runSync demoEntry.id false) .start)
  ⟨clean, reach, reachable_clean _ clean reach⟩

end OpenRun.Sync
