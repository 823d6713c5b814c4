import OpenRun.Sync.Job

/-!
# What each phase adds to the log

Every sync operation only adds events to the front of the log, and the committed store
changes only through a commit. `Adds ks w w'` says both for the step from `w` to `w'`, with
the kinds of the added events among `ks` (`Event.kind`). Each primitive and each phase of
`runSyncJob` gets one `Adds` lemma, and the wrappers `inTransaction` and `inRepoCache` one
case lemma each, so that the statements about runs below only ever cite these.

Two projections of a segment of the log carry the claims about runs: `lastApply`, the
outcome of the latest `Apply` call and of the `ReloadApp` calls made after it, and
`topLevelRuns`, the calls of `runSyncJob` its callers make, each with all its arguments: the
calls that are not the nested re-run.
-/

set_option autoImplicit false

namespace OpenRun.Sync

open Go

/-- The kinds of call an event can record: `run` is a call of `runSyncJob` by its callers,
`rerun` the call it makes of itself. -/
inductive Kind where
  | run
  | rerun
  | apply
  | getApp
  | reload
  | commit
  | bookkeeping
deriving DecidableEq, Repr

/-- The kind of call an event records; transactions other than commits, the post-commit
notification, the clock, the id generator, the repository cache and the store statements are
bookkeeping. -/
def Event.kind : Event → Kind
  | .runSyncJob false _ => .run
  | .runSyncJob true _ => .rerun
  | .apply .. => .apply
  | .getAppTx .. => .getApp
  | .reloadApp .. => .reload
  | .commit .. => .commit
  | _ => .bookkeeping

namespace Event

variable (call : RunCall) (tx : Nat)

@[simp] theorem kind_run : (runSyncJob false call).kind = .run := rfl
@[simp] theorem kind_rerun : (runSyncJob true call).kind = .rerun := rfl
@[simp] theorem kind_apply (call : ApplyCall) (r : Except String AppApplyResponse) :
    (apply call r).kind = .apply := rfl
@[simp] theorem kind_getAppTx (app : AppPathDomain) (r : Except String AppEntry) :
    (getAppTx tx app r).kind = .getApp := rfl
@[simp] theorem kind_reloadApp (call : ReloadCall) (r : Except String AppReloadResult) :
    (reloadApp call r).kind = .reload := rfl
@[simp] theorem kind_commit (r : Except String Unit) : (commit tx r).kind = .commit := rfl
@[simp] theorem kind_notify (apps : List AppPathDomain) (op : String) (r : Except String Unit) :
    (notify apps op r).kind = .bookkeeping := rfl
@[simp] theorem kind_beginTransaction (r : Except String Nat) :
    (beginTransaction r).kind = .bookkeeping := rfl
@[simp] theorem kind_rollback : (rollback tx).kind = .bookkeeping := rfl
@[simp] theorem kind_newRepoCache (r : Except String Nat) :
    (newRepoCache r).kind = .bookkeeping := rfl
@[simp] theorem kind_cleanup (rc : Nat) : (cleanup rc).kind = .bookkeeping := rfl
@[simp] theorem kind_now (t : Time) : (now t).kind = .bookkeeping := rfl
@[simp] theorem kind_random (r : Except String String) : (random r).kind = .bookkeeping := rfl
@[simp] theorem kind_store (op : StoreOp) (r : Except String Unit) :
    (store tx op r).kind = .bookkeeping := rfl

end Event

/-! ## Steps that add events -/

/-- `w'` is `w` after events of the kinds in `ks`, newest first; without a commit among them
the committed store is unchanged. -/
def Adds (ks : List Kind) (w w' : World) : Prop :=
  ∃ new, w'.log = new ++ w.log ∧ (∀ e ∈ new, e.kind ∈ ks) ∧
    ((∀ e ∈ new, e.kind ≠ .commit) → w'.db.committed = w.db.committed)

namespace Adds

variable {ks ks' : List Kind} {w₁ w₂ w₃ : World}

theorem refl (w : World) : Adds ks w w := ⟨[], rfl, by simp, fun _ => rfl⟩

theorem trans (h₁ : Adds ks w₁ w₂) (h₂ : Adds ks w₂ w₃) : Adds ks w₁ w₃ := by
  obtain ⟨new₁, log₁, kinds₁, committed₁⟩ := h₁
  obtain ⟨new₂, log₂, kinds₂, committed₂⟩ := h₂
  refine ⟨new₂ ++ new₁, by simp [log₁, log₂], ?_, fun noCommit => ?_⟩
  · exact fun e he => (List.mem_append.mp he).elim (kinds₂ e) (kinds₁ e)
  · rw [committed₂ fun e he => noCommit e (by simp [he]),
      committed₁ fun e he => noCommit e (by simp [he])]

theorem mono (h : Adds ks w₁ w₂) (sub : ∀ k ∈ ks, k ∈ ks') : Adds ks' w₁ w₂ := by
  obtain ⟨new, log, kinds, committed⟩ := h
  exact ⟨new, log, fun e he => sub _ (kinds e he), committed⟩

/-- One event, recorded with the committed store unchanged unless it is a commit. -/
theorem of_eq {α : Type} {m : Job α} {r : α} (h : Adds ks w₁ (m w₁).2) (hm : m w₁ = (r, w₂)) :
    Adds ks w₁ w₂ := by
  rw [hm] at h
  exact h

theorem single {e : Event} (log : w₂.log = e :: w₁.log) (kind : e.kind ∈ ks)
    (committed : e.kind ≠ .commit → w₂.db.committed = w₁.db.committed) : Adds ks w₁ w₂ :=
  ⟨[e], log, by simpa using kind, fun noCommit => committed (noCommit e (by simp))⟩

end Adds

/-! ## The primitives -/

theorem adds_rollback (tx : Nat) (w : World) : Adds [.bookkeeping] w (rollback tx w) :=
  Adds.single rfl (.head _) fun _ => rfl

theorem adds_cleanup (repoCache : Nat) (w : World) : Adds [.bookkeeping] w (cleanup repoCache w) :=
  Adds.single rfl (.head _) fun _ => rfl

theorem adds_logRunSyncJob (nested : Bool) (inputTx : Transaction) (entry : SyncEntry)
    (dryRun checkCommitHash : Bool) (repoCache : Option Nat) (w : World) :
    Adds [.run, .rerun] w (logRunSyncJob nested inputTx entry dryRun checkCommitHash repoCache w) :=
  Adds.single rfl (by cases nested <;> simp) fun _ => rfl

namespace Server

variable (s : Server)

theorem adds_beginTransaction (w : World) : Adds [.bookkeeping] w (s.beginTransaction w).2 := by
  simp only [beginTransaction]
  split <;> exact Adds.single rfl (.head _) fun _ => rfl

theorem adds_commit (tx : Nat) (w : World) : Adds [.commit] w (s.commit tx w).2 := by
  simp only [commit]
  split
  · split <;> exact Adds.single rfl (.head _) fun h => absurd rfl h
  · exact Adds.single rfl (.head _) fun h => absurd rfl h

theorem adds_notify (updatedApps : List AppPathDomain) (op : String) (w : World) :
    Adds [.bookkeeping] w (s.notify updatedApps op w).2 :=
  Adds.single rfl (.head _) fun _ => rfl

/-- `CompleteTransaction` does nothing on a dry run; otherwise it commits, and once the commit
succeeded it returns what the notification returns. -/
theorem completeTransaction_cases (tx : Nat) (updatedApps : List AppPathDomain) (dryRun : Bool)
    (op : String) (w : World) :
    (dryRun = true ∧ s.completeTransaction tx updatedApps dryRun op w = (.ok (), w)) ∨
    (dryRun = false ∧ ∃ e w₁, s.commit tx w = (.error e, w₁) ∧
      s.completeTransaction tx updatedApps dryRun op w = (.error e, w₁)) ∨
    (dryRun = false ∧ ∃ w₁, s.commit tx w = (.ok (), w₁) ∧
      s.completeTransaction tx updatedApps dryRun op w = s.notify updatedApps op w₁) := by
  cases dryRun
  · rcases committed : s.commit tx w with ⟨_ | ⟨⟩, w₁⟩
    · exact .inr (.inl ⟨rfl, _, w₁, rfl, by simp [completeTransaction, committed]⟩)
    · exact .inr (.inr ⟨rfl, w₁, rfl, by simp [completeTransaction, committed]⟩)
  · exact .inl ⟨rfl, rfl⟩

theorem adds_completeTransaction (tx : Nat) (updatedApps : List AppPathDomain) (dryRun : Bool)
    (op : String) (w : World) :
    Adds [.commit, .bookkeeping] w (s.completeTransaction tx updatedApps dryRun op w).2 := by
  rcases s.completeTransaction_cases tx updatedApps dryRun op w with
    ⟨-, h⟩ | ⟨-, e, w₁, committed, h⟩ | ⟨-, w₁, committed, h⟩ <;> rw [h]
  · exact .refl w
  · exact ((s.adds_commit tx w).of_eq committed).mono (by decide)
  · exact (((s.adds_commit tx w).of_eq committed).mono (by decide)).trans
      ((s.adds_notify updatedApps op w₁).mono (by decide))

/-- A commit that fails applies nothing. -/
theorem committed_of_commit_error {tx : Nat} {w : World} {e : String}
    (h : (s.commit tx w).1 = .error e) : (s.commit tx w).2.db.committed = w.db.committed := by
  unfold commit at h ⊢
  by_cases isOpen : w.db.isOpen tx <;> simp only [isOpen, if_true, if_false] at h ⊢
  · rcases outcome : s.commitOutcome w.log with _ | ⟨⟩ <;> simp only [outcome] at h ⊢
    · rfl
    · cases h
  · rfl

theorem completeTransaction_dryRun (tx : Nat) (updatedApps : List AppPathDomain) (op : String)
    (w : World) : s.completeTransaction tx updatedApps true op w = (.ok (), w) :=
  rfl

theorem adds_updateSyncStatus (tx : Nat) (id : String) (status : SyncJobStatus) (w : World) :
    Adds [.bookkeeping] w (s.updateSyncStatus tx id status w).2 := by
  simp only [updateSyncStatus, statement]
  split <;> next h =>
    obtain ⟨-, rfl⟩ := Prod.mk.inj h
    exact Adds.single rfl (.head _) fun _ => rfl

theorem adds_createSync (tx : Nat) (entry : SyncEntry) (w : World) :
    Adds [.bookkeeping] w (s.createSync tx entry w).2 := by
  simp only [createSync, statement]
  split <;> next h =>
    obtain ⟨-, rfl⟩ := Prod.mk.inj h
    exact Adds.single rfl (.head _) fun _ => rfl

theorem adds_deleteSync (tx : Nat) (id : String) (w : World) :
    Adds [.bookkeeping] w (s.deleteSync tx id w).2 := by
  simp only [deleteSync, statement]
  split <;> next h =>
    obtain ⟨-, rfl⟩ := Prod.mk.inj h
    exact Adds.single rfl (.head _) fun _ => rfl

theorem adds_getSyncEntry (tx : Nat) (id : String) (w : World) :
    Adds [.bookkeeping] w (s.getSyncEntry tx id w).2 := by
  simp only [getSyncEntry, statement]
  split <;> next h =>
    obtain ⟨-, rfl⟩ := Prod.mk.inj h
    exact Adds.single rfl (.head _) fun _ => rfl

theorem adds_getSyncEntries (tx : Nat) (w : World) :
    Adds [.bookkeeping] w (s.getSyncEntries tx w).2 := by
  simp only [getSyncEntries, statement]
  split <;> next h =>
    obtain ⟨-, rfl⟩ := Prod.mk.inj h
    exact Adds.single rfl (.head _) fun _ => rfl

theorem adds_timeNow (w : World) : Adds [.bookkeeping] w (s.timeNow w).2 :=
  Adds.single rfl (.head _) fun _ => rfl

theorem adds_newRepoCache (w : World) : Adds [.bookkeeping] w (s.newRepoCache w).2 := by
  simp only [newRepoCache]
  split <;> exact Adds.single rfl (.head _) fun _ => rfl

theorem adds_reloadApp (call : ReloadCall) (w : World) : Adds [.reload] w (s.reloadApp call w).2 :=
  Adds.single rfl (.head _) fun _ => rfl

/-! ## The wrappers -/

/-- `inTransaction` either fails to begin, or runs its body on the new transaction and
rolls it back after. -/
theorem inTransaction_cases {α : Type} (body : Nat → Job (Except String α)) (w : World) :
    (∃ e w₁, s.beginTransaction w = (.error e, w₁) ∧ s.inTransaction body w = (.error e, w₁)) ∨
    ∃ tx w₁, s.beginTransaction w = (.ok tx, w₁) ∧
      s.inTransaction body w = ((body tx w₁).1, rollback tx (body tx w₁).2) := by
  simp only [inTransaction]
  split
  · next e w₁ h => exact .inl ⟨e, w₁, h, rfl⟩
  · next tx w₁ h => exact .inr ⟨tx, w₁, h, rfl⟩

/-- `inRepoCache` either fails to create the cache, or runs its body on the new cache and
cleans it up after. -/
theorem inRepoCache_cases {α : Type} (body : Nat → Job (Except String α)) (w : World) :
    (∃ e w₁, s.newRepoCache w = (.error e, w₁) ∧ s.inRepoCache body w = (.error e, w₁)) ∨
    ∃ repoCache w₁, s.newRepoCache w = (.ok repoCache, w₁) ∧
      s.inRepoCache body w = ((body repoCache w₁).1, cleanup repoCache (body repoCache w₁).2) := by
  simp only [inRepoCache]
  split
  · next e w₁ h => exact .inl ⟨e, w₁, h, rfl⟩
  · next repoCache w₁ h => exact .inr ⟨repoCache, w₁, h, rfl⟩

theorem adds_inTransaction {α : Type} {ks : List Kind} (book : .bookkeeping ∈ ks)
    (body : Nat → Job (Except String α)) (hbody : ∀ tx w, Adds ks w (body tx w).2) (w : World) :
    Adds ks w (s.inTransaction body w).2 := by
  have begin : ∀ w, Adds ks w (s.beginTransaction w).2 :=
    fun w => (s.adds_beginTransaction w).mono fun k hk => List.mem_singleton.mp hk ▸ book
  rcases s.inTransaction_cases body w with ⟨e, w₁, hb, h⟩ | ⟨tx, w₁, hb, h⟩ <;> rw [h]
  · simpa [hb] using begin w
  · exact (by simpa [hb] using begin w : Adds ks w w₁).trans ((hbody tx w₁).trans
      ((adds_rollback tx _).mono fun k hk => List.mem_singleton.mp hk ▸ book))

theorem adds_inRepoCache {α : Type} {ks : List Kind} (book : .bookkeeping ∈ ks)
    (body : Nat → Job (Except String α)) (hbody : ∀ repoCache w, Adds ks w (body repoCache w).2)
    (w : World) : Adds ks w (s.inRepoCache body w).2 := by
  have create : ∀ w, Adds ks w (s.newRepoCache w).2 :=
    fun w => (s.adds_newRepoCache w).mono fun k hk => List.mem_singleton.mp hk ▸ book
  rcases s.inRepoCache_cases body w with ⟨e, w₁, hc, h⟩ | ⟨rc, w₁, hc, h⟩ <;> rw [h]
  · simpa [hc] using create w
  · exact (by simpa [hc] using create w : Adds ks w w₁).trans ((hbody rc w₁).trans
      ((adds_cleanup rc _).mono fun k hk => List.mem_singleton.mp hk ▸ book))

end Server

/-! ## Projections of a segment of the log -/

namespace Event

/-- The call and outcome of a `ReloadApp` event. -/
def reload? : Event → Option (ReloadCall × Except String AppReloadResult)
  | .reloadApp call result => some (call, result)
  | _ => none

/-- The arguments of a call of `runSyncJob` by its callers. -/
def topLevelRun? : Event → Option RunCall
  | .runSyncJob false call => some call
  | _ => none

end Event

/-- The `ReloadApp` calls of a segment of the log, oldest first. -/
def reloadsOf (log : List Event) : List (ReloadCall × Except String AppReloadResult) :=
  (log.filterMap Event.reload?).reverse

/-- The calls of `runSyncJob` its callers make in a segment of the log, oldest first, with
their arguments: the calls that are not the nested re-run. -/
def topLevelRuns (log : List Event) : List RunCall :=
  (log.filterMap Event.topLevelRun?).reverse

/-- The outcome of the latest `Apply` call of a segment of the log (newest first), and the
outcomes of the `ReloadApp` calls made after it, oldest first. -/
def lastApply :
    List Event → Option (Except String AppApplyResponse × List (Except String AppReloadResult))
  | [] => none
  | .apply _ result :: _ => some (result, [])
  | .reloadApp _ result :: log => (lastApply log).map fun p => (p.1, p.2 ++ [result])
  | _ :: log => lastApply log

theorem reloadsOf_append (l m : List Event) : reloadsOf (l ++ m) = reloadsOf m ++ reloadsOf l := by
  simp [reloadsOf]

theorem topLevelRuns_append (l m : List Event) :
    topLevelRuns (l ++ m) = topLevelRuns m ++ topLevelRuns l := by
  simp [topLevelRuns]

theorem reloadsOf_eq_nil {l : List Event} (h : ∀ e ∈ l, e.kind ≠ .reload) : reloadsOf l = [] := by
  simp only [reloadsOf, List.reverse_eq_nil_iff, List.filterMap_eq_nil_iff]
  intro e he
  cases e <;> first | rfl | exact absurd rfl (h _ he)

theorem topLevelRuns_eq_nil {l : List Event} (h : ∀ e ∈ l, e.kind ≠ .run) : topLevelRuns l = [] := by
  simp only [topLevelRuns, List.reverse_eq_nil_iff, List.filterMap_eq_nil_iff]
  intro e he
  cases e with
  | runSyncJob nested _ =>
    cases nested
    · exact absurd rfl (h _ he)
    · rfl
  | _ => rfl

/-- `w'` is `w` after events among which the calls of `runSyncJob` by its callers are
`runs`, oldest first. -/
def Calls (runs : List RunCall) (w w' : World) : Prop :=
  ∃ new, w'.log = new ++ w.log ∧ topLevelRuns new = runs

theorem Calls.trans {runs₁ runs₂ : List RunCall} {w₁ w₂ w₃ : World}
    (h₁ : Calls runs₁ w₁ w₂) (h₂ : Calls runs₂ w₂ w₃) : Calls (runs₁ ++ runs₂) w₁ w₃ := by
  obtain ⟨new₁, log₁, calls₁⟩ := h₁
  obtain ⟨new₂, log₂, calls₂⟩ := h₂
  exact ⟨new₂ ++ new₁, by simp [log₁, log₂], by rw [topLevelRuns_append, calls₁, calls₂]⟩

/-- Steps that record no call of `runSyncJob` by its callers. -/
theorem Adds.calls_nil {ks : List Kind} {w w' : World} (h : Adds ks w w') (noRun : .run ∉ ks) :
    Calls [] w w' := by
  obtain ⟨new, log, kinds, -⟩ := h
  exact ⟨new, log, topLevelRuns_eq_nil fun e he hk => noRun (hk ▸ kinds e he)⟩

/-- Events without an `Apply` add their reloads to the outcome of the `Apply` before them. -/
theorem lastApply_append {l : List Event} (h : ∀ e ∈ l, e.kind ≠ .apply) (m : List Event) :
    lastApply (l ++ m) = (lastApply m).map fun p => (p.1, p.2 ++ (reloadsOf l).map Prod.snd) := by
  induction l with
  | nil => simp [reloadsOf]
  | cons e l ih =>
    have ih := ih fun e' he' => h e' (List.mem_cons_of_mem _ he')
    cases e
    case apply => exact absurd rfl (h _ (List.mem_cons_self _ _))
    case reloadApp => simp [lastApply, ih, reloadsOf, Event.reload?, Option.map_map, Function.comp_def]
    -- the other events neither start nor extend the outcome
    all_goals exact ih

/-- Events other than `Apply` and `ReloadApp` calls leave the last `Apply` as it was. -/
theorem lastApply_append_of_kinds {ks : List Kind} (noApply : .apply ∉ ks) (noReload : .reload ∉ ks)
    {l : List Event} (h : ∀ e ∈ l, e.kind ∈ ks) (m : List Event) :
    lastApply (l ++ m) = lastApply m := by
  rw [lastApply_append (fun e he hk => noApply (hk ▸ h e he)),
    reloadsOf_eq_nil fun e he hk => noReload (hk ▸ h e he)]
  simp

theorem reloadsOf_reloadEvents (rs : List (ReloadCall × Except String AppReloadResult)) :
    reloadsOf (rs.map fun p => Event.reloadApp p.1 p.2).reverse = rs := by
  induction rs with
  | nil => rfl
  | cons r rs ih => simp [reloadsOf] at ih ⊢; simp [ih, Event.reload?]

theorem lastApply_append_of_isSome {l : List Event} (h : (lastApply l).isSome) (m : List Event) :
    lastApply (l ++ m) = lastApply l := by
  induction l with
  | nil => simp [lastApply] at h
  | cons e l ih => cases e <;> simp_all [lastApply]

end OpenRun.Sync
