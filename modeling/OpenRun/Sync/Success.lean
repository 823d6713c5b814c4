import OpenRun.Sync.Persistence

/-!
# What a successful run commits

The counterpart of `OpenRun.Sync.Persistence`: a run that reports success wrote the status it
returns, and its callers commit it. The statements are about the store itself, not the
log. A run handed its caller's transaction `tx` only adds writes to the app tables to `tx`
(the writes of `Apply` and `ReloadApp`) and, last, the update of its entry's status; it
commits nothing (`runSyncJob_writes_status`). The re-run of the missing-app branch works on
the same transaction, so the statement is proved once for a run whose re-run satisfies it,
as the other statements about whole runs are.

A transaction begun by an operation starts empty, as the store hands out fresh ids. A
completion that is not a dry run commits first and then notifies, and the notification may
fail after the commit (`completeTransaction_commits`). One lemma per operation then says all
it can commit (`runSync_committed`, `createSyncEntry_committed`, `deleteSyncEntry_committed`):
nothing, when it fails before its commit or is a dry run; otherwise the run's app writes and
a status without an error (after the new entry, for `CreateSyncEntry`), or the deletion. So
whatever a `RunSync` reports, all it ever commits is a successful status of its entry after
the run's app writes (`runSync_commits_only_on_success`), and a `RunSync` that returns a
status has committed exactly that status to the entry it ran (`runSync_commits_status`); a
`CreateSyncEntry` that returns has committed an entry under the id it reports, with the
status it reports (`createSyncEntry_commits_status`).
-/

set_option autoImplicit false

namespace OpenRun.Sync

open Go

/-! ## Statements that succeed -/

namespace Server

variable (s : Server)

theorem statement_db (tx : Nat) (op : StoreOp) (w : World) : (s.statement tx op w).2.db = w.db :=
  rfl

theorem newRepoCache_db (w : World) : (s.newRepoCache w).2.db = w.db := by
  unfold newRepoCache
  split <;> rfl

/-- A transaction just begun is open and has no pending writes; nothing was committed. -/
theorem beginTransaction_ok {w w₁ : World} {tx : Nat} (h : s.beginTransaction w = (.ok tx, w₁)) :
    w₁.db.committed = w.db.committed ∧ w₁.db.isOpen tx = true ∧ w₁.db.pending tx = [] := by
  unfold beginTransaction at h
  split at h
  · cases h
  · cases h
    exact ⟨rfl, Db.isOpen_begin w.db, Db.pending_begin w.db⟩

theorem getSyncEntry_ok {tx : Nat} {id : String} {w w₁ : World} {entry : SyncEntry}
    (h : s.getSyncEntry tx id w = (.ok entry, w₁)) :
    (w.db.view tx).find? id = some entry ∧ w₁.db = w.db := by
  have db := s.statement_db tx (.getSyncEntry id) w
  rcases hs : s.statement tx (.getSyncEntry id) w with ⟨_ | ⟨⟩, w'⟩ <;>
    simp only [getSyncEntry, hs] at h db
  · cases h
  cases found : (w.db.view tx).find? id <;> simp only [found, Option.elim] at h
  · cases h
  · cases h
    exact ⟨rfl, db⟩

theorem updateSyncStatus_ok {tx : Nat} {id : String} {status : SyncJobStatus} {w w₁ : World}
    (h : s.updateSyncStatus tx id status w = (.ok (), w₁)) :
    w₁.db = w.db.write tx [.updateSyncStatus id status] := by
  have db := s.statement_db tx (.updateSyncStatus id status) w
  rcases hs : s.statement tx (.updateSyncStatus id status) w with ⟨_ | ⟨⟩, w'⟩ <;>
    simp only [updateSyncStatus, hs] at h db
  · cases h
  · cases h
    rw [db]

theorem createSync_ok {tx : Nat} {entry : SyncEntry} {w w₁ : World}
    (h : s.createSync tx entry w = (.ok (), w₁)) :
    w₁.db = w.db.write tx [.createSync entry] := by
  have db := s.statement_db tx (.createSync entry.id) w
  rcases hs : s.statement tx (.createSync entry.id) w with ⟨_ | ⟨⟩, w'⟩ <;>
    simp only [createSync, hs] at h db
  · cases h
  · cases h
    rw [db]

theorem deleteSync_ok {tx : Nat} {id : String} {w w₁ : World}
    (h : s.deleteSync tx id w = (.ok (), w₁)) :
    w₁.db = w.db.write tx [.deleteSync id] := by
  have db := s.statement_db tx (.deleteSync id) w
  rcases hs : s.statement tx (.deleteSync id) w with ⟨_ | ⟨⟩, w'⟩ <;>
    simp only [deleteSync, hs] at h db
  · cases h
  · cases h
    rw [db]

theorem commit_ok {tx : Nat} {w w₁ : World} (h : s.commit tx w = (.ok (), w₁)) :
    w₁.db = w.db.commit tx := by
  unfold commit at h
  split at h
  · split at h
    · cases h
    · cases h
      rfl
  · cases h

/-- A completion that is not a dry run either fails at its commit, which applies nothing, or
has committed `tx`, whatever its notification reports after the commit. -/
theorem completeTransaction_commits (tx : Nat) (updatedApps : List AppPathDomain) (op : String)
    (w : World) :
    ((∃ e, (s.completeTransaction tx updatedApps false op w).1 = .error e) ∧
      (s.completeTransaction tx updatedApps false op w).2.db.committed = w.db.committed) ∨
    (s.completeTransaction tx updatedApps false op w).2.db = w.db.commit tx := by
  rcases s.completeTransaction_cases tx updatedApps false op w with
    ⟨h, -⟩ | ⟨-, e, w₁, committed, h⟩ | ⟨-, w₁, committed, h⟩
  · cases h
  · have same := s.committed_of_commit_error (h := congrArg Prod.fst committed)
    rw [committed] at same
    exact .inl ⟨⟨e, by rw [h]⟩, by rw [h]; exact same⟩
  · have applied := s.commit_ok committed
    rw [h]
    exact .inr applied

end Server

theorem newSyncMetadata_db (s : Server) (scheduled : Bool) (sync : SyncMetadata) (w : World) :
    (newSyncMetadata s scheduled sync w).2.db = w.db := by
  have random : (s.random w).2.db = w.db := rfl
  unfold newSyncMetadata
  split
  · rcases h : s.random w with ⟨_ | _, w₁⟩ <;> rw [h] at random <;> exact random
  · split <;> rfl

/-! ## Writes to the app tables -/

/-- From `w` to `w'` nothing was committed, and transaction `tx`, when open in `w`, stayed
open and gained only writes to the app tables. -/
def AppWritesOn (tx : Nat) (w w' : World) : Prop :=
  w'.db.committed = w.db.committed ∧ (w.db.isOpen tx = true →
    w'.db.isOpen tx = true ∧ ∃ changes : List String,
      w'.db.pending tx = w.db.pending tx ++ changes.map .app)

namespace AppWritesOn

variable {tx : Nat} {w₁ w₂ w₃ : World}

theorem of_db (h : w₂.db = w₁.db) : AppWritesOn tx w₁ w₂ := by
  rw [AppWritesOn, h]
  exact ⟨rfl, fun isOpen => ⟨isOpen, [], by simp⟩⟩

theorem refl (w : World) : AppWritesOn tx w w := of_db rfl

theorem trans (h₁ : AppWritesOn tx w₁ w₂) (h₂ : AppWritesOn tx w₂ w₃) : AppWritesOn tx w₁ w₃ := by
  obtain ⟨committed₁, open₁⟩ := h₁
  obtain ⟨committed₂, open₂⟩ := h₂
  refine ⟨committed₂.trans committed₁, fun isOpen => ?_⟩
  obtain ⟨isOpen₂, changes₁, pending₂⟩ := open₁ isOpen
  obtain ⟨isOpen₃, changes₂, pending₃⟩ := open₂ isOpen₂
  exact ⟨isOpen₃, changes₁ ++ changes₂, by simp [pending₃, pending₂]⟩

/-- Writes to the app tables through `tx` itself. -/
theorem of_write (changes : List String) (h : w₂.db = w₁.db.write tx (changes.map .app)) :
    AppWritesOn tx w₁ w₂ := by
  rw [AppWritesOn, h]
  exact ⟨rfl, fun isOpen => ⟨by rwa [Db.isOpen_write], changes, Db.pending_write_self isOpen _⟩⟩

end AppWritesOn

section

variable (s : Server)

theorem appWritesOn_reloadApps (tx : Nat) (entry : SyncEntry) (repoCache : Nat)
    (appMap : List (AppPathDomain × AppEntry)) :
    ∀ (apps : List AppPathDomain) (status : SyncJobStatus) (acc : ReloadResults) (w : World),
    AppWritesOn tx w (reloadApps s tx entry repoCache appMap apps status acc w).2
  | [], _, _, w => .refl w
  | a :: rest, status, acc, w => by
    simp only [reloadApps]
    split
    · exact .refl w
    next app _ =>
    have reload : AppWritesOn tx w (s.reloadApp (reloadCall tx entry app repoCache) w).2 :=
      .of_write _ rfl
    split
    · next w₁ reloaded => rwa [reloaded] at reload
    · next w₁ reloaded =>
      rw [reloaded] at reload
      exact reload.trans (appWritesOn_reloadApps tx entry repoCache appMap rest _ _ w₁)

/-- A job on transaction `tx` whose runs that return a status without an error wrote that
status to entry `id` through `tx`, last, after only writes to the app tables, and committed
nothing. -/
def SuccessWritesStatus (tx : Nat) (id : String) (m : Job (Except String JobResult)) : Prop :=
  ∀ w status updatedApps w', w.db.isOpen tx = true → m w = (.ok (status, updatedApps), w') →
    status.error = "" →
    ∃ w₁, AppWritesOn tx w w₁ ∧ w'.db = w₁.db.write tx [.updateSyncStatus id status]

theorem SuccessWritesStatus.of_error {tx : Nat} {id : String} (err : String) :
    SuccessWritesStatus tx id fun w => (.error err, w) := by
  intro w status updatedApps w' _ h
  cases h

/-- The end of a successful run on its caller's transaction is the write of its status. -/
theorem finishSyncJob_writes_status {inputTx : Transaction} {tx : Nat}
    (caller : inputTx.tx = some tx) {entry : SyncEntry} {dryRun : Bool} {status : SyncJobStatus}
    {applyInfo : AppApplyResponse} {updatedApps : List AppPathDomain} {w w' : World}
    {r : JobResult} (h : finishSyncJob s inputTx tx entry dryRun status applyInfo updatedApps w =
      (.ok r, w')) (ok : r.1.error = "") :
    w'.db = w.db.write tx [.updateSyncStatus entry.id r.1] := by
  obtain rfl := finishSyncJob_ok s h
  have ok : ¬status.error ≠ "" := not_not.mpr ok
  dsimp only [finishSyncJob] at h
  rw [if_neg ok] at h
  rcases hu : s.updateSyncStatus tx entry.id { status with applyResponse := applyInfo } w with
    ⟨_ | ⟨⟩, w₁⟩ <;> simp only [persistStatus, hu, caller, Option.some_ne_none, and_false,
      if_false] at h
  · cases h
  · obtain ⟨-, rfl⟩ := Prod.mk.inj h
    exact s.updateSyncStatus_ok hu

theorem afterApply_writes_status {inputTx : Transaction} {tx : Nat}
    (caller : inputTx.tx = some tx) {entry : SyncEntry}
    {onAppMissing : Job (Except String JobResult)} (hm : SuccessWritesStatus tx entry.id onAppMissing)
    (dryRun : Bool) (repoCache : Nat) (now : Time) (applyResult : Except String AppApplyResponse)
    (updatedApps : List AppPathDomain) :
    SuccessWritesStatus tx entry.id
      (afterApply s onAppMissing inputTx tx entry dryRun repoCache now applyResult updatedApps) := by
  intro w status apps w' isOpen h ok
  rcases afterApply_cases s onAppMissing inputTx tx entry dryRun repoCache now applyResult
    updatedApps w with hA | ⟨info, -, -, -, hA⟩ <;> rw [hA] at h
  · exact ⟨w, .refl w, finishSyncJob_writes_status s caller h ok⟩
  obtain ⟨lookups, -, outcome⟩ :=
    skipPath_cases s onAppMissing inputTx tx entry dryRun repoCache _ info updatedApps w
  have looked : AppWritesOn tx w { w with log := lookups ++ w.log } := .of_db rfl
  rcases outcome with ⟨hS, -⟩ | ⟨found, -, -, -, hS⟩ <;> rw [hS] at h
  · obtain ⟨w₁, writes, db⟩ := hm { w with log := lookups ++ w.log } _ _ _ isOpen h ok
    exact ⟨w₁, looked.trans writes, db⟩
  · exact ⟨_, looked.trans (appWritesOn_reloadApps s tx entry repoCache found _ _ {} _),
      finishSyncJob_writes_status s caller h ok⟩

theorem syncJobMain_writes_status {inputTx : Transaction} {tx : Nat}
    (caller : inputTx.tx = some tx) {entry : SyncEntry}
    {onAppMissing : Job (Except String JobResult)} (hm : SuccessWritesStatus tx entry.id onAppMissing)
    (dryRun checkCommitHash : Bool) (repoCache : Nat) :
    SuccessWritesStatus tx entry.id
      (syncJobMain s onAppMissing inputTx tx entry dryRun checkCommitHash repoCache) := by
  intro w status apps w' isOpen h ok
  obtain ⟨now, w₂, -, db₂, main⟩ :=
    syncJobMain_eq s onAppMissing inputTx tx entry dryRun checkCommitHash repoCache w
  have applied : AppWritesOn tx w w₂ := .of_write _ db₂
  rw [main] at h
  obtain ⟨w₁, writes, db⟩ := afterApply_writes_status s caller hm dryRun repoCache now _ _
    w₂ status apps w' (applied.2 isOpen).1 h ok
  exact ⟨w₁, applied.trans writes, db⟩

theorem attempt_writes_status {inputTx : Transaction} {tx : Nat} (caller : inputTx.tx = some tx)
    {entry : SyncEntry} {rerun : Nat → Job (Except String JobResult)}
    (hr : ∀ rc, SuccessWritesStatus tx entry.id (rerun rc)) (dryRun checkCommitHash : Bool)
    (repoCache : Nat) :
    SuccessWritesStatus tx entry.id (attempt s rerun inputTx entry dryRun checkCommitHash tx repoCache) := by
  apply syncJobMain_writes_status s caller
  cases checkCommitHash
  · exact .of_error _
  · exact hr repoCache

/-- A run on a cache of its own creates the cache and cleans it up, which leaves the store
alone. -/
theorem withRepoCache_ok {α : Type} {repoCache : Option Nat} {body : Nat → Job (Except String α)}
    {w w' : World} {r : α} (h : withRepoCache s repoCache body w = (.ok r, w')) :
    ∃ rc w₁ w₂, w₁.db = w.db ∧ body rc w₁ = (.ok r, w₂) ∧ w'.db = w₂.db := by
  rcases repoCache with _ | rc
  · have db := s.newRepoCache_db w
    rcases hc : s.newRepoCache w with ⟨_ | rc, w₁⟩ <;>
      simp only [withRepoCache, Server.inRepoCache, deferring, hc] at h db
    · cases h
    · exact ⟨rc, w₁, _, db, Prod.ext (Prod.mk.inj h).1 rfl, by rw [← (Prod.mk.inj h).2]; rfl⟩
  · exact ⟨rc, w, w', rfl, h, rfl⟩

theorem runSyncJobWith_writes_status {tx : Nat} {entry : SyncEntry} {nested : Bool}
    {rerun : Nat → Job (Except String JobResult)}
    (hr : ∀ rc, SuccessWritesStatus tx entry.id (rerun rc)) (dryRun checkCommitHash : Bool)
    (repoCache : Option Nat) :
    SuccessWritesStatus tx entry.id
      (runSyncJobWith s nested rerun ⟨some tx⟩ entry dryRun checkCommitHash repoCache) := by
  intro w status apps w' isOpen h ok
  obtain ⟨rc, w₁, w₂, db₁, run, db₂⟩ := withRepoCache_ok s h
  obtain ⟨w₃, writes, db⟩ := attempt_writes_status s rfl hr dryRun checkCommitHash rc w₁ status
    apps w₂ (by rwa [db₁]) run ok
  exact ⟨w₃, (AppWritesOn.of_db db₁).trans writes, db₂.trans db⟩

end

/-- **A successful run writes its status.** A run on its caller's transaction `tx` that
returns a status without an error has, after only writes to the app tables, written that
status to its entry through `tx`, and committed nothing. -/
theorem runSyncJob_writes_status (s : Server) (tx : Nat) (entry : SyncEntry)
    (dryRun checkCommitHash : Bool) (repoCache : Option Nat) :
    SuccessWritesStatus tx entry.id (runSyncJob s ⟨some tx⟩ entry dryRun checkCommitHash repoCache) :=
  runSyncJobWith_writes_status s
    (fun _ => runSyncJobWith_writes_status s (fun _ => .of_error _) dryRun false _)
    dryRun checkCommitHash repoCache

/-! ## What the operations commit -/

/-- A transaction that only gained app writes sees what it saw before, with those writes. -/
theorem view_of_appWrites {tx : Nat} {w w₁ : World} (writes : AppWritesOn tx w w₁)
    (isOpen : w.db.isOpen tx = true) :
    ∃ changes : List String, w₁.db.isOpen tx = true ∧
      w₁.db.view tx = (w.db.view tx).writeAll (changes.map .app) := by
  obtain ⟨committed, keeps⟩ := writes
  obtain ⟨isOpen₁, changes, pending₁⟩ := keeps isOpen
  exact ⟨changes, isOpen₁, by rw [Db.view, Db.view, pending₁, committed, Store.writeAll_append]⟩

/-- **What `RunSync` commits.** Either the call fails before its commit or is a dry run, and
commits nothing; or it commits, for an entry the store held, the app writes of the run
followed by the entry's new status, a status without an error, and then returns that status
or the error of the notification that follows the commit. -/
theorem runSync_committed (s : Server) (id : String) (dryRun : Bool) (w : World) :
    (((∃ e, (runSync s id dryRun w).1 = .error e) ∨ dryRun = true) ∧
      (runSync s id dryRun w).2.db.committed = w.db.committed) ∨
    ∃ (status : SyncJobStatus) (changes : List String), dryRun = false ∧
      ((runSync s id dryRun w).1 = .ok status ∨ ∃ e, (runSync s id dryRun w).1 = .error e) ∧
      status.error = "" ∧ (w.db.committed.find? id).isSome ∧
      (runSync s id dryRun w).2.db.committed =
        (w.db.committed.writeAll (changes.map .app)).write (.updateSyncStatus id status) := by
  unfold runSync
  rcases s.inTransaction_cases _ w with ⟨e, w₁, begun, h⟩ | ⟨tx, w₁, begun, h⟩ <;> rw [h]
  · exact .inl ⟨.inl ⟨e, rfl⟩, ((s.adds_beginTransaction w).of_eq begun).committed_eq (by decide)⟩
  obtain ⟨committed₁, open₁, pending₁⟩ := s.beginTransaction_ok begun
  have view₁ : w₁.db.view tx = w.db.committed := by rw [Db.view, pending₁, committed₁]; rfl
  simp only [rollback_committed]
  rcases read : s.getSyncEntry tx id w₁ with ⟨_ | entry, w₂⟩ <;> simp only [read]
  · exact .inl ⟨.inl ⟨_, rfl⟩, by
      rw [((s.adds_getSyncEntry tx id w₁).of_eq read).committed_eq (by decide), committed₁]⟩
  obtain ⟨found, db₂⟩ := s.getSyncEntry_ok read
  have sameId : entry.id = id := by simpa [Store.find?] using List.find?_some found
  have ran := committed_runSyncJob_of_caller s
    (show (⟨some tx⟩ : Transaction).tx ≠ none by simp) entry dryRun true none w₂
  rcases run : runSyncJob s ⟨some tx⟩ entry dryRun true none w₂ with ⟨_ | ⟨status, apps⟩, w₃⟩ <;>
    rw [run] at ran <;> simp only [run]
  · exact .inl ⟨.inl ⟨_, rfl⟩, by rw [ran, db₂, committed₁]⟩
  by_cases failed : status.error ≠ ""
  · rw [if_pos failed]
    exact .inl ⟨.inl ⟨_, rfl⟩, by rw [ran, db₂, committed₁]⟩
  rw [if_neg failed]
  cases dryRun; swap
  · exact .inl ⟨.inr rfl, by rw [s.completeTransaction_dryRun]; rw [ran, db₂, committed₁]⟩
  obtain ⟨w₅, writes, db₃⟩ := runSyncJob_writes_status s tx entry false true none w₂ status apps w₃
    (by rw [db₂]; exact open₁) run (not_not.mp failed)
  obtain ⟨changes, open₅, view₅⟩ := view_of_appWrites writes (by rw [db₂]; exact open₁)
  have held : (w.db.committed.find? id).isSome := by rw [← view₁, found]; rfl
  have success : ∀ w₄ : World, w₄.db = w₃.db.commit tx →
      w₄.db.committed =
        (w.db.committed.writeAll (changes.map .app)).write (.updateSyncStatus id status) := by
    intro w₄ db₄
    rw [db₄, Db.committed_commit, db₃, Db.view_write_self open₅, view₅, db₂, view₁, sameId]
    rfl
  have commits := s.completeTransaction_commits tx apps "sync_run" w₃
  rcases done : s.completeTransaction tx apps false "sync_run" w₃ with ⟨_ | ⟨⟩, w₄⟩ <;>
    rw [done] at commits
  · rcases commits with ⟨-, same⟩ | db₄
    · exact .inl ⟨.inl ⟨_, rfl⟩, (same.trans (by rw [ran, db₂, committed₁]) :)⟩
    · exact .inr ⟨status, changes, rfl, .inr ⟨_, rfl⟩, not_not.mp failed, held, success w₄ db₄⟩
  · rcases commits with ⟨⟨e, notifyFailed⟩, -⟩ | db₄
    · cases notifyFailed
    · exact .inr ⟨status, changes, rfl, .inl rfl, not_not.mp failed, held, success w₄ db₄⟩

/-- **RunSync commits only on success.** Whatever a `RunSync` reports (the notification that
follows its commit may still fail), it commits nothing, or, when it is not a dry run, the app
writes of its run followed by a status without an error for the entry it ran. -/
theorem runSync_commits_only_on_success (s : Server) (id : String) (dryRun : Bool) (w : World) :
    (runSync s id dryRun w).2.db.committed = w.db.committed ∨
    ∃ (status : SyncJobStatus) (changes : List String), dryRun = false ∧ status.error = "" ∧
      (runSync s id dryRun w).2.db.committed =
        (w.db.committed.writeAll (changes.map .app)).write (.updateSyncStatus id status) := by
  rcases runSync_committed s id dryRun w with ⟨-, same⟩ | ⟨status, changes, notDry, -, ok, -, now⟩
  · exact .inl same
  · exact .inr ⟨status, changes, notDry, ok, now⟩

/-- **RunSync commits what it returns.** A `RunSync` that is not a dry run and returns a
status has committed that status to the entry it ran. -/
theorem runSync_commits_status (s : Server) (id : String) (w : World) {status : SyncJobStatus}
    (ok : (runSync s id false w).1 = .ok status) :
    ((runSync s id false w).2.db.committed.find? id).map SyncEntry.status = some status := by
  rcases runSync_committed s id false w with
    ⟨⟨e, failed⟩ | dry, -⟩ | ⟨status', changes, -, ok' | ⟨e, failed⟩, -, found, committed⟩
  · rw [ok] at failed
    cases failed
  · cases dry
  · rw [ok] at ok'
    cases ok'
    rw [committed]
    exact Store.status_updateSyncStatus
      (by rwa [Store.find?_eq_of_syncs_eq (Store.syncs_writeAll_app _ _)]) _
  · rw [ok] at failed
    cases failed

/-- The status of a run at second 1000 whose `Apply` succeeded without a skip. -/
def okStatus : SyncJobStatus :=
  { lastExecutionTime := ⟨1000#64, 0⟩, isApply := true, state := "Enabled" }

theorem runSync_commits_status_demo :
    (runSync (demoServer (.ok {})) demoEntry.id false demoWorld).1 = .ok okStatus ∧
    ((runSync (demoServer (.ok {})) demoEntry.id false demoWorld).2.db.committed.find?
      demoEntry.id).map SyncEntry.status = some okStatus :=
  ⟨rfl, runSync_commits_status _ _ _ rfl⟩

/-- **What `CreateSyncEntry` commits.** Either the call fails before its commit or is a dry
run, and commits nothing; or it commits the new entry under the id of its response, the app
writes of its first run and the status of its response, a status without an error, and then
returns that response or the error of the notification that follows the commit. -/
theorem createSyncEntry_committed (s : Server) (userId path : String) (scheduled dryRun : Bool)
    (sync : SyncMetadata) (w : World) :
    (((∃ e, (createSyncEntry s userId path scheduled dryRun sync w).1 = .error e) ∨
        dryRun = true) ∧
      (createSyncEntry s userId path scheduled dryRun sync w).2.db.committed = w.db.committed) ∨
    ∃ (ret : SyncCreateResponse) (metadata : SyncMetadata) (changes : List String),
      dryRun = false ∧ ((createSyncEntry s userId path scheduled dryRun sync w).1 = .ok ret ∨
        ∃ e, (createSyncEntry s userId path scheduled dryRun sync w).1 = .error e) ∧
      ret.syncJobStatus.error = "" ∧
      (createSyncEntry s userId path scheduled dryRun sync w).2.db.committed =
        ((w.db.committed.write (.createSync { id := ret.id, path := path, isScheduled := scheduled
                                              userId := userId, metadata := metadata })).writeAll
          (changes.map .app)).write (.updateSyncStatus ret.id ret.syncJobStatus) := by
  unfold createSyncEntry
  rcases s.inTransaction_cases _ w with ⟨e, w₁, begun, h⟩ | ⟨tx, w₁, begun, h⟩ <;> rw [h]
  · exact .inl ⟨.inl ⟨e, rfl⟩, ((s.adds_beginTransaction w).of_eq begun).committed_eq (by decide)⟩
  obtain ⟨committed₁, open₁, pending₁⟩ := s.beginTransaction_ok begun
  have view₁ : w₁.db.view tx = w.db.committed := by rw [Db.view, pending₁, committed₁]; rfl
  simp only [rollback_committed]
  rcases gen : s.random w₁ with ⟨_ | genId, w₂⟩ <;> simp only [gen]
  · exact .inl ⟨.inl ⟨_, rfl⟩, by rw [← committed₁, ← show (s.random w₁).2 = w₂ by rw [gen]]; rfl⟩
  have db₂ : w₂.db = w₁.db := by rw [← show (s.random w₁).2 = w₂ by rw [gen]]; rfl
  rcases meta : newSyncMetadata s scheduled sync w₂ with ⟨_ | metadata, w₃⟩ <;> simp only [meta]
  · exact .inl ⟨.inl ⟨_, rfl⟩, by
      rw [← committed₁, ← db₂, ← newSyncMetadata_db s scheduled sync w₂, meta]⟩
  have db₃ : w₃.db = w₁.db := by rw [← db₂, ← newSyncMetadata_db s scheduled sync w₂, meta]
  generalize hE : ({ id := "cl_syn_" ++ toLower genId, path := path, isScheduled := scheduled,
                     userId := userId, metadata := metadata } : SyncEntry) = entry
  rcases created : s.createSync tx entry w₃ with ⟨_ | ⟨⟩, w₄⟩ <;> simp only [created]
  · exact .inl ⟨.inl ⟨_, rfl⟩, by
      rw [((s.adds_createSync tx entry w₃).of_eq created).committed_eq (by decide), db₃, committed₁]⟩
  have db₄ := s.createSync_ok created
  have open₄ : w₄.db.isOpen tx = true := by rw [db₄, Db.isOpen_write, db₃]; exact open₁
  have view₄ : w₄.db.view tx = w.db.committed.write (.createSync entry) := by
    rw [db₄, Db.view_write_self (by rw [db₃]; exact open₁), db₃, view₁]
    rfl
  have ran := committed_runSyncJob_of_caller s
    (show (⟨some tx⟩ : Transaction).tx ≠ none by simp) entry dryRun true none w₄
  have same₄ : w₄.db.committed = w.db.committed := by rw [db₄, Db.committed_write, db₃, committed₁]
  rcases run : runSyncJob s ⟨some tx⟩ entry dryRun true none w₄ with ⟨_ | ⟨status, apps⟩, w₅⟩ <;>
    rw [run] at ran <;> simp only [run]
  · exact .inl ⟨.inl ⟨_, rfl⟩, ran.trans same₄⟩
  by_cases failed : status.error ≠ ""
  · rw [if_pos failed]
    exact .inl ⟨.inl ⟨_, rfl⟩, ran.trans same₄⟩
  rw [if_neg failed]
  cases dryRun; swap
  · exact .inl ⟨.inr rfl, by rw [s.completeTransaction_dryRun]; exact ran.trans same₄⟩
  obtain ⟨w₇, writes, db₅⟩ := runSyncJob_writes_status s tx entry false true none w₄ status apps w₅
    open₄ run (not_not.mp failed)
  obtain ⟨changes, open₇, view₇⟩ := view_of_appWrites writes open₄
  subst hE
  have success : ∀ w₆ : World, w₆.db = w₅.db.commit tx → w₆.db.committed =
      ((w.db.committed.write (.createSync
          { id := "cl_syn_" ++ toLower genId, path := path, isScheduled := scheduled
            userId := userId, metadata := metadata })).writeAll
        (changes.map .app)).write (.updateSyncStatus ("cl_syn_" ++ toLower genId) status) := by
    intro w₆ db₆
    rw [db₆, Db.committed_commit, db₅, Db.view_write_self open₇, view₇, view₄]
    rfl
  have commits := s.completeTransaction_commits tx apps "create_sync" w₅
  rcases done : s.completeTransaction tx apps false "create_sync" w₅ with ⟨_ | ⟨⟩, w₆⟩ <;>
    rw [done] at commits
  · rcases commits with ⟨-, same⟩ | db₆
    · exact .inl ⟨.inl ⟨_, rfl⟩, (same.trans (ran.trans same₄) :)⟩
    · let ret : SyncCreateResponse :=
        { id := "cl_syn_" ++ toLower genId, dryRun := false, webhookUrl := ""
          webhookSecret := metadata.webhookSecret
          scheduleFrequency := metadata.scheduleFrequency, syncJobStatus := status }
      exact .inr ⟨ret, metadata, changes, rfl, .inr ⟨_, rfl⟩, not_not.mp failed, success w₆ db₆⟩
  · rcases commits with ⟨⟨e, notifyFailed⟩, -⟩ | db₆
    · cases notifyFailed
    · exact .inr ⟨_, metadata, changes, rfl, .inl rfl, not_not.mp failed, success w₆ db₆⟩

/-- **CreateSyncEntry stores what it reports.** A `CreateSyncEntry` that is not a dry run
and returns has committed an entry under the id it reports, with the status it reports. -/
theorem createSyncEntry_commits_status (s : Server) (userId path : String) (scheduled : Bool)
    (sync : SyncMetadata) (w : World) {ret : SyncCreateResponse}
    (ok : (createSyncEntry s userId path scheduled false sync w).1 = .ok ret) :
    ((createSyncEntry s userId path scheduled false sync w).2.db.committed.find? ret.id).map
      SyncEntry.status = some ret.syncJobStatus := by
  rcases createSyncEntry_committed s userId path scheduled false sync w with
    ⟨⟨e, failed⟩ | dry, -⟩ | ⟨ret', metadata, changes, -, ok' | ⟨e, failed⟩, -, committed⟩
  · rw [ok] at failed
    cases failed
  · cases dry
  · rw [ok] at ok'
    cases ok'
    rw [committed]
    exact Store.status_updateSyncStatus (by
      rw [Store.find?_eq_of_syncs_eq (Store.syncs_writeAll_app _ _)]
      exact Store.find?_createSync _ _) _
  · rw [ok] at failed
    cases failed

theorem createSyncEntry_commits_status_demo :
    (createSyncEntry (demoServer (.ok {})) "admin" "github.com/org/apps" true false
      { scheduleFrequency := 5 } { db := { committed := {} } }).1 =
      .ok { dryRun := false, id := "cl_syn_r", webhookUrl := "", webhookSecret := ""
            scheduleFrequency := 5, syncJobStatus := okStatus } ∧
    ((createSyncEntry (demoServer (.ok {})) "admin" "github.com/org/apps" true false
      { scheduleFrequency := 5 } { db := { committed := {} } }).2.db.committed.find?
      "cl_syn_r").map SyncEntry.status = some okStatus :=
  have ok : (createSyncEntry (demoServer (.ok {})) "admin" "github.com/org/apps" true false
      { scheduleFrequency := 5 } { db := { committed := {} } }).1 =
      .ok { dryRun := false, id := "cl_syn_r", webhookUrl := "", webhookSecret := ""
            scheduleFrequency := 5, syncJobStatus := okStatus } := rfl
  ⟨ok, (createSyncEntry_commits_status (demoServer (.ok {})) "admin" "github.com/org/apps" true
    { scheduleFrequency := 5 } { db := { committed := {} } } ok :)⟩

/-- **What `DeleteSyncEntry` commits.** Either the call fails or is a dry run, and commits
nothing; or it returns and commits the deletion of the id. -/
theorem deleteSyncEntry_committed (s : Server) (id : String) (dryRun : Bool) (w : World) :
    (((∃ e, (deleteSyncEntry s id dryRun w).1 = .error e) ∨ dryRun = true) ∧
      (deleteSyncEntry s id dryRun w).2.db.committed = w.db.committed) ∨
    dryRun = false ∧ (∃ ret, (deleteSyncEntry s id dryRun w).1 = .ok ret) ∧
      (deleteSyncEntry s id dryRun w).2.db.committed = w.db.committed.write (.deleteSync id) := by
  unfold deleteSyncEntry
  rcases s.inTransaction_cases _ w with ⟨e, w₁, begun, h⟩ | ⟨tx, w₁, begun, h⟩ <;> rw [h]
  · exact .inl ⟨.inl ⟨e, rfl⟩, ((s.adds_beginTransaction w).of_eq begun).committed_eq (by decide)⟩
  obtain ⟨committed₁, open₁, pending₁⟩ := s.beginTransaction_ok begun
  simp only [rollback_committed]
  rcases deleted : s.deleteSync tx id w₁ with ⟨_ | ⟨⟩, w₂⟩ <;> simp only [deleted]
  · exact .inl ⟨.inl ⟨_, rfl⟩, by
      rw [((s.adds_deleteSync tx id w₁).of_eq deleted).committed_eq (by decide), committed₁]⟩
  have same₂ : w₂.db.committed = w.db.committed := by
    rw [s.deleteSync_ok deleted, Db.committed_write, committed₁]
  cases dryRun; swap
  · exact .inl ⟨.inr rfl, same₂⟩
  rcases done : s.commit tx w₂ with ⟨_ | ⟨⟩, w₃⟩
  · have same := s.committed_of_commit_error (h := congrArg Prod.fst done)
    rw [done] at same
    exact .inl ⟨.inl ⟨_, rfl⟩, (same.trans same₂ :)⟩
  refine .inr ⟨rfl, ⟨_, rfl⟩, ?_⟩
  show w₃.db.committed = _
  rw [s.commit_ok done, Db.committed_commit, s.deleteSync_ok deleted, Db.view_write_self open₁,
    Db.view, pending₁, committed₁]
  rfl

end OpenRun.Sync
