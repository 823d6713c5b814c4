import OpenRun.Sync.Types

/-!
# The metadata store, the collaborators and the event log

A sync job talks to the world through transactions of the metadata store and through
collaborators that this repository does not implement here: `Apply`, `ReloadApp`, the
app lookup `GetAppTx`, the repository cache constructor, the clock and the id generator.
This module fixes what each of them can do.

The store (`Db`) has a committed part and the pending writes of each open transaction.
`Db.commit` applies the pending writes of one transaction to the committed part and
`Db.close` discards them; a statement on a transaction that is no longer open fails with
`database/sql`'s `ErrTxDone` (`txDoneError`), and rolling back such a transaction does
nothing, as `Tx.Rollback` does.

A `Server` is the receiver of the Go methods: the configuration, plus one oracle per
collaborator. Each oracle sees the whole log of events so far, so any sequence of
outcomes of any collaborator is the behaviour of some `Server`: theorems that hold for
every `Server` hold for every outcome of every call. Every call is recorded in the log
(`World.log`, newest first) together with its outcome, and the statements of the later
modules are about that log. A call of `runSyncJob` is recorded with all its arguments, and
the one call the function makes of itself is marked as nested, so that the calls its callers
make can be told apart from it whatever their flags.

`CompleteTransaction` is not under src/; the spec has it commit and then perform any
post-commit notification, reporting an error of either. The model commits, then notifies
with an outcome of its own, so that a completion can fail after its commit.
-/

set_option autoImplicit false

namespace OpenRun.Sync

open Go

/-- `types.Transaction`; `tx = none` is the zero value with which a caller asks
`runSyncJob` to open a transaction of its own. -/
structure Transaction where
  tx : Option Nat
deriving DecidableEq, Repr

/-- A write made through a transaction. `app` stands for a write of the apply or reload
engine to the app tables, which this model does not look into. -/
inductive Write where
  | createSync (entry : SyncEntry)
  | updateSyncStatus (id : String) (status : SyncJobStatus)
  | deleteSync (id : String)
  | app (change : String)
deriving DecidableEq, Repr

/-- The content of the metadata store: the sync entries and the app-table writes. -/
structure Store where
  syncs : List SyncEntry := []
  apps : List String := []
deriving DecidableEq, Repr

namespace Store

/-- The effect of one write on the store. -/
def write (st : Store) : Write → Store
  | .createSync entry => { st with syncs := st.syncs ++ [entry] }
  | .updateSyncStatus id status =>
    { st with syncs := st.syncs.map fun e => if e.id = id then { e with status } else e }
  | .deleteSync id => { st with syncs := st.syncs.filter fun e => e.id ≠ id }
  | .app change => { st with apps := st.apps ++ [change] }

/-- The effect of a list of writes, oldest first. -/
def writeAll (st : Store) (ws : List Write) : Store := ws.foldl write st

/-- The stored entry with id `id`. -/
def find? (st : Store) (id : String) : Option SyncEntry := st.syncs.find? fun e => e.id = id

@[simp] theorem writeAll_append (st : Store) (ws ws' : List Write) :
    st.writeAll (ws ++ ws') = (st.writeAll ws).writeAll ws' :=
  List.foldl_append _ _ _ _

/-- Writes to the app tables leave the sync entries alone. -/
@[simp] theorem syncs_writeAll_app (st : Store) (changes : List String) :
    (st.writeAll (changes.map .app)).syncs = st.syncs := by
  induction changes generalizing st with
  | nil => rfl
  | cons change changes ih => exact ih (st.write (.app change))

theorem find?_eq_of_syncs_eq {st st' : Store} (h : st'.syncs = st.syncs) (id : String) :
    st'.find? id = st.find? id := by
  rw [find?, find?, h]

/-- A created entry can be looked up by its id. -/
theorem find?_createSync (st : Store) (entry : SyncEntry) :
    ((st.write (.createSync entry)).find? entry.id).isSome := by
  simp [find?, write, List.find?_append]

/-- A status update of `id` is what a later lookup of `id` sees. -/
theorem find?_updateSyncStatus (st : Store) (id : String) (status : SyncJobStatus) :
    (st.write (.updateSyncStatus id status)).find? id = (st.find? id).map fun e => { e with status } := by
  have sameId : ((fun e : SyncEntry => decide (e.id = id)) ∘
      fun e => if e.id = id then { e with status } else e) = fun e => decide (e.id = id) := by
    funext e
    simp only [Function.comp]
    split <;> rfl
  simp only [find?, write, List.find?_map, sameId]
  cases found : st.syncs.find? (fun e => decide (e.id = id)) with
  | none => rfl
  | some e => simp [show e.id = id by simpa using List.find?_some found]

/-- After a status update of an entry the store holds, the entry has that status. -/
theorem status_updateSyncStatus {st : Store} {id : String} (found : (st.find? id).isSome)
    (status : SyncJobStatus) :
    ((st.write (.updateSyncStatus id status)).find? id).map SyncEntry.status = some status := by
  obtain ⟨entry, h⟩ := Option.isSome_iff_exists.mp found
  rw [find?_updateSyncStatus, h]
  rfl

end Store

/-- The metadata store: its committed content, the open transactions with their pending
writes (oldest first), and the id the next transaction gets. Ids are handed out in
increasing order, so no open transaction has that id yet (`fresh`). -/
structure Db where
  committed : Store
  txs : List (Nat × List Write) := []
  nextTx : Nat := 0
  fresh : ∀ p ∈ txs, p.1 < nextTx := by simp
deriving DecidableEq, Repr

namespace Db

/-- Whether transaction `tx` is open. -/
def isOpen (db : Db) (tx : Nat) : Bool := db.txs.any fun p => p.1 == tx

/-- The pending writes of transaction `tx`. -/
def pending (db : Db) (tx : Nat) : List Write :=
  ((db.txs.find? fun p => p.1 == tx).map Prod.snd).getD []

/-- Open a transaction with id `nextTx`. -/
def begin (db : Db) : Db where
  committed := db.committed
  txs := db.txs ++ [(db.nextTx, [])]
  nextTx := db.nextTx + 1
  fresh p mem := by
    rcases List.mem_append.mp mem with old | new
    · exact Nat.lt_succ_of_lt (db.fresh p old)
    · rw [List.mem_singleton.mp new]
      exact Nat.lt_succ_self _

/-- Forget transaction `tx` and its pending writes. -/
def close (db : Db) (tx : Nat) : Db :=
  { db with
    txs := db.txs.filter fun p => p.1 != tx
    fresh := fun p mem => db.fresh p (List.mem_of_mem_filter mem) }

/-- Add writes to the pending writes of transaction `tx`. -/
def write (db : Db) (tx : Nat) (ws : List Write) : Db :=
  { db with
    txs := db.txs.map fun p => if p.1 == tx then (p.1, p.2 ++ ws) else p
    fresh := fun p mem => by
      obtain ⟨q, old, rfl⟩ := List.mem_map.mp mem
      split <;> exact db.fresh q old }

/-- Apply the pending writes of `tx` to the committed content and close it. -/
def commit (db : Db) (tx : Nat) : Db :=
  { db.close tx with committed := db.committed.writeAll (db.pending tx) }

/-- What a statement through `tx` reads: the committed content and its own writes. -/
def view (db : Db) (tx : Nat) : Store := db.committed.writeAll (db.pending tx)

@[simp] theorem committed_write (db : Db) (tx : Nat) (ws : List Write) :
    (db.write tx ws).committed = db.committed := rfl

/-- A commit makes what the transaction saw the committed content. -/
@[simp] theorem committed_commit (db : Db) (tx : Nat) : (db.commit tx).committed = db.view tx :=
  rfl

@[simp] theorem isOpen_write (db : Db) (t tx : Nat) (ws : List Write) :
    (db.write t ws).isOpen tx = db.isOpen tx := by
  simp only [isOpen, write, List.any_map]
  congr 1
  funext p
  simp only [Function.comp]
  split <;> rfl

theorem isOpen_begin (db : Db) : db.begin.isOpen db.nextTx = true := by
  simp [isOpen, begin]

/-- A transaction just begun has no pending writes. -/
theorem pending_begin (db : Db) : db.begin.pending db.nextTx = [] := by
  have older : db.txs.find? (fun p => p.1 == db.nextTx) = none :=
    List.find?_eq_none.mpr fun p mem => by simpa using Nat.ne_of_lt (db.fresh p mem)
  simp [pending, begin, List.find?_append, older]

/-- Writes through an open transaction are appended to its pending writes. -/
theorem pending_write_self {db : Db} {tx : Nat} (isOpen : db.isOpen tx = true) (ws : List Write) :
    (db.write tx ws).pending tx = db.pending tx ++ ws := by
  obtain ⟨p, found⟩ :=
    Option.isSome_iff_exists.mp (List.find?_isSome.mpr (List.any_eq_true.mp isOpen))
  have sameTx : p.1 = tx := by simpa using List.find?_some found
  have keepsTx : ((fun q : Nat × List Write => q.1 == tx) ∘
      fun q => if q.1 == tx then (q.1, q.2 ++ ws) else q) = fun q => q.1 == tx := by
    funext q
    simp only [Function.comp]
    split <;> rfl
  simp only [pending, write, List.find?_map, keepsTx, found]
  simp [sameTx]

/-- A transaction sees its own writes after what it saw before. -/
theorem view_write_self {db : Db} {tx : Nat} (isOpen : db.isOpen tx = true) (ws : List Write) :
    (db.write tx ws).view tx = (db.view tx).writeAll ws := by
  rw [view, view, committed_write, pending_write_self isOpen, Store.writeAll_append]

end Db

/-- The text of `database/sql`'s `ErrTxDone`. -/
def txDoneError : String := "sql: transaction has already been committed or rolled back"

/-- The error of a lookup of a sync id the store does not hold. The store layer is not
under src/; the text stands for whatever it reports. -/
def syncNotFoundError : String := "sync entry not found"

/-- The arguments `runSyncJob` hands to `Apply`. -/
structure ApplyCall where
  tx : Nat
  path : String
  scope : String
  approve : Bool
  dryRun : Bool
  promote : Bool
  reloadOption : String
  gitBranch : String
  gitCommit : String
  gitAuth : String
  clobber : Bool
  forceReload : Bool
  lastRunCommitId : String
  repoCache : Nat
  isWebhook : Bool
deriving DecidableEq, Repr

/-- The arguments `runSyncJob` hands to `ReloadApp`. -/
structure ReloadCall where
  tx : Nat
  app : AppEntry
  approve : Bool
  dryRun : Bool
  promote : Bool
  gitBranch : String
  gitCommit : String
  gitAuth : String
  repoCache : Nat
  forceReload : Bool
deriving DecidableEq, Repr

/-- A statement of the metadata store, as it appears in the log. -/
inductive StoreOp where
  | createSync (id : String)
  | updateSyncStatus (id : String) (status : SyncJobStatus)
  | getSyncEntry (id : String)
  | getSyncEntries
  | deleteSync (id : String)
deriving DecidableEq, Repr

/-- The arguments of a call of `runSyncJob`: the caller's transaction, the entry, the flags
and the caller's cache. -/
structure RunCall where
  inputTx : Transaction
  entry : SyncEntry
  dryRun : Bool
  checkCommitHash : Bool
  repoCache : Option Nat
deriving DecidableEq, Repr

/-- One call to the outside world and its outcome. A call of `runSyncJob` is recorded with
its arguments, and `nested` marks the call the function makes of itself. -/
inductive Event where
  | runSyncJob (nested : Bool) (call : RunCall)
  | beginTransaction (result : Except String Nat)
  | commit (tx : Nat) (result : Except String Unit)
  | notify (updatedApps : List AppPathDomain) (op : String) (result : Except String Unit)
  | rollback (tx : Nat)
  | newRepoCache (result : Except String Nat)
  | cleanup (repoCache : Nat)
  | now (t : Time)
  | random (result : Except String String)
  | store (tx : Nat) (op : StoreOp) (result : Except String Unit)
  | apply (call : ApplyCall) (result : Except String AppApplyResponse)
  | getAppTx (tx : Nat) (app : AppPathDomain) (result : Except String AppEntry)
  | reloadApp (call : ReloadCall) (result : Except String AppReloadResult)

/-- What one `Apply` call does: its writes through the transaction, the apps it reports
updated, and its response or error. -/
structure ApplyOutcome where
  writes : List String
  updatedApps : List AppPathDomain
  result : Except String AppApplyResponse

/-- What one `ReloadApp` call does: its writes through the transaction and its result. -/
structure ReloadOutcome where
  writes : List String
  result : Except String AppReloadResult

/-- The receiver of the sync methods: the configuration and the behaviour of every
collaborator, each decided from the log of the calls made so far. -/
structure Server where
  config : SystemConfig
  beginOutcome : List Event → Except String Unit
  commitOutcome : List Event → Except String Unit
  notifyOutcome : List Event → Except String Unit
  storeOutcome : List Event → Except String Unit
  newRepoCacheOutcome : List Event → Except String Unit
  clock : List Event → Time
  randomOutcome : List Event → Except String String
  applyOutcome : List Event → ApplyCall → ApplyOutcome
  getAppOutcome : List Event → AppPathDomain → Except String AppEntry
  reloadOutcome : List Event → ReloadCall → ReloadOutcome

/-- The state a sync operation runs in: the store, the log of events (newest first) and
the id of the next repository cache. -/
structure World where
  db : Db
  log : List Event := []
  nextRepoCache : Nat := 0

/-- A sync operation: a Go function, as a function of the world before it to its result
and the world after it. -/
abbrev Job (α : Type) := World → α × World

/-- Run `body`, then the deferred call, whatever `body` returned: Go's `defer`. -/
def deferring {α : Type} (deferred : World → World) (body : Job α) : Job α := fun w =>
  ((body w).1, deferred (body w).2)

/-- `Tx.Rollback`: a transaction that is no longer open is left alone. -/
def rollback (tx : Nat) (w : World) : World :=
  { w with db := w.db.close tx, log := .rollback tx :: w.log }

@[simp] theorem rollback_committed (tx : Nat) (w : World) :
    (rollback tx w).db.committed = w.db.committed := rfl

/-- `RepoCache.Cleanup`. -/
def cleanup (repoCache : Nat) (w : World) : World :=
  { w with log := .cleanup repoCache :: w.log }

namespace Server

variable (s : Server)

/-- `db.BeginTransaction`. -/
def beginTransaction : Job (Except String Nat) := fun w =>
  match s.beginOutcome w.log with
  | .error e => (.error e, { w with log := .beginTransaction (.error e) :: w.log })
  | .ok () =>
    (.ok w.db.nextTx,
      { w with db := w.db.begin, log := .beginTransaction (.ok w.db.nextTx) :: w.log })

/-- `Tx.Commit`: a failed commit closes the transaction without applying it. -/
def commit (tx : Nat) : Job (Except String Unit) := fun w =>
  if w.db.isOpen tx then
    match s.commitOutcome w.log with
    | .error e => (.error e, { w with db := w.db.close tx, log := .commit tx (.error e) :: w.log })
    | .ok () => (.ok (), { w with db := w.db.commit tx, log := .commit tx (.ok ()) :: w.log })
  else (.error txDoneError, { w with log := .commit tx (.error txDoneError) :: w.log })

/-- The post-commit notification of `CompleteTransaction` for the updated apps. It touches no
store state, and it can fail. -/
def notify (updatedApps : List AppPathDomain) (op : String) : Job (Except String Unit) := fun w =>
  (s.notifyOutcome w.log, { w with log := .notify updatedApps op (s.notifyOutcome w.log) :: w.log })

/-- Modelled from the spec: `CompleteTransaction` is not under src/. Unless the operation is a
dry run, it commits the transaction and then performs the post-commit notification, whose
error it returns after the commit. -/
def completeTransaction (tx : Nat) (updatedApps : List AppPathDomain) (dryRun : Bool)
    (op : String) : Job (Except String Unit) := fun w =>
  if dryRun then (.ok (), w)
  else
    match s.commit tx w with
    | (.error e, w) => (.error e, w)
    | (.ok (), w) => s.notify updatedApps op w

/-- One store statement through `tx`: it fails on a closed transaction, and otherwise as
the store decides. -/
def statement (tx : Nat) (op : StoreOp) : Job (Except String Unit) := fun w =>
  let r : Except String Unit := if w.db.isOpen tx then s.storeOutcome w.log else .error txDoneError
  (r, { w with log := .store tx op r :: w.log })

/-- `db.CreateSync`. -/
def createSync (tx : Nat) (entry : SyncEntry) : Job (Except String Unit) := fun w =>
  match s.statement tx (.createSync entry.id) w with
  | (.ok (), w') => (.ok (), { w' with db := w'.db.write tx [.createSync entry] })
  | (.error e, w') => (.error e, w')

/-- `db.UpdateSyncStatus`. -/
def updateSyncStatus (tx : Nat) (id : String) (status : SyncJobStatus) :
    Job (Except String Unit) := fun w =>
  match s.statement tx (.updateSyncStatus id status) w with
  | (.ok (), w') => (.ok (), { w' with db := w'.db.write tx [.updateSyncStatus id status] })
  | (.error e, w') => (.error e, w')

/-- `db.DeleteSync`. -/
def deleteSync (tx : Nat) (id : String) : Job (Except String Unit) := fun w =>
  match s.statement tx (.deleteSync id) w with
  | (.ok (), w') => (.ok (), { w' with db := w'.db.write tx [.deleteSync id] })
  | (.error e, w') => (.error e, w')

/-- `db.GetSyncEntry`: the entry as transaction `tx` sees it. -/
def getSyncEntry (tx : Nat) (id : String) : Job (Except String SyncEntry) := fun w =>
  match s.statement tx (.getSyncEntry id) w with
  | (.ok (), w') => ((w.db.view tx |>.find? id).elim (.error syncNotFoundError) .ok, w')
  | (.error e, w') => (.error e, w')

/-- `db.GetSyncEntries`: all entries as transaction `tx` sees them. -/
def getSyncEntries (tx : Nat) : Job (Except String (List SyncEntry)) := fun w =>
  match s.statement tx .getSyncEntries w with
  | (.ok (), w') => (.ok (w.db.view tx).syncs, w')
  | (.error e, w') => (.error e, w')

/-- `time.Now`. -/
def timeNow : Job Time := fun w =>
  (s.clock w.log, { w with log := .now (s.clock w.log) :: w.log })

/-- `ksuid.NewRandom` and `passwd.GeneratePassword`: a random text, or an error. -/
def random : Job (Except String String) := fun w =>
  (s.randomOutcome w.log, { w with log := .random (s.randomOutcome w.log) :: w.log })

/-- `NewRepoCache`: a fresh cache, or the error of creating its temporary directory. -/
def newRepoCache : Job (Except String Nat) := fun w =>
  match s.newRepoCacheOutcome w.log with
  | .error e => (.error e, { w with log := .newRepoCache (.error e) :: w.log })
  | .ok () =>
    (.ok w.nextRepoCache,
      { w with nextRepoCache := w.nextRepoCache + 1
               log := .newRepoCache (.ok w.nextRepoCache) :: w.log })

/-- `Apply`: its writes go into the transaction of the call. -/
def apply (call : ApplyCall) : Job (Except String AppApplyResponse × List AppPathDomain) :=
  fun w =>
  let o := s.applyOutcome w.log call
  ((o.result, o.updatedApps),
    { w with db := w.db.write call.tx (o.writes.map .app), log := .apply call o.result :: w.log })

/-- `db.GetAppTx`. -/
def getAppTx (tx : Nat) (app : AppPathDomain) : Job (Except String AppEntry) := fun w =>
  (s.getAppOutcome w.log app, { w with log := .getAppTx tx app (s.getAppOutcome w.log app) :: w.log })

/-- `ReloadApp`: its writes go into the transaction of the call. -/
def reloadApp (call : ReloadCall) : Job (Except String AppReloadResult) := fun w =>
  let o := s.reloadOutcome w.log call
  (o.result,
    { w with db := w.db.write call.tx (o.writes.map .app), log := .reloadApp call o.result :: w.log })

/-- Go's `tx, err := s.db.BeginTransaction(ctx); if err != nil { return ..., err }` and
`defer tx.Rollback()`, around `body`. -/
def inTransaction {α : Type} (body : Nat → Job (Except String α)) : Job (Except String α) :=
  fun w =>
  match s.beginTransaction w with
  | (.error e, w) => (.error e, w)
  | (.ok tx, w) => deferring (rollback tx) (body tx) w

/-- Go's `repoCache, err := NewRepoCache(s); if err != nil { return ..., err }` and
`defer repoCache.Cleanup()`, around `body`. -/
def inRepoCache {α : Type} (body : Nat → Job (Except String α)) : Job (Except String α) :=
  fun w =>
  match s.newRepoCache w with
  | (.error e, w) => (.error e, w)
  | (.ok repoCache, w) => deferring (cleanup repoCache) (body repoCache) w

end Server

end OpenRun.Sync
