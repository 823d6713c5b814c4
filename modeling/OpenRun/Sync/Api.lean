import OpenRun.Sync.Job

/-!
# The sync operations and the scheduler

The callers of `runSyncJob`. `createSyncEntry` and `runSync` hand it their own
transaction and complete that transaction themselves when the run reports no error;
`runSyncJobs` is one tick of the scheduler, which opens one transaction to list the
entries and one repository cache that every run of the tick shares, and hands each due
entry to `runSyncJob` with no transaction, so that each run opens its own. An entry is
skipped when it is not scheduled, when its frequency is not positive, when its due time
(`dueTime`, in Go's 64-bit arithmetic) is after the current time, or when its failure
count has reached the configured maximum. `syncRunner` repeats the tick until one fails.

`deleteSyncEntry` and `listSyncEntries` complete the API. The webhook secret of a new
entry is `cl_tkn_` and the standard base64 encoding of a random password (`base64Encode`).
-/

set_option autoImplicit false

namespace OpenRun.Sync

open Go

/-- The standard base64 alphabet. -/
def base64Alphabet : List Char :=
  "ABCDEFGHIJKLMNOPQRSTUVWXYZabcdefghijklmnopqrstuvwxyz0123456789+/".toList

/-- The base64 symbol of a six-bit value. -/
def base64Symbol (n : Nat) : Char := base64Alphabet.getD (n % 64) 'A'

/-- Base64 with padding, three bytes at a time: `base64.StdEncoding`. -/
def base64Bytes : List Nat → List Char
  | a :: b :: c :: rest =>
    let n := a * 65536 + b * 256 + c
    [base64Symbol (n / 262144), base64Symbol (n / 4096), base64Symbol (n / 64), base64Symbol n] ++
      base64Bytes rest
  | [a, b] =>
    let n := a * 65536 + b * 256
    [base64Symbol (n / 262144), base64Symbol (n / 4096), base64Symbol (n / 64), '=']
  | [a] => [base64Symbol (a * 65536 / 262144), base64Symbol (a * 65536 / 4096), '=', '=']
  | [] => []

/-- `base64.StdEncoding.EncodeToString([]byte(text))`. -/
def base64Encode (text : String) : String :=
  String.mk (base64Bytes (text.toUTF8.toList.map UInt8.toNat))

/-- The webhook secret of a new entry: `fmt.Sprintf("cl_tkn_%s", base64(secret))`. -/
def webhookSecretOf (secret : String) : String := "cl_tkn_" ++ base64Encode secret

/-- `strings.ToLower` on the text of a ksuid, which is ASCII: each letter lowered. -/
def toLower (text : String) : String := String.mk (text.toList.map Char.toLower)

/-- The due time of an entry:
`LastExecutionTime.Add(time.Duration(ScheduleFrequency) * time.Minute)`. -/
def dueTime (entry : SyncEntry) : Time :=
  entry.status.lastExecutionTime.add (entry.metadata.scheduleFrequency * minute)

section

variable (s : Server)

/-- The metadata a new entry is stored with: a webhook entry gets a fresh secret, a
scheduled entry without a positive frequency gets the default one. -/
def newSyncMetadata (scheduled : Bool) (sync : SyncMetadata) : Job (Except String SyncMetadata) :=
  fun w =>
  if !scheduled then
    match s.random w with
    | (.error e, w) => (.error e, w)
    | (.ok secret, w) => (.ok { sync with webhookSecret := webhookSecretOf secret }, w)
  else if sync.scheduleFrequency.sle 0 then
    (.ok { sync with scheduleFrequency := s.config.defaultScheduleMins }, w)
  else (.ok sync, w)

/-- `CreateSyncEntry`, for a request of user `userId`: the entry is inserted and run in one
transaction, which is completed only when the run reports no error. -/
def createSyncEntry (userId path : String) (scheduled dryRun : Bool) (sync : SyncMetadata) :
    Job (Except String SyncCreateResponse) :=
  s.inTransaction fun tx w =>
  match s.random w with
  | (.error e, w) => (.error e, w)
  | (.ok genId, w) =>
  let id := "cl_syn_" ++ toLower genId
  match newSyncMetadata s scheduled sync w with
  | (.error e, w) => (.error e, w)
  | (.ok sync, w) =>
  let syncEntry : SyncEntry :=
    { id := id, path := path, isScheduled := scheduled, userId := userId, metadata := sync }
  match s.createSync tx syncEntry w with
  | (.error e, w) => (.error e, w)
  | (.ok (), w) =>
  match runSyncJob s ⟨some tx⟩ syncEntry dryRun true none w with
  | (.error e, w) => (.error e, w)
  | (.ok (syncStatus, updatedApps), w) =>
  if syncStatus.error ≠ "" then (.error syncStatus.error, w)
  else
  let ret : SyncCreateResponse :=
    { id := syncEntry.id, dryRun := dryRun, webhookUrl := ""
      webhookSecret := syncEntry.metadata.webhookSecret
      scheduleFrequency := syncEntry.metadata.scheduleFrequency
      syncJobStatus := syncStatus }
  match s.completeTransaction tx updatedApps dryRun "create_sync" w with
  | (.error e, w) => (.error e, w)
  | (.ok (), w) => (.ok ret, w)

/-- `RunSync`: an on-demand run of a stored entry, in one transaction that is completed
only when the run reports no error. -/
def runSync (id : String) (dryRun : Bool) : Job (Except String SyncJobStatus) :=
  s.inTransaction fun tx w =>
  match s.getSyncEntry tx id w with
  | (.error e, w) => (.error e, w)
  | (.ok syncEntry, w) =>
  match runSyncJob s ⟨some tx⟩ syncEntry dryRun true none w with
  | (.error e, w) => (.error e, w)
  | (.ok (syncStatus, updatedApps), w) =>
  if syncStatus.error ≠ "" then (.error syncStatus.error, w)
  else
  match s.completeTransaction tx updatedApps dryRun "sync_run" w with
  | (.error e, w) => (.error e, w)
  | (.ok (), w) => (.ok syncStatus, w)

/-- `DeleteSyncEntry`: a dry run does not commit. -/
def deleteSyncEntry (id : String) (dryRun : Bool) : Job (Except String SyncDeleteResponse) :=
  s.inTransaction fun tx w =>
  match s.deleteSync tx id w with
  | (.error e, w) => (.error e, w)
  | (.ok (), w) =>
  let ret : SyncDeleteResponse := { id := id, dryRun := dryRun }
  if dryRun then (.ok ret, w)
  else
  match s.commit tx w with
  | (.error e, w) => (.error e, w)
  | (.ok (), w) => (.ok ret, w)

/-- `ListSyncEntries`: every entry, with its webhook URL cleared. -/
def listSyncEntries : Job (Except String (List SyncEntry)) :=
  s.inTransaction fun tx w =>
  match s.getSyncEntries tx w with
  | (.error e, w) => (.error e, w)
  | (.ok entries, w) =>
    (.ok (entries.map fun e => { e with metadata := { e.metadata with webhookUrl := "" } }), w)

/-- The second check of the scheduler loop,
`!LastExecutionTime.IsZero() && dueTime.After(time.Now())`: the clock is read only for an
entry that has run before. -/
def notReady (entry : SyncEntry) : Job Bool := fun w =>
  if entry.status.lastExecutionTime.isZero then (false, w)
  else
  match s.timeNow w with
  | (now, w) => ((dueTime entry).after now, w)

/-- The loop of `runSyncJobs` over the listed entries; the error of a run is dropped. -/
def runScheduleEntries (repoCache : Nat) : List SyncEntry → Job Unit
  | [] => fun w => ((), w)
  | entry :: rest => fun w =>
    if !entry.isScheduled ∨ entry.metadata.scheduleFrequency.sle 0 then
      runScheduleEntries repoCache rest w
    else
    match notReady s entry w with
    | (true, w) => runScheduleEntries repoCache rest w
    | (false, w) =>
    if s.config.maxSyncFailureCount.sle entry.status.failureCount then
      runScheduleEntries repoCache rest w
    else
    match runSyncJob s ⟨none⟩ entry false true (some repoCache) w with
    | (_, w) => runScheduleEntries repoCache rest w

/-- `runSyncJobs`: one tick of the scheduler. -/
def runSyncJobs : Job (Except String Unit) :=
  s.inTransaction fun tx =>
  s.inRepoCache fun repoCache w =>
  match s.getSyncEntries tx w with
  | (.error e, w) => (.error e, w)
  | (.ok scheduleEntries, w) => (.ok (), (runScheduleEntries s repoCache scheduleEntries w).2)

/-- `syncRunner` over `ticks` firings of the timer: it stops at the first failed tick. -/
def syncRunner : Nat → World → World
  | 0, w => w
  | ticks + 1, w =>
    match runSyncJobs s w with
    | (.error _, w) => w
    | (.ok (), w) => syncRunner ticks w

end

end OpenRun.Sync
