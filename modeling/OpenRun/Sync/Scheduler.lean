import OpenRun.Sync.Persistence

/-!
# One tick of the scheduler

`runSyncJobs` lists the entries in the transaction of the tick and runs each one that is
due, on the tick's repository cache, dropping the error of a run. The scheduler's rule is
stated once, in its own words (`dueToRun`): an entry is run when it is scheduled, has a
positive frequency and fewer failures than the maximum, and has never run or is due. With
a clock that reads one time during the tick, and whatever the runs return, the calls of
`runSyncJob` a tick records are exactly one for each entry the rule selects, in list order,
each with the listed entry itself, no caller transaction, `dryRun = false`,
`checkCommitHash = true` and the tick's cache (`runSyncJobs_calls`). A call is recorded with
all its arguments, and only the nested re-run is left out, so no other call, whatever its
flags, could go unseen. The proof is one
step lemma for one entry of the loop (`runScheduleEntries_cons`) and an induction over the
list.

The due time is computed in Go's signed 64-bit nanoseconds,
`Duration(ScheduleFrequency) * time.Minute`. While nothing wraps, the readiness check is
the intended one: an entry that has run is held back exactly while fewer than its
frequency's minutes have passed (`notReady_iff_within_frequency`). The product wraps for a
frequency of 153722868 minutes or more, a frequency `CreateSyncEntry` accepts: such an
entry is due again right after it ran (`due_time_wraps`).

The circuit breaker skips an entry whose stored failure count has reached the maximum. Under
an `Apply` that fails on every call, a run takes the failure path and commits nothing, so
no number of ticks changes the committed store (`syncRunner_commits_nothing`): the stored
failure counts never grow and the breaker never trips.
-/

set_option autoImplicit false

namespace OpenRun.Sync

open Go

/-- The scheduler's rule, from its description: in a tick at `now`, an entry is run when it
is scheduled, has a positive frequency and fewer failures than the maximum, and has never
run or its due time is not after `now`. -/
def dueToRun (config : SystemConfig) (now : Time) (entry : SyncEntry) : Bool :=
  entry.isScheduled && (0 : GoInt).slt entry.metadata.scheduleFrequency &&
    entry.status.failureCount.slt config.maxSyncFailureCount &&
    (entry.status.lastExecutionTime.isZero || !(dueTime entry).after now)

theorem slt_eq_not_sle (x y : GoInt) : x.slt y = !y.sle x := by
  rw [BitVec.slt, BitVec.sle, ← decide_not]
  simp only [Int.not_le]

section

variable (s : Server) {now : Time}

/-- The readiness check reads the clock only for an entry that has run before, and records
no call of `runSyncJob`. -/
theorem notReady_spec (clock : ∀ log, s.clock log = now) (entry : SyncEntry) (w : World) :
    Calls [] w (notReady s entry w).2 ∧
      (notReady s entry w).1 = (!entry.status.lastExecutionTime.isZero && (dueTime entry).after now) := by
  unfold notReady
  split
  · next zero => exact ⟨⟨[], rfl, rfl⟩, by simp [zero]⟩
  · next nonzero =>
    exact ⟨(s.adds_timeNow w).calls_nil (by decide), by simp [Server.timeNow, clock, nonzero]⟩

/-- One entry of the loop: a call of `runSyncJob`, with no caller transaction and the
tick's cache, exactly when the rule selects the entry. -/
theorem runScheduleEntries_cons (clock : ∀ log, s.clock log = now) (repoCache : Nat)
    (entry : SyncEntry) (rest : List SyncEntry) (w : World) :
    ∃ w₁, Calls (if dueToRun s.config now entry then [⟨⟨none⟩, entry, false, true, some repoCache⟩]
        else [])
      w w₁ ∧ runScheduleEntries s repoCache (entry :: rest) w = runScheduleEntries s repoCache rest w₁ := by
  obtain ⟨checked, ready⟩ := notReady_spec s clock entry w
  rcases hn : notReady s entry w with ⟨notYet, w₁⟩
  rw [hn] at checked ready
  dsimp only at checked ready
  have due : dueToRun s.config now entry = (entry.isScheduled &&
      !entry.metadata.scheduleFrequency.sle 0 && !notYet &&
      !s.config.maxSyncFailureCount.sle entry.status.failureCount) := by
    simp only [dueToRun, slt_eq_not_sle, ready]
    cases entry.isScheduled <;> cases entry.metadata.scheduleFrequency.sle 0 <;>
      cases s.config.maxSyncFailureCount.sle entry.status.failureCount <;>
      cases entry.status.lastExecutionTime.isZero <;> simp
  simp only [runScheduleEntries, hn, due]
  -- the branches of the loop body, in the order the code takes them
  cases entry.isScheduled
  · -- not scheduled
    simpa using ⟨w, ⟨[], rfl, rfl⟩, rfl⟩
  cases entry.metadata.scheduleFrequency.sle 0
  case true => -- no positive frequency
    simpa using ⟨w, ⟨[], rfl, rfl⟩, rfl⟩
  cases notYet
  case true => -- not ready
    simpa using ⟨w₁, checked, rfl⟩
  cases s.config.maxSyncFailureCount.sle entry.status.failureCount
  case true => -- too many failures
    simpa using ⟨w₁, checked, rfl⟩
  -- run
  simpa using ⟨_, checked.trans (calls_runSyncJob s ⟨none⟩ entry false true (some repoCache) w₁), rfl⟩

/-- The loop over the listed entries records one call of `runSyncJob` for each entry the
rule selects, in list order, whatever the runs return. -/
theorem runScheduleEntries_calls (clock : ∀ log, s.clock log = now) (repoCache : Nat) :
    ∀ (entries : List SyncEntry) (w : World),
    Calls ((entries.filter (dueToRun s.config now)).map fun e => ⟨⟨none⟩, e, false, true, some repoCache⟩) w
      (runScheduleEntries s repoCache entries w).2
  | [], w => ⟨[], rfl, rfl⟩
  | entry :: rest, w => by
    obtain ⟨w₁, first, step⟩ := runScheduleEntries_cons s clock repoCache entry rest w
    have calls := first.trans (runScheduleEntries_calls clock repoCache rest w₁)
    rw [step]
    by_cases due : dueToRun s.config now entry <;> simpa [List.filter_cons, due] using calls

end

/-- **One tick of the scheduler.** With a clock that reads one time `now` during the tick,
whatever the listed entries and whatever their runs return: once the tick has opened its
transaction, created its cache and listed the entries, it returns no error, and the calls of
`runSyncJob` it records, other than the nested re-runs, are one for each entry that
`dueToRun` selects, in list order, each with that entry as listed, no caller transaction,
`dryRun = false`, `checkCommitHash = true` and the tick's cache. -/
theorem runSyncJobs_calls (s : Server) {now : Time} (clock : ∀ log, s.clock log = now)
    {w w₁ w₂ w₃ : World} {tx repoCache : Nat} {entries : List SyncEntry}
    (begun : s.beginTransaction w = (.ok tx, w₁)) (created : s.newRepoCache w₁ = (.ok repoCache, w₂))
    (listed : s.getSyncEntries tx w₂ = (.ok entries, w₃)) :
    (runSyncJobs s w).1 = .ok () ∧
    ∃ new, (runSyncJobs s w).2.log = new ++ w.log ∧
      topLevelRuns new = (entries.filter (dueToRun s.config now)).map
        fun e => ⟨⟨none⟩, e, false, true, some repoCache⟩ := by
  have opened : Calls [] w w₃ := (((s.adds_beginTransaction w).of_eq begun).trans
    (((s.adds_newRepoCache w₁).of_eq created).trans
      ((s.adds_getSyncEntries tx w₂).of_eq listed))).calls_nil (by decide)
  have loop := runScheduleEntries_calls s clock repoCache entries w₃
  have closed : Calls [] (runScheduleEntries s repoCache entries w₃).2
      (rollback tx (cleanup repoCache (runScheduleEntries s repoCache entries w₃).2)) :=
    ((adds_cleanup repoCache _).trans (adds_rollback tx _)).calls_nil (by decide)
  simp only [runSyncJobs, Server.inTransaction, begun, deferring, Server.inRepoCache, created, listed,
    true_and]
  simpa only [List.append_nil, List.nil_append] using opened.trans (loop.trans closed)

theorem runSyncJobs_calls_demo :
    (∀ log, (demoServer (.ok {})).clock log = ⟨1000#64, 0⟩) ∧
    (demoServer (.ok {})).beginTransaction demoWorld =
      (.ok 0, ((demoServer (.ok {})).beginTransaction demoWorld).2) ∧
    (demoServer (.ok {})).newRepoCache ((demoServer (.ok {})).beginTransaction demoWorld).2 =
      (.ok 0, ((demoServer (.ok {})).newRepoCache
        ((demoServer (.ok {})).beginTransaction demoWorld).2).2) ∧
    (demoServer (.ok {})).getSyncEntries 0 ((demoServer (.ok {})).newRepoCache
        ((demoServer (.ok {})).beginTransaction demoWorld).2).2 =
      (.ok [demoEntry], ((demoServer (.ok {})).getSyncEntries 0 ((demoServer (.ok {})).newRepoCache
        ((demoServer (.ok {})).beginTransaction demoWorld).2).2).2) ∧
    (runSyncJobs (demoServer (.ok {})) demoWorld).1 = .ok () ∧
    ∃ new, (runSyncJobs (demoServer (.ok {})) demoWorld).2.log = new ++ demoWorld.log ∧
      topLevelRuns new = ([demoEntry].filter (dueToRun demoConfig ⟨1000#64, 0⟩)).map
        fun e => ⟨⟨none⟩, e, false, true, some 0⟩ :=
  ⟨fun _ => rfl, rfl, rfl, rfl,
    runSyncJobs_calls (demoServer (.ok {})) (fun _ => rfl) rfl rfl rfl⟩

/-! ## The due time in 64-bit nanoseconds -/

/-- **The readiness check in range.** For a frequency `F` whose minutes fit in a
`time.Duration` and a due time within Go's range of seconds, the check reports an entry not
ready exactly when it has run before and fewer than `F` minutes, counted in exact
nanoseconds, have passed since its last run. -/
theorem notReady_iff_within_frequency (s : Server) {now : Time} (clock : ∀ log, s.clock log = now)
    (entry : SyncEntry) (w : World) (pos : 0 < entry.metadata.scheduleFrequency.toInt)
    (noWrap : entry.metadata.scheduleFrequency.toInt * 60000000000 < 2^63)
    (fits : entry.status.lastExecutionTime.sec.toInt + entry.metadata.scheduleFrequency.toInt * 60 <
      2^63) :
    (notReady s entry w).1 = true ↔ entry.status.lastExecutionTime.isZero = false ∧
      now.toNanos - entry.status.lastExecutionTime.toNanos <
        entry.metadata.scheduleFrequency.toInt * 60000000000 := by
  have duration := toInt_mul_minute pos noWrap
  have secBounds := toInt_bounds entry.status.lastExecutionTime.sec
  have nsecBound := entry.status.lastExecutionTime.nsec.isLt
  have due : (dueTime entry).toNanos =
      entry.status.lastExecutionTime.toNanos + entry.metadata.scheduleFrequency.toInt * 60000000000 := by
    rw [dueTime, Time.toNanos_add_of_fits _ _ (by rw [duration, Time.toNanos]; omega)
      (by rw [duration, Time.toNanos]; omega), duration]
  rw [(notReady_spec s clock entry w).2, Bool.and_eq_true, Bool.not_eq_true', Time.after_iff, due]
  exact and_congr_right fun _ => by omega

/-- `demoEntry`, last run at second 940. -/
def recentEntry : SyncEntry := { demoEntry with status := { lastExecutionTime := ⟨940#64, 0⟩ } }

theorem notReady_recentEntry :
    ((∀ log, (demoServer (.ok {})).clock log = ⟨1000#64, 0⟩) ∧
      0 < recentEntry.metadata.scheduleFrequency.toInt ∧
      recentEntry.metadata.scheduleFrequency.toInt * 60000000000 < 2^63 ∧
      recentEntry.status.lastExecutionTime.sec.toInt +
        recentEntry.metadata.scheduleFrequency.toInt * 60 < 2^63) ∧
    ((notReady (demoServer (.ok {})) recentEntry demoWorld).1 = true ↔
      recentEntry.status.lastExecutionTime.isZero = false ∧
      Time.toNanos ⟨1000#64, 0⟩ - recentEntry.status.lastExecutionTime.toNanos <
        recentEntry.metadata.scheduleFrequency.toInt * 60000000000) :=
  ⟨⟨fun _ => rfl, by decide, by decide, by decide⟩,
    notReady_iff_within_frequency (demoServer (.ok {})) (fun _ => rfl) recentEntry demoWorld
      (by decide) (by decide) (by decide)⟩

/-- A scheduled entry with the smallest frequency whose due time wraps, 153722868 minutes,
that last ran at second 940. -/
def farEntry : SyncEntry :=
  { demoEntry with
    metadata := { scheduleFrequency := 153722868#64 }
    status := { lastExecutionTime := ⟨940#64, 0⟩ } }

/-- `Duration(153722868) * time.Minute` exceeds the largest `time.Duration` and wraps to a
negative duration, so the due time of `farEntry` lies before its last run. A tick one minute
after that run, well within the frequency, runs the entry again. `CreateSyncEntry` accepts
the frequency. -/
theorem due_time_wraps :
    (newSyncMetadata (demoServer (.ok {})) true { scheduleFrequency := 153722868#64 } demoWorld).1 =
      .ok { scheduleFrequency := 153722868#64 } ∧
    farEntry.status.lastExecutionTime.isZero = false ∧
    Time.toNanos ⟨1000#64, 0⟩ - farEntry.status.lastExecutionTime.toNanos <
      farEntry.metadata.scheduleFrequency.toInt * 60000000000 ∧
    farEntry.status.lastExecutionTime.after (dueTime farEntry) = true ∧
    (notReady (demoServer (.ok {})) farEntry demoWorld).1 = false ∧
    topLevelRuns (runScheduleEntries (demoServer (.ok {})) 0 [farEntry] demoWorld).2.log =
      [⟨⟨none⟩, farEntry, false, true, some 0⟩] :=
  ⟨rfl, rfl, by decide, by decide, by decide, by decide⟩

/-! ## The circuit breaker under an `Apply` that always fails -/

/-- `Apply` fails on every call, with an error text. -/
def ApplyAlwaysFails (s : Server) : Prop :=
  ∀ log call, ∃ err, err ≠ "" ∧ (s.applyOutcome log call).result = .error err

section

variable (s : Server) (fails : ApplyAlwaysFails s)

theorem adds_notReady (entry : SyncEntry) (w : World) : Adds [.bookkeeping] w (notReady s entry w).2 := by
  unfold notReady
  split
  · exact .refl w
  · exact s.adds_timeNow w

include fails

/-- Under an `Apply` that always fails, an attempt ends on the failure path, which commits
nothing. -/
theorem adds_syncJobMain_of_applyFails (onAppMissing : Job (Except String JobResult))
    (inputTx : Transaction) (tx : Nat) (entry : SyncEntry) (dryRun checkCommitHash : Bool)
    (repoCache : Nat) (w : World) :
    Adds (.run :: callerKinds) w
      (syncJobMain s onAppMissing inputTx tx entry dryRun checkCommitHash repoCache w).2 := by
  obtain ⟨now, w₂, log₂, db₂, main⟩ :=
    syncJobMain_eq s onAppMissing inputTx tx entry dryRun checkCommitHash repoCache w
  obtain ⟨err, nonempty, failed⟩ :=
    fails w.log (applyCall tx entry dryRun (lastRunCommitId entry checkCommitHash) repoCache)
  have applied : Adds (.run :: callerKinds) w w₂ :=
    ⟨[_, _], by rw [log₂]; rfl, by simp [callerKinds], fun _ => (congrArg Db.committed db₂ :)⟩
  rw [main, failed, afterApply_of_not_skip s (by simp [Except.toBool])]
  exact applied.trans ((adds_finishSyncJob_of_error s (by exact nonempty) _ _ _).mono (by decide))

theorem adds_runSyncJob_of_applyFails (inputTx : Transaction) (entry : SyncEntry)
    (dryRun checkCommitHash : Bool) (repoCache : Option Nat) (w : World) :
    Adds (.run :: callerKinds) w (runSyncJob s inputTx entry dryRun checkCommitHash repoCache w).2 := by
  have marker : Adds (.run :: callerKinds) w
      (logRunSyncJob false inputTx entry dryRun checkCommitHash repoCache w) :=
    (adds_logRunSyncJob false inputTx entry dryRun checkCommitHash repoCache w).mono (by decide)
  rcases runSyncJobWith_cases s _ _ inputTx entry dryRun checkCommitHash repoCache w with
    ⟨e, -, adds⟩ | ⟨tx, rc, w₁, -, -, pre, -, post⟩
  · exact marker.trans (adds.mono (by decide))
  · exact marker.trans ((pre.mono (by decide)).trans ((adds_syncJobMain_of_applyFails s fails _
      inputTx tx entry dryRun checkCommitHash rc w₁).trans (post.mono (by decide))))

theorem adds_runScheduleEntries_of_applyFails (repoCache : Nat) :
    ∀ (entries : List SyncEntry) (w : World),
    Adds (.run :: callerKinds) w (runScheduleEntries s repoCache entries w).2
  | [], w => .refl w
  | entry :: rest, w => by
    have checked : Adds (.run :: callerKinds) w (notReady s entry w).2 :=
      (adds_notReady s entry w).mono (by decide)
    simp only [runScheduleEntries]
    split
    · exact adds_runScheduleEntries_of_applyFails repoCache rest w
    rcases hn : notReady s entry w with ⟨_ | _, w₁⟩ <;> rw [hn] at checked <;> simp only
    · split
      · exact checked.trans (adds_runScheduleEntries_of_applyFails repoCache rest w₁)
      · exact checked.trans ((adds_runSyncJob_of_applyFails s fails ⟨none⟩ entry false true _ w₁).trans
          (adds_runScheduleEntries_of_applyFails repoCache rest _))
    · exact checked.trans (adds_runScheduleEntries_of_applyFails repoCache rest w₁)

theorem adds_syncRunner_of_applyFails :
    ∀ (ticks : Nat) (w : World), Adds (.run :: callerKinds) w (syncRunner s ticks w)
  | 0, w => .refl w
  | ticks + 1, w => by
    have tick : Adds (.run :: callerKinds) w (runSyncJobs s w).2 :=
      s.adds_inTransaction (by decide) _ (fun tx => s.adds_inRepoCache (by decide) _
        (fun repoCache w => by
          have listed : Adds (.run :: callerKinds) w (s.getSyncEntries tx w).2 :=
            (s.adds_getSyncEntries tx w).mono (by decide)
          rcases hl : s.getSyncEntries tx w with ⟨_ | entries, w₁⟩ <;> rw [hl] at listed
          · exact listed
          · exact listed.trans (adds_runScheduleEntries_of_applyFails s fails repoCache entries w₁))) w
    simp only [syncRunner]
    rcases ht : runSyncJobs s w with ⟨_ | ⟨⟩, w₁⟩ <;> rw [ht] at tick
    · exact tick
    · exact tick.trans (adds_syncRunner_of_applyFails ticks w₁)

end

/-- **The circuit breaker never trips.** Under an `Apply` that fails on every call, no
number of ticks of the scheduler changes the committed store: every run's failure status is
rolled back with its transaction, so no entry's committed failure count ever grows toward
the maximum, and every due entry is run on every tick. -/
theorem syncRunner_commits_nothing (s : Server) (fails : ApplyAlwaysFails s) (ticks : Nat)
    (w : World) : (syncRunner s ticks w).db.committed = w.db.committed :=
  (adds_syncRunner_of_applyFails s fails ticks w).committed_eq (by decide)

theorem boom_applyAlwaysFails : ApplyAlwaysFails (demoServer (.error "boom")) :=
  fun _ _ => ⟨"boom", by decide, rfl⟩

theorem syncRunner_commits_nothing_boom :
    ApplyAlwaysFails (demoServer (.error "boom")) ∧
    (syncRunner (demoServer (.error "boom")) 10 demoWorld).db.committed = demoWorld.db.committed :=
  ⟨boom_applyAlwaysFails, syncRunner_commits_nothing _ boom_applyAlwaysFails 10 demoWorld⟩

end OpenRun.Sync
