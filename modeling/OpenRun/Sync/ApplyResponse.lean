import OpenRun.Sync.SkipPath

/-!
# The apply response a run records

A run writes its status with an apply response attached: `Apply`'s own, or after a failed
`Apply` an empty one that keeps the last run's apps. Its `FilteredApps` is what the next run of
the entry reloads when `Apply` reports a skipped apply.

**The app set.** For an entry that reloads matched apps, and an `Apply` that reports no apps
when it skips, a run records the apps of the newest `Apply` of its own that succeeded without a
skip (`lastAppliedApps`), and the entry's prior apps when it made none: a failed `Apply` keeps
the prior apps, a skipped run fills in the prior apps whatever its reloads do, and the
missing-app branch returns what the re-run records (`runSyncJob_keepsAppSet`). Over any
sequence of runs of the entry, each on the status the one before returned (`RunChain`), the
recorded apps are those of the newest real `Apply` of the whole sequence, or the first prior
apps (`runChain_filteredApps`): every skipped run reloads the apps of the last real apply.

**The reload results.** The reload loop of a skipped run accumulates what each successful
`ReloadApp` reports, but attaches it to the apply response only when a reload fails: the run
then records what the reloads before the failing one reported, in call order. When all reloads
succeed, the run records `Apply`'s own response and returns `Apply`'s updated apps, whatever
the reloads reported (`afterApply_reloadResults`), so a reload that reports an app loses it
(`skipped_run_drops_reload_results`).
-/

set_option autoImplicit false

namespace OpenRun.Sync

open Go

/-! ## The apps of the last real apply -/

/-- The apps of the newest `Apply` in a segment of the log (newest first) that succeeded
without reporting a skip. -/
def lastAppliedApps : List Event → Option (List AppPathDomain)
  | [] => none
  | .apply _ (.ok info) :: log => if info.skippedApply then lastAppliedApps log else some info.filteredApps
  | _ :: log => lastAppliedApps log

theorem lastAppliedApps_append (l m : List Event) :
    lastAppliedApps (l ++ m) = (lastAppliedApps l).or (lastAppliedApps m) := by
  induction l with
  | nil => rfl
  | cons e l ih =>
    cases e
    case apply call result =>
      cases result with
      | error err => exact ih
      | ok info => cases skipped : info.skippedApply <;> simp [lastAppliedApps, skipped, ih]
    all_goals exact ih

theorem lastAppliedApps_eq_none {l : List Event} (h : ∀ e ∈ l, e.kind ≠ .apply) :
    lastAppliedApps l = none := by
  induction l with
  | nil => rfl
  | cons e l ih =>
    have rest := ih fun e' he' => h e' (List.mem_cons_of_mem e he')
    cases e
    case apply call result => exact absurd rfl (h _ (List.mem_cons_self _ _))
    all_goals exact rest

/-- A step that calls no `Apply` adds nothing to the app set of the last real apply. -/
theorem Adds.lastAppliedApps {ks : List Kind} {w w' : World} (adds : Adds ks w w')
    (noApply : .apply ∉ ks) : ∃ new, w'.log = new ++ w.log ∧ lastAppliedApps new = none := by
  obtain ⟨new, log, kinds, -⟩ := adds
  exact ⟨new, log, lastAppliedApps_eq_none fun e he hk => noApply (hk ▸ kinds e he)⟩

/-- The app set a status records is that of the newest real `Apply` among the events `new`,
or `lastRunApps` when there is none. -/
def KeepsAppSet (lastRunApps : List AppPathDomain) (status : SyncJobStatus) (new : List Event) :
    Prop :=
  status.applyResponse.filteredApps = (lastAppliedApps new).getD lastRunApps

theorem keepsAppSet_framed (lastRunApps : List AppPathDomain) (status : SyncJobStatus)
    (new before after : List Event)
    (kinds : ∀ e ∈ before ++ after, e.kind ∈ [.run, .rerun, .bookkeeping])
    (keeps : KeepsAppSet lastRunApps status new) :
    KeepsAppSet lastRunApps status (after ++ new ++ before) := by
  have noApply : ∀ l, (∀ e ∈ l, e ∈ before ++ after) → lastAppliedApps l = none := fun l sub =>
    lastAppliedApps_eq_none fun e he hk => by simpa [hk] using kinds e (sub e he)
  rw [KeepsAppSet, lastAppliedApps_append, lastAppliedApps_append,
    noApply after fun e he => List.mem_append_right _ he,
    noApply before fun e he => List.mem_append_left _ he, Option.none_or, Option.or_none]
  exact keeps

/-- `Apply` reports no apps when it reports a skipped apply. -/
def SkipsReportNoApps (s : Server) : Prop :=
  ∀ log call info, (s.applyOutcome log call).result = .ok info → info.skippedApply = true →
    info.filteredApps = []

section

variable (s : Server)

/-- The end of a run, after `Apply` returned `applyResult`: a failed `Apply` records the prior
apps, a real one its own, and a skipped one that reported no apps the prior apps, unless the
missing-app branch runs, which records what `onAppMissing` records. -/
theorem afterApply_keepsAppSet {entry : SyncEntry}
    (matched : entry.metadata.reload = appReloadOptionMatched)
    {onAppMissing : Job (Except String JobResult)}
    (hm : ReturnsWith (KeepsAppSet entry.status.applyResponse.filteredApps) onAppMissing)
    (inputTx : Transaction) (tx : Nat) (dryRun : Bool) (repoCache : Nat) (now : Time)
    (call : ApplyCall) (applyResult : Except String AppApplyResponse)
    (noApps : ∀ info, applyResult = .ok info → info.skippedApply = true → info.filteredApps = [])
    (updatedApps : List AppPathDomain) {w w₂ w' : World} {status : SyncJobStatus}
    {apps : List AppPathDomain} (log₂ : w₂.log = .now now :: .apply call applyResult :: w.log)
    (h : afterApply s onAppMissing inputTx tx entry dryRun repoCache now applyResult updatedApps w₂ =
      (.ok (status, apps), w')) :
    ∃ new, w'.log = new ++ w.log ∧ KeepsAppSet entry.status.applyResponse.filteredApps status new := by
  by_cases skip : applyResult.toBool ∧ (applyStatus s entry dryRun now
    entry.status.applyResponse.filteredApps applyResult).2.skippedApply ∧
    entry.metadata.reload = appReloadOptionMatched
  case neg =>
    rw [afterApply_of_not_skip s skip] at h
    obtain ⟨newF, logF, noneF⟩ :=
      ((adds_finishSyncJob s inputTx tx entry dryRun _ _ _ w₂).of_eq h).lastAppliedApps (by decide)
    obtain ⟨rfl, -⟩ := Prod.mk.inj (finishSyncJob_ok s h)
    refine ⟨newF ++ [.now now, .apply call applyResult], by simp [logF, log₂], ?_⟩
    rw [KeepsAppSet, lastAppliedApps_append, noneF, Option.none_or]
    rcases applyResult with err | info
    · rfl
    · cases skipped : info.skippedApply
      · simp [lastAppliedApps, applyStatus, skipped]
      · simp [applyStatus, skipped, matched, Except.toBool] at skip
  obtain ⟨info, rfl⟩ : ∃ info, applyResult = .ok info := by
    cases applyResult with
    | error e => exact absurd skip.1 Bool.false_ne_true
    | ok info => exact ⟨info, rfl⟩
  have skipped : info.skippedApply = true := by simpa [applyStatus] using skip.2.1
  have skippedApply : lastAppliedApps [.now now, .apply call (.ok info)] = none := by
    simp [lastAppliedApps, skipped]
  rw [afterApply_of_skip s skipped matched] at h
  obtain ⟨lookups, kinds, ⟨hS, -⟩ | ⟨found, -, covered, -, hS⟩⟩ :=
    skipPath_cases s onAppMissing inputTx tx entry dryRun repoCache _ info updatedApps w₂ <;>
    rw [hS] at h
  · obtain ⟨newM, logM, keeps⟩ := hm _ _ _ _ h
    refine ⟨newM ++ lookups ++ [.now now, .apply call (.ok info)], by simp [logM, log₂], ?_⟩
    rw [KeepsAppSet, lastAppliedApps_append, lastAppliedApps_append, skippedApply, Option.or_none,
      lastAppliedApps_eq_none (l := lookups) fun e he hk => by simp [kinds e he] at hk]
    simpa [KeepsAppSet] using keeps
  have looked : Adds [.getApp, .reload, .bookkeeping, .commit] w₂ { w₂ with log := lookups ++ w₂.log } :=
    ⟨lookups, rfl, fun e he => by simp [kinds e he], fun _ => rfl⟩
  have reloaded := (reloadApps_spec s tx entry repoCache found entry.status.applyResponse.filteredApps
    (applyStatus s entry dryRun now entry.status.applyResponse.filteredApps (.ok info)).1 {}
    { w₂ with log := lookups ++ w₂.log }
    fun a ha => by obtain ⟨app, happ, -⟩ := covered a ha; simp [happ]).1
  obtain ⟨new, log, noneNew⟩ := (looked.trans ((reloaded.mono (by decide)).trans
    (((adds_finishSyncJob s inputTx tx entry dryRun _ _ _ _).of_eq h).mono (by decide)))).lastAppliedApps
    (by decide)
  obtain ⟨rfl, -⟩ := Prod.mk.inj (finishSyncJob_ok s h)
  refine ⟨new ++ [.now now, .apply call (.ok info)], by simp [log, log₂], ?_⟩
  rw [KeepsAppSet, lastAppliedApps_append, noneNew, skippedApply]
  simpa using skippedApplyInfo_filteredApps (noApps info rfl skipped)
    entry.status.applyResponse.filteredApps

theorem syncJobMain_keepsAppSet (noApps : SkipsReportNoApps s) {inputTx : Transaction}
    {entry : SyncEntry} (matched : entry.metadata.reload = appReloadOptionMatched) (dryRun : Bool)
    (onAppMissing : Job (Except String JobResult)) (checkCommitHash : Bool) (tx repoCache : Nat)
    (hm : ReturnsWith (KeepsAppSet entry.status.applyResponse.filteredApps) onAppMissing) :
    ReturnsWith (KeepsAppSet entry.status.applyResponse.filteredApps)
      (syncJobMain s onAppMissing inputTx tx entry dryRun checkCommitHash repoCache) := by
  intro w status apps w' h
  obtain ⟨now, w₂, log₂, -, main⟩ :=
    syncJobMain_eq s onAppMissing inputTx tx entry dryRun checkCommitHash repoCache w
  rw [main] at h
  exact afterApply_keepsAppSet s matched hm inputTx tx dryRun repoCache now _ _
    (fun info ok => noApps _ _ info ok) _ log₂ h

/-- **One run keeps the app set.** For an entry that reloads matched apps, with an `Apply`
that reports no apps when it skips, a status `runSyncJob` returns records the apps of the
newest real `Apply` of its run, or the entry's prior apps when there is none. -/
theorem runSyncJob_keepsAppSet (noApps : SkipsReportNoApps s) (inputTx : Transaction)
    {entry : SyncEntry} (matched : entry.metadata.reload = appReloadOptionMatched) (dryRun : Bool)
    (checkCommitHash : Bool) (repoCache : Option Nat) :
    ReturnsWith (KeepsAppSet entry.status.applyResponse.filteredApps)
      (runSyncJob s inputTx entry dryRun checkCommitHash repoCache) :=
  runSyncJob_returnsWith s (keepsAppSet_framed _)
    (fun onAppMissing checkCommitHash tx rc hm =>
      syncJobMain_keepsAppSet s noApps matched dryRun onAppMissing checkCommitHash tx rc hm)
    checkCommitHash repoCache

end

/-! ## Runs one after another -/

/-- Runs of one entry one after another, each on the status the run before it returned, with
its own caller transaction, cache and flags: from `entry` in `w` they reach `entry'` in `w'`. -/
inductive RunChain (s : Server) (entry : SyncEntry) (w : World) : SyncEntry → World → Prop
  | start : RunChain s entry w entry w
  | run {entry' : SyncEntry} {w' w'' : World} {status : SyncJobStatus}
      {updatedApps : List AppPathDomain} (inputTx : Transaction) (dryRun checkCommitHash : Bool)
      (repoCache : Option Nat) :
      RunChain s entry w entry' w' →
      runSyncJob s inputTx entry' dryRun checkCommitHash repoCache w' =
        (.ok (status, updatedApps), w'') →
      RunChain s entry w { entry' with status } w''

theorem RunChain.metadata {s : Server} {entry entry' : SyncEntry} {w w' : World}
    (runs : RunChain s entry w entry' w') : entry'.metadata = entry.metadata := by
  induction runs with
  | start => rfl
  | run _ _ _ _ _ _ ih => exact ih

/-- **Skipped runs reload the apps of the last real apply.** For an entry that reloads matched
apps, with an `Apply` that reports no apps when it skips, over any sequence of runs each on the
status the one before returned, whatever their outcomes, the apps the last status records are
those of the newest `Apply` of the sequence that succeeded without a skip, or the entry's first
prior apps when there was none. -/
theorem runChain_filteredApps (s : Server) (noApps : SkipsReportNoApps s) {entry entry' : SyncEntry}
    {w w' : World} (matched : entry.metadata.reload = appReloadOptionMatched)
    (runs : RunChain s entry w entry' w') :
    ∃ new, w'.log = new ++ w.log ∧
      entry'.status.applyResponse.filteredApps =
        (lastAppliedApps new).getD entry.status.applyResponse.filteredApps := by
  induction runs with
  | start => exact ⟨[], rfl, rfl⟩
  | run inputTx dryRun checkCommitHash repoCache runs ran ih =>
    obtain ⟨new, log, keeps⟩ := ih
    obtain ⟨step, logStep, keepsStep⟩ := runSyncJob_keepsAppSet s noApps inputTx
      (by rw [runs.metadata]; exact matched) dryRun checkCommitHash repoCache _ _ _ _ ran
    refine ⟨step ++ new, by rw [logStep, log, List.append_assoc], ?_⟩
    rw [KeepsAppSet, keeps] at keepsStep
    rw [lastAppliedApps_append]
    cases lastStep : lastAppliedApps step <;> rw [lastStep] at keepsStep <;> exact keepsStep

/-- A server whose first `Apply` applies `demoApp`, and whose later ones report a skipped apply
with no apps. -/
def applyOnceServer : Server :=
  { demoServer (.ok { skippedApply := true }) with
    applyOutcome := fun log _ =>
      if log.any fun e => e.kind == .apply then ⟨[], [], .ok { skippedApply := true }⟩
      else ⟨["apply"], [demoApp], .ok { filteredApps := [demoApp] }⟩ }

/-- `matchedEntry` before its first run. -/
def newMatchedEntry : SyncEntry := { matchedEntry with status := {} }

/-- The status of the first run of `newMatchedEntry`, whose `Apply` applied `demoApp`. -/
def appliedStatus : SyncJobStatus :=
  { lastExecutionTime := ⟨1000#64, 0⟩, isApply := true, state := "Enabled",
    applyResponse := { filteredApps := [demoApp] } }

/-- The status of the second run, whose `Apply` reported a skip: it reloaded `demoApp`. -/
def skippedStatus : SyncJobStatus :=
  { appliedStatus with applyResponse := { skippedApply := true, filteredApps := [demoApp] } }

/-- The world after the first run. -/
def afterApplied : World :=
  (runSyncJob applyOnceServer ⟨none⟩ newMatchedEntry false true none demoWorld).2

/-- The world after the second run. -/
def afterSkipped : World :=
  (runSyncJob applyOnceServer ⟨none⟩ { newMatchedEntry with status := appliedStatus } false true
    none afterApplied).2

theorem runChain_filteredApps_applyOnce :
    (SkipsReportNoApps applyOnceServer ∧
      newMatchedEntry.metadata.reload = appReloadOptionMatched ∧
      RunChain applyOnceServer newMatchedEntry demoWorld
        { { newMatchedEntry with status := appliedStatus } with status := skippedStatus }
        afterSkipped) ∧
    ∃ new, afterSkipped.log = new ++ demoWorld.log ∧
      skippedStatus.applyResponse.filteredApps =
        (lastAppliedApps new).getD newMatchedEntry.status.applyResponse.filteredApps :=
  have noApps : SkipsReportNoApps applyOnceServer := fun log call info h skipped => by
    simp only [applyOnceServer] at h
    split at h <;> cases h
    · rfl
    · cases skipped
  have runs : RunChain applyOnceServer newMatchedEntry demoWorld
      { { newMatchedEntry with status := appliedStatus } with status := skippedStatus }
      afterSkipped :=
    .run ⟨none⟩ false true none (.run ⟨none⟩ false true none .start rfl) rfl
  ⟨⟨noApps, rfl, runs⟩, runChain_filteredApps applyOnceServer noApps rfl runs⟩

/-! ## The reload results -/

section

variable (s : Server)

/-- **What a skipped run records of its reloads.** After an `Apply` that succeeded reporting a
skip, for an entry that reloads matched apps, whatever the last run's apps and the outcomes of
the reloads, a run that returns either ran the missing-app branch, or looked every app up and
then: when every reload succeeded, it records `Apply`'s own response, with the last run's apps
when `Apply` reported none, and returns `Apply`'s updated apps, whatever the reloads reported;
when a reload failed, it records what the reloads before it reported, in call order. -/
theorem afterApply_reloadResults {onAppMissing : Job (Except String JobResult)}
    {inputTx : Transaction} {tx : Nat} {entry : SyncEntry} {dryRun : Bool} {repoCache : Nat}
    {now : Time} {info : AppApplyResponse} {updatedApps : List AppPathDomain} {w w' : World}
    {status : SyncJobStatus} {apps : List AppPathDomain} (skipped : info.skippedApply = true)
    (matched : entry.metadata.reload = appReloadOptionMatched)
    (h : afterApply s onAppMissing inputTx tx entry dryRun repoCache now (.ok info) updatedApps w =
      (.ok (status, apps), w')) :
    (∃ w₁, onAppMissing w₁ = (.ok (status, apps), w')) ∨
    ∃ new, w'.log = new ++ w.log ∧ (∀ a err, Event.getAppTx tx a (.error err) ∉ new) ∧
      ((∀ p ∈ reloadsOf new, p.2.toBool) →
        status.applyResponse = skippedApplyInfo info entry.status.applyResponse.filteredApps ∧
        apps = updatedApps) ∧
      ((∃ p ∈ reloadsOf new, p.2.toBool = false) →
        let oks := (reloadsOf new).filterMap fun p => p.2.toOption
        status.applyResponse =
          { skippedApplyInfo info entry.status.applyResponse.filteredApps with
            reloadResults := oks.flatMap AppReloadResult.reloadResults
            approveResults := oks.filterMap AppReloadResult.approveResult
            promoteResults := oks.flatMap AppReloadResult.promoteResults }) := by
  rw [afterApply_of_skip s skipped matched] at h
  obtain ⟨lookups, kinds, ⟨hS, -⟩ | ⟨found, noFailure, covered, -, hS⟩⟩ :=
    skipPath_cases s onAppMissing inputTx tx entry dryRun repoCache _ info updatedApps w <;>
    rw [hS] at h
  · exact .inl ⟨_, h⟩
  obtain ⟨-, rs, logR, -, acc, outcome⟩ := reloadApps_spec s tx entry repoCache found
    entry.status.applyResponse.filteredApps
    (applyStatus s entry dryRun now entry.status.applyResponse.filteredApps (.ok info)).1 {}
    { w with log := lookups ++ w.log }
    fun a ha => by obtain ⟨app, happ, -⟩ := covered a ha; simp [happ]
  obtain ⟨newF, logF, kindsF, -⟩ := (adds_finishSyncJob s inputTx tx entry dryRun _ _ _ _).of_eq h
  obtain ⟨rfl, rfl⟩ := Prod.mk.inj (finishSyncJob_ok s h)
  obtain ⟨reloads, noFailed⟩ := skipSegment kindsF kinds noFailure rs
  refine .inr ⟨_, by simp [logF, logR], noFailed, ?_⟩
  rw [reloads]
  rcases outcome with ⟨-, allOk, same, noErr⟩ | ⟨err, -, lastErr, -, someErr⟩
  · refine ⟨fun _ => ?_, fun ⟨p, hp, failed⟩ => absurd (allOk p hp) (by simp [failed])⟩
    simp only [same, noErr]
    simp [reloadedApplyInfo, applyStatus]
  · refine ⟨fun allOk => ?_, fun _ => ?_⟩
    · obtain ⟨p, hp, hlast⟩ := Option.map_eq_some'.mp lastErr
      simpa [hlast, Except.toBool] using allOk p (List.mem_of_mem_getLast? hp)
    · simp [someErr, acc, reloadedApplyInfo, ReloadResults.foldl_add]

end

/-- A server whose `Apply` reports a skipped apply and whose `ReloadApp` reloads and promotes
`demoApp`. -/
def reloadingServer : Server :=
  { demoServer (.ok { skippedApply := true }) with
    reloadOutcome := fun _ _ => ⟨[], .ok ⟨[demoApp], none, [demoApp]⟩⟩ }

/-- A store that holds `matchedEntry`. -/
def matchedWorld : World := { db := { committed := { syncs := [matchedEntry] } } }

/-- `matchedWorld` with the run's transaction open. -/
def matchedTxWorld : World := { matchedWorld with db := matchedWorld.db.begin }

/-- The status of a run of `matchedEntry` whose `Apply` reported a skip and whose reloads
succeeded. -/
def reloadedStatus : SyncJobStatus :=
  { lastExecutionTime := ⟨1000#64, 0⟩, isApply := true, state := "Enabled",
    applyResponse := { skippedApply := true, filteredApps := [demoApp] } }

/-- The end of that run, after its `Apply` and clock read. -/
def reloadedRun : Except String JobResult × World :=
  afterApply reloadingServer (fun w => (.error rerunNoCommitHashError, w)) ⟨none⟩ 0 matchedEntry
    false 0 ⟨1000#64, 0⟩ (.ok { skippedApply := true }) [] matchedTxWorld

theorem afterApply_reloadResults_reloading :
    (({ skippedApply := true } : AppApplyResponse).skippedApply = true ∧
      matchedEntry.metadata.reload = appReloadOptionMatched ∧
      afterApply reloadingServer (fun w => (.error rerunNoCommitHashError, w)) ⟨none⟩ 0 matchedEntry
          false 0 ⟨1000#64, 0⟩ (.ok { skippedApply := true }) [] matchedTxWorld =
        (.ok (reloadedStatus, []), reloadedRun.2)) ∧
    ((∃ w₁, ((fun w => (.error rerunNoCommitHashError, w)) : Job (Except String JobResult)) w₁ =
        (.ok (reloadedStatus, []), reloadedRun.2)) ∨
      ∃ new, reloadedRun.2.log = new ++ matchedTxWorld.log ∧
        (∀ a err, Event.getAppTx 0 a (.error err) ∉ new) ∧
        ((∀ p ∈ reloadsOf new, p.2.toBool) →
          reloadedStatus.applyResponse =
            skippedApplyInfo { skippedApply := true } matchedEntry.status.applyResponse.filteredApps ∧
          ([] : List AppPathDomain) = []) ∧
        ((∃ p ∈ reloadsOf new, p.2.toBool = false) →
          let oks := (reloadsOf new).filterMap fun p => p.2.toOption
          reloadedStatus.applyResponse =
            { skippedApplyInfo { skippedApply := true } matchedEntry.status.applyResponse.filteredApps with
              reloadResults := oks.flatMap AppReloadResult.reloadResults
              approveResults := oks.filterMap AppReloadResult.approveResult
              promoteResults := oks.flatMap AppReloadResult.promoteResults })) :=
  have ran : afterApply reloadingServer (fun w => (.error rerunNoCommitHashError, w)) ⟨none⟩ 0
      matchedEntry false 0 ⟨1000#64, 0⟩ (.ok { skippedApply := true }) [] matchedTxWorld =
      (.ok (reloadedStatus, []), reloadedRun.2) := rfl
  ⟨⟨rfl, rfl, ran⟩, afterApply_reloadResults reloadingServer rfl rfl ran⟩

/-- **A skipped run drops what its reloads report.** The scheduler's run of `matchedEntry`, whose
`Apply` reports a skip, looks up `demoApp` and reloads it, and the reload succeeds reporting
`demoApp` reloaded and promoted. The status the run returns and commits carries no reload or
promote results, and the run returns no updated apps. -/
theorem skipped_run_drops_reload_results :
    reloadsOf (runSyncJob reloadingServer ⟨none⟩ matchedEntry false true none matchedWorld).2.log =
      [(reloadCall 0 matchedEntry ⟨demoApp, "main", ""⟩ 0, .ok ⟨[demoApp], none, [demoApp]⟩)] ∧
    (runSyncJob reloadingServer ⟨none⟩ matchedEntry false true none matchedWorld).1 =
      .ok ({ lastExecutionTime := ⟨1000#64, 0⟩, isApply := true, state := "Enabled",
             applyResponse := { skippedApply := true, filteredApps := [demoApp] } }, []) ∧
    ((runSyncJob reloadingServer ⟨none⟩ matchedEntry false true none
      matchedWorld).2.db.committed.find? matchedEntry.id).map
      (fun e => (e.status.applyResponse.reloadResults, e.status.applyResponse.promoteResults)) =
      some ([], []) :=
  ⟨rfl, rfl, by decide⟩

end OpenRun.Sync
