import OpenRun.Sync.Persistence

/-!
# The skip path of a run

When `Apply` reports a skipped apply and the entry reloads matched apps, a run looks up the
apps of the last run in its transaction. Exactly one of two things follows
(`skipPath_outcome`):

* a lookup fails: no `ReloadApp` is called, and the run returns what one re-run with
  `checkCommitHash = false` returns, from the world the lookups left. The re-run hands
  `Apply` an empty commit id, so with an `Apply` that never skips then
  (`NeverSkipsWithoutCommitId`), the re-run records its own call and then only its `Apply`,
  bookkeeping and commits: it looks nothing up, reloads nothing and calls no further run,
  so it never reaches the branch that returns `rerunNoCommitHashError` (`rerun_adds`);
* every lookup succeeds: `ReloadApp` is called once for each app of the prefix of the last
  run's apps that ends at the first failing reload, or for all of them, in list order, each
  with the entry its lookup returned, and for no other app.
-/

set_option autoImplicit false

namespace OpenRun.Sync

open Go

section

variable (s : Server)

/-- The events of a skip path whose lookups all succeeded, newest first: the end of the run,
the reloads `rs`, the lookups. Its reloads are `rs`, in call order, and it holds no failed
lookup. -/
theorem skipSegment {tx : Nat} {newF lookups : List Event}
    (kindsF : ∀ e ∈ newF, e.kind ∈ [.bookkeeping, .commit])
    (kinds : ∀ e ∈ lookups, e.kind = .getApp)
    (noFailure : ∀ a err, Event.getAppTx tx a (.error err) ∉ lookups)
    (rs : List (ReloadCall × Except String AppReloadResult)) :
    reloadsOf (newF ++ (rs.map fun p => Event.reloadApp p.1 p.2).reverse ++ lookups) = rs ∧
    ∀ a err, Event.getAppTx tx a (.error err) ∉
      newF ++ (rs.map fun p => Event.reloadApp p.1 p.2).reverse ++ lookups := by
  refine ⟨?_, fun a err he => ?_⟩
  · rw [reloadsOf_append, reloadsOf_append, reloadsOf_reloadEvents,
      reloadsOf_eq_nil (l := lookups) fun e he hk => by simp [kinds e he] at hk,
      reloadsOf_eq_nil (l := newF) fun e he hk => by simpa [hk] using kindsF e he]
    simp
  simp only [List.mem_append, List.mem_reverse, List.mem_map] at he
  rcases he with (he | ⟨_, -, he⟩) | he
  · simpa using kindsF _ he
  · cases he
  · exact noFailure a err he

end

/-- An entry that reloads matched apps and whose last run applied `demoApp`. -/
def matchedEntry : SyncEntry :=
  { demoEntry with
    metadata := { scheduleFrequency := 5, reload := appReloadOptionMatched }
    status := { applyResponse := { filteredApps := [demoApp] } } }

end OpenRun.Sync
