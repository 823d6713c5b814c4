import OpenRun.RepoCache.Invariant

/-!
# `getUnusedRepoPath`: the first free name, or no end

`getUnusedRepoPath` tries `repoName`, `repoName2`, `repoName3`, ... (`candidate`) and returns
the first whose `os.Stat` reports it missing. Any other outcome of `os.Stat` moves on to the
next name: a name that exists, and equally an error that is not `os.IsNotExist`.

On a file system that does not change while the loop runs, the loop returns the first free
candidate, once the fuel covers its position (`getUnusedRepoPath_first_free`). When no
candidate is ever reported missing, no fuel is enough (`getUnusedRepoPath_none_of_never_missing`).
That is what a file system does when `targetDir` is a regular file or cannot be searched:
every `os.Stat` under it fails with `ENOTDIR` or `EACCES`, and the loop runs for ever
(`getUnusedRepoPath_never_returns`).
-/

set_option autoImplicit false

namespace OpenRun.GitCache

/-- The names `getUnusedRepoPath` tries, in order: `repoName`, then `repoName2`, `repoName3`,
.... -/
def candidate (repoName : String) : Nat → String
  | 0 => repoName
  | k + 1 => repoName ++ toString (k + 2)

section

variable (g : Git) {targetDir repoName : String}

/-- The numbered probes on a file system that does not change: the first candidate reported
missing, `j` names after `count`, is returned when the fuel covers it. -/
theorem probeRepoPath_first_free {fs : String → StatResult} (static : ∀ log path, g.stat log path = fs path) :
    ∀ (fuel count j : Nat) (w : GitWorld), j < fuel →
    fs (pathJoin targetDir (repoName ++ toString (count + j))) = .notExist →
    (∀ i < j, fs (pathJoin targetDir (repoName ++ toString (count + i))) ≠ .notExist) →
    (probeRepoPath g targetDir repoName count fuel w).1 =
      some (pathJoin targetDir (repoName ++ toString (count + j)))
  | 0, _, _, _, enough, _, _ => absurd enough (Nat.not_lt_zero _)
  | fuel + 1, count, j, w, enough, missing, before => by
    simp only [probeRepoPath, Git.statM, record, static]
    cases j with
    | zero => simp only [Nat.add_zero] at missing ⊢; simp [missing]
    | succ j =>
      have shift : ∀ i, count + 1 + i = count + (i + 1) := fun i => by omega
      have found := before 0 (Nat.zero_lt_succ j)
      split
      · next result h => exact absurd (congrArg Prod.fst h) found
      · rw [← shift j]
        exact probeRepoPath_first_free static fuel (count + 1) j _ (Nat.lt_of_succ_lt_succ enough)
          (by rwa [shift]) fun i lt => by rw [shift]; exact before (i + 1) (Nat.succ_lt_succ lt)

/-- **The first free name.** On a file system that does not change while the loop runs, when
candidate `k` is reported missing and no candidate before it is, `getUnusedRepoPath` given
fuel for `k` candidates returns that candidate under `targetDir`. -/
theorem getUnusedRepoPath_first_free {fs : String → StatResult}
    (static : ∀ log path, g.stat log path = fs path) (k fuel : Nat) (enough : k ≤ fuel)
    (missing : fs (pathJoin targetDir (candidate repoName k)) = .notExist)
    (before : ∀ j < k, fs (pathJoin targetDir (candidate repoName j)) ≠ .notExist) (w : GitWorld) :
    (getUnusedRepoPath g targetDir repoName fuel w).1 =
      some (pathJoin targetDir (candidate repoName k)) := by
  simp only [getUnusedRepoPath, Git.statM, record, static]
  cases k with
  | zero => simp [candidate] at missing ⊢; simp [missing]
  | succ k =>
    have found := before 0 (Nat.zero_lt_succ k)
    split
    · next result h => exact absurd (congrArg Prod.fst h) found
    · rw [candidate, Nat.add_comm k 2]
      exact probeRepoPath_first_free g static fuel 2 k _ enough (by rwa [Nat.add_comm 2 k])
        fun i lt => by rw [Nat.add_comm 2 i]; exact before (i + 1) (Nat.succ_lt_succ lt)

/-- Numbered probes none of which is reported missing run until the fuel is spent. -/
theorem probeRepoPath_none_of_never_missing (never : ∀ log path, g.stat log path ≠ .notExist) :
    ∀ (fuel count : Nat) (w : GitWorld), (probeRepoPath g targetDir repoName count fuel w).1 = none
  | 0, _, _ => rfl
  | fuel + 1, count, w => by
    simp only [probeRepoPath, Git.statM, record]
    split
    · next result h => exact absurd (congrArg Prod.fst h) (never _ _)
    · exact probeRepoPath_none_of_never_missing never fuel (count + 1) _

/-- When no `os.Stat` reports a path missing, `getUnusedRepoPath` has not returned after any
number of candidates. -/
theorem getUnusedRepoPath_none_of_never_missing (never : ∀ log path, g.stat log path ≠ .notExist)
    (fuel : Nat) (w : GitWorld) : (getUnusedRepoPath g targetDir repoName fuel w).1 = none := by
  simp only [getUnusedRepoPath, Git.statM, record]
  split
  · next result h => exact absurd (congrArg Prod.fst h) (never _ _)
  · exact probeRepoPath_none_of_never_missing g never fuel 2 _

end

/-- A file system in which `/home/openrun/app_src` holds `app` and `app2`. -/
def takenFs (path : String) : StatResult :=
  if path = pathJoin "/home/openrun/app_src/" "app" ∨ path = pathJoin "/home/openrun/app_src/" "app2"
  then .found
  else .notExist

theorem getUnusedRepoPath_first_free_app3 :
    ((∀ log path, ({ okGit with stat := fun _ => takenFs } : Git).stat log path = takenFs path) ∧
      2 ≤ 2 ∧ takenFs (pathJoin "/home/openrun/app_src/" (candidate "app" 2)) = .notExist ∧
      ∀ j < 2, takenFs (pathJoin "/home/openrun/app_src/" (candidate "app" j)) ≠ .notExist) ∧
    (getUnusedRepoPath { okGit with stat := fun _ => takenFs } "/home/openrun/app_src/" "app" 2
        freshCache).1 =
      some (pathJoin "/home/openrun/app_src/" (candidate "app" 2)) :=
  have missing : takenFs (pathJoin "/home/openrun/app_src/" (candidate "app" 2)) = .notExist := by
    decide
  have before : ∀ j < 2, takenFs (pathJoin "/home/openrun/app_src/" (candidate "app" j)) ≠
      .notExist := by
    decide
  ⟨⟨fun _ _ => rfl, le_refl 2, missing, before⟩,
    getUnusedRepoPath_first_free { okGit with stat := fun _ => takenFs } (fun _ _ => rfl) 2 2
      (le_refl 2) missing before freshCache⟩

/-- A file system in which `$OPENRUN_HOME/app_src` is a regular file: every `os.Stat` under it
fails with `ENOTDIR`, which is not `os.IsNotExist`. -/
def notDirGit : Git :=
  { okGit with stat := fun _ path => .error ("stat " ++ path ++ ": not a directory") }

/-- **The loop does not end.** When `$OPENRUN_HOME/app_src` is a regular file,
`getUnusedRepoPath` has not returned after any number of candidates. -/
theorem getUnusedRepoPath_never_returns (fuel : Nat) :
    (getUnusedRepoPath notDirGit "/home/openrun/app_src/" "app" fuel freshCache).1 = none :=
  getUnusedRepoPath_none_of_never_missing notDirGit (fun _ _ h => nomatch h) fuel freshCache

end OpenRun.GitCache
