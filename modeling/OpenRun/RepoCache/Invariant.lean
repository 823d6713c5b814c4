import OpenRun.RepoCache.Ops

/-!
# The two maps of the repository cache

What each call may write. Key resolution, auth, the remote listing, the directory probe and
the target directory leave the cache as it was (`Frame`, and `Grows` for the worlds before
and after). So a `CheckoutRepo` call either leaves the cache as it was or adds to the
checkout map one key it did not have, right after a clone, a worktree, a checkout, a head
lookup and a commit read that all succeeded (`checkoutRepo_step`); a `GetSha` call either
leaves it as it was or adds to the sha map one key it did not have, right after a listing of
the remote that held the branch (`getSha_step`). Neither writes the other's map, and no key
is ever overwritten.

A key in either map therefore keeps its value over any sequence of calls
(`lookup_cache_runCalls`, `lookup_shaCache_runCalls`), and a call whose key is in the map is
answered from it in the world its key resolution left: no clone and no listing
(`checkoutRepo_of_lookup`, `getSha_of_lookup`). `repoCache_maps` puts these together.

The checkout map is keyed by repository, branch, commit and auth profile only, so a dev
request for a key that a non-dev request of the same cache already checked out is answered
from the map (`checkoutRepo_of_lookup` does not look at `isDev`): it gets the shallow clone
in the cache's temporary root, which `cleanup` removes, and not a persistent directory under
`$OPENRUN_HOME/app_src` (`dev_checkout_in_temp_root`).
-/

set_option autoImplicit false

namespace OpenRun.GitCache

/-! ## Go maps as association lists -/

section Maps

variable {κ ν : Type} [DecidableEq κ]

theorem lookup_mapSet_self (m : List (κ × ν)) (k : κ) (v : ν) :
    (mapSet m k v).lookup k = some v := by
  simp [mapSet]

theorem mapSet_of_lookup_eq_none {m : List (κ × ν)} {k : κ} (v : ν) (h : m.lookup k = none) :
    mapSet m k v = (k, v) :: m := by
  simp only [List.lookup_eq_none_iff, bne_iff_ne, ne_eq] at h
  simp only [mapSet, List.cons.injEq, true_and, List.filter_eq_self, decide_eq_true_eq]
  exact fun p hp hpk => h p hp hpk.symm

/-- A key already in a map keeps its value when a missing key is added in front. -/
theorem lookup_cons_of_lookup_eq_none {m : List (κ × ν)} {k k' : κ} {d : ν} (v : ν)
    (hk : m.lookup k = some d) (hk' : m.lookup k' = none) : ((k', v) :: m).lookup k = some d := by
  have hne : k ≠ k' := fun h => by simp [h, hk'] at hk
  simp [List.lookup_cons, beq_false_of_ne hne, hk]

end Maps

/-! ## Calls that leave the cache alone -/

/-- `w'` is `w` after calls that left the cache as it was: the same root and maps, and a
log that only grew. -/
def Grows (w w' : GitWorld) : Prop := w'.cache = w.cache ∧ w.log <:+ w'.log

namespace Grows

theorem refl (w : GitWorld) : Grows w w := ⟨rfl, List.suffix_refl _⟩

theorem trans {w₁ w₂ w₃ : GitWorld} (h₁ : Grows w₁ w₂) (h₂ : Grows w₂ w₃) : Grows w₁ w₃ :=
  ⟨h₂.1.trans h₁.1, h₁.2.trans h₂.2⟩

theorem record {α : Type} (result : α) (ev : GitEvent) (w : GitWorld) :
    Grows w (GitCache.record result ev w).2 :=
  ⟨rfl, List.suffix_cons _ _⟩

end Grows

/-- A call that leaves the cache as it was, whatever it returns. -/
def Frame {α : Type} (m : GitM α) : Prop := ∀ w, Grows w (m w).2

theorem Frame.grows {α : Type} {m : GitM α} (hm : Frame m) {w w' : GitWorld} {r : α}
    (h : m w = (r, w')) : Grows w w' := by
  simpa [h] using hm w

section Frames

variable (g : Git)

theorem frame_loadGitKeyM (gitAuth : String) : Frame (g.loadGitKeyM gitAuth) :=
  fun _ => Grows.record _ _ _

theorem frame_newPublicKeysM (user key password : String) :
    Frame (g.newPublicKeysM user key password) := by
  intro w
  simp only [Git.newPublicKeysM]
  split <;> exact Grows.record _ _ _

theorem frame_listRemoteM (url : String) (auth : Option AuthMethod) :
    Frame (g.listRemoteM url auth) :=
  fun _ => Grows.record _ _ _

theorem frame_mkdirTempM (dir : String) : Frame (g.mkdirTempM dir) :=
  fun _ => Grows.record _ _ _

theorem frame_statM (path : String) : Frame (g.statM path) :=
  fun _ => Grows.record _ _ _

theorem frame_mkdirAllM (path : String) : Frame (g.mkdirAllM path) :=
  fun _ => Grows.record _ _ _

theorem resolveRepoKey_frame (sourceUrl branch commit gitAuth : String) :
    Frame (resolveRepoKey g sourceUrl branch commit gitAuth) := by
  intro w
  simp only [resolveRepoKey]
  split
  · next h => exact (frame_loadGitKeyM g _).grows h
  · next h => split <;> exact (frame_loadGitKeyM g _).grows h

theorem createAuthMethod_frame (gitAuth : String) : Frame (createAuthMethod g gitAuth) := by
  intro w
  simp only [createAuthMethod]
  split
  · next h => exact (frame_loadGitKeyM g _).grows h
  · next h =>
    split
    · exact ((frame_loadGitKeyM g _).grows h).trans (frame_newPublicKeysM g _ _ _ _)
    · exact (frame_loadGitKeyM g _).grows h

theorem authFor_frame (gitAuth : String) : Frame (authFor g gitAuth) := by
  intro w
  simp only [authFor]
  split
  · split <;> next h => exact (createAuthMethod_frame g _).grows h
  · exact Grows.refl w

theorem latestCommitSHA_frame (repoURL branch : String) (auth : Option AuthMethod) :
    Frame (latestCommitSHA g repoURL branch auth) := by
  intro w
  simp only [latestCommitSHA]
  split
  · next h => exact (frame_listRemoteM g _ _).grows h
  · next h => split <;> exact (frame_listRemoteM g _ _).grows h

theorem probeRepoPath_frame (targetDir repoName : String) (count fuel : Nat) :
    Frame (probeRepoPath g targetDir repoName count fuel) := by
  induction fuel generalizing count with
  | zero => exact Grows.refl
  | succ fuel ih =>
    intro w
    simp only [probeRepoPath]
    split
    · next h => exact (frame_statM g _).grows h
    · next h => exact ((frame_statM g _).grows h).trans (ih _ _)

theorem getUnusedRepoPath_frame (targetDir repoName : String) (fuel : Nat) :
    Frame (getUnusedRepoPath g targetDir repoName fuel) := by
  intro w
  simp only [getUnusedRepoPath]
  split
  · next h => exact (frame_statM g _).grows h
  · next h => exact ((frame_statM g _).grows h).trans (probeRepoPath_frame g _ _ _ _ _)

theorem checkoutTarget_frame (fuel : Nat) (repoKey : Repo) (isDev : Bool) :
    Frame (checkoutTarget g fuel repoKey isDev) := by
  intro w
  simp only [checkoutTarget]
  split
  · next h => exact (authFor_frame g _).grows h
  · next h =>
    have auth := (authFor_frame g _).grows h
    split
    · split
      · next h' => exact auth.trans ((getUnusedRepoPath_frame g _ _ _).grows h')
      · next h' =>
        have path := auth.trans ((getUnusedRepoPath_frame g _ _ _).grows h')
        split <;> next h'' => exact path.trans ((frame_mkdirAllM g _).grows h'')
    · split <;> next h' => exact auth.trans ((frame_mkdirTempM g _).grows h')

end Frames

/-! ## One call -/

/-- What a clone can end in: a failure that left the cache as it was, or the checkout
recorded under its key after five git calls that all succeeded. -/
def CloneOutcome (repoKey : Repo) (folder targetPath : String) (cloneOptions : CloneOptions)
    (w : GitWorld) (p : Except String Checkout × GitWorld) : Prop :=
  ((∃ e, p.1 = .error e) ∧ Grows w p.2) ∨
  ∃ ref message hash, p.1 = .ok ⟨targetPath, folder, message, hash⟩ ∧
    p.2 = { cache := { w.cache with cache := mapSet w.cache.cache repoKey ⟨targetPath, message, hash⟩ }
            log := .commitObject ref (.ok (message, hash)) :: .head (.ok ref) ::
              .checkout (checkoutOptionsFor repoKey.branch repoKey.commit) (.ok ()) ::
              .worktree (.ok ()) :: .plainClone targetPath cloneOptions (.ok ()) :: w.log }

/-- What one `CheckoutRepo` call may do to the cache: leave it as it was, or add a key the
checkout map did not have, right after a clone, a worktree, a checkout, a head lookup and a
commit read that all succeeded. The root and the sha map stay as they were. -/
def CheckoutStep (w w' : GitWorld) : Prop :=
  w'.cache.rootDir = w.cache.rootDir ∧ w'.cache.shaCache = w.cache.shaCache ∧
  (Grows w w' ∨
    ∃ repoKey d, w.cache.cache.lookup repoKey = none ∧
      w'.cache.cache = (repoKey, d) :: w.cache.cache ∧
      ∃ ref cloneOptions log, w.log <:+ log ∧
        w'.log = .commitObject ref (.ok (d.commitMessage, d.hash)) :: .head (.ok ref) ::
          .checkout (checkoutOptionsFor repoKey.branch repoKey.commit) (.ok ()) ::
          .worktree (.ok ()) :: .plainClone d.dir cloneOptions (.ok ()) :: log)

/-- What one `GetSha` call may do to the cache: leave it as it was, or add a key the sha map
did not have, right after a listing of the remote that succeeded and holds the branch's
reference with that hash. The root and the checkout map stay as they were. -/
def ShaStep (w w' : GitWorld) : Prop :=
  w'.cache.rootDir = w.cache.rootDir ∧ w'.cache.cache = w.cache.cache ∧
  (Grows w w' ∨
    ∃ repoKey sha, w.cache.shaCache.lookup repoKey = none ∧
      w'.cache.shaCache = (repoKey, sha) :: w.cache.shaCache ∧
      ∃ auth refs log, w.log <:+ log ∧ (branchReferenceName repoKey.branch, sha) ∈ refs ∧
        w'.log = .listRemote repoKey.url auth (.ok refs) :: log)

theorem Grows.checkoutStep {w w' : GitWorld} (h : Grows w w') : CheckoutStep w w' := by
  refine ⟨?_, ?_, .inl h⟩ <;> rw [h.1]

theorem Grows.shaStep {w w' : GitWorld} (h : Grows w w') : ShaStep w w' := by
  refine ⟨?_, ?_, .inl h⟩ <;> rw [h.1]

theorem CheckoutStep.lookup_cache {w w' : GitWorld} (step : CheckoutStep w w') {k : Repo}
    {d : CacheDir} (hk : w.cache.cache.lookup k = some d) : w'.cache.cache.lookup k = some d := by
  rcases step.2.2 with grows | ⟨k', d', miss, added, -⟩
  · rwa [grows.1]
  · rw [added]
    exact lookup_cons_of_lookup_eq_none _ hk miss

theorem ShaStep.lookup_shaCache {w w' : GitWorld} (step : ShaStep w w') {k : Repo} {sha : String}
    (hk : w.cache.shaCache.lookup k = some sha) : w'.cache.shaCache.lookup k = some sha := by
  rcases step.2.2 with grows | ⟨k', sha', miss, added, -⟩
  · rwa [grows.1]
  · rw [added]
    exact lookup_cons_of_lookup_eq_none _ hk miss

section Calls

variable (g : Git)

theorem cloneInto_spec (repoKey : Repo) (folder targetPath : String) (cloneOptions : CloneOptions)
    (w : GitWorld) :
    CloneOutcome repoKey folder targetPath cloneOptions w
      (cloneInto g repoKey folder targetPath cloneOptions w) := by
  simp only [cloneInto, Git.plainCloneM, Git.worktreeM, Git.checkoutM, Git.headM,
    Git.commitObjectM, record]
  rcases g.plainClone w.log targetPath cloneOptions with e | ⟨⟩
  · exact .inl ⟨⟨_, rfl⟩, rfl, by simp [List.suffix_cons_iff]⟩
  dsimp only
  rcases g.worktree _ with e | ⟨⟩
  · exact .inl ⟨⟨_, rfl⟩, rfl, by simp [List.suffix_cons_iff]⟩
  dsimp only
  rcases g.checkout _ _ with e | ⟨⟩
  · exact .inl ⟨⟨_, rfl⟩, rfl, by simp [List.suffix_cons_iff]⟩
  dsimp only
  rcases g.head _ with e | ref
  · exact .inl ⟨⟨_, rfl⟩, rfl, by simp [List.suffix_cons_iff]⟩
  dsimp only
  rcases g.commitObject _ ref with e | ⟨message, hash⟩
  · exact .inl ⟨⟨_, rfl⟩, rfl, by simp [List.suffix_cons_iff]⟩
  exact .inr ⟨ref, message, hash, rfl, rfl⟩

/-- A hash comes from a listing of the remote that succeeded and holds the branch's
reference. -/
theorem latestCommitSHA_ok {repoURL branch sha : String} {auth : Option AuthMethod}
    {w w' : GitWorld} (h : latestCommitSHA g repoURL branch auth w = (.ok sha, w')) :
    w'.cache = w.cache ∧ ∃ refs, (branchReferenceName branch, sha) ∈ refs ∧
      w'.log = .listRemote repoURL auth (.ok refs) :: w.log := by
  simp only [latestCommitSHA, Git.listRemoteM, record] at h
  rcases hl : g.listRemote w.log repoURL auth with e | refs <;> simp only [hl] at h
  · cases h
  rcases hf : refs.find? fun ref => ref.1 = branchReferenceName branch with _ | ref <;>
    simp only [hf] at h
  · cases h
  cases h
  have hname : ref.1 = branchReferenceName branch := by simpa using List.find?_some hf
  exact ⟨rfl, refs, hname ▸ List.mem_of_find?_eq_some hf, rfl⟩

theorem checkoutRepo_step (fuel : Nat) (sourceUrl branch commit gitAuth : String) (isDev : Bool)
    (w : GitWorld) : CheckoutStep w (checkoutRepo g fuel sourceUrl branch commit gitAuth isDev w).2 := by
  simp only [checkoutRepo]
  split
  · next h => exact ((resolveRepoKey_frame g _ _ _ _).grows h).checkoutStep
  next repoKey folder w₁ h =>
  have key := (resolveRepoKey_frame g _ _ _ _).grows h
  split
  · exact key.checkoutStep
  next miss =>
  split
  · next h' => exact (key.trans ((checkoutTarget_frame g _ _ _).grows h')).checkoutStep
  · next h' => exact (key.trans ((checkoutTarget_frame g _ _ _).grows h')).checkoutStep
  next targetPath cloneOptions w₂ h' =>
  have target := key.trans ((checkoutTarget_frame g _ _ _).grows h')
  rcases cloneInto_spec g repoKey folder targetPath cloneOptions w₂ with
    ⟨-, cloneFailed⟩ | ⟨ref, message, hash, -, cloned⟩
  · exact (target.trans cloneFailed).checkoutStep
  · have miss' : w.cache.cache.lookup repoKey = none := key.1 ▸ miss
    dsimp only
    rw [cloned]
    refine ⟨by simp [target.1], by simp [target.1], .inr ⟨repoKey, ⟨targetPath, message, hash⟩,
      miss', ?_, ref, cloneOptions, w₂.log, target.2, rfl⟩⟩
    simp only [target.1, mapSet_of_lookup_eq_none _ miss']

theorem getSha_step (sourceUrl branch gitAuth : String) (w : GitWorld) :
    ShaStep w (getSha g sourceUrl branch gitAuth w).2 := by
  simp only [getSha]
  split
  · next h => exact ((resolveRepoKey_frame g _ _ _ _).grows h).shaStep
  next repoKey _ w₁ h =>
  have key := (resolveRepoKey_frame g _ _ _ _).grows h
  split
  · exact key.shaStep
  next miss =>
  split
  · next h' => exact (key.trans ((authFor_frame g _).grows h')).shaStep
  next auth w₂ h' =>
  have authed := key.trans ((authFor_frame g _).grows h')
  split
  · next h'' => exact (authed.trans ((latestCommitSHA_frame g _ _ _).grows h'')).shaStep
  next sha w₃ h'' =>
  obtain ⟨listed, refs, hmem, hlog⟩ := latestCommitSHA_ok g h''
  have miss' : w.cache.shaCache.lookup repoKey = none := key.1 ▸ miss
  refine ⟨by simp [listed, authed.1], by simp [listed, authed.1],
    .inr ⟨repoKey, sha, miss', ?_, auth, refs, w₂.log, authed.2, hmem, hlog⟩⟩
  simp [listed, authed.1, mapSet_of_lookup_eq_none _ miss']

/-! ## Sequences of calls -/

theorem CacheCall.lookup_cache_run (call : CacheCall) {w : GitWorld} {k : Repo} {d : CacheDir}
    (hk : w.cache.cache.lookup k = some d) : (call.run g w).cache.cache.lookup k = some d := by
  cases call with
  | getSha => rw [CacheCall.run, (getSha_step g _ _ _ w).2.1, hk]
  | checkoutRepo => exact (checkoutRepo_step g _ _ _ _ _ _ w).lookup_cache hk

theorem CacheCall.lookup_shaCache_run (call : CacheCall) {w : GitWorld} {k : Repo} {sha : String}
    (hk : w.cache.shaCache.lookup k = some sha) :
    (call.run g w).cache.shaCache.lookup k = some sha := by
  cases call with
  | getSha => exact (getSha_step g _ _ _ w).lookup_shaCache hk
  | checkoutRepo => rw [CacheCall.run, (checkoutRepo_step g _ _ _ _ _ _ w).2.1, hk]

theorem lookup_cache_runCalls (calls : List CacheCall) {w : GitWorld} {k : Repo} {d : CacheDir}
    (hk : w.cache.cache.lookup k = some d) : (runCalls g calls w).cache.cache.lookup k = some d := by
  induction calls generalizing w with
  | nil => exact hk
  | cons call calls ih => exact ih (call.lookup_cache_run g hk)

theorem lookup_shaCache_runCalls (calls : List CacheCall) {w : GitWorld} {k : Repo}
    {sha : String} (hk : w.cache.shaCache.lookup k = some sha) :
    (runCalls g calls w).cache.shaCache.lookup k = some sha := by
  induction calls generalizing w with
  | nil => exact hk
  | cons call calls ih => exact ih (call.lookup_shaCache_run g hk)

/-! ## Answers from the maps -/

/-- A checkout in the map is handed out again with no clone: the call ends in the world its
key resolution left. -/
theorem checkoutRepo_of_lookup {fuel : Nat} {sourceUrl branch commit gitAuth : String}
    {isDev : Bool} {w w₁ : GitWorld} {repoKey : Repo} {folder : String} {d : CacheDir}
    (hkey : resolveRepoKey g sourceUrl branch commit gitAuth w = (.ok (repoKey, folder), w₁))
    (hd : w.cache.cache.lookup repoKey = some d) :
    checkoutRepo g fuel sourceUrl branch commit gitAuth isDev w =
      (some (.ok ⟨d.dir, folder, d.commitMessage, d.hash⟩), w₁) := by
  have key := (resolveRepoKey_frame g _ _ _ _).grows hkey
  simp only [checkoutRepo, hkey, key.1, hd]

/-- A hash in the sha map is returned again with no listing of the remote. -/
theorem getSha_of_lookup {sourceUrl branch gitAuth : String} {w w₁ : GitWorld} {repoKey : Repo}
    {folder sha : String}
    (hkey : resolveRepoKey g sourceUrl branch "" gitAuth w = (.ok (repoKey, folder), w₁))
    (hsha : w.cache.shaCache.lookup repoKey = some sha) :
    getSha g sourceUrl branch gitAuth w = (.ok sha, w₁) := by
  have key := (resolveRepoKey_frame g _ _ _ _).grows hkey
  simp only [getSha, hkey, key.1, hsha]

/-- After a successful `CheckoutRepo` its key maps to the directory, message and hash it
returned. -/
theorem lookup_of_checkoutRepo {fuel : Nat} {sourceUrl branch commit gitAuth : String}
    {isDev : Bool} {w w' : GitWorld} {co : Checkout} {repoKey : Repo} {folder : String}
    (h : checkoutRepo g fuel sourceUrl branch commit gitAuth isDev w = (some (.ok co), w'))
    (hkey : (resolveRepoKey g sourceUrl branch commit gitAuth w).1 = .ok (repoKey, folder)) :
    co.folder = folder ∧ w'.cache.cache.lookup repoKey = some ⟨co.dir, co.commitMessage, co.hash⟩ := by
  obtain ⟨w₁, hkey⟩ : ∃ w₁, resolveRepoKey g sourceUrl branch commit gitAuth w =
      (.ok (repoKey, folder), w₁) := ⟨_, Prod.ext hkey rfl⟩
  have key := (resolveRepoKey_frame g _ _ _ _).grows hkey
  rcases hd : w.cache.cache.lookup repoKey with _ | d
  · simp only [checkoutRepo, hkey, key.1, hd] at h
    split at h
    · cases h
    · cases h
    next targetPath cloneOptions w₂ h' =>
    rcases cloneInto_spec g repoKey folder targetPath cloneOptions w₂ with
      ⟨⟨e, failed⟩, -⟩ | ⟨ref, message, hash, cloned, recorded⟩
    · simp [failed] at h
    · simp only [cloned, recorded, Prod.mk.injEq, Option.some.injEq, Except.ok.injEq] at h
      obtain ⟨rfl, rfl⟩ := h
      exact ⟨rfl, lookup_mapSet_self _ _ _⟩
  · rw [checkoutRepo_of_lookup g hkey hd] at h
    cases h
    exact ⟨rfl, key.1 ▸ hd⟩

/-- After a successful `GetSha` its key maps to the hash it returned. -/
theorem lookup_of_getSha {sourceUrl branch gitAuth : String} {w w' : GitWorld} {sha : String}
    {repoKey : Repo} {folder : String} (h : getSha g sourceUrl branch gitAuth w = (.ok sha, w'))
    (hkey : (resolveRepoKey g sourceUrl branch "" gitAuth w).1 = .ok (repoKey, folder)) :
    w'.cache.shaCache.lookup repoKey = some sha := by
  obtain ⟨w₁, hkey⟩ : ∃ w₁, resolveRepoKey g sourceUrl branch "" gitAuth w =
      (.ok (repoKey, folder), w₁) := ⟨_, Prod.ext hkey rfl⟩
  have key := (resolveRepoKey_frame g _ _ _ _).grows hkey
  rcases hd : w.cache.shaCache.lookup repoKey with _ | sha'
  · simp only [getSha, hkey, key.1, hd] at h
    split at h
    · cases h
    split at h
    · cases h
    cases h
    exact lookup_mapSet_self _ _ _
  · rw [getSha_of_lookup g hkey hd] at h
    cases h
    exact key.1 ▸ hd

/-- **The two maps of one cache.** A `CheckoutRepo` call writes only the checkout map, and
only a missing key after a completed clone; a `GetSha` call writes only the sha map, and
only a missing key after a listing of the remote. So after a successful call for a key,
every later call for that key, after any sequence of calls, is answered from the map: no
clone and no listing, the same directory, message and hash (with the sub-path of the later
call's own URL), or the same hash. -/
theorem repoCache_maps (g : Git) :
    (∀ fuel sourceUrl branch commit gitAuth isDev w,
      CheckoutStep w (checkoutRepo g fuel sourceUrl branch commit gitAuth isDev w).2) ∧
    (∀ sourceUrl branch gitAuth w, ShaStep w (getSha g sourceUrl branch gitAuth w).2) ∧
    (∀ (calls : List CacheCall) fuel sourceUrl branch commit gitAuth isDev fuel' sourceUrl' branch'
        commit' gitAuth' isDev' (w w₁ w₂ : GitWorld) (co : Checkout) repoKey folder folder',
      checkoutRepo g fuel sourceUrl branch commit gitAuth isDev w = (some (.ok co), w₁) →
      (resolveRepoKey g sourceUrl branch commit gitAuth w).1 = .ok (repoKey, folder) →
      resolveRepoKey g sourceUrl' branch' commit' gitAuth' (runCalls g calls w₁) =
        (.ok (repoKey, folder'), w₂) →
      checkoutRepo g fuel' sourceUrl' branch' commit' gitAuth' isDev' (runCalls g calls w₁) =
        (some (.ok ⟨co.dir, folder', co.commitMessage, co.hash⟩), w₂)) ∧
    (∀ (calls : List CacheCall) sourceUrl branch gitAuth sourceUrl' branch' gitAuth'
        (w w₁ w₂ : GitWorld) sha repoKey folder folder',
      getSha g sourceUrl branch gitAuth w = (.ok sha, w₁) →
      (resolveRepoKey g sourceUrl branch "" gitAuth w).1 = .ok (repoKey, folder) →
      resolveRepoKey g sourceUrl' branch' "" gitAuth' (runCalls g calls w₁) =
        (.ok (repoKey, folder'), w₂) →
      getSha g sourceUrl' branch' gitAuth' (runCalls g calls w₁) = (.ok sha, w₂)) := by
  refine ⟨checkoutRepo_step g, getSha_step g, ?_, ?_⟩
  · intro calls _ _ _ _ _ _ _ _ _ _ _ _ _ _ _ _ _ _ _ first firstKey laterKey
    exact checkoutRepo_of_lookup g laterKey
      (lookup_cache_runCalls g calls (lookup_of_checkoutRepo g first firstKey).2)
  · intro calls _ _ _ _ _ _ _ _ _ _ _ _ _ first firstKey laterKey
    exact getSha_of_lookup g laterKey
      (lookup_shaCache_runCalls g calls (lookup_of_getSha g first firstKey))

end Calls

/-- A git server and file system that answer every call with success: the branch `main` of
every repository is at commit `c1`, and a temporary directory under `dir` is `dir/repo_1`. -/
def okGit : Git where
  defaultGitAuth := ""
  openrunHome := "/home/openrun"
  parseGitUrl := fun url _ => .ok (url, "")
  loadGitKey := fun _ _ => .ok ⟨false, "", "", ""⟩
  newPublicKeys := fun _ _ _ _ => .ok ()
  listRemote := fun _ _ _ => .ok [("refs/heads/main", "c1")]
  mkdirTemp := fun _ dir => .ok (dir ++ "/repo_1")
  stat := fun _ _ => .notExist
  mkdirAll := fun _ _ => .ok ()
  plainClone := fun _ _ _ => .ok ()
  worktree := fun _ => .ok ()
  checkout := fun _ _ => .ok ()
  head := fun _ => .ok "c1"
  commitObject := fun _ hash => .ok ("first commit", hash)

/-- A fresh cache over the temporary root `/tmp/openrun_git_1`. -/
def freshCache : GitWorld := { cache := { rootDir := "/tmp/openrun_git_1" } }

theorem checkoutRepo_again_after_getSha :
    checkoutRepo okGit 0 "https://git/app" "main" "" "" false
        (runCalls okGit [.getSha "https://git/app" "main" ""]
          (checkoutRepo okGit 0 "https://git/app" "main" "" "" false freshCache).2) =
      (some (.ok ⟨"/tmp/openrun_git_1/repo_1", "", "first commit", "c1"⟩),
        (resolveRepoKey okGit "https://git/app" "main" "" ""
          (runCalls okGit [.getSha "https://git/app" "main" ""]
            (checkoutRepo okGit 0 "https://git/app" "main" "" "" false freshCache).2)).2) :=
  (repoCache_maps okGit).2.2.1 _ 0 "https://git/app" "main" "" "" false 0 "https://git/app" "main"
    "" "" false freshCache _ _ ⟨"/tmp/openrun_git_1/repo_1", "", "first commit", "c1"⟩
    ⟨"https://git/app", "main", "", ""⟩ "" "" rfl rfl rfl

/-- A non-dev checkout, then a dev checkout of the same repository and branch, on a fresh
cache. -/
def tempThenDev : Option (Except String Checkout) × GitWorld :=
  checkoutRepo okGit 0 "https://git/app" "main" "" "" true
    (checkoutRepo okGit 0 "https://git/app" "main" "" "" false freshCache).2

theorem dev_checkout_in_temp_root :
    tempThenDev.1 = some (.ok ⟨"/tmp/openrun_git_1/repo_1", "", "first commit", "c1"⟩) ∧
    freshCache.cache.rootDir = "/tmp/openrun_git_1" ∧
    GitEvent.plainClone "/tmp/openrun_git_1/repo_1"
        { url := "https://git/app", referenceName := "refs/heads/main", singleBranch := true,
          depth := 1 } (.ok ()) ∈ tempThenDev.2.log ∧
    (cleanup tempThenDev.2).2.log = .removeAll "/tmp/openrun_git_1" :: tempThenDev.2.log :=
  ⟨rfl, rfl, .tail _ (.tail _ (.tail _ (.tail _ (.tail _ (.head _))))), rfl⟩

end OpenRun.GitCache
