import OpenRun.RepoCache.Basic

/-!
# `GetSha`, `CheckoutRepo` and the rest of the repository cache

The two lookups of the cache and their helpers, as in the Go source.

`getSha` answers from `shaCache` when it can, and otherwise lists the remote (no clone, no
working tree) and records the hash of the branch's reference. `checkoutRepo` answers from
`cache` when it can; otherwise it picks a directory (a persistent one under
`$OPENRUN_HOME/app_src` in dev mode, found by `getUnusedRepoPath`, else a fresh one under
the cache's temporary root), clones into it, checks out the commit or the branch, reads the
head commit and only then records the checkout (`cloneInto`). The clone is single-branch
when no commit is asked for, and shallow as well outside dev mode (`cloneOptionsFor`).

`getUnusedRepoPath` probes `repoName`, `repoName2`, `repoName3`, ... under `targetDir`,
each joined to it by `path.Join`, which cleans the result (`pathClean`: a stack machine over
the slash-separated elements), until `os.Stat` reports a candidate missing, and loops for ever when no candidate is. The loop over the
numbered candidates takes a `fuel` bound; `none` is a probe still running when the fuel is
spent, and `checkoutRepo` passes that on as a call that has not returned.

A `CacheCall` is one `GetSha` or `CheckoutRepo` request, and `runCalls` runs a sequence of
them on one cache, each starting from the world the one before it left.
-/

set_option autoImplicit false

namespace OpenRun.GitCache

/-- `plumbing.NewBranchReferenceName`. -/
def branchReferenceName (branch : String) : String := "refs/heads/" ++ branch

/-- `%q` of a name made of printable characters other than quote and backslash. -/
def goQuote (text : String) : String := "\"" ++ text ++ "\""

/-- The elements of a slash-separated path, empty ones included. -/
def splitSlash : List Char → List (List Char)
  | [] => [[]]
  | c :: cs =>
    if c = '/' then [] :: splitSlash cs
    else
      match splitSlash cs with
      | [] => [[c]]
      | p :: ps => (c :: p) :: ps

/-- Elements joined with slashes. -/
def joinSlash : List (List Char) → List Char
  | [] => []
  | [p] => p
  | p :: ps => p ++ '/' :: joinSlash ps

/-- One element read by the loop of `path.Clean`, onto the elements kept so far, the last at
the head. Empty elements and `.` are dropped; `..` removes the last element kept unless that
is a `..` itself, and with nothing to remove a rooted path drops it and a relative one keeps
it. -/
def cleanPush (rooted : Bool) (kept : List (List Char)) (elem : List Char) : List (List Char) :=
  if elem = [] ∨ elem = ['.'] then kept
  else if elem = ['.', '.'] then
    match kept with
    | [] => if rooted then [] else [elem]
    | top :: rest => if top = ['.', '.'] then elem :: top :: rest else rest
  else elem :: kept

/-- `path.Clean`: the shortest path equivalent to `p` by lexical processing. A rooted path
keeps its leading slash, and a relative path with nothing left is `.`. -/
def pathClean (p : String) : String :=
  let rooted := p.toList.head? = some '/'
  let kept := joinSlash ((splitSlash p.toList).foldl (cleanPush rooted) []).reverse
  if rooted then ⟨'/' :: kept⟩ else if kept = [] then "." else ⟨kept⟩

/-- `path.Join(dir, name)`: the two joined with a slash and cleaned; an empty `dir` adds
nothing, and two empty ones give the empty path. -/
def pathJoin (dir name : String) : String :=
  if dir = "" then (if name = "" then "" else pathClean name) else pathClean (dir ++ "/" ++ name)

example : pathJoin "/home/openrun/app_src/" "app2" = "/home/openrun/app_src/app2" := by decide
example : pathJoin "a/../../b/./" "c" = "../b/c" := by decide

/-- `filepath.Base`: the last element of a path, trailing slashes removed. -/
def baseName (p : String) : String :=
  let trimmed := p.dropRightWhile (· = '/')
  if p = "" then "." else if trimmed = "" then "/" else (trimmed.splitOn "/").getLastD ""

/-- What `CheckoutRepo` returns: the directory, the sub-path of the URL, the commit message
and the commit hash. -/
structure Checkout where
  dir : String
  folder : String
  commitMessage : String
  hash : String
deriving DecidableEq, Repr

/-- The clone options of a checkout before the auth method is set. -/
def cloneOptionsFor (repo branch commit : String) (isDev : Bool) : CloneOptions :=
  if commit = "" then
    { url := repo, referenceName := branchReferenceName branch, singleBranch := true
      depth := if isDev then 0 else 1 }
  else { url := repo }

/-- The checkout options: the commit when one is asked for, else the branch. -/
def checkoutOptionsFor (branch commit : String) : CheckoutOptions :=
  if commit ≠ "" then { hash := commit } else { branch := branchReferenceName branch }

/-- `NewRepoCache`: an empty cache over a fresh temporary root. -/
def newRepoCache (g : Git) (log : List GitEvent) : Except String RepoCache × List GitEvent :=
  match g.mkdirTemp log "" with
  | .error e => (.error e, .mkdirTemp "" (.error e) :: log)
  | .ok rootDir => (.ok { rootDir := rootDir }, .mkdirTemp "" (.ok rootDir) :: log)

/-- `RepoCache.Cleanup`: remove the temporary root, once. -/
def cleanup : GitM Unit := fun w =>
  if w.cache.rootDir ≠ "" then
    ((), { cache := { w.cache with rootDir := "" }, log := .removeAll w.cache.rootDir :: w.log })
  else ((), w)

section

variable (g : Git)

/-- `createAuthMethod`: SSH public keys when the profile has a key, else basic auth. -/
def createAuthMethod (gitAuth : String) : GitM (Except String AuthMethod) := fun w =>
  match g.loadGitKeyM gitAuth w with
  | (.error e, w) => (.error e, w)
  | (.ok authEntry, w) =>
  if authEntry.key ≠ "" then g.newPublicKeysM authEntry.user authEntry.key authEntry.password w
  else (.ok (.basicAuth authEntry.user authEntry.password), w)

/-- The auth method of a call: none for the empty profile. -/
def authFor (gitAuth : String) : GitM (Except String (Option AuthMethod)) := fun w =>
  if gitAuth ≠ "" then
    match createAuthMethod g gitAuth w with
    | (.error e, w) => (.error e, w)
    | (.ok auth, w) => (.ok (some auth), w)
  else (.ok none, w)

/-- `latestCommitSHA`: the hash of the branch's reference in a listing of the remote. -/
def latestCommitSHA (repoURL branch : String) (auth : Option AuthMethod) :
    GitM (Except String String) := fun w =>
  match g.listRemoteM repoURL auth w with
  | (.error e, w) => (.error ("could not list remote refs: " ++ e), w)
  | (.ok refs, w) =>
  match refs.find? fun ref => ref.1 = branchReferenceName branch with
  | some ref => (.ok ref.2, w)
  | none => (.error ("branch " ++ goQuote branch ++ " not found"), w)

/-- The key of a call: the auth profile after defaulting is loaded, and the URL is
parsed for it into the repository and the sub-path. -/
def resolveRepoKey (sourceUrl branch commit gitAuth : String) :
    GitM (Except String (Repo × String)) := fun w =>
  let gitAuth := cmpOr gitAuth g.defaultGitAuth
  match g.loadGitKeyM gitAuth w with
  | (.error e, w) => (.error e, w)
  | (.ok authEntry, w) =>
  match g.parseGitUrl sourceUrl authEntry.usingSSH with
  | .error e => (.error e, w)
  | .ok (repo, folder) => (.ok (⟨repo, branch, commit, gitAuth⟩, folder), w)

/-- `RepoCache.GetSha`. -/
def getSha (sourceUrl branch gitAuth : String) : GitM (Except String String) := fun w =>
  match resolveRepoKey g sourceUrl branch "" gitAuth w with
  | (.error e, w) => (.error e, w)
  | (.ok (repoKey, _), w) =>
  match w.cache.shaCache.lookup repoKey with
  | some sha => (.ok sha, w)
  | none =>
  match authFor g repoKey.auth w with
  | (.error e, w) => (.error e, w)
  | (.ok auth, w) =>
  match latestCommitSHA g repoKey.url repoKey.branch auth w with
  | (.error e, w) => (.error e, w)
  | (.ok sha, w) =>
    (.ok sha, { w with cache := { w.cache with shaCache := mapSet w.cache.shaCache repoKey sha } })

/-- The probe loop of `getUnusedRepoPath` from suffix `count`, over at most `fuel`
candidates. -/
def probeRepoPath (targetDir repoName : String) : Nat → Nat → GitM (Option String)
  | _, 0 => fun w => (none, w)
  | count, fuel + 1 => fun w =>
    let unusedName := repoName ++ toString count
    match g.statM (pathJoin targetDir unusedName) w with
    | (.notExist, w) => (some (pathJoin targetDir unusedName), w)
    | (_, w) => probeRepoPath targetDir repoName (count + 1) fuel w

/-- `getUnusedRepoPath`: the first of `repoName`, `repoName2`, `repoName3`, ... that
`os.Stat` reports missing; the numbered candidates are probed for at most `fuel` steps. -/
def getUnusedRepoPath (targetDir repoName : String) (fuel : Nat) : GitM (Option String) :=
  fun w =>
  match g.statM (pathJoin targetDir repoName) w with
  | (.notExist, w) => (some (pathJoin targetDir repoName), w)
  | (_, w) => probeRepoPath g targetDir repoName 2 fuel w

/-- Clone into `targetPath`, check out, read the head commit and record the checkout
under `repoKey`: the map is written only once all of these succeeded. -/
def cloneInto (repoKey : Repo) (folder targetPath : String) (cloneOptions : CloneOptions) :
    GitM (Except String Checkout) := fun w =>
  match g.plainCloneM targetPath cloneOptions w with
  | (.error e, w) => (.error ("error checking out branch " ++ repoKey.branch ++ ": " ++ e), w)
  | (.ok (), w) =>
  match g.worktreeM w with
  | (.error e, w) => (.error e, w)
  | (.ok (), w) =>
  match g.checkoutM (checkoutOptionsFor repoKey.branch repoKey.commit) w with
  | (.error e, w) =>
    (.error ("error checking out branch " ++ repoKey.branch ++ " commit " ++ repoKey.commit ++
      ": " ++ e), w)
  | (.ok (), w) =>
  match g.headM w with
  | (.error e, w) => (.error e, w)
  | (.ok ref, w) =>
  match g.commitObjectM ref w with
  | (.error e, w) => (.error e, w)
  | (.ok (message, hash), w) =>
    (.ok ⟨targetPath, folder, message, hash⟩,
      { w with cache := { w.cache with
        cache := mapSet w.cache.cache repoKey ⟨targetPath, message, hash⟩ } })

/-- The directory and clone options of a checkout that is not in the cache: a persistent
directory under `$OPENRUN_HOME/app_src` in dev mode, else a fresh one under the root. -/
def checkoutTarget (fuel : Nat) (repoKey : Repo) (isDev : Bool) :
    GitM (Option (Except String (String × CloneOptions))) := fun w =>
  match authFor g repoKey.auth w with
  | (.error e, w) => (some (.error e), w)
  | (.ok auth, w) =>
  let cloneOptions :=
    { cloneOptionsFor repoKey.url repoKey.branch repoKey.commit isDev with auth := auth }
  if isDev then
    match getUnusedRepoPath g (g.openrunHome ++ "/app_src/") (baseName repoKey.url) fuel w with
    | (none, w) => (none, w)
    | (some targetPath, w) =>
    match g.mkdirAllM targetPath w with
    | (.error e, w) => (some (.error e), w)
    | (.ok (), w) => (some (.ok (targetPath, cloneOptions)), w)
  else
  match g.mkdirTempM w.cache.rootDir w with
  | (.error e, w) => (some (.error e), w)
  | (.ok targetPath, w) => (some (.ok (targetPath, cloneOptions)), w)

/-- `RepoCache.CheckoutRepo`; `none` is a dev checkout whose directory probe is still
running after `fuel` numbered candidates. -/
def checkoutRepo (fuel : Nat) (sourceUrl branch commit gitAuth : String) (isDev : Bool) :
    GitM (Option (Except String Checkout)) := fun w =>
  match resolveRepoKey g sourceUrl branch commit gitAuth w with
  | (.error e, w) => (some (.error e), w)
  | (.ok (repoKey, folder), w) =>
  match w.cache.cache.lookup repoKey with
  | some dir => (some (.ok ⟨dir.dir, folder, dir.commitMessage, dir.hash⟩), w)
  | none =>
  match checkoutTarget g fuel repoKey isDev w with
  | (none, w) => (none, w)
  | (some (.error e), w) => (some (.error e), w)
  | (some (.ok (targetPath, cloneOptions)), w) =>
  match cloneInto g repoKey folder targetPath cloneOptions w with
  | (r, w) => (some r, w)

end

/-- A call on one repository cache. -/
inductive CacheCall where
  | getSha (sourceUrl branch gitAuth : String)
  | checkoutRepo (fuel : Nat) (sourceUrl branch commit gitAuth : String) (isDev : Bool)
deriving DecidableEq, Repr

/-- The cache after a call, whatever the call returned. -/
def CacheCall.run (g : Git) : CacheCall → GitWorld → GitWorld
  | .getSha sourceUrl branch gitAuth, w => (GitCache.getSha g sourceUrl branch gitAuth w).2
  | .checkoutRepo fuel sourceUrl branch commit gitAuth isDev, w =>
    (GitCache.checkoutRepo g fuel sourceUrl branch commit gitAuth isDev w).2

/-- The cache after a sequence of calls, in order. -/
def runCalls (g : Git) : List CacheCall → GitWorld → GitWorld
  | [], w => w
  | call :: calls, w => runCalls g calls (call.run g w)

end OpenRun.GitCache
