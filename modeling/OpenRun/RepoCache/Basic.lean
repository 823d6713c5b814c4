import Mathlib.Data.List.Basic

/-!
# The repository cache: state, git and the file system

`RepoCache` resolves git sources for one reconciliation cycle. It keeps two Go maps keyed
by `Repo` (URL after parsing, branch, commit, auth profile after defaulting): `shaCache`,
the head commit of a branch as a remote listing reported it, and `cache`, the directory,
commit message and hash of a completed checkout. Both maps are association lists here,
the latest write of a key first; `mapSet` is Go's `m[k] = v`, which replaces the value of
a key that is already there.

Everything outside the process is an oracle of `Git`, decided from the log of the calls
made so far: loading an auth profile, building an SSH auth method, listing a remote,
creating directories, `stat`, cloning, checking out and reading the head. `parseGitUrl`
is called by the cache but is not under src/; it is a pure function of the URL and of
whether the profile uses SSH, and is taken as a field of `Git`. Every call is recorded in
`GitWorld.log` with its outcome.
-/

set_option autoImplicit false

namespace OpenRun.GitCache

/-- `Repo`: the key of both maps. -/
structure Repo where
  url : String
  branch : String
  commit : String
  auth : String
deriving DecidableEq, Repr

/-- `CacheDir`: a checkout the cache handed out. -/
structure CacheDir where
  dir : String
  commitMessage : String
  hash : String
deriving DecidableEq, Repr

/-- `RepoCache`: the private temporary root and the two maps. -/
structure RepoCache where
  rootDir : String
  cache : List (Repo × CacheDir) := []
  shaCache : List (Repo × String) := []
deriving DecidableEq, Repr

/-- Go's `m[k] = v` on a map kept as an association list. -/
def mapSet {κ ν : Type} [DecidableEq κ] (m : List (κ × ν)) (k : κ) (v : ν) : List (κ × ν) :=
  (k, v) :: m.filter fun p => p.1 ≠ k

/-- `cmp.Or(a, b)`: `a` unless it is empty. -/
def cmpOr (a b : String) : String := if a = "" then b else a

/-- What `loadGitKey` returns for an auth profile. -/
structure AuthEntry where
  usingSSH : Bool
  key : String
  user : String
  password : String
deriving DecidableEq, Repr

/-- `transport.AuthMethod`: SSH public keys or HTTP basic auth. -/
inductive AuthMethod where
  | publicKeys (user key password : String)
  | basicAuth (user password : String)
deriving DecidableEq, Repr

/-- The fields of `git.CloneOptions` the cache sets. `depth = 0` is a full clone. -/
structure CloneOptions where
  url : String
  referenceName : String := ""
  singleBranch : Bool := false
  depth : Nat := 0
  auth : Option AuthMethod := none
deriving DecidableEq, Repr

/-- The fields of `git.CheckoutOptions` the cache sets: a commit hash or a branch. -/
structure CheckoutOptions where
  hash : String := ""
  branch : String := ""
deriving DecidableEq, Repr

/-- The outcome of `os.Stat`: found, missing (`os.IsNotExist`), or another error. -/
inductive StatResult where
  | found
  | notExist
  | error (msg : String)
deriving DecidableEq, Repr

/-- One call to git or the file system, with its outcome. -/
inductive GitEvent where
  | loadGitKey (gitAuth : String) (result : Except String AuthEntry)
  | newPublicKeys (user : String) (result : Except String Unit)
  | listRemote (url : String) (auth : Option AuthMethod)
      (result : Except String (List (String × String)))
  | mkdirTemp (dir : String) (result : Except String String)
  | stat (path : String) (result : StatResult)
  | mkdirAll (path : String) (result : Except String Unit)
  | plainClone (path : String) (options : CloneOptions) (result : Except String Unit)
  | worktree (result : Except String Unit)
  | checkout (options : CheckoutOptions) (result : Except String Unit)
  | head (result : Except String String)
  | commitObject (hash : String) (result : Except String (String × String))
  | removeAll (path : String)

/-- The configuration the cache reads and the behaviour of git and the file system. -/
structure Git where
  /-- `config.Security.DefaultGitAuth` -/
  defaultGitAuth : String
  /-- The value of `$OPENRUN_HOME`. -/
  openrunHome : String
  parseGitUrl : String → Bool → Except String (String × String)
  loadGitKey : List GitEvent → String → Except String AuthEntry
  newPublicKeys : List GitEvent → String → String → String → Except String Unit
  listRemote : List GitEvent → String → Option AuthMethod → Except String (List (String × String))
  mkdirTemp : List GitEvent → String → Except String String
  stat : List GitEvent → String → StatResult
  mkdirAll : List GitEvent → String → Except String Unit
  plainClone : List GitEvent → String → CloneOptions → Except String Unit
  worktree : List GitEvent → Except String Unit
  checkout : List GitEvent → CheckoutOptions → Except String Unit
  head : List GitEvent → Except String String
  /-- The message and hash of the commit with the given hash. -/
  commitObject : List GitEvent → String → Except String (String × String)

/-- The cache and the log of the calls it made, newest first. -/
structure GitWorld where
  cache : RepoCache
  log : List GitEvent := []

/-- An operation on a repository cache: a function of the world before it to its result
and the world after it. -/
abbrev GitM (α : Type) := GitWorld → α × GitWorld

/-- Record a call and return its outcome. -/
def record {α : Type} (result : α) (ev : GitEvent) : GitM α := fun w =>
  (result, { w with log := ev :: w.log })

namespace Git

variable (g : Git)

/-- `loadGitKey`. -/
def loadGitKeyM (gitAuth : String) : GitM (Except String AuthEntry) := fun w =>
  record (g.loadGitKey w.log gitAuth) (.loadGitKey gitAuth (g.loadGitKey w.log gitAuth)) w

/-- `ssh.NewPublicKeys`: fails when the key does not parse. -/
def newPublicKeysM (user key password : String) : GitM (Except String AuthMethod) := fun w =>
  match g.newPublicKeys w.log user key password with
  | .error e => record (.error e) (.newPublicKeys user (.error e)) w
  | .ok () => record (.ok (.publicKeys user key password)) (.newPublicKeys user (.ok ())) w

/-- `remote.List`: the references of a remote, as (name, hash) pairs. -/
def listRemoteM (url : String) (auth : Option AuthMethod) :
    GitM (Except String (List (String × String))) := fun w =>
  record (g.listRemote w.log url auth) (.listRemote url auth (g.listRemote w.log url auth)) w

/-- `os.MkdirTemp(dir, ...)`. -/
def mkdirTempM (dir : String) : GitM (Except String String) := fun w =>
  record (g.mkdirTemp w.log dir) (.mkdirTemp dir (g.mkdirTemp w.log dir)) w

/-- `os.Stat`. -/
def statM (path : String) : GitM StatResult := fun w =>
  record (g.stat w.log path) (.stat path (g.stat w.log path)) w

/-- `os.MkdirAll`. -/
def mkdirAllM (path : String) : GitM (Except String Unit) := fun w =>
  record (g.mkdirAll w.log path) (.mkdirAll path (g.mkdirAll w.log path)) w

/-- `git.PlainClone`. -/
def plainCloneM (path : String) (options : CloneOptions) : GitM (Except String Unit) := fun w =>
  record (g.plainClone w.log path options) (.plainClone path options (g.plainClone w.log path options)) w

/-- `Repository.Worktree`. -/
def worktreeM : GitM (Except String Unit) := fun w =>
  record (g.worktree w.log) (.worktree (g.worktree w.log)) w

/-- `Worktree.Checkout`. -/
def checkoutM (options : CheckoutOptions) : GitM (Except String Unit) := fun w =>
  record (g.checkout w.log options) (.checkout options (g.checkout w.log options)) w

/-- `Repository.Head`: the hash the head points to. -/
def headM : GitM (Except String String) := fun w =>
  record (g.head w.log) (.head (g.head w.log)) w

/-- `Repository.CommitObject`: the message and hash of a commit. -/
def commitObjectM (hash : String) : GitM (Except String (String × String)) := fun w =>
  record (g.commitObject w.log hash) (.commitObject hash (g.commitObject w.log hash)) w

end Git

end OpenRun.GitCache
