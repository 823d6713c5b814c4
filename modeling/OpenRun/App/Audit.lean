import Mathlib.Data.List.Forall2

/-!
# `Audit`: the loads and permissions an app asks for

`App.Audit` runs an app's source with dummy plugins, to find what it asks for without side
effects: the modules its `load` statements name, each once in the order of first appearance,
and the entries of the `permissions` list of its app definition. `createApproveResponse` reads
each entry, a struct with a plugin, a method, optional arguments and secrets and an optional
`is_read`, and compares what it found with what the app's metadata holds as approved:
`needsApproval` is false exactly when the loads are equal and the permissions are equal one by
one, in order.

Everything the audit gets from the Starlark run is a field of `AuditRun`: the errors of its
steps, the paths of the loads, and the app definition, read as its `permissions` attribute and
its `name`. A Go slice is a `Slice`, whose `none` is `nil`: `slices.Equal` and
`slices.EqualFunc` read only the elements, where `reflect.DeepEqual` also tells `nil` from
empty.

* `permEquals` is equality of permissions, up to a `nil` argument list against an empty one
  (`permEquals_iff`), so `needsApproval` is false for the same loads and permissions
  (`needsApproval_approved`).
* For every list of struct entries whose attributes read, the audit reports one permission per
  entry, in order, with what its attributes hold, and `IsRead` set exactly when the struct has
  an attribute `is_read` (`createApproveResponse_permissions`).
* Once what an audit reports is approved, auditing the same source again reports the same loads
  and permissions and needs no approval (`audit_approved`).
* A successful audit reports the modules the source loads with repeats dropped, each where it
  is first loaded (`audit_loads`, from `auditLoads_eq_eraseDups`).
-/

set_option autoImplicit false

namespace OpenRun.App

/-- A Go slice: `none` is `nil`. -/
abbrev Slice (α : Type) := Option (List α)

/-- The elements of a slice, none for `nil`. -/
def Slice.elems {α : Type} (s : Slice α) : List α := s.getD []

/-- `slices.Equal`: the same elements in the same order, `nil` and empty alike. -/
def slicesEqual {α : Type} [DecidableEq α] (a b : Slice α) : Bool := a.elems = b.elems

/-- `slices.EqualFunc`: the same length, and `eq` holds of each pair of elements in order. -/
def equalFunc {α : Type} (eq : α → α → Bool) : List α → List α → Bool
  | [], [] => true
  | a :: as, b :: bs => eq a b && equalFunc eq as bs
  | _, _ => false

/-- `types.Permission`. -/
structure Permission where
  plugin : String
  method : String
  arguments : Slice String
  secrets : Slice (Slice String)
  isRead : Option Bool
deriving DecidableEq, Repr

/-- `types.ApproveResult`. -/
structure ApproveResult where
  id : String
  appPathDomain : String
  newLoads : Slice String
  newPermissions : Slice Permission
  approvedLoads : Slice String
  approvedPermissions : Slice Permission
  needsApproval : Bool
deriving DecidableEq, Repr

/-- The closure `permEquals` of `needsApproval`; the secrets are compared with
`reflect.DeepEqual`. -/
def permEquals (a b : Permission) : Bool :=
  if a.plugin ≠ b.plugin ∨ a.method ≠ b.method then false
  else if a.isRead.isNone && b.isRead.isSome || a.isRead.isSome && b.isRead.isNone then false
  else if (match a.isRead, b.isRead with | some x, some y => x != y | _, _ => false) then false
  else if !slicesEqual a.arguments b.arguments then false
  else if a.secrets ≠ b.secrets then false
  else true

/-- `needsApproval`: the new loads or permissions differ from the approved ones, in order. -/
def needsApproval (a : ApproveResult) : Bool :=
  if !slicesEqual a.newLoads a.approvedLoads then true
  else !equalFunc permEquals a.newPermissions.elems a.approvedPermissions.elems

/-! ## Equal permissions need no approval -/

/-- `permEquals` is equality of the fields, the arguments compared by their elements. -/
theorem permEquals_iff (a b : Permission) :
    permEquals a b = true ↔ a.plugin = b.plugin ∧ a.method = b.method ∧ a.isRead = b.isRead ∧
      a.arguments.elems = b.arguments.elems ∧ a.secrets = b.secrets := by
  obtain ⟨plugin, method, arguments, secrets, isRead⟩ := a
  obtain ⟨plugin', method', arguments', secrets', isRead'⟩ := b
  cases isRead <;> cases isRead' <;> simp [permEquals, slicesEqual] <;> tauto

theorem permEquals_self (p : Permission) : permEquals p p = true :=
  (permEquals_iff p p).mpr ⟨rfl, rfl, rfl, rfl, rfl⟩

theorem equalFunc_self {α : Type} {eq : α → α → Bool} (refl : ∀ a, eq a a = true) (l : List α) :
    equalFunc eq l l = true := by
  induction l with
  | nil => rfl
  | cons a l ih => simp [equalFunc, refl, ih]

/-- The same loads and permissions as the approved ones need no approval. -/
theorem needsApproval_approved (r : ApproveResult) (loads : r.approvedLoads = r.newLoads)
    (perms : r.approvedPermissions = r.newPermissions) : needsApproval r = false := by
  simp [needsApproval, slicesEqual, loads, perms, equalFunc_self permEquals_self]

/-! ## Reading the `permissions` list -/

/-- A struct of the `permissions` list, as `createApproveResponse` reads it: what each attribute
getter returns, and the struct's attribute names. -/
structure PermStruct where
  plugin : Except String String
  method : Except String String
  arguments : Except String (Slice String)
  secrets : Except String (Slice (Slice String))
  attrNames : List String
  isRead : Except String Bool

/-- An entry of the `permissions` list. -/
inductive PermEntry
  | notStruct
  | struct (s : PermStruct)

/-- The `permissions` attribute of the app definition: missing (`Attr` fails), not a list, or
a list. -/
inductive PermissionsAttr
  | missing
  | notList
  | list (entries : List PermEntry)

/-- One pass of the loop of `createApproveResponse`, over the entry of index `count`. -/
def readPermission : PermEntry → Nat → Except String Permission
  | .notStruct, count => .error ("permissions entry " ++ toString count ++ " is not a struct")
  | .struct s, _ =>
    match s.plugin, s.method, s.arguments, s.secrets with
    | .error err, _, _, _ => .error err
    | .ok _, .error err, _, _ => .error err
    | .ok _, .ok _, .error err, _ => .error err
    | .ok _, .ok _, .ok _, .error err => .error err
    | .ok plugin, .ok method, .ok arguments, .ok secrets =>
      if "is_read" ∈ s.attrNames then
        match s.isRead with
        | .error err => .error err
        | .ok isRead => .ok ⟨plugin, method, arguments, secrets, some isRead⟩
      else .ok ⟨plugin, method, arguments, secrets, none⟩

/-- The loop of `createApproveResponse` from the entry of index `count` on: the permissions in
order, up to the first error. -/
def readPermissions : List PermEntry → Nat → Except String (List Permission)
  | [], _ => .ok []
  | entry :: rest, count =>
    match readPermission entry count with
    | .error err => .error err
    | .ok perm => (readPermissions rest (count + 1)).map (perm :: ·)

/-- The app as the audit reads and writes it: its id and path, the path of its `app.star`, its
metadata's name, and the loads and permissions the metadata holds as approved. -/
structure AuditApp where
  id : String
  appPathDomain : String
  starPath : String
  name : String
  approvedLoads : Slice String
  approvedPermissions : Slice Permission

/-- The result `createApproveResponse` returns for the permissions it read. -/
def approveResult (app : AuditApp) (loads : Slice String) (perms : Slice Permission) :
    ApproveResult :=
  let results : ApproveResult :=
    ⟨app.id, app.appPathDomain, loads, perms, app.approvedLoads, app.approvedPermissions, false⟩
  { results with needsApproval := needsApproval results }

/-- `createApproveResponse`, from the result of `verifyConfig` on the globals. -/
def createApproveResponse (app : AuditApp) (loads : Slice String)
    (appDef : Except String PermissionsAttr) : Except String ApproveResult :=
  match appDef with
  | .error err => .error err
  | .ok .missing => .ok (approveResult app loads (some []))
  | .ok .notList => .error "permissions is not a list"
  | .ok (.list entries) => (readPermissions entries 0).map fun perms => approveResult app loads (some perms)

/-- The permission a struct whose attributes read yields: its plugin, method, arguments and
secrets, and `is_read` exactly when it is an attribute name. -/
def PermStruct.Yields (s : PermStruct) (p : Permission) : Prop :=
  s.plugin = .ok p.plugin ∧ s.method = .ok p.method ∧ s.arguments = .ok p.arguments ∧
    s.secrets = .ok p.secrets ∧ (p.isRead.isSome ↔ "is_read" ∈ s.attrNames) ∧
    ∀ b, p.isRead = some b → s.isRead = .ok b

/-- A struct whose attributes read: the four getters succeed, and so does `is_read` where the
struct has it. -/
def PermStruct.Readable (s : PermStruct) : Prop :=
  (∃ plugin, s.plugin = .ok plugin) ∧ (∃ method, s.method = .ok method) ∧
    (∃ arguments, s.arguments = .ok arguments) ∧ (∃ secrets, s.secrets = .ok secrets) ∧
    ("is_read" ∈ s.attrNames → ∃ isRead, s.isRead = .ok isRead)

theorem readPermission_struct {s : PermStruct} (readable : s.Readable) (count : Nat) :
    ∃ p, readPermission (.struct s) count = .ok p ∧ s.Yields p := by
  obtain ⟨⟨plugin, hp⟩, ⟨method, hm⟩, ⟨arguments, ha⟩, ⟨secrets, hs⟩, hr⟩ := readable
  by_cases named : "is_read" ∈ s.attrNames
  · obtain ⟨isRead, hi⟩ := hr named
    exact ⟨⟨plugin, method, arguments, secrets, some isRead⟩,
      by simp [readPermission, hp, hm, ha, hs, named, hi],
      hp, hm, ha, hs, by simp [named], by simp [hi]⟩
  · exact ⟨⟨plugin, method, arguments, secrets, none⟩,
      by simp [readPermission, hp, hm, ha, hs, named], hp, hm, ha, hs, by simp [named], by simp⟩

theorem readPermissions_structs {structs : List PermStruct} (readable : ∀ s ∈ structs, s.Readable)
    (count : Nat) : ∃ perms, readPermissions (structs.map .struct) count = .ok perms ∧
      List.Forall₂ PermStruct.Yields structs perms := by
  induction structs generalizing count with
  | nil => exact ⟨[], rfl, .nil⟩
  | cons s structs ih =>
    obtain ⟨p, read, yields⟩ := readPermission_struct (readable s (.head _)) count
    obtain ⟨perms, rest, all⟩ := ih (fun s' mem => readable s' (.tail _ mem)) (count + 1)
    exact ⟨p :: perms, by simp only [List.map_cons, readPermissions, read, rest]; rfl,
      .cons yields all⟩

/-- **Permissions as written.** For every list of struct entries whose attributes read, the
audit reports one permission per entry, in order: its plugin, method, arguments and secrets
as the getters read them, and `IsRead` set, to the value read, exactly when the struct has an
attribute `is_read`. -/
theorem createApproveResponse_permissions (app : AuditApp) (loads : Slice String)
    {structs : List PermStruct} (readable : ∀ s ∈ structs, s.Readable) :
    ∃ perms, createApproveResponse app loads (.ok (.list (structs.map .struct))) =
        .ok (approveResult app loads (some perms)) ∧
      List.Forall₂ PermStruct.Yields structs perms := by
  obtain ⟨perms, read, yields⟩ := readPermissions_structs readable 0
  exact ⟨perms, by simp only [createApproveResponse, read]; rfl, yields⟩

/-- A permission to run `ls` with the exec plugin, which the app marks as a read. -/
def lsStruct : PermStruct :=
  ⟨.ok "exec.in", .ok "run", .ok (some ["ls"]), .ok none, ["plugin", "method", "arguments", "is_read"],
    .ok true⟩

/-- A permission to send mail, with no `is_read`. -/
def mailStruct : PermStruct :=
  ⟨.ok "mail.in", .ok "send", .ok none, .ok none, ["plugin", "method"], .error "not read"⟩

/-- An app whose metadata has approved nothing yet. -/
def freshApp : AuditApp := ⟨"app_prd_1", "/tools", "app.star", "", none, none⟩

theorem createApproveResponse_permissions_exec :
    (∀ s ∈ [lsStruct, mailStruct], s.Readable) ∧
      ∃ perms, createApproveResponse freshApp (some ["exec.in", "mail.in"])
          (.ok (.list ([lsStruct, mailStruct].map .struct))) =
        .ok (approveResult freshApp (some ["exec.in", "mail.in"]) (some perms)) ∧
      List.Forall₂ PermStruct.Yields [lsStruct, mailStruct] perms :=
  have readable : ∀ s ∈ [lsStruct, mailStruct], s.Readable := by
    intro s mem
    simp only [List.mem_cons, List.not_mem_nil, or_false] at mem
    rcases mem with rfl | rfl
    · exact ⟨⟨_, rfl⟩, ⟨_, rfl⟩, ⟨_, rfl⟩, ⟨_, rfl⟩, fun _ => ⟨_, rfl⟩⟩
    · exact ⟨⟨_, rfl⟩, ⟨_, rfl⟩, ⟨_, rfl⟩, ⟨_, rfl⟩, fun h => absurd h (by decide)⟩
  ⟨readable, createApproveResponse_permissions freshApp (some ["exec.in", "mail.in"]) readable⟩

/-! ## The audit -/

/-- What auditing the app's source gets from outside: the errors of reading `app.star`, of
loading the schema and the params, of creating the builtins, of parsing the source and of
running it; the paths the source's `load` statements name, in order; and the app definition
`verifyConfig` finds in the globals, read as its `permissions` attribute, with its `name`. -/
structure AuditRun where
  readErr : Option String
  schemaErr : Option String
  paramsErr : Option String
  builtinErr : Option String
  parseErr : Option String
  loads : List String
  initErr : Option String
  appDef : Except String PermissionsAttr
  name : Except String String

/-- The loads the audit reports: each path once, in the order it is first loaded. -/
def auditLoads (loads : List String) : Slice String :=
  some (loads.foldl (fun found p => if found.contains p then found else found ++ [p]) [])

/-- `App.Audit`: the approval result, and the app with its metadata's name set to the app
definition's. -/
def audit (app : AuditApp) (run : AuditRun) : Except String (ApproveResult × AuditApp) :=
  match run.readErr with
  | some err => .error ("error reading " ++ app.starPath ++ " file: " ++ err)
  | none =>
    match run.schemaErr, run.paramsErr, run.builtinErr with
    | some err, _, _ => .error err
    | none, some err, _ => .error err
    | none, none, some err => .error err
    | none, none, none =>
      match run.parseErr with
      | some err => .error ("parsing source failed " ++ err)
      | none =>
        match run.initErr with
        | some err => .error ("source init failed: " ++ err)
        | none =>
          match run.appDef, run.name with
          | .error err, _ => .error err
          | .ok _, .error err => .error err
          | .ok _, .ok name =>
            let app := { app with name }
            (createApproveResponse app (auditLoads run.loads) run.appDef).map (·, app)

/-- The loads the audit reports are the source's loads with repeats dropped, first occurrences
kept in order. -/
theorem auditLoads_eq_eraseDups (loads : List String) : auditLoads loads = some loads.eraseDups := by
  suffices loop : ∀ (found : List String) (rest : List String),
      List.eraseDups.loop rest found = rest.foldl
        (fun found p => if found.contains p then found else found ++ [p]) found.reverse by
    simp [auditLoads, List.eraseDups, loop]
  intro found rest
  induction rest generalizing found with
  | nil => rfl
  | cons p rest ih =>
    by_cases seen : p ∈ found
    · simp [List.eraseDups.loop, seen, ih, List.elem_eq_mem]
    · simp [List.eraseDups.loop, seen, ih, List.elem_eq_mem]

/-- A module loaded twice is reported once, where it is first loaded. -/
example : auditLoads ["exec.in", "mail.in", "exec.in"] = some ["exec.in", "mail.in"] := rfl

/-- What an approval stores, as the audit reads it back: the loads and permissions an audit
reported become the approved ones. The approval itself is outside the audit. -/
def AuditApp.approve (app : AuditApp) (r : ApproveResult) : AuditApp :=
  { app with approvedLoads := r.newLoads, approvedPermissions := r.newPermissions }

/-- What `createApproveResponse` reads from the permissions attribute, apart from the app. -/
def readPermissionsAttr : PermissionsAttr → Except String (Slice Permission)
  | .missing => .ok (some [])
  | .notList => .error "permissions is not a list"
  | .list entries => (readPermissions entries 0).map some

theorem createApproveResponse_eq (app : AuditApp) (loads : Slice String) (d : PermissionsAttr) :
    createApproveResponse app loads (.ok d) =
      (readPermissionsAttr d).map (approveResult app loads) := by
  cases d with
  | missing => rfl
  | notList => rfl
  | list entries =>
    simp only [createApproveResponse, readPermissionsAttr]
    cases readPermissions entries 0 <;> rfl

/-- A successful audit: every step ran, and the result is the approval result of the
permissions read, for the app with its new name. -/
theorem audit_ok {app app' : AuditApp} {run : AuditRun} {r : ApproveResult}
    (audited : audit app run = .ok (r, app')) :
    ∃ d name perms, run.readErr = none ∧ run.schemaErr = none ∧ run.paramsErr = none ∧
      run.builtinErr = none ∧ run.parseErr = none ∧ run.initErr = none ∧ run.appDef = .ok d ∧
      run.name = .ok name ∧ readPermissionsAttr d = .ok perms ∧ app' = { app with name } ∧
      r = approveResult { app with name } (auditLoads run.loads) perms := by
  unfold audit at audited
  split at audited
  · cases audited
  rename_i readNone
  split at audited
  · cases audited
  · cases audited
  · cases audited
  rename_i schema params builtin
  split at audited
  · cases audited
  rename_i parse
  split at audited
  · cases audited
  rename_i init
  split at audited
  · cases audited
  · cases audited
  rename_i d name appDef named
  rw [appDef] at audited
  dsimp only at audited
  rw [createApproveResponse_eq] at audited
  cases perms : readPermissionsAttr d with
  | error err => rw [perms] at audited; cases audited
  | ok perms' =>
    rw [perms] at audited
    cases audited
    exact ⟨d, name, perms', readNone, schema, params, builtin, parse, init, appDef, named, perms,
      rfl, rfl⟩

/-- **Approval is stable.** For every app and every run of its source, once the loads and
permissions an audit reports are approved, auditing the same source again reports the same
loads and permissions and needs no approval. -/
theorem audit_approved {app app' : AuditApp} {run : AuditRun} {r : ApproveResult}
    (audited : audit app run = .ok (r, app')) :
    ∃ r', audit (app'.approve r) run = .ok (r', app'.approve r) ∧ r'.newLoads = r.newLoads ∧
      r'.newPermissions = r.newPermissions ∧ r'.needsApproval = false := by
  obtain ⟨d, name, perms, h1, h2, h3, h4, h5, h6, appDef, named, perms', rfl, rfl⟩ :=
    audit_ok audited
  refine ⟨approveResult ({ app with name }.approve
      (approveResult { app with name } (auditLoads run.loads) perms)) (auditLoads run.loads) perms,
    ?_, rfl, rfl, needsApproval_approved _ rfl rfl⟩
  simp only [audit, h1, h2, h3, h4, h5, h6, appDef, named, createApproveResponse_eq, perms']
  rfl

/-- A run of the source of an app that loads the exec plugin twice and the mail plugin once,
and asks for `lsStruct` and `mailStruct`. -/
def toolsRun : AuditRun :=
  ⟨none, none, none, none, none, ["exec.in", "mail.in", "exec.in"], none,
    .ok (.list [.struct lsStruct, .struct mailStruct]), .ok "tools"⟩

/-- `freshApp` after its audit: the metadata's name is the app definition's. -/
def toolsApp : AuditApp := { freshApp with name := "tools" }

/-- What the audit of `toolsRun` reports. -/
def toolsResult : ApproveResult :=
  approveResult toolsApp (some ["exec.in", "mail.in"])
    (some [⟨"exec.in", "run", some ["ls"], none, some true⟩, ⟨"mail.in", "send", none, none, none⟩])

theorem audit_approved_tools :
    audit freshApp toolsRun = .ok (toolsResult, toolsApp) ∧
      ∃ r', audit (toolsApp.approve toolsResult) toolsRun = .ok (r', toolsApp.approve toolsResult) ∧
        r'.newLoads = toolsResult.newLoads ∧ r'.newPermissions = toolsResult.newPermissions ∧
        r'.needsApproval = false :=
  ⟨rfl, audit_approved rfl⟩

/-- **Each load once.** For every app and every run of its source, a successful audit reports
the modules the source's `load` statements name with repeats dropped, each where it is first
loaded. -/
theorem audit_loads {app app' : AuditApp} {run : AuditRun} {r : ApproveResult}
    (audited : audit app run = .ok (r, app')) : r.newLoads = some run.loads.eraseDups := by
  obtain ⟨d, name, perms, -, -, -, -, -, -, -, -, -, -, rfl⟩ := audit_ok audited
  exact auditLoads_eq_eraseDups run.loads

theorem audit_loads_tools :
    audit freshApp toolsRun = .ok (toolsResult, toolsApp) ∧
      toolsResult.newLoads = some toolsRun.loads.eraseDups :=
  ⟨rfl, audit_loads rfl⟩

end OpenRun.App
