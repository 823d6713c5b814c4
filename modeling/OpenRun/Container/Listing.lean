import OpenRun.Go.Strings

/-!
# `GetContainers` and `GetImages`: what `docker ps` and `podman ps` list

`ContainerCommand.GetContainers` runs `<ContainerCommand> ps --format json`, with a name
filter and `--all` when asked, and reads what it prints. Podman prints one JSON array, whose
containers carry their names and ports as arrays: the first name and the first host port are
kept, and a container without a name makes the code panic (`getContainers_unnamed`). Docker
prints one JSON object a line, whose `Ports` is a text such as "127.0.0.1:55000->5000/tcp": it
is cut at its first ':' and then at the first '-', and the host port between is read with
`strconv.Atoi`. The first container whose `Ports` cannot be read so ends the listing with an
error. `GetImages` reads the output of `images` the same way (`readListing`), and reports an
output it cannot read as an output of `ps`.

Running the tool is `ToolRun`, and what the JSON decoders make of the output a field of
`PsEnv` and `ImagesEnv`. For every output whose containers publish their ports as `docker ps`
writes them, `ip:hostPort->target` with a host port Go's `int` holds and no ':' in the address,
the listing returns each container in order with its host port read back
(`getContainers_published`). A container with a port it exposes but does not publish, whose
`Ports` is then a text such as "5000/tcp" with no ':', makes the whole listing fail, whatever
the other containers are (`getContainers_unpublished`).
-/

set_option autoImplicit false
set_option linter.dupNamespace false

namespace OpenRun.Container

open OpenRun.Go (cutAt cutAt_append cutAt_of_not_mem atoi atoi_toString toString_decimal)

/-- A container as `GetContainers` returns it. `portString` is the `Ports` text of `docker ps`;
`port` is what the decoder put in the field `Port`, which `GetContainers` then sets from the
text. -/
structure Container where
  id : String
  names : String
  image : String
  state : String
  status : String
  portString : String
  port : Int
deriving DecidableEq, Repr

/-- A container of `podman ps --format json`, with the host port of each of its ports. -/
structure ContainerPodman where
  id : String
  names : List String
  image : String
  state : String
  status : String
  ports : List Int
deriving DecidableEq, Repr

/-- Running the container tool, `exec.Command(...).CombinedOutput()`: from the directory to run
in (`cmd.Dir`, `none` for the server's) and the arguments, its combined output and its error. -/
abbrev ToolRun := Option String → List String → String × Option String

/-- What `GetContainers` gets from outside: running the tool, the array `json.Unmarshal` reads
from a Podman output, and what `decoder.Decode` returns for each value of a Docker output while
`decoder.More()`. -/
structure PsEnv where
  run : ToolRun
  unmarshal : String → Except String (List ContainerPodman)
  decode : String → List (Except String Container)

/-- The arguments of the `ps` command. -/
def getContainersArgs (name : String) (getAll : Bool) : List String :=
  ["ps", "--format", "json"] ++ (if name ≠ "" then ["--filter", "name=" ++ name] else []) ++
    if getAll then ["--all"] else []

/-- A Podman container as `GetContainers` returns it: its first name and its first host port,
0 when it has none. `none` is the panic of `c.Names[0]` on a container without a name. -/
def ContainerPodman.toContainer (c : ContainerPodman) : Option Container :=
  match c.names with
  | [] => none
  | name :: _ =>
    some { id := c.id, names := name, image := c.image, state := c.state, status := c.status,
           portString := "", port := match c.ports with | [] => 0 | port :: _ => port }

/-- The port of a Docker container, from its `Ports` text: the text after the first ':' is
cut at its first '-', and what stands before is read with `strconv.Atoi`. A container without a
`Ports` text keeps the port it was decoded with. -/
def parsePorts (c : Container) : Except String Container :=
  if c.portString = "" then .ok c
  else
    let colon := cutAt ':' c.portString.toList
    if !colon.2.2 then .error ("error parsing \":\" from port string: " ++ c.portString)
    else
      let dash := cutAt '-' colon.2.1
      let v : String := ⟨dash.1⟩
      if !dash.2.2 then .error ("error parsing \"-\" from port string: " ++ v)
      else
        match atoi v with
        | none => .error ("error converting to int port string: " ++ v)
        | some port => .ok { c with port }

/-- The decoding loop of a Docker output: each value decoded and its port read, in order, up
to the first error. -/
def dockerContainers : List (Except String Container) → Except String (List Container)
  | [] => .ok []
  | .error e :: _ => .error ("error decoding container output: " ++ e)
  | .ok c :: rest =>
    match parsePorts c with
    | .error e => .error e
    | .ok c => (dockerContainers rest).map (c :: ·)

/-- The reading `GetContainers` and `GetImages` share: a failed command is reported as a
failure to list `what`, an empty output lists nothing, an output that starts with '[' is
Podman's array, one that starts with '{' Docker's lines, and any other output is an error that
names the `ps` command. -/
def readListing {α : Type} (what containerCommand : String) (ran : String × Option String)
    (podman : String → Option (Except String (List α)))
    (docker : String → Except String (List α)) : Option (Except String (List α)) :=
  match ran with
  | (output, some err) => some (.error ("error listing " ++ what ++ ": " ++ output ++ " : " ++ err))
  | (output, none) =>
    match output.toList with
    | [] => some (.ok [])
    | first :: _ =>
      if first = '[' then podman output
      else if first = '{' then some (docker output)
      else some (.error ("\"" ++ containerCommand ++ " ps\" returned unknown output: " ++ output))

/-- `ContainerCommand.GetContainers`. `none` is a panic. -/
def getContainers (env : PsEnv) (containerCommand name : String) (getAll : Bool) :
    Option (Except String (List Container)) :=
  readListing "containers" containerCommand
    (env.run none (containerCommand :: getContainersArgs name getAll))
    (fun output =>
      match env.unmarshal output with
      | .error err => some (.error err)
      | .ok result => (result.mapM ContainerPodman.toContainer).map .ok)
    (fun output => dockerContainers (env.decode output))

/-- `Image`. -/
structure Image where
  repository : String
deriving DecidableEq, Repr

/-- What `GetImages` gets from outside: running the tool, the `Id`s of the array
`json.Unmarshal` reads from a Podman output, and what `decoder.Decode` returns for each value
of a Docker output. -/
structure ImagesEnv where
  run : ToolRun
  unmarshal : String → Except String (List String)
  decode : String → List (Except String Image)

/-- The arguments of the `images` command. -/
def getImagesArgs (name : String) : List String :=
  ["images", "--format", "json"] ++ if name ≠ "" then [name] else []

/-- The decoding loop of a Docker output of `images`, up to the first error. -/
def dockerImages : List (Except String Image) → Except String (List Image)
  | [] => .ok []
  | .error e :: _ => .error ("error decoding image output: " ++ e)
  | .ok i :: rest => (dockerImages rest).map (i :: ·)

/-- `ContainerCommand.GetImages`: a Podman image is listed with its `Id` as its repository. -/
def getImages (env : ImagesEnv) (containerCommand name : String) :
    Option (Except String (List Image)) :=
  readListing "images" containerCommand (env.run none (containerCommand :: getImagesArgs name))
    (fun output => some ((env.unmarshal output).map fun ids => ids.map fun id => ⟨id⟩))
    (fun output => dockerImages (env.decode output))

/-- A Docker output: the command ran without error and printed a JSON object first. -/
theorem readListing_docker {α : Type} (what containerCommand : String) {output : String}
    (docker : output.toList.head? = some '{') (podman : String → Option (Except String (List α)))
    (read : String → Except String (List α)) :
    readListing what containerCommand (output, none) podman read = some (read output) := by
  obtain ⟨rest, text⟩ : ∃ rest, output.toList = '{' :: rest := by
    cases h : output.toList with
    | nil => rw [h] at docker; cases docker
    | cons c rest => rw [h, List.head?_cons, Option.some.injEq] at docker; exact ⟨rest, docker ▸ rfl⟩
  simp only [readListing, text]
  rfl

theorem mapM_toContainer_unnamed {result : List ContainerPodman} {c : ContainerPodman}
    (mem : c ∈ result) (unnamed : c.names = []) :
    result.mapM ContainerPodman.toContainer = none := by
  induction result with
  | nil => cases mem
  | cons c' result ih =>
    rw [List.mapM_cons]
    rcases List.mem_cons.mp mem with rfl | mem
    · simp [ContainerPodman.toContainer, unnamed]
    · rw [ih mem]
      cases c'.toContainer <;> rfl

/-- **A container without a name panics.** For every Podman output, one JSON array, that holds
a container without a name, `GetContainers` panics on `c.Names[0]`, whatever the other
containers are. -/
theorem getContainers_unnamed (env : PsEnv) (containerCommand name : String) (getAll : Bool)
    {output : String} {rest : List Char} {result : List ContainerPodman} {c : ContainerPodman}
    (ran : env.run none (containerCommand :: getContainersArgs name getAll) = (output, none))
    (text : output.toList = '[' :: rest) (read : env.unmarshal output = .ok result)
    (mem : c ∈ result) (unnamed : c.names = []) :
    getContainers env containerCommand name getAll = none := by
  simp only [getContainers, ran, readListing, text, if_true, read,
    mapM_toContainer_unnamed mem unnamed]
  rfl

/-- A container that `podman` lists without a name. -/
def unnamedPodman : ContainerPodman := ⟨"7c3d", [], "alpine", "exited", "Exited (0)", []⟩

/-- The array `podman ps` prints for `unnamedPodman`. -/
def unnamedOutput : String := "[\x7b\"Id\":\"7c3d\",\"Names\":[]\x7d]\n"

/-- A `podman ps` that prints `unnamedOutput`. -/
def unnamedPs : PsEnv where
  run _ _ := (unnamedOutput, none)
  unmarshal _ := .ok [unnamedPodman]
  decode _ := []

theorem getContainers_unnamed_podman :
    unnamedPs.run none ("podman" :: getContainersArgs "" true) = (unnamedOutput, none) ∧
      unnamedOutput.toList.head? = some '[' ∧ unnamedPs.unmarshal unnamedOutput = .ok [unnamedPodman] ∧
      unnamedPodman.names = [] ∧ getContainers unnamedPs "podman" "" true = none :=
  ⟨rfl, rfl, rfl, rfl, getContainers_unnamed unnamedPs "podman" "" true rfl rfl rfl (.head _) rfl⟩

/-! ## Reading the `Ports` text -/

/-- The `Ports` text `docker ps` writes for a host port published on an address. -/
def publishedPorts (ip : String) (hostPort : Nat) (target : String) : String :=
  ip ++ ":" ++ toString hostPort ++ "->" ++ target

/-- The host port of a published port reads back from its `Ports` text. -/
theorem parsePorts_published (c : Container) {ip target : String} {hostPort : Nat}
    (address : ':' ∉ ip.toList) (fits : hostPort < 2 ^ 63)
    (ports : c.portString = publishedPorts ip hostPort target) :
    parsePorts c = .ok { c with port := hostPort } := by
  obtain ⟨-, digits, -⟩ := toString_decimal hostPort
  have noDash : '-' ∉ (toString hostPort).toList := fun mem => by
    have : ('-').isDigit = true := List.all_eq_true.mp digits _ mem
    exact absurd this (by decide)
  have text : c.portString.toList =
      ip.toList ++ ':' :: ((toString hostPort).toList ++ '-' :: '>' :: target.toList) := by
    simp [ports, publishedPorts, String.toList]
  have written : c.portString ≠ "" := by
    intro empty; simp [empty] at text
  simp only [parsePorts, written, if_false, text, cutAt_append _ _ address, cutAt_append _ _ noDash,
    Bool.not_true, Bool.false_eq_true]
  rw [show (⟨(toString hostPort).toList⟩ : String) = toString hostPort from rfl, atoi_toString fits]

/-- A `Ports` text that is not empty and has no ':' ends the reading with an error. -/
theorem parsePorts_unpublished (c : Container) (exposed : c.portString ≠ "")
    (noColon : ':' ∉ c.portString.toList) :
    parsePorts c = .error ("error parsing \":\" from port string: " ++ c.portString) := by
  rw [parsePorts, if_neg exposed]
  simp only [cutAt_of_not_mem _ noColon, Bool.not_false, if_true]

/-- The loop over decoded containers whose ports all read: every container, in order, with its
port. -/
theorem dockerContainers_ok (f : Container → Container) {cs : List Container}
    (read : ∀ c ∈ cs, parsePorts c = .ok (f c)) :
    dockerContainers (cs.map .ok) = .ok (cs.map f) := by
  induction cs with
  | nil => rfl
  | cons c cs ih =>
    simp only [List.map_cons, dockerContainers, read c (.head _),
      ih fun c' mem => read c' (.tail _ mem)]
    rfl

/-- One container whose port cannot be read makes the loop fail. -/
theorem dockerContainers_error {cs : List Container} {c : Container} (mem : c ∈ cs) {e : String}
    (fails : parsePorts c = .error e) : ∃ e', dockerContainers (cs.map .ok) = .error e' := by
  induction cs with
  | nil => cases mem
  | cons c' cs ih =>
    simp only [List.map_cons, dockerContainers]
    rcases List.mem_cons.mp mem with rfl | mem
    · exact ⟨e, by rw [fails]⟩
    · split
      · exact ⟨_, rfl⟩
      · obtain ⟨e', failed⟩ := ih mem
        exact ⟨e', by rw [failed]; rfl⟩

/-! ## The listing -/

/-- **Published ports read back.** For every Docker output whose containers each publish their
port as `docker ps` writes it (with a host port that fits an `int` and an address without ':'),
or publish none, `GetContainers` returns every container in order, each with its host port. -/
theorem getContainers_published (env : PsEnv) (containerCommand name : String) (getAll : Bool)
    {output : String} {cs : List Container} (hostPort : Container → Nat)
    (ran : env.run none (containerCommand :: getContainersArgs name getAll) = (output, none))
    (docker : output.toList.head? = some '{') (decoded : env.decode output = cs.map .ok)
    (published : ∀ c ∈ cs, c.portString = "" ∨ hostPort c < 2 ^ 63 ∧
      ∃ ip target, ':' ∉ ip.toList ∧ c.portString = publishedPorts ip (hostPort c) target) :
    getContainers env containerCommand name getAll =
      some (.ok (cs.map fun c => if c.portString = "" then c else { c with port := hostPort c })) := by
  rw [getContainers, ran, readListing_docker _ _ docker, decoded, dockerContainers_ok]
  intro c mem
  rcases published c mem with empty | ⟨fits, ip, target, address, ports⟩
  · simp [parsePorts, empty]
  · have written : c.portString ≠ "" := by
      rw [ports, publishedPorts]; simp [String.ext_iff]
    rw [if_neg written, parsePorts_published c address fits ports]

/-- A container listed by Docker as "web", publishing host port 55000 on 127.0.0.1. -/
def webContainer : Container :=
  ⟨"4f2c", "web", "nginx", "running", "Up 2 minutes", "127.0.0.1:55000->5000/tcp", 0⟩

/-- A `docker ps` that prints the line of `webContainer`. -/
def webPs : PsEnv where
  run _ _ := ("\x7b\"ID\":\"4f2c\",\"Names\":\"web\",\"Ports\":\"127.0.0.1:55000->5000/tcp\"\x7d\n", none)
  unmarshal _ := .ok []
  decode _ := [.ok webContainer]

theorem getContainers_published_web :
    webPs.run none ("docker" :: getContainersArgs "web" false) =
        ("\x7b\"ID\":\"4f2c\",\"Names\":\"web\",\"Ports\":\"127.0.0.1:55000->5000/tcp\"\x7d\n", none) ∧
      ("\x7b\"ID\":\"4f2c\",\"Names\":\"web\",\"Ports\":\"127.0.0.1:55000->5000/tcp\"\x7d\n").toList.head? =
        some '{' ∧
      webPs.decode "\x7b\"ID\":\"4f2c\",\"Names\":\"web\",\"Ports\":\"127.0.0.1:55000->5000/tcp\"\x7d\n" =
        [webContainer].map .ok ∧
      getContainers webPs "docker" "web" false =
        some (.ok ([webContainer].map fun c =>
          if c.portString = "" then c else { c with port := (fun _ => 55000 : Container → Nat) c })) :=
  ⟨rfl, rfl, rfl, getContainers_published webPs "docker" "web" false (fun _ => 55000) rfl rfl rfl
    fun c mem => by
      rw [List.mem_singleton.mp mem]
      exact .inr ⟨by decide, "127.0.0.1", "5000/tcp", by decide, by decide⟩⟩

/-- **An unpublished port fails the listing.** For every Docker output with a container whose
`Ports` text is not empty and has no ':' (a port it exposes but does not publish, such as
"5000/tcp"), `GetContainers` returns an error and lists none of the containers. -/
theorem getContainers_unpublished (env : PsEnv) (containerCommand name : String) (getAll : Bool)
    {output : String} {cs : List Container} {c : Container}
    (ran : env.run none (containerCommand :: getContainersArgs name getAll) = (output, none))
    (docker : output.toList.head? = some '{') (decoded : env.decode output = cs.map .ok)
    (mem : c ∈ cs) (exposed : c.portString ≠ "") (noColon : ':' ∉ c.portString.toList) :
    ∃ e, getContainers env containerCommand name getAll = some (.error e) := by
  obtain ⟨e, failed⟩ := dockerContainers_error mem (parsePorts_unpublished c exposed noColon)
  exact ⟨e, by rw [getContainers, ran, readListing_docker _ _ docker, decoded, failed]⟩

/-- A container exposing port 5000 without publishing it. -/
def exposedContainer : Container :=
  ⟨"9a1e", "worker", "python", "running", "Up 1 minute", "5000/tcp", 0⟩

/-- A `docker ps` that prints `webContainer` and then `exposedContainer`. -/
def mixedPs : PsEnv :=
  { webPs with decode := fun _ => [.ok webContainer, .ok exposedContainer] }

theorem getContainers_unpublished_worker :
    mixedPs.run none ("docker" :: getContainersArgs "" true) =
        ("\x7b\"ID\":\"4f2c\",\"Names\":\"web\",\"Ports\":\"127.0.0.1:55000->5000/tcp\"\x7d\n", none) ∧
      ("\x7b\"ID\":\"4f2c\",\"Names\":\"web\",\"Ports\":\"127.0.0.1:55000->5000/tcp\"\x7d\n").toList.head? =
        some '{' ∧
      mixedPs.decode "\x7b\"ID\":\"4f2c\",\"Names\":\"web\",\"Ports\":\"127.0.0.1:55000->5000/tcp\"\x7d\n" =
        [webContainer, exposedContainer].map .ok ∧
      exposedContainer ∈ [webContainer, exposedContainer] ∧ exposedContainer.portString ≠ "" ∧
      ':' ∉ exposedContainer.portString.toList ∧
      ∃ e, getContainers mixedPs "docker" "" true = some (.error e) :=
  ⟨rfl, rfl, rfl, by decide, by decide, by decide,
    getContainers_unpublished mixedPs "docker" "" true (c := exposedContainer) rfl rfl
      (show mixedPs.decode _ = [webContainer, exposedContainer].map .ok from rfl)
      (by decide) (by decide) (by decide)⟩

end OpenRun.Container
