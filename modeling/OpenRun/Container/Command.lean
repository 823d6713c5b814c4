import Mathlib.Data.List.DropRight
import Mathlib.Data.List.Rotate

/-!
# `ExecTailN`: the last lines of a command's output

`ContainerCommand.ExecTailN` keeps the last `n` lines of a command's output in a ring of
`container/ring`: each line the scanner yields is stored in the current element and the ring
steps to the next one, so once the output has gone round the ring it overwrites the oldest
line. `Ring.Do` then visits the elements once around from the current one, and the callback
keeps the values that are strings: an element never written holds `nil`.

A `Ring` is the values of its elements in ring order and the position of the current
element; a ring always has one (`ring.New` returns `nil` for `n ≤ 0`, and the first line then
dereferences it). `Do` visits the values rotated to the current element
(`Ring.doValues_eq_rotate`), and one pass of the loop drops the first value of that rotation
and appends the line (`Ring.doValues_push`). So after the loop the rotation is the last `n`
values of the new ring's `nil`s followed by the lines (`Ring.doValues_pushLines`), and for
every `n ≥ 1` and every list of lines, `ExecTailN` returns the last `min n |L|` lines in their
order, empty lines included (`execTailN_last_lines`). `GetContainerLogs` is `ExecTailN` with
1000 lines, joined by newlines.

The command itself is not modelled: a `CommandRun` is what running it gave `ExecTailN`, the
errors of the steps around the scan and the lines the scanner yielded from stdout and stderr.
-/

set_option autoImplicit false

namespace OpenRun.Container

/-- A ring of `container/ring` whose values are strings or `nil`: the values of its elements
in ring order, and the position of the element the ring variable points at. -/
structure Ring where
  values : List (Option String)
  pos : Nat
  pos_lt : pos < values.length

namespace Ring

/-- `ring.New(n)`: `n` elements whose values are `nil`, or `nil` itself for `n ≤ 0`. -/
def new (n : Int) : Option Ring :=
  if h : 0 < n then some ⟨List.replicate n.toNat none, 0, by simp; omega⟩ else none

/-- `r.Value = value`. -/
def setValue (r : Ring) (value : String) : Ring where
  values := r.values.set r.pos (some value)
  pos := r.pos
  pos_lt := by simpa using r.pos_lt

/-- `r.Next()`. -/
def next (r : Ring) : Ring where
  values := r.values
  pos := (r.pos + 1) % r.values.length
  pos_lt := Nat.mod_lt _ (Nat.zero_lt_of_lt r.pos_lt)

/-- The values `r.Do(f)` hands to `f`: the current element's, then each following one's, once
around the ring. -/
def doValues (r : Ring) : List (Option String) :=
  (List.range r.values.length).map fun i => r.values.getD ((r.pos + i) % r.values.length) none

/-- The scan loop of `ExecTailN` on a ring: each line goes into the current element, and the
ring steps on. -/
def pushLines (r : Ring) : List String → Ring
  | [] => r
  | line :: rest => pushLines (r.setValue line).next rest

/-- `Do` visits the values rotated to the current element. -/
theorem doValues_eq_rotate (r : Ring) : r.doValues = r.values.rotate r.pos := by
  have nonempty : 0 < r.values.length := Nat.zero_lt_of_lt r.pos_lt
  refine List.ext_getElem (by simp [doValues]) fun i _ _ => ?_
  simp [doValues, List.getElem_rotate, Nat.add_comm,
    List.getElem?_eq_getElem (Nat.mod_lt _ nonempty)]

/-- One pass of the scan loop: the value `Do` would visit first is overwritten, and the line is
the value it visits last. -/
theorem doValues_push (r : Ring) (line : String) :
    (r.setValue line).next.doValues = r.doValues.tail ++ [some line] := by
  obtain ⟨values, pos, lt⟩ := r
  have started : values.drop pos ≠ [] := by simp; omega
  simp only [doValues_eq_rotate, next, setValue, List.rotate_mod]
  rw [List.set_eq_take_append_cons_drop, if_pos lt,
    List.rotate_eq_drop_append_take (by simp; omega), List.rotate_eq_drop_append_take lt.le,
    List.tail_append_of_ne_nil started]
  simp [List.drop_append_eq_append_drop, List.take_append_eq_append_take, Nat.min_eq_left lt.le,
    List.take_take]

/-- **The scan loop.** After the loop over `lines`, `Do` visits the last values of the ring's
old values followed by the lines, as many as the ring has elements. -/
theorem doValues_pushLines (r : Ring) (lines : List String) :
    (r.pushLines lines).doValues = (r.doValues ++ lines.map some).drop lines.length := by
  induction lines generalizing r with
  | nil => simp [pushLines]
  | cons line lines ih =>
    have nonempty : r.doValues ≠ [] := by
      simpa [doValues] using Nat.ne_of_gt (Nat.zero_lt_of_lt r.pos_lt)
    obtain ⟨first, rest, h⟩ := List.exists_cons_of_ne_nil nonempty
    simp [pushLines, ih, doValues_push, h]

end Ring

/-- The scan loop of `ExecTailN` on what `ring.New` returned: storing a line into the `nil`
ring dereferences `nil`, which is `none`. -/
def scanLines (ring : Option Ring) (lines : List String) : Option (Option Ring) :=
  match ring, lines with
  | some r, lines => some (some (r.pushLines lines))
  | none, [] => some none
  | none, _ :: _ => none

/-- `Do` with the callback of `ExecTailN`: the values that are strings, in the order `Do`
visits them. `Do` on the `nil` ring calls nothing. -/
def collectLines : Option Ring → List String
  | some r => r.doValues.filterMap id
  | none => []

/-- What running the command gave `ExecTailN`: the errors of creating the two pipes and of
starting the command, the lines the scanner yielded, and the errors of the scan and of the
wait. -/
structure CommandRun where
  stdoutPipeErr : Option String := none
  stderrPipeErr : Option String := none
  startErr : Option String := none
  lines : List String
  scanErr : Option String := none
  waitErr : Option String := none

/-- `ContainerCommand.ExecTailN`. `none` is a panic: the nil-pointer dereference of the first
line stored into the ring of an `n ≤ 0`, or `make` with the negative capacity `n`. -/
def execTailN (run : CommandRun) (n : Int) : Option (Except String (List String)) :=
  match run.stdoutPipeErr, run.stderrPipeErr, run.startErr with
  | some e, _, _ => some (.error ("error creating stdout pipe: " ++ e))
  | none, some e, _ => some (.error ("error creating stderr pipe: " ++ e))
  | none, none, some e => some (.error ("error starting command: " ++ e))
  | none, none, none =>
    match scanLines (Ring.new n) run.lines, run.scanErr, run.waitErr with
    | none, _, _ => none
    | some _, some e, _ => some (.error ("error scanning output: " ++ e))
    | some _, none, some e => some (.error ("error waiting for command: " ++ e))
    | some ring, none, none => if n < 0 then none else some (.ok (collectLines ring))

/-- `ContainerCommand.GetContainerLogs` of container `name`, from what running
`<ContainerCommand> logs <name>` gave. -/
def getContainerLogs (name : String) (run : CommandRun) : Option (Except String String) :=
  (execTailN run 1000).map fun
    | .error e => .error ("error getting container " ++ name ++ " logs: " ++ e)
    | .ok lines => .ok (String.intercalate "\n" lines)

/-- For a positive size, the scan loop ends on a ring from which `Do` collects the last `n`
lines. -/
theorem scanLines_new {n : Int} (pos : 0 < n) (lines : List String) :
    ∃ r, scanLines (Ring.new n) lines = some (some r) ∧
      collectLines (some r) = lines.rtake n.toNat := by
  let fresh : Ring := ⟨List.replicate n.toNat none, 0, by simp; omega⟩
  have empty : fresh.doValues = List.replicate n.toNat none := by
    simp [fresh, Ring.doValues_eq_rotate]
  refine ⟨fresh.pushLines lines, by simp [Ring.new, pos, scanLines, fresh], ?_⟩
  simp [collectLines, Ring.doValues_pushLines, empty, List.drop_append_eq_append_drop, List.rtake,
    List.filterMap_append, ← List.map_drop]

/-- **The last lines.** For every `n ≥ 1` and every list of lines the scanner yields, an
`ExecTailN` whose command ran without error returns the last `min n |L|` lines, in order. -/
theorem execTailN_last_lines (run : CommandRun) {n : Int} (pos : 0 < n)
    (started : run.stdoutPipeErr = none ∧ run.stderrPipeErr = none ∧ run.startErr = none)
    (finished : run.scanErr = none ∧ run.waitErr = none) :
    execTailN run n = some (.ok (run.lines.rtake n.toNat)) := by
  obtain ⟨r, scanned, collected⟩ := scanLines_new pos run.lines
  simp [execTailN, started, finished, scanned, ← collected, not_lt.mpr pos.le]

theorem execTailN_last_lines_two :
    (0 : Int) < 2 ∧
    (({ lines := ["a", "", "b"] } : CommandRun).stdoutPipeErr = none ∧
      ({ lines := ["a", "", "b"] } : CommandRun).stderrPipeErr = none ∧
      ({ lines := ["a", "", "b"] } : CommandRun).startErr = none) ∧
    (({ lines := ["a", "", "b"] } : CommandRun).scanErr = none ∧
      ({ lines := ["a", "", "b"] } : CommandRun).waitErr = none) ∧
    execTailN { lines := ["a", "", "b"] } 2 =
      some (.ok (["a", "", "b"].rtake (2 : Int).toNat)) :=
  ⟨by decide, ⟨rfl, rfl, rfl⟩, ⟨rfl, rfl⟩,
    execTailN_last_lines { lines := ["a", "", "b"] } (by decide) ⟨rfl, rfl, rfl⟩ ⟨rfl, rfl⟩⟩

/-- Five lines through a ring of three: the output wraps the ring, and the empty line is
kept. -/
example : execTailN { lines := ["a", "b", "", "c", "d"] } 3 = some (.ok ["", "c", "d"]) := rfl

end OpenRun.Container
