import OpenRun.Go.Time

/-!
# The build lock of `BuildImage`

`acquireBuildLock` bounds the image builds that run at once with a buffered channel: a build
sends its image name into `buildLockChannel` to take a slot, and receives one value from it
to give the slot back. The channel is made under `mu` by the first call that finds it `nil`,
with that call's `MaxConcurrentBuilds` as its capacity. A call then waits in a `select` until
its send goes through or its timer of `MaxBuildWaitSecs` fires; `BuildImage` passes
`context.Background()`, whose `Done` channel never fires. `BuildImage` defers the release, so
a build gives its slot back whatever the build command returned.

The model runs any number of `BuildImage` calls interleaved. A `LockState` is the channel (or
`nil`), whether `mu` is held, and the phase of each call; `LockState.next` takes one event of
one call as the Go runtime lets it happen, and `LockState.run` a sequence of them. The timer
is not timed: a waiting call may time out at any step, which covers every choice `select`
makes between a ready send and a fired timer. `Step` says once what an event can do
(`next_step`), and every invariant below is a case analysis over it, carried along a run by
`run_preserves`.

* Every run keeps `LockState.Invariant`: before the channel is made no call is past the lock,
  and after it the calls holding a slot are exactly as many as the values in the channel,
  which never exceed its capacity (`Step.invariant`).
* The capacity never changes once the channel is made (`Step.chan_cap`), and it is the
  `MaxConcurrentBuilds` of the call whose lock came first. So every run keeps the invariant,
  and at most that many builds run at once, whatever later calls pass
  (`holders_le_maxConcurrentBuilds`).
* A deferred release never blocks: a call that finished its build always finds a value to
  receive (`release_never_blocks`).
* A first call with `MaxConcurrentBuilds = 0` makes an unbuffered channel, on which no build
  ever runs: every call that returns, returns the acquire error (`unbuffered_never_builds`).
* A first call with a negative `MaxConcurrentBuilds`, or one above what `makechan` allocates
  on a 64-bit platform, panics in `make` while it holds `mu`, which is never unlocked: the
  channel stays `nil` and no event of any call can happen after it
  (`negative_maxConcurrentBuilds_blocks`).
-/

set_option autoImplicit false

namespace OpenRun.Container

open Go

/-! ## Calls, the channel and the events -/

/-- The field of `types.SystemConfig` the build lock reads. -/
structure SystemConfig where
  maxConcurrentBuilds : GoInt
deriving DecidableEq, Repr

/-- The text of `context.DeadlineExceeded`, what `acquireBuildLock` returns on a timeout. -/
def deadlineExceeded : String := "context deadline exceeded"

/-- The error `BuildImage` returns when `acquireBuildLock` fails. -/
def acquireFailure : String := "error acquiring build lock: " ++ deadlineExceeded

/-- The error `BuildImage` returns after the build command: `nil` when the command succeeded,
else the command's combined output and its error. -/
def buildError (output : String) : Option String → Option String
  | none => none
  | some err => some ("error building image: " ++ output ++ " : " ++ err)

/-- A `chan string`: its capacity and the values it buffers, oldest first. -/
structure Chan where
  cap : Nat
  buf : List String
deriving DecidableEq, Repr

/-- The most bytes `makechan` lets a channel's buffer take on a 64-bit platform:
`maxAlloc - hchanSize`, with `maxAlloc = 1 << 48` and the 104 bytes of the channel header. -/
def maxChanBufferBytes : Int := 2 ^ 48 - 104

/-- The bytes one `string` takes in a channel's buffer. -/
def stringSize : Int := 16

/-- `make(chan string, size)`; `none` where `make` panics with `makechan: size out of range`,
for a negative size and for a buffer larger than the runtime allocates (above `2^44 - 7`
strings). -/
def makeChan (size : GoInt) : Option Chan :=
  if size.toInt < 0 ∨ stringSize * size.toInt > maxChanBufferBytes then none
  else some ⟨size.toInt.toNat, []⟩

example : makeChan (2 ^ 44 - 7) = some ⟨2 ^ 44 - 7, []⟩ ∧ makeChan (2 ^ 44 - 6) = none := by
  decide

/-- Where one `BuildImage` call is. An error is `none` for Go's `nil`. -/
inductive Phase where
  /-- Before `mu.Lock()` in `acquireBuildLock`. -/
  | calling
  /-- In the `select`, offering its image name to the channel. -/
  | waiting
  /-- Holding a slot while the build command runs. -/
  | building
  /-- The build command returned, `BuildImage` is to return `err`, and the deferred release
  receives from the channel. -/
  | releasing (err : Option String)
  /-- `make` panicked while the call held `mu`. -/
  | panicked
  /-- `BuildImage` returned `err`. -/
  | done (err : Option String)
deriving DecidableEq, Repr

/-- A call holds a slot from its send until its release. -/
def Phase.holds : Phase → Bool
  | .building | .releasing _ => true
  | _ => false

/-- One `BuildImage(config, name, ...)` call and where it is. -/
structure Build where
  config : SystemConfig
  name : String
  phase : Phase
deriving DecidableEq, Repr

/-- The package variables `acquireBuildLock` shares between calls, and the calls. -/
structure LockState where
  /-- `buildLockChannel`: `none` while it is `nil`. -/
  chan : Option Chan
  /-- Whether `mu` is held across steps, which only a panic inside it leaves so: otherwise
  the lock, the `nil` check and `make` and the unlock are one step. -/
  muLocked : Bool
  builds : List Build
deriving DecidableEq, Repr

/-- No channel yet, `mu` free, and every call before the lock. -/
def LockState.init (calls : List Build) : LockState :=
  ⟨none, false, calls.map fun b => { b with phase := .calling }⟩

/-- Call `i`, which reads `b`, moves to phase `p`. -/
def LockState.move (s : LockState) (i : Nat) (b : Build) (p : Phase) : LockState :=
  { s with builds := s.builds.set i { b with phase := p } }

/-- One step of one call. -/
inductive Event where
  /-- `mu.Lock()`, the `nil` check with its `make`, and `mu.Unlock()`. -/
  | lock (i : Nat)
  /-- `buildLockChannel <- buildId` puts the name into the buffer. -/
  | send (i : Nat)
  /-- `buildLockChannel <- buildId` of call `i` hands the name to the release of call `j`,
  blocked on an empty channel. -/
  | handoff (i j : Nat)
  /-- The timer fires in the `select`. -/
  | timeout (i : Nat)
  /-- The build command returns its combined `output` and `err`. -/
  | finish (i : Nat) (output : String) (err : Option String)
  /-- The deferred `<-buildLockChannel`. -/
  | release (i : Nat)
deriving DecidableEq, Repr

/-- The state after event `e`, or `none` when `e` cannot happen in `s`. -/
def LockState.next (s : LockState) : Event → Option LockState
  | .lock i =>
    match s.builds[i]? with
    | some b =>
      match b.phase, s.muLocked, s.chan with
      | .calling, false, some _ => some (s.move i b .waiting)
      | .calling, false, none =>
        match makeChan b.config.maxConcurrentBuilds with
        | some c => some { s.move i b .waiting with chan := some c }
        | none => some { s.move i b .panicked with muLocked := true }
      | _, _, _ => none
    | none => none
  | .send i =>
    match s.builds[i]?, s.chan with
    | some b, some c =>
      match b.phase with
      | .waiting =>
        if c.buf.length < c.cap then
          some { s.move i b .building with chan := some { c with buf := c.buf ++ [b.name] } }
        else none
      | _ => none
    | _, _ => none
  | .handoff i j =>
    match s.builds[i]?, s.builds[j]?, s.chan with
    | some b, some b', some c =>
      match b.phase, b'.phase, c.buf with
      | .waiting, .releasing err, [] => some ((s.move i b .building).move j b' (.done err))
      | _, _, _ => none
    | _, _, _ => none
  | .timeout i =>
    match s.builds[i]? with
    | some b =>
      match b.phase with
      | .waiting => some (s.move i b (.done (some acquireFailure)))
      | _ => none
    | none => none
  | .finish i output err =>
    match s.builds[i]? with
    | some b =>
      match b.phase with
      | .building => some (s.move i b (.releasing (buildError output err)))
      | _ => none
    | none => none
  | .release i =>
    match s.builds[i]?, s.chan with
    | some b, some c =>
      match b.phase, c.buf with
      | .releasing err, _ :: rest =>
        some { s.move i b (.done err) with chan := some { c with buf := rest } }
      | _, _ => none
    | _, _ => none

/-- The state after a sequence of events, or `none` when one of them cannot happen. -/
def LockState.run (s : LockState) : List Event → Option LockState
  | [] => some s
  | e :: es =>
    match s.next e with
    | some s' => s'.run es
    | none => none

/-! ## What a step can do -/

/-- The steps of `LockState.next`, each with the guards under which it happens. -/
inductive Step : LockState → LockState → Prop
  | lock {s : LockState} {i : Nat} {b : Build} {c : Chan} (get : s.builds[i]? = some b)
      (calling : b.phase = .calling) (free : s.muLocked = false) (made : s.chan = some c) :
      Step s (s.move i b .waiting)
  | make {s : LockState} {i : Nat} {b : Build} {c : Chan} (get : s.builds[i]? = some b)
      (calling : b.phase = .calling) (free : s.muLocked = false) (unmade : s.chan = none)
      (made : makeChan b.config.maxConcurrentBuilds = some c) :
      Step s { s.move i b .waiting with chan := some c }
  | panic {s : LockState} {i : Nat} {b : Build} (get : s.builds[i]? = some b)
      (calling : b.phase = .calling) (free : s.muLocked = false) (unmade : s.chan = none)
      (failed : makeChan b.config.maxConcurrentBuilds = none) :
      Step s { s.move i b .panicked with muLocked := true }
  | send {s : LockState} {i : Nat} {b : Build} {c : Chan} (get : s.builds[i]? = some b)
      (waiting : b.phase = .waiting) (made : s.chan = some c) (room : c.buf.length < c.cap) :
      Step s { s.move i b .building with chan := some { c with buf := c.buf ++ [b.name] } }
  | handoff {s : LockState} {i j : Nat} {b b' : Build} {c : Chan} {err : Option String}
      (get : s.builds[i]? = some b) (waiting : b.phase = .waiting)
      (get' : s.builds[j]? = some b') (releasing : b'.phase = .releasing err)
      (made : s.chan = some c) (empty : c.buf = []) :
      Step s ((s.move i b .building).move j b' (.done err))
  | timeout {s : LockState} {i : Nat} {b : Build} (get : s.builds[i]? = some b)
      (waiting : b.phase = .waiting) :
      Step s (s.move i b (.done (some acquireFailure)))
  | finish {s : LockState} {i : Nat} {b : Build} {output : String} {err : Option String}
      (get : s.builds[i]? = some b) (building : b.phase = .building) :
      Step s (s.move i b (.releasing (buildError output err)))
  | release {s : LockState} {i : Nat} {b : Build} {c : Chan} {err : Option String}
      {v : String} {rest : List String} (get : s.builds[i]? = some b)
      (releasing : b.phase = .releasing err) (made : s.chan = some c) (buf : c.buf = v :: rest) :
      Step s { s.move i b (.done err) with chan := some { c with buf := rest } }

theorem next_step {s s' : LockState} {e : Event} (h : s.next e = some s') : Step s s' := by
  cases e with
  | lock i =>
    simp only [LockState.next] at h
    split at h <;> [skip; cases h]
    rename_i b get
    split at h
    · cases h; exact .lock get ‹_› ‹_› ‹_›
    · split at h <;> cases h
      · exact .make get ‹_› ‹_› ‹_› ‹_›
      · exact .panic get ‹_› ‹_› ‹_› ‹_›
    · cases h
  | send i =>
    simp only [LockState.next] at h
    split at h <;> [skip; cases h]
    rename_i b c get made
    split at h <;> [skip; cases h]
    split at h <;> cases h
    exact .send get ‹_› made ‹_›
  | handoff i j =>
    simp only [LockState.next] at h
    split at h <;> [skip; cases h]
    rename_i b b' c get get' made
    split at h <;> cases h
    exact .handoff get ‹_› get' ‹_› made ‹_›
  | timeout i =>
    simp only [LockState.next] at h
    split at h <;> [skip; cases h]
    split at h <;> cases h
    exact .timeout ‹_› ‹_›
  | finish i output err =>
    simp only [LockState.next] at h
    split at h <;> [skip; cases h]
    split at h <;> cases h
    exact .finish ‹_› ‹_›
  | release i =>
    simp only [LockState.next] at h
    split at h <;> [skip; cases h]
    rename_i b c get made
    split at h <;> cases h
    exact .release get ‹_› made ‹_›

/-- A property every step keeps holds after every run. -/
theorem run_preserves {P : LockState → Prop} (step : ∀ {s s'}, Step s s' → P s → P s') :
    ∀ {s s' : LockState} {es : List Event}, s.run es = some s' → P s → P s'
  | s, s', [], ran, hs => by cases ran; exact hs
  | s, s', e :: es, ran, hs => by
    simp only [LockState.run] at ran
    split at ran
    · exact run_preserves step ran (step (next_step ‹_›) hs)
    · cases ran

/-- After a state in which no event can happen, a run is empty. -/
theorem run_blocked {s s' : LockState} (blocked : ∀ e, s.next e = none) :
    ∀ {es : List Event}, s.run es = some s' → s' = s
  | [], ran => by cases ran; rfl
  | e :: _, ran => by simp only [LockState.run, blocked e] at ran; cases ran

/-! ## Slots -/

/-- The calls holding a slot. -/
def LockState.holders (s : LockState) : Nat := s.builds.countP (·.phase.holds)

/-- Moving one call changes the count of holders by what its old and new phases hold. -/
theorem LockState.holders_move {s : LockState} {i : Nat} {b : Build}
    (get : s.builds[i]? = some b) (p : Phase) :
    (s.move i b p).holders + (if b.phase.holds then 1 else 0) =
      s.holders + (if p.holds then 1 else 0) := by
  obtain ⟨lt, rfl⟩ := List.getElem?_eq_some_iff.mp get
  have le := List.boole_getElem_le_countP (·.phase.holds) s.builds i lt
  simp only [holders, move, List.countP_set _ _ _ _ lt] at le ⊢
  omega

theorem LockState.holders_pos {s : LockState} {i : Nat} {b : Build}
    (get : s.builds[i]? = some b) (holds : b.phase.holds) : 0 < s.holders :=
  List.countP_pos_iff.mpr ⟨b, List.getElem?_mem get, holds⟩

theorem makeChan_some {size : GoInt} {c : Chan} (made : makeChan size = some c) :
    (c.cap : Int) = size.toInt ∧ c.buf = [] := by
  unfold makeChan at made
  split at made
  · cases made
  · next inRange =>
    cases made
    exact ⟨Int.toNat_of_nonneg (not_lt.mp fun negative => inRange (.inl negative)), rfl⟩

/-! ## The invariant of every run -/

/-- What every run keeps. -/
structure LockState.Invariant (s : LockState) : Prop where
  /-- Before the channel is made no call is past the lock. -/
  unmade : s.chan = none → ∀ b ∈ s.builds, b.phase = .calling ∨ b.phase = .panicked
  /-- The values in the channel count the calls holding a slot. -/
  counted : ∀ c, s.chan = some c → s.holders = c.buf.length
  /-- The channel holds at most its capacity. -/
  bounded : ∀ c, s.chan = some c → c.buf.length ≤ c.cap

theorem LockState.Invariant.init (calls : List Build) : (LockState.init calls).Invariant where
  unmade _ b mem := by
    obtain ⟨_, -, rfl⟩ := List.mem_map.mp mem
    exact .inl rfl
  counted _ made := by cases made
  bounded _ made := by cases made

theorem LockState.Invariant.holders_unmade {s : LockState} (inv : s.Invariant)
    (unmade : s.chan = none) : s.holders = 0 :=
  List.countP_eq_zero.mpr fun b mem => by
    rcases inv.unmade unmade b mem with phase | phase <;> simp [phase, Phase.holds]

/-- A move that keeps whether the call holds a slot keeps the invariant. -/
theorem LockState.Invariant.move {s : LockState} (inv : s.Invariant) {i : Nat} {b : Build}
    (get : s.builds[i]? = some b) {p : Phase} (same : p.holds = b.phase.holds)
    (past : s.chan = none → p = .calling ∨ p = .panicked) : (s.move i b p).Invariant := by
  have count := s.holders_move get p
  rw [same] at count
  refine ⟨fun unmade b' mem => ?_, fun c made => ?_, inv.bounded⟩
  · rcases List.mem_or_eq_of_mem_set mem with mem | rfl
    · exact inv.unmade unmade b' mem
    · exact past unmade
  · rw [← inv.counted c made]
    omega

/-- A call is past the lock only once the channel is made. -/
theorem LockState.Invariant.made_of_phase {s : LockState} (inv : s.Invariant) {i : Nat}
    {b : Build} (get : s.builds[i]? = some b) (past : b.phase ≠ .calling)
    (alive : b.phase ≠ .panicked) : s.chan ≠ none := fun unmade =>
  (inv.unmade unmade b (List.getElem?_mem get)).elim past alive

theorem Step.invariant {s s' : LockState} (step : Step s s') (inv : s.Invariant) :
    s'.Invariant := by
  cases step with
  | lock get calling _ made =>
    exact inv.move get (by rw [calling]; rfl) fun unmade => by rw [made] at unmade; cases unmade
  | @make i b c get calling _ unmade made =>
    have count := s.holders_move get .waiting
    rw [calling, inv.holders_unmade unmade] at count
    obtain ⟨-, empty⟩ := makeChan_some made
    refine ⟨(fun h => by cases h), fun c' h => ?_, fun c' h => ?_⟩ <;> cases h
    · simpa [Phase.holds, empty] using count
    · simp [empty]
  | panic get calling _ _ _ =>
    have moved := inv.move get (p := .panicked) (by rw [calling]; rfl) fun _ => .inr rfl
    exact ⟨moved.unmade, moved.counted, moved.bounded⟩
  | @send i b c get waiting made room =>
    have count := s.holders_move get .building
    rw [waiting, inv.counted c made] at count
    refine ⟨(fun h => by cases h), fun c' h => ?_, fun c' h => ?_⟩ <;> cases h
    · simpa [Phase.holds] using count
    · simpa using room
  | handoff _ _ get' releasing made empty =>
    have pos := s.holders_pos get' (by rw [releasing]; rfl)
    rw [inv.counted _ made, empty] at pos
    cases pos
  | timeout get waiting =>
    exact inv.move get (by rw [waiting]; rfl) fun unmade =>
      absurd unmade (inv.made_of_phase get (by rw [waiting]; nofun) (by rw [waiting]; nofun))
  | finish get building =>
    exact inv.move get (by rw [building]; rfl) fun unmade =>
      absurd unmade (inv.made_of_phase get (by rw [building]; nofun) (by rw [building]; nofun))
  | @release i b c err v rest get releasing made buf =>
    have count := s.holders_move get (.done err)
    rw [releasing, inv.counted c made, buf] at count
    refine ⟨(fun h => by cases h), fun c' h => ?_, fun c' h => ?_⟩ <;> cases h
    · simpa [Phase.holds] using count
    · have bounded := inv.bounded c made
      rw [buf, List.length_cons] at bounded
      exact Nat.le_of_succ_le bounded

theorem LockState.Invariant.of_run {calls : List Build} {es : List Event} {s : LockState}
    (ran : (LockState.init calls).run es = some s) : s.Invariant :=
  run_preserves Step.invariant ran (Invariant.init calls)

/-- Once made, the channel stays, with its capacity. -/
theorem Step.chan_cap {s s' : LockState} (step : Step s s') {c : Chan} (made : s.chan = some c) :
    ∃ c', s'.chan = some c' ∧ c'.cap = c.cap := by
  cases step with
  | make _ _ _ unmade => rw [made] at unmade; cases unmade
  | panic _ _ _ unmade => rw [made] at unmade; cases unmade
  | send _ _ made' => rw [made] at made'; cases made'; exact ⟨_, rfl, rfl⟩
  | release _ _ made' => rw [made] at made'; cases made'; exact ⟨_, rfl, rfl⟩
  | lock | handoff | timeout | finish => exact ⟨c, made, rfl⟩

theorem run_chan_cap {s s' : LockState} {es : List Event} (ran : s.run es = some s') {c : Chan}
    (made : s.chan = some c) : ∃ c', s'.chan = some c' ∧ c'.cap = c.cap :=
  run_preserves (P := fun s => ∃ c', s.chan = some c' ∧ c'.cap = c.cap)
    (fun step ⟨_, made', cap⟩ =>
      let ⟨c'', made'', cap'⟩ := step.chan_cap made'
      ⟨c'', made'', cap'.trans cap⟩)
    ran ⟨c, made, rfl⟩

/-- With `mu` held for good and no channel, no step can happen. -/
theorem Step.not_locked {s s' : LockState} (step : Step s s') (inv : s.Invariant)
    (locked : s.muLocked = true) (unmade : s.chan = none) : False := by
  cases step with
  | lock _ _ free | make _ _ free | panic _ _ free => rw [locked] at free; cases free
  | send _ _ made | handoff _ _ _ _ made | release _ _ made => rw [unmade] at made; cases made
  | timeout get waiting =>
    exact inv.made_of_phase get (by rw [waiting]; nofun) (by rw [waiting]; nofun) unmade
  | finish get building =>
    exact inv.made_of_phase get (by rw [building]; nofun) (by rw [building]; nofun) unmade

theorem LockState.Invariant.blocked {s : LockState} (inv : s.Invariant)
    (locked : s.muLocked = true) (unmade : s.chan = none) (e : Event) : s.next e = none := by
  cases h : s.next e with
  | none => rfl
  | some _ => exact ((next_step h).not_locked inv locked unmade).elim

/-- From the start only a lock can happen. It makes the channel with the capacity of its
call, or panics, after which no event can happen. -/
theorem init_next {calls : List Build} {e : Event} {s : LockState}
    (h : (LockState.init calls).next e = some s) :
    ∃ i b, e = .lock i ∧ calls[i]? = some b ∧
      ((∃ c, makeChan b.config.maxConcurrentBuilds = some c ∧ s.chan = some c) ∨
        (makeChan b.config.maxConcurrentBuilds = none ∧ s.chan = none ∧ s.muLocked = true ∧
          ∀ e', s.next e' = none)) := by
  have inv := (next_step h).invariant (.init calls)
  cases e with
  | lock i =>
    simp only [LockState.next, LockState.init, List.getElem?_map] at h
    rcases get : calls[i]? with _ | b <;> rw [get] at h
    · cases h
    refine ⟨i, b, rfl, get, ?_⟩
    rcases made : makeChan b.config.maxConcurrentBuilds with _ | c <;>
      simp only [Option.map_some', made, Option.some.injEq] at h <;> subst h
    · exact .inr ⟨rfl, rfl, rfl, inv.blocked rfl rfl⟩
    · exact .inl ⟨c, rfl, rfl⟩
  | timeout i =>
    rcases get : calls[i]? with _ | b <;> simp [LockState.next, LockState.init, get] at h
  | finish i =>
    rcases get : calls[i]? with _ | b <;> simp [LockState.next, LockState.init, get] at h
  | _ => simp [LockState.next, LockState.init] at h

/-! ## What every run of the build lock keeps -/

/-- **At most `MaxConcurrentBuilds` builds at once.** Every run of any number of
`BuildImage` calls, interleaved in any order, keeps `LockState.Invariant`: no call is past the
lock before the channel is made, and after it the calls holding a slot are exactly as many as
the names in the channel, at most its capacity. So at most that many builds run at once, and
that capacity is the `MaxConcurrentBuilds` of the call whose lock came first: what the configs
of later calls say is never read. -/
theorem holders_le_maxConcurrentBuilds {calls : List Build} {es : List Event} {s : LockState}
    (ran : (LockState.init calls).run es = some s) :
    s.Invariant ∧ ∀ c, s.chan = some c → s.holders ≤ c.cap ∧
      ∃ i b, es.head? = some (.lock i) ∧ calls[i]? = some b ∧
        (c.cap : Int) = b.config.maxConcurrentBuilds.toInt := by
  have inv := LockState.Invariant.of_run ran
  refine ⟨inv, fun c made => ⟨(inv.counted c made).trans_le (inv.bounded c made), ?_⟩⟩
  cases es with
  | nil => cases ran; cases made
  | cons e es =>
    simp only [LockState.run] at ran
    split at ran
    case h_2 => cases ran
    rename_i s₁ first
    obtain ⟨i, b, rfl, get, ⟨c₁, made₁, chan₁⟩ | ⟨-, unmade₁, -, blocked⟩⟩ := init_next first
    · obtain ⟨c', made', cap⟩ := run_chan_cap ran chan₁
      rw [made] at made'
      cases made'
      exact ⟨i, b, rfl, get, cap ▸ (makeChan_some made₁).1⟩
    · rw [run_blocked blocked ran, unmade₁] at made
      cases made

/-- A call whose config allows one build at a time. -/
def oneSlotBuild : Build := ⟨⟨1⟩, "cli-app-a", .calling⟩

/-- A call whose config allows five. -/
def fiveSlotBuild : Build := ⟨⟨5⟩, "cli-app-b", .calling⟩

/-- The first call makes the channel with one slot and takes it; the second call, whose
config allows five builds, waits and times out. -/
def oneSlotRun : LockState :=
  ⟨some ⟨1, ["cli-app-a"]⟩, false,
    [{ oneSlotBuild with phase := .building },
      { fiveSlotBuild with phase := .done (some acquireFailure) }]⟩

theorem holders_le_maxConcurrentBuilds_oneSlot :
    (LockState.init [oneSlotBuild, fiveSlotBuild]).run [.lock 0, .lock 1, .send 0, .timeout 1] =
      some oneSlotRun ∧
    (oneSlotRun.Invariant ∧
      ∀ c, oneSlotRun.chan = some c → oneSlotRun.holders ≤ c.cap ∧
        ∃ i b, ([.lock 0, .lock 1, .send 0, .timeout 1] : List Event).head? = some (.lock i) ∧
          [oneSlotBuild, fiveSlotBuild][i]? = some b ∧
          (c.cap : Int) = b.config.maxConcurrentBuilds.toInt) :=
  ⟨rfl, holders_le_maxConcurrentBuilds rfl⟩

/-- **A release never blocks.** In every run, a call whose build command returned finds a
name in the channel, so its deferred `<-buildLockChannel` can always go on. -/
theorem release_never_blocks {calls : List Build} {es : List Event} {s : LockState}
    (ran : (LockState.init calls).run es = some s) {i : Nat} {b : Build} {err : Option String}
    (get : s.builds[i]? = some b) (releasing : b.phase = .releasing err) :
    ∃ s', s.next (.release i) = some s' := by
  have inv := LockState.Invariant.of_run ran
  rcases made : s.chan with _ | c
  · exact absurd made
      (inv.made_of_phase get (by rw [releasing]; nofun) (by rw [releasing]; nofun))
  have pos := s.holders_pos get (by rw [releasing]; rfl)
  rw [inv.counted c made] at pos
  obtain ⟨v, rest, buf⟩ := List.exists_cons_of_length_pos pos
  exact ⟨_, by simp [LockState.next, get, made, releasing, buf]; rfl⟩

/-- The one-slot call after its build command succeeded, before its release. -/
def releasingRun : LockState :=
  ⟨some ⟨1, ["cli-app-a"]⟩, false, [{ oneSlotBuild with phase := .releasing none }]⟩

theorem release_never_blocks_oneSlot :
    (LockState.init [oneSlotBuild]).run [.lock 0, .send 0, .finish 0 "" none] =
      some releasingRun ∧
    releasingRun.builds[0]? = some { oneSlotBuild with phase := .releasing none } ∧
    ({ oneSlotBuild with phase := .releasing none } : Build).phase = .releasing none ∧
    ∃ s', releasingRun.next (.release 0) = some s' :=
  have ran : (LockState.init [oneSlotBuild]).run [.lock 0, .send 0, .finish 0 "" none] =
      some releasingRun := rfl
  ⟨ran, rfl, rfl, release_never_blocks ran rfl rfl⟩

/-- On an unbuffered channel no call holds a slot, and every call that returned failed to
take one. -/
def LockState.NeverBuilds (s : LockState) : Prop :=
  ∀ c, s.chan = some c → c.cap = 0 →
    ∀ b ∈ s.builds, b.phase.holds = false ∧ ∀ err, b.phase = .done err → err = some acquireFailure

theorem Step.neverBuilds {s s' : LockState} (step : Step s s') (inv : s.Invariant)
    (never : s.NeverBuilds) : s'.NeverBuilds := by
  intro c' made' unbuffered b' mem
  cases step with
  | lock _ _ _ _ | timeout _ _ =>
    rcases List.mem_or_eq_of_mem_set mem with mem | rfl
    · exact never c' made' unbuffered b' mem
    · exact ⟨rfl, fun _ h => by cases h <;> rfl⟩
  | make _ _ _ unmade _ =>
    rcases List.mem_or_eq_of_mem_set mem with mem | rfl
    · rcases inv.unmade unmade b' mem with phase | phase <;> simp [phase, Phase.holds]
    · exact ⟨rfl, fun _ h => nomatch h⟩
  | panic _ _ _ unmade =>
    have made : s.chan = some c' := made'
    rw [unmade] at made
    cases made
  | send _ _ made room =>
    cases made'
    rw [unbuffered] at room
    cases room
  | handoff _ _ get' releasing made =>
    have := (never c' made' unbuffered _ (List.getElem?_mem get')).1
    rw [releasing] at this
    cases this
  | finish get building =>
    have := (never c' made' unbuffered _ (List.getElem?_mem get)).1
    rw [building] at this
    cases this
  | release get releasing made =>
    cases made'
    have := (never _ made unbuffered _ (List.getElem?_mem get)).1
    rw [releasing] at this
    cases this

/-- **No build on an unbuffered channel.** When the first call's `MaxConcurrentBuilds` is `0`,
`make` gives an unbuffered channel, on which a send goes through only to a receiver, and the
only receivers are releases of calls that sent before. So in every run no call ever holds a
slot, and every `BuildImage` that returns, returns the acquire error, after its timer. -/
theorem unbuffered_never_builds {calls : List Build} {es : List Event} {s : LockState}
    (ran : (LockState.init calls).run es = some s) {c : Chan} (made : s.chan = some c)
    (unbuffered : c.cap = 0) :
    ∀ b ∈ s.builds, b.phase.holds = false ∧
      ∀ err, b.phase = .done err → err = some acquireFailure :=
  (run_preserves (P := fun s => s.Invariant ∧ s.NeverBuilds)
    (fun step ⟨inv, never⟩ => ⟨step.invariant inv, step.neverBuilds inv never⟩) ran
    ⟨.init calls, fun _ made => by cases made⟩).2 c made unbuffered

/-- A call whose config allows no build. -/
def unbufferedBuild : Build := ⟨⟨0⟩, "cli-app-a", .calling⟩

/-- The first call makes an unbuffered channel and times out; the second still waits. -/
def unbufferedRun : LockState :=
  ⟨some ⟨0, []⟩, false,
    [{ unbufferedBuild with phase := .done (some acquireFailure) },
      { fiveSlotBuild with phase := .waiting }]⟩

theorem unbuffered_never_builds_zero :
    (LockState.init [unbufferedBuild, fiveSlotBuild]).run [.lock 0, .lock 1, .timeout 0] =
      some unbufferedRun ∧
    unbufferedRun.chan = some ⟨0, []⟩ ∧ (⟨0, []⟩ : Chan).cap = 0 ∧
    ∀ b ∈ unbufferedRun.builds, b.phase.holds = false ∧
      ∀ err, b.phase = .done err → err = some acquireFailure :=
  have ran : (LockState.init [unbufferedBuild, fiveSlotBuild]).run [.lock 0, .lock 1, .timeout 0] =
      some unbufferedRun := rfl
  ⟨ran, rfl, rfl, unbuffered_never_builds ran rfl rfl⟩

/-- **A negative `MaxConcurrentBuilds` blocks every build.** When the first call to take the
lock has a negative `MaxConcurrentBuilds`, or one whose buffer the runtime does not allocate,
`make` panics between `mu.Lock()` and `mu.Unlock()`. The channel stays `nil` and nothing
unlocks `mu`, so after that no event of any call can happen. -/
theorem negative_maxConcurrentBuilds_blocks {calls : List Build} {i : Nat} {b : Build}
    (get : calls[i]? = some b)
    (outOfRange : b.config.maxConcurrentBuilds.toInt < 0 ∨
      stringSize * b.config.maxConcurrentBuilds.toInt > maxChanBufferBytes) :
    ∃ s, (LockState.init calls).next (.lock i) = some s ∧ s.chan = none ∧ s.muLocked = true ∧
      ∀ e, s.next e = none := by
  have failed : makeChan b.config.maxConcurrentBuilds = none := if_pos outOfRange
  obtain ⟨s, first⟩ : ∃ s, (LockState.init calls).next (.lock i) = some s :=
    ⟨_, by simp [LockState.next, LockState.init, get, failed]; rfl⟩
  obtain ⟨_, _, lock, get', ⟨c, made, -⟩ | ⟨-, unmade, locked, blocked⟩⟩ := init_next first
  · cases lock
    rw [get] at get'
    cases get'
    rw [failed] at made
    cases made
  · exact ⟨s, first, unmade, locked, blocked⟩

/-- A call whose config has a negative `MaxConcurrentBuilds`. -/
def negativeBuild : Build := ⟨⟨-1⟩, "cli-app-a", .calling⟩

theorem negative_maxConcurrentBuilds_blocks_minusOne :
    [negativeBuild, fiveSlotBuild][0]? = some negativeBuild ∧
    (negativeBuild.config.maxConcurrentBuilds.toInt < 0 ∨
      stringSize * negativeBuild.config.maxConcurrentBuilds.toInt > maxChanBufferBytes) ∧
    ∃ s, (LockState.init [negativeBuild, fiveSlotBuild]).next (.lock 0) = some s ∧
      s.chan = none ∧ s.muLocked = true ∧ ∀ e, s.next e = none :=
  ⟨rfl, .inl (by decide), negative_maxConcurrentBuilds_blocks rfl (.inl (by decide))⟩

end OpenRun.Container
