import Mathlib

/-!
# Go integers and wall-clock times

The scheduler decides whether a sync entry is due with
`LastExecutionTime.Add(time.Duration(ScheduleFrequency) * time.Minute).After(time.Now())`.
Every quantity in that expression is a 64-bit Go value, so this module models them at that
width: Go's `int` and `time.Duration` are `BitVec 64`, whose `+` and `*` wrap exactly as
Go's do, and whose signed comparisons are `BitVec.slt` and `BitVec.sle`.

A `time.Time` read back from the metadata store carries no monotonic clock reading. For
such a time, Go keeps the signed seconds since January 1, year 1 UTC in a 64-bit field and
the nanoseconds within the second beside it; `Add`, `After` and `IsZero` then work on these
two fields alone, and that is what `Time.add`, `Time.after` and `Time.isZero` follow.
`Add` splits the duration into whole seconds and a nanosecond remainder with truncating
division, normalises the nanoseconds, and adds the seconds with saturation at the ends of
the 64-bit range (`Time.addSec`).

`Time.toNanos` is the exact instant of a time as an integer, the yardstick against which
the scheduler's 64-bit arithmetic is compared. Where no product or sum wraps, the 64-bit operations
agree with it: a positive number of minutes is its exact count of nanoseconds
(`toInt_mul_minute`), `Add` adds the duration's nanoseconds while the result's seconds are in
range (`Time.toNanos_add_of_fits`), and `After` compares instants (`Time.after_iff`).
-/

set_option autoImplicit false

namespace OpenRun

/-- Go's `int`, on the 64-bit platforms the server runs on. -/
abbrev GoInt := BitVec 64

namespace Go

/-- Go's `time.Duration`: a signed 64-bit count of nanoseconds. -/
abbrev Duration := BitVec 64

/-- `time.Minute`. -/
def minute : Duration := 60000000000#64

/-- A Go `time.Time` without monotonic reading: seconds since January 1, year 1 UTC and
the nanoseconds within that second. -/
structure Time where
  sec : BitVec 64
  nsec : Fin 1000000000
deriving DecidableEq, Repr

namespace Time

/-- The zero `time.Time`, January 1, year 1, 00:00:00 UTC. -/
def zero : Time := ⟨0#64, 0⟩

instance : Inhabited Time := ⟨zero⟩

/-- `Time.IsZero`. -/
def isZero (t : Time) : Bool := t.sec == 0#64 && t.nsec == 0

/-- `Time.After`: `t` is strictly later than `u`. -/
def after (t u : Time) : Bool := u.sec.slt t.sec || (t.sec == u.sec && u.nsec < t.nsec)

/-- `Time.addSec`: add seconds, saturating instead of wrapping at the ends of the range. -/
def addSec (t : Time) (d : BitVec 64) : Time :=
  let sum := t.sec + d
  if t.sec.slt sum == (0#64).slt d then ⟨sum, t.nsec⟩
  else if (0#64).slt d then ⟨BitVec.ofInt 64 (2 ^ 63 - 1), t.nsec⟩
  else ⟨BitVec.ofInt 64 (-(2 ^ 63 - 1)), t.nsec⟩

/-- Go's remainder `d % 1e9` lies strictly between `-1e9` and `1e9`; the lower half. -/
theorem neg_billion_lt_tmod (a : Int) : -1000000000 < a.tmod 1000000000 := by
  cases a with
  | ofNat n => exact Int.lt_of_lt_of_le (by decide) (Int.tmod_nonneg _ (Int.ofNat_nonneg n))
  | negSucc n =>
    show -1000000000 < -(((n + 1) % 1000000000 : Nat) : Int)
    have : (n + 1) % 1000000000 < 1000000000 := Nat.mod_lt _ (by decide)
    omega

/-- `Time.Add`: whole seconds `d / 1e9` and remainder `d % 1e9` (both truncating), the
nanoseconds carried into the seconds, then `addSec`. -/
def add (t : Time) (d : Duration) : Time :=
  let dsec := d.toInt.tdiv 1000000000
  let nsec : Int := t.nsec.val + d.toInt.tmod 1000000000
  have lo := neg_billion_lt_tmod d.toInt
  have hi := Int.tmod_lt_of_pos d.toInt (b := 1000000000) (by decide)
  if h : 1000000000 ≤ nsec then
    addSec ⟨t.sec, ⟨(nsec - 1000000000).toNat, by omega⟩⟩ (BitVec.ofInt 64 (dsec + 1))
  else if h' : nsec < 0 then
    addSec ⟨t.sec, ⟨(nsec + 1000000000).toNat, by omega⟩⟩ (BitVec.ofInt 64 (dsec - 1))
  else addSec ⟨t.sec, ⟨nsec.toNat, by omega⟩⟩ (BitVec.ofInt 64 dsec)

/-- The exact instant of a time, in nanoseconds since January 1, year 1 UTC. -/
def toNanos (t : Time) : Int := t.sec.toInt * 1000000000 + t.nsec.val

end Time

/-! ## 64-bit arithmetic that does not wrap -/

theorem toInt_bounds (x : BitVec 64) : -2^63 ≤ x.toInt ∧ x.toInt < 2^63 := by
  have := x.isLt
  rw [BitVec.toInt_eq_toNat_cond]
  split <;> omega

theorem bmod_two_pow_eq {x : Int} (lo : -2^63 ≤ x) (hi : x < 2^63) : x.bmod (2^64) = x := by
  rw [Int.bmod_def]
  split <;> omega

/-- `time.Duration(f) * time.Minute` is exactly `f` minutes when that fits in 63 bits. -/
theorem toInt_mul_minute {f : GoInt} (pos : 0 < f.toInt) (noWrap : f.toInt * 60000000000 < 2^63) :
    (f * minute).toInt = f.toInt * 60000000000 := by
  rw [BitVec.toInt_mul, show minute.toInt = 60000000000 from rfl]
  exact bmod_two_pow_eq (by omega) noWrap

namespace Time

/-- `After` compares the exact instants. -/
theorem after_iff (t u : Time) : t.after u = true ↔ u.toNanos < t.toNanos := by
  have := t.nsec.isLt
  have := u.nsec.isLt
  simp only [after, toNanos, Bool.or_eq_true, Bool.and_eq_true, BitVec.slt, decide_eq_true_eq,
    beq_iff_eq, ← BitVec.toInt_inj, Fin.lt_def]
  omega

/-- `addSec` adds exactly while the sum stays in Go's range of seconds. -/
theorem addSec_of_fits (sec : BitVec 64) (nsec : Fin 1000000000) {c : Int} (cLo : -2^63 ≤ c)
    (cHi : c < 2^63) (lo : -2^63 ≤ sec.toInt + c) (hi : sec.toInt + c < 2^63) :
    (addSec ⟨sec, nsec⟩ (BitVec.ofInt 64 c)).toNanos = (sec.toInt + c) * 1000000000 + nsec.val := by
  have cInt : (BitVec.ofInt 64 c).toInt = c := by
    rw [BitVec.toInt_ofInt]
    exact bmod_two_pow_eq cLo cHi
  have sum : (sec + BitVec.ofInt 64 c).toInt = sec.toInt + c := by
    rw [BitVec.toInt_add, cInt]
    exact bmod_two_pow_eq lo hi
  have zero : (0#64).toInt = 0 := rfl
  have same : (sec.slt (sec + BitVec.ofInt 64 c) == (0#64).slt (BitVec.ofInt 64 c)) = true := by
    simp only [BitVec.slt, sum, cInt, zero, beq_iff_eq, decide_eq_decide]
    omega
  simp only [addSec, same, if_true, toNanos, sum]

/-- `Add` moves a time by exactly the duration, positive or negative, while the seconds of
the result fit in Go's range: the nanosecond carry of each branch is undone by the second it
adds or takes. -/
theorem toNanos_add_of_fits (t : Time) (d : Duration)
    (lo : -2^63 ≤ (t.toNanos + d.toInt) / 1000000000)
    (hi : (t.toNanos + d.toInt) / 1000000000 < 2^63) :
    (t.add d).toNanos = t.toNanos + d.toInt := by
  have nsecBound := t.nsec.isLt
  have secBounds := toInt_bounds t.sec
  have dBounds := toInt_bounds d
  have split := Int.tdiv_add_tmod d.toInt 1000000000
  have rLo := neg_billion_lt_tmod d.toInt
  have rHi := Int.tmod_lt_of_pos d.toInt (b := 1000000000) (by decide)
  simp only [toNanos] at lo hi
  show (t.add d).toNanos = t.sec.toInt * 1000000000 + t.nsec.val + d.toInt
  dsimp only [add]
  -- a carry out of the nanoseconds, a borrow, or neither
  split
  all_goals try split
  all_goals
    rw [addSec_of_fits _ _ (by omega) (by omega) (by omega) (by omega)]
    simp only [Fin.val_mk]
    omega

end Time

end Go

end OpenRun
