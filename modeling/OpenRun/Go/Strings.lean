import Mathlib.Data.Nat.Digits

/-!
# Go's `strings.Cut` and `strconv.Atoi`

The two functions of Go's standard library that the request handler and the container listing
read texts with.

`strings.Cut` with a one-character separator is `cutAt` on the characters of the text: it
cuts where the separator stands first (`cutAt_append`) and leaves a text without it whole,
reporting that nothing was found (`cutAt_of_not_mem`).

`strconv.Atoi` on a 64-bit platform (`atoi`) accepts an optional sign and decimal digits whose
value fits an `int`. The digits `Nat.toDigits` writes for a number are decimal digits whose
value under Go's loop `n = n*10 + int(ch - '0')` is the number (`toDigitsCore_decimal`), so
the decimal text of every number in range reads back as that number (`atoi_toString`).
-/

set_option autoImplicit false

namespace OpenRun.Go

/-! ## `strings.Cut` -/

/-- `strings.Cut` for a one-character separator, on characters: the text before and after the
first `sep`, and whether there was one. -/
def cutAt (sep : Char) : List Char → List Char × List Char × Bool
  | [] => ([], [], false)
  | c :: rest =>
    if c = sep then ([], rest, true)
    else (c :: (cutAt sep rest).1, (cutAt sep rest).2.1, (cutAt sep rest).2.2)

theorem cutAt_append (sep : Char) {l₁ : List Char} (l₂ : List Char) (absent : sep ∉ l₁) :
    cutAt sep (l₁ ++ sep :: l₂) = (l₁, l₂, true) := by
  induction l₁ with
  | nil => simp [cutAt]
  | cons c l₁ ih =>
    have other : c ≠ sep := fun h => absent (h ▸ .head _)
    simp [cutAt, other, ih fun h => absent (.tail _ h)]

theorem cutAt_of_not_mem (sep : Char) {l : List Char} (absent : sep ∉ l) :
    cutAt sep l = (l, [], false) := by
  induction l with
  | nil => rfl
  | cons c l ih =>
    have other : c ≠ sep := fun h => absent (h ▸ .head _)
    simp [cutAt, other, ih fun h => absent (.tail _ h)]

/-! ## `strconv.Atoi` -/

/-- The sign `strconv.Atoi` reads off the front of the text (`s[0] == '-' || s[0] == '+'`),
whether it is a minus, and the characters after it. -/
def splitSign : List Char → Bool × List Char
  | [] => (false, [])
  | c :: rest => if c = '-' then (true, rest) else if c = '+' then (false, rest) else (false, c :: rest)

/-- The value of decimal digits, as Go's loop `n = n*10 + int(ch - '0')` computes it. -/
def digitsValue (digits : List Char) : Nat :=
  digits.foldl (fun n ch => n * 10 + (ch.toNat - '0'.toNat)) 0

/-- `strconv.Atoi` on a 64-bit platform: an optional sign, then decimal digits whose value
fits an `int`. `none` is its error, a syntax error or a range error. Its fast path for texts
shorter than 19 bytes and `ParseInt` accept the same texts with the same values, and a
character of more than one byte is not a digit in either. -/
def atoi (s : String) : Option Int :=
  let sign := splitSign s.toList
  if sign.2 ≠ [] ∧ sign.2.all Char.isDigit then
    let n : Int := if sign.1 then -(digitsValue sign.2 : Int) else digitsValue sign.2
    if -2 ^ 63 ≤ n ∧ n < 2 ^ 63 then some n else none
  else none

theorem splitSign_of_isDigit {c : Char} (rest : List Char) (digit : c.isDigit = true) :
    splitSign (c :: rest) = (false, c :: rest) := by
  have notMinus : c ≠ '-' := by rintro rfl; exact absurd digit (by decide)
  have notPlus : c ≠ '+' := by rintro rfl; exact absurd digit (by decide)
  simp [splitSign, notMinus, notPlus]

theorem digitsValue_concat (digits : List Char) (ch : Char) :
    digitsValue (digits ++ [ch]) = digitsValue digits * 10 + (ch.toNat - '0'.toNat) := by
  simp [digitsValue]

/-- The character `Nat.toDigits` writes for a decimal digit is a digit of that value. -/
theorem digitChar_decimal :
    ∀ k < 10, (Nat.digitChar k).isDigit = true ∧ (Nat.digitChar k).toNat - '0'.toNat = k := by
  decide

/-- With enough fuel, `Nat.toDigitsCore` puts in front of what it has written the decimal
digits of the number. -/
theorem toDigitsCore_decimal {fuel n : Nat} (acc : List Char) (enough : n < fuel) :
    ∃ ds, Nat.toDigitsCore 10 fuel n acc = ds ++ acc ∧ ds ≠ [] ∧ ds.all Char.isDigit ∧
      digitsValue ds = n := by
  induction fuel generalizing n acc with
  | zero => omega
  | succ fuel ih =>
    obtain ⟨digit, value⟩ := digitChar_decimal (n % 10) (Nat.mod_lt _ (by decide))
    simp only [Nat.toDigitsCore]
    split
    · refine ⟨[Nat.digitChar (n % 10)], rfl, by simp, by simp [digit], ?_⟩
      simp only [digitsValue, List.foldl_cons, List.foldl_nil, value]
      omega
    · obtain ⟨ds, written, ne, digits, val⟩ := ih (n := n / 10) (Nat.digitChar (n % 10) :: acc) (by omega)
      refine ⟨ds ++ [Nat.digitChar (n % 10)], by simp [written], by simp, by simp [digits, digit], ?_⟩
      rw [digitsValue_concat, val, value]
      omega

/-- The decimal text of a number: digits, at least one, whose value is the number. -/
theorem toString_decimal (n : Nat) :
    (toString n).toList ≠ [] ∧ (toString n).toList.all Char.isDigit ∧
      digitsValue (toString n).toList = n := by
  obtain ⟨ds, written, ne, digits, value⟩ := toDigitsCore_decimal [] (Nat.lt_succ_self n)
  have text : (toString n).toList = ds := by simpa using written
  exact text ▸ ⟨ne, digits, value⟩

/-- **Round trip.** The decimal text of every natural number below `2^63` reads back through
`strconv.Atoi` as that number. -/
theorem atoi_toString {n : Nat} (fits : n < 2 ^ 63) : atoi (toString n) = some (n : Int) := by
  obtain ⟨ne, digits, value⟩ := toString_decimal n
  obtain ⟨c, rest, text⟩ := List.exists_cons_of_ne_nil ne
  have unsigned : splitSign (toString n).toList = (false, (toString n).toList) := by
    rw [text]; exact splitSign_of_isDigit rest (by simp_all)
  have inRange : -2 ^ 63 ≤ (n : Int) ∧ (n : Int) < 2 ^ 63 := by omega
  simp only [atoi, unsigned, value, ne_eq, ne,
    not_false_eq_true, digits, and_self, if_true, Bool.false_eq_true, if_false, inRange]

end OpenRun.Go
