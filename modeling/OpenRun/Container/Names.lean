import Mathlib.Algebra.Group.Nat.Basic
import Mathlib.Data.List.Basic

/-!
# The names of images and containers

`GenImageName` and `GenContainerName` name the image and the container of an app version
`cli-<appId>-<id>` and `clc-<appId>-<id>`, where `<id>` is the version's content hash encoded
with `genLowerCaseId`: base32 without padding, lowered so that Docker accepts it. Without a
content hash the name is `cli-<appId>` or `clc-<appId>`.

Base32 (`base32.StdEncoding.WithPadding(base32.NoPadding)`, RFC 4648) reads the bytes as one
stream of bits, eight to a byte, the most significant first, and writes one character of its
alphabet for each group of five, the last group filled with zeros. `quintets` cuts the stream;
spelling each group back into its five bits gives the stream followed by fewer than five zeros
(`quintets_bits`). The number of characters then fixes the number of bytes, so the encoding is
injective on byte lists (`base32Encode_injective`), and so is its lowered form, since every
letter of the alphabet is upper case (`lowerIndex_lower`).

Content hashes are hex digests, ASCII text, whose UTF-8 bytes are their characters. For ASCII
content hashes, two versions of an app get the same image name or the same container name only
when their hashes are equal (`genName_injective`, for either prefix).
-/

set_option autoImplicit false

namespace OpenRun.Container

/-! ## Bits -/

/-- The value of bits, the most significant first. -/
def bitsValue (bits : List Bool) : Nat :=
  bits.foldl (fun n b => 2 * n + b.toNat) 0

/-- The low `k` bits of `n`, the most significant first. -/
def natBits : Nat → Nat → List Bool
  | 0, _ => []
  | k + 1, n => natBits k (n / 2) ++ [decide (n % 2 = 1)]

theorem bitsValue_concat (bits : List Bool) (b : Bool) :
    bitsValue (bits ++ [b]) = 2 * bitsValue bits + b.toNat := by
  simp [bitsValue]

theorem length_natBits (k n : Nat) : (natBits k n).length = k := by
  induction k generalizing n with
  | zero => rfl
  | succ k ih => simp [natBits, ih]

theorem bitsValue_natBits (k n : Nat) : bitsValue (natBits k n) = n % 2 ^ k := by
  induction k generalizing n with
  | zero => simp [natBits, bitsValue, Nat.mod_one]
  | succ k ih =>
    rw [natBits, bitsValue_concat, ih, Nat.pow_succ', Nat.mod_mul]
    by_cases odd : n % 2 = 1 <;> simp [odd] <;> omega

theorem natBits_bitsValue (bits : List Bool) : natBits bits.length (bitsValue bits) = bits := by
  induction bits using List.reverseRecOn with
  | nil => rfl
  | append_singleton bits b ih =>
    rw [List.length_append, List.length_singleton, natBits, bitsValue_concat]
    have half : (2 * bitsValue bits + b.toNat) / 2 = bitsValue bits := by
      have := Bool.toNat_le b; omega
    have parity : decide ((2 * bitsValue bits + b.toNat) % 2 = 1) = b := by
      cases b <;> simp [Nat.add_mod]
    rw [half, ih, parity]

theorem bitsValue_lt (bits : List Bool) : bitsValue bits < 2 ^ bits.length := by
  induction bits using List.reverseRecOn with
  | nil => simp [bitsValue]
  | append_singleton bits b ih =>
    rw [bitsValue_concat, List.length_append, List.length_singleton, Nat.pow_succ]
    have := Bool.toNat_le b
    omega

/-! ## Base32 -/

/-- The alphabet of `base32.StdEncoding`. -/
def base32Alphabet : List Char := "ABCDEFGHIJKLMNOPQRSTUVWXYZ234567".toList

/-- The bits of bytes, eight to a byte, the most significant first. -/
def bytesBits (bytes : List UInt8) : List Bool := bytes.flatMap fun b => natBits 8 b.toNat

/-- The bit stream cut into groups of five, the last group filled with zeros, each read as a
number below 32. -/
def quintets : List Bool → List Nat
  | [] => []
  | [a] => [bitsValue [a, false, false, false, false]]
  | [a, b] => [bitsValue [a, b, false, false, false]]
  | [a, b, c] => [bitsValue [a, b, c, false, false]]
  | [a, b, c, d] => [bitsValue [a, b, c, d, false]]
  | a :: b :: c :: d :: e :: rest => bitsValue [a, b, c, d, e] :: quintets rest

/-- `base32.StdEncoding.WithPadding(base32.NoPadding).EncodeToString`. -/
def base32Encode (bytes : List UInt8) : List Char :=
  (quintets (bytesBits bytes)).map fun v => base32Alphabet.getD v 'A'

/-- `genLowerCaseId`: the UTF-8 bytes of the name in base32, lowered. -/
def genLowerCaseId (name : String) : String :=
  ⟨(base32Encode name.toUTF8.data.toList).map Char.toLower⟩

/-- The name `GenContainerName` and `GenImageName` give a version of an app, after their
prefix. -/
def genName (pre appId contentHash : String) : String :=
  if contentHash = "" then pre ++ appId else pre ++ appId ++ "-" ++ genLowerCaseId contentHash

/-- `GenContainerName`. -/
def genContainerName (appId contentHash : String) : String := genName "clc-" appId contentHash

/-- `GenImageName`. -/
def genImageName (appId contentHash : String) : String := genName "cli-" appId contentHash

/-- Spelling the groups back into their bits gives the stream, then fewer than five zeros. -/
theorem quintets_bits (bits : List Bool) :
    (quintets bits).flatMap (natBits 5) =
      bits ++ List.replicate ((5 - bits.length % 5) % 5) false := by
  induction bits using quintets.induct with
  | case1 => rfl
  | case2 a => cases a <;> decide
  | case3 a b => cases a <;> cases b <;> decide
  | case4 a b c => cases a <;> cases b <;> cases c <;> decide
  | case5 a b c d => cases a <;> cases b <;> cases c <;> cases d <;> decide
  | case6 a b c d e rest ih =>
    have group := natBits_bitsValue [a, b, c, d, e]
    simp only [List.length_cons, List.length_nil] at group
    simp only [quintets, List.flatMap_cons, group, ih, List.length_cons]
    have : (rest.length + 1 + 1 + 1 + 1 + 1) % 5 = rest.length % 5 := by omega
    rw [this]
    rfl

theorem quintets_lt (bits : List Bool) : ∀ v ∈ quintets bits, v < 32 := by
  induction bits using quintets.induct with
  | case6 a b c d e rest ih =>
    intro v mem
    rcases List.mem_cons.mp mem with rfl | mem
    · simpa using bitsValue_lt [a, b, c, d, e]
    · exact ih v mem
  | case1 => intro v mem; cases mem
  | _ => intro v mem; exact (List.mem_singleton.mp mem) ▸ by simpa using bitsValue_lt _

theorem length_bytesBits (bytes : List UInt8) : (bytesBits bytes).length = 8 * bytes.length := by
  induction bytes with
  | nil => rfl
  | cons b bytes ih => simp [bytesBits, length_natBits] at ih ⊢; omega

theorem bytesBits_injective {bytes bytes' : List UInt8} (same : bytesBits bytes = bytesBits bytes') :
    bytes = bytes' := by
  have lengths := congrArg List.length same
  rw [length_bytesBits, length_bytesBits] at lengths
  induction bytes generalizing bytes' with
  | nil => cases bytes' with
    | nil => rfl
    | cons b bytes' => simp only [List.length_cons, List.length_nil] at lengths; omega
  | cons b bytes ih => cases bytes' with
    | nil => simp only [List.length_cons, List.length_nil] at lengths; omega
    | cons b' bytes' =>
      simp only [bytesBits, List.flatMap_cons] at same
      obtain ⟨first, rest⟩ := List.append_inj same (by simp [length_natBits])
      have value := congrArg bitsValue first
      rw [bitsValue_natBits, bitsValue_natBits,
        Nat.mod_eq_of_lt (show b.toNat < 2 ^ 8 from UInt8.toNat_lt_size b),
        Nat.mod_eq_of_lt (show b'.toNat < 2 ^ 8 from UInt8.toNat_lt_size b')] at value
      simp only [List.length_cons] at lengths
      rw [UInt8.toNat.inj value, ih rest (by omega)]

/-- The index of a character in the lowered alphabet. -/
def lowerIndex (c : Char) : Nat := "abcdefghijklmnopqrstuvwxyz234567".toList.indexOf c

/-- Every character of the alphabet lowers to the character of the same index in the lowered
alphabet. -/
theorem lowerIndex_lower : ∀ v < 32, lowerIndex (base32Alphabet.getD v 'A').toLower = v := by
  decide

/-- **Base32 is injective.** Two byte lists with the same lowered base32 encoding are equal. -/
theorem base32Encode_injective {bytes bytes' : List UInt8}
    (same : (base32Encode bytes).map Char.toLower = (base32Encode bytes').map Char.toLower) :
    bytes = bytes' := by
  have decode : ∀ bytes : List UInt8,
      ((base32Encode bytes).map Char.toLower).map lowerIndex = quintets (bytesBits bytes) := by
    intro bytes
    simp only [base32Encode, List.map_map, Function.comp_def]
    conv_rhs => rw [← List.map_id (quintets (bytesBits bytes))]
    exact List.map_congr_left fun v mem => lowerIndex_lower v (quintets_lt _ v mem)
  have groups := congrArg (fun qs => qs.flatMap (natBits 5)) (by rw [← decode, ← decode, same] :
    quintets (bytesBits bytes) = quintets (bytesBits bytes'))
  dsimp only at groups
  rw [quintets_bits, quintets_bits] at groups
  have lengths := congrArg List.length groups
  simp only [List.length_append, List.length_replicate, length_bytesBits] at lengths
  have sameLength : bytes.length = bytes'.length := by omega
  obtain ⟨bits, -⟩ := List.append_inj groups (by rw [length_bytesBits, length_bytesBits, sameLength])
  exact bytesBits_injective bits

/-! ## Names -/

/-- Text of ASCII characters, as a hex digest is. -/
def IsAscii (s : String) : Prop := ∀ c ∈ s.toList, c.toNat < 128

instance (s : String) : Decidable (IsAscii s) :=
  inferInstanceAs (Decidable (∀ c ∈ s.toList, c.toNat < 128))

theorem utf8EncodeChar_ascii {c : Char} (ascii : c.toNat < 128) :
    String.utf8EncodeChar c = [c.val.toUInt8] := by
  have small : c.val ≤ 0x7f := by
    rw [UInt32.le_def, BitVec.le_def]
    show c.toNat ≤ 127
    omega
  simp [String.utf8EncodeChar, small]

/-- The UTF-8 bytes of ASCII text are its characters. -/
theorem toUTF8_ascii {s : String} (ascii : IsAscii s) :
    s.toUTF8.data.toList = s.toList.map fun c => c.val.toUInt8 := by
  obtain ⟨cs⟩ := s
  show cs.flatMap String.utf8EncodeChar = cs.map _
  induction cs with
  | nil => rfl
  | cons c cs ih =>
    rw [List.flatMap_cons, utf8EncodeChar_ascii (ascii c (.head _)),
      ih fun d mem => ascii d (.tail _ mem)]
    rfl

/-- ASCII text is fixed by its UTF-8 bytes. -/
theorem toUTF8_ascii_injective {s s' : String} (ascii : IsAscii s) (ascii' : IsAscii s')
    (same : s.toUTF8.data.toList = s'.toUTF8.data.toList) : s = s' := by
  have codes : ∀ t : String, IsAscii t →
      (t.toUTF8.data.toList).map UInt8.toNat = t.toList.map Char.toNat := fun t ascii => by
    rw [toUTF8_ascii ascii, List.map_map]
    exact List.map_congr_left fun c mem =>
      UInt8.toNat_ofNat_of_lt (show c.toNat < 256 by have := ascii c mem; omega)
  have chars := (codes s ascii).symm.trans ((congrArg (List.map UInt8.toNat) same).trans (codes s' ascii'))
  exact String.ext (List.map_injective_iff.mpr
    (fun c d h => Char.eq_of_val_eq (UInt32.toNat.inj h)) chars)

/-- Two ASCII content hashes with the same lowered base32 encoding are equal. -/
theorem genLowerCaseId_injective {h h' : String} (ascii : IsAscii h) (ascii' : IsAscii h')
    (same : genLowerCaseId h = genLowerCaseId h') : h = h' :=
  toUTF8_ascii_injective ascii ascii' (base32Encode_injective (congrArg String.data same))

/-- **Names tell versions apart.** The name of a version after a prefix, `cli-` for its image
and `clc-` for its container: two versions of an app whose content hashes are ASCII text, as
hex digests are, get the same name only when the hashes are equal. -/
theorem genName_injective (pre appId : String) {h h' : String} (ascii : IsAscii h)
    (ascii' : IsAscii h') (same : genName pre appId h = genName pre appId h') : h = h' := by
  have longer : ∀ x, (pre ++ appId).length < (pre ++ appId ++ "-" ++ x).length := fun x => by
    have dash : "-".length = 1 := rfl
    simp only [String.length_append, dash]
    omega
  by_cases empty : h = "" <;> by_cases empty' : h' = "" <;>
    simp only [genName, empty, empty', if_true, if_false] at same
  · rw [empty, empty']
  · exact absurd (congrArg String.length same) (longer _).ne
  · exact absurd (congrArg String.length same) (longer _).ne'
  · have ids : (genLowerCaseId h).data = (genLowerCaseId h').data :=
      List.append_cancel_left (congrArg String.data same)
    exact genLowerCaseId_injective ascii ascii' (String.ext ids)

theorem genName_injective_abc :
    IsAscii "abc" ∧ genName "cli-" "app_prd_1" "abc" = genName "cli-" "app_prd_1" "abc" ∧
      "abc" = "abc" :=
  ⟨by decide, rfl, genName_injective "cli-" "app_prd_1" (by decide) (by decide) rfl⟩

/-- The image of version `abc` of app `app_prd_1`: "abc" is `MFRGG` in base32. -/
example : genImageName "app_prd_1" "abc" = "cli-app_prd_1-mfrgg" := by decide

end OpenRun.Container
