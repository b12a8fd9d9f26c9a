import Mathlib.Data.Nat.Log
import Mathlib.Data.Rat.Defs
import Mathlib.Tactic.NormNum
import Mathlib.Tactic.Ring

set_option relaxedAutoImplicit false
set_option autoImplicit false

/-!
# Double precision numbers

The bits of IEEE 754 binary64 numbers, as far as they take part in exact comparisons with
integers and in conversions from integers.

## Main definitions

* `Binary64.isFinite`, `Binary64.value` — which bits are numbers, and the number they are.
* `Binary64.ofInt` — the conversion of an integer, rounding half to even; an integer that rounds
  to more than the greatest number has none.

## Main results

* `Binary64.ofInt_eq_none_iff` — the integers that cannot be converted.
* `Binary64.isFinite_of_ofInt` — what an integer is converted to is finite.
-/

namespace Binary64

/-- The exponent field. -/
def exponent (bits : BitVec 64) : ℕ := bits.toNat / 2 ^ 52 % 2 ^ 11

/-- The fraction field. -/
def fraction (bits : BitVec 64) : ℕ := bits.toNat % 2 ^ 52

/-- The number is neither infinite nor NaN. -/
def isFinite (bits : BitVec 64) : Bool := bits.extractLsb' 52 11 != 0x7ff#11

/-- The number that finite bits are. -/
def value (bits : BitVec 64) : ℚ :=
  let magnitude : ℚ :=
    if exponent bits = 0 then fraction bits * 2 ^ (-1074 : ℤ)
    else (2 ^ 52 + fraction bits) * 2 ^ ((exponent bits : ℤ) - 1075)
  if bits.msb then -magnitude else magnitude

/-! ### Conversion of integers -/

/-- The number of bits of a positive number. -/
def bitLength (m : ℕ) : ℕ := m.log2 + 1

/-- A positive number in units of the last place, rounded half to even to 53 bits. -/
def significand (m : ℕ) : ℕ :=
  if bitLength m ≤ 53 then m * 2 ^ (53 - bitLength m)
  else
    let unit := 2 ^ (bitLength m - 53)
    if unit < 2 * (m % unit) ∨ 2 * (m % unit) = unit ∧ m / unit % 2 = 1 then m / unit + 1
    else m / unit

/-- The bits of a number without its sign. A significand that is rounded up to the next power of
two carries into the exponent. -/
def magnitude (m : ℕ) : ℕ :=
  if m = 0 then 0 else (bitLength m + 1022) * 2 ^ 52 + (significand m - 2 ^ 52)

/-- The bits of an integer, unless it is out of range. -/
def ofInt (n : ℤ) : Option (BitVec 64) :=
  if magnitude n.natAbs < 2047 * 2 ^ 52 then
    some (BitVec.ofNat 64 ((if n < 0 then 2 ^ 63 else 0) + magnitude n.natAbs))
  else none

/-- A number has as many bits as its bit length says. -/
lemma bitLength_bounds {m : ℕ} (h : m ≠ 0) :
    2 ^ (bitLength m - 1) ≤ m ∧ m < 2 ^ bitLength m :=
  ⟨Nat.log2_self_le h, Nat.lt_log2_self⟩

/-- What is left of a number that has more than 53 bits has 53 bits. -/
lemma quotient_bounds {m : ℕ} (h : m ≠ 0) (hlong : 53 < bitLength m) :
    2 ^ 52 ≤ m / 2 ^ (bitLength m - 53) ∧ m / 2 ^ (bitLength m - 53) < 2 ^ 53 := by
  obtain ⟨hlower, hupper⟩ := bitLength_bounds h
  have hpos : 0 < 2 ^ (bitLength m - 53) := Nat.two_pow_pos _
  constructor
  · rw [Nat.le_div_iff_mul_le hpos, ← pow_add]
    rwa [show 52 + (bitLength m - 53) = bitLength m - 1 by omega]
  · rw [Nat.div_lt_iff_lt_mul hpos, ← pow_add]
    rwa [show 53 + (bitLength m - 53) = bitLength m by omega]

/-- A significand has 53 bits, unless it is rounded up to the next power of two. -/
lemma significand_bounds {m : ℕ} (h : m ≠ 0) :
    2 ^ 52 ≤ significand m ∧ significand m ≤ 2 ^ 53 := by
  unfold significand
  by_cases hshort : bitLength m ≤ 53
  · rw [if_pos hshort]
    obtain ⟨hlower, hupper⟩ := bitLength_bounds h
    have hone : 1 ≤ bitLength m := Nat.succ_le_succ (Nat.zero_le _)
    have hpos : 0 < 2 ^ (53 - bitLength m) := Nat.two_pow_pos _
    constructor
    · calc 2 ^ 52 = 2 ^ (bitLength m - 1) * 2 ^ (53 - bitLength m) := by
            rw [← pow_add, show bitLength m - 1 + (53 - bitLength m) = 52 by omega]
        _ ≤ m * 2 ^ (53 - bitLength m) := Nat.mul_le_mul_right _ hlower
    · calc m * 2 ^ (53 - bitLength m) ≤ 2 ^ bitLength m * 2 ^ (53 - bitLength m) :=
            Nat.mul_le_mul_right _ hupper.le
        _ = 2 ^ 53 := by rw [← pow_add, show bitLength m + (53 - bitLength m) = 53 by omega]
  · rw [if_neg hshort]
    have hq := quotient_bounds h (by omega)
    dsimp only
    split <;> omega

/-- A quotient of 53 bits is rounded up to the next power of two when it is the greatest one and
the remainder is at least half of the unit. -/
lemma rounds_up_iff {q r u : ℕ} (hq : q < 2 ^ 53) (hr : r < 2 * u) :
    (if 2 * u < 2 * r ∨ 2 * r = 2 * u ∧ q % 2 = 1 then q + 1 else q) = 2 ^ 53 ↔
      2 ^ 53 * (2 * u) - u ≤ 2 * u * q + r := by
  by_cases htop : q = 2 ^ 53 - 1
  · subst htop
    split <;> omega
  · have hle : 2 * u * (q + 1) ≤ 2 * u * (2 ^ 53 - 1) := Nat.mul_le_mul_left _ (by omega)
    rw [Nat.mul_add, Nat.mul_one] at hle
    split <;> omega

/-- Among the numbers of 1024 bits, those from halfway between the greatest double and the next
power of two on are rounded up to that power. -/
lemma significand_top {m : ℕ} (h : m ≠ 0) (hlength : bitLength m = 1024) :
    significand m = 2 ^ 53 ↔ 2 ^ 1024 - 2 ^ 970 ≤ m := by
  have hq := quotient_bounds h (by omega)
  have hunit : (2 : ℕ) ^ 971 = 2 * 2 ^ 970 := by rw [← pow_succ']
  have htop : (2 : ℕ) ^ 1024 = 2 ^ 53 * (2 * 2 ^ 970) := by rw [← hunit, ← pow_add]
  have hmod : m % 2 ^ 971 < 2 ^ 971 := Nat.mod_lt m (pow_pos Nat.two_pos 971)
  have hdiv : 2 ^ 971 * (m / 2 ^ 971) + m % 2 ^ 971 = m := Nat.div_add_mod m _
  rw [hlength, show 1024 - 53 = 971 from rfl] at hq
  rw [hunit] at hq hmod hdiv
  unfold significand
  rw [hlength, if_neg (by omega), show 1024 - 53 = 971 from rfl, htop, hunit]
  refine (rounds_up_iff hq.2 hmod).trans ?_
  rw [hdiv]

/-- The integers that have bits are less than halfway between the greatest double and the next
power of two.

**Proof sketch.** With fewer than 1024 bits, the exponent is too small to overflow even when the
significand carries; with more, it is too great. With 1024 bits exactly the carry decides. -/
lemma magnitude_lt_iff {m : ℕ} : magnitude m < 2047 * 2 ^ 52 ↔ m < 2 ^ 1024 - 2 ^ 970 := by
  have htop : (2 : ℕ) ^ 1024 = 2 ^ 54 * 2 ^ 970 := by rw [← pow_add]
  have hhalf : (2 : ℕ) ^ 1023 = 2 ^ 53 * 2 ^ 970 := by rw [← pow_add]
  have hpos : 0 < (2 : ℕ) ^ 970 := pow_pos Nat.two_pos 970
  by_cases h : m = 0
  · rw [h, magnitude, if_pos rfl, htop]
    generalize (2 : ℕ) ^ 970 = u at *
    omega
  · rw [magnitude, if_neg h]
    have hsig := significand_bounds h
    have hm := bitLength_bounds h
    rcases Nat.lt_trichotomy (bitLength m) 1024 with hlt | heq | hgt
    · have hle : m < 2 ^ 1023 := hm.2.trans_le (pow_le_pow_right₀ one_le_two (by omega))
      refine iff_of_true (by omega) ?_
      rw [hhalf] at hle
      rw [htop]
      generalize (2 : ℕ) ^ 970 = u at *
      omega
    · have hcarry := significand_top h heq
      rw [heq, ← not_le, ← not_le, ← hcarry]
      omega
    · have hge : 2 ^ 1024 ≤ m := (pow_le_pow_right₀ one_le_two (by omega)).trans hm.1
      refine iff_of_false (by omega) ?_
      generalize (2 : ℕ) ^ 970 = u at *
      omega

/-- **The integers out of range**: an integer has no bits exactly from halfway between the greatest
double and the next power of two on. -/
theorem ofInt_eq_none_iff {n : ℤ} : ofInt n = none ↔ 2 ^ 1024 - 2 ^ 970 ≤ n.natAbs := by
  rw [← not_lt, ← magnitude_lt_iff, ofInt]
  split <;> simp_all

/-- What an integer is converted to is finite. -/
theorem isFinite_of_ofInt {n : ℤ} {bits : BitVec 64} (h : ofInt n = some bits) :
    isFinite bits = true := by
  unfold ofInt at h
  split at h
  · next hlt =>
    cases h
    rw [isFinite, bne_iff_ne, ne_eq, ← BitVec.toNat_inj]
    simp only [BitVec.extractLsb'_toNat, BitVec.toNat_ofNat, Nat.shiftRight_eq_div_pow]
    split <;> omega
  · cases h

end Binary64
