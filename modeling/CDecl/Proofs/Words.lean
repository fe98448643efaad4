import Mathlib

/-!
# Words and the integers that wrap to them

A word of 64 bits stands for all integers with its remainder modulo `2 ^ 64`; `Int64.ofInt` takes an
integer to its word.  The operators on words that are computed bit by bit from below (sums, products,
bit operators, shifts to the left) take the words of integers to the word of the result.  Quotients and
shifts to the right do not, but they have their usual meaning on the integers that are shown.
-/

namespace CDecl

namespace Word

theorem toInt_ofInt_modEq (n : Int) : (Int64.ofInt n).toInt ≡ n [ZMOD 2 ^ 64] := by
  rw [Int64.toInt_ofInt]
  exact Int.bmod_emod

/-- The word of an integer is the only one with the remainder of the integer. -/
theorem eq_ofInt_iff {w : Int64} {n : Int} : w = Int64.ofInt n ↔ w.toInt ≡ n [ZMOD 2 ^ 64] := by
  constructor
  · rintro rfl
    exact toInt_ofInt_modEq n
  · intro hMod
    have hRemainder : w.toInt % (Int64.size : Nat) = n % (Int64.size : Nat) := hMod
    rw [← Int64.toInt_inj, Int64.toInt_ofInt, ← Int64.toInt_bmod_size w, ← Int.emod_bmod w.toInt,
      hRemainder, Int.emod_bmod]

/-! ### Bit operators -/

/-- The bits of a word are the low bits of the integer, in two's complement. -/
theorem getLsbD_ofInt (n : Int) {i : Nat} (hi : i < 64) :
    (Int64.ofInt n).toBitVec.getLsbD i = n.testBit i := by
  rw [Int64.toBitVec_ofInt]
  cases n with
  | ofNat m =>
      rw [Int.ofNat_eq_natCast, BitVec.ofInt_natCast, BitVec.getLsbD_ofNat, decide_eq_true hi,
        Bool.true_and]
      rfl
  | negSucc m =>
      rw [BitVec.ofInt_negSucc_eq_not_ofNat, BitVec.getLsbD_not, BitVec.getLsbD_ofNat,
        decide_eq_true hi, Bool.true_and, Bool.true_and]
      rfl

theorem ofInt_eq_of_bits {w : Int64} {n : Int}
    (hBits : ∀ i < 64, w.toBitVec.getLsbD i = n.testBit i) : Int64.ofInt n = w := by
  rw [← Int64.toBitVec_inj]
  apply BitVec.eq_of_getLsbD_eq
  intro i hi
  rw [getLsbD_ofInt n hi, hBits i hi]

/-- An operator that works on each bit by itself fits wrapping around. -/
theorem ofInt_bitwise {f : Bool → Bool → Bool} {op : Int64 → Int64 → Int64}
    (hOp : ∀ l r : Int64, ∀ i < 64, (op l r).toBitVec.getLsbD i =
      f (l.toBitVec.getLsbD i) (r.toBitVec.getLsbD i)) (m n : Int) :
    Int64.ofInt (Int.bitwise f m n) = op (Int64.ofInt m) (Int64.ofInt n) := by
  apply ofInt_eq_of_bits
  intro i hi
  rw [hOp _ _ i hi, getLsbD_ofInt m hi, getLsbD_ofInt n hi, Int.testBit_bitwise]

theorem ofInt_land (m n : Int) : Int64.ofInt (m.land n) = Int64.ofInt m &&& Int64.ofInt n := by
  rw [← Int.bitwise_and]
  exact ofInt_bitwise (by simp) m n

theorem ofInt_lor (m n : Int) : Int64.ofInt (m.lor n) = Int64.ofInt m ||| Int64.ofInt n := by
  rw [← Int.bitwise_or]
  exact ofInt_bitwise (by simp) m n

theorem ofInt_xor (m n : Int) : Int64.ofInt (m.xor n) = Int64.ofInt m ^^^ Int64.ofInt n := by
  rw [← Int.bitwise_xor]
  exact ofInt_bitwise (by simp) m n

theorem ofInt_lnot (n : Int) : Int64.ofInt n.lnot = ~~~Int64.ofInt n := by
  apply ofInt_eq_of_bits
  intro i hi
  rw [Int64.toBitVec_not, BitVec.getLsbD_not, getLsbD_ofInt n hi, Int.testBit_lnot,
    decide_eq_true hi, Bool.true_and]

/-! ### Shifts -/

/-- By how many places a word shifts another one: its remainder modulo the width, also where it is
negative. -/
def places (r : Int64) : Nat := (r.toInt % 64).toNat

/-- The amount of a shift, as the shifts of bit vectors take it. -/
theorem toNat_smod (r : Int64) : (r.toBitVec.smod 64).toNat = places r := by
  have hInt : (r.toBitVec.smod 64).toInt = r.toInt % 64 := by
    rw [BitVec.toInt_smod, Int64.toInt_toBitVec]
    exact Int.fmod_eq_emod_of_nonneg _ (by decide)
  have hNonneg : 0 ≤ r.toInt % 64 := Int.emod_nonneg _ (by decide)
  have hLt : r.toInt % 64 < 64 := Int.emod_lt_of_pos _ (by decide)
  -- The remainder is too small to have the sign bit, so it is shown without a sign.
  have hCond := BitVec.toInt_eq_toNat_cond (r.toBitVec.smod 64)
  unfold places
  split at hCond <;> omega

/-- The remainder modulo the width is not touched by wrapping around. -/
theorem places_ofInt (n : Int) : places (Int64.ofInt n) = (n % 64).toNat := by
  -- The width of a word divides what a word wraps at.
  have hDvd : (64 : Int) ∣ 2 ^ 64 := by decide
  have hMod : (Int64.ofInt n).toInt % 64 = n % 64 := (toInt_ofInt_modEq n).of_dvd hDvd
  rw [places, hMod]

/-- A shift to the left is a product. -/
theorem shiftLeft_eq_mul (l r : Int64) : l <<< r = l * Int64.ofInt (2 ^ places r) := by
  have hPower : BitVec.twoPow 64 (places r) = BitVec.ofInt 64 (2 ^ places r) := by
    rw [← BitVec.toNat_inj, BitVec.toNat_twoPow, BitVec.toNat_ofInt]
    norm_cast
  rw [← Int64.toBitVec_inj, Int64.toBitVec_shiftLeft, Int64.toBitVec_mul, Int64.toBitVec_ofInt,
    BitVec.shiftLeft_eq', toNat_smod, BitVec.shiftLeft_eq_mul_twoPow, hPower]

theorem ofInt_shiftLeft (m n : Int) :
    Int64.ofInt (m * 2 ^ (n % 64).toNat) = Int64.ofInt m <<< Int64.ofInt n := by
  rw [shiftLeft_eq_mul, places_ofInt, Int64.ofInt_mul]

/-- A shift to the right divides, and what is shown is rounded down. -/
theorem toInt_shiftRight (l r : Int64) : (l >>> r).toInt = l.toInt / 2 ^ places r := by
  rw [← Int64.toInt_toBitVec, Int64.toBitVec_shiftRight, BitVec.sshiftRight',
    BitVec.toInt_sshiftRight, toNat_smod, Int.shiftRight_eq_div_pow, Int64.toInt_toBitVec]
  norm_cast

/-! ### Quotients and remainders -/

theorem div_eq_ofInt (l r : Int64) : l / r = Int64.ofInt (l.toInt.tdiv r.toInt) := by
  rw [← Int64.toInt_inj, Int64.toInt_div, Int64.toInt_ofInt]

theorem mod_eq_ofInt (l r : Int64) : l % r = Int64.ofInt (l.toInt.tmod r.toInt) := by
  rw [← Int64.toInt_mod, Int64.ofInt_toInt]

/-- Quotient and remainder give back the dividend, also where the quotient wraps around. -/
theorem div_mul_add_mod (l r : Int64) : l / r * r + l % r = l := by
  calc l / r * r + l % r
      = Int64.ofInt (l.toInt.tdiv r.toInt) * Int64.ofInt r.toInt +
          Int64.ofInt (l.toInt.tmod r.toInt) := by
        rw [div_eq_ofInt, mod_eq_ofInt, Int64.ofInt_toInt]
    _ = Int64.ofInt (l.toInt.tdiv r.toInt * r.toInt + l.toInt.tmod r.toInt) := by
        rw [Int64.ofInt_add, Int64.ofInt_mul]
    _ = l := by rw [Int.tdiv_mul_add_tmod, Int64.ofInt_toInt]

end Word

end CDecl
