import CDecl.Constant.Eval
import CDecl.Proofs.Words

/-!
# Quotients, remainders and shifts to the right

Quotients are truncated toward zero, and remainders have the sign of the dividend.  There is one
quotient that no word shows, that of the least integer and `-1`; it wraps around to the dividend.
Quotient and remainder give back the dividend also there.  A shift to the right rounds down, by an
amount that is taken modulo the width.

`division_fits` says this of expressions.
-/

namespace CDecl

namespace Word

/-- A quotient is truncated toward zero, apart from the only one that is out of range. -/
theorem toInt_div (l r : Int64) :
    (l = Int64.minValue ∧ r = -1 ∧ l / r = Int64.minValue) ∨
      (¬(l = Int64.minValue ∧ r = -1) ∧ (l / r).toInt = l.toInt.tdiv r.toInt) := by
  by_cases hLeast : l = Int64.minValue
  · by_cases hMinusOne : r = -1
    · subst hLeast hMinusOne
      exact .inl ⟨rfl, rfl, Int64.minValue_div_neg_one⟩
    · exact .inr ⟨fun h => hMinusOne h.2, Int64.toInt_div_of_ne_right l r hMinusOne⟩
  · exact .inr ⟨fun h => hLeast h.1, Int64.toInt_div_of_ne_left l r hLeast⟩

theorem toInt_ne_zero {r : Int64} (hr : r ≠ 0) : r.toInt ≠ 0 := by
  intro hZero
  exact hr (Int64.toInt_inj.mp hZero)

/-- A remainder is smaller than the divisor. -/
theorem natAbs_mod_lt (l : Int64) {r : Int64} (hr : r ≠ 0) :
    (l % r).toInt.natAbs < r.toInt.natAbs := by
  have hPos : 0 < r.toInt.natAbs := Int.natAbs_pos.mpr (toInt_ne_zero hr)
  rw [Int64.toInt_mod, Int.natAbs_tmod]
  exact Nat.mod_lt _ hPos

/-- A remainder has the sign of the dividend, unless it is zero. -/
theorem sign_mod (l r : Int64) : l % r = 0 ∨ (l % r).toInt.sign = l.toInt.sign := by
  by_cases hDvd : r.toInt ∣ l.toInt
  · left
    rw [← Int64.toInt_inj, Int64.toInt_mod]
    exact Int.tmod_eq_zero_of_dvd hDvd
  · -- Only a dividend that is no multiple leaves a sign.
    right
    rw [Int64.toInt_mod, Int.sign_tmod, if_neg hDvd]

end Word

/-- **Division and remainder fit together.**  Let `a` and `b` have values that count as the integers
`l` and `r`.  If `r` is zero, `a / b` and `a % b` have no value.  Otherwise both have one: `a / b` is the
quotient truncated toward zero, or the least integer where that quotient is out of range; `a % b` is
smaller than `r` and zero or of the sign of `l`; and `(a / b) * b + a % b` is `l`.  For any `r`, `a >> b`
is the quotient of `l` and `2 ^ (r mod 64)`, rounded down. -/
theorem division_fits {symbols : SymbolTable} {a b : Expr} {u v : Value} {l r : Int64}
    (hLhs : a.eval symbols = some u) (hLeft : u.int? = some l)
    (hRhs : b.eval symbols = some v) (hRight : v.int? = some r) :
    (r = 0 → (Expr.binary .div a b).eval symbols = none ∧
      (Expr.binary .mod a b).eval symbols = none) ∧
    (r ≠ 0 → ∃ q m : Int64,
      (Expr.binary .div a b).eval symbols = some (.int q) ∧
      (Expr.binary .mod a b).eval symbols = some (.int m) ∧
      ((l = Int64.minValue ∧ r = -1 ∧ q = Int64.minValue) ∨
        (¬(l = Int64.minValue ∧ r = -1) ∧ q.toInt = l.toInt.tdiv r.toInt)) ∧
      m.toInt.natAbs < r.toInt.natAbs ∧ (m = 0 ∨ m.toInt.sign = l.toInt.sign) ∧
      (Expr.binary .add (.binary .mul (.paren (.binary .div a b)) b)
        (.binary .mod a b)).eval symbols = some (.int l)) ∧
    ∃ s : Int64, (Expr.binary .shiftRight a b).eval symbols = some (.int s) ∧
      s.toInt = l.toInt.fdiv (2 ^ (r.toInt % 64).toNat) := by
  have hDiv := BinaryOp.eval_of_int? .div rfl hLhs hLeft hRhs hRight
  have hMod := BinaryOp.eval_of_int? .mod rfl hLhs hLeft hRhs hRight
  have hShift := BinaryOp.eval_of_int? .shiftRight rfl hLhs hLeft hRhs hRight
  refine ⟨fun hZero => ?_, fun hNonzero => ?_, l >>> r, hShift, ?_⟩
  · simp only [BinaryOp.onInts, if_pos hZero, Option.map_none] at hDiv hMod
    exact ⟨hDiv, hMod⟩
  · -- The parts of `(a / b) * b + a % b` have integer values again, so they are put together on words.
    simp only [BinaryOp.onInts, if_neg hNonzero, Option.map_some] at hDiv hMod
    refine ⟨l / r, l % r, hDiv, hMod, Word.toInt_div l r, Word.natAbs_mod_lt l hNonzero,
      Word.sign_mod l r, ?_⟩
    have hMul : (Expr.binary .mul (.paren (.binary .div a b)) b).eval symbols =
        some (.int (l / r * r)) :=
      BinaryOp.eval_of_int? .mul rfl hDiv rfl hRhs hRight
    have hAdd := BinaryOp.eval_of_int? .add rfl hMul rfl hMod rfl
    rw [hAdd, BinaryOp.onInts, Word.div_mul_add_mod, Option.map_some]
  · rw [Word.toInt_shiftRight, Word.places]
    exact (Int.fdiv_eq_ediv_of_nonneg _ (Int.pow_nonneg (by decide))).symm

/-- The least integer for `x`. -/
def SymbolTable.least : SymbolTable := Table.empty.insert "x" (some (.int Int64.minValue))

/-- The quotient `x / -1` of the least integer wraps around, and `x % -1` is zero.  The amount of the
shift `x >> -1` is 63. -/
theorem least_division_fits :
    let x := Expr.ident "x"
    let minusOne := Expr.unary .minus (.int 1)
    x.eval .least = some (.int Int64.minValue) ∧ minusOne.eval .least = some (.int (-1)) ∧
    (-1 : Int64) ≠ 0 ∧
    (Expr.binary .div x minusOne).eval .least = some (.int Int64.minValue) ∧
    (Expr.binary .mod x minusOne).eval .least = some (.int 0) ∧
    (Expr.binary .add (.binary .mul (.paren (.binary .div x minusOne)) minusOne)
      (.binary .mod x minusOne)).eval .least = some (.int Int64.minValue) ∧
    (Expr.binary .shiftRight x minusOne).eval .least = some (.int (-1)) := by
  intro x minusOne
  have hLhs : x.eval .least = some (.int Int64.minValue) := by cbv
  have hRhs : minusOne.eval .least = some (.int (-1)) := by cbv
  have hNonzero : (-1 : Int64) ≠ 0 := by decide
  obtain ⟨-, hFits, s, hShift, hFloor⟩ := division_fits hLhs rfl hRhs rfl
  obtain ⟨q, m, hDiv, hMod, hQuotient, hSmall, -, hBack⟩ := hFits hNonzero
  obtain rfl : q = Int64.minValue := by
    obtain ⟨-, -, hWrapped⟩ | ⟨hInRange, -⟩ := hQuotient
    · exact hWrapped
    · exact absurd ⟨rfl, rfl⟩ hInRange
  obtain rfl : m = 0 := by
    have hZero : m.toInt = 0 := Int.natAbs_eq_zero.mp (Nat.lt_one_iff.mp hSmall)
    exact Int64.toInt_inj.mp hZero
  obtain rfl : s = -1 := Int64.toInt_inj.mp (hFloor.trans (by decide))
  exact ⟨hLhs, hRhs, hNonzero, hDiv, hMod, hBack, hShift⟩

end CDecl
