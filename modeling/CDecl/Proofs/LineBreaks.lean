import CDecl.Model.Outline
import CDecl.Proofs.Parts

/-!
# Texts on one line

What is written of values never has a line break: numbers have none, and in quoted texts it is escaped
(`Value.oneLine_text`).  A type is written on one line if the names in it and the texts of its bounds are
on one line, and so is the whole line of an entity (`Entity.oneLine_headline`).
-/

namespace CDecl

/-- Whether a text has no line break. -/
def OneLine (s : String) : Prop := '\n' ∉ s.toList

instance (s : String) : Decidable (OneLine s) := inferInstanceAs (Decidable ('\n' ∉ s.toList))

namespace OneLine

@[simp] theorem append_iff {s t : String} : OneLine (s ++ t) ↔ OneLine s ∧ OneLine t := by
  simp [OneLine]

@[simp] theorem ofList_iff {cs : List Char} : OneLine (String.ofList cs) ↔ '\n' ∉ cs := by
  simp [OneLine]

theorem join {texts : List String} (h : ∀ s ∈ texts, OneLine s) : OneLine (String.join texts) := by
  induction texts with
  | nil => decide
  | cons s rest ih =>
      rw [String.join_cons, append_iff]
      exact ⟨h s (.head _), ih fun t hMem => h t (.tail _ hMem)⟩

theorem intercalate {separator : String} (hSeparator : OneLine separator) :
    ∀ {texts : List String}, (∀ s ∈ texts, OneLine s) → OneLine (separator.intercalate texts)
  | [], _ => by
      rw [String.intercalate_nil]
      decide
  | [s], h => by
      rw [String.intercalate_singleton]
      exact h s (.head _)
  | s :: t :: rest, h => by
      have hRest := intercalate hSeparator fun u hMem => h u (.tail s hMem)
      rw [String.intercalate_cons_cons, append_iff, append_iff]
      exact ⟨⟨h s (.head _), hSeparator⟩, hRest⟩

end OneLine

/-! ### Numbers -/

theorem newline_notMem_toDigits {base : Nat} (hBase : 1 < base) (n : Nat) :
    '\n' ∉ Nat.toDigits base n := by
  induction n using Nat.strongRecOn with
  | ind n ih =>
      rw [Nat.toDigits_eq_if hBase]
      split
      · simp
      · next hLarge =>
          have hLess : n / base < n := Nat.div_lt_self (by omega) hBase
          simp [ih (n / base) hLess]

theorem oneLine_repr (n : Nat) : OneLine n.repr := by
  rw [OneLine, Nat.toList_repr]
  exact newline_notMem_toDigits (by decide) n

theorem oneLine_toString (n : Int) : OneLine (toString n) := by
  rw [Int.toString_eq_repr, Int.repr_eq_if]
  split
  · exact oneLine_repr _
  · exact OneLine.append_iff.mpr ⟨by decide, oneLine_repr _⟩

namespace Decimal

theorem newline_notMem_dropTrailingZeros {digits : List Char} (h : '\n' ∉ digits) :
    '\n' ∉ dropTrailingZeros digits := by
  intro hMem
  have hKept := List.dropWhile_subset _ (List.mem_reverse.mp hMem)
  exact h (List.mem_reverse.mp hKept)

/-- The digits of the shortest decimal are digits of a whole number. -/
theorem newline_notMem_shortest (b : Binary) (tie : Tie) : '\n' ∉ (shortest b tie).digits := by
  unfold shortest
  dsimp only
  generalize hFound : List.findSome? _ _ = found
  cases found with
  | none => simp
  | some d =>
      obtain ⟨extra, -, hDigits⟩ := List.exists_of_findSome?_eq_some hFound
      obtain ⟨n, -, rfl⟩ := Option.map_eq_some_iff.mp hDigits
      exact newline_notMem_dropTrailingZeros (newline_notMem_toDigits (by decide) n)

theorem oneLine_positional {d : Digits} (h : '\n' ∉ d.digits) : OneLine (positional d) := by
  have hZeros : ∀ n, '\n' ∉ List.replicate n '0' := by simp
  have hTake : ∀ n, '\n' ∉ d.digits.take n := fun n hMem => h (List.take_subset n _ hMem)
  have hDrop : ∀ n, '\n' ∉ d.digits.drop n := fun n hMem => h (List.drop_subset n _ hMem)
  unfold positional
  dsimp only
  split_ifs
  · simp only [OneLine.append_iff, OneLine.ofList_iff, List.mem_append, not_or]
    exact ⟨by decide, hZeros _, h⟩
  · simp only [OneLine.append_iff, OneLine.ofList_iff, List.mem_append, not_or]
    exact ⟨⟨h, hZeros _⟩, by decide⟩
  · simp only [OneLine.append_iff, OneLine.ofList_iff]
    exact ⟨⟨hTake _, by decide⟩, hDrop _⟩

theorem oneLine_scientific (plusSign : Bool) {d : Digits} (h : '\n' ∉ d.digits) :
    OneLine (scientific plusSign d) := by
  have hTake : '\n' ∉ d.digits.take 1 := fun hMem => h (List.take_subset 1 _ hMem)
  have hDrop : '\n' ∉ d.digits.drop 1 := fun hMem => h (List.drop_subset 1 _ hMem)
  have hFraction : OneLine (if (d.digits.drop 1).isEmpty then ""
      else "." ++ String.ofList (d.digits.drop 1)) := by
    split
    · decide
    · exact OneLine.append_iff.mpr ⟨by decide, OneLine.ofList_iff.mpr hDrop⟩
  have hPower : OneLine (if plusSign && d.leading ≥ 0 then "e+" else "e") := by
    split <;> decide
  unfold scientific
  simp only [OneLine.append_iff]
  exact ⟨⟨⟨OneLine.ofList_iff.mpr hTake, hFraction⟩, hPower⟩, oneLine_toString _⟩

theorem oneLine_digits (f : Format) {d : Digits} (h : '\n' ∉ d.digits) : OneLine (f.digits d) := by
  unfold Format.digits
  split
  · exact oneLine_positional h
  · exact oneLine_scientific _ h

theorem oneLine_text (f : Format) (x : Float) : OneLine (f.text x) := by
  have hSign : OneLine (if x.toBits >>> 63 == 1 then "-" else "") := by
    split <;> decide
  have hMagnitude : OneLine (if (Binary.ofBits x.toBits).mantissa = 0 then "0.0"
      else f.digits (shortest (Binary.ofBits x.toBits) f.tie)) := by
    split
    · decide
    · exact oneLine_digits f (newline_notMem_shortest _ _)
  unfold Format.text
  dsimp only
  by_cases hNaN : x.isNaN
  · rw [if_pos hNaN]
    decide
  · rw [if_neg hNaN]
    by_cases hInf : x.isInf
    · rw [if_pos hInf]
      exact OneLine.append_iff.mpr ⟨hSign, by decide⟩
    · rw [if_neg hInf]
      exact OneLine.append_iff.mpr ⟨hSign, hMagnitude⟩

end Decimal

/-! ### Quoted texts -/

namespace Text

/-- A line break is escaped. -/
theorem oneLine_escape {quote : Char} (hQuote : quote ≠ '\n') (c : Char) :
    OneLine (escape quote c) := by
  unfold escape
  split_ifs with hSelf _ _ _ hBreak
  · -- The character stands for itself behind a backslash, and is no line break.
    rw [OneLine.ofList_iff]
    rcases hSelf with rfl | rfl
    · simpa using hQuote.symm
    · decide
  · decide
  · decide
  · decide
  · decide
  · rw [OneLine, String.toList_singleton, List.mem_singleton]
    exact fun h => hBreak h.symm
  · unfold codePointEscape
    simp only [OneLine.append_iff, OneLine.ofList_iff]
    exact ⟨⟨by decide, newline_notMem_toDigits (by decide) _⟩, by decide⟩

theorem oneLine_quoteChar (c : Char) : OneLine (quoteChar c) := by
  simp only [quoteChar, OneLine.append_iff]
  exact ⟨⟨by decide, oneLine_escape (by decide) c⟩, by decide⟩

theorem oneLine_quoteString (s : String) : OneLine (quoteString s) := by
  have hEscaped : ∀ t ∈ s.toList.map (escape '"'), OneLine t := by
    intro t hMem
    obtain ⟨c, -, rfl⟩ := List.mem_map.mp hMem
    exact oneLine_escape (by decide) c
  simp only [quoteString, OneLine.append_iff]
  exact ⟨⟨by decide, .join hEscaped⟩, by decide⟩

end Text

/-- A value is written on one line, also if it is a text with line breaks. -/
theorem Value.oneLine_text (v : Value) : OneLine v.text := by
  cases v with
  | int n => exact oneLine_toString n.toInt
  | float x => exact Decimal.oneLine_text floatFormat x
  | char c => exact Text.oneLine_quoteChar c
  | str s => exact Text.oneLine_quoteString s

/-! ### Types and entities -/

/-- The names and texts that an entity has of its own are on one line each. -/
structure Entity.OnOneLine (e : Entity) : Prop where
  name : OneLine e.name
  typedefName : ∀ s, e.type = .scalar s → ∀ name, s.base = some (.named name) → OneLine name
  tag : ∀ a, e.type = .aggregate a → ∀ tag, a.tag = some tag → OneLine tag
  bound : ∀ bound, .symbolic bound ∈ e.arrays → OneLine bound
  expression : ∀ expression, e.expression = some expression → OneLine expression

theorem Scalar.oneLine_text {s : Scalar} (hName : ∀ name, s.base = some (.named name) → OneLine name) :
    OneLine s.text := by
  have hBase : ∀ word ∈ (s.base.map BaseType.text).toList, OneLine word := by
    intro word hMem
    obtain ⟨base, hBase, rfl⟩ := Option.map_eq_some_iff.mp (Option.mem_toList.mp hMem)
    cases base with
    | named name => exact hName name hBase
    | _ => decide
  have hWord : ∀ (flag : Bool) (keyword : String), OneLine keyword →
      ∀ word ∈ (if flag then [keyword] else []), OneLine word := by
    intro flag keyword hKeyword word hMem
    cases flag with
    | false => simp at hMem
    | true => exact List.mem_singleton.mp hMem ▸ hKeyword
  have hWords : ∀ word ∈ s.words, OneLine word := by
    simp only [words, List.forall_mem_append]
    exact ⟨⟨⟨⟨hWord _ _ (by decide), hWord _ _ (by decide)⟩, hWord _ _ (by decide)⟩,
      hWord _ _ (by decide)⟩, hBase⟩
  unfold text
  split
  · decide
  · exact .intercalate (by decide) hWords

theorem Aggregate.oneLine_text {a : Aggregate} (hTag : ∀ tag, a.tag = some tag → OneLine tag) :
    OneLine a.text := by
  have hKeyword : OneLine a.keyword := by
    unfold keyword
    split <;> decide
  unfold text
  split
  · next tag hSome =>
      simp only [OneLine.append_iff]
      exact ⟨⟨hKeyword, by decide⟩, hTag tag hSome⟩
  · exact OneLine.append_iff.mpr ⟨hKeyword, by decide⟩

theorem Dimension.oneLine_text {d : Dimension} (hBound : ∀ bound, d = .symbolic bound → OneLine bound) :
    OneLine d.text := by
  cases d with
  | known size => exact oneLine_repr size.toNat
  | symbolic bound => exact hBound bound rfl
  | unsized => decide

theorem oneLine_modifiedText {base : String} (hBase : OneLine base) (isFunction : Bool)
    (pointers : UInt32) {arrays : List Dimension} (hArrays : ∀ d ∈ arrays, OneLine d.text) :
    OneLine (modifiedText base isFunction pointers arrays) := by
  have hInner : OneLine (if isFunction && (pointers > 0 || !arrays.isEmpty) then "(" ++ base ++ ")"
      else base) := by
    split
    · simp only [OneLine.append_iff]
      exact ⟨⟨by decide, hBase⟩, by decide⟩
    · exact hBase
  have hStars : OneLine (if pointers > 0 then
      " " ++ String.ofList (List.replicate pointers.toNat '*') else "") := by
    split
    · simp only [OneLine.append_iff, OneLine.ofList_iff]
      exact ⟨by decide, by simp⟩
    · decide
  have hGap : OneLine (if !arrays.isEmpty && pointers == 0 then " " else "") := by
    split <;> decide
  have hDimensions : ∀ text ∈ arrays.map (fun d => "[" ++ d.text ++ "]"), OneLine text := by
    intro text hMem
    obtain ⟨d, hDimension, rfl⟩ := List.mem_map.mp hMem
    simp only [OneLine.append_iff]
    exact ⟨⟨by decide, hArrays d hDimension⟩, by decide⟩
  unfold modifiedText
  simp only [OneLine.append_iff]
  exact ⟨⟨⟨hInner, hStars⟩, hGap⟩, .join hDimensions⟩

/-! A type also shows the types of parameters and of what a function returns, but never members. -/

mutual

theorem Entity.oneLine_typeText (role : Role) : ∀ e : Entity,
    (∀ part ∈ e.parts role, part.2.OnOneLine) → OneLine e.typeText
  | ⟨name, .scalar s, pointers, arrays, span, storage, value, expression⟩, hParts => by
      have hSelf := hParts _ (.head _)
      rw [Entity.typeText_eq]
      refine oneLine_modifiedText ?_ _ _ fun d hMem => ?_
      · exact Scalar.oneLine_text (hSelf.typedefName s rfl)
      · exact Dimension.oneLine_text fun bound hBound => hSelf.bound bound (hBound ▸ hMem)
  | ⟨name, .aggregate a, pointers, arrays, span, storage, value, expression⟩, hParts => by
      have hSelf := hParts _ (.head _)
      rw [Entity.typeText_eq]
      refine oneLine_modifiedText ?_ _ _ fun d hMem => ?_
      · exact Aggregate.oneLine_text (hSelf.tag a rfl)
      · exact Dimension.oneLine_text fun bound hBound => hSelf.bound bound (hBound ▸ hMem)
  | ⟨name, .function ⟨returns, params, variadic⟩, pointers, arrays, span, storage, value,
      expression⟩, hParts => by
      have hSelf := hParts _ (.head _)
      have hInside : ∀ part ∈ returns.parts .result ++ Entity.partsOfAll .parameter params,
          part.2.OnOneLine := fun part hMem => hParts part (.tail _ hMem)
      rw [List.forall_mem_append] at hInside
      have hReturns := Entity.oneLine_typeText .result returns hInside.1
      have hParams := Entity.oneLine_parameterTexts .parameter params hInside.2
      have hEllipsis : ∀ text ∈ (if variadic then ["..."] else []), OneLine text := by
        cases variadic <;> simp [OneLine]
      have hList : ∀ text ∈ Entity.parameterTexts params ++ (if variadic then ["..."] else []),
          OneLine text := List.forall_mem_append.mpr ⟨hParams, hEllipsis⟩
      rw [Entity.typeText_eq]
      refine oneLine_modifiedText ?_ _ _ fun d hMem => ?_
      · show OneLine ("fn(" ++ _ ++ ") -> " ++ returns.typeText)
        simp only [OneLine.append_iff]
        exact ⟨⟨⟨by decide, .intercalate (by decide) hList⟩, by decide⟩, hReturns⟩
      · exact Dimension.oneLine_text fun bound hBound => hSelf.bound bound (hBound ▸ hMem)

theorem Entity.oneLine_parameterTexts (role : Role) : ∀ params : List Entity,
    (∀ part ∈ Entity.partsOfAll role params, part.2.OnOneLine) →
    ∀ text ∈ Entity.parameterTexts params, OneLine text
  | [], _ => by simp [Entity.parameterTexts]
  | p :: rest, hParts => by
      rw [Entity.partsOfAll, List.forall_mem_append] at hParts
      have hType := Entity.oneLine_typeText role p hParts.1
      have hName : OneLine p.name := (hParts.1 (role, p) (by simp [Entity.parts_eq])).name
      have hRest := Entity.oneLine_parameterTexts role rest hParts.2
      rw [Entity.parameterTexts_eq_map] at hRest ⊢
      rw [List.map_cons, List.forall_mem_cons]
      refine ⟨?_, hRest⟩
      unfold parameterText
      split
      · exact hType
      · simp only [OneLine.append_iff]
        exact ⟨⟨hType, by decide⟩, hName⟩

end

/-- The line of an entity is one line from its label on. -/
theorem Entity.oneLine_headline {label : String} (hLabel : OneLine label) {role : Role} {e : Entity}
    (hParts : ∀ part ∈ e.parts role, part.2.OnOneLine) : OneLine (e.headline label) := by
  have hSelf : e.OnOneLine := hParts (role, e) (by simp [Entity.parts_eq])
  have hName : OneLine (if e.name.isEmpty then "<unnamed>" else e.name) := by
    split
    · decide
    · exact hSelf.name
  unfold headline
  simp only [OneLine.append_iff]
  refine ⟨⟨⟨⟨⟨⟨⟨⟨hLabel, by decide⟩, hName⟩, by decide⟩, oneLine_typeText role e hParts⟩, by decide⟩,
    ?_⟩, ?_⟩, ?_⟩
  · split
    · next storage _ => cases storage <;> split <;> decide
    · decide
  · split
    · next expression hExpression =>
        exact OneLine.append_iff.mpr ⟨by decide, hSelf.expression expression hExpression⟩
    · decide
  · split
    · next v _ => exact OneLine.append_iff.mpr ⟨by decide, v.oneLine_text⟩
    · decide

end CDecl
