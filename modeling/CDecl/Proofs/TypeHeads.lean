import Mathlib
import CDecl.Model.Text
import CDecl.Text.Pieces

/-!
# How the text of a type starts and ends

The text of a type starts with words, each behind a blank if a blank is put in front, and goes on with a
parenthesis or an angle if it does not end there (`Descriptor.headWords`, `Descriptor.headRest`).  Words
tell which kind of type it is, and for scalars they tell the type (`Scalar.words_inj`).  Pointers and
dimensions at the end can be told from the name of a parameter that follows (`modifiers_inj`).
-/

namespace CDecl

/-! ### Words of scalars -/

/-- The words that bases are written with. -/
def baseKeywords : List String := ["void", "char", "int", "long", "float", "double", "_Bool", "_Complex"]

/-- The words that are no bases; the modifier `long` looks like a base. -/
def otherKeywords : List String := ["const", "unsigned", "short", "struct", "union", "fn"]

/-- Names of typedefs are words and no keywords, and the base `long` comes with the modifier `long`. -/
structure Scalar.Legible (s : Scalar) : Prop where
  name : ∀ name, s.base = some (.named name) → IsWord name ∧ name ∉ baseKeywords ∧ name ∉ otherKeywords
  long : s.base = some .long → s.long = true

namespace Scalar

variable {s : Scalar}

theorem mem_words {word : String} :
    word ∈ s.words ↔ (s.isConst = true ∧ word = "const") ∨ (s.unsigned = true ∧ word = "unsigned") ∨
      (s.short = true ∧ word = "short") ∨ (s.long = true ∧ word = "long") ∨
      ∃ base, s.base = some base ∧ base.text = word := by
  simp [words]

theorem Legible.text_notMem (h : s.Legible) {base : BaseType} (hBase : s.base = some base) :
    base.text ∉ otherKeywords := by
  cases base with
  | named name => exact (h.name name hBase).2.2
  | _ => decide

theorem Legible.named_notMem (h : s.Legible) {name : String} (hBase : s.base = some (.named name)) :
    (BaseType.named name).text ∉ baseKeywords := (h.name name hBase).2.1

/-- Only the base `long` has the text of the modifier. -/
theorem Legible.eq_long (h : s.Legible) {base : BaseType} (hBase : s.base = some base)
    (hText : base.text = "long") : base = .long := by
  cases base with
  | long => rfl
  | named name =>
      exact absurd (hText ▸ by decide) (h.named_notMem hBase)
  | _ => exact absurd hText (by decide)

theorem isWord_of_mem_words (h : s.Legible) : ∀ word ∈ s.words, IsWord word := by
  intro word hMem
  rcases mem_words.mp hMem with ⟨-, rfl⟩ | ⟨-, rfl⟩ | ⟨-, rfl⟩ | ⟨-, rfl⟩ | ⟨base, hBase, rfl⟩
  · decide
  · decide
  · decide
  · decide
  · cases base with
    | named name => exact (h.name name hBase).1
    | _ => decide

/-- Scalars are not written with the keywords of records and functions. -/
theorem notMem_words (h : s.Legible) {word : String} (hWord : word ∈ ["struct", "union", "fn"]) :
    word ∉ s.words := by
  intro hMem
  rcases mem_words.mp hMem with ⟨-, rfl⟩ | ⟨-, rfl⟩ | ⟨-, rfl⟩ | ⟨-, rfl⟩ | ⟨base, hBase, rfl⟩
  · exact absurd hWord (by decide)
  · exact absurd hWord (by decide)
  · exact absurd hWord (by decide)
  · exact absurd hWord (by decide)
  · exact h.text_notMem hBase (List.mem_append_right ["const", "unsigned", "short"] hWord)

/-! Each modifier is told by its word. -/

theorem const_mem_words (h : s.Legible) : "const" ∈ s.words ↔ s.isConst = true := by
  have hBase : ¬∃ base, s.base = some base ∧ base.text = "const" :=
    fun ⟨_, hBase, hText⟩ => h.text_notMem hBase (hText ▸ by decide)
  simp [mem_words, hBase]

theorem unsigned_mem_words (h : s.Legible) : "unsigned" ∈ s.words ↔ s.unsigned = true := by
  have hBase : ¬∃ base, s.base = some base ∧ base.text = "unsigned" :=
    fun ⟨_, hBase, hText⟩ => h.text_notMem hBase (hText ▸ by decide)
  simp [mem_words, hBase]

theorem short_mem_words (h : s.Legible) : "short" ∈ s.words ↔ s.short = true := by
  have hBase : ¬∃ base, s.base = some base ∧ base.text = "short" :=
    fun ⟨_, hBase, hText⟩ => h.text_notMem hBase (hText ▸ by decide)
  simp [mem_words, hBase]

theorem long_mem_words (h : s.Legible) : "long" ∈ s.words ↔ s.long = true := by
  have hBase : (∃ base, s.base = some base ∧ base.text = "long") → s.long = true :=
    fun ⟨_, hBase, hText⟩ => h.long (h.eq_long hBase hText ▸ hBase)
  simpa [mem_words] using hBase

/-- Bases with the same text are the same. -/
theorem Legible.text_inj {s' : Scalar} (h : s.Legible) (h' : s'.Legible) {base base' : BaseType}
    (hBase : s.base = some base) (hBase' : s'.base = some base') (hText : base.text = base'.text) :
    base = base' := by
  cases base with
  | named name =>
      cases base' with
      | named name' => exact congrArg BaseType.named hText
      | _ => exact absurd (hText ▸ by decide) (h.named_notMem hBase)
  | _ =>
      cases base' with
      | named name' => exact absurd (hText.symm ▸ by decide) (h'.named_notMem hBase')
      | _ => first | rfl | exact absurd hText (by decide)

/-- A scalar is told by its words. -/
theorem words_inj {s' : Scalar} (h : s.Legible) (h' : s'.Legible) (hWords : s.words = s'.words) :
    s = s' := by
  have hConst : s.isConst = s'.isConst := by
    rw [Bool.eq_iff_iff, ← const_mem_words h, ← const_mem_words h', hWords]
  have hUnsigned : s.unsigned = s'.unsigned := by
    rw [Bool.eq_iff_iff, ← unsigned_mem_words h, ← unsigned_mem_words h', hWords]
  have hShort : s.short = s'.short := by
    rw [Bool.eq_iff_iff, ← short_mem_words h, ← short_mem_words h', hWords]
  have hLong : s.long = s'.long := by
    rw [Bool.eq_iff_iff, ← long_mem_words h, ← long_mem_words h', hWords]
  have hTexts : (s.base.map BaseType.text).toList = (s'.base.map BaseType.text).toList := by
    simpa [words, hConst, hUnsigned, hShort, hLong] using hWords
  have hBase : s.base = s'.base := by
    cases hBase : s.base with
    | none =>
        cases hBase' : s'.base with
        | none => rfl
        | some base' => simp [hBase, hBase'] at hTexts
    | some base =>
        cases hBase' : s'.base with
        | none => simp [hBase, hBase'] at hTexts
        | some base' =>
            have hText : base.text = base'.text := by simpa [hBase, hBase'] using hTexts
            rw [h.text_inj h' hBase hBase' hText]
  cases s
  cases s'
  simp_all

end Scalar

/-! ### Words and the rest of a descriptor -/

/-- Parameters and the ellipsis, with commas between them. -/
def Entity.betweenCommas (params : List Entity) (variadic : Bool) : List Char :=
  (", ".intercalate (parameterTexts params ++ if variadic then ["..."] else [])).toList

/-- What a function type is written as behind its keyword. -/
def FunctionType.signature : FunctionType → List Char
  | ⟨returns, params, variadic⟩ =>
      '(' :: (Entity.betweenCommas params variadic ++ (") -> ".toList ++ returns.typeText.toList))

theorem FunctionType.toList_text (f : FunctionType) : f.text.toList = 'f' :: 'n' :: f.signature := by
  obtain ⟨returns, params, variadic⟩ := f
  simp only [text, signature, Entity.betweenCommas, String.toList_append, List.append_assoc]
  rfl

/-- The dimensions of an array, each in brackets. -/
def brackets (arrays : List Dimension) : List Char :=
  arrays.flatMap fun d => '[' :: (d.text.toList ++ [']'])

/-- Pointers and dimensions, behind a blank if there are any. -/
def modifiers (pointers : UInt32) (arrays : List Dimension) : List Char :=
  if pointers = 0 ∧ arrays = [] then [] else
    ' ' :: (List.replicate pointers.toNat '*' ++ brackets arrays)

/-- Whether an entity has pointers or dimensions. -/
def Entity.isModified (e : Entity) : Bool := e.pointers > 0 || !e.arrays.isEmpty

namespace Descriptor

/-- A descriptor in front of pointers and dimensions, where a function type stands in parentheses, or
without any. -/
def head (modified : Bool) (t : Descriptor) : String :=
  if t.kind == .function && modified then "(" ++ t.text ++ ")" else t.text

/-- The words at the front. -/
def headWords (modified : Bool) : Descriptor → List String
  | .scalar s => s.words
  | .aggregate a => a.keyword :: a.tag.toList
  | .function _ => if modified then [] else ["fn"]

/-- What is behind the words at the front. -/
def headRest (modified : Bool) : Descriptor → List Char
  | .scalar s => if s.words = [] then " <unresolved>".toList else []
  | .aggregate a => if a.tag = none then " (anonymous)".toList else []
  | .function f => if modified then ' ' :: '(' :: (f.text.toList ++ [')']) else f.signature

theorem toList_head (modified : Bool) (t : Descriptor) :
    ' ' :: (t.head modified).toList = spaced (t.headWords modified) ++ t.headRest modified := by
  cases t with
  | scalar s =>
      have hHead : head modified (.scalar s) = s.text := rfl
      cases hWords : s.words with
      | nil => simp [hHead, Scalar.text, headWords, headRest, hWords]
      | cons w words =>
          have hText : s.text = " ".intercalate (w :: words) := by rw [Scalar.text, hWords]
          rw [hHead, hText, toList_intercalate_cons]
          simp [headWords, headRest, hWords, spaced]
  | aggregate a =>
      have hHead : head modified (.aggregate a) = a.text := rfl
      cases hTag : a.tag <;> simp [hHead, Aggregate.text, headWords, headRest, hTag]
  | function f =>
      have hText : text (.function f) = f.text := by rw [text]
      cases modified with
      | true => simp [head, kind, hText, headWords, headRest]
      | false => simp [head, kind, hText, headWords, headRest, FunctionType.toList_text]

end Descriptor

theorem Entity.toList_typeText (e : Entity) :
    e.typeText.toList = (e.type.head e.isModified).toList ++ modifiers e.pointers e.arrays := by
  have hPointers : e.pointers > 0 ↔ e.pointers ≠ 0 := UInt32.pos_iff_ne_zero
  rw [typeText_eq, modifiedText, modifiers, Descriptor.head, isModified]
  by_cases hZero : e.pointers = 0 <;> by_cases hNil : e.arrays = [] <;>
    simp [hPointers, hZero, hNil, brackets, List.flatMap_map]

/-! ### What stands behind a descriptor -/

/-- Whether a text ends, or goes on behind a parameter. -/
def Ends (rest : List Char) : Prop := ∀ c ∈ rest.head?, c = ',' ∨ c = ')'

/-- Whether a text goes on with pointers or dimensions. -/
def Modifies (rest : List Char) : Prop := ∃ tail, rest = ' ' :: '*' :: tail ∨ rest = ' ' :: '[' :: tail

/-- Whether a text goes on with a parenthesis or an angle, as behind the words of a descriptor. -/
def Opens (rest : List Char) : Prop :=
  ∃ tail, rest = '(' :: tail ∨ rest = ' ' :: '(' :: tail ∨ rest = ' ' :: '<' :: tail

/-- What may follow a type: the name of a parameter as the only word, if there is one, and the end. -/
structure Closes (words : List String) (rest : List Char) : Prop where
  isWord : ∀ w ∈ words, IsWord w
  ends : Ends rest

/-- What may follow a descriptor: the same, or pointers and dimensions in front of it. -/
def Follows (words : List String) (rest : List Char) : Prop :=
  Closes words rest ∨ words = [] ∧ Modifies rest

theorem Ends.noWord {rest : List Char} (h : Ends rest) : NoWord rest := by
  cases rest with
  | nil => exact ⟨stops_nil, nofun⟩
  | cons c tail =>
      rcases h c rfl with rfl | rfl
      · exact ⟨stops_cons.mpr (by decide), nofun⟩
      · exact ⟨stops_cons.mpr (by decide), nofun⟩

theorem Ends.not_modifies {rest : List Char} (h : Ends rest) : ¬ Modifies rest := by
  rintro ⟨tail, rfl | rfl⟩
  · exact absurd (h ' ' rfl) (by decide)
  · exact absurd (h ' ' rfl) (by decide)

/-- A blank that no word follows. -/
theorem noWord_blank {c : Char} {tail : List Char} (hChar : ¬ IsWordChar c) :
    NoWord (' ' :: c :: tail) := by
  refine ⟨stops_cons.mpr (by decide), ?_⟩
  rintro _ ⟨⟩
  exact stops_cons.mpr hChar

theorem Modifies.noWord {rest : List Char} (h : Modifies rest) : NoWord rest := by
  obtain ⟨tail, rfl | rfl⟩ := h
  · exact noWord_blank (by decide)
  · exact noWord_blank (by decide)

theorem Opens.noWord {rest : List Char} (h : Opens rest) : NoWord rest := by
  obtain ⟨tail, rfl | rfl | rfl⟩ := h
  · exact ⟨stops_cons.mpr (by decide), nofun⟩
  · exact noWord_blank (by decide)
  · exact noWord_blank (by decide)

theorem Opens.append {first : List Char} (h : Opens first) (second : List Char) :
    Opens (first ++ second) := by
  obtain ⟨tail, rfl | rfl | rfl⟩ := h
  · exact ⟨tail ++ second, .inl rfl⟩
  · exact ⟨tail ++ second, .inr (.inl rfl)⟩
  · exact ⟨tail ++ second, .inr (.inr rfl)⟩

namespace Follows

variable {words : List String} {rest : List Char}

theorem isWord (h : Follows words rest) : ∀ w ∈ words, IsWord w := by
  rcases h with hCloses | ⟨rfl, -⟩
  · exact hCloses.isWord
  · exact nofun

theorem noWord (h : Follows words rest) : NoWord rest := by
  rcases h with hCloses | ⟨-, hModifies⟩
  · exact hCloses.ends.noWord
  · exact hModifies.noWord

theorem not_opens (h : Follows words rest) : ¬ Opens rest := by
  rintro ⟨tail, hRest⟩
  rcases h with ⟨-, hEnds⟩ | ⟨-, _, rfl | rfl⟩
  · rcases hRest with rfl | rfl | rfl
    · exact absurd (hEnds '(' rfl) (by decide)
    · exact absurd (hEnds ' ' rfl) (by decide)
    · exact absurd (hEnds ' ' rfl) (by decide)
  · simp at hRest
  · simp at hRest

/-- Where the same text follows, and as many words where it ends, so do as many words. -/
theorem length_eq {words' : List String} (h : Follows words rest) (h' : Follows words' rest)
    (hLength : Ends rest → words.length = words'.length) : words.length = words'.length := by
  rcases h with hCloses | ⟨rfl, hModifies⟩
  · exact hLength hCloses.ends
  · rcases h' with hCloses' | ⟨rfl, -⟩
    · exact absurd hModifies hCloses'.ends.not_modifies
    · rfl

end Follows

/-- Words and what is behind them can be told from further words that follow. -/
theorem head_inj {first first' words words' : List String} {mark mark' rest rest' : List Char}
    (hFirst : ∀ w ∈ first, IsWord w) (hFirst' : ∀ w ∈ first', IsWord w)
    (hMark : mark = [] ∨ Opens mark) (hMark' : mark' = [] ∨ Opens mark')
    (hFollows : Follows words rest) (hFollows' : Follows words' rest')
    (hLength : Ends rest → Ends rest' → words.length = words'.length)
    (h : spaced first ++ (mark ++ (spaced words ++ rest)) =
      spaced first' ++ (mark' ++ (spaced words' ++ rest'))) :
    first = first' ∧ mark ++ (spaced words ++ rest) = mark' ++ (spaced words' ++ rest') := by
  have hAll : ∀ w ∈ first ++ words, IsWord w := List.forall_mem_append.mpr ⟨hFirst, hFollows.isWord⟩
  have hAll' : ∀ w ∈ first' ++ words', IsWord w :=
    List.forall_mem_append.mpr ⟨hFirst', hFollows'.isWord⟩
  rcases hMark with rfl | hMark
  · rcases hMark' with rfl | hMark'
    · rw [List.nil_append, List.nil_append, ← spaced_append, ← spaced_append] at h
      obtain ⟨hWords, rfl⟩ := spaced_inj hAll hAll' hFollows.noWord hFollows'.noWord h
      have hSame := hFollows.length_eq hFollows' fun hEnds => hLength hEnds hEnds
      obtain ⟨rfl, rfl⟩ := List.append_inj' hWords hSame
      exact ⟨rfl, rfl⟩
    · rw [List.nil_append, ← spaced_append] at h
      obtain ⟨-, rfl⟩ := spaced_inj hAll hFirst' hFollows.noWord (hMark'.append _).noWord h
      exact absurd (hMark'.append _) hFollows.not_opens
  · rcases hMark' with rfl | hMark'
    · rw [List.nil_append, ← spaced_append] at h
      obtain ⟨-, rfl⟩ := spaced_inj hFirst hAll' (hMark.append _).noWord hFollows'.noWord h
      exact absurd (hMark.append _) hFollows'.not_opens
    · exact spaced_inj hFirst hFirst' (hMark.append _).noWord (hMark'.append _).noWord h

/-! ### Pointers and dimensions -/

/-- A dimension is a number or none, and no text. -/
def Dimension.Legible (d : Dimension) : Prop := ∀ bound, d ≠ .symbolic bound

theorem Dimension.text_ne_close {d : Dimension} (h : d.Legible) : ∀ c ∈ d.text.toList, c ≠ ']' := by
  cases d with
  | known size =>
      have hText : (Dimension.known size).text.toList = Nat.toDigits 10 size.toNat := Nat.toList_repr
      rw [hText]
      rintro _ hMem rfl
      have hDigit : ']'.isDigit :=
        Nat.isDigit_of_mem_toDigits (b := 10) (by decide) (by decide) hMem
      exact absurd hDigit (by decide)
  | symbolic bound => exact absurd rfl (h bound)
  | unsized => exact nofun

theorem Dimension.text_inj {d d' : Dimension} (h : d.Legible) (h' : d'.Legible)
    (hText : d.text.toList = d'.text.toList) : d = d' := by
  have hDigits (size : UInt64) : (Dimension.known size).text.toList = Nat.toDigits 10 size.toNat :=
    Nat.toList_repr
  cases d with
  | symbolic bound => exact absurd rfl (h bound)
  | known size =>
      cases d' with
      | symbolic bound => exact absurd rfl (h' bound)
      | known size' =>
          rw [hDigits, hDigits] at hText
          rw [UInt64.toNat_inj.mp (toDigits_ten_inj hText)]
      | unsized =>
          rw [hDigits] at hText
          exact absurd hText Nat.toDigits_ne_nil
  | unsized =>
      cases d' with
      | symbolic bound => exact absurd rfl (h' bound)
      | known size' =>
          rw [hDigits] at hText
          exact absurd hText.symm Nat.toDigits_ne_nil
      | unsized => rfl

theorem brackets_inj : ∀ {arrays arrays' : List Dimension} {rest rest' : List Char},
    (∀ d ∈ arrays, d.Legible) → (∀ d ∈ arrays', d.Legible) →
    Stops (· = '[') rest → Stops (· = '[') rest' →
    brackets arrays ++ rest = brackets arrays' ++ rest' → arrays = arrays' ∧ rest = rest'
  | [], [], _, _, _, _, _, _, h => ⟨rfl, h⟩
  | [], d :: arrays', _, _, _, _, hRest, _, h => by
      subst h
      exact absurd rfl (hRest _ rfl)
  | d :: arrays, [], _, _, _, _, _, hRest', h => by
      rw [brackets, brackets, List.flatMap_nil, List.nil_append] at h
      subst h
      exact absurd rfl (hRest' _ rfl)
  | d :: arrays, d' :: arrays', rest, rest', hLegible, hLegible', hRest, hRest', h => by
      rw [List.forall_mem_cons] at hLegible hLegible'
      have hInner : d.text.toList ++ ']' :: (brackets arrays ++ rest) =
          d'.text.toList ++ ']' :: (brackets arrays' ++ rest') := by
        simpa [brackets] using h
      obtain ⟨hText, hTail⟩ := pieces_inj (· ≠ ']') (Dimension.text_ne_close hLegible.1)
        (Dimension.text_ne_close hLegible'.1) (stops_cons.mpr (by simp)) (stops_cons.mpr (by simp)) hInner
      obtain ⟨rfl, rfl⟩ := brackets_inj hLegible.2 hLegible'.2 hRest hRest' (List.cons.inj hTail).2
      exact ⟨by rw [Dimension.text_inj hLegible.1 hLegible'.1 hText], rfl⟩

namespace Closes

variable {words : List String} {rest : List Char}

/-- A parenthesis that is closed. -/
theorem closing (rest : List Char) : Closes [] (')' :: rest) := ⟨by simp, by simp [Ends]⟩

theorem noWord (h : Closes words rest) : NoWord rest := h.ends.noWord

/-- A name and the end are no pointer and no dimension. -/
theorem stops (h : Closes words rest) {c : Char} (hChar : c ∈ ['*', '[']) :
    Stops (· = c) (spaced words ++ rest) := by
  rintro _ hMem rfl
  cases words with
  | nil =>
      rcases h.ends _ hMem with rfl | rfl
      · exact absurd hChar (by decide)
      · exact absurd hChar (by decide)
  | cons w words =>
      rw [spaced_cons] at hMem
      cases hMem
      exact absurd hChar (by decide)

/-- They are none behind a blank either. -/
theorem ne_blank_cons (h : Closes words rest) {c : Char} (hChar : c ∈ ['*', '[']) {tail : List Char} :
    spaced words ++ rest ≠ ' ' :: c :: tail := by
  intro hText
  cases words with
  | nil =>
      rw [spaced_nil, List.nil_append] at hText
      subst hText
      exact absurd (h.ends ' ' rfl) (by decide)
  | cons w words =>
      obtain ⟨c', chars, hWord, hLetter⟩ := (h.isWord w (.head _)).exists_cons
      rw [spaced_cons, hWord] at hText
      obtain rfl : c' = c := (List.cons.inj (List.cons.inj hText).2).1
      rcases List.mem_cons.mp hChar with rfl | hChar
      · exact absurd hLetter (by decide)
      · rw [List.mem_singleton.mp hChar] at hLetter
        exact absurd hLetter (by decide)

end Closes

theorem modifiers_none {pointers : UInt32} {arrays : List Dimension} (hPointers : pointers = 0)
    (hArrays : arrays = []) : modifiers pointers arrays = [] := if_pos ⟨hPointers, hArrays⟩

/-- Pointers and dimensions, if there are any, start behind a blank. -/
theorem modifiers_some {pointers : UInt32} {arrays : List Dimension}
    (hSome : ¬(pointers = 0 ∧ arrays = [])) :
    modifiers pointers arrays = ' ' :: (List.replicate pointers.toNat '*' ++ brackets arrays) ∧
    ∃ c ∈ ['*', '['], ∃ tail, modifiers pointers arrays = ' ' :: c :: tail := by
  have hEq : modifiers pointers arrays =
      ' ' :: (List.replicate pointers.toNat '*' ++ brackets arrays) := if_neg hSome
  refine ⟨hEq, ?_⟩
  rw [hEq]
  cases hCount : pointers.toNat with
  | succ n => exact ⟨'*', by decide, _, by rw [List.replicate_succ, List.cons_append]⟩
  | zero =>
      cases arrays with
      | nil => exact absurd ⟨UInt32.toNat_inj.mp hCount, rfl⟩ hSome
      | cons d arrays => exact ⟨'[', by decide, _, rfl⟩

/-- Pointers and dimensions can be told from a name and from the end. -/
theorem modifiers_inj {pointers pointers' : UInt32} {arrays arrays' : List Dimension}
    {words words' : List String} {rest rest' : List Char}
    (hLegible : ∀ d ∈ arrays, d.Legible) (hLegible' : ∀ d ∈ arrays', d.Legible)
    (hCloses : Closes words rest) (hCloses' : Closes words' rest')
    (h : modifiers pointers arrays ++ (spaced words ++ rest) =
      modifiers pointers' arrays' ++ (spaced words' ++ rest')) :
    pointers = pointers' ∧ arrays = arrays' ∧ words = words' ∧ rest = rest' := by
  by_cases hNone : pointers = 0 ∧ arrays = []
  · by_cases hNone' : pointers' = 0 ∧ arrays' = []
    · rw [modifiers_none hNone.1 hNone.2, modifiers_none hNone'.1 hNone'.2] at h
      exact ⟨hNone.1.trans hNone'.1.symm, hNone.2.trans hNone'.2.symm,
        spaced_inj hCloses.isWord hCloses'.isWord hCloses.noWord hCloses'.noWord h⟩
    · obtain ⟨-, c, hChar, tail, hStart⟩ := modifiers_some hNone'
      rw [modifiers_none hNone.1 hNone.2, hStart] at h
      exact absurd h (hCloses.ne_blank_cons hChar)
  · by_cases hNone' : pointers' = 0 ∧ arrays' = []
    · obtain ⟨-, c, hChar, tail, hStart⟩ := modifiers_some hNone
      rw [modifiers_none hNone'.1 hNone'.2, hStart] at h
      exact absurd h.symm (hCloses'.ne_blank_cons hChar)
    · rw [(modifiers_some hNone).1, (modifiers_some hNone').1, List.cons_append, List.cons_append,
        List.append_assoc, List.append_assoc] at h
      have hStops (arrays : List Dimension) {words : List String} {rest : List Char}
          (hCloses : Closes words rest) :
          Stops (· = '*') (brackets arrays ++ (spaced words ++ rest)) := by
        cases arrays with
        | nil => exact hCloses.stops (by decide)
        | cons d arrays => exact stops_cons.mpr (by decide)
      obtain ⟨hStars, hBehind⟩ := pieces_inj (· = '*') (fun _ => List.eq_of_mem_replicate)
        (fun _ => List.eq_of_mem_replicate) (hStops arrays hCloses) (hStops arrays' hCloses')
        (List.cons.inj h).2
      obtain ⟨rfl, hTail⟩ := brackets_inj hLegible hLegible' (hCloses.stops (by decide))
        (hCloses'.stops (by decide)) hBehind
      have hCount : pointers.toNat = pointers'.toNat := by simpa using congrArg List.length hStars
      exact ⟨UInt32.toNat_inj.mp hCount, rfl,
        spaced_inj hCloses.isWord hCloses'.isWord hCloses.noWord hCloses'.noWord hTail⟩

/-- Pointers and dimensions in front of what follows a type are something that follows a descriptor. -/
theorem exists_follows (pointers : UInt32) (arrays : List Dimension) {words : List String}
    {rest : List Char} (hCloses : Closes words rest) : ∃ words' rest',
    modifiers pointers arrays ++ (spaced words ++ rest) = spaced words' ++ rest' ∧
    Follows words' rest' ∧ (Ends rest' → words' = words) := by
  by_cases hNone : pointers = 0 ∧ arrays = []
  · rw [modifiers_none hNone.1 hNone.2]
    exact ⟨words, rest, rfl, .inl hCloses, fun _ => rfl⟩
  · obtain ⟨-, c, hChar, tail, hStart⟩ := modifiers_some hNone
    have hModifies : Modifies (modifiers pointers arrays ++ (spaced words ++ rest)) := by
      rw [hStart]
      rcases List.mem_cons.mp hChar with rfl | hChar
      · exact ⟨_, .inl rfl⟩
      · rw [List.mem_singleton.mp hChar]
        exact ⟨_, .inr rfl⟩
    exact ⟨[], _, rfl, .inr ⟨rfl, hModifies⟩, fun hEnds => absurd hModifies hEnds.not_modifies⟩

end CDecl
