import CDecl.Proofs.TypeHeads

/-!
# Types read off their text

Two types are written alike only if they are the same as far as they are shown
(`Entity.typeText_eq_iff`): members of records, the names of what functions return and everything that is
no part of a type are left out (`Descriptor.shown`).

The proof reads both texts from the front.  A type inside another one is followed by the name of a
parameter and a comma, by a parenthesis or by the end; with any of them behind it, its text ends in only
one way (`Entity.Readable`).
-/

namespace CDecl

/-! ### What is shown of a type -/

mutual

/-- What the text of a type shows of an entity, under a name. -/
def Entity.shown (name : String) : Entity → Entity
  | ⟨_, type, pointers, arrays, _, _, _, _⟩ =>
      ⟨name, type.shown, pointers, arrays, .empty, none, none, none⟩

/-- What the text of a type shows of a descriptor: no members of records, and the names of parameters
only. -/
def Descriptor.shown : Descriptor → Descriptor
  | .scalar s => .scalar s
  | .aggregate ⟨tag, isUnion, _⟩ => .aggregate ⟨tag, isUnion, []⟩
  | .function ⟨returns, params, variadic⟩ =>
      .function ⟨returns.shown "", Entity.shownParams params, variadic⟩

/-- What the text of a type shows of parameters. -/
def Entity.shownParams : List Entity → List Entity
  | [] => []
  | p :: rest => p.shown p.name :: Entity.shownParams rest

end

mutual

theorem Entity.typeText_shown (name : String) : ∀ e : Entity, (e.shown name).typeText = e.typeText
  | ⟨_, .scalar s, pointers, arrays, _, _, _, _⟩ => rfl
  | ⟨_, .aggregate ⟨tag, isUnion, members⟩, pointers, arrays, _, _, _, _⟩ => rfl
  | ⟨_, .function ⟨returns, params, variadic⟩, pointers, arrays, _, _, _, _⟩ => by
      have hText : (FunctionType.mk (returns.shown "") (Entity.shownParams params) variadic).text =
          (FunctionType.mk returns params variadic).text := by
        rw [FunctionType.text, FunctionType.text, Entity.typeText_shown "" returns,
          Entity.parameterTexts_shownParams params]
      rw [Entity.typeText_eq, Entity.typeText_eq]
      simp only [Entity.shown, Descriptor.shown, Descriptor.text, Descriptor.kind, hText]

theorem Entity.parameterTexts_shownParams : ∀ params : List Entity,
    Entity.parameterTexts (Entity.shownParams params) = Entity.parameterTexts params
  | [] => rfl
  | p :: rest => by
      have hRest := Entity.parameterTexts_shownParams rest
      have hName : (p.shown p.name).name = p.name := by
        cases p
        rfl
      rw [Entity.parameterTexts_eq_map, Entity.parameterTexts_eq_map] at hRest ⊢
      rw [Entity.shownParams, List.map_cons, List.map_cons, hRest, Entity.typeText_shown, hName]

end

/-- What is shown of entities agrees under any name, or under none. -/
theorem Entity.shown_eq_iff (name : String) {e e' : Entity} :
    e.shown name = e'.shown name ↔
      e.pointers = e'.pointers ∧ e.arrays = e'.arrays ∧ e.type.shown = e'.type.shown := by
  cases e
  cases e'
  simp only [shown, Entity.mk.injEq, true_and, and_true]
  tauto

/-! ### Legible types -/

mutual

/-- Whether the names and dimensions that the type of an entity shows can be told from its own words
and signs. -/
def Entity.Legible : Entity → Prop
  | ⟨_, type, _, arrays, _, _, _, _⟩ => (∀ d ∈ arrays, d.Legible) ∧ type.Legible

/-- Tags are words, and so are names of typedefs and of parameters. -/
def Descriptor.Legible : Descriptor → Prop
  | .scalar s => s.Legible
  | .aggregate ⟨tag, _, _⟩ => ∀ word ∈ tag, IsWord word
  | .function ⟨returns, params, _⟩ => returns.Legible ∧ Entity.LegibleParams params

/-- Parameters have names. -/
def Entity.LegibleParams : List Entity → Prop
  | [] => True
  | p :: rest => (IsWord p.name ∧ p.Legible) ∧ Entity.LegibleParams rest

end

theorem Entity.Legible.parts {e : Entity} (h : e.Legible) :
    (∀ d ∈ e.arrays, d.Legible) ∧ e.type.Legible := by
  obtain ⟨name, type, pointers, arrays, span, storage, value, expression⟩ := e
  rwa [Legible] at h

/-! ### Kinds of types -/

theorem Aggregate.keyword_mem (a : Aggregate) : a.keyword ∈ ["struct", "union"] := by
  unfold keyword
  split <;> decide

namespace Descriptor

theorem Legible.isWord {t : Descriptor} (h : t.Legible) (modified : Bool) :
    ∀ w ∈ t.headWords modified, IsWord w := by
  cases t with
  | scalar s =>
      rw [Legible] at h
      exact Scalar.isWord_of_mem_words h
  | aggregate a =>
      obtain ⟨tag, isUnion, members⟩ := a
      rw [Legible] at h
      have hKeywords : ∀ w ∈ ["struct", "union"], IsWord w := by decide
      rw [headWords, List.forall_mem_cons]
      exact ⟨hKeywords _ (Aggregate.keyword_mem _), fun w hMem => h w (Option.mem_toList.mp hMem)⟩
  | function f =>
      rw [headWords]
      split <;> decide

theorem headRest_cases (t : Descriptor) (modified : Bool) :
    t.headRest modified = [] ∨ Opens (t.headRest modified) := by
  cases t with
  | scalar s =>
      rw [headRest]
      split
      · exact .inr ⟨_, .inr (.inr rfl)⟩
      · exact .inl rfl
  | aggregate a =>
      rw [headRest]
      split
      · exact .inr ⟨_, .inr (.inl rfl)⟩
      · exact .inl rfl
  | function f =>
      cases modified with
      | true => exact .inr ⟨_, .inr (.inl rfl)⟩
      | false =>
          obtain ⟨returns, params, variadic⟩ := f
          exact .inr ⟨_, .inl rfl⟩

theorem Legible.head_start {t : Descriptor} (h : t.Legible) (modified : Bool) :
    ∃ c tail, (t.head modified).toList = c :: tail ∧ (IsWordChar c ∨ c = '(' ∨ c = '<') := by
  have hBlank := t.toList_head modified
  have hWords := h.isWord modified
  cases hFirst : t.headWords modified with
  | cons w words =>
      rw [hFirst, List.forall_mem_cons] at hWords
      obtain ⟨c, chars, hWord, hChar⟩ := hWords.1.exists_cons
      rw [hFirst, spaced_cons, hWord] at hBlank
      exact ⟨c, _, (List.cons.inj hBlank).2, .inl hChar⟩
  | nil =>
      rw [hFirst, spaced_nil, List.nil_append] at hBlank
      rcases t.headRest_cases modified with hNil | ⟨tail, hOpens | hOpens | hOpens⟩
      · rw [hNil] at hBlank
        cases hBlank
      · rw [hOpens] at hBlank
        exact absurd (List.cons.inj hBlank).1 (by decide)
      · rw [hOpens] at hBlank
        exact ⟨'(', tail, (List.cons.inj hBlank).2, .inr (.inl rfl)⟩
      · rw [hOpens] at hBlank
        exact ⟨'<', tail, (List.cons.inj hBlank).2, .inr (.inr rfl)⟩

/-- Words tell scalars from records. -/
theorem scalar_ne_aggregate {s : Scalar} (h : s.Legible) (a : Aggregate) {modified modified' : Bool} :
    (scalar s).headWords modified ≠ (aggregate a).headWords modified' := by
  intro hWords
  have hMem : a.keyword ∈ s.words := by
    rw [show s.words = a.keyword :: a.tag.toList from hWords]
    exact .head _
  exact Scalar.notMem_words h (List.mem_append_left ["fn"] a.keyword_mem) hMem

/-- Words and what is behind them tell scalars from functions. -/
theorem scalar_ne_function {s : Scalar} (h : s.Legible) (f : FunctionType) {modified modified' : Bool}
    {rest rest' : List Char}
    (hWords : (scalar s).headWords modified = (function f).headWords modified') :
    (scalar s).headRest modified ++ rest ≠ (function f).headRest modified' ++ rest' := by
  cases modified' with
  | true =>
      have hNil : s.words = [] := hWords
      simp [headRest, hNil]
  | false =>
      have hMem : "fn" ∈ s.words := by
        rw [show s.words = ["fn"] from hWords]
        exact .head _
      exact absurd hMem (Scalar.notMem_words h (by decide))

/-- Words tell records from functions. -/
theorem aggregate_ne_function (a : Aggregate) (f : FunctionType) {modified modified' : Bool} :
    (aggregate a).headWords modified ≠ (function f).headWords modified' := by
  intro hWords
  cases modified' with
  | true => cases hWords
  | false =>
      have hKeyword : a.keyword = "fn" := (List.cons.inj hWords).1
      exact absurd (hKeyword ▸ a.keyword_mem) (by decide)

end Descriptor

/-! ### Reading a type -/

/-- Whether the text of an entity's type can be told from what closes it. -/
def Entity.Readable (e : Entity) : Prop :=
  ∀ {e' : Entity} {words words' : List String} {rest rest' : List Char}, e'.Legible →
    Closes words rest → Closes words' rest' → words.length = words'.length →
    e.typeText.toList ++ (spaced words ++ rest) = e'.typeText.toList ++ (spaced words' ++ rest') →
    e.shown "" = e'.shown "" ∧ words = words' ∧ rest = rest'

/-- Parameters and the ellipsis, each behind a comma, and the closing parenthesis. -/
def Entity.behindCommas (params : List Entity) (variadic : Bool) : List Char :=
  (parameterTexts params ++ if variadic then ["..."] else []).flatMap
    (fun text => ", ".toList ++ text.toList) ++ [')']

/-- Whether parameters behind commas can be told from what follows them. -/
def Entity.ReadableParams (params : List Entity) : Prop :=
  ∀ {params' : List Entity} {variadic variadic' : Bool} {rest rest' : List Char},
    LegibleParams params' →
    behindCommas params variadic ++ rest = behindCommas params' variadic' ++ rest' →
    shownParams params = shownParams params' ∧ variadic = variadic' ∧ rest = rest'

namespace Entity

theorem behindCommas_nil : behindCommas [] false = [')'] := rfl

theorem behindCommas_ellipsis : behindCommas [] true = [',', ' ', '.', '.', '.', ')'] := rfl

theorem behindCommas_cons {p : Entity} (hName : IsWord p.name) (params : List Entity) (variadic : Bool) :
    behindCommas (p :: params) variadic =
      ',' :: ' ' :: (p.typeText.toList ++ (spaced [p.name] ++ behindCommas params variadic)) := by
  have hText : parameterText p.typeText p.name = p.typeText ++ " " ++ p.name := by
    have hEmpty : p.name.isEmpty = false := by simpa using hName.1
    rw [parameterText, hEmpty]
    rfl
  simp [behindCommas, parameterTexts_eq_map, hText]

/-- Parameters behind commas are the end of a parameter in front of them. -/
theorem closes_behindCommas {name : String} (hName : IsWord name) (params : List Entity)
    (variadic : Bool) (rest : List Char) : Closes [name] (behindCommas params variadic ++ rest) := by
  refine ⟨by simpa using hName, ?_⟩
  unfold behindCommas
  cases parameterTexts params ++ (if variadic then ["..."] else []) with
  | nil => simp [Ends]
  | cons text texts => simp [Ends]

/-- A type starts with a word, a parenthesis or an angle. -/
theorem Legible.typeText_start {e : Entity} (h : e.Legible) :
    ∃ c tail, e.typeText.toList = c :: tail ∧ (IsWordChar c ∨ c = '(' ∨ c = '<') := by
  obtain ⟨c, tail, hHead, hStart⟩ := h.parts.2.head_start e.isModified
  exact ⟨c, _, by rw [toList_typeText, hHead, List.cons_append], hStart⟩

/-- A type does not start like an ellipsis or with a closing parenthesis. -/
theorem Legible.start_ne {e : Entity} (h : e.Legible) {c : Char} (hChar : c ∈ ['.', ')'])
    (first second : List Char) : e.typeText.toList ++ first ≠ c :: second := by
  intro hText
  obtain ⟨c', tail, hStart, hKind⟩ := h.typeText_start
  rw [hStart] at hText
  obtain rfl : c' = c := (List.cons.inj hText).1
  rcases List.mem_cons.mp hChar with rfl | hChar
  · exact absurd hKind (by decide)
  · rw [List.mem_singleton.mp hChar] at hKind
    exact absurd hKind (by decide)

theorem readableParams_nil : ReadableParams [] := by
  intro params' variadic variadic' rest rest' hLegible' h
  cases params' with
  | nil =>
      cases variadic <;> cases variadic' <;>
        simp_all [behindCommas_nil, behindCommas_ellipsis, shownParams]
  | cons p params' =>
      rw [LegibleParams] at hLegible'
      rw [behindCommas_cons hLegible'.1.1] at h
      cases variadic with
      | false => simp [behindCommas_nil] at h
      | true =>
          rw [behindCommas_ellipsis] at h
          have hStart := (List.cons.inj (List.cons.inj h).2).2
          exact absurd ((List.append_assoc _ _ _).symm.trans hStart.symm)
            (hLegible'.1.2.start_ne (by decide) _ _)

theorem readableParams_cons {p : Entity} {params : List Entity} (hName : IsWord p.name)
    (hLegible : p.Legible) (hRead : p.Readable) (hParams : ReadableParams params) :
    ReadableParams (p :: params) := by
  intro params' variadic variadic' rest rest' hLegible' h
  rw [behindCommas_cons hName] at h
  cases params' with
  | nil =>
      cases variadic' with
      | false => simp [behindCommas_nil] at h
      | true =>
          rw [behindCommas_ellipsis] at h
          have hStart := (List.cons.inj (List.cons.inj h).2).2
          exact absurd ((List.append_assoc _ _ _).symm.trans hStart) (hLegible.start_ne (by decide) _ _)
  | cons p' params' =>
      rw [LegibleParams] at hLegible'
      rw [behindCommas_cons hLegible'.1.1] at h
      have hText := (List.cons.inj (List.cons.inj h).2).2
      simp only [List.append_eq, List.append_assoc] at hText
      obtain ⟨hShown, hNames, hTail⟩ := hRead hLegible'.1.2 (closes_behindCommas hName _ _ _)
        (closes_behindCommas hLegible'.1.1 _ _ _) rfl hText
      obtain ⟨hParams, hVariadic, hRest⟩ := hParams hLegible'.2 hTail
      have hName : p.name = p'.name := (List.cons.inj hNames).1
      refine ⟨?_, hVariadic, hRest⟩
      rw [shownParams, shownParams, hParams, hName, (shown_eq_iff _).mpr ((shown_eq_iff _).mp hShown)]

theorem betweenCommas_cases (params : List Entity) (variadic : Bool) :
    (betweenCommas params variadic ++ [')'] = behindCommas params variadic ∧
      behindCommas params variadic = [')']) ∨
    ',' :: ' ' :: (betweenCommas params variadic ++ [')']) = behindCommas params variadic := by
  unfold betweenCommas behindCommas
  cases parameterTexts params ++ (if variadic then ["..."] else []) with
  | nil => exact .inl ⟨rfl, rfl⟩
  | cons text texts =>
      refine .inr ?_
      rw [toList_intercalate_cons]
      simp

theorem behindCommas_ne {params : List Entity} (hLegible : LegibleParams params) (variadic : Bool)
    (rest rest' : List Char) : behindCommas params variadic ++ rest ≠ ',' :: ' ' :: ')' :: rest' := by
  intro h
  cases params with
  | nil => cases variadic <;> simp [behindCommas_nil, behindCommas_ellipsis] at h
  | cons p params =>
      rw [LegibleParams] at hLegible
      rw [behindCommas_cons hLegible.1.1] at h
      have hStart := (List.cons.inj (List.cons.inj h).2).2
      exact absurd ((List.append_assoc _ _ _).symm.trans hStart) (hLegible.1.2.start_ne (by decide) _ _)

/-- It makes no difference whether commas stand between parameters or in front of each. -/
theorem behindCommas_of_betweenCommas {params params' : List Entity} {variadic variadic' : Bool}
    {rest rest' : List Char} (hLegible : LegibleParams params) (hLegible' : LegibleParams params')
    (h : betweenCommas params variadic ++ ')' :: rest = betweenCommas params' variadic' ++ ')' :: rest') :
    behindCommas params variadic ++ rest = behindCommas params' variadic' ++ rest' := by
  rw [← List.singleton_append, ← List.append_assoc, ← List.singleton_append (x := ')') (l := rest'),
    ← List.append_assoc] at h
  rcases betweenCommas_cases params variadic with ⟨hNone, hEnd⟩ | hSome
  · rcases betweenCommas_cases params' variadic' with ⟨hNone', -⟩ | hSome'
    · rwa [hNone, hNone'] at h
    · rw [hNone, hEnd] at h
      refine absurd ?_ (behindCommas_ne hLegible' variadic' rest' rest)
      rw [← hSome', List.cons_append, List.cons_append, ← h]
      rfl
  · rcases betweenCommas_cases params' variadic' with ⟨hNone', hEnd'⟩ | hSome'
    · rw [hNone', hEnd'] at h
      refine absurd ?_ (behindCommas_ne hLegible variadic rest rest')
      rw [← hSome, List.cons_append, List.cons_append, h]
      rfl
    · rw [← hSome, ← hSome', List.cons_append, List.cons_append, List.cons_append, List.cons_append, h]

end Entity

/-- A function type is told by its signature, if its parts are told by their texts. -/
theorem FunctionType.signature_inj {returns returns' : Entity} {params params' : List Entity}
    {variadic variadic' : Bool} {words words' : List String} {rest rest' : List Char}
    (hReturns : returns.Readable) (hParams : Entity.ReadableParams params)
    (hLegible : Entity.LegibleParams params) (hLegible' : Entity.LegibleParams params')
    (hLegibleReturns' : returns'.Legible)
    (hCloses : Closes words rest) (hCloses' : Closes words' rest') (hLength : words.length = words'.length)
    (h : signature ⟨returns, params, variadic⟩ ++ (spaced words ++ rest) =
      signature ⟨returns', params', variadic'⟩ ++ (spaced words' ++ rest')) :
    (Descriptor.function ⟨returns, params, variadic⟩).shown =
      (Descriptor.function ⟨returns', params', variadic'⟩).shown ∧ words = words' ∧ rest = rest' := by
  have hInner : Entity.betweenCommas params variadic ++
        ')' :: (" -> ".toList ++ (returns.typeText.toList ++ (spaced words ++ rest))) =
      Entity.betweenCommas params' variadic' ++
        ')' :: (" -> ".toList ++ (returns'.typeText.toList ++ (spaced words' ++ rest'))) := by
    simpa [signature] using h
  obtain ⟨hShownParams, rfl, hArrow⟩ :=
    hParams hLegible' (Entity.behindCommas_of_betweenCommas hLegible hLegible' hInner)
  obtain ⟨hShown, rfl, rfl⟩ :=
    hReturns hLegibleReturns' hCloses hCloses' hLength (List.append_cancel_left hArrow)
  exact ⟨by rw [Descriptor.shown, Descriptor.shown, hShown, hShownParams], rfl, rfl⟩

namespace Entity

/-- What stands behind the descriptor of an entity. -/
def behind (e : Entity) (words : List String) (rest : List Char) : List Char :=
  modifiers e.pointers e.arrays ++ (spaced words ++ rest)

theorem behind_of_not_modified {e : Entity} (h : e.isModified = false) (words : List String)
    (rest : List Char) : e.behind words rest = spaced words ++ rest := by
  have hNone : e.pointers = 0 ∧ e.arrays = [] := by
    simpa [isModified] using h
  rw [behind, modifiers_none hNone.1 hNone.2, List.nil_append]

/-- The words in front of two types that are written alike are the same, and so is what is behind
them. -/
theorem heads_eq {e e' : Entity} {words words' : List String} {rest rest' : List Char}
    (hLegible : e.Legible) (hLegible' : e'.Legible) (hCloses : Closes words rest)
    (hCloses' : Closes words' rest') (hLength : words.length = words'.length)
    (h : e.typeText.toList ++ (spaced words ++ rest) = e'.typeText.toList ++ (spaced words' ++ rest')) :
    e.type.headWords e.isModified = e'.type.headWords e'.isModified ∧
    e.type.headRest e.isModified ++ e.behind words rest =
      e'.type.headRest e'.isModified ++ e'.behind words' rest' := by
  have hBlank : ' ' :: (e.type.head e.isModified).toList ++ e.behind words rest =
      ' ' :: (e'.type.head e'.isModified).toList ++ e'.behind words' rest' := by
    rw [toList_typeText, toList_typeText, List.append_assoc, List.append_assoc] at h
    rw [List.cons_append, List.cons_append]
    exact congrArg (List.cons ' ') h
  rw [Descriptor.toList_head, Descriptor.toList_head, List.append_assoc, List.append_assoc] at hBlank
  obtain ⟨first, last, hBehind, hFollows, hFirst⟩ := exists_follows e.pointers e.arrays hCloses
  obtain ⟨first', last', hBehind', hFollows', hFirst'⟩ := exists_follows e'.pointers e'.arrays hCloses'
  rw [behind, behind, hBehind, hBehind'] at hBlank ⊢
  refine head_inj (hLegible.parts.2.isWord _) (hLegible'.parts.2.isWord _) (e.type.headRest_cases _)
    (e'.type.headRest_cases _) hFollows hFollows' (fun hEnds hEnds' => ?_) hBlank
  rw [hFirst hEnds, hFirst' hEnds', hLength]

/-- To read a type, it is enough to read its descriptor. -/
theorem readable_of_heads {e : Entity} (hLegible : e.Legible)
    (hHeads : ∀ {e' : Entity} {words words' : List String} {rest rest' : List Char}, e'.Legible →
      Closes words rest → Closes words' rest' → words.length = words'.length →
      e.type.headWords e.isModified = e'.type.headWords e'.isModified →
      e.type.headRest e.isModified ++ e.behind words rest =
        e'.type.headRest e'.isModified ++ e'.behind words' rest' →
      e.type.shown = e'.type.shown ∧ e.behind words rest = e'.behind words' rest') : e.Readable := by
  intro e' words words' rest rest' hLegible' hCloses hCloses' hLength h
  obtain ⟨hWords, hRest⟩ := heads_eq hLegible hLegible' hCloses hCloses' hLength h
  obtain ⟨hShown, hBehind⟩ := hHeads hLegible' hCloses hCloses' hLength hWords hRest
  obtain ⟨hPointers, hArrays, hNames, hTail⟩ :=
    modifiers_inj hLegible.parts.1 hLegible'.parts.1 hCloses hCloses' hBehind
  exact ⟨(shown_eq_iff "").mpr ⟨hPointers, hArrays, hShown⟩, hNames, hTail⟩

theorem readable_scalar {e : Entity} {s : Scalar} (hType : e.type = .scalar s) (hLegible : e.Legible) :
    e.Readable := by
  refine readable_of_heads hLegible fun {e' words words' rest rest'} hLegible' _ _ _ hWords hRest => ?_
  have hScalar := hLegible.parts.2
  rw [hType, Descriptor.Legible] at hScalar
  have hScalar' := hLegible'.parts.2
  rw [hType] at hWords hRest ⊢
  cases hType' : e'.type with
  | scalar s' =>
      rw [hType', Descriptor.Legible] at hScalar'
      rw [hType'] at hWords hRest
      obtain rfl := Scalar.words_inj hScalar hScalar' hWords
      exact ⟨rfl, List.append_cancel_left hRest⟩
  | aggregate a =>
      rw [hType'] at hWords
      exact absurd hWords (Descriptor.scalar_ne_aggregate hScalar a)
  | function f =>
      rw [hType'] at hWords hRest
      exact absurd hRest (Descriptor.scalar_ne_function hScalar f hWords)

theorem readable_aggregate {e : Entity} {a : Aggregate} (hType : e.type = .aggregate a)
    (hLegible : e.Legible) : e.Readable := by
  refine readable_of_heads hLegible fun {e' words words' rest rest'} hLegible' _ _ _ hWords hRest => ?_
  have hLegibleType' := hLegible'.parts.2
  rw [hType] at hWords hRest ⊢
  cases hType' : e'.type with
  | scalar s' =>
      rw [hType', Descriptor.Legible] at hLegibleType'
      rw [hType'] at hWords
      exact absurd hWords.symm (Descriptor.scalar_ne_aggregate hLegibleType' a)
  | aggregate a' =>
      obtain ⟨tag, isUnion, members⟩ := a
      obtain ⟨tag', isUnion', members'⟩ := a'
      rw [hType'] at hWords hRest
      obtain ⟨hKeyword, hTags⟩ := List.cons.inj hWords
      obtain rfl : tag = tag' := by
        cases tag <;> cases tag' <;> simp_all
      have hUnion : isUnion = isUnion' := by
        cases isUnion <;> cases isUnion' <;> simp [Aggregate.keyword] at hKeyword ⊢
      exact ⟨by rw [Descriptor.shown, Descriptor.shown, hUnion], List.append_cancel_left hRest⟩
  | function f =>
      rw [hType'] at hWords
      exact absurd hWords (Descriptor.aggregate_ne_function a f)

/-- Two functions are read alike where both stand in parentheses, and where neither does. -/
theorem functions_eq {e e' returns returns' : Entity} {params params' : List Entity}
    {variadic variadic' : Bool} {words words' : List String} {rest rest' : List Char}
    (hReturns : returns.Readable) (hParams : ReadableParams params)
    (hLegible : Entity.LegibleParams params) (hLegible' : Entity.LegibleParams params')
    (hLegibleReturns' : returns'.Legible)
    (hCloses : Closes words rest) (hCloses' : Closes words' rest') (hLength : words.length = words'.length)
    (hModified : e.isModified = e'.isModified)
    (hRest : (Descriptor.function ⟨returns, params, variadic⟩).headRest e.isModified ++ e.behind words rest =
      (Descriptor.function ⟨returns', params', variadic'⟩).headRest e'.isModified ++
        e'.behind words' rest') :
    (Descriptor.function ⟨returns, params, variadic⟩).shown =
      (Descriptor.function ⟨returns', params', variadic'⟩).shown ∧
    e.behind words rest = e'.behind words' rest' := by
  cases hCase : e.isModified with
  | true =>
      -- The parentheses close what is returned.
      rw [← hModified, hCase] at hRest
      have hSignatures :
          FunctionType.signature ⟨returns, params, variadic⟩ ++
            (spaced [] ++ ')' :: e.behind words rest) =
          FunctionType.signature ⟨returns', params', variadic'⟩ ++
            (spaced [] ++ ')' :: e'.behind words' rest') := by
        simpa [Descriptor.headRest, FunctionType.toList_text] using hRest
      obtain ⟨hShown, -, hBehind⟩ := FunctionType.signature_inj hReturns hParams hLegible hLegible'
        hLegibleReturns' (.closing _) (.closing _) rfl hSignatures
      exact ⟨hShown, (List.cons.inj hBehind).2⟩
  | false =>
      -- What is returned is closed by the same as the function itself.
      have hBehind := behind_of_not_modified hCase words rest
      have hBehind' := behind_of_not_modified (hModified ▸ hCase) words' rest'
      rw [← hModified, hCase, hBehind, hBehind'] at hRest
      obtain ⟨hShown, rfl, rfl⟩ := FunctionType.signature_inj hReturns hParams hLegible hLegible'
        hLegibleReturns' hCloses hCloses' hLength hRest
      exact ⟨hShown, by rw [hBehind, hBehind']⟩

theorem readable_function {e returns : Entity} {params : List Entity} {variadic : Bool}
    (hType : e.type = .function ⟨returns, params, variadic⟩) (hLegible : e.Legible)
    (hReturns : returns.Readable) (hParams : ReadableParams params) : e.Readable := by
  refine readable_of_heads hLegible
    fun {e' words words' rest rest'} hLegible' hCloses hCloses' hLength hWords hRest => ?_
  have hFunction := hLegible.parts.2
  rw [hType, Descriptor.Legible] at hFunction
  have hLegibleType' := hLegible'.parts.2
  rw [hType] at hWords hRest ⊢
  cases hType' : e'.type with
  | scalar s' =>
      rw [hType', Descriptor.Legible] at hLegibleType'
      rw [hType'] at hWords hRest
      exact absurd hRest.symm (Descriptor.scalar_ne_function hLegibleType' _ hWords.symm)
  | aggregate a' =>
      rw [hType'] at hWords
      exact absurd hWords.symm (Descriptor.aggregate_ne_function a' _)
  | function f' =>
      obtain ⟨returns', params', variadic'⟩ := f'
      rw [hType', Descriptor.Legible] at hLegibleType'
      rw [hType'] at hWords hRest
      have hModified : e.isModified = e'.isModified := by
        cases hCase : e.isModified <;> cases hCase' : e'.isModified <;>
          simp [Descriptor.headWords, hCase, hCase'] at hWords ⊢
      exact functions_eq hReturns hParams hFunction.2 hLegibleType'.2 hLegibleType'.1 hCloses hCloses'
        hLength hModified hRest

end Entity

mutual

/-- The type of an entity can be read off its text. -/
theorem Entity.readable : ∀ e : Entity, e.Legible → e.Readable
  | ⟨_, .scalar _, _, _, _, _, _, _⟩, hLegible => Entity.readable_scalar rfl hLegible
  | ⟨_, .aggregate _, _, _, _, _, _, _⟩, hLegible => Entity.readable_aggregate rfl hLegible
  | ⟨_, .function ⟨returns, params, _⟩, _, _, _, _, _, _⟩, hLegible => by
      have hFunction := hLegible.parts.2
      rw [Descriptor.Legible] at hFunction
      exact Entity.readable_function rfl hLegible (Entity.readable returns hFunction.1)
        (Entity.readableParams params hFunction.2)

theorem Entity.readableParams : ∀ params : List Entity,
    Entity.LegibleParams params → Entity.ReadableParams params
  | [], _ => Entity.readableParams_nil
  | p :: rest, hLegible => by
      rw [Entity.LegibleParams] at hLegible
      exact Entity.readableParams_cons hLegible.1.1 hLegible.1.2 (Entity.readable p hLegible.1.2)
        (Entity.readableParams rest hLegible.2)

end

/-- Types are written alike only if they have the same pointers and dimensions and agree in everything
that is shown of their descriptors. -/
theorem Entity.typeText_eq_iff {e e' : Entity} (hLegible : e.Legible) (hLegible' : e'.Legible) :
    e.typeText = e'.typeText ↔
      e.pointers = e'.pointers ∧ e.arrays = e'.arrays ∧ e.type.shown = e'.type.shown := by
  rw [← Entity.shown_eq_iff ""]
  constructor
  · intro hText
    have hCloses : Closes [] [] := ⟨nofun, nofun⟩
    exact (Entity.readable e hLegible hLegible' hCloses hCloses rfl (by rw [hText])).1
  · intro hShown
    rw [← Entity.typeText_shown "" e, hShown, Entity.typeText_shown]

/-- The type `int`, with pointers and dimensions. -/
def Entity.ofInt (pointers : UInt32) (arrays : List Dimension) : Entity :=
  { ofType (.scalar { base := some .int }) with pointers := pointers, arrays := arrays }

/-- A pointer to a function, a function that returns a pointer, an array of functions and a function that
returns an array; each of them takes a function, too. -/
def functionTypes : List Entity :=
  let callback : Entity :=
    { Entity.ofType (.function ⟨.ofInt 0 [], [{ Entity.ofInt 0 [.unsized] with name := "v" }], true⟩) with
      name := "f", pointers := 1 }
  let function (returns : Entity) : Entity := .ofType (.function ⟨returns, [callback], false⟩)
  [{ function (.ofInt 0 []) with pointers := 1 }, function (.ofInt 1 []),
    { function (.ofInt 0 []) with arrays := [.known 3] }, function (.ofInt 0 [.known 3])]

theorem functionTypes_nodup :
    (∀ e ∈ functionTypes, e.Legible) ∧ (functionTypes.map Entity.typeText).Nodup := by
  have hInt : Scalar.Legible { base := some .int } := ⟨by simp, by simp⟩
  have hNames : IsWord "f" ∧ IsWord "v" := by decide
  have hLegible : ∀ e ∈ functionTypes, e.Legible := by
    simp [functionTypes, Entity.ofType, Entity.ofInt, Entity.Legible, Descriptor.Legible,
      Entity.LegibleParams, Dimension.Legible, hInt, hNames]
  refine ⟨hLegible, ?_⟩
  rw [List.Nodup, List.pairwise_map]
  refine List.Pairwise.imp_of_mem (R := fun e e' => ¬(e.pointers = e'.pointers ∧ e.arrays = e'.arrays ∧
    e.type.shown = e'.type.shown)) (fun {e e'} hMem hMem' hOther hText => ?_) ?_
  · exact hOther ((Entity.typeText_eq_iff (hLegible e hMem) (hLegible e' hMem')).mp hText)
  · simp [functionTypes, Entity.ofType, Entity.ofInt, Descriptor.shown, Entity.shown]

end CDecl
