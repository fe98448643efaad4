/-!
# The first piece of a text

A piece that consists of characters of one kind, and is followed by no other character of that kind,
can be read off the front of a text (`pieces_inj`).  So can the words at the front, if each stands behind
a blank (`spaced_inj`).
-/

namespace CDecl

variable {α : Type} {kind : α → Prop}

/-- Whether a list does not go on with an element of the kind. -/
def Stops (kind : α → Prop) (rest : List α) : Prop := ∀ x ∈ rest.head?, ¬ kind x

theorem stops_nil : Stops kind [] := nofun

theorem stops_cons {x : α} {rest : List α} : Stops kind (x :: rest) ↔ ¬ kind x := by
  simp [Stops]

theorem pieces_inj (kind : α → Prop) {first second rest rest' : List α}
    (hFirst : ∀ x ∈ first, kind x) (hSecond : ∀ x ∈ second, kind x)
    (hRest : Stops kind rest) (hRest' : Stops kind rest')
    (h : first ++ rest = second ++ rest') : first = second ∧ rest = rest' := by
  induction first generalizing second with
  | nil =>
      cases second with
      | nil => exact ⟨rfl, h⟩
      | cons x second =>
          subst h
          exact absurd (hSecond x (.head _)) (hRest x rfl)
  | cons x first ih =>
      cases second with
      | nil =>
          subst h
          exact absurd (hFirst x (.head _)) (hRest' x rfl)
      | cons y second =>
          obtain ⟨rfl, hTail⟩ := List.cons.inj h
          obtain ⟨rfl, rfl⟩ := ih (fun z hMem => hFirst z (.tail _ hMem))
            (fun z hMem => hSecond z (.tail _ hMem)) hTail
          exact ⟨rfl, rfl⟩

/-! ### Words -/

/-- Letters, digits and underscores. -/
def IsWordChar (c : Char) : Prop := c.isAlphanum ∨ c = '_'

instance : DecidablePred IsWordChar := fun c => inferInstanceAs (Decidable (c.isAlphanum ∨ c = '_'))

/-- Words are made of letters, digits and underscores, as C identifiers are. -/
def IsWord (s : String) : Prop := s ≠ "" ∧ ∀ c ∈ s.toList, IsWordChar c

instance : DecidablePred IsWord :=
  fun s => @instDecidableAnd _ _ inferInstance (List.decidableBAll IsWordChar s.toList)

theorem IsWord.exists_cons {s : String} (h : IsWord s) :
    ∃ c rest, s.toList = c :: rest ∧ IsWordChar c := by
  cases hChars : s.toList with
  | nil => exact absurd (String.toList_eq_nil_iff.mp hChars) h.1
  | cons c rest => exact ⟨c, rest, rfl, h.2 c (hChars ▸ .head _)⟩

/-- Words, each behind a blank. -/
def spaced (words : List String) : List Char := words.flatMap fun w => ' ' :: w.toList

@[simp] theorem spaced_nil : spaced [] = [] := rfl

@[simp] theorem spaced_cons (w : String) (words : List String) :
    spaced (w :: words) = ' ' :: (w.toList ++ spaced words) := rfl

theorem spaced_append (first second : List String) (rest : List Char) :
    spaced (first ++ second) ++ rest = spaced first ++ (spaced second ++ rest) := by
  rw [spaced, List.flatMap_append, List.append_assoc]
  rfl

/-- Whether a list goes on with no word, neither at once nor behind a blank. -/
def NoWord (rest : List Char) : Prop :=
  Stops IsWordChar rest ∧ ∀ tail, rest = ' ' :: tail → Stops IsWordChar tail

theorem stops_spaced {words : List String} {rest : List Char} (hRest : NoWord rest) :
    Stops IsWordChar (spaced words ++ rest) := by
  cases words with
  | nil => exact hRest.1
  | cons w words =>
      rw [spaced_cons, List.cons_append, stops_cons]
      decide

/-- The words at the front of a text can be told from what follows them. -/
theorem spaced_inj : ∀ {first second : List String} {rest rest' : List Char},
    (∀ w ∈ first, IsWord w) → (∀ w ∈ second, IsWord w) → NoWord rest → NoWord rest' →
    spaced first ++ rest = spaced second ++ rest' → first = second ∧ rest = rest'
  | [], [], _, _, _, _, _, _, h => ⟨rfl, h⟩
  | [], w :: second, rest, rest', _, hSecond, hRest, _, h => by
      obtain ⟨c, tail, hWord, hChar⟩ := (hSecond w (.head _)).exists_cons
      rw [spaced_cons, hWord] at h
      exact absurd hChar (stops_cons.mp (hRest.2 _ h))
  | w :: first, [], rest, rest', hFirst, _, _, hRest', h => by
      obtain ⟨c, tail, hWord, hChar⟩ := (hFirst w (.head _)).exists_cons
      rw [spaced_cons, hWord] at h
      exact absurd hChar (stops_cons.mp (hRest'.2 _ h.symm))
  | w :: first, v :: second, rest, rest', hFirst, hSecond, hRest, hRest', h => by
      rw [List.forall_mem_cons] at hFirst hSecond
      rw [spaced_cons, spaced_cons, List.cons_append, List.cons_append, List.append_assoc,
        List.append_assoc] at h
      obtain ⟨hWord, hTail⟩ := pieces_inj IsWordChar hFirst.1.2 hSecond.1.2 (stops_spaced hRest)
        (stops_spaced hRest') (List.cons.inj h).2
      obtain ⟨rfl, rfl⟩ := spaced_inj hFirst.2 hSecond.2 hRest hRest' hTail
      exact ⟨by rw [String.toList_inj.mp hWord], rfl⟩

/-! ### Numbers -/

/-- A number is told by its digits. -/
theorem toDigits_ten_inj {m n : Nat} (h : Nat.toDigits 10 m = Nat.toDigits 10 n) : m = n := by
  rw [← Nat.ofDigitChars_ten_toDigits (n := m), h, Nat.ofDigitChars_ten_toDigits]

/-! ### Separators -/

theorem toList_intercalate_cons (separator t : String) : ∀ texts : List String,
    (separator.intercalate (t :: texts)).toList =
      t.toList ++ texts.flatMap fun u => separator.toList ++ u.toList
  | [] => by simp
  | u :: texts => by
      rw [String.intercalate_cons_cons, String.toList_append, String.toList_append,
        toList_intercalate_cons separator u texts]
      simp

end CDecl
