/-!
# Tables in order of first entry

A table holds one value for each of its keys.  Keys keep the order in which they were first entered;
entering a key again replaces its value in place.  `keys_insert` and `find?_insert` describe an
insertion through the two views of a table, its keys and its values.
-/

namespace CDecl

/-- The entries with the value at `key` replaced, or with a new entry at the end. -/
def insertEntry {α : Type} (key : String) (value : α) :
    List (String × α) → List (String × α)
  | [] => [(key, value)]
  | (k, v) :: rest =>
      if k = key then (k, value) :: rest else (k, v) :: insertEntry key value rest

/-- An insertion keeps the keys and their order, and appends the key if it is new. -/
theorem map_fst_insertEntry {α : Type} (key : String) (value : α) (entries : List (String × α)) :
    (insertEntry key value entries).map Prod.fst =
      if key ∈ entries.map Prod.fst then entries.map Prod.fst
      else entries.map Prod.fst ++ [key] := by
  induction entries with
  | nil => simp [insertEntry]
  | cons entry rest ih =>
      obtain ⟨k, v⟩ := entry
      by_cases h : k = key
      · simp [insertEntry, h]
      · have h' : ¬ key = k := fun e => h e.symm
        simp only [insertEntry, h, if_false, List.map_cons, ih, List.mem_cons, h', false_or]
        split <;> simp

/-- A value for each of finitely many keys, in order of first entry. -/
structure Table (α : Type) where
  entries : List (String × α)
  keys_nodup : (entries.map Prod.fst).Nodup

namespace Table

variable {α : Type}

/-- The table without entries. -/
def empty : Table α := ⟨[], by simp⟩

instance : Inhabited (Table α) := ⟨empty⟩

/-- The keys in order of first entry. -/
def keys (t : Table α) : List String := t.entries.map Prod.fst

/-- The values in the order of their keys. -/
def values (t : Table α) : List α := t.entries.map Prod.snd

/-- The value at a key. -/
def find? (t : Table α) (key : String) : Option α := t.entries.lookup key

/-- Whether a key has been entered. -/
def contains (t : Table α) (key : String) : Bool := (t.find? key).isSome

/-- Enters a value, at the end unless the key is there already. -/
def insert (t : Table α) (key : String) (value : α) : Table α where
  entries := insertEntry key value t.entries
  keys_nodup := by
    rw [map_fst_insertEntry]
    split
    · exact t.keys_nodup
    · next h =>
        rw [List.nodup_append]
        refine ⟨t.keys_nodup, by simp, ?_⟩
        intro a ha b hb hab
        simp only [List.mem_singleton] at hb
        exact h (hb ▸ hab ▸ ha)

/-- A key that is entered again keeps its place; a new one comes last. -/
theorem keys_insert (t : Table α) (key : String) (value : α) :
    (t.insert key value).keys = if key ∈ t.keys then t.keys else t.keys ++ [key] :=
  map_fst_insertEntry key value t.entries

theorem mem_keys_insert {t : Table α} {key other : String} {value : α} :
    other ∈ (t.insert key value).keys ↔ other ∈ t.keys ∨ other = key := by
  rw [keys_insert]
  by_cases hKey : key ∈ t.keys
  · rw [if_pos hKey]
    constructor
    · exact Or.inl
    · rintro (hMem | rfl)
      · exact hMem
      · exact hKey
  · rw [if_neg hKey, List.mem_append, List.mem_singleton]

/-- An insertion is seen at its own key and nowhere else. -/
theorem find?_insert (t : Table α) (key other : String) (value : α) :
    (t.insert key value).find? other = if other = key then some value else t.find? other := by
  obtain ⟨entries, h⟩ := t
  simp only [find?, insert]
  clear h
  induction entries with
  | nil =>
      by_cases h : other = key
      · simp [insertEntry, h]
      · simp [insertEntry, List.lookup_cons, h, beq_false_of_ne h]
  | cons entry rest ih =>
      obtain ⟨k, v⟩ := entry
      by_cases hk : k = key
      · subst hk
        by_cases h : other = k
        · simp [insertEntry, h]
        · simp [insertEntry, List.lookup_cons, h, beq_false_of_ne h]
      · by_cases h : other = k
        · subst h
          simp [insertEntry, hk]
        · simp [insertEntry, List.lookup_cons, hk, beq_false_of_ne h, ih]

/-- The value at a key is the one that is listed with it. -/
theorem find?_eq_some_iff {t : Table α} {key : String} {value : α} :
    t.find? key = some value ↔ (key, value) ∈ t.entries := by
  obtain ⟨entries, hNodup⟩ := t
  simp only [find?]
  induction entries with
  | nil => simp
  | cons entry rest ih =>
      obtain ⟨k, v⟩ := entry
      simp only [List.map_cons, List.nodup_cons] at hNodup
      rw [List.lookup_cons, List.mem_cons, Prod.mk.injEq]
      by_cases h : key = k
      · subst h
        -- The key comes only once, so no other entry has it.
        have hAbsent : (key, value) ∉ rest := fun hMem =>
          hNodup.1 (List.mem_map.mpr ⟨_, hMem, rfl⟩)
        simp [hAbsent, eq_comm]
      · simp [beq_false_of_ne h, h, ih hNodup.2]

/-- A table is read off its keys and their values. -/
theorem entries_eq_map {t : Table α} {f : String → α}
    (hf : ∀ key value, t.find? key = some value → f key = value) :
    t.entries = t.keys.map fun key => (key, f key) := by
  have hEntry : ∀ entry ∈ t.entries, entry = (entry.1, f entry.1) := by
    intro entry hMem
    rw [hf entry.1 entry.2 (find?_eq_some_iff.mpr hMem)]
  calc t.entries = t.entries.map id := (List.map_id _).symm
    _ = t.entries.map fun entry => (entry.1, f entry.1) := List.map_congr_left hEntry
    _ = t.keys.map fun key => (key, f key) := by rw [keys, List.map_map]; rfl

/-- A table lists its keys, each with the value at it. -/
theorem entries_eq_filterMap (t : Table α) :
    t.entries = t.keys.filterMap fun key => (t.find? key).map fun value => (key, value) := by
  have hEntry : ∀ entries : List (String × α), (∀ entry ∈ entries, entry ∈ t.entries) →
      entries = (entries.map Prod.fst).filterMap fun key =>
        (t.find? key).map fun value => (key, value) := by
    intro entries hListed
    induction entries with
    | nil => rfl
    | cons entry rest ih =>
        have hValue : t.find? entry.1 = some entry.2 :=
          find?_eq_some_iff.mpr (hListed entry (.head _))
        rw [List.map_cons, List.filterMap_cons, hValue, Option.map_some,
          ← ih fun e hMem => hListed e (.tail _ hMem)]
  exact hEntry t.entries fun _ hMem => hMem

/-- Tables are the same if their keys are, in their order, and show the same values. -/
theorem ext_find? {t t' : Table α} (hKeys : t.keys = t'.keys)
    (hFind : ∀ key, t.find? key = t'.find? key) : t = t' := by
  have hEntries : t.entries = t'.entries := by
    rw [entries_eq_filterMap, entries_eq_filterMap, hKeys, funext hFind]
  cases t
  cases t'
  cases hEntries
  rfl

/-- Enters several values one after the other. -/
def insertAll (t : Table α) (entries : List (String × α)) : Table α :=
  entries.foldl (fun t entry => t.insert entry.1 entry.2) t

@[simp] theorem insertAll_nil (t : Table α) : t.insertAll [] = t := rfl

@[simp] theorem insertAll_cons (t : Table α) (entry : String × α) (entries : List (String × α)) :
    t.insertAll (entry :: entries) = (t.insert entry.1 entry.2).insertAll entries := rfl

/-- Insertions leave the keys that are there in their places. -/
theorem keys_prefix_insertAll (t : Table α) (entries : List (String × α)) :
    t.keys <+: (t.insertAll entries).keys := by
  induction entries generalizing t with
  | nil => exact List.prefix_rfl
  | cons entry rest ih =>
      have hHere : t.keys <+: (t.insert entry.1 entry.2).keys := by
        rw [keys_insert]
        split
        · exact List.prefix_rfl
        · exact List.prefix_append _ _
      exact hHere.trans (ih (t.insert entry.1 entry.2))

theorem mem_keys_insertAll {t : Table α} {entries : List (String × α)} {key : String} :
    key ∈ (t.insertAll entries).keys ↔ key ∈ t.keys ∨ key ∈ entries.map Prod.fst := by
  induction entries generalizing t with
  | nil => simp
  | cons entry rest ih =>
      rw [insertAll_cons, ih, mem_keys_insert, List.map_cons, List.mem_cons, or_assoc]

/-- Insertions at keys that are there already add none. -/
theorem keys_insertAll_of_subset {t : Table α} {entries : List (String × α)}
    (hKeys : ∀ entry ∈ entries, entry.1 ∈ t.keys) : (t.insertAll entries).keys = t.keys := by
  induction entries generalizing t with
  | nil => rfl
  | cons entry rest ih =>
      have hHere : (t.insert entry.1 entry.2).keys = t.keys := by
        rw [keys_insert, if_pos (hKeys entry (.head _))]
      rw [insertAll_cons, ih fun e hMem => hHere ▸ hKeys e (.tail _ hMem), hHere]

/-- The value at a key is the one that is inserted there last, if there is one. -/
theorem find?_insertAll (t : Table α) (entries : List (String × α)) (key : String) :
    (t.insertAll entries).find? key =
      ((entries.reverse.find? (·.1 == key)).map Prod.snd).or (t.find? key) := by
  induction entries generalizing t with
  | nil => rfl
  | cons entry rest ih =>
      rw [insertAll_cons, ih, find?_insert, List.reverse_cons, List.find?_append, Option.map_or,
        Option.or_assoc]
      congr 1
      by_cases hKey : key = entry.1
      · simp [hKey]
      · have hOther : ¬entry.1 = key := fun h => hKey h.symm
        simp [hKey, hOther]

/-- The same insertions a second time change nothing, also where one of them replaces another. -/
theorem insertAll_insertAll (t : Table α) (entries : List (String × α)) :
    (t.insertAll entries).insertAll entries = t.insertAll entries := by
  apply ext_find?
  · refine keys_insertAll_of_subset fun entry hMem => ?_
    exact mem_keys_insertAll.mpr (.inr (List.mem_map_of_mem hMem))
  · intro key
    simp only [find?_insertAll, ← Option.or_assoc, Option.or_self]

/-- An insertion replaces or adds the entry also where values are replaced by others. -/
theorem map_insertEntry {β : Type} (f : α → β) (key : String) (value : α)
    (entries : List (String × α)) :
    (insertEntry key value entries).map (Prod.map id f) =
      insertEntry key (f value) (entries.map (Prod.map id f)) := by
  induction entries with
  | nil => rfl
  | cons entry rest ih =>
      obtain ⟨k, v⟩ := entry
      by_cases h : k = key
      · simp [insertEntry, h]
      · simp [insertEntry, h, ih]

/-- The table with its values replaced, each at its key. -/
def map {β : Type} (f : α → β) (t : Table α) : Table β where
  entries := t.entries.map (Prod.map id f)
  keys_nodup := by
    rw [List.map_map]
    exact t.keys_nodup

@[simp] theorem keys_map {β : Type} (f : α → β) (t : Table α) : (t.map f).keys = t.keys := by
  simp [keys, map, Function.comp_def]

@[simp] theorem values_map {β : Type} (f : α → β) (t : Table α) :
    (t.map f).values = t.values.map f := by
  simp [values, map, Function.comp_def]

theorem map_insert {β : Type} (f : α → β) (t : Table α) (key : String) (value : α) :
    (t.insert key value).map f = (t.map f).insert key (f value) := by
  simp only [map, insert, map_insertEntry]

/-- The number of entries. -/
def size (t : Table α) : Nat := t.entries.length

/-- Whether there is no entry. -/
def isEmpty (t : Table α) : Bool := t.entries.isEmpty

end Table

end CDecl
