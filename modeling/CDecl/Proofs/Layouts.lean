import CDecl.Syntax.Decode
import CDecl.Syntax.Encode
import Mathlib.Data.List.Nodup

/-!
# Reading along layouts

One rule for each way in which a value can be laid out says what a document has to hold so that the value
is read from it: the fields of a record in their order, the parts of a tuple, the name of a variant with
what it carries.

The rule for records needs that no two fields of a record share a name, so that what stands at a name is
what was written for the field; `Layout.names_nodup` checks this for every layout of the format.
-/

namespace CDecl

namespace Layout

/-- The fields of a record. -/
def fields {α : Type} : Layout α → List Field
  | .record fields _ => fields
  | .body fields _ => fields
  | _ => []

/-- What a choice offers under a name. -/
def variant? {α : Type} (name : String) : Layout α → Option (Variant α)
  | .choice variants => variants.lookup name
  | _ => none

theorem names_nodup (s : Shape) : ((ofShape s).fields.map (·.name)).Nodup := by
  -- Options and lists have no fields; elsewhere the names are spelled out and can be compared.
  cases s with
  | option t => exact List.nodup_nil
  | list t => exact List.nodup_nil
  | _ => decide

end Layout

namespace Form

variable {bodies : BodyForm} {s : Shape} {form : Form}

/-- A shape with a layout other than that of a leaf is read along it. -/
theorem read_eq_readLayout {layout : Layout s.Value} (hLayout : Layout.ofShape s = layout)
    (hLeaf : ∀ read, layout ≠ .atom read) : form.read bodies s = form.readLayout bodies layout := by
  subst hLayout
  cases s with
  | option t => exact absurd rfl (hLeaf _)
  | list t => exact absurd rfl (hLeaf _)
  | _ => rfl

/-- Where no key is repeated, one view stands at each key. -/
theorem viewsAt_eq_singleton {name : String} {view : View} : ∀ {entries : List (String × View)},
    (entries.map (·.1)).Nodup → (name, view) ∈ entries → viewsAt name entries = [view]
  | (key, other) :: rest, hKeys, hMem => by
      rw [List.map_cons, List.nodup_cons] at hKeys
      obtain ⟨hKey, hKeys⟩ := hKeys
      obtain hHead | hRest := List.mem_cons.mp hMem
      · obtain ⟨rfl, rfl⟩ := Prod.mk.inj hHead
        have hNone : ∀ entry ∈ rest, ¬ (entry.1 == name) = true := by
          intro entry hEntry hName
          exact hKey (List.mem_map.mpr ⟨entry, hEntry, beq_iff_eq.mp hName⟩)
        simp [viewsAt, List.filter_eq_nil_iff.mpr hNone]
      · have hOther : (key == name) = false := by
          refine beq_eq_false_iff_ne.mpr ?_
          rintro rfl
          exact hKey (List.mem_map.mpr ⟨_, hRest, rfl⟩)
        have hThere : viewsAt name rest = [view] := viewsAt_eq_singleton hKeys hRest
        simpa [viewsAt, List.filter_cons, hOther] using hThere

end Form

namespace Json

/-- A piece of a document is read as a value. -/
def Reads (bodies : BodyForm) (s : Shape) (j : Json) (v : s.Value) : Prop := j.view bodies s = some v

/-- The entries of an object are the fields of a record in their order, each read as its value. -/
inductive FieldsRead (bodies : BodyForm) :
    (fields : List Field) → List (String × Json) → Values fields → Prop
  | nil : FieldsRead bodies [] [] ()
  | cons {f : Field} {j : Json} {value : f.shape.Value} {entries : List (String × Json)}
      {fields : List Field} {values : Values fields} (hValue : Reads bodies f.shape j value)
      (hValues : FieldsRead bodies fields entries values) :
      FieldsRead bodies (f :: fields) ((f.name, j) :: entries) (value, values)

/-- The items of a list are read as the parts of a tuple. -/
inductive PartsRead (bodies : BodyForm) : (parts : List Shape) → List Json → Parts parts → Prop
  | nil : PartsRead bodies [] [] ()
  | cons {s : Shape} {j : Json} {value : s.Value} {items : List Json} {parts : List Shape}
      {values : Parts parts} (hValue : Reads bodies s j value) (hValues : PartsRead bodies parts items values) :
      PartsRead bodies (s :: parts) (j :: items) (value, values)

variable {bodies : BodyForm} {s : Shape}

theorem viewEntries_eq_map (entries : List (String × Json)) :
    viewEntries bodies entries = entries.map fun entry => (entry.1, entry.2.view bodies) := by
  induction entries with
  | nil => rfl
  | cons entry rest ih => rw [viewEntries, ih, List.map_cons]

/-! ### Records and tuples -/

section Records

variable {fields : List Field} {values : Values fields} {entries : List (String × Json)}

theorem FieldsRead.names (hRead : FieldsRead bodies fields entries values) :
    entries.map (·.1) = fields.map (·.name) := by
  induction hRead with
  | nil => rfl
  | cons hValue hValues ih => rw [List.map_cons, ih, List.map_cons]

/-- Fields that stand in an object without repeated keys are found in it. -/
theorem FieldsRead.readByName (hRead : FieldsRead bodies fields entries values)
    {all : List (String × Json)} (hKeys : (all.map (·.1)).Nodup) (hSubset : ∀ entry ∈ entries, entry ∈ all) :
    Form.readByName (viewEntries bodies all) fields = some values := by
  induction hRead with
  | nil => rfl
  | @cons f j value _ _ _ hValue hValues ih =>
      have hAt : Form.viewsAt f.name (viewEntries bodies all) = [j.view bodies] := by
        rw [viewEntries_eq_map]
        refine Form.viewsAt_eq_singleton ?_ (List.mem_map.mpr ⟨_, hSubset _ (List.mem_cons_self ..), rfl⟩)
        rwa [List.map_map]
      have hRest := ih fun entry hEntry => hSubset entry (List.mem_cons_of_mem _ hEntry)
      have hValue : j.view bodies f.shape = some value := hValue
      simp [Form.readByName, hAt, hValue, hRest]

variable {build : Values fields → s.Value} {v : s.Value}

/-- An object with exactly the fields of a layout in their order, where the layout is one of fields. -/
theorem Reads.ofFields {layout : Layout s.Value} (hLayout : Layout.ofShape s = layout)
    (hLeaf : ∀ read, layout ≠ .atom read) (hFields : layout.fields = fields)
    (hObject : ∀ entries, (Form.object entries).readLayout bodies layout =
      (Form.readByName entries fields).map build)
    (hBuild : build values = v) (hRead : FieldsRead bodies fields entries values) :
    Reads bodies s (.obj entries) v := by
  have hNames : (fields.map (·.name)).Nodup := by
    rw [← hFields, ← hLayout]
    exact Layout.names_nodup s
  have hValues : Form.readByName (viewEntries bodies entries) fields = some values :=
    hRead.readByName (by rwa [hRead.names]) fun _ => id
  show (Form.object (viewEntries bodies entries)).read bodies s = _
  rw [Form.read_eq_readLayout hLayout hLeaf, hObject, hValues, Option.map_some, hBuild]

/-- A record is read where its fields are read as the values that it is built from. -/
theorem Reads.record (hLayout : Layout.ofShape s = .record fields build) (values : Values fields)
    (hBuild : build values = v) (hRead : FieldsRead bodies fields entries values) :
    Reads bodies s (.obj entries) v :=
  .ofFields hLayout (by nofun) rfl (fun _ => rfl) hBuild hRead

theorem Reads.body (hLayout : Layout.ofShape s = .body fields build) (values : Values fields)
    (hBuild : build values = v) (hRead : FieldsRead bodies fields entries values) :
    Reads bodies s (.obj entries) v :=
  .ofFields hLayout (by nofun) rfl (fun _ => rfl) hBuild hRead

/-- A node of a kind and its place. -/
theorem Reads.placed {kindShape : Shape} {build : Values (Layout.kindFields kindShape) → s.Value}
    {kind : Json} {kindValue : kindShape.Value} {span : Json} {spanValue : Span}
    (hLayout : Layout.ofShape s = .record (Layout.kindFields kindShape) build)
    (hKind : Reads bodies kindShape kind kindValue) (hSpan : Reads bodies .span span spanValue)
    (hBuild : build (kindValue, spanValue, ()) = v) : Reads bodies s (.placed kind span) v := by
  rw [Json.placed]
  refine .record hLayout (kindValue, spanValue, ()) hBuild ?_
  exact .cons hKind (.cons hSpan .nil)

end Records

theorem PartsRead.readParts {items : List Json} {parts : List Shape} {values : Parts parts}
    (hRead : PartsRead bodies parts items values) :
    Form.readParts parts (viewItems bodies items) = some values := by
  induction hRead with
  | nil => rfl
  | @cons s j value _ _ _ hValue hValues ih =>
      have hValue : j.view bodies s = some value := hValue
      simp [viewItems, Form.readParts, hValue, ih]

theorem Reads.tuple {items : List Json} {parts : List Shape} {build : Parts parts → s.Value} {v : s.Value}
    (hLayout : Layout.ofShape s = .tuple parts build) (values : Parts parts) (hBuild : build values = v)
    (hRead : PartsRead bodies parts items values) : Reads bodies s (.arr items) v := by
  show (Form.list (viewItems bodies items)).read bodies s = _
  rw [Form.read_eq_readLayout hLayout (by nofun)]
  show (Form.readParts parts (viewItems bodies items)).map build = _
  rw [hRead.readParts, Option.map_some, hBuild]

/-! ### Choices -/

section Choices

variable {name : String} {v : s.Value}

theorem Reads.bare (hVariant : (Layout.ofShape s).variant? name = some (.bare v)) :
    Reads bodies s (.str name) v := by
  cases hLayout : Layout.ofShape s with
  | choice variants =>
      have hLookup : variants.lookup name = some (.bare v) := by rwa [hLayout] at hVariant
      show (Form.atom (.str name)).read bodies s = _
      rw [Form.read_eq_readLayout hLayout (by nofun)]
      simp only [Form.readLayout, hLookup]
  | _ => rw [hLayout] at hVariant; cases hVariant

theorem Reads.tagged {t : Shape} {build : t.Value → s.Value} {j : Json} {value : t.Value}
    (hVariant : (Layout.ofShape s).variant? name = some (.carrying t build))
    (hValue : Reads bodies t j value) (hBuild : build value = v) : Reads bodies s (.tagged name j) v := by
  have hValue : j.view bodies t = some value := hValue
  cases hLayout : Layout.ofShape s with
  | choice variants =>
      have hLookup : variants.lookup name = some (.carrying t build) := by rwa [hLayout] at hVariant
      show (Form.object [(name, j.view bodies)]).read bodies s = _
      rw [Form.read_eq_readLayout hLayout (by nofun)]
      simp [Form.readLayout, hLookup, Form.readVariant, hValue, hBuild]
  | _ => rw [hLayout] at hVariant; cases hVariant

end Choices

/-! ### Lists and options -/

theorem Reads.nil : Reads bodies (.list s) (.arr []) [] := rfl

theorem Reads.cons {j : Json} {items : List Json} {value : s.Value} {values : List s.Value}
    (hValue : Reads bodies s j value) (hRest : Reads bodies (.list s) (.arr items) values) :
    Reads bodies (.list s) (.arr (j :: items)) (value :: values) := by
  have hValue : j.view bodies s = some value := hValue
  have hRest : Form.readItems s (viewItems bodies items) = some values := hRest
  show Form.readItems s (viewItems bodies (j :: items)) = some (value :: values)
  simp [viewItems, Form.readItems, hValue, hRest]

theorem Reads.ofList {f : s.Value → Json} (hItem : ∀ value, Reads bodies s (f value) value)
    {values : List s.Value} : Reads bodies (.list s) (.ofList f values) values := by
  induction values with
  | nil => exact .nil
  | cons value rest ih => exact .cons (hItem value) ih

theorem Reads.none : Reads bodies (.option s) .null none := rfl

/-- What can be read as a shape can be read as an option of it, unless the shape can be read from `null`. -/
theorem Reads.some {j : Json} {value : s.Value} (hNull : Json.null.view bodies s = Option.none)
    (hValue : Reads bodies s j value) : Reads bodies (.option s) j (Option.some value) := by
  have hValue : j.view bodies s = Option.some value := hValue
  have hOption : j.view bodies (.option s) = (j.view bodies s).map Option.some := by
    cases j with
    | null => rw [hNull] at hValue; cases hValue
    | _ => rfl
  rw [Reads, hOption, hValue, Option.map_some]

theorem Reads.ofOption {f : s.Value → Json} (hNull : Json.null.view bodies s = Option.none)
    (hValue : ∀ value, Reads bodies s (f value) value) {value : Option s.Value} :
    Reads bodies (.option s) (.ofOption f value) value := by
  cases value with
  | none => exact .none
  | some value => exact .some hNull (hValue value)

end Json

end CDecl
