import CDecl.Proofs.LineBreaks
import CDecl.Text.Pieces

/-!
# The lines of outlines

An entity is shown at a place: what is known there of its ancestors and of itself is whether each is the
last of its siblings, and the columns of its line tell just that (`Place.line`).  The writer keeps these
columns right from line to line, as it cuts back what it adds to them (`Entity.outline_eq`).

Columns can be told from what follows them, so the lines of an outline give away the depth of every
entity in it, and the depths give away the nesting (`Nesting.depthsOfAll_inj`).
-/

namespace CDecl

/-! ### Places -/

/-- An entity in an outline, with the label it has there.  Of its ancestors, from the outermost, and of
itself is told whether they are the last of their siblings. -/
structure Place where
  ancestors : List Bool
  isLast : Bool
  label : String
  entity : Entity

/-- Three columns for each ancestor, then the corner or the tee, then what is told of the entity. -/
def Place.line (p : Place) : String :=
  String.join (p.ancestors.map trunk) ++ branch p.isLast ++ p.entity.headline p.label

mutual

/-- The place of an entity and the places below it, in preorder. -/
def Entity.places (label : String) (ancestors : List Bool) (isLast : Bool) : Entity → List Place
  | ⟨name, type, pointers, arrays, span, storage, value, expression⟩ =>
      ⟨ancestors, isLast, label, ⟨name, type, pointers, arrays, span, storage, value, expression⟩⟩ ::
        type.places (ancestors ++ [isLast])

/-- The places of the members of a record and of the parameters of a function. -/
def Descriptor.places (ancestors : List Bool) : Descriptor → List Place
  | .scalar _ => []
  | .aggregate ⟨_, _, members⟩ => Entity.placesOfAll "Field" ancestors members
  | .function ⟨_, params, _⟩ => Entity.placesOfAll "Param" ancestors params

/-- The places of siblings with the same label. -/
def Entity.placesOfAll (label : String) (ancestors : List Bool) : List Entity → List Place
  | [] => []
  | e :: rest => e.places label ancestors rest.isEmpty ++ Entity.placesOfAll label ancestors rest

end

/-- The places of entities at top level, each with its own label, and of all that is below them. -/
def topPlaces : List Entity → List Place
  | [] => []
  | e :: rest => e.places e.label [] rest.isEmpty ++ topPlaces rest

/-! ### What the writer adds -/

theorem joinLines_append (first second : List String) :
    joinLines (first ++ second) = joinLines first ++ joinLines second := by
  simp [joinLines, String.join_append]

namespace Outline

/-- Adds whole lines and leaves the indent as it is. -/
def append (o : Outline) (lines : List String) : Outline :=
  { o with text := o.text ++ joinLines lines }

theorem append_nil (o : Outline) : o.append [] = o := by
  simp [append, joinLines]

theorem append_append (o : Outline) (first second : List String) :
    (o.append first).append second = o.append (first ++ second) := by
  simp [append, joinLines_append, String.append_assoc]

theorem line_eq (o : Outline) (content : String) : o.line content = o.append [o.indent ++ content] := by
  simp [line, append, joinLines, String.append_assoc]

theorem heading_eq (o : Outline) (content : String) : o.heading content = o.append [content] := by
  simp [heading, append, joinLines, String.append_assoc]

/-- What is written with a longer indent does not change the indent that is left behind. -/
theorem deeper_eq {o : Outline} {more : String} {write : Outline → Outline} {lines : List String}
    (hWrite : write { o with indent := o.indent ++ more } =
      append { o with indent := o.indent ++ more } lines) :
    o.deeper more write = o.append lines := by
  simp only [deeper, hWrite, append, Text.truncate_append]

end Outline

mutual

/-- An entity is written as the lines of its places, and the indent is the columns of its ancestors
again afterwards. -/
theorem Entity.outline_eq (label : String) (ancestors : List Bool) (isLast : Bool) : ∀ (e : Entity)
    {o : Outline}, o.indent = String.join (ancestors.map trunk) →
    e.outline label isLast o = o.append ((e.places label ancestors isLast).map Place.line)
  | ⟨name, type, pointers, arrays, span, storage, value, expression⟩, o, hIndent => by
      have hDeeper : o.indent ++ trunk isLast =
          String.join ((ancestors ++ [isLast]).map trunk) := by
        simp [hIndent, String.join_append]
      have hBelow := type.outlineBelow_eq (o := Outline.append { o with indent := o.indent ++ trunk isLast }
        [o.indent ++ (branch isLast ++ Entity.headline label
          ⟨name, type, pointers, arrays, span, storage, value, expression⟩)]) hDeeper
      rw [Entity.outline, Outline.line_eq, Outline.deeper_eq hBelow, Outline.append_append, Entity.places,
        List.map_cons, List.singleton_append, Place.line, hIndent, String.append_assoc]

theorem Descriptor.outlineBelow_eq {ancestors : List Bool} : ∀ (type : Descriptor) {o : Outline},
    o.indent = String.join (ancestors.map trunk) →
    type.outlineBelow o = o.append ((type.places ancestors).map Place.line)
  | .scalar _, o, _ => by
      rw [Descriptor.outlineBelow, Descriptor.places, List.map_nil, Outline.append_nil]
  | .aggregate ⟨_, _, members⟩, o, hIndent => by
      rw [Descriptor.outlineBelow, Descriptor.places, Entity.outlineList_eq "Field" members hIndent]
  | .function ⟨_, params, _⟩, o, hIndent => by
      rw [Descriptor.outlineBelow, Descriptor.places, Entity.outlineList_eq "Param" params hIndent]

theorem Entity.outlineList_eq (label : String) {ancestors : List Bool} : ∀ (entities : List Entity)
    {o : Outline}, o.indent = String.join (ancestors.map trunk) →
    Entity.outlineList label entities o =
      o.append ((Entity.placesOfAll label ancestors entities).map Place.line)
  | [], o, _ => by
      rw [Entity.outlineList, Entity.placesOfAll, List.map_nil, Outline.append_nil]
  | e :: rest, o, hIndent => by
      have hRest lines := Entity.outlineList_eq label rest (o := o.append lines) hIndent
      rw [Entity.outlineList, Entity.placesOfAll, e.outline_eq label ancestors rest.isEmpty hIndent, hRest,
        Outline.append_append, List.map_append]

end

theorem outlineTop_eq : ∀ (entities : List Entity) {o : Outline}, o.indent = "" →
    outlineTop entities o = o.append ((topPlaces entities).map Place.line)
  | [], o, _ => by
      rw [outlineTop, topPlaces, List.map_nil, Outline.append_nil]
  | e :: rest, o, hIndent => by
      have hEntity := e.outline_eq e.label [] rest.isEmpty hIndent
      have hRest lines := outlineTop_eq rest (o := o.append lines) hIndent
      rw [outlineTop, topPlaces, hEntity, hRest, Outline.append_append, List.map_append]

/-- An outline is its heading and one line for each place. -/
theorem outline_eq_joinLines (entities : List Entity) :
    outline entities = joinLines ("Declarations" :: (topPlaces entities).map Place.line) := by
  have hTop := outlineTop_eq entities (o := Outline.append {} ["Declarations"]) rfl
  rw [outline, outlineDeclarations, Outline.heading_eq, hTop, Outline.append_append,
    List.singleton_append, Outline.append, String.empty_append]

/-! ### Each line is one line -/

theorem oneLine_columns (ancestors : List Bool) (isLast : Bool) :
    OneLine (String.join (ancestors.map trunk) ++ branch isLast) := by
  have hTrunks : ∀ s ∈ ancestors.map trunk, OneLine s := by
    intro s hMem
    obtain ⟨last, -, rfl⟩ := List.mem_map.mp hMem
    cases last <;> decide
  refine OneLine.append_iff.mpr ⟨.join hTrunks, ?_⟩
  cases isLast <;> decide

mutual

theorem Entity.oneLine_places {label : String} (hLabel : OneLine label) (role : Role)
    (ancestors : List Bool) (isLast : Bool) : ∀ (e : Entity),
    (∀ part ∈ e.parts role, part.2.OnOneLine) →
    ∀ p ∈ e.places label ancestors isLast, OneLine p.line
  | ⟨name, type, pointers, arrays, span, storage, value, expression⟩, hParts => by
      rw [Entity.places, List.forall_mem_cons]
      refine ⟨?_, type.oneLine_places _ fun part hMem => hParts part (.tail _ hMem)⟩
      rw [Place.line, OneLine.append_iff]
      exact ⟨oneLine_columns ancestors isLast, Entity.oneLine_headline hLabel hParts⟩

theorem Descriptor.oneLine_places (ancestors : List Bool) : ∀ (type : Descriptor),
    (∀ part ∈ type.parts, part.2.OnOneLine) → ∀ p ∈ type.places ancestors, OneLine p.line
  | .scalar _, _ => by
      rw [Descriptor.places]
      exact nofun
  | .aggregate ⟨_, _, members⟩, hParts => by
      rw [Descriptor.places]
      exact Entity.oneLine_placesOfAll (by decide) .member ancestors members hParts
  | .function ⟨_, params, _⟩, hParts => by
      rw [Descriptor.places]
      exact Entity.oneLine_placesOfAll (by decide) .parameter ancestors params
        fun part hMem => hParts part (List.mem_append_right _ hMem)

theorem Entity.oneLine_placesOfAll {label : String} (hLabel : OneLine label) (role : Role)
    (ancestors : List Bool) : ∀ (entities : List Entity),
    (∀ part ∈ Entity.partsOfAll role entities, part.2.OnOneLine) →
    ∀ p ∈ Entity.placesOfAll label ancestors entities, OneLine p.line
  | [], _ => by
      rw [Entity.placesOfAll]
      exact nofun
  | e :: rest, hParts => by
      rw [Entity.partsOfAll, List.forall_mem_append] at hParts
      rw [Entity.placesOfAll, List.forall_mem_append]
      exact ⟨e.oneLine_places hLabel role ancestors _ hParts.1,
        Entity.oneLine_placesOfAll hLabel role ancestors rest hParts.2⟩

end

theorem oneLine_topPlaces : ∀ (entities : List Entity),
    (∀ part ∈ Entity.partsOfAll .declared entities, part.2.OnOneLine) →
    ∀ p ∈ topPlaces entities, OneLine p.line
  | [], _ => by
      rw [topPlaces]
      exact nofun
  | e :: rest, hParts => by
      have hLabel : OneLine e.label := by
        unfold Entity.label
        split_ifs <;> decide
      rw [Entity.partsOfAll, List.forall_mem_append] at hParts
      rw [topPlaces, List.forall_mem_append]
      exact ⟨e.oneLine_places hLabel .declared [] _ hParts.1, oneLine_topPlaces rest hParts.2⟩

/-! ### Reading the lines back -/

theorem toList_joinLines_cons (s : String) (rest : List String) :
    (joinLines (s :: rest)).toList = s.toList ++ '\n' :: (joinLines rest).toList := by
  simp [joinLines]

/-- A text that consists of lines is the text of no other lines. -/
theorem joinLines_inj : ∀ {first second : List String}, (∀ s ∈ first, OneLine s) →
    (∀ s ∈ second, OneLine s) → joinLines first = joinLines second → first = second
  | [], [], _, _, _ => rfl
  | [], t :: second, _, _, h => by
      rw [← String.toList_inj, toList_joinLines_cons] at h
      exact absurd h (by simp [joinLines])
  | s :: first, [], _, _, h => by
      rw [← String.toList_inj, toList_joinLines_cons] at h
      exact absurd h (by simp [joinLines])
  | s :: first, t :: second, hFirst, hSecond, h => by
      rw [← String.toList_inj, toList_joinLines_cons, toList_joinLines_cons] at h
      rw [List.forall_mem_cons] at hFirst hSecond
      obtain ⟨hLine, hRest⟩ := pieces_inj (· ≠ '\n')
        (fun c hMem => ne_of_mem_of_not_mem hMem hFirst.1)
        (fun c hMem => ne_of_mem_of_not_mem hMem hSecond.1)
        (stops_cons.mpr (by simp)) (stops_cons.mpr (by simp)) h
      have hLines := joinLines_inj hFirst.2 hSecond.2 (String.toList_inj.mp (List.cons.inj hRest).2)
      rw [String.toList_inj.mp hLine, hLines]

theorem trunk_inj {last last' : Bool} {s t : List Char}
    (h : (trunk last).toList ++ s = (trunk last').toList ++ t) : last = last' ∧ s = t := by
  cases last <;> cases last' <;> simp_all [trunk]

theorem branch_inj {isLast isLast' : Bool} {s t : List Char}
    (h : (branch isLast).toList ++ s = (branch isLast').toList ++ t) : isLast = isLast' := by
  cases isLast <;> cases isLast' <;> simp_all [branch]

/-- The columns of an ancestor have a blank where those of the entity itself have a dash. -/
theorem trunk_ne_branch (last isLast : Bool) (s t : List Char) :
    (trunk last).toList ++ s ≠ (branch isLast).toList ++ t := by
  cases last <;> cases isLast <;> simp [trunk, branch]

theorem columns_inj {s t : List Char} {isLast isLast' : Bool} :
    ∀ {ancestors ancestors' : List Bool},
    ancestors.flatMap (fun last => (trunk last).toList) ++ ((branch isLast).toList ++ s) =
      ancestors'.flatMap (fun last => (trunk last).toList) ++ ((branch isLast').toList ++ t) →
    ancestors = ancestors' ∧ isLast = isLast'
  | [], [], h => ⟨rfl, branch_inj h⟩
  | [], last' :: ancestors', h => by
      rw [List.flatMap_cons, List.append_assoc] at h
      exact absurd h.symm (trunk_ne_branch _ _ _ _)
  | last :: ancestors, [], h => by
      rw [List.flatMap_cons, List.append_assoc] at h
      exact absurd h (trunk_ne_branch _ _ _ _)
  | last :: ancestors, last' :: ancestors', h => by
      rw [List.flatMap_cons, List.flatMap_cons, List.append_assoc, List.append_assoc] at h
      obtain ⟨rfl, hTail⟩ := trunk_inj h
      obtain ⟨rfl, hLast⟩ := columns_inj hTail
      exact ⟨rfl, hLast⟩

theorem Place.columns_of_line {p q : Place} (h : p.line = q.line) :
    p.ancestors = q.ancestors ∧ p.isLast = q.isLast := by
  have hTrunks (ancestors : List Bool) : (String.join (ancestors.map trunk)).toList =
      ancestors.flatMap fun last => (trunk last).toList := by
    rw [String.toList_join, List.flatMap_map]
  have hChars := congrArg String.toList h
  simp only [line, String.toList_append, hTrunks, List.append_assoc] at hChars
  exact columns_inj hChars

/-! ### Nesting -/

/-- How entities are nested, and nothing else of them. -/
inductive Nesting where
  | node (below : List Nesting)

mutual

/-- The nesting of what is shown of an entity. -/
def Entity.nesting : Entity → Nesting
  | ⟨_, type, _, _, _, _, _, _⟩ => .node type.nestings

/-- The nesting of members and parameters. -/
def Descriptor.nestings : Descriptor → List Nesting
  | .scalar _ => []
  | .aggregate ⟨_, _, members⟩ => Entity.nestings members
  | .function ⟨_, params, _⟩ => Entity.nestings params

/-- The nesting of several entities. -/
def Entity.nestings : List Entity → List Nesting
  | [] => []
  | e :: rest => e.nesting :: Entity.nestings rest

end

mutual

/-- The depths of a node and of those below it, in preorder. -/
def Nesting.depths (depth : Nat) : Nesting → List Nat
  | .node below => depth :: Nesting.depthsOfAll (depth + 1) below

/-- The depths of siblings and of those below them, in preorder. -/
def Nesting.depthsOfAll (depth : Nat) : List Nesting → List Nat
  | [] => []
  | s :: rest => s.depths depth ++ Nesting.depthsOfAll depth rest

end

namespace Nesting

/-- The depths below a node end where the next depth is not greater than that of the node. -/
theorem stops_depthsOfAll {depth : Nat} {rest : List Nat} (hRest : Stops (depth ≤ ·) rest) :
    ∀ nestings : List Nesting, Stops (depth + 1 ≤ ·) (depthsOfAll depth nestings ++ rest)
  | [] => fun n hMem hLe => hRest n hMem (by omega)
  | .node below :: nestings => by
      rw [depthsOfAll, depths, List.cons_append, List.cons_append, stops_cons]
      omega

/-- Siblings are told from what follows at a smaller depth. -/
theorem depthsOfAll_append_inj {depth : Nat} : ∀ {nestings nestings' : List Nesting} {rest rest' : List Nat},
    Stops (depth ≤ ·) rest → Stops (depth ≤ ·) rest' →
    depthsOfAll depth nestings ++ rest = depthsOfAll depth nestings' ++ rest' →
    nestings = nestings' ∧ rest = rest'
  | [], [], _, _, _, _, h => ⟨rfl, h⟩
  | [], .node below' :: nestings', rest, rest', hRest, _, h => by
      rw [depthsOfAll, depthsOfAll, depths, List.nil_append, List.cons_append, List.cons_append] at h
      subst h
      exact absurd le_rfl (stops_cons.mp hRest)
  | .node below :: nestings, [], rest, rest', _, hRest', h => by
      rw [depthsOfAll, depthsOfAll, depths, List.nil_append, List.cons_append, List.cons_append] at h
      subst h
      exact absurd le_rfl (stops_cons.mp hRest')
  | .node below :: nestings, .node below' :: nestings', rest, rest', hRest, hRest', h => by
      simp only [depthsOfAll, depths, List.cons_append, List.append_assoc] at h
      obtain ⟨rfl, hAfter⟩ := depthsOfAll_append_inj (stops_depthsOfAll hRest nestings)
        (stops_depthsOfAll hRest' nestings') (List.cons.inj h).2
      obtain ⟨rfl, rfl⟩ := depthsOfAll_append_inj hRest hRest' hAfter
      exact ⟨rfl, rfl⟩

theorem depthsOfAll_inj {depth : Nat} {nestings nestings' : List Nesting}
    (h : depthsOfAll depth nestings = depthsOfAll depth nestings') : nestings = nestings' := by
  have hAppend : depthsOfAll depth nestings ++ [] = depthsOfAll depth nestings' ++ [] := by rw [h]
  exact (depthsOfAll_append_inj stops_nil stops_nil hAppend).1

end Nesting

mutual

/-- An entity has as many ancestors at its place as its depth says. -/
theorem Entity.depths_places (label : String) (ancestors : List Bool) (isLast : Bool) : ∀ e : Entity,
    (e.places label ancestors isLast).map (·.ancestors.length) = e.nesting.depths ancestors.length
  | ⟨name, type, pointers, arrays, span, storage, value, expression⟩ => by
      rw [Entity.places, List.map_cons, type.depths_places, Entity.nesting, Nesting.depths,
        List.length_append, List.length_singleton]

theorem Descriptor.depths_places (ancestors : List Bool) : ∀ type : Descriptor,
    (type.places ancestors).map (·.ancestors.length) =
      Nesting.depthsOfAll ancestors.length type.nestings
  | .scalar _ => by rw [Descriptor.places, Descriptor.nestings, Nesting.depthsOfAll, List.map_nil]
  | .aggregate ⟨_, _, members⟩ => by
      rw [Descriptor.places, Descriptor.nestings, Entity.depths_placesOfAll]
  | .function ⟨_, params, _⟩ => by
      rw [Descriptor.places, Descriptor.nestings, Entity.depths_placesOfAll]

theorem Entity.depths_placesOfAll (label : String) (ancestors : List Bool) : ∀ entities : List Entity,
    (Entity.placesOfAll label ancestors entities).map (·.ancestors.length) =
      Nesting.depthsOfAll ancestors.length (Entity.nestings entities)
  | [] => by rw [Entity.placesOfAll, Entity.nestings, Nesting.depthsOfAll, List.map_nil]
  | e :: rest => by
      rw [Entity.placesOfAll, Entity.nestings, Nesting.depthsOfAll, List.map_append, e.depths_places,
        Entity.depths_placesOfAll]

end

theorem depths_topPlaces : ∀ entities : List Entity,
    (topPlaces entities).map (·.ancestors.length) = Nesting.depthsOfAll 0 (Entity.nestings entities)
  | [] => by rw [topPlaces, Entity.nestings, Nesting.depthsOfAll, List.map_nil]
  | e :: rest => by
      rw [topPlaces, Entity.nestings, Nesting.depthsOfAll, List.map_append, e.depths_places,
        depths_topPlaces rest, List.length_nil]

/-! ### Outlines -/

/-- An outline is its heading and then, in preorder, one line for each entity that is shown.  Entities
with the same outline are nested alike. -/
theorem outline_lines_nesting {entities : List Entity}
    (hEntities : ∀ part ∈ Entity.partsOfAll .declared entities, part.2.OnOneLine) :
    outline entities = joinLines ("Declarations" :: (topPlaces entities).map Place.line) ∧
    (∀ p ∈ topPlaces entities, OneLine p.line) ∧
    ∀ {others : List Entity}, (∀ part ∈ Entity.partsOfAll .declared others, part.2.OnOneLine) →
      outline others = outline entities → Entity.nestings others = Entity.nestings entities := by
  refine ⟨outline_eq_joinLines entities, oneLine_topPlaces entities hEntities,
    fun {others} hOthers hSame => ?_⟩
  have hLines {entities : List Entity} (h : ∀ part ∈ Entity.partsOfAll .declared entities,
      part.2.OnOneLine) : ∀ s ∈ "Declarations" :: (topPlaces entities).map Place.line, OneLine s := by
    rw [List.forall_mem_cons, List.forall_mem_map]
    exact ⟨by decide, oneLine_topPlaces entities h⟩
  rw [outline_eq_joinLines, outline_eq_joinLines] at hSame
  have hSameLines := (List.cons.inj (joinLines_inj (hLines hOthers) (hLines hEntities) hSame)).2
  have hColumns : (topPlaces others).map (·.ancestors.length) =
      (topPlaces entities).map (·.ancestors.length) := by
    rw [← List.forall₂_eq_eq_eq, List.forall₂_map_left_iff, List.forall₂_map_right_iff] at hSameLines ⊢
    exact hSameLines.imp fun p q hLine => by rw [(Place.columns_of_line hLine).1]
  rw [depths_topPlaces, depths_topPlaces] at hColumns
  exact Nesting.depthsOfAll_inj hColumns

/-- A function with a record behind a pointer, and a text with a line break. -/
def nestedEntities : List Entity :=
  let char : Descriptor := .scalar { base := some .char }
  let int : Descriptor := .scalar { base := some .int }
  let record : Aggregate := ⟨some "S", false, [⟨"c", char, 1, [], .empty, none, none, none⟩,
    ⟨"n", int, 0, [], .empty, none, none, none⟩]⟩
  [⟨"f", .function ⟨.ofType int, [⟨"s", .aggregate record, 1, [], .empty, none, none, none⟩,
      ⟨"", int, 0, [.symbolic "m"], .empty, none, none, none⟩], false⟩, 0, [], .empty, some .static, none,
      none⟩,
    ⟨"t", char, 0, [.known 4], .empty, none, some (.str "a\nb"), some "text"⟩]

theorem nestedEntities_lines :
    (∀ part ∈ Entity.partsOfAll .declared nestedEntities, part.2.OnOneLine) ∧
    outline nestedEntities =
      joinLines ("Declarations" :: (topPlaces nestedEntities).map Place.line) ∧
    (topPlaces nestedEntities).map (fun p => (p.ancestors, p.isLast, p.label, p.entity.name)) =
      [([], false, "Function", "f"), ([false], false, "Param", "s"),
        ([false, false], false, "Field", "c"), ([false, false], true, "Field", "n"),
        ([false], true, "Param", ""), ([], true, "Var", "t")] ∧
    ∀ {others : List Entity}, (∀ part ∈ Entity.partsOfAll .declared others, part.2.OnOneLine) →
      outline others = outline nestedEntities →
      Entity.nestings others = [.node [.node [.node [], .node []], .node []], .node []] := by
  have hParts : ∀ part ∈ Entity.partsOfAll .declared nestedEntities, part.2.OnOneLine := by
    simp only [nestedEntities, Entity.partsOfAll, Entity.parts, Descriptor.parts, Aggregate.parts,
      FunctionType.parts, Entity.ofType, List.cons_append, List.nil_append, List.append_nil,
      List.forall_mem_cons]
    refine ⟨?_, ?_, ?_, ?_, ?_, ?_, ?_, nofun⟩ <;> constructor <;> simp [OneLine]
  obtain ⟨hLines, -, hNesting⟩ := outline_lines_nesting hParts
  exact ⟨hParts, hLines, rfl, fun hOthers hSame => hNesting hOthers hSame⟩

end CDecl
