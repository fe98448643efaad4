import CDecl.Proofs.WellFormed

/-!
# The tag table is closed

A record definition enters the tag table when it is complete, a bare reference never does.  So a record
with members, wherever in a session it is found, is one that has been defined, and its tag is in the
table; if the tag has been defined once, the table shows this very record.

The main result, `tags_closed`, says so of every session, after any units, whether they can be lowered
to their end or not.
-/

namespace CDecl

namespace Session

/-- A record with members has been defined. -/
theorem mem_definitions_of_mem_records {ev : Evaluator} {report : Report}
    {units : List (List ExternalDeclaration)} {a : Aggregate}
    (hMem : a ∈ (run ev report units).records) (hMembers : a.members ≠ []) :
    a ∈ (run ev report units).context.definitions := by
  rcases List.mem_append.mp hMem with hTagged | hInside
  · exact (find?_tags ev report units).mem_definitions hTagged
  · obtain ⟨part, hPart, hRecord⟩ := List.mem_filterMap.mp hInside
    have hFits : PartsFit (fun _ => True) (run ev report units).context.definitions _ :=
      run_partsFit fun _ _ _ _ => trivial
    have hType : part.2.type = .aggregate a := by
      cases hDescriptor : part.2.type <;> simp_all [Descriptor.aggregate?]
    exact (hFits part hPart).record a hType hMembers

/-- Each tag shows a record that has it, every record with members is shown under its tag, and it is
this record that is shown if no other one of its tag has been defined. -/
structure TagsClosed (s : Session) : Prop where
  tag_eq : ∀ tag a, s.context.tags.find? tag = some a → a.tag = some tag
  mem_keys : ∀ a ∈ s.records, a.members ≠ [] → ∀ tag, a.tag = some tag → tag ∈ s.context.tags.keys
  find?_eq : ∀ a ∈ s.records, a.members ≠ [] → ∀ tag, a.tag = some tag →
    (s.context.definitionsOf tag).length ≤ 1 → s.context.tags.find? tag = some a

theorem run_tagsClosed (ev : Evaluator) (report : Report)
    (units : List (List ExternalDeclaration)) : (run ev report units).TagsClosed := by
  have hShows := find?_tags ev report units
  have hDefined : ∀ a ∈ (run ev report units).records, a.members ≠ [] → ∀ tag, a.tag = some tag →
      a ∈ (run ev report units).context.definitionsOf tag := by
    intro a hMem hMembers tag hTag
    exact List.mem_filter.mpr ⟨mem_definitions_of_mem_records hMem hMembers, by simp [hTag]⟩
  refine ⟨fun tag a hFind => ?_, fun a hMem hMembers tag hTag => ?_,
    fun a hMem hMembers tag hTag hOnce => ?_⟩
  · rw [hShows tag] at hFind
    simpa using List.of_mem_filter (List.mem_of_getLast? hFind)
  · have hNonempty := List.ne_nil_of_mem (hDefined a hMem hMembers tag hTag)
    have hFind := (hShows tag).trans (List.getLast?_eq_some_getLast hNonempty)
    exact List.mem_map_of_mem (Table.find?_eq_some_iff.mp hFind)
  · -- A list of one definition at most that has this one is this one alone.
    have hOwn := hDefined a hMem hMembers tag hTag
    rw [hShows tag]
    match hDefinitions : (run ev report units).context.definitionsOf tag, hOwn, hOnce with
    | [b], hOwn, _ =>
        obtain rfl := List.mem_singleton.mp hOwn
        rfl

end Session

/-- A bare reference gives a record, and leaves the tags and definitions alone. -/
theorem Lower.record_reference (ev : Evaluator) {r : RecordSpecifier} (hBare : r.members = none)
    (c : Context) : ∃ a c', record ev r c = .ok a c' ∧ c'.tags = c.tags ∧
      c'.definitions = c.definitions := by
  obtain ⟨kind, tag, _, span⟩ := r
  obtain rfl : _ = none := hBare
  rw [record]
  refine ⟨_, _, rfl, rfl, ?_⟩
  exact DefinesNothing.note rfl c

/-- **The tag table is closed.**  Throughout a session the records in it have their own tags, and every
record with members that is found anywhere is in it, as it is if its tag has been defined once.  A unit
changes what is shown for a tag only by defining it again, and a bare reference changes nothing. -/
theorem tags_closed (ev : Evaluator) :
    (∀ (report : Report) (units : List (List ExternalDeclaration)),
      (Session.run ev report units).TagsClosed) ∧
    (∀ (report : Report) (units : List (List ExternalDeclaration))
      (contents : List ExternalDeclaration) (tag : String),
      (Session.run ev report (units ++ [contents])).context.definitionsOf tag =
          (Session.run ev report units).context.definitionsOf tag →
        (Session.run ev report (units ++ [contents])).context.tags.find? tag =
          (Session.run ev report units).context.tags.find? tag) ∧
    ∀ (r : RecordSpecifier) (c : Context), r.members = none →
      ∃ a c', Lower.record ev r c = .ok a c' ∧ c'.tags = c.tags ∧ c'.definitions = c.definitions := by
  refine ⟨Session.run_tagsClosed ev, fun report units contents tag hSame => ?_,
    fun r c hBare => Lower.record_reference ev hBare c⟩
  rw [Session.find?_tags ev report _ tag, Session.find?_tags ev report _ tag, hSame]

/-- The declaration `struct list { struct item { int a; } first; } head;` in one unit, and in the next
one `int f(struct late { int b; } p, struct item int q);`, which has a mismatch. -/
def ExternalDeclaration.taggedUnits : List (List ExternalDeclaration) :=
  let name := fun n => Declarator.ofDirect (.ofName n)
  let field := fun n => MemberDeclaration.ofParts [.ofType (.keyword .int)] [.declarator (name n)]
  let item := RecordSpecifier.definition .struct (some "item") [field "a"]
  let list := RecordSpecifier.definition .struct (some "list")
    [.ofParts [.ofType (.record item)] [.declarator (name "first")]]
  let late := RecordSpecifier.definition .struct (some "late") [field "b"]
  let p := ParameterDeclaration.named [.ofType (.record late)] (name "p") .empty
  let q := ParameterDeclaration.named
    [.ofType (.record (.reference .struct "item")), .ofType (.keyword .int)] (name "q") .empty
  let f := DirectDeclarator.functionWith (.ofName "f") (.parameters (.ofParams [p, q]))
  [[.declaration (.ofParts [.ofType (.record list)] [⟨name "head", none⟩])],
    [.declaration (.ofParts [.ofType (.keyword .int)] [⟨.ofDirect f, none⟩])]]

/-- The declaration `struct item other;`. -/
def ExternalDeclaration.referringUnit : List ExternalDeclaration :=
  [.declaration (.ofParts [.ofType (.record (.reference .struct "item"))]
    [⟨.ofDirect (.ofName "other"), none⟩])]

/-- The record in the unit that could not be lowered is in the table; the reference has changed
nothing. -/
theorem taggedUnits_closed :
    (Session.run .constant {} ExternalDeclaration.taggedUnits).TagsClosed ∧
    (Session.run .constant {} ExternalDeclaration.taggedUnits).context.tags.keys =
      ["item", "list", "late"] ∧
    (Session.run .constant {} (ExternalDeclaration.taggedUnits ++
      [ExternalDeclaration.referringUnit])).context.tags.find? "item" =
        (Session.run .constant {} ExternalDeclaration.taggedUnits).context.tags.find? "item" ∧
    ∃ a c', Lower.record .constant (.reference .struct "item") {} = .ok a c' ∧ c'.tags = .empty := by
  obtain ⟨hClosed, hUnit, hReference⟩ := tags_closed .constant
  refine ⟨hClosed {} _, by cbv, hUnit {} _ _ "item" (by cbv), ?_⟩
  obtain ⟨a, c', hRun, hTags, -⟩ := hReference (.reference .struct "item") {} rfl
  exact ⟨a, c', hRun, hTags⟩

end CDecl
