import CDecl.Proofs.Construction
import CDecl.Syntax.Build

/-!
# Everything in a session is well formed

A session only grows by what lowering builds, so that everything in it fits, at any depth, also after
units that could not be lowered to their end (`Session.run_partsFit`).  The main result,
`parts_wellFormed`, says what this means for the single entities: each one has what its role allows, and
has a name wherever the declarators have names.
-/

namespace CDecl

variable {named : String → Prop}

/-- The definitions of a session are closed, and what it has declared fits. -/
structure Session.Sound (named : String → Prop) (s : Session) : Prop where
  closed : Closed named s.context.definitions
  declared : PartsFit named s.context.definitions
    (Entity.partsOfAll .declared s.declarations.toList)

/-- An item keeps a session sound, whether it can be lowered or not. -/
theorem Session.Sound.afterItem {s : Session} (hs : s.Sound named) (ev : Evaluator)
    {i : ExternalDeclaration} (hNames : NamesAt named i.sites) : (s.afterItem ev i).Sound named := by
  have hItem := Lower.item_builds ev i hNames hs.closed s.context rfl
  unfold Session.afterItem
  cases hRun : Lower.item ev i s.context with
  | error e c =>
      rw [hRun] at hItem
      exact ⟨hItem.2, hs.declared.mono hItem.1⟩
  | ok entities c =>
      rw [hRun] at hItem
      obtain ⟨hLater, hClosed, hFits⟩ := hItem
      refine ⟨hClosed, ?_⟩
      show PartsFit named c.definitions
        (Entity.partsOfAll .declared (s.declarations ++ entities).toList)
      rw [Array.toList_appendList, Entity.partsOfAll_append]
      exact (hs.declared.mono hLater).append hFits

/-- Throughout a session everything fits, where `named` holds of the names that stand in its units. -/
theorem Session.run_sound {ev : Evaluator} {report : Report}
    {units : List (List ExternalDeclaration)}
    (hNames : ∀ contents ∈ units, NamesAt named (contents.flatMap ExternalDeclaration.sites)) :
    (run ev report units).Sound named := by
  refine run_units ⟨by simp [Closed, fresh, Context.definitions], .nil⟩ fun contents hMem s hs => ?_
  refine after_keeps (fun i hItem s hs => ?_) (fun count s hs => ?_) hs
  · refine hs.afterItem ev ((hNames contents hMem).mono fun site hSite => ?_)
    exact List.mem_flatMap.mpr ⟨i, hItem, hSite⟩
  · have hDefinitions : (s.context.after (.unitLowered count)).definitions =
        s.context.definitions := by simp [Context.definitions_after, Event.definition?]
    exact ⟨hDefinitions.symm ▸ hs.closed, hDefinitions.symm ▸ hs.declared⟩

/-- So does everything inside the tagged records, which are among those defined. -/
theorem Session.run_partsFit {ev : Evaluator} {report : Report}
    {units : List (List ExternalDeclaration)}
    (hNames : ∀ contents ∈ units, NamesAt named (contents.flatMap ExternalDeclaration.sites)) :
    PartsFit named (run ev report units).context.definitions (run ev report units).parts := by
  have hSound : (run ev report units).Sound named := run_sound hNames
  refine hSound.declared.append fun part hPart => ?_
  obtain ⟨a, hTagged, hInside⟩ := List.mem_flatMap.mp hPart
  exact hSound.closed a ((find?_tags ev report units).mem_definitions hTagged) part hInside

/-- **Well-formedness.**  Throughout a session all entities, those in tagged records included and at any
depth, are well formed in their roles.  If no declarator in the units ends with an empty name, then the
declared entities, the parameters and the members have names, anonymous members apart. -/
theorem parts_wellFormed (ev : Evaluator) (report : Report)
    (units : List (List ExternalDeclaration)) :
    (∀ role e, (role, e) ∈ (Session.run ev report units).parts → e.WellFormed role) ∧
    ((∀ contents ∈ units, NamesAt (· ≠ "") (contents.flatMap ExternalDeclaration.sites)) →
      ∀ role e, (role, e) ∈ (Session.run ev report units).parts → e.Named (· ≠ "") role) := by
  refine ⟨fun role e hPart => ?_, fun hNames role e hPart => ?_⟩
  · have hFits : PartsFit (fun _ => True) _ (Session.run ev report units).parts :=
      Session.run_partsFit fun _ _ _ _ => trivial
    exact (hFits (role, e) hPart).wellFormed
  · exact (Session.run_partsFit hNames (role, e) hPart).named

/-- The definition `int (*f(static long long n[2]))(char c) { }` in one unit, and in the next one
`int x = 3, g(struct s { union { int a; }; } p, struct s int q);`, which has a mismatch. -/
def ExternalDeclaration.variedUnits : List (List ExternalDeclaration) :=
  let name := fun n => Declarator.ofDirect (.ofName n)
  let n := ParameterDeclaration.named
    [.ofStorageClass .static, .ofType (.keyword .long), .ofType (.keyword .long)]
    (.ofDirect (.arrayOf (.ofName "n") (.sized (some (.int 2))))) .empty
  let c := ParameterDeclaration.named [.ofType (.keyword .char)] (name "c") .empty
  let inner := Declarator.ofDirect (.functionWith (.ofName "f") (.parameters (.ofParams [n])))
  let f := DirectDeclarator.functionWith (.paren (inner.pointers 1)) (.parameters (.ofParams [c]))
  let union := RecordSpecifier.definition .union none
    [.ofParts [.ofType (.keyword .int)] [.declarator (name "a")]]
  let record := RecordSpecifier.definition .struct (some "s") [.ofParts [.ofType (.record union)] []]
  let p := ParameterDeclaration.named [.ofType (.record record)] (name "p") .empty
  let q := ParameterDeclaration.named
    [.ofType (.record (.reference .struct "s")), .ofType (.keyword .int)] (name "q") .empty
  let g := DirectDeclarator.functionWith (.ofName "g") (.parameters (.ofParams [p, q]))
  [[.definition (.ofParts [.ofType (.keyword .int)] (.ofDirect f))],
    [.declaration (.ofParts [.ofType (.keyword .int)]
      [⟨name "x", some (.expr (.int 3))⟩, ⟨.ofDirect g, none⟩])]]

/-- The session has entities in all roles, and its anonymous member is in a record of the unit that could
not be lowered. -/
theorem variedUnits_wellFormed :
    (Session.run .constant {} ExternalDeclaration.variedUnits).parts.map
        (fun part => (part.1, part.2.name)) =
      [(.declared, "f"), (.result, ""), (.result, ""), (.parameter, "c"), (.parameter, "n"),
        (.member, ""), (.member, "a")] ∧
    ∀ role e, (role, e) ∈ (Session.run .constant {} ExternalDeclaration.variedUnits).parts →
      e.WellFormed role ∧ e.Named (· ≠ "") role := by
  obtain ⟨hWellFormed, hNamed⟩ := parts_wellFormed .constant {} ExternalDeclaration.variedUnits
  have hNames : ∀ contents ∈ ExternalDeclaration.variedUnits,
      NamesAt (· ≠ "") (contents.flatMap ExternalDeclaration.sites) := by decide
  exact ⟨by cbv, fun role e hPart => ⟨hWellFormed role e hPart, hNamed hNames role e hPart⟩⟩

end CDecl
