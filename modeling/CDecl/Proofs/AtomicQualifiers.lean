import CDecl.Proofs.Outcome

/-!
# Where `_Atomic` is reported

Qualifiers stand in specifier lists, behind pointer markers and in array brackets.  Lowering looks at
those in specifier lists only, so that an `_Atomic` there is reported, and an `_Atomic` behind a marker or
in brackets is dropped without a word (`pointerToAtomic_unreported`).

The main statement, `atomic_reports`, says how many are reported and how many are not.
-/

namespace CDecl

/-- Whether a qualifier is `_Atomic`. -/
def TypeQualifier.isAtomic (q : TypeQualifier) : Bool := q.kind == .atomic

/-- The alternative of the grammar that `_Atomic` is. -/
def GrammarCase.atomic : GrammarCase := ⟨.typeQualifier, 3⟩

namespace Site

/-- The qualifiers in a specifier list. -/
def listedQualifiers : Site → List TypeQualifier
  | .specifier _ (.qualifier q) => [q]
  | _ => []

/-- The qualifiers behind a pointer marker or in array brackets. -/
def declaratorQualifiers : Site → List TypeQualifier
  | .marker m => m.qualifiers
  | .direct (.array _ qualifiers _ _) => qualifiers
  | _ => []

/-- All qualifiers that stand at a site. -/
def qualifiers (site : Site) : List TypeQualifier :=
  site.listedQualifiers ++ site.declaratorQualifiers

end Site

/-- The `_Atomic` qualifiers among those that the sites of a tree have, in order. -/
def TranslationUnit.atomics (u : TranslationUnit) (qualifiersAt : Site → List TypeQualifier) :
    List TypeQualifier :=
  (u.sites.flatMap qualifiersAt).filter (·.isAtomic)

/-- What is reported as `_Atomic` at a site is the one in the specifier list there. -/
theorem Site.atomic_diagnostic (site : Site) :
    ((site.diagnostic? {}).toList.filter (·.code == some .atomic)).map (·.location) =
      (site.listedQualifiers.filter (·.isAtomic)).map (·.span) := by
  rw [diagnostic?_default]
  unfold finding?
  split
  case h_3 before q =>
    have hListed : (Site.specifier before (.qualifier q)).listedQualifiers = [q] := rfl
    by_cases hAtomic : q.kind = .atomic
    · have hCode : q.grammar = .atomic := by
        rw [TypeQualifier.grammar, hAtomic, GrammarCase.atomic]
      simp [hListed, hAtomic, hCode, Finding.diagnostic, TypeQualifier.isAtomic]
    · simp [hListed, hAtomic, TypeQualifier.isAtomic]
  -- Whatever else is found names another production.
  all_goals
    simp [listedQualifiers, Finding.diagnostic, GrammarCase.atomic, DeclarationSpecifier.grammar,
      TypeSpecifier.grammar, MemberDeclarator.grammar, DirectDeclarator.grammar,
      FunctionSuffix.grammar, ParameterDeclaration.grammar, FunctionDefinition.grammar,
      Initializer.grammar]

namespace TranslationUnit

variable {ev : Evaluator} {u : TranslationUnit} {o : Output}

/-- Each qualifier stands in a specifier list or in a declarator. -/
theorem length_atomics (u : TranslationUnit) :
    (u.atomics Site.qualifiers).length =
      (u.atomics Site.listedQualifiers).length + (u.atomics Site.declaratorQualifiers).length := by
  unfold atomics
  induction u.sites with
  | nil => rfl
  | cons site rest ih =>
      simp only [List.flatMap_cons, Site.qualifiers, List.filter_append, List.length_append] at ih ⊢
      omega

/-- The reports of `_Atomic` are those of specifier lists, at their places and in their order. -/
theorem atomic_locations (hOutput : u.output? ev {} = .ok o) :
    (o.diagnostics.filter (·.code == some .atomic)).map (·.location) =
      (u.atomics Site.listedQualifiers).map (·.span) := by
  rw [diagnostics_eq hOutput, List.filterMap_eq_flatMap_toList, atomics]
  induction u.sites with
  | nil => rfl
  | cons site rest ih =>
      simp only [List.flatMap_cons, List.filter_append, List.map_append, ih, site.atomic_diagnostic]

end TranslationUnit

/-- What the strict output lets pass has no report that names a grammar case. -/
theorem Output.code_eq_none_of_strict {u : TranslationUnit} {ev : Evaluator} {o o' : Output}
    (hOutput : u.output? ev {} = .ok o) (hStrict : o.strict = .ok o') :
    ∀ d ∈ o.diagnostics, d.code = none := by
  intro d hMem
  have hIssues : o.issues = [] := by
    rw [Output.strict] at hStrict
    split at hStrict
    · next hEmpty => exact List.isEmpty_iff.mp hEmpty
    · cases hStrict
  have hNote : d.level = .note := by
    by_contra hLevel
    have hIssue : d ∈ o.issues := List.mem_filter.mpr ⟨hMem, by simpa using hLevel⟩
    rw [hIssues] at hIssue
    cases hIssue
  rw [TranslationUnit.diagnostics_eq hOutput] at hMem
  obtain ⟨site, -, hSite⟩ := List.mem_filterMap.mp hMem
  rw [Site.diagnostic?_default] at hSite
  obtain ⟨f, -, rfl⟩ := Option.map_eq_some_iff.mp hSite
  cases f with
  | unsupported construct code location => cases hNote
  | remark message location => rfl

/-- **Which `_Atomic` is reported.**  When no warning option is given, each `_Atomic` in a specifier list
that lowering comes to is reported once, at its place and in the order of the tree, and nothing else is
reported as `_Atomic`.  Those behind pointer markers and in array brackets of declarators are the ones
that are missing, so that all are reported exactly if there are none of these.  If the strict output is
not refused, no specifier list has `_Atomic`. -/
theorem atomic_reports {ev : Evaluator} {u : TranslationUnit} {o : Output}
    (hOutput : u.output? ev {} = .ok o) :
    (o.diagnostics.filter (·.code == some .atomic)).map (·.location) =
        (u.atomics Site.listedQualifiers).map (·.span) ∧
      (u.atomics Site.qualifiers).length =
        o.diagnostics.countP (·.code == some .atomic) +
          (u.atomics Site.declaratorQualifiers).length ∧
      (o.diagnostics.countP (·.code == some .atomic) = (u.atomics Site.qualifiers).length ↔
        u.atomics Site.declaratorQualifiers = []) ∧
      ∀ o', o.strict = .ok o' → u.atomics Site.listedQualifiers = [] := by
  have hLocations := TranslationUnit.atomic_locations hOutput
  have hCount : o.diagnostics.countP (·.code == some .atomic) =
      (u.atomics Site.listedQualifiers).length := by
    rw [List.countP_eq_length_filter, ← List.length_map (·.location), hLocations, List.length_map]
  have hLength := u.length_atomics
  refine ⟨hLocations, by omega, ?_, fun o' hStrict => ?_⟩
  · rw [← List.length_eq_zero_iff]
    omega
  · have hNone : o.diagnostics.countP (·.code == some .atomic) = 0 := by
      rw [List.countP_eq_zero]
      intro d hMem
      simp [Output.code_eq_none_of_strict hOutput hStrict d hMem]
    rw [← List.length_eq_zero_iff, ← hCount, hNone]

namespace TranslationUnit

/-- The declaration `_Atomic int * _Atomic p, f(int a[_Atomic 3]);`. -/
def partlyAtomic : TranslationUnit :=
  let atomic : TypeQualifier := ⟨.atomic, .empty⟩
  let p : Declarator := ⟨[⟨[atomic], .empty⟩], .ofName "p", .empty⟩
  let a := Declarator.ofDirect (.array (.ofName "a") [atomic] (.sized (some (.int 3))) .empty)
  let f := DirectDeclarator.functionWith (.ofName "f")
    (.parameters (.ofParams [.named [.ofType (.keyword .int)] a .empty]))
  ⟨[.declaration (.ofParts [.qualifier atomic, .ofType (.keyword .int)]
    [⟨p, none⟩, ⟨.ofDirect f, none⟩])], none⟩

/-- The declaration `int * _Atomic p;`. -/
def pointerToAtomic : TranslationUnit :=
  let p : Declarator := ⟨[⟨[⟨.atomic, .empty⟩], .empty⟩], .ofName "p", .empty⟩
  ⟨[.declaration (.ofParts [.ofType (.keyword .int)] [⟨p, none⟩])], none⟩

end TranslationUnit

/-- One of three is reported. -/
theorem partlyAtomic_reports :
    ∃ o, TranslationUnit.partlyAtomic.output? .constant {} = .ok o ∧
      (TranslationUnit.partlyAtomic.atomics Site.qualifiers).length = 3 ∧
      o.diagnostics.countP (·.code == some .atomic) = 1 := by
  have hSucceeds : succeeds (Lowering.units .constant TranslationUnit.partlyAtomic.units)
      (.start {}) = true := by cbv
  obtain ⟨_, s, hLower⟩ := succeeds_iff.mp hSucceeds
  have hOutput : TranslationUnit.partlyAtomic.output? .constant {} = .ok s.output := by
    rw [TranslationUnit.output?, TranslationUnit.lower, hLower]
  have hAll : (TranslationUnit.partlyAtomic.atomics Site.qualifiers).length = 3 := by cbv
  have hMissing : (TranslationUnit.partlyAtomic.atomics Site.declaratorQualifiers).length = 2 := by
    cbv
  obtain ⟨-, hCount, -⟩ := atomic_reports hOutput
  exact ⟨s.output, hOutput, hAll, by omega⟩

/-- The `_Atomic` behind the pointer marker is not reported, and the strict output lets it pass. -/
theorem pointerToAtomic_unreported :
    ∃ o, TranslationUnit.pointerToAtomic.output? .constant {} = .ok o ∧
      (TranslationUnit.pointerToAtomic.atomics Site.qualifiers).length = 1 ∧
      o.diagnostics.countP (·.code == some .atomic) = 0 ∧ o.strict = .ok o := by
  have hSucceeds : succeeds (Lowering.units .constant TranslationUnit.pointerToAtomic.units)
      (.start {}) = true := by cbv
  obtain ⟨_, s, hLower⟩ := succeeds_iff.mp hSucceeds
  have hOutput : TranslationUnit.pointerToAtomic.output? .constant {} = .ok s.output := by
    rw [TranslationUnit.output?, TranslationUnit.lower, hLower]
  have hDiagnostics : s.output.diagnostics = [] :=
    (TranslationUnit.diagnostics_eq hOutput).trans (by cbv)
  refine ⟨s.output, hOutput, by cbv, by rw [hDiagnostics]; rfl, ?_⟩
  rw [Output.strict, Output.issues, hDiagnostics]
  rfl

end CDecl
