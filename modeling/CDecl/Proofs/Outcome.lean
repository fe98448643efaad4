import CDecl.Proofs.Visits
import CDecl.Syntax.Build

/-!
# What the sites decide

Whether a unit can be lowered, where it cannot, and what is reported about it are read off the sites
of its tree.  Neither the evaluator nor what the session has recorded before plays a part.

`units_error_iff` says which units cannot be lowered and with which mismatch, and
`output_diagnostics` which diagnostics the others get.
-/

namespace CDecl

/-! ### Mismatches -/

/-- A site clashes if it is a keyword or a typedef name behind a record in its specifier list. -/
def Site.Clashes (site : Site) : Prop :=
  ∃ before s, site = .specifier before s ∧ s.asksForScalar = true ∧
    ∃ r ∈ before, r.record?.isSome = true

/-- The mismatch at the first site that clashes. -/
def FirstClash (sites : List Site) (e : ShapeMismatch) : Prop :=
  ∃ earlier before s later, sites = earlier ++ .specifier before s :: later ∧
    (∀ site ∈ earlier, ¬site.Clashes) ∧ (Site.specifier before s).Clashes ∧
      e = ⟨.aggregate, s.span⟩

theorem Site.mismatch?_eq_some_iff {site : Site} {e : ShapeMismatch} :
    site.mismatch? = some e ↔
      ∃ before s, site = .specifier before s ∧ site.Clashes ∧ e = ⟨.aggregate, s.span⟩ := by
  constructor
  · intro hSome
    cases site with
    | specifier before s =>
        rw [mismatch?] at hSome
        split at hSome
        · next hBoth =>
            rw [Bool.and_eq_true, List.any_eq_true] at hBoth
            exact ⟨before, s, rfl, ⟨before, s, rfl, hBoth⟩, (Option.some.inj hSome).symm⟩
        · cases hSome
    | _ => cases hSome
  · rintro ⟨before, s, rfl, ⟨_, _, hSite, hAsks, hRecord⟩, rfl⟩
    cases hSite
    rw [mismatch?, if_pos]
    rw [Bool.and_eq_true, List.any_eq_true]
    exact ⟨hAsks, hRecord⟩

theorem Site.mismatch?_isSome_iff {site : Site} :
    site.mismatch?.isSome = true ↔ site.Clashes := by
  rw [Option.isSome_iff_exists]
  constructor
  · rintro ⟨e, hSome⟩
    obtain ⟨_, _, -, hClashes, -⟩ := mismatch?_eq_some_iff.mp hSome
    exact hClashes
  · intro hClashes
    obtain ⟨before, s, rfl, -⟩ := id hClashes
    exact ⟨_, mismatch?_eq_some_iff.mpr ⟨before, s, rfl, hClashes, rfl⟩⟩

theorem Site.mismatch?_eq_none_iff {site : Site} : site.mismatch? = none ↔ ¬site.Clashes := by
  rw [← mismatch?_isSome_iff, Option.not_isSome_iff_eq_none]

theorem firstClash_iff {sites : List Site} {e : ShapeMismatch} :
    FirstClash sites e ↔ sites.findSome? Site.mismatch? = some e := by
  rw [List.findSome?_eq_some_iff]
  constructor
  · rintro ⟨earlier, before, s, later, rfl, hEarlier, hClashes, rfl⟩
    refine ⟨earlier, _, later, rfl, ?_, fun site hSite => ?_⟩
    · exact Site.mismatch?_eq_some_iff.mpr ⟨before, s, rfl, hClashes, rfl⟩
    · exact Site.mismatch?_eq_none_iff.mpr (hEarlier site hSite)
  · rintro ⟨earlier, site, later, rfl, hSome, hEarlier⟩
    obtain ⟨before, s, rfl, hClashes, rfl⟩ := Site.mismatch?_eq_some_iff.mp hSome
    refine ⟨earlier, before, s, later, rfl, fun site hSite => ?_, hClashes, rfl⟩
    exact Site.mismatch?_eq_none_iff.mp (hEarlier site hSite)

theorem exists_firstClash_iff {sites : List Site} :
    (∃ e, FirstClash sites e) ↔ ∃ site ∈ sites, site.Clashes := by
  simp only [firstClash_iff, ← Option.isSome_iff_exists, List.findSome?_isSome_iff,
    Site.mismatch?_isSome_iff]

/-- A computation that visits sites fails exactly with the first mismatch at them. -/
theorem Visits.error_iff {σ α : Type} {report : σ → Report} {x : EStateM ShapeMismatch σ α}
    {sites : List Site} {holds : α → Prop} (hx : Visits report x sites holds) (s : σ)
    (e : ShapeMismatch) : (∃ s', x s = .error e s') ↔ FirstClash sites e := by
  have hRun := hx s
  rw [firstClash_iff]
  cases hMismatch : sites.findSome? Site.mismatch? with
  | some e' =>
      rw [hMismatch] at hRun
      obtain ⟨s', hRun⟩ := hRun
      rw [hRun]
      simp
  | none =>
      rw [hMismatch] at hRun
      obtain ⟨a, s', hRun, -⟩ := hRun
      rw [hRun]
      simp

theorem TranslationUnit.output?_eq_error_iff {ev : Evaluator} {policy : WarningPolicy}
    {u : TranslationUnit} {e : ShapeMismatch} :
    u.output? ev policy = .error e ↔
      ∃ s', Lowering.units ev u.units (.start policy) = .error e s' := by
  unfold output? lower
  cases Lowering.units ev u.units (.start policy) <;> simp

theorem ShapeMismatch.message_aggregate (location : Span) :
    (ShapeMismatch.mk .aggregate location).message =
      "inconsistent declarator shape at " ++ location.text ++
        ": expected scalar descriptor, found aggregate" := by
  have hFound : ": expected scalar descriptor, found " ++ "aggregate" =
      ": expected scalar descriptor, found aggregate" := by simp
  calc (ShapeMismatch.mk .aggregate location).message
      = "inconsistent declarator shape at " ++ location.text ++
          (": expected scalar descriptor, found " ++ "aggregate") := String.append_assoc
    _ = _ := by rw [hFound]

/-- **Which units cannot be lowered.**  Whatever a session has recorded, and whatever its policy is, a
unit with those chained after it meets a mismatch exactly if a keyword or typedef name stands behind a
record in a specifier list that lowering comes to.  The mismatch is at the first of them, where a
scalar is asked for and a record is found. -/
theorem units_error_iff (ev : Evaluator) (u : TranslationUnit) :
    (∀ s : Session, (∃ e s', Lowering.units ev u.units s = .error e s') ↔
      ∃ site ∈ u.sites, site.Clashes) ∧
    (∀ (s : Session) (e : ShapeMismatch),
      (∃ s', Lowering.units ev u.units s = .error e s') ↔ FirstClash u.sites e) ∧
    (∀ (policy : WarningPolicy) (e : ShapeMismatch),
      u.output? ev policy = .error e ↔ FirstClash u.sites e) ∧
    ∀ e : ShapeMismatch, FirstClash u.sites e →
      e.message = "inconsistent declarator shape at " ++ e.location.text ++
        ": expected scalar descriptor, found aggregate" := by
  have hVisits := (Lowering.units_visits ev u.units).error_iff
  refine ⟨?_, hVisits, ?_, ?_⟩
  · intro s
    rw [← exists_firstClash_iff]
    exact exists_congr fun e => hVisits s e
  · intro policy e
    rw [TranslationUnit.output?_eq_error_iff]
    exact hVisits (.start policy) e
  · intro e hFirst
    obtain ⟨_, _, _, _, -, -, -, rfl⟩ := hFirst
    exact ShapeMismatch.message_aggregate _

/-- The declarations `int h(void);` and, chained after it, `struct { union { char c; } unsigned m; } v;`
where `unsigned` stands at the offsets 26 to 34. -/
def TranslationUnit.withClash : TranslationUnit :=
  let h := DirectDeclarator.functionWith (.ofName "h") (.parameters .void)
  let inner := RecordSpecifier.definition .union none
    [.ofParts [.ofType (.keyword .char)] [.declarator (.ofDirect (.ofName "c"))]]
  let outer := RecordSpecifier.definition .struct none
    [.ofParts [.ofType (.record inner), .type ⟨.keyword .unsigned, .ofOffsets 0 26 34⟩]
      [.declarator (.ofDirect (.ofName "m"))]]
  let v := Declarator.ofDirect (.ofName "v")
  ⟨[.declaration (.ofParts [.ofType (.keyword .int)] [⟨.ofDirect h, none⟩])],
    some ⟨[.declaration (.ofParts [.ofType (.record outer)] [⟨v, none⟩])], none⟩⟩

theorem withClash_error :
    TranslationUnit.withClash.output? .constant {} = .error ⟨.aggregate, .ofOffsets 0 26 34⟩ ∧
      (ShapeMismatch.mk .aggregate (.ofOffsets 0 26 34)).message =
        "inconsistent declarator shape at 0:26..34: expected scalar descriptor, found aggregate" := by
  have hFirst : FirstClash TranslationUnit.withClash.sites ⟨.aggregate, .ofOffsets 0 26 34⟩ :=
    firstClash_iff.mpr (by cbv)
  obtain ⟨-, -, hOutput, hMessage⟩ := units_error_iff .constant TranslationUnit.withClash
  exact ⟨(hOutput {} _).mpr hFirst, (hMessage _ hFirst).trans (by cbv)⟩

/-! ### Diagnostics -/

/-- A computation that visits sites and gives a value collects the diagnostics at them. -/
theorem Visits.report_eq {σ α : Type} {report : σ → Report} {x : EStateM ShapeMismatch σ α}
    {sites : List Site} {holds : α → Prop} (hx : Visits report x sites holds) {s s' : σ} {a : α}
    (hRun : x s = .ok a s') : report s' = (report s).extend sites := by
  have hVisited := hx s
  rw [hRun] at hVisited
  split at hVisited
  · simp at hVisited
  · obtain ⟨_, _, hSame, -, hReport⟩ := hVisited
    obtain rfl := (EStateM.Result.ok.inj hSame).2
    exact hReport

theorem TranslationUnit.diagnostics_eq {ev : Evaluator} {policy : WarningPolicy}
    {u : TranslationUnit} {o : Output} (hOutput : u.output? ev policy = .ok o) :
    o.diagnostics = u.sites.filterMap (Site.diagnostic? policy) := by
  unfold output? lower at hOutput
  split at hOutput
  · next s hRun =>
      obtain rfl := Except.ok.inj hOutput
      have hReport := (Lowering.units_visits ev u.units).report_eq hRun
      have hDiagnostics := congrArg (fun r : Report => r.diagnostics.toList) hReport
      simpa [Report.extend, Session.start, Session.output, sites] using hDiagnostics
  · simp at hOutput

/-- **Diagnostics are a matter of syntax.**  When no warning option is given, the diagnostics are
those of the findings at the sites, in order. -/
theorem output_diagnostics {ev : Evaluator} {u : TranslationUnit} {o : Output}
    (hOutput : u.output? ev {} = .ok o) :
    o.diagnostics = (u.sites.filterMap Site.finding?).map Finding.diagnostic := by
  rw [TranslationUnit.diagnostics_eq hOutput, funext Site.diagnostic?_default, List.map_filterMap]

/-- The declarations `inline struct { int : 3; int; } x[static 4] = { 0 };` and, chained after it,
`int;` and the definition `int f(a) int a; { }`. -/
def TranslationUnit.withFindings : TranslationUnit :=
  let record := RecordSpecifier.definition .struct none
    [.ofParts [.ofType (.keyword .int)] [.bitField none (.int 3) .empty],
      .ofParts [.ofType (.keyword .int)] []]
  let x := DirectDeclarator.arrayOf (.ofName "x") (.static (.int 4))
  let f := DirectDeclarator.functionWith (.ofName "f") (.identifiers [.ofName "a"])
  let a := Declarator.ofDirect (.ofName "a")
  ⟨[.declaration (.ofParts [.ofFunctionSpecifier .inline, .ofType (.record record)]
      [⟨.ofDirect x, some (.list [.expr (.int 0)] false .empty)⟩])],
    some ⟨[.declaration (.ofParts [.ofType (.keyword .int)] []),
      .definition ⟨[.ofType (.keyword .int)], .ofDirect f,
        [.ofParts [.ofType (.keyword .int)] [⟨a, none⟩]], .empty⟩], none⟩⟩

theorem withFindings_diagnostics :
    ∃ o, TranslationUnit.withFindings.output? .constant {} = .ok o ∧
      o.diagnostics.map (fun d => (d.level, d.code)) =
        [(.warning, some ⟨.declarationSpecifiers, 3⟩), (.warning, some ⟨.structDeclarator, 1⟩),
          (.note, none), (.warning, some ⟨.directDeclarator, 3⟩),
          (.warning, some ⟨.initializer, 1⟩), (.note, none),
          (.warning, some ⟨.functionDefinition, 1⟩), (.warning, some ⟨.functionSuffix, 1⟩)] := by
  have hLower : succeeds (Lowering.units .constant TranslationUnit.withFindings.units)
      (.start {}) = true := by cbv
  obtain ⟨_, s, hLower⟩ := succeeds_iff.mp hLower
  have hOutput : TranslationUnit.withFindings.output? .constant {} = .ok s.output := by
    rw [TranslationUnit.output?, TranslationUnit.lower, hLower]
  refine ⟨s.output, hOutput, ?_⟩
  rw [output_diagnostics hOutput]
  cbv

end CDecl
