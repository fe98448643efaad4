import CDecl.Proofs.Agreement
import CDecl.Proofs.Outcome

/-!
# Warning options

Lowering adds to a report and never reads it, so a warning option can only change how the findings are
listed: all of them are there as errors, or only the remarks, or they stand as they do without options.
Declarations, symbols, tags and mismatches are what they are without options (`output_ofOptions`).
-/

namespace CDecl

/-! ### Listing findings -/

/-- The same diagnostic, as an error if it is a warning. -/
def Diagnostic.asError (d : Diagnostic) : Diagnostic :=
  if d.level = .warning then { d with level := .error } else d

/-- Diagnostics as warning options list them.  Counting warnings as errors outweighs silencing them. -/
def relist (options : List String) (diagnostics : List Diagnostic) : List Diagnostic :=
  if "error" ∈ options then diagnostics.map Diagnostic.asError
  else if "no-warnings" ∈ options then diagnostics.filter (·.level = .note)
  else diagnostics

/-- The output with its diagnostics as warning options list them. -/
def Output.relisted (options : List String) (o : Output) : Output :=
  { o with diagnostics := relist options o.diagnostics }

/-- The three ways to list unsupported constructs. -/
theorem WarningPolicy.level?_ofOptions (options : List String) :
    (ofOptions options).level? = if "error" ∈ options then some .error
      else if "no-warnings" ∈ options then none else some .warning := by
  simp [level?, ofOptions]

namespace Finding

theorem diagnostic?_asErrors {policy : WarningPolicy} (hLevel : policy.level? = some .error)
    (f : Finding) : f.diagnostic? policy = some f.diagnostic.asError := by
  cases f <;> simp [diagnostic?, diagnostic, Diagnostic.asError, hLevel]

theorem diagnostic?_silenced {policy : WarningPolicy} (hLevel : policy.level? = none)
    (f : Finding) :
    f.diagnostic? policy = if f.diagnostic.level = .note then some f.diagnostic else none := by
  cases f <;> simp [diagnostic?, diagnostic, hLevel]

theorem diagnostic?_listed {policy : WarningPolicy} (hLevel : policy.level? = some .warning)
    (f : Finding) : f.diagnostic? policy = some f.diagnostic := by
  cases f <;> simp [diagnostic?, diagnostic, hLevel]

end Finding

/-- Findings are listed as the warning options say. -/
theorem relist_findings (options : List String) (findings : List Finding) :
    findings.filterMap (Finding.diagnostic? (.ofOptions options)) =
      relist options (findings.map Finding.diagnostic) := by
  have hLevel := WarningPolicy.level?_ofOptions options
  unfold relist
  -- One case for each way of listing; remarks are kept in all of them.
  split
  · next hError =>
      rw [if_pos hError] at hLevel
      rw [funext (Finding.diagnostic?_asErrors hLevel), List.filterMap_eq_map', List.map_map]
      rfl
  · next hError =>
      rw [if_neg hError] at hLevel
      split
      · next hSilent =>
          rw [if_pos hSilent] at hLevel
          rw [funext (Finding.diagnostic?_silenced hLevel), ← List.filterMap_eq_filter,
            List.filterMap_map]
          congr 1
          funext f
          simp [Option.guard]
      · next hSilent =>
          rw [if_neg hSilent] at hLevel
          rw [funext (Finding.diagnostic?_listed hLevel), List.filterMap_eq_map']

/-! ### Outputs -/

/-- A unit has the same mismatch, or declares and finds the same, under every policy. -/
theorem TranslationUnit.exists_findings (ev : Evaluator) (u : TranslationUnit) :
    ∃ (declarations : List Entity) (symbols : SymbolTable) (tags : Table Aggregate)
      (findings : List Finding) (answer : Except ShapeMismatch Unit),
      ∀ policy : WarningPolicy, u.output? ev policy = answer.map fun _ =>
        ⟨declarations, symbols, tags, findings.filterMap (Finding.diagnostic? policy)⟩ := by
  obtain ⟨events, entities, answer, hRun⟩ :=
    Lowering.units_settledBy (Agreement.readsAt_same ev _) .empty
  refine ⟨entities, Table.empty.insertAll (events.filterMap Event.symbol?),
    Table.empty.insertAll (events.filterMap Event.tagged?), events.filterMap Event.finding?, answer,
    fun policy => ?_⟩
  have hDiagnostics : (events.filterMap Event.finding?).filterMap (Finding.diagnostic? policy) =
      events.filterMap (Event.diagnostic? policy) := List.filterMap_filterMap
  rw [hDiagnostics, output?, lower, hRun (.start policy) rfl]
  cases answer with
  | error e => rfl
  | ok _ =>
      simp [Lowering.play, Session.start, Session.extend, Session.output, Context.replay_eq,
        Except.map]

/-- Without warning options there is no error. -/
theorem TranslationUnit.level_ne_error {ev : Evaluator} {u : TranslationUnit} {o : Output}
    (hOutput : u.output? ev {} = .ok o) : ∀ d ∈ o.diagnostics, d.level ≠ .error := by
  rw [TranslationUnit.diagnostics_eq hOutput]
  intro d hMem
  obtain ⟨site, -, hSite⟩ := List.mem_filterMap.mp hMem
  obtain ⟨f, -, hDiagnostic⟩ := Option.bind_eq_some_iff.mp hSite
  rw [Finding.diagnostic?_default] at hDiagnostic
  cases f <;> cases hDiagnostic <;> simp [Finding.diagnostic]

namespace Output

/-- The strict output is refused for its issues, which are counted. -/
theorem strict_eq_error_iff {o : Output} {n : Nat} :
    o.strict = .error n ↔ o.issues ≠ [] ∧ n = o.issues.length := by
  unfold strict
  split
  · next hEmpty => simp [List.isEmpty_iff.mp hEmpty]
  · next hEmpty =>
      rw [List.isEmpty_iff] at hEmpty
      simp [hEmpty, eq_comm]

variable {o : Output} {options : List String}

/-- Where warnings count as errors, these are the issues. -/
theorem issues_asErrors (hError : "error" ∈ options)
    (hLevels : ∀ d ∈ o.diagnostics, d.level ≠ .error) :
    (o.relisted options).issues = (o.diagnostics.filter (·.level = .warning)).map Diagnostic.asError := by
  rw [issues, relisted, relist, if_pos hError, List.filter_map]
  congr 1
  refine List.filter_congr fun d hMem => ?_
  have hLevel := hLevels d hMem
  cases hKind : d.level <;> simp_all [Diagnostic.asError]

/-- There are errors exactly if there is an issue, where warnings count as errors. -/
theorem hasErrors_asErrors (hError : "error" ∈ options)
    (hLevels : ∀ d ∈ o.diagnostics, d.level ≠ .error) :
    (o.relisted options).hasErrors = true ↔ ∃ d ∈ o.diagnostics, d.level = .warning := by
  rw [hasErrors, relisted, relist, if_pos hError, List.any_map, List.any_eq_true]
  refine exists_congr fun d => and_congr_right fun hMem => ?_
  have hLevel := hLevels d hMem
  cases hKind : d.level <;> simp_all [Diagnostic.asError]

end Output

/-- **Warning options change only how issues are listed.**  A unit and those chained after it have the
same mismatch as without options, or the same output but for the listing of its diagnostics.  When
warnings count as errors, there is an error exactly if the strict output is refused, and exactly if there
is a warning without options; the strict output counts these. -/
theorem output_ofOptions (ev : Evaluator) (u : TranslationUnit) (options : List String) :
    u.output? ev (.ofOptions options) = (u.output? ev {}).map (Output.relisted options) ∧
    ("error" ∈ options → ∀ o o' : Output, u.output? ev {} = .ok o →
      u.output? ev (.ofOptions options) = .ok o' →
        (o'.hasErrors = true ↔ ∃ d ∈ o.diagnostics, d.level = .warning) ∧
        ((∃ n, o'.strict = .error n) ↔ ∃ d ∈ o.diagnostics, d.level = .warning) ∧
        ∀ n, o'.strict = .error n → n = (o.diagnostics.filter (·.level = .warning)).length) := by
  obtain ⟨declarations, symbols, tags, findings, answer, hOutput⟩ := u.exists_findings ev
  have hRelisted : u.output? ev (.ofOptions options) =
      (u.output? ev {}).map (Output.relisted options) := by
    rw [hOutput, hOutput]
    cases answer with
    | error e => rfl
    | ok _ =>
        have hDefault : findings.filterMap (Finding.diagnostic? {}) =
            findings.map Finding.diagnostic := by
          rw [funext Finding.diagnostic?_default, List.filterMap_eq_map']
        simp only [Except.map, Output.relisted, relist_findings, hDefault]
  refine ⟨hRelisted, fun hError o o' hDefault hOption => ?_⟩
  have hRelist : o.relisted options = o' := by
    rw [hRelisted, hDefault] at hOption
    exact Except.ok.inj hOption
  -- The default run has no errors of its own, so its issues are its warnings.
  have hLevels := TranslationUnit.level_ne_error hDefault
  have hIssues := Output.issues_asErrors hError hLevels
  rw [hRelist] at hIssues
  refine ⟨hRelist ▸ Output.hasErrors_asErrors hError hLevels, ?_, fun n hStrict => ?_⟩
  · simp [Output.strict_eq_error_iff, hIssues]
  · rw [(Output.strict_eq_error_iff.mp hStrict).2, hIssues, List.length_map]

/-- Six warnings and two notes.  The notes alone are left without warnings; with both options there are
six errors among them. -/
theorem withFindings_options :
    (∃ o, TranslationUnit.withFindings.output? .constant (.ofOptions ["no-warnings"]) = .ok o ∧
      o.diagnostics.map (·.level) = [.note, .note]) ∧
    ∃ o, TranslationUnit.withFindings.output? .constant (.ofOptions ["no-warnings", "error"]) = .ok o ∧
      o.hasErrors = true ∧ (∃ n, o.strict = .error n) ∧ ∀ n, o.strict = .error n → n = 6 := by
  have hLower : succeeds (Lowering.units .constant TranslationUnit.withFindings.units)
      (.start {}) = true := by cbv
  obtain ⟨_, s, hLower⟩ := succeeds_iff.mp hLower
  have hDefault : TranslationUnit.withFindings.output? .constant {} = .ok s.output := by
    rw [TranslationUnit.output?, TranslationUnit.lower, hLower]
  have hDiagnostics := TranslationUnit.diagnostics_eq hDefault
  obtain ⟨hSilent, -⟩ := output_ofOptions .constant .withFindings ["no-warnings"]
  obtain ⟨hBoth, hErrors⟩ := output_ofOptions .constant .withFindings ["no-warnings", "error"]
  rw [hDefault] at hSilent hBoth
  refine ⟨⟨_, hSilent, ?_⟩, _, hBoth, ?_⟩
  · show (relist ["no-warnings"] s.output.diagnostics).map (·.level) = _
    rw [hDiagnostics]
    cbv
  · obtain ⟨hHasErrors, hStrict, hCount⟩ := hErrors (by simp) _ _ hDefault hBoth
    have hSix : (s.output.diagnostics.filter (·.level = .warning)).length = 6 := by
      rw [hDiagnostics]
      cbv
    have hWarning : ∃ d ∈ s.output.diagnostics, d.level = .warning := by
      obtain ⟨d, hMem⟩ := List.exists_mem_of_length_pos (by rw [hSix]; decide)
      obtain ⟨hListed, hLevel⟩ := List.mem_filter.mp hMem
      exact ⟨d, hListed, of_decide_eq_true hLevel⟩
    exact ⟨hHasErrors.mpr hWarning, hStrict.mpr hWarning, fun n hError => (hCount n hError).trans hSix⟩

end CDecl
