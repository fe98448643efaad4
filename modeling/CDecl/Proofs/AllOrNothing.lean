import CDecl.Proofs.Inputs
import CDecl.Proofs.WarningOptions

/-!
# All or nothing

A run writes once, at its very end.  `Ends` lists the six ways in which a run can end, with what it has
printed and the state in which it leaves the file system; `run_ends` says that there are no others.

The main result, `run_all_or_nothing`, is read off that list: when a run succeeds, what it writes then, that
it leaves nothing behind when it does not, and which input is to blame when one cannot be read.
-/

namespace CDecl

namespace TranslationUnit

/-- The diagnostics under warning options are the default ones, listed as the options say. -/
theorem diagnosticsUnder_ofOptions (options : List String) (u : TranslationUnit) :
    u.diagnosticsUnder (.ofOptions options) = relist options (u.diagnosticsUnder {}) := by
  have hUnder : ∀ policy, u.diagnosticsUnder policy =
      (u.sites.filterMap Site.finding?).filterMap (Finding.diagnostic? policy) :=
    fun _ => List.filterMap_filterMap.symm
  rw [hUnder, hUnder, relist_findings, funext Finding.diagnostic?_default, List.filterMap_eq_map']

variable {ev : Evaluator} {u : TranslationUnit}

theorem mismatch?_eq_none {policy : WarningPolicy} {o : Output}
    (hOutput : u.output? ev policy = .ok o) : u.sites.findSome? Site.mismatch? = none := by
  unfold output? lower at hOutput
  split at hOutput
  · next s hRun => exact (Lowering.units_visits ev u.units).mismatch?_eq_none hRun
  · cases hOutput

/-- Where warnings count as errors, there is no issue exactly if the default run has no warning. -/
theorem issues_eq_nil_iff {options : List String} (hError : "error" ∈ options) {o o' : Output}
    (hDefault : u.output? ev {} = .ok o) (hOption : u.output? ev (.ofOptions options) = .ok o') :
    o'.issues = [] ↔ ∀ d ∈ o.diagnostics, d.level ≠ .warning := by
  have hDiagnostics : o'.diagnostics = (o.relisted options).diagnostics := by
    show o'.diagnostics = relist options o.diagnostics
    rw [diagnostics_eq hOption, diagnostics_eq hDefault]
    exact u.diagnosticsUnder_ofOptions options
  have hIssues : o'.issues = (o.relisted options).issues := by
    rw [Output.issues, Output.issues, hDiagnostics]
  rw [hIssues, Output.issues_asErrors hError (level_ne_error hDefault)]
  simp

end TranslationUnit

namespace CommandLine

variable {σ : Type}

/-! ### How runs end -/

namespace FileSystem

variable (fs : FileSystem σ) (s : σ)

/-- Why the first of the files that have no tree has none. -/
def firstFailure? (paths : List String) : Option Failure :=
  paths.findSome? fun path => match fs.load s path with
    | .error failure => some failure
    | .ok _ => none

variable {fs s} {paths : List String}

theorem firstFailure?_eq_some_iff {failure : Failure} :
    fs.firstFailure? s paths = some failure ↔ ∃ before path after, paths = before ++ path :: after ∧
      (∀ p ∈ before, ∃ u, fs.load s p = .ok u) ∧ fs.load s path = .error failure := by
  have hSome : ∀ (path : String) (failure : Failure), (match fs.load s path with
      | .error failure => some failure
      | .ok _ => none) = some failure ↔ fs.load s path = .error failure := by
    intro path failure
    cases fs.load s path <;> simp
  have hNone : ∀ path : String, (match fs.load s path with
      | .error failure => some failure
      | .ok _ => none) = none ↔ ∃ u, fs.load s path = .ok u := by
    intro path
    cases fs.load s path <;> simp
  simp only [firstFailure?, List.findSome?_eq_some_iff, hSome, hNone]
  constructor
  · rintro ⟨before, path, after, hPaths, hPath, hBefore⟩
    exact ⟨before, path, after, hPaths, hBefore, hPath⟩
  · rintro ⟨before, path, after, hPaths, hBefore, hPath⟩
    exact ⟨before, path, after, hPaths, hPath, hBefore⟩

theorem firstFailure?_eq_none_iff :
    fs.firstFailure? s paths = none ↔ ∃ trees : List TranslationUnit, paths.map (fs.load s) = trees.map .ok := by
  induction paths with
  | nil => exact ⟨fun _ => ⟨[], rfl⟩, fun _ => rfl⟩
  | cons path rest ih =>
      cases hPath : fs.load s path with
      | error failure =>
          simp only [firstFailure?, List.findSome?_cons, hPath, List.map_cons, reduceCtorEq, false_iff]
          rintro ⟨trees, hTrees⟩
          cases trees with
          | nil => cases hTrees
          | cons u trees => cases (List.cons.inj hTrees).1
      | ok u =>
          simp only [firstFailure?, List.findSome?_cons, hPath, List.map_cons]
          refine ih.trans ⟨?_, ?_⟩
          · rintro ⟨trees, hTrees⟩
            exact ⟨u :: trees, by rw [hTrees, List.map_cons]⟩
          · rintro ⟨trees, hTrees⟩
            cases trees with
            | nil => cases hTrees
            | cons v trees => exact ⟨trees, (List.cons.inj hTrees).2⟩

theorem trees_unique {trees trees' : List TranslationUnit} (hTrees : paths.map (fs.load s) = trees.map .ok)
    (hTrees' : paths.map (fs.load s) = trees'.map .ok) : trees = trees' :=
  List.map_injective_iff.mpr (fun _ _ => Except.ok.inj) (hTrees.symm.trans hTrees')

end FileSystem

/-- The inputs of a run have trees, and the chain of them has an output. -/
structure FileSystem.Lowers (fs : FileSystem σ) (s : σ) (c : Config) (trees : List TranslationUnit) (o : Output) :
    Prop where
  load : c.inputs.map (fs.load s) = trees.map .ok
  output : (TranslationUnit.chainAll trees).output? .constant (.ofOptions c.warnings) = .ok o

/-- The ways in which a run can end: its result, what it has printed, and the state that it leaves. -/
inductive Ends (fs : FileSystem σ) (s : σ) (c : Config) : Except Failure Unit → String → σ → Prop
  | unread {failure : Failure} (hFirst : fs.firstFailure? s c.inputs = some failure) :
      Ends fs s c (.error failure) "" s
  | mismatch {trees : List TranslationUnit} {e : ShapeMismatch}
      (hTrees : c.inputs.map (fs.load s) = trees.map .ok)
      (hMismatch : (TranslationUnit.chainAll trees).output? .constant (.ofOptions c.warnings) =
        .error e) : Ends fs s c (.error (.mismatch e)) "" s
  | refused {trees : List TranslationUnit} {o : Output} (hLowers : fs.Lowers s c trees o)
      (hError : "error" ∈ c.warnings) (hIssues : o.issues ≠ []) :
      Ends fs s c (.error (.issues o.issues.length)) "" s
  | printed {trees : List TranslationUnit} {o : Output} (hLowers : fs.Lowers s c trees o)
      (hStrict : "error" ∈ c.warnings → o.issues = []) (hOutput : c.output = none) :
      Ends fs s c (.ok ()) (c.emit.render o) s
  | written {trees : List TranslationUnit} {o : Output} {path : String} {s' : σ}
      (hLowers : fs.Lowers s c trees o) (hStrict : "error" ∈ c.warnings → o.issues = [])
      (hOutput : c.output = some path) (hWrite : fs.write s path (c.emit.render o) = (.ok (), s')) :
      Ends fs s c (.ok ()) "" s'
  | unwritten {trees : List TranslationUnit} {o : Output} {path : String} {error : FileError} {s' : σ}
      (hLowers : fs.Lowers s c trees o) (hStrict : "error" ∈ c.warnings → o.issues = [])
      (hOutput : c.output = some path)
      (hWrite : fs.write s path (c.emit.render o) = (.error error, s')) :
      Ends fs s c (.error (.file path error)) "" s'

variable {fs : FileSystem σ} {s : σ} {c : Config}

theorem lowerInputs_run_unread {failure : Failure}
    (hFirst : fs.firstFailure? s c.inputs = some failure) :
    (lowerInputs fs.access c).run s = ((.error failure, []), s) := by
  obtain ⟨before, path, after, hInputs, hBefore, hPath⟩ :=
    FileSystem.firstFailure?_eq_some_iff.mp hFirst
  rw [lowerInputs, hInputs, stateM_run_bind (FileSystem.loadInputs_run_error hBefore hPath)]
  rfl

/-- A run ends in one of the six ways. -/
theorem run_ends (fs : FileSystem σ) (s : σ) (c : Config) :
    Ends fs s c ((run fs.access c).run s).1.result ((run fs.access c).run s).1.stdout
      ((run fs.access c).run s).2 := by
  cases hFirst : fs.firstFailure? s c.inputs with
  | some failure =>
      rw [run_of_failure (lowerInputs_run_unread hFirst)]
      exact .unread hFirst
  | none =>
      obtain ⟨trees, hTrees⟩ := FileSystem.firstFailure?_eq_none_iff.mp hFirst
      have hLength : c.inputs.length = trees.length := by simpa using congrArg List.length hTrees
      have hOutput := lowerTrees_output c.warnings hLength
      have hRun := lowerInputs_run_trees hTrees
      generalize lowerTrees c.warnings (c.inputs.zip trees) = lowered at hOutput hRun
      obtain ⟨lowered, events⟩ := lowered
      cases hChain : (TranslationUnit.chainAll trees).output? .constant (.ofOptions c.warnings) with
      | error e =>
          rw [hChain] at hOutput
          cases lowered with
          | ok l => cases hOutput
          | error failure =>
              obtain rfl : failure = .mismatch e := Except.error.inj hOutput
              rw [run_of_failure hRun]
              exact .mismatch hTrees hChain
      | ok o =>
          rw [hChain] at hOutput
          cases lowered with
          | error failure => cases hOutput
          | ok l =>
              obtain ⟨o, ends⟩ := l
              obtain rfl := Except.ok.inj hOutput
              have hLowers : fs.Lowers s c trees o := ⟨hTrees, hChain⟩
              rw [run_of_output hRun]
              dsimp only
              split
              · next hRefused => exact .refused hLowers hRefused.1 hRefused.2
              · next hAccepted =>
                  have hStrict : "error" ∈ c.warnings → o.issues = [] := by
                    intro hError
                    by_contra hIssues
                    exact hAccepted ⟨hError, hIssues⟩
                  cases hPath : c.output with
                  | none => exact .printed hLowers hStrict hPath
                  | some path =>
                      dsimp only
                      cases hWrite : fs.write s path (c.emit.render o) with
                      | mk result s' =>
                          cases result with
                          | ok _ => exact .written hLowers hStrict hPath hWrite
                          | error error => exact .unwritten hLowers hStrict hPath hWrite

/-! ### What follows for a run -/

theorem FileSystem.Lowers.unique {trees trees' : List TranslationUnit} {o o' : Output}
    (hLowers : fs.Lowers s c trees o) (hLowers' : fs.Lowers s c trees' o') : trees = trees' ∧ o = o' := by
  obtain rfl := FileSystem.trees_unique hLowers.load hLowers'.load
  exact ⟨rfl, Except.ok.inj (hLowers.output.symm.trans hLowers'.output)⟩

namespace Ends

variable {result : Except Failure Unit} {stdout : String} {s' : σ}

/-- A failure to read an input comes before everything else. -/
theorem result_of_unread (hEnds : Ends fs s c result stdout s') {failure : Failure}
    (hFirst : fs.firstFailure? s c.inputs = some failure) : result = .error failure := by
  have hTrees : ∀ trees : List TranslationUnit, c.inputs.map (fs.load s) ≠ trees.map .ok := by
    intro trees hTrees
    rw [FileSystem.firstFailure?_eq_none_iff.mpr ⟨trees, hTrees⟩] at hFirst
    cases hFirst
  cases hEnds with
  | unread hFirst' =>
      rw [hFirst] at hFirst'
      rw [Option.some.inj hFirst']
  | mismatch hLoad hMismatch => exact absurd hLoad (hTrees _)
  | refused hLowers hError hIssues => exact absurd hLowers.load (hTrees _)
  | printed hLowers hStrict hOutput => exact absurd hLowers.load (hTrees _)
  | written hLowers hStrict hOutput hWrite => exact absurd hLowers.load (hTrees _)
  | unwritten hLowers hStrict hOutput hWrite => exact absurd hLowers.load (hTrees _)

/-- What a run that succeeds has written, and where. -/
theorem text_of_ok (hEnds : Ends fs s c (.ok ()) stdout s') :
    ∃ trees o, fs.Lowers s c trees o ∧ match c.output with
      | none => stdout = c.emit.render o ∧ s' = s
      | some path => stdout = "" ∧ fs.write s path (c.emit.render o) = (.ok (), s') := by
  cases hEnds with
  | @printed trees o hLowers hStrict hOutput =>
      refine ⟨trees, o, hLowers, ?_⟩
      rw [hOutput]
      exact ⟨rfl, rfl⟩
  | @written trees o path _ hLowers hStrict hOutput hWrite =>
      refine ⟨trees, o, hLowers, ?_⟩
      rw [hOutput]
      exact ⟨rfl, hWrite⟩

/-- A run that fails prints nothing, and only its last step can have changed a file. -/
theorem unchanged_of_error {failure : Failure} (hEnds : Ends fs s c (.error failure) stdout s') :
    stdout = "" ∧ (s' = s ∨ ∃ path error text, c.output = some path ∧ failure = .file path error ∧
      fs.write s path text = (.error error, s')) := by
  cases hEnds with
  | unwritten hLowers hStrict hOutput hWrite => exact ⟨rfl, .inr ⟨_, _, _, hOutput, rfl, hWrite⟩⟩
  | _ => exact ⟨rfl, .inl rfl⟩

/-- When a run succeeds. -/
theorem result_eq_ok_iff (hEnds : Ends fs s c result stdout s') :
    result = .ok () ↔ ∃ trees o, fs.Lowers s c trees o ∧ ("error" ∈ c.warnings → o.issues = []) ∧
      ∀ path, c.output = some path → (fs.write s path (c.emit.render o)).1 = .ok () := by
  constructor
  · rintro rfl
    cases hEnds with
    | @printed trees o hLowers hStrict hOutput =>
        exact ⟨trees, o, hLowers, hStrict, fun path hPath => by rw [hOutput] at hPath; cases hPath⟩
    | @written trees o path _ hLowers hStrict hOutput hWrite =>
        refine ⟨trees, o, hLowers, hStrict, fun path' hPath => ?_⟩
        rw [hOutput] at hPath
        obtain rfl := Option.some.inj hPath
        rw [hWrite]
  · rintro ⟨trees, o, hLowers, hStrict, hWritable⟩
    cases hEnds with
    | printed hLowers' hStrict' hOutput => rfl
    | written hLowers' hStrict' hOutput hWrite => rfl
    | unread hFirst =>
        rw [FileSystem.firstFailure?_eq_none_iff.mpr ⟨trees, hLowers.load⟩] at hFirst
        cases hFirst
    | mismatch hTrees hMismatch =>
        obtain rfl := FileSystem.trees_unique hTrees hLowers.load
        rw [hLowers.output] at hMismatch
        cases hMismatch
    | refused hLowers' hError hIssues =>
        obtain ⟨rfl, rfl⟩ := hLowers'.unique hLowers
        exact absurd (hStrict hError) hIssues
    | unwritten hLowers' hStrict' hOutput hWrite =>
        obtain ⟨rfl, rfl⟩ := hLowers'.unique hLowers
        have hWritten := hWritable _ hOutput
        rw [hWrite] at hWritten
        cases hWritten

end Ends

/-- **All or nothing.**  A run succeeds exactly if all inputs can be read, their chain can be lowered, the
output can be written and, where warnings count as errors, the chain has no warning without options.  Then
the text of the output is all that it has written, to the standard output or to the output file.  A run
that fails prints nothing and leaves the file system as it is, unless it fails to write the output file.
If inputs cannot be read, the run fails for the first of them, whatever the trees of the others are
like. -/
theorem run_all_or_nothing (fs : FileSystem σ) (s : σ) (c : Config) :
    let r := (run fs.access c).run s
    (r.1.result = .ok () ↔ ∃ trees o o', c.inputs.map (fs.load s) = trees.map .ok ∧
      (TranslationUnit.chainAll trees).output? .constant (.ofOptions c.warnings) = .ok o ∧
      (TranslationUnit.chainAll trees).output? .constant {} = .ok o' ∧
      ("error" ∈ c.warnings → ∀ d ∈ o'.diagnostics, d.level ≠ .warning) ∧
      ∀ path, c.output = some path → (fs.write s path (c.emit.render o)).1 = .ok ()) ∧
    (r.1.result = .ok () → ∃ trees o, c.inputs.map (fs.load s) = trees.map .ok ∧
      (TranslationUnit.chainAll trees).output? .constant (.ofOptions c.warnings) = .ok o ∧
      match c.output with
      | none => r.1.stdout = c.emit.render o ∧ r.2 = s
      | some path => r.1.stdout = "" ∧ fs.write s path (c.emit.render o) = (.ok (), r.2)) ∧
    (∀ failure, r.1.result = .error failure → r.1.stdout = "" ∧
      (r.2 = s ∨ ∃ path error text, c.output = some path ∧ failure = .file path error ∧
        fs.write s path text = (.error error, r.2))) ∧
    ∀ before path after failure, c.inputs = before ++ path :: after →
      (∀ p ∈ before, ∃ u, fs.load s p = .ok u) → fs.load s path = .error failure →
        r.1.result = .error failure := by
  intro r
  have hEnds : Ends fs s c r.1.result r.1.stdout r.2 := run_ends fs s c
  refine ⟨hEnds.result_eq_ok_iff.trans ⟨?_, ?_⟩, fun hOk => ?_, fun failure hError => ?_, ?_⟩
  · rintro ⟨trees, o, hLowers, hStrict, hWritable⟩
    obtain ⟨o', hDefault, -⟩ :=
      TranslationUnit.exists_output .constant {} (TranslationUnit.mismatch?_eq_none hLowers.output)
    exact ⟨trees, o, o', hLowers.load, hLowers.output, hDefault, fun hError =>
      (TranslationUnit.issues_eq_nil_iff hError hDefault hLowers.output).mp (hStrict hError), hWritable⟩
  · rintro ⟨trees, o, o', hTrees, hOutput, hDefault, hStrict, hWritable⟩
    exact ⟨trees, o, ⟨hTrees, hOutput⟩, fun hError =>
      (TranslationUnit.issues_eq_nil_iff hError hDefault hOutput).mpr (hStrict hError), hWritable⟩
  · rw [hOk] at hEnds
    obtain ⟨trees, o, hLowers, hText⟩ := hEnds.text_of_ok
    exact ⟨trees, o, hLowers.load, hLowers.output, hText⟩
  · rw [hError] at hEnds
    exact hEnds.unchanged_of_error
  · intro before path after failure hInputs hBefore hPath
    exact hEnds.result_of_unread
      (FileSystem.firstFailure?_eq_some_iff.mpr ⟨before, path, after, hInputs, hBefore, hPath⟩)

theorem Directory.write_name {d : Directory} {name : String} (content : ByteArray)
    (hPlace : d.place name = .ok (.entry (.above 0) name)) (hSlash : name.endsWith "/" = false)
    (hSize : name.utf8ByteSize ≤ longestName) : d.write name content = .ok (d.insert name content) := by
  have hPath : (Folder.above 0).pathTo name = name := by simp [Folder.pathTo]
  simp [write, hPlace, hSlash, Nat.not_lt.mpr hSize, hPath]

/-- The two files can be lowered into a third one.  Where warnings count as errors the first one is refused,
also when warnings are silenced, and a file that is missing is named whatever stands before it. -/
theorem sizes_all_or_nothing :
    (∃ (o : Output) (r : Outcome × Directory),
      (TranslationUnit.chainAll [.namingSize, .usingSize]).output? .constant (.ofOptions []) = .ok o ∧
      r = (run Directory.access { inputs := ["n", "a"], output := some "o" }).run .sizes ∧
      r.1.result = .ok () ∧ r.1.stdout = "" ∧
      r.2 = Directory.sizes.insert "o" (Emit.tree.render o).toUTF8) ∧
    (∃ r : Outcome × Directory,
      r = (run Directory.access { inputs := ["n", "a"], warnings := ["no-warnings", "error"] }).run .sizes ∧
      r.1.result ≠ .ok () ∧ r.1.stdout = "" ∧ r.2 = .sizes) ∧
    ∃ r : Outcome × Directory,
      r = (run Directory.access { inputs := ["n", "m", "a"] }).run .sizes ∧
      r.1.result = .error (.file "m" .notFound) ∧ r.1.stdout = "" ∧ r.2 = .sizes := by
  obtain ⟨o, hOutput⟩ := output_sizes
  refine ⟨⟨o, _, hOutput, rfl, ?_⟩, ⟨_, rfl, ?_⟩, ⟨_, rfl, ?_⟩⟩
  · obtain ⟨hOk, hText, -⟩ := run_all_or_nothing Directory.fileSystem .sizes
      { inputs := ["n", "a"], output := some "o" }
    have hPlace : Directory.sizes.place "o" = .ok (.entry (.above 0) "o") :=
      Directory.place_name _ (by cbv) (by cbv) (by decide) (by decide) (by decide) (by decide)
    have hWrite : ∀ text : String, Directory.fileSystem.write .sizes "o" text =
        (.ok (), Directory.sizes.insert "o" text.toUTF8) := by
      intro text
      have hWritten := Directory.write_name text.toUTF8 hPlace (by cbv) (by decide)
      simp only [Directory.fileSystem, hWritten]
    have hResult := hOk.mpr ⟨_, _, _, load_sizes, hOutput, hOutput, by simp, fun path hPath => by
      obtain rfl := Option.some.inj hPath
      rw [hWrite]⟩
    obtain ⟨trees, o', hTrees, hSame, hStdout, hFile⟩ := hText hResult
    obtain rfl := FileSystem.trees_unique hTrees load_sizes
    obtain rfl : o' = o := Except.ok.inj (hSame.symm.trans hOutput)
    exact ⟨hResult, hStdout, (Prod.ext_iff.mp ((hWrite _).symm.trans hFile)).2.symm⟩
  · obtain ⟨hOk, -, hError, -⟩ := run_all_or_nothing Directory.fileSystem .sizes
      { inputs := ["n", "a"], warnings := ["no-warnings", "error"] }
    have hWarning : ((TranslationUnit.chainAll [.namingSize, .usingSize]).output? .constant {}).toOption.map
        (·.diagnostics.map (·.level)) = some [.warning, .note, .warning] := by cbv
    generalize hRun : (run Directory.access
      { inputs := ["n", "a"], warnings := ["no-warnings", "error"] }).run .sizes = r
    have hRun' : (run Directory.fileSystem.access
      { inputs := ["n", "a"], warnings := ["no-warnings", "error"] }).run .sizes = r := hRun
    rw [hRun'] at hOk hError
    cases hResult : r.1.result with
    | ok _ =>
        exfalso
        obtain ⟨trees, o, o', hTrees, -, hDefault, hStrict, -⟩ := hOk.mp hResult
        obtain rfl := FileSystem.trees_unique hTrees load_sizes
        rw [hDefault] at hWarning
        have hLevels : o'.diagnostics.map (·.level) = [.warning, .note, .warning] := Option.some.inj hWarning
        have hMem : Level.warning ∈ o'.diagnostics.map (·.level) := by simp [hLevels]
        obtain ⟨d, hd, hLevel⟩ := List.mem_map.mp hMem
        exact hStrict (by decide) d hd hLevel
    | error failure =>
        obtain ⟨hStdout, hSame | ⟨_, _, _, hOutput, -⟩⟩ := hError failure hResult
        · exact ⟨by simp, hStdout, hSame⟩
        · cases hOutput
  · obtain ⟨-, -, hError, hFirst⟩ := run_all_or_nothing Directory.fileSystem .sizes
      { inputs := ["n", "m", "a"] }
    have hLoad : Directory.fileSystem.load .sizes "m" = .error (.file "m" .notFound) := by
      have hPlace : Directory.sizes.place "m" = .ok (.entry (.above 0) "m") :=
        Directory.place_name _ (by cbv) (by cbv) (by decide) (by decide) (by decide) (by decide)
      have hRead : Directory.sizes.read "m" = .error .notFound := by
        have hPath : (Folder.above 0).pathTo "m" = "m" := by simp [Folder.pathTo]
        have hSlash : "m".endsWith "/" = false := by cbv
        have hFind : Directory.sizes.find? "m" = none := rfl
        have hSize : ¬ longestName < "m".utf8ByteSize := by decide
        have hContains : Directory.sizes.contains "m" = false := rfl
        simp [Directory.read, hPlace, hSlash, hPath, hFind, Directory.blocked, hSize, hContains]
      simp only [FileSystem.load, Directory.fileSystem, hRead]
    have hResult := hFirst ["n"] "m" ["a"] _ rfl
      (fun p hp => ⟨_, by
        obtain rfl := List.mem_singleton.mp hp
        exact (List.cons.inj load_sizes).1⟩) hLoad
    obtain ⟨hStdout, hSame | ⟨_, _, _, hOutput, -⟩⟩ := hError _ hResult
    · exact ⟨hResult, hStdout, hSame⟩
    · cases hOutput

end CommandLine

end CDecl
