import CDecl.CommandLine.Run
import CDecl.Proofs.Chains
import CDecl.Proofs.Outcome
import CDecl.Syntax.Build

/-!
# Inputs of a run

A run reads its inputs one after the other and lowers them in one session, which it asks after each input
how many diagnostics there are.  That session does what the chain of all inputs does (`lowerFiles_sameButLog`),
and between two of these numbers stand the diagnostics of a single input, as it has them on its own
(`lowerFiles_ends`).

A run prints these under the path of their input (`run_stderr`, `reportLines_of_sections`).

The main result, `inputs_lowered_as_chain`, puts all of it together for the inputs in a file system.
-/

namespace CDecl

/-! ### A chain on its own -/

/-- Where a computation gives a value, there is no mismatch at the sites that it visits. -/
theorem Visits.mismatch?_eq_none {σ α : Type} {report : σ → Report} {x : EStateM ShapeMismatch σ α}
    {sites : List Site} {holds : α → Prop} (hx : Visits report x sites holds) {s s' : σ} {a : α}
    (hRun : x s = .ok a s') : sites.findSome? Site.mismatch? = none := by
  have hVisited := hx s
  cases hMismatch : sites.findSome? Site.mismatch? with
  | none => rfl
  | some e =>
      rw [hMismatch, hRun] at hVisited
      obtain ⟨s₁, hError⟩ := hVisited
      cases hError

namespace TranslationUnit

/-- The diagnostics of a chain under a policy. -/
def diagnosticsUnder (policy : WarningPolicy) (u : TranslationUnit) : List Diagnostic :=
  u.sites.filterMap (Site.diagnostic? policy)

/-- A chain without a mismatch has an output, with these diagnostics. -/
theorem exists_output (ev : Evaluator) (policy : WarningPolicy) {u : TranslationUnit}
    (hMismatch : u.sites.findSome? Site.mismatch? = none) :
    ∃ o, u.output? ev policy = .ok o ∧ o.diagnostics = u.diagnosticsUnder policy := by
  have hRun := Lowering.units_visits ev u.units (.start policy)
  rw [← sites, hMismatch] at hRun
  obtain ⟨_, s, hRun, -⟩ := hRun
  have hOutput : u.output? ev policy = .ok s.output := by rw [output?, lower, hRun]
  exact ⟨s.output, hOutput, diagnostics_eq hOutput⟩

/-- Chains without a mismatch have their outputs. -/
theorem exists_outputs (ev : Evaluator) (policy : WarningPolicy) :
    ∀ {chains : List TranslationUnit},
      (∀ u ∈ chains, u.sites.findSome? Site.mismatch? = none) →
      ∃ outputs : List Output, chains.map (·.output? ev policy) = outputs.map .ok ∧
        outputs.map (·.diagnostics) = chains.map (diagnosticsUnder policy)
  | [], _ => ⟨[], rfl, rfl⟩
  | u :: rest, hMismatch => by
      obtain ⟨o, hOutput, hDiagnostics⟩ := exists_output ev policy (hMismatch u (.head _))
      obtain ⟨outputs, hOutputs, hRest⟩ :=
        exists_outputs ev policy fun v hMem => hMismatch v (.tail _ hMem)
      exact ⟨o :: outputs, by simp [hOutput, hOutputs], by simp [hDiagnostics, hRest]⟩

end TranslationUnit

end CDecl

namespace CDecl.CommandLine

/-! ### Sections of a list -/

variable {α : Type}

/-- The places at which parts end that stand one behind the other from `start` on. -/
def stops (start : Nat) : List (List α) → List Nat
  | [] => []
  | part :: rest => (start + part.length) :: stops (start + part.length) rest

@[simp] theorem length_stops (start : Nat) (parts : List (List α)) :
    (stops start parts).length = parts.length := by
  induction parts generalizing start with
  | nil => rfl
  | cons part rest ih => simp [stops, ih]

theorem le_of_mem_stops {start stop : Nat} {parts : List (List α)}
    (hMem : stop ∈ stops start parts) : start ≤ stop := by
  induction parts generalizing start with
  | nil => cases hMem
  | cons part rest ih =>
      rcases List.mem_cons.mp hMem with rfl | hRest
      · exact Nat.le_add_right start part.length
      · have hLater := ih hRest
        omega

theorem pairwise_stops (start : Nat) (parts : List (List α)) :
    (stops start parts).Pairwise (· ≤ ·) := by
  induction parts generalizing start with
  | nil => exact .nil
  | cons part rest ih => exact .cons (fun _ hMem => le_of_mem_stops hMem) (ih _)

theorem getLast?_stops (start : Nat) {parts : List (List α)} (hParts : parts ≠ []) :
    (stops start parts).getLast? = some (start + parts.flatten.length) := by
  induction parts generalizing start with
  | nil => exact absurd rfl hParts
  | cons part rest ih =>
      cases rest with
      | nil => simp [stops]
      | cons next rest =>
          have hLast := ih (start + part.length) (by simp)
          simp only [stops, List.getLast?_cons_cons] at hLast ⊢
          rw [hLast]
          simp [Nat.add_assoc]

/-- Cut at these places, the list falls into the parts again. -/
theorem sections_stops (before : List α) (parts : List (List α)) :
    sections (before ++ parts.flatten) before.length (stops before.length parts) = parts := by
  induction parts generalizing before with
  | nil => rfl
  | cons part rest ih =>
      have hRest := ih (before ++ part)
      rw [List.length_append, List.append_assoc] at hRest
      have hFirst : ((before ++ (part ++ rest.flatten)).take (before.length + part.length)).drop
          before.length = part := by
        simp [List.take_append]
      rw [List.flatten_cons, stops, sections, hRest, hFirst]

/-! ### One session for all files -/

variable (ev : Evaluator)

/-- Naming a file only logs. -/
theorem namingFile_sameButLog {β : Type} {x : Lowering α} {y : Lowering β} (path : String)
    (hxy : Lowering.SameButLog x y) : Lowering.SameButLog (namingFile path x) y := by
  intro s s' hSame
  rw [← hxy s s' hSame, namingFile]
  cases x s <;> rfl

theorem lowerFile_sameButLog (path : String) : ∀ units : List (List ExternalDeclaration),
    Lowering.SameButLog (lowerFile ev path units) (Lowering.units ev units)
  | [] => .pure () ()
  | contents :: rest => by
      have hUnit : Lowering.SameButLog (Lowering.unit ev contents) (Lowering.unit ev contents) :=
        (Lowering.unit_sameButLog ev contents).trans (Lowering.unit_sameButLog ev contents).symm
      rw [lowerFile, Lowering.units]
      refine (namingFile_sameButLog path hUnit).bind fun count _ => ?_
      exact (Lowering.note_sameButLog _).skip fun _ => lowerFile_sameButLog path rest

/-- Files are lowered like the list of all their units. -/
theorem lowerFiles_sameButLog : ∀ inputs : List (String × TranslationUnit),
    Lowering.SameButLog (lowerFiles ev inputs) (Lowering.units ev (inputs.flatMap (·.2.units)))
  | [] => .pure [] ()
  | (path, u) :: rest => by
      rw [lowerFiles, List.flatMap_cons, Lowering.units_append]
      refine (lowerFile_sameButLog ev path u.units).bind fun _ _ => ?_
      refine Lowering.get_sameButLog.skip fun s => ?_
      exact (lowerFiles_sameButLog rest).andThen fun ends => .pure _ ()

/-! ### The diagnostics of each file -/

theorem namingFile_visits {x : Lowering α} {sites : List Site} {holds : α → Prop} (path : String)
    (hx : Visits (·.context.report) x sites holds) :
    Visits (·.context.report) (namingFile path x) sites holds := by
  intro s
  have hRun := hx s
  unfold namingFile
  split at hRun
  · obtain ⟨s', hRun⟩ := hRun
    exact ⟨_, by rw [hRun]⟩
  · obtain ⟨a, s', hRun, hRest⟩ := hRun
    exact ⟨a, s', by rw [hRun], hRest⟩

theorem lowerFile_visits (path : String) : ∀ units : List (List ExternalDeclaration),
    Visits (·.context.report) (lowerFile ev path units)
      (units.flatMap fun items => items.flatMap ExternalDeclaration.sites) fun _ => True
  | [] => .pure trivial
  | contents :: rest => by
      rw [lowerFile, List.flatMap_cons]
      have hUnit := namingFile_visits path (Lowering.unit_visits ev contents)
      refine hUnit.bind fun count _ => ?_
      exact (Lowering.onContext_visits (Lower.note_visits _)).silent fun _ _ => lowerFile_visits path rest

/-- When files are lowered, each one adds its own diagnostics, so that these end at the given numbers. -/
theorem lowerFiles_ends : ∀ (inputs : List (String × TranslationUnit)) {s s' : Session}
    {ends : List Nat}, lowerFiles ev inputs s = .ok ends s' →
    (∀ input ∈ inputs, input.2.sites.findSome? Site.mismatch? = none) ∧
    s'.context.report.diagnostics.toList = s.context.report.diagnostics.toList ++
      (inputs.map (·.2.diagnosticsUnder s.context.report.policy)).flatten ∧
    ends = stops s.context.report.diagnostics.size
      (inputs.map (·.2.diagnosticsUnder s.context.report.policy))
  | [], s, s', ends, hRun => by
      obtain ⟨rfl, rfl⟩ := pure_eq_ok.mp hRun
      exact ⟨by simp, by simp, rfl⟩
  | (path, u) :: rest, s, s', ends, hRun => by
      rw [lowerFiles] at hRun
      obtain ⟨_, s₁, hFile, hRun⟩ := bind_eq_ok.mp hRun
      obtain ⟨_, _, hGet, hRun⟩ := bind_eq_ok.mp hRun
      obtain ⟨rfl, rfl⟩ := EStateM.Result.ok.inj hGet
      obtain ⟨later, s₂, hRest, hRun⟩ := bind_eq_ok.mp hRun
      obtain ⟨rfl, rfl⟩ := pure_eq_ok.mp hRun
      -- The first file leaves the report with its own diagnostics added, under the same policy.
      have hVisits := lowerFile_visits ev path u.units
      have hReport : s₁.context.report = s.context.report.extend u.sites := hVisits.report_eq hFile
      have hSize : s₁.context.report.diagnostics.size =
          s.context.report.diagnostics.size + (u.diagnosticsUnder s.context.report.policy).length := by
        rw [hReport, ← Array.length_toList]
        simp [Report.extend, TranslationUnit.diagnosticsUnder]
      obtain ⟨hMismatch, hDiagnostics, hEnds⟩ := lowerFiles_ends rest hRest
      have hPolicy : s₁.context.report.policy = s.context.report.policy := by rw [hReport]; rfl
      rw [hPolicy] at hDiagnostics hEnds
      refine ⟨?_, ?_, ?_⟩
      · intro input hMem
        rcases List.mem_cons.mp hMem with rfl | hLater
        · exact hVisits.mismatch?_eq_none hFile
        · exact hMismatch input hLater
      · rw [hDiagnostics, hReport]
        simp [Report.extend, TranslationUnit.diagnosticsUnder]
      · rw [hEnds, hSize]
        rfl

/-! ### Reading the inputs -/

theorem stateM_run_bind {σ β : Type} {x : StateM σ α} {f : α → StateM σ β} {s s' : σ} {a : α}
    (hx : x.run s = (a, s')) : (x >>= f).run s = (f a).run s' := by
  rw [StateT.run_bind, hx]
  rfl

namespace FileSystem

variable {σ : Type} (fs : FileSystem σ) (s : σ)

/-- The tree in the file at a path, or why there is none. -/
def load (path : String) : Except Failure TranslationUnit :=
  match fs.read s path with
  | .ok content => parseInput path content
  | .error error => .error (.file path error)

theorem loadInput_run (path : String) : (loadInput fs.access path).run s = (fs.load s path, s) := by
  show (match fs.read s path with
    | .ok content => (pure (parseInput path content) : StateM σ _)
    | .error error => pure (.error (.file path error))).run s = _
  unfold load
  cases fs.read s path <;> rfl

variable {fs s}

theorem loadInputs_run_ok {paths : List String} {trees : List TranslationUnit}
    (hTrees : paths.map (fs.load s) = trees.map .ok) :
    (loadInputs fs.access paths).run s = (.ok (paths.zip trees), s) := by
  induction paths generalizing trees with
  | nil => rfl
  | cons path rest ih =>
      cases trees with
      | nil => cases hTrees
      | cons u trees =>
          rw [List.map_cons, List.map_cons, List.cons.injEq] at hTrees
          obtain ⟨hHere, hRest⟩ := hTrees
          rw [loadInputs, stateM_run_bind ((loadInput_run fs s path).trans (by rw [hHere]))]
          exact stateM_run_bind (ih hRest)

/-- The first file without a tree decides, whatever the trees before it are like. -/
theorem loadInputs_run_error {before after : List String} {path : String} {failure : Failure}
    (hBefore : ∀ p ∈ before, ∃ u, fs.load s p = .ok u) (hPath : fs.load s path = .error failure) :
    (loadInputs fs.access (before ++ path :: after)).run s = (.error failure, s) := by
  induction before with
  | nil =>
      rw [List.nil_append, loadInputs]
      exact stateM_run_bind ((loadInput_run fs s path).trans (by rw [hPath]))
  | cons first rest ih =>
      obtain ⟨u, hFirst⟩ := hBefore first (.head _)
      rw [List.cons_append, loadInputs,
        stateM_run_bind ((loadInput_run fs s first).trans (by rw [hFirst]))]
      exact stateM_run_bind (ih fun p hMem => hBefore p (.tail _ hMem))

end FileSystem

/-! ### What a run prints -/

section Printing

variable {σ : Type} {fs : FileSystem σ} {s : σ} {c : Config}

/-- A run without an output does nothing else. -/
theorem run_of_failure {failure : Failure} {events : List Event}
    (hLowered : (lowerInputs fs.access c).run s = ((.error failure, events), s)) :
    (run fs.access c).run s = ({ result := .error failure, events }, s) := by
  rw [run, stateM_run_bind hLowered]
  rfl

/-- A run with an output that is not refused prints or writes its text. -/
theorem run_of_output {o : Output} {ends : List Nat} {events : List Event}
    (hLowered : (lowerInputs fs.access c).run s = ((.ok ⟨o, ends⟩, events), s)) :
    (run fs.access c).run s =
      let stderr := reportLines c o.diagnostics ends
      if "error" ∈ c.warnings ∧ o.issues ≠ [] then
        ({ result := .error (.issues o.issues.length), stderr, events }, s)
      else match c.output with
        | none => ({ result := .ok (), stdout := c.emit.render o, stderr, events }, s)
        | some path => match fs.write s path (c.emit.render o) with
          | (.ok _, s') => ({ result := .ok (), stderr, events }, s')
          | (.error error, s') => ({ result := .error (.file path error), stderr, events }, s') := by
  have hStrict : (c.isStrict && decide (o.issues.length > 0)) = true ↔
      "error" ∈ c.warnings ∧ o.issues ≠ [] := by
    simp [Config.isStrict, List.length_pos_iff]
  rw [run, stateM_run_bind hLowered]
  dsimp only
  by_cases hRefused : "error" ∈ c.warnings ∧ o.issues ≠ []
  · rw [if_pos (hStrict.mpr hRefused), if_pos hRefused]
    rfl
  · rw [if_neg (mt hStrict.mp hRefused), if_neg hRefused]
    cases c.output with
    | none => rfl
    | some path =>
        cases hWrite : fs.write s path (c.emit.render o) with
        | mk result s' =>
            have hAccess : (fs.access.write path (c.emit.render o)).run s = (result, s') := hWrite
            rw [stateM_run_bind hAccess]
            dsimp only
            rw [hWrite]
            cases result <;> rfl

/-- A run with an output prints the report of its files, whatever becomes of the output. -/
theorem run_stderr {o : Output} {ends : List Nat} {events : List Event}
    (hLowered : (lowerInputs fs.access c).run s = ((.ok ⟨o, ends⟩, events), s)) :
    ((run fs.access c).run s).1.stderr = reportLines c o.diagnostics ends := by
  rw [run_of_output hLowered]
  dsimp only
  split
  · rfl
  · cases c.output with
    | none => rfl
    | some path =>
        dsimp only
        cases fs.write s path (c.emit.render o) with
        | mk result s' => cases result <;> rfl

/-- Where the diagnostics are cut into those of each file, a report has the lines of these under the path of
the file, the notes among them if the run is verbose. -/
theorem reportLines_of_sections {diagnostics : List Diagnostic} {ends : List Nat} {parts : List Output}
    (hSections : sections diagnostics 0 ends = parts.map (·.diagnostics)) :
    reportLines c diagnostics ends = (List.zipWith (fun path own =>
      (own.diagnostics.filter fun d => c.verbose || d.level != .note).map
        (DiagnosticStyle.line { notes := c.verbose } (some path))) c.inputs parts).flatten := by
  rw [reportLines, hSections, List.zip_map_right, List.map_map, ← List.map_uncurry_zip_eq_zipWith]
  rfl

end Printing

/-! ### The result for all inputs -/

theorem lowerInputs_run_trees {σ : Type} {fs : FileSystem σ} {s : σ} {c : Config}
    {trees : List TranslationUnit} (hTrees : c.inputs.map (fs.load s) = trees.map .ok) :
    (lowerInputs fs.access c).run s = (lowerTrees c.warnings (c.inputs.zip trees), s) :=
  stateM_run_bind (FileSystem.loadInputs_run_ok hTrees)

/-- Trees of files have the output or the mismatch of their chain. -/
theorem lowerTrees_output (options : List String) {paths : List String}
    {trees : List TranslationUnit} (hLength : paths.length = trees.length) :
    (lowerTrees options (paths.zip trees)).1.map Lowered.output =
      ((TranslationUnit.chainAll trees).output? .constant (.ofOptions options)).mapError .mismatch := by
  have hUnits : (paths.zip trees).flatMap (·.2.units) = trees.flatMap TranslationUnit.units := by
    conv_rhs => rw [← List.map_snd_zip hLength.ge, List.flatMap_map]
  have hSame := lowerFiles_sameButLog .constant (paths.zip trees)
  rw [hUnits] at hSame
  have hChain := hSame.trans (TranslationUnit.chainAll_sameButLog .constant trees).symm
  rw [TranslationUnit.output?_eq_outcome, ← hChain.outcome_eq, lowerTrees]
  cases lowerFiles .constant (paths.zip trees) (.start (.ofOptions options)) <;> rfl

/-- The diagnostics of trees of files are cut into those that the trees have on their own. -/
theorem lowerTrees_ends {options : List String} {paths : List String} {trees : List TranslationUnit}
    (hLength : paths.length = trees.length) {o : Output} {ends : List Nat}
    (hLowered : (lowerTrees options (paths.zip trees)).1 = .ok ⟨o, ends⟩) :
    let parts := trees.map (TranslationUnit.diagnosticsUnder (.ofOptions options))
    (∀ u ∈ trees, u.sites.findSome? Site.mismatch? = none) ∧
      o.diagnostics = parts.flatten ∧ ends = stops 0 parts := by
  have hSecond : (paths.zip trees).map Prod.snd = trees := List.map_snd_zip hLength.ge
  have hOwn : (paths.zip trees).map (·.2.diagnosticsUnder (.ofOptions options)) =
      trees.map (TranslationUnit.diagnosticsUnder (.ofOptions options)) := by
    conv_rhs => rw [← hSecond, List.map_map]
    rfl
  unfold lowerTrees at hLowered
  split at hLowered
  · cases hLowered
  · next ends' s hRun =>
      obtain ⟨rfl, rfl⟩ : s.output = o ∧ ends' = ends := by simpa using hLowered
      obtain ⟨hMismatch, hDiagnostics, hEnds⟩ := lowerFiles_ends .constant _ hRun
      have hDiagnostics : s.output.diagnostics = _ := hDiagnostics
      have hEnds : ends' = stops 0 _ := hEnds
      refine ⟨fun u hMem => ?_, hDiagnostics.trans (by rw [← hOwn]; rfl),
        hEnds.trans (by rw [← hOwn]; rfl)⟩
      rw [← hSecond] at hMem
      obtain ⟨input, hInput, rfl⟩ := List.mem_map.mp hMem
      exact hMismatch input hInput

/-- **Inputs are lowered like their chain, and each diagnostic belongs to its file.**  When all inputs can
be read, lowering them gives the output of the chain of their trees, or its mismatch.  The numbers that
come with an output are one for each file, in ascending order up to the number of all diagnostics, and they
cut the diagnostics into those that each file has when it is lowered alone.  The run prints these file by
file, each on a line of its own with the path of its file, where notes are left to verbose runs.  So every
diagnostic is printed under one file, and under the one it belongs to. -/
theorem inputs_lowered_as_chain {σ : Type} (fs : FileSystem σ) (s : σ) (c : Config)
    (trees : List TranslationUnit) (hInputs : c.inputs ≠ [])
    (hTrees : c.inputs.map (fs.load s) = trees.map .ok) :
    ∃ lowered events, (lowerInputs fs.access c).run s = ((lowered, events), s) ∧
      lowered.map Lowered.output = ((TranslationUnit.chainAll trees).output? .constant
        (.ofOptions c.warnings)).mapError .mismatch ∧
      ∀ o ends, lowered = .ok ⟨o, ends⟩ →
        ends.length = c.inputs.length ∧ ends.Pairwise (· ≤ ·) ∧
        ends.getLast? = some o.diagnostics.length ∧
        ∃ alone : List Output,
          trees.map (·.output? .constant (.ofOptions c.warnings)) = alone.map .ok ∧
          sections o.diagnostics 0 ends = alone.map (·.diagnostics) ∧
          o.diagnostics = (alone.map (·.diagnostics)).flatten ∧
          ((run fs.access c).run s).1.stderr = (List.zipWith (fun path own =>
            (own.diagnostics.filter fun d => c.verbose || d.level != .note).map
              (DiagnosticStyle.line { notes := c.verbose } (some path))) c.inputs alone).flatten := by
  have hLength : c.inputs.length = trees.length := by simpa using congrArg List.length hTrees
  have hRun := lowerInputs_run_trees hTrees
  refine ⟨_, _, hRun, lowerTrees_output c.warnings hLength, fun o ends hLowered => ?_⟩
  obtain ⟨hMismatch, hDiagnostics, rfl⟩ := lowerTrees_ends hLength hLowered
  have hParts : trees.map (TranslationUnit.diagnosticsUnder (.ofOptions c.warnings)) ≠ [] := by
    intro hNil
    have hEmpty := List.map_eq_nil_iff.mp hNil
    rw [hEmpty, List.length_nil] at hLength
    exact hInputs (List.length_eq_zero_iff.mp hLength)
  obtain ⟨alone, hAlone, hOwn⟩ := TranslationUnit.exists_outputs .constant (.ofOptions c.warnings) hMismatch
  have hSections : sections o.diagnostics 0
      (stops 0 (trees.map (TranslationUnit.diagnosticsUnder (.ofOptions c.warnings)))) =
        alone.map (·.diagnostics) := by
    have hCut := sections_stops [] (trees.map (TranslationUnit.diagnosticsUnder (.ofOptions c.warnings)))
    rw [List.nil_append, List.length_nil, ← hDiagnostics] at hCut
    rw [hCut, hOwn]
  refine ⟨?_, pairwise_stops 0 _, ?_, alone, hAlone, hSections, ?_, ?_⟩
  · rw [length_stops, List.length_map, hLength]
  · rw [getLast?_stops 0 hParts, hDiagnostics, Nat.zero_add]
  · rw [hDiagnostics, hOwn]
  · have hOutput : (lowerInputs fs.access c).run s = ((.ok ⟨o, stops 0 _⟩, _), s) :=
      hRun.trans (congrArg (fun lowered => ((lowered, _), s)) hLowered)
    rw [run_stderr hOutput]
    exact reportLines_of_sections hSections

end CDecl.CommandLine

namespace CDecl

/-- The declaration `inline n = 4;` and, chained after it, the declaration `;`. -/
def TranslationUnit.namingSize : TranslationUnit :=
  ⟨[.declaration (.ofParts [.ofFunctionSpecifier .inline]
      [⟨.ofDirect (.ofName "n"), some (.expr (.int 4))⟩])],
    some ⟨[.declaration (.ofParts [] [])], none⟩⟩

/-- The declaration `_Atomic a[n];`. -/
def TranslationUnit.usingSize : TranslationUnit :=
  let a := DirectDeclarator.arrayOf (.ofName "a") (.sized (some (.ident "n")))
  ⟨[.declaration (.ofParts [.ofQualifier .atomic] [⟨.ofDirect a, none⟩])], none⟩

namespace CommandLine.Directory

/-- The first of these trees as a document, with its records written as lists. -/
def namingText : String :=
  "[[\x7b\"Declaration\":[[\x7b\"FunctionSpecifier\":[\"Inline\"]\x7d],"
    ++ "[[[null,\x7b\"Identifier\":[\"n\"]\x7d],\x7b\"Expr\":[\x7b\"Literal\":\x7b\"Int\":4\x7d\x7d]\x7d]]]\x7d],"
    ++ "[[\x7b\"Declaration\":[[]]\x7d]]]"

/-- The second tree as a document. -/
def usingText : String :=
  "[[\x7b\"Declaration\":[[\x7b\"TypeQualifier\":[\"Atomic\"]\x7d],"
    ++ "[[[null,\x7b\"Array\":[\x7b\"Identifier\":[\"a\"]\x7d,[],"
    ++ "\x7b\"Sized\":[\x7b\"Ident\":\"n\"\x7d]\x7d]\x7d]]]]\x7d]]"

/-- A directory with the two files. -/
def sizes : Directory := .insertAll .empty [("n", namingText.toUTF8), ("a", usingText.toUTF8)]

/-- A path that is a single name leads to the file of that name. -/
theorem load_name {d : Directory} {name text : String} {u : TranslationUnit}
    (hPlace : d.place name = .ok (.entry (.above 0) name)) (hSlash : name.endsWith "/" = false)
    (hFile : d.find? name = some text.toUTF8) (hTree : Shape.ofDocument? .translationUnit text = some u) :
    fileSystem.load d name = .ok u := by
  have hRead : d.read name = .ok text.toUTF8 := by
    have hPath : (Folder.above 0).pathTo name = name := by simp [Folder.pathTo]
    simp [read, hPlace, hSlash, hPath, hFile]
  have hText : String.fromUTF8? text.toUTF8 = some text := dif_pos text.isValidUTF8
  show (match d.read name with
    | .ok content => parseInput name content
    | .error error => .error (.file name error)) = _
  simp only [hRead, parseInput, hText, hTree]

theorem place_name (d : Directory) {name : String}
    (hParts : (name.splitOn "/").filter (· != "") = [name]) (hStart : name.startsWith "/" = false)
    (hZero : name.toList.contains '\x00' = false) (hEmpty : name.isEmpty = false)
    (hSize : name.utf8ByteSize ≤ longestPath) (hDots : name ≠ "." ∧ name ≠ "..") :
    d.place name = .ok (.entry (.above 0) name) := by
  rw [place, hZero, hEmpty, hParts, hStart]
  simp only [Bool.false_eq_true, if_false, if_neg (Nat.not_lt.mpr hSize)]
  rw [follow]
  · exact hDots.1
  · exact hDots.2

end CommandLine.Directory

namespace CommandLine

set_option maxRecDepth 10000 in
theorem load_sizes : ["n", "a"].map (Directory.fileSystem.load .sizes) =
    [TranslationUnit.namingSize, .usingSize].map .ok := by
  have hNaming : Directory.sizes.place "n" = .ok (.entry (.above 0) "n") :=
    Directory.place_name _ (by cbv) (by cbv) (by decide) (by decide) (by decide) (by decide)
  have hUsing : Directory.sizes.place "a" = .ok (.entry (.above 0) "a") :=
    Directory.place_name _ (by cbv) (by cbv) (by decide) (by decide) (by decide) (by decide)
  have hFirst : Shape.ofDocument? .translationUnit Directory.namingText = some .namingSize := by cbv
  have hSecond : Shape.ofDocument? .translationUnit Directory.usingText = some .usingSize := by cbv
  simp only [List.map_cons, List.map_nil, Directory.load_name hNaming (by cbv) rfl hFirst,
    Directory.load_name hUsing (by cbv) rfl hSecond]

theorem output_sizes : ∃ o, (TranslationUnit.chainAll [.namingSize, .usingSize]).output? .constant
    (.ofOptions []) = .ok o := by
  have hLower : succeeds (Lowering.units .constant
      (TranslationUnit.chainAll [.namingSize, .usingSize]).units) (.start (.ofOptions [])) = true := by cbv
  obtain ⟨_, s, hLower⟩ := succeeds_iff.mp hLower
  exact ⟨s.output, by rw [TranslationUnit.output?, TranslationUnit.lower, hLower]⟩

/-- Two diagnostics belong to the first file, of which one is a note and not printed, and one to the second.
Alone, the second file does not know what `n` is, but its diagnostic is the same. -/
theorem sizes_lowered :
    ["n", "a"] ≠ [] ∧ ["n", "a"].map (Directory.fileSystem.load .sizes) =
      [TranslationUnit.namingSize, .usingSize].map .ok ∧
    ∃ o ends events, (lowerInputs Directory.access { inputs := ["n", "a"] }).run .sizes =
        ((.ok ⟨o, ends⟩, events), .sizes) ∧
      ends.length = 2 ∧ ends.getLast? = some o.diagnostics.length ∧
      (sections o.diagnostics 0 ends).map (·.map (·.level)) = [[.warning, .note], [.warning]] ∧
      ((run Directory.access { inputs := ["n", "a"] }).run .sizes).1.stderr =
        ["n: warning: function specifiers are not supported; specifier ignored [DeclarationSpecifiers case 3]",
          "a: warning: `_Atomic` qualifiers are not supported; qualifier ignored [TypeQualifier case 3]"] := by
  obtain ⟨lowered, events, hRun, hOutput, hEnds⟩ := inputs_lowered_as_chain Directory.fileSystem
    .sizes { inputs := ["n", "a"] } [.namingSize, .usingSize] (by simp) load_sizes
  obtain ⟨o', hSizes⟩ := output_sizes
  have hOutput : lowered.map Lowered.output = .ok o' :=
    hOutput.trans (congrArg (Except.mapError Failure.mismatch) hSizes)
  cases lowered with
  | error failure => cases hOutput
  | ok l =>
      obtain ⟨o, ends⟩ := l
      obtain ⟨hLength, -, hLast, alone, hAlone, hSections, -, hPrinted⟩ := hEnds o ends rfl
      have hOwn : alone.map (·.diagnostics) = [TranslationUnit.namingSize, .usingSize].map fun u =>
          (u.output? .constant (.ofOptions [])).toOption.elim [] (·.diagnostics) := by
        have hAnswers := congrArg (List.map fun answer => answer.toOption.elim [] (·.diagnostics)) hAlone
        rw [List.map_map, List.map_map] at hAnswers
        exact hAnswers.symm
      refine ⟨by simp, load_sizes, o, ends, events, hRun, hLength, hLast, ?_, ?_⟩
      · rw [hSections, hOwn]
        cbv
      · have hLines : ((run Directory.access { inputs := ["n", "a"] }).run .sizes).1.stderr =
            (List.zipWith (fun path own =>
              (own.filter fun d : Diagnostic => false || d.level != .note).map
                (DiagnosticStyle.line { notes := false } (some path)))
              ["n", "a"] (alone.map (·.diagnostics))).flatten := by
          rw [List.zipWith_map_right]
          exact hPrinted
        rw [hLines, hOwn]
        cbv

end CommandLine

end CDecl
