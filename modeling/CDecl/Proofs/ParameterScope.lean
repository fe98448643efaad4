import CDecl.Proofs.ConstantsRead
import CDecl.Proofs.DeclarationFollowsUse
import CDecl.Proofs.Outcome

/-!
# Names in the bounds of parameters

There is one table of symbols, and it holds the names declared at top level.  A parameter enters nothing
into it and hides nothing in it, so a name in the bound of a later parameter is looked up there even if an
earlier parameter has the same name: in `(int n, int a[n])` the bound is the constant `n` of the top level,
if there is one (`hiddenName_bound`).

So each parameter is lowered as if it stood alone (`Lower.parameters_alone`), and what it becomes depends on
the values of the names in its own bounds and on nothing else.  The main statement, `bounds_read_symbols`,
puts this in terms of scope.
-/

namespace CDecl

namespace ParameterDeclaration

/-- The name that a parameter declares, if it has a declarator. -/
def name? : ParameterDeclaration → Option String
  | .named _ d _ => some d.leaf.name
  | .abstract .. => none

/-- The names in the bounds of a parameter, those of its own parameters and members included. -/
def namesRead (p : ParameterDeclaration) : List String :=
  ((parameterSites [p]).filterMap Site.expression?).flatMap Expr.names

end ParameterDeclaration

/-- The names of the parameters in front of the one at an index. -/
def ParameterTypeList.namesBefore (list : ParameterTypeList) (j : Nat) : List String :=
  (list.params.take j).filterMap ParameterDeclaration.name?

namespace Lower

variable {ev : Evaluator}

theorem parameters_replays (ev : Evaluator) (params : List ParameterDeclaration) :
    Replays (parameters ev params) :=
  (Replays.compositional ev).parameters params (.trivial _)

/-- What depends on symbols only has the same answer wherever these are recorded. -/
theorem Replays.answerOf_eq {α : Type} {x : Lower α} (hx : Replays x) {c d : Context}
    (hSymbols : d.symbols = c.symbols) : answerOf (x d) = answerOf (x c) := by
  obtain ⟨events, answer, -, hPlay⟩ := hx c.symbols
  rw [hPlay c rfl, hPlay d hSymbols, answerOf_play, answerOf_play]

/-- A list with a named parameter is not `(void)`. -/
theorem parameterList_eq {list : ParameterTypeList}
    (hNamed : ∀ p ∈ list.params, p.name?.isSome) :
    parameterList ev list = parameters ev list.params := by
  obtain ⟨params, variadic, span⟩ := list
  rw [parameterList]
  split
  · next hVoid =>
      unfold ParameterTypeList.isVoid at hVoid
      split at hVoid
      · next hList =>
          cases hList
          simp [ParameterDeclaration.name?] at hNamed
      · cases hVoid
  · rfl

/-- **Parameters do not see each other.**  Each of several named parameters becomes the entity that it
becomes alone. -/
theorem parameters_alone (ev : Evaluator) : ∀ {params : List ParameterDeclaration} {c c' : Context}
    {entities : List Entity}, (∀ p ∈ params, p.name?.isSome) →
    parameters ev params c = .ok entities c' →
    List.Forall₂ (fun p e => answerOf (parameters ev [p] c) = .ok [e]) params entities
  | [], c, c', entities, _, hRun => by
      rw [parameters, pure_eq_ok] at hRun
      obtain ⟨rfl, -⟩ := hRun
      exact .nil
  | .named specs d span :: rest, c, c', entities, hNamed, hRun => by
      rw [parameters] at hRun
      obtain ⟨built, c₁, hSpecs, hRun⟩ := bind_eq_ok.mp hRun
      obtain ⟨e, c₂, hDeclarator, hRun⟩ := bind_eq_ok.mp hRun
      obtain ⟨others, c₃, hRest, hRun⟩ := bind_eq_ok.mp hRun
      obtain ⟨rfl, -⟩ := pure_eq_ok.mp hRun
      have hAlone : answerOf (parameters ev [.named specs d span] c) =
          .ok [{ e with storage := built.storage }] := by
        rw [parameters, bind_run, hSpecs]
        show answerOf ((declarator ev d (.ofType built.descriptor) >>= _) c₁) = _
        rw [bind_run, hDeclarator]
        rfl
      have hSymbols : c₂.symbols = c.symbols :=
        ((declarator_replays ev d _).symbols_eq hDeclarator).trans
          ((specifiers_replays ev specs _).symbols_eq hSpecs)
      refine .cons hAlone ?_
      -- The others start with the symbols of the first one.
      have hOthers := parameters_alone ev (fun p hMem => hNamed p (.tail _ hMem)) hRest
      exact hOthers.imp fun p e hp =>
        ((parameters_replays ev [p]).answerOf_eq hSymbols).symm.trans hp
  | .abstract specs d span :: rest, c, c', entities, hNamed, _ => by
      simpa [ParameterDeclaration.name?] using hNamed _ (.head _)

/-- A parameter becomes the same entity where the names in its bounds have the same values. -/
theorem parameter_answer_congr {p : ParameterDeclaration} {c c' : Context}
    (hValues : ∀ name ∈ p.namesRead, c.symbols.value? name = c'.symbols.value? name) :
    answerOf (parameters .constant [p] c) = answerOf (parameters .constant [p] c') := by
  have hReads : ReadsAt ((Agreement.onNames p.namesRead).Settles .constant) (parameterSites [p]) := by
    intro e hExpression t t' hSame
    refine e.eval_congr fun name hName => hSame name ?_
    exact List.mem_flatMap.mpr ⟨e, hExpression, hName⟩
  have hSettled := (SettledBy.compositional (.onNames p.namesRead) .constant).parameters [p] hReads
  obtain ⟨events, answer, hRun⟩ := hSettled c.symbols
  rw [hRun c fun _ _ => rfl, hRun c' hValues, answerOf_play, answerOf_play]

/-- Whether parameters can be lowered does not depend on what has been recorded. -/
theorem exists_parameters {params : List ParameterDeclaration} {c s : Context}
    {entities : List Entity} (hRun : parameters ev params c = .ok entities s) (c' : Context) :
    ∃ entities' s', parameters ev params c' = .ok entities' s' := by
  cases hOther : parameters ev params c' with
  | ok entities' s' => exact ⟨entities', s', rfl⟩
  | error e s' =>
      have hClash := ((parameters_visits ev params).error_iff c' e).mp ⟨s', hOther⟩
      obtain ⟨s'', hError⟩ := ((parameters_visits ev params).error_iff c e).mpr hClash
      rw [hRun] at hError
      cases hError

end Lower

/-- Lists that are related have related elements at each index. -/
theorem forall₂_getElem? {α β : Type} {r : α → β → Prop} {first : List α} {second : List β}
    (h : List.Forall₂ r first second) {j : Nat} {a : α} (ha : first[j]? = some a) :
    ∃ b, second[j]? = some b ∧ r a b := by
  obtain ⟨hLength, hRelated⟩ := List.forall₂_iff_get.mp h
  obtain ⟨hBound, rfl⟩ := List.getElem?_eq_some_iff.mp ha
  exact ⟨second[j], List.getElem?_eq_getElem (hLength ▸ hBound), hRelated j hBound (hLength ▸ hBound)⟩

/-- **Bounds read the top level.**  Let a list of named parameters be lowered.  Each of them becomes the
entity that it becomes as the only parameter of a list, whatever the parameters in front of it are called.
With other symbols the list is lowered as well, and a parameter becomes the same entity if the tables
differ only in the values of names that parameters in front of it have and that its bounds do not read. -/
theorem bounds_read_symbols {list : ParameterTypeList} {c : Context} {entities : List Entity}
    (hNamed : ∀ p ∈ list.params, p.name?.isSome)
    (hRun : answerOf (Lower.parameterList .constant list c) = .ok entities) :
    (∀ (j : Nat) (p : ParameterDeclaration), list.params[j]? = some p → ∃ e, entities[j]? = some e ∧
      answerOf (Lower.parameterList .constant (.ofParams [p]) c) = .ok [e]) ∧
    ∀ c' : Context, ∃ entities',
      answerOf (Lower.parameterList .constant list c') = .ok entities' ∧
      ∀ (j : Nat) (p : ParameterDeclaration), list.params[j]? = some p →
        (∀ name ∉ list.namesBefore j, c.symbols.value? name = c'.symbols.value? name) →
        (∀ name ∈ list.namesBefore j, name ∉ p.namesRead) → entities'[j]? = entities[j]? := by
  rw [Lower.parameterList_eq hNamed, answerOf_eq_ok_iff] at hRun
  obtain ⟨s, hRun⟩ := hRun
  have hAlone := Lower.parameters_alone .constant hNamed hRun
  refine ⟨fun j p hParam => ?_, fun c' => ?_⟩
  · obtain ⟨e, hEntity, hSingle⟩ := forall₂_getElem? hAlone hParam
    have hOnly : ∀ q ∈ (ParameterTypeList.ofParams [p]).params, q.name?.isSome := by
      intro q hMem
      obtain rfl := List.mem_singleton.mp hMem
      exact hNamed q (List.mem_of_getElem? hParam)
    exact ⟨e, hEntity, by rw [Lower.parameterList_eq hOnly]; exact hSingle⟩
  · obtain ⟨entities', s', hRun'⟩ := Lower.exists_parameters hRun c'
    have hAlone' := Lower.parameters_alone .constant hNamed hRun'
    refine ⟨entities', ?_, fun j p hParam hTables hUnread => ?_⟩
    · rw [Lower.parameterList_eq hNamed, hRun']
      rfl
    · obtain ⟨e, hEntity, hSingle⟩ := forall₂_getElem? hAlone hParam
      obtain ⟨e', hEntity', hSingle'⟩ := forall₂_getElem? hAlone' hParam
      -- A name in the bounds is none of those in front, so both tables have the same value for it.
      have hValues : ∀ name ∈ p.namesRead, c.symbols.value? name = c'.symbols.value? name :=
        fun name hRead => hTables name fun hBefore => hUnread name hBefore hRead
      rw [Lower.parameter_answer_congr hValues, hSingle'] at hSingle
      cases hSingle
      rw [hEntity, hEntity']

/-! ### A name that is not hidden -/

/-- The parameter `int name`. -/
def ParameterDeclaration.ofInt (name : String) : ParameterDeclaration :=
  .named [.ofType (.keyword .int)] (.ofDirect (.ofName name)) .empty

/-- The parameter `int name[bound]`. -/
def ParameterDeclaration.ofInts (name bound : String) : ParameterDeclaration :=
  .named [.ofType (.keyword .int)]
    (.ofDirect (.arrayOf (.ofName name) (.sized (some (.ident bound))))) .empty

/-- The context after `int n = value, m = 3;`. -/
def Context.ofConstants (value : Int64) : Context where
  symbols := (Table.empty.insert "n" (some (.int value))).insert "m" (some (.int 3))

/-- Constants that differ in `n` only. -/
theorem Context.value?_ofConstants {value value' : Int64} {name : String} (hName : name ≠ "n") :
    (ofConstants value).symbols.value? name = (ofConstants value').symbols.value? name := by
  simp only [ofConstants, SymbolTable.value?, Table.find?_insert, if_neg hName]

/-- In `(int n, int a[m])` no bound reads the name of the first parameter, so the array is the same for
all constants `n`. -/
theorem unreadName_same :
    let list : ParameterTypeList := .ofParams [.ofInt "n", .ofInts "a" "m"]
    ∃ entities entities',
      answerOf (Lower.parameterList .constant list (.ofConstants 4)) = .ok entities ∧
      answerOf (Lower.parameterList .constant list (.ofConstants 5)) = .ok entities' ∧
      entities'[1]? = entities[1]? ∧ entities[1]?.map Entity.arrays = some [.known 3] := by
  intro list
  have hNamed : ∀ p ∈ list.params, p.name?.isSome := by
    simp [list, ParameterTypeList.ofParams, ParameterDeclaration.name?, ParameterDeclaration.ofInt,
      ParameterDeclaration.ofInts]
  have hBefore : list.namesBefore 1 = ["n"] := rfl
  have hRead : (ParameterDeclaration.ofInts "a" "m").namesRead = ["m"] := rfl
  obtain ⟨-, hOther⟩ := bounds_read_symbols (c := .ofConstants 4) hNamed rfl
  obtain ⟨entities', hRun', hSame⟩ := hOther (.ofConstants 5)
  refine ⟨_, entities', rfl, hRun', hSame 1 (.ofInts "a" "m") rfl (fun name hName => ?_) ?_, rfl⟩
  · rw [hBefore, List.mem_singleton] at hName
    exact Context.value?_ofConstants hName
  · rw [hBefore, hRead]
    decide

/-- In `(int n, int a[n])` the first parameter does not hide the constant `n`.  For the constants 4 and 5
the tables differ only in the name of that parameter, and the array has 4 elements and 5. -/
theorem hiddenName_bound :
    let list : ParameterTypeList := .ofParams [.ofInt "n", .ofInts "a" "n"]
    list.params.map ParameterDeclaration.name? = [some "n", some "a"] ∧
    list.namesBefore 1 = ["n"] ∧
    (∀ name ∉ list.namesBefore 1, (Context.ofConstants 4).symbols.value? name =
      (Context.ofConstants 5).symbols.value? name) ∧
    (∃ n a, answerOf (Lower.parameterList .constant list (.ofConstants 4)) = .ok [n, a] ∧
      a.arrays = [.known 4]) ∧
    ∃ n a, answerOf (Lower.parameterList .constant list (.ofConstants 5)) = .ok [n, a] ∧
      a.arrays = [.known 5] := by
  intro list
  have hBefore : list.namesBefore 1 = ["n"] := rfl
  refine ⟨rfl, hBefore, fun name hName => ?_, ⟨_, _, rfl, rfl⟩, ⟨_, _, rfl, rfl⟩⟩
  rw [hBefore, List.mem_singleton] at hName
  exact Context.value?_ofConstants hName

end CDecl
