import CDecl.Proofs.Replay
import CDecl.Syntax.Build

/-!
# What specifiers add up to

Specifiers are applied one after the other, each to what those before it have built.  Most of them
replace something: the storage class, the base and `const` are settled by the last element that says
anything about them.  `unsigned`, `short` and `long` stay once they are there, and a `long` behind another
one counts as a base.  A record replaces all of the descriptor, and as only records can follow it without
a mismatch, qualifiers and enumerations apart, the last record is the descriptor.

`Scalar.summed` reads the scalar off the list as a whole; the main result, `specifiers_accumulate`, says
that this is what lowering builds, and that a member's specifiers build the same descriptors.
-/

namespace CDecl

/-! ### Reading a list as a whole -/

/-- The base that a keyword names by itself. -/
def ScalarKeyword.base? : ScalarKeyword → Option BaseType
  | .void => some .void
  | .char => some .char
  | .int => some .int
  | .float => some .float
  | .double => some .double
  | .bool => some .bool
  | .complex => some .complex
  | .short | .long | .signed | .unsigned => none

namespace DeclarationSpecifier

/-- The storage class that an element names. -/
def storageClass? : DeclarationSpecifier → Option StorageClass
  | .storageClass s => some s.kind
  | _ => none

/-- The qualifier that an element is. -/
def qualifier? : DeclarationSpecifier → Option QualifierKind
  | .qualifier q => some q.kind
  | _ => none

/-- Whether an element is a certain keyword. -/
def isKeyword (k : ScalarKeyword) : DeclarationSpecifier → Bool
  | .type ⟨.keyword k', _⟩ => k' = k
  | _ => false

/-- The base that an element gives which stands behind `before`: a keyword that names one, a typedef
name, or a `long` that is not the first. -/
def base? (before : List DeclarationSpecifier) : DeclarationSpecifier → Option BaseType
  | .type ⟨.keyword .long, _⟩ => if before.any (isKeyword .long) then some .long else none
  | .type ⟨.keyword k, _⟩ => k.base?
  | .type ⟨.typedefName name, _⟩ => some (.named name)
  | _ => none

/-- The element as one of a member's specifier list; there is no storage class and no function
specifier. -/
def member? : DeclarationSpecifier → Option MemberSpecifier
  | .type t => some (.type t)
  | .qualifier q => some (.qualifier q)
  | .storageClass _ | .function _ => none

end DeclarationSpecifier

/-- The bases that the elements of a list give which stands behind `before`, in order. -/
def basesBehind (before : List DeclarationSpecifier) : List DeclarationSpecifier → List BaseType
  | [] => []
  | s :: rest => (s.base? before).toList ++ basesBehind (before ++ [s]) rest

theorem basesBehind_append (before specs specs' : List DeclarationSpecifier) :
    basesBehind before (specs ++ specs') =
      basesBehind before specs ++ basesBehind (before ++ specs) specs' := by
  induction specs generalizing before with
  | nil => simp [basesBehind]
  | cons s rest ih => simp [basesBehind, ih]

namespace Scalar

/-- The scalar that specifiers without a record add up to. -/
def summed (specs : List DeclarationSpecifier) : Scalar where
  base := (basesBehind [] specs).getLast?
  unsigned := specs.any (·.isKeyword .unsigned)
  short := specs.any (·.isKeyword .short)
  long := specs.any (·.isKeyword .long)
  isConst := (specs.filterMap DeclarationSpecifier.qualifier?).getLast? == some .const

/-- What a further element changes. -/
theorem summed_append_singleton (specs : List DeclarationSpecifier) (s : DeclarationSpecifier) :
    summed (specs ++ [s]) =
      { base := (s.base? specs).or (summed specs).base
        unsigned := (summed specs).unsigned || s.isKeyword .unsigned
        short := (summed specs).short || s.isKeyword .short
        long := (summed specs).long || s.isKeyword .long
        isConst := (s.qualifier?.map (· == .const)).getD (summed specs).isConst } := by
  simp only [summed, basesBehind_append, basesBehind, List.nil_append, List.append_nil,
    List.any_append, List.any_cons, List.any_nil, Bool.or_false, List.filterMap_append, mk.injEq,
    List.getLast?_append, true_and]
  constructor
  · cases s.base? specs <;> rfl
  · cases hQualifier : s.qualifier? <;> simp [hQualifier]

/-- A `long` gives a base if the elements before it add up to one already. -/
theorem base?_long (before : List DeclarationSpecifier) (span : Span) :
    DeclarationSpecifier.base? before (.type ⟨.keyword .long, span⟩) =
      if (summed before).long then some .long else none :=
  rfl

theorem summed_keyword (specs : List DeclarationSpecifier) (k : ScalarKeyword) (span : Span) :
    summed (specs ++ [.type ⟨.keyword k, span⟩]) = (summed specs).add k := by
  rw [summed_append_singleton]
  cases k with
  | long =>
      -- The only keyword whose effect depends on what has been built.
      rw [base?_long]
      cases hLong : (summed specs).long <;>
        simp [DeclarationSpecifier.isKeyword, DeclarationSpecifier.qualifier?, add, hLong]
  | _ =>
      simp [DeclarationSpecifier.base?, DeclarationSpecifier.isKeyword,
        DeclarationSpecifier.qualifier?, ScalarKeyword.base?, add]

theorem summed_typedefName (specs : List DeclarationSpecifier) (name : String) (span : Span) :
    summed (specs ++ [.type ⟨.typedefName name, span⟩]) =
      { summed specs with base := some (.named name) } := by
  simp [summed_append_singleton, DeclarationSpecifier.base?, DeclarationSpecifier.isKeyword,
    DeclarationSpecifier.qualifier?]

theorem summed_qualifier (specs : List DeclarationSpecifier) (q : TypeQualifier) :
    summed (specs ++ [.qualifier q]) = { summed specs with isConst := q.kind == .const } := by
  simp [summed_append_singleton, DeclarationSpecifier.base?, DeclarationSpecifier.isKeyword,
    DeclarationSpecifier.qualifier?]

/-- Storage classes, function specifiers and enumerations are no part of a scalar. -/
theorem summed_other (specs : List DeclarationSpecifier) {s : DeclarationSpecifier}
    (hBase : s.base? specs = none) (hKeyword : ∀ k, s.isKeyword k = false)
    (hQualifier : s.qualifier? = none) : summed (specs ++ [s]) = summed specs := by
  simp [summed_append_singleton, hBase, hKeyword, hQualifier]

end Scalar

/-! ### What lowering builds -/

namespace Lower

theorem specifiers_append (ev : Evaluator) : ∀ (specs specs' : List DeclarationSpecifier)
    (built : Specified), specifiers ev (specs ++ specs') built =
      specifiers ev specs built >>= specifiers ev specs'
  | [], specs', built => by rw [specifiers, pure_bind, List.nil_append]
  | s :: rest, specs', built => by
      have hRest := specifiers_append ev rest specs'
      cases s <;> simp only [List.cons_append, specifiers, hRest, bind_assoc]

/-- What takes a keyword or a typedef name was a scalar. -/
theorem changeScalar_eq_ok {change : Scalar → Scalar} {location : Span} {d d' : Descriptor}
    {c c' : Context} (hRun : changeScalar change location d c = .ok d' c') :
    ∃ s, d = .scalar s ∧ d' = .scalar (change s) := by
  cases d with
  | scalar s =>
      obtain ⟨rfl, -⟩ := pure_eq_ok.mp hRun
      exact ⟨s, rfl, rfl⟩
  | aggregate a => cases hRun
  | function f => cases hRun

theorem qualifier_eq_ok {q : TypeQualifier} {d d' : Descriptor} {c c' : Context}
    (hRun : qualifier q d c = .ok d' c') : d' = d.qualified q.kind := by
  rw [qualifier_eq] at hRun
  obtain ⟨_, _, -, hRun⟩ := bind_eq_ok.mp hRun
  obtain ⟨_, _, -, hRun⟩ := bind_eq_ok.mp hRun
  exact (pure_eq_ok.mp hRun).1.symm

end Lower

namespace Specified

/-- What the given specifiers build where the given symbols are recorded.  The record is the one that the
last record specifier gives by itself. -/
structure SumsUp (ev : Evaluator) (symbols : SymbolTable) (specs : List DeclarationSpecifier)
    (built : Specified) : Prop where
  storage : built.storage = (specs.filterMap DeclarationSpecifier.storageClass?).getLast?
  scalar : lastRecord? specs = none → built.descriptor = .scalar (.summed specs)
  record : ∀ r, lastRecord? specs = some r → ∃ a, built.descriptor = .aggregate a ∧
    ∀ c : Context, c.symbols = symbols → ∃ c', Lower.record ev r c = .ok a c'

namespace SumsUp

variable {ev : Evaluator} {symbols : SymbolTable} {specs : List DeclarationSpecifier}
  {built : Specified} {c c' : Context} {d : Descriptor}

theorem nil : SumsUp ev symbols [] {} where
  storage := rfl
  scalar _ := rfl
  record := nofun

/-- A further element that is no record may change the scalar, and leaves a record alone. -/
theorem append (h : SumsUp ev symbols specs built) {s : DeclarationSpecifier} {next : Specified}
    (hRecord : s.record? = none) (hStorage : next.storage = s.storageClass?.or built.storage)
    (hScalar : built.descriptor = .scalar (.summed specs) →
      next.descriptor = .scalar (.summed (specs ++ [s])))
    (hAggregate : ∀ a, built.descriptor = .aggregate a → next.descriptor = .aggregate a) :
    SumsUp ev symbols (specs ++ [s]) next where
  storage := by
    rw [hStorage, h.storage, List.filterMap_append, List.getLast?_append]
    cases hClass : s.storageClass? <;> simp [hClass]
  scalar hNone := by
    rw [lastRecord?_append_singleton, hRecord, Option.none_or] at hNone
    exact hScalar (h.scalar hNone)
  record r hSome := by
    rw [lastRecord?_append_singleton, hRecord, Option.none_or] at hSome
    obtain ⟨a, hDescriptor, hRun⟩ := h.record r hSome
    exact ⟨a, hAggregate a hDescriptor, hRun⟩

/-- An element that is no part of a descriptor. -/
theorem append_other (h : SumsUp ev symbols specs built) {s : DeclarationSpecifier}
    {next : Specified} (hRecord : s.record? = none) (hBase : s.base? specs = none)
    (hKeyword : ∀ k, s.isKeyword k = false) (hQualifier : s.qualifier? = none)
    (hStorage : next.storage = s.storageClass?.or built.storage)
    (hDescriptor : next.descriptor = built.descriptor) : SumsUp ev symbols (specs ++ [s]) next := by
  refine h.append hRecord hStorage (fun hScalar => ?_) fun a hAggregate => ?_
  · rw [hDescriptor, hScalar, Scalar.summed_other specs hBase hKeyword hQualifier]
  · rw [hDescriptor, hAggregate]

/-- A keyword or a typedef name, which only a scalar can take. -/
theorem append_scalar (h : SumsUp ev symbols specs built) {t : TypeSpecifier}
    {change : Scalar → Scalar} {location : Span}
    (hRecord : (DeclarationSpecifier.type t).record? = none)
    (hChange : Scalar.summed (specs ++ [.type t]) = change (.summed specs))
    (hRun : Lower.changeScalar change location built.descriptor c = .ok d c') :
    SumsUp ev symbols (specs ++ [.type t]) { built with descriptor := d } := by
  obtain ⟨s, hBuilt, rfl⟩ := Lower.changeScalar_eq_ok hRun
  refine h.append hRecord rfl (fun hScalar => ?_) fun a hAggregate => ?_
  · have hSame : s = .summed specs := Descriptor.scalar.inj (hBuilt.symm.trans hScalar)
    rw [hChange, hSame]
  · have hBoth := hBuilt.symm.trans hAggregate
    cases hBoth

/-- A record takes the place of everything before it.  It would be the same in front of the list, since
no symbol has been recorded on the way. -/
theorem append_record (h : SumsUp ev symbols specs built) {r : RecordSpecifier} {span : Span}
    {a : Aggregate} (hSymbols : c.symbols = symbols) (hRun : Lower.record ev r c = .ok a c') :
    SumsUp ev symbols (specs ++ [.type ⟨.record r, span⟩])
      { built with descriptor := .aggregate a } := by
  have hLast : lastRecord? (specs ++ [.type ⟨.record r, span⟩]) = some r := by
    rw [lastRecord?_append_singleton]
    rfl
  refine ⟨?_, fun hNone => ?_, fun r' hSome => ⟨a, rfl, fun c₁ hSymbols₁ => ?_⟩⟩
  · rw [List.filterMap_append, List.getLast?_append]
    exact h.storage
  · rw [hLast] at hNone
    cases hNone
  · obtain rfl : r = r' := Option.some.inj (hLast.symm.trans hSome)
    have hReplays : Lower.Replays (Lower.record ev r) :=
      (Lower.Replays.compositional ev).record r (.trivial _)
    exact hReplays.eq_ok_of_symbols hRun (hSymbols₁.trans hSymbols.symm)

theorem append_type (h : SumsUp ev symbols specs built) (hSymbols : c.symbols = symbols) :
    ∀ t : TypeSpecifier, Lower.typeSpecifier ev t built.descriptor c = .ok d c' →
      SumsUp ev symbols (specs ++ [.type t]) { built with descriptor := d }
  | ⟨.keyword k, span⟩, hRun => by
      rw [Lower.typeSpecifier] at hRun
      exact h.append_scalar rfl (Scalar.summed_keyword specs k span) hRun
  | ⟨.typedefName name, span⟩, hRun => by
      rw [Lower.typeSpecifier] at hRun
      exact h.append_scalar rfl (Scalar.summed_typedefName specs name span) hRun
  | ⟨.record r, span⟩, hRun => by
      rw [Lower.typeSpecifier] at hRun
      obtain ⟨a, c₁, hRecord, hPure⟩ := bind_eq_ok.mp hRun
      obtain ⟨rfl, -⟩ := pure_eq_ok.mp hPure
      exact h.append_record hSymbols hRecord
  | ⟨.enum e, span⟩, hRun => by
      rw [Lower.typeSpecifier] at hRun
      obtain ⟨_, _, -, hPure⟩ := bind_eq_ok.mp hRun
      obtain ⟨rfl, -⟩ := pure_eq_ok.mp hPure
      exact h.append_other rfl rfl (fun _ => rfl) rfl rfl rfl

theorem append_qualifier (h : SumsUp ev symbols specs built) (q : TypeQualifier) :
    SumsUp ev symbols (specs ++ [.qualifier q])
      { built with descriptor := built.descriptor.qualified q.kind } := by
  refine h.append rfl rfl (fun hScalar => ?_) fun a hAggregate => ?_
  · rw [hScalar, Scalar.summed_qualifier]
    rfl
  · rw [hAggregate]
    rfl

end SumsUp

end Specified

namespace Lower

/-- Whatever can be lowered is what it sums up to. -/
theorem specifiers_sumsUp (ev : Evaluator) {specs : List DeclarationSpecifier} {built : Specified}
    {c c' : Context} (hRun : specifiers ev specs {} c = .ok built c') :
    built.SumsUp ev c.symbols specs := by
  induction specs using List.reverseRecOn generalizing built c' with
  | nil =>
      rw [specifiers] at hRun
      obtain ⟨rfl, -⟩ := pure_eq_ok.mp hRun
      exact .nil
  | append_singleton before s ih =>
      rw [specifiers_append] at hRun
      obtain ⟨built₁, c₁, hBefore, hLast⟩ := bind_eq_ok.mp hRun
      have hSums := ih hBefore
      have hSymbols := (specifiers_replays ev before {}).symbols_eq hBefore
      cases s with
      | storageClass s =>
          rw [specifiers, specifiers] at hLast
          obtain ⟨_, _, -, hPure⟩ := bind_eq_ok.mp hLast
          obtain ⟨rfl, -⟩ := pure_eq_ok.mp hPure
          exact hSums.append_other rfl rfl (fun _ => rfl) rfl rfl rfl
      | function f =>
          rw [specifiers, specifiers] at hLast
          obtain ⟨_, _, -, hPure⟩ := bind_eq_ok.mp hLast
          obtain ⟨rfl, -⟩ := pure_eq_ok.mp hPure
          exact hSums.append_other rfl rfl (fun _ => rfl) rfl rfl rfl
      | type t =>
          rw [specifiers] at hLast
          obtain ⟨d, c₂, hType, hPure⟩ := bind_eq_ok.mp hLast
          rw [specifiers] at hPure
          obtain ⟨rfl, -⟩ := pure_eq_ok.mp hPure
          exact hSums.append_type hSymbols t hType
      | qualifier q =>
          rw [specifiers] at hLast
          obtain ⟨d, c₂, hQualifier, hPure⟩ := bind_eq_ok.mp hLast
          rw [specifiers] at hPure
          obtain ⟨rfl, -⟩ := pure_eq_ok.mp hPure
          obtain rfl := qualifier_eq_ok hQualifier
          exact hSums.append_qualifier q

/-! ### Members -/

/-- Sequences with the same first part have corresponding answers if their second parts do. -/
theorem Replays.answerOf_bind {α β γ : Type} {x : Lower α} (hx : Replays x) {f : α → Lower β}
    {g : α → Lower γ} {view : β → γ}
    (hSecond : ∀ (a : α) (c d : Context), d.symbols = c.symbols →
      answerOf (g a d) = (answerOf (f a c)).map view)
    {c d : Context} (hSymbols : d.symbols = c.symbols) :
    answerOf ((x >>= g) d) = (answerOf ((x >>= f) c)).map view := by
  obtain ⟨events, answer, hEvents, hPlay⟩ := hx c.symbols
  rw [bind_run, bind_run, hPlay c rfl, hPlay d hSymbols]
  cases answer with
  | error e => rfl
  | ok a =>
      refine hSecond a (c.replay events) (d.replay events) ?_
      rw [Context.symbols_replay hEvents, Context.symbols_replay hEvents, hSymbols]

/-- Where the same symbols are recorded, a member's specifiers have the answer of a declaration's. -/
theorem memberSpecifiers_answer (ev : Evaluator) : ∀ (specs : List DeclarationSpecifier)
    (built : Specified) (c d : Context), d.symbols = c.symbols →
      answerOf (memberSpecifiers ev (specs.filterMap DeclarationSpecifier.member?)
          built.descriptor d) =
        (answerOf (specifiers ev specs built c)).map (·.descriptor)
  | [], built, c, d, _ => by
      rw [specifiers, List.filterMap_nil, memberSpecifiers]
      rfl
  | .storageClass s :: rest, built, c, d, hSymbols => by
      rw [specifiers, bind_run]
      exact memberSpecifiers_answer ev rest { built with storage := some s.kind } _ d hSymbols
  | .function f :: rest, built, c, d, hSymbols => by
      rw [specifiers, bind_run]
      exact memberSpecifiers_answer ev rest built _ d hSymbols
  | .type t :: rest, built, c, d, hSymbols => by
      have hMembers : (DeclarationSpecifier.type t :: rest).filterMap DeclarationSpecifier.member? =
          .type t :: rest.filterMap DeclarationSpecifier.member? := rfl
      have hType : Replays (typeSpecifier ev t built.descriptor) :=
        (Replays.compositional ev).typeSpecifier t built.descriptor (.trivial _)
      rw [hMembers, memberSpecifiers, specifiers]
      exact hType.answerOf_bind (fun descriptor =>
        memberSpecifiers_answer ev rest { built with descriptor }) hSymbols
  | .qualifier q :: rest, built, c, d, hSymbols => by
      have hMembers :
          (DeclarationSpecifier.qualifier q :: rest).filterMap DeclarationSpecifier.member? =
            .qualifier q :: rest.filterMap DeclarationSpecifier.member? := rfl
      have hQualifier : Replays (qualifier q built.descriptor) :=
        (Replays.compositional ev).qualifier q built.descriptor
      rw [hMembers, memberSpecifiers, specifiers]
      exact hQualifier.answerOf_bind (fun descriptor =>
        memberSpecifiers_answer ev rest { built with descriptor }) hSymbols

end Lower

/-- **What specifiers add up to.**  If a specifier list can be lowered, its storage class is the last one
in it.  If no record is in it, its descriptor is the scalar that it adds up to; otherwise it is the record
that the last record specifier gives by itself, in any context with the same symbols.  A member's
specifier list with the same type specifiers and qualifiers gives the same descriptor from the same
context, or has the same mismatch. -/
theorem specifiers_accumulate (ev : Evaluator) (specs : List DeclarationSpecifier) (c : Context) :
    (∀ built c', Lower.specifiers ev specs {} c = .ok built c' →
      built.storage = (specs.filterMap DeclarationSpecifier.storageClass?).getLast? ∧
      ((∀ s ∈ specs, s.record? = none) → built.descriptor = .scalar (.summed specs)) ∧
      ∀ r, lastRecord? specs = some r → ∃ a, built.descriptor = .aggregate a ∧
        ∀ d : Context, d.symbols = c.symbols → ∃ d', Lower.record ev r d = .ok a d') ∧
    answerOf (Lower.memberSpecifiers ev (specs.filterMap DeclarationSpecifier.member?)
        (.scalar {}) c) =
      (answerOf (Lower.specifiers ev specs {} c)).map (·.descriptor) := by
  constructor
  · intro built c' hRun
    have hSums := Lower.specifiers_sumsUp ev hRun
    refine ⟨hSums.storage, fun hScalars => hSums.scalar ?_, hSums.record⟩
    rw [lastRecord?, List.findSome?_eq_none_iff]
    exact fun s hMem => hScalars s (List.mem_reverse.mp hMem)
  · exact Lower.memberSpecifiers_answer ev specs {} c c rfl

/-- The list `extern int const long unsigned long volatile inline static`. -/
def DeclarationSpecifier.longVolatile : List DeclarationSpecifier :=
  [.ofStorageClass .external, .ofType (.keyword .int), .ofQualifier .const, .ofType (.keyword .long),
    .ofType (.keyword .unsigned), .ofType (.keyword .long), .ofQualifier .volatile,
    .ofFunctionSpecifier .inline, .ofStorageClass .static]

/-- A record with the member `int x;`. -/
def RecordSpecifier.ofInt (kind : RecordKind) (tag : String) : RecordSpecifier :=
  .definition kind (some tag)
    [.ofParts [.ofType (.keyword .int)] [.declarator (.ofDirect (.ofName "x"))]]

/-- The list `short struct s { int x; } union u { int x; } const`. -/
def DeclarationSpecifier.lastUnion : List DeclarationSpecifier :=
  [.ofType (.keyword .short), .ofType (.record (.ofInt .struct "s")),
    .ofType (.record (.ofInt .union "u")), .ofQualifier .const]

/-- The second `long` outweighs `int`, and `volatile` takes `const` back.  Nothing is left of `short` and
of the first record behind the second one. -/
theorem longVolatile_accumulated :
    (∃ built c', Lower.specifiers .constant DeclarationSpecifier.longVolatile {} {} = .ok built c' ∧
      built.storage = some .static ∧
      built.descriptor = .scalar { base := some .long, unsigned := true, long := true }) ∧
    ∃ built c', Lower.specifiers .constant DeclarationSpecifier.lastUnion {} {} = .ok built c' ∧
      built.descriptor = .aggregate ⟨some "u", true,
        [{ Entity.ofType (.scalar { base := some .int }) with name := "x" }]⟩ := by
  constructor
  · have hSucceeds : succeeds
        (Lower.specifiers .constant DeclarationSpecifier.longVolatile {}) {} = true := by cbv
    obtain ⟨built, c', hRun⟩ := succeeds_iff.mp hSucceeds
    obtain ⟨hStorage, hScalar, -⟩ :=
      (specifiers_accumulate .constant DeclarationSpecifier.longVolatile {}).1 built c' hRun
    refine ⟨built, c', hRun, hStorage.trans (by cbv), (hScalar ?_).trans (by cbv)⟩
    simp [DeclarationSpecifier.longVolatile, DeclarationSpecifier.record?,
      DeclarationSpecifier.ofType, DeclarationSpecifier.ofQualifier,
      DeclarationSpecifier.ofStorageClass, DeclarationSpecifier.ofFunctionSpecifier]
  · have hSucceeds : succeeds
        (Lower.specifiers .constant DeclarationSpecifier.lastUnion {}) {} = true := by cbv
    obtain ⟨built, c', hRun⟩ := succeeds_iff.mp hSucceeds
    obtain ⟨-, -, hRecord⟩ :=
      (specifiers_accumulate .constant DeclarationSpecifier.lastUnion {}).1 built c' hRun
    obtain ⟨a, hDescriptor, hAlone⟩ := hRecord (.ofInt .union "u") rfl
    have hAnswer := answerOf_eq_ok_iff.mpr (hAlone {} rfl)
    have hUnion : answerOf (Lower.record .constant (.ofInt .union "u") {}) = .ok ⟨some "u", true,
        [{ Entity.ofType (.scalar { base := some .int }) with name := "x" }]⟩ := by cbv
    obtain rfl := Except.ok.inj (hAnswer.symm.trans hUnion)
    exact ⟨built, c', hRun, hDescriptor⟩

end CDecl
