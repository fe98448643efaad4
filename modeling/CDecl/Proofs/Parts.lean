import Mathlib
import CDecl.Lowering.Session

/-!
# The parts of entities

The members of a record, the parameters of a function and what it returns are entities again.
`Entity.parts` lists an entity with everything inside it, at any depth, and says of each part in which
role it is there.  What an entity may have depends on its role: a storage class, a value and an
expression belong to declared entities, of which parameters keep the storage class, and what a function
returns has no name (`Entity.WellFormed`).
-/

namespace CDecl

/-- What an entity is to the one around it; declared entities stand alone. -/
inductive Role where
  | declared
  | member
  | parameter
  | result
deriving DecidableEq

/-! ### Parts -/

mutual

/-- An entity and the entities inside it, each with its role. -/
def Entity.parts (role : Role) : Entity → List (Role × Entity)
  | ⟨name, type, pointers, arrays, span, storage, value, expression⟩ =>
      (role, ⟨name, type, pointers, arrays, span, storage, value, expression⟩) :: type.parts

/-- The entities inside a descriptor. -/
def Descriptor.parts : Descriptor → List (Role × Entity)
  | .scalar _ => []
  | .aggregate a => a.parts
  | .function f => f.parts

/-- The entities inside a record. -/
def Aggregate.parts : Aggregate → List (Role × Entity)
  | ⟨_, _, members⟩ => Entity.partsOfAll .member members

/-- The entities inside a function type. -/
def FunctionType.parts : FunctionType → List (Role × Entity)
  | ⟨returns, params, _⟩ => returns.parts .result ++ Entity.partsOfAll .parameter params

/-- The parts of several entities in one role. -/
def Entity.partsOfAll (role : Role) : List Entity → List (Role × Entity)
  | [] => []
  | e :: rest => e.parts role ++ Entity.partsOfAll role rest

end

theorem Entity.parts_eq (role : Role) (e : Entity) : e.parts role = (role, e) :: e.type.parts := by
  cases e
  rfl

theorem Entity.partsOfAll_eq (role : Role) (entities : List Entity) :
    Entity.partsOfAll role entities = entities.flatMap (Entity.parts role) := by
  induction entities with
  | nil => rfl
  | cons e rest ih => rw [partsOfAll, List.flatMap_cons, ih]

theorem Entity.partsOfAll_append (role : Role) (first second : List Entity) :
    Entity.partsOfAll role (first ++ second) =
      Entity.partsOfAll role first ++ Entity.partsOfAll role second := by
  simp only [partsOfAll_eq, List.flatMap_append]

namespace Session

/-- Every entity that a session holds: those declared and those in tagged records, with everything
inside. -/
def parts (s : Session) : List (Role × Entity) :=
  Entity.partsOfAll .declared s.declarations.toList ++ s.context.tags.values.flatMap Aggregate.parts

/-- Every record that a session holds: the tagged ones, and those that are the type of an entity. -/
def records (s : Session) : List Aggregate :=
  s.context.tags.values ++ s.parts.filterMap fun part => part.2.type.aggregate?

end Session

/-! ### Roles -/

/-- An entity without a storage class, value and expression. -/
structure Entity.Bare (e : Entity) : Prop where
  storage : e.storage = none
  value : e.value = none
  expression : e.expression = none

/-- What the role of an entity says of its name, storage class, value and expression. -/
def Entity.Suits (e : Entity) : Role → Prop
  | .result => e.name = "" ∧ e.Bare
  | .member => e.Bare
  | .parameter => e.value = none ∧ e.expression = none
  | .declared => e.value.isSome → e.expression.isSome

/-- An entity suits its role, its dimensions are numbers of 63 bits where they are known, and the base
`long` comes with the modifier `long`. -/
structure Entity.WellFormed (role : Role) (e : Entity) : Prop where
  suits : e.Suits role
  dimension_lt : ∀ size, .known size ∈ e.arrays → size.toNat < 2 ^ 63
  long : ∀ s, e.type = .scalar s → s.base = some .long → s.long = true

/-- The unnamed member that stands for the members of an untagged record. -/
structure Entity.IsAnonymous (e : Entity) : Prop where
  name : e.name = ""
  pointers : e.pointers = 0
  arrays : e.arrays = []
  type : ∃ a, e.type = .aggregate a ∧ a.tag = none

/-- The names of declared entities, parameters and members have the property, anonymous members
apart. -/
def Entity.Named (named : String → Prop) (e : Entity) : Role → Prop
  | .result => True
  | .member => named e.name ∨ e.IsAnonymous
  | .parameter | .declared => named e.name

end CDecl
