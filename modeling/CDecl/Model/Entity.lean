import CDecl.Constant.Value
import CDecl.Syntax.Tree

/-!
# Declared entities

What a declarator declares, once its pointers, brackets and parentheses are read: an entity has a
descriptor, a number of pointer indirections and a list of array dimensions.  Only function types
and records nest: the return value and the parameters of a function, and the members of a record,
are entities again.
-/

namespace CDecl

/-- The base of a scalar: a keyword, or the name of a typedef that is not looked into. -/
inductive BaseType where
  | void
  | char
  | int
  | long
  | float
  | double
  | bool
  | complex
  | named (name : String)
deriving DecidableEq, Inhabited

/-- A scalar type.  It has no base when only modifiers were given, or an enumeration. -/
structure Scalar where
  base : Option BaseType := none
  unsigned : Bool := false
  short : Bool := false
  long : Bool := false
  isConst : Bool := false
deriving DecidableEq, Inhabited

/-- A dimension of an array: a number, the text of a bound that is no such number, or none. -/
inductive Dimension where
  | known (size : UInt64)
  | symbolic (bound : String)
  | unsized
deriving DecidableEq, Inhabited

/-- The three kinds of descriptor. -/
inductive DescriptorKind where
  | scalar
  | aggregate
  | function
deriving DecidableEq, Inhabited

/-- The name of a kind of descriptor. -/
def DescriptorKind.name : DescriptorKind → String
  | .scalar => "scalar"
  | .aggregate => "aggregate"
  | .function => "function"

mutual

/-- A declared entity: a variable, a parameter, a member or a function.  Dimensions are listed from
the outermost; `expression` is the text of the initializer. -/
structure Entity where
  name : String
  type : Descriptor
  pointers : UInt32
  arrays : List Dimension
  span : Span
  storage : Option StorageClass
  value : Option Value
  expression : Option String

/-- What an entity is, its pointers and dimensions apart. -/
inductive Descriptor where
  | scalar (s : Scalar)
  | aggregate (a : Aggregate)
  | function (f : FunctionType)

/-- A structure or union; a bare reference has no members. -/
structure Aggregate where
  tag : Option String
  isUnion : Bool
  members : List Entity

/-- A function type. -/
structure FunctionType where
  returns : Entity
  params : List Entity
  variadic : Bool

end

instance : Inhabited Descriptor := ⟨.scalar {}⟩

instance : Inhabited Aggregate := ⟨⟨none, false, []⟩⟩

namespace Descriptor

/-- The kind of a descriptor. -/
def kind : Descriptor → DescriptorKind
  | .scalar _ => .scalar
  | .aggregate _ => .aggregate
  | .function _ => .function

/-- The scalar of a scalar descriptor. -/
def scalar? : Descriptor → Option Scalar
  | .scalar s => some s
  | _ => none

/-- The record of a record descriptor. -/
def aggregate? : Descriptor → Option Aggregate
  | .aggregate a => some a
  | _ => none

/-- The function type of a function descriptor. -/
def function? : Descriptor → Option FunctionType
  | .function f => some f
  | _ => none

end Descriptor

/-- The keyword of a record. -/
def Aggregate.keyword (a : Aggregate) : String := if a.isUnion then "union" else "struct"

namespace Entity

/-- An entity without a name, pointers, dimensions and place. -/
def ofType (type : Descriptor) : Entity := ⟨"", type, 0, [], .empty, none, none, none⟩

instance : Inhabited Entity := ⟨ofType default⟩

/-- Whether an entity is a function itself, and no pointer to one or array of them. -/
def isFunction (e : Entity) : Bool :=
  e.type.kind == .function && e.pointers == 0 && e.arrays.isEmpty

/-- Whether an entity is a type name. -/
def isTypedef (e : Entity) : Bool := e.storage == some .typedef

end Entity

/-! ### Equality

Entities are compared part by part; values that are floating numbers are compared as such. -/

mutual

/-- Whether two entities agree in every part. -/
def Entity.beq : Entity → Entity → Bool
  | ⟨name, type, pointers, arrays, span, storage, value, expression⟩,
    ⟨name', type', pointers', arrays', span', storage', value', expression'⟩ =>
      name == name' && type.beq type' && pointers == pointers' && arrays == arrays' &&
        span == span' && storage == storage' && value == value' && expression == expression'

/-- Whether two descriptors are of one kind and agree. -/
def Descriptor.beq : Descriptor → Descriptor → Bool
  | .scalar s, .scalar t => s == t
  | .aggregate a, .aggregate b => a.beq b
  | .function f, .function g => f.beq g
  | _, _ => false

/-- Whether two records agree in their tag, keyword and members. -/
def Aggregate.beq : Aggregate → Aggregate → Bool
  | ⟨tag, isUnion, members⟩, ⟨tag', isUnion', members'⟩ =>
      tag == tag' && isUnion == isUnion' && Entity.beqList members members'

/-- Whether two function types agree in what they return and take. -/
def FunctionType.beq : FunctionType → FunctionType → Bool
  | ⟨returns, params, variadic⟩, ⟨returns', params', variadic'⟩ =>
      returns.beq returns' && Entity.beqList params params' && variadic == variadic'

/-- Whether two lists hold the same entities in the same order. -/
def Entity.beqList : List Entity → List Entity → Bool
  | [], [] => true
  | e :: rest, e' :: rest' => e.beq e' && Entity.beqList rest rest'
  | _, _ => false

end

instance : BEq Entity := ⟨Entity.beq⟩

end CDecl
