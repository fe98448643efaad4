import CDecl.Model.Entity

/-!
# The text of types

A type is written with its base first, then its pointers, then its dimensions.  A function type that
has pointers or dimensions behind it stands in parentheses.
-/

namespace CDecl

/-- How a base type is written. -/
def BaseType.text : BaseType → String
  | .void => "void"
  | .char => "char"
  | .int => "int"
  | .long => "long"
  | .float => "float"
  | .double => "double"
  | .bool => "_Bool"
  | .complex => "_Complex"
  | .named name => name

/-- The words of a scalar, in their fixed order. -/
def Scalar.words (s : Scalar) : List String :=
  (if s.isConst then ["const"] else []) ++ (if s.unsigned then ["unsigned"] else []) ++
    (if s.short then ["short"] else []) ++ (if s.long then ["long"] else []) ++
    (s.base.map BaseType.text).toList

/-- How a scalar is written. -/
def Scalar.text (s : Scalar) : String :=
  match s.words with
  | [] => "<unresolved>"
  | words => " ".intercalate words

/-- How a record is written: by its tag, never by its members. -/
def Aggregate.text (a : Aggregate) : String :=
  match a.tag with
  | some tag => a.keyword ++ " " ++ tag
  | none => a.keyword ++ " (anonymous)"

/-- How a dimension is written between its brackets. -/
def Dimension.text : Dimension → String
  | .known size => toString size
  | .symbolic bound => bound
  | .unsized => ""

/-- Pointers and dimensions behind a base; `isFunction` tells whether it is a function type. -/
def modifiedText (base : String) (isFunction : Bool) (pointers : UInt32) (arrays : List Dimension) :
    String :=
  let base := if isFunction && (pointers > 0 || !arrays.isEmpty) then "(" ++ base ++ ")" else base
  let stars := if pointers > 0 then " " ++ String.ofList (List.replicate pointers.toNat '*') else ""
  let gap := if !arrays.isEmpty && pointers == 0 then " " else ""
  base ++ stars ++ gap ++ String.join (arrays.map fun d => "[" ++ d.text ++ "]")

/-- A parameter: its type, and its name if it has one. -/
def parameterText (type name : String) : String :=
  if name.isEmpty then type else type ++ " " ++ name

mutual

/-- The type of an entity. -/
def Entity.typeText : Entity → String
  | ⟨_, type, pointers, arrays, _, _, _, _⟩ =>
      modifiedText type.text (type.kind == .function) pointers arrays

/-- How a descriptor is written. -/
def Descriptor.text : Descriptor → String
  | .scalar s => s.text
  | .aggregate a => a.text
  | .function f => f.text

/-- How a function type is written. -/
def FunctionType.text : FunctionType → String
  | ⟨returns, params, variadic⟩ =>
      let params := Entity.parameterTexts params ++ if variadic then ["..."] else []
      "fn(" ++ ", ".intercalate params ++ ") -> " ++ returns.typeText

/-- The parameters of a function, each on its own. -/
def Entity.parameterTexts : List Entity → List String
  | [] => []
  | ⟨name, type, pointers, arrays, _, _, _, _⟩ :: rest =>
      parameterText (modifiedText type.text (type.kind == .function) pointers arrays) name
        :: Entity.parameterTexts rest

end

theorem Entity.typeText_eq (e : Entity) :
    e.typeText = modifiedText e.type.text (e.type.kind == .function) e.pointers e.arrays := by
  cases e
  rfl

theorem Entity.parameterTexts_eq_map (params : List Entity) :
    parameterTexts params = params.map fun p => parameterText p.typeText p.name := by
  induction params with
  | nil => rfl
  | cons p rest ih =>
      rw [List.map_cons, ← ih]
      cases p
      rfl

/-- An entity with its name and type. -/
def Entity.text (e : Entity) : String := e.name ++ ": " ++ e.typeText

end CDecl
