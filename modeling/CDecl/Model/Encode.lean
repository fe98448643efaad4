import CDecl.Model.Entity
import CDecl.Syntax.Encode

/-!
# Writing entities as documents

Entities and their parts as JSON values, with every field written and absent ones as `null`.
-/

namespace CDecl

/-- A base type by its name; a typedef name is carried. -/
def BaseType.encode : BaseType → Json
  | .void => .str "Void"
  | .char => .str "Char"
  | .int => .str "Int"
  | .long => .str "Long"
  | .float => .str "Float"
  | .double => .str "Double"
  | .bool => .str "Bool"
  | .complex => .str "Complex"
  | .named name => .tagged "Named" (.str name)

/-- A scalar with its modifiers. -/
def Scalar.encode (s : Scalar) : Json :=
  .obj [("base", .ofOption BaseType.encode s.base), ("unsigned", .bool s.unsigned),
    ("short", .bool s.short), ("long", .bool s.long), ("is_const", .bool s.isConst)]

/-- A dimension: its size, its text or nothing. -/
def Dimension.encode : Dimension → Json
  | .known size => .tagged "Known" (.int size.toNat)
  | .symbolic bound => .tagged "Symbolic" (.str bound)
  | .unsized => .str "Unsized"

/-- A constant value by its kind; a character is a text of its own. -/
def Value.encode : Value → Json
  | .int n => .tagged "Int" (.int n.toInt)
  | .float x => .tagged "Float" (.float x)
  | .char c => .tagged "Char" (.str (String.singleton c))
  | .str s => .tagged "Str" (.str s)

mutual

/-- An entity. -/
def Entity.encode : Entity → Json
  | ⟨name, type, pointers, arrays, span, storage, value, expression⟩ =>
      .obj [("name", .str name), ("ty", type.encode), ("pointers", .int pointers.toNat),
        ("arrays", .ofList Dimension.encode arrays), ("span", span.encode),
        ("storage", .ofOption StorageClass.encode storage),
        ("value", .ofOption Value.encode value), ("expression", .ofOption Json.str expression)]

/-- Each of several entities. -/
def Entity.encodeList : List Entity → List Json
  | [] => []
  | e :: rest => e.encode :: Entity.encodeList rest

/-- A descriptor by its kind. -/
def Descriptor.encode : Descriptor → Json
  | .scalar s => .tagged "Scalar" s.encode
  | .aggregate a => .tagged "Aggregate" a.encode
  | .function f => .tagged "Function" f.encode

/-- A record with its members. -/
def Aggregate.encode : Aggregate → Json
  | ⟨tag, isUnion, members⟩ =>
      .obj [("tag", .ofOption Json.str tag), ("is_union", .bool isUnion),
        ("members", .arr (Entity.encodeList members))]

/-- A function type with its parameters. -/
def FunctionType.encode : FunctionType → Json
  | ⟨returns, params, variadic⟩ =>
      .obj [("returns", returns.encode), ("params", .arr (Entity.encodeList params)),
        ("variadic", .bool variadic)]

end

end CDecl
