import CDecl.Proofs.History

/-!
# Skeletons

The skeleton of what lowering makes is what is left of it without constants: the text of an expression
is gone, a dimension with a bound only shows that it has one, and there are no values.  Everything else
is there, at every depth.
-/

namespace CDecl

/-! ### Entities -/

/-- The dimension without its bound. -/
def Dimension.skeleton : Dimension → Dimension
  | .known _ | .symbolic _ => .symbolic ""
  | .unsized => .unsized

mutual

/-- The entity without constants.  It still shows whether it has an expression. -/
def Entity.skeleton : Entity → Entity
  | ⟨name, type, pointers, arrays, span, storage, _, expression⟩ =>
      ⟨name, type.skeleton, pointers, arrays.map Dimension.skeleton, span, storage, none,
        expression.map fun _ => ""⟩

/-- Each of several entities without constants. -/
def Entity.skeletons : List Entity → List Entity
  | [] => []
  | e :: rest => e.skeleton :: Entity.skeletons rest

/-- The descriptor without constants. -/
def Descriptor.skeleton : Descriptor → Descriptor
  | .scalar s => .scalar s
  | .aggregate a => .aggregate a.skeleton
  | .function f => .function f.skeleton

/-- The record without constants. -/
def Aggregate.skeleton : Aggregate → Aggregate
  | ⟨tag, isUnion, members⟩ => ⟨tag, isUnion, Entity.skeletons members⟩

/-- The function type without constants. -/
def FunctionType.skeleton : FunctionType → FunctionType
  | ⟨returns, params, variadic⟩ => ⟨returns.skeleton, Entity.skeletons params, variadic⟩

end

namespace Entity

/-- The skeleton keeps all parts but the constants. -/
theorem skeleton_eq (e : Entity) : e.skeleton =
    { e with
      type := e.type.skeleton
      arrays := e.arrays.map Dimension.skeleton
      value := none
      expression := e.expression.map fun _ => "" } := by
  cases e
  rfl

@[simp] theorem skeleton_name (e : Entity) : e.skeleton.name = e.name := by rw [skeleton_eq]

@[simp] theorem skeleton_value (e : Entity) : e.skeleton.value = none := by rw [skeleton_eq]

theorem skeleton_span (e : Entity) (span : Span) :
    ({ e with span } : Entity).skeleton = { e.skeleton with span } := by
  simp only [skeleton_eq]

theorem skeleton_storage (e : Entity) (storage : Option StorageClass) :
    ({ e with storage } : Entity).skeleton = { e.skeleton with storage } := by
  simp only [skeleton_eq]

theorem skeletons_eq_map (entities : List Entity) : skeletons entities = entities.map skeleton := by
  induction entities with
  | nil => rfl
  | cons e rest ih => rw [skeletons, ih, List.map_cons]

theorem skeleton_function (returns : Entity) (params : List Entity) (variadic : Bool) (span : Span) :
    ({ ofType (.function ⟨returns, params, variadic⟩) with span } : Entity).skeleton =
      { ofType (.function ⟨returns.skeleton, params.map skeleton, variadic⟩) with span } := by
  rw [← skeletons_eq_map]
  rfl

end Entity

@[simp] theorem Aggregate.skeleton_tag (a : Aggregate) : a.skeleton.tag = a.tag := by
  cases a
  rfl

@[simp] theorem Descriptor.skeleton_kind (d : Descriptor) : d.skeleton.kind = d.kind := by
  cases d <;> rfl

/-- A qualifier changes scalars only. -/
theorem Descriptor.skeleton_qualified (kind : QualifierKind) (d : Descriptor) :
    (d.qualified kind).skeleton = d.skeleton.qualified kind := by
  cases d <;> rfl

/-- What a specifier list says, without constants. -/
def Specified.skeleton (s : Specified) : Specified := ⟨s.descriptor.skeleton, s.storage⟩

/-! ### Contexts and sessions -/

/-- The event without constants. -/
def Event.skeleton : Event → Event
  | .recordReferenced a => .recordReferenced a.skeleton
  | .recordDefined a => .recordDefined a.skeleton
  | .dimensionAdded d => .dimensionAdded d.skeleton
  | .functionWrapped returns => .functionWrapped returns.skeleton
  | .symbolRecorded name _ => .symbolRecorded name none
  | .entityDeclared e => .entityDeclared e.skeleton
  | .functionDefined e => .functionDefined e.skeleton
  | event => event

@[simp] theorem Event.skeleton_isPlain (event : Event) : event.skeleton.isPlain = event.isPlain := by
  cases event <;> rfl

/-- The context without constants: no symbol has a value. -/
def Context.skeleton (c : Context) : Context where
  symbols := c.symbols.map fun _ => none
  tags := c.tags.map Aggregate.skeleton
  report := c.report
  events := c.events.map Event.skeleton

/-- An event leaves its skeleton. -/
theorem Context.skeleton_after (c : Context) (event : Event) :
    (c.after event).skeleton = c.skeleton.after event.skeleton := by
  cases event with
  | symbolRecorded name value =>
      simp [after, skeleton, Event.skeleton, Table.map_insert]
  | recordDefined a =>
      cases hTag : a.tag <;> simp [after, skeleton, Event.skeleton, Table.map_insert, hTag]
  | _ => simp [after, skeleton, Event.skeleton]

/-- The session without constants. -/
def Session.skeleton (s : Session) : Session where
  context := s.context.skeleton
  declarations := s.declarations.map Entity.skeleton

end CDecl
