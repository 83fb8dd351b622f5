import BeanContainer.Proofs.Source.Pieces
import BeanContainer.Source.Grammar.Implementation

/-!
# Implementations without some attributes

Attributes are removed from a forest wherever they are. For an implementation this comes to removing
them from its own list, from the lists of its functions and of their arguments, and inside of
everything that is only kept as a forest.
-/

namespace BeanContainer.Source

variable {isDropped : Identifier → Bool}

namespace Forest

theorem without_append : ∀ forest other : Forest, (forest ++ other).without isDropped =
    forest.without isDropped ++ other.without isDropped
  | .nil, other => rfl
  | .leaf token rest, other => congrArg (leaf token) (without_append rest other)
  | .group delimiter content rest, other =>
    congrArg (group delimiter (content.without isDropped)) (without_append rest other)
  | .tagged name content rest, other => by
    change (tagged name content (rest ++ other)).without isDropped = _
    simp only [without, without_append rest other]
    split
    · rfl
    · rfl
  | .expression place inner rest, other =>
    congrArg (expression place (inner.without isDropped)) (without_append rest other)

theorem without_join (forests : List Forest) :
    (join forests).without isDropped = join (forests.map (without isDropped)) := by
  induction forests with
  | nil => rfl
  | cons first rest ih => simp [join, without_append, ih]

theorem without_enclosed (delimiter : Delimiter) (content : Forest) :
    (enclosed delimiter content).without isDropped =
      enclosed delimiter (content.without isDropped) :=
  rfl

theorem without_ofIdentifier (identifier : Identifier) :
    (ofIdentifier identifier).without isDropped = ofIdentifier identifier :=
  rfl

theorem without_marks (text : String) : (marks text).without isDropped = marks text := by
  rw [marks]
  induction text.toList using marks.go.induct with
  | case1 => rfl
  | case2 last => rfl
  | case3 first rest notNil ih => simp [marks.go, without, ih]

end Forest

/-- The attributes that are not dropped, without those that are dropped inside of them. -/
def Attribute.listWithout (isDropped : Identifier → Bool) (annotations : List Attribute) :
    List Attribute :=
  (annotations.filter fun tag => !tag.name.any isDropped).map fun tag =>
    { tag with content := tag.content.without isDropped }

/-- The argument without the attributes. -/
def ArgumentKind.without (isDropped : Identifier → Bool) : ArgumentKind → ArgumentKind
  | .receiver value => .receiver { value with content := value.content.without isDropped }
  | .typed argument =>
    .typed { argument with
      pattern := argument.pattern.without isDropped
      type := argument.type.without isDropped }

/-- The argument without the attributes. -/
def Argument.without (isDropped : Identifier → Bool) (argument : Argument) : Argument where
  annotations := Attribute.listWithout isDropped argument.annotations
  kind := argument.kind.without isDropped
  hasComma := argument.hasComma

/-- The parameters without the attributes. -/
def Generics.without (isDropped : Identifier → Bool) (generics : Generics) : Generics where
  parameters := generics.parameters.map fun parameter =>
    { parameter with
      declared := parameter.declared.without isDropped
      default := parameter.default.without isDropped }

/-- The signature without the attributes. -/
def Signature.without (isDropped : Identifier → Bool) (signature : Signature) : Signature where
  head := signature.head.without isDropped
  name := signature.name
  generics := signature.generics.without isDropped
  arguments := signature.arguments.map (·.without isDropped)
  variadic := signature.variadic.without isDropped
  result := signature.result.map fun result =>
    { result with type := result.type.without isDropped }
  conditions := signature.conditions.without isDropped

/-- The function without the attributes. -/
def AssociatedFunction.without (isDropped : Identifier → Bool) (function : AssociatedFunction) :
    AssociatedFunction where
  annotations := Attribute.listWithout isDropped function.annotations
  head := function.head.without isDropped
  signature := function.signature.without isDropped
  body := function.body.without isDropped

/-- The item without the attributes. -/
def ImplementationItem.without (isDropped : Identifier → Bool) :
    ImplementationItem → ImplementationItem
  | .function declaration => .function (declaration.without isDropped)
  | .other content => .other (content.without isDropped)

/-- The implementation without the attributes. -/
def Implementation.without (isDropped : Identifier → Bool) (implementation : Implementation) :
    Implementation where
  annotations := Attribute.listWithout isDropped implementation.annotations
  head := implementation.head.without isDropped
  generics := implementation.generics.without isDropped
  trait := implementation.trait.map (·.without isDropped)
  selfType := implementation.selfType.without isDropped
  conditions := implementation.conditions.without isDropped
  items := implementation.items.map (·.without isDropped)

/-- The element without the attributes. -/
def Ordered.without (isDropped : Identifier → Bool) (element : Ordered) : Ordered :=
  { element with content := element.content.without isDropped }

@[simp] theorem Ordered.without_isLifetime (element : Ordered) :
    (element.without isDropped).isLifetime = element.isLifetime :=
  rfl

@[simp] theorem Ordered.without_hasComma (element : Ordered) :
    (element.without isDropped).hasComma = element.hasComma :=
  rfl

theorem Attribute.listForest_without (annotations : List Attribute) :
    listForest (listWithout isDropped annotations) =
      (listForest annotations).without isDropped := by
  induction annotations with
  | nil => rfl
  | cons tag annotations ih =>
      simp only [listForest, List.map_cons, Forest.join, Forest.without_append] at ih ⊢
      rw [← ih]
      cases isNamed : tag.name.any isDropped with
      | true => simp [listWithout, isNamed, Attribute.forest, Forest.without]
      | false => simp [listWithout, isNamed, Attribute.forest, Forest.without, Forest.join]

theorem Attribute.listWithout_filter_isInner (isInner : Bool → Bool)
    (annotations : List Attribute) :
    (listWithout isDropped annotations).filter (isInner ·.isInner) =
      listWithout isDropped (annotations.filter (isInner ·.isInner)) := by
  simp only [listWithout, List.filter_map, List.filter_filter, Function.comp_def, Bool.and_comm]

theorem Attribute.outerForest_without (annotations : List Attribute) :
    outerForest (listWithout isDropped annotations) =
      (outerForest annotations).without isDropped := by
  rw [outerForest, outerForest, ← listForest_without, listWithout_filter_isInner (!·)]

theorem Attribute.innerForest_without (annotations : List Attribute) :
    innerForest (listWithout isDropped annotations) =
      (innerForest annotations).without isDropped := by
  rw [innerForest, innerForest, ← listForest_without]
  exact congrArg listForest (listWithout_filter_isInner id annotations)

theorem Argument.content_without (argument : Argument) :
    (argument.without isDropped).content = argument.content.without isDropped := by
  rcases argument with ⟨annotations, kind, hasComma⟩
  cases kind with
  | receiver value =>
      simp [Argument.content, Argument.without, ArgumentKind.without, Forest.without_append,
        Attribute.listForest_without]
  | typed argument =>
      simp [Argument.content, Argument.without, ArgumentKind.without, Forest.without_append,
        Attribute.listForest_without, Forest.without_marks]

theorem Argument.forest_without (argument : Argument) :
    (argument.without isDropped).forest = argument.forest.without isDropped := by
  have hasComma : (argument.without isDropped).hasComma = argument.hasComma := rfl
  simp only [Argument.forest, content_without, hasComma]
  split
  · simp [Forest.without_append, Forest.without_marks]
  · rfl

theorem Ordered.forest_without (element : Ordered) :
    (element.without isDropped).forest = element.forest.without isDropped := by
  rcases element with ⟨isLifetime, content, hasComma⟩
  cases hasComma with
  | true => simp [Ordered.forest, Ordered.without, Forest.without_append, Forest.without_marks]
  | false => rfl

theorem Ordered.listForest_without (elements : List Ordered) :
    listForest (elements.map (·.without isDropped)) =
      (listForest elements).without isDropped := by
  simp only [listForest, List.partition_eq_filter_filter, List.filter_map, List.getLast?_map,
    Forest.without_append, Forest.without_join, List.map_map, Function.comp_def,
    Ordered.forest_without, without_isLifetime, List.isEmpty_map]
  congr 2
  cases (elements.filter (·.isLifetime)).getLast? with
  | none => rfl
  | some last =>
      cases endsAlike : last.hasComma || (elements.filter (!·.isLifetime)).isEmpty with
      | true => simp [endsAlike, Forest.without]
      | false => simp [endsAlike, Forest.without_marks]

/-- A parameter as an element of a list in which lifetimes come first. -/
def GenericParameter.ordered (parameter : GenericParameter) : Ordered :=
  ⟨parameter.isLifetime, parameter.declared ++ parameter.default, parameter.hasComma⟩

theorem Generics.forest_eq (generics : Generics) : generics.forest =
    if generics.parameters.isEmpty then .nil
    else .marks "<" ++ Ordered.listForest (generics.parameters.map (·.ordered)) ++ .marks ">" := by
  rcases generics with ⟨parameters⟩
  cases parameters with
  | nil => rfl
  | cons first others => rfl

theorem Generics.forest_without (generics : Generics) :
    (generics.without isDropped).forest = generics.forest.without isDropped := by
  have elements : (generics.without isDropped).parameters.map (·.ordered) =
      (generics.parameters.map (·.ordered)).map (·.without isDropped) := by
    simp [Generics.without, GenericParameter.ordered, Ordered.without, Forest.without_append]
  have isEmpty : (generics.without isDropped).parameters.isEmpty = generics.parameters.isEmpty := by
    simp [Generics.without]
  rw [forest_eq, forest_eq, elements, isEmpty, Ordered.listForest_without]
  split
  · rfl
  · simp [Forest.without_append, Forest.without_marks]

theorem Signature.forest_without (signature : Signature) :
    (signature.without isDropped).forest = signature.forest.without isDropped := by
  simp only [Signature.forest, Signature.without, Forest.without_append, Forest.without_enclosed,
    Forest.without_ofIdentifier, Generics.forest_without, Forest.without_join, List.map_map,
    Function.comp_def, Argument.forest_without]
  cases signature.result with
  | none => rfl
  | some result => simp [Forest.without_append, Forest.without_marks]

theorem AssociatedFunction.forest_without (function : AssociatedFunction) :
    (function.without isDropped).forest = function.forest.without isDropped := by
  simp only [AssociatedFunction.forest, AssociatedFunction.without, Forest.without_append,
    Forest.without_enclosed, Attribute.outerForest_without, Attribute.innerForest_without,
    Signature.forest_without]

theorem ImplementationItem.forest_without (item : ImplementationItem) :
    (item.without isDropped).forest = item.forest.without isDropped := by
  cases item with
  | function declaration => exact declaration.forest_without
  | other content => rfl

/-- Without the attributes the implementation is written as its forest without them. -/
theorem Implementation.forest_without (implementation : Implementation) :
    (implementation.without isDropped).forest = implementation.forest.without isDropped := by
  simp only [Implementation.forest, Implementation.without, Forest.without_append,
    Forest.without_enclosed, Forest.without_join, Attribute.outerForest_without,
    Attribute.innerForest_without, Generics.forest_without, ImplementationItem.forest_without,
    List.map_map, Function.comp_def]
  cases implementation.trait <;> rfl

theorem Attribute.listWithout_listWithout (annotations : List Attribute) :
    listWithout isDropped (listWithout isDropped annotations) =
      listWithout isDropped annotations := by
  simp [listWithout, List.filter_map, List.filter_filter, Function.comp_def,
    Forest.without_without]

theorem Argument.without_without (argument : Argument) :
    (argument.without isDropped).without isDropped = argument.without isDropped := by
  rcases argument with ⟨annotations, kind, hasComma⟩
  cases kind with
  | receiver value =>
      simp [Argument.without, ArgumentKind.without, Attribute.listWithout_listWithout,
        Forest.without_without]
  | typed argument =>
      simp [Argument.without, ArgumentKind.without, Attribute.listWithout_listWithout,
        Forest.without_without]

theorem Generics.without_without (generics : Generics) :
    (generics.without isDropped).without isDropped = generics.without isDropped := by
  simp [Generics.without, Forest.without_without]

theorem Signature.without_without (signature : Signature) :
    (signature.without isDropped).without isDropped = signature.without isDropped := by
  simp [Signature.without, Forest.without_without, Generics.without_without,
    Argument.without_without, Function.comp_def]

theorem ImplementationItem.without_without (item : ImplementationItem) :
    (item.without isDropped).without isDropped = item.without isDropped := by
  cases item with
  | function declaration =>
      simp [ImplementationItem.without, AssociatedFunction.without, Forest.without_without,
        Attribute.listWithout_listWithout, Signature.without_without]
  | other content => simp [ImplementationItem.without, Forest.without_without]

/-- Removing the attributes once more changes nothing. -/
theorem Implementation.without_without (implementation : Implementation) :
    (implementation.without isDropped).without isDropped =
      implementation.without isDropped := by
  simp [Implementation.without, Forest.without_without, Attribute.listWithout_listWithout,
    Generics.without_without, ImplementationItem.without_without, Function.comp_def]

end BeanContainer.Source
