import BeanContainer.Proofs.Source.Reading
import BeanContainer.Source.Grammar.Basic

/-!
# Signatures that are read

What holds of a signature because it was read from tokens: no argument but the first can be the value
that the function is called on, a pattern that binds a name is written with it, and a type that is a
reference is written as one.
-/

namespace BeanContainer.Source

open BeanContainer.Source.Parser

variable {grammar : Grammar} {input : Input}

/-- The type is written as a reference to the element. -/
def IsReference (type : Forest) (lifetime : Option Identifier) (element : Forest) : Prop :=
  ∃ isJoint isMutable : Bool, type = .leaf (.mark '&' isJoint) (
    (match lifetime with
      | some name => .leaf (.mark '\'' true) (.ofIdentifier name)
      | none => .nil) ++ (if isMutable then .word "mut" else .nil) ++ element)

/-- A type of the shape is written as the shape says. -/
structure TypeShape.Spells (type : Forest) (shape : TypeShape) : Prop where
  reference : ∀ lifetime element, shape = .reference lifetime element →
    IsReference type lifetime element
  grouped : ∀ inner, shape = .grouped inner → ∃ content, type = .enclosed .invisible content

theorem TypeShape.spells_of_ne {type : Forest} {shape : TypeShape}
    (notReference : ∀ lifetime element, shape ≠ .reference lifetime element)
    (notGrouped : ∀ inner, shape ≠ .grouped inner) : shape.Spells type where
  reference lifetime element isReference := absurd isReference (notReference lifetime element)
  grouped inner isGrouped := absurd isGrouped (notGrouped inner)

theorem TypeShape.spells_reference {type element : Forest} {lifetime : Option Identifier} :
    (TypeShape.reference lifetime element).Spells type ↔ IsReference type lifetime element :=
  ⟨fun spells => spells.reference _ _ rfl, fun isReference => ⟨by simpa using isReference, nofun⟩⟩

theorem TypeShape.spells_grouped (inner : TypeShape) (content : Forest) :
    (TypeShape.grouped inner).Spells (.enclosed .invisible content) :=
  ⟨nofun, fun _ _ => ⟨content, rfl⟩⟩

/-- The pattern is written as a binding of the name. -/
def IsBinding (pattern : Forest) (name : Identifier) : Prop :=
  ∃ (isReference isMutable : Bool) (narrowed : Forest),
    pattern = (if isReference then .word "ref" else .nil) ++
      ((if isMutable then .word "mut" else .nil) ++ (.ofIdentifier name ++ narrowed))

def PatternShape.Spells (pattern : Forest) (shape : PatternShape) : Prop :=
  ∀ name, shape = .binding name → IsBinding pattern name

theorem PatternShape.spells_of_ne {pattern : Forest} {shape : PatternShape}
    (isNone : ∀ name, shape ≠ .binding name) : shape.Spells pattern := by
  intro name isBinding
  exact absurd isBinding (isNone name)

theorem PatternShape.spells_binding {pattern : Forest} {name : Identifier} :
    (binding name).Spells pattern ↔ IsBinding pattern name := by
  simp [Spells]

/-- The argument is written as is said of it. -/
structure TypedArgument.IsSpelled (argument : TypedArgument) : Prop where
  pattern : ∀ name, argument.binding = some name → IsBinding argument.pattern name
  type : argument.shape.Spells argument.type

/-- What the arguments of a function are like. -/
structure IsArgumentList (arguments : List Argument) : Prop where
  typed : ∀ argument ∈ arguments.tail, ∃ typed, argument.kind = .typed typed
  spelled : ∀ argument ∈ arguments, ∀ typed, argument.kind = .typed typed → typed.IsSpelled

/-- A function has arguments as functions have them. -/
def ImplementationItem.IsProper : ImplementationItem → Prop
  | .function declaration => IsArgumentList declaration.signature.arguments
  | .other _ => True

theorem IsArgumentList.concat {arguments : List Argument} {annotations : List Attribute}
    {kind : ArgumentKind} {hasComma : Bool} (before : IsArgumentList arguments)
    (receiver : Grammar.isReceiver kind = true → arguments = [])
    (spelled : ∀ typed, kind = .typed typed → typed.IsSpelled) :
    IsArgumentList (arguments ++ [⟨annotations, kind, hasComma⟩]) where
  typed := by
    cases arguments with
    | nil => simp
    | cons first rest =>
        intro argument argument_mem
        rcases List.mem_append.mp argument_mem with earlier | latest
        · exact before.typed argument earlier
        · rw [List.mem_singleton.mp latest]
          cases kind with
          | receiver value => simp [Grammar.isReceiver] at receiver
          | typed typed => exact ⟨typed, rfl⟩
  spelled := by
    intro argument argument_mem
    rcases List.mem_append.mp argument_mem with earlier | latest
    · exact before.spelled argument earlier
    · rw [List.mem_singleton.mp latest]
      exact spelled

namespace Grammar

theorem parenthesizedType_spells (allowsPlus : Bool) :
    (grammar.parenthesizedType allowsPlus).Meets input fun reading =>
      reading.value.Spells reading.written := by
  simp [parenthesizedType, TypeShape.spells_of_ne, meets_enclosedThen]

theorem pathType_spells (allowsPlus : Bool) (binder : Forest) :
    (grammar.pathType allowsPlus binder).Meets input fun reading =>
      reading.value.Spells reading.written := by
  simp [pathType, TypeShape.spells_of_ne]

theorem groupedType_spells (allowsArguments : Bool) :
    (grammar.groupedType allowsArguments).Meets input fun reading =>
      reading.value.Spells reading.written := by
  simp only [groupedType, meets_bind, meets_silently, meets_upcoming, meets_ite, meets_write,
    meets_pure, Forest.nil_append]
  refine meets_of_forall fun inner => ⟨fun _ => ?_, fun _ => ⟨fun _ => ?_, fun _ => ?_⟩⟩
  · split <;> simp [TypeShape.spells_of_ne]
  · split <;> simp [TypeShape.spells_of_ne, TypeShape.spells_grouped]
  · simp [TypeShape.spells_grouped]

theorem typeRule_spells (allowsPlus : Bool) :
    (grammar.typeRule allowsPlus).Meets input fun reading =>
      reading.value.Spells reading.written := by
  have isMark : "&" = '&'.toString := by decide
  simp [typeRule, TypeShape.spells_of_ne, TypeShape.spells_reference, groupedType_spells,
    parenthesizedType_spells, pathType_spells, meets_mark isMark, meets_lifetime,
    meets_optionalWord, IsReference, Forest.word, Forest.ofIdentifier]

theorem optionalWord_written {text : String} : (optionalWord text).Meets input fun reading =>
    reading.written = if reading.value then .word text else .nil := by
  simp [meets_optionalWord]

theorem bindingPattern_spells :
    grammar.bindingPattern.Meets input fun reading => reading.value.Spells reading.written := by
  simp only [bindingPattern, meets_bind]
  refine Meets.imp optionalWord_written fun isReference writesReference => ?_
  refine Meets.imp optionalWord_written fun isMutable writesMutable => ?_
  have binds : ∀ name narrowed, IsBinding
      (isReference.written ++ (isMutable.written ++ (.ofIdentifier name ++ narrowed))) name := by
    intro name narrowed
    rw [writesReference, writesMutable]
    exact ⟨isReference.value, isMutable.value, narrowed, rfl⟩
  simp [PatternShape.spells_binding, meets_anyIdentifier, meets_identifier, binds]

theorem rangeRest_spells (allowsThreeDots : Bool) (first : Expression) :
    (grammar.rangeRest allowsThreeDots first).Meets input fun reading =>
      reading.value.Spells reading.written := by
  simp [rangeRest, PatternShape.spells_of_ne]

theorem pathPattern_spells :
    grammar.pathPattern.Meets input fun reading => reading.value.Spells reading.written := by
  simp [pathPattern, PatternShape.spells_of_ne, rangeRest_spells]

theorem patternRule_spells :
    grammar.patternRule.Meets input fun reading => reading.value.Spells reading.written := by
  simp [patternRule, PatternShape.spells_of_ne, bindingPattern_spells, pathPattern_spells,
    rangeRest_spells, rangeBound]

/-- What is read is written as its shape says. -/
structure Spells (grammar : Grammar) : Prop where
  type (allowsPlus : Bool) (input : Input) :
    (grammar.type allowsPlus).Meets input fun reading => reading.value.Spells reading.written
  pattern (input : Input) :
    grammar.pattern.Meets input fun reading => reading.value.Spells reading.written

theorem spells_ofLevels (levels : Nat) : (ofLevels levels).Spells := by
  cases levels with
  | zero => exact ⟨fun _ _ => meets_fail, fun _ => meets_fail⟩
  | succ levels =>
      exact ⟨fun allowsPlus _ => typeRule_spells allowsPlus, fun _ => patternRule_spells⟩

theorem argumentKind_isSpelled (spells : grammar.Spells) :
    grammar.argumentKind.Meets input fun reading =>
      ∀ typed, reading.value = some (.typed typed) → typed.IsSpelled := by
  simp only [argumentKind, Bool.and_eq_true, meets_bind, meets_attempt?, meets_ite, meets_pure,
    Option.some.injEq, ArgumentKind.typed.injEq, forall_eq', meets_captured, and_imp, not_and,
    Bool.not_eq_true, reduceCtorEq, false_implies, implies_true, meets_true, true_and, meets_sees,
    meets_silently, meets_upcoming, and_true]
  intro _ _
  constructor
  · intro _ _
    refine Meets.imp (spells.type _ _) fun type isType => ⟨?_, isType⟩
    simp
  · intro _
    refine Meets.imp (spells.pattern _) fun pattern isPattern => meets_of_forall fun colon _ => ?_
    refine Meets.imp (spells.type _ _) fun type isType => ⟨?_, isType⟩
    intro name isBinding
    apply isPattern
    cases shape : pattern.value with
    | binding other => simpa [shape] using isBinding
    | range | constant | verbatim | other => simp [shape] at isBinding

theorem argumentList_isArgumentList (spells : grammar.Spells) :
    grammar.argumentList.Meets input fun reading => IsArgumentList reading.value.1 := by
  refine Meets.loop (fun (value : List Argument × Forest) _ => IsArgumentList value.1)
    ⟨by simp, by simp⟩ ?_
  rintro ⟨arguments, variadic⟩ input (before : IsArgumentList arguments)
  simp only [checkReceiver, before, Bool.not_eq_eq_eq_not, Bool.not_true, List.any_eq_true,
    List.isEmpty_eq_false_iff, ne_eq, ite_not, meets_bind, meets_ite, meets_pure, implies_true,
    Bool.not_eq_true, meets_captured, Forest.append_nil, meets_true, true_and, meets_sees,
    Forest.nil_append, meets_upcoming]
  intro _
  refine meets_of_forall fun annotations _ => Meets.imp (argumentKind_isSpelled spells) ?_
  rintro ⟨kind, written, input⟩ spelled
  cases kind with
  | none => simp [before]
  | some kind =>
      by_cases mayFollow : isReceiver kind = true → arguments = []
      · have concat : ∀ hasComma,
            IsArgumentList (arguments ++ [⟨annotations.value, kind, hasComma⟩]) := by
          intro hasComma
          refine before.concat mayFollow ?_
          rintro typed rfl
          exact spelled typed rfl
        simp [concat]
      · simp [Classical.not_imp.mp mayFollow]

theorem signature_isArgumentList (spells : grammar.Spells) (allowsSafe : Bool) :
    (grammar.signature allowsSafe).Meets input fun reading =>
      IsArgumentList reading.value.arguments := by
  simp only [signature, meets_bind]
  refine meets_of_forall fun head => meets_of_forall fun name => meets_of_forall fun generics => ?_
  simp only [meets_silently, meets_enclosedThen]
  intro content rest isNext
  refine Meets.imp (argumentList_isArgumentList spells) ?_
  intro arguments isArgumentList
  simp [isArgumentList]

theorem implementationItem_isProper (spells : grammar.Spells) :
    grammar.implementationItem.Meets input fun reading => reading.value.IsProper := by
  simp only [implementationItem, meets_bind, meets_upcoming, meets_ite]
  refine meets_of_forall fun annotations => meets_of_forall fun visible =>
    meets_of_forall fun default => ⟨fun _ => ?_, fun _ => by simp [ImplementationItem.IsProper]⟩
  refine Meets.imp (signature_isArgumentList spells false) ?_
  intro signature isArgumentList
  simp [ImplementationItem.IsProper, isArgumentList]

theorem implementation_isProper (spells : grammar.Spells) (allowsUnusual : Bool) :
    (grammar.implementation allowsUnusual).Meets input fun reading =>
      ∀ implementation, reading.value = some implementation →
        ∀ item ∈ implementation.items, item.IsProper := by
  simp only [implementation, meets_bind, meets_upcoming, meets_ite]
  refine meets_of_forall fun annotations => meets_of_forall fun visible =>
    meets_of_forall fun head => ⟨fun _ => ?_, fun _ => ?_⟩
  -- With generic parameters and without it goes on in the same way.
  all_goals
    simp only [meets_silently, meets_enclosed, meets_bind]
    refine meets_of_forall fun generics => meets_of_forall fun constant =>
      meets_of_forall fun subject => meets_of_forall fun conditions => ?_
    intro content rest isNext
    refine meets_of_forall fun inner => Meets.imp
      (Meets.listWhile fun input => implementationItem_isProper spells) ?_
    intro items areProper
    simpa using fun _ _ _ => areProper

end Grammar

end BeanContainer.Source
