import BeanContainer.Proofs.Derivation.Configuration
import BeanContainer.Proofs.Source.Running

/-!
# Which implementations are accepted

What an implementation has to be like for a configuration to be derived from it is a list of
requirements, most of them on the one function that constructs and on its arguments. An implementation
is accepted if it meets them all. Otherwise the failure is that of the first requirement in the list
which is not met, whatever else is wrong.

The roles are found in stages, and each stage settles a part of the list: it succeeds if that part is
met, and else fails with the first requirement in it that is not. Stages in a row settle the parts in
a row.
-/

namespace BeanContainer.Derivation

open Source

/-- The functions of the implementation that carry the marker. -/
def bearers (implementation : Implementation) (marker : Marker) : List AssociatedFunction :=
  implementation.functions.filter (·.annotations.any (·.isNamed marker.name))

/-- There is nothing but the literal of a text in the parentheses of the attribute. -/
def HoldsText (tag : Attribute) : Prop :=
  ∃ content literal, tag.form = .list content ∧ content.IsText literal

/--
The argument says which resource it stands for: by one attribute with a literal in it, or by a pattern
that is an identifier.
-/
structure NamesResource (argument : Argument) : Prop where
  atMostOne : (resourceTags argument.annotations).length ≤ 1
  holdsText : ∀ tag ∈ resourceTags argument.annotations, HoldsText tag
  named : ∀ typed, argument.kind = .typed typed → typed.binding = none →
    resourceTags argument.annotations ≠ []

/-- The function can be called on a value that it may change, with at most one argument besides. -/
structure IsHook (signature : Signature) : Prop where
  receives : ∃ first ∈ signature.arguments.head?, ∃ receiver, first.kind = .receiver receiver ∧
    receiver.isReference = true ∧ receiver.isMutable = true
  atMostOne : signature.arguments.length ≤ 2

/-- A configuration can be derived from the implementation. -/
structure IsConfigurable (implementation : Implementation) : Prop where
  inherent : implementation.trait = none
  constructs : ∃ function, bearers implementation .construct = [function] ∧
    (∀ argument ∈ function.signature.arguments, ∃ typed, argument.kind = .typed typed) ∧
    (∀ argument ∈ function.signature.arguments, NamesResource argument) ∧
    function.signature.result ≠ none
  hooks : ∀ marker ∈ [Marker.postInit, Marker.provideBeans],
    (bearers implementation marker).length ≤ 1 ∧
      ∀ function ∈ bearers implementation marker, IsHook function.signature

/-- What is required of an implementation, or of an argument of its constructor. -/
inductive Requirement where
  | inherent
  | unique (marker : Marker)
  | constructor
  | noReceiver
  | resource (argument : Argument)
  | result
  | hookReceiver (marker : Marker)
  | hookArguments (marker : Marker)

/--
What is wrong with the content of an attribute that should be a literal, in words. The literal is
looked for first, and then nothing else.
-/
def literalComplaint? (content : Forest) : Option String :=
  match content.bare with
  | .leaf (.literal text) rest =>
    if Literal.isText text then if rest.isBlank then none else some "unexpected token"
    else some "expected string literal"
  | _ =>
    if content.isEmpty then some "unexpected end of input, expected string literal"
    else some "expected string literal"

/-- What is wrong with the attribute as the name of a resource, in words. -/
def textComplaint? (tag : Attribute) : Option String :=
  match tag.form with
  | .bare => some "expected attribute arguments in parentheses: #[resource(...)]"
  | .value => some "expected parentheses: #[resource(...)]"
  | .list content => literalComplaint? content

/-- What is wrong with an argument that does not name one resource: its first attribute comes first. -/
def argumentRefusal (argument : Argument) : DerivationError :=
  match resourceTags argument.annotations with
  | [] => .namelessArgument
  | tag :: _ => (textComplaint? tag).elim .repeatedResource .resource

namespace Requirement

/-- The implementation is as it is required. -/
def IsMet (implementation : Implementation) : Requirement → Prop
  | inherent => implementation.trait = none
  | unique marker => (bearers implementation marker).length ≤ 1
  | constructor => bearers implementation .construct ≠ []
  | noReceiver => ∀ function ∈ bearers implementation .construct,
      ∀ argument ∈ function.signature.arguments, ∃ typed, argument.kind = .typed typed
  | resource argument => NamesResource argument
  | result => ∀ function ∈ bearers implementation .construct, function.signature.result ≠ none
  | hookReceiver marker => ∀ function ∈ bearers implementation marker,
      ∃ first ∈ function.signature.arguments.head?, ∃ receiver, first.kind = .receiver receiver ∧
        receiver.isReference = true ∧ receiver.isMutable = true
  | hookArguments marker => ∀ function ∈ bearers implementation marker,
      function.signature.arguments.length ≤ 2

/-- The failure if the requirement is not met. -/
def refusal : Requirement → DerivationError
  | inherent => .trait
  | unique marker => .repeatedMarker marker
  | constructor => .missingConstructor
  | noReceiver => .constructorReceiver
  | resource argument => argumentRefusal argument
  | result => .missingResult
  | hookReceiver marker => .hookReceiver marker
  | hookArguments marker => .hookArguments marker

end Requirement

/-- What is required of a hook. -/
def hookRequirements (marker : Marker) : List Requirement :=
  [.unique marker, .hookReceiver marker, .hookArguments marker]

/-- All requirements, in the order in which they are looked at. -/
def requirements (implementation : Implementation) : List Requirement :=
  [.inherent, .unique .construct, .constructor, .noReceiver] ++
    ((bearers implementation .construct).flatMap (·.signature.arguments)).map .resource ++
    [.result] ++ hookRequirements .postInit ++ hookRequirements .provideBeans

/-- The requirement is the first in the list that is not met. -/
def IsFirstUnmet (implementation : Implementation) (required : List Requirement)
    (unmet : Requirement) : Prop :=
  ∃ before after, required = before ++ unmet :: after ∧
    (∀ other ∈ before, other.IsMet implementation) ∧ ¬unmet.IsMet implementation

/-- A success shows that all is met, and a failure tells the first requirement that is not. -/
def Settles {α : Type} (implementation : Implementation) (required : List Requirement) :
    Except DerivationError α → Prop
  | .ok _ => ∀ requirement ∈ required, requirement.IsMet implementation
  | .error error => ∃ unmet, IsFirstUnmet implementation required unmet ∧ unmet.refusal = error

variable {item : Forest} {implementation : Implementation} {marker : Marker}
  {required further : List Requirement} {requirement : Requirement} {α β : Type}

theorem IsFirstUnmet.unique {unmet other : Requirement}
    (isUnmet : IsFirstUnmet implementation required unmet)
    (isOther : IsFirstUnmet implementation required other) : unmet = other := by
  rcases isUnmet with ⟨before, after, rfl, met, notMet⟩
  rcases isOther with ⟨otherBefore, otherAfter, same, otherMet, otherNotMet⟩
  rcases List.append_eq_append_iff.mp same with ⟨between, isBefore, isRest⟩ | ⟨between, isBefore, isRest⟩
  · cases between with
    | nil => exact (List.cons.inj isRest).1
    | cons first between =>
        cases isRest
        exact absurd (otherMet unmet (by simp [isBefore])) notMet
  · cases between with
    | nil => exact (List.cons.inj isRest).1.symm
    | cons first between =>
        cases isRest
        exact absurd (met other (by simp [isBefore])) otherNotMet

namespace Settles

theorem nil (value : α) : Settles implementation [] (.ok value) := by
  simp [Settles]

theorem cons {outcome : Except DerivationError α} (isMet : requirement.IsMet implementation)
    (settles : Settles implementation required outcome) :
    Settles implementation (requirement :: required) outcome := by
  cases outcome with
  | error error =>
      rcases settles with ⟨unmet, ⟨before, after, rfl, met, notMet⟩, isError⟩
      exact ⟨unmet, ⟨requirement :: before, after, rfl, by simpa [isMet] using met, notMet⟩, isError⟩
  | ok value => exact List.forall_mem_cons.mpr ⟨isMet, settles⟩

theorem of_unmet (requirement : Requirement) (notMet : ¬requirement.IsMet implementation) :
    Settles (α := α) implementation (requirement :: required) (.error requirement.refusal) :=
  ⟨requirement, ⟨[], required, rfl, by simp, notMet⟩, rfl⟩

/-- A stage whose failures are those of the whole settles the front of what the whole settles. -/
theorem stage {outcome : Except DerivationError α} {whole : Except DerivationError β}
    (settles : Settles implementation required outcome)
    (fails : ∀ error, outcome = .error error → whole = .error error)
    (goesOn : ∀ value, outcome = .ok value → Settles implementation further whole) :
    Settles implementation (required ++ further) whole := by
  cases outcome with
  | error error =>
      rcases settles with ⟨unmet, ⟨before, after, rfl, met, notMet⟩, isError⟩
      rw [fails error rfl]
      exact ⟨unmet, ⟨before, after ++ further, by simp, met, notMet⟩, isError⟩
  | ok value =>
      have settlesRest := goesOn value rfl
      clear goesOn fails
      induction required with
      | nil => exact settlesRest
      | cons requirement required ih =>
          rcases List.forall_mem_cons.mp settles with ⟨isMet, settles⟩
          exact (ih settles).cons isMet

theorem map {outcome : Except DerivationError α} (settles : Settles implementation required outcome)
    (change : α → β) : Settles implementation required (outcome.map change) := by
  cases outcome with
  | error error => exact settles
  | ok value => exact settles

end Settles

theorem parseAll_textLiteral_cases (content : Forest) :
    (literalComplaint? content = none ∧
      ∃ literal, Parser.parseAll Parser.textLiteral content = .ok literal) ∨
    ∃ message, literalComplaint? content = some message ∧
      Parser.parseAll Parser.textLiteral content = .error message := by
  unfold literalComplaint?
  split
  · rename_i text rest isNext
    cases isText : Literal.isText text with
    | true =>
        have reads : Parser.textLiteral ⟨content, none⟩ = _ := Parser.run_textLiteral isText isNext
        cases isBlank : rest.isBlank with
        | true => exact .inl ⟨rfl, text, by simp [Parser.parseAll, reads, isBlank]⟩
        | false => exact .inr ⟨_, rfl, by simp [Parser.parseAll, reads, isBlank]⟩
    | false =>
        have refuses : Parser.textLiteral ⟨content, none⟩ = .error "expected string literal" := by
          simp only [Parser.textLiteral, Parser.run_bind, Parser.run_upcoming, isNext, isText,
            Bool.false_eq_true, if_false, Parser.run_failHere, Forest.isEmpty_of_bare_leaf isNext]
        exact .inr ⟨_, rfl, by simp [Parser.parseAll, refuses]⟩
  · rename_i notLiteral
    have refuses : Parser.textLiteral ⟨content, none⟩ = .error (if content.isEmpty then
        "unexpected end of input, expected string literal" else "expected string literal") := by
      simp only [Parser.textLiteral, Parser.run_bind, Parser.run_upcoming]
      generalize content.bare = next at notLiteral ⊢
      cases next with
      | leaf token rest =>
          cases token with
          | literal text => exact absurd rfl (notLiteral text rest)
          | identifier | mark => rfl
      | nil | group | tagged | expression => rfl
    refine .inr ⟨_, (apply_ite some _ _ _).symm, ?_⟩
    simp [Parser.parseAll, refuses]

theorem textComplaint?_eq_none_iff {tag : Attribute} :
    textComplaint? tag = none ↔ HoldsText tag := by
  cases form : tag.form with
  | bare | value => simp [textComplaint?, HoldsText, form]
  | list content =>
      simp only [textComplaint?, HoldsText, form, AttributeForm.list.injEq, exists_and_left,
        exists_eq_left', ← parseAll_textLiteral_iff]
      rcases parseAll_textLiteral_cases content with
        ⟨fine, literal, parses⟩ | ⟨message, complaint, parses⟩
      · simp [fine, parses]
      · simp [complaint, parses]

theorem resourceOf_cases (tag : Attribute) :
    (textComplaint? tag = none ∧ ∃ literal, resourceOf tag = .ok literal) ∨
      ∃ message, textComplaint? tag = some message ∧ resourceOf tag = .error (.resource message) := by
  cases form : tag.form with
  | bare => exact Or.inr ⟨_, by rw [textComplaint?, form], by rw [resourceOf, form]⟩
  | value => exact Or.inr ⟨_, by rw [textComplaint?, form], by rw [resourceOf, form]⟩
  | list content =>
      rcases parseAll_textLiteral_cases content with
        ⟨fine, literal, parses⟩ | ⟨message, complaint, parses⟩
      · exact Or.inl ⟨by simp [textComplaint?, form, fine], literal,
          by simp [resourceOf, form, parses, Except.mapError]⟩
      · exact Or.inr ⟨message, by simp [textComplaint?, form, complaint],
          by simp [resourceOf, form, parses, Except.mapError]⟩

theorem resourceAmong_some_eq (first : String) (annotations : List Attribute) :
    resourceAmong (some first) annotations =
      if resourceTags annotations = [] then .ok (some first) else .error .repeatedResource := by
  induction annotations with
  | nil => rfl
  | cons tag rest ih =>
      by_cases isNamed : tag.isNamed Marker.resource.name = true
      · simp [resourceAmong, resourceTags, isNamed]
      · simpa [resourceAmong, resourceTags, isNamed] using ih

theorem resourceAmong_none_eq (annotations : List Attribute) :
    resourceAmong none annotations =
      match resourceTags annotations with
      | [] => .ok none
      | tag :: others => (resourceOf tag).bind fun resource =>
        if others = [] then .ok (some resource) else .error .repeatedResource := by
  induction annotations with
  | nil => rfl
  | cons tag rest ih =>
      by_cases isNamed : tag.isNamed Marker.resource.name = true
      · have tags : resourceTags (tag :: rest) = tag :: resourceTags rest := by
          simp [resourceTags, isNamed]
        simp only [resourceAmong, isNamed, if_true, tags]
        cases resourceOf tag with
        | error error => rfl
        | ok resource => exact resourceAmong_some_eq resource rest
      · have tags : resourceTags (tag :: rest) = resourceTags rest := by
          simp [resourceTags, isNamed]
        rw [tags, ← ih]
        simp [resourceAmong, isNamed]

/-- An argument is refused exactly if it does not name one resource. -/
theorem settles_ofArgument (annotations : List Attribute) (typed : TypedArgument)
    (hasComma : Bool) :
    Settles implementation [.resource ⟨annotations, .typed typed, hasComma⟩]
      (Injection.ofArgument annotations typed) := by
  have names := resourceAmong_none_eq annotations
  cases tags : resourceTags annotations with
  | nil =>
      rw [tags] at names
      cases isBound : typed.binding with
      | some name =>
          simp only [Injection.ofArgument, names, isBound]
          refine Settles.cons ?_ (.nil _)
          exact ⟨by simp [tags], by simp [tags], by simp [isBound]⟩
      | none =>
          have refusal : (Requirement.resource ⟨annotations, .typed typed, hasComma⟩).refusal =
              .namelessArgument := by
            simp [Requirement.refusal, argumentRefusal, tags]
          simp only [Injection.ofArgument, names, isBound, ← refusal]
          apply Settles.of_unmet (.resource ⟨annotations, .typed typed, hasComma⟩)
          intro namesResource
          exact namesResource.named typed rfl isBound tags
  | cons tag others =>
      rw [tags] at names
      have tag_mem : tag ∈ resourceTags annotations := by simp [tags]
      rcases resourceOf_cases tag with ⟨fine, literal, gives⟩ | ⟨message, complaint, refuses⟩
      · by_cases single : others = []
        · subst single
          simp only [Injection.ofArgument, names, gives, Except.bind, if_true]
          refine Settles.cons ?_ (.nil _)
          refine ⟨by simp [tags], fun other other_mem => ?_, by simp [tags]⟩
          rw [tags, List.mem_singleton] at other_mem
          rwa [other_mem, ← textComplaint?_eq_none_iff]
        · have refusal : (Requirement.resource ⟨annotations, .typed typed, hasComma⟩).refusal =
              .repeatedResource := by
            simp [Requirement.refusal, argumentRefusal, tags, fine]
          simp only [Injection.ofArgument, names, gives, Except.bind, single, if_false, ← refusal]
          apply Settles.of_unmet (.resource ⟨annotations, .typed typed, hasComma⟩)
          intro namesResource
          have atMostOne := namesResource.atMostOne
          simp [tags, single] at atMostOne
      · have refusal : (Requirement.resource ⟨annotations, .typed typed, hasComma⟩).refusal =
            .resource message := by
          simp [Requirement.refusal, argumentRefusal, tags, complaint]
        simp only [Injection.ofArgument, names, refuses, Except.bind, ← refusal]
        apply Settles.of_unmet (.resource ⟨annotations, .typed typed, hasComma⟩)
        intro namesResource
        have holds := textComplaint?_eq_none_iff.mpr (namesResource.holdsText tag tag_mem)
        simp [complaint] at holds

theorem settles_ofArguments {arguments : List Argument}
    (typed : ∀ argument ∈ arguments, ∃ typed, argument.kind = .typed typed) :
    Settles implementation (arguments.map .resource) (Injection.ofArguments arguments) := by
  induction arguments with
  | nil => simp [Injection.ofArguments, Settles]
  | cons argument rest ih =>
      rcases argument with ⟨annotations, kind, hasComma⟩
      rw [List.forall_mem_cons] at typed
      rcases typed with ⟨⟨argument, rfl⟩, typedRest⟩
      rw [List.map_cons, ← List.singleton_append]
      apply (settles_ofArgument annotations argument hasComma).stage
      · intro error refuses
        simp [Injection.ofArguments, refuses]
      · intro injection accepts
        simpa [Injection.ofArguments, accepts] using (ih typedRest).map (injection :: ·)

/-- All that is known of a marker, if it was looked for without a failure. -/
theorem bearers_of_marked? {outcome : Option Signature}
    (isMarked : marked? implementation.functions marker = .ok outcome) :
    (outcome = none ∧ bearers implementation marker = []) ∨
      ∃ function, outcome = some function.signature ∧
        bearers implementation marker = [function] := by
  unfold marked? at isMarked
  split at isMarked
  · rename_i none
    cases isMarked
    exact Or.inl ⟨rfl, none⟩
  · rename_i function only
    cases isMarked
    exact Or.inr ⟨function, rfl, only⟩
  · cases isMarked

theorem settles_marked? (implementation : Implementation) (marker : Marker) :
    Settles implementation [.unique marker] (marked? implementation.functions marker) := by
  unfold marked?
  split
  · rename_i none
    have bearersEq : bearers implementation marker = [] := none
    exact Settles.cons (by simp [Requirement.IsMet, bearersEq]) (.nil _)
  · rename_i function only
    have bearersEq : bearers implementation marker = [function] := only
    exact Settles.cons (by simp [Requirement.IsMet, bearersEq]) (.nil _)
  · rename_i notNone notSingle
    apply Settles.of_unmet (.unique marker)
    intro isMet
    have few : (bearers implementation marker).length ≤ 1 := isMet
    cases isList : bearers implementation marker with
    | nil => exact notNone isList
    | cons function others =>
        cases others with
        | nil => exact notSingle function isList
        | cons other others => simp [isList] at few

/-- A hook is refused for its receiver first, and then for its arguments. -/
theorem settles_hookRole {function : AssociatedFunction}
    (only : bearers implementation marker = [function]) :
    Settles implementation [.hookReceiver marker, .hookArguments marker]
      (HookRole.ofSignature marker function.signature) := by
  unfold HookRole.ofSignature
  split
  · rename_i annotations receiver hasComma others isList
    by_cases mutable : (receiver.isReference && receiver.isMutable) = true
    · rw [if_pos mutable]
      refine Settles.cons (by simpa [Requirement.IsMet, only, isList] using mutable) ?_
      cases others with
      | nil => exact Settles.cons (by simp [Requirement.IsMet, only, isList]) (.nil _)
      | cons first others =>
          cases others with
          | nil => exact Settles.cons (by simp [Requirement.IsMet, only, isList]) (.nil _)
          | cons second others =>
              apply Settles.of_unmet (.hookArguments marker)
              simp [Requirement.IsMet, only, isList]
    · rw [if_neg mutable]
      apply Settles.of_unmet (.hookReceiver marker)
      simpa [Requirement.IsMet, only, isList] using mutable
  · rename_i noReceiver
    apply Settles.of_unmet (.hookReceiver marker)
    intro isMet
    rcases isMet function (by simp [only]) with ⟨first, isFirst, receiver, isReceiver, _⟩
    rcases List.head?_eq_some_iff.mp isFirst with ⟨others, isList⟩
    rcases first with ⟨annotations, kind, hasComma⟩
    cases isReceiver
    exact noReceiver annotations receiver hasComma others isList

theorem settles_hook? (implementation : Implementation) (marker : Marker) :
    Settles implementation (hookRequirements marker) (hook? implementation.functions marker) := by
  rw [hookRequirements, ← List.singleton_append]
  apply (settles_marked? implementation marker).stage
  · intro error refuses
    simp [hook?, refuses]
  · intro outcome isMarked
    rcases bearers_of_marked? isMarked with ⟨rfl, none⟩ | ⟨function, rfl, only⟩
    · simp [hook?, isMarked, Settles, Requirement.IsMet, none]
    · simpa [hook?, isMarked] using (settles_hookRole only).map some

/-- A constructor is refused for a receiver first, then for its arguments, and then for its result. -/
theorem settles_constructorRole {function : AssociatedFunction}
    (isArgumentList : IsArgumentList function.signature.arguments)
    (only : bearers implementation .construct = [function]) :
    Settles implementation
      ([.noReceiver] ++ (function.signature.arguments.map .resource ++ [.result]))
      (ConstructorRole.ofSignature function.signature) := by
  simp only [ConstructorRole.ofSignature]
  split
  · rename_i annotations receiver hasComma others isList
    rw [if_pos rfl]
    apply Settles.of_unmet .noReceiver
    intro isMet
    rcases isMet function (by simp [only]) _ (by rw [isList]; exact List.mem_cons_self) with
      ⟨typed, isTyped⟩
    cases isTyped
  · rename_i noReceiver
    have typed := typed_of_not_receiver isArgumentList noReceiver
    rw [if_neg Bool.false_ne_true]
    refine Settles.cons (by simpa [Requirement.IsMet, only] using typed) ?_
    apply (settles_ofArguments typed).stage
    · intro error refuses
      simp [refuses]
    · intro injections accepts
      simp only [accepts]
      cases hasResult : function.signature.result with
      | none =>
          apply Settles.of_unmet .result
          simp [Requirement.IsMet, only, hasResult]
      | some result => exact Settles.cons (by simp [Requirement.IsMet, only, hasResult]) (.nil _)

theorem settles_roles (isImplementation : implementationOf? item = some implementation) :
    Settles implementation (requirements implementation)
      (Roles.ofImplementation implementation) := by
  have order : requirements implementation =
      .inherent :: ([.unique .construct] ++ (.constructor :: ([.noReceiver] ++
        (((bearers implementation .construct).flatMap (·.signature.arguments)).map .resource ++
          [.result])) ++
        (hookRequirements .postInit ++ hookRequirements .provideBeans))) := by
    simp [requirements]
  rw [order]
  simp only [Roles.ofImplementation]
  by_cases inherent : implementation.trait = none
  · have isMet : Requirement.inherent.IsMet implementation := inherent
    rw [if_neg (by simp [inherent])]
    refine Settles.cons isMet ?_
    apply (settles_marked? implementation .construct).stage
    · intro error refuses
      simp [refuses]
    intro outcome isMarked
    rcases bearers_of_marked? isMarked with ⟨rfl, none⟩ | ⟨function, rfl, only⟩
    · simp only [isMarked]
      apply Settles.of_unmet .constructor
      simp [Requirement.IsMet, none]
    have function_mem : function ∈ implementation.functions := by
      apply List.mem_of_mem_filter
      change function ∈ bearers implementation .construct
      simp [only]
    have isArgumentList := isArgumentList_of_mem_functions isImplementation function_mem
    have isArguments : (bearers implementation .construct).flatMap (·.signature.arguments) =
        function.signature.arguments := by
      simp [only]
    simp only [isMarked, isArguments]
    refine Settles.cons (by simp [Requirement.IsMet, only]) ?_
    apply (settles_constructorRole isArgumentList only).stage
    · intro error refuses
      simp [refuses]
    intro construct isConstruct
    simp only [isConstruct]
    apply (settles_hook? implementation .postInit).stage
    · intro error refuses
      simp [refuses]
    intro postInit isPostInit
    simp only [isPostInit]
    rw [← List.append_nil (hookRequirements .provideBeans)]
    apply (settles_hook? implementation .provideBeans).stage
    · intro error refuses
      simp [refuses]
    intro provideBeans isProvideBeans
    simp only [isProvideBeans]
    exact .nil _
  · have isUnmet : ¬Requirement.inherent.IsMet implementation := inherent
    rw [if_pos (by simpa [Option.isSome_iff_ne_none] using inherent)]
    exact Settles.of_unmet .inherent isUnmet

theorem forall_hookRequirements_iff :
    (∀ requirement ∈ hookRequirements marker, requirement.IsMet implementation) ↔
      (bearers implementation marker).length ≤ 1 ∧
        ∀ function ∈ bearers implementation marker, IsHook function.signature := by
  simp only [hookRequirements, List.forall_mem_cons, List.not_mem_nil, false_implies, implies_true,
    and_true, Requirement.IsMet]
  refine and_congr_right fun _ => ⟨?_, ?_⟩
  · rintro ⟨receives, atMostOne⟩ function function_mem
    exact ⟨receives function function_mem, atMostOne function function_mem⟩
  · intro areHooks
    exact ⟨fun function function_mem => (areHooks function function_mem).receives,
      fun function function_mem => (areHooks function function_mem).atMostOne⟩

theorem isConfigurable_iff :
    IsConfigurable implementation ↔
      ∀ requirement ∈ requirements implementation, requirement.IsMet implementation := by
  simp only [requirements, List.forall_mem_append, forall_hookRequirements_iff]
  constructor
  · rintro ⟨inherent, ⟨function, only, typed, named, hasResult⟩, hooks⟩
    refine ⟨⟨⟨⟨?_, ?_⟩, ?_⟩, hooks .postInit (by simp)⟩, hooks .provideBeans (by simp)⟩
    · simpa [Requirement.IsMet, only, inherent] using typed
    · simpa [Requirement.IsMet, only] using named
    · simpa [Requirement.IsMet, only] using hasResult
  · rintro ⟨⟨⟨⟨first, named⟩, result⟩, postInit⟩, provideBeans⟩
    simp only [List.forall_mem_cons, List.not_mem_nil, false_implies, implies_true, and_true,
      Requirement.IsMet] at first result
    rcases first with ⟨inherent, unique, exists_constructor, typed⟩
    refine ⟨inherent, ?_, by simpa using ⟨postInit, provideBeans⟩⟩
    rcases List.exists_cons_of_ne_nil exists_constructor with ⟨function, others, isList⟩
    have none : others = [] := by simpa [isList] using unique
    subst none
    refine ⟨function, isList, typed function (by simp [isList]), ?_, result function (by simp [isList])⟩
    simpa [Requirement.IsMet, isList] using named

/--
An implementation is accepted exactly if a configuration can be derived from it as is said of such
ones. If it is not, then the failure is that of the first of the requirements that is not met.
-/
theorem expand_accepts_configurable (isImplementation : implementationOf? item = some implementation)
    (arguments : Arguments) :
    ((∃ code, expand arguments implementation = .ok code) ↔ IsConfigurable implementation) ∧
      ∀ error, expand arguments implementation = .error error ↔
        ∃ unmet, IsFirstUnmet implementation (requirements implementation) unmet ∧
          unmet.refusal = error := by
  have settles := settles_roles isImplementation
  rw [isConfigurable_iff]
  cases isRoles : Roles.ofImplementation implementation with
  | ok roles =>
      rw [isRoles] at settles
      have allMet : ∀ requirement ∈ requirements implementation,
          requirement.IsMet implementation := settles
      refine ⟨by simpa [expand, isRoles, Except.map] using allMet, fun error => ?_⟩
      simp only [expand, isRoles, Except.map, reduceCtorEq, false_iff]
      rintro ⟨unmet, ⟨before, after, isList, _, notMet⟩, _⟩
      exact notMet (allMet unmet (by simp [isList]))
  | error refusal =>
      rw [isRoles] at settles
      rcases settles with ⟨unmet, isFirst, rfl⟩
      refine ⟨?_, fun error => ?_⟩
      · simp only [expand, isRoles, Except.map, reduceCtorEq, exists_false, false_iff]
        intro allMet
        rcases isFirst with ⟨before, after, isList, _, notMet⟩
        exact notMet (allMet unmet (by simp [isList]))
      · simp only [expand, isRoles, Except.map, Except.error.injEq]
        constructor
        · rintro rfl
          exact ⟨unmet, isFirst, rfl⟩
        · rintro ⟨other, isOther, rfl⟩
          rw [isFirst.unique isOther]

/-- A function in an implementation, with a word as its attribute and no result. -/
def plainFunction (marker name : String) (arguments : Forest) : Forest :=
  .marks "#" ++ .enclosed .brackets (.word marker) ++ .word "fn" ++ .word name ++
    inParentheses arguments ++ .enclosed .braces .nil

/-- Its constructor takes a pair apart and has no result, and it has two hooks of one kind. -/
def hastyItem : Forest :=
  .word "impl" ++ .word "Hasty" ++ .enclosed .braces (
    plainFunction "construct" "make" (.word "first" ++ .marks ":" ++ .word "First" ++ .marks "," ++
      inParentheses (.word "left" ++ .marks "," ++ .word "right") ++ .marks ":" ++ .word "Pair") ++
    plainFunction "post_init" "start" (.marks "&" ++ .word "self") ++
    plainFunction "post_init" "again" (.marks "&" ++ .word "mut" ++ .word "self"))

theorem expand_refuses_hasty :
    (∃ implementation, implementationOf? hastyItem = some implementation ∧
      expand {} implementation = .error .namelessArgument ∧
      (∃ unmet, IsFirstUnmet implementation (requirements implementation) unmet ∧
        unmet.refusal = .namelessArgument) ∧ ¬IsConfigurable implementation) ∧
    ∃ implementation, implementationOf? pairItem = some implementation ∧
      (∃ code, expand {} implementation = .ok code) ∧ IsConfigurable implementation := by
  have outcomes : ((implementationOf? hastyItem).any fun implementation =>
        match expand {} implementation with
        | .error error => error == .namelessArgument
        | .ok _ => false) = true ∧
      ((implementationOf? pairItem).any fun implementation =>
        (expand {} implementation).isOk) = true := by
    decide +kernel
  rw [Option.any_eq_true, Option.any_eq_true] at outcomes
  rcases outcomes with ⟨⟨hasty, isHasty, refuses⟩, ⟨pair, isPair, accepts⟩⟩
  have refuses : expand {} hasty = .error .namelessArgument := by
    cases expands : expand {} hasty with
    | error error => simpa [expands] using refuses
    | ok code => simp [expands] at refuses
  have accepts : ∃ code, expand {} pair = .ok code := by
    cases expands : expand {} pair with
    | error error => simp [expands, Except.isOk, Except.toBool] at accepts
    | ok code => exact ⟨code, rfl⟩
  have hastyIs := expand_accepts_configurable isHasty {}
  have pairIs := expand_accepts_configurable isPair {}
  refine ⟨⟨hasty, isHasty, refuses, (hastyIs.2 _).mp refuses, fun isConfigurable => ?_⟩,
    pair, isPair, accepts, pairIs.1.mp accepts⟩
  rcases hastyIs.1.mpr isConfigurable with ⟨code, expands⟩
  simp [refuses] at expands

end BeanContainer.Derivation
