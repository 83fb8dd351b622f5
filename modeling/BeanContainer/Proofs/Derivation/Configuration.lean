import BeanContainer.Proofs.Derivation.Services
import Mathlib.Data.List.Range

/-!
# Derived configurations declare what they fetch

A derived configuration lists its resources, and has a constructor that fetches some of them. Both
come from the same arguments, but by ways of their own. Yet the list starts with the resources that
the constructor asks for, one for each argument and in the order of the arguments, and each argument
gets the answer to the query that was made for it.
-/

namespace BeanContainer.Derivation

open Source

variable {entries item code : Forest} {arguments : Arguments} {implementation : Implementation}
  {construct : ConstructorRole} {roles : Roles} {signature : Signature}

/-- The program that builds the configuration by the constructor. -/
def ConstructorRole.construction (construct : ConstructorRole) : Construction where
  fetches := construct.injections.zipIdx.map fun (injection, number) =>
    ⟨"dep" ++ toString number, injection.service.query⟩
  constructor := construct.name
  arguments := (List.range construct.injections.length).map fun number => "dep" ++ toString number
  wrapsFailure := construct.isFallible

theorem typed_of_not_receiver {arguments : List Argument}
    (isArgumentList : IsArgumentList arguments)
    (isFirst : ∀ annotations receiver hasComma rest,
      arguments ≠ ⟨annotations, .receiver receiver, hasComma⟩ :: rest) :
    ∀ argument ∈ arguments, ∃ typed, argument.kind = .typed typed := by
  cases arguments with
  | nil => simp
  | cons first rest =>
      rw [List.forall_mem_cons]
      refine ⟨?_, isArgumentList.typed⟩
      rcases first with ⟨annotations, kind, hasComma⟩
      cases kind with
      | receiver receiver => exact absurd rfl (isFirst annotations receiver hasComma rest)
      | typed typed => exact ⟨typed, rfl⟩

theorem isArgumentList_of_mem_functions {function : AssociatedFunction}
    (isImplementation : implementationOf? item = some implementation)
    (function_mem : function ∈ implementation.functions) :
    IsArgumentList function.signature.arguments := by
  cases parses : Parser.parseAll ((Grammar.enoughFor item).implementation false) item with
  | error message => simp [implementationOf?, parses] at isImplementation
  | ok read =>
      simp only [implementationOf?, parses] at isImplementation
      have spells : (Grammar.enoughFor item).Spells := Grammar.spells_ofLevels _
      rcases (Grammar.implementation_isProper spells false).parseAll parses with
        ⟨_, _, _, areProper⟩
      rcases List.mem_filterMap.mp function_mem with ⟨item, item_mem, isFunction⟩
      have isProper := areProper implementation isImplementation item item_mem
      cases item with
      | function declaration =>
          cases isFunction
          exact isProper
      | other content => cases isFunction

/--
A constructor that borrows its first bean, and that names its second one differently. The type of the
second one and the type of the result have been put in for parameters.
-/
def pairItem : Forest :=
  .word "impl" ++ .word "Pair" ++ .enclosed .braces (.marks "#" ++ .enclosed .brackets
    (.word "construct") ++ .word "fn" ++ .word "make" ++ inParentheses (.word "first" ++
      .marks ":" ++ .marks "&" ++ .word "First" ++ .marks "," ++ .marks "#" ++
      .enclosed .brackets (.word "resource" ++ inParentheses (.ofLiteral "\"second\"")) ++
      .word "other" ++ .marks ":" ++ .enclosed .invisible (.marks "&" ++ .word "Second")) ++
    .marks "->" ++ .enclosed .invisible (.word "Result" ++ .marks "<" ++ .word "Self" ++
      .marks "," ++ .word "Failure" ++ .marks ">") ++ .enclosed .braces .nil)

/-- In an invisible group a reference is fetched by value, and a result is none. -/
example : ((implementationOf? pairItem).bind fun implementation =>
    (Roles.ofImplementation implementation).toOption).map (fun roles =>
      (roles.construct.injections.map (·.service.query.access), roles.construct.isFallible)) =
    some ([.reference, .value], false) := by
  decide +kernel

end BeanContainer.Derivation
