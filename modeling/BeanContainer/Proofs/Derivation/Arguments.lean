import BeanContainer.Derivation.Arguments
import BeanContainer.Proofs.Source.Opening
import BeanContainer.Proofs.Source.Running

/-!
# Resources among the arguments

The resources of the arguments of a derivation, told from the tokens alone: the literals in the
parentheses after each word for them, in the order in which they are written. Invisible brackets
around entries and literals make no difference.
-/

namespace BeanContainer

open Source Source.Parser

/-- The literals among the trees of the forest. -/
def Source.Forest.literals : Forest → List String
  | .nil => []
  | .leaf (.literal text) rest => text :: rest.literals
  | .leaf _ rest | .group _ _ rest | .tagged _ _ rest | .expression _ _ rest => rest.literals

namespace Derivation

def Entry.given : Entry → List String
  | .resources literals => literals
  | _ => []

theorem equals_eq : "=" = '='.toString := by
  decide

variable {grammar : Grammar} {input : Input}

namespace Entry

/-- A path that is one identifier has been read as that identifier. -/
theorem path_meets : path.Meets input fun reading =>
    ∀ name, reading.value = some name →
      input.rest.bare = .leaf (.identifier name) reading.input.rest := by
  simp only [path, Bool.and_eq_true, Bool.not_eq_eq_eq_not, Bool.not_true, ne_eq, decide_not,
    Bool.or_eq_true, decide_eq_false_iff_not, meets_bind, meets_ite, meets_pure,
    Option.ite_none_left_eq_some, not_or, Bool.not_eq_true, Decidable.not_not, Option.some.injEq,
    and_imp, forall_apply_eq_imp_iff₂, meets_anyIdentifier, meets_fail, implies_true,
    Bool.not_eq_false, true_and, not_and, meets_failHere, meets_upcoming, meets_optionalMarks,
    Bool.true_eq_false, false_implies, meets_true, forall_const]
  intro _ _ _ _ name rest isNext
  have stays : ∀ input : Input, input.rest = rest → (loop (fun segments => do
      if ← optionalMarks "::" then
        discard anyIdentifier
        return (true, segments + 1)
      else return (false, segments)) 1).Meets input fun reading =>
        1 ≤ reading.value ∧ (reading.value = 1 → reading.input.rest = rest) := by
    intro input isRest
    refine Meets.loop (fun segments input => 1 ≤ segments ∧ (segments = 1 → input.rest = rest))
      ⟨Nat.le_refl 1, fun _ => isRest⟩ ?_
    intro segments input before
    simp only [meets_bind, meets_ite, meets_optionalMarks, meets_discard, meets_pure]
    refine ⟨fun _ => ?_, fun _ => by simpa using before⟩
    have isPositive : segments ≠ 0 := by omega
    simp [isPositive]
  refine Meets.imp (stays _ rfl) ?_
  intro segments same isOne
  rw [isNext, same.2 isOne]

/-- The trees of a word and of the group behind it. -/
theorem opened_of_word_group {forest rest behind : Forest} {name : Identifier} {content : Forest}
    (isWord : forest.bare = .leaf (.identifier name) rest)
    (isGroup : rest.bare = .group .parentheses content behind) :
    forest.opened = .leaf (.identifier name) (.group .parentheses content behind.opened) := by
  rw [Forest.opened_of_bare_leaf isWord, Forest.opened_of_bare_group isGroup]

end Entry

end Derivation

end BeanContainer
