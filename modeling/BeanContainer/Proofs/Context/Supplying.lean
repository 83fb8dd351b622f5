import BeanContainer.Proofs.Context.Loading
import BeanContainer.Scenario.Values

/-!
# Configurations that supply integers

The plainest configurations with something to do: their hooks succeed without looking at the
registry, and supply an integer under each of the declared names.
-/

namespace BeanContainer.Configuration

/-- Supplies an integer under each name in order, up to the first name that is refused. -/
def supplyAll : List String → Procedure Registration (Except ConfigurationError Unit × Unit)
  | [] => .done (.ok (), ())
  | name :: rest => .write (.supply name .i32 (.plain (.integer 0))) fun
    | .error error => .done (.error (.bean error), ())
    | .ok () => supplyAll rest

/-- The configuration that needs the resources and supplies the beans. -/
def supplying (name : String) (resources beans : List String) : Configuration Unit where
  name := name
  resources := resources.map fun resource => ⟨resource, none⟩
  beans := beans.map fun bean => ⟨bean, .supplied⟩
  dependencies := []
  construct := .done (.ok ())
  postInit _ := .done (.ok (), ())
  provide _ := supplyAll beans

@[simp]
theorem beanNames_supplying (name : String) (resources beans : List String) :
    (supplying name resources beans).beanNames = beans := by
  simp [supplying, beanNames, Function.comp_def]

/-- Distinct nonempty names that are free are all supplied, and nothing else is. -/
theorem perform_supplyAll {names : List String} {registry : Registry} (nodup : names.Nodup)
    (nonempty : ∀ name ∈ names, name ≠ "")
    (free : ∀ name ∈ names, registry.contains name = false) :
    ∃ after, (supplyAll names).perform registry = some ((.ok (), ()), after) ∧
      ∀ other, after.contains other = true ↔ registry.contains other = true ∨ other ∈ names := by
  induction names generalizing registry with
  | nil => exact ⟨registry, rfl, by simp⟩
  | cons name rest ih =>
      rw [List.nodup_cons] at nodup
      rw [List.forall_mem_cons] at nonempty free
      rcases Registry.supply_of_free .i32 (.plain (.integer 0)) nonempty.1 free.1 with
        ⟨supplied, accepted, names_iff⟩
      have freeStill : ∀ other ∈ rest, supplied.contains other = false := by
        intro other other_mem
        rw [Bool.eq_false_iff, Ne, names_iff, not_or]
        refine ⟨by simp [free.2 other other_mem], ?_⟩
        rintro rfl
        exact nodup.1 other_mem
      rcases ih nodup.2 nonempty.2 freeStill with ⟨after, performed, after_iff⟩
      refine ⟨after, ?_, ?_⟩
      · simpa [supplyAll, Procedure.perform, Procedure.run, Registration.apply, accepted] using
          performed
      · intro other
        rw [after_iff, names_iff, List.mem_cons, or_assoc]

end BeanContainer.Configuration
