import BeanContainer.Proofs.Context.ClosedPart
import BeanContainer.Proofs.Context.CycleSearch
import Mathlib.Data.List.Permutation

/-!
# The trace of a cycle

The search ends on a path that comes back to one of its steps. What is reported is the part of that
path from the first visit of the step on: a closed walk of at least two steps, none of which but the
last is met twice. Each step names a resource that its configuration needs, and leads to the last
configuration that declares it. Equal names of configurations do not matter, since steps go by places.
-/

namespace BeanContainer

namespace Node

variable {nodes : List Node}

/-- The configuration at the place of the step needs its resource. -/
def IsStep (nodes : List Node) (step : Step) : Prop :=
  ∃ node, nodes[step.node]? = some node ∧ step.resource ∈ node.resources

/-- The text says which resource is needed by the configuration of which name. -/
def Tells (nodes : List Node) (text : String) (step : Step) : Prop :=
  ∃ node, nodes[step.node]? = some node ∧ step.resource ∈ node.resources ∧
    text = node.name ++ "::" ++ step.resource

/-- A closed walk of configurations, each of which needs a bean of the next one. -/
structure IsSimpleCycle (nodes : List Node) (cycle : List Step) : Prop where
  two_le_length : 2 ≤ cycle.length
  closes : cycle.head? = cycle.getLast?
  distinct : cycle.dropLast.Nodup
  linked : cycle.IsChain fun step next => IsSource nodes step.resource next.node

theorem isStep_of_mem_allSteps {step : Step} (step_mem : step ∈ allSteps nodes) :
    IsStep nodes step :=
  (mem_steps.mp (mem_allSteps.mp step_mem)).2

theorem isStep_of_mem_walk {walk : List Step} :
    ∀ {first : Step}, IsStep nodes first → (first :: walk).IsChain (Leads nodes) →
      ∀ step ∈ first :: walk, IsStep nodes step := by
  induction walk with
  | nil =>
      intro first isStep _ step step_mem
      rwa [List.mem_singleton.mp step_mem]
  | cons next walk ih =>
      intro first isStep linked step step_mem
      rw [List.isChain_cons_cons] at linked
      rcases List.mem_cons.mp step_mem with rfl | step_mem
      · exact isStep
      · exact ih (mem_steps.mp linked.1.2).2 linked.2 step step_mem

theorem tells_stepText {step : Step} (isStep : IsStep nodes step) :
    Tells nodes (stepText nodes step) step := by
  rcases isStep with ⟨node, found, resource_mem⟩
  exact ⟨node, found, resource_mem, by simp [stepText, found]⟩

/-- What the search finds is a closed walk that meets no step but the last one twice. -/
theorem findCycle?_isSimpleCycle {cycle : List Step} (found : findCycle? nodes = some cycle) :
    IsSimpleCycle nodes cycle ∧ ∀ step ∈ cycle, IsStep nodes step := by
  rcases findCycle?_cases nodes with
    ⟨none, _⟩ | ⟨first, first_mem, walk, closes, linked, distinct, last, isLast, repeated⟩
  · simp [none] at found
  · have areSteps := isStep_of_mem_walk (isStep_of_mem_allSteps first_mem) linked
    rcases List.getLast?_eq_some_iff.mp isLast with ⟨before, walk_eq⟩
    rw [walk_eq] at closes linked distinct repeated areSteps
    rw [List.dropLast_concat] at distinct repeated
    rcases exists_closedPart_eq repeated with ⟨lead, inner, rfl, closed⟩
    rw [closes, closed, Option.some.injEq] at found
    subst found
    -- The lead-in is cut off, and all that was said of the path holds of what is left.
    rw [List.append_assoc] at linked areSteps
    refine ⟨⟨by simp, List.getLast?_concat.symm, ?_, ?_⟩, ?_⟩
    · rw [List.dropLast_concat]
      exact (List.nodup_append.mp distinct).2.1
    · apply (List.isChain_append.mp linked).2.1.imp
      intro step next leads
      exact source?_eq_some_iff.mp leads.1
    · intro step step_mem
      exact areSteps step (List.mem_append_right lead step_mem)

/--
A trace that is found tells the steps of a closed walk in which each configuration needs a resource
of which the next one is the last declarer, and in which no step but the last is met twice.
-/
theorem cycleTrace?_tells_simple_cycle {trace : List String}
    (found : cycleTrace? nodes = some trace) :
    ∃ cycle, IsSimpleCycle nodes cycle ∧ List.Forall₂ (Tells nodes) trace cycle := by
  rw [cycleTrace?, Option.map_eq_some_iff] at found
  rcases found with ⟨cycle, found, rfl⟩
  rcases findCycle?_isSimpleCycle found with ⟨isSimpleCycle, areSteps⟩
  refine ⟨cycle, isSimpleCycle, ?_⟩
  rw [List.forall₂_map_left_iff, List.forall₂_same]
  intro step step_mem
  exact tells_stepText (areSteps step step_mem)

/-- Configurations of one name. The first one leads into the circle of the other two. -/
def namesakes : List Node :=
  [⟨"unit", ["far", "near"], ["near"]⟩, ⟨"unit", ["left", "left"], ["near", "right"]⟩,
    ⟨"unit", ["gone", "right"], ["left"]⟩]

theorem cycleTrace?_tells_namesakes :
    cycleTrace? namesakes = some ["unit::left", "unit::right", "unit::left"] ∧
      ∃ cycle, IsSimpleCycle namesakes cycle ∧
        List.Forall₂ (Tells namesakes) ["unit::left", "unit::right", "unit::left"] cycle := by
  have found : cycleTrace? namesakes = some ["unit::left", "unit::right", "unit::left"] := by
    cbv
  exact ⟨found, cycleTrace?_tells_simple_cycle found⟩

end Node

end BeanContainer
