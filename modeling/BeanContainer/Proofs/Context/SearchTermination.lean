import BeanContainer.Proofs.Context.CycleTrace
import Mathlib.Data.Finset.Card

/-!
# Termination of the search for cycles

The search keeps no record of what it has seen, and nothing stops it but a step met again on its
path. Here it is taken move by move and without a budget: the steps still to be tried at each depth
are kept beside the path. The path of every moment holds distinct steps, so it is never longer than
there are steps, and the search comes to an end. It ends as the search within the budget does.
-/

namespace BeanContainer.Node

variable {nodes : List Node}

/-- A moment of the search. -/
inductive Search where
  /-- The steps are to be tried on the path, and after each of its steps those left over before. -/
  | tries (steps : List Step) (outer : List (List Step)) (path : List Step)
  | closed (path : List Step)
  | exhausted

/-- The steps that a step leads on to. -/
def onward (nodes : List Node) (step : Step) : List Step :=
  match source? nodes step.resource with
  | none => []
  | some place => steps nodes place

namespace Search

/-- The next moment, if the search is not at its end. -/
def next? (nodes : List Node) : Search → Option Search
  | tries [] [] _ => some exhausted
  | tries [] (steps :: outer) path => some (tries steps outer path.dropLast)
  | tries (step :: steps) outer path =>
    if path.contains step then some (closed (path ++ [step]))
    else some (tries (onward nodes step) (steps :: outer) (path ++ [step]))
  | closed _ | exhausted => none

/-- The search before its first move. -/
def start (nodes : List Node) : Search :=
  tries (allSteps nodes) [] []

/-- The path as it is. -/
def path : Search → List Step
  | tries _ _ path | closed path => path
  | exhausted => []

/-- The path without the step that closed it. -/
def walked : Search → List Step
  | tries _ _ path => path
  | closed path => path.dropLast
  | exhausted => []

/-- The steps still to be tried, by depth. -/
def pending : Search → List (List Step)
  | tries steps outer _ => steps :: outer
  | closed _ | exhausted => []

/-- What the search has found. -/
def found? : Search → Option (List Step)
  | closed path => some (closedPart path)
  | tries _ _ _ | exhausted => none

/-- The search moves from one moment to a later one. -/
abbrev Reaches (nodes : List Node) : Search → Search → Prop :=
  Relation.ReflTransGen fun moment later => moment.next? nodes = some later

/-- The moment at which the search comes back with an answer to the steps left over. -/
def back (rest : List Step) (outer : List (List Step)) : Bool × List Step → Search
  | (true, path) => closed path
  | (false, path) => tries rest outer path

theorem back_anyStep {follow : Step → List Step → Bool × List Step} {outer : List (List Step)}
    {path : List Step} :
    ∀ {steps : List Step},
      (∀ step ∈ steps, ∀ after, follow step path = (false, after) → after = path) →
      (∀ step ∈ steps, ∀ rest,
        Reaches nodes (tries (step :: rest) outer path) (back rest outer (follow step path))) →
      Reaches nodes (tries steps outer path) (back [] outer (anyStep follow steps path)) := by
  intro steps restores reaches
  induction steps with
  | nil => exact .refl
  | cons step rest ih =>
      have first := reaches step List.mem_cons_self rest
      simp only [anyStep]
      cases tried : follow step path with
      | mk found after =>
          rw [tried] at first
          cases found with
          | true => exact first
          | false =>
              have same := restores step List.mem_cons_self after tried
              subst same
              apply first.trans
              apply ih
              · intro other other_mem
                exact restores other (List.mem_cons_of_mem step other_mem)
              · intro other other_mem
                exact reaches other (List.mem_cons_of_mem step other_mem)

end Search

open Search

theorem follow_succ (budget : Nat) (step : Step) (path : List Step) :
    follow nodes (budget + 1) step path =
      if path.contains step then (true, path ++ [step])
      else
        match anyStep (follow nodes budget) (onward nodes step) (path ++ [step]) with
        | (true, path) => (true, path)
        | (false, path) => (false, path.dropLast) := by
  unfold follow onward
  cases source? nodes step.resource with
  | none => rfl
  | some place => rfl

theorem onward_subset_allSteps (step : Step) : onward nodes step ⊆ allSteps nodes := by
  intro next next_mem
  unfold onward at next_mem
  split at next_mem
  · simp at next_mem
  · rw [mem_allSteps, (mem_steps.mp next_mem).1]
    exact next_mem

/--
Move by move the search from a step comes to what it comes to within the budget, and goes on with
the steps left over. The budget covers the steps that are not on the path.
-/
theorem reaches_back_follow {budget : Nat} {step : Step} {path : List Step} (nodup : path.Nodup)
    (known : path ⊆ allSteps nodes) (step_mem : step ∈ allSteps nodes)
    (enough : (allSteps nodes).length < budget + path.length) (rest : List Step)
    (outer : List (List Step)) :
    Reaches nodes (tries (step :: rest) outer path)
      (back rest outer (follow nodes budget step path)) := by
  induction budget generalizing step path rest outer with
  | zero =>
      have := length_path_le nodup known
      omega
  | succ budget ih =>
      rw [follow_succ]
      by_cases onPath : step ∈ path
      · apply Relation.ReflTransGen.single
        simp [next?, back, onPath]
      · have nodupOn : (path ++ [step]).Nodup := by simpa using nodup.concat onPath
        have knownOn : path ++ [step] ⊆ allSteps nodes := by
          simpa [List.append_subset] using ⟨known, step_mem⟩
        have enoughOn : (allSteps nodes).length < budget + (path ++ [step]).length := by
          simp only [List.length_append, List.length_singleton]
          omega
        have pushes : (tries (step :: rest) outer path).next? nodes =
            some (tries (onward nodes step) (rest :: outer) (path ++ [step])) := by
          simp [next?, onPath]
        have inside : Reaches nodes (tries (onward nodes step) (rest :: outer) (path ++ [step]))
            (back [] (rest :: outer)
              (anyStep (follow nodes budget) (onward nodes step) (path ++ [step]))) := by
          apply back_anyStep
          · intro next next_mem after tried
            have finds := finds_follow nodupOn knownOn (onward_subset_allSteps step next_mem)
              enoughOn
            rw [tried] at finds
            exact finds.1
          · intro next next_mem left
            exact ih nodupOn knownOn (onward_subset_allSteps step next_mem) enoughOn left _
        rw [if_neg (by simpa using onPath)]
        refine Relation.ReflTransGen.head pushes (inside.trans ?_)
        generalize anyStep (follow nodes budget) (onward nodes step) (path ++ [step]) = answer
        rcases answer with ⟨found, after⟩
        cases found with
        | true => exact .refl
        | false => exact .single rfl

/-- Only steps of configurations are walked, none of them twice, or still to be tried. -/
structure Search.IsProper (nodes : List Node) (moment : Search) : Prop where
  distinct : moment.walked.Nodup
  known : moment.walked ⊆ allSteps nodes
  pending : ∀ steps ∈ moment.pending, steps ⊆ allSteps nodes

theorem Search.IsProper.next {moment later : Search} (proper : moment.IsProper nodes)
    (moves : moment.next? nodes = some later) : later.IsProper nodes := by
  rcases proper with ⟨distinct, known, pending⟩
  cases moment with
  | closed path => cases moves
  | exhausted => cases moves
  | tries steps outer path =>
      rcases steps with _ | ⟨step, steps⟩
      · rcases outer with _ | ⟨steps, outer⟩
        · cases moves
          exact ⟨List.nodup_nil, by simp [walked], by simp [Search.pending]⟩
        · cases moves
          refine ⟨distinct.sublist (List.dropLast_sublist path), ?_, ?_⟩
          · exact fun other other_mem => known (List.mem_of_mem_dropLast other_mem)
          · exact fun others others_mem => pending others (List.mem_cons_of_mem _ others_mem)
      · simp only [Search.pending, List.forall_mem_cons, List.cons_subset] at pending
        simp only [next?] at moves
        split at moves
        · cases moves
          refine ⟨?_, ?_, by simp [Search.pending]⟩
          · simpa [walked] using distinct
          · simpa [walked] using known
        · next fresh =>
            cases moves
            simp only [List.contains_iff_mem] at fresh
            refine ⟨by simpa [walked] using distinct.concat fresh, ?_, ?_⟩
            · simpa [walked, List.append_subset] using ⟨known, pending.1.1⟩
            · simp only [Search.pending, List.forall_mem_cons]
              exact ⟨onward_subset_allSteps step, pending.1.2, pending.2⟩

theorem Search.isProper_start (nodes : List Node) : (start nodes).IsProper nodes :=
  ⟨List.nodup_nil, by simp [start, walked], by simp [start, Search.pending]⟩

theorem Search.Reaches.isProper {moment : Search} (reaches : Reaches nodes (start nodes) moment) :
    moment.IsProper nodes := by
  induction reaches with
  | refl => exact isProper_start nodes
  | tail _ moves ih => exact ih.next moves

theorem Search.IsProper.length_walked_le {moment : Search} (proper : moment.IsProper nodes) :
    moment.walked.length ≤ (allSteps nodes).toFinset.card := by
  rw [← List.toFinset_card_of_nodup proper.distinct]
  apply Finset.card_le_card
  intro step step_mem
  exact List.mem_toFinset.mpr (proper.known (List.mem_toFinset.mp step_mem))

theorem Search.length_path_le_walked (moment : Search) :
    moment.path.length ≤ moment.walked.length + 1 := by
  cases moment with
  | tries steps outer path => exact Nat.le_succ _
  | closed path => simp only [Search.path, walked, List.length_dropLast]; omega
  | exhausted => exact Nat.zero_le _

/-- The moves from a moment that leads to an end of the search come to that end. -/
theorem Search.Reaches.acc {moment finish : Search} (reaches : Reaches nodes moment finish)
    (ends : finish.next? nodes = none) :
    Acc (fun later moment => moment.next? nodes = some later) moment := by
  induction reaches using Relation.ReflTransGen.head_induction_on with
  | refl =>
      apply Acc.intro
      intro later moves
      simp [ends] at moves
  | head moves _ ih =>
      apply Acc.intro
      intro later others
      rw [moves, Option.some.injEq] at others
      rwa [← others]

theorem reaches_found (nodes : List Node) :
    ∃ finish, Reaches nodes (start nodes) finish ∧ finish.next? nodes = none ∧
      finish.found? = findCycle? nodes := by
  have reaches : Reaches nodes (start nodes) (back [] []
      (anyStep (follow nodes ((allSteps nodes).length + 1)) (allSteps nodes) [])) := by
    apply back_anyStep
    · intro step step_mem after tried
      have finds := finds_follow List.nodup_nil (by simp) step_mem
        (Nat.lt_add_right 0 (Nat.lt_succ_self (allSteps nodes).length))
      rw [tried] at finds
      exact finds.1
    · intro step step_mem rest
      exact reaches_back_follow List.nodup_nil (by simp) step_mem
        (Nat.lt_add_right 0 (Nat.lt_succ_self _)) rest []
  simp only [findCycle?]
  generalize anyStep (follow nodes ((allSteps nodes).length + 1)) (allSteps nodes) [] = answer
    at reaches
  rcases answer with ⟨found, path⟩
  cases found with
  | true => exact ⟨closed path, reaches, rfl, rfl⟩
  | false => exact ⟨exhausted, reaches.tail rfl, rfl, rfl⟩

/--
Whatever configurations were added, no search goes on for ever, and it ends with the cycle that is
reported or with none. At every moment the path holds distinct steps of the configurations, apart
from the step that closes it. So it is at most one longer than there are pairs of a configuration
and one of its resources.
-/
theorem search_terminates_on_distinct_steps (nodes : List Node) :
    Acc (fun later moment => Search.next? nodes moment = some later) (start nodes) ∧
    (∃ finish, Reaches nodes (start nodes) finish ∧ finish.next? nodes = none ∧
      finish.found? = findCycle? nodes) ∧
    ∀ moment, Reaches nodes (start nodes) moment →
      moment.walked.Nodup ∧ (∀ step ∈ moment.walked, IsStep nodes step) ∧
        moment.walked.length ≤ (allSteps nodes).toFinset.card ∧
          moment.path.length ≤ (allSteps nodes).toFinset.card + 1 := by
  rcases reaches_found nodes with ⟨finish, reaches, ends, found⟩
  refine ⟨reaches.acc ends, ⟨finish, reaches, ends, found⟩, ?_⟩
  intro moment reached
  have proper := reached.isProper
  have bounded := proper.length_walked_le
  refine ⟨proper.distinct, ?_, bounded, ?_⟩
  · intro step step_mem
    exact isStep_of_mem_allSteps (proper.known step_mem)
  · have := moment.length_path_le_walked
    omega

end BeanContainer.Node
