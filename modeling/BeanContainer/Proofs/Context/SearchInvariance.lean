import BeanContainer.Proofs.Context.CycleSearch
import Mathlib.Data.List.Forall2
import Mathlib.Data.List.Permutation
import Mathlib.Data.List.Sort
import Mathlib.Data.String.Basic

/-!
# What the search for cycles depends on

Whether a cycle is found is a matter of resources and declared beans alone: there is none exactly
if no configuration requires itself, and other names make no difference to that. Which cycle is told
may well depend on names and order. If all names differ and no bean is declared by two
configurations, though, it does not depend on the order in which the configurations were added.

The search goes by places, so two orders of the same configurations are two graphs whose places are
named differently. Both searches are run side by side: places correspond if they hold the same
configuration, steps correspond if they name the same resource at corresponding places, and at every
moment the two paths correspond step by step.
-/

namespace BeanContainer

namespace Node

variable {nodes permuted : List Node}

/-- The configurations with other names, given by place. -/
def renamed (name : Nat → String) (nodes : List Node) : List Node :=
  nodes.mapIdx fun place node => { node with name := name place }

theorem getElem?_renamed (name : Nat → String) (place : Nat) :
    (renamed name nodes)[place]? = nodes[place]?.map fun node => { node with name := name place } :=
  List.getElem?_mapIdx

theorem declares_renamed (name : Nat → String) :
    Declares (renamed name nodes) = Declares nodes := by
  funext place bean
  simp [Declares, getElem?_renamed]

theorem isSource_renamed (name : Nat → String) :
    IsSource (renamed name nodes) = IsSource nodes := by
  funext bean place
  simp [IsSource, declares_renamed]

theorem requires_renamed (name : Nat → String) :
    Requires (renamed name nodes) = Requires nodes := by
  funext place other
  simp [Requires, getElem?_renamed, isSource_renamed]

theorem hasCycle_renamed_iff (name : Nat → String) :
    HasCycle (renamed name nodes) ↔ HasCycle nodes := by
  rw [HasCycle, requires_renamed, HasCycle]

theorem cycleTrace?_eq_none_iff : cycleTrace? nodes = none ↔ ¬HasCycle nodes := by
  rw [cycleTrace?, Option.map_eq_none_iff, ← findCycle?_isSome_iff, Option.not_isSome_iff_eq_none]

/--
No cycle is told exactly if no configuration leads back to itself by needing resources whose last
declarers need resources, and so on. Hence names do not matter for whether one is told, be they
equal or not.
-/
theorem cycleTrace?_none_iff_acyclic (nodes : List Node) :
    (cycleTrace? nodes = none ↔ ¬HasCycle nodes) ∧
      ∀ name : Nat → String,
        cycleTrace? (renamed name nodes) = none ↔ cycleTrace? nodes = none := by
  refine ⟨cycleTrace?_eq_none_iff, fun name => ?_⟩
  rw [cycleTrace?_eq_none_iff, cycleTrace?_eq_none_iff, hasCycle_renamed_iff]

/-- The place in the one list holds the same configuration as the other place in the other list. -/
def SamePlace (nodes permuted : List Node) (place other : Nat) : Prop :=
  place < nodes.length ∧ nodes[place]? = permuted[other]?

/-- The steps name the same resource of the same configuration. -/
def SameStep (nodes permuted : List Node) (step other : Step) : Prop :=
  SamePlace nodes permuted step.node other.node ∧ step.resource = other.resource

/-- The searches came to the same answer on paths that correspond. -/
def SameAnswer (nodes permuted : List Node) (answer other : Bool × List Step) : Prop :=
  answer.1 = other.1 ∧ List.Forall₂ (SameStep nodes permuted) answer.2 other.2

/-- No bean is declared at two places. -/
def DeclareApart (nodes : List Node) : Prop :=
  nodes.Pairwise fun node other => List.Disjoint node.beans other.beans

theorem DeclareApart.place_eq (apart : DeclareApart nodes) {place other : Nat} {bean : String}
    (declares : Declares nodes place bean) (declaresOther : Declares nodes other bean) :
    place = other := by
  rcases declares with ⟨node, found, declared⟩
  rcases declaresOther with ⟨declarer, foundOther, declaredOther⟩
  exact place_eq_of_disjoint apart found foundOther declared declaredOther

/-- The one declarer of a bean is its last one. -/
theorem DeclareApart.isSource (apart : DeclareApart nodes) {place : Nat} {bean : String}
    (declares : Declares nodes place bean) : IsSource nodes bean place :=
  ⟨declares, fun _ declaresLater => Nat.le_of_eq (apart.place_eq declaresLater declares)⟩

theorem biUnique_samePlace (nodup : nodes.Nodup) (perm : nodes.Perm permuted) :
    Relator.BiUnique (SamePlace nodes permuted) := by
  constructor
  · rintro place other common ⟨inside, same⟩ ⟨_, sameOther⟩
    exact (List.getElem?_inj inside nodup).mp (same.trans sameOther.symm)
  · rintro common place other ⟨inside, same⟩ ⟨_, sameOther⟩
    rw [List.getElem?_eq_getElem inside] at same
    have placeInside := (List.getElem?_eq_some_iff.mp same.symm).1
    rw [← List.getElem?_eq_getElem inside] at same
    exact (List.getElem?_inj placeInside (perm.nodup_iff.mp nodup)).mp (same.symm.trans sameOther)

theorem biUnique_sameStep (nodup : nodes.Nodup) (perm : nodes.Perm permuted) :
    Relator.BiUnique (SameStep nodes permuted) := by
  have unique := biUnique_samePlace nodup perm
  constructor
  · rintro ⟨place, resource⟩ ⟨other, otherResource⟩ common ⟨same, named⟩ ⟨sameOther, namedOther⟩
    rw [Step.mk.injEq]
    exact ⟨unique.1 same sameOther, named.trans namedOther.symm⟩
  · rintro common ⟨place, resource⟩ ⟨other, otherResource⟩ ⟨same, named⟩ ⟨sameOther, namedOther⟩
    rw [Step.mk.injEq]
    exact ⟨unique.2 same sameOther, named.symm.trans namedOther⟩

theorem SamePlace.declares {place other : Nat} {bean : String}
    (same : SamePlace nodes permuted place other) (declares : Declares nodes place bean) :
    Declares permuted other bean := by
  rcases declares with ⟨node, found, declared⟩
  exact ⟨node, same.2 ▸ found, declared⟩

theorem exists_samePlace (perm : nodes.Perm permuted) {place : Nat}
    (inside : place < nodes.length) : ∃ other, SamePlace nodes permuted place other := by
  have node_mem : nodes[place] ∈ permuted := perm.mem_iff.mp (List.getElem_mem inside)
  rcases List.mem_iff_getElem?.mp node_mem with ⟨other, found⟩
  exact ⟨other, inside, by rw [found, List.getElem?_eq_getElem inside]⟩

/-- A bean has corresponding sources in both lists, or none in either. -/
theorem source?_rel (apart : DeclareApart nodes) (perm : nodes.Perm permuted) (bean : String) :
    Option.Rel (SamePlace nodes permuted) (source? nodes bean) (source? permuted bean) := by
  have apartPermuted : DeclareApart permuted := (perm.pairwise_iff List.disjoint_symm).mp apart
  cases source : source? nodes bean with
  | some place =>
      have declares := (source?_eq_some_iff.mp source).1
      rcases exists_samePlace perm declares.lt_length with ⟨other, same⟩
      have sourcePermuted := apartPermuted.isSource (same.declares declares)
      rw [source?_eq_some_iff.mpr sourcePermuted]
      exact .some same
  | none =>
      rw [source?_eq_none_iff] at source
      have undeclared : source? permuted bean = none := by
        rw [source?_eq_none_iff]
        rintro other declares
        rcases exists_samePlace perm.symm declares.lt_length with ⟨place, same⟩
        exact source place (same.declares declares)
      rw [undeclared]
      exact .none

theorem steps_rel {place other : Nat} (same : SamePlace nodes permuted place other) :
    List.Forall₂ (SameStep nodes permuted) (steps nodes place) (steps permuted other) := by
  unfold steps
  rw [← same.2]
  cases found : nodes[place]? with
  | none => exact .nil
  | some node =>
      simp only [List.forall₂_map_left_iff, List.forall₂_map_right_iff, List.forall₂_same]
      exact fun resource _ => ⟨same, rfl⟩

theorem anyStep_rel {follow followPermuted : Step → List Step → Bool × List Step}
    (follows : ∀ step other path otherPath, SameStep nodes permuted step other →
      List.Forall₂ (SameStep nodes permuted) path otherPath →
        SameAnswer nodes permuted (follow step path) (followPermuted other otherPath))
    {steps others path otherPath : List Step}
    (sameSteps : List.Forall₂ (SameStep nodes permuted) steps others)
    (samePath : List.Forall₂ (SameStep nodes permuted) path otherPath) :
    SameAnswer nodes permuted (anyStep follow steps path)
      (anyStep followPermuted others otherPath) := by
  induction sameSteps generalizing path otherPath with
  | nil => exact ⟨rfl, samePath⟩
  | @cons step other steps others same _ ih =>
      have answers := follows step other path otherPath same samePath
      simp only [anyStep]
      generalize follow step path = answer, followPermuted other otherPath = otherAnswer at answers
      rcases answer with ⟨closes, after⟩
      rcases otherAnswer with ⟨otherCloses, otherAfter⟩
      rcases answers with ⟨rfl, sameAfter⟩
      cases closes with
      | true => exact ⟨rfl, sameAfter⟩
      | false => exact ih sameAfter

theorem dropLast_rel {path otherPath : List Step}
    (same : List.Forall₂ (SameStep nodes permuted) path otherPath) :
    List.Forall₂ (SameStep nodes permuted) path.dropLast otherPath.dropLast := by
  rw [List.dropLast_eq_take, List.dropLast_eq_take, same.length_eq]
  exact List.forall₂_take _ same

/-- Corresponding steps are followed to corresponding answers, whatever the budget. -/
theorem follow_rel (nodup : nodes.Nodup) (apart : DeclareApart nodes) (perm : nodes.Perm permuted)
    (budget : Nat) : ∀ (step other : Step) (path otherPath : List Step),
    SameStep nodes permuted step other → List.Forall₂ (SameStep nodes permuted) path otherPath →
      SameAnswer nodes permuted (follow nodes budget step path)
        (follow permuted budget other otherPath) := by
  induction budget with
  | zero => exact fun _ _ _ _ _ samePath => ⟨rfl, samePath⟩
  | succ budget ih =>
      intro step other path otherPath same samePath
      have extended : List.Forall₂ (SameStep nodes permuted) (path ++ [step])
          (otherPath ++ [other]) := List.rel_append samePath (.cons same .nil)
      have onPath_iff : step ∈ path ↔ other ∈ otherPath :=
        List.rel_mem (biUnique_sameStep nodup perm) same samePath
      unfold follow
      by_cases onPath : step ∈ path
      · rw [if_pos (by simpa using onPath), if_pos (by simpa using onPath_iff.mp onPath)]
        exact ⟨rfl, extended⟩
      · rw [if_neg (by simpa using onPath), if_neg (by simpa using mt onPath_iff.mpr onPath)]
        have sources := source?_rel apart perm step.resource
        rw [← same.2]
        generalize source? nodes step.resource = source,
          source? permuted step.resource = otherSource at sources
        cases sources with
        | none => exact ⟨rfl, dropLast_rel extended⟩
        | @some place otherPlace samePlace =>
            have answers := anyStep_rel ih (steps_rel samePlace) extended
            simp only
            generalize anyStep (follow nodes budget) (steps nodes place) (path ++ [step]) = answer,
              anyStep (follow permuted budget) (steps permuted otherPlace)
                (otherPath ++ [other]) = otherAnswer at answers
            rcases answer with ⟨closes, after⟩
            rcases otherAnswer with ⟨otherCloses, otherAfter⟩
            rcases answers with ⟨rfl, sameAfter⟩
            cases closes with
            | true => exact ⟨rfl, sameAfter⟩
            | false => exact ⟨rfl, dropLast_rel sameAfter⟩

/-- The configurations in the order in which the search takes them. -/
theorem perm_searchOrder (nodes : List Node) :
    ((searchOrder nodes).map (nodes[·]?)).Perm (nodes.map some) := by
  have inPlaces : (List.range nodes.length).map (nodes[·]?) = nodes.map some := by
    apply List.ext_getElem?
    intro place
    by_cases inside : place < nodes.length <;> simp [inside]
  rw [← inPlaces]
  exact (List.mergeSort_perm _ _).map _

/-- The name of a configuration, if there is one. -/
def nameOf (found : Option Node) : String :=
  (found.map (·.name)).getD ""

theorem pairwise_searchOrder (nodes : List Node) :
    ((searchOrder nodes).map (nodes[·]?)).Pairwise fun found later =>
      nameOf found ≤ nameOf later := by
  rw [List.pairwise_map]
  unfold searchOrder
  refine (List.pairwise_mergeSort ?_ ?_ (List.range nodes.length)).imp ?_
  · intro first second third
    simp only [Bool.not_eq_true', decide_eq_false_iff_not, not_lt]
    exact le_trans
  · intro first second
    simp only [Bool.or_eq_true, Bool.not_eq_true', decide_eq_false_iff_not, not_lt]
    exact le_total _ _
  · intro first second
    simp only [Bool.not_eq_true', decide_eq_false_iff_not, not_lt]
    exact id

/-- If all names differ, the order of the search is that of the names alone. -/
theorem searchOrder_rel (names : (nodes.map (·.name)).Nodup) (perm : nodes.Perm permuted) :
    List.Forall₂ (SamePlace nodes permuted) (searchOrder nodes) (searchOrder permuted) := by
  have sameOrder : (searchOrder nodes).map (nodes[·]?) =
      (searchOrder permuted).map (permuted[·]?) := by
    refine List.Perm.eq_of_pairwise ?_ (pairwise_searchOrder nodes) (pairwise_searchOrder permuted)
      ((perm_searchOrder nodes).trans ((perm.map some).trans (perm_searchOrder permuted).symm))
    intro found later found_mem later_mem before behind
    rcases List.mem_map.mp ((perm_searchOrder nodes).mem_iff.mp found_mem) with
      ⟨node, node_mem, rfl⟩
    rcases List.mem_map.mp ((perm_searchOrder permuted).mem_iff.mp later_mem) with
      ⟨other, other_mem, rfl⟩
    have sameName : node.name = other.name := le_antisymm before behind
    rw [List.inj_on_of_nodup_map names node_mem (perm.mem_iff.mpr other_mem) sameName]
  rw [← List.forall₂_eq_eq_eq, List.forall₂_map_left_iff, List.forall₂_map_right_iff] at sameOrder
  rw [show SamePlace nodes permuted = fun place other => place < nodes.length ∧
    nodes[place]? = permuted[other]? from rfl, List.forall₂_and_left]
  exact ⟨fun place place_mem => mem_searchOrder.mp place_mem, sameOrder⟩

theorem allSteps_rel (names : (nodes.map (·.name)).Nodup) (perm : nodes.Perm permuted) :
    List.Forall₂ (SameStep nodes permuted) (allSteps nodes) (allSteps permuted) :=
  List.rel_flatMap (searchOrder_rel names perm) fun _ _ same => steps_rel same

section ClosedPart

variable {α β : Type} {relation : α → β → Prop} {path : List α} {otherPath : List β}

theorem getLast?_rel (same : List.Forall₂ relation path otherPath) :
    Option.Rel relation path.getLast? otherPath.getLast? := by
  induction same with
  | nil => exact .none
  | @cons first other rest others sameFirst _ ih =>
      rw [List.getLast?_cons, List.getLast?_cons]
      generalize rest.getLast? = last, others.getLast? = otherLast at ih
      cases ih with
      | none => exact .some sameFirst
      | some sameLast => exact .some sameLast

theorem dropWhile_rel {passes : α → Bool} {otherPasses : β → Bool}
    (agree : ∀ step other, relation step other → passes step = otherPasses other)
    (same : List.Forall₂ relation path otherPath) :
    List.Forall₂ relation (path.dropWhile passes) (otherPath.dropWhile otherPasses) := by
  induction same with
  | nil => exact .nil
  | @cons step other rest others sameStep sameRest ih =>
      rw [List.dropWhile_cons, List.dropWhile_cons, agree step other sameStep]
      split
      · exact ih
      · exact .cons sameStep sameRest

theorem closedPart_rel [BEq α] [LawfulBEq α] [BEq β] [LawfulBEq β]
    (unique : Relator.BiUnique relation) (same : List.Forall₂ relation path otherPath) :
    List.Forall₂ relation (closedPart path) (closedPart otherPath) := by
  have lasts := getLast?_rel same
  unfold closedPart
  generalize path.getLast? = last, otherPath.getLast? = otherLast at lasts
  cases lasts with
  | none => exact same
  | @some last otherLast sameLast =>
      refine dropWhile_rel ?_ same
      intro step other sameStep
      have same_iff : step = last ↔ other = otherLast := Relator.rel_eq unique sameStep sameLast
      rw [Bool.eq_iff_iff, bne_iff_ne, bne_iff_ne]
      exact not_congr same_iff

end ClosedPart

/-- The searches find corresponding cycles, or none at all. -/
theorem findCycle?_rel (names : (nodes.map (·.name)).Nodup) (apart : DeclareApart nodes)
    (perm : nodes.Perm permuted) :
    Option.Rel (List.Forall₂ (SameStep nodes permuted)) (findCycle? nodes)
      (findCycle? permuted) := by
  have nodup : nodes.Nodup := names.of_map
  have starts := allSteps_rel names perm
  have follows := follow_rel nodup apart perm ((allSteps nodes).length + 1)
  simp only [findCycle?]
  -- There are as many steps in both orders, so both searches have the same budget.
  rw [← starts.length_eq]
  have answers := anyStep_rel follows starts .nil
  generalize anyStep (follow nodes ((allSteps nodes).length + 1)) (allSteps nodes) [] = answer,
    anyStep (follow permuted ((allSteps nodes).length + 1)) (allSteps permuted) [] = otherAnswer
    at answers
  rcases answer with ⟨closes, path⟩
  rcases otherAnswer with ⟨otherCloses, otherPath⟩
  rcases answers with ⟨rfl, samePath⟩
  cases closes with
  | true => exact .some (closedPart_rel (biUnique_sameStep nodup perm) samePath)
  | false => exact .none

theorem SameStep.stepText_eq {step other : Step} (same : SameStep nodes permuted step other) :
    stepText nodes step = stepText permuted other := by
  rw [stepText, stepText, same.1.2, same.2]

/--
If all names differ and no bean is declared by two configurations, the order in which they were
added makes no difference: the same cycle is told in the same words, or none in either order.
-/
theorem cycleTrace?_eq_of_perm {nodes permuted : List Node} (perm : nodes.Perm permuted)
    (names : (nodes.map (·.name)).Nodup) (apart : DeclareApart nodes) :
    cycleTrace? permuted = cycleTrace? nodes := by
  have cycles := findCycle?_rel names apart perm
  unfold cycleTrace?
  generalize findCycle? nodes = cycle, findCycle? permuted = otherCycle at cycles
  cases cycles with
  | none => rfl
  | @some cycle otherCycle same =>
      rw [Option.map_some, Option.map_some, Option.some.injEq, eq_comm, ← List.forall₂_eq_eq_eq,
        List.forall₂_map_left_iff, List.forall₂_map_right_iff]
      exact same.imp fun _ _ sameStep => sameStep.stepText_eq

/-- A lead-in to a circle of three, beside a configuration that needs itself, by name the last. -/
def entangled : List Node :=
  [⟨"zeta", ["own"], ["own"]⟩, ⟨"gamma", ["a", "none"], ["c"]⟩,
    ⟨"alpha", ["none", "b"], ["a", "a"]⟩, ⟨"beta", ["c"], ["b"]⟩, ⟨"Lead", ["b"], []⟩]

theorem cycleTrace?_entangled_reversed :
    cycleTrace? entangled =
        some ["beta::c", "gamma::a", "alpha::b", "beta::c"] ∧
      cycleTrace? entangled.reverse = cycleTrace? entangled := by
  refine ⟨by cbv, cycleTrace?_eq_of_perm (List.reverse_perm entangled).symm ?_ ?_⟩
  · decide
  · simp [entangled, DeclareApart]

end Node

end BeanContainer
