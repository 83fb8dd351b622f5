import BeanContainer.Context.Cycle
import BeanContainer.Proofs.Walks
import Mathlib.Data.List.Nodup
import Mathlib.Data.List.Perm.Subperm

/-!
# The search for cycles of configurations

A configuration requires another one if it needs a resource whose last declarer the other one is.
The search works on steps instead, which name the resource as well, and keeps no record of what it
has seen apart from the path it is on. It is nevertheless exact: it finds a cycle exactly if one
configuration requires itself, directly or through others.

The path holds no step twice, so it never outgrows the budget. An exhausted search shows that no
infinite walk starts at the step it began with, which is stated as accessibility. That is stronger
than the absence of a cycle through the path and needs no counting.
-/

namespace BeanContainer

/-- Where the items of a list have no values in common, a value tells the place of its item. -/
theorem place_eq_of_disjoint {α β : Type} {items : List α} {values : α → List β}
    (apart : items.Pairwise fun item other => List.Disjoint (values item) (values other))
    {place other : Nat} {item otherItem : α} {value : β} (found : items[place]? = some item)
    (foundOther : items[other]? = some otherItem) (value_mem : value ∈ values item)
    (otherValue_mem : value ∈ values otherItem) : place = other := by
  rcases List.getElem?_eq_some_iff.mp found with ⟨inside, rfl⟩
  rcases List.getElem?_eq_some_iff.mp foundOther with ⟨otherInside, rfl⟩
  have disjoint := List.pairwise_iff_getElem.mp apart
  rcases Nat.lt_trichotomy place other with before | same | behind
  · exact absurd otherValue_mem (disjoint place other inside otherInside before value_mem)
  · exact same
  · exact absurd value_mem (disjoint other place otherInside inside behind otherValue_mem)

namespace Node

variable {nodes : List Node}

/-- The configuration at the place declares the bean. -/
def Declares (nodes : List Node) (place : Nat) (bean : String) : Prop :=
  ∃ node, nodes[place]? = some node ∧ bean ∈ node.beans

/-- The place holds the last configuration that declares the bean. -/
def IsSource (nodes : List Node) (bean : String) (place : Nat) : Prop :=
  Declares nodes place bean ∧ ∀ later, Declares nodes later bean → later ≤ place

/-- One configuration needs a resource of which the other is the last declarer. -/
def Requires (nodes : List Node) (place other : Nat) : Prop :=
  ∃ node, nodes[place]? = some node ∧ ∃ resource ∈ node.resources, IsSource nodes resource other

/-- A configuration requires itself, directly or through others. -/
def HasCycle (nodes : List Node) : Prop :=
  ∃ place, Relation.TransGen (Requires nodes) place place

theorem Declares.lt_length {place : Nat} {bean : String} (declares : Declares nodes place bean) :
    place < nodes.length := by
  rcases declares with ⟨node, found, _⟩
  exact (List.getElem?_eq_some_iff.mp found).1

theorem any_beans_contains_iff {place : Nat} {bean : String} :
    (nodes[place]?.any fun node => node.beans.contains bean) = true ↔
      Declares nodes place bean := by
  cases found : nodes[place]? with
  | none => simp [Declares, found]
  | some node => simp [Declares, found]

theorem source?_eq_some_iff {bean : String} {place : Nat} :
    source? nodes bean = some place ↔ IsSource nodes bean place := by
  simp only [source?, List.find?_eq_some_iff_getElem, any_beans_contains_iff, IsSource]
  apply and_congr_right
  intro declares
  have inside := declares.lt_length
  constructor
  · rintro ⟨index, index_lt, isPlace, before⟩ later declaresLater
    have laterInside := declaresLater.lt_length
    simp only [List.length_reverse, List.length_range] at index_lt
    simp only [List.getElem_reverse, List.getElem_range, List.length_range] at isPlace
    by_contra beyond
    have tested := before (nodes.length - 1 - later) (by omega)
    simp only [List.getElem_reverse, List.getElem_range, List.length_range] at tested
    rw [show nodes.length - 1 - (nodes.length - 1 - later) = later by omega,
      any_beans_contains_iff.mpr declaresLater] at tested
    simp at tested
  · intro isLast
    refine ⟨nodes.length - 1 - place, by simp; omega, by simp; omega, ?_⟩
    intro index index_lt
    simp only [List.getElem_reverse, List.getElem_range, List.length_range]
    rw [Bool.not_eq_true', ← Bool.not_eq_true, any_beans_contains_iff]
    intro declaresLater
    have := isLast _ declaresLater
    omega

theorem source?_eq_none_iff {bean : String} :
    source? nodes bean = none ↔ ∀ place, ¬Declares nodes place bean := by
  simp only [source?, List.find?_eq_none, any_beans_contains_iff, List.mem_reverse, List.mem_range]
  constructor
  · intro none place declares
    exact none place declares.lt_length declares
  · intro none place _
    exact none place

theorem mem_steps {place : Nat} {step : Step} :
    step ∈ steps nodes place ↔
      step.node = place ∧ ∃ node, nodes[place]? = some node ∧ step.resource ∈ node.resources := by
  unfold steps
  cases found : nodes[place]? with
  | none => simp
  | some node =>
      simp only [List.mem_map, Option.some.injEq, exists_eq_left']
      constructor
      · rintro ⟨resource, resource_mem, rfl⟩
        exact ⟨rfl, resource_mem⟩
      · rintro ⟨rfl, resource_mem⟩
        exact ⟨step.resource, resource_mem, rfl⟩

theorem mem_searchOrder {place : Nat} : place ∈ searchOrder nodes ↔ place < nodes.length := by
  simp [searchOrder]

theorem mem_allSteps {step : Step} :
    step ∈ allSteps nodes ↔ step ∈ steps nodes step.node := by
  simp only [allSteps, List.mem_flatMap, mem_searchOrder]
  constructor
  · rintro ⟨place, _, step_mem⟩
    rwa [(mem_steps.mp step_mem).1]
  · intro step_mem
    rcases mem_steps.mp step_mem with ⟨_, node, found, _⟩
    exact ⟨step.node, (List.getElem?_eq_some_iff.mp found).1, step_mem⟩

/-- A step leads on to the steps of the configuration that provides its resource. -/
def Leads (nodes : List Node) (step next : Step) : Prop :=
  source? nodes step.resource = some next.node ∧ next ∈ steps nodes next.node

/-- No infinite walk starts at the step. -/
abbrev IsExhausted (nodes : List Node) (step : Step) : Prop :=
  Acc (fun next step => Leads nodes step next) step

/--
What a search from a step finds: either nothing, and then the path is as before, or a walk from the
step that ends in a step of the path or of itself and holds no other step twice.
-/
def Finds (nodes : List Node) (path : List Step) (step : Step) : Bool × List Step → Prop
  | (false, after) => after = path ∧ IsExhausted nodes step
  | (true, after) => ∃ walk, after = path ++ step :: walk ∧
      (step :: walk).IsChain (Leads nodes) ∧ after.dropLast.Nodup ∧
      ∃ last, after.getLast? = some last ∧ last ∈ after.dropLast

/-- The steps are tried until one closes a cycle; all before it leave the path alone. -/
theorem anyStep_cases {follow : Step → List Step → Bool × List Step} {path : List Step} :
    ∀ {steps : List Step},
      (∀ step ∈ steps, ∀ after, follow step path = (false, after) → after = path) →
      (anyStep follow steps path = (false, path) ∧
          ∀ step ∈ steps, follow step path = (false, path)) ∨
        ∃ step ∈ steps, ∃ after, follow step path = (true, after) ∧
          anyStep follow steps path = (true, after) := by
  intro steps restores
  induction steps with
  | nil => exact Or.inl ⟨rfl, by simp⟩
  | cons step rest ih =>
      cases tried : follow step path with
      | mk found after =>
          cases found with
          | true =>
              right
              exact ⟨step, List.mem_cons_self, after, tried, by simp [anyStep, tried]⟩
          | false =>
              have same := restores step List.mem_cons_self after tried
              subst same
              have restEq : anyStep follow (step :: rest) after = anyStep follow rest after := by
                simp [anyStep, tried]
              rw [restEq]
              have restoresRest := fun other other_mem =>
                restores other (List.mem_cons_of_mem step other_mem)
              rcases ih restoresRest with
                ⟨exhausted, none⟩ | ⟨other, other_mem, closed, otherTried, closes⟩
              · left
                refine ⟨exhausted, ?_⟩
                intro other other_mem
                rcases List.mem_cons.mp other_mem with rfl | other_mem
                · exact tried
                · exact none other other_mem
              · right
                exact ⟨other, List.mem_cons_of_mem _ other_mem, closed, otherTried, closes⟩

theorem length_path_le {path : List Step} (nodup : path.Nodup)
    (known : ∀ step ∈ path, step ∈ allSteps nodes) : path.length ≤ (allSteps nodes).length :=
  (List.subperm_of_subset nodup known).length_le

/--
A step that leads somewhere is exhausted if all steps there are, and else goes on to one of them.
-/
theorem finds_follow_of_source {budget place : Nat} {step : Step} {path : List Step}
    (fresh : step ∉ path) (source : source? nodes step.resource = some place)
    (nextFinds : ∀ next ∈ steps nodes place, Finds nodes (path ++ [step]) next
      (follow nodes budget next (path ++ [step]))) :
    Finds nodes path step (follow nodes (budget + 1) step path) := by
  have leads : ∀ next ∈ steps nodes place, Leads nodes step next := by
    intro next next_mem
    have next_node := (mem_steps.mp next_mem).1
    exact ⟨by rw [source, next_node], by rwa [next_node]⟩
  have restores : ∀ next ∈ steps nodes place, ∀ after,
      follow nodes budget next (path ++ [step]) = (false, after) →
        after = path ++ [step] := by
    intro next next_mem after tried
    have found := nextFinds next next_mem
    rw [tried] at found
    exact found.1
  unfold follow
  rw [if_neg (by simpa using fresh)]
  simp only [source]
  rcases anyStep_cases restores with
    ⟨exhausted, none⟩ | ⟨next, next_mem, after, tried, closes⟩
  · simp only [exhausted]
    refine ⟨by simp, Acc.intro _ ?_⟩
    rintro next ⟨isSource, next_mem⟩
    rw [source, Option.some.injEq] at isSource
    subst isSource
    have found := nextFinds next next_mem
    rw [none next next_mem] at found
    exact found.2
  · simp only [closes]
    have found := nextFinds next next_mem
    rw [tried] at found
    rcases found with ⟨walk, rfl, linked, distinct, closed⟩
    refine ⟨next :: walk, by simp, ?_, distinct, closed⟩
    exact List.isChain_cons_cons.mpr ⟨leads next next_mem, linked⟩

/--
The search from a step on a path without repetitions, which may begin with steps of any kind. The
budget covers the steps that are not on the rest of the path, so it is never exhausted before the
search is.
-/
theorem finds_follow_behind {lead : List Step} {budget : Nat} {step : Step} {path : List Step}
    (nodup : (lead ++ path).Nodup) (known : ∀ other ∈ path, other ∈ allSteps nodes)
    (step_mem : step ∈ allSteps nodes)
    (enough : (allSteps nodes).length < budget + path.length) :
    Finds nodes (lead ++ path) step (follow nodes budget step (lead ++ path)) := by
  induction budget generalizing step path with
  | zero =>
      have := length_path_le (List.nodup_append.mp nodup).2.1 known
      omega
  | succ budget ih =>
      by_cases onPath : step ∈ lead ++ path
      · unfold follow
        rw [if_pos (by simpa using onPath)]
        exact ⟨[], rfl, by simp, by simpa using nodup, step, by simp, by simpa using onPath⟩
      · cases source : source? nodes step.resource with
        | none =>
            unfold follow
            rw [if_neg (by simpa using onPath)]
            simp only [source]
            refine ⟨by simp, Acc.intro _ ?_⟩
            rintro next ⟨isSource, _⟩
            simp [source] at isSource
        | some place =>
            refine finds_follow_of_source onPath source fun next next_mem => ?_
            have next_known : next ∈ allSteps nodes := by
              rw [mem_allSteps, (mem_steps.mp next_mem).1]
              exact next_mem
            rw [List.append_assoc]
            refine ih ?_ ?_ next_known ?_
            · rw [← List.append_assoc]
              simpa using nodup.concat onPath
            · intro other other_mem
              rcases List.mem_append.mp other_mem with other_mem | other_mem
              · exact known other other_mem
              · rwa [List.mem_singleton.mp other_mem]
            · simp only [List.length_append, List.length_singleton]
              omega

/-- The search from a step on a path of steps of the configurations. -/
theorem finds_follow {budget : Nat} {step : Step} {path : List Step} (nodup : path.Nodup)
    (known : ∀ other ∈ path, other ∈ allSteps nodes) (step_mem : step ∈ allSteps nodes)
    (enough : (allSteps nodes).length < budget + path.length) :
    Finds nodes path step (follow nodes budget step path) :=
  @finds_follow_behind nodes [] budget step path nodup known step_mem enough

/-- The search from all steps in turn either exhausts them all or closes a cycle. -/
theorem findCycle?_cases (nodes : List Node) :
    (findCycle? nodes = none ∧ ∀ step ∈ allSteps nodes, IsExhausted nodes step) ∨
      ∃ step ∈ allSteps nodes, ∃ walk, findCycle? nodes = some (closedPart (step :: walk)) ∧
        (step :: walk).IsChain (Leads nodes) ∧ (step :: walk).dropLast.Nodup ∧
        ∃ last, (step :: walk).getLast? = some last ∧ last ∈ (step :: walk).dropLast := by
  have finds : ∀ step ∈ allSteps nodes,
      Finds nodes [] step (follow nodes ((allSteps nodes).length + 1) step []) := by
    intro step step_mem
    exact finds_follow List.nodup_nil (by simp) step_mem (by simp)
  have restores : ∀ step ∈ allSteps nodes, ∀ after,
      follow nodes ((allSteps nodes).length + 1) step [] = (false, after) → after = [] := by
    intro step step_mem after tried
    have found := finds step step_mem
    rw [tried] at found
    exact found.1
  rcases anyStep_cases restores with ⟨exhausted, none⟩ | ⟨step, step_mem, after, tried, closes⟩
  · left
    refine ⟨by simp [findCycle?, exhausted], ?_⟩
    intro step step_mem
    have found := finds step step_mem
    rw [none step step_mem] at found
    exact found.2
  · right
    have found := finds step step_mem
    rw [tried] at found
    rcases found with ⟨walk, rfl, linked, distinct, closed⟩
    rw [List.nil_append] at closes distinct closed
    exact ⟨step, step_mem, walk, by simp [findCycle?, closes], linked, distinct, closed⟩

theorem Leads.requires {step next : Step} (leads : Leads nodes step next)
    (step_mem : step ∈ steps nodes step.node) : Requires nodes step.node next.node := by
  rcases mem_steps.mp step_mem with ⟨_, node, found, resource_mem⟩
  exact ⟨node, found, step.resource, resource_mem, source?_eq_some_iff.mp leads.1⟩

theorem Requires.exists_step {place other : Nat} (requires : Requires nodes place other) :
    ∃ step ∈ steps nodes place, source? nodes step.resource = some other := by
  rcases requires with ⟨node, found, resource, resource_mem, source⟩
  exact ⟨⟨place, resource⟩, mem_steps.mpr ⟨rfl, node, found, resource_mem⟩,
    source?_eq_some_iff.mpr source⟩

/-- No infinite chain of requirements starts where an exhausted step leads to. -/
theorem IsExhausted.acc_requires {step : Step} (exhausted : IsExhausted nodes step) :
    ∀ place, source? nodes step.resource = some place →
      Acc (fun next place => Requires nodes place next) place := by
  induction exhausted with
  | intro step _ ih =>
      intro place source
      refine Acc.intro _ ?_
      intro other requires
      rcases requires.exists_step with ⟨next, next_mem, nextSource⟩
      have next_node := (mem_steps.mp next_mem).1
      exact ih next ⟨by rw [source, next_node], by rwa [next_node]⟩ other nextSource

theorem acc_requires_of_exhausted
    (exhausted : ∀ step ∈ allSteps nodes, IsExhausted nodes step) (place : Nat) :
    Acc (fun next place => Requires nodes place next) place := by
  refine Acc.intro _ ?_
  intro other requires
  rcases requires.exists_step with ⟨step, step_mem, source⟩
  have step_node := (mem_steps.mp step_mem).1
  exact (exhausted step (mem_allSteps.mpr (by rwa [step_node]))).acc_requires other source

theorem not_hasCycle_of_exhausted
    (exhausted : ∀ step ∈ allSteps nodes, IsExhausted nodes step) : ¬HasCycle nodes := by
  rintro ⟨place, cycle⟩
  exact not_transGen_self_of_acc (acc_requires_of_exhausted exhausted place) cycle

theorem transGen_requires {first last : Step} (walk : Relation.TransGen (Leads nodes) first last)
    (first_mem : first ∈ steps nodes first.node) :
    Relation.TransGen (Requires nodes) first.node last.node := by
  induction walk using Relation.TransGen.head_induction_on with
  | single leads => exact .single (leads.requires first_mem)
  | head leads _ ih => exact (ih leads.2).head (leads.requires first_mem)

/-- A linked walk that ends in one of its earlier steps closes a cycle of configurations. -/
theorem hasCycle_of_closed_walk {walk : List Step} (linked : walk.IsChain (Leads nodes))
    (closed : ∃ last, walk.getLast? = some last ∧ last ∈ walk.dropLast) : HasCycle nodes := by
  rcases closed with ⟨last, isLast, last_mem⟩
  rcases List.getLast?_eq_some_iff.mp isLast with ⟨before, rfl⟩
  rw [List.dropLast_concat] at last_mem
  have cycle := transGen_self_of_chain linked last_mem
  -- Every step that another one leads to is a step of its configuration, so the last one is.
  rcases Relation.TransGen.tail'_iff.mp cycle with ⟨_, _, leads⟩
  exact ⟨last.node, transGen_requires cycle leads.2⟩

theorem findCycle?_isSome_iff : (findCycle? nodes).isSome ↔ HasCycle nodes := by
  rcases findCycle?_cases nodes with
    ⟨none, exhausted⟩ | ⟨step, _, walk, found, linked, _, closed⟩
  · simp [none, not_hasCycle_of_exhausted exhausted]
  · simp only [found, Option.isSome_some, true_iff]
    exact hasCycle_of_closed_walk linked closed

/--
Where no infinite chain of requirements starts, following missing resources to their declarers leads
to a configuration with a resource that nobody declares.
-/
theorem exists_undeclared_of_acc (waits : ∀ node ∈ nodes, node.resources ≠ []) {place : Nat}
    (acc : Acc (fun next place => Requires nodes place next) place) :
    place < nodes.length →
      ∃ node ∈ nodes, ∃ resource ∈ node.resources, ∀ other, ¬Declares nodes other resource := by
  induction acc with
  | intro place _ ih =>
      intro inside
      have found : nodes[place]? = some nodes[place] := List.getElem?_eq_getElem inside
      have node_mem : nodes[place] ∈ nodes := List.getElem_mem inside
      rcases List.exists_mem_of_ne_nil _ (waits _ node_mem) with ⟨resource, resource_mem⟩
      cases source : source? nodes resource with
      | none =>
          exact ⟨nodes[place], node_mem, resource, resource_mem, source?_eq_none_iff.mp source⟩
      | some other =>
          have isSource := source?_eq_some_iff.mp source
          exact ih other ⟨_, found, resource, resource_mem, isSource⟩ isSource.1.lt_length

/-- Where no configuration requires itself, every chain of requirements comes to an end. -/
theorem acc_requires_of_not_hasCycle (noCycle : ¬HasCycle nodes) (place : Nat) :
    Acc (fun next place => Requires nodes place next) place := by
  rcases findCycle?_cases nodes with ⟨_, exhausted⟩ | ⟨_, _, _, found, _⟩
  · exact acc_requires_of_exhausted exhausted place
  · exact absurd (findCycle?_isSome_iff.mp (by simp [found])) noCycle

/-- If all configurations wait and none requires itself, somebody needs what nobody declares. -/
theorem exists_undeclared_of_not_hasCycle (noCycle : ¬HasCycle nodes) (nonempty : nodes ≠ [])
    (waits : ∀ node ∈ nodes, node.resources ≠ []) :
    ∃ node ∈ nodes, ∃ resource ∈ node.resources, ∀ other, ¬Declares nodes other resource :=
  exists_undeclared_of_acc waits (acc_requires_of_not_hasCycle noCycle 0)
    (List.length_pos_of_ne_nil nonempty)

end Node

end BeanContainer
