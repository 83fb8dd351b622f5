import BeanContainer.Proofs.Context.SearchTermination

/-!
# What the search for cycles does to its path

All tries of the search work on one path. A configuration is tried step by step, and each step goes
on to the next configuration before the one beside it is tried. Whatever path of distinct steps a
configuration is tried on, the path comes back as it was if no cycle is found. If one is, then all
that was added to the path is a walk from the configuration to the step that is met again.

The search spends a budget, and never comes to the end of it. So the tries follow the equations that
they would follow without one, and any larger budget gives the same answers.
-/

namespace BeanContainer.Node

variable {nodes : List Node} {place : Nat} {path : List Step}

/-- Tries a step on the path, with the budget of the whole search. -/
def tryStep (nodes : List Node) (step : Step) (path : List Step) : Bool × List Step :=
  follow nodes ((allSteps nodes).length + 1) step path

/-- Tries all steps of a configuration on the path. -/
def tryAll (nodes : List Node) (place : Nat) (path : List Step) : Bool × List Step :=
  anyStep (tryStep nodes) (steps nodes place) path

/-- Tries configurations one after the other until one closes a cycle. -/
def tryEach (nodes : List Node) : List Nat → List Step → Bool × List Step
  | [], path => (false, path)
  | place :: rest, path =>
    match tryAll nodes place path with
    | (true, path) => (true, path)
    | (false, path) => tryEach nodes rest path

/--
The walk starts with a step of the configuration at the place, goes on along the sources of beans,
and meets none of its steps, nor any on the path, before it comes to its end, which is one of them.
-/
structure ClosesOn (nodes : List Node) (place : Nat) (path walk : List Step) : Prop where
  starts : ∃ first ∈ steps nodes place, walk.head? = some first
  linked : walk.IsChain (Leads nodes)
  distinct : (path ++ walk.dropLast).Nodup
  closes : ∃ last ∈ path ++ walk.dropLast, walk.getLast? = some last

theorem steps_subset_allSteps (place : Nat) : steps nodes place ⊆ allSteps nodes := by
  intro step step_mem
  rwa [mem_allSteps, (mem_steps.mp step_mem).1]

theorem anyStep_append (follow : Step → List Step → Bool × List Step) (first second : List Step) :
    ∀ path, anyStep follow (first ++ second) path =
      match anyStep follow first path with
      | (true, path) => (true, path)
      | (false, path) => anyStep follow second path := by
  induction first with
  | nil =>
      intro path
      rfl
  | cons step rest ih =>
      intro path
      simp only [List.cons_append, anyStep]
      rcases follow step path with ⟨found, after⟩
      cases found with
      | true => rfl
      | false => exact ih after

theorem anyStep_congr {follow other : Step → List Step → Bool × List Step} {steps : List Step}
    (restores : ∀ step ∈ steps, ∀ after, follow step path = (false, after) → after = path)
    (same : ∀ step ∈ steps, follow step path = other step path) :
    anyStep follow steps path = anyStep other steps path := by
  induction steps with
  | nil => rfl
  | cons step rest ih =>
      have sameFirst := same step List.mem_cons_self
      cases tried : follow step path with
      | mk found after =>
          simp only [anyStep, ← sameFirst, tried]
          cases found with
          | true => rfl
          | false =>
              have isPath := restores step List.mem_cons_self after tried
              subst isPath
              apply ih
              · intro next next_mem
                exact restores next (List.mem_cons_of_mem step next_mem)
              · intro next next_mem
                exact same next (List.mem_cons_of_mem step next_mem)

/-- The search tries the configurations in its order, from the empty path on. -/
theorem findCycle?_eq_tryEach (nodes : List Node) :
    findCycle? nodes = match tryEach nodes (searchOrder nodes) [] with
      | (true, path) => some (closedPart path)
      | (false, _) => none := by
  have flattened : ∀ places path,
      anyStep (tryStep nodes) (places.flatMap (steps nodes)) path = tryEach nodes places path := by
    intro places
    induction places with
    | nil =>
        intro path
        rfl
    | cons place rest ih =>
        intro path
        rw [List.flatMap_cons, anyStep_append, tryEach]
        change (match tryAll nodes place path with
          | (true, path) => (true, path)
          | (false, path) => anyStep (tryStep nodes) (rest.flatMap (steps nodes)) path) = _
        rcases tryAll nodes place path with ⟨found, after⟩
        cases found with
        | true => rfl
        | false => exact ih after
  rw [← flattened]
  rfl

theorem finds_tryStep {step : Step} (distinct : path.Nodup) (step_mem : step ∈ allSteps nodes) :
    Finds nodes path step (tryStep nodes step path) := by
  have behind : (path ++ []).Nodup := by rwa [List.append_nil]
  have finds := finds_follow_behind behind (by simp) step_mem
    (Nat.lt_add_right 0 (Nat.lt_succ_self (allSteps nodes).length))
  rwa [List.append_nil] at finds

theorem tryStep_restores {step : Step} (distinct : path.Nodup) (step_mem : step ∈ allSteps nodes) :
    ∀ after, tryStep nodes step path = (false, after) → after = path := by
  intro after tried
  have finds := finds_tryStep distinct step_mem
  rw [tried] at finds
  exact finds.1

/-- Two budgets that cover the steps off the rest of the path give the same answer. -/
theorem follow_eq_follow {lead : List Step} {step : Step} {budget other : Nat}
    (distinct : (lead ++ path).Nodup) (known : path ⊆ allSteps nodes)
    (step_mem : step ∈ allSteps nodes)
    (enough : (allSteps nodes).length < budget + path.length)
    (enoughOther : (allSteps nodes).length < other + path.length) :
    follow nodes budget step (lead ++ path) = follow nodes other step (lead ++ path) := by
  have bounded := length_path_le (List.nodup_append.mp distinct).2.1 known
  induction budget generalizing step path other with
  | zero => omega
  | succ budget ih =>
      rcases other with _ | other
      · omega
      rw [follow_succ, follow_succ]
      by_cases onPath : step ∈ lead ++ path
      · simp [onPath]
      have distinctOn : (lead ++ (path ++ [step])).Nodup := by
        rw [← List.append_assoc]
        simpa using distinct.concat onPath
      have knownOn : path ++ [step] ⊆ allSteps nodes := by
        simpa [List.append_subset] using ⟨known, step_mem⟩
      have enoughOn : (allSteps nodes).length < budget + (path ++ [step]).length := by
        simp only [List.length_append, List.length_singleton]
        omega
      have enoughOtherOn : (allSteps nodes).length < other + (path ++ [step]).length := by
        simp only [List.length_append, List.length_singleton]
        omega
      have sameOn : anyStep (follow nodes budget) (onward nodes step) (lead ++ (path ++ [step])) =
          anyStep (follow nodes other) (onward nodes step) (lead ++ (path ++ [step])) := by
        apply anyStep_congr
        · intro next next_mem after tried
          have finds := finds_follow_behind distinctOn knownOn
            (onward_subset_allSteps step next_mem) enoughOn
          rw [tried] at finds
          exact finds.1
        · intro next next_mem
          exact ih distinctOn knownOn (onward_subset_allSteps step next_mem) enoughOn enoughOtherOn
            (length_path_le (List.nodup_append.mp distinctOn).2.1 knownOn)
      rw [List.append_assoc, sameOn]

/-- A step is tried as if there were no budget. -/
theorem tryStep_eq {step : Step} (distinct : path.Nodup) (step_mem : step ∈ allSteps nodes) :
    tryStep nodes step path =
      if step ∈ path then (true, path ++ [step])
      else
        match source? nodes step.resource with
        | none => (false, path)
        | some next =>
          match tryAll nodes next (path ++ [step]) with
          | (true, after) => (true, after)
          | (false, after) => (false, after.dropLast) := by
  unfold tryStep
  rw [follow]
  by_cases onPath : step ∈ path
  · simp [onPath]
  simp only [List.contains_iff_mem, onPath, if_false]
  cases source : source? nodes step.resource with
  | none => simp
  | some next =>
      have distinctOn : (path ++ [step]).Nodup := by simpa using distinct.concat onPath
      have knownOn : [step] ⊆ allSteps nodes := by simpa using step_mem
      have same : anyStep (follow nodes (allSteps nodes).length) (steps nodes next)
          (path ++ [step]) = tryAll nodes next (path ++ [step]) := by
        apply anyStep_congr
        · intro other other_mem after tried
          have finds := finds_follow_behind distinctOn knownOn
            (steps_subset_allSteps next other_mem)
            (Nat.lt_succ_self (allSteps nodes).length)
          rw [tried] at finds
          exact finds.1
        · intro other other_mem
          exact follow_eq_follow distinctOn knownOn (steps_subset_allSteps next other_mem)
            (Nat.lt_succ_self (allSteps nodes).length) (by omega)
      rcases tried : tryAll nodes next (path ++ [step]) with ⟨found, after⟩
      rw [tried] at same
      cases found with
      | true => simp only [same, tried]
      | false => simp only [same, tried]

/--
On a path of distinct steps, a configuration from which no cycle is found leaves the path alone. One
from which a cycle is found adds a walk to it, which starts at the configuration, is linked through
the sources of beans, and meets a step again only at its end.
-/
theorem tryAll_restores_or_closes (nodes : List Node) (place : Nat) {path : List Step}
    (distinct : path.Nodup) :
    (∀ after, tryAll nodes place path = (false, after) → after = path) ∧
      ∀ after, tryAll nodes place path = (true, after) →
        ∃ walk, after = path ++ walk ∧ ClosesOn nodes place path walk := by
  have restores : ∀ step ∈ steps nodes place, ∀ after,
      tryStep nodes step path = (false, after) → after = path := fun step step_mem =>
    tryStep_restores distinct (steps_subset_allSteps place step_mem)
  rcases anyStep_cases restores with ⟨fails, _⟩ | ⟨step, step_mem, closed, tried, closes⟩
  · refine ⟨fun after tries => ?_, fun after tries => ?_⟩
    · rw [tryAll, fails] at tries
      cases tries
      rfl
    · rw [tryAll, fails] at tries
      cases tries
  · refine ⟨fun after tries => ?_, fun after tries => ?_⟩
    · rw [tryAll, closes] at tries
      cases tries
    · rw [tryAll, closes] at tries
      cases tries
      have finds := finds_tryStep distinct (steps_subset_allSteps place step_mem)
      rw [tried] at finds
      rcases finds with ⟨walk, rfl, linked, distinctAll, last, isLast, last_mem⟩
      have nonempty : step :: walk ≠ [] := List.cons_ne_nil step walk
      rw [List.dropLast_append_of_ne_nil nonempty] at distinctAll last_mem
      rw [List.getLast?_append_of_ne_nil path nonempty] at isLast
      exact ⟨step :: walk, rfl, ⟨step, step_mem, rfl⟩, linked, distinctAll, last, last_mem, isLast⟩

/-- A path that begins with a step of no configuration. -/
def strayPath : List Step :=
  [⟨7, "stray"⟩, ⟨1, "left"⟩]

/-- The tree needs what the branch has, which needs what nobody has. -/
def deadEnds : List Node :=
  [⟨"tree", ["branch", "root"], ["leaf"]⟩, ⟨"branch", ["twig", "twig"], ["branch"]⟩]

theorem tryAll_closes_strayPath :
    strayPath.Nodup ∧
      tryAll namesakes 2 strayPath = (true, strayPath ++ [⟨2, "right"⟩, ⟨1, "left"⟩]) ∧
      (∃ walk, strayPath ++ [⟨2, "right"⟩, ⟨1, "left"⟩] = strayPath ++ walk ∧
        ClosesOn namesakes 2 strayPath walk) ∧
      tryAll deadEnds 0 strayPath = (false, strayPath) := by
  have distinct : strayPath.Nodup := by decide
  have tried : tryAll namesakes 2 strayPath =
      (true, strayPath ++ [⟨2, "right"⟩, ⟨1, "left"⟩]) := by
    cbv
  have closes := (tryAll_restores_or_closes namesakes 2 distinct).2 _ tried
  exact ⟨distinct, tried, closes, by cbv⟩

end BeanContainer.Node
