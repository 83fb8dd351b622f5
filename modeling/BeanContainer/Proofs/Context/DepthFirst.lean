import BeanContainer.Proofs.Context.DependencyWalks
import BeanContainer.Proofs.Context.Supplying
import Mathlib.Data.List.Forall2

/-!
# Queueing in depth-first order

Queueing is described here by the stack of the configurations that are being queued: one that is
met on it is skipped, any other is put on it until its dependencies are queued. This comes to the
same as following the walks along dependencies that meet no configuration twice. One configuration
is queued for each of them, in the order of the walks, and one is skipped for each entry that leads
back from the end of such a walk. Beside what is queued and reported nothing changes.
-/

namespace BeanContainer

variable {σ : Type} {all : List (Configuration σ)}

section Stack

/-- A context and the configurations that are being queued, the outermost first. -/
structure Underway (σ : Type) where
  context : Context σ
  registering : List ConfigurationId

/--
Queueing the configurations one after the other takes the first state to the second. A place that
is no configuration's is passed over.
-/
inductive Registers (all : List (Configuration σ)) :
    List ConfigurationId → Underway σ → Underway σ → Prop
  | done {state : Underway σ} : Registers all [] state state
  | skip {id : ConfigurationId} {rest : List ConfigurationId} {state after : Underway σ}
      (underway : id ∈ state.registering)
      (later : Registers all rest
        { state with context := state.context.visit all (.skip id) } after) :
      Registers all (id :: rest) state after
  | none {id : ConfigurationId} {rest : List ConfigurationId} {state after : Underway σ}
      (fresh : id ∉ state.registering) (unknown : all[id]? = none)
      (later : Registers all rest state after) : Registers all (id :: rest) state after
  | queue {id : ConfigurationId} {rest : List ConfigurationId} {configuration : Configuration σ}
      {state inner after : Underway σ}
      (fresh : id ∉ state.registering) (known : all[id]? = some configuration)
      (dependencies : Registers all configuration.dependencies
        ⟨state.context.visit all (.queue id), state.registering ++ [id]⟩ inner)
      (later : Registers all rest
        { inner with registering := inner.registering.dropLast } after) :
      Registers all (id :: rest) state after

/-- The visits are made one after the other; the stack stays. -/
def Underway.follow (all : List (Configuration σ)) (found : List Visit) (state : Underway σ) :
    Underway σ :=
  { state with context := found.foldl (Context.visit all) state.context }

@[simp]
theorem Underway.follow_append (found later : List Visit) (state : Underway σ) :
    state.follow all (found ++ later) = (state.follow all found).follow all later := by
  simp only [follow, List.foldl_append]

/-- What is put on the stack is taken off again, and what was done is what the visits do. -/
theorem Registers.eq_follow {ids : List ConfigurationId} {state after : Underway σ}
    (registers : Registers all ids state after) :
    after = state.follow all (ids.flatMap (visits all state.registering)) := by
  induction registers with
  | done => rfl
  | skip underway _ ih =>
      rw [ih, List.flatMap_cons, visits_of_mem underway]
      rfl
  | none fresh unknown _ ih =>
      rw [ih, List.flatMap_cons, visits_of_unknown fresh unknown]
      rfl
  | @queue _ _ _ state _ _ fresh known _ _ inside ih =>
      -- The dependencies leave the stack with the configuration on top, which is taken off then.
      rw [ih, inside, List.flatMap_cons, visits_of_known fresh known, Underway.follow_append]
      simp only [Underway.follow, List.dropLast_concat, List.foldl_cons]

variable {registering : List ConfigurationId}

/-- A list of configurations is queued if each of them can be, whatever comes behind it. -/
theorem registers_of_each
    (each : ∀ id (context : Context σ) (rest : List ConfigurationId) (after : Underway σ),
      Registers all rest (Underway.follow all (visits all registering id) ⟨context, registering⟩)
        after → Registers all (id :: rest) ⟨context, registering⟩ after)
    (ids : List ConfigurationId) (context : Context σ) :
    Registers all ids ⟨context, registering⟩
      (Underway.follow all (ids.flatMap (visits all registering)) ⟨context, registering⟩) := by
  induction ids generalizing context with
  | nil => exact .done
  | cons id rest ih =>
      rw [List.flatMap_cons, Underway.follow_append]
      exact each _ _ _ _ (ih _)

/-- Queueing ends, as each configuration put on the stack leaves fewer that are not on it. -/
theorem registers_cons (all : List (Configuration σ)) (registering : List ConfigurationId)
    (id : ConfigurationId) (context : Context σ) (rest : List ConfigurationId)
    (after : Underway σ)
    (later : Registers all rest
      (Underway.follow all (visits all registering id) ⟨context, registering⟩) after) :
    Registers all (id :: rest) ⟨context, registering⟩ after := by
  induction registering, id using visits.induct all generalizing context rest after with
  | case1 registering id underway =>
      rw [visits_of_mem underway] at later
      exact .skip underway later
  | case2 registering id fresh unknown =>
      rw [visits_of_unknown fresh unknown] at later
      exact .none fresh unknown later
  | case3 registering id fresh configuration known ih =>
      rw [visits_of_known fresh known] at later
      refine .queue fresh known (registers_of_each ih configuration.dependencies _) ?_
      rwa [Underway.follow, List.dropLast_concat]

theorem registers_singleton_iff {id : ConfigurationId} {context : Context σ}
    {after : Underway σ} :
    Registers all [id] ⟨context, []⟩ after ↔ after = ⟨context.queue all id, []⟩ := by
  constructor
  · intro registers
    have followed := registers.eq_follow
    rwa [List.flatMap_singleton] at followed
  · rintro rfl
    exact registers_cons all [] id context [] _ .done

end Stack

section Change

/-- What is reported when queueing comes to a configuration. -/
def Visit.reported (all : List (Configuration σ)) : Visit → List Event
  | queue id => (all[id]?.map fun configuration => Event.queued configuration.name).toList
  | skip id => (all[id]?.map fun configuration => Event.skipped configuration.name).toList

/-- What is reported when a configuration is queued. -/
def reportedBy (all : List (Configuration σ)) (id : ConfigurationId) : List Event :=
  (visits all [] id).flatMap (·.reported all)

/-- The context with more configurations behind the queue and more events reported. -/
def Context.extend (context : Context σ) (added : List (Queued σ)) (reported : List Event) :
    Context σ :=
  { context with
    waiting := context.waiting ++ added
    registry := { context.registry with events := context.registry.events ++ reported } }

theorem Context.visit_eq_extend (context : Context σ) (found : Visit) :
    context.visit all found = context.extend (found.queued all) (found.reported all) := by
  cases found with
  | queue id | skip id =>
      simp only [visit, Visit.queued, Visit.reported]
      cases all[id]? <;> simp [extend, report, Registry.report]

theorem Context.queue_eq_extend (id : ConfigurationId) (context : Context σ) :
    context.queue all id = context.extend (queuedBy all id) (reportedBy all id) := by
  unfold queue queuedBy reportedBy
  generalize visits all [] id = found
  induction found generalizing context with
  | nil => simp [extend]
  | cons first rest ih =>
      rw [List.foldl_cons, ih, visit_eq_extend]
      simp only [extend, List.flatMap_cons, List.append_assoc]

end Change

section Walks

/--
The results are those of the places that the walks come to, one for each walk. They stand in the
lexicographic order of the walks, in which what lies beyond a place comes right behind it.
-/
def OneForEach {α : Type} (comesTo : List Nat → ConfigurationId → Prop)
    (result? : ConfigurationId → Option α) (results : List α) : Prop :=
  ∃ walks : List (List Nat), walks.Pairwise (· < ·) ∧
    (∀ walk, walk ∈ walks ↔ ∃ place, comesTo walk place) ∧
      List.Forall₂ (fun walk result => ∃ place, comesTo walk place ∧ result? place = some result)
        walks results

variable {id : ConfigurationId}

/-- The places that some of the visits come to, with the walks to them, have one result each. -/
theorem oneForEach_filterMap {α : Type} {comesTo : List Nat → ConfigurationId → Prop}
    {place? : Visit → Option ConfigurationId} {result? : ConfigurationId → Option α}
    (comes : ∀ walk place, comesTo walk place ↔
      ∃ found, (walk, found) ∈ journeys all [] id ∧ place? found = some place)
    (known : ∀ walk place, comesTo walk place → ∃ result, result? place = some result) :
    OneForEach comesTo result? ((visits all [] id).filterMap fun found =>
      (place? found).bind result?) := by
  rw [← map_snd_journeys, List.filterMap_map]
  refine ⟨(journeys all [] id).filterMap fun journey =>
    (place? journey.2).map fun _ => journey.1, ?_, ?_, ?_⟩
  · rw [List.pairwise_filterMap]
    refine (pairwise_journeys all [] id).imp ?_
    intro journey later before walk isWalk behind isBehind
    rcases Option.map_eq_some_iff.mp isWalk with ⟨_, _, rfl⟩
    rcases Option.map_eq_some_iff.mp isBehind with ⟨_, _, rfl⟩
    exact before
  · intro walk
    simp only [comes, List.mem_filterMap, Option.map_eq_some_iff, Prod.exists]
    constructor
    · rintro ⟨_, found, journey_mem, place, isPlace, rfl⟩
      exact ⟨place, found, journey_mem, isPlace⟩
    · rintro ⟨place, found, journey_mem, isPlace⟩
      exact ⟨walk, found, journey_mem, place, isPlace, rfl⟩
  · -- A visit has a walk exactly if it has a result, so the two lists run in parallel.
    have paired : List.Forall₂ (fun journey other => journey = other ∧
        journey ∈ journeys all [] id) (journeys all [] id) (journeys all [] id) :=
      List.forall₂_same.mpr fun journey journey_mem => ⟨rfl, journey_mem⟩
    refine List.rel_filterMap ?_ paired
    rintro ⟨walk, found⟩ _ ⟨rfl, journey_mem⟩
    cases isPlace : place? found with
    | none =>
        simp only [Function.comp_apply, isPlace, Option.map_none, Option.bind_none]
        exact .none
    | some place =>
        have arrives := (comes walk place).mpr ⟨found, journey_mem, isPlace⟩
        rcases known walk place arrives with ⟨result, isResult⟩
        simp only [Function.comp_apply, isPlace, Option.map_some, Option.bind_some, isResult]
        exact .some ⟨place, arrives, isResult⟩

/-- What a walk that a configuration is queued for comes to, if anything. -/
def Visit.queue? : Visit → Option ConfigurationId
  | queue id => some id
  | skip _ => none

/-- What a walk that a configuration is skipped for comes to, if anything. -/
def Visit.skip? : Visit → Option ConfigurationId
  | queue _ => none
  | skip id => some id

theorem Visit.queue?_eq_some {found : Visit} {place : ConfigurationId} :
    found.queue? = some place ↔ found = .queue place := by
  cases found <;> simp [queue?]

theorem Visit.skip?_eq_some {found : Visit} {place : ConfigurationId} :
    found.skip? = some place ↔ found = .skip place := by
  cases found <;> simp [skip?]

theorem Visit.queued_eq (found : Visit) : found.queued all =
    (found.queue?.bind fun place => all[place]?.map (.ofConfiguration place)).toList := by
  cases found <;> rfl

theorem Visit.filter_warn_reported (found : Visit) :
    (found.reported all).filter (·.level = .warn) =
      (found.skip?.bind fun place => all[place]?.map (.skipped ·.name)).toList := by
  cases found with
  | queue place | skip place =>
      simp only [reported, skip?, Option.bind_none, Option.bind_some]
      cases all[place]? <;> rfl

theorem Visit.filter_not_warn_reported (found : Visit) :
    (found.reported all).filter (·.level ≠ .warn) =
      (found.queued all).map (.queued ·.configuration.name) := by
  cases found with
  | queue place | skip place =>
      simp only [reported, queued]
      cases all[place]? <;> rfl

/-- One configuration is queued for each walk that meets none twice. -/
theorem oneForEach_queuedBy (all : List (Configuration σ)) (id : ConfigurationId) :
    OneForEach (LeadsTo all id) (fun last => all[last]?.map (.ofConfiguration last))
      (queuedBy all id) := by
  simp only [queuedBy, Visit.queued_eq, ← List.filterMap_eq_flatMap_toList]
  refine oneForEach_filterMap ?_ ?_
  · intro walk last
    simp only [Visit.queue?_eq_some, exists_eq_right, mem_journeys_queue_of_nil]
  · rintro walk last ⟨places, route, _, isLast⟩
    rcases route.known_of_mem (List.mem_of_getLast? isLast) with ⟨configuration, known⟩
    exact ⟨_, by rw [known, Option.map_some]⟩

/-- One warning is reported for each entry that leads from the end of such a walk back to it. -/
theorem oneForEach_warnings (all : List (Configuration σ)) (id : ConfigurationId) :
    OneForEach (LeadsBackTo all id) (fun other => all[other]?.map (.skipped ·.name))
      ((reportedBy all id).filter (·.level = .warn)) := by
  simp only [reportedBy, List.filter_flatMap, Visit.filter_warn_reported,
    ← List.filterMap_eq_flatMap_toList]
  refine oneForEach_filterMap ?_ ?_
  · intro walk other
    simp only [Visit.skip?_eq_some, exists_eq_right, mem_journeys_skip_of_nil]
  · rintro walk other ⟨_, _, _, places, _, _, route, _, _, _, _, back⟩
    rcases route.known_of_mem back with ⟨configuration, known⟩
    exact ⟨_, by rw [known, Option.map_some]⟩

theorem filter_not_warn_reportedBy (all : List (Configuration σ)) (id : ConfigurationId) :
    (reportedBy all id).filter (·.level ≠ .warn) =
      (queuedBy all id).map (.queued ·.configuration.name) := by
  simp only [reportedBy, queuedBy, List.filter_flatMap, Visit.filter_not_warn_reported,
    List.map_flatMap]

theorem mem_queuedBy_of_reachable {other : ConfigurationId} {configuration : Configuration σ}
    (reachable : Relation.ReflTransGen (DependsOn all) id other)
    (known : all[other]? = some configuration) :
    .ofConfiguration other configuration ∈ queuedBy all id := by
  rcases exists_leadsTo_of_reachable reachable known with ⟨walk, leadsTo⟩
  have journey_mem := mem_journeys_queue_of_nil.mpr leadsTo
  have visit_mem := List.mem_map_of_mem (f := Prod.snd) journey_mem
  rw [map_snd_journeys] at visit_mem
  exact List.mem_flatMap.mpr ⟨_, visit_mem, by simp [Visit.queued, known]⟩

end Walks

/--
Queueing a configuration ends with an empty stack and follows the walks along dependencies: one
configuration is queued for each walk that meets none twice, in depth-first order, and so each that
can be reached is. A warning is reported for each entry that leads back from the end of such a walk,
and nothing else changes.
-/
theorem Context.queue_follows_walks (all : List (Configuration σ)) (id : ConfigurationId)
    (context : Context σ) :
    (∀ after, Registers all [id] ⟨context, []⟩ after ↔ after = ⟨context.queue all id, []⟩) ∧
      ∃ added reported, context.queue all id = context.extend added reported ∧
        OneForEach (LeadsTo all id) (fun last => all[last]?.map (.ofConfiguration last)) added ∧
        (∀ other configuration, Relation.ReflTransGen (DependsOn all) id other →
          all[other]? = some configuration → .ofConfiguration other configuration ∈ added) ∧
        OneForEach (LeadsBackTo all id) (fun other => all[other]?.map (.skipped ·.name))
          (reported.filter (·.level = .warn)) ∧
        reported.filter (·.level ≠ .warn) = added.map (.queued ·.configuration.name) :=
  ⟨fun _ => registers_singleton_iff, queuedBy all id, reportedBy all id,
    context.queue_eq_extend id, oneForEach_queuedBy all id,
    fun _ _ => mem_queuedBy_of_reachable, oneForEach_warnings all id,
    filter_not_warn_reportedBy all id⟩

/-- A dependency named twice is queued twice, and both copies lead back to what depends on them. -/
example : visits
    [{ Configuration.supplying "pair" [] [] with dependencies := [1, 1, 0] },
      { Configuration.supplying "single" [] [] with dependencies := [0] }] [] 0 =
    [.queue 0, .queue 1, .skip 0, .queue 1, .skip 0, .skip 0] := by
  cbv

end BeanContainer
