import BeanContainer.Proofs.Context.Queueing
import Mathlib.Data.List.Nodup
import Mathlib.Logic.Relation

/-!
# Walks along dependencies

A walk starts at a configuration and takes one entry of its dependencies, then one entry of the
configuration that it came to, and so on. It is given by the entries, so two entries that name the
same configuration make two walks. Queueing follows all walks that meet no configuration twice. It
comes to them in depth-first order, which is the lexicographic order of the entries, and it goes on
until the next entry would lead back to a configuration on the walk.

No configuration that depends on itself is lost by this: whatever can be reached at all can be
reached without meeting a configuration twice.
-/

namespace BeanContainer

variable {σ : Type} {all : List (Configuration σ)}

/-- Taking the entries one after the other leads from the configuration through the places. -/
inductive Route (all : List (Configuration σ)) :
    ConfigurationId → List Nat → List ConfigurationId → Prop
  | here {id : ConfigurationId} {configuration : Configuration σ}
      (known : all[id]? = some configuration) : Route all id [] [id]
  | along {id next : ConfigurationId} {configuration : Configuration σ} {entry : Nat}
      {entries : List Nat} {places : List ConfigurationId}
      (known : all[id]? = some configuration)
      (taken : configuration.dependencies[entry]? = some next)
      (onward : Route all next entries places) : Route all id (entry :: entries) (id :: places)

/-- The walk leads to the configuration given last and meets none twice. -/
def LeadsTo (all : List (Configuration σ)) (id : ConfigurationId) (walk : List Nat)
    (last : ConfigurationId) : Prop :=
  ∃ places, Route all id walk places ∧ places.Nodup ∧ places.getLast? = some last

/-- Up to its last entry the walk meets no configuration twice, and that entry leads back. -/
def LeadsBackTo (all : List (Configuration σ)) (id : ConfigurationId) (walk : List Nat)
    (other : ConfigurationId) : Prop :=
  ∃ front entry, walk = front ++ [entry] ∧
    ∃ places last configuration, Route all id front places ∧ places.Nodup ∧
      places.getLast? = some last ∧ all[last]? = some configuration ∧
        configuration.dependencies[entry]? = some other ∧ other ∈ places

/-- One configuration names the other one among its dependencies. -/
def DependsOn (all : List (Configuration σ)) (id other : ConfigurationId) : Prop :=
  ∃ configuration, all[id]? = some configuration ∧ other ∈ configuration.dependencies

/-- The visits of queueing, each with the entries that led to it. -/
def journeys (all : List (Configuration σ)) (walk : List ConfigurationId) (id : ConfigurationId) :
    List (List Nat × Visit) :=
  if _onWalk : id ∈ walk then [([], .skip id)]
  else
    match _known : all[id]? with
    | none => []
    | some configuration =>
      ([], .queue id) :: configuration.dependencies.zipIdx.flatMap fun dependency =>
        (journeys all (walk ++ [id]) dependency.1).map fun journey =>
          (dependency.2 :: journey.1, journey.2)
termination_by ((List.range all.length).filter fun place => decide (place ∉ walk)).length
decreasing_by
  have isPlace : id < all.length := (List.getElem?_eq_some_iff.mp _known).1
  exact length_filter_notMem_lt (List.mem_range.mpr isPlace) _onWalk

section Journeys

variable {walk : List ConfigurationId} {id : ConfigurationId}

theorem journeys_of_mem (onWalk : id ∈ walk) : journeys all walk id = [([], .skip id)] := by
  rw [journeys, dif_pos onWalk]

theorem journeys_of_unknown (fresh : id ∉ walk) (unknown : all[id]? = none) :
    journeys all walk id = [] := by
  rw [journeys, dif_neg fresh]
  split
  · rfl
  · next configuration known =>
      rw [unknown] at known
      cases known

theorem journeys_of_known {configuration : Configuration σ} (fresh : id ∉ walk)
    (known : all[id]? = some configuration) :
    journeys all walk id = ([], .queue id) :: configuration.dependencies.zipIdx.flatMap
      fun dependency => (journeys all (walk ++ [id]) dependency.1).map fun journey =>
        (dependency.2 :: journey.1, journey.2) := by
  rw [journeys, dif_neg fresh]
  split
  · next unknown =>
      rw [unknown] at known
      cases known
  · next other found =>
      rw [found] at known
      cases known
      rfl

theorem visits_of_mem (onWalk : id ∈ walk) : visits all walk id = [.skip id] := by
  rw [visits, dif_pos onWalk]

theorem visits_of_unknown (fresh : id ∉ walk) (unknown : all[id]? = none) :
    visits all walk id = [] := by
  rw [visits, dif_neg fresh]
  split
  · rfl
  · next configuration known =>
      rw [unknown] at known
      cases known

theorem visits_of_known {configuration : Configuration σ} (fresh : id ∉ walk)
    (known : all[id]? = some configuration) :
    visits all walk id =
      .queue id :: configuration.dependencies.flatMap (visits all (walk ++ [id])) := by
  rw [visits, dif_neg fresh]
  split
  · next unknown =>
      rw [unknown] at known
      cases known
  · next other found =>
      rw [found] at known
      cases known
      rfl

theorem map_snd_journeys (all : List (Configuration σ)) (walk : List ConfigurationId)
    (id : ConfigurationId) : (journeys all walk id).map (·.2) = visits all walk id := by
  induction walk, id using visits.induct all with
  | case1 walk id onWalk => rw [journeys_of_mem onWalk, visits_of_mem onWalk]; rfl
  | case2 walk id fresh unknown =>
      rw [journeys_of_unknown fresh unknown, visits_of_unknown fresh unknown]
      rfl
  | case3 walk id fresh configuration known ih =>
      rw [journeys_of_known fresh known, visits_of_known fresh known, List.map_cons,
        List.map_flatMap]
      simp only [List.map_map, Function.comp_def, ih]
      rw [← List.flatMap_map Prod.fst, List.zipIdx_map_fst]

/-- The walks come in lexicographic order, so none of them comes twice. -/
theorem pairwise_journeys (all : List (Configuration σ)) (walk : List ConfigurationId)
    (id : ConfigurationId) : (journeys all walk id).Pairwise fun journey later =>
      journey.1 < later.1 := by
  induction walk, id using visits.induct all with
  | case1 walk id onWalk => simp [journeys_of_mem onWalk]
  | case2 walk id fresh unknown => simp [journeys_of_unknown fresh unknown]
  | case3 walk id fresh configuration known ih =>
      rw [journeys_of_known fresh known, List.pairwise_cons, List.pairwise_flatMap]
      refine ⟨?_, ?_, ?_⟩
      · intro journey journey_mem
        rcases List.mem_flatMap.mp journey_mem with ⟨dependency, _, journey_mem⟩
        rcases List.mem_map.mp journey_mem with ⟨onward, _, rfl⟩
        exact List.nil_lt_cons dependency.2 onward.1
      · intro dependency _
        rw [List.pairwise_map]
        exact (ih dependency.1).imp fun before =>
          List.cons_lt_cons_iff.mpr (Or.inr ⟨rfl, before⟩)
      · have ordered : configuration.dependencies.zipIdx.Pairwise fun dependency later =>
            dependency.2 < later.2 := by
          have numbered : (configuration.dependencies.zipIdx.map Prod.snd).Pairwise (· < ·) := by
            rw [List.zipIdx_map_snd]
            exact List.pairwise_lt_range'
          exact List.pairwise_map.mp numbered
        refine ordered.imp ?_
        intro dependency later before journey journey_mem behind behind_mem
        rcases List.mem_map.mp journey_mem with ⟨onward, _, rfl⟩
        rcases List.mem_map.mp behind_mem with ⟨onwardBehind, _, rfl⟩
        exact List.cons_lt_cons_iff.mpr (Or.inl before)

theorem mem_journeys_nil {visit : Visit} : ([], visit) ∈ journeys all walk id ↔
    (id ∈ walk ∧ visit = .skip id) ∨
      (id ∉ walk ∧ (∃ configuration, all[id]? = some configuration) ∧ visit = .queue id) := by
  by_cases onWalk : id ∈ walk
  · simp [journeys_of_mem onWalk, onWalk]
  · cases known : all[id]? with
    | none => simp [journeys_of_unknown onWalk known, onWalk]
    | some configuration => simp [journeys_of_known onWalk known, onWalk]

theorem mem_journeys_cons {entry : Nat} {rest : List Nat} {visit : Visit} :
    (entry :: rest, visit) ∈ journeys all walk id ↔
      id ∉ walk ∧ ∃ configuration next, all[id]? = some configuration ∧
        configuration.dependencies[entry]? = some next ∧
          (rest, visit) ∈ journeys all (walk ++ [id]) next := by
  by_cases onWalk : id ∈ walk
  · simp [journeys_of_mem onWalk, onWalk]
  · cases known : all[id]? with
    | none => simp [journeys_of_unknown onWalk known]
    | some configuration =>
        rw [journeys_of_known onWalk known]
        simp [onWalk, List.mem_zipIdx_iff_getElem?]

theorem Route.places_ne_nil {entries : List Nat} {places : List ConfigurationId}
    (route : Route all id entries places) : places ≠ [] := by
  cases route <;> simp

theorem Route.known_of_mem {entries : List Nat} {places : List ConfigurationId}
    {place : ConfigurationId} (route : Route all id entries places) (met : place ∈ places) :
    ∃ configuration, all[place]? = some configuration := by
  induction route with
  | here known =>
      cases List.mem_singleton.mp met
      exact ⟨_, known⟩
  | along known _ _ ih =>
      rcases List.mem_cons.mp met with rfl | met
      · exact ⟨_, known⟩
      · exact ih met

/-- The places are met for the first time, each of them once. -/
def Unmet (walk places : List ConfigurationId) : Prop :=
  places.Nodup ∧ walk.Disjoint places

theorem unmet_cons {places : List ConfigurationId} :
    Unmet walk (id :: places) ↔ id ∉ walk ∧ Unmet (walk ++ [id]) places := by
  simp only [Unmet, List.nodup_cons, List.disjoint_cons_right, List.disjoint_append_left,
    List.singleton_disjoint]
  tauto

theorem unmet_singleton : Unmet walk [id] ↔ id ∉ walk := by
  simp [Unmet]

/-- A configuration is queued at the end of each walk that meets none twice. -/
theorem mem_journeys_queue {entries : List Nat} {last : ConfigurationId} :
    (entries, .queue last) ∈ journeys all walk id ↔
      ∃ places, Route all id entries places ∧ Unmet walk places ∧ places.getLast? = some last := by
  induction entries generalizing walk id with
  | nil =>
      rw [mem_journeys_nil]
      constructor
      · rintro (⟨_, impossible⟩ | ⟨fresh, ⟨_, known⟩, isQueue⟩)
        · cases impossible
        · cases isQueue
          exact ⟨_, .here known, unmet_singleton.mpr fresh, rfl⟩
      · rintro ⟨_, route, unmet, isLast⟩
        cases route with
        | here known =>
            cases isLast
            exact Or.inr ⟨unmet_singleton.mp unmet, ⟨_, known⟩, rfl⟩
  | cons entry rest ih =>
      rw [mem_journeys_cons]
      constructor
      · rintro ⟨fresh, _, _, known, taken, onward⟩
        rcases ih.mp onward with ⟨places, route, unmet, isLast⟩
        refine ⟨_, .along known taken route, unmet_cons.mpr ⟨fresh, unmet⟩, ?_⟩
        rwa [List.getLast?_cons_of_ne_nil route.places_ne_nil]
      · rintro ⟨_, route, unmet, isLast⟩
        cases route with
        | along known taken route =>
            rcases unmet_cons.mp unmet with ⟨fresh, unmet⟩
            rw [List.getLast?_cons_of_ne_nil route.places_ne_nil] at isLast
            exact ⟨fresh, _, _, known, taken, ih.mpr ⟨_, route, unmet, isLast⟩⟩

/-- A configuration is skipped for each entry that leads from the end of a walk back to it. -/
theorem mem_journeys_skip {entries : List Nat} {other : ConfigurationId} :
    (entries, .skip other) ∈ journeys all walk id ↔
      (entries = [] ∧ other = id ∧ id ∈ walk) ∨
      ∃ front entry, entries = front ++ [entry] ∧
        ∃ places last configuration, Route all id front places ∧ Unmet walk places ∧
          places.getLast? = some last ∧ all[last]? = some configuration ∧
            configuration.dependencies[entry]? = some other ∧ other ∈ walk ++ places := by
  induction entries generalizing walk id with
  | nil =>
      rw [mem_journeys_nil]
      constructor
      · rintro (⟨onWalk, isSkip⟩ | ⟨_, _, impossible⟩)
        · cases isSkip
          exact Or.inl ⟨rfl, rfl, onWalk⟩
        · cases impossible
      · rintro (⟨_, rfl, onWalk⟩ | ⟨_, _, impossible, _⟩)
        · exact Or.inl ⟨onWalk, rfl⟩
        · cases List.append_ne_nil_of_right_ne_nil _ (List.cons_ne_nil _ _) impossible.symm
  | cons entry rest ih =>
      rw [mem_journeys_cons]
      constructor
      · rintro ⟨fresh, configuration, _, known, taken, onward⟩
        right
        -- The entry either leads back itself, or to a place from which a later one does.
        rcases ih.mp onward with ⟨rfl, rfl, back⟩ |
          ⟨front, exit, rfl, places, last, final, route, unmet, isLast, found, led, back⟩
        · exact ⟨[], entry, rfl, [id], id, configuration, .here known,
            unmet_singleton.mpr fresh, rfl, known, taken, back⟩
        · refine ⟨entry :: front, exit, rfl, id :: places, last, final, .along known taken route,
            unmet_cons.mpr ⟨fresh, unmet⟩, ?_, found, led, ?_⟩
          · rwa [List.getLast?_cons_of_ne_nil route.places_ne_nil]
          · rwa [List.append_assoc, List.singleton_append] at back
      · rintro (⟨impossible, _⟩ |
          ⟨front, exit, split, places, last, final, route, unmet, isLast, found, led, back⟩)
        · cases impossible
        · cases route with
          | here _ =>
              cases split
              cases isLast
              exact ⟨unmet_singleton.mp unmet, final, _, found, led,
                ih.mpr (Or.inl ⟨rfl, rfl, back⟩)⟩
          | along known taken route =>
              cases split
              rcases unmet_cons.mp unmet with ⟨fresh, unmet⟩
              rw [List.getLast?_cons_of_ne_nil route.places_ne_nil] at isLast
              rw [← List.singleton_append, ← List.append_assoc] at back
              exact ⟨fresh, _, _, known, taken, ih.mpr (Or.inr
                ⟨_, exit, rfl, _, last, final, route, unmet, isLast, found, led, back⟩)⟩

theorem mem_journeys_queue_of_nil {entries : List Nat} {last : ConfigurationId} :
    (entries, .queue last) ∈ journeys all [] id ↔ LeadsTo all id entries last := by
  simp only [mem_journeys_queue, LeadsTo, Unmet, List.disjoint_nil_left, and_true]

theorem mem_journeys_skip_of_nil {entries : List Nat} {other : ConfigurationId} :
    (entries, .skip other) ∈ journeys all [] id ↔ LeadsBackTo all id entries other := by
  simp only [mem_journeys_skip, LeadsBackTo, Unmet, List.disjoint_nil_left, and_true,
    List.not_mem_nil, and_false, false_or, List.nil_append]

end Journeys

section Reachability

variable {id other : ConfigurationId}

/-- From each place of a route the rest of it leads on to the same end. -/
theorem Route.exists_onward {entries : List Nat} {places : List ConfigurationId}
    {place : ConfigurationId} (route : Route all id entries places) (met : place ∈ places) :
    ∃ rest behind, Route all place rest behind ∧ behind.Sublist places ∧
      behind.getLast? = places.getLast? := by
  induction route with
  | here known =>
      cases List.mem_singleton.mp met
      exact ⟨[], _, .here known, .refl _, rfl⟩
  | along known taken onward ih =>
      rcases List.mem_cons.mp met with rfl | met
      · exact ⟨_, _, .along known taken onward, .refl _, rfl⟩
      · rcases ih met with ⟨rest, behind, route, part, sameLast⟩
        refine ⟨rest, behind, route, part.cons _, ?_⟩
        rw [sameLast, List.getLast?_cons_of_ne_nil onward.places_ne_nil]

/-- A walk that comes back to its start can be left out, so none need meet a configuration twice. -/
theorem exists_leadsTo_of_reachable {configuration : Configuration σ}
    (reachable : Relation.ReflTransGen (DependsOn all) id other)
    (known : all[other]? = some configuration) : ∃ walk, LeadsTo all id walk other := by
  induction reachable using Relation.ReflTransGen.head_induction_on with
  | refl =>
      exact ⟨[], [other], .here known, List.nodup_singleton other, rfl⟩
  | @head id next depends _ ih =>
      rcases depends with ⟨first, found, next_mem⟩
      rcases List.mem_iff_getElem?.mp next_mem with ⟨entry, taken⟩
      rcases ih with ⟨walk, places, route, distinct, isLast⟩
      by_cases met : id ∈ places
      · -- The route comes back to its start: what lies behind leads to the same end.
        rcases route.exists_onward met with ⟨rest, behind, onward, part, sameLast⟩
        exact ⟨rest, behind, onward, distinct.sublist part, sameLast.trans isLast⟩
      · refine ⟨entry :: walk, id :: places, .along found taken route,
          List.nodup_cons.mpr ⟨met, distinct⟩, ?_⟩
        rwa [List.getLast?_cons_of_ne_nil route.places_ne_nil]

end Reachability

end BeanContainer
