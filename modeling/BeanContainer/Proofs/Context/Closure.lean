import BeanContainer.Proofs.Context.Circle
import BeanContainer.Proofs.Context.WellBehaved
import Mathlib.Order.Bounds.Basic

/-!
# What an assembly loads

The configurations that can be loaded at all form the least set that holds each waiting
configuration whose resources are registered at first or declared in the set. An assembly of
well-behaved configurations loads this set, in whichever order they wait: what has been loaded is
always part of it, and what the last pass leaves behind shows that the loaded configurations are
closed in the same sense.
-/

namespace BeanContainer

variable {σ : Type}

/-- The configuration and its place, which stay the same while it waits and when it is loaded. -/
def Queued.entry (queued : Queued σ) : ConfigurationId × Configuration σ :=
  (queued.id, queued.configuration)

/-- The configuration and its place. -/
def Active.entry (active : Active σ) : ConfigurationId × Configuration σ :=
  (active.id, active.configuration)

theorem Queued.pruned_congr {before after : Registry} (same : after.contains = before.contains)
    (queued : Queued σ) : queued.pruned after = queued.pruned before := by
  rw [pruned, pruned, same]

/-- What waits under the entry for all that the registry does not have. -/
def Queued.awaiting (registry : Registry) (entry : ConfigurationId × Configuration σ) : Queued σ :=
  ⟨entry.1, entry.2, entry.2.required.filter fun name => !registry.contains name⟩

theorem Queued.awaiting_congr {before after : Registry} (same : after.contains = before.contains) :
    (awaiting after : ConfigurationId × Configuration σ → Queued σ) = awaiting before := by
  funext entry
  rw [awaiting, awaiting, same]

theorem Queued.map_pruned {registry : Registry} {queue : List (Queued σ)}
    (tracks : ∀ queued ∈ queue, queued.Tracks registry) :
    queue.map (·.pruned registry) = (queue.map Queued.entry).map (Queued.awaiting registry) := by
  rw [List.map_map]
  refine List.map_congr_left fun queued queued_mem => ?_
  have missing := (tracks queued queued_mem).pruned_missing
  simp only [Queued.pruned] at missing ⊢
  rw [missing]
  rfl

namespace Context

/-- The bean is registered, or declared by a configuration of the set. -/
def Available (context : Context σ) (loaded : Set (Configuration σ)) (bean : String) : Prop :=
  context.registry.contains bean = true ∨
    ∃ configuration ∈ loaded, bean ∈ configuration.beanNames

/-- The set holds each waiting configuration whose resources it makes available. -/
def ClosedUnderLoading (context : Context σ) (loaded : Set (Configuration σ)) : Prop :=
  ∀ queued ∈ context.waiting,
    (∀ resource ∈ queued.configuration.resources, context.Available loaded resource.name) →
      queued.configuration ∈ loaded

/-- The configurations that no closed set can do without. -/
def loadable (context : Context σ) : Set (Configuration σ) :=
  {configuration | ∀ loaded, context.ClosedUnderLoading loaded → configuration ∈ loaded}

theorem isLeast_loadable (context : Context σ) :
    IsLeast {loaded | context.ClosedUnderLoading loaded} context.loadable := by
  refine ⟨?_, ?_⟩
  · intro queued queued_mem available loaded closed
    refine closed queued queued_mem fun resource resource_mem => ?_
    rcases available resource resource_mem with registered | ⟨configuration, needed, declared⟩
    · exact Or.inl registered
    · exact Or.inr ⟨configuration, needed loaded closed, declared⟩
  · intro loaded closed configuration needed
    exact needed loaded closed

/-- With more beans and more waiting configurations, no less can be loaded. -/
theorem loadable_mono {left right : Context σ}
    (names : ∀ name, left.registry.contains name = true → right.registry.contains name = true)
    (waiting : left.waiting ⊆ right.waiting) : left.loadable ⊆ right.loadable := by
  intro configuration needed loaded closed
  refine needed loaded fun queued queued_mem available => ?_
  refine closed queued (waiting queued_mem) fun resource resource_mem => ?_
  exact (available resource resource_mem).imp_left (names resource.name)

theorem loadable_congr_of_contains {left right : Context σ}
    (same : left.registry.contains = right.registry.contains)
    (perm : left.waiting.Perm right.waiting) : left.loadable = right.loadable :=
  Set.Subset.antisymm (loadable_mono (fun _ => same ▸ id) perm.subset)
    (loadable_mono (fun _ => same ▸ id) perm.symm.subset)

theorem loadable_congr {left right : Context σ} (same : left.registry = right.registry)
    (perm : left.waiting.Perm right.waiting) : left.loadable = right.loadable :=
  loadable_congr_of_contains (congrArg Registry.contains same) perm

/--
Well-behaved configurations wait, none of which declares a bean that another one declares or that is
registered. In every run, those that wait keep track of their resources.
-/
structure WellPosed (context : Context σ) : Prop where
  tracks : context.Tracks
  wellBehaved : ∀ queued ∈ context.waiting, queued.configuration.WellBehaved context.registry
  apart : Queued.DeclareApart context.waiting
  free : ∀ queued ∈ context.waiting, ∀ bean ∈ queued.configuration.beanNames,
    context.registry.contains bean = false

theorem WellPosed.of_perm {context permuted : Context σ} (wellPosed : context.WellPosed)
    (same : permuted.registry = context.registry)
    (perm : permuted.waiting.Perm context.waiting) : permuted.WellPosed where
  tracks queued queued_mem := by
    rw [same]
    exact wellPosed.tracks queued (perm.mem_iff.mp queued_mem)
  wellBehaved queued queued_mem := by
    rw [same]
    exact wellPosed.wellBehaved queued (perm.mem_iff.mp queued_mem)
  apart := wellPosed.apart.of_perm perm.symm
  free queued queued_mem := by
    rw [same]
    exact wellPosed.free queued (perm.mem_iff.mp queued_mem)

/--
Out of the configurations that wait in the initial context, the added ones have been loaded, and the
queue is what is left. The registry has what was there at first and the beans of the added ones.
-/
structure Loads (initial : Context σ) (registry : Registry) (added : List (Active σ))
    (queue : List (Queued σ)) : Prop where
  tracks : ∀ queued ∈ queue, queued.Tracks registry
  entries : (added.map Active.entry ++ queue.map Queued.entry).Perm
    (initial.waiting.map Queued.entry)
  names : ∀ name, registry.contains name = true ↔
    initial.registry.contains name = true ∨
      ∃ active ∈ added, name ∈ active.configuration.beanNames
  sound : ∀ active ∈ added, active.configuration ∈ initial.loadable ∧
    active.configuration.IsSatisfied registry

namespace Loads

variable {initial : Context σ} {registry : Registry} {added : List (Active σ)}
  {queue : List (Queued σ)}

theorem mem_or_mem (loads : initial.Loads registry added queue) {queued : Queued σ}
    (queued_mem : queued ∈ initial.waiting) :
    (∃ active ∈ added, active.configuration = queued.configuration) ∨
      ∃ other ∈ queue, other.configuration = queued.configuration := by
  have entry_mem := loads.entries.mem_iff.mpr (List.mem_map_of_mem queued_mem)
  rw [List.mem_append, List.mem_map, List.mem_map] at entry_mem
  rcases entry_mem with ⟨active, active_mem, same⟩ | ⟨other, other_mem, same⟩
  · exact Or.inl ⟨active, active_mem, congrArg Prod.snd same⟩
  · exact Or.inr ⟨other, other_mem, congrArg Prod.snd same⟩

theorem exists_original (loads : initial.Loads registry added queue) {queued : Queued σ}
    (queued_mem : queued ∈ queue) :
    ∃ original ∈ initial.waiting, original.configuration = queued.configuration := by
  have entry_mem := loads.entries.subset
    (List.mem_append_right (added.map Active.entry) (List.mem_map_of_mem queued_mem))
  rcases List.mem_map.mp entry_mem with ⟨original, original_mem, same⟩
  exact ⟨original, original_mem, congrArg Prod.snd same⟩

theorem pairwise_disjoint (loads : initial.Loads registry added queue)
    (apart : Queued.DeclareApart initial.waiting) :
    (added.map Active.entry ++ queue.map Queued.entry).Pairwise fun entry other =>
      List.Disjoint entry.2.beanNames other.2.beanNames :=
  (loads.entries.pairwise_iff List.disjoint_symm).mpr (List.pairwise_map.mpr apart)

/-- What waits is still free: neither registered at first nor declared by what has been loaded. -/
theorem free (loads : initial.Loads registry added queue) (wellPosed : initial.WellPosed)
    {queued : Queued σ} (queued_mem : queued ∈ queue) :
    ∀ bean ∈ queued.configuration.beanNames, registry.contains bean = false := by
  intro bean declared
  rcases loads.exists_original queued_mem with ⟨original, original_mem, same⟩
  rw [Bool.eq_false_iff, Ne, loads.names, not_or]
  refine ⟨?_, ?_⟩
  · rw [← same] at declared
    simp [wellPosed.free original original_mem bean declared]
  · rintro ⟨active, active_mem, declaredBefore⟩
    have disjoint := (List.pairwise_append.mp (loads.pairwise_disjoint wellPosed.apart)).2.2
    exact disjoint active.entry (List.mem_map_of_mem active_mem) queued.entry
      (List.mem_map_of_mem queued_mem) declaredBefore declared

/-- What is left waits as well-posed as everything did, where the hooks still behave well. -/
theorem wellPosed {current : Context σ}
    (loads : initial.Loads current.registry added current.waiting) (wellPosed : initial.WellPosed)
    (wellBehaved : ∀ queued ∈ initial.waiting, queued.configuration.WellBehaved current.registry) :
    current.WellPosed where
  tracks := loads.tracks
  wellBehaved queued queued_mem := by
    rcases loads.exists_original queued_mem with ⟨original, original_mem, same⟩
    rw [← same]
    exact wellBehaved original original_mem
  apart := by
    have apart := (List.pairwise_append.mp (loads.pairwise_disjoint wellPosed.apart)).2.1
    rwa [List.pairwise_map] at apart
  free queued queued_mem := loads.free wellPosed queued_mem

/-- Whatever gets its resources from the registry or from the least set is in that set. -/
theorem mem_loadable (loads : initial.Loads registry added queue) {queued : Queued σ}
    (queued_mem : queued ∈ queue)
    (available : ∀ resource ∈ queued.configuration.resources,
      registry.contains resource.name = true ∨
        ∃ configuration ∈ initial.loadable, resource.name ∈ configuration.beanNames) :
    queued.configuration ∈ initial.loadable := by
  rcases loads.exists_original queued_mem with ⟨original, original_mem, same⟩
  rw [← same] at available ⊢
  refine initial.isLeast_loadable.1 original original_mem fun resource resource_mem => ?_
  rcases available resource resource_mem with contained | declared
  · rcases (loads.names resource.name).mp contained with registered | ⟨active, active_mem, declared⟩
    · exact Or.inl registered
    · exact Or.inr ⟨active.configuration, (loads.sound active active_mem).1, declared⟩
  · exact Or.inr declared

end Loads

/--
How far an assembly has come: the added configurations have been loaded, and the queue is what is
left of those that waited at first.
-/
structure Assembling (initial current : Context σ) (added : List (Active σ))
    (queue : List (Queued σ)) : Prop where
  grows : initial.Grows current
  active : current.active = initial.active ++ added
  tracks : ∀ queued ∈ queue, queued.Tracks current.registry
  entries : (added.map Active.entry ++ queue.map Queued.entry).Perm
    (initial.waiting.map Queued.entry)
  ordered : (queue.map Queued.entry).Sublist (initial.waiting.map Queued.entry)
  names : ∀ name, current.registry.contains name = true ↔
    initial.registry.contains name = true ∨
      ∃ active ∈ added, name ∈ active.configuration.beanNames
  sound : ∀ active ∈ added, active.configuration ∈ initial.loadable ∧
    active.configuration.IsSatisfied current.registry

namespace Assembling

variable {initial current : Context σ} {added : List (Active σ)}

theorem start (tracks : initial.Tracks) : initial.Assembling initial [] initial.waiting where
  grows := .of_registry_eq rfl
  active := by simp
  tracks := tracks
  entries := by simp
  ordered := List.Sublist.refl _
  names := by simp
  sound := by simp

theorem loads {queue : List (Queued σ)} (assembling : initial.Assembling current added queue) :
    initial.Loads current.registry added queue :=
  ⟨assembling.tracks, assembling.entries, assembling.names, assembling.sound⟩

theorem exists_original {queue : List (Queued σ)}
    (assembling : initial.Assembling current added queue) {queued : Queued σ}
    (queued_mem : queued ∈ queue) :
    ∃ original ∈ initial.waiting, original.configuration = queued.configuration :=
  assembling.loads.exists_original queued_mem

theorem wait {queued : Queued σ} {still rest : List (Queued σ)}
    (assembling : initial.Assembling current added (still ++ queued :: rest)) :
    initial.Assembling current added (still ++ [queued.pruned current.registry] ++ rest) where
  grows := assembling.grows
  active := assembling.active
  tracks other other_mem := by
    have tracks := assembling.tracks
    simp only [List.mem_append, List.mem_cons, List.not_mem_nil, or_false] at tracks other_mem
    rcases other_mem with (other_mem | rfl) | other_mem
    · exact tracks other (Or.inl other_mem)
    · exact (tracks queued (Or.inr (Or.inl rfl))).pruned
    · exact tracks other (Or.inr (Or.inr other_mem))
  entries := by simpa [Queued.entry] using assembling.entries
  ordered := by simpa [Queued.entry] using assembling.ordered
  names := assembling.names
  sound := assembling.sound

theorem wellBehaved {queue : List (Queued σ)} (assembling : initial.Assembling current added queue)
    (wellPosed : initial.WellPosed) {queued : Queued σ} (queued_mem : queued ∈ queue) :
    queued.configuration.WellBehaved initial.registry := by
  rcases assembling.exists_original queued_mem with ⟨original, original_mem, same⟩
  rw [← same]
  exact wellPosed.wellBehaved original original_mem

/-- Once a configuration is loaded and its beans are registered, it counts as added. -/
theorem add {queued : Queued σ} {still rest : List (Queued σ)} {active : Active σ}
    {registry : Registry} (assembling : initial.Assembling current added (still ++ queued :: rest))
    (satisfied : queued.configuration.IsSatisfied current.registry)
    (same : active.entry = queued.entry) (grown : current.registry.beans <+: registry.beans)
    (restores : current.registry.Restores registry)
    (names_iff : ∀ name, registry.contains name = true ↔
      current.registry.contains name = true ∨ name ∈ queued.configuration.beanNames) :
    initial.Assembling { current with registry, active := current.active ++ [active] }
      (added ++ [active]) (still ++ rest) := by
  have same_configuration : active.configuration = queued.configuration := congrArg Prod.snd same
  have satisfiedStill : ∀ {configuration : Configuration σ},
      configuration.IsSatisfied current.registry → configuration.IsSatisfied registry :=
    fun satisfied resource resource_mem =>
      Registry.contains_of_grown grown (satisfied resource resource_mem)
  exact {
    grows := assembling.grows.trans ⟨grown, restores⟩
    active := by simp [assembling.active]
    tracks := by
      intro other other_mem
      refine (assembling.tracks other ?_).of_grown grown
      rcases List.mem_append.mp other_mem with other_mem | other_mem
      · exact List.mem_append_left _ other_mem
      · exact List.mem_append_right _ (List.mem_cons_of_mem _ other_mem)
    entries := by
      refine List.Perm.trans ?_ assembling.entries
      simp only [List.map_append, List.map_cons, List.map_nil, same, List.append_assoc,
        List.singleton_append]
      exact List.Perm.append_left _ List.perm_middle.symm
    ordered := by
      refine List.Sublist.trans (List.Sublist.map _ ?_) assembling.ordered
      exact (List.Sublist.refl still).append (List.sublist_cons_self queued rest)
    names := by
      intro name
      change registry.contains name = true ↔ _
      rw [names_iff, assembling.names, or_assoc]
      refine or_congr_right ?_
      simp [or_and_right, exists_or, same_configuration]
    sound := by
      intro other other_mem
      rcases List.mem_append.mp other_mem with other_mem | other_mem
      · exact ⟨(assembling.sound other other_mem).1,
          satisfiedStill (assembling.sound other other_mem).2⟩
      · rw [List.mem_singleton.mp other_mem, same_configuration]
        exact ⟨assembling.loads.mem_loadable (by simp) fun resource resource_mem =>
          Or.inl (satisfied resource resource_mem), satisfiedStill satisfied⟩ }

theorem load {queued : Queued σ} {still rest : List (Queued σ)}
    (assembling : initial.Assembling current added (still ++ queued :: rest))
    (wellPosed : initial.WellPosed) (satisfied : (queued.pruned current.registry).missing = []) :
    ∃ active registry, current.load queued = some (.ok true, queued.pruned current.registry,
        { current with registry, active := current.active ++ [active] }) ∧
      initial.Assembling { current with registry, active := current.active ++ [active] }
        (added ++ [active]) (still ++ rest) := by
  have queued_mem : queued ∈ still ++ queued :: rest := by simp
  have isSatisfied := (assembling.tracks queued queued_mem).pruned_missing_eq_nil_iff.mp satisfied
  have ready : queued.configuration.ReadyIn initial.registry current.registry :=
    ⟨assembling.grows.beans, assembling.grows.restores, isSatisfied⟩
  rcases load_of_wellBehaved (assembling.wellBehaved wellPosed queued_mem) ready satisfied
    (assembling.loads.free wellPosed queued_mem) with
    ⟨active, registry, loaded, same_id, same_configuration, grown, restores, names_iff⟩
  have same_entry : active.entry = queued.entry := by
    rw [Active.entry, Queued.entry, same_id, same_configuration]
  exact ⟨active, registry, loaded,
    assembling.add isSatisfied same_entry grown restores names_iff⟩

end Assembling

/-- A pass over well-behaved configurations does not fail, and takes the assembly further. -/
theorem pass_assembles {initial current : Context σ} {added : List (Active σ)}
    {still rest : List (Queued σ)} (wellPosed : initial.WellPosed)
    (assembling : initial.Assembling current added (still ++ rest)) (progressed : Bool) :
    ∃ result after addedAfter, pass rest still progressed current = some (.ok result, after) ∧
      initial.Assembling after addedAfter after.waiting := by
  induction rest generalizing still current added progressed with
  | nil =>
      rw [List.append_nil] at assembling
      refine ⟨progressed, { current with waiting := still }, added, rfl, ?_⟩
      exact { assembling with grows := ⟨assembling.grows.beans, assembling.grows.restores⟩ }
  | cons queued rest ih =>
      by_cases satisfied : (queued.pruned current.registry).missing = []
      · rcases assembling.load wellPosed satisfied with ⟨active, registry, loaded, assembling⟩
        rw [pass_cons_of_completed loaded]
        exact ih assembling true
      · rw [pass_cons_of_missing satisfied]
        exact ih assembling.wait progressed

theorem passes_assembles {initial current : Context σ} {added : List (Active σ)}
    (wellPosed : initial.WellPosed)
    (assembling : initial.Assembling current added current.waiting) (more : Nat) :
    ∃ after addedAfter, current.passes more = some (.ok (), after) ∧
      initial.Assembling after addedAfter after.waiting := by
  induction more, current using passes_induction generalizing added with
  | once more current once =>
      rw [← List.nil_append current.waiting] at assembling
      rcases pass_assembles wellPosed assembling false with
        ⟨result, after, addedAfter, passed, assembling⟩
      exact ⟨after, addedAfter, by simp [passes_of_once once, passed, Except.map], assembling⟩
  | again more current next first ih =>
      rw [← List.nil_append current.waiting] at assembling
      rcases pass_assembles wellPosed assembling false with
        ⟨result, after, addedAfter, passed, assembling⟩
      rw [first, Option.some.injEq, Prod.mk.injEq] at passed
      rw [passes_succ first, passed.2]
      rw [passed.2] at ih
      exact ih assembling

theorem assemble_settles {initial : Context σ} (wellPosed : initial.WellPosed) :
    ∃ settled added, initial.assemble = some settled.conclude ∧ settled.Settled ∧
      initial.Assembling settled added settled.waiting := by
  rcases passes_assembles wellPosed (.start wellPosed.tracks) initial.waiting.length with
    ⟨settled, added, passed, assembling⟩
  exact ⟨settled, added, by simp [assemble, passed], settled_of_passes passed (Nat.le_refl _),
    assembling⟩

theorem Settled.not_isSatisfied {settled : Context σ} (isSettled : settled.Settled)
    (tracks : settled.Tracks) {queued : Queued σ} (queued_mem : queued ∈ settled.waiting) :
    ¬queued.configuration.IsSatisfied settled.registry := by
  rcases isSettled queued queued_mem with ⟨same, missing⟩
  rw [← (tracks queued queued_mem).pruned_missing_eq_nil_iff, same]
  exact missing

/-- What waits in a settled context depends on the entries and on the registered names alone. -/
theorem Settled.waiting_eq {settled : Context σ} (isSettled : settled.Settled)
    (tracks : settled.Tracks) :
    settled.waiting =
      (settled.waiting.map Queued.entry).map (Queued.awaiting settled.registry) := by
  have struckOut : settled.waiting.map (·.pruned settled.registry) = settled.waiting :=
    (List.map_congr_left fun queued queued_mem => (isSettled queued queued_mem).1).trans
      (List.map_id settled.waiting)
  rw [← Queued.map_pruned tracks, struckOut]

/-- A list that falls into two parts by a property. -/
theorem perm_filter_of_perm_append {α : Type} (property : α → Bool) {inside outside all : List α}
    (perm : (inside ++ outside).Perm all)
    (holds : ∀ element ∈ inside, property element = true)
    (fails : ∀ element ∈ outside, property element = false) :
    inside.Perm (all.filter property) ∧
      outside.Perm (all.filter fun element => !property element) := by
  have outsideNone : outside.filter property = [] :=
    List.filter_eq_nil_iff.mpr fun element element_mem => by simp [fails element element_mem]
  have insideNone : (inside.filter fun element => !property element) = [] :=
    List.filter_eq_nil_iff.mpr fun element element_mem => by simp [holds element element_mem]
  have outsideAll : (outside.filter fun element => !property element) = outside :=
    List.filter_eq_self.mpr fun element element_mem => by simp [fails element element_mem]
  have filtered := perm.filter property
  have filteredOut := perm.filter fun element => !property element
  rw [List.filter_append, List.filter_eq_self.mpr holds, outsideNone, List.append_nil] at filtered
  rw [List.filter_append, insideNone, outsideAll, List.nil_append] at filteredOut
  exact ⟨filtered, filteredOut⟩

namespace Loads

variable {initial settled : Context σ} {added : List (Active σ)}

/-- The loaded configurations are closed, so they make up the least closed set. -/
theorem mem_loadable_iff (loads : initial.Loads settled.registry added settled.waiting)
    (isSettled : settled.Settled) {configuration : Configuration σ} :
    configuration ∈ initial.loadable ↔ ∃ active ∈ added, active.configuration = configuration := by
  constructor
  · intro needed
    -- The set is the least closed one, and what has been loaded is closed.
    refine needed {other | ∃ active ∈ added, active.configuration = other} ?_
    intro queued queued_mem available
    have satisfied : queued.configuration.IsSatisfied settled.registry := by
      intro resource resource_mem
      rw [loads.names]
      rcases available resource resource_mem with
        registered | ⟨_, ⟨active, active_mem, rfl⟩, declared⟩
      · exact Or.inl registered
      · exact Or.inr ⟨active, active_mem, declared⟩
    rcases loads.mem_or_mem queued_mem with ⟨active, active_mem, same⟩ | ⟨other, other_mem, same⟩
    · exact ⟨active, active_mem, same⟩
    · rw [← same] at satisfied
      exact absurd satisfied (isSettled.not_isSatisfied loads.tracks other_mem)
  · rintro ⟨active, active_mem, rfl⟩
    exact (loads.sound active active_mem).1

theorem notMem_loadable (loads : initial.Loads settled.registry added settled.waiting)
    (isSettled : settled.Settled) {queued : Queued σ} (queued_mem : queued ∈ settled.waiting) :
    queued.configuration ∉ initial.loadable := by
  intro needed
  -- The same configuration may have been loaded from another place of the queue.
  rcases (loads.mem_loadable_iff isSettled).mp needed with ⟨active, active_mem, same⟩
  have satisfied := (loads.sound active active_mem).2
  rw [same] at satisfied
  exact isSettled.not_isSatisfied loads.tracks queued_mem satisfied

theorem contains_iff (loads : initial.Loads settled.registry added settled.waiting)
    (isSettled : settled.Settled) (name : String) :
    settled.registry.contains name = true ↔ initial.Available initial.loadable name := by
  rw [loads.names, Available]
  refine or_congr_right ⟨?_, ?_⟩
  · rintro ⟨active, active_mem, declared⟩
    exact ⟨active.configuration, (loads.sound active active_mem).1, declared⟩
  · rintro ⟨configuration, needed, declared⟩
    rcases (loads.mem_loadable_iff isSettled).mp needed with ⟨active, active_mem, rfl⟩
    exact ⟨active, active_mem, declared⟩

open Classical in
theorem parts (loads : initial.Loads settled.registry added settled.waiting)
    (isSettled : settled.Settled) :
    (added.map Active.entry).Perm
        ((initial.waiting.filter fun queued =>
          decide (queued.configuration ∈ initial.loadable)).map Queued.entry) ∧
      (settled.waiting.map Queued.entry).Perm
        ((initial.waiting.filter fun queued =>
          !decide (queued.configuration ∈ initial.loadable)).map Queued.entry) := by
  have split := perm_filter_of_perm_append (fun entry => decide (entry.2 ∈ initial.loadable))
    loads.entries ?_ ?_
  · rwa [List.filter_map, List.filter_map] at split
  · intro entry entry_mem
    rcases List.mem_map.mp entry_mem with ⟨active, active_mem, rfl⟩
    exact decide_eq_true (loads.sound active active_mem).1
  · intro entry entry_mem
    rcases List.mem_map.mp entry_mem with ⟨queued, queued_mem, rfl⟩
    exact decide_eq_false (loads.notMem_loadable isSettled queued_mem)

end Loads

open Classical in
/--
What an assembly comes to that loads exactly the configurations of the set: they are active, the
others wait in order for what is missing, their beans are registered besides those that were at
first, and the outcome is the absence of others, a cycle or a list of what is pending.
-/
structure LoadsExactly (initial : Context σ) (loaded : Set (Configuration σ))
    (outcome : Except ConfigurationError Unit) (after : Context σ) : Prop where
  active : ∃ added, after.active = initial.active ++ added ∧
    (added.map Active.entry).Perm
      ((initial.waiting.filter fun queued => decide (queued.configuration ∈ loaded)).map
        Queued.entry)
  waiting : after.waiting =
    (initial.waiting.filter fun queued => !decide (queued.configuration ∈ loaded)).map
      (·.pruned after.registry)
  names : ∀ name, after.registry.contains name = true ↔ initial.Available loaded name
  ok_iff : outcome = .ok () ↔ ∀ queued ∈ initial.waiting, queued.configuration ∈ loaded
  outcomes : outcome = .ok () ∨ (∃ trace, outcome = .error (.cycle trace)) ∨
    ∃ pending, outcome = .error (.initialization pending)

namespace Assembling

variable {initial settled : Context σ} {added : List (Active σ)}

open Classical in
/-- The queue of an assembly keeps its order. -/
theorem entries_eq (assembling : initial.Assembling settled added settled.waiting)
    (isSettled : settled.Settled) :
    settled.waiting.map Queued.entry =
      (initial.waiting.filter fun queued =>
        !decide (queued.configuration ∈ initial.loadable)).map Queued.entry := by
  have ordered := assembling.ordered.filter fun entry => !decide (entry.2 ∈ initial.loadable)
  have whole : ((settled.waiting.map Queued.entry).filter
      fun entry => !decide (entry.2 ∈ initial.loadable)) = settled.waiting.map Queued.entry := by
    refine List.filter_eq_self.mpr fun entry entry_mem => ?_
    rcases List.mem_map.mp entry_mem with ⟨queued, queued_mem, rfl⟩
    exact congrArg not (decide_eq_false (assembling.loads.notMem_loadable isSettled queued_mem))
  rw [whole, List.filter_map] at ordered
  exact ordered.eq_of_length (assembling.loads.parts isSettled).2.length_eq

open Classical in
theorem waiting_eq (assembling : initial.Assembling settled added settled.waiting)
    (isSettled : settled.Settled) (tracks : initial.Tracks) :
    settled.waiting =
      (initial.waiting.filter fun queued =>
        !decide (queued.configuration ∈ initial.loadable)).map (·.pruned settled.registry) := by
  have tracksStill : ∀ queued ∈ initial.waiting, queued.Tracks settled.registry :=
    fun queued queued_mem => (tracks queued queued_mem).of_grown assembling.grows.beans
  rw [isSettled.waiting_eq assembling.tracks, assembling.entries_eq isSettled,
    ← Queued.map_pruned fun queued queued_mem =>
      tracksStill queued (List.mem_of_mem_filter queued_mem)]

/-- The conclusion of a settled assembly: the least set has been loaded, and nothing else. -/
theorem loadsExactly (assembling : initial.Assembling settled added settled.waiting)
    (isSettled : settled.Settled) (wellPosed : initial.WellPosed) :
    initial.LoadsExactly initial.loadable settled.conclude.1 settled.conclude.2 := by
  have sameNames := Registry.contains_congr settled.conclude_beans
  refine ⟨⟨added, ?_, (assembling.loads.parts isSettled).1⟩, ?_, ?_, ?_, settled.conclude_outcomes⟩
  · rw [conclude_active, assembling.active]
  · simp only [conclude_waiting, Queued.pruned_congr sameNames]
    exact assembling.waiting_eq isSettled wellPosed.tracks
  · intro name
    rw [sameNames]
    exact assembling.loads.contains_iff isSettled name
  · rw [conclude_eq_ok_iff, assembling.waiting_eq isSettled wellPosed.tracks]
    simp [List.filter_eq_nil_iff]

end Assembling

/--
An assembly of well-behaved configurations loads exactly the least set that holds each waiting
configuration whose resources are registered at first or declared in the set. The order in which
they wait does not matter: neither for what is loaded, registered or left waiting, nor for whether
the outcome is complete, a cycle or pending.
-/
theorem assemble_loads_least_closed_set {initial : Context σ} (wellPosed : initial.WellPosed) :
    IsLeast {loaded | initial.ClosedUnderLoading loaded} initial.loadable ∧
      ∃ outcome after, initial.assemble = some (outcome, after) ∧
        initial.LoadsExactly initial.loadable outcome after ∧
        ∀ other : Context σ, other.registry = initial.registry →
          other.waiting.Perm initial.waiting →
            ∃ otherOutcome otherAfter, other.assemble = some (otherOutcome, otherAfter) ∧
              other.LoadsExactly initial.loadable otherOutcome otherAfter ∧
              otherAfter.registry.contains = after.registry.contains ∧
              otherAfter.waiting.Perm after.waiting ∧
              otherOutcome.mapError (·.kind) = outcome.mapError (·.kind) := by
  refine ⟨initial.isLeast_loadable, ?_⟩
  rcases assemble_settles wellPosed with ⟨settled, added, assembled, isSettled, assembling⟩
  have exactly := assembling.loadsExactly isSettled wellPosed
  refine ⟨_, _, assembled, exactly, ?_⟩
  intro other same perm
  have otherWellPosed := wellPosed.of_perm same perm
  have sameLoadable := loadable_congr same perm
  rcases assemble_settles otherWellPosed with
    ⟨otherSettled, otherAdded, otherAssembled, otherIsSettled, otherAssembling⟩
  have otherExactly := otherAssembling.loadsExactly otherIsSettled otherWellPosed
  rw [sameLoadable] at otherExactly
  have sameNames : otherSettled.conclude.2.registry.contains =
      settled.conclude.2.registry.contains := by
    funext name
    rw [Bool.eq_iff_iff, otherExactly.names, exactly.names, Available, Available, same]
  have waitingPerm : otherSettled.conclude.2.waiting.Perm settled.conclude.2.waiting := by
    rw [otherExactly.waiting, exactly.waiting]
    simp only [Queued.pruned_congr sameNames]
    exact (perm.filter _).map _
  refine ⟨_, _, otherAssembled, otherExactly, sameNames, waitingPerm, ?_⟩
  rw [conclude_waiting, conclude_waiting] at waitingPerm
  refine conclude_kind_congr waitingPerm ?_
  rw [otherAssembling.waiting_eq otherIsSettled otherWellPosed.tracks]
  exact List.pairwise_map.mpr (otherWellPosed.apart.sublist List.filter_sublist)

/-- A queue in which the first configuration needs what the second one supplies. -/
def relay : Context Unit where
  waiting := [.ofConfiguration 0 (.supplying "late" ["first bean"] ["second bean"]),
    .ofConfiguration 1 (.supplying "early" [] ["first bean"])]

theorem relay_wellPosed : relay.WellPosed where
  tracks queued queued_mem := by
    simp only [relay, List.mem_cons, List.not_mem_nil, or_false] at queued_mem
    rcases queued_mem with rfl | rfl <;> exact Queued.tracks_ofConfiguration _ _ _
  wellBehaved queued queued_mem := by
    simp only [relay, List.mem_cons, List.not_mem_nil, or_false] at queued_mem
    rcases queued_mem with rfl | rfl <;>
      exact Configuration.supplying_wellBehaved _ _ (by simp) (by simp) _
  apart := by simp [Queued.DeclareApart, relay, Queued.ofConfiguration]
  free _ _ _ _ := rfl

theorem assemble_loads_relay :
    ∃ after, relay.assemble = some (.ok (), after) ∧
      relay.LoadsExactly relay.loadable (.ok ()) after := by
  rcases assemble_loads_least_closed_set relay_wellPosed with
    ⟨⟨closed, _⟩, outcome, after, assembled, exactly, _⟩
  have early := closed (.ofConfiguration 1 (.supplying "early" [] ["first bean"]))
    (by simp [relay]) (by simp [Queued.ofConfiguration, Configuration.supplying])
  have late := closed (.ofConfiguration 0 (.supplying "late" ["first bean"] ["second bean"]))
    (by simp [relay]) fun resource resource_mem => by
      rcases List.mem_singleton.mp resource_mem with rfl
      exact Or.inr ⟨_, early, by simp [Queued.ofConfiguration]⟩
  have complete : outcome = .ok () := exactly.ok_iff.mpr fun queued queued_mem => by
    simp only [relay, List.mem_cons, List.not_mem_nil, or_false] at queued_mem
    rcases queued_mem with rfl | rfl
    · exact late
    · exact early
  subst complete
  exact ⟨after, assembled, exactly⟩

end Context

end BeanContainer
