import BeanContainer.Proofs.Context.Closure
import BeanContainer.Proofs.Registry.Registering

/-!
# Remedies for a stuck assembly

If an assembly of well-behaved configurations gets stuck, its diagnosis tells what to do. A list of
what is pending names the beans that have to come from outside: those that nobody in the queue
declares. With them, the next assembly completes. A cycle cannot be helped from outside: as long as
the beans declared in the queue are left to it, the next assembly finds a cycle again.

Both rest on the description of what an assembly loads as a least closed set. Without a circle, a
configuration is in the set as soon as those that it awaits are, so all are by induction. With a
circle, the configurations that do not lead to it make up a closed set, which leaves it out.
-/

namespace BeanContainer

variable {σ : Type}

namespace Context

open Queued

theorem WellPosed.of_grown {context : Context σ} {filled : Registry} (wellPosed : context.WellPosed)
    (grown : context.registry.beans <+: filled.beans) (restores : context.registry.Restores filled)
    (free : ∀ queued ∈ context.waiting, ∀ bean ∈ queued.configuration.beanNames,
      filled.contains bean = false) : { context with registry := filled }.WellPosed where
  tracks queued queued_mem := (wellPosed.tracks queued queued_mem).of_grown grown
  wellBehaved queued queued_mem :=
    (wellPosed.wellBehaved queued queued_mem).of_grown grown restores
  apart := wellPosed.apart
  free := free

theorem Assembling.wellPosed {initial settled : Context σ} {added : List (Active σ)}
    (assembling : initial.Assembling settled added settled.waiting)
    (wellPosed : initial.WellPosed) : settled.WellPosed :=
  assembling.loads.wellPosed wellPosed fun queued queued_mem =>
    (wellPosed.wellBehaved queued queued_mem).of_grown assembling.grows.beans
      assembling.grows.restores

/-- A resource that is not registered is missing exactly if it is required. -/
theorem mem_missing_iff {queued : Queued σ} {registry : Registry} (tracks : queued.Tracks registry)
    {resource : String} (absent : registry.contains resource = false) :
    resource ∈ queued.missing ↔ resource ∈ queued.configuration.required := by
  have same : resource ∈ queued.missing.filter (fun name => !registry.contains name) ↔
      resource ∈ queued.configuration.required.filter fun name => !registry.contains name := by
    rw [tracks]
  simpa [List.mem_filter, absent] using same

/-- The places that a place awaits come to an end if there is no circle. -/
theorem acc_awaits {context : Context σ} (noCircle : ¬context.HasCircle) (place : Nat) :
    Acc (fun next place => context.Awaits place next) place := by
  have same : Node.Requires context.nodes = context.Awaits := by
    funext place other
    exact propext requires_nodes_iff
  rw [← same]
  exact Node.acc_requires_of_not_hasCycle (mt hasCycle_nodes_iff.mp noCircle) place

/-- A missing resource that somebody declares is awaited from the last one who does. -/
theorem exists_awaits_of_declared {context : Context σ} {place : Nat} {queued other : Queued σ}
    {resource : String} (found : context.waiting[place]? = some queued)
    (missing : resource ∈ queued.missing) (other_mem : other ∈ context.waiting)
    (declared : resource ∈ other.configuration.beanNames) :
    ∃ next source, context.waiting[next]? = some source ∧
      resource ∈ source.configuration.beanNames ∧ context.Awaits place next := by
  rcases List.mem_iff_getElem?.mp other_mem with ⟨otherPlace, foundOther⟩
  cases last : Node.source? context.nodes resource with
  | none =>
      exact absurd (declares_nodes_iff.mpr ⟨other, foundOther, declared⟩)
        (Node.source?_eq_none_iff.mp last otherPlace)
  | some next =>
      have isSource := isSource_nodes_iff.mp (Node.source?_eq_some_iff.mp last)
      rcases isSource.1 with ⟨source, foundSource, declaredThere⟩
      exact ⟨next, source, foundSource, declaredThere, queued, found, resource, missing, isSource⟩

/--
If all that nobody in the queue declares is registered, a configuration can be loaded unless what it
awaits goes on for ever.
-/
theorem mem_loadable_of_acc {context : Context σ} (tracks : context.Tracks)
    (supplied : ∀ queued ∈ context.waiting, ∀ resource ∈ queued.missing,
      (∀ other ∈ context.waiting, resource ∉ other.configuration.beanNames) →
        context.registry.contains resource = true)
    {place : Nat} (acc : Acc (fun next place => context.Awaits place next) place)
    {queued : Queued σ} (found : context.waiting[place]? = some queued) :
    queued.configuration ∈ context.loadable := by
  induction acc generalizing queued with
  | intro place _ ih =>
      have queued_mem := List.mem_of_getElem? found
      refine context.isLeast_loadable.1 queued queued_mem fun resource resource_mem => ?_
      cases registered : context.registry.contains resource.name with
      | true => exact Or.inl registered
      | false =>
          have required : resource.name ∈ queued.configuration.required := by
            simpa [Configuration.required] using ⟨resource, resource_mem, rfl⟩
          have missing := (mem_missing_iff (tracks queued queued_mem) registered).mpr required
          by_cases declared : ∃ other ∈ context.waiting,
              resource.name ∈ other.configuration.beanNames
          · rcases declared with ⟨other, other_mem, declared⟩
            rcases exists_awaits_of_declared found missing other_mem declared with
              ⟨next, source, foundSource, declaredThere, awaits⟩
            exact Or.inr ⟨source.configuration, ih next awaits foundSource, declaredThere⟩
          · have undeclared : ∀ other ∈ context.waiting,
                resource.name ∉ other.configuration.beanNames := by simpa using declared
            exact Or.inl (supplied queued queued_mem resource.name missing undeclared)

section Blocked

variable {context : Context σ} {source : Queued σ}

theorem WellPosed.declarer_eq (wellPosed : context.WellPosed) {queued other : Queued σ}
    {bean : String} (queued_mem : queued ∈ context.waiting) (other_mem : other ∈ context.waiting)
    (declared : bean ∈ queued.configuration.beanNames)
    (declaredOther : bean ∈ other.configuration.beanNames) : queued = other := by
  rcases List.mem_iff_getElem?.mp queued_mem with ⟨place, found⟩
  rcases List.mem_iff_getElem?.mp other_mem with ⟨otherPlace, foundOther⟩
  have same := wellPosed.apart.place_eq found foundOther declared declaredOther
  rw [same, foundOther] at found
  exact (Option.some.inj found).symm

/-- Whether a configuration leads to the circle does not depend on the place at which it waits. -/
theorem transGen_needs_of_configuration_eq (wellPosed : context.WellPosed) {queued other : Queued σ}
    (walk : Relation.TransGen (Needs context.waiting) queued source)
    (other_mem : other ∈ context.waiting) (same : other.configuration = queued.configuration) :
    Relation.TransGen (Needs context.waiting) other source := by
  rcases Relation.TransGen.head'_iff.mp walk with
    ⟨next, ⟨queued_mem, next_mem, resource, missing, declared⟩, rest⟩
  have absent := wellPosed.free next next_mem resource declared
  have missingOther : resource ∈ other.missing := by
    rw [mem_missing_iff (wellPosed.tracks other other_mem) absent, same]
    exact (mem_missing_iff (wellPosed.tracks queued queued_mem) absent).mp missing
  exact Relation.TransGen.head' ⟨other_mem, next_mem, resource, missingOther, declared⟩ rest

/-- The waiting configurations that do not lead to a circle can do without those that do. -/
theorem closed_of_circle (wellPosed : context.WellPosed)
    (circle : Relation.TransGen (Needs context.waiting) source source) :
    context.ClosedUnderLoading {configuration | ∃ queued ∈ context.waiting,
      queued.configuration = configuration ∧
        ¬Relation.TransGen (Needs context.waiting) queued source} := by
  intro queued queued_mem available
  refine ⟨queued, queued_mem, rfl, fun walk => ?_⟩
  rcases Relation.TransGen.head'_iff.mp walk with
    ⟨next, ⟨_, next_mem, resource, missing, declared⟩, rest⟩
  have absent := wellPosed.free next next_mem resource declared
  have required := (mem_missing_iff (wellPosed.tracks queued queued_mem) absent).mp missing
  simp only [Configuration.required, List.mem_eraseDups, List.mem_map] at required
  rcases required with ⟨declaration, declaration_mem, rfl⟩
  -- The resource could only come from its declarer, which leads to the circle as well.
  rcases available declaration declaration_mem with
    registered | ⟨_, ⟨other, other_mem, rfl, apart⟩, declaredOther⟩
  · simp [absent] at registered
  · rw [wellPosed.declarer_eq other_mem next_mem declaredOther declared] at apart
    rcases Relation.reflTransGen_iff_eq_or_transGen.mp rest with rfl | onward
    · exact apart circle
    · exact apart onward

theorem notMem_loadable_of_circle (wellPosed : context.WellPosed)
    (circle : Relation.TransGen (Needs context.waiting) source source) {queued : Queued σ}
    (walk : Relation.TransGen (Needs context.waiting) queued source) :
    queued.configuration ∉ context.loadable := by
  intro needed
  rcases needed _ (closed_of_circle wellPosed circle) with ⟨other, other_mem, same, apart⟩
  exact apart (transGen_needs_of_configuration_eq wellPosed walk other_mem same)

end Blocked

theorem assemble_completes {context : Context σ} (wellPosed : context.WellPosed)
    (noCircle : ¬context.HasCircle)
    (supplied : ∀ queued ∈ context.waiting, ∀ resource ∈ queued.missing,
      (∀ other ∈ context.waiting, resource ∉ other.configuration.beanNames) →
        context.registry.contains resource = true) :
    ∃ after, context.assemble = some (.ok (), after) := by
  rcases assemble_settles wellPosed with ⟨settled, added, assembled, isSettled, assembling⟩
  have complete : settled.conclude.1 = .ok () := by
    rw [(assembling.loadsExactly isSettled wellPosed).ok_iff]
    intro queued queued_mem
    rcases List.mem_iff_getElem?.mp queued_mem with ⟨place, found⟩
    exact mem_loadable_of_acc wellPosed.tracks supplied (acc_awaits noCircle place) found
  exact ⟨settled.conclude.2, by rw [assembled, ← complete]⟩

/-- What an assembly leaves of a circle is a circle. -/
theorem Assembling.transGen_needs {initial settled : Context σ} {added : List (Active σ)}
    {source : Queued σ} (assembling : initial.Assembling settled added settled.waiting)
    (isSettled : settled.Settled) (wellPosed : initial.WellPosed)
    (circle : Relation.TransGen (Needs initial.waiting) source source) {queued : Queued σ}
    (walk : Relation.TransGen (Needs initial.waiting) queued source) :
    Relation.TransGen (Needs settled.waiting) (queued.pruned settled.registry)
      (source.pruned settled.registry) := by
  -- Nothing on a walk to the circle is loaded, so each step of the walk is still there.
  have stays : ∀ {other}, other ∈ initial.waiting →
      Relation.TransGen (Needs initial.waiting) other source →
        other.pruned settled.registry ∈ settled.waiting := by
    intro other other_mem walk
    rw [assembling.waiting_eq isSettled wellPosed.tracks]
    refine List.mem_map_of_mem (List.mem_filter.mpr ⟨other_mem, ?_⟩)
    simpa using notMem_loadable_of_circle wellPosed circle walk
  have needs_pruned : ∀ {other next}, Needs initial.waiting other next →
      Relation.TransGen (Needs initial.waiting) other source →
        Relation.TransGen (Needs initial.waiting) next source →
          Needs settled.waiting (other.pruned settled.registry)
            (next.pruned settled.registry) := by
    rintro other next ⟨other_mem, next_mem, resource, missing, declared⟩ walk walkNext
    have nextStays := stays next_mem walkNext
    have absent := (assembling.wellPosed wellPosed).free _ nextStays resource declared
    refine ⟨stays other_mem walk, nextStays, resource, ?_, declared⟩
    simp [pruned, List.mem_filter, missing, absent]
  induction walk using Relation.TransGen.head_induction_on with
  | single needs => exact .single (needs_pruned needs (.single needs) circle)
  | head needs walk ih => exact ih.head (needs_pruned needs (walk.head needs) walk)

/-- A circle in the queue outlasts every assembly. -/
theorem assemble_keeps_circle {context : Context σ} (wellPosed : context.WellPosed)
    (circle : context.HasCircle) :
    ∃ trace after, context.assemble = some (.error (.cycle trace), after) := by
  rcases (hasCircle_iff_of_apart wellPosed.apart).mp circle with ⟨source, walk⟩
  rcases assemble_settles wellPosed with ⟨settled, added, assembled, isSettled, assembling⟩
  have circleStill : settled.HasCircle :=
    (hasCircle_iff_of_apart (assembling.wellPosed wellPosed).apart).mpr
      ⟨_, assembling.transGen_needs isSettled wellPosed walk walk⟩
  have waits : settled.waiting ≠ [] := by
    rcases circleStill with ⟨place, awaits⟩
    rcases Relation.TransGen.head'_iff.mp awaits with ⟨_, ⟨queued, found, _⟩, _⟩
    exact List.ne_nil_of_mem (List.mem_of_getElem? found)
  rcases conclude_of_waiting waits with ⟨_, trace, concluded⟩ | ⟨noCircle, _⟩
  · exact ⟨trace, settled, by rw [assembled, concluded]⟩
  · exact absurd circleStill noCircle

/-- The resource is pending, and no waiting configuration declares it. -/
def LacksFromOutside (context : Context σ) (pending : List Pending) (resource : String) : Prop :=
  (∃ entry ∈ pending, resource ∈ entry.resources) ∧
    ∀ queued ∈ context.waiting, resource ∉ queued.configuration.beanNames

theorem mem_pending_resources {context : Context σ} {resource : String} :
    (∃ entry ∈ context.pending, resource ∈ entry.resources) ↔
      ∃ queued ∈ context.waiting, resource ∈ queued.missing := by
  simp [pending]

theorem Settled.of_pending {context : Context σ} (settled : context.Settled)
    (tracks : context.Tracks) {name : String}
    (pends : ∃ entry ∈ context.pending, name ∈ entry.resources) :
    context.registry.contains name = false ∧
      ∃ queued ∈ context.waiting, ∃ resource ∈ queued.configuration.resources,
        resource.name = name := by
  rcases mem_pending_resources.mp pends with ⟨queued, queued_mem, missing⟩
  rw [(settled.missing_eq tracks queued queued_mem).2, List.mem_filter] at missing
  refine ⟨by simpa using missing.2, queued, queued_mem, ?_⟩
  simpa [Configuration.required] using missing.1

/-- Without a circle, beans from outside complete a settled context, one for each name it lacks. -/
theorem Settled.completes {context : Context σ} (settled : context.Settled)
    (wellPosed : context.WellPosed) (noCircle : ¬context.HasCircle)
    (named : ∀ queued ∈ context.waiting, ∀ resource ∈ queued.configuration.resources,
      resource.name ≠ "")
    {registrations : List Registration}
    (allowed : ∀ registration ∈ registrations, registration.IsAllowed context.registry)
    (nodup : (registrations.map Registration.name).Nodup)
    (names_iff : ∀ name, name ∈ registrations.map Registration.name ↔
      context.LacksFromOutside context.pending name) :
    ∃ filled completed,
      (Procedure.registering registrations).perform context.registry = some (.ok (), filled) ∧
        { context with registry := filled }.assemble = some (.ok (), completed) := by
  have lacking : ∀ registration ∈ registrations,
      context.LacksFromOutside context.pending registration.name := fun registration mem =>
    (names_iff registration.name).mp (List.mem_map_of_mem mem)
  have nonempty : ∀ registration ∈ registrations, registration.name ≠ "" := by
    intro registration registration_mem
    rcases (settled.of_pending wellPosed.tracks (lacking registration registration_mem).1).2 with
      ⟨queued, queued_mem, resource, resource_mem, same⟩
    rw [← same]
    exact named queued queued_mem resource resource_mem
  rcases Procedure.perform_registering allowed nodup nonempty (fun registration mem =>
    (settled.of_pending wellPosed.tracks (lacking registration mem).1).1) with
    ⟨filled, performed, filled_iff⟩
  have free : ∀ queued ∈ context.waiting, ∀ bean ∈ queued.configuration.beanNames,
      filled.contains bean = false := by
    intro queued queued_mem bean declared
    rw [Bool.eq_false_iff, Ne, filled_iff, names_iff, not_or]
    exact ⟨by simp [wellPosed.free queued queued_mem bean declared],
      fun lacks => lacks.2 queued queued_mem declared⟩
  have supplied : ∀ queued ∈ context.waiting, ∀ resource ∈ queued.missing,
      (∀ other ∈ context.waiting, resource ∉ other.configuration.beanNames) →
        filled.contains resource = true := by
    intro queued queued_mem resource missing undeclared
    rw [filled_iff, names_iff]
    exact Or.inr ⟨mem_pending_resources.mpr ⟨queued, queued_mem, missing⟩, undeclared⟩
  rcases assemble_completes (wellPosed.of_grown (Procedure.perform_beans_grow performed)
    (Procedure.perform_restores performed) free) noCircle supplied with ⟨completed, assembled⟩
  exact ⟨filled, completed, performed, assembled⟩

/--
Let well-behaved configurations wait, whose resources have names. If an assembly ends with a list of
what is pending, a bean can be registered under each pending resource that no waiting configuration
declares, and with these beans the next assembly completes. If it ends with a cycle, whatever is
registered and retrieved meanwhile, the next assembly ends with a cycle again, unless a name was
taken that a waiting configuration declares.
-/
theorem assemble_tells_remedy {initial after : Context σ} {outcome : Except ConfigurationError Unit}
    (wellPosed : initial.WellPosed)
    (named : ∀ queued ∈ initial.waiting, ∀ resource ∈ queued.configuration.resources,
      resource.name ≠ "")
    (assembled : initial.assemble = some (outcome, after)) :
    (∀ pending, outcome = .error (.initialization pending) →
      ∀ registrations : List Registration,
        (∀ registration ∈ registrations, registration.IsAllowed after.registry) →
        (registrations.map Registration.name).Nodup →
        (∀ name, name ∈ registrations.map Registration.name ↔
          after.LacksFromOutside pending name) →
          ∃ filled completed,
            (Procedure.registering registrations).perform after.registry =
              some (.ok (), filled) ∧
            { after with registry := filled }.assemble = some (.ok (), completed)) ∧
    (∀ trace, outcome = .error (.cycle trace) →
      ∀ {α : Type} (procedure : Procedure Registration α) (result : α) (filled : Registry),
        procedure.perform after.registry = some (result, filled) →
        (∀ queued ∈ after.waiting, ∀ bean ∈ queued.configuration.beanNames,
          filled.contains bean = false) →
          ∃ traceAgain stuck,
            { after with registry := filled }.assemble =
              some (.error (.cycle traceAgain), stuck)) := by
  rcases assemble_settles wellPosed with ⟨settled, added, settles, isSettled, assembling⟩
  rw [assembled, Option.some.injEq] at settles
  have settledWellPosed := assembling.wellPosed wellPosed
  by_cases waits : settled.waiting = []
  · rw [conclude_of_empty waits] at settles
    cases settles
    exact ⟨by simp, by simp⟩
  · rcases conclude_of_waiting waits with ⟨circle, trace, concluded⟩ | ⟨noCircle, concluded⟩
    · rw [concluded] at settles
      cases settles
      refine ⟨by simp, fun trace _ α procedure result filled performed free => ?_⟩
      exact assemble_keeps_circle (settledWellPosed.of_grown
        (Procedure.perform_beans_grow performed) (Procedure.perform_restores performed) free) circle
    · rw [concluded] at settles
      cases settles
      refine ⟨?_, by simp⟩
      rintro pending same registrations allowed nodup names_iff
      cases same
      refine isSettled.completes settledWellPosed noCircle ?_ allowed nodup names_iff
      intro queued queued_mem
      rcases assembling.exists_original queued_mem with ⟨original, original_mem, same⟩
      rw [← same]
      exact named original original_mem

/-- Configurations that supply integers wait, each with its name, its resources and its beans. -/
def supplying (parts : List (String × List String × List String)) : Context Unit where
  waiting := parts.map fun part => .ofConfiguration 0 (.supplying part.1 part.2.1 part.2.2)

theorem supplying_wellPosed {parts : List (String × List String × List String)}
    (distinct : ∀ part ∈ parts, part.2.2.Nodup ∧ ∀ bean ∈ part.2.2, bean ≠ "")
    (apart : parts.Pairwise fun part other => List.Disjoint part.2.2 other.2.2) :
    (supplying parts).WellPosed where
  tracks queued queued_mem := by
    rcases List.mem_map.mp queued_mem with ⟨part, _, rfl⟩
    exact Queued.tracks_ofConfiguration _ _ _
  wellBehaved queued queued_mem := by
    rcases List.mem_map.mp queued_mem with ⟨part, part_mem, rfl⟩
    rcases distinct part part_mem with ⟨nodup, nonempty⟩
    exact Configuration.supplying_wellBehaved part.1 part.2.1 nodup nonempty _
  apart := by simpa [DeclareApart, supplying, ofConfiguration, List.pairwise_map] using apart
  free _ _ _ _ := rfl

/-- The last configuration needs the middle one, which needs a bean from outside. -/
def stranded : Context Unit :=
  supplying [("last", ["middle bean"], ["last bean"]),
    ("middle", ["outside bean"], ["middle bean"])]

/-- Two configurations need each other, and one of them needs a bean from outside as well. -/
def entangled : Context Unit :=
  supplying [("left", ["right bean", "outside bean"], ["left bean"]),
    ("right", ["left bean"], ["right bean"])]

theorem stranded_settled : stranded.Settled :=
  settled_of_no_beans rfl (by decide)

theorem entangled_settled : entangled.Settled :=
  settled_of_no_beans rfl (by decide)

theorem stranded_lacks (name : String) :
    name ∈ ["outside bean"] ↔ stranded.LacksFromOutside stranded.pending name := by
  have pends : (∃ entry ∈ stranded.pending, name ∈ entry.resources) ↔
      name = "middle bean" ∨ name = "outside bean" := by
    simp [pending, stranded, supplying, ofConfiguration, Configuration.supplying]
  rw [LacksFromOutside, pends]
  simp only [stranded, supplying, ofConfiguration, List.map_cons, List.map_nil,
    List.forall_mem_cons, Configuration.beanNames_supplying]
  constructor
  · intro name_mem
    rw [List.mem_singleton.mp name_mem]
    decide
  · rintro ⟨rfl | rfl, undeclared⟩
    · simp at undeclared
    · simp

theorem assemble_tells_remedy_stranded_entangled :
    (∃ pending filled completed,
      stranded.assemble = some (.error (.initialization pending), stranded) ∧
      (Procedure.registering [.supply "outside bean" .i32 (.plain (.integer 7))]).perform
        stranded.registry = some (.ok (), filled) ∧
      { stranded with registry := filled }.assemble = some (.ok (), completed)) ∧
    ∃ trace filled traceAgain stuck,
      entangled.assemble = some (.error (.cycle trace), entangled) ∧
      (Procedure.registering [.supply "outside bean" .i32 (.plain (.integer 7))]).perform
        entangled.registry = some (.ok (), filled) ∧
      { entangled with registry := filled }.assemble =
        some (.error (.cycle traceAgain), stuck) := by
  refine ⟨?_, ?_⟩
  · have assembled : stranded.assemble =
        some (.error (.initialization stranded.pending), stranded) := by
      have order : Node.searchOrder stranded.nodes = [0, 1] := List.mergeSort_of_pairwise (by decide)
      have noTrace : Node.cycleTrace? stranded.nodes = none := by
        rw [Node.cycleTrace?, Node.findCycle?, Node.allSteps, order]
        decide
      rw [assemble_of_settled stranded_settled,
        conclude_of_no_trace (List.cons_ne_nil _ _) noTrace]
    rcases (assemble_tells_remedy (supplying_wellPosed (by simp) (by simp))
      (by simp [supplying, Configuration.supplying, ofConfiguration]) assembled).1 _ rfl
      [.supply "outside bean" .i32 (.plain (.integer 7))] (by simp [Registration.IsAllowed]) (by simp)
      stranded_lacks with ⟨filled, completed, performed, completes⟩
    exact ⟨_, filled, completed, assembled, performed, completes⟩
  · have assembled : entangled.assemble = some (.error (.cycle
        ["left::right bean", "right::left bean", "left::right bean"]), entangled) := by
      have order : Node.searchOrder entangled.nodes = [0, 1] :=
        List.mergeSort_of_pairwise (by decide)
      have trace : Node.cycleTrace? entangled.nodes =
          some ["left::right bean", "right::left bean", "left::right bean"] := by
        rw [Node.cycleTrace?, Node.findCycle?, Node.allSteps, order]
        decide
      rw [assemble_of_settled entangled_settled, conclude_of_trace (List.cons_ne_nil _ _) trace]
    have freeOutside : entangled.registry.contains "outside bean" = false := rfl
    rcases Procedure.perform_registering
      (List.forall_mem_singleton.mpr trivial : ∀ registration ∈
        [Registration.supply "outside bean" .i32 (.plain (.integer 7))],
          registration.IsAllowed entangled.registry)
      (List.nodup_singleton _) (by simp [Registration.name])
      (List.forall_mem_singleton.mpr freeOutside) with ⟨filled, performed, filled_iff⟩
    have free : ∀ queued ∈ entangled.waiting, ∀ bean ∈ queued.configuration.beanNames,
        filled.contains bean = false := by
      intro queued queued_mem bean declared
      have taken : bean ≠ "outside bean" := by
        simp only [entangled, supplying, List.map_cons, List.map_nil, List.mem_cons,
          List.not_mem_nil, or_false] at queued_mem
        rcases queued_mem with rfl | rfl <;>
          simp only [ofConfiguration, Configuration.beanNames_supplying, List.mem_singleton]
            at declared <;> simp [declared]
      rw [Bool.eq_false_iff, Ne, filled_iff]
      simpa [Registration.name, entangled, supplying, Registry.contains, Registry.find?] using taken
    rcases (assemble_tells_remedy (supplying_wellPosed (by simp) (by simp))
      (by simp [supplying, Configuration.supplying, ofConfiguration]) assembled).2 _ rfl
      _ _ filled performed free with ⟨traceAgain, stuck, stays⟩
    exact ⟨_, filled, traceAgain, stuck, assembled, performed, stays⟩

end Context

end BeanContainer
