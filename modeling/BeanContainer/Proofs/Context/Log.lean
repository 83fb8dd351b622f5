import BeanContainer.Proofs.Context.DepthFirst
import BeanContainer.Proofs.Context.Warnings
import BeanContainer.Proofs.Registry.Refusals

/-!
# What the log of a context tells

Whatever is done with a context, and whatever of that fails, the reported events tell what it has
come to. Who has them all can tell the registered beans with their types and kinds, the active
configurations in their order, and how often a configuration was queued that waits or is active now.
-/

namespace BeanContainer

variable {σ : Type}

namespace Event

/-- The configuration that was loaded, if the event reports one. -/
def loaded? : Event → Option String
  | loaded configuration => some configuration
  | _ => none

/-- The configuration that was queued, if the event reports one. -/
def queued? : Event → Option String
  | queued configuration => some configuration
  | _ => none

/-- Whether the event warns of a declared bean. -/
def isBrokenPromise : Event → Bool
  | notProvided .. | providedOtherwise .. => true
  | _ => false

theorem moves_nothing_of_isOfUse {event : Event} (ofUse : event.isOfUse = true) :
    event.loaded? = none ∧ event.queued? = none := by
  cases event with
  | registered | registeringMissing | resolving | user => exact ⟨rfl, rfl⟩
  | _ => cases ofUse

theorem moves_nothing_of_isBrokenPromise {event : Event} (broken : event.isBrokenPromise = true) :
    event.registration? = none ∧ event.loaded? = none ∧ event.queued? = none := by
  cases event with
  | notProvided | providedOtherwise => exact ⟨rfl, rfl, rfl⟩
  | _ => cases broken

end Event

theorem Configuration.isBrokenPromise_of_warning? {configuration : Configuration σ}
    {bean : BeanDeclaration} {kind? : Option StrategyKind} {event : Event}
    (warned : configuration.warning? bean kind? = some event) : event.isBrokenPromise = true := by
  cases kind? with
  | none =>
      cases warned
      rfl
  | some kind =>
      simp only [warning?, Option.ite_none_left_eq_some, Option.some.injEq] at warned
      rw [← warned.2]
      rfl

theorem Active.isBrokenPromise_of_mem_warnings {configuration : Configuration σ}
    {registry : Registry} {event : Event}
    (event_mem : event ∈ Active.warnings configuration registry) :
    event.isBrokenPromise = true := by
  rw [Active.warnings_eq, List.mem_filterMap] at event_mem
  rcases event_mem with ⟨bean, _, warned⟩
  exact Configuration.isBrokenPromise_of_warning? warned

namespace Context

/--
Between the earlier context and the later one the news were reported, nothing was queued, and the
news tell the configurations that became active, in order.
-/
structure Tells (before : Context σ) (news : List Event) (after : Context σ) : Prop where
  reports : before.registry.Reports news after.registry
  loads : ∃ units, after.active = before.active ++ units ∧
    news.filterMap Event.loaded? = units.map (·.configuration.name)
  unqueued : news.filterMap Event.queued? = []

/-- Some news are told. -/
def Logs (before after : Context σ) : Prop :=
  ∃ news, before.Tells news after

variable {before between after context : Context σ}

theorem Tells.trans {news later : List Event} (left : before.Tells news between)
    (right : between.Tells later after) : before.Tells (news ++ later) after where
  reports := left.reports.trans right.reports
  loads := by
    rcases left.loads with ⟨units, active, loads⟩
    rcases right.loads with ⟨more, activeLater, loadsLater⟩
    refine ⟨units ++ more, by rw [activeLater, active, List.append_assoc], ?_⟩
    rw [List.filterMap_append, loads, loadsLater, List.map_append]
  unqueued := by rw [List.filterMap_append, left.unqueued, right.unqueued, List.append_nil]

theorem Tells.refl (context : Context σ) : context.Tells [] context :=
  ⟨.refl context.registry, ⟨[], by simp⟩, rfl⟩

theorem Logs.active (logs : before.Logs after) : before.active <+: after.active := by
  rcases logs with ⟨news, tells⟩
  rcases tells.loads with ⟨units, active, _⟩
  exact ⟨units, active.symm⟩

/-- Events that report neither beans nor configurations move no configuration. -/
theorem tells_of_reports {news : List Event} {registry : Registry}
    (reports : context.registry.Reports news registry)
    (quiet : ∀ event ∈ news, event.loaded? = none ∧ event.queued? = none) :
    context.Tells news { context with registry } where
  reports := reports
  loads := by
    refine ⟨[], by simp, ?_⟩
    exact List.filterMap_eq_nil_iff.mpr fun event event_mem => (quiet event event_mem).1
  unqueued := List.filterMap_eq_nil_iff.mpr fun event event_mem => (quiet event event_mem).2

theorem logs_of_uses {registry : Registry} (uses : context.registry.Uses registry) :
    context.Logs { context with registry } := by
  rcases uses with ⟨news, reports, ofUse⟩
  refine ⟨news, tells_of_reports reports fun event event_mem => ?_⟩
  exact Event.moves_nothing_of_isOfUse (ofUse event event_mem)

/-- A load tells what its hooks do, and the configuration if it becomes active. -/
theorem load_logs {queued pruned : Queued σ} {outcome : Except ConfigurationError Bool}
    (loaded : context.load queued = some (outcome, pruned, after)) : context.Logs after := by
  rcases load_cases loaded with
    ⟨_, rfl⟩ | ⟨error, left, _, fails, rfl⟩ | ⟨final, provided, _, _, completes, rfl⟩
  · exact ⟨[], .refl _⟩
  · exact logs_of_uses fails.uses
  · rcases logs_of_uses completes.uses with ⟨news, tells⟩
    have broken := fun event : Event =>
      @Active.isBrokenPromise_of_mem_warnings σ queued.configuration provided event
    have warns : provided.Reports (Active.warnings queued.configuration provided)
        (queued.inspected provided) :=
      Registry.report_all_reports (fun event event_mem =>
        (Event.moves_nothing_of_isBrokenPromise (broken event event_mem)).1) provided
    have checks : Tells { context with registry := provided } _
        { context with registry := queued.inspected provided } :=
      tells_of_reports warns fun event event_mem =>
        (Event.moves_nothing_of_isBrokenPromise (broken event event_mem)).2
    have activates : Tells { context with registry := queued.inspected provided }
        [.loaded queued.configuration.name] (context.activate queued final provided) :=
      ⟨Registry.report_reports rfl _, ⟨_, rfl, rfl⟩, rfl⟩
    exact ⟨_, (tells.trans checks).trans activates⟩

theorem upholds_logs :
    Upholds (fun _ : Configuration σ => True) fun before _ after => before.Logs after where
  waits context _ := ⟨[], .refl context.registry, ⟨[], by simp⟩, rfl⟩
  append := by
    rintro _ _ _ _ _ ⟨news, tells⟩ ⟨later, tellsLater⟩
    exact ⟨news ++ later, tells.trans tellsLater⟩
  load _ loaded := load_logs loaded
  assembled context count := by
    refine ⟨_, tells_of_reports (Registry.report_reports rfl context.registry) ?_⟩
    simp [Event.loaded?, Event.queued?]

/-- The names of the waiting configurations, then those of the active ones. -/
def configurationNames (context : Context σ) : List String :=
  context.waiting.map (·.configuration.name) ++ context.active.map (·.configuration.name)

end Context

section Turns

variable {line between left : Line σ} {context next after : Context σ} {turn : Turn σ}
  {turns : List (Turn σ)} {stop : Option Ending}

/-- At a turn the configuration goes on waiting or becomes active. -/
theorem Goes.names (goes : Goes line context turn between next) :
    (next.lineUp between).configurationNames.Perm (context.lineUp line).configurationNames := by
  cases goes with
  | waits missing => simp [Context.configurationNames, Context.lineUp]
  | loads attempt loaded =>
      simp only [Context.configurationNames, Context.lineUp, Context.activate, List.map_append,
        List.map_cons, List.map_nil, List.append_assoc]
      refine List.Perm.append_left _ ?_
      rw [← List.append_assoc]
      exact List.perm_append_comm

theorem Proceeds.names (proceeds : Proceeds line context turns stop left after) :
    (after.lineUp left).configurationNames.Perm (context.lineUp line).configurationNames := by
  induction proceeds with
  | nil => exact .refl _
  | cons goes proceeds ih => exact ih.trans goes.names
  | fails attempt fails loaded => simp [Context.configurationNames, Context.lineUp]
  | hangs attempt => exact .refl _

theorem Context.assemble_names {outcome : Except ConfigurationError Unit}
    (assembled : context.assemble = some (outcome, after)) :
    after.configurationNames.Perm context.configurationNames := by
  rcases exists_proceeds_of_assemble assembled with
    ⟨_, left, settled, proceeds, _, _, waiting_eq, sameActive⟩
  have names := proceeds.names
  rw [lineUp_zipIdx] at names
  rwa [configurationNames, waiting_eq, sameActive]

end Turns

section Queueing

variable (all : List (Configuration σ))

theorem moves_nothing_of_mem_reportedBy {id : ConfigurationId} {event : Event}
    (event_mem : event ∈ reportedBy all id) :
    event.registration? = none ∧ event.loaded? = none := by
  rcases List.mem_flatMap.mp event_mem with ⟨found, _, reported⟩
  cases found with
  | queue place | skip place =>
      simp only [Visit.reported] at reported
      cases known : all[place]? <;> simp [known] at reported
      rw [reported]
      exact ⟨rfl, rfl⟩

/-- What is reported as queued is what waits from then on. -/
theorem queues_reportedBy (id : ConfigurationId) :
    (reportedBy all id).filterMap Event.queued? =
      (queuedBy all id).map (·.configuration.name) := by
  simp only [reportedBy, queuedBy, List.filterMap_flatMap, List.map_flatMap]
  refine List.flatMap_congr fun found _ => ?_
  cases found with
  | queue place | skip place =>
      simp only [Visit.reported, Visit.queued]
      cases all[place]? <;> rfl

/-- Queueing reports what it queues and what it skips. -/
theorem reports_reportedBy (id : ConfigurationId) (registry : Registry) :
    registry.Reports (reportedBy all id)
      { registry with events := registry.events ++ reportedBy all id } where
  told := rfl
  infos := by
    have noBeans : (reportedBy all id).filterMap Event.registration? = [] :=
      List.filterMap_eq_nil_iff.mpr fun _ event_mem =>
        (moves_nothing_of_mem_reportedBy all event_mem).1
    rw [noBeans, List.append_nil]
    rfl

end Queueing

namespace Registry

theorem nodup_insert {name : String} {strategy : Strategy} {registry : Registry}
    (nodup : registry.names.Nodup) : (registry.insert name strategy).2.names.Nodup := by
  rcases insert_cases name strategy registry with ⟨fault, refused⟩ | ⟨_, free, accepted⟩
  · rwa [refused]
  · have fresh : name ∉ registry.names := by
      intro name_mem
      rcases List.mem_map.mp name_mem with ⟨entry, entry_mem, rfl⟩
      have contained : registry.contains entry.1 = true :=
        List.lookup_isSome_iff.mpr ⟨entry, entry_mem, by simp⟩
      rw [contained] at free
      cases free
    rw [accepted]
    simpa [names, report] using nodup.concat fresh

theorem nodup_apply (registration : Registration) {registry : Registry}
    (nodup : registry.names.Nodup) : (registration.apply registry).2.names.Nodup := by
  cases registration with
  | strategy name made => exact nodup_insert nodup
  | supply name type bean => exact nodup_insert nodup
  | ensure name type =>
      simp only [Registration.apply, ensure]
      split
      · exact nodup_insert nodup
      · exact nodup

/-- Each name is registered once, whatever is done. -/
theorem carries_nodup : Carries fun before _ after => before.names.Nodup → after.names.Nodup where
  refl _ := id
  append left right := right ∘ left
  report _ _ := id
  read ran nodup := by rwa [names, Procedure.read_beans ran]
  perform ran := by
    let distinct (beans : List (String × Strategy)) : Prop := (beans.map (·.1)).Nodup
    have persists := persists_beans (fun before after => distinct before → distinct after)
      (fun _ => id) fun left right => right ∘ left
    exact persists.perform (fun registration _ => nodup_apply registration) ran

/-- Among distinct names, what is told of a bean is what the registry has under its name. -/
theorem mem_infos_iff {registry : Registry} (nodup : registry.names.Nodup) {name : String}
    {handover : Handover} {kind : StrategyKind} :
    ⟨name, handover, kind⟩ ∈ registry.infos ↔
      registry.handover? name = some handover ∧ registry.kind? name = some kind := by
  rw [handover?, kind?]
  constructor
  · intro info_mem
    rcases List.mem_map.mp info_mem with ⟨⟨own, strategy⟩, entry_mem, same⟩
    cases same
    have found : registry.find? own = some strategy := by
      rcases List.append_of_mem entry_mem with ⟨before, behind, beans_eq⟩
      refine List.lookup_eq_some_iff.mpr ⟨before, behind, beans_eq, ?_⟩
      intro other other_mem
      rw [names, beans_eq, List.map_append, List.map_cons] at nodup
      have apart := (List.nodup_append.mp nodup).2.2 other.1 (List.mem_map_of_mem other_mem) own
        List.mem_cons_self
      simpa using Ne.symm apart
    rw [found]
    exact ⟨rfl, rfl⟩
  · rintro ⟨handed, ofKind⟩
    rcases Option.map_eq_some_iff.mp handed with ⟨strategy, found, rfl⟩
    rw [found] at ofKind
    cases ofKind
    exact List.mem_map.mpr ⟨(name, strategy), mem_beans_of_find? found, rfl⟩

end Registry

/--
The reported events tell what the context has come to, if the given configurations have become active
without being queued.
-/
structure Tallies (context : Context σ) (outside : List (Active σ)) : Prop where
  names : context.registry.names.Nodup
  registrations : context.registry.events.filterMap Event.registration? = context.registry.infos
  loads : context.registry.events.filterMap Event.loaded? =
    context.active.map (·.configuration.name)
  queues : (context.registry.events.filterMap Event.queued? ++
    outside.map (·.configuration.name)).Perm context.configurationNames
  outside : outside.Sublist context.active

namespace Tallies

variable {context after : Context σ} {outside outsideAfter : List (Active σ)}

/-- The tallies go on to be right if the news tell what became active. -/
theorem of_news {news : List Event} {units : List (Active σ)} (tallies : Tallies context outside)
    (reports : context.registry.Reports news after.registry)
    (names : after.registry.names.Nodup) (active : after.active = context.active ++ units)
    (loads : news.filterMap Event.loaded? = units.map (·.configuration.name))
    (queues : (context.registry.events.filterMap Event.queued? ++ news.filterMap Event.queued? ++
      outsideAfter.map (·.configuration.name)).Perm after.configurationNames)
    (outsideActive : outsideAfter.Sublist after.active) : Tallies after outsideAfter where
  names := names
  registrations := by
    rw [reports.told, List.filterMap_append, tallies.registrations, reports.infos]
  loads := by
    rw [reports.told, List.filterMap_append, loads, tallies.loads, active, List.map_append]
  queues := by rwa [reports.told, List.filterMap_append]
  outside := outsideActive

/-- The tallies go on to be right if nothing was queued and the news are told. -/
theorem of_logs (tallies : Tallies context outside) (logs : context.Logs after)
    (names : after.registry.names.Nodup)
    (queues : (context.registry.events.filterMap Event.queued? ++
      outsideAfter.map (·.configuration.name)).Perm after.configurationNames)
    (outsideActive : outsideAfter.Sublist after.active) : Tallies after outsideAfter := by
  rcases logs with ⟨news, tells⟩
  rcases tells.loads with ⟨units, active, loads⟩
  refine tallies.of_news tells.reports names active loads ?_ outsideActive
  rwa [tells.unqueued, List.append_nil]

/-- What is queued waits from then on, and is reported. -/
theorem queue {all : List (Configuration σ)} (tallies : Tallies context outside)
    (id : ConfigurationId) (names : (context.queue all id).registry.names.Nodup) :
    Tallies (context.queue all id) outside := by
  rw [context.queue_eq_extend id] at names ⊢
  have active : (context.extend (queuedBy all id) (reportedBy all id)).active =
      context.active ++ [] := (List.append_nil _).symm
  refine tallies.of_news (reports_reportedBy all id _) names active ?_ ?_ tallies.outside
  · exact List.filterMap_eq_nil_iff.mpr fun _ event_mem =>
      (moves_nothing_of_mem_reportedBy all event_mem).2
  · have queues := tallies.queues
    simp only [queues_reportedBy, Context.extend, Context.configurationNames, List.map_append,
      List.perm_iff_count, List.count_append] at queues ⊢
    intro name
    have := queues name
    omega

theorem assemble {outcome : Except ConfigurationError Unit} (tallies : Tallies context outside)
    (assembled : context.assemble = some (outcome, after)) (names : after.registry.names.Nodup) :
    Tallies after outside := by
  have logs := Context.upholds_logs.assemble_turns (fun _ _ => trivial) assembled
  refine tallies.of_logs logs names ?_ (tallies.outside.trans logs.active.sublist)
  exact tallies.queues.trans (Context.assemble_names assembled).symm

/-- What becomes active by a load alone was not queued, so it is set apart. -/
theorem load {queued pruned : Queued σ} {outcome : Except ConfigurationError Bool}
    (tallies : Tallies context outside)
    (loaded : context.load queued = some (outcome, pruned, after))
    (names : after.registry.names.Nodup) :
    Tallies after (outside ++ after.active.drop context.active.length) := by
  have logs := Context.load_logs loaded
  have sameWaiting := Context.waiting_of_load loaded
  rcases logs.active with ⟨units, active⟩
  have added : after.active.drop context.active.length = units := by
    rw [← active, List.drop_left]
  rw [added]
  refine tallies.of_logs logs names ?_ ?_
  · simp only [Context.configurationNames, sameWaiting, ← active, List.map_append,
      ← List.append_assoc]
    exact tallies.queues.append_right _
  · rw [← active]
    exact tallies.outside.append (List.Sublist.refl units)

theorem use {α : Type} {procedure : Procedure Registration α} {result : α} {registry : Registry}
    (tallies : Tallies context outside)
    (performed : procedure.perform context.registry = some (result, registry))
    (names : registry.names.Nodup) : Tallies { context with registry } outside :=
  tallies.of_logs (Context.logs_of_uses (Procedure.perform_uses performed)) names tallies.queues
    tallies.outside

end Tallies

namespace Journal

/-- Each operation leaves the tallies right, whether or not it fails. -/
theorem Valid.tallies_step {all : List (Configuration σ)} {journal : Journal σ}
    (valid : journal.Valid) (running : journal.hung = false)
    (tallies : Tallies journal.context journal.outside) (operation : Operation σ) :
    Tallies (journal.step all operation).context (journal.step all operation).outside := by
  rcases Registry.carries_nodup.step all journal operation with ⟨_, _, keeps⟩
  have names := keeps tallies.names
  cases valid.leaves running operation with
  | hung sameContext sameOutside => rwa [sameContext, sameOutside]
  | queued id queues sameOutside =>
      rw [queues] at names ⊢
      rw [sameOutside]
      exact tallies.queue id names
  | assembled ended sameOutside =>
      rw [sameOutside]
      exact tallies.assemble ended names
  | loaded ended outside =>
      rw [outside]
      exact tallies.load ended names
  | used ended sameContext sameOutside =>
      rw [sameContext] at names ⊢
      rw [sameOutside]
      exact tallies.use ended names

theorem tallies_start {initial : Registry} (empty : initial.beans = [])
    (silent : initial.events = []) : Tallies ({ registry := initial } : Context σ) [] where
  names := by simp [Registry.names, empty]
  registrations := by simp [Registry.infos, empty, silent]
  loads := by simp [silent]
  queues := by simp [silent, Context.configurationNames]
  outside := List.Sublist.refl _

theorem run_tallies (all : List (Configuration σ)) {initial : Registry}
    (empty : initial.beans = []) (silent : initial.events = []) (operations : List (Operation σ)) :
    let journal := (start initial).run all operations
    Tallies journal.context journal.outside := by
  exact Valid.run_induction (motive := fun journal => Tallies journal.context journal.outside)
    (fun _ operation valid running tallies => valid.tallies_step running tallies operation)
    (valid_start initial) (tallies_start empty silent) operations

/--
The log of a run that begins with an empty registry tells what the context has come to, whatever
failed on the way. The reports of registered beans name no bean twice, and tell just the registered
ones in their order, with their types and kinds. The reports of loaded configurations name the active
ones in their order. And the reports of queued configurations name those that wait or are active,
except for those that were loaded without being queued. The run comes to the same with its record and
without.
-/
theorem log_tells_state (all : List (Configuration σ)) {initial : Registry}
    (empty : initial.beans = []) (silent : initial.events = []) (operations : List (Operation σ)) :
    let journal := (start initial).run all operations
    let registry := journal.context.registry
    let told := registry.events.filterMap Event.registration?
    let loads := registry.events.filterMap Event.loaded?
    let queues := registry.events.filterMap Event.queued?
    let active := journal.context.active.map (·.configuration.name)
    let waiting := journal.context.waiting.map (·.configuration.name)
    let outside := journal.outside.map (·.configuration.name)
    Context.run all { registry := initial } operations =
      (if journal.hung then none else some journal.context) ∧
    ((told.map (·.name)).Nodup ∧ told.map (·.name) = registry.names ∧
      ∀ name handover kind, ⟨name, handover, kind⟩ ∈ told ↔
        registry.handover? name = some handover ∧ registry.kind? name = some kind) ∧
    loads = active ∧
    (queues ++ outside).Perm (waiting ++ active) ∧
      journal.outside.Sublist journal.context.active := by
  intro journal registry told loads queues active waiting outside
  have tallies : Tallies journal.context journal.outside := run_tallies all empty silent operations
  have sameNames : told.map (·.name) = registry.names := by
    have same := congrArg (List.map (·.name)) tallies.registrations
    simpa [Registry.infos, Registry.names, Function.comp_def] using same
  refine ⟨(valid_start initial).run_context rfl operations, ⟨sameNames ▸ tallies.names, sameNames,
    ?_⟩, tallies.loads, tallies.queues, tallies.outside⟩
  intro name handover kind
  change _ ∈ registry.events.filterMap Event.registration? ↔ _
  rw [tallies.registrations, Registry.mem_infos_iff tallies.names]

/-- Supplies a bean as declared, and depends on a configuration that fails. -/
def reliable : Configuration Unit :=
  { Configuration.supplying "reliable" [] ["kept"] with dependencies := [1] }

/-- Supplies one of the two declared beans, and fails then. -/
def faltering : Configuration Unit :=
  { Configuration.supplying "faltering" ["kept"] ["begun", "forgotten"] with
    provide := fun _ => .write (.supply "begun" .i32 (.plain (.integer 1))) fun _ =>
      .done (.error (.construction "faltering" "boom"), ()) }

/-- Tries to register a bean under a name that is taken. -/
def usurping : Procedure Registration Unit :=
  .write (.strategy "kept" (.factory .i32 (.default .i32))) fun _ => .done ()

/-- Supplies a bean, and is loaded without being queued. -/
def stray : Queued Unit :=
  .ofConfiguration 2 (.supplying "stray" [] ["found"])

/-- Neither a failed hook nor a refused registration leaves the log behind the state. -/
theorem log_tells_state_after_mishaps :
    ∃ reached : Context Unit,
      Context.run [reliable, faltering] {}
        [.queue 0, .assemble, .use usurping, .assemble, .load stray] = some reached ∧
      reached.registry.names = ["kept", "begun", "found"] ∧
      reached.registry.kind? "begun" = some .supplied ∧
      reached.active.map (·.configuration.name) = ["reliable", "stray"] := by
  have ended : ((start {} : Journal Unit).run [reliable, faltering]
      [.queue 0, .assemble, .use usurping, .assemble, .load stray]).hung = false := by
    decide +kernel
  have events : ((start {} : Journal Unit).run [reliable, faltering]
      [.queue 0, .assemble, .use usurping, .assemble, .load stray]).context.registry.events =
        [.queued "reliable", .queued "faltering",
          .registered "kept" ⟨.value, .i32⟩ .supplied, .loaded "reliable",
          .registered "begun" ⟨.value, .i32⟩ .supplied,
          .registered "found" ⟨.value, .i32⟩ .supplied, .loaded "stray"] := by
    decide +kernel
  rcases log_tells_state [reliable, faltering] (rfl : ({} : Registry).beans = []) rfl
    [.queue 0, .assemble, .use usurping, .assemble, .load stray] with
    ⟨ran, ⟨_, names, infos⟩, loaded, _⟩
  rw [if_neg (by simp [ended])] at ran
  rw [events] at names infos loaded
  refine ⟨_, ran, names.symm, ?_, loaded.symm⟩
  exact ((infos "begun" ⟨.value, .i32⟩ .supplied).mp (by decide)).2

end Journal

end BeanContainer
