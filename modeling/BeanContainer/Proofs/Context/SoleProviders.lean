import BeanContainer.Proofs.Context.Conservation
import BeanContainer.Proofs.Context.Diagnosis

/-!
# One provider for each bean

Nothing keeps a configuration from being queued twice, or two of them from declaring the same bean.
What guards against it is that each name is registered once. Suppose that the last hook of a
configuration completes only after it has itself registered all declared beans. Then the names were
free when the configuration was loaded, and they are taken at every later turn. So of two such
configurations that declare the same bean at most one is loaded. The other one goes on waiting, and
the assembly does not succeed.
-/

namespace BeanContainer

variable {σ : Type}

/-- Whenever the last hook completes, it has itself registered each of the declared beans. -/
def Configuration.ProvidesItself (configuration : Configuration σ) : Prop :=
  ∀ {built state provided : σ} {registry constructed initialized after : Registry},
    configuration.construct.read registry = some (.ok built, constructed) →
      (configuration.postInit built).read constructed = some ((.ok (), state), initialized) →
        (configuration.provide state).perform initialized = some ((.ok (), provided), after) →
          ∀ bean ∈ configuration.beanNames,
            ∃ filing ∈ (configuration.provide state).filings initialized,
              filing.name = bean ∧ filing.isAccepted = true

/-- If both of them provide their beans themselves, they declare none in common. -/
def Configuration.StandsApart (first second : Configuration σ) : Prop :=
  first.ProvidesItself → second.ProvidesItself → first.beanNames.Disjoint second.beanNames

theorem Configuration.StandsApart.symm {first second : Configuration σ}
    (apart : first.StandsApart second) : second.StandsApart first :=
  fun secondProvides firstProvides _ inSecond inFirst =>
    apart firstProvides secondProvides inFirst inSecond

/-- Only the last hook makes attempts at registering. -/
theorem Queued.filings_of_hooks {queued : Queued σ} {built initial final : σ}
    {registry constructed initialized provided : Registry}
    (satisfied : (queued.pruned registry).missing = [])
    (constructs : queued.configuration.construct.read registry = some (.ok built, constructed))
    (initializes : (queued.configuration.postInit built).read constructed =
      some ((.ok (), initial), initialized))
    (performs : (queued.configuration.provide initial).perform initialized =
      some ((.ok (), final), provided)) :
    queued.filings registry = (queued.configuration.provide initial).filings initialized := by
  have constructFiles := Procedure.read_files_nothing constructs
  have postInitFiles := Procedure.read_files_nothing initializes
  rw [filings, moments, Context.hookCalls_of_satisfied satisfied]
  simp [traceHooks, callHook, constructs, initializes, performs, filingsIn_append, constructFiles,
    postInitFiles, Procedure.filings, Procedure.course]

namespace Turn

/-- What was registered at the earlier turn is registered at the later one. -/
def Precedes (first second : Turn σ) : Prop :=
  ∀ filing ∈ first.filings, filing.after.Retains second.registry

variable {turn first second : Turn σ}

/-- At a turn that completes nothing is missing, and all hooks complete. -/
theorem completesWith (completes : turn.completes = true) :
    (turn.queued.pruned turn.registry).missing = [] ∧
      ∃ final provided, turn.queued.CompletesWith turn.registry final provided := by
  cases turn.loadEnds with
  | missing missing => simp [completes_of_missing missing] at completes
  | hung _ attempt | failed _ attempt => simp [completes_of_attempt attempt] at completes
  | completed satisfied _ completesWith => exact ⟨satisfied, _, _, completesWith⟩

/-- What is registered when a turn begins is there at all its attempts at registering. -/
theorem retains_of_completes (completes : turn.completes = true) :
    ∀ filing ∈ turn.filings, turn.registry.Retains filing.registry := by
  rcases completesWith completes with ⟨satisfied, _, _, completesWith⟩
  intro filing filing_mem
  exact ((completesWith.accounts satisfied).between filing filing_mem).1

/-- The beans of a configuration that provides them itself are registered at the turn it loads. -/
theorem exists_filing (provides : turn.queued.configuration.ProvidesItself)
    (completes : turn.completes = true) : ∀ bean ∈ turn.queued.configuration.beanNames,
      ∃ filing ∈ turn.filings, filing.name = bean ∧ filing.isAccepted = true := by
  rcases completesWith completes with ⟨satisfied, _, _, constructs, initializes, performs⟩
  have filings_eq : turn.filings = _ :=
    Queued.filings_of_hooks satisfied constructs initializes performs
  rw [filings_eq]
  exact provides constructs initializes performs

/-- What is declared at a turn that completes was free when the turn began. -/
theorem free_of_completes (provides : turn.queued.configuration.ProvidesItself)
    (completes : turn.completes = true) {bean : String}
    (declares : bean ∈ turn.queued.configuration.beanNames) {before : Registry}
    (retains : before.Retains turn.registry) : before.contains bean = false := by
  rcases exists_filing provides completes bean declares with ⟨filing, filing_mem, rfl, accepted⟩
  have free := (Filing.isAccepted_iff.mp accepted).2
  have grown := (retains.trans (retains_of_completes completes filing filing_mem)).beans
  rw [Bool.eq_false_iff] at free ⊢
  exact fun contained => free (Registry.contains_of_grown grown contained)

/-- Two turns that complete, one after the other, register no name in common. -/
theorem Precedes.standsApart (precedes : first.Precedes second)
    (firstCompletes : first.completes = true) (secondCompletes : second.completes = true) :
    first.queued.configuration.StandsApart second.queued.configuration := by
  intro firstProvides secondProvides bean firstDeclares secondDeclares
  rcases exists_filing firstProvides firstCompletes bean firstDeclares with
    ⟨filing, filing_mem, rfl, accepted⟩
  have free := free_of_completes secondProvides secondCompletes secondDeclares
    (precedes filing filing_mem)
  rw [Registry.contains_eq_find?, Filing.find?_after accepted] at free
  cases free

theorem configurations_of_rises {turns : List (Turn σ)} {units : List (Active σ)}
    (rises : List.Forall₂ GivesRise turns units) :
    units.map (·.configuration) = turns.map (·.queued.configuration) := by
  induction rises with
  | nil => rfl
  | cons gives _ ih => rw [List.map_cons, List.map_cons, ih, gives.2]

end Turn

section Turns

variable {line between left : Line σ} {context next after : Context σ} {turn : Turn σ}
  {turns : List (Turn σ)} {stop : Option Ending}

theorem Goes.accounts (goes : Goes line context turn between next) :
    context.registry.Accounts turn.filings next.registry := by
  have accounts := carries_accounts.upholds.goes goes trivial
  rwa [List.flatMap_singleton] at accounts

/-- What is registered before the turns is registered at all of them. -/
theorem Proceeds.retains (proceeds : Proceeds line context turns stop left after) :
    ∀ turn ∈ turns, context.registry.Retains turn.registry := by
  induction proceeds with
  | nil => simp
  | cons goes proceeds ih =>
      have retains := goes.accounts.retains
      rw [List.forall_mem_cons]
      refine ⟨?_, fun turn turn_mem => retains.trans (ih turn turn_mem)⟩
      cases goes <;> exact .refl _
  | fails | hangs => simpa using .refl _

/-- The turns stand in the order in which they are taken. -/
theorem Proceeds.precedes (proceeds : Proceeds line context turns stop left after) :
    turns.Pairwise Turn.Precedes := by
  induction proceeds with
  | nil => exact .nil
  | cons goes proceeds ih =>
      refine List.pairwise_cons.mpr ⟨fun later later_mem filing filing_mem => ?_, ih⟩
      exact (goes.accounts.between filing filing_mem).2.trans (proceeds.retains later later_mem)
  | fails | hangs => exact List.pairwise_singleton _ _

end Turns

namespace Context

variable {context after : Context σ} {turns : List (Turn σ)}

theorem standsApart_of_completes (precedes : turns.Pairwise Turn.Precedes) :
    (turns.filter (·.completes)).Pairwise
      fun first second => first.queued.configuration.StandsApart second.queued.configuration := by
  refine (precedes.filter _).imp_of_mem ?_
  intro first second first_mem second_mem precedes
  exact precedes.standsApart (List.mem_filter.mp first_mem).2 (List.mem_filter.mp second_mem).2

/-- Nothing waits after a successful assembly. -/
theorem waiting_of_ok (assembled : context.assemble = some (.ok (), after)) :
    after.waiting = [] := by
  rcases assemble_cases assembled with ⟨error, failed, _⟩ | ⟨settled, _, concluded⟩
  · cases failed
  · have waiting := settled.conclude_waiting
    rw [concluded] at waiting
    rw [waiting]
    exact conclude_eq_ok_iff.mp (congrArg Prod.fst concluded)

/-- If nothing is left waiting, each configuration that waited has a turn that completes. -/
theorem exists_turn_of_perm {waiting : List (Queued σ)}
    (perm : (doneIn turns).Perm (List.range waiting.length))
    (placed : ∀ turn ∈ turns, IsPlaced waiting (turn.queued, turn.place)) {place : Nat}
    {queued : Queued σ} (found : waiting[place]? = some queued) :
    ∃ turn ∈ turns.filter (·.completes), turn.place = place ∧
      turn.queued.configuration = queued.configuration := by
  have inside := List.mem_range.mpr (List.getElem?_eq_some_iff.mp found).1
  rcases List.mem_map.mp (perm.mem_iff.mpr inside) with ⟨turn, turn_mem, rfl⟩
  rcases placed turn (List.mem_filter.mp turn_mem).1 with ⟨original, foundAgain, _, same⟩
  cases found.symm.trans foundAgain
  exact ⟨turn, turn_mem, rfl, same⟩

/--
In every assembly that comes to an end, each configuration that becomes active and provides its
beans itself declares beans that were all free before the assembly, and two of these declare none in
common. So the assembly does not succeed if two configurations wait that provide the same bean
themselves, be it one configuration that waits twice.
-/
theorem assemble_admits_one_provider {context after : Context σ}
    {outcome : Except ConfigurationError Unit}
    (assembled : context.assemble = some (outcome, after)) :
    ∃ (loads : List Nat) (units : List (Active σ)), after.active = context.active ++ units ∧
      loads.Nodup ∧ List.Forall₂ (StandsFor context.waiting) loads units ∧
      (outcome = .ok () → loads.Perm (List.range context.waiting.length)) ∧
      (∀ unit ∈ units, unit.configuration.ProvidesItself →
        ∀ bean ∈ unit.configuration.beanNames, context.registry.contains bean = false) ∧
      units.Pairwise (fun first second => first.configuration.ProvidesItself →
        second.configuration.ProvidesItself →
          first.configuration.beanNames.Disjoint second.configuration.beanNames) ∧
      ∀ (place other : Nat) (queued again : Queued σ), place ≠ other →
        context.waiting[place]? = some queued → context.waiting[other]? = some again →
          queued.configuration.ProvidesItself → again.configuration.ProvidesItself →
            ∀ bean ∈ queued.configuration.beanNames, bean ∈ again.configuration.beanNames →
              outcome ≠ .ok () := by
  rcases exists_proceeds_of_assemble assembled with
    ⟨stop, left, settled, proceeds, _, _, waiting_eq, sameActive⟩
  rcases proceeds.rises with ⟨units, active_eq, rises⟩
  have configurations := Turn.configurations_of_rises rises
  have perm := proceeds.perm
  rw [zipIdx_places] at perm
  have nodup := (List.nodup_append.mp (perm.nodup_iff.mpr List.nodup_range)).2.1
  have permOfOk : outcome = .ok () →
      (doneIn context.turns).Perm (List.range context.waiting.length) := by
    rintro rfl
    have empty : left = [] := by
      rw [waiting_of_ok assembled] at waiting_eq
      exact List.map_eq_nil_iff.mp waiting_eq.symm
    rwa [empty] at perm
  have apart := standsApart_of_completes proceeds.precedes
  refine ⟨doneIn context.turns, units, sameActive.trans active_eq, nodup,
    standsFor_of_givesRise proceeds.isPlaced rises, permOfOk, ?_, ?_, ?_⟩
  · intro unit unit_mem provides bean declares
    have configuration_mem : unit.configuration ∈
        (context.turns.filter (·.completes)).map (·.queued.configuration) := by
      rw [← configurations]
      exact List.mem_map_of_mem unit_mem
    rcases List.mem_map.mp configuration_mem with ⟨turn, turn_mem, same⟩
    rw [← same] at provides declares
    rcases List.mem_filter.mp turn_mem with ⟨taken, completes⟩
    exact Turn.free_of_completes provides completes declares (proceeds.retains turn taken)
  · have unitsApart : (units.map (·.configuration)).Pairwise Configuration.StandsApart := by
      rw [configurations, List.pairwise_map]
      exact apart
    exact List.pairwise_map.mp unitsApart
  · intro place other queued again distinct found foundAgain provides providesAgain bean declares
      declaresAgain succeeds
    have perm := permOfOk succeeds
    rcases exists_turn_of_perm perm proceeds.isPlaced found with ⟨turn, turn_mem, rfl, same⟩
    rcases exists_turn_of_perm perm proceeds.isPlaced foundAgain with
      ⟨turnAgain, turnAgain_mem, rfl, sameAgain⟩
    rw [← same] at provides declares
    rw [← sameAgain] at providesAgain declaresAgain
    have : Std.Symm fun first second : Turn σ =>
        first.queued.configuration.StandsApart second.queued.configuration :=
      ⟨fun _ _ => Configuration.StandsApart.symm⟩
    exact apart.forall turn_mem turnAgain_mem (by rintro rfl; exact distinct rfl)
      provides providesAgain declares declaresAgain

end Context

namespace Configuration

theorem filing_of_supplyAll {names : List String} {registry after : Registry}
    (performed : (supplyAll names).perform registry = some ((.ok (), ()), after)) :
    ∀ name ∈ names, ∃ filing ∈ (supplyAll names).filings registry,
      filing.name = name ∧ filing.isAccepted = true := by
  induction names generalizing registry with
  | nil => simp
  | cons name rest ih =>
      obtain ⟨filing, files⟩ : ∃ filing,
          (Registration.supply name .i32 (.plain (.integer 0))).filing? registry = some filing :=
        ⟨_, rfl⟩
      have named : filing.name = name := by
        cases files
        rfl
      have applied := (Registration.apply_of_filing files).1
      cases accepted : filing.isAccepted with
      | false =>
          simp [supplyAll, Procedure.perform, Procedure.run, applied,
            (Filing.of_refused accepted).1] at performed
      | true =>
          rw [(Filing.after_of_accepted accepted).1] at applied
          have later : (supplyAll rest).perform filing.after = some ((.ok (), ()), after) := by
            simpa [supplyAll, Procedure.perform, Procedure.run, applied] using performed
          have filings_eq : (supplyAll (name :: rest)).filings registry =
              filing :: (supplyAll rest).filings filing.after := by
            rw [supplyAll, Procedure.filings_write, files, applied]
            rfl
          rw [filings_eq, List.forall_mem_cons]
          refine ⟨⟨filing, List.mem_cons_self, named, accepted⟩, ?_⟩
          intro bean bean_mem
          rcases ih later bean bean_mem with ⟨found, found_mem, same⟩
          exact ⟨found, List.mem_cons_of_mem filing found_mem, same⟩

theorem supplying_providesItself (name : String) (resources beans : List String) :
    (supplying name resources beans).ProvidesItself := by
  intro _ state provided _ _ initialized after _ _ performed
  rw [beanNames_supplying]
  exact filing_of_supplyAll performed

end Configuration

namespace Context

/-- Two configurations that each reach the same source, and need what it supplies. -/
def doubled : List (Configuration Unit) :=
  [.supplying "source" [] ["seed"],
    { Configuration.supplying "left" ["seed"] ["apple"] with dependencies := [0] },
    { Configuration.supplying "right" ["seed"] ["pear"] with dependencies := [0] }]

theorem assemble_refuses_doubled_source :
    ∃ (context after : Context Unit) (outcome : Except ConfigurationError Unit),
      ((Journal.start {}).run doubled [.queue 1, .queue 2]).context = context ∧
      context.waiting.map (·.configuration.name) = ["left", "source", "right", "source"] ∧
      context.assemble = some (outcome, after) ∧ outcome ≠ .ok () := by
  obtain ⟨context, reached⟩ : ∃ context,
      ((Journal.start {}).run doubled [.queue 1, .queue 2]).context = context :=
    ⟨_, rfl⟩
  have names : context.waiting.map (·.configuration.name) =
      ["left", "source", "right", "source"] := by
    subst reached
    decide +kernel
  have waits : context.waiting[1]? =
        some (.ofConfiguration 0 (.supplying "source" [] ["seed"])) ∧
      context.waiting[3]? = some (.ofConfiguration 0 (.supplying "source" [] ["seed"])) := by
    have left : visits doubled [] 1 = [.queue 1, .queue 0] := by decide +kernel
    have right : visits doubled [] 2 = [.queue 2, .queue 0] := by decide +kernel
    have waiting : context.waiting = queuedBy doubled 1 ++ queuedBy doubled 2 := by
      rw [← reached]
      exact ((queue_queues_queuedBy doubled 1 {}).trans (queue_queues_queuedBy doubled 2 _)).waiting
    rw [waiting, queuedBy, queuedBy, left, right]
    exact ⟨rfl, rfl⟩
  have ends : context.assemble.isSome = true := by
    subst reached
    decide +kernel
  rcases Option.isSome_iff_exists.mp ends with ⟨⟨outcome, after⟩, assembled⟩
  rcases assemble_admits_one_provider assembled with ⟨_, _, _, _, _, _, _, _, refuses⟩
  refine ⟨context, after, outcome, reached, names, assembled, ?_⟩
  exact refuses 1 3 _ _ (by decide) waits.1 waits.2
    (Configuration.supplying_providesItself _ _ _) (Configuration.supplying_providesItself _ _ _)
    "seed" (by simp [Queued.ofConfiguration]) (by simp [Queued.ofConfiguration])

end Context

end BeanContainer
