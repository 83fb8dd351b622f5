import BeanContainer.Proofs.Context.Filings
import BeanContainer.Proofs.Context.Supplying
import BeanContainer.Proofs.Registry.Reports

/-!
# Warnings about declared beans

When the hooks of a configuration have completed, its declared beans are looked up in the registry,
in the order of the declarations. There is a warning for each that is missing or has another
strategy than declared. The hooks themselves give no warnings. Who registered a bean is not asked:
one that was there with the declared strategy before the hooks were called is not warned about,
although the configuration did not provide it.
-/

namespace BeanContainer

variable {σ : Type}

/-- The kind of the strategy that the hooks register under the name when they are called. -/
def Queued.ownKind? (queued : Queued σ) (registry : Registry) (name : String) :
    Option StrategyKind :=
  (((queued.filings registry).flatMap (·.entries)).lookup name).map (·.kind)

/-- The warning about the declared bean if its strategy is of the given kind, or if it has none. -/
def Configuration.warning? (configuration : Configuration σ) (bean : BeanDeclaration) :
    Option StrategyKind → Option Event
  | none => some (.notProvided configuration.name bean.name)
  | some kind =>
    if kind = bean.kind then none
    else some (.providedOtherwise configuration.name bean.name bean.kind kind)

theorem Configuration.warning?_eq_none_iff {configuration : Configuration σ}
    {bean : BeanDeclaration} {kind? : Option StrategyKind} :
    configuration.warning? bean kind? = none ↔ kind? = some bean.kind := by
  cases kind? with
  | none => simp [warning?]
  | some kind => simp [warning?]

theorem Active.warnings_eq (configuration : Configuration σ) (registry : Registry) :
    Active.warnings configuration registry = configuration.beans.filterMap fun bean =>
      configuration.warning? bean (registry.kind? bean.name) := rfl

theorem Filing.mem_entries_iff {filing : Filing} {entry : String × Strategy} :
    entry ∈ filing.entries ↔ filing.isAccepted = true ∧ entry = (filing.name, filing.strategy) := by
  unfold entries
  cases filing.isAccepted <;> simp

namespace Queued

variable {queued : Queued σ} {registry provided : Registry} {final : σ}

/-- Hooks that complete do nothing but use the registry. -/
theorem CompletesWith.uses (completes : queued.CompletesWith registry final provided) :
    registry.Uses provided := by
  rcases completes with ⟨constructs, initializes, provides⟩
  exact ((Procedure.read_uses constructs).trans (Procedure.read_uses initializes)).trans
    (Procedure.perform_uses provides)

/-- Hooks do nothing but use the registry, also if one of them fails. -/
theorem FailsWith.uses {left : Registry} {error : ConfigurationError}
    (fails : queued.FailsWith registry error left) : registry.Uses left := by
  cases fails with
  | construct fails => exact Procedure.read_uses fails
  | postInit constructs fails =>
      exact (Procedure.read_uses constructs).trans (Procedure.read_uses fails)
  | provide constructs initializes fails =>
      exact ((Procedure.read_uses constructs).trans (Procedure.read_uses initializes)).trans
        (Procedure.perform_uses fails)

/-- What the hooks leave under a name was there before, or they registered it. -/
theorem CompletesWith.kind? (completes : queued.CompletesWith registry final provided)
    (satisfied : (queued.pruned registry).missing = []) (name : String) :
    provided.kind? name = (registry.kind? name).or (queued.ownKind? registry name) := by
  simp only [Registry.kind?, Registry.find?, ownKind?, (completes.accounts satisfied).beans,
    List.lookup_append]
  cases registry.beans.lookup name <;> simp

/-- At an accepted attempt the name is free, so it was free before the hooks were called. -/
theorem find?_of_filing {filing : Filing} (filing_mem : filing ∈ queued.filings registry)
    (satisfied : (queued.pruned registry).missing = [])
    (completes : queued.CompletesWith registry final provided)
    (accepted : filing.isAccepted = true) :
    registry.find? filing.name = none ∧ provided.find? filing.name = some filing.strategy := by
  rcases (completes.accounts satisfied).between filing filing_mem with ⟨retains, retainsAfter⟩
  refine ⟨?_, Registry.find?_of_grown retainsAfter.beans (Filing.find?_after accepted)⟩
  have free := (Filing.isAccepted_iff.mp accepted).2
  -- Nothing is ever removed, so what was there before would still be there at the attempt.
  by_contra found
  have contained : registry.contains filing.name = true := Option.isSome_iff_ne_none.mpr found
  rw [Registry.contains_of_grown retains.beans contained] at free
  cases free

/-- The hooks register a bean if one of their attempts for it is accepted. -/
theorem ownKind?_eq_some_iff (satisfied : (queued.pruned registry).missing = [])
    (completes : queued.CompletesWith registry final provided) {name : String}
    {kind : StrategyKind} :
    queued.ownKind? registry name = some kind ↔ ∃ filing ∈ queued.filings registry,
      filing.isAccepted = true ∧ filing.name = name ∧ filing.strategy.kind = kind := by
  constructor
  · intro own
    rcases Option.map_eq_some_iff.mp own with ⟨strategy, found, rfl⟩
    rcases List.lookup_eq_some_iff.mp found with ⟨before, behind, entries_eq, _⟩
    have entry_mem : (name, strategy) ∈ (queued.filings registry).flatMap (·.entries) := by
      simp [entries_eq]
    rcases List.mem_flatMap.mp entry_mem with ⟨filing, filing_mem, entry_mem⟩
    rcases Filing.mem_entries_iff.mp entry_mem with ⟨accepted, same⟩
    cases same
    exact ⟨filing, filing_mem, accepted, rfl, rfl⟩
  · rintro ⟨filing, filing_mem, accepted, rfl, rfl⟩
    rcases find?_of_filing filing_mem satisfied completes accepted with ⟨free, found⟩
    have kinds := completes.kind? satisfied filing.name
    rw [Registry.kind?, Registry.kind?, free, found] at kinds
    exact kinds.symm

theorem CompletesWith.kind?_eq_some_iff (completes : queued.CompletesWith registry final provided)
    (satisfied : (queued.pruned registry).missing = []) {name : String} {kind : StrategyKind} :
    provided.kind? name = some kind ↔
      registry.kind? name = some kind ∨ queued.ownKind? registry name = some kind := by
  rw [completes.kind? satisfied, Option.or_eq_some_iff]
  constructor
  · rintro (already | ⟨_, own⟩)
    · exact .inl already
    · exact .inr own
  · rintro (already | own)
    · exact .inl already
    · rcases (ownKind?_eq_some_iff satisfied completes).mp own with
        ⟨filing, filing_mem, accepted, rfl, _⟩
      have free := (find?_of_filing filing_mem satisfied completes accepted).1
      exact .inr ⟨Option.map_eq_none_iff.mpr free, own⟩

/-- Hooks give no warnings. -/
theorem CompletesWith.events (completes : queued.CompletesWith registry final provided) :
    ∃ news, provided.events = registry.events ++ news ∧ ∀ event ∈ news, event.level ≠ .warn := by
  rcases completes.uses with ⟨news, reports, ofUse⟩
  exact ⟨news, reports.told, fun event event_mem => Event.level_of_isOfUse (ofUse event event_mem)⟩

end Queued

namespace Context

theorem activate_events (queued : Queued σ) (final : σ) (provided : Registry)
    (context : Context σ) :
    (context.activate queued final provided).registry.events = provided.events ++
      Active.warnings queued.configuration provided ++ [.loaded queued.configuration.name] := by
  rw [activate, Queued.inspected, Registry.report_events, Registry.report_all_events]

/--
A configuration that is loaded is warned about exactly the declared beans that had not the declared
strategy before and did not get it by the hooks, in the order of the declarations.
-/
theorem load_warns_of_declared {queued pruned : Queued σ} {context after : Context σ}
    (loaded : context.load queued = some (.ok true, pruned, after)) :
    let configuration := queued.configuration
    let before := context.registry.kind?
    let own := queued.ownKind? context.registry
    let warning? := fun bean : BeanDeclaration =>
      configuration.warning? bean ((before bean.name).or (own bean.name))
    (∃ news, after.registry.events = context.registry.events ++ news ++
        configuration.beans.filterMap warning? ++ [.loaded configuration.name] ∧
      ∀ event ∈ news, event.level ≠ .warn) ∧
    (∀ name kind, own name = some kind ↔ ∃ filing ∈ queued.filings context.registry,
      filing.isAccepted = true ∧ filing.name = name ∧ filing.strategy.kind = kind) ∧
    ∀ bean ∈ configuration.beans, (warning? bean).isSome = true ↔
      before bean.name ≠ some bean.kind ∧ own bean.name ≠ some bean.kind := by
  intro configuration before own warning?
  obtain ⟨final, provided, satisfied, completes, rfl⟩ : ∃ final provided,
      (queued.pruned context.registry).missing = [] ∧
        queued.CompletesWith context.registry final provided ∧
        after = context.activate queued final provided := by
    rcases load_cases loaded with ⟨failed, _⟩ | ⟨_, _, failed, _⟩ | ⟨final, provided, _, ends⟩
    · cases failed
    · cases failed
    · exact ⟨final, provided, ends⟩
  have warning?_eq : warning? = fun bean =>
      configuration.warning? bean (provided.kind? bean.name) := by
    funext bean
    rw [completes.kind? satisfied]
  rcases completes.events with ⟨news, told, silent⟩
  refine ⟨⟨news, ?_, silent⟩, ?_, ?_⟩
  · rw [activate_events, told, Active.warnings_eq, warning?_eq]
  · exact fun name kind => Queued.ownKind?_eq_some_iff satisfied completes
  · intro bean _
    rw [warning?_eq, Option.isSome_iff_ne_none, Ne, Configuration.warning?_eq_none_iff,
      completes.kind?_eq_some_iff satisfied, not_or]

/-- Supplies two of the three beans that it declares, one of which is to be a factory. -/
def careless : Queued Unit :=
  .ofConfiguration 0 { Configuration.supplying "careless" [] ["kept", "other"] with
    beans := [⟨"kept", .supplied⟩, ⟨"forgotten", .singleton⟩, ⟨"other", .factory⟩] }

theorem load_warns_of_careless :
    ∃ pruned after, ({} : Context Unit).load careless = some (.ok true, pruned, after) ∧
      ∃ news, after.registry.events = news ++
        [.notProvided "careless" "forgotten",
          .providedOtherwise "careless" "other" .factory .supplied, .loaded "careless"] := by
  have loaded : ({} : Context Unit).load careless = some (.ok true, _, _) := rfl
  rcases load_warns_of_declared loaded with ⟨⟨news, told, _⟩, _, _⟩
  refine ⟨_, _, loaded, news, ?_⟩
  rw [told, List.append_assoc]
  rfl

/-- Declares a bean and registers nothing. -/
def idle : Queued Unit :=
  .ofConfiguration 0 { Configuration.supplying "idle" [] [] with beans := [⟨"x", .supplied⟩] }

/-- A registry in which somebody else has supplied a bean. -/
def furnished : Registry where
  beans := [("x", .supplied .i32 (.plain (.integer 0)))]

/-- Nobody is warned that the configuration did not provide the bean it declares. -/
theorem load_misses_idle :
    ∃ pruned after,
      ({ registry := furnished } : Context Unit).load idle = some (.ok true, pruned, after) ∧
      ⟨"x", .supplied⟩ ∈ idle.configuration.beans ∧ idle.filings furnished = [] ∧
      ∀ event ∈ after.registry.events, event.level ≠ .warn := by
  refine ⟨_, _, rfl, List.mem_singleton_self _, rfl, ?_⟩
  intro event event_mem
  have told : event ∈ [Event.loaded "idle"] := event_mem
  rw [List.mem_singleton.mp told]
  decide

end Context

end BeanContainer
