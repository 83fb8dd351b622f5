import BeanContainer.Proofs.Registry.Locks

/-!
# The depth of nested requests

Constructors may request each other's beans in circles, catch the failures that come of that, and
go on with further requests. Requests end all the same: a chain holds registered names and none of
them twice, so constructors are nested no deeper than there are beans. Hence the budget that a
request starts with does not matter as long as it is no smaller than that, and the chain is never
longer than the registry, not even in between, when a name has been entered that turns out to be
requested in the wrong way or to have its bean ready.
-/

namespace BeanContainer

/-- Whatever the one fetcher answers, the other answers too. -/
def Fetcher.Covers (larger smaller : Fetcher) : Prop :=
  ∀ ⦃thread request registry answer⦄,
    smaller thread request registry = some answer → larger thread request registry = some answer

/-- Whatever the one builder builds, the other builds too. -/
def Builder.Covers (larger smaller : Builder) : Prop :=
  ∀ ⦃thread site constructor registry built⦄,
    smaller thread site constructor registry = some built →
      larger thread site constructor registry = some built

theorem Procedure.run_of_covers {ω α : Type} {larger smaller : Fetcher}
    (covers : larger.Covers smaller) {effect : ω → Registry → Except BeanError Unit × Registry}
    {thread : Thread} {procedure : Procedure ω α} {registry : Registry} {answer : α × Registry}
    (ran : procedure.run smaller effect thread registry = some answer) :
    procedure.run larger effect thread registry = some answer := by
  induction procedure generalizing registry with
  | done result => exact ran
  | fetch depth request next ih =>
      simp only [Procedure.run] at ran ⊢
      cases fetched : smaller (thread + depth) request registry with
      | none => simp [fetched] at ran
      | some reply =>
          rw [fetched] at ran
          rw [covers fetched]
          exact ih reply.1 ran
  | update object change next ih => exact ih ran
  | observe depth next ih => exact ih _ ran
  | allocate next ih => exact ih _ ran
  | report message fields next ih => exact ih ran
  | write command next ih => exact ih _ ran

namespace Registry

theorem builder_covers {larger smaller : Fetcher} (covers : larger.Covers smaller) :
    (builder larger).Covers (builder smaller) := by
  intro thread site constructor registry built ran
  exact Procedure.run_of_covers covers ran

theorem retrieve_covers {larger smaller : Builder} (covers : larger.Covers smaller) :
    (retrieve larger).Covers (retrieve smaller) := by
  intro thread request registry answer answered
  rw [retrieve_eq] at answered ⊢
  cases prospect : registry.prospect thread request with
  | due strategy constructor entered =>
      simp only [prospect] at answered ⊢
      rcases Option.map_eq_some_iff.mp answered with ⟨built, building, completed⟩
      rw [covers building, Option.map_some, completed]
  | _ => simpa only [prospect] using answered

theorem fetch_covers_succ (budget : Nat) : (fetch (budget + 1)).Covers (fetch budget) := by
  induction budget with
  | zero =>
      apply retrieve_covers
      intro _ _ _ _ _ built
      cases built
  | succ budget ih => exact retrieve_covers (builder_covers ih)

/-- More budget keeps all answers. -/
theorem fetch_covers {budget more : Nat} (enough : budget ≤ more) :
    (fetch more).Covers (fetch budget) := by
  induction enough with
  | refl => exact fun _ _ _ _ answered => answered
  | step _ ih => exact fun _ _ _ _ answered => fetch_covers_succ _ (ih answered)

/-- The chains hold registered names, and none of them twice. -/
structure ChainsFit (registry : Registry) : Prop where
  nodup : ∀ thread, (registry.chains.current thread).Nodup
  registered : ∀ thread, ∀ name ∈ registry.chains.current thread, registry.contains name = true

/-- The chain of the thread is no longer than the registry, also when a further name is entered. -/
def HasShortChain (thread : Thread) (registry : Registry) : Prop :=
  (registry.chains.current thread).length ≤ registry.size ∧
    ∀ request strategy entered, Enters thread request registry strategy entered →
      (entered.chains.current thread).length ≤ registry.size

variable {thread : Thread} {request : Request} {registry entered after : Registry}
  {strategy : Strategy}

theorem ChainsFit.of_evolves (fits : registry.ChainsFit) (evolves : registry.Evolves after) :
    after.ChainsFit where
  nodup thread := by
    rw [evolves.restores.chains]
    exact fits.nodup thread
  registered thread name name_mem := by
    rw [evolves.restores.chains] at name_mem
    exact contains_of_grown evolves.grown (fits.registered thread name name_mem)

theorem ChainsFit.prepare (fits : registry.ChainsFit)
    (enters : Enters thread request registry strategy entered) :
    (strategy.prepare (.bean request.name) entered).ChainsFit where
  nodup other := by
    rw [prepare_chains, enters.current]
    split
    · simpa using (fits.nodup thread).concat enters.notMem
    · exact fits.nodup other
  registered other name name_mem := by
    rw [contains_congr enters.prepare_beans]
    rw [prepare_chains, enters.current] at name_mem
    split at name_mem
    · rcases List.mem_append.mp name_mem with before | last
      · exact fits.registered thread name before
      · rw [List.mem_singleton.mp last]
        exact enters.contains
    · exact fits.registered other name name_mem

theorem ChainsFit.length_le (fits : registry.ChainsFit) (thread : Thread) :
    (registry.chains.current thread).length ≤ registry.size := by
  have known : registry.chains.current thread ⊆ registry.names := by
    intro name name_mem
    exact mem_names_of_contains (fits.registered thread name name_mem)
  have shorter := ((fits.nodup thread).subperm known).length_le
  rwa [names, List.length_map] at shorter

theorem ChainsFit.hasShortChain (fits : registry.ChainsFit) (thread : Thread) :
    registry.HasShortChain thread := by
  refine ⟨fits.length_le thread, ?_⟩
  intro request strategy entered enters
  have shorter := (fits.prepare enters).length_le thread
  rwa [prepare_chains, size, enters.prepare_beans] at shorter

end Registry

/--
A condition on registries that holds on after each evaluation, and still when a constructor has been
prepared to run, holds at all moments.
-/
theorem Recounts.of_kept {holds : Registry → Prop}
    (evolves : ∀ {before after : Registry}, before.Evolves after → holds before → holds after)
    (prepares : ∀ {thread request registry strategy entered},
      Registry.Enters thread request registry strategy entered → holds registry →
        holds (strategy.prepare (.bean request.name) entered)) :
    Recounts fun _ _ before moments _ =>
      holds before → ∀ moment ∈ moments, holds moment.registry where
  works _ _ registry held := by simpa using held
  append evolvesTo _ left right held := by
    rw [List.forall_mem_append]
    exact ⟨left held, right (evolves evolvesTo held)⟩
  update _ _ _ _ _ _ := by simp
  allocate _ _ _ _ := by simp
  report _ _ _ _ _ _ := by simp
  elsewhere inside := inside
  unregistered _ held := by simpa using held
  refused _ _ held := by simpa using held
  mismatched {_ _ _ _ _ entered} enters _ held := by
    have persists := Registry.persists_evolves
    rw [List.forall_mem_singleton]
    exact evolves (persists.leave enters (persists.refl entered)) held
  ready {_ _ _ _ _ entered _} enters _ _ held := by
    have persists := Registry.persists_evolves
    rw [List.forall_mem_singleton]
    exact evolves (persists.leave enters (persists.refl entered)) held
  built {_ _ request _ strategy entered constructor _ outcome _} enters _ _ evolvesTo inside
      held := by
    have persists := Registry.persists_evolves
    have counts := persists.countRun (.bean request.name) constructor.listed
      (strategy.prepare (.bean request.name) entered)
    -- A name has been entered and a lock taken, so this is not what the registry evolves to.
    have heldInside := evolves counts (prepares enters held)
    have completes := persists.complete outcome (persists.trans counts evolvesTo)
    have answers := persists.leave enters completes
    rw [Registry.builtMoments, List.forall_mem_append, List.forall_mem_cons, List.forall_mem_append,
      List.forall_mem_singleton, List.forall_mem_singleton]
    exact ⟨⟨heldInside, inside heldInside, evolves evolvesTo heldInside⟩, evolves answers held⟩

namespace Registry

variable {thread : Thread} {registry after : Registry}

theorem recounts_chainsFit :
    Recounts fun _ _ before moments _ =>
      before.ChainsFit → ∀ moment ∈ moments, moment.registry.ChainsFit :=
  .of_kept (fun evolves fits => fits.of_evolves evolves) fun enters fits => fits.prepare enters

/--
Constructors make all requests on their own thread, chains hold registered names and none twice, and
nothing is under construction but what is in flight on the thread.
-/
structure IsOrderly (thread : Thread) (registry : Registry) : Prop where
  sequential : registry.IsSequential
  fits : registry.ChainsFit
  locked : ∀ name, .bean name ∈ registry.locked → name ∈ registry.chains.current thread

theorem AtRest.isOrderly (rest : registry.AtRest) (sequential : registry.IsSequential)
    (thread : Thread) : registry.IsOrderly thread := by
  refine ⟨sequential, ⟨?_, ?_⟩, ?_⟩
  · intro other
    simp [rest.chains other]
  · intro other
    simp [rest.chains other]
  · simp [rest.locked]

theorem IsOrderly.of_evolves (orderly : registry.IsOrderly thread)
    (evolves : registry.Evolves after) (sequential : after.IsSequential) :
    after.IsOrderly thread where
  sequential := sequential
  fits := orderly.fits.of_evolves evolves
  locked := by
    rw [evolves.restores.locked, evolves.restores.chains]
    exact orderly.locked

/--
In an orderly registry each request on the thread is answered, the answer is the same within any
budget of at least the number of beans, and the registry is orderly afterwards. At no moment until
then is the chain of the thread longer than there are beans.
-/
theorem get_ends_within_short_chains {registry : Registry} {thread : Thread}
    (orderly : registry.IsOrderly thread) (request : Request) :
    (∃ outcome after, after.IsOrderly thread ∧ ∀ budget, registry.size ≤ budget →
      fetch budget thread request registry = some (outcome, after)) ∧
    registry.HasShortChain thread ∧
    ∀ moment ∈ (traceGet (registry.chains.current thread) thread request registry).events,
      moment.thread = thread ∧ moment.registry.HasShortChain thread := by
  have stands : registry.Stands thread (registry.chains.current thread) :=
    ⟨orderly.sequential, rfl, orderly.fits.nodup thread, orderly.locked⟩
  have terminates : ∃ outcome after, registry.get thread request = some (outcome, after) :=
    get_terminates stands
  rcases terminates with ⟨outcome, after, answered⟩
  refine ⟨⟨outcome, after, ?_, ?_⟩, orderly.fits.hasShortChain thread, ?_⟩
  · exact orderly.of_evolves (persists_evolves.get answered)
      (orderly.sequential.of_stays (persists_stays.get answered))
  · intro budget enough
    exact fetch_covers enough answered
  · intro moment moment_mem
    have fits := recounts_chainsFit.get ((traceGet_erases _ _ _ _).trans answered) orderly.fits
      moment moment_mem
    exact ⟨traceGet_staysOn orderly.sequential moment moment_mem, fits.hasShortChain thread⟩

/-- The constructor makes the requests one after the other, whatever comes of them. -/
def tolerant (requests : List Request) : Constructor where
  listed := true
  run _ := requests.foldr (fun request rest => .fetch 0 request fun _ => rest) (.done (.ok (.plain .unit)))

theorem tolerant_isSequential (requests : List Request) : (tolerant requests).IsSequential := by
  intro run
  simp only [tolerant]
  induction requests with
  | nil => trivial
  | cons request rest ih => exact ⟨rfl, fun _ => ih⟩

/-- Three beans that request each other and themselves, and one that is not there. -/
def quarrel : Registry where
  beans := [("left", .singleton .unit (tolerant [⟨"right", ⟨.value, .shared .unit⟩⟩,
      ⟨"gone", ⟨.value, .unit⟩⟩, ⟨"left", ⟨.reference, .unit⟩⟩, ⟨"mean", ⟨.value, .unit⟩⟩])),
    ("right", .smartSingleton .unit (tolerant [⟨"left", ⟨.reference, .unit⟩⟩,
      ⟨"mean", ⟨.reference, .unit⟩⟩, ⟨"mean", ⟨.value, .unit⟩⟩])),
    ("mean", .factory .unit (tolerant [⟨"right", ⟨.value, .shared .unit⟩⟩]))]

theorem get_quarrel_within_short_chains :
    let request : Request := ⟨"left", ⟨.reference, .unit⟩⟩
    ((traceGet [] 0 request quarrel).events.map fun moment =>
        (moment.registry.chains.current 0).length).max? = some quarrel.size ∧
      ∃ outcome after, quarrel.get 0 request = some (outcome, after) ∧
        ∀ moment ∈ (traceGet [] 0 request quarrel).events,
          moment.thread = 0 ∧ moment.registry.HasShortChain 0 := by
  intro request
  have sequential : quarrel.IsSequential := by
    simp only [IsSequential, quarrel, List.forall_mem_cons]
    exact ⟨tolerant_isSequential _, tolerant_isSequential _, tolerant_isSequential _, by simp⟩
  have rest : quarrel.AtRest := ⟨fun _ => rfl, rfl⟩
  rcases get_ends_within_short_chains (rest.isOrderly sequential 0) request with
    ⟨⟨outcome, after, _, answered⟩, _, short⟩
  exact ⟨by decide +kernel, outcome, after, answered quarrel.size (Nat.le_refl _), short⟩

end Registry

end BeanContainer
