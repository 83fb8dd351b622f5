import BeanContainer.Proofs.Registry.Course

/-!
# Refused requests

A request is refused before its strategy is asked if the name is not registered, or is in flight on
the thread, or is requested in another way than it was registered. The first of these that applies
is the one that is told. A refused request runs no constructor and leaves no mark on the registry:
the name that was entered is left again, and only the report of it stays. Any other request has the
outcome of its strategy.
-/

namespace BeanContainer

/-- What a request is refused with, as far as a procedure can see that in advance. -/
def View.refusal? (view : View) (request : Request) : Option BeanError :=
  match view.beans.find? (·.name == request.name) with
  | none => some (.invalidName request.name .unregistered)
  | some info =>
    if request.name ∈ view.chain then some (.cycle (view.chain ++ [request.name]))
    else if info.handover = request.handover then none
    else some (.invalidType request.name request.handover info.handover)

namespace Registry

/-- The request on the thread is refused with the error. -/
inductive Refuses (thread : Thread) (request : Request) (registry : Registry) : BeanError → Prop
  | unregistered (missing : registry.contains request.name = false) :
      Refuses thread request registry (.invalidName request.name .unregistered)
  | inFlight (registered : registry.contains request.name = true)
      (entered : request.name ∈ registry.chains.current thread) :
      Refuses thread request registry (.cycle (registry.chains.current thread ++ [request.name]))
  | mismatched {actual : Handover} (registered : registry.handover? request.name = some actual)
      (fresh : request.name ∉ registry.chains.current thread)
      (different : actual ≠ request.handover) :
      Refuses thread request registry (.invalidType request.name request.handover actual)

/-- Nothing has changed but the reported events, and each thread has the chain that it had. -/
structure Unmarked (before after : Registry) : Prop where
  same : ∃ chains events, after = { before with chains, events }
  current : ∀ thread, after.chains.current thread = before.chains.current thread

variable {thread : Thread} {request : Request} {registry entered : Registry} {strategy : Strategy}
  {error : BeanError}

theorem find?_infos (registry : Registry) (name : String) :
    registry.infos.find? (·.name == name) =
      (registry.find? name).map fun strategy => ⟨name, strategy.handover, strategy.kind⟩ := by
  simp only [infos, find?]
  induction registry.beans with
  | nil => rfl
  | cons entry rest ih =>
      rw [List.map_cons, List.find?_cons, List.lookup_cons, ih]
      by_cases own : entry.1 = name
      · simp [own]
      · have notName : (entry.1 == name) = false := by simpa using own
        have notEntry : (name == entry.1) = false := by simpa using Ne.symm own
        rw [notName, notEntry]

theorem view_refusal?_eq_some_iff :
    (registry.view thread).refusal? request = some error ↔
      Refuses thread request registry error := by
  simp only [View.refusal?, view, find?_infos]
  cases found : registry.find? request.name with
  | none =>
      have missing : registry.contains request.name = false := by
        rw [contains_eq_find?, found, Option.isSome_none]
      have noHandover : registry.handover? request.name = none := by
        rw [handover?, found, Option.map_none]
      constructor
      · intro refused
        cases refused
        exact .unregistered missing
      · intro refuses
        cases refuses with
        | unregistered => rfl
        | inFlight registered => simp [missing] at registered
        | mismatched registered => simp [noHandover] at registered
  | some strategy =>
      have contained : registry.contains request.name = true := by
        rw [contains_eq_find?, found, Option.isSome_some]
      have registered : registry.handover? request.name = some strategy.handover := by
        rw [handover?, found, Option.map_some]
      simp only [Option.map_some]
      constructor
      · intro refused
        split at refused
        · next inFlight =>
            cases refused
            exact .inFlight contained inFlight
        · next fresh =>
            split at refused
            · cases refused
            · next different =>
                cases refused
                exact .mismatched registered fresh different
      · intro refuses
        cases refuses with
        | unregistered missing => simp [contained] at missing
        | inFlight _ inFlight => rw [if_pos inFlight]
        | mismatched actually fresh different =>
            cases registered.symm.trans actually
            rw [if_neg fresh, if_neg different]

theorem Unmarked.refl (registry : Registry) : registry.Unmarked registry :=
  ⟨⟨registry.chains, registry.events, rfl⟩, fun _ => rfl⟩

theorem Enters.unmarked (enters : Enters thread request registry strategy entered) :
    registry.Unmarked (entered.leave thread) where
  same := by
    rcases enters.enter with ⟨chains, _, rfl⟩
    exact ⟨_, _, rfl⟩
  current := (persists_restores.leave enters (persists_restores.refl entered)).chains

theorem Enters.prospect_mismatched (enters : Enters thread request registry strategy entered)
    (different : strategy.handover ≠ request.handover) :
    registry.prospect thread request = .mismatched strategy.handover entered := by
  rcases enters with ⟨found, chains, enter, rfl⟩
  simp [prospect, found, enter, different]

theorem Enters.prospect_due (enters : Enters thread request registry strategy entered)
    (same : strategy.handover = request.handover) {constructor : Constructor}
    (due : strategy.due? (.bean request.name) entered = some constructor) :
    registry.prospect thread request = .due strategy constructor entered := by
  rcases enters with ⟨found, chains, enter, rfl⟩
  simp [prospect, found, enter, same, due]

/-- A name that is registered and not in flight can be entered. -/
theorem exists_enters (found : registry.find? request.name = some strategy)
    (fresh : request.name ∉ registry.chains.current thread) :
    ∃ entered, Enters thread request registry strategy entered :=
  ⟨_, found, _, Chains.enter_eq_ok_iff.mpr ⟨fresh, rfl⟩, rfl⟩

/-- The answer to a refused request does not depend on how constructors are run. -/
theorem Refuses.retrieve (refuses : Refuses thread request registry error) :
    ∃ after, registry.Unmarked after ∧
      (∀ build, Registry.retrieve build thread request registry = some (.error error, after)) ∧
      ∀ build frames, traceRetrieve build frames thread request registry =
        traceAnswer frames thread request ⟨none, .error error, after⟩ := by
  cases refuses with
  | unregistered missing =>
      have prospect : registry.prospect thread request = .unregistered := by
        have notFound : registry.find? request.name = none := by simpa [contains] using missing
        simp [prospect, notFound]
      refine ⟨registry, Unmarked.refl registry, ?_, ?_⟩
      · intro build
        simp [retrieve_eq, prospect]
      · intro build frames
        simp [traceRetrieve_eq, prospect]
  | inFlight registered inFlight =>
      have prospect : registry.prospect thread request =
          .refused (registry.chains.current thread ++ [request.name]) := by
        rcases Option.isSome_iff_exists.mp registered with ⟨strategy, found⟩
        have refused := Chains.enter_eq_error_iff.mpr ⟨inFlight, rfl⟩
        simp [prospect, found, refused]
      refine ⟨registry, Unmarked.refl registry, ?_, ?_⟩
      · intro build
        simp [retrieve_eq, prospect]
      · intro build frames
        simp [traceRetrieve_eq, prospect]
  | mismatched registered fresh different =>
      rcases Option.map_eq_some_iff.mp registered with ⟨strategy, found, rfl⟩
      rcases exists_enters found fresh with ⟨entered, enters⟩
      have prospect := enters.prospect_mismatched different
      refine ⟨entered.leave thread, enters.unmarked, ?_, ?_⟩
      · intro build
        simp [retrieve_eq, prospect]
      · intro build frames
        simp [traceRetrieve_eq, prospect]

/-- A request that is not refused is answered by its strategy. -/
theorem retrieve_of_not_refused (granted : ∀ error, ¬ Refuses thread request registry error) :
    ∃ strategy entered, Enters thread request registry strategy entered ∧
      strategy.handover = request.handover ∧
      ∀ build, retrieve build thread request registry =
        (produce build thread (.bean request.name) strategy entered).map fun answer =>
          (answer.1, answer.2.leave thread) := by
  cases found : registry.find? request.name with
  | none =>
      refine absurd (Refuses.unregistered ?_) (granted _)
      rw [contains_eq_find?, found, Option.isSome_none]
  | some strategy =>
      by_cases inFlight : request.name ∈ registry.chains.current thread
      · refine absurd (Refuses.inFlight ?_ inFlight) (granted _)
        rw [contains_eq_find?, found, Option.isSome_some]
      · by_cases same : strategy.handover = request.handover
        · have enter := Chains.enter_eq_ok_iff.mpr ⟨inFlight, rfl⟩
          refine ⟨strategy, _, ⟨found, _, enter, rfl⟩, same, ?_⟩
          intro build
          simp only [retrieve, found, enter, same, if_true]
          cases produce build thread (.bean request.name) strategy _ <;> rfl
        · refine absurd (Refuses.mismatched ?_ inFlight same) (granted _)
          rw [handover?, found, Option.map_some]

/-- Runs constructors within the given budget. -/
def builderWithin : Nat → Builder
  | 0 => fun _ _ _ _ => none
  | budget + 1 => builder (fetch budget)

theorem fetch_eq_retrieve (budget : Nat) : fetch budget = retrieve (builderWithin budget) := by
  cases budget <;> rfl

/-- Runs constructors within the given budget, and tells it. -/
def traceBuilderWithin : Nat → TracedBuilder
  | 0 => fun _ _ _ _ _ => .stuck
  | budget + 1 => traceBuilder (traceFetch budget)

theorem traceFetch_eq_traceRetrieve (budget : Nat) :
    traceFetch budget = traceRetrieve (traceBuilderWithin budget) := by
  cases budget <;> rfl

theorem Refuses.fetch (refuses : Refuses thread request registry error) (budget : Nat) :
    ∃ after, registry.Unmarked after ∧
      Registry.fetch budget thread request registry = some (.error error, after) ∧
      ∀ frames, traceFetch budget frames thread request registry =
        traceAnswer frames thread request ⟨none, .error error, after⟩ := by
  rcases refuses.retrieve with ⟨after, unmarked, answered, told⟩
  rw [fetch_eq_retrieve, traceFetch_eq_traceRetrieve]
  exact ⟨after, unmarked, answered _, told _⟩

/-- A failure that no run of a constructor has brought about is a refusal. -/
theorem refuses_of_error {budget : Nat} {after : Registry} {frames : List String}
    (failed : fetch budget thread request registry = some (.error error, after))
    (untouched : ∀ moment ∈ (traceFetch budget frames thread request registry).events, ∀ name,
      moment.happening ≠ .begins name) :
    Refuses thread request registry error := by
  by_cases refused : ∃ cause, Refuses thread request registry cause
  · rcases refused with ⟨cause, refuses⟩
    rcases refuses.fetch budget with ⟨_, _, answered, _⟩
    cases answered.symm.trans failed
    exact refuses
  · exfalso
    rcases retrieve_of_not_refused (not_exists.mp refused) with
      ⟨strategy, entered, enters, same, retrieved⟩
    rw [fetch_eq_retrieve, retrieved, produce_eq] at failed
    cases due : strategy.due? (.bean request.name) entered with
    | none =>
        rw [due] at failed
        cases ready : strategy.ready? (.bean request.name) entered <;> simp [ready] at failed
    | some constructor =>
        cases budget with
        | zero => simp [due, builderWithin] at failed
        | succ budget =>
            -- The first moment is that the constructor begins.
            let prepared := strategy.prepare (.bean request.name) entered
            let counted := (prepared.countRun (.bean request.name) constructor.listed).2
            have told : ⟨thread, frames ++ [request.name], counted, .begins request.name⟩ ∈
                (traceFetch (budget + 1) frames thread request registry).events := by
              simp only [traceFetch, traceRetrieve_eq, enters.prospect_due same due]
              exact Traced.mem_bind_events_of_first List.mem_cons_self
            exact untouched _ told request.name rfl

/--
How a request on the thread is classified. It is refused for the first cause that applies, without
a run of a constructor and without a mark on the registry, or has the outcome of its strategy.
-/
structure Classifies (budget : Nat) (thread : Thread) (request : Request) (registry : Registry) :
    Prop where
  exactly : ∀ frames error, Refuses thread request registry error ↔
    (∃ after, fetch budget thread request registry = some (.error error, after)) ∧
      ∀ moment ∈ (traceFetch budget frames thread request registry).events, ∀ name,
        moment.happening ≠ .begins name
  unmarked : ∀ error, Refuses thread request registry error →
    ∃ after, registry.Unmarked after ∧
      fetch budget thread request registry = some (.error error, after)
  named : ∀ wanted actual,
    Refuses thread request registry (.invalidType request.name wanted actual) →
      wanted.name = (match request.handover.access with
        | .value => request.handover.type.name
        | .reference => "&" ++ request.handover.type.name) ∧
      (registry.handover? request.name).map (·.name) = some actual.name
  otherwise : (∀ error, ¬ Refuses thread request registry error) →
    ∃ strategy entered, Enters thread request registry strategy entered ∧
      strategy.handover = request.handover ∧
      fetch budget thread request registry =
        (produce (builderWithin budget) thread (.bean request.name) strategy entered).map
          fun answer => (answer.1, answer.2.leave thread)

theorem classifies (budget : Nat) (thread : Thread) (request : Request) (registry : Registry) :
    Classifies budget thread request registry where
  exactly frames error := by
    constructor
    · intro refuses
      rcases refuses.fetch budget with ⟨after, _, answered, told⟩
      refine ⟨⟨after, answered⟩, ?_⟩
      rw [told]
      simp [traceAnswer]
    · rintro ⟨⟨after, failed⟩, untouched⟩
      exact refuses_of_error failed untouched
  unmarked error refuses := by
    rcases refuses.fetch budget with ⟨after, unmarked, answered, _⟩
    exact ⟨after, unmarked, answered⟩
  named wanted actual refuses := by
    cases refuses with
    | mismatched registered =>
        rw [registered]
        exact ⟨rfl, rfl⟩
  otherwise granted := by
    rcases retrieve_of_not_refused granted with ⟨strategy, entered, enters, same, retrieved⟩
    rw [fetch_eq_retrieve]
    exact ⟨strategy, entered, enters, same, retrieved _⟩

end Registry

end BeanContainer
