import BeanContainer.Proofs.Registry.Prospect

/-!
# Termination of resolution

A request is left without an answer only if a constructor waits for a bean that its own run is
making, or if constructors are nested deeper than the budget. Neither happens when procedures make
all requests on the thread that they run on. A bean under construction is then in flight on this
thread, so a request for it is refused; and names in flight are distinct, so no more constructors
are nested than there are beans.
-/

namespace BeanContainer

/-- The procedure makes all requests on its own thread, and only allowed changes. -/
def Procedure.IsSequential {ω α : Type} (allows : ω → Prop) : Procedure ω α → Prop
  | done _ => True
  | fetch depth _ next => depth = 0 ∧ ∀ outcome, (next outcome).IsSequential allows
  | update _ _ next => next.IsSequential allows
  | observe _ next => ∀ view, (next view).IsSequential allows
  | allocate next => ∀ object, (next object).IsSequential allows
  | report _ _ next => next.IsSequential allows
  | write command next => allows command ∧ ∀ outcome, (next outcome).IsSequential allows

/-- Whatever the number of the run, the constructor makes all requests on its own thread. -/
def Constructor.IsSequential (constructor : Constructor) : Prop :=
  ∀ run, (constructor.run run).IsSequential nofun

theorem Constructor.default_isSequential (type : BeanType) : (default type).IsSequential :=
  fun _ => Procedure.make_induction (motive := fun procedure => procedure.IsSequential _)
    (fun _ goesOn => goesOn) type.default type fun _ => trivial

def Strategy.IsSequential : Strategy → Prop
  | supplied _ _ => True
  | singleton _ constructor | factory _ constructor | smartSingleton _ constructor
  | smartFactory _ constructor => constructor.IsSequential

def Registration.IsSequential : Registration → Prop
  | strategy _ made => made.IsSequential
  | supply _ _ _ | ensure _ _ => True

namespace Registry

def IsSequential (registry : Registry) : Prop :=
  ∀ entry ∈ registry.beans, entry.2.IsSequential

/--
The names in flight on the thread are the given ones. Whatever is under construction is among them,
so that no request on the thread waits for it.
-/
structure Stands (thread : Thread) (frames : List String) (registry : Registry) : Prop where
  sequential : registry.IsSequential
  current : registry.chains.current thread = frames
  nodup : frames.Nodup
  locked : ∀ name, .bean name ∈ registry.locked → name ∈ frames

/-- There are no more beans than constructors in the budget and registered names in flight. -/
def HasRoom (budget : Nat) (frames : List String) (registry : Registry) : Prop :=
  registry.size ≤ budget + (frames.filter registry.contains).length

/-- What is in flight and which beans there are is as it was before. -/
structure Stays (before after : Registry) : Prop where
  restores : before.Restores after
  beans : after.beans = before.beans

theorem stays_iff {before after : Registry} :
    before.Stays after ↔ before.Restores after ∧ after.beans = before.beans :=
  ⟨fun stays => ⟨stays.restores, stays.beans⟩, fun parts => ⟨parts.1, parts.2⟩⟩

theorem persists_stays : Persists Stays := by
  have sameBeans : Persists fun before after => after.beans = before.beans :=
    persists_beans (fun before after => after = before) (fun _ => rfl)
      fun left right => right.trans left
  have together := persists_restores.and sameBeans
  simp only [← stays_iff] at together
  exact together

theorem IsSequential.of_stays {before after : Registry} (sequential : before.IsSequential)
    (stays : before.Stays after) : after.IsSequential := by
  rw [IsSequential, stays.beans]
  exact sequential

variable {thread : Thread} {frames : List String} {budget : Nat}

theorem Stands.of_stays {before after : Registry} (stands : before.Stands thread frames)
    (stays : before.Stays after) : after.Stands thread frames where
  sequential := stands.sequential.of_stays stays
  current := (stays.restores.chains thread).trans stands.current
  nodup := stands.nodup
  locked := by
    rw [stays.restores.locked]
    exact stands.locked

theorem HasRoom.of_stays {before after : Registry} (room : before.HasRoom budget frames)
    (stays : before.Stays after) : after.HasRoom budget frames := by
  rw [HasRoom, size, stays.beans, contains_congr stays.beans]
  exact room

theorem isSequential_of_find? {registry : Registry} (sequential : registry.IsSequential)
    {name : String} {strategy : Strategy} (found : registry.find? name = some strategy) :
    strategy.IsSequential :=
  sequential (name, strategy) (mem_beans_of_find? found)

theorem isSequential_of_due? {strategy : Strategy} (sequential : strategy.IsSequential)
    {site : Site} {registry : Registry} {constructor : Constructor}
    (due : strategy.due? site registry = some constructor) : constructor.IsSequential := by
  cases strategy with
  | supplied type bean => cases due
  | factory type made | smartFactory type made =>
      cases due
      exact sequential
  | singleton type made | smartSingleton type made =>
      simp only [Strategy.due?, Option.ite_none_left_eq_some, Option.some.injEq] at due
      rw [← due.2]
      exact sequential

theorem mem_locked_of_not_due {strategy : Strategy} {site : Site} {registry : Registry}
    (notDue : strategy.due? site registry = none)
    (notReady : strategy.ready? site registry = none) : site ∈ registry.locked := by
  cases strategy with
  | supplied type bean => cases notReady
  | factory type made | smartFactory type made => cases notDue
  | singleton type made | smartSingleton type made =>
      have unkept : registry.kept? site = none := notReady
      simpa [Strategy.due?, unkept] using notDue

/-- The constructor that a request sets going stands on the names in flight and its own. -/
theorem Stands.prepare {request : Request} {registry entered : Registry} {strategy : Strategy}
    (stands : registry.Stands thread frames)
    (enters : Enters thread request registry strategy entered) :
    (strategy.prepare (.bean request.name) entered).Stands thread (frames ++ [request.name]) := by
  have fresh := enters.notMem
  have current := enters.current thread
  rw [stands.current] at fresh
  rw [if_pos rfl, stands.current] at current
  have nodup : (frames ++ [request.name]).Nodup := by
    simpa using List.Nodup.concat fresh stands.nodup
  rcases enters.enter with ⟨chains, _, rfl⟩
  unfold Strategy.prepare
  split
  · refine ⟨stands.sequential, current, nodup, ?_⟩
    intro name locked
    rcases List.mem_cons.mp locked with same | before
    · simp [Site.bean.inj same]
    · exact List.mem_append_left _ (stands.locked name before)
  · exact ⟨stands.sequential, current, nodup,
      fun name locked => List.mem_append_left _ (stands.locked name locked)⟩

/-- Only with some budget left a name can be entered, and with one less its constructor has room. -/
theorem HasRoom.prepare {request : Request} {registry entered : Registry} {strategy : Strategy}
    (room : registry.HasRoom budget frames) (stands : registry.Stands thread frames)
    (enters : Enters thread request registry strategy entered) :
    ∃ less, budget = less + 1 ∧
      (strategy.prepare (.bean request.name) entered).HasRoom less (frames ++ [request.name]) := by
  have fresh := enters.notMem
  rw [stands.current] at fresh
  have short : (frames.filter registry.contains).length < registry.size :=
    length_lt_size (stands.nodup.filter _) (fun _ other_mem => (List.mem_filter.mp other_mem).2)
      enters.contains fun mem => fresh (List.mem_filter.mp mem).1
  have longer : ((frames ++ [request.name]).filter registry.contains).length =
      (frames.filter registry.contains).length + 1 := by
    simp [List.filter_append, enters.contains]
  unfold HasRoom at room ⊢
  rw [size, enters.prepare_beans, contains_congr enters.prepare_beans, longer]
  unfold size at room short
  exact ⟨budget - 1, by omega, by omega⟩

end Registry

open Registry

/-- A sequential procedure ends if all its requests are answered. -/
theorem Procedure.run_terminates {ω α : Type} {fetcher : Fetcher}
    {effect : ω → Registry → Except BeanError Unit × Registry} {thread : Thread}
    {allows : ω → Prop} {condition : Registry → Prop}
    (fetches : ∀ request registry, condition registry → ∃ outcome after,
      fetcher thread request registry = some (outcome, after) ∧ condition after)
    (stays : ∀ {before after : Registry}, before.Stays after → condition before → condition after)
    (changes : ∀ command registry, allows command → condition registry →
      condition (effect command registry).2)
    {procedure : Procedure ω α} (sequential : procedure.IsSequential allows)
    {registry : Registry} (holds : condition registry) :
    ∃ result after, procedure.run fetcher effect thread registry = some (result, after) := by
  induction procedure generalizing registry with
  | done result => exact ⟨result, registry, rfl⟩
  | fetch depth request next ih =>
      rcases sequential with ⟨rfl, sequential⟩
      rcases fetches request registry holds with ⟨outcome, fetched, answered, holdsOn⟩
      simp only [Procedure.run, Nat.add_zero, answered]
      exact ih outcome (sequential outcome) holdsOn
  | update object change next ih =>
      exact ih sequential (stays (persists_stays.update object change registry) holds)
  | observe depth next ih => exact ih _ (sequential _) holds
  | allocate next ih => exact ih _ (sequential _) (stays (persists_stays.allocate registry) holds)
  | report message fields next ih =>
      exact ih sequential (stays (persists_stays.report message fields registry) holds)
  | write command next ih =>
      exact ih _ (sequential.2 _) (changes command registry sequential.1 holds)

namespace Registry

variable {thread : Thread} {frames : List String} {registry : Registry}

theorem retrieve_terminates {build : Builder} {request : Request}
    (stands : registry.Stands thread frames)
    (builds : ∀ {strategy constructor entered}, Enters thread request registry strategy entered →
      constructor.IsSequential → ∃ built, build thread (.bean request.name) constructor
        (strategy.prepare (.bean request.name) entered) = some built) :
    ∃ outcome after, retrieve build thread request registry = some (outcome, after) := by
  rw [retrieve_eq]
  have foresees := foresees_prospect thread request registry
  generalize registry.prospect thread request = prospect at foresees
  cases foresees with
  | unregistered missing => exact ⟨_, _, rfl⟩
  | refused found inFlight => exact ⟨_, _, rfl⟩
  | mismatched enters different => exact ⟨_, _, rfl⟩
  | ready enters same ready => exact ⟨_, _, rfl⟩
  | blocked enters notDue notReady =>
      have fresh := enters.notMem
      rw [stands.current] at fresh
      rcases enters.enter with ⟨chains, _, rfl⟩
      exact absurd (stands.locked _ (mem_locked_of_not_due notDue notReady)) fresh
  | due enters same due =>
      have sequential := isSequential_of_find? stands.sequential enters.found
      rcases builds enters (isSequential_of_due? sequential due) with ⟨built, building⟩
      simp only [building]
      exact ⟨_, _, rfl⟩

theorem fetch_terminates {budget : Nat} {request : Request}
    (stands : registry.Stands thread frames) (room : registry.HasRoom budget frames) :
    ∃ outcome after, fetch budget thread request registry = some (outcome, after) := by
  induction budget generalizing frames registry request with
  | zero =>
      -- Every registered name is in flight already, so none is entered.
      refine retrieve_terminates stands fun enters _ => ?_
      rcases room.prepare stands enters with ⟨less, none_left, _⟩
      cases none_left
  | succ budget ih =>
      refine retrieve_terminates stands fun {strategy constructor entered} enters sequential => ?_
      rcases room.prepare stands enters with ⟨less, same, roomInside⟩
      cases same
      have counts := persists_stays.countRun (.bean request.name) constructor.listed
        (strategy.prepare (.bean request.name) entered)
      have fetches : ∀ nested current,
          current.Stands thread (frames ++ [request.name]) ∧
            current.HasRoom budget (frames ++ [request.name]) →
          ∃ outcome after, fetch budget thread nested current = some (outcome, after) ∧
            after.Stands thread (frames ++ [request.name]) ∧
              after.HasRoom budget (frames ++ [request.name]) := by
        rintro nested current ⟨standsThere, roomThere⟩
        rcases ih standsThere roomThere with ⟨outcome, after, fetched⟩
        have stays := persists_stays.fetch budget fetched
        exact ⟨outcome, after, fetched, standsThere.of_stays stays, roomThere.of_stays stays⟩
      rcases Procedure.run_terminates fetches
        (fun stays holds => ⟨holds.1.of_stays stays, holds.2.of_stays stays⟩) nofun (sequential _)
        ⟨(stands.prepare enters).of_stays counts, roomInside.of_stays counts⟩ with
        ⟨outcome, filled, ran⟩
      exact ⟨_, ran⟩

theorem get_terminates {request : Request} (stands : registry.Stands thread frames) :
    ∃ outcome after, registry.get thread request = some (outcome, after) :=
  fetch_terminates stands (Nat.le_add_right _ _)

theorem insert_isSequential {name : String} {strategy : Strategy}
    (sequential : registry.IsSequential) (made : strategy.IsSequential) :
    (registry.insert name strategy).2.IsSequential := by
  rcases insert_cases name strategy registry with ⟨fault, refused⟩ | ⟨_, _, accepted⟩
  · rw [refused]
    exact sequential
  · rw [accepted]
    intro entry entry_mem
    rcases List.mem_append.mp entry_mem with before | added
    · exact sequential entry before
    · rw [List.mem_singleton.mp added]
      exact made

theorem apply_isSequential {registration : Registration} (sequential : registry.IsSequential)
    (allowed : registration.IsSequential) : (registration.apply registry).2.IsSequential := by
  cases registration with
  | strategy name made => exact insert_isSequential sequential allowed
  | supply name type bean => exact insert_isSequential sequential trivial
  | ensure name type =>
      simp only [Registration.apply, ensure]
      split
      · have reported : (registry.report (.registeringMissing name)).IsSequential := sequential
        exact insert_isSequential reported (Constructor.default_isSequential type)
      · exact sequential

theorem Stands.apply {registration : Registration} (stands : registry.Stands thread frames)
    (allowed : registration.IsSequential) :
    (registration.apply registry).2.Stands thread frames where
  sequential := apply_isSequential stands.sequential allowed
  current := ((registration.apply_restores registry).chains thread).trans stands.current
  nodup := stands.nodup
  locked := by
    rw [(registration.apply_restores registry).locked]
    exact stands.locked

end Registry

theorem Procedure.performOn_evolves {α : Type} {procedure : Procedure Registration α}
    {thread : Thread} {registry after : Registry} {result : α}
    (ran : procedure.performOn thread registry = some (result, after)) : registry.Evolves after :=
  Registry.persists_evolves.run Registry.persists_evolves.get Registry.apply_evolves ran

theorem Procedure.performOn_terminates {α : Type} {procedure : Procedure Registration α}
    (sequential : procedure.IsSequential Registration.IsSequential) {thread : Thread}
    {frames : List String} {registry : Registry} (stands : registry.Stands thread frames) :
    ∃ result after, procedure.performOn thread registry = some (result, after) := by
  have fetches : ∀ request current, Registry.Stands thread frames current →
      ∃ outcome after, Registry.get thread request current = some (outcome, after) ∧
        after.Stands thread frames := by
    intro request current standsThere
    rcases get_terminates standsThere with ⟨outcome, after, answered⟩
    exact ⟨outcome, after, answered, standsThere.of_stays (persists_stays.get answered)⟩
  exact Procedure.run_terminates fetches (fun stays standsThere => standsThere.of_stays stays)
    (fun registration _ (allowed : registration.IsSequential) standsThere =>
      standsThere.apply allowed) sequential stands

end BeanContainer
