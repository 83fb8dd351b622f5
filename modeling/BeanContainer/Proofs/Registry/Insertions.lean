import BeanContainer.Proofs.Registry.Refusals
import BeanContainer.Scenario.Values

/-!
# Requests inserted in vain

A program may be padded with requests that are refused: the procedure that is run, the constructors
of the beans that are there already, and the constructors that it registers. A padded program looks
whether a request will be refused, and if so makes it and goes on as if it had not. However often
and wherever this is done, all other requests are answered as before, by the same runs of
constructors, and the registry is the same in the end but for the reported events.

Refused requests may be reported too, but procedures cannot see what was reported. So each procedure
underlies itself, and refused requests can be inserted into any.
-/

namespace BeanContainer

/-- The other procedure is the first one, padded with requests that are refused. -/
inductive Procedure.Underlies {ω α : Type} (changes : ω → ω → Prop) :
    Procedure ω α → Procedure ω α → Prop
  | done (result : α) : Underlies changes (.done result) (.done result)
  | fetch (depth : Nat) (request : Request) {next padded : Except BeanError Bean → Procedure ω α}
      (goesOn : ∀ outcome, Underlies changes (next outcome) (padded outcome)) :
      Underlies changes (.fetch depth request next) (.fetch depth request padded)
  | update (object : ObjectId) (change : Content → Content) {next padded : Procedure ω α}
      (goesOn : Underlies changes next padded) :
      Underlies changes (.update object change next) (.update object change padded)
  | observe (depth : Nat) {next padded : View → Procedure ω α}
      (goesOn : ∀ view, Underlies changes (next view) (padded view)) :
      Underlies changes (.observe depth next) (.observe depth padded)
  | allocate {next padded : ObjectId → Procedure ω α}
      (goesOn : ∀ object, Underlies changes (next object) (padded object)) :
      Underlies changes (.allocate next) (.allocate padded)
  | report (message : String) (fields : List (String × Field)) {next padded : Procedure ω α}
      (goesOn : Underlies changes next padded) :
      Underlies changes (.report message fields next) (.report message fields padded)
  | write {command instead : ω} (made : changes command instead)
      {next padded : Except BeanError Unit → Procedure ω α}
      (goesOn : ∀ outcome, Underlies changes (next outcome) (padded outcome)) :
      Underlies changes (.write command next) (.write instead padded)
  /-- Only the padded procedure looks at the registry and makes the request. -/
  | refused (depth : Nat) (request : Request) {plain padded : Procedure ω α}
      (goesOn : Underlies changes plain padded) :
      Underlies changes plain (.observe depth fun view =>
        if (view.refusal? request).isSome then .fetch depth request fun _ => padded else padded)

theorem Procedure.underlies_refl {ω α : Type} {changes : ω → ω → Prop}
    (refl : ∀ command, changes command command) (procedure : Procedure ω α) :
    procedure.Underlies changes procedure := by
  induction procedure with
  | done result => exact .done result
  | fetch depth request next ih => exact .fetch depth request ih
  | update object change next ih => exact .update object change ih
  | observe depth next ih => exact .observe depth ih
  | allocate next ih => exact .allocate ih
  | report message fields next ih => exact .report message fields ih
  | write command next ih => exact .write (refl command) ih

/-- Each run of the other constructor is padded with requests that are refused. -/
structure Constructor.Underlies (plain padded : Constructor) : Prop where
  listed : padded.listed = plain.listed
  run : ∀ run, (plain.run run).Underlies Eq (padded.run run)

theorem Constructor.underlies_refl (constructor : Constructor) :
    constructor.Underlies constructor :=
  ⟨rfl, fun run => (constructor.run run).underlies_refl fun _ => rfl⟩

inductive Strategy.Underlies : Strategy → Strategy → Prop
  | singleton (type : BeanType) {plain padded : Constructor} (made : plain.Underlies padded) :
      Underlies (.singleton type plain) (.singleton type padded)
  | factory (type : BeanType) {plain padded : Constructor} (made : plain.Underlies padded) :
      Underlies (.factory type plain) (.factory type padded)
  | supplied (type : BeanType) (bean : Bean) :
      Underlies (.supplied type bean) (.supplied type bean)
  | smartSingleton (type : BeanType) {plain padded : Constructor} (made : plain.Underlies padded) :
      Underlies (.smartSingleton type plain) (.smartSingleton type padded)
  | smartFactory (type : BeanType) {plain padded : Constructor} (made : plain.Underlies padded) :
      Underlies (.smartFactory type plain) (.smartFactory type padded)

inductive Registration.Underlies : Registration → Registration → Prop
  | strategy (name : String) {plain padded : Strategy} (made : plain.Underlies padded) :
      Underlies (.strategy name plain) (.strategy name padded)
  | supply (name : String) (type : BeanType) (bean : Bean) :
      Underlies (.supply name type bean) (.supply name type bean)
  | ensure (name : String) (type : BeanType) :
      Underlies (.ensure name type) (.ensure name type)

/--
The registries differ in the padding of their constructors and in the reported events, and in
nothing else that can be told.
-/
structure Registry.Underlies (plain padded : Registry) : Prop where
  beans : List.Forall₂ (fun entry other => other.1 = entry.1 ∧ entry.2.Underlies other.2)
    plain.beans padded.beans
  current : ∀ thread, padded.chains.current thread = plain.chains.current thread
  same : ∃ beans chains events, padded = { plain with beans, chains, events }

/-- The results are the same, and the first registry underlies the other. -/
structure Registry.Matches {β : Type} (plain padded : β × Registry) : Prop where
  result : padded.1 = plain.1
  registry : plain.2.Underlies padded.2

inductive Prospect.Underlies : Prospect → Prospect → Prop
  | unregistered : Underlies .unregistered .unregistered
  | refused (trace : List String) : Underlies (.refused trace) (.refused trace)
  | mismatched (actual : Handover) {plain padded : Registry} (entered : plain.Underlies padded) :
      Underlies (.mismatched actual plain) (.mismatched actual padded)
  | ready (bean : Bean) {plain padded : Registry} (entered : plain.Underlies padded) :
      Underlies (.ready bean plain) (.ready bean padded)
  | blocked : Underlies .blocked .blocked
  | due {strategy other : Strategy} (strategies : strategy.Underlies other)
      {constructor instead : Constructor} (constructors : constructor.Underlies instead)
      {plain padded : Registry} (entered : plain.Underlies padded) :
      Underlies (.due strategy constructor plain) (.due other instead padded)

namespace Strategy.Underlies

variable {plain padded : Strategy}

theorem handover (strategies : plain.Underlies padded) : padded.handover = plain.handover := by
  cases strategies <;> rfl

theorem kind (strategies : plain.Underlies padded) : padded.kind = plain.kind := by
  cases strategies <;> rfl

theorem makesOnce (strategies : plain.Underlies padded) :
    padded.makesOnce = plain.makesOnce := by
  cases strategies <;> rfl

theorem makesObjects (strategies : plain.Underlies padded) :
    padded.makesObjects = plain.makesObjects := by
  cases strategies <;> rfl

end Strategy.Underlies

theorem Strategy.underlies_refl (strategy : Strategy) : strategy.Underlies strategy := by
  cases strategy with
  | singleton type constructor => exact .singleton type constructor.underlies_refl
  | factory type constructor => exact .factory type constructor.underlies_refl
  | supplied type bean => exact .supplied type bean
  | smartSingleton type constructor => exact .smartSingleton type constructor.underlies_refl
  | smartFactory type constructor => exact .smartFactory type constructor.underlies_refl

theorem Registration.underlies_refl (registration : Registration) :
    registration.Underlies registration := by
  cases registration with
  | strategy name strategy => exact .strategy name strategy.underlies_refl
  | supply name type bean => exact .supply name type bean
  | ensure name type => exact .ensure name type

namespace Registry

namespace Underlies

variable {plain padded : Registry}

/-- What a refused request does to the padded registry does not matter. -/
theorem unmarked (registries : plain.Underlies padded) {after : Registry}
    (unmarked : padded.Unmarked after) : plain.Underlies after := by
  rcases registries with ⟨beans, current, others, chains, events, rfl⟩
  rcases unmarked with ⟨⟨left, reported, rfl⟩, restored⟩
  exact ⟨beans, fun thread => (restored thread).trans (current thread), _, _, _, rfl⟩

theorem countRun (registries : plain.Underlies padded) (site : Site) (listed : Bool) :
    Matches (plain.countRun site listed) (padded.countRun site listed) := by
  rcases registries with ⟨beans, current, others, chains, events, rfl⟩
  exact ⟨rfl, beans, current, _, _, _, rfl⟩

theorem allocate (registries : plain.Underlies padded) :
    Matches plain.allocate padded.allocate := by
  rcases registries with ⟨beans, current, others, chains, events, rfl⟩
  exact ⟨rfl, beans, current, _, _, _, rfl⟩

theorem newBean (registries : plain.Underlies padded) (isObject : Bool) (bean : Bean) :
    Matches (plain.newBean isObject bean) (padded.newBean isObject bean) := by
  rcases registries with ⟨beans, current, others, chains, events, rfl⟩
  cases isObject <;> exact ⟨rfl, beans, current, _, _, _, rfl⟩

theorem kept? (registries : plain.Underlies padded) (site : Site) :
    padded.kept? site = plain.kept? site := by
  rcases registries with ⟨beans, current, others, chains, events, rfl⟩
  rfl

theorem locked (registries : plain.Underlies padded) : padded.locked = plain.locked := by
  rcases registries with ⟨beans, current, others, chains, events, rfl⟩
  rfl

theorem keep (registries : plain.Underlies padded) (site : Site) (bean : Bean) :
    Matches (plain.keep site bean) (padded.keep site bean) := by
  simp only [Registry.keep, registries.kept?]
  split
  · exact ⟨rfl, registries⟩
  · rcases registries with ⟨beans, current, others, chains, events, rfl⟩
    exact ⟨rfl, beans, current, _, _, _, rfl⟩

theorem update (registries : plain.Underlies padded) (object : ObjectId)
    (change : Content → Content) :
    (plain.update object change).Underlies (padded.update object change) := by
  rcases registries with ⟨beans, current, others, chains, events, rfl⟩
  exact ⟨beans, current, _, _, _, rfl⟩

theorem report (registries : plain.Underlies padded) (event : Event) :
    (plain.report event).Underlies (padded.report event) := by
  rcases registries with ⟨beans, current, others, chains, events, rfl⟩
  exact ⟨beans, current, _, _, _, rfl⟩

theorem lock (registries : plain.Underlies padded) (site : Site) :
    (plain.lock site).Underlies (padded.lock site) := by
  rcases registries with ⟨beans, current, others, chains, events, rfl⟩
  exact ⟨beans, current, _, _, _, rfl⟩

theorem unlock (registries : plain.Underlies padded) (site : Site) :
    (plain.unlock site).Underlies (padded.unlock site) := by
  rcases registries with ⟨beans, current, others, chains, events, rfl⟩
  exact ⟨beans, current, _, _, _, rfl⟩

theorem leave (registries : plain.Underlies padded) (thread : Thread) :
    (plain.leave thread).Underlies (padded.leave thread) := by
  rcases registries with ⟨beans, current, others, chains, events, rfl⟩
  refine ⟨beans, ?_, _, _, _, rfl⟩
  intro other
  change (chains.leave thread).current other = (plain.chains.leave thread).current other
  have left : chains.current = plain.chains.current := funext current
  rw [Chains.current_leave, Chains.current_leave, left]

theorem find? (registries : plain.Underlies padded) (name : String) :
    Option.Rel Strategy.Underlies (plain.find? name) (padded.find? name) := by
  simp only [Registry.find?]
  have beans := registries.beans
  generalize plain.beans = entries at beans ⊢
  generalize padded.beans = others at beans ⊢
  induction beans with
  | nil => exact .none
  | @cons entry other rest others same _ ih =>
      rcases entry with ⟨key, strategy⟩
      rcases other with ⟨otherKey, instead⟩
      rcases same with ⟨sameKey, strategies⟩
      change otherKey = key at sameKey
      subst sameKey
      rw [List.lookup_cons, List.lookup_cons]
      cases name == otherKey with
      | true => exact .some strategies
      | false => exact ih

theorem contains (registries : plain.Underlies padded) (name : String) :
    padded.contains name = plain.contains name := by
  rw [contains_eq_find?, contains_eq_find?]
  have found := registries.find? name
  generalize plain.find? name = strategy? at found ⊢
  generalize padded.find? name = other? at found ⊢
  cases found <;> rfl

theorem size (registries : plain.Underlies padded) : padded.size = plain.size :=
  registries.beans.length_eq.symm

theorem infos (registries : plain.Underlies padded) : padded.infos = plain.infos := by
  simp only [Registry.infos]
  have beans := registries.beans
  generalize plain.beans = entries at beans ⊢
  generalize padded.beans = others at beans ⊢
  induction beans with
  | nil => rfl
  | cons same _ ih =>
      rw [List.map_cons, List.map_cons, ih, same.1, same.2.handover, same.2.kind]

theorem view (registries : plain.Underlies padded) (thread : Thread) :
    padded.view thread = plain.view thread := by
  simp only [Registry.view, registries.infos, registries.current]
  rcases registries with ⟨beans, current, others, chains, events, rfl⟩
  rfl

theorem insert (registries : plain.Underlies padded) (name : String) {strategy other : Strategy}
    (strategies : strategy.Underlies other) :
    Matches (plain.insert name strategy) (padded.insert name other) := by
  simp only [Registry.insert, registries.contains]
  split
  · exact ⟨rfl, registries⟩
  · split
    · exact ⟨rfl, registries⟩
    · have added := List.rel_append registries.beans
        (List.Forall₂.cons (a := (name, strategy)) (b := (name, other)) ⟨rfl, strategies⟩ .nil)
      rcases registries with ⟨beans, current, others, chains, events, rfl⟩
      exact ⟨rfl, added, current, _, _, _, rfl⟩

theorem apply (registries : plain.Underlies padded) {registration other : Registration}
    (registrations : registration.Underlies other) :
    Matches (registration.apply plain) (other.apply padded) := by
  cases registrations with
  | strategy name made => exact registries.insert name made
  | supply name type bean => exact registries.insert name (.supplied type bean)
  | ensure name type =>
      have autoRegister : padded.autoRegister = plain.autoRegister := by
        rcases registries.same with ⟨others, chains, events, rfl⟩
        rfl
      simp only [Registration.apply, Registry.ensure, autoRegister, registries.contains]
      split
      · have reported := registries.report (.registeringMissing name)
        exact reported.insert name (Strategy.underlies_refl _)
      · exact ⟨rfl, registries⟩

variable {strategy other : Strategy}

theorem ready? (registries : plain.Underlies padded) (strategies : strategy.Underlies other)
    (site : Site) : other.ready? site padded = strategy.ready? site plain := by
  cases strategies <;> simp only [Strategy.ready?, registries.kept?]

theorem due? (registries : plain.Underlies padded) (strategies : strategy.Underlies other)
    (site : Site) :
    Option.Rel Constructor.Underlies (strategy.due? site plain) (other.due? site padded) := by
  cases strategies with
  | supplied => exact .none
  | factory _ made | smartFactory _ made => exact .some made
  | singleton _ made | smartSingleton _ made =>
      simp only [Strategy.due?, registries.kept?, registries.locked]
      split
      · exact .none
      · exact .some made

theorem prepare (registries : plain.Underlies padded) (strategies : strategy.Underlies other)
    (site : Site) : (strategy.prepare site plain).Underlies (other.prepare site padded) := by
  simp only [Strategy.prepare, strategies.makesOnce]
  split
  · exact registries.lock site
  · exact registries

theorem complete (registries : plain.Underlies padded) (strategies : strategy.Underlies other)
    (site : Site) (outcome : Except BeanError Bean) :
    Matches (strategy.complete site outcome plain) (other.complete site outcome padded) := by
  simp only [Strategy.complete, strategies.makesOnce, strategies.makesObjects]
  cases outcome with
  | error error =>
      dsimp only
      split
      · exact ⟨rfl, registries.unlock site⟩
      · exact ⟨rfl, registries⟩
  | ok bean =>
      have made := registries.newBean strategy.makesObjects bean
      dsimp only
      split
      · have kept := made.registry.keep site (plain.newBean strategy.makesObjects bean).1
        rw [made.result]
        exact ⟨congrArg Except.ok kept.result, kept.registry.unlock site⟩
      · exact ⟨congrArg Except.ok made.result, made.registry⟩

theorem put (registries : plain.Underlies padded) (thread : Thread) (chain : List String)
    (event : Event) :
    Registry.Underlies ({ plain with chains := plain.chains.put thread chain }.report event)
      ({ padded with chains := padded.chains.put thread chain }.report event) := by
  rcases registries with ⟨beans, current, others, chains, events, rfl⟩
  refine ⟨beans, ?_, _, _, _, rfl⟩
  intro other
  simp only [Registry.report, Chains.current_put, current]

/-- A request comes to the same in a padded registry. -/
theorem prospect (registries : plain.Underlies padded) (thread : Thread) (request : Request) :
    (plain.prospect thread request).Underlies (padded.prospect thread request) := by
  have found := registries.find? request.name
  have current := registries.current thread
  simp only [Registry.prospect]
  generalize plain.find? request.name = strategy? at found ⊢
  generalize padded.find? request.name = other? at found ⊢
  cases found with
  | none => exact .unregistered
  | @some strategy other strategies =>
      by_cases inFlight : request.name ∈ plain.chains.current thread
      · rw [Chains.enter_eq_error_iff.mpr ⟨inFlight, rfl⟩,
          Chains.enter_eq_error_iff.mpr ⟨current ▸ inFlight, rfl⟩, current]
        exact .refused _
      · rw [Chains.enter_eq_ok_iff.mpr ⟨inFlight, rfl⟩,
          Chains.enter_eq_ok_iff.mpr ⟨current ▸ inFlight, rfl⟩, current]
        dsimp only
        have entered := registries.put thread (plain.chains.current thread ++ [request.name])
          (.resolving request.name request.handover.access)
        generalize Registry.report _ _ = inside at entered ⊢
        generalize Registry.report _ _ = within at entered ⊢
        rw [strategies.handover]
        split
        · rw [entered.ready? strategies]
          have due := entered.due? strategies (.bean request.name)
          generalize strategy.due? (.bean request.name) inside = constructor? at due ⊢
          generalize other.due? (.bean request.name) within = instead? at due ⊢
          cases due with
          | some constructors => exact .due strategies constructors entered
          | none =>
              cases strategy.ready? (.bean request.name) inside with
              | some bean => exact .ready bean entered
              | none => exact .blocked
        · exact .mismatched strategy.handover entered

end Underlies

end Registry

/-- A request that was answered, and what the constructor came to if it was run for that. -/
structure Reply where
  thread : Thread
  request : Request
  run : Option (Except BeanError Bean)
  outcome : Except BeanError Bean

def Moment.reply? (moment : Moment) : Option Reply :=
  match moment.happening with
  | .answers request run outcome => some ⟨moment.thread, request, run, outcome⟩
  | _ => none

/-- The replies among the moments. -/
def repliesIn (moments : List Moment) : List Reply :=
  moments.filterMap Moment.reply?

@[simp]
theorem repliesIn_append (moments more : List Moment) :
    repliesIn (moments ++ more) = repliesIn moments ++ repliesIn more :=
  List.filterMap_append

theorem repliesIn_cons_of_none {moment : Moment} (none : moment.reply? = .none)
    (moments : List Moment) : repliesIn (moment :: moments) = repliesIn moments :=
  List.filterMap_cons_none none

/-- The replies are the first ones, and failures that no constructor was run for in between. -/
inductive AmidRefusals : List Reply → List Reply → Prop
  | nil : AmidRefusals [] []
  | reply (reply : Reply) {plain padded : List Reply} (rest : AmidRefusals plain padded) :
      AmidRefusals (reply :: plain) (reply :: padded)
  | refusal (thread : Thread) (request : Request) (error : BeanError) {plain padded : List Reply}
      (rest : AmidRefusals plain padded) :
      AmidRefusals plain (⟨thread, request, none, .error error⟩ :: padded)

theorem AmidRefusals.append {plain padded more paddedMore : List Reply}
    (left : AmidRefusals plain padded) (right : AmidRefusals more paddedMore) :
    AmidRefusals (plain ++ more) (padded ++ paddedMore) := by
  induction left with
  | nil => exact right
  | reply reply _ ih => exact .reply reply ih
  | refusal thread request error _ ih => exact .refusal thread request error ih

/-- Two evaluations come to the same, with the same replies up to refusals in between. -/
structure Alike {β : Type} (plain padded : Option (β × Registry))
    (moments paddedMoments : List Moment) : Prop where
  answers : Option.Rel Registry.Matches plain padded
  replies : AmidRefusals (repliesIn moments) (repliesIn paddedMoments)

namespace Traced

variable {β γ : Type}

/-- The traced evaluations come to the same, with the same replies up to refusals in between. -/
def Alike (plain padded : Traced Moment (β × Registry)) : Prop :=
  BeanContainer.Alike plain.result padded.result plain.events padded.events

theorem alike_stuck : Alike (stuck : Traced Moment (β × Registry)) stuck :=
  ⟨.none, .nil⟩

theorem alike_pure (value : β) {plain padded : Registry} (registries : plain.Underlies padded) :
    Alike (pure (value, plain)) (pure (value, padded)) :=
  ⟨.some ⟨rfl, registries⟩, .nil⟩

theorem Alike.tell {plain padded : Traced Moment (β × Registry)} (alike : Alike plain padded)
    {first second : Moment} (quiet : first.reply? = none) (otherQuiet : second.reply? = none) :
    Alike (tell first plain) (tell second padded) where
  answers := alike.answers
  replies := by
    rw [tell_events, tell_events, repliesIn_cons_of_none quiet, repliesIn_cons_of_none otherQuiet]
    exact alike.replies

theorem Alike.bind {plain padded : Traced Moment (β × Registry)} (alike : Alike plain padded)
    {next other : β × Registry → Traced Moment (γ × Registry)}
    (goesOn : ∀ value {plain padded : Registry}, plain.Underlies padded →
      Alike (next (value, plain)) (other (value, padded))) :
    Alike (plain.bind next) (padded.bind other) := by
  rcases alike with ⟨answers, replies⟩
  rcases plain with ⟨moments, plain?⟩
  rcases padded with ⟨paddedMoments, padded?⟩
  cases answers with
  | none => exact ⟨.none, replies⟩
  | @some answer otherAnswer same =>
      rcases answer with ⟨value, registry⟩
      rcases otherAnswer with ⟨otherValue, otherRegistry⟩
      rcases same with ⟨sameValue, registries⟩
      change otherValue = value at sameValue
      subst sameValue
      have rest := goesOn otherValue registries
      refine ⟨rest.answers, ?_⟩
      rw [bind_of_some rfl, bind_of_some rfl, repliesIn_append, repliesIn_append]
      exact replies.append rest.replies

end Traced

/-- Padded registries give the same answers, and what is refused leaves no mark. -/
structure TracedFetcher.Overlooks (traced : TracedFetcher) : Prop where
  alike : ∀ {plain padded : Registry}, plain.Underlies padded →
    ∀ thread request frames others,
      (traced frames thread request plain).Alike (traced others thread request padded)
  refused : ∀ {thread request registry error}, Registry.Refuses thread request registry error →
    ∃ after, registry.Unmarked after ∧
      ∀ frames, traced frames thread request registry =
        Registry.traceAnswer frames thread request ⟨none, .error error, after⟩

/-- Padded constructors build the same. -/
def TracedBuilder.Overlooks (build : TracedBuilder) : Prop :=
  ∀ {plain padded : Registry} {constructor other : Constructor}, plain.Underlies padded →
    constructor.Underlies other → ∀ thread site frames others,
      (build frames thread site constructor plain).Alike (build others thread site other padded)

theorem Procedure.Underlies.alike {ω α : Type} {changes : ω → ω → Prop} {traced : TracedFetcher}
    {effect : ω → Registry → Except BeanError Unit × Registry} {note : ω → Happening}
    (overlooks : traced.Overlooks)
    (effects : ∀ command instead plain padded, changes command instead →
      Registry.Underlies plain padded →
        Registry.Matches (effect command plain) (effect instead padded))
    (quiet : ∀ command thread frames registry,
      Moment.reply? ⟨thread, frames, registry, note command⟩ = none)
    {procedure other : Procedure ω α} (procedures : procedure.Underlies changes other)
    (thread : Thread) (frames others : List String) {plain padded : Registry}
    (registries : plain.Underlies padded) :
    (procedure.trace traced effect note frames thread plain).Alike
      (other.trace traced effect note others thread padded) := by
  induction procedures generalizing plain padded with
  | done result => exact (Traced.alike_pure result registries).tell rfl rfl
  | fetch depth request goesOn ih =>
      refine Traced.Alike.tell ?_ rfl rfl
      exact (overlooks.alike registries (thread + depth) request _ _).bind
        fun outcome _ _ registriesAfter => ih outcome registriesAfter
  | update object change goesOn ih => exact (ih (registries.update object change)).tell rfl rfl
  | observe depth goesOn ih =>
      simp only [Procedure.trace, registries.view]
      exact (ih (plain.view (thread + depth)) registries).tell rfl rfl
  | allocate goesOn ih =>
      have allocated := registries.allocate
      simp only [Procedure.trace, allocated.result]
      exact (ih plain.allocate.1 allocated.registry).tell rfl rfl
  | report message fields goesOn ih =>
      exact (ih (registries.report (.user message fields))).tell rfl rfl
  | @write command instead made next padded' goesOn ih =>
      have changed := effects command instead plain padded made registries
      simp only [Procedure.trace, changed.result]
      exact (ih (effect command plain).1 changed.registry).tell (quiet _ _ _ _) (quiet _ _ _ _)
  | refused depth request goesOn ih =>
      simp only [Procedure.trace]
      cases refusal : (padded.view (thread + depth)).refusal? request with
      | none =>
          have rest := ih registries
          exact ⟨rest.answers, rest.replies⟩
      | some error =>
          -- Only the padded procedure moves on, and the plain registry still underlies the other.
          rcases overlooks.refused (Registry.view_refusal?_eq_some_iff.mp refusal) with
            ⟨after, unmarked, told⟩
          have rest := ih (registries.unmarked unmarked)
          simp only [Option.isSome_some, if_true, Procedure.trace, told]
          exact ⟨rest.answers, .refusal _ _ _ rest.replies⟩

namespace Registry

theorem traceBuilder_overlooks {traced : TracedFetcher} (overlooks : traced.Overlooks) :
    (traceBuilder traced).Overlooks := by
  intro plain padded constructor other registries constructors thread site frames others
  have counted := registries.countRun site constructor.listed
  simp only [traceBuilder, constructors.listed, counted.result]
  refine Traced.Alike.tell ?_ rfl rfl
  refine Traced.Alike.bind ?_ fun outcome _ _ filled =>
    (Traced.alike_pure outcome filled).tell rfl rfl
  exact (constructors.run _).alike overlooks (fun command => command.elim)
    (fun command => command.elim) thread frames others counted.registry

theorem traceAnswer_alike (thread : Thread) (request : Request) (frames others : List String)
    (run : Option (Except BeanError Bean)) (outcome : Except BeanError Bean)
    {plain padded : Registry} (registries : plain.Underlies padded) :
    (traceAnswer frames thread request ⟨run, outcome, plain⟩).Alike
      (traceAnswer others thread request ⟨run, outcome, padded⟩) :=
  ⟨.some ⟨rfl, registries⟩, .reply _ .nil⟩

theorem traceRetrieve_overlooks {build : TracedBuilder} (overlooks : build.Overlooks) :
    TracedFetcher.Overlooks (traceRetrieve build) where
  refused refuses := by
    rcases refuses.retrieve with ⟨after, unmarked, _, told⟩
    exact ⟨after, unmarked, told build⟩
  alike registries thread request frames others := by
    rename_i plain padded
    have prospects := registries.prospect thread request
    simp only [traceRetrieve_eq]
    generalize plain.prospect thread request = prospect at prospects ⊢
    generalize padded.prospect thread request = otherProspect at prospects ⊢
    cases prospects with
    | unregistered => exact traceAnswer_alike _ _ _ _ _ _ registries
    | refused trace => exact traceAnswer_alike _ _ _ _ _ _ registries
    | mismatched actual entered => exact traceAnswer_alike _ _ _ _ _ _ (entered.leave thread)
    | ready bean entered => exact traceAnswer_alike _ _ _ _ _ _ (entered.leave thread)
    | blocked => exact Traced.alike_stuck
    | due strategies constructors entered =>
        have prepared := entered.prepare strategies (.bean request.name)
        refine (overlooks prepared constructors _ _ _ _).bind fun outcome _ _ filled => ?_
        have completed := filled.complete strategies (.bean request.name) outcome
        simp only [completed.result]
        exact traceAnswer_alike _ _ _ _ _ _ (completed.registry.leave thread)

theorem traceFetch_overlooks (budget : Nat) : TracedFetcher.Overlooks (traceFetch budget) := by
  induction budget with
  | zero => exact traceRetrieve_overlooks fun _ _ _ _ _ _ => Traced.alike_stuck
  | succ budget ih => exact traceRetrieve_overlooks (traceBuilder_overlooks ih)

theorem traceGet_overlooks : TracedFetcher.Overlooks traceGet where
  alike registries thread request frames others := by
    rw [traceGet, traceGet, registries.size]
    exact (traceFetch_overlooks _).alike registries thread request frames others
  refused {thread request registry error} refuses :=
    (traceFetch_overlooks registry.size).refused refuses

/--
Each request is classified: it is refused for the first cause that applies and leaves no mark then,
or has the outcome of its strategy. So a procedure on a registry comes to the same when both are
padded with requests that are refused, and all other requests have the same replies.
-/
theorem refusals_classified_without_mark {α : Type} {plain padded : Registry}
    {procedure other : Procedure Registration α} (registries : plain.Underlies padded)
    (procedures : procedure.Underlies Registration.Underlies other) (thread : Thread) :
    (∀ budget thread request registry, Classifies budget thread request registry) ∧
      Alike (procedure.performOn thread plain) (other.performOn thread padded)
        (procedure.course thread plain) (other.course thread padded) := by
  refine ⟨classifies, ?_⟩
  rw [← Procedure.tracePerform_result, ← Procedure.tracePerform_result]
  apply procedures.alike traceGet_overlooks ?_ (fun _ _ _ _ => rfl) thread _ _ registries
  intro registration instead before beforePadded registrations
  exact fun registriesThere => registriesThere.apply registrations

end Registry

/-- Makes those of the requests that are refused, and goes on as if it had not. -/
def Procedure.afterRefused {ω α : Type} (requests : List Request) (rest : Procedure ω α) :
    Procedure ω α :=
  requests.foldr (fun request rest => .observe 0 fun view =>
    if (view.refusal? request).isSome then .fetch 0 request fun _ => rest else rest) rest

theorem Procedure.Underlies.afterRefused {ω α : Type} {changes : ω → ω → Prop}
    {plain padded : Procedure ω α} (goesOn : plain.Underlies changes padded)
    (requests : List Request) : plain.Underlies changes (padded.afterRefused requests) := by
  induction requests with
  | nil => exact goesOn
  | cons request rest ih => exact .refused 0 request ih

namespace Registry

/-- Takes over the price. Requests made in vain come first. -/
def pricing (vain : List Request) : Constructor where
  listed := true
  run _ := .afterRefused vain (.fetch 0 ⟨"price", ⟨.value, .i64⟩⟩ .done)

def market (vain : List Request) : Registry where
  beans := [("price", .factory .i64 (.default .i64)), ("total", .singleton .i64 (pricing vain))]

def shopping (vain : List Request) : Procedure Registration (Except BeanError Bean) :=
  .afterRefused vain (.fetch 0 ⟨"total", ⟨.reference, .i64⟩⟩ .done)

theorem market_underlies (vain : List Request) : (market []).Underlies (market vain) := by
  have made : Constructor.Underlies (pricing []) (pricing vain) :=
    ⟨rfl, fun _ => .afterRefused (Procedure.underlies_refl (fun _ => rfl) _) vain⟩
  refine ⟨?_, fun _ => rfl, _, _, _, rfl⟩
  exact .cons ⟨rfl, Strategy.underlies_refl _⟩ (.cons ⟨rfl, .singleton .i64 made⟩ .nil)

/-- Each of the requests is refused where the total is made, and all but the second before. -/
theorem refusals_classified_on_market :
    let vain : List Request :=
      [⟨"gone", ⟨.value, .unit⟩⟩, ⟨"total", ⟨.reference, .i64⟩⟩, ⟨"price", ⟨.reference, .i64⟩⟩]
    (repliesIn ((shopping []).course 0 (market []))).map (·.request.name) = ["price", "total"] ∧
      (repliesIn ((shopping vain).course 0 (market vain))).map (·.request.name) =
        ["gone", "price", "gone", "total", "price", "price", "total"] ∧
      Alike ((shopping []).performOn 0 (market [])) ((shopping vain).performOn 0 (market vain))
        ((shopping []).course 0 (market [])) ((shopping vain).course 0 (market vain)) := by
  intro vain
  have shoppings : (shopping []).Underlies Registration.Underlies (shopping vain) :=
    .afterRefused (Procedure.underlies_refl Registration.underlies_refl _) vain
  exact ⟨by decide +kernel, by decide +kernel,
    (refusals_classified_without_mark (market_underlies vain) shoppings 0).2⟩

end Registry

end BeanContainer
