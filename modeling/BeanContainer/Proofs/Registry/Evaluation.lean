import BeanContainer.Registry.Registration

/-!
# What evaluation keeps

A request for a bean runs a constructor, which requests further beans, and so on. Whatever comes of
that, it is put together from few changes of the registry: runs are counted, objects are allocated,
beans are kept, and so on, inside of two brackets, one around every request and one around the
making of an only bean. A relation that these changes and brackets keep is kept by every evaluation.
The induction is done here once for all such relations.
-/

namespace BeanContainer

/--
A relation between an earlier and a later registry that every change made by an evaluation keeps.
The last two fields are the brackets: what holds inside of them holds outside.
-/
structure Persists (relation : Registry → Registry → Prop) : Prop where
  refl : ∀ registry, relation registry registry
  trans : ∀ {first second third}, relation first second → relation second third →
    relation first third
  countRun : ∀ site listed registry, relation registry (registry.countRun site listed).2
  allocate : ∀ registry : Registry, relation registry registry.allocate.2
  keep : ∀ site bean registry, relation registry (registry.keep site bean).2
  update : ∀ object change registry, relation registry (registry.update object change)
  report : ∀ message fields registry, relation registry (registry.report (.user message fields))
  locking : ∀ {site registry after}, relation (registry.lock site) after →
    relation registry (after.unlock site)
  resolving : ∀ {thread name access chains registry after},
    registry.chains.enter thread name = .ok chains →
      relation ({ registry with chains }.report (.resolving name access)) after →
        relation registry (after.leave thread)

/-- What allocation keeps and the procedure behind it has, the making of a bean has. -/
theorem Procedure.make_induction {ω α : Type} {motive : Procedure ω α → Prop}
    (allocate : ∀ next, (∀ object, motive (next object)) → motive (.allocate next))
    (content : Content) (type : BeanType) {next : Bean → Procedure ω α}
    (goesOn : ∀ bean, motive (next bean)) : motive (.make content type next) := by
  induction type generalizing next with
  | plain name default => exact goesOn _
  | shared inner ih => exact ih fun bean => allocate _ fun object => goesOn _

/-- Whatever the fetcher answers, the relation holds between the registries before and after. -/
def Fetcher.Keeps (relation : Registry → Registry → Prop) (fetcher : Fetcher) : Prop :=
  ∀ ⦃thread request registry outcome after⦄,
    fetcher thread request registry = some (outcome, after) → relation registry after

/-- Whatever the builder builds, the relation holds between the registries before and after. -/
def Builder.Keeps (relation : Registry → Registry → Prop) (build : Builder) : Prop :=
  ∀ ⦃thread site constructor registry outcome after⦄,
    build thread site constructor registry = some (outcome, after) → relation registry after

namespace Persists

variable {relation : Registry → Registry → Prop}

theorem newBean (persists : Persists relation) (isObject : Bool) (bean : Bean)
    (registry : Registry) : relation registry (registry.newBean isObject bean).2 := by
  cases isObject with
  | true => exact persists.allocate registry
  | false => exact persists.refl registry

theorem run (persists : Persists relation) {ω α : Type} {fetcher : Fetcher}
    {effect : ω → Registry → Except BeanError Unit × Registry} {thread : Thread}
    (fetcherKeeps : fetcher.Keeps relation)
    (effectKeeps : ∀ command registry, relation registry (effect command registry).2)
    {procedure : Procedure ω α} {registry after : Registry} {result : α}
    (ran : procedure.run fetcher effect thread registry = some (result, after)) :
    relation registry after := by
  induction procedure generalizing registry with
  | done value =>
      simp only [Procedure.run, Option.some.injEq, Prod.mk.injEq] at ran
      rw [← ran.2]
      exact persists.refl registry
  | fetch depth request next ih =>
      simp only [Procedure.run] at ran
      cases fetched : fetcher (thread + depth) request registry with
      | none => simp [fetched] at ran
      | some answer =>
          rw [fetched] at ran
          exact persists.trans (fetcherKeeps fetched) (ih answer.1 ran)
  | update object change next ih =>
      exact persists.trans (persists.update object change registry) (ih ran)
  | observe depth next ih => exact ih _ ran
  | allocate next ih => exact persists.trans (persists.allocate registry) (ih _ ran)
  | report message fields next ih =>
      exact persists.trans (persists.report message fields registry) (ih ran)
  | write command next ih => exact persists.trans (effectKeeps command registry) (ih _ ran)

theorem builder (persists : Persists relation) {fetcher : Fetcher}
    (fetcherKeeps : fetcher.Keeps relation) : (Registry.builder fetcher).Keeps relation := by
  intro thread site constructor registry outcome after built
  exact persists.trans (persists.countRun site constructor.listed registry)
    (persists.run fetcherKeeps nofun built)

theorem makeNew (persists : Persists relation) {build : Builder} (buildKeeps : build.Keeps relation)
    {thread : Thread} {site : Site} {constructor : Constructor} {isObject : Bool}
    {registry after : Registry} {outcome : Except BeanError Bean}
    (made : Registry.makeNew build thread site constructor isObject registry =
      some (outcome, after)) : relation registry after := by
  unfold Registry.makeNew at made
  split at made
  · cases made
  · next error failed built =>
      cases made
      exact buildKeeps built
  · next bean filled built =>
      cases made
      exact persists.trans (buildKeeps built) (persists.newBean isObject bean filled)

theorem makeOnce (persists : Persists relation) {build : Builder}
    (buildKeeps : build.Keeps relation) {thread : Thread} {site : Site} {constructor : Constructor}
    {registry after : Registry} {outcome : Except BeanError Bean}
    (made : Registry.makeOnce build thread site constructor registry = some (outcome, after)) :
    relation registry after := by
  unfold Registry.makeOnce at made
  split at made
  · cases made
    exact persists.refl registry
  · split at made
    · cases made
    · split at made
      · cases made
      · next error failed new =>
          cases made
          exact persists.locking (persists.makeNew buildKeeps new)
      · next bean filled new =>
          cases made
          exact persists.locking
            (persists.trans (persists.makeNew buildKeeps new) (persists.keep site bean filled))

theorem produce (persists : Persists relation) {build : Builder} (buildKeeps : build.Keeps relation)
    {thread : Thread} {site : Site} {strategy : Strategy} {registry after : Registry}
    {outcome : Except BeanError Bean}
    (produced : Registry.produce build thread site strategy registry = some (outcome, after)) :
    relation registry after := by
  cases strategy with
  | supplied type bean =>
      cases produced
      exact persists.refl registry
  | singleton type constructor | smartSingleton type constructor =>
      simp only [Registry.produce] at produced
      exact persists.makeOnce buildKeeps produced
  | factory type constructor | smartFactory type constructor =>
      simp only [Registry.produce] at produced
      exact persists.makeNew buildKeeps produced

theorem retrieve (persists : Persists relation) {build : Builder}
    (buildKeeps : build.Keeps relation) : (Registry.retrieve build).Keeps relation := by
  intro thread request registry outcome after retrieved
  unfold Registry.retrieve at retrieved
  split at retrieved
  · cases retrieved
    exact persists.refl registry
  · split at retrieved
    · cases retrieved
      exact persists.refl registry
    · next entered =>
        simp only at retrieved
        split at retrieved
        · split at retrieved
          · cases retrieved
          · next produced =>
              cases retrieved
              exact persists.resolving entered (persists.produce buildKeeps produced)
        · cases retrieved
          exact persists.resolving entered (persists.refl _)

theorem fetch (persists : Persists relation) (budget : Nat) :
    (Registry.fetch budget).Keeps relation := by
  induction budget with
  | zero => exact persists.retrieve (by intro _ _ _ _ _ _ built; cases built)
  | succ budget ih => exact persists.retrieve (persists.builder ih)

theorem get (persists : Persists relation) : Fetcher.Keeps relation Registry.get := by
  intro thread request registry outcome after answered
  exact persists.fetch registry.size answered

theorem read (persists : Persists relation) {α : Type} {procedure : Procedure Empty α}
    {registry after : Registry} {result : α}
    (ran : procedure.read registry = some (result, after)) : relation registry after :=
  persists.run persists.get nofun ran

theorem perform (persists : Persists relation)
    (applyKeeps : ∀ (registration : Registration) registry,
      relation registry (registration.apply registry).2)
    {α : Type} {procedure : Procedure Registration α} {registry after : Registry} {result : α}
    (ran : procedure.perform registry = some (result, after)) : relation registry after :=
  persists.run persists.get applyKeeps ran

end Persists

end BeanContainer
