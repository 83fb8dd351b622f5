import BeanContainer.Proofs.Registry.CycleDetection
import BeanContainer.Proofs.Registry.Expectation

/-!
# Requests and their history

Earlier requests leave beans behind, and a later one takes these instead of making them again. Where
constructors compute by formulas this makes no difference: whatever is kept under a name is what a
request for it is expected to come to, and so a request comes to the same after any other requests.
-/

namespace BeanContainer

namespace Registry

/-- The beans that are kept are those that requests for them are expected to come to. -/
def IsFaithful (formulas : Formulas) (registry initial : Registry) : Prop :=
  ∀ ⦃name strategy bean⦄, initial.find? name = some strategy →
    registry.kept? (.bean name) = some bean →
      ∃ path, initial.expected formulas path ⟨name, strategy.handover⟩ = .ok bean.likeness

/-- The registry has the beans of the initial one, and the path is in flight on the thread. -/
structure Remembers (formulas : Formulas) (thread : Thread) (path : List String)
    (registry initial : Registry) : Prop where
  beans : registry.beans = initial.beans
  current : registry.chains.current thread = path
  faithful : registry.IsFaithful formulas initial

variable {formulas : Formulas} {initial : Registry} {thread : Thread} {path : List String}

theorem Remembers.of_stays {registry after : Registry}
    (remembers : registry.Remembers formulas thread path initial) (stays : registry.Stays after)
    (faithful : after.IsFaithful formulas initial) :
    after.Remembers formulas thread path initial where
  beans := stays.beans.trans remembers.beans
  current := (stays.restores.chains thread).trans remembers.current
  faithful := faithful

theorem Remembers.find? {registry : Registry}
    (remembers : registry.Remembers formulas thread path initial) :
    registry.find? = initial.find? := by
  funext name
  rw [Registry.find?, Registry.find?, remembers.beans]

end Registry

/-- Answers to requests that follow the path are what is expected, and what is kept is, too. -/
def Fetcher.Agrees (formulas : Formulas) (initial : Registry) (thread : Thread)
    (path : List String) (fetcher : Fetcher) : Prop :=
  ∀ ⦃request registry outcome after⦄, registry.Remembers formulas thread path initial →
    (path ++ [request.name]).IsChain formulas.plan.DependsOn →
      fetcher thread request registry = some (outcome, after) →
        after.IsFaithful formulas initial ∧
          outcome.map Bean.likeness = initial.expected formulas path request

/-- Constructors that follow the formula of the name end as is expected. -/
def Builder.Agrees (formulas : Formulas) (initial : Registry) (thread : Thread)
    (path : List String) (name : String) (build : Builder) : Prop :=
  ∀ ⦃constructor registry made filled⦄, registry.Remembers formulas thread path initial →
    (∀ run, (constructor.run run).Computes (formulas name).requests (formulas name).combine) →
      build thread (.bean name) constructor registry = some (made, filled) →
        filled.IsFaithful formulas initial ∧
          made.map Bean.likeness = Request.combineAll (initial.expected formulas path)
            (formulas name).requests (formulas name).combine

namespace Registry

variable {formulas : Formulas} {initial : Registry} {thread : Thread} {path : List String}

/-- Requests made one after the other come to what their expected answers combine to. -/
theorem run_agrees {fetcher : Fetcher} (agrees : fetcher.Agrees formulas initial thread path)
    (keeps : fetcher.Keeps Stays) {requests : List Request}
    {combine : List Likeness → Except BeanError Likeness}
    {procedure : Procedure Empty (Except BeanError Bean)}
    (computes : procedure.Computes requests combine)
    (linked : ∀ request ∈ requests, (path ++ [request.name]).IsChain formulas.plan.DependsOn)
    {registry after : Registry} {result : Except BeanError Bean}
    (remembers : registry.Remembers formulas thread path initial)
    (ran : procedure.run fetcher nofun thread registry = some (result, after)) :
    after.IsFaithful formulas initial ∧
      result.map Bean.likeness =
        Request.combineAll (initial.expected formulas path) requests combine := by
  induction computes generalizing registry with
  | done combined =>
      cases ran
      exact ⟨remembers.faithful, combined⟩
  | @fetch request rest combine next passesOn goesOn ih =>
      rw [List.forall_mem_cons] at linked
      simp only [Procedure.run, Nat.add_zero] at ran
      cases fetched : fetcher thread request registry with
      | none => simp [fetched] at ran
      | some answer =>
          rcases answer with ⟨outcome, filled⟩
          rw [fetched] at ran
          rcases agrees remembers linked.1 fetched with ⟨faithful, comes⟩
          rw [Request.combineAll, ← comes]
          cases outcome with
          | error error =>
              simp only [passesOn, Procedure.run, Option.some.injEq, Prod.mk.injEq] at ran
              rcases ran with ⟨rfl, rfl⟩
              exact ⟨faithful, rfl⟩
          | ok bean =>
              exact ih bean linked.2 (remembers.of_stays (keeps fetched) faithful) ran
  | allocate goesOn ih =>
      have stays := persists_stays.allocate registry
      exact ih registry.objects linked (remembers.of_stays stays remembers.faithful) ran

theorem Remembers.prepare {request : Request} {registry entered : Registry} {strategy : Strategy}
    (remembers : registry.Remembers formulas thread path initial)
    (enters : Enters thread request registry strategy entered) :
    (strategy.prepare (.bean request.name) entered).Remembers formulas thread
      (path ++ [request.name]) initial where
  beans := enters.prepare_beans.trans remembers.beans
  current := by rw [prepare_chains, enters.current, if_pos rfl, remembers.current]
  faithful := by
    rcases enters.enter with ⟨chains, _, rfl⟩
    unfold Strategy.prepare
    split <;> exact remembers.faithful

section Answering

variable {request : Request} {registry entered filled : Registry} {strategy : Strategy}

theorem expected_of_kept (computes : initial.Computes formulas)
    (faithful : registry.IsFaithful formulas initial)
    (found : initial.find? request.name = some strategy)
    (same : strategy.handover = request.handover)
    (linked : (path ++ [request.name]).IsChain formulas.plan.DependsOn) {bean : Bean}
    (kept : registry.kept? (.bean request.name) = some bean) :
    initial.expected formulas path request = .ok bean.likeness := by
  rcases faithful found kept with ⟨other, comes⟩
  rw [same] at comes
  exact expected_of_linked computes comes linked

/-- The bean that was expected is kept, or one like it was kept before. -/
theorem keep_agrees (computes : initial.Computes formulas)
    (faithful : registry.IsFaithful formulas initial)
    (found : initial.find? request.name = some strategy)
    (same : strategy.handover = request.handover)
    (linked : (path ++ [request.name]).IsChain formulas.plan.DependsOn) {bean : Bean}
    (comes : initial.expected formulas path request = .ok bean.likeness) :
    (registry.keep (.bean request.name) bean).2.IsFaithful formulas initial ∧
      initial.expected formulas path request =
        .ok (registry.keep (.bean request.name) bean).1.likeness := by
  constructor
  · intro name other kept foundOther isKept
    rcases kept?_keep isKept with before | ⟨rfl, rfl⟩
    · exact faithful foundOther before
    · cases found.symm.trans foundOther
      rw [same]
      exact ⟨path, comes⟩
  · unfold keep
    split
    · next first kept => exact expected_of_kept computes faithful found same linked kept
    · exact comes

/-- What the strategy makes of the outcome of its constructor is what is expected. -/
theorem complete_agrees (computes : initial.Computes formulas)
    (faithful : filled.IsFaithful formulas initial)
    (found : initial.find? request.name = some strategy)
    (same : strategy.handover = request.handover)
    (linked : (path ++ [request.name]).IsChain formulas.plan.DependsOn)
    {made : Except BeanError Bean}
    (comes : initial.expected formulas path request =
      (made.map Bean.likeness).map (Likeness.enclosed strategy.makesObjects)) :
    (strategy.complete (.bean request.name) made filled).2.IsFaithful formulas initial ∧
      (strategy.complete (.bean request.name) made filled).1.map Bean.likeness =
        initial.expected formulas path request := by
  cases made with
  | error error =>
      refine ⟨?_, comes.symm⟩
      simp only [Strategy.complete]
      split <;> exact faithful
  | ok bean =>
      have faithfulNew :
          (filled.newBean strategy.makesObjects bean).2.IsFaithful formulas initial := by
        simp only [IsFaithful, kept?, newBean_kept]
        exact faithful
      have comesNew : initial.expected formulas path request =
          .ok (filled.newBean strategy.makesObjects bean).1.likeness := by
        rw [likeness_newBean]
        exact comes
      simp only [Strategy.complete]
      split
      · have kept := keep_agrees computes faithfulNew found same linked comesNew
        exact ⟨kept.1, kept.2.symm⟩
      · exact ⟨faithfulNew, comesNew.symm⟩

theorem expected_of_ready (computes : initial.Computes formulas)
    (faithful : entered.IsFaithful formulas initial)
    (found : initial.find? request.name = some strategy) (fresh : request.name ∉ path)
    (same : strategy.handover = request.handover)
    (linked : (path ++ [request.name]).IsChain formulas.plan.DependsOn) {bean : Bean}
    (ready : strategy.ready? (.bean request.name) entered = some bean) :
    initial.expected formulas path request = .ok bean.likeness := by
  cases strategy with
  | supplied type own =>
      cases ready
      rw [expected_of_found found, if_neg fresh, if_pos same]
      rfl
  | singleton type made | smartSingleton type made =>
      exact expected_of_kept computes faithful found same linked ready
  | factory type made | smartFactory type made => cases ready

/-- A request is answered as expected if the constructor that it sets going is. -/
theorem retrieve_agrees {build : Builder} (computes : initial.Computes formulas)
    (agrees : ∀ name, (path ++ [name]).IsChain formulas.plan.DependsOn →
      build.Agrees formulas initial thread (path ++ [name]) name) :
    (retrieve build).Agrees formulas initial thread path := by
  intro request registry outcome after remembers linked answered
  rw [retrieve_eq] at answered
  have foresees := foresees_prospect thread request registry
  generalize registry.prospect thread request = prospect at foresees answered
  have freshIn : ∀ {strategy entered}, Enters thread request registry strategy entered →
      request.name ∉ path ∧ initial.find? request.name = some strategy ∧
        entered.IsFaithful formulas initial := by
    intro strategy entered enters
    rw [← remembers.current, ← remembers.find?]
    refine ⟨enters.notMem, enters.found, ?_⟩
    rcases enters.enter with ⟨chains, _, rfl⟩
    exact remembers.faithful
  cases foresees with
  | unregistered missing =>
      cases answered
      rw [remembers.find?] at missing
      exact ⟨remembers.faithful, (expected_of_missing missing).symm⟩
  | refused found inFlight =>
      cases answered
      rw [remembers.find?] at found
      rcases Chains.enter_eq_error_iff.mp inFlight with ⟨name_mem, rfl⟩
      rw [remembers.current] at name_mem ⊢
      rw [expected_of_found found, if_pos name_mem]
      exact ⟨remembers.faithful, rfl⟩
  | mismatched enters different =>
      cases answered
      rcases freshIn enters with ⟨fresh, found, faithful⟩
      rw [expected_of_found found, if_neg fresh, if_neg different]
      exact ⟨faithful, rfl⟩
  | ready enters same ready =>
      cases answered
      rcases freshIn enters with ⟨fresh, found, faithful⟩
      exact ⟨faithful, (expected_of_ready computes faithful found fresh same linked ready).symm⟩
  | blocked enters notDue notReady => cases answered
  | @due strategy constructor entered enters same due =>
      rcases freshIn enters with ⟨fresh, found, faithful⟩
      rcases Option.map_eq_some_iff.mp answered with ⟨⟨made, filled⟩, built, completed⟩
      cases completed
      rcases Strategy.computes_of_due? (computes_of_find? computes found) due with
        ⟨unsupplied, follows⟩
      rcases agrees request.name linked (remembers.prepare enters) follows built with
        ⟨faithfulInside, combined⟩
      refine complete_agrees computes faithfulInside found same linked ?_
      rw [expected_of_found found, if_neg fresh, if_pos same, unsupplied, combined]

theorem builder_agrees {fetcher : Fetcher} {name : String}
    (agrees : fetcher.Agrees formulas initial thread (path ++ [name]))
    (keeps : fetcher.Keeps Stays) (linked : (path ++ [name]).IsChain formulas.plan.DependsOn) :
    (builder fetcher).Agrees formulas initial thread (path ++ [name]) name := by
  intro constructor registry made filled remembers follows built
  have counts := persists_stays.countRun (.bean name) constructor.listed registry
  exact run_agrees agrees keeps (follows _)
    (fun request request_mem => Plan.linked_concat linked request_mem)
    (remembers.of_stays counts remembers.faithful) built

theorem fetch_agrees (computes : initial.Computes formulas) (budget : Nat) :
    (fetch budget).Agrees formulas initial thread path := by
  induction budget generalizing path with
  | zero =>
      refine retrieve_agrees computes fun name _ => ?_
      intro constructor registry made filled _ _ built
      cases built
  | succ budget ih =>
      exact retrieve_agrees computes fun name linked =>
        builder_agrees ih (persists_stays.fetch budget) linked

end Answering

theorem AtRest.remembers {registry : Registry} (rest : registry.AtRest)
    (sameBeans : registry.beans = initial.beans)
    (faithful : registry.IsFaithful formulas initial) (thread : Thread) :
    registry.Remembers formulas thread [] initial :=
  ⟨sameBeans, rest.chains thread, faithful⟩

/-- What holds of every registry that requests lead to. -/
theorem Retrieved.faithful {registry : Registry} (retrieved : initial.Retrieved registry)
    (computes : initial.Computes formulas) (fresh : initial.Fresh) :
    registry.AtRest ∧ registry.beans = initial.beans ∧
      registry.IsFaithful formulas initial := by
  induction retrieved with
  | start =>
      refine ⟨fresh.atRest, rfl, ?_⟩
      intro name strategy bean _ kept
      simp [fresh.notKept] at kept
  | @get registry after thread request outcome _ answered ih =>
      rcases ih with ⟨rest, sameBeans, faithful⟩
      have stays := persists_stays.get answered
      have agrees := fetch_agrees computes registry.size
        (rest.remembers sameBeans faithful thread) (List.isChain_singleton _) answered
      exact ⟨stays.restores.atRest rest, stays.beans.trans sameBeans, agrees.1⟩

theorem Retrieved.get_expected {registry : Registry} (retrieved : initial.Retrieved registry)
    (computes : initial.Computes formulas) (fresh : initial.Fresh) (thread : Thread)
    (request : Request) :
    ∃ outcome after, registry.get thread request = some (outcome, after) ∧
      outcome.map Bean.likeness = initial.expected formulas [] request := by
  rcases retrieved.faithful computes fresh with ⟨rest, sameBeans, faithful⟩
  have stands : registry.Stands thread [] := by
    refine ⟨?_, rest.chains thread, List.nodup_nil, by simp [rest.locked]⟩
    rw [IsSequential, sameBeans]
    exact computes.isSequential
  rcases get_terminates stands with ⟨outcome, after, answered⟩
  exact ⟨outcome, after, answered, (fetch_agrees computes registry.size
    (rest.remembers sameBeans faithful thread) (List.isChain_singleton _) answered).2⟩

/--
Let constructors compute by formulas. Then a request comes to the same after any earlier requests:
to beans of the same content, with as many objects that lead to it, or to the same failure.
-/
theorem get_independent_of_history {left right : Registry} (computes : initial.Computes formulas)
    (fresh : initial.Fresh) (leftRetrieved : initial.Retrieved left)
    (rightRetrieved : initial.Retrieved right) (leftThread rightThread : Thread)
    (request : Request) :
    ∃ leftOutcome leftAfter rightOutcome rightAfter,
      left.get leftThread request = some (leftOutcome, leftAfter) ∧
        right.get rightThread request = some (rightOutcome, rightAfter) ∧
          leftOutcome.map Bean.likeness = rightOutcome.map Bean.likeness := by
  rcases leftRetrieved.get_expected computes fresh leftThread request with
    ⟨leftOutcome, leftAfter, leftAnswered, leftComes⟩
  rcases rightRetrieved.get_expected computes fresh rightThread request with
    ⟨rightOutcome, rightAfter, rightAnswered, rightComes⟩
  exact ⟨leftOutcome, leftAfter, rightOutcome, rightAfter, leftAnswered, rightAnswered,
    leftComes.trans rightComes.symm⟩

/-- The requests for a price, for a total that takes it twice, and for two beans in a circle. -/
def shopRequests (name : String) : List Request :=
  if name = "price" then []
  else if name = "total" then [⟨"price", ⟨.reference, .i32⟩⟩, ⟨"price", ⟨.reference, .i32⟩⟩]
  else if name = "left" then [⟨"right", ⟨.value, .i32⟩⟩]
  else [⟨"left", ⟨.reference, .i32⟩⟩]

def shopCombine (name : String) (contents : List Content) : Except BeanError Content :=
  if name = "price" then .ok (.integer 5)
  else if name = "total" then
    match contents with
    | [.integer first, .integer second] => .ok (.integer (first + second))
    | _ => .error (.construction "total" "no numbers")
  else .ok (contents.headD .unit)

def shopFormulas : Formulas := fun name => .ofContents (shopRequests name) (shopCombine name)

def shopConstructor (name : String) : Constructor where
  listed := true
  run _ := .computing (shopRequests name) (shopCombine name)

def shop : Registry where
  beans := [("price", .singleton .i32 (shopConstructor "price")),
    ("total", .factory .i32 (shopConstructor "total")),
    ("left", .singleton .i32 (shopConstructor "left")),
    ("right", .factory .i32 (shopConstructor "right"))]

theorem shop_computes : shop.Computes shopFormulas := by
  intro entry entry_mem
  have computes : ∀ name run, ((shopConstructor name).run run).Computes
      (shopFormulas name).requests (shopFormulas name).combine :=
    fun name _ => Procedure.computing_computes _ _
  simp only [shop, List.mem_cons, List.not_mem_nil, or_false] at entry_mem
  rcases entry_mem with rfl | rfl | rfl | rfl <;> exact computes _

theorem get_total_after_price :
    ∃ priced refusal cyclic outcome after plainOutcome plainAfter,
      shop.get 0 ⟨"price", ⟨.reference, .i32⟩⟩ = some (.ok ⟨.integer 5, [0]⟩, priced) ∧
      priced.get 0 ⟨"left", ⟨.reference, .i32⟩⟩ = some (refusal, cyclic) ∧
      cyclic.get 0 ⟨"total", ⟨.value, .i32⟩⟩ = some (outcome, after) ∧
      shop.get 0 ⟨"total", ⟨.value, .i32⟩⟩ = some (plainOutcome, plainAfter) ∧
      outcome.map Bean.likeness = plainOutcome.map Bean.likeness ∧
      plainOutcome.map Bean.likeness = .ok (.plain (.integer 10)) := by
  have fresh : shop.Fresh := ⟨⟨fun _ => rfl, rfl⟩, fun _ => rfl⟩
  have total : (shop.get 0 ⟨"total", ⟨.value, .i32⟩⟩).map (fun answer =>
      answer.1.map Bean.likeness) = some (.ok (.plain (.integer 10))) := by
    rfl
  obtain ⟨priced, price⟩ : ∃ priced, shop.get 0 ⟨"price", ⟨.reference, .i32⟩⟩ =
      some (.ok ⟨.integer 5, [0]⟩, priced) := ⟨_, rfl⟩
  have pricing : shop.Retrieved priced := .get .start price
  rcases pricing.get_expected shop_computes fresh 0 ⟨"left", ⟨.reference, .i32⟩⟩ with
    ⟨refusal, cyclic, refused, _⟩
  rcases get_independent_of_history shop_computes fresh (pricing.get refused) .start 0 0
    ⟨"total", ⟨.value, .i32⟩⟩ with
    ⟨outcome, after, plainOutcome, plainAfter, answered, plainAnswered, same⟩
  rw [plainAnswered, Option.map_some, Option.some.injEq] at total
  exact ⟨priced, refusal, cyclic, outcome, after, plainOutcome, plainAfter, price, refused,
    answered, plainAnswered, same, total⟩

end Registry

end BeanContainer
