import BeanContainer.Proofs.Registry.Dependencies
import BeanContainer.Proofs.Registry.Growth
import BeanContainer.Scenario.Values

/-!
# Detection of dependency cycles

A request is answered by running constructors on the way down and remembering some of the beans on
the way up. The chain of names in flight is a path of dependencies, so a name that is met again on
it closes a cycle. Conversely a bean is only made, and so only remembered, when no cycle is
reachable from its name: this is what allows a remembered bean to cut the search short.
-/

namespace BeanContainer

/-- The beans made once for all requests have names from which no cycle is reachable. -/
def Registry.KeepsAcyclic (plan : Plan) (registry : Registry) : Prop :=
  ∀ {name bean}, registry.kept? (.bean name) = some bean → ¬plan.ReachesCycle name

/-- What evaluation does to a registry: beans may be made, with names that reach no cycle. -/
structure Registry.Continues (plan : Plan) (before after : Registry) : Prop where
  beans : after.beans = before.beans
  restores : before.Restores after
  keepsAcyclic : before.KeepsAcyclic plan → after.KeepsAcyclic plan

/--
The names on the path are in flight on the thread, each depending on the next one. The registry has
room for so many names at most.
-/
structure Registry.OnPath (plan : Plan) (thread : Thread) (room : Nat) (path : List String)
    (registry : Registry) : Prop where
  follows : registry.Follows plan
  keepsAcyclic : registry.KeepsAcyclic plan
  current : registry.chains.current thread = path
  locked : ∀ {name}, .bean name ∈ registry.locked → name ∈ path
  registered : ∀ name ∈ path, registry.contains name = true
  nodup : path.Nodup
  fits : registry.size ≤ room

/--
The outcome tells correctly whether a cycle is reachable, and if so, it traces one that the path
leads to.
-/
inductive Answers {α : Type} (plan : Plan) (path : List String) (cyclic : Prop) :
    Except BeanError α → Prop
  | ok {value : α} (acyclic : ¬cyclic) : Answers plan path cyclic (.ok value)
  | cycle {trace : List String} (isCyclic : cyclic) (closes : plan.ClosesCycle trace)
      (begins : path <+: trace) : Answers plan path cyclic (.error (.cycle trace))

/-- Whoever follows the path further gets correct answers. -/
def Fetcher.Detects (plan : Plan) (thread : Thread) (room : Nat) (path : List String)
    (fetcher : Fetcher) : Prop :=
  ∀ ⦃request registry⦄, registry.OnPath plan thread room path →
    (path ++ [request.name]).IsChain plan.DependsOn →
      registry.handover? request.name = some request.handover →
        ∃ outcome after, fetcher thread request registry = some (outcome, after) ∧
          registry.Continues plan after ∧
            Answers plan (path ++ [request.name]) (plan.ReachesCycle request.name) outcome

/-- Constructors that follow the plan for the last name on the path get correct answers. -/
def Builder.Detects (plan : Plan) (thread : Thread) (room : Nat) (path : List String)
    (name : String) (build : Builder) : Prop :=
  ∀ ⦃constructor registry⦄, registry.OnPath plan thread room path →
    (∀ run, (constructor.run run).Requests (plan name)) →
      ∃ outcome after, build thread (.bean name) constructor registry = some (outcome, after) ∧
        registry.Continues plan after ∧ Answers plan path (plan.ReachesCycle name) outcome

variable {plan : Plan} {thread : Thread} {room : Nat} {path : List String} {name : String}

theorem Answers.imp {α : Type} {cyclic other : Prop} {path longer : List String}
    {outcome : Except BeanError α} (answers : Answers plan longer cyclic outcome)
    (same : cyclic ↔ other) (begins : path <+: longer) : Answers plan path other outcome := by
  cases answers with
  | ok acyclic => exact .ok (mt same.mpr acyclic)
  | cycle isCyclic closes longerBegins =>
      exact .cycle (same.mp isCyclic) closes (begins.trans longerBegins)

namespace Registry

theorem Continues.refl (registry : Registry) : registry.Continues plan registry :=
  ⟨rfl, Restores.refl registry, id⟩

theorem Continues.trans {first second third : Registry} (left : first.Continues plan second)
    (right : second.Continues plan third) : first.Continues plan third where
  beans := right.beans.trans left.beans
  restores := left.restores.trans right.restores
  keepsAcyclic := right.keepsAcyclic ∘ left.keepsAcyclic

theorem newBean_continues (isObject : Bool) (bean : Bean) (registry : Registry) :
    registry.Continues plan (registry.newBean isObject bean).2 where
  beans := newBean_beans isObject bean registry
  restores := persists_restores.newBean isObject bean registry
  keepsAcyclic keepsAcyclic := by
    cases isObject with
    | true => exact keepsAcyclic
    | false => exact keepsAcyclic

/-- A bean may be kept once it is known that its name reaches no cycle. -/
theorem keep_continues (acyclic : ¬plan.ReachesCycle name) (bean : Bean) (registry : Registry) :
    registry.Continues plan (registry.keep (.bean name) bean).2 where
  beans := keep_beans (.bean name) bean registry
  restores := keep_restores (.bean name) bean registry
  keepsAcyclic keepsAcyclic := by
    intro other found kept
    rcases kept?_keep kept with before | ⟨rfl, _⟩
    · exact keepsAcyclic before
    · exact acyclic

theorem unlock_continues {site : Site} {registry after : Registry}
    (continues : (registry.lock site).Continues plan after) :
    registry.Continues plan (after.unlock site) where
  beans := continues.beans
  restores := restores_unlock continues.restores
  keepsAcyclic := continues.keepsAcyclic

theorem OnPath.of_continues {registry after : Registry}
    (onPath : registry.OnPath plan thread room path) (continues : registry.Continues plan after) :
    after.OnPath plan thread room path where
  follows := onPath.follows.of_beans_eq continues.beans
  keepsAcyclic := continues.keepsAcyclic onPath.keepsAcyclic
  current := (continues.restores.chains thread).trans onPath.current
  locked locked := onPath.locked (by rwa [continues.restores.locked] at locked)
  registered other other_mem := by
    rw [contains_congr continues.beans]
    exact onPath.registered other other_mem
  nodup := onPath.nodup
  fits := by
    rw [size, continues.beans]
    exact onPath.fits

theorem OnPath.length_lt {registry : Registry} (onPath : registry.OnPath plan thread room path)
    (registered : registry.contains name = true) (fresh : name ∉ path) : path.length < room :=
  Nat.lt_of_lt_of_le (length_lt_size onPath.nodup onPath.registered registered fresh) onPath.fits

/-- Requests made one after the other detect a cycle if any of them does. -/
theorem run_answers {fetcher : Fetcher} (detects : fetcher.Detects plan thread room path)
    {requests : List Request} {procedure : Procedure Empty (Except BeanError Bean)}
    (follows : procedure.Requests requests) {registry : Registry}
    (onPath : registry.OnPath plan thread room path)
    (linked : ∀ request ∈ requests, (path ++ [request.name]).IsChain plan.DependsOn)
    (handover : ∀ request ∈ requests, registry.handover? request.name = some request.handover) :
    ∃ outcome after, procedure.run fetcher nofun thread registry = some (outcome, after) ∧
      registry.Continues plan after ∧
        Answers plan path (∃ request ∈ requests, plan.ReachesCycle request.name) outcome := by
  induction follows generalizing registry with
  | done bean => exact ⟨_, registry, rfl, .refl registry, .ok (by simp)⟩
  | @fetch request rest next passesOn goesOn ih =>
      rw [List.forall_mem_cons] at linked handover
      rcases detects onPath linked.1 handover.1 with
        ⟨outcome, fetched, answered, continues, answers⟩
      cases answers with
      | @ok bean acyclic =>
          have handoverStill : ∀ request ∈ rest,
              fetched.handover? request.name = some request.handover := by
            intro other other_mem
            rw [handover?, find?, continues.beans]
            exact handover.2 other other_mem
          rcases ih bean (onPath.of_continues continues) linked.2 handoverStill with
            ⟨outcome, after, ran, continuesOn, answers⟩
          refine ⟨outcome, after, by simpa [Procedure.run, answered] using ran,
            continues.trans continuesOn, answers.imp ?_ List.prefix_rfl⟩
          simp [acyclic]
      | @cycle trace isCyclic closes begins =>
          -- The failure is passed on as it is, and so is the trace.
          refine ⟨.error (.cycle trace), fetched,
            by simp [Procedure.run, answered, passesOn], continues, .cycle ?_ closes ?_⟩
          · exact ⟨request, List.mem_cons_self, isCyclic⟩
          · exact (List.prefix_append path [request.name]).trans begins
  | allocate goesOn ih =>
      have allocated : registry.Continues plan registry.allocate.2 :=
        ⟨rfl, ⟨rfl, fun _ => rfl, rfl⟩, id⟩
      rcases ih registry.objects (onPath.of_continues allocated) linked handover with
        ⟨outcome, after, ran, continues, answers⟩
      exact ⟨outcome, after, ran, allocated.trans continues, answers⟩

theorem builder_detects {fetcher : Fetcher}
    (detects : fetcher.Detects plan thread room (path ++ [name]))
    (linked : (path ++ [name]).IsChain plan.DependsOn) :
    (builder fetcher).Detects plan thread room (path ++ [name]) name := by
  intro constructor registry onPath follows
  have counted : registry.Continues plan
      (registry.countRun (.bean name) constructor.listed).2 :=
    ⟨rfl, ⟨rfl, fun _ => rfl, rfl⟩, id⟩
  have registered : registry.contains name = true := onPath.registered name (by simp)
  have linkedOn : ∀ request ∈ plan name,
      (path ++ [name] ++ [request.name]).IsChain plan.DependsOn :=
    fun _ request_mem => Plan.linked_concat linked request_mem
  rcases run_answers detects
    (follows (registry.countRun (.bean name) constructor.listed).1)
    (onPath.of_continues counted) linkedOn (onPath.follows.requests registered) with
    ⟨outcome, after, ran, continues, answers⟩
  exact ⟨outcome, after, ran, counted.trans continues,
    answers.imp Plan.reachesCycle_iff.symm List.prefix_rfl⟩

/-- A name that is entered comes to the end of the path. -/
theorem OnPath.enter {registry : Registry} {chains : Chains}
    (onPath : registry.OnPath plan thread room path)
    (entered : registry.chains.enter thread name = .ok chains)
    (registered : registry.contains name = true) (event : Event) :
    ({ registry with chains }.report event).OnPath plan thread room (path ++ [name]) := by
  rcases Chains.enter_eq_ok_iff.mp entered with ⟨fresh, put⟩
  rw [onPath.current] at fresh put
  exact {
    follows := onPath.follows.of_beans_eq rfl
    keepsAcyclic := onPath.keepsAcyclic
    current := by
      change chains.current thread = path ++ [name]
      simp [← put]
    locked := fun locked => List.mem_append_left _ (onPath.locked locked)
    registered := by
      intro other other_mem
      rcases List.mem_append.mp other_mem with other_mem | other_mem
      · exact onPath.registered other other_mem
      · rwa [List.mem_singleton.mp other_mem]
    nodup := by simpa using List.Nodup.concat fresh onPath.nodup
    fits := onPath.fits }

section Making

variable {build : Builder} {constructor : Constructor} {registry : Registry}

theorem makeNew_answers (detects : build.Detects plan thread room path name)
    (onPath : registry.OnPath plan thread room path)
    (follows : ∀ run, (constructor.run run).Requests (plan name)) (isObject : Bool) :
    ∃ outcome after,
      makeNew build thread (.bean name) constructor isObject registry = some (outcome, after) ∧
        registry.Continues plan after ∧ Answers plan path (plan.ReachesCycle name) outcome := by
  rcases detects onPath follows with ⟨outcome, built, ran, continues, answers⟩
  cases answers with
  | @ok bean acyclic =>
      refine ⟨.ok (built.newBean isObject bean).1, (built.newBean isObject bean).2, ?_,
        continues.trans (newBean_continues isObject bean built), .ok acyclic⟩
      simp [makeNew, ran]
  | @cycle trace isCyclic closes begins =>
      refine ⟨.error (.cycle trace), built, ?_, continues, .cycle isCyclic closes begins⟩
      simp [makeNew, ran]

/-- A bean that is kept already needs no search, since it was made without meeting a cycle. -/
theorem makeOnce_answers (detects : build.Detects plan thread room path name)
    (onPath : registry.OnPath plan thread room path) (name_mem : name ∈ path)
    (unlocked : .bean name ∉ registry.locked)
    (follows : ∀ run, (constructor.run run).Requests (plan name)) :
    ∃ outcome after,
      makeOnce build thread (.bean name) constructor registry = some (outcome, after) ∧
        registry.Continues plan after ∧ Answers plan path (plan.ReachesCycle name) outcome := by
  cases kept : registry.kept? (.bean name) with
  | some bean =>
      exact ⟨.ok bean, registry, by simp [makeOnce, kept], .refl registry,
        .ok (onPath.keepsAcyclic kept)⟩
  | none =>
      have onPathLocked : (registry.lock (.bean name)).OnPath plan thread room path :=
        { onPath with
          follows := onPath.follows.of_beans_eq rfl
          locked := by
            intro other locked
            rcases List.mem_cons.mp locked with same | before
            · rwa [Site.bean.inj same]
            · exact onPath.locked before }
      rcases makeNew_answers detects onPathLocked follows true with
        ⟨outcome, filled, made, continues, answers⟩
      cases answers with
      | @ok bean acyclic =>
          refine ⟨.ok (filled.keep (.bean name) bean).1,
            (filled.keep (.bean name) bean).2.unlock (.bean name), ?_,
            unlock_continues (continues.trans (keep_continues acyclic bean filled)), .ok acyclic⟩
          simp [makeOnce, kept, unlocked, made]
      | @cycle trace isCyclic closes begins =>
          refine ⟨.error (.cycle trace), filled.unlock (.bean name), ?_,
            unlock_continues continues, .cycle isCyclic closes begins⟩
          simp [makeOnce, kept, unlocked, made]

theorem produce_answers (detects : build.Detects plan thread room path name)
    (onPath : registry.OnPath plan thread room path) (name_mem : name ∈ path)
    (unlocked : .bean name ∉ registry.locked) {strategy : Strategy}
    (follows : strategy.Follows (plan name)) :
    ∃ outcome after,
      produce build thread (.bean name) strategy registry = some (outcome, after) ∧
        registry.Continues plan after ∧ Answers plan path (plan.ReachesCycle name) outcome := by
  cases strategy with
  | supplied type bean =>
      have noRequests : plan name = [] := follows
      refine ⟨.ok bean, registry, rfl, .refl registry, .ok ?_⟩
      rw [Plan.reachesCycle_iff, noRequests]
      simp
  | singleton type constructor | smartSingleton type constructor =>
      exact makeOnce_answers detects onPath name_mem unlocked follows
  | factory type constructor => exact makeNew_answers detects onPath follows false
  | smartFactory type constructor => exact makeNew_answers detects onPath follows true

end Making

/-- A request is refused if its name is in flight, and otherwise it is as good as the builder. -/
theorem retrieve_detects {build : Builder}
    (detects : ∀ name, path.length < room → (path ++ [name]).IsChain plan.DependsOn →
      build.Detects plan thread room (path ++ [name]) name) :
    (retrieve build).Detects plan thread room path := by
  intro request registry onPath linked handover
  rcases Option.map_eq_some_iff.mp handover with ⟨strategy, found, sameHandover⟩
  have registered : registry.contains request.name = true := by
    rw [contains_eq_find?, found, Option.isSome_some]
  by_cases inFlight : request.name ∈ path
  · have refused : registry.chains.enter thread request.name =
        .error (path ++ [request.name]) := by
      rw [Chains.enter_eq_error_iff, onPath.current]
      exact ⟨inFlight, rfl⟩
    exact ⟨_, registry, by simp [retrieve, found, refused], .refl registry,
      .cycle (Plan.reachesCycle_of_mem linked inFlight)
        (Plan.closesCycle_of_mem linked onPath.nodup inFlight) List.prefix_rfl⟩
  · obtain ⟨chains, entered⟩ :
        ∃ chains, registry.chains.enter thread request.name = .ok chains := by
      refine ⟨_, Chains.enter_eq_ok_iff.mpr ⟨?_, rfl⟩⟩
      rwa [onPath.current]
    have onPathInside := onPath.enter entered registered
      (.resolving request.name request.handover.access)
    have unlocked : .bean request.name ∉ registry.locked := fun locked =>
      inFlight (onPath.locked locked)
    rcases produce_answers (detects request.name (onPath.length_lt registered inFlight) linked)
      onPathInside (by simp) unlocked (onPath.follows.strategies found) with
      ⟨outcome, after, produced, continues, answers⟩
    refine ⟨outcome, after.leave thread, ?_, ?_, answers⟩
    · simp [retrieve, found, entered, sameHandover, produced]
    · exact ⟨continues.beans, restores_leave entered continues.restores, continues.keepsAcyclic⟩

/-- With one constructor more in the budget than there is room on the path, cycles are detected. -/
theorem fetch_detects {budget : Nat} (enough : room ≤ budget + path.length) :
    (fetch budget).Detects plan thread room path := by
  induction budget generalizing path with
  | zero =>
      -- There is no room for another name, so no constructor has to run.
      refine retrieve_detects fun name shorter _ => ?_
      omega
  | succ budget ih =>
      refine retrieve_detects fun name _ linked => ?_
      refine builder_detects (ih ?_) linked
      rw [List.length_append, List.length_singleton]
      omega

/-- Nothing was made yet, and nothing is in flight. -/
structure Fresh (registry : Registry) : Prop where
  atRest : registry.AtRest
  notKept : ∀ name, registry.kept? (.bean name) = none

/-- The registry comes from the initial one by requests that were answered, one after the other. -/
inductive Retrieved (initial : Registry) : Registry → Prop
  | start : Retrieved initial initial
  | get {registry after : Registry} {thread : Thread} {request : Request}
      {outcome : Except BeanError Bean} (retrieved : Retrieved initial registry)
      (answered : registry.get thread request = some (outcome, after)) : Retrieved initial after

theorem AtRest.onPath {registry : Registry} (rest : registry.AtRest)
    (follows : registry.Follows plan) (keepsAcyclic : registry.KeepsAcyclic plan)
    (thread : Thread) : registry.OnPath plan thread registry.size [] where
  follows := follows
  keepsAcyclic := keepsAcyclic
  current := rest.chains thread
  locked := by simp [rest.locked]
  registered := by simp
  nodup := List.nodup_nil
  fits := Nat.le_refl _

theorem get_answers {registry : Registry} {request : Request} (rest : registry.AtRest)
    (follows : registry.Follows plan) (keepsAcyclic : registry.KeepsAcyclic plan)
    (registered : registry.handover? request.name = some request.handover) :
    ∃ outcome after, registry.get thread request = some (outcome, after) ∧
      registry.Continues plan after ∧
        Answers plan [request.name] (plan.ReachesCycle request.name) outcome :=
  fetch_detects (Nat.le_refl registry.size) (rest.onPath follows keepsAcyclic thread)
    (List.isChain_singleton _) registered

/-- A request for what is not registered does not come to a strategy. -/
theorem retrieve_continues_of_mismatch {build : Builder} {registry after : Registry}
    {request : Request} {outcome : Except BeanError Bean}
    (mismatch : registry.handover? request.name ≠ some request.handover)
    (answered : retrieve build thread request registry = some (outcome, after)) :
    registry.Continues plan after := by
  unfold retrieve at answered
  split at answered
  · cases answered
    exact .refl registry
  · next strategy found =>
      have different : strategy.handover ≠ request.handover := by
        simpa [handover?, found] using mismatch
      split at answered
      · cases answered
        exact .refl registry
      · next chains entered =>
          simp only [different, if_false, Option.some.injEq, Prod.mk.injEq] at answered
          rw [← answered.2]
          exact ⟨rfl, restores_leave entered (Restores.refl _), id⟩

theorem get_continues {registry after : Registry} {request : Request}
    {outcome : Except BeanError Bean} (rest : registry.AtRest) (follows : registry.Follows plan)
    (keepsAcyclic : registry.KeepsAcyclic plan)
    (answered : registry.get thread request = some (outcome, after)) :
    registry.Continues plan after := by
  by_cases registered : registry.handover? request.name = some request.handover
  · rcases get_answers rest follows keepsAcyclic registered with ⟨_, _, same, continues, _⟩
    rw [same, Option.some.injEq, Prod.mk.injEq] at answered
    rwa [answered.2] at continues
  · unfold get at answered
    cases size : registry.size with
    | zero =>
        rw [size] at answered
        exact retrieve_continues_of_mismatch registered answered
    | succ budget =>
        rw [size] at answered
        exact retrieve_continues_of_mismatch registered answered

/-- What holds of every registry that requests lead to. -/
theorem Retrieved.invariant {initial registry : Registry} (retrieved : initial.Retrieved registry)
    (follows : initial.Follows plan) (fresh : initial.Fresh) :
    registry.AtRest ∧ registry.beans = initial.beans ∧ registry.KeepsAcyclic plan := by
  induction retrieved with
  | start =>
      refine ⟨fresh.atRest, rfl, ?_⟩
      intro name bean kept
      simp [fresh.notKept] at kept
  | get _ answered ih =>
      rcases ih with ⟨rest, same, keepsAcyclic⟩
      have continues := get_continues rest (follows.of_beans_eq same) keepsAcyclic answered
      exact ⟨continues.restores.atRest rest, continues.beans.trans same,
        continues.keepsAcyclic keepsAcyclic⟩

/--
Let constructors make fixed lists of requests for what is registered. Whatever was requested before,
a request for a registered bean is then answered, namely with the bean if no cycle of dependencies
is reachable from its name, and otherwise with a cycle: a trace that starts with the name, follows
dependencies, and ends with the first name that comes up a second time.
-/
theorem get_detects_cycles {initial registry : Registry} (follows : initial.Follows plan)
    (fresh : initial.Fresh) (retrieved : initial.Retrieved registry) (thread : Thread)
    (request : Request) (registered : registry.handover? request.name = some request.handover) :
    ∃ outcome after, registry.get thread request = some (outcome, after) ∧
      ((∃ bean, outcome = .ok bean) ↔ ¬plan.ReachesCycle request.name) ∧
      (plan.ReachesCycle request.name →
        ∃ trace, outcome = .error (.cycle trace) ∧ trace.head? = some request.name ∧
          trace.IsChain plan.DependsOn ∧ trace.dropLast.Nodup ∧
            ∃ last ∈ trace.dropLast, trace.getLast? = some last) := by
  rcases retrieved.invariant follows fresh with ⟨rest, same, keepsAcyclic⟩
  rcases get_answers rest (follows.of_beans_eq same) keepsAcyclic registered with
    ⟨outcome, after, answered, _, answers⟩
  refine ⟨outcome, after, answered, ?_⟩
  cases answers with
  | ok acyclic => exact ⟨by simp [acyclic], fun isCyclic => absurd isCyclic acyclic⟩
  | @cycle trace isCyclic closes begins =>
      refine ⟨by simp [isCyclic], fun _ => ⟨trace, rfl, ?_, closes.linked, closes.distinct,
        closes.closed⟩⟩
      rcases begins with ⟨rest, rfl⟩
      simp

/-- A singleton and a factory that request each other. -/
def circular : Registry where
  beans := [("left", .singleton .i32 ⟨false, fun _ => .requesting [⟨"right", ⟨.value, .i32⟩⟩]⟩),
    ("right", .factory .i32 ⟨false, fun _ => .requesting [⟨"left", ⟨.reference, .i32⟩⟩]⟩)]

/-- What the beans that request each other request. -/
def circularPlan : Plan := fun name =>
  if name = "left" then [⟨"right", ⟨.value, .i32⟩⟩]
  else if name = "right" then [⟨"left", ⟨.reference, .i32⟩⟩]
  else []

theorem circular_follows : circular.Follows circularPlan where
  strategies {name strategy} found := by
    by_cases left : name = "left"
    · subst left
      cases found
      exact fun _ => Procedure.requesting_requests _
    · by_cases right : name = "right"
      · subst right
        cases found
        exact fun _ => Procedure.requesting_requests _
      · have notLeft : (name == "left") = false := by simpa using left
        have notRight : (name == "right") = false := by simpa using right
        simp [find?, circular, List.lookup_cons, notLeft, notRight] at found
  requests {name} _ := by
    unfold circularPlan
    split
    · simp [handover?, find?, circular, List.lookup_cons, Strategy.handover]
    · split
      · simp [handover?, find?, circular, List.lookup_cons, Strategy.handover]
      · simp

theorem get_detects_circular :
    ∃ trace after,
      circular.get 0 ⟨"left", ⟨.reference, .i32⟩⟩ = some (.error (.cycle trace), after) ∧
        trace.head? = some "left" := by
  have fresh : circular.Fresh := ⟨⟨fun _ => rfl, rfl⟩, fun _ => rfl⟩
  have there : circularPlan.DependsOn "left" "right" := ⟨_, List.mem_cons_self, rfl⟩
  have back : circularPlan.DependsOn "right" "left" := ⟨_, List.mem_cons_self, rfl⟩
  have cyclic : circularPlan.ReachesCycle "left" := ⟨"left", .refl, .tail (.single there) back⟩
  rcases get_detects_cycles circular_follows fresh .start 0 ⟨"left", ⟨.reference, .i32⟩⟩ rfl with
    ⟨_, after, answered, _, detected⟩
  rcases detected cyclic with ⟨trace, rfl, starts, _⟩
  exact ⟨trace, after, answered, starts⟩

end Registry

end BeanContainer
