import BeanContainer.Proofs.Registry.Dependencies
import BeanContainer.Proofs.Registry.Termination
import Mathlib.Data.Finset.SDiff
import Mathlib.Data.Finset.Card

/-!
# What requests are expected to come to

A constructor that makes the same requests in each run and combines what it gets, whichever objects
that is, is described by a formula. The formulas of all constructors tell what a request comes to without a
registry in which anything is kept: one follows them downwards and writes down the names on the way.
A failure may depend on these names, since a cycle is told by them. A success does not: it shows
that no cycle is reachable, and so the same bean is expected wherever the request comes from.
-/

namespace BeanContainer

/-- What a bean is apart from its identity: what it holds, and how many objects lead to that. -/
structure Likeness where
  content : Content
  depth : Nat
  deriving DecidableEq, Repr

/-- The likeness of a bean that no object leads to. -/
def Likeness.plain (content : Content) : Likeness :=
  ⟨content, 0⟩

/-- The likeness of the bean in an object around it, if it is put into one. -/
def Likeness.enclosed (isObject : Bool) (likeness : Likeness) : Likeness :=
  if isObject then { likeness with depth := likeness.depth + 1 } else likeness

/-- The likeness of the bean. -/
def Bean.likeness (bean : Bean) : Likeness :=
  ⟨bean.content, bean.objects.length⟩

theorem Registry.likeness_newBean (isObject : Bool) (bean : Bean) (registry : Registry) :
    (registry.newBean isObject bean).1.likeness = bean.likeness.enclosed isObject := by
  cases isObject <;> rfl

/-- The bean that the caller supplied, if the strategy hands out one. -/
def Strategy.supplied? : Strategy → Option Bean
  | supplied _ bean => some bean
  | _ => none

/-- The requests that a constructor makes in order, and what it makes of the beans it gets. -/
structure Formula where
  requests : List Request
  combine : List Likeness → Except BeanError Likeness

/-- The formula of a constructor that looks at contents only and makes beans that are no objects. -/
def Formula.ofContents (requests : List Request)
    (combine : List Content → Except BeanError Content) : Formula where
  requests := requests
  combine parts := (combine (parts.map Likeness.content)).map .plain

/-- The formulas of the constructors behind each name. -/
abbrev Formulas := String → Formula

/-- The requests of the formulas. -/
def Formulas.plan (formulas : Formulas) : Plan := fun name => (formulas name).requests

/--
The constructor makes the requests one after the other. It passes on the first failure, and
otherwise ends in a bean that is like what the formula combines the beans it got to. It may make
objects on the way.
-/
inductive Procedure.Computes : List Request → (List Likeness → Except BeanError Likeness) →
    Procedure Empty (Except BeanError Bean) → Prop
  | done {combine : List Likeness → Except BeanError Likeness} {result : Except BeanError Bean}
      (combined : result.map Bean.likeness = combine []) :
      Computes [] combine (.done result)
  | fetch {request : Request} {rest : List Request}
      {combine : List Likeness → Except BeanError Likeness}
      {next : Except BeanError Bean → Procedure Empty (Except BeanError Bean)}
      (passesOn : ∀ error, next (.error error) = .done (.error error))
      (goesOn : ∀ bean, Computes rest (fun parts => combine (bean.likeness :: parts))
        (next (.ok bean))) :
      Computes (request :: rest) combine (.fetch 0 request next)
  | allocate {requests : List Request} {combine : List Likeness → Except BeanError Likeness}
      {next : ObjectId → Procedure Empty (Except BeanError Bean)}
      (goesOn : ∀ object, Computes requests combine (next object)) :
      Computes requests combine (.allocate next)

/-- Makes the requests and combines the contents. -/
def Procedure.computing : List Request → (List Content → Except BeanError Content) →
    Procedure Empty (Except BeanError Bean)
  | [], combine => .done ((combine []).map .plain)
  | request :: rest, combine => .fetch 0 request fun
    | .error error => .done (.error error)
    | .ok bean => computing rest fun contents => combine (bean.content :: contents)

theorem Procedure.computing_computes (requests : List Request)
    (combine : List Content → Except BeanError Content) :
    (computing requests combine).Computes requests (Formula.ofContents requests combine).combine := by
  induction requests generalizing combine with
  | nil =>
      refine .done ?_
      simp only [Formula.ofContents, List.map_nil]
      cases combine [] <;> rfl
  | cons request rest ih =>
      exact .fetch (fun _ => rfl) fun bean => ih fun contents => combine (bean.content :: contents)

/-- The strategy makes each bean by the formula; for a supplied bean nothing is requested. -/
def Strategy.Computes (formula : Formula) : Strategy → Prop
  | supplied _ _ => formula.requests = []
  | singleton _ constructor | factory _ constructor | smartSingleton _ constructor
  | smartFactory _ constructor =>
    ∀ run, (constructor.run run).Computes formula.requests formula.combine

/-- Each strategy of the registry makes beans by the formula of its name. -/
def Registry.Computes (formulas : Formulas) (registry : Registry) : Prop :=
  ∀ entry ∈ registry.beans, entry.2.Computes (formulas entry.1)

theorem Procedure.Computes.isSequential {requests : List Request}
    {combine : List Likeness → Except BeanError Likeness}
    {procedure : Procedure Empty (Except BeanError Bean)}
    (computes : procedure.Computes requests combine) : procedure.IsSequential nofun := by
  induction computes with
  | done combined => trivial
  | allocate goesOn ih => exact ih
  | fetch passesOn goesOn ih =>
      refine ⟨rfl, ?_⟩
      rintro (error | bean)
      · rw [passesOn]
        trivial
      · exact ih bean

theorem Registry.Computes.isSequential {formulas : Formulas} {registry : Registry}
    (computes : registry.Computes formulas) : registry.IsSequential := by
  intro entry entry_mem
  have computed := computes entry entry_mem
  cases made : entry.2 with
  | supplied type bean => trivial
  | singleton type constructor | factory type constructor | smartSingleton type constructor
  | smartFactory type constructor =>
      rw [made] at computed
      exact fun run => (computed run).isSequential

/-- The constructor that a request sets going follows the formula of the strategy. -/
theorem Strategy.computes_of_due? {formula : Formula} {strategy : Strategy}
    (computes : strategy.Computes formula) {site : Site} {registry : Registry}
    {constructor : Constructor} (due : strategy.due? site registry = some constructor) :
    strategy.supplied? = none ∧
      ∀ run, (constructor.run run).Computes formula.requests formula.combine := by
  cases strategy with
  | supplied type bean => cases due
  | factory type made | smartFactory type made =>
      cases due
      exact ⟨rfl, computes⟩
  | singleton type made | smartSingleton type made =>
      simp only [due?, Option.ite_none_left_eq_some, Option.some.injEq] at due
      rw [← due.2]
      exact ⟨rfl, computes⟩

/-- What the answers to the requests combine to, or the first failure. -/
def Request.combineAll (answer : Request → Except BeanError Likeness) :
    List Request → (List Likeness → Except BeanError Likeness) → Except BeanError Likeness
  | [], combine => combine []
  | request :: rest, combine =>
    match answer request with
    | .error error => .error error
    | .ok part => combineAll answer rest fun parts => combine (part :: parts)

theorem enclosed_of_map {made : Except BeanError Likeness} {isObject : Bool} {likeness : Likeness}
    (comes : made.map (Likeness.enclosed isObject) = .ok likeness) :
    ∃ inner, made = .ok inner ∧ inner.enclosed isObject = likeness := by
  cases made with
  | error error => cases comes
  | ok inner => exact ⟨inner, rfl, Except.ok.inj comes⟩

theorem Request.forall_ok_of_combineAll {answer : Request → Except BeanError Likeness}
    {requests : List Request} {combine : List Likeness → Except BeanError Likeness}
    {likeness : Likeness} (combined : combineAll answer requests combine = .ok likeness) :
    ∀ request ∈ requests, ∃ part, answer request = .ok part := by
  induction requests generalizing combine with
  | nil => simp
  | cons first rest ih =>
      rw [combineAll] at combined
      split at combined
      · cases combined
      · next answered => exact List.forall_mem_cons.mpr ⟨⟨_, answered⟩, ih combined⟩

/-- Beans that come out elsewhere as they did combine to the same likeness. -/
theorem Request.combineAll_of_agree {answer other : Request → Except BeanError Likeness}
    {requests : List Request} {combine : List Likeness → Except BeanError Likeness}
    {likeness : Likeness}
    (agree : ∀ request ∈ requests, ∀ part,
      answer request = .ok part → other request = .ok part)
    (combined : combineAll answer requests combine = .ok likeness) :
    combineAll other requests combine = .ok likeness := by
  induction requests generalizing combine with
  | nil => exact combined
  | cons first rest ih =>
      rw [List.forall_mem_cons] at agree
      rw [combineAll] at combined ⊢
      split at combined
      · cases combined
      · next answered =>
          rw [agree.1 _ answered]
          exact ih agree.2 combined

namespace Registry

/-- What a request comes to by the formulas, if the names on the path are being resolved. -/
def expected (formulas : Formulas) (registry : Registry) (path : List String)
    (request : Request) : Except BeanError Likeness :=
  match _found : registry.find? request.name with
  | none => .error (.invalidName request.name .unregistered)
  | some strategy =>
    if _inFlight : request.name ∈ path then .error (.cycle (path ++ [request.name]))
    else if strategy.handover = request.handover then
      match strategy.supplied? with
      | some bean => .ok bean.likeness
      | none =>
        (Request.combineAll (fun part => expected formulas registry (path ++ [request.name]) part)
          (formulas request.name).requests (formulas request.name).combine).map
            (Likeness.enclosed strategy.makesObjects)
    else .error (.invalidType request.name request.handover strategy.handover)
termination_by (registry.names.toFinset \ path.toFinset).card
decreasing_by
  have registered : request.name ∈ registry.names :=
    List.mem_map_of_mem (mem_beans_of_find? _found)
  refine Finset.card_lt_card (Finset.ssubset_iff_of_subset ?_ |>.mpr ⟨request.name, ?_, ?_⟩)
  · intro name
    simp +contextual
  · simp [registered, _inFlight]
  · simp

variable {formulas : Formulas} {registry : Registry} {path : List String} {request : Request}
  {strategy : Strategy}

theorem expected_of_missing (missing : registry.find? request.name = none) :
    registry.expected formulas path request =
      .error (.invalidName request.name .unregistered) := by
  rw [expected]
  split
  · rfl
  · next found => simp [missing] at found

theorem expected_of_found (found : registry.find? request.name = some strategy) :
    registry.expected formulas path request =
      if request.name ∈ path then .error (.cycle (path ++ [request.name]))
      else if strategy.handover = request.handover then
        match strategy.supplied? with
        | some bean => .ok bean.likeness
        | none =>
          (Request.combineAll (registry.expected formulas (path ++ [request.name]))
            (formulas request.name).requests (formulas request.name).combine).map
              (Likeness.enclosed strategy.makesObjects)
      else .error (.invalidType request.name request.handover strategy.handover) := by
  rw [expected]
  split
  · next missing => simp [found] at missing
  · next other foundOther =>
      cases found.symm.trans foundOther
      rfl

theorem computes_of_find? (computes : registry.Computes formulas) {name : String}
    (found : registry.find? name = some strategy) : strategy.Computes (formulas name) :=
  computes (name, strategy) (mem_beans_of_find? found)

/-- A bean is only expected if following dependencies from its name comes to an end. -/
theorem acc_of_expected (computes : registry.Computes formulas) {likeness : Likeness}
    (comes : registry.expected formulas path request = .ok likeness) :
    Acc (fun next start => formulas.plan.DependsOn start next) request.name := by
  fun_induction expected formulas registry path request generalizing likeness with
  | case1 | case2 | case5 => cases comes
  | case3 path request strategy found fresh same bean supplied =>
      have noRequests : (formulas request.name).requests = [] := by
        have computed := computes_of_find? computes found
        cases strategy with
        | supplied type own => exact computed
        | _ => cases supplied
      refine Acc.intro _ ?_
      rintro next ⟨part, part_mem, rfl⟩
      rw [Formulas.plan, noRequests] at part_mem
      cases part_mem
  | case4 path request strategy found fresh same unsupplied ih =>
      rcases enclosed_of_map comes with ⟨inner, combined, _⟩
      refine Acc.intro _ ?_
      rintro next ⟨part, part_mem, rfl⟩
      rcases Request.forall_ok_of_combineAll combined part part_mem with ⟨_, comesThere⟩
      exact ih part comesThere

/-- What is expected does not depend on the path of dependencies on which the request is made. -/
theorem expected_of_linked (computes : registry.Computes formulas) {likeness : Likeness}
    (comes : registry.expected formulas path request = .ok likeness) {other : List String}
    (linked : (other ++ [request.name]).IsChain formulas.plan.DependsOn) :
    registry.expected formulas other request = .ok likeness := by
  have acc := acc_of_expected computes comes
  fun_induction expected formulas registry path request generalizing likeness other with
  | case1 | case2 | case5 => cases comes
  | case3 path request strategy found fresh same bean supplied =>
      have freshThere : request.name ∉ other := fun repeated =>
        not_transGen_self_of_acc acc (transGen_self_of_chain linked repeated)
      rw [expected_of_found found, if_neg freshThere, if_pos same, supplied]
      exact comes
  | case4 path request strategy found fresh same unsupplied ih =>
      have freshThere : request.name ∉ other := fun repeated =>
        not_transGen_self_of_acc acc (transGen_self_of_chain linked repeated)
      rw [expected_of_found found, if_neg freshThere, if_pos same, unsupplied]
      rcases enclosed_of_map comes with ⟨inner, combined, rfl⟩
      have combinedThere : Request.combineAll
          (registry.expected formulas (other ++ [request.name])) (formulas request.name).requests
            (formulas request.name).combine = .ok inner := by
        refine Request.combineAll_of_agree ?_ combined
        intro part part_mem partLikeness comesThere
        exact ih part comesThere (Plan.linked_concat linked part_mem)
          (acc.inv ⟨part, part_mem, rfl⟩)
      rw [combinedThere]
      rfl

end Registry

end BeanContainer
