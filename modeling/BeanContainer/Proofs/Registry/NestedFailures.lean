import BeanContainer.Proofs.Registry.Refusals
import BeanContainer.Scenario.Values
import Mathlib.Data.List.ReduceOption

/-!
# Failures of nested requests

A constructor whose request fails may hand the failure on as it is, or wrapped in a failure of its
own. The constructor around it may do the same, and so on outwards. Neither the registry nor a
strategy has a share in that: what the outermost request is answered with is the innermost failure
within the layers that the constructors put around it. What can be read off that failure is settled
by the layers and the innermost failure alone.
-/

namespace BeanContainer

namespace BeanError

/-- The failure as it is handed on: untouched, or wrapped by the constructor of the given name. -/
def inLayer (failure : BeanError) : Option String → BeanError
  | none => failure
  | some name => .wrapped name failure

/-- The failure handed on through all the layers, of which the outermost comes first. -/
def within (layers : List (Option String)) (cause : BeanError) : BeanError :=
  layers.foldr (fun layer failure => failure.inLayer layer) cause

/-- The words for the layers that wrap, from outside in. -/
def layerTexts (layers : List (Option String)) : List String :=
  layers.reduceOption.map fun name => "could not construct the bean \"" ++ name ++ "\""

variable {layers : List (Option String)} {cause : BeanError}

@[simp]
theorem within_nil (cause : BeanError) : cause.within [] = cause := rfl

theorem within_none_cons (layers : List (Option String)) (cause : BeanError) :
    cause.within (none :: layers) = cause.within layers := rfl

theorem within_some_cons (name : String) (layers : List (Option String)) (cause : BeanError) :
    cause.within (some name :: layers) = .wrapped name (cause.within layers) := rfl

theorem layerTexts_none_cons (layers : List (Option String)) :
    layerTexts (none :: layers) = layerTexts layers := by
  simp only [layerTexts, List.reduceOption_cons_of_none]

theorem message_wrapped (name : String) (failure : BeanError) :
    (wrapped name failure).message = "could not construct the bean \"" ++ name ++ "\"" := rfl

theorem layerTexts_some_cons (name : String) (layers : List (Option String)) :
    layerTexts (some name :: layers) =
      ("could not construct the bean \"" ++ name ++ "\"") :: layerTexts layers := by
  simp only [layerTexts, List.reduceOption_cons_of_some, List.map_cons]

/-- The texts of a failure are those of the layers that wrap, then those of the innermost failure. -/
theorem texts_within (layers : List (Option String)) (cause : BeanError) :
    (cause.within layers).message :: (cause.within layers).sources =
      layerTexts layers ++ cause.message :: cause.sources := by
  induction layers with
  | nil => simp [layerTexts]
  | cons layer layers ih =>
      cases layer with
      | none => rw [within_none_cons, layerTexts_none_cons, ih]
      | some name =>
          rw [within_some_cons, layerTexts_some_cons, message_wrapped, sources, ih, List.cons_append]

/-- A failure tells a cycle if it is one and no layer wraps it. -/
theorem cycleTrace?_within_eq_some_iff {trace : List String} :
    (cause.within layers).cycleTrace? = some trace ↔
      cause = .cycle trace ∧ layers.reduceOption = [] := by
  induction layers with
  | nil => cases cause <;> simp [cycleTrace?]
  | cons layer layers ih =>
      cases layer with
      | none => rw [within_none_cons, ih, List.reduceOption_cons_of_none]
      | some name => simp [within_some_cons, cycleTrace?]

end BeanError

namespace Procedure

section Steps

variable {ω α : Type} (fetcher : Fetcher) (effect : ω → Registry → Except BeanError Unit × Registry)
  (thread : Thread)

/-- Run on the registry, the procedure takes some steps after which another one is left to do. -/
inductive ComesTo : Procedure ω α → Registry → Procedure ω α → Registry → Prop
  | here (procedure : Procedure ω α) (registry : Registry) :
      ComesTo procedure registry procedure registry
  | fetch {depth : Nat} {request : Request} {next : Except BeanError Bean → Procedure ω α}
      {answer : Except BeanError Bean} {rest : Procedure ω α} {registry between reached : Registry}
      (answered : fetcher (thread + depth) request registry = some (answer, between))
      (goesOn : ComesTo (next answer) between rest reached) :
      ComesTo (.fetch depth request next) registry rest reached
  | update {object : ObjectId} {change : Content → Content} {next rest : Procedure ω α}
      {registry reached : Registry}
      (goesOn : ComesTo next (registry.update object change) rest reached) :
      ComesTo (.update object change next) registry rest reached
  | observe {depth : Nat} {next : View → Procedure ω α} {rest : Procedure ω α}
      {registry reached : Registry}
      (goesOn : ComesTo (next (registry.view (thread + depth))) registry rest reached) :
      ComesTo (.observe depth next) registry rest reached
  | allocate {next : ObjectId → Procedure ω α} {rest : Procedure ω α}
      {registry reached : Registry}
      (goesOn : ComesTo (next registry.allocate.1) registry.allocate.2 rest reached) :
      ComesTo (.allocate next) registry rest reached
  | report {message : String} {fields : List (String × Field)} {next rest : Procedure ω α}
      {registry reached : Registry}
      (goesOn : ComesTo next (registry.report (.user message fields)) rest reached) :
      ComesTo (.report message fields next) registry rest reached
  | write {command : ω} {next : Except BeanError Unit → Procedure ω α} {rest : Procedure ω α}
      {registry reached : Registry}
      (goesOn : ComesTo (next (effect command registry).1) (effect command registry).2 rest
        reached) :
      ComesTo (.write command next) registry rest reached

/--
Run on the registry, the procedure comes to make the request when the registry is as reached. If the
request then fails with the given failure, the procedure ends with the given result.
-/
def HandsOn (procedure : Procedure ω α) (registry : Registry) (depth : Nat) (request : Request)
    (reached : Registry) (failure : BeanError) (result : α) : Prop :=
  ∃ next, ComesTo fetcher effect thread procedure registry (.fetch depth request next) reached ∧
    ∀ after, fetcher (thread + depth) request reached = some (.error failure, after) →
      ∃ left, (next (.error failure)).run fetcher effect thread after = some (result, left)

end Steps

variable {ω α : Type} {fetcher : Fetcher}
  {effect : ω → Registry → Except BeanError Unit × Registry} {thread : Thread}

/-- A procedure has the outcome of what is left to do. -/
theorem ComesTo.run_eq {procedure rest : Procedure ω α} {registry reached : Registry}
    (comes : ComesTo fetcher effect thread procedure registry rest reached) :
    procedure.run fetcher effect thread registry = rest.run fetcher effect thread reached := by
  induction comes with
  | here procedure registry => rfl
  | fetch answered _ ih => rw [run, answered, ← ih]
  | update _ ih | observe _ ih | report _ ih => rw [run, ih]
  | allocate _ ih | write _ ih => rw [← ih]; rfl

theorem HandsOn.run {procedure : Procedure ω α} {registry reached after : Registry} {depth : Nat}
    {request : Request} {failure : BeanError} {result : α}
    (hands : procedure.HandsOn fetcher effect thread registry depth request reached failure result)
    (fails : fetcher (thread + depth) request reached = some (.error failure, after)) :
    ∃ left, procedure.run fetcher effect thread registry = some (result, left) := by
  rcases hands with ⟨next, comes, goesOn⟩
  rcases goesOn after fails with ⟨left, ends⟩
  exact ⟨left, by rw [comes.run_eq, Procedure.run, fails, ← ends]⟩

end Procedure

/-- The constructor that makes its bean of another one, and hands on the failure to get that. -/
def Constructor.relaying (request : Request) (layer : Option String) : Constructor where
  listed := true
  run _ := .fetch 0 request fun
    | .ok bean => .done (.ok (.plain bean.content))
    | .error failure => .done (.error (failure.inLayer layer))

theorem Constructor.handsOn_relaying (request : Request) (layer : Option String) (run : Nat)
    (fetcher : Fetcher) (thread : Thread) (registry : Registry) (failure : BeanError) :
    ((relaying request layer).run run).HandsOn fetcher nofun thread registry 0 request registry
      failure (.error (failure.inLayer layer)) :=
  ⟨_, .here _ _, fun after _ => ⟨after, rfl⟩⟩

namespace Registry

/--
The request fails because of a cause that lies as deep as there are layers: it is refused, or it runs
a constructor which raises the cause, or it runs a constructor that makes another request which fails
because of the cause, and hands that failure on within one layer more.
-/
inductive FailsThrough : Nat → Thread → Request → Registry → List (Option String) → BeanError → Prop
  | refused {budget : Nat} {thread : Thread} {request : Request} {registry : Registry}
      {cause : BeanError} (refuses : Refuses thread request registry cause) :
      FailsThrough budget thread request registry [] cause
  | raised {budget : Nat} {thread : Thread} {request : Request} {strategy : Strategy}
      {constructor : Constructor} {registry entered left : Registry} {cause : BeanError}
      (due : registry.prospect thread request = .due strategy constructor entered)
      (raises : builder (fetch budget) thread (.bean request.name) constructor
        (strategy.prepare (.bean request.name) entered) = some (.error cause, left)) :
      FailsThrough (budget + 1) thread request registry [] cause
  | nested {budget run depth : Nat} {thread : Thread} {request inner : Request}
      {strategy : Strategy} {constructor : Constructor}
      {registry entered counted reached : Registry} {layer : Option String}
      {layers : List (Option String)} {cause : BeanError}
      (due : registry.prospect thread request = .due strategy constructor entered)
      (counts : (strategy.prepare (.bean request.name) entered).countRun (.bean request.name)
        constructor.listed = (run, counted))
      (hands : (constructor.run run).HandsOn (fetch budget) nofun thread counted depth inner reached
        (cause.within layers) (.error ((cause.within layers).inLayer layer)))
      (fails : FailsThrough budget (thread + depth) inner reached layers cause) :
      FailsThrough (budget + 1) thread request registry (layer :: layers) cause

theorem builder_of_counts {fetcher : Fetcher} {thread : Thread} {site : Site}
    {constructor : Constructor} {registry counted : Registry} {run : Nat}
    (counts : registry.countRun site constructor.listed = (run, counted)) :
    builder fetcher thread site constructor registry =
      (constructor.run run).run fetcher nofun thread counted := by
  rcases Prod.ext_iff.mp counts with ⟨rfl, rfl⟩
  rfl

/-- What a constructor fails with is the answer, whatever the strategy. -/
theorem fetch_of_raised {budget : Nat} {thread : Thread} {request : Request} {strategy : Strategy}
    {constructor : Constructor} {registry entered left : Registry} {error : BeanError}
    (due : registry.prospect thread request = .due strategy constructor entered)
    (raises : builder (fetch budget) thread (.bean request.name) constructor
      (strategy.prepare (.bean request.name) entered) = some (.error error, left)) :
    ∃ after, fetch (budget + 1) thread request registry = some (.error error, after) := by
  rw [fetch, retrieve_eq, due]
  simp [raises, Strategy.complete]

/-- A failed request is answered with its cause within the layers of the constructors. -/
theorem FailsThrough.fetch {budget : Nat} {thread : Thread} {request : Request}
    {registry : Registry} {layers : List (Option String)} {cause : BeanError}
    (fails : FailsThrough budget thread request registry layers cause) :
    ∃ after, Registry.fetch budget thread request registry =
      some (.error (cause.within layers), after) := by
  induction fails with
  | refused refuses =>
      rcases refuses.fetch _ with ⟨after, _, answered, _⟩
      exact ⟨after, answered⟩
  | raised due raises => exact fetch_of_raised due raises
  | nested due counts hands _ ih =>
      rcases ih with ⟨after, answered⟩
      rcases hands.run answered with ⟨left, raises⟩
      exact fetch_of_raised due ((builder_of_counts counts).trans raises)

/-- What keeps an address from being found, with the causes below. -/
def unreachable : Failure where
  message := "no route"
  sources := ["link is down", "cable is cut"]

/-- Four beans, each made of the next one, and the last one cannot be made. -/
def brittle : Registry where
  beans := [
    ("app", .factory .unit (.relaying ⟨"repository", ⟨.value, .shared .unit⟩⟩ (some "app"))),
    ("repository", .smartSingleton .unit (.relaying ⟨"pool", ⟨.reference, .unit⟩⟩ none)),
    ("pool", .singleton .unit (.relaying ⟨"address", ⟨.value, .string⟩⟩ (some "pool"))),
    ("address", .factory .string ⟨true, fun _ =>
      .done (.error (.construction "address" unreachable))⟩)]

theorem brittle_failsThrough :
    brittle.FailsThrough 4 0 ⟨"app", ⟨.value, .unit⟩⟩ [some "app", none, some "pool"]
      (.construction "address" unreachable) := by
  refine .nested rfl rfl (Constructor.handsOn_relaying _ _ _ _ _ _ _) ?_
  refine .nested rfl rfl (Constructor.handsOn_relaying _ _ _ _ _ _ _) ?_
  refine .nested rfl rfl (Constructor.handsOn_relaying _ _ _ _ _ _ _) ?_
  exact .raised rfl rfl

end Registry

end BeanContainer
