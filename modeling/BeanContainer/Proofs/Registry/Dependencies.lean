import BeanContainer.Proofs.Walks
import BeanContainer.Registry.Registration

/-!
# Dependencies between beans

Constructors that make the same requests each time they run give rise to a graph: a name depends on
the names that the constructor behind it requests. A bean can be made exactly if no cycle of this
graph is reachable from its name.
-/

namespace BeanContainer

/-- The requests that the constructor behind each name makes, in order. -/
abbrev Plan := String → List Request

namespace Plan

variable {plan : Plan} {name other : String}

/-- The constructor behind the name requests the other one. -/
def DependsOn (plan : Plan) (name other : String) : Prop :=
  ∃ request ∈ plan name, request.name = other

/-- Following dependencies from the name leads to some name that depends on itself. -/
def ReachesCycle (plan : Plan) (name : String) : Prop :=
  ∃ other, Relation.ReflTransGen plan.DependsOn name other ∧
    Relation.TransGen plan.DependsOn other other

/-- A cycle is reached by way of the first step, even if the name is on the cycle itself. -/
theorem reachesCycle_iff :
    plan.ReachesCycle name ↔ ∃ request ∈ plan name, plan.ReachesCycle request.name := by
  constructor
  · rintro ⟨other, walk, cycle⟩
    rcases Relation.ReflTransGen.cases_head walk with
      rfl | ⟨next, ⟨request, request_mem, rfl⟩, rest⟩
    · rcases Relation.TransGen.head'_iff.mp cycle with ⟨next, ⟨request, request_mem, rfl⟩, back⟩
      exact ⟨request, request_mem, name, back, cycle⟩
    · exact ⟨request, request_mem, other, rest, cycle⟩
  · rintro ⟨request, request_mem, other, walk, cycle⟩
    exact ⟨other, walk.head ⟨request, request_mem, rfl⟩, cycle⟩

/-- Follows dependencies, repeats no name before the last one, and comes back to an earlier name. -/
structure ClosesCycle (plan : Plan) (trace : List String) : Prop where
  linked : trace.IsChain plan.DependsOn
  distinct : trace.dropLast.Nodup
  closed : ∃ last ∈ trace.dropLast, trace.getLast? = some last

theorem closesCycle_of_mem {path : List String}
    (linked : (path ++ [name]).IsChain plan.DependsOn) (nodup : path.Nodup)
    (repeated : name ∈ path) : plan.ClosesCycle (path ++ [name]) where
  linked := linked
  distinct := by rwa [List.dropLast_concat]
  closed := ⟨name, by rwa [List.dropLast_concat], by simp⟩

theorem linked_concat {path : List String} {request : Request}
    (linked : (path ++ [name]).IsChain plan.DependsOn) (request_mem : request ∈ plan name) :
    (path ++ [name] ++ [request.name]).IsChain plan.DependsOn := by
  rw [List.append_assoc, List.singleton_append, List.isChain_append_cons_cons]
  exact ⟨linked, ⟨request, request_mem, rfl⟩, List.isChain_singleton _⟩

/-- A name that is met again on the path that led to it depends on itself. -/
theorem reachesCycle_of_mem {path : List String}
    (linked : (path ++ [name]).IsChain plan.DependsOn) (repeated : name ∈ path) :
    plan.ReachesCycle name :=
  ⟨name, .refl, transGen_self_of_chain linked repeated⟩

end Plan

/--
The constructor makes the requests one after the other. It passes on the first failure, and
otherwise ends in a bean, which may depend on the beans it got. It may make objects on the way.
-/
inductive Procedure.Requests :
    List Request → Procedure Empty (Except BeanError Bean) → Prop
  | done (bean : Bean) : Requests [] (.done (.ok bean))
  | fetch {request : Request} {rest : List Request}
      {next : Except BeanError Bean → Procedure Empty (Except BeanError Bean)}
      (passesOn : ∀ error, next (.error error) = .done (.error error))
      (goesOn : ∀ bean, Requests rest (next (.ok bean))) :
      Requests (request :: rest) (.fetch 0 request next)
  | allocate {requests : List Request}
      {next : ObjectId → Procedure Empty (Except BeanError Bean)}
      (goesOn : ∀ object, Requests requests (next object)) :
      Requests requests (.allocate next)

/-- Makes the requests and ends in an integer. -/
def Procedure.requesting : List Request → Procedure Empty (Except BeanError Bean)
  | [] => .done (.ok (.plain (.integer 0)))
  | request :: rest => .fetch 0 request fun
    | .error error => .done (.error error)
    | .ok _ => requesting rest

theorem Procedure.requesting_requests (requests : List Request) :
    (requesting requests).Requests requests := by
  induction requests with
  | nil => exact .done (.plain (.integer 0))
  | cons request rest ih => exact .fetch (fun _ => rfl) fun _ => ih

/-- The strategy makes these requests whenever it makes a bean; a supplied bean makes none. -/
def Strategy.Follows (requests : List Request) : Strategy → Prop
  | supplied _ _ => requests = []
  | singleton _ constructor | factory _ constructor | smartSingleton _ constructor
  | smartFactory _ constructor => ∀ run, (constructor.run run).Requests requests

/--
The strategies of the registry follow the plan, which requests registered beans only, each with the
type and the access under which it is registered.
-/
structure Registry.Follows (registry : Registry) (plan : Plan) : Prop where
  strategies : ∀ {name strategy}, registry.find? name = some strategy →
    strategy.Follows (plan name)
  requests : ∀ {name}, registry.contains name = true → ∀ request ∈ plan name,
    registry.handover? request.name = some request.handover

theorem Registry.Follows.of_beans_eq {plan : Plan} {registry after : Registry}
    (follows : registry.Follows plan) (same : after.beans = registry.beans) :
    after.Follows plan := by
  have sameFind : after.find? = registry.find? := by
    funext name
    rw [find?, find?, same]
  refine ⟨?_, ?_⟩
  · intro name strategy found
    rw [sameFind] at found
    exact follows.strategies found
  · intro name contained
    simp only [contains, handover?, sameFind] at contained ⊢
    exact follows.requests contained

end BeanContainer
