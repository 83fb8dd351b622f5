import BeanContainer.Configuration.Basic
import BeanContainer.Context.Cycle
/-!
# Contexts

A context fills a registry from configurations. Configurations are queued together with their
dependencies. Assembly passes over the queue, loads each configuration whose resources are there, and
repeats until a pass loads none. What is left then waits for ever: either in a circle, or for beans
that nobody provides.
-/

namespace BeanContainer

/-- A registry and the configurations that fill it. -/
structure Context (σ : Type) where
  registry : Registry := {}
  waiting : List (Queued σ) := []
  active : List (Active σ) := []

/-- What queueing does with a configuration that it comes to. -/
inductive Visit where
  | queue (id : ConfigurationId)
  | skip (id : ConfigurationId)
  deriving DecidableEq, Repr

theorem length_filter_notMem_lt {places walk : List Nat} {place : Nat}
    (isPlace : place ∈ places) (notMem : place ∉ walk) :
    (places.filter fun other => decide (other ∉ walk ++ [place])).length <
      (places.filter fun other => decide (other ∉ walk)).length := by
  have refined : (places.filter fun other => decide (other ∉ walk ++ [place])) =
      (places.filter fun other => decide (other ∉ walk)).filter (· != place) := by
    rw [List.filter_filter]
    refine List.filter_congr fun other _ => ?_
    by_cases same : other = place <;> simp [same]
  rw [refined]
  exact List.length_filter_lt_length_iff_exists.mpr ⟨place, by simp [isPlace, notMem], by simp⟩

/--
Where queueing comes to from a configuration: to the configuration itself, then to its dependencies
in order, and so on. The walk holds the configurations being queued; one that is met again on it is
skipped.
-/
def visits {σ : Type} (all : List (Configuration σ)) (walk : List ConfigurationId)
    (id : ConfigurationId) : List Visit :=
  if _onWalk : id ∈ walk then [.skip id]
  else
    match _known : all[id]? with
    | none => []
    | some configuration =>
      .queue id :: configuration.dependencies.flatMap fun dependency =>
        visits all (walk ++ [id]) dependency
termination_by ((List.range all.length).filter fun place => decide (place ∉ walk)).length
decreasing_by
  have isPlace : id < all.length := (List.getElem?_eq_some_iff.mp _known).1
  exact length_filter_notMem_lt (List.mem_range.mpr isPlace) _onWalk

namespace Context

variable {σ : Type}

/-- Reports an event. -/
def report (event : Event) (context : Context σ) : Context σ :=
  { context with registry := context.registry.report event }

/-- Queues or skips a configuration. -/
def visit (all : List (Configuration σ)) (context : Context σ) (visit : Visit) : Context σ :=
  match visit with
  | .queue id =>
    match all[id]? with
    | none => context
    | some configuration =>
      { context with waiting := context.waiting ++ [Queued.ofConfiguration id configuration] }.report
        (.queued configuration.name)
  | .skip id =>
    match all[id]? with
    | none => context
    | some configuration => context.report (.skipped configuration.name)

/-- Queues a configuration and all that it depends on. -/
def queue (all : List (Configuration σ)) (id : ConfigurationId) (context : Context σ) :
    Context σ :=
  (visits all [] id).foldl (visit all) context

/--
Builds and initializes a queued configuration if its resources are there, and tells whether it did.
What the hooks of a configuration that fails did to the registry stays done.
-/
def load (queued : Queued σ) (context : Context σ) :
    Option (Except ConfigurationError Bool × Queued σ × Context σ) :=
  match queued.prune context.registry.contains with
  | (false, queued) => some (.ok false, queued, context)
  | (true, queued) =>
    match queued.build context.registry with
    | none => none
    | some (.error error, registry) => some (.error error, queued, { context with registry })
    | some (.ok active, registry) =>
      match active.start registry with
      | none => none
      | some (.error error, _, registry) => some (.error error, queued, { context with registry })
      | some (.ok (), active, registry) =>
        let registry := registry.report (.loaded active.configuration.name)
        some (.ok true, queued,
          { context with registry, active := context.active ++ [active] })

/--
Passes over the queue and tells whether anything was loaded. What was not loaded is put behind the
given configurations. A failure ends the pass; the configuration that failed and all behind it go on
waiting.
-/
def pass : List (Queued σ) → List (Queued σ) → Bool → Context σ →
    Option (Except ConfigurationError Bool × Context σ)
  | [], still, progressed, context => some (.ok progressed, { context with waiting := still })
  | queued :: rest, still, progressed, context =>
    match context.load queued with
    | none => none
    | some (.ok true, _, context) => pass rest still true context
    | some (.ok false, queued, context) => pass rest (still ++ [queued]) progressed context
    | some (.error error, queued, context) =>
      some (.error error, { context with waiting := still ++ queued :: rest })

/-- Passes over the queue until a pass loads nothing or the given number of further passes is made. -/
def passes : Nat → Context σ → Option (Except ConfigurationError Unit × Context σ)
  | more, context =>
    match pass context.waiting [] false context with
    | none => none
    | some (.error error, context) => some (.error error, context)
    | some (.ok false, context) => some (.ok (), context)
    | some (.ok true, context) =>
      match more with
      | 0 => some (.ok (), context)
      | more + 1 => passes more context

/-- What the search for cycles has to know of the waiting configurations. -/
def nodes (context : Context σ) : List Node :=
  context.waiting.map fun queued =>
    ⟨queued.configuration.name, queued.missing, queued.configuration.beans.map (·.name)⟩

/-- The waiting configurations and what they wait for. -/
def pending (context : Context σ) : List Pending :=
  context.waiting.map fun queued => ⟨queued.configuration.name, queued.missing⟩

/-- Explains what is left waiting; if nothing is, the assembly is complete. -/
def conclude (context : Context σ) : Except ConfigurationError Unit × Context σ :=
  if context.waiting.isEmpty then
    (.ok (), context.report (.assembled context.active.length))
  else
    match Node.cycleTrace? context.nodes with
    | some trace => (.error (.cycle trace), context)
    | none => (.error (.initialization context.pending), context)

/--
Loads every queued configuration. Each pass but the last loads one at least, so as many passes as
configurations are queued, and one more, are enough.
-/
def assemble (context : Context σ) : Option (Except ConfigurationError Unit × Context σ) :=
  match context.passes context.waiting.length with
  | none => none
  | some (.error error, context) => some (.error error, context)
  | some (.ok (), context) => some context.conclude

/-- The first active configuration from the given place. -/
def active? (context : Context σ) (id : ConfigurationId) : Option (Active σ) :=
  context.active.find? (·.id == id)

end Context

end BeanContainer
