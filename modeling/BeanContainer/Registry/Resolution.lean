import BeanContainer.Registry.Basic
/-!
# Resolution

A request for a bean enters the name into the chain of the thread, checks type and access, asks the
strategy, and leaves the chain again however that ends. A constructor run by a strategy may make
further requests, each of which is resolved in the same way.

The answer is an option: there is none if the request would never be answered. That happens when a
constructor waits for a bean that its own run is building, which only a constructor that starts
threads can bring about, and when constructors are nested deeper than the budget. A chain holds each
name once, so a budget of the number of beans is enough for constructors that start no threads.
-/

namespace BeanContainer

/-- A way to answer requests for beans. -/
abbrev Fetcher := Thread → Request → Registry → Option (Except BeanError Bean × Registry)

/-- A way to run constructors. -/
abbrev Builder :=
  Thread → Site → Constructor → Registry → Option (Except BeanError Bean × Registry)

namespace Procedure

/-- Runs the procedure on a thread, given how requests are answered and effects take place. -/
def run {ω α : Type} (fetcher : Fetcher)
    (effect : ω → Registry → Except BeanError Unit × Registry) (thread : Thread) :
    Procedure ω α → Registry → Option (α × Registry)
  | done result, registry => some (result, registry)
  | fetch depth request next, registry =>
    match fetcher (thread + depth) request registry with
    | none => none
    | some (outcome, registry) => (next outcome).run fetcher effect thread registry
  | update object change next, registry =>
    next.run fetcher effect thread (registry.update object change)
  | observe depth next, registry =>
    (next (registry.view (thread + depth))).run fetcher effect thread registry
  | allocate next, registry =>
    let (object, registry) := registry.allocate
    (next object).run fetcher effect thread registry
  | report message fields next, registry =>
    next.run fetcher effect thread (registry.report (.user message fields))
  | write command next, registry =>
    let (outcome, registry) := effect command registry
    (next outcome).run fetcher effect thread registry

end Procedure

namespace Registry

/-- Runs constructors whose requests are answered by the fetcher. Each run is counted. -/
def builder (fetcher : Fetcher) : Builder := fun thread site constructor registry =>
  let (run, registry) := registry.countRun site constructor.listed
  (constructor.run run).run fetcher nofun thread registry

/-- Makes a bean, in an object of its own or as the constructor leaves it. -/
def makeNew (build : Builder) (thread : Thread) (site : Site) (constructor : Constructor)
    (isObject : Bool) (registry : Registry) : Option (Except BeanError Bean × Registry) :=
  match build thread site constructor registry with
  | none => none
  | some (.error error, registry) => some (.error error, registry)
  | some (.ok made, registry) =>
    let (bean, registry) := registry.newBean isObject made
    some (.ok bean, registry)

/--
Makes the bean of the site unless it is kept already. The site is locked meanwhile: whoever comes to
a locked site waits until it is unlocked, and so never gets an answer within the run that locked it.
A failed constructor leaves nothing behind.
-/
def makeOnce (build : Builder) (thread : Thread) (site : Site) (constructor : Constructor)
    (registry : Registry) : Option (Except BeanError Bean × Registry) :=
  match registry.kept? site with
  | some bean => some (.ok bean, registry)
  | none =>
    if registry.locked.contains site then none
    else
      match makeNew build thread site constructor true (registry.lock site) with
      | none => none
      | some (.error error, registry) => some (.error error, registry.unlock site)
      | some (.ok bean, registry) =>
        let (bean, registry) := registry.keep site bean
        some (.ok bean, registry.unlock site)

/-- What the strategy at the site hands out. -/
def produce (build : Builder) (thread : Thread) (site : Site) (strategy : Strategy)
    (registry : Registry) : Option (Except BeanError Bean × Registry) :=
  match strategy with
  | .supplied _ bean => some (.ok bean, registry)
  | .singleton _ constructor | .smartSingleton _ constructor =>
    makeOnce build thread site constructor registry
  | .factory _ constructor => makeNew build thread site constructor false registry
  | .smartFactory _ constructor => makeNew build thread site constructor true registry

/-- Leaves the name entered last on the thread. -/
def leave (thread : Thread) (registry : Registry) : Registry :=
  { registry with chains := registry.chains.leave thread }

/-- Answers a request, given how constructors are run. -/
def retrieve (build : Builder) : Fetcher := fun thread request registry =>
  match registry.find? request.name with
  | none => some (.error (.invalidName request.name .unregistered), registry)
  | some strategy =>
    match registry.chains.enter thread request.name with
    | .error trace => some (.error (.cycle trace), registry)
    | .ok chains =>
      let registry := { registry with chains }.report
        (.resolving request.name request.handover.access)
      if strategy.handover = request.handover then
        match produce build thread (.bean request.name) strategy registry with
        | none => none
        | some (outcome, registry) => some (outcome, registry.leave thread)
      else
        some (.error (.invalidType request.name request.handover strategy.handover),
          registry.leave thread)

/-- Answers a request with at most the given number of constructors nested in each other. -/
def fetch : Nat → Fetcher
  | 0 => retrieve fun _ _ _ _ => none
  | budget + 1 => retrieve (builder (fetch budget))

/-- Answers a request on the thread. -/
def get (thread : Thread) (request : Request) (registry : Registry) :
    Option (Except BeanError Bean × Registry) :=
  fetch registry.size thread request registry

/-- What a strategy on its own hands out, its constructor resolving against the registry. -/
def produceAt (site : Site) (strategy : Strategy) (registry : Registry) :
    Option (Except BeanError Bean × Registry) :=
  produce (builder (fetch registry.size)) 0 site strategy registry

end Registry

end BeanContainer
