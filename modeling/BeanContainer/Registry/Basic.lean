import BeanContainer.Event
import BeanContainer.Registry.Strategy
import BeanContainer.Registry.Chains
/-!
# Registries

A registry maps names to strategies, in the order of registration. Beside the strategies it keeps what
came of them so far: the beans that were made once for all, the runs of constructors, the chains of
names in flight, the objects allocated, and the events reported.
-/

namespace BeanContainer

/-- How often the constructor at a site has run. -/
structure Tally where
  site : Site
  listed : Bool
  runs : Nat
  deriving DecidableEq, Repr

/-- Named strategies and what came of them so far. -/
structure Registry where
  /-- Whether a request by reference may register a missing name. -/
  autoRegister : Bool := false
  beans : List (String × Strategy) := []
  /-- The beans that were made once for all requests. -/
  kept : List (Site × Bean) := []
  tallies : List Tally := []
  chains : Chains := {}
  /-- The sites whose only bean is under construction. -/
  locked : List Site := []
  /-- The number of objects allocated. -/
  objects : Nat := 0
  events : List Event := []

namespace Registry

/-- The strategy behind the name. -/
def find? (registry : Registry) (name : String) : Option Strategy :=
  registry.beans.lookup name

/-- Whether the name is registered. -/
def contains (registry : Registry) (name : String) : Bool :=
  (registry.find? name).isSome

/-- The names in the order of registration. -/
def names (registry : Registry) : List String :=
  registry.beans.map (·.1)

/-- The number of beans. -/
def size (registry : Registry) : Nat :=
  registry.beans.length

/-- The kind of strategy behind the name. -/
def kind? (registry : Registry) (name : String) : Option StrategyKind :=
  (registry.find? name).map (·.kind)

/-- What is handed out under the name. -/
def handover? (registry : Registry) (name : String) : Option Handover :=
  (registry.find? name).map (·.handover)

/-- Reports an event. -/
def report (event : Event) (registry : Registry) : Registry :=
  { registry with events := registry.events ++ [event] }

/-- A new object. -/
def allocate (registry : Registry) : ObjectId × Registry :=
  (registry.objects, { registry with objects := registry.objects + 1 })

/-- The bean as it is, or in a new object. -/
def newBean (isObject : Bool) (bean : Bean) (registry : Registry) : Bean × Registry :=
  if isObject then
    let (object, registry) := registry.allocate
    (bean.inside object, registry)
  else (bean, registry)

/-- The bean made once for all requests at the site. -/
def kept? (registry : Registry) (site : Site) : Option Bean :=
  registry.kept.lookup site

/-- Keeps the bean for all requests at the site. A bean that is kept already stays. -/
def keep (site : Site) (bean : Bean) (registry : Registry) : Bean × Registry :=
  match registry.kept? site with
  | some first => (first, registry)
  | none => (bean, { registry with kept := registry.kept ++ [(site, bean)] })

/-- Marks the only bean of the site as under construction. -/
def lock (site : Site) (registry : Registry) : Registry :=
  { registry with locked := site :: registry.locked }

/-- Removes the mark. -/
def unlock (site : Site) (registry : Registry) : Registry :=
  { registry with locked := registry.locked.erase site }

/-- How often the constructor at the site has run. -/
def runs (registry : Registry) (site : Site) : Nat :=
  ((registry.tallies.find? (·.site == site)).map (·.runs)).getD 0

/-- Counts a run of the constructor at the site and gives its number, from one on. -/
def countRun (site : Site) (listed : Bool) (registry : Registry) : Nat × Registry :=
  let run := registry.runs site + 1
  let others := registry.tallies.filter (·.site != site)
  (run, { registry with tallies := others ++ [⟨site, listed, run⟩] })

/-- Changes the content of the object, for all kept beans that lead to it. -/
def update (object : ObjectId) (change : Content → Content) (registry : Registry) : Registry :=
  let updated (entry : Site × Bean) : Site × Bean :=
    if entry.2.innermost == some object then
      (entry.1, { entry.2 with content := change entry.2.content })
    else entry
  { registry with kept := registry.kept.map updated }

/-- The table with the runs added to the entry of the label. -/
private def addCalls (label : String) (runs : Nat) :
    List (String × Nat) → List (String × Nat)
  | [] => [(label, runs)]
  | entry :: rest =>
    if entry.1 == label then (label, entry.2 + runs) :: rest else entry :: addCalls label runs rest

/-- How often the constructors behind each label have run, for those that are listed. -/
def calls (registry : Registry) : List (String × Nat) :=
  (registry.tallies.filter (·.listed)).foldl
    (fun table tally => addCalls tally.site.label tally.runs table) []

/-- What the registry tells about its beans. -/
def infos (registry : Registry) : List BeanInfo :=
  registry.beans.map fun entry => ⟨entry.1, entry.2.handover, entry.2.kind⟩

/-- What a procedure on the thread can see of the registry. -/
def view (registry : Registry) (thread : Thread) : View where
  autoRegister := registry.autoRegister
  beans := registry.infos
  chain := registry.chains.current thread
  calls := registry.calls

end Registry

end BeanContainer
