import BeanContainer.Context.Description
import BeanContainer.Scenario.Hook
/-!
# Sessions

A session carries out actions on a context, one after the other, and answers each. Beside the context
it holds strategies, providers and configurations on their own, each under a label. The outside knows
objects by numbers, in the order in which they were first shown.

An action that would never end is refused, and changes nothing.
-/

namespace BeanContainer.Scenario

/-- Values under labels. -/
abbrev Slots (α : Type) := List (String × α)

/-- The slots with the value under the label, whatever was there before. -/
def Slots.put {α : Type} (slots : Slots α) (label : String) (value : α) : Slots α :=
  slots.filter (·.1 != label) ++ [(label, value)]

/-- A context, and what is kept outside of it. -/
structure Session where
  /-- All configurations there are. -/
  all : List (Configuration Record) := []
  context : Context Record := {}
  strategies : Slots Strategy := []
  providers : Slots Strategy := []
  queued : Slots (Queued Record) := []
  built : Slots (Active Record) := []
  /-- The objects shown to the outside, in the order in which they were. -/
  shown : List ObjectId := []

/-- One action of a session. -/
inductive Action where
  | query (query : Query)
  | thread (body : Script Empty)
  | command (command : Command)
  | newStrategy (label : String) (blueprint : Blueprint)
  | newProvider (label : String) (blueprint : Blueprint)
  | produce (label : String)
  | describeStrategy (label : String) (spread : Bool)
  | describeProvider (label : String) (spread : Bool)
  /-- Asks a provider, if it hands out just what is wanted. -/
  | provide (label : String) (handover : Handover)
  /-- Queues a configuration and its dependencies. -/
  | add (id : ConfigurationId)
  | assemble
  /-- Starts a new context over the registry of the old one. -/
  | renew
  | find (id : ConfigurationId)
  | declaration (id : ConfigurationId)
  | describeContext (spread : Bool)
  | newQueued (label : String) (id : ConfigurationId)
  | satisfied (label : String)
  | satisfiedBy (label : String) (names : List String)
  | load (label : String)
  | build (label target : String)
  | binding (label resource : String)
  | describeQueued (label : String) (spread : Bool)
  | newBuilt (label : String) (id : ConfigurationId)
  | start (label : String)
  | describeBuilt (label : String) (id : ConfigurationId) (spread : Bool)

/-- What an action answers. -/
inductive Answer where
  | reply (reply : Reply)
  | record (record : Option Record)
  | declaration (name : String) (resources : List Resource) (beans : List BeanDeclaration)
  | satisfied (isSatisfied : Bool) (asked : List String)
  | strategy (kind : StrategyKind) (isMade : Option Bool) (description : String)
  | provider (info : BeanInfo) (description : String)
  | queued (name : String) (missing : List String) (beans : List BeanDeclaration)
      (description : String)
  | built (name : String) (beans : List BeanDeclaration) (record : Option Record)
      (description : String)

/-- Which configurations of a context are active and which wait. -/
structure Progress where
  active : List String
  waiting : List String
  isAssembled : Bool
  deriving DecidableEq, Repr

/-- An answered action. -/
structure Entry where
  outcome : Except Refusal Answer
  /-- The progress of the context, after an action that may change it. -/
  progress : Option Progress
  /-- The events during the action that are to be shown. -/
  events : List Event

mutual

/-- The reply with its objects under their numbers. -/
def Reply.renumber (number : ObjectId → Nat) : Reply → Reply
  | .bean content object => .bean content (object.map number)
  | .results outcomes => .results (Reply.renumberAll number outcomes)
  | other => other

def Reply.renumberAll (number : ObjectId → Nat) :
    List (Except Refusal Reply) → List (Except Refusal Reply)
  | [] => []
  | outcome :: rest => Reply.renumberOutcome number outcome :: Reply.renumberAll number rest

def Reply.renumberOutcome (number : ObjectId → Nat) :
    Except Refusal Reply → Except Refusal Reply
  | .error refusal => .error refusal
  | .ok reply => .ok (reply.renumber number)

end

/-- The record with all objects under their numbers. -/
def Record.renumber (number : ObjectId → Nat) (record : Record) : Record :=
  record.map fun entry => (entry.1, entry.2.map (·.renumber number))

/-- The answer with all objects under their numbers. -/
def Answer.renumber (number : ObjectId → Nat) : Answer → Answer
  | .reply held => .reply (held.renumber number)
  | .record found => .record (found.map (·.renumber number))
  | .built name beans found description =>
    .built name beans (found.map (·.renumber number)) description
  | other => other

namespace Answer

/-- Nothing to tell. -/
def nothing : Answer := .reply .nothing

/-- A truth value. -/
def flag (value : Bool) : Answer := .reply (.flag value)

end Answer

namespace Session

/-- What an action comes to, unless it never ends. -/
abbrev Outcome := Option (Except Refusal Answer × Session)

/-- Outside constructors and hooks, what is handed out is shown. -/
def setting : Setting where
  depth := 0
  attempt := 0
  isPublic := true
  owner := none

/-- The registry of the context. -/
def registry (session : Session) : Registry :=
  session.context.registry

/-- The session over another registry. -/
def withRegistry (session : Session) (registry : Registry) : Session :=
  { session with context := { session.context with registry } }

/-- Answers, with no more change. -/
def answer (session : Session) (answer : Answer) : Outcome :=
  some (.ok answer, session)

/-- Refuses, with no more change. -/
def refuse (session : Session) (fault : BadStep) : Outcome :=
  some (.error (.badStep fault), session)

/-- Goes on with what is under the label. -/
def withSlot {α : Type} (session : Session) (slots : Slots α) (label : String)
    (next : α → Outcome) : Outcome :=
  match slots.lookup label with
  | some value => next value
  | none => session.refuse .slot

/-- Goes on with the configuration of the given place. -/
def withConfiguration (session : Session) (id : ConfigurationId)
    (next : Configuration Record → Outcome) : Outcome :=
  match session.all[id]? with
  | some configuration => next configuration
  | none => session.refuse .configuration

/-- Runs a procedure on the registry. -/
def perform (session : Session) (procedure : Procedure Registration (Except Refusal Result)) :
    Outcome :=
  match procedure.perform session.registry with
  | none => none
  | some (outcome, registry) =>
    some (outcome.map fun result => .reply result.reply, session.withRegistry registry)

/-- Answers with a bean that was handed out. -/
def handOut (session : Session) : Option (Except BeanError Bean × Registry) → Outcome
  | none => none
  | some (.error error, registry) => some (.error (.bean error), session.withRegistry registry)
  | some (.ok bean, registry) => (session.withRegistry registry).perform
      ((showBean setting bean).bind fun result => .done (.ok result))

/-- Answers with nothing, or refuses for a failed configuration. -/
def conclude (outcome : Except ConfigurationError Unit) (session : Session) : Outcome :=
  match outcome with
  | .error error => some (.error (.configuration error), session)
  | .ok () => session.answer .nothing

/-- Makes a strategy under a free label. -/
def newStrategy (session : Session) (taken : Slots Strategy) (label : String)
    (blueprint : Blueprint) (put : Session → Strategy → Session) : Outcome :=
  match taken.lookup label with
  | some _ => session.refuse .slot
  | none =>
    match blueprint.strategy.read session.registry with
    | none => none
    | some (strategy, registry) => (put (session.withRegistry registry) strategy).answer .nothing

/-- What a provider on its own is, under the label in place of a name. -/
def infoOf (label : String) (strategy : Strategy) : BeanInfo :=
  ⟨label, strategy.handover, strategy.kind⟩

/-- Carries out an action. -/
def act (session : Session) : Action → Outcome
  | .query query => session.perform (query.procedure setting)
  | .thread body =>
    session.perform ((body.each nofun setting.deeper).bind fun inner => .done (.ok (.thread inner)))
  | .command command => session.perform (command.procedure setting)
  | .newStrategy label blueprint =>
    session.newStrategy session.strategies label blueprint fun session strategy =>
      { session with strategies := session.strategies.put label strategy }
  | .newProvider label blueprint =>
    session.newStrategy session.providers label blueprint fun session strategy =>
      { session with providers := session.providers.put label strategy }
  | .produce label =>
    session.withSlot session.strategies label fun strategy =>
      session.handOut (session.registry.produceAt (.strategy label) strategy)
  | .describeStrategy label spread =>
    session.withSlot session.strategies label fun strategy =>
      let site := .strategy label
      session.answer (.strategy strategy.kind (strategy.isMade? site session.registry)
        ((strategy.layout site session.registry).text spread))
  | .describeProvider label spread =>
    session.withSlot session.providers label fun strategy =>
      let info := infoOf label strategy
      session.answer (.provider info (info.layout.text spread))
  | .provide label handover =>
    session.withSlot session.providers label fun strategy =>
      if strategy.handover = handover then
        session.handOut (session.registry.produceAt (.provider label) strategy)
      else session.refuse .downcast
  | .add id =>
    session.withConfiguration id fun _ =>
      { session with context := session.context.queue session.all id }.answer .nothing
  | .assemble =>
    match session.context.assemble with
    | none => none
    | some (outcome, context) => { session with context }.conclude outcome
  | .renew =>
    { session with context := { registry := session.registry } }.answer .nothing
  | .find id =>
    session.withConfiguration id fun _ =>
      session.answer (.record ((session.context.active? id).map (·.state)))
  | .declaration id =>
    session.withConfiguration id fun configuration =>
      session.answer
        (.declaration configuration.name configuration.resources configuration.beans)
  | .describeContext spread =>
    if 1 < session.registry.size then session.refuse .unordered
    else session.answer (.reply (.text (session.context.layout.text spread)))
  | .newQueued label id =>
    session.withConfiguration id fun configuration =>
      let queued := session.queued.put label (.ofConfiguration id configuration)
      { session with queued }.answer .nothing
  | .satisfied label =>
    session.withSlot session.queued label fun queued =>
      let (isSatisfied, queued) := queued.prune session.registry.contains
      { session with queued := session.queued.put label queued }.answer (.flag isSatisfied)
  | .satisfiedBy label names =>
    session.withSlot session.queued label fun queued =>
      let ((isSatisfied, queued), asked) := (queued.pruneBy (noting names.contains)).run []
      { session with queued := session.queued.put label queued }.answer
        (.satisfied isSatisfied asked)
  | .load label =>
    session.withSlot session.queued label fun queued =>
      match session.context.load queued with
      | none => none
      | some (outcome, queued, context) =>
        let session := { session with context, queued := session.queued.put label queued }
        match outcome with
        | .error error => some (.error (.configuration error), session)
        | .ok isLoaded => session.answer (.flag isLoaded)
  | .build label target =>
    session.withSlot session.queued label fun queued =>
      match queued.build session.registry with
      | none => none
      | some (.error error, registry) =>
        some (.error (.configuration error), session.withRegistry registry)
      | some (.ok active, registry) =>
        { session.withRegistry registry with built := session.built.put target active }.answer
          .nothing
  | .binding label resource =>
    session.withSlot session.queued label fun queued =>
      session.answer (.reply (Result.text? (queued.configuration.binding? resource)).reply)
  | .describeQueued label spread =>
    session.withSlot session.queued label fun queued =>
      session.answer (.queued queued.configuration.name queued.missing queued.configuration.beans
        (queued.layout.text spread))
  | .newBuilt label id =>
    session.withConfiguration id fun configuration =>
      { session with built := session.built.put label ⟨id, configuration, []⟩ }.answer .nothing
  | .start label =>
    session.withSlot session.built label fun active =>
      match active.start session.registry with
      | none => none
      | some (outcome, active, registry) =>
        { session.withRegistry registry with built := session.built.put label active }.conclude
          outcome
  | .describeBuilt label id spread =>
    session.withSlot session.built label fun active =>
      session.withConfiguration id fun _ =>
        session.answer (.built active.configuration.name active.configuration.beans
          (if active.id = id then some active.state else none) (active.layout.text spread))

/-- Which configurations are active and which wait. -/
def progress (session : Session) : Progress where
  active := session.context.active.map (·.configuration.name)
  waiting := session.context.waiting.map (·.configuration.name)
  isAssembled := session.context.waiting.isEmpty

end Session

/-- Whether the action is one of those that move configurations on. -/
def Action.movesOn : Action → Bool
  | add _ | assemble | renew | load _ => true
  | _ => false

namespace Session

/-- The session that knows the objects to be shown. -/
def note (session : Session) (objects : List ObjectId) : Session :=
  { session with shown := (session.shown ++ objects).eraseDups }

/-- The number under which the outside knows the object. -/
def number (session : Session) (object : ObjectId) : Nat :=
  session.shown.idxOf object

/-- Carries out an action and shows its events up to the given level. -/
def step (shown : Option Level) (session : Session) (action : Action) : Entry × Session :=
  let silent := session.withRegistry { session.registry with events := [] }
  let (outcome, session) := match silent.act action with
    | some (outcome, session) => (outcome, session)
    | none => (.error (.badStep .endless), silent)
  let session := session.note (shownObjects session.registry.events)
  let outcome := outcome.map (·.renumber session.number)
  let events := match shown with
    | none => []
    | some level => log level session.registry.events
  let progress := if action.movesOn then some session.progress else none
  (⟨outcome, progress, events⟩, session)

/-- Carries out all actions in order. -/
def run (shown : Option Level) (session : Session) : List Action → List Entry
  | [] => []
  | action :: rest =>
    let (entry, session) := session.step shown action
    entry :: session.run shown rest

end Session

end BeanContainer.Scenario
