import BeanContainer.Registry.Description
import BeanContainer.Scenario.Log
import BeanContainer.Scenario.Result
/-!
# Scripts

A script is a list of steps that read a registry, or also change it. It becomes a procedure. The
steps are carried out in order; the first one refused ends the script, unless it is marked to catch
refusals. Bean constructors and hooks of configurations are scripts here.
-/

namespace BeanContainer.Scenario

/-- Where and for whom a step is carried out. -/
structure Setting where
  /-- How many threads deep. -/
  depth : Nat
  /-- The number of the run of the constructor; zero outside constructors. -/
  attempt : Nat
  /-- Whether objects are shown to the outside. -/
  isPublic : Bool
  /-- The configuration whose hook this is. -/
  owner : Option String

/-- One thread deeper. -/
def Setting.deeper (setting : Setting) : Setting :=
  { setting with depth := setting.depth + 1 }

/-- How the refusal of a step is treated: it may be wrapped under a name, and it may be caught. -/
structure Mode where
  wrap : Option String := none
  isCaught : Bool := false
  deriving DecidableEq, Repr

/-- The outcome of a step as the mode has it. Wrapping comes first. -/
def Mode.apply (mode : Mode) : Except Refusal Result → Except Refusal Result
  | .ok result => .ok result
  | .error refusal =>
    let refusal := match mode.wrap with
      | some name => refusal.wrap name
      | none => refusal
    if mode.isCaught then .ok (.caught refusal) else .error refusal

/-- A step that only reads. -/
inductive Query where
  | get (name : String) (handover : Handover)
  /-- Adds to a counter. -/
  | bump (name : String) (amount : Int)
  | contains (name : String)
  | kind (name : String)
  | type (name : String)
  | names
  | size
  | isEmpty
  | autoRegister
  | resolving
  | calls
  /-- Fails, or fails up to the given run of the constructor. -/
  | fail (name message : String) (until? : Option Int)
  /-- Fails as a hook of a configuration does. -/
  | failConfiguration (message : String)
  /-- Threads that ask for the same bean. -/
  | race (name : String) (handover : Handover) (threads : Nat)
  | describe (spread : Bool)
  /-- A step that cannot be carried out. -/
  | bad (fault : BadStep)
  deriving DecidableEq, Repr

/-- A list of steps, among them changes `ω`. -/
inductive Script (ω : Type) where
  | done
  | query (mode : Mode) (query : Query) (rest : Script ω)
  /-- Steps on another thread, which are all carried out, whether or not some are refused. -/
  | thread (mode : Mode) (body rest : Script ω)
  | write (mode : Mode) (change : ω) (rest : Script ω)

section Procedures

variable {ω : Type}

/-- Shows the object of a bean, if it is one and is to be shown. -/
def showBean (setting : Setting) (bean : Bean) : Procedure ω Result :=
  match setting.isPublic, bean.object with
  | true, some object =>
    (Mark.shown object).leave (.done (.bean bean.content (some object)))
  | _, _ => .done (.bean bean.content none)

/-- Asks for a bean. -/
def fetchBean (setting : Setting) (name : String) (handover : Handover) :
    Procedure ω (Except Refusal Result) :=
  .fetch setting.depth ⟨name, handover⟩ fun
    | .error error => .done (.error (.bean error))
    | .ok bean => (showBean setting bean).bind fun result => .done (.ok result)

/-- Asks for a counter and adds to it. -/
def bumpBean (setting : Setting) (name : String) (amount : Int) :
    Procedure ω (Except Refusal Result) :=
  .fetch setting.depth ⟨name, ⟨.reference, .counter⟩⟩ fun
    | .error error => .done (.error (.bean error))
    | .ok bean =>
      let after := numberOf (added amount bean.content)
      let finish : Procedure ω (Except Refusal Result) := .done (.ok (.number after))
      match bean.innermost with
      | some object => .update object (added amount) finish
      | none => finish

/-- Looks at the registry. -/
def lookAt (setting : Setting) (look : View → Except Refusal Result) :
    Procedure ω (Except Refusal Result) :=
  .observe setting.depth fun view => .done (look view)

/-- The information about the named bean. -/
def infoOf (view : View) (name : String) : Option BeanInfo :=
  view.beans.find? (·.name == name)

/-- Names in ascending order. -/
def sortNames (names : List String) : List String :=
  names.mergeSort fun left right => !decide (right < left)

/-- Asks for the same bean on as many new threads, one after the other. -/
def fetchOften (setting : Setting) (name : String) (handover : Handover) :
    Nat → Procedure ω (List (Except Refusal Result))
  | 0 => .done []
  | threads + 1 =>
    (fetchBean setting.deeper name handover).bind fun outcome =>
      (fetchOften setting name handover threads).bind fun outcomes => .done (outcome :: outcomes)

/--
Lets as many new threads ask for the same bean. Which of them comes first is nobody's business, so it
is marked where the race begins and where it ends.
-/
def race (setting : Setting) (name : String) (handover : Handover) (threads : Nat) :
    Procedure ω (Except Refusal Result) :=
  Mark.raceBegins.leave <| (fetchOften setting name handover threads).bind fun outcomes =>
    Mark.raceEnds.leave (.done (.ok (.race outcomes)))

/-- The step as a procedure. -/
def Query.procedure (setting : Setting) : Query → Procedure ω (Except Refusal Result)
  | get name handover => fetchBean setting name handover
  | bump name amount => bumpBean setting name amount
  | contains name => lookAt setting fun view => .ok (.flag (infoOf view name).isSome)
  | kind name => lookAt setting fun view => .ok (.text? ((infoOf view name).map (·.kind.name)))
  | type name =>
    lookAt setting fun view => .ok (.text? ((infoOf view name).map (·.handover.name)))
  | names => lookAt setting fun view => .ok (.texts "," (sortNames (view.beans.map (·.name))))
  | size => lookAt setting fun view => .ok (.number view.beans.length)
  | isEmpty => lookAt setting fun view => .ok (.flag view.beans.isEmpty)
  | autoRegister => lookAt setting fun view => .ok (.flag view.autoRegister)
  | resolving => lookAt setting fun view => .ok (.texts ">" view.chain)
  | calls => lookAt setting fun view => .ok (.calls view.calls)
  | fail name message until? =>
    if until?.all fun last => decide ((setting.attempt : Int) ≤ last) then
      .done (.error (.bean (.construction name message)))
    else .done (.ok .nothing)
  | failConfiguration message =>
    match setting.owner with
    | some owner => .done (.error (.configuration (.construction owner message)))
    | none => .done (.error (.badStep .unknown))
  | race name handover threads => Scenario.race setting name handover threads
  | describe spread =>
    lookAt setting fun view =>
      if 1 < view.beans.length then .error (.badStep .unordered)
      else .ok ⟨.text (view.layout.text spread), ⟨0, ""⟩⟩
  | bad fault => .done (.error (.badStep fault))

namespace Script

variable {χ : Type}

/-- All steps on a thread, each with its outcome. -/
def each (change : χ → Setting → Procedure ω (Except Refusal Result)) (setting : Setting) :
    Script χ → Procedure ω (List (Except Refusal Result))
  | done => .done []
  | query _ step rest =>
    (step.procedure setting).bind fun outcome =>
      (rest.each change setting).bind fun outcomes => .done (outcome :: outcomes)
  | thread _ body rest =>
    (body.each change setting.deeper).bind fun inner =>
      (rest.each change setting).bind fun outcomes => .done (.ok (.thread inner) :: outcomes)
  | write _ command rest =>
    (change command setting).bind fun outcome =>
      (rest.each change setting).bind fun outcomes => .done (outcome :: outcomes)

/-- Goes on after a step, unless it was refused. -/
private def continueWith (mode : Mode) (step : Procedure ω (Except Refusal Result))
    (rest : Procedure ω (Except Refusal (List Result))) :
    Procedure ω (Except Refusal (List Result)) :=
  step.bind fun outcome =>
    match mode.apply outcome with
    | .error refusal => .done (.error refusal)
    | .ok result => rest.bind fun outcomes => .done (outcomes.map (result :: ·))

/-- The script as a procedure, given the procedures of its changes. -/
def procedure (change : χ → Setting → Procedure ω (Except Refusal Result)) (setting : Setting) :
    Script χ → Procedure ω (Except Refusal (List Result))
  | done => .done (.ok [])
  | query mode step rest =>
    continueWith mode (step.procedure setting) (rest.procedure change setting)
  | thread mode body rest =>
    continueWith mode
      ((body.each change setting.deeper).bind fun inner => .done (.ok (.thread inner)))
      (rest.procedure change setting)
  | write mode command rest =>
    continueWith mode (change command setting) (rest.procedure change setting)

end Script

end Procedures

/-- A scripted bean constructor: a seed, and the steps whose results are the parts. -/
structure Recipe where
  seed : Seed
  uses : Script Empty

/-- The constructor of beans of the type. -/
def Recipe.constructor (recipe : Recipe) (type : BeanType) : Constructor where
  listed := true
  run attempt :=
    (recipe.uses.procedure nofun ⟨0, attempt, false, none⟩).bind fun
      | .error refusal => .done (.error refusal.toBeanError)
      | .ok results =>
        .make (contentOf type recipe.seed (results.map (·.part))) type fun bean => .done (.ok bean)

/-- What a strategy is made from. -/
structure Blueprint where
  kind : StrategyKind
  type : BeanType
  recipe : Option Recipe
  value : Seed

namespace Blueprint

/-- The constructor of the blueprint, the one that needs nothing if there is no recipe. -/
def constructor (blueprint : Blueprint) : Constructor :=
  match blueprint.recipe with
  | some recipe => recipe.constructor blueprint.type
  | none => .default blueprint.type

/-- The strategy of the blueprint; a supplied bean is made at once. -/
def strategy {ω : Type} (blueprint : Blueprint) : Procedure ω Strategy :=
  let type := blueprint.type
  match blueprint.kind with
  | .singleton => .done (.singleton type blueprint.constructor)
  | .factory => .done (.factory type blueprint.constructor)
  | .smartSingleton => .done (.smartSingleton type blueprint.constructor)
  | .smartFactory => .done (.smartFactory type blueprint.constructor)
  | .supplied =>
    .make (contentOf type blueprint.value []) type fun bean => .done (.supplied type bean)

end Blueprint

/-- A step that changes the registry. -/
inductive Command where
  | register (name : String) (blueprint : Blueprint)
  | registerDefault (name : String) (type : BeanType)
  | getOrRegister (name : String) (type : BeanType)

/-- Carries out the registration, and goes on unless it is refused. -/
def register (registration : Registration)
    (next : Procedure Registration (Except Refusal Result)) :
    Procedure Registration (Except Refusal Result) :=
  .write registration fun
    | .error error => .done (.error (.bean error))
    | .ok () => next

/-- The change as a procedure. -/
def Command.procedure (command : Command) (setting : Setting) :
    Procedure Registration (Except Refusal Result) :=
  match command with
  | register name blueprint => blueprint.strategy.bind fun
    | .supplied type bean => Scenario.register (.supply name type bean) (.done (.ok .nothing))
    | strategy => Scenario.register (.strategy name strategy) (.done (.ok .nothing))
  | registerDefault name type =>
    Scenario.register (.strategy name (.singleton type (.default type))) (.done (.ok .nothing))
  | getOrRegister name type =>
    Scenario.register (.ensure name type) (fetchBean setting name ⟨.reference, type⟩)

end BeanContainer.Scenario
