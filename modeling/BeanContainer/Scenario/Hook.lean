import BeanContainer.Configuration.Basic
import BeanContainer.Scenario.Script
/-!
# Scripted configurations

A configuration whose hooks are scripts. What its hooks answered is its state: each hook that came to
its end adds an entry to the record, a hook that failed adds none.
-/

namespace BeanContainer.Scenario

/-- The hooks of a configuration, in the order in which they run. -/
inductive Hook where
  | construct
  | postInit
  | provide
  deriving DecidableEq, Repr

/-- The name of the hook in records. -/
def Hook.name : Hook → String
  | construct => "construct"
  | postInit => "post_init"
  | provide => "provide"

/-- What the hooks of a configuration answered. -/
abbrev Record := List (Hook × List Reply)

/-- A configuration in scripts. A missing script leaves the hook to its default, which does nothing. -/
structure ConfigurationScript where
  name : String
  resources : List Resource
  beans : List BeanDeclaration
  dependencies : List ConfigurationId
  construct : Script Empty
  postInit : Option (Script Empty)
  provide : Option (Script Command)

namespace ConfigurationScript

/-- Hooks run on the thread of the context, and what they are handed out is shown. -/
def setting (script : ConfigurationScript) : Setting where
  depth := 0
  attempt := 0
  isPublic := true
  owner := some script.name

/-- A hook that adds to the record if its script comes to the end. -/
def hook {ω : Type} (script : ConfigurationScript) (hook : Hook) (record : Record)
    (steps : Procedure ω (Except Refusal (List Result))) :
    Procedure ω (Except ConfigurationError Unit × Record) :=
  steps.bind fun
    | .error refusal => .done (.error (refusal.toConfigurationError script.name), record)
    | .ok results => .done (.ok (), record ++ [(hook, results.map (·.reply))])

/-- The configuration. -/
def configuration (script : ConfigurationScript) : Configuration Record where
  name := script.name
  resources := script.resources
  beans := script.beans
  dependencies := script.dependencies
  construct :=
    (script.hook .construct [] (script.construct.procedure nofun script.setting)).bind fun
      | (.error error, _) => .done (.error error)
      | (.ok (), record) => .done (.ok record)
  postInit record :=
    match script.postInit with
    | none => .done (.ok (), record)
    | some steps => script.hook .postInit record (steps.procedure nofun script.setting)
  provide record :=
    match script.provide with
    | none => .done (.ok (), record)
    | some steps => script.hook .provide record (steps.procedure Command.procedure script.setting)

end ConfigurationScript

end BeanContainer.Scenario
