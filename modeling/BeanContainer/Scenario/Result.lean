import BeanContainer.Configuration.Error
import BeanContainer.Registry.Procedure
import BeanContainer.Scenario.Values
/-!
# Results of scripted steps

A scripted step ends in a reply or is refused. A reply also counts as a part of a bean under
construction: a number and a text.
-/

namespace BeanContainer.Scenario

/-- Why a step could not be carried out at all. -/
inductive BadStep where
  /-- There is nothing under the label, or something is there already. -/
  | slot
  /-- There is no such configuration. -/
  | configuration
  /-- There is no such type. -/
  | type
  /-- What is under the label hands out something else. -/
  | downcast
  /-- A registry with several beans has no fixed description. -/
  | unordered
  /-- There is no such step here. -/
  | unknown
  /-- There is no such kind of strategy. -/
  | strategy
  /-- The step would never end. -/
  | endless
  deriving DecidableEq, Repr

/-- The fault in one word. -/
def BadStep.message : BadStep → String
  | slot => "slot"
  | configuration => "config"
  | type => "type"
  | downcast => "downcast"
  | unordered => "unordered"
  | unknown => "do"
  | strategy => "strategy"
  | endless => "endless"

/-- Why a step has no reply. -/
inductive Refusal where
  | bean (error : BeanError)
  | configuration (error : ConfigurationError)
  | badStep (fault : BadStep)
  deriving DecidableEq, Repr

namespace Refusal

/-- The kind of the refusal, in one word. -/
def kind : Refusal → String
  | bean error => error.kind
  | configuration error => error.kind
  | badStep _ => "BadStep"

/-- The refusal in words. -/
def message : Refusal → String
  | bean error => error.message
  | configuration error => error.message
  | badStep fault => fault.message

/-- The causes below the refusal in words, outermost first. -/
def sources : Refusal → List String
  | bean error => error.sources
  | configuration error => error.sources
  | badStep _ => []

/-- The refusal as a failure of user code. -/
def failure (refusal : Refusal) : Failure :=
  ⟨refusal.message, refusal.sources⟩

/-- The refusal as the failure of a bean constructor. -/
def toBeanError : Refusal → BeanError
  | bean error => error
  | refusal => .construction "" refusal.failure

/-- The refusal as the failure of a hook of the configuration. -/
def toConfigurationError (configuration : String) : Refusal → ConfigurationError
  | bean error => .bean error
  | .configuration error => error
  | badStep fault => .construction configuration fault.message

/-- The refusal wrapped as the failure to construct the named bean. -/
def wrap (name : String) (refusal : Refusal) : Refusal :=
  .bean (.wrapped name refusal.toBeanError)

end Refusal

/-- What a step that reads or changes a registry answers. -/
inductive Reply where
  | nothing
  | flag (value : Bool)
  | number (value : Int)
  | text (value : String)
  | texts (values : List String)
  | calls (table : List (String × Nat))
  /-- A bean, and its object if it is one and is shown to the outside. -/
  | bean (content : Content) (object : Option ObjectId)
  /-- A refusal that was caught. -/
  | caught (refusal : Refusal)
  /-- The results of steps on other threads. -/
  | results (values : List (Except Refusal Reply))

/-- A reply, and what it contributes to a bean under construction. -/
structure Result where
  reply : Reply
  part : Part

namespace Result

/-- Nothing. -/
def nothing : Result :=
  ⟨.nothing, ⟨0, ""⟩⟩

/-- A truth value. -/
def flag (value : Bool) : Result :=
  ⟨.flag value, partOf (.truth value)⟩

/-- A number. -/
def number (value : Int) : Result :=
  ⟨.number value, ⟨value, toString value⟩⟩

/-- A text that may be missing. -/
def text? : Option String → Result
  | some value => ⟨.text value, ⟨1, value⟩⟩
  | none => nothing

/-- A list of texts, as a part joined by the given mark. -/
def texts (mark : String) (values : List String) : Result :=
  ⟨.texts values, ⟨values.length, mark.intercalate values⟩⟩

/-- A table of calls. -/
def calls (table : List (String × Nat)) : Result :=
  ⟨.calls table, ⟨total (table.map fun entry => (entry.2 : Int)), ""⟩⟩

/-- A bean. -/
def bean (content : Content) (object : Option ObjectId) : Result :=
  ⟨.bean content object, partOf content⟩

/-- A refusal that was caught. -/
def caught (refusal : Refusal) : Result :=
  ⟨.caught refusal, ⟨-1, "!" ++ refusal.kind⟩⟩

/-- The text of a step on another thread inside the text of all. -/
private def threadText : Except Refusal Result → String
  | .ok result => result.part.text
  | .error refusal => "!" ++ refusal.kind

/-- The number of a step on another thread inside the number of all. -/
private def threadNumber : Except Refusal Result → Int
  | .ok result => result.part.number
  | .error _ => 0

/-- The results of all steps on another thread. Their numbers are added up and wrap around. -/
def thread (outcomes : List (Except Refusal Result)) : Result where
  reply := .results (outcomes.map fun outcome => outcome.map (·.reply))
  part :=
    { number := wrapSigned 64 (total (outcomes.map threadNumber))
      text := ",".intercalate (outcomes.map threadText) }

/-- The results of threads that race for a bean. -/
def race (outcomes : List (Except Refusal Result)) : Result where
  reply := .results (outcomes.map fun outcome => outcome.map (·.reply))
  part := ⟨0, ""⟩

end Result

end BeanContainer.Scenario
