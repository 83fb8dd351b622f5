import BeanContainer.Registry.Procedure
import BeanContainer.Text.Json
/-!
# Logs of scenarios

Scenarios leave marks in the log, as user code may: where an object is shown to the outside, and where
threads begin and end to race. A log is shown without them, down to the events of a given level.
Events of threads that race have no order of their own and are sorted by their text.
-/

namespace BeanContainer.Scenario

/-- A mark in the log. -/
inductive Mark where
  /-- An object is shown to the outside. -/
  | shown (object : ObjectId)
  | raceBegins
  | raceEnds
  deriving DecidableEq, Repr

namespace Mark

def message : Mark → String
  | shown _ => "shown"
  | raceBegins => "race begins"
  | raceEnds => "race ends"

def fields : Mark → List (String × Field)
  | shown object => [("object", .number object)]
  | raceBegins | raceEnds => []

/-- Leaves the mark. -/
def leave {ω α : Type} (mark : Mark) (next : Procedure ω α) : Procedure ω α :=
  .report mark.message mark.fields next

/-- The mark that the event is, if it is one. -/
def ofEvent? : Event → Option Mark
  | .user "shown" [("object", .number object)] => some (shown object)
  | .user "race begins" [] => some raceBegins
  | .user "race ends" [] => some raceEnds
  | _ => none

end Mark

/-- The rank of the level: the more severe, the lower. -/
def rank : Level → Nat
  | .warn => 0
  | .debug => 1
  | .trace => 2

/-- Whether a log of the given level shows the event. -/
def isShownAt (level : Level) (event : Event) : Bool :=
  rank event.level ≤ rank level

/-- The field of an event as JSON. -/
def fieldJson : String × Field → String
  | (name, .word text) => Text.jsonString name ++ ":" ++ Text.jsonString text
  | (name, .number value) => Text.jsonString name ++ ":" ++ toString value

/-- The event as JSON: its level, its message and its fields. -/
def eventJson (event : Event) : String :=
  "[" ++ Text.jsonString event.level.name ++ "," ++ Text.jsonString event.message ++ ",\x7b" ++
    ",".intercalate (event.fields.map fieldJson) ++ "\x7d]"

/-- The events in the order of their texts. -/
def sortEvents (events : List Event) : List Event :=
  events.mergeSort fun left right => !decide (eventJson right < eventJson left)

/-- The objects that the events show, in order. -/
def shownObjects (events : List Event) : List ObjectId :=
  events.filterMap fun event =>
    match Mark.ofEvent? event with
    | some (.shown object) => some object
    | _ => none

/--
The events without marks, those of each race sorted. Beside the events to come there are those since
the last race began that has not ended yet, and those before it, one list for each such race.
-/
def settle : List Event → List Event → List (List Event) → List Event
  | [], inner, [] => inner
  | [], inner, outer :: before => settle [] (outer ++ inner) before
  | event :: rest, inner, before =>
    match Mark.ofEvent? event, before with
    | none, before => settle rest (inner ++ [event]) before
    | some .raceBegins, before => settle rest [] (inner :: before)
    | some .raceEnds, outer :: before => settle rest (outer ++ sortEvents inner) before
    | some _, before => settle rest inner before

/-- The log of the events that the level shows. -/
def log (level : Level) (events : List Event) : List Event :=
  (settle events [] []).filter (isShownAt level)

end BeanContainer.Scenario
