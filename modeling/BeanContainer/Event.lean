import BeanContainer.Bean.Kind
import BeanContainer.Bean.Type
/-!
# Events

What a container reports while it works. An event is a cause with its data; level, message and named
fields are functions of it. User code reports to the same log what it likes.
-/

namespace BeanContainer

/-- How severe an event is, from the most to the least severe. -/
inductive Level where
  | warn
  | debug
  | trace
  deriving DecidableEq, Repr

namespace Level

/-- The name of the level in reports. -/
def name : Level → String
  | warn => "WARN"
  | debug => "DEBUG"
  | trace => "TRACE"

end Level

/-- The value of a field of an event. -/
inductive Field where
  | word (text : String)
  | number (value : Nat)
  deriving DecidableEq, Repr

/-- What a container reports, and what user code reports meanwhile. -/
inductive Event where
  | registered (bean : String) (handover : Handover) (kind : StrategyKind)
  | registeringMissing (bean : String)
  | resolving (bean : String) (access : Access)
  | queued (configuration : String)
  | skipped (configuration : String)
  | missing (configuration resource : String) (binding : Option String)
  | notProvided (configuration bean : String)
  | providedOtherwise (configuration bean : String) (declared actual : StrategyKind)
  | loaded (configuration : String)
  | assembled (configurations : Nat)
  | user (message : String) (fields : List (String × Field))
  deriving DecidableEq, Repr

namespace Event

/-- How severe the event is: of all that goes on, only broken promises are warnings. -/
def level : Event → Level
  | skipped .. | notProvided .. | providedOtherwise .. => .warn
  | resolving .. | user .. => .trace
  | _ => .debug

/-- The event in words. -/
def message : Event → String
  | registered .. => "registered bean"
  | registeringMissing _ => "registering missing bean on first use"
  | resolving _ .value => "resolving bean"
  | resolving _ .reference => "resolving bean by reference"
  | queued _ => "registered configuration"
  | skipped _ => "skipped configuration that depends on itself"
  | missing .. => "resource is still missing"
  | notProvided .. => "declared bean was not provided"
  | providedOtherwise .. => "declared bean was provided with another strategy"
  | loaded _ => "loaded configuration"
  | assembled _ => "assembled context"
  | user message _ => message

/-- The data of the event by name, in the order of the names. -/
def fields : Event → List (String × Field)
  | registered bean handover kind =>
    [("bean", .word bean), ("bean_type", .word handover.name), ("kind", .word kind.name)]
  | registeringMissing bean | resolving bean _ => [("bean", .word bean)]
  | queued configuration | skipped configuration | loaded configuration =>
    [("configuration", .word configuration)]
  | missing configuration resource binding =>
    (binding.map fun name => ("binding", Field.word name)).toList ++
      [("configuration", .word configuration), ("resource", .word resource)]
  | notProvided configuration bean =>
    [("bean", .word bean), ("configuration", .word configuration)]
  | providedOtherwise configuration bean declared actual =>
    [("bean", .word bean), ("configuration", .word configuration),
      ("declared", .word declared.name), ("registered", .word actual.name)]
  | assembled configurations => [("configurations", .number configurations)]
  | user _ fields => fields

end Event

end BeanContainer
