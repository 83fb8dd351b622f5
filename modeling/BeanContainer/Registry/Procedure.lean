import BeanContainer.Bean.Error
import BeanContainer.Bean.Kind
import BeanContainer.Event
/-!
# Procedures

What user code does with a registry: bean constructors and configuration hooks are procedures. A
procedure asks for one thing at a time and goes on with the answer, so it may branch on what it got,
catch failures, or pass them on; it ends in a result. The type `ω` holds what the procedure may
change. For a procedure that only reads it is empty.

Some requests carry a depth. Depth zero is the thread the procedure runs on, depth one is a new
thread that the procedure starts and waits for, and so on for threads started by threads.
-/

namespace BeanContainer

/-- A request for a bean. -/
structure Request where
  name : String
  handover : Handover
  deriving DecidableEq, Repr

/-- The identity of an object: the allocation that it came from. -/
abbrev ObjectId := Nat

/--
A bean handed out: what it holds, and the objects that lead to that, from the outside in. Each object
but the last holds the next one, as a shared object does that is kept in another one.
-/
structure Bean where
  content : Content
  objects : List ObjectId
  deriving DecidableEq, Repr

namespace Bean

/-- A bean that is no object. -/
def plain (content : Content) : Bean where
  content := content
  objects := []

/-- The object that the bean is, if it is one. -/
def object (bean : Bean) : Option ObjectId :=
  bean.objects.head?

/-- The object that has the content itself, if the bean leads through any. -/
def innermost (bean : Bean) : Option ObjectId :=
  bean.objects.getLast?

/-- The bean in an object around it. -/
def inside (bean : Bean) (object : ObjectId) : Bean where
  content := bean.content
  objects := object :: bean.objects

end Bean

/-- What a registry tells about one of its beans. -/
structure BeanInfo where
  name : String
  handover : Handover
  kind : StrategyKind
  deriving DecidableEq, Repr

/-- What a procedure can see of a registry without asking for a bean. -/
structure View where
  autoRegister : Bool
  beans : List BeanInfo
  /-- The names being resolved on the observing thread, outermost first. -/
  chain : List String
  /-- How often the constructor behind each label has run. -/
  calls : List (String × Nat)
  deriving Repr

/-- A procedure with effects `ω` and a result of type `α`. -/
inductive Procedure (ω : Type) (α : Type) where
  /-- Ends with a result. -/
  | done (result : α)
  /-- Asks for a bean. -/
  | fetch (depth : Nat) (request : Request) (next : Except BeanError Bean → Procedure ω α)
  /-- Changes the content of an object that was handed out by reference. -/
  | update (object : ObjectId) (change : Content → Content) (next : Procedure ω α)
  /-- Looks at the registry. -/
  | observe (depth : Nat) (next : View → Procedure ω α)
  /-- Makes a new object. -/
  | allocate (next : ObjectId → Procedure ω α)
  /-- Reports an event of its own. -/
  | report (message : String) (fields : List (String × Field)) (next : Procedure ω α)
  /-- Changes the registry. -/
  | write (effect : ω) (next : Except BeanError Unit → Procedure ω α)

namespace Procedure

/-- Goes on with the result of a procedure. -/
def bind {ω α β : Type} : Procedure ω α → (α → Procedure ω β) → Procedure ω β
  | done result, continuation => continuation result
  | fetch depth request next, continuation =>
    fetch depth request fun outcome => (next outcome).bind continuation
  | update object change next, continuation => update object change (next.bind continuation)
  | observe depth next, continuation => observe depth fun view => (next view).bind continuation
  | allocate next, continuation => allocate fun object => (next object).bind continuation
  | report message fields next, continuation => report message fields (next.bind continuation)
  | write effect next, continuation => write effect fun outcome => (next outcome).bind continuation

instance {ω : Type} : Monad (Procedure ω) where
  pure := done
  bind := bind

/-- Goes on with a new bean of the type. Each sharing in the type is a new object. -/
def make {ω α : Type} (content : Content) :
    BeanType → (Bean → Procedure ω α) → Procedure ω α
  | .plain .., next => next (.plain content)
  | .shared inner, next =>
    make content inner fun bean => allocate fun object => next (bean.inside object)

end Procedure

end BeanContainer
