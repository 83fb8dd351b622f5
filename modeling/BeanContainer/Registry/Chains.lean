/-!
# Chains of names in flight

Each thread has a chain: the names it is resolving, outermost first. A name that is already in the
chain of the thread must not be entered again, since it would depend on itself. A thread without
names in flight has no entry in the table.
-/

namespace BeanContainer

/-- A thread of execution. -/
abbrev Thread := Nat

/-- The chains of all threads that resolve something. -/
structure Chains where
  table : List (Thread × List String) := []
  deriving DecidableEq, Repr

namespace Chains

/-- The chain of the thread. -/
def current (chains : Chains) (thread : Thread) : List String :=
  (chains.table.lookup thread).getD []

/-- The table with the chain of the thread replaced; an empty chain has no entry. -/
def put (chains : Chains) (thread : Thread) (chain : List String) : Chains :=
  let others := chains.table.filter (·.1 != thread)
  if chain.isEmpty then ⟨others⟩ else ⟨(thread, chain) :: others⟩

/--
Enters a name on the thread. A name that is already in flight there is refused with the chain
followed by the name, and nothing changes.
-/
def enter (chains : Chains) (thread : Thread) (name : String) : Except (List String) Chains :=
  let chain := chains.current thread
  if chain.contains name then .error (chain ++ [name])
  else .ok (chains.put thread (chain ++ [name]))

/-- Leaves the name that was entered last on the thread. -/
def leave (chains : Chains) (thread : Thread) : Chains :=
  chains.put thread (chains.current thread).dropLast

end Chains

end BeanContainer
