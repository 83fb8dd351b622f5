import BeanContainer.Registry.Chains
import Mathlib.Data.List.Nodup

/-!
# Chains of names in flight

What entering and leaving a name does to the chain of each thread. No chain holds a name twice, and
the table has entries only for threads with names in flight.
-/

namespace BeanContainer.Chains

theorem lookup_filter_ne {α : Type} {thread other : Thread} (different : other ≠ thread)
    (table : List (Thread × α)) :
    (table.filter (·.1 != thread)).lookup other = table.lookup other := by
  induction table with
  | nil => rfl
  | cons entry rest ih =>
      rcases entry with ⟨owner, chain⟩
      by_cases own : owner = thread
      · subst own
        have notOwner : (other == owner) = false := by simpa using different
        simp [List.lookup_cons, notOwner, ih]
      · simp [List.lookup_cons, own, ih]

theorem lookup_filter_self {α : Type} (thread : Thread) (table : List (Thread × α)) :
    (table.filter (·.1 != thread)).lookup thread = none := by
  simp only [List.lookup_eq_none_iff, List.mem_filter, bne_iff_ne, and_imp]
  intro entry _ different
  simpa using different.symm

@[simp]
theorem current_put (chains : Chains) (thread other : Thread) (chain : List String) :
    (chains.put thread chain).current other =
      if other = thread then chain else chains.current other := by
  by_cases same : other = thread
  · subst same
    by_cases empty : chain = []
    · simp [put, current, empty, lookup_filter_self]
    · simp [put, current, empty]
  · have notThread : (other == thread) = false := by simpa using same
    by_cases empty : chain = []
    · simp [put, current, empty, same, lookup_filter_ne same]
    · simp [put, current, empty, same, List.lookup_cons, notThread, lookup_filter_ne same]

@[simp]
theorem current_leave (chains : Chains) (thread other : Thread) :
    (chains.leave thread).current other =
      if other = thread then (chains.current thread).dropLast else chains.current other := by
  simp [leave]

theorem enter_eq_ok_iff {chains entered : Chains} {thread : Thread} {name : String} :
    chains.enter thread name = .ok entered ↔
      name ∉ chains.current thread ∧
        chains.put thread (chains.current thread ++ [name]) = entered := by
  by_cases inFlight : name ∈ chains.current thread
  · simp [enter, inFlight]
  · simp [enter, inFlight]

theorem enter_eq_error_iff {chains : Chains} {thread : Thread} {name : String}
    {trace : List String} :
    chains.enter thread name = .error trace ↔
      name ∈ chains.current thread ∧ chains.current thread ++ [name] = trace := by
  by_cases inFlight : name ∈ chains.current thread
  · simp [enter, inFlight]
  · simp [enter, inFlight]

/-- Each entry of the table is a chain with names, and no chain holds a name twice. -/
structure IsProper (chains : Chains) : Prop where
  nonempty : ∀ entry ∈ chains.table, entry.2 ≠ []
  nodup : ∀ thread, (chains.current thread).Nodup

theorem IsProper.put {chains : Chains} (proper : chains.IsProper) (thread : Thread)
    {chain : List String} (nodup : chain.Nodup) : (chains.put thread chain).IsProper where
  nonempty entry entry_mem := by
    by_cases empty : chain = []
    · simp only [Chains.put, empty, List.isEmpty_nil, if_true, List.mem_filter] at entry_mem
      exact proper.nonempty entry entry_mem.1
    · simp only [Chains.put, List.isEmpty_iff, empty, if_false, List.mem_cons, List.mem_filter]
        at entry_mem
      rcases entry_mem with rfl | ⟨entry_mem, _⟩
      · exact empty
      · exact proper.nonempty entry entry_mem
  nodup other := by
    rw [current_put]
    split
    · exact nodup
    · exact proper.nodup other

theorem IsProper.enter {chains entered : Chains} {thread : Thread} {name : String}
    (proper : chains.IsProper) (enter : chains.enter thread name = .ok entered) :
    entered.IsProper := by
  rcases enter_eq_ok_iff.mp enter with ⟨fresh, rfl⟩
  refine proper.put thread ?_
  simpa using List.Nodup.concat fresh (proper.nodup thread)

theorem IsProper.leave {chains : Chains} (proper : chains.IsProper) (thread : Thread) :
    (chains.leave thread).IsProper :=
  proper.put thread ((proper.nodup thread).sublist (List.dropLast_sublist _))

/-- With nothing in flight the table is empty. -/
theorem IsProper.table_eq_nil {chains : Chains} (proper : chains.IsProper)
    (rest : ∀ thread, chains.current thread = []) : chains.table = [] := by
  cases table_eq : chains.table with
  | nil => rfl
  | cons entry others =>
      have first : chains.current entry.1 = entry.2 := by
        rw [current, table_eq, List.lookup_cons_self, Option.getD_some]
      rw [rest entry.1] at first
      exact absurd first.symm (proper.nonempty entry (by simp [table_eq]))

end BeanContainer.Chains
