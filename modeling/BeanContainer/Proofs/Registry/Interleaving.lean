import BeanContainer.Proofs.Registry.Chains
import Mathlib.Data.List.Induction
import Mathlib.Tactic.IntervalCases

/-!
# Threads that share a table of chains

All threads enter, leave and look at one table, each time under its lock. So whatever they do is a
sequence of turns, in some order. A thread is told nothing by this that it would not be told alone:
its turns read and change its own chain only. If it drops its guards in the reverse order in which it
got them, its chain is at any time the names of the guards that it holds.
-/

namespace BeanContainer.Chains

/-- A use of the chains. A guard is known by the name that it was handed out for. -/
inductive Use where
  | enter (name : String)
  | drop (name : String)
  | look
  deriving DecidableEq, Repr

structure Turn where
  thread : Thread
  use : Use
  deriving DecidableEq, Repr

inductive Reply where
  | entered
  | refused (trace : List String)
  | dropped
  | chain (names : List String)
  deriving DecidableEq, Repr

structure Exchange where
  turn : Turn
  reply : Reply
  deriving DecidableEq, Repr

/-- What the thread is told in its turn, and the chains then. -/
def perform (chains : Chains) (turn : Turn) : Reply × Chains :=
  match turn.use with
  | .enter name =>
    match chains.enter turn.thread name with
    | .error trace => (.refused trace, chains)
    | .ok entered => (.entered, entered)
  | .drop _ => (.dropped, chains.leave turn.thread)
  | .look => (.chain (chains.current turn.thread), chains)

def after (chains : Chains) (turns : List Turn) : Chains :=
  turns.foldl (fun chains turn => (chains.perform turn).2) chains

/-- The turns, each with what the thread was told in it. -/
def exchanges (chains : Chains) : List Turn → List Exchange
  | [] => []
  | turn :: turns => ⟨turn, (chains.perform turn).1⟩ :: (chains.perform turn).2.exchanges turns

/-- The names of the guards that a thread holds, once it has been told more. -/
def Exchange.guards (guards : List String) (exchange : Exchange) : List String :=
  match exchange.turn.use, exchange.reply with
  | .enter name, .entered => guards ++ [name]
  | .drop name, _ => guards.erase name
  | _, _ => guards

/-- The names of the guards that the thread holds, in the order in which it got them. -/
def held (thread : Thread) (exchanges : List Exchange) : List String :=
  (exchanges.filter (·.turn.thread == thread)).foldl Exchange.guards []

/-- Whoever drops a guard holds it, and got it last of those that he holds. -/
def IsLifo (turns : List Turn) : Prop :=
  ∀ place thread name, turns[place]? = some ⟨thread, .drop name⟩ →
    (held thread (exchanges {} (turns.take place))).getLast? = some name

variable {chains first second : Chains} {thread : Thread} {turn : Turn} {turns : List Turn}

/-- What a use does if there is only the chain of one thread. -/
def Use.onChain (chain : List String) : Use → Reply × List String
  | .enter name =>
    if name ∈ chain then (.refused (chain ++ [name]), chain) else (.entered, chain ++ [name])
  | .drop _ => (.dropped, chain.dropLast)
  | .look => (.chain chain, chain)

theorem perform_reply (chains : Chains) (turn : Turn) :
    (chains.perform turn).1 = (turn.use.onChain (chains.current turn.thread)).1 := by
  rcases turn with ⟨thread, use⟩
  cases use with
  | enter name =>
      by_cases inFlight : name ∈ chains.current thread
      · simp [perform, Use.onChain, enter, inFlight]
      · simp [perform, Use.onChain, enter, inFlight]
  | drop name => rfl
  | look => rfl

theorem current_perform (chains : Chains) (turn : Turn) (other : Thread) :
    (chains.perform turn).2.current other =
      if other = turn.thread then (turn.use.onChain (chains.current turn.thread)).2
      else chains.current other := by
  rcases turn with ⟨thread, use⟩
  cases use with
  | enter name =>
      by_cases inFlight : name ∈ chains.current thread
      · simp +contextual [perform, Use.onChain, enter, inFlight]
      · simp [perform, Use.onChain, enter, inFlight]
  | drop name => simp [perform, Use.onChain]
  | look => simp +contextual [perform, Use.onChain]

theorem after_append (chains : Chains) (turns more : List Turn) :
    chains.after (turns ++ more) = (chains.after turns).after more :=
  List.foldl_append

theorem exchanges_append (chains : Chains) (turns more : List Turn) :
    chains.exchanges (turns ++ more) =
      chains.exchanges turns ++ (chains.after turns).exchanges more := by
  induction turns generalizing chains with
  | nil => rfl
  | cons turn turns ih => simp [exchanges, after, ih]

/-- A thread that starts with the same chain is told the same, whoever else takes turns. -/
theorem exchanges_own (same : first.current thread = second.current thread) :
    (first.exchanges turns).filter (·.turn.thread == thread) =
      second.exchanges (turns.filter (·.thread == thread)) := by
  induction turns generalizing first second with
  | nil => rfl
  | cons turn turns ih =>
      by_cases own : turn.thread = thread
      · subst own
        have sameReply : (first.perform turn).1 = (second.perform turn).1 := by
          rw [perform_reply, perform_reply, same]
        have sameAfter : (first.perform turn).2.current turn.thread =
            (second.perform turn).2.current turn.thread := by
          rw [current_perform, current_perform, same]
        simp [exchanges, sameReply, ih sameAfter]
      · have sameAfter : (first.perform turn).2.current thread = second.current thread := by
          rw [current_perform, if_neg (Ne.symm own), same]
        simp [exchanges, own, ih sameAfter]

theorem held_concat (exchanges : List Exchange) (exchange : Exchange) :
    held thread (exchanges ++ [exchange]) =
      if exchange.turn.thread = thread then exchange.guards (held thread exchanges)
      else held thread exchanges := by
  by_cases own : exchange.turn.thread = thread
  · simp [held, own]
  · simp [held, own]

theorem IsProper.perform (proper : chains.IsProper) (turn : Turn) :
    (chains.perform turn).2.IsProper := by
  rcases turn with ⟨thread, use⟩
  cases use with
  | enter name =>
      cases entered : chains.enter thread name with
      | error trace => simpa [Chains.perform, entered] using proper
      | ok after => simpa [Chains.perform, entered] using proper.enter entered
  | drop name => exact proper.leave thread
  | look => exact proper

theorem isProper_after (proper : chains.IsProper) : (chains.after turns).IsProper := by
  induction turns generalizing chains with
  | nil => exact proper
  | cons turn turns ih => exact ih (proper.perform turn)

theorem isProper_empty : IsProper {} where
  nonempty := by simp
  nodup thread := by simp [current]

theorem IsLifo.of_concat (lifo : IsLifo (turns ++ [turn])) : IsLifo turns := by
  intro place thread name drops
  have inside : place < turns.length := (List.getElem?_eq_some_iff.mp drops).1
  have dropsThere : (turns ++ [turn])[place]? = some ⟨thread, .drop name⟩ := by
    rwa [List.getElem?_append_left inside]
  have latest := lifo place thread name dropsThere
  rwa [List.take_append_of_le_length (by omega)] at latest

theorem IsLifo.of_append {more : List Turn} (lifo : IsLifo (turns ++ more)) : IsLifo turns := by
  induction more using List.reverseRecOn with
  | nil => simpa using lifo
  | append_singleton more turn ih =>
      apply ih
      rw [← List.append_assoc] at lifo
      exact lifo.of_concat

theorem erase_eq_dropLast {names : List String} {name : String} (nodup : names.Nodup)
    (isLast : names.getLast? = some name) : names.erase name = names.dropLast := by
  rcases List.getLast?_eq_some_iff.mp isLast with ⟨before, rfl⟩
  have fresh : name ∉ before := by
    intro name_mem
    exact (List.nodup_append.mp nodup).2.2 name name_mem name (by simp) rfl
  simp [List.erase_append_right _ fresh]

/-- The chain of a thread is the names of the guards that it holds. -/
theorem current_eq_held (lifo : IsLifo turns) (thread : Thread) :
    (after {} turns).current thread = held thread (exchanges {} turns) := by
  induction turns using List.reverseRecOn with
  | nil => rfl
  | append_singleton turns turn ih =>
      have before := ih lifo.of_concat
      rw [after_append, exchanges_append]
      change ((after {} turns).perform turn).2.current thread =
        held thread (exchanges {} turns ++ [⟨turn, ((after {} turns).perform turn).1⟩])
      rw [current_perform, held_concat, perform_reply]
      by_cases own : turn.thread = thread
      · rcases turn with ⟨owner, use⟩
        cases own
        rw [if_pos rfl, if_pos rfl, ← before]
        have proper : (after {} turns).IsProper := isProper_after isProper_empty
        have nodup := proper.nodup owner
        cases use with
        | enter name =>
            by_cases inFlight : name ∈ (after {} turns).current owner
            · simp [Use.onChain, Exchange.guards, inFlight]
            · simp [Use.onChain, Exchange.guards, inFlight]
        | drop name =>
            have latest := lifo turns.length owner name (by simp)
            rw [List.take_left, ← before] at latest
            exact (erase_eq_dropLast nodup latest).symm
        | look => rfl
      · rw [if_neg (Ne.symm own), if_neg own]
        exact before

theorem mem_table_put {names chain : List String} {other : Thread} :
    (other, names) ∈ (chains.put thread chain).table ↔
      if other = thread then names = chain ∧ chain ≠ [] else (other, names) ∈ chains.table := by
  by_cases own : other = thread
  · by_cases empty : chain = []
    · simp [put, own, empty]
    · simp [put, own, empty]
  · by_cases empty : chain = []
    · simp [put, own, empty]
    · simp [put, own, empty]

/-- The table has one entry for each thread with names in flight, its chain, and no others. -/
structure IsExact (chains : Chains) : Prop where
  keys_nodup : (chains.table.map (·.1)).Nodup
  mem_table_iff : ∀ thread chain,
    (thread, chain) ∈ chains.table ↔ chains.current thread = chain ∧ chain ≠ []

theorem IsExact.put (exact : chains.IsExact) (thread : Thread) (chain : List String) :
    (chains.put thread chain).IsExact where
  keys_nodup := by
    have others : ((chains.table.filter (·.1 != thread)).map (·.1)).Nodup :=
      exact.keys_nodup.sublist (List.filter_sublist.map Prod.fst)
    by_cases empty : chain = []
    · simpa [Chains.put, empty] using others
    · simpa [Chains.put, empty] using others
  mem_table_iff other names := by
    rw [mem_table_put, current_put]
    by_cases own : other = thread
    · rw [if_pos own, if_pos own]
      constructor
      · rintro ⟨rfl, nonempty⟩
        exact ⟨rfl, nonempty⟩
      · rintro ⟨rfl, nonempty⟩
        exact ⟨rfl, nonempty⟩
    · rw [if_neg own, if_neg own]
      exact exact.mem_table_iff other names

theorem IsExact.perform (exact : chains.IsExact) (turn : Turn) :
    (chains.perform turn).2.IsExact := by
  rcases turn with ⟨thread, use⟩
  cases use with
  | enter name =>
      by_cases inFlight : name ∈ chains.current thread
      · simpa [Chains.perform, Chains.enter, inFlight] using exact
      · simpa [Chains.perform, Chains.enter, inFlight] using exact.put thread _
  | drop name => exact exact.put thread _
  | look => exact exact

theorem isExact_after (exact : chains.IsExact) : (chains.after turns).IsExact := by
  induction turns generalizing chains with
  | nil => exact exact
  | cons turn turns ih => exact ih (exact.perform turn)

/--
Let threads take turns in any order, each dropping its guards latest first. Then every thread is told
what it would be told alone. A name is refused exactly if the thread holds a guard for it; the trace
is then the names of its guards and the name again, and no chain changes. And at any moment the table
has exactly one entry for each thread that holds guards: their names.
-/
theorem threads_keep_apart (lifo : IsLifo turns) :
    (∀ thread, (exchanges {} turns).filter (·.turn.thread == thread) =
      exchanges {} (turns.filter (·.thread == thread))) ∧
    ∀ place,
      let chains := after {} (turns.take place)
      let own (thread : Thread) := held thread (exchanges {} (turns.take place))
      (∀ thread name, turns[place]? = some ⟨thread, .enter name⟩ →
        ((∃ trace, chains.enter thread name = .error trace) ↔ name ∈ own thread) ∧
        ∀ trace, chains.enter thread name = .error trace →
          trace = own thread ++ [name] ∧ after {} (turns.take (place + 1)) = chains) ∧
      (chains.table.map (·.1)).Nodup ∧
      ∀ thread chain, (thread, chain) ∈ chains.table ↔ own thread = chain ∧ chain ≠ [] := by
  refine ⟨fun thread => exchanges_own rfl, ?_⟩
  intro place chains own
  have lifoSoFar : IsLifo (turns.take place) := by
    have whole : IsLifo (turns.take place ++ turns.drop place) := by
      rwa [List.take_append_drop]
    exact whole.of_append
  have current_eq : ∀ thread, chains.current thread = own thread := current_eq_held lifoSoFar
  have exact : chains.IsExact := isExact_after ⟨by simp, by simp [current]⟩
  refine ⟨?_, exact.keys_nodup, ?_⟩
  · intro thread name enters
    have refused_iff : ∀ trace, chains.enter thread name = .error trace ↔
        name ∈ own thread ∧ own thread ++ [name] = trace := by
      intro trace
      rw [enter_eq_error_iff, current_eq]
    refine ⟨by simp [refused_iff], ?_⟩
    intro trace refused
    refine ⟨((refused_iff trace).mp refused).2.symm, ?_⟩
    rw [List.take_add_one, enters, after_append]
    change (chains.perform ⟨thread, .enter name⟩).2 = chains
    simp [perform, refused]
  · intro thread chain
    rw [← current_eq]
    exact exact.mem_table_iff thread chain

/-- Three threads, of which the first comes back to a name that it is resolving. -/
def crowd : List Turn :=
  [⟨0, .enter "a"⟩, ⟨1, .enter "a"⟩, ⟨0, .enter "b"⟩, ⟨1, .look⟩, ⟨0, .enter "a"⟩, ⟨2, .enter "b"⟩,
    ⟨0, .drop "b"⟩, ⟨1, .drop "a"⟩, ⟨0, .look⟩, ⟨1, .enter "b"⟩, ⟨0, .drop "a"⟩]

theorem crowd_keeps_apart :
    IsLifo crowd ∧
      (exchanges {} crowd).map (·.reply) =
        [.entered, .entered, .entered, .chain ["a"], .refused ["a", "b", "a"], .entered,
          .dropped, .dropped, .chain ["a"], .entered, .dropped] ∧
      (∀ thread, (exchanges {} crowd).filter (·.turn.thread == thread) =
        exchanges {} (crowd.filter (·.thread == thread))) ∧
      (∃ trace, (after {} (crowd.take 4)).enter 0 "a" = .error trace) ∧
      (2, ["b"]) ∈ (after {} (crowd.take 6)).table := by
  have lifo : IsLifo crowd := by
    intro place thread name drops
    have inside : place < 11 := (List.getElem?_eq_some_iff.mp drops).1
    interval_cases place <;> simp [crowd] at drops <;> rcases drops with ⟨rfl, rfl⟩ <;> decide
  rcases threads_keep_apart lifo with ⟨alone, moments⟩
  refine ⟨lifo, by decide, alone, ?_, ?_⟩
  · exact ((moments 4).1 0 "a" rfl).1.mpr (by decide)
  · exact ((moments 6).2.2 2 ["b"]).mpr (by decide)

end BeanContainer.Chains
