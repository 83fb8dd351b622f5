import Mathlib.Logic.Function.Basic

/-!
# Traced evaluations

An evaluation may tell events on its way to what it comes to, if it comes to its end at all. The
events of an evaluation that hangs are those until then. Forgetting the events leaves an option,
and sequencing becomes that of options.
-/

namespace BeanContainer

/-- The events of an evaluation, and what it comes to unless it never ends. -/
structure Traced (ε α : Type) where
  events : List ε
  result : Option α

namespace Traced

variable {ε α β : Type}

/-- Comes to the value at once. -/
def pure (value : α) : Traced ε α where
  events := []
  result := some value

/-- Never comes to an end, and tells nothing of it. -/
def stuck : Traced ε α where
  events := []
  result := none

/-- Tells an event before all others. -/
def tell (event : ε) (later : Traced ε α) : Traced ε α where
  events := event :: later.events
  result := later.result

/-- Goes on with what the first evaluation comes to. -/
def bind (first : Traced ε α) (next : α → Traced ε β) : Traced ε β :=
  match first.result with
  | none => ⟨first.events, none⟩
  | some value => ⟨first.events ++ (next value).events, (next value).result⟩

/-- Makes something of what the evaluation comes to. -/
def map (change : α → β) (first : Traced ε α) : Traced ε β where
  events := first.events
  result := first.result.map change

variable {first : Traced ε α} {next : α → Traced ε β} {value : α}

@[simp]
theorem pure_events : (pure value : Traced ε α).events = [] := rfl

@[simp]
theorem pure_result : (pure value : Traced ε α).result = some value := rfl

@[simp]
theorem stuck_events : (stuck : Traced ε α).events = [] := rfl

@[simp]
theorem stuck_result : (stuck : Traced ε α).result = none := rfl

@[simp]
theorem tell_events (event : ε) : (tell event first).events = event :: first.events := rfl

@[simp]
theorem tell_result (event : ε) : (tell event first).result = first.result := rfl

@[simp]
theorem map_events (change : α → β) : (first.map change).events = first.events := rfl

@[simp]
theorem map_result (change : α → β) : (first.map change).result = first.result.map change := rfl

theorem bind_of_none (hangs : first.result = none) : first.bind next = ⟨first.events, none⟩ := by
  simp [bind, hangs]

theorem bind_of_some (came : first.result = some value) :
    first.bind next = ⟨first.events ++ (next value).events, (next value).result⟩ := by
  simp [bind, came]

@[simp]
theorem bind_result :
    (first.bind next).result = first.result.bind fun value => (next value).result := by
  unfold bind
  cases first.result <;> rfl

theorem mem_bind_events_of_first {event : ε} (event_mem : event ∈ first.events) :
    event ∈ (first.bind next).events := by
  cases came : first.result with
  | none => rwa [bind_of_none came]
  | some value =>
      rw [bind_of_some came]
      exact List.mem_append_left _ event_mem

theorem mem_bind_events {event : ε} (event_mem : event ∈ (first.bind next).events) :
    event ∈ first.events ∨ ∃ value, first.result = some value ∧ event ∈ (next value).events := by
  cases came : first.result with
  | none =>
      rw [bind_of_none came] at event_mem
      exact .inl event_mem
  | some value =>
      rw [bind_of_some came] at event_mem
      exact (List.mem_append.mp event_mem).imp_right fun later => ⟨value, rfl, later⟩

end Traced

end BeanContainer
