import BeanContainer.Proofs.Context.Queueing
import BeanContainer.Proofs.Context.Turns
import Mathlib.Data.List.Nodup

/-!
# Runs of a context and the hooks called in them

A context is changed by queueing configurations, by assembling, by loading a configuration that was
never queued, and by registering and retrieving beans. Any number of such operations may follow each
other, also after one that failed. A journal accompanies a run: it numbers the configurations in the
order in which they are queued, and lists every call of a hook in an assembly under the number of its
configuration, with the registry at the moment of the call. It also keeps what was done with the
registry, and which configurations are active without having been queued. The context in the journal
is changed by the operations of the context alone.

Two facts hold of every run. A queued configuration is constructed only when all its resources are
registered. And the calls under a number are attempts that failed, followed by one that completed at
most, after which no hook of that configuration is ever called again.
-/

namespace BeanContainer

variable {σ : Type}

/-- What is done with a context. -/
inductive Operation (σ : Type) where
  /-- Queues a configuration and all that it depends on. -/
  | queue (id : ConfigurationId)
  | assemble
  /-- Loads a configuration that is not queued, if its resources are there. -/
  | load (queued : Queued σ)
  /-- Registers and retrieves beans. -/
  | use (procedure : Procedure Registration Unit)

namespace Context

/-- Carries out the operation, unless it never ends. One that fails is carried out nonetheless. -/
def operate (all : List (Configuration σ)) (context : Context σ) :
    Operation σ → Option (Context σ)
  | .queue id => some (context.queue all id)
  | .assemble => context.assemble.map (·.2)
  | .load queued => (context.load queued).map (·.2.2)
  | .use procedure => (procedure.perform context.registry).map fun answer =>
      { context with registry := answer.2 }

/-- Carries out all operations in order. -/
def run (all : List (Configuration σ)) (context : Context σ) (operations : List (Operation σ)) :
    Option (Context σ) :=
  operations.foldlM (operate all) context

end Context

/-- The hooks called at the turn, under its place. -/
def Turn.placedCalls (turn : Turn σ) : List (Nat × HookCall σ) :=
  turn.calls.map fun call => (turn.place, call)

/-- A context in the course of a run, and the record of the run. -/
structure Journal (σ : Type) where
  context : Context σ
  /-- The numbers of the waiting configurations, in the order of the queue. -/
  numbers : List Nat := []
  /-- The configurations queued so far, each at its number. -/
  queued : List (Configuration σ) := []
  /-- The hooks called in assemblies. -/
  calls : List (Nat × HookCall σ) := []
  /-- What was done with the registry in the operations that came to their end. -/
  moments : List Moment := []
  /-- The active configurations that were loaded without having been queued. -/
  outside : List (Active σ) := []
  /-- Whether the last operation never came to its end. -/
  hung : Bool := false

namespace Journal

/-- The record of a context before anything is done with it. -/
def start (registry : Registry) : Journal σ where
  context := { registry }

/-- The waiting configurations with their numbers. -/
def line (journal : Journal σ) : Line σ :=
  journal.context.waiting.zip journal.numbers

/-- The record when the operation in which the given was done has left the context, if it has. -/
def leave (moments : List Moment) (journal : Journal σ) : Option (Context σ) → Journal σ
  | none => { journal with hung := true }
  | some context => { journal with context, moments := journal.moments ++ moments }

/-- Carries out an operation. -/
def step (all : List (Configuration σ)) (journal : Journal σ) : Operation σ → Journal σ
  | .queue id =>
    let context := journal.context.queue all id
    let added := (context.waiting.drop journal.context.waiting.length).map (·.configuration)
    { journal with
      context
      numbers := journal.numbers ++ List.range' journal.queued.length added.length
      queued := journal.queued ++ added }
  | .assemble =>
    let traced := journal.context.traceAssemble journal.line
    let recorded := { journal with
      numbers := journal.numbers.diff (doneIn traced.events)
      calls := journal.calls ++ traced.events.flatMap Turn.placedCalls }
    recorded.leave (traced.events.flatMap Turn.moments) (traced.result.map Prod.snd)
  | .load queued =>
    let traced := journal.context.traceLoad queued
    let loaded := traced.result.map (·.2.2)
    let added := loaded.toList.flatMap (·.active.drop journal.context.active.length)
    let recorded := { journal with outside := journal.outside ++ added }
    recorded.leave (traced.events.flatMap (·.moments)) loaded
  | .use procedure =>
    let traced := procedure.tracePerform 0 journal.context.registry
    journal.leave traced.events (traced.result.map fun answer =>
      { journal.context with registry := answer.2 })

/-- Carries out all operations in order, up to one that never ends. -/
def run (all : List (Configuration σ)) (journal : Journal σ) (operations : List (Operation σ)) :
    Journal σ :=
  operations.foldl
    (fun journal operation => if journal.hung then journal else journal.step all operation) journal

theorem run_cons (all : List (Configuration σ)) (journal : Journal σ) (operation : Operation σ)
    (rest : List (Operation σ)) :
    journal.run all (operation :: rest) =
      (if journal.hung then journal else journal.step all operation).run all rest := rfl

theorem run_cons_of_running {all : List (Configuration σ)} {journal : Journal σ}
    (running : journal.hung = false) (operation : Operation σ) (rest : List (Operation σ)) :
    journal.run all (operation :: rest) = (journal.step all operation).run all rest := by
  rw [run_cons, if_neg (by simp [running])]

theorem run_of_hung (all : List (Configuration σ)) {journal : Journal σ}
    (hung : journal.hung = true) (operations : List (Operation σ)) :
    journal.run all operations = journal := by
  induction operations with
  | nil => rfl
  | cons operation rest ih => rw [run_cons, if_pos hung, ih]

/-- What one operation keeps, and starts with, holds at the end of every run. -/
theorem run_induction {all : List (Configuration σ)} {motive : Journal σ → Prop}
    (keeps : ∀ journal operation, journal.hung = false → motive journal →
      motive (journal.step all operation)) {journal : Journal σ} (holds : motive journal)
    (operations : List (Operation σ)) : motive (journal.run all operations) := by
  induction operations generalizing journal with
  | nil => exact holds
  | cons operation rest ih =>
      rw [run_cons]
      apply ih
      split
      · exact holds
      · next running => exact keeps journal operation (by simpa using running) holds

theorem run_map_queue (all : List (Configuration σ)) (ids : List ConfigurationId)
    {journal : Journal σ} (goes : journal.hung = false) :
    (journal.run all (ids.map .queue)).context =
      ids.foldl (fun context id => context.queue all id) journal.context := by
  induction ids generalizing journal with
  | nil => rfl
  | cons id rest ih =>
      rw [List.map_cons, run_cons_of_running goes]
      exact ih goes

section Leaving

variable (left : Option (Context σ)) (moments : List Moment) (journal : Journal σ)

@[simp]
theorem leave_queued : (journal.leave moments left).queued = journal.queued := by
  cases left <;> rfl

@[simp]
theorem leave_numbers : (journal.leave moments left).numbers = journal.numbers := by
  cases left <;> rfl

@[simp]
theorem leave_calls : (journal.leave moments left).calls = journal.calls := by
  cases left <;> rfl

@[simp]
theorem leave_outside : (journal.leave moments left).outside = journal.outside := by
  cases left <;> rfl

theorem leave_context {journal : Journal σ} (running : journal.hung = false) :
    left = if (journal.leave moments left).hung then none
      else some (journal.leave moments left).context := by
  cases left with
  | none => rfl
  | some context => simp [leave, running]

end Leaving

/--
The record adds nothing to what an operation does: the context in it is the one that the operation
leaves, if it leaves any.
-/
theorem step_context {all : List (Configuration σ)} {journal : Journal σ}
    (running : journal.hung = false) (marked : journal.line.map (·.1) = journal.context.waiting)
    (operation : Operation σ) :
    journal.context.operate all operation =
      if (journal.step all operation).hung then none
      else some (journal.step all operation).context := by
  cases operation with
  | queue id => simp [Context.operate, step, running]
  | assemble =>
      have linedUp : journal.context.lineUp journal.line = journal.context := by
        rw [Context.lineUp, marked]
      rw [Context.operate, ← linedUp, ← Context.traceAssemble_result]
      exact leave_context _ _ (by exact running)
  | load queued =>
      rw [Context.operate, ← Context.traceLoad_result]
      exact leave_context _ _ (by exact running)
  | use procedure =>
      rw [Context.operate, ← Procedure.tracePerform_zero_result]
      exact leave_context _ _ running

end Journal

/-- The hooks called under the number, and how the calls ended. -/
def callsOf (number : Nat) (calls : List (Nat × HookCall σ)) : List (Stage × Ending) :=
  (calls.filter (·.1 == number)).map (·.2.summary)

/--
What the hooks of one queued configuration went through: attempts that failed, followed by at most
one that did not, whose ending is given.
-/
inductive History : Option Ending → List (Stage × Ending) → Prop
  | nil : History none []
  | retry {last : Option Ending} {error : ConfigurationError}
      {attempt later : List (Stage × Ending)}
      (failed : Attempt (.failed error) attempt) (history : History last later) :
      History last (attempt ++ later)
  | final {ending : Ending} {attempt : List (Stage × Ending)} (last : Attempt ending attempt)
      (notFailed : ∀ error, ending ≠ .failed error) : History (some ending) attempt

section Histories

variable {number other : Nat} {calls later : List (Nat × HookCall σ)}

@[simp]
theorem callsOf_append :
    callsOf number (calls ++ later) = callsOf number calls ++ callsOf number later := by
  simp [callsOf]

@[simp]
theorem callsOf_own (hooks : List (HookCall σ)) :
    callsOf number (hooks.map fun call => (number, call)) = hooks.map HookCall.summary := by
  have own : (hooks.map fun call => (number, call)).filter (·.1 == number) =
      hooks.map fun call => (number, call) := by
    simp [List.filter_eq_self]
  simp [callsOf, own]

theorem callsOf_eq_nil (absent : ∀ call ∈ calls, call.1 ≠ number) : callsOf number calls = [] := by
  simpa [callsOf] using absent

theorem History.append {last : Option Ending} {earlier later : List (Stage × Ending)}
    (retries : History none earlier) (history : History last later) :
    History last (earlier ++ later) := by
  generalize none_eq : (none : Option Ending) = ending at retries
  induction retries with
  | nil => exact history
  | retry failed _ ih =>
      rw [List.append_assoc]
      exact .retry failed (ih none_eq)
  | final _ _ => cases none_eq

theorem History.of_failed {error : ConfigurationError} {attempt : List (Stage × Ending)}
    (failed : Attempt (.failed error) attempt) : History none attempt := by
  have history := History.retry failed .nil
  rwa [List.append_nil] at history

end Histories

/--
The calls made while the waiting numbers change from the earlier to the later ones. What goes on
waiting has failed, unless it hangs, and what does not wait any more has been loaded.
-/
structure Advances (before after : List Nat) (calls : List (Nat × HookCall σ)) (hung : Bool) :
    Prop where
  sublist : after.Sublist before
  known : ∀ call ∈ calls, call.1 ∈ before
  waits : ∀ number ∈ after, History none (callsOf number calls) ∨
    (hung = true ∧ History (some .hung) (callsOf number calls))
  loaded : ∀ number ∈ before, number ∉ after → History (some .completed) (callsOf number calls)

namespace Advances

theorem rest (numbers : List Nat) (hung : Bool) :
    Advances numbers numbers ([] : List (Nat × HookCall σ)) hung where
  sublist := List.Sublist.refl numbers
  known := by simp
  waits number _ := Or.inl History.nil
  loaded number number_mem absent := absurd number_mem absent

theorem trans {first second third : List Nat} {calls later : List (Nat × HookCall σ)} {hung : Bool}
    (left : Advances first second calls false) (right : Advances second third later hung) :
    Advances first third (calls ++ later) hung where
  sublist := right.sublist.trans left.sublist
  known call call_mem := by
    rcases List.mem_append.mp call_mem with call_mem | call_mem
    · exact left.known call call_mem
    · exact left.sublist.subset (right.known call call_mem)
  waits number number_mem := by
    rw [callsOf_append]
    have retries : History none (callsOf number calls) := by
      simpa using left.waits number (right.sublist.subset number_mem)
    rcases right.waits number number_mem with history | ⟨hangs, history⟩
    · exact Or.inl (retries.append history)
    · exact Or.inr ⟨hangs, retries.append history⟩
  loaded number number_mem absent := by
    rw [callsOf_append]
    by_cases waited : number ∈ second
    · have retries : History none (callsOf number calls) := by
        simpa using left.waits number waited
      exact retries.append (right.loaded number waited absent)
    · have none : callsOf number later = [] := by
        apply callsOf_eq_nil
        rintro call call_mem rfl
        exact waited (right.known call call_mem)
      rw [none, List.append_nil]
      exact left.loaded number number_mem waited

theorem callsOf_other {number other : Nat} {hooks : List (HookCall σ)} (different : other ≠ number) :
    callsOf other (hooks.map fun call => (number, call)) = [] := by
  apply callsOf_eq_nil
  intro call call_mem
  rcases List.mem_map.mp call_mem with ⟨hook, _, rfl⟩
  exact different.symm

section Attempts

variable {number : Nat} {numbers front behind : List Nat} {hooks : List (HookCall σ)}

theorem known_own (number_mem : number ∈ numbers) :
    ∀ call ∈ hooks.map fun call => (number, call), call.1 ∈ numbers := by
  intro call call_mem
  rcases List.mem_map.mp call_mem with ⟨hook, _, rfl⟩
  exact number_mem

/-- An attempt that does not complete leaves its number waiting, and does not touch the others. -/
theorem of_attempt {ending : Ending} {hung : Bool}
    (attempt : Attempt ending (hooks.map HookCall.summary)) (incomplete : ending ≠ .completed)
    (hangs : ending = .hung → hung = true) (number_mem : number ∈ numbers) :
    Advances numbers numbers (hooks.map fun call => (number, call)) hung where
  sublist := List.Sublist.refl _
  known := known_own number_mem
  waits other other_mem := by
    by_cases same : other = number
    · subst same
      rw [callsOf_own]
      cases ending with
      | completed => exact absurd rfl incomplete
      | failed error => exact Or.inl (.of_failed attempt)
      | hung => exact Or.inr ⟨hangs rfl, .final attempt (by simp)⟩
    · rw [callsOf_other same]
      exact Or.inl .nil
  loaded other other_mem absent := absurd other_mem absent

/-- A completed attempt takes its number out of the queue. -/
theorem of_completed (attempt : Attempt .completed (hooks.map HookCall.summary))
    (fresh : number ∉ front ++ behind) :
    Advances (front ++ number :: behind) (front ++ behind) (hooks.map fun call => (number, call))
      false where
  sublist := (List.sublist_cons_self number behind).append_left front
  known := known_own (List.mem_append_right front List.mem_cons_self)
  waits other other_mem := by
    have different : other ≠ number := by
      rintro rfl
      exact fresh other_mem
    rw [callsOf_other different]
    exact Or.inl .nil
  loaded other other_mem absent := by
    have same : other = number := by
      simp only [List.mem_append, List.mem_cons] at other_mem absent
      grind
    rw [same, callsOf_own]
    exact .final attempt (by simp)

end Attempts

end Advances

section Turns

variable {line between left : Line σ} {context next after : Context σ} {turn : Turn σ}
  {turns : List (Turn σ)} {stop : Option Ending}

theorem Goes.advances (goes : Goes line context turn between next)
    (nodup : (line.map (·.2)).Nodup) :
    Advances (line.map (·.2)) (between.map (·.2)) turn.placedCalls false := by
  cases goes with
  | @waits front behind queued place _ missing =>
      have none : Turn.calls ⟨place, queued, context.registry⟩ = [] :=
        Turn.calls_of_missing missing
      simp only [Turn.placedCalls, none, List.map_nil, List.map_append, List.map_cons]
      exact .rest _ false
  | loads attempt loaded =>
      rw [List.map_append, List.map_cons] at nodup ⊢
      rw [List.map_append]
      exact .of_completed attempt (List.nodup_cons.mp (List.nodup_middle.mp nodup)).1

/-- All turns together take out of the queue what completes, and leave the rest waiting. -/
theorem Proceeds.advances (proceeds : Proceeds line context turns stop left after)
    (nodup : (line.map (·.2)).Nodup) :
    Advances (line.map (·.2)) (left.map (·.2)) (turns.flatMap (·.placedCalls))
      (stop = some .hung) := by
  induction proceeds with
  | nil => exact .rest _ _
  | cons goes proceeds ih =>
      have first := goes.advances nodup
      exact first.trans (ih (first.sublist.nodup nodup))
  | fails attempt fails loaded =>
      simp only [List.flatMap_singleton, List.map_append, List.map_cons]
      exact .of_attempt attempt (by simp) (by simp) (by simp)
  | hangs attempt =>
      simp only [List.flatMap_singleton, List.map_append, List.map_cons]
      exact .of_attempt attempt (by simp) (by simp) (by simp)

end Turns

end BeanContainer
