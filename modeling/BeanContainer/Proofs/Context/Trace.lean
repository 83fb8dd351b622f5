import BeanContainer.Proofs.Context.Passes
import BeanContainer.Proofs.Registry.Filings

/-!
# The turns of an assembly

An assembly takes up the waiting configurations one after the other. At its turn, a configuration is
looked at: what is registered by then is struck out of what it misses, and if nothing is left, its
hooks are called. Here an assembly tells its turns, each with the configuration as it waited and the
registry as it was. The queue is marked for this: each configuration in it carries its place. Nothing
else is added, so without the turns and the places the assembly is the one that tells nothing.
-/

namespace BeanContainer

variable {σ : Type}

/-- A configuration taken up: where it stood in the queue, how it waited, and the registry then. -/
structure Turn (σ : Type) where
  place : Nat
  queued : Queued σ
  registry : Registry

namespace Turn

/-- The hooks called at the turn. -/
def calls (turn : Turn σ) : List (HookCall σ) :=
  turn.queued.hookCalls turn.registry

/-- What is done at the turn. -/
def moments (turn : Turn σ) : List Moment :=
  turn.queued.moments turn.registry

/-- The attempts at registering that are made at the turn. -/
def filings (turn : Turn σ) : List Filing :=
  filingsIn turn.moments

/-- How the last hook called at the turn ended, if any was called. -/
def ending? (turn : Turn σ) : Option Ending :=
  turn.calls.getLast?.map (·.ending)

/-- All hooks were called, and all of them completed. -/
def completes (turn : Turn σ) : Bool :=
  turn.ending? = some .completed

/-- The active configuration is the one whose turn it was. -/
def GivesRise (turn : Turn σ) (active : Active σ) : Prop :=
  active.id = turn.queued.id ∧ active.configuration = turn.queued.configuration

end Turn

namespace Turn

variable {turn : Turn σ} {ending : Ending}

theorem ending?_of_attempt (attempt : Attempt ending (turn.calls.map HookCall.summary)) :
    turn.ending? = some ending := by
  rcases attempt.exists_getLast? with ⟨stage, ends⟩
  rw [List.getLast?_map, Option.map_eq_some_iff] at ends
  rcases ends with ⟨call, isLast, summary_eq⟩
  have ends : call.ending = ending := congrArg Prod.snd summary_eq
  rw [ending?, isLast, Option.map_some, ends]

theorem completes_of_attempt (attempt : Attempt ending (turn.calls.map HookCall.summary)) :
    turn.completes = decide (ending = .completed) := by
  rw [completes, ending?_of_attempt attempt]
  simp

theorem calls_of_missing (missing : (turn.queued.pruned turn.registry).missing ≠ []) :
    turn.calls = [] :=
  List.eq_nil_iff_forall_not_mem.mpr fun _ call_mem =>
    missing (Context.mem_hookCalls call_mem).2.1

theorem ending?_of_missing (missing : (turn.queued.pruned turn.registry).missing ≠ []) :
    turn.ending? = none := by
  simp [ending?, calls_of_missing missing]

theorem completes_of_missing (missing : (turn.queued.pruned turn.registry).missing ≠ []) :
    turn.completes = false := by
  simp [completes, ending?_of_missing missing]

theorem loadEnds (turn : Turn σ) : Context.LoadEnds turn.queued { registry := turn.registry } :=
  Context.loadEnds turn.queued { registry := turn.registry }

/-- Only the last hook called at a turn can have failed. -/
theorem ending?_of_call {call : HookCall σ} {error : ConfigurationError}
    (call_mem : call ∈ turn.calls) (failed : call.ending = .failed error) :
    turn.ending? = some (.failed error) ∧ ∃ before, turn.calls = before ++ [call] := by
  obtain ⟨ending, attempt⟩ : ∃ ending, Attempt ending (turn.calls.map HookCall.summary) := by
    cases turn.loadEnds with
    | missing missing => exact absurd (Context.mem_hookCalls call_mem).2.1 missing
    | hung _ attempt | failed _ attempt | completed _ attempt => exact ⟨_, attempt⟩
  rcases List.append_of_mem call_mem with ⟨before, behind, calls_eq⟩
  -- If another call followed, this one would have completed.
  have isLast : behind = [] := by
    by_contra goesOn
    have early : call ∈ turn.calls.dropLast := by
      rw [calls_eq, List.dropLast_append_of_ne_nil (by simp), List.dropLast_cons_of_ne_nil goesOn]
      simp
    have summary_mem : call.summary ∈ (turn.calls.map HookCall.summary).dropLast := by
      rw [← List.map_dropLast]
      exact List.mem_map_of_mem early
    have completed : call.ending = .completed := attempt.completed_of_mem_dropLast _ summary_mem
    rw [failed] at completed
    cases completed
  subst isLast
  refine ⟨?_, before, calls_eq⟩
  rw [ending?, calls_eq, List.getLast?_concat, Option.map_some, failed]

end Turn

/-- The places of the turns that completed. -/
def doneIn (turns : List (Turn σ)) : List Nat :=
  (turns.filter (·.completes)).map (·.place)

@[simp]
theorem doneIn_cons (turn : Turn σ) (turns : List (Turn σ)) :
    doneIn (turn :: turns) = doneIn [turn] ++ doneIn turns := by
  cases completes : turn.completes <;> simp [doneIn, completes]

theorem doneIn_of_incomplete {turn : Turn σ} (incomplete : turn.completes = false) :
    doneIn [turn] = [] := by
  simp [doneIn, incomplete]

/-- A queue in which each configuration is marked with a place. -/
abbrev Line (σ : Type) := List (Queued σ × Nat)

namespace Context

/-- The context in which the configurations of the line wait. -/
def lineUp (line : Line σ) (context : Context σ) : Context σ :=
  { context with waiting := line.map (·.1) }

/-- A pass over the queue, with its turns. -/
def tracePass : Line σ → Line σ → Bool → Context σ →
    Traced (Turn σ) (Except ConfigurationError Bool × Line σ × Context σ)
  | [], still, progressed, context => .pure (.ok progressed, still, context)
  | (queued, place) :: rest, still, progressed, context =>
    .tell ⟨place, queued, context.registry⟩
      (match (context.traceLoad queued).result with
      | none => .stuck
      | some (.ok true, _, context) => tracePass rest still true context
      | some (.ok false, queued, context) =>
        tracePass rest (still ++ [(queued, place)]) progressed context
      | some (.error error, queued, context) =>
        .pure (.error error, still ++ (queued, place) :: rest, context))

/-- Passes over the queue until a pass loads nothing, with the turns of all of them. -/
def tracePasses : Nat → Line σ → Context σ →
    Traced (Turn σ) (Except ConfigurationError Unit × Line σ × Context σ)
  | more, line, context =>
    (tracePass line [] false context).bind fun
      | (.error error, line, context) => .pure (.error error, line, context)
      | (.ok false, line, context) => .pure (.ok (), line, context)
      | (.ok true, line, context) =>
        match more with
        | 0 => .pure (.ok (), line, context)
        | more + 1 => tracePasses more line context

/-- An assembly of what waits in the line, with its turns. -/
def traceAssemble (line : Line σ) (context : Context σ) :
    Traced (Turn σ) (Except ConfigurationError Unit × Context σ) :=
  (tracePasses line.length line context).map fun
    | (.error error, line, context) => (.error error, context.lineUp line)
    | (.ok (), line, context) => (context.lineUp line).conclude

/-- The turns of an assembly, with the places of the queue as it is before. -/
def turns (context : Context σ) : List (Turn σ) :=
  (context.traceAssemble context.waiting.zipIdx).events

/-- The answer with the line put back into the context. -/
def unmarked {α : Type} (answer : α × Line σ × Context σ) : α × Context σ :=
  (answer.1, answer.2.2.lineUp answer.2.1)

@[simp]
theorem lineUp_zipIdx (context : Context σ) (first : Nat) :
    context.lineUp (context.waiting.zipIdx first) = context := by
  simp [lineUp]

/-- A traced pass comes to what the pass comes to, whatever waits in the context meanwhile. -/
theorem tracePass_result (line still : Line σ) (progressed : Bool) (context : Context σ)
    (waiting : List (Queued σ)) :
    (tracePass line still progressed context).result.map unmarked =
      pass (line.map (·.1)) (still.map (·.1)) progressed { context with waiting } := by
  induction line generalizing still progressed context with
  | nil => rfl
  | cons entry rest ih =>
      rcases entry with ⟨queued, place⟩
      simp only [tracePass, Traced.tell_result, traceLoad_result, List.map_cons, pass,
        load_waiting queued context waiting]
      cases context.load queued with
      | none => rfl
      | some answer =>
          rcases answer with ⟨error | progress, pruned, after⟩
          · simp [unmarked, lineUp]
          · cases progress with
            | true => exact ih still true after
            | false =>
                simp only [Option.map_some]
                rw [ih (still ++ [(pruned, place)]) progressed after, List.map_append]
                rfl

theorem tracePasses_result (more : Nat) (line : Line σ) (context : Context σ) :
    (tracePasses more line context).result.map unmarked = (context.lineUp line).passes more := by
  have first : ∀ (line : Line σ) (context : Context σ),
      (tracePass line [] false context).result.map unmarked =
        pass (context.lineUp line).waiting [] false (context.lineUp line) :=
    fun line context => tracePass_result line [] false context _
  induction more generalizing line context with
  | zero =>
      rw [tracePasses, passes, Traced.bind_result, ← first]
      rcases (tracePass line [] false context).result with
        _ | ⟨error | progressed, left, after⟩
      · rfl
      · rfl
      · cases progressed <;> rfl
  | succ more ih =>
      rw [tracePasses, passes, Traced.bind_result, ← first]
      rcases (tracePass line [] false context).result with
        _ | ⟨error | progressed, left, after⟩
      · rfl
      · rfl
      · cases progressed with
        | false => rfl
        | true => exact ih left after

/-- A traced assembly comes to what the assembly comes to that tells nothing. -/
theorem traceAssemble_result (line : Line σ) (context : Context σ) :
    (context.traceAssemble line).result = (context.lineUp line).assemble := by
  have length_eq : (context.lineUp line).waiting.length = line.length := List.length_map _
  rw [traceAssemble, assemble, length_eq, ← tracePasses_result, Traced.map_result]
  rcases (tracePasses line.length line context).result with _ | ⟨error | _, left, after⟩ <;> rfl

end Context

end BeanContainer
