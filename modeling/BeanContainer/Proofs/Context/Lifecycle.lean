import BeanContainer.Proofs.Context.Journal

/-!
# The life of a queued configuration

In every run, a configuration is constructed only when all its resources are registered. It waits
and may fail any number of times until all its hooks complete in one attempt, and from then on it is
left alone.
-/

namespace BeanContainer

variable {σ : Type}

/-- How the last call ended, unless it failed. -/
def outcomeOf (calls : List (Stage × Ending)) : Option Ending :=
  match calls.getLast? with
  | some (_, .completed) => some .completed
  | some (_, .hung) => some .hung
  | _ => none

/-- The calls alone tell whether the last attempt completed or hangs. -/
theorem History.last_eq {last : Option Ending} {calls : List (Stage × Ending)}
    (history : History last calls) : last = outcomeOf calls := by
  induction history with
  | nil => rfl
  | @retry last error attempt later failed _ ih =>
      rcases failed.exists_getLast? with ⟨stage, ends⟩
      rw [ih]
      unfold outcomeOf
      rw [List.getLast?_append, ends]
      cases later.getLast? with
      | none => rfl
      | some call => rfl
  | @final ending attempt isAttempt notFailed =>
      rcases isAttempt.exists_getLast? with ⟨stage, ends⟩
      unfold outcomeOf
      rw [ends]
      cases ending with
      | completed => rfl
      | failed error => exact absurd rfl (notFailed error)
      | hung => rfl

/-- The waiting configuration has the number that it was queued under. -/
def IsNumbered (queued : List (Configuration σ)) (entry : Queued σ × Nat) : Prop :=
  queued[entry.2]? = some entry.1.configuration

/--
A call is made under the number of its configuration, and the first hook only when all resources are
registered.
-/
def IsGated (queued : List (Configuration σ)) (call : Nat × HookCall σ) : Prop :=
  queued[call.1]? = some call.2.configuration ∧
    (call.2.stage = .construct → call.2.configuration.IsSatisfied call.2.registry)

section Numbers

variable {queued : List (Configuration σ)} (added : List (Configuration σ))

theorem getElem?_append_of_some {number : Nat} {configuration : Configuration σ}
    (known : queued[number]? = some configuration) :
    (queued ++ added)[number]? = some configuration := by
  rwa [List.getElem?_append_left (List.getElem?_eq_some_iff.mp known).1]

theorem IsGated.append {call : Nat × HookCall σ} (gated : IsGated queued call) :
    IsGated (queued ++ added) call :=
  ⟨getElem?_append_of_some added gated.1, gated.2⟩

end Numbers

/-- A configuration keeps its number, and keeps track of its resources, as long as it waits. -/
theorem lasts_numbered (queued : List (Configuration σ)) :
    Lasts fun registry entry => IsNumbered queued entry ∧ entry.1.Tracks registry where
  pruned holds := ⟨holds.1, holds.2.pruned⟩
  grown grown holds := ⟨holds.1, holds.2.of_grown grown⟩

theorem Turn.isGated_of_mem_placedCalls {queued : List (Configuration σ)} {turn : Turn σ}
    (numbered : IsNumbered queued (turn.queued, turn.place))
    (tracks : turn.queued.Tracks turn.registry) :
    ∀ call ∈ turn.placedCalls, IsGated queued call := by
  intro call call_mem
  rcases List.mem_map.mp call_mem with ⟨hook, hook_mem, rfl⟩
  rcases Context.mem_hookCalls hook_mem with ⟨configuration_eq, satisfied, first⟩
  refine ⟨by rw [configuration_eq]; exact numbered, ?_⟩
  intro isConstruct
  rw [configuration_eq, first isConstruct]
  exact tracks.pruned_missing_eq_nil_iff.mp satisfied

section Places

variable {line between left : Line σ} {context next after : Context σ} {turn : Turn σ}
  {turns : List (Turn σ)} {stop : Option Ending}

theorem Goes.places (goes : Goes line context turn between next)
    (nodup : (line.map (·.2)).Nodup) :
    between.map (·.2) = (line.map (·.2)).diff (doneIn [turn]) := by
  cases goes with
  | @waits front behind queued place context missing =>
      have incomplete : Turn.completes ⟨place, queued, context.registry⟩ = false :=
        Turn.completes_of_missing missing
      rw [doneIn_of_incomplete incomplete]
      simp
  | loads attempt loaded =>
      have completes := Turn.completes_of_attempt attempt
      rw [List.map_append, List.map_cons] at nodup
      have fresh := (List.nodup_cons.mp (List.nodup_middle.mp nodup)).1
      rw [List.mem_append, not_or] at fresh
      simp [doneIn, completes, List.erase_append_right _ fresh.1]

/-- What goes on waiting after the turns is what waited before and did not complete. -/
theorem Proceeds.places (proceeds : Proceeds line context turns stop left after)
    (nodup : (line.map (·.2)).Nodup) :
    left.map (·.2) = (line.map (·.2)).diff (doneIn turns) := by
  induction proceeds with
  | nil => rfl
  | cons goes proceeds ih =>
      have first := goes.places nodup
      have nodupAfter := nodup.sublist (first ▸ List.diff_sublist _ _)
      rw [ih nodupAfter, first, ← List.diff_append, ← doneIn_cons]
  | fails attempt fails loaded =>
      rw [doneIn_of_incomplete (by simp [Turn.completes_of_attempt attempt])]
      simp
  | hangs attempt =>
      rw [doneIn_of_incomplete (by simp [Turn.completes_of_attempt attempt])]
      simp

end Places

/-- Newly queued configurations take the next numbers. -/
theorem Advances.extend {size count : Nat} {numbers : List Nat} {calls : List (Nat × HookCall σ)}
    {hung : Bool} (advances : Advances (List.range size) numbers calls hung) :
    Advances (List.range (size + count)) (numbers ++ List.range' size count) calls hung where
  sublist := by
    rw [List.range_add, ← List.range'_eq_map_range]
    exact advances.sublist.append (List.Sublist.refl _)
  known call call_mem := by
    have := List.mem_range.mp (advances.known call call_mem)
    exact List.mem_range.mpr (by omega)
  waits number number_mem := by
    rcases List.mem_append.mp number_mem with number_mem | number_mem
    · exact advances.waits number number_mem
    · have none : callsOf number calls = [] := by
        apply callsOf_eq_nil
        rintro call call_mem rfl
        have := List.mem_range.mp (advances.known call call_mem)
        have := (List.mem_range'_1.mp number_mem).1
        omega
      rw [none]
      exact Or.inl .nil
  loaded number number_mem absent := by
    rw [List.mem_append, not_or, List.mem_range'_1] at absent
    rw [List.mem_range] at number_mem
    exact advances.loaded number (List.mem_range.mpr (by omega)) absent.1

theorem Advances.of_hung {before after : List Nat} {calls : List (Nat × HookCall σ)} {hung : Bool}
    (advances : Advances before after calls hung) : Advances before after calls true where
  sublist := advances.sublist
  known := advances.known
  waits number number_mem := by
    rcases advances.waits number number_mem with history | ⟨_, history⟩
    · exact Or.inl history
    · exact Or.inr ⟨rfl, history⟩
  loaded := advances.loaded

namespace Journal

/-- What holds of the record at every moment of a run. -/
structure Valid (journal : Journal σ) : Prop where
  waits : ∃ line : Line σ, line.map (·.1) = journal.context.waiting ∧
    (journal.hung = false → line.map (·.2) = journal.numbers) ∧
    ∀ entry ∈ line, IsNumbered journal.queued entry ∧ entry.1.Tracks journal.context.registry
  gated : ∀ call ∈ journal.calls, IsGated journal.queued call
  advances : Advances (List.range journal.queued.length) journal.numbers journal.calls journal.hung

theorem valid_start (registry : Registry) : (start registry : Journal σ).Valid where
  waits := ⟨[], rfl, fun _ => rfl, by simp⟩
  gated := by simp [start]
  advances := .rest [] false

namespace Valid

variable {all : List (Configuration σ)} {journal : Journal σ}

theorem nodup (valid : journal.Valid) : journal.numbers.Nodup :=
  valid.advances.sublist.nodup List.nodup_range

theorem tracks (valid : journal.Valid) : journal.context.Tracks := by
  rcases valid.waits with ⟨line, waiting_eq, _, holds⟩
  rw [Context.Tracks, ← waiting_eq]
  exact List.forall_mem_map.mpr fun entry entry_mem => (holds entry entry_mem).2

/-- As long as no operation hangs, the numbers are those of the waiting configurations. -/
theorem line (valid : journal.Valid) (running : journal.hung = false) :
    journal.line.map (·.1) = journal.context.waiting ∧ journal.line.map (·.2) = journal.numbers ∧
      ∀ entry ∈ journal.line,
        IsNumbered journal.queued entry ∧ entry.1.Tracks journal.context.registry := by
  rcases valid.waits with ⟨line, waiting_eq, numbers_eq, holds⟩
  have line_eq : journal.line = line := (List.zip_of_prod waiting_eq (numbers_eq running)).symm
  rw [line_eq]
  exact ⟨waiting_eq, numbers_eq running, holds⟩

/-- What an operation leaves, apart from what is recorded of it. -/
inductive Leaves (all : List (Configuration σ)) (journal next : Journal σ) : Prop
  | hung (sameContext : next.context = journal.context) (sameOutside : next.outside = journal.outside)
  | queued (id : ConfigurationId) (queues : next.context = journal.context.queue all id)
      (sameOutside : next.outside = journal.outside)
  | assembled {outcome : Except ConfigurationError Unit}
      (ended : journal.context.assemble = some (outcome, next.context))
      (sameOutside : next.outside = journal.outside)
  | loaded {queued pruned : Queued σ} {outcome : Except ConfigurationError Bool}
      (ended : journal.context.load queued = some (outcome, pruned, next.context))
      (outside : next.outside =
        journal.outside ++ next.context.active.drop journal.context.active.length)
  | used {procedure : Procedure Registration Unit} {result : Unit} {registry : Registry}
      (ended : procedure.perform journal.context.registry = some (result, registry))
      (sameContext : next.context = { journal.context with registry })
      (sameOutside : next.outside = journal.outside)

/-- An operation that ends leaves what the operation of the context leaves. -/
theorem leaves (valid : journal.Valid) (running : journal.hung = false) (operation : Operation σ) :
    Leaves all journal (journal.step all operation) := by
  cases operation with
  | queue id => exact .queued id rfl rfl
  | assemble =>
      have linedUp : journal.context.lineUp journal.line = journal.context := by
        rw [Context.lineUp, (valid.line running).1]
      simp only [Journal.step]
      cases assembled : (journal.context.traceAssemble journal.line).result with
      | none => exact .hung rfl rfl
      | some answer =>
          rw [Context.traceAssemble_result, linedUp] at assembled
          exact .assembled assembled rfl
  | load queued =>
      simp only [Journal.step]
      cases loaded : (journal.context.traceLoad queued).result with
      | none => exact .hung rfl (List.append_nil _)
      | some answer =>
          rw [Context.traceLoad_result] at loaded
          exact .loaded loaded (congrArg (journal.outside ++ ·) (List.append_nil _))
  | use procedure =>
      simp only [Journal.step]
      cases performed : (procedure.tracePerform 0 journal.context.registry).result with
      | none => exact .hung rfl rfl
      | some answer =>
          rw [Procedure.tracePerform_zero_result] at performed
          exact .used performed rfl rfl

/-- The configurations put behind the queue take the numbers that follow. -/
theorem queue (valid : journal.Valid) (id : ConfigurationId) :
    (journal.step all (.queue id)).Valid := by
  rcases Context.queue_queues all id journal.context with ⟨added, queues⟩
  have added_eq : (journal.context.queue all id).waiting.drop journal.context.waiting.length =
      added := by
    rw [queues.waiting, List.drop_left]
  refine ⟨?_, fun call call_mem => (valid.gated call call_mem).append _, ?_⟩
  · rcases valid.waits with ⟨line, waiting_eq, numbers_eq, holds⟩
    simp only [step, added_eq, List.length_map]
    refine ⟨line ++ added.zipIdx journal.queued.length, ?_, ?_, ?_⟩
    · simp [waiting_eq, queues.waiting]
    · intro running
      simp [numbers_eq running]
    · rw [List.forall_mem_append]
      constructor
      · intro entry entry_mem
        exact ⟨getElem?_append_of_some _ (holds entry entry_mem).1,
          (holds entry entry_mem).2.of_grown queues.grows.beans⟩
      · rintro ⟨queued, number⟩ entry_mem
        rcases List.mk_mem_zipIdx_iff_le_and_getElem?_sub.mp entry_mem with ⟨later, found⟩
        refine ⟨?_, ?_⟩
        · rw [IsNumbered, List.getElem?_append_right later, List.getElem?_map, found,
            Option.map_some]
        · rcases queues.fresh queued (List.mem_of_getElem? found) with ⟨id, configuration, rfl⟩
          exact Queued.tracks_ofConfiguration id configuration _
  · simp only [step, added_eq, List.length_append, List.length_map]
    exact valid.advances.extend

/-- An operation that leaves the queue as it is leaves the record valid. -/
theorem leave (valid : journal.Valid) {moments : List Moment} {left : Option (Context σ)}
    (keeps : ∀ after, left = some after →
      after.waiting = journal.context.waiting ∧ journal.context.Grows after) :
    (journal.leave moments left).Valid := by
  rcases valid.waits with ⟨line, waiting_eq, numbers_eq, holds⟩
  cases left with
  | none =>
      exact ⟨⟨line, waiting_eq, by simp [Journal.leave], holds⟩, valid.gated,
        valid.advances.of_hung⟩
  | some after =>
      rcases keeps after rfl with ⟨waiting_after, grows⟩
      refine ⟨⟨line, waiting_eq.trans waiting_after.symm, numbers_eq, ?_⟩, valid.gated,
        valid.advances⟩
      exact fun entry entry_mem =>
        ⟨(holds entry entry_mem).1, (holds entry entry_mem).2.of_grown grows.beans⟩

theorem load (valid : journal.Valid) (queued : Queued σ) :
    (journal.step all (.load queued)).Valid := by
  have recorded : ∀ outside, ({ journal with outside } : Journal σ).Valid := fun _ =>
    ⟨valid.waits, valid.gated, valid.advances⟩
  refine (recorded _).leave fun after left => ?_
  rw [Context.traceLoad_result] at left
  rcases Option.map_eq_some_iff.mp left with ⟨answer, loaded, rfl⟩
  exact ⟨Context.waiting_of_load loaded, Context.load_grows loaded⟩

theorem use (valid : journal.Valid) (procedure : Procedure Registration Unit) :
    (journal.step all (.use procedure)).Valid := by
  refine valid.leave fun after left => ?_
  rw [Procedure.tracePerform_zero_result] at left
  rcases Option.map_eq_some_iff.mp left with ⟨answer, performed, rfl⟩
  exact ⟨rfl, Procedure.perform_beans_grow performed, Procedure.perform_restores performed⟩

/-- An assembly calls hooks under the numbers of what waits, and lets it wait or completes it. -/
theorem advances_assemble (valid : journal.Valid) (running : journal.hung = false) :
    let traced := journal.context.traceAssemble journal.line
    Advances journal.numbers (journal.numbers.diff (doneIn traced.events))
      (traced.events.flatMap Turn.placedCalls) traced.result.isNone := by
  intro traced
  rcases valid.line running with ⟨_, numbers_eq, _⟩
  rcases Context.exists_proceeds journal.line journal.context with
    ⟨stop, left, settled, proceeds, hangs_iff, _, _⟩
  have nodup : (journal.line.map (·.2)).Nodup := numbers_eq ▸ valid.nodup
  have advances := proceeds.advances nodup
  have hung_eq : traced.result.isNone = decide (stop = some .hung) := by
    rw [Bool.eq_iff_iff, Option.isNone_iff_eq_none, decide_eq_true_iff]
    exact hangs_iff
  rw [proceeds.places nodup, numbers_eq] at advances
  rwa [hung_eq]

theorem assemble (valid : journal.Valid) (running : journal.hung = false) :
    (journal.step all .assemble).Valid := by
  rcases valid.line running with ⟨waiting_eq, numbers_eq, holds⟩
  rcases Context.exists_proceeds journal.line journal.context with
    ⟨stop, left, settled, proceeds, _, _, ends⟩
  rcases (lasts_numbered journal.queued).proceeds proceeds holds with ⟨atTurns, holdsAfter⟩
  have places := proceeds.places (numbers_eq ▸ valid.nodup)
  rw [numbers_eq] at places
  have advances := valid.advances
  rw [running] at advances
  have advancesOn := advances.trans (valid.advances_assemble running)
  have gated : ∀ call ∈ journal.calls ++ (journal.context.traceAssemble
      journal.line).events.flatMap Turn.placedCalls, IsGated journal.queued call := by
    rw [List.forall_mem_append, List.forall_mem_flatMap]
    exact ⟨valid.gated, fun turn turn_mem =>
      Turn.isGated_of_mem_placedCalls (atTurns turn turn_mem).1 (atTurns turn turn_mem).2⟩
  simp only [step]
  cases ended : (journal.context.traceAssemble journal.line).result with
  | none =>
      rw [ended] at advancesOn
      exact ⟨⟨journal.line, waiting_eq, by simp [Journal.leave], holds⟩, gated, advancesOn⟩
  | some answer =>
      rcases answer with ⟨outcome, after⟩
      rw [ended, Option.isNone_some, ← running] at advancesOn
      refine ⟨⟨left, ?_, fun _ => places, ?_⟩, gated, advancesOn⟩
      · rcases ends outcome after ended with rfl | ⟨count, rfl⟩ <;> rfl
      · rcases ends outcome after ended with rfl | ⟨count, rfl⟩ <;> exact holdsAfter

theorem step (valid : journal.Valid) (running : journal.hung = false) (operation : Operation σ) :
    (journal.step all operation).Valid := by
  cases operation with
  | queue id => exact valid.queue id
  | assemble => exact valid.assemble running
  | load queued => exact valid.load queued
  | use procedure => exact valid.use procedure

theorem run (valid : journal.Valid) (operations : List (Operation σ)) :
    (journal.run all operations).Valid :=
  run_induction (fun _ operation running valid => valid.step running operation) valid operations

/-- What one operation keeps of a valid record holds at the end of every run. -/
theorem run_induction {motive : Journal σ → Prop}
    (keeps : ∀ journal operation, journal.Valid → journal.hung = false → motive journal →
      motive (journal.step all operation)) (valid : journal.Valid) (holds : motive journal)
    (operations : List (Operation σ)) : motive (journal.run all operations) := by
  have both : (journal.run all operations).Valid ∧ motive (journal.run all operations) :=
    Journal.run_induction (motive := fun journal => journal.Valid ∧ motive journal)
      (fun journal operation running holds => ⟨holds.1.step running operation,
        keeps journal operation holds.1 running holds.2⟩) ⟨valid, holds⟩ operations
  exact both.2

end Valid

/-- The number was given to a configuration that does not wait any more. -/
def Done (journal : Journal σ) (number : Nat) : Prop :=
  number < journal.queued.length ∧ number ∉ journal.numbers

/-- No operation calls a hook under a number that is done, or lets it wait again. -/
theorem Done.step {all : List (Configuration σ)} {journal : Journal σ} {number : Nat}
    (done : journal.Done number) (valid : journal.Valid) (running : journal.hung = false)
    (operation : Operation σ) :
    (journal.step all operation).Done number ∧
      callsOf number (journal.step all operation).calls = callsOf number journal.calls := by
  rcases done with ⟨known, absent⟩
  cases operation with
  | queue id =>
      refine ⟨⟨?_, ?_⟩, rfl⟩
      · simp only [Journal.step, List.length_append]
        omega
      · simp only [Journal.step, List.mem_append, List.mem_range'_1, not_or]
        exact ⟨absent, by omega⟩
  | assemble =>
      have made := valid.advances_assemble running
      have none : callsOf number ((journal.context.traceAssemble
          journal.line).events.flatMap Turn.placedCalls) = [] := by
        apply callsOf_eq_nil
        rintro call call_mem rfl
        exact absent (made.known call call_mem)
      have stillAbsent := fun number_mem => absent (made.sublist.subset number_mem)
      simp only [Done, Journal.step, leave_queued, leave_numbers, leave_calls, callsOf_append, none,
        List.append_nil]
      exact ⟨⟨known, stillAbsent⟩, trivial⟩
  | load queued | use procedure =>
      simp only [Done, Journal.step, leave_queued, leave_numbers, leave_calls]
      exact ⟨⟨known, absent⟩, trivial⟩

theorem Done.callsOf_run {all : List (Configuration σ)} {journal : Journal σ} {number : Nat}
    (done : journal.Done number) (valid : journal.Valid) (operations : List (Operation σ)) :
    callsOf number (journal.run all operations).calls = callsOf number journal.calls := by
  have kept : (journal.run all operations).Valid ∧ (journal.run all operations).Done number ∧
      callsOf number (journal.run all operations).calls = callsOf number journal.calls := by
    apply run_induction (motive := fun current => current.Valid ∧ current.Done number ∧
      callsOf number current.calls = callsOf number journal.calls) ?_ ⟨valid, done, rfl⟩ operations
    rintro current operation running ⟨valid, done, same⟩
    rcases done.step valid running operation with ⟨doneAfter, sameStep⟩
    exact ⟨valid.step running operation, doneAfter, sameStep.trans same⟩
  exact kept.2.2

/-- The hooks under each number have a history, and it is complete exactly if the number is done. -/
theorem Valid.history {journal : Journal σ} (valid : journal.Valid) (number : Nat) :
    ∃ last, History last (callsOf number journal.calls) ∧
      (last = some .completed ↔ journal.Done number) ∧
      (last = some .hung → journal.hung = true) := by
  by_cases known : number < journal.queued.length
  · by_cases waits : number ∈ journal.numbers
    · rcases valid.advances.waits number waits with history | ⟨hangs, history⟩
      · exact ⟨none, history, by simp [Done, waits], by simp⟩
      · exact ⟨some .hung, history, by simp [Done, waits], fun _ => hangs⟩
    · have history := valid.advances.loaded number (List.mem_range.mpr known) waits
      exact ⟨some .completed, history, by simp [Done, known, waits], by simp⟩
  · have noCalls : callsOf number journal.calls = [] := by
      apply callsOf_eq_nil
      rintro call call_mem rfl
      exact known (List.mem_range.mp (valid.advances.known call call_mem))
    rw [noCalls]
    exact ⟨none, .nil, by simp [Done, known], by simp⟩

/-- Apart from the record, a run does what the operations do that are carried out without one. -/
theorem Valid.run_context {all : List (Configuration σ)} {journal : Journal σ}
    (valid : journal.Valid) (running : journal.hung = false) (operations : List (Operation σ)) :
    journal.context.run all operations =
      if (journal.run all operations).hung then none
      else some (journal.run all operations).context := by
  induction operations generalizing journal with
  | nil => simp [Context.run, Journal.run, running]
  | cons operation rest ih =>
      have first : journal.context.operate all operation = _ :=
        step_context running (valid.line running).1 operation
      rw [Context.run, List.foldlM_cons, first, run_cons_of_running running]
      cases hung : (journal.step all operation).hung with
      | true =>
          rw [run_of_hung all hung, hung]
          rfl
      | false => exact ih (valid.step running operation) hung

/-- Where a run ends, the record has the context that it comes to. -/
theorem Valid.context_of_run {all : List (Configuration σ)} {journal : Journal σ}
    {reached : Context σ} {operations : List (Operation σ)} (valid : journal.Valid)
    (running : journal.hung = false) (ran : journal.context.run all operations = some reached) :
    (journal.run all operations).hung = false ∧ (journal.run all operations).context = reached := by
  rw [valid.run_context running] at ran
  simpa using ran

/--
A run comes to the same with its record and without. In every run, hooks are called under the numbers
of their configurations, and a configuration is constructed only on a registry that has all its
resources. What the hooks of each queued configuration go through is a sequence of failed attempts,
followed by a complete one exactly if the configuration does not wait any more. After a complete
attempt, nothing that is done later calls a hook of it again.
-/
theorem run_gated_with_histories (all : List (Configuration σ)) (registry : Registry)
    (operations : List (Operation σ)) :
    let journal : Journal σ := (start registry).run all operations
    Context.run all { registry } operations =
      (if journal.hung then none else some journal.context) ∧
    (∀ call ∈ journal.calls, journal.queued[call.1]? = some call.2.configuration ∧
      (call.2.stage = .construct → ∀ resource ∈ call.2.configuration.resources,
        call.2.registry.contains resource.name = true)) ∧
    (∀ number, ∃ last, History last (callsOf number journal.calls) ∧
      (last = some .completed ↔ journal.Done number) ∧
      (last = some .hung → journal.hung = true)) ∧
    ∀ number, History (some .completed) (callsOf number journal.calls) →
      ∀ later, callsOf number (journal.run all later).calls = callsOf number journal.calls := by
  intro journal
  have valid : journal.Valid := (valid_start registry).run operations
  refine ⟨(valid_start registry).run_context rfl operations, valid.gated, valid.history, ?_⟩
  intro number completed later
  rcases valid.history number with ⟨last, history, done_iff, _⟩
  have last_eq : last = some .completed := by rw [history.last_eq, ← completed.last_eq]
  exact (done_iff.mp last_eq).callsOf_run valid later

end Journal

end BeanContainer
