import BeanContainer.Proofs.Context.CycleSearch
import BeanContainer.Proofs.Context.Lifecycle
import BeanContainer.Proofs.Context.Supplying

/-!
# The diagnosis of a stuck assembly

An assembly that neither completes nor fails in a hook leaves configurations waiting, each for
exactly those of its resources that are not registered. It reports a cycle exactly if following the
missing resources to their last declarers leads from some configuration back to it. Otherwise it
reports all that is pending, and something among that nobody declares. Assembling again changes
nothing.
-/

namespace BeanContainer.Context

variable {σ : Type}

/--
The configuration at one place of the queue misses a resource of which the one at the other place is
the last declarer in the queue.
-/
def Awaits (context : Context σ) (place other : Nat) : Prop :=
  ∃ queued, context.waiting[place]? = some queued ∧
    ∃ resource ∈ queued.missing,
      (∃ source, context.waiting[other]? = some source ∧
        resource ∈ source.configuration.beanNames) ∧
      ∀ later declarer, context.waiting[later]? = some declarer →
        resource ∈ declarer.configuration.beanNames → later ≤ other

/-- Following missing resources to their last declarers leads back to where it started. -/
def HasCircle (context : Context σ) : Prop :=
  ∃ place, Relation.TransGen context.Awaits place place

/-- A hook fails with the error in the course of an assembly. -/
def HookFails (context : Context σ) (error : ConfigurationError) : Prop :=
  ∃ turn ∈ context.turns, ∃ call ∈ turn.calls, call.ending = .failed error

theorem not_hookFails_of_no_calls {context : Context σ}
    (noCall : (context.turns.flatMap (·.calls)).length = 0) (error : ConfigurationError) :
    ¬context.HookFails error := by
  rintro ⟨turn, turn_mem, call, call_mem, _⟩
  have told : call ∈ context.turns.flatMap (·.calls) :=
    List.mem_flatMap.mpr ⟨turn, turn_mem, call_mem⟩
  rw [List.length_eq_zero_iff.mp noCall] at told
  cases told

theorem declares_nodes_iff {context : Context σ} {place : Nat} {bean : String} :
    Node.Declares context.nodes place bean ↔
      ∃ queued, context.waiting[place]? = some queued ∧ bean ∈ queued.configuration.beanNames := by
  simp only [Node.Declares, nodes, List.getElem?_map, Option.map_eq_some_iff]
  constructor
  · rintro ⟨_, ⟨queued, found, rfl⟩, declared⟩
    exact ⟨queued, found, declared⟩
  · rintro ⟨queued, found, declared⟩
    exact ⟨_, ⟨queued, found, rfl⟩, declared⟩

theorem isSource_nodes_iff {context : Context σ} {place : Nat} {bean : String} :
    Node.IsSource context.nodes bean place ↔
      (∃ source, context.waiting[place]? = some source ∧
        bean ∈ source.configuration.beanNames) ∧
      ∀ later declarer, context.waiting[later]? = some declarer →
        bean ∈ declarer.configuration.beanNames → later ≤ place := by
  rw [Node.IsSource, declares_nodes_iff]
  apply and_congr_right
  intro _
  constructor
  · intro isLast later declarer found declared
    exact isLast later (declares_nodes_iff.mpr ⟨declarer, found, declared⟩)
  · intro isLast later declares
    rcases declares_nodes_iff.mp declares with ⟨declarer, found, declared⟩
    exact isLast later declarer found declared

theorem requires_nodes_iff {context : Context σ} {place other : Nat} :
    Node.Requires context.nodes place other ↔ context.Awaits place other := by
  constructor
  · rintro ⟨node, nodeFound, resource, missing, source⟩
    simp only [nodes, List.getElem?_map, Option.map_eq_some_iff] at nodeFound
    rcases nodeFound with ⟨queued, found, rfl⟩
    exact ⟨queued, found, resource, missing, isSource_nodes_iff.mp source⟩
  · rintro ⟨queued, found, resource, missing, source⟩
    refine ⟨⟨queued.configuration.name, queued.missing, queued.configuration.beanNames⟩, ?_,
      resource, missing, isSource_nodes_iff.mpr source⟩
    simp [nodes, found, Configuration.beanNames]

theorem hasCycle_nodes_iff {context : Context σ} :
    Node.HasCycle context.nodes ↔ context.HasCircle := by
  have same : Node.Requires context.nodes = context.Awaits := by
    funext place other
    exact propext requires_nodes_iff
  rw [Node.HasCycle, same, HasCircle]

theorem cycleTrace?_isSome_iff {context : Context σ} :
    (Node.cycleTrace? context.nodes).isSome ↔ context.HasCircle := by
  rw [Node.cycleTrace?, Option.isSome_map, Node.findCycle?_isSome_iff, hasCycle_nodes_iff]

/--
If something waits, all of it misses something, and there is no circle, something is undeclared.
-/
theorem exists_undeclared {context : Context σ} (noCircle : ¬context.HasCircle)
    (waits : context.waiting ≠ []) (missing : ∀ queued ∈ context.waiting, queued.missing ≠ []) :
    ∃ queued ∈ context.waiting, ∃ resource ∈ queued.missing,
      ∀ other ∈ context.waiting, resource ∉ other.configuration.beanNames := by
  have nonempty : context.nodes ≠ [] := by simpa [nodes] using waits
  have nodeMissing : ∀ node ∈ context.nodes, node.resources ≠ [] := by
    intro node node_mem
    rcases List.mem_map.mp node_mem with ⟨queued, queued_mem, rfl⟩
    exact missing queued queued_mem
  rcases Node.exists_undeclared_of_not_hasCycle (mt hasCycle_nodes_iff.mp noCircle) nonempty
    nodeMissing with ⟨node, node_mem, resource, resource_mem, undeclared⟩
  rcases List.mem_map.mp node_mem with ⟨queued, queued_mem, rfl⟩
  refine ⟨queued, queued_mem, resource, resource_mem, ?_⟩
  intro other other_mem declared
  rcases List.mem_iff_getElem?.mp other_mem with ⟨place, found⟩
  exact undeclared place (declares_nodes_iff.mpr ⟨other, found, declared⟩)

theorem conclude_of_waiting {context : Context σ} (waits : context.waiting ≠ []) :
    (context.HasCircle ∧ ∃ trace, context.conclude = (.error (.cycle trace), context)) ∨
      (¬context.HasCircle ∧
        context.conclude = (.error (.initialization context.pending), context)) := by
  cases search : Node.cycleTrace? context.nodes with
  | some trace =>
      exact Or.inl ⟨cycleTrace?_isSome_iff.mp (by simp [search]), trace,
        conclude_of_trace waits search⟩
  | none =>
      refine Or.inr ⟨fun circle => ?_, conclude_of_no_trace waits search⟩
      simpa [search] using cycleTrace?_isSome_iff.mpr circle

theorem conclude_of_empty {context : Context σ} (empty : context.waiting = []) :
    context.conclude = (.ok (), context.report (.assembled context.active.length)) := by
  simp [conclude, empty]

theorem conclude_eq_ok_iff {context : Context σ} :
    context.conclude.1 = .ok () ↔ context.waiting = [] := by
  by_cases waits : context.waiting = []
  · simp [conclude_of_empty, waits]
  · rcases conclude_of_waiting waits with ⟨_, trace, concluded⟩ | ⟨_, concluded⟩
    · simp [concluded, waits]
    · simp [concluded, waits]

theorem conclude_outcomes (context : Context σ) :
    context.conclude.1 = .ok () ∨ (∃ trace, context.conclude.1 = .error (.cycle trace)) ∨
      ∃ pending, context.conclude.1 = .error (.initialization pending) := by
  by_cases waits : context.waiting = []
  · exact Or.inl (conclude_eq_ok_iff.mpr waits)
  · rcases conclude_of_waiting waits with ⟨_, trace, concluded⟩ | ⟨_, concluded⟩
    · exact Or.inr (Or.inl ⟨trace, congrArg Prod.fst concluded⟩)
    · exact Or.inr (Or.inr ⟨context.pending, congrArg Prod.fst concluded⟩)

/-- If the turns of an assembly end with a failure, a hook has failed. -/
theorem hookFails_of_proceeds {line left : Line σ} {context after : Context σ}
    {turns : List (Turn σ)} {error : ConfigurationError}
    (proceeds : Proceeds line context turns (some (.failed error)) left after) :
    ∃ turn ∈ turns, ∃ call ∈ turn.calls, call.ending = .failed error := by
  generalize fails : some (Ending.failed error) = stop at proceeds
  induction proceeds with
  | nil => cases fails
  | cons goes proceeds ih =>
      rcases ih fails with ⟨turn, turn_mem, failed⟩
      exact ⟨turn, List.mem_cons_of_mem _ turn_mem, failed⟩
  | fails attempt =>
      cases fails
      rcases Option.map_eq_some_iff.mp (Turn.ending?_of_attempt attempt) with ⟨call, isLast, failed⟩
      exact ⟨_, List.mem_singleton_self _, call, List.mem_of_getLast? isLast, failed⟩
  | hangs => cases fails

/-- What waits in a settled context misses something, which is all that is not registered. -/
theorem Settled.missing_eq {context : Context σ} (settled : context.Settled)
    (tracks : context.Tracks) :
    ∀ queued ∈ context.waiting, queued.missing ≠ [] ∧
      queued.missing = queued.configuration.required.filter
        fun name => !context.registry.contains name := by
  intro queued queued_mem
  rcases settled queued queued_mem with ⟨same, missing⟩
  have tracked := (tracks queued queued_mem).pruned_missing
  rw [same] at tracked
  exact ⟨missing, tracked⟩

/-- An assembly that no hook makes fail settles the queue before it comes to its conclusion. -/
theorem exists_settled_of_assemble {context after : Context σ}
    {outcome : Except ConfigurationError Unit}
    (assembled : context.assemble = some (outcome, after))
    (noFailure : ∀ error, outcome = .error error → ¬context.HookFails error) :
    ∃ settled : Context σ, settled.Settled ∧ (context.Tracks → settled.Tracks) ∧
      settled.conclude = (outcome, after) := by
  rw [← traceAssemble_zipIdx_result] at assembled
  cases assembleEnds context.waiting.zipIdx context with
  | @concludes left settled proceeds passed ended =>
      rw [lineUp_zipIdx, List.length_zipIdx] at passed
      refine ⟨settled.lineUp left, settled_of_passes passed (Nat.le_refl _), fun tracks => ?_, ?_⟩
      · rw [← lineUp_zipIdx context] at tracks
        exact proceeds.tracks tracks
      · exact Option.some.inj (ended.symm.trans assembled)
  | fails proceeds ended =>
      cases ended.symm.trans assembled
      exact absurd (hookFails_of_proceeds proceeds) (noFailure _ rfl)
  | hangs _ ended => cases ended.symm.trans assembled

theorem settled_of_assemble {context after : Context σ} {outcome : Except ConfigurationError Unit}
    (assembled : context.assemble = some (outcome, after))
    (noFailure : ∀ error, outcome = .error error → ¬context.HookFails error)
    (tracks : context.Tracks) :
    ∃ settled : Context σ, settled.Settled ∧ settled.Tracks ∧
      settled.conclude = (outcome, after) := by
  rcases exists_settled_of_assemble assembled noFailure with
    ⟨settled, isSettled, keepsTracks, concluded⟩
  exact ⟨settled, isSettled, keepsTracks tracks, concluded⟩

/--
Whenever an assembly ends in a run without an error of a hook and without completing, each waiting
configuration misses something, namely its declared resources that are not registered, in order. The
outcome is a cycle exactly if there is a circle of configurations waiting for each other. Otherwise
it lists what each waiting configuration misses, and some of that nobody in the queue declares.
Assembling again gives the same outcome and changes nothing; after a complete assembly it only
reports it again.
-/
theorem assemble_diagnoses_exactly (all : List (Configuration σ)) (registry : Registry)
    (operations : List (Operation σ)) {context after : Context σ}
    {outcome : Except ConfigurationError Unit}
    (reached : ((Journal.start registry).run all operations).context = context)
    (assembled : context.assemble = some (outcome, after))
    (noFailure : ∀ error, outcome = .error error → ¬context.HookFails error) :
    (outcome ≠ .ok () →
      (∀ queued ∈ after.waiting, queued.missing ≠ [] ∧
        queued.missing = queued.configuration.required.filter
          fun name => !after.registry.contains name) ∧
      ((∃ trace, outcome = .error (.cycle trace)) ↔ after.HasCircle) ∧
      (¬after.HasCircle →
        outcome = .error (.initialization (after.waiting.map
          fun queued => ⟨queued.configuration.name, queued.missing⟩)) ∧
        ∃ queued ∈ after.waiting, ∃ resource ∈ queued.missing,
          ∀ other ∈ after.waiting, resource ∉ other.configuration.beanNames) ∧
      after.assemble = some (outcome, after)) ∧
    (outcome = .ok () → after.waiting = [] ∧
      after.assemble = some (.ok (), after.report (.assembled after.active.length))) := by
  subst reached
  have valid : ((Journal.start registry).run all operations).Valid :=
    (Journal.valid_start registry).run operations
  have tracks := valid.tracks
  rcases settled_of_assemble assembled noFailure tracks with
    ⟨settled, isSettled, settledTracks, concluded⟩
  -- The passes have settled the queue, and assembling again comes to the same conclusion at once.
  by_cases waits : settled.waiting = []
  · rw [conclude_of_empty waits] at concluded
    cases concluded
    have still : (settled.report (.assembled settled.active.length)).waiting = [] := waits
    refine ⟨fun incomplete => absurd rfl incomplete, fun _ => ⟨still, ?_⟩⟩
    rw [assemble_of_settled (by simp [Settled, still]), conclude_of_empty still]
  · have missing := isSettled.missing_eq settledTracks
    rcases conclude_of_waiting waits with ⟨circle, trace, diagnosis⟩ | ⟨noCircle, diagnosis⟩
    · rw [diagnosis] at concluded
      cases concluded
      refine ⟨fun _ => ⟨missing, by simp [circle], fun noCircle => absurd circle noCircle, ?_⟩,
        by simp⟩
      rw [assemble_of_settled isSettled, diagnosis]
    · rw [diagnosis] at concluded
      cases concluded
      refine ⟨fun _ => ⟨missing, by simp [noCircle], fun _ => ⟨rfl, ?_⟩, ?_⟩, by simp⟩
      · exact exists_undeclared noCircle waits
          fun queued queued_mem => (missing queued queued_mem).1
      · rw [assemble_of_settled isSettled, diagnosis]

/-- Two configurations that supply what the other one needs. -/
def deadlock : List (Configuration Unit) :=
  [.supplying "left" ["right bean"] ["left bean"], .supplying "right" ["left bean"] ["right bean"]]

/-- What a search in the deadlock is given. -/
def deadlocked : List Node :=
  [⟨"left", ["right bean"], ["left bean"]⟩, ⟨"right", ["left bean"], ["right bean"]⟩]

theorem cycleTrace?_deadlocked : Node.cycleTrace? deadlocked =
    some ["left::right bean", "right::left bean", "left::right bean"] := by
  have order : Node.searchOrder deadlocked = [0, 1] := List.mergeSort_of_pairwise (by decide)
  rw [Node.cycleTrace?, Node.findCycle?, Node.allSteps, order]
  decide

theorem assemble_diagnoses_deadlock :
    ∃ after : Context Unit, after.HasCircle ∧
      ∃ trace, after.assemble = some (.error (.cycle trace), after) := by
  obtain ⟨context, reached⟩ :
      ∃ context, ((Journal.start {}).run deadlock [.queue 0, .queue 1]).context = context :=
    ⟨_, rfl⟩
  have passed : (context.passes context.waiting.length).map
      (fun ended => (ended.1.isOk, ended.2.nodes)) = some (true, deadlocked) := by
    subst reached
    decide +kernel
  have noCall : (context.turns.flatMap (·.calls)).length = 0 := by
    subst reached
    decide +kernel
  rcases assemble_of_trace passed (List.cons_ne_nil _ _) cycleTrace?_deadlocked with
    ⟨after, _, assembled⟩
  have diagnosis := (assemble_diagnoses_exactly deadlock {} [.queue 0, .queue 1] reached assembled
    fun error _ => not_hookFails_of_no_calls noCall error).1 (by simp)
  exact ⟨after, diagnosis.2.1.mp ⟨_, rfl⟩, _, diagnosis.2.2.2⟩

end BeanContainer.Context
