import BeanContainer.Proofs.Context.Remedy

/-!
# Overlapping declarations

Several configurations of a queue may declare the same bean. The search for cycles follows a bean to
its last declarer only. Hence a cycle that it reports is always a circle of configurations that need
each other, whoever else declares their beans. Without overlap it finds one in every queue that
holds a circle, in whatever order. With an overlap it may pass over a circle through an earlier
declarer.
-/

namespace BeanContainer.Context

open Queued

variable {σ : Type}

/-- Whatever beans are declared twice, a circle of places is a circle of configurations. -/
theorem HasCircle.exists_needs {context : Context σ} (circle : context.HasCircle) :
    ∃ queued, Relation.TransGen (Needs context.waiting) queued queued := by
  rcases circle with ⟨place, walk⟩
  rcases transGen_needs_of_awaits walk with ⟨queued, source, found, foundSource, walk⟩
  rw [found, Option.some.injEq] at foundSource
  subst foundSource
  exact ⟨queued, walk⟩

theorem Settled.of_perm {left right : Context σ} (settled : left.Settled)
    (same : right.registry = left.registry) (perm : left.waiting.Perm right.waiting) :
    right.Settled := by
  intro queued queued_mem
  rw [same]
  exact settled queued (perm.mem_iff.mpr queued_mem)

/--
Let an assembly end without an error of a hook and without completing. If it ends with a cycle, then
some waiting configurations require each other's beans. The converse holds where no bean is declared
at two places of the queue, and then the kind of the outcome does not depend on the order of the
queue either.
-/
theorem assemble_cycle_iff_of_apart {context after : Context σ}
    {outcome : Except ConfigurationError Unit}
    (assembled : context.assemble = some (outcome, after))
    (noFailure : ∀ error, outcome = .error error → ¬context.HookFails error)
    (stuck : outcome ≠ .ok ()) :
    ((∃ trace, outcome = .error (.cycle trace)) →
      ∃ queued, Relation.TransGen (Needs after.waiting) queued queued) ∧
    (DeclareApart after.waiting →
      ((∃ trace, outcome = .error (.cycle trace)) ↔
        ∃ queued, Relation.TransGen (Needs after.waiting) queued queued) ∧
      ∀ permuted : Context σ, permuted.registry = after.registry →
        after.waiting.Perm permuted.waiting →
          ∃ other final, permuted.assemble = some (other, final) ∧
            other.mapError (·.kind) = outcome.mapError (·.kind)) := by
  rcases exists_settled_of_assemble assembled noFailure with ⟨settled, isSettled, _, concluded⟩
  have waits : settled.waiting ≠ [] := by
    rw [Ne, ← conclude_eq_ok_iff, concluded]
    exact stuck
  have same : settled = after := by
    rcases conclude_of_waiting waits with ⟨_, _, diagnosis⟩ | ⟨_, diagnosis⟩ <;>
      exact congrArg Prod.snd (diagnosis.symm.trans concluded)
  subst same
  have cycle_iff : (∃ trace, outcome = .error (.cycle trace)) ↔ settled.HasCircle := by
    rcases conclude_of_waiting waits with ⟨circle, trace, diagnosis⟩ | ⟨noCircle, diagnosis⟩ <;>
      cases diagnosis.symm.trans concluded
    · simp [circle]
    · simp [noCircle]
  refine ⟨fun cycle => (cycle_iff.mp cycle).exists_needs, fun apart => ⟨?_, ?_⟩⟩
  · rw [cycle_iff, hasCircle_iff_of_apart apart]
  · intro permuted sameRegistry perm
    have sameKind := conclude_kind_congr perm apart
    rw [concluded] at sameKind
    exact ⟨permuted.conclude.1, permuted.conclude.2,
      assemble_of_settled (isSettled.of_perm sameRegistry perm), sameKind.symm⟩

/--
The first two configurations need each other's beans. The third also declares one of these, and the
fourth only waits for it.
-/
def overlapping : List (Configuration Unit) :=
  [.supplying "a" ["x"] ["y"], .supplying "b" ["y"] ["x"], .supplying "c" ["none"] ["x"],
    .supplying "d" ["x"] ["z"]]

/-- The context in which the overlapping configurations are queued in the given order. -/
def queueing (ids : List ConfigurationId) : Context Unit :=
  ((Journal.start {}).run overlapping (ids.map .queue)).context

theorem queueing_waiting {ids : List ConfigurationId} (known : ids ⊆ [0, 1, 2, 3]) :
    (queueing ids).waiting = ids.flatMap fun id => (Visit.queue id).queued overlapping := by
  have alone : ∀ id ∈ [0, 1, 2, 3], visits overlapping [] id = [.queue id] := by decide +kernel
  rw [queueing, Journal.run_map_queue overlapping ids rfl, (queueAll_queues ..).waiting]
  refine (List.nil_append _).trans (List.flatMap_congr fun id id_mem => ?_)
  rw [queuedBy, alone id (known id_mem)]
  exact List.append_nil _

/-- What a search is given of the configuration. -/
def overlappingNode : ConfigurationId → Node
  | 0 => ⟨"a", ["x"], ["y"]⟩
  | 1 => ⟨"b", ["y"], ["x"]⟩
  | 2 => ⟨"c", ["none"], ["x"]⟩
  | _ => ⟨"d", ["x"], ["z"]⟩

theorem nodes_queueing {ids : List ConfigurationId} (known : ids ⊆ [0, 1, 2, 3]) :
    (queueing ids).nodes = ids.map overlappingNode := by
  have alone : ∀ id ∈ [0, 1, 2, 3], ((Visit.queue id).queued overlapping).map (fun queued =>
      (⟨queued.configuration.name, queued.missing, queued.configuration.beans.map (·.name)⟩ : Node)) =
        [overlappingNode id] := by
    decide
  rw [nodes, queueing_waiting known, List.map_flatMap, List.map_eq_flatMap]
  exact List.flatMap_congr fun id id_mem => alone id (known id_mem)

theorem queueing_waits {ids : List ConfigurationId} (known : ids ⊆ [0, 1, 2, 3])
    (nonempty : ids ≠ []) : (queueing ids).waiting ≠ [] := by
  have queued : ∀ id ∈ [0, 1, 2, 3], (Visit.queue id).queued overlapping ≠ [] := by decide
  rcases List.exists_mem_of_ne_nil ids nonempty with ⟨id, id_mem⟩
  rw [queueing_waiting known, Ne, List.flatMap_eq_nil_iff]
  exact fun empty => queued id (known id_mem) (empty id id_mem)

theorem queueing_settled {ids : List ConfigurationId} (known : ids ⊆ [0, 1, 2, 3]) :
    (queueing ids).Settled := by
  have missing : ∀ id ∈ [0, 1, 2, 3], ∀ queued ∈ (Visit.queue id).queued overlapping,
      queued.missing ≠ [] := by
    decide
  refine settled_of_no_beans ?_ fun queued queued_mem => ?_
  · rw [queueing, Journal.run_map_queue overlapping ids rfl, queueAll_beans]
    rfl
  · rw [queueing_waiting known] at queued_mem
    rcases List.mem_flatMap.mp queued_mem with ⟨id, id_mem, queued_mem⟩
    exact missing id (known id_mem) queued queued_mem

/-- The first two configurations are a circle wherever they wait. -/
theorem queueing_circle {ids : List ConfigurationId} (known : ids ⊆ [0, 1, 2, 3])
    (left : 0 ∈ ids) (right : 1 ∈ ids) :
    ∃ queued, Relation.TransGen (Needs (queueing ids).waiting) queued queued := by
  have leftWaits : .ofConfiguration 0 (.supplying "a" ["x"] ["y"]) ∈ (queueing ids).waiting := by
    rw [queueing_waiting known]
    exact List.mem_flatMap.mpr ⟨0, left, List.mem_singleton_self _⟩
  have rightWaits : .ofConfiguration 1 (.supplying "b" ["y"] ["x"]) ∈ (queueing ids).waiting := by
    rw [queueing_waiting known]
    exact List.mem_flatMap.mpr ⟨1, right, List.mem_singleton_self _⟩
  have there : Needs (queueing ids).waiting (.ofConfiguration 0 (.supplying "a" ["x"] ["y"]))
      (.ofConfiguration 1 (.supplying "b" ["y"] ["x"])) :=
    ⟨leftWaits, rightWaits, "x", List.mem_singleton_self "x", List.mem_singleton_self "x"⟩
  have back : Needs (queueing ids).waiting (.ofConfiguration 1 (.supplying "b" ["y"] ["x"]))
      (.ofConfiguration 0 (.supplying "a" ["x"] ["y"])) :=
    ⟨rightWaits, leftWaits, "y", List.mem_singleton_self "y", List.mem_singleton_self "y"⟩
  exact ⟨_, .tail (.single there) back⟩

/--
The circle is found if the third configuration is queued before the other two. Without the third one
no bean is declared twice, and the circle is found in whatever order they are queued.
-/
theorem assemble_cycle_overlapping :
    (∃ (after : Context Unit) (trace : List String),
      (queueing [2, 0, 1]).assemble = some (.error (.cycle trace), after) ∧
      ∃ queued, Relation.TransGen (Needs after.waiting) queued queued) ∧
    ∃ (after : Context Unit) (outcome : Except ConfigurationError Unit),
      (queueing [0, 3, 1]).assemble = some (outcome, after) ∧ DeclareApart after.waiting ∧
      (∃ queued, Relation.TransGen (Needs after.waiting) queued queued) ∧
      (∃ trace, outcome = .error (.cycle trace)) ∧
      ∃ (other : Except ConfigurationError Unit) (final : Context Unit),
        { after with waiting := after.waiting.reverse }.assemble = some (other, final) ∧
        other.mapError (·.kind) = .error "Cycle" := by
  have noCalls : ∀ ids ∈ [[2, 0, 1], [0, 3, 1]],
      ((queueing ids).turns.flatMap (·.calls)).length = 0 := by
    decide +kernel
  refine ⟨?_, ?_⟩
  · have there : Node.Requires ([2, 0, 1].map overlappingNode) 1 2 :=
      ⟨_, rfl, "x", List.mem_singleton_self "x", Node.source?_eq_some_iff.mp (by decide)⟩
    have back : Node.Requires ([2, 0, 1].map overlappingNode) 2 1 :=
      ⟨_, rfl, "y", List.mem_singleton_self "y", Node.source?_eq_some_iff.mp (by decide)⟩
    have circle : (queueing [2, 0, 1]).HasCircle := by
      rw [← hasCycle_nodes_iff, nodes_queueing (by decide)]
      exact ⟨1, .tail (.single there) back⟩
    obtain ⟨trace, concluded⟩ : ∃ trace, (queueing [2, 0, 1]).conclude =
        (.error (.cycle trace), queueing [2, 0, 1]) := by
      have waits := queueing_waits (by decide : [2, 0, 1] ⊆ _) (List.cons_ne_nil _ _)
      rcases conclude_of_waiting waits with ⟨_, found⟩ | ⟨noCircle, _⟩
      · exact found
      · exact absurd circle noCircle
    have isSettled : (queueing [2, 0, 1]).Settled := queueing_settled (by decide)
    have assembled := assemble_of_settled isSettled
    rw [concluded] at assembled
    exact ⟨_, _, assembled, (assemble_cycle_iff_of_apart assembled
      (fun error _ => not_hookFails_of_no_calls (noCalls _ (by decide)) error)
      (by simp)).1 ⟨_, rfl⟩⟩
  · have isSettled : (queueing [0, 3, 1]).Settled := queueing_settled (by decide)
    have assembled := assemble_of_settled isSettled
    have apart : DeclareApart (queueing [0, 3, 1]).conclude.2.waiting := by
      rw [conclude_waiting, queueing_waiting (by decide)]
      simp [DeclareApart, Visit.queued, overlapping, Queued.ofConfiguration]
    have circle : ∃ queued,
        Relation.TransGen (Needs (queueing [0, 3, 1]).conclude.2.waiting) queued queued := by
      rw [conclude_waiting]
      exact queueing_circle (by decide) (by decide) (by decide)
    have stuck : (queueing [0, 3, 1]).conclude.1 ≠ .ok () := by
      rw [Ne, conclude_eq_ok_iff]
      exact queueing_waits (by decide) (List.cons_ne_nil _ _)
    rcases (assemble_cycle_iff_of_apart assembled
      (fun error _ => not_hookFails_of_no_calls (noCalls _ (by decide)) error) stuck).2 apart with
      ⟨cycle_iff, permutes⟩
    obtain ⟨trace, cycle⟩ := cycle_iff.mpr circle
    rcases permutes { (queueing [0, 3, 1]).conclude.2 with
      waiting := (queueing [0, 3, 1]).conclude.2.waiting.reverse } rfl
      (List.reverse_perm _).symm with ⟨other, final, again, sameKind⟩
    rw [cycle] at sameKind
    exact ⟨_, _, assembled, apart, circle, ⟨trace, cycle⟩, other, final, again, sameKind⟩

/-- Queued last, it hides the circle: the same needs are there, but no cycle is reported. -/
theorem assemble_misses_circle_overlapping :
    (queueing [0, 1, 2]).assemble =
      some (.error (.initialization [⟨"a", ["x"]⟩, ⟨"b", ["y"]⟩, ⟨"c", ["none"]⟩]),
        queueing [0, 1, 2]) ∧
    ∃ queued, Relation.TransGen (Needs (queueing [0, 1, 2]).waiting) queued queued := by
  refine ⟨?_, queueing_circle (by decide) (by decide) (by decide)⟩
  have order : Node.searchOrder (queueing [0, 1, 2]).nodes = [0, 1, 2] := by
    rw [nodes_queueing (by decide)]
    exact List.mergeSort_of_pairwise (by decide)
  have noTrace : Node.cycleTrace? (queueing [0, 1, 2]).nodes = none := by
    rw [Node.cycleTrace?, Node.findCycle?, Node.allSteps, order, nodes_queueing (by decide)]
    decide
  rw [assemble_of_settled (queueing_settled (by decide)),
    conclude_of_no_trace (queueing_waits (by decide) (List.cons_ne_nil _ _)) noTrace, pending,
    queueing_waiting (by decide)]
  rfl

end BeanContainer.Context
