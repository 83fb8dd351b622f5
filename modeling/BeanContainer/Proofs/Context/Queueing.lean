import BeanContainer.Proofs.Context.Loading

/-!
# Queueing

Queueing a configuration puts it and its dependencies behind those that wait already, each waiting
for all that it declares. Nothing else changes but what is reported.
-/

namespace BeanContainer

variable {σ : Type}

/-- What is put behind the queue when queueing comes to a configuration. -/
def Visit.queued (all : List (Configuration σ)) : Visit → List (Queued σ)
  | queue id => (all[id]?.map (Queued.ofConfiguration id)).toList
  | skip _ => []

/-- What is put behind the queue when a configuration is queued. -/
def queuedBy (all : List (Configuration σ)) (id : ConfigurationId) : List (Queued σ) :=
  (visits all [] id).flatMap (·.queued all)

namespace Context

/-- The later context is the earlier one with the given configurations put behind the queue. -/
structure Queues (before : Context σ) (added : List (Queued σ)) (after : Context σ) : Prop where
  waiting : after.waiting = before.waiting ++ added
  fresh : ∀ queued ∈ added, ∃ id configuration, queued = .ofConfiguration id configuration
  active : after.active = before.active
  grows : before.Grows after

theorem Queues.refl (context : Context σ) : context.Queues [] context where
  waiting := by simp
  fresh := by simp
  active := rfl
  grows := .of_registry_eq rfl

theorem Queues.trans {first second third : Context σ} {added later : List (Queued σ)}
    (left : first.Queues added second) (right : second.Queues later third) :
    first.Queues (added ++ later) third where
  waiting := by rw [right.waiting, left.waiting, List.append_assoc]
  fresh queued queued_mem := by
    rcases List.mem_append.mp queued_mem with queued_mem | queued_mem
    · exact left.fresh queued queued_mem
    · exact right.fresh queued queued_mem
  active := right.active.trans left.active
  grows := left.grows.trans right.grows

theorem Grows.of_reported {before after : Context σ} {event : Event}
    (reported : after.registry = before.registry.report event) : before.Grows after := by
  refine ⟨by simp [reported, Registry.report], ?_⟩
  rw [reported]
  exact ⟨rfl, fun _ => rfl, rfl⟩

theorem visit_queues (all : List (Configuration σ)) (context : Context σ) (found : Visit) :
    context.Queues (found.queued all) (visit all context found) := by
  cases found with
  | queue id =>
      simp only [visit, Visit.queued]
      cases all[id]? with
      | none => exact .refl context
      | some configuration =>
          refine ⟨rfl, ?_, rfl, .of_reported rfl⟩
          intro queued queued_mem
          exact ⟨id, configuration, List.mem_singleton.mp queued_mem⟩
  | skip id =>
      simp only [visit, Visit.queued]
      cases all[id]? with
      | none => exact .refl context
      | some configuration => exact ⟨by simp [report], by simp, rfl, .of_reported rfl⟩

theorem queue_queues_queuedBy (all : List (Configuration σ)) (id : ConfigurationId)
    (context : Context σ) : context.Queues (queuedBy all id) (context.queue all id) := by
  unfold queue queuedBy
  generalize visits all [] id = found
  induction found generalizing context with
  | nil => exact .refl context
  | cons first rest ih =>
      rw [List.flatMap_cons]
      exact (visit_queues all context first).trans (ih (visit all context first))

theorem queue_queues (all : List (Configuration σ)) (id : ConfigurationId) (context : Context σ) :
    ∃ added, context.Queues added (context.queue all id) :=
  ⟨_, queue_queues_queuedBy all id context⟩

theorem visit_beans (all : List (Configuration σ)) (context : Context σ) (found : Visit) :
    (visit all context found).registry.beans = context.registry.beans := by
  cases found with
  | queue id | skip id =>
      simp only [visit]
      cases all[id]? <;> rfl

theorem queue_beans (all : List (Configuration σ)) (id : ConfigurationId) (context : Context σ) :
    (context.queue all id).registry.beans = context.registry.beans := by
  unfold queue
  generalize visits all [] id = found
  induction found generalizing context with
  | nil => rfl
  | cons first rest ih => exact (ih (visit all context first)).trans (visit_beans all context first)

theorem queueAll_queues (all : List (Configuration σ)) (ids : List ConfigurationId)
    (context : Context σ) :
    context.Queues (ids.flatMap (queuedBy all))
      (ids.foldl (fun context id => context.queue all id) context) := by
  induction ids generalizing context with
  | nil => exact .refl context
  | cons id rest ih =>
      rw [List.flatMap_cons]
      exact (queue_queues_queuedBy all id context).trans (ih (context.queue all id))

theorem queueAll_beans (all : List (Configuration σ)) (ids : List ConfigurationId)
    (context : Context σ) :
    (ids.foldl (fun context id => context.queue all id) context).registry.beans =
      context.registry.beans := by
  induction ids generalizing context with
  | nil => rfl
  | cons id rest ih => exact (ih (context.queue all id)).trans (queue_beans all id context)

/-- A configuration that was just queued keeps track of its resources. -/
theorem Queues.tracks {before after : Context σ} {added : List (Queued σ)}
    (queues : before.Queues added after) (tracks : before.Tracks) : after.Tracks := by
  intro queued queued_mem
  rw [queues.waiting] at queued_mem
  rcases List.mem_append.mp queued_mem with queued_mem | queued_mem
  · exact (tracks queued queued_mem).of_grown queues.grows.beans
  · rcases queues.fresh queued queued_mem with ⟨id, configuration, rfl⟩
    exact Queued.tracks_ofConfiguration id configuration after.registry

end Context

end BeanContainer
