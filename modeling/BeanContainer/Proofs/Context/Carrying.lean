import BeanContainer.Proofs.Context.Lifecycle

/-!
# What a run of a context carries on

The registry of a context is changed by the hooks of configurations and by its caller, who run
procedures on it, and otherwise only events are reported. So a relation between an earlier and a
later registry that procedures and reports keep is kept by every run. The induction is done here
once for all such relations.
-/

namespace BeanContainer

variable {σ : Type}

namespace Carries

variable {relation : Registry → List Moment → Registry → Prop}

theorem queue (carries : Carries relation) (all : List (Configuration σ)) (id : ConfigurationId)
    (context : Context σ) : relation context.registry [] (context.queue all id).registry := by
  unfold Context.queue
  generalize visits all [] id = found
  induction found generalizing context with
  | nil => exact carries.refl context.registry
  | cons first rest ih =>
      refine carries.quietly ?_ (ih (context.visit all first))
      cases first with
      | queue id | skip id =>
          simp only [Context.visit]
          cases all[id]? with
          | none => exact carries.refl context.registry
          | some configuration => exact carries.report _ context.registry

/-- The later record has some moments more, which lead from the earlier registry to the later. -/
def Leads (relation : Registry → List Moment → Registry → Prop) (before after : Journal σ) : Prop :=
  ∃ news, after.moments = before.moments ++ news ∧
    relation before.context.registry news after.context.registry

theorem leads_refl (carries : Carries relation) (journal : Journal σ) :
    Leads relation journal journal :=
  ⟨[], (List.append_nil _).symm, carries.refl journal.context.registry⟩

theorem leads_trans (carries : Carries relation) {first second third : Journal σ}
    (left : Leads relation first second) (right : Leads relation second third) :
    Leads relation first third := by
  rcases left with ⟨news, moments_eq, holds⟩
  rcases right with ⟨later, momentsLater, holdsLater⟩
  exact ⟨news ++ later, by rw [momentsLater, moments_eq, List.append_assoc],
    carries.append holds holdsLater⟩

theorem leave (carries : Carries relation) {journal : Journal σ} {moments : List Moment}
    {left : Option (Context σ)}
    (holds : ∀ after, left = some after → relation journal.context.registry moments after.registry) :
    Leads relation journal (journal.leave moments left) := by
  cases left with
  | none => exact carries.leads_refl journal
  | some after => exact ⟨moments, rfl, holds after rfl⟩

theorem step (carries : Carries relation) (all : List (Configuration σ)) (journal : Journal σ)
    (operation : Operation σ) : Leads relation journal (journal.step all operation) := by
  cases operation with
  | queue id =>
      exact ⟨[], (List.append_nil _).symm, carries.queue all id journal.context⟩
  | assemble =>
      refine carries.leave fun after left => ?_
      rcases Option.map_eq_some_iff.mp left with ⟨answer, ended, rfl⟩
      exact carries.assemble ended
  | load queued =>
      refine carries.leave fun after left => ?_
      rcases Option.map_eq_some_iff.mp left with ⟨answer, ended, rfl⟩
      rw [Context.traceLoad_result] at ended
      rw [Context.traceLoad_events]
      exact carries.load ended
  | use procedure =>
      refine carries.leave fun after left => ?_
      rcases Option.map_eq_some_iff.mp left with ⟨answer, ended, rfl⟩
      rw [Procedure.tracePerform_zero_result] at ended
      exact carries.perform ended

/-- What procedures and reports keep is kept by every run. -/
theorem run (carries : Carries relation) (all : List (Configuration σ)) (journal : Journal σ)
    (operations : List (Operation σ)) : Leads relation journal (journal.run all operations) :=
  Journal.run_induction
    (fun reached operation _ holds => carries.leads_trans holds (carries.step all reached operation))
    (carries.leads_refl journal) operations

/-- What was done in a run leads from the registry in the beginning to the one at the end. -/
theorem run_start (carries : Carries relation) (all : List (Configuration σ)) (registry : Registry)
    (operations : List (Operation σ)) :
    let journal := (Journal.start registry).run all operations
    relation registry journal.moments journal.context.registry := by
  intro journal
  rcases carries.run all (Journal.start registry) operations with ⟨news, moments_eq, holds⟩
  rwa [moments_eq]

end Carries

end BeanContainer
