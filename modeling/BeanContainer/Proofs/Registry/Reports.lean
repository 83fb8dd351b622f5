import BeanContainer.Proofs.Registry.Growth

/-!
# What is reported while a registry is used

Whoever uses a registry has it report the names that are resolved and the beans that are registered,
each of them once, and what user code reports on its own. All that comes behind the events that were
reported before. So the reports of registered beans tell which beans have come to the registry, in
which order.
-/

namespace BeanContainer

namespace Event

/-- What the event tells of a bean that was registered. -/
def registration? : Event → Option BeanInfo
  | registered bean handover kind => some ⟨bean, handover, kind⟩
  | _ => none

/-- Whether such events are reported by requests, by registrations, or by user code itself. -/
def isOfUse : Event → Bool
  | registered .. | registeringMissing _ | resolving .. | user .. => true
  | _ => false

theorem level_of_isOfUse {event : Event} (ofUse : event.isOfUse = true) : event.level ≠ .warn := by
  cases event with
  | registered | registeringMissing | resolving | user => simp [level]
  | _ => cases ofUse

end Event

namespace Registry

/--
Between the earlier registry and the later one the news were reported, and they tell which beans came
to the others.
-/
structure Reports (before : Registry) (news : List Event) (after : Registry) : Prop where
  told : after.events = before.events ++ news
  infos : after.infos = before.infos ++ news.filterMap Event.registration?

/-- All that was reported in between is of use. -/
def Uses (before after : Registry) : Prop :=
  ∃ news, before.Reports news after ∧ ∀ event ∈ news, event.isOfUse = true

variable {before between after registry : Registry}

theorem Reports.trans {news later : List Event} (left : before.Reports news between)
    (right : between.Reports later after) : before.Reports (news ++ later) after where
  told := by rw [right.told, left.told, List.append_assoc]
  infos := by rw [right.infos, left.infos, List.filterMap_append, List.append_assoc]

/-- Changes that concern neither events nor beans are no news. -/
theorem reports_nothing (sameEvents : after.events = before.events)
    (sameBeans : after.beans = before.beans) : before.Reports [] after where
  told := by simp [sameEvents]
  infos := by simp [infos, sameBeans]

theorem Reports.refl (registry : Registry) : registry.Reports [] registry :=
  reports_nothing rfl rfl

theorem report_reports {event : Event} (noBean : event.registration? = none)
    (registry : Registry) : registry.Reports [event] (registry.report event) where
  told := rfl
  infos := by simp [noBean, infos, report]

theorem report_all_reports {events : List Event}
    (noBeans : ∀ event ∈ events, event.registration? = none) (registry : Registry) :
    registry.Reports events
      (events.foldl (fun registry event => registry.report event) registry) := by
  induction events generalizing registry with
  | nil => exact .refl registry
  | cons event rest ih =>
      rw [List.forall_mem_cons] at noBeans
      exact (report_reports noBeans.1 registry).trans (ih noBeans.2 (registry.report event))

theorem report_events (event : Event) (registry : Registry) :
    (registry.report event).events = registry.events ++ [event] := rfl

theorem report_all_events (events : List Event) (registry : Registry) :
    (events.foldl (fun registry event => registry.report event) registry).events =
      registry.events ++ events := by
  induction events generalizing registry with
  | nil => simp
  | cons event rest ih => simp [ih, report_events]

/-- A registration is reported if it is accepted, and nothing is if it is refused. -/
theorem insert_uses (name : String) (strategy : Strategy) (registry : Registry) :
    registry.Uses (registry.insert name strategy).2 := by
  rcases insert_cases name strategy registry with ⟨fault, refused⟩ | ⟨_, _, accepted⟩
  · rw [refused]
    exact ⟨[], .refl registry, by simp⟩
  · rw [accepted]
    refine ⟨[.registered name strategy.handover strategy.kind], ⟨rfl, ?_⟩, by simp [Event.isOfUse]⟩
    simp [infos, report, Event.registration?]

theorem keep_events (site : Site) (bean : Bean) (registry : Registry) :
    (registry.keep site bean).2.events = registry.events := by
  unfold keep
  split <;> rfl

theorem uses_silently (sameEvents : after.events = before.events)
    (sameBeans : after.beans = before.beans) : before.Uses after :=
  ⟨[], reports_nothing sameEvents sameBeans, by simp⟩

theorem uses_report {event : Event} (ofUse : event.isOfUse = true)
    (noBean : event.registration? = none) (registry : Registry) :
    registry.Uses (registry.report event) :=
  ⟨[event], report_reports noBean registry, by simpa using ofUse⟩

theorem Uses.trans (left : before.Uses between) (right : between.Uses after) :
    before.Uses after := by
  rcases left with ⟨news, reports, ofUse⟩
  rcases right with ⟨later, reportsLater, ofUseLater⟩
  exact ⟨news ++ later, reports.trans reportsLater,
    List.forall_mem_append.mpr ⟨ofUse, ofUseLater⟩⟩

theorem persists_uses : Persists Uses where
  refl _ := uses_silently rfl rfl
  trans := Uses.trans
  countRun _ _ _ := uses_silently rfl rfl
  allocate _ := uses_silently rfl rfl
  keep site bean registry :=
    uses_silently (keep_events site bean registry) (keep_beans site bean registry)
  update _ _ _ := uses_silently rfl rfl
  report _ _ registry := uses_report rfl rfl registry
  locking {site registry after} inside := by
    have locked : registry.Uses (registry.lock site) := uses_silently rfl rfl
    exact (locked.trans inside).trans (uses_silently rfl rfl)
  resolving {thread name access chains registry after} _ inside := by
    have entered : registry.Uses ({ registry with chains }.report (.resolving name access)) :=
      ⟨[.resolving name access], ⟨rfl, by simp [infos, report, Event.registration?]⟩, by
        simp [Event.isOfUse]⟩
    exact (entered.trans inside).trans (uses_silently rfl rfl)

theorem apply_uses (registration : Registration) (registry : Registry) :
    registry.Uses (registration.apply registry).2 := by
  cases registration with
  | strategy name made => exact insert_uses name made registry
  | supply name type bean => exact insert_uses name (.supplied type bean) registry
  | ensure name type =>
      simp only [Registration.apply, ensure]
      split
      · have reported : registry.Uses (registry.report (.registeringMissing name)) :=
          uses_report rfl rfl registry
        exact reported.trans (insert_uses name _ _)
      · exact uses_silently rfl rfl

end Registry

namespace Procedure

variable {α : Type} {registry after : Registry} {result : α}

theorem read_uses {procedure : Procedure Empty α}
    (ran : procedure.read registry = some (result, after)) : registry.Uses after :=
  Registry.persists_uses.read ran

theorem perform_uses {procedure : Procedure Registration α}
    (ran : procedure.perform registry = some (result, after)) : registry.Uses after :=
  Registry.persists_uses.perform Registry.apply_uses ran

end Procedure

end BeanContainer
