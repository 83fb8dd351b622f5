import BeanContainer.Proofs.Registry.Prospect

/-!
# What a registry keeps of a name

Of what was done under a name two things stay in the registry: the object, if its bean is made once
and was made, and the number of runs of its constructor. Nothing changes them but runs of that
constructor and their completion.
-/

namespace BeanContainer.Registry

/-- Which object was made for the name, if one was, and how often its constructor has run. -/
def record (name : String) (registry : Registry) : Option (Option ObjectId) × Nat :=
  ((registry.kept? (.bean name)).map (·.object), registry.runs (.bean name))

/-- The object made for the name, if one was, is the given one. -/
def Holds (name : String) (made : Option ObjectId) (registry : Registry) : Prop :=
  (registry.record name).1 = made.map some

variable {name other : String}

theorem record_newBean (isObject : Bool) (bean : Bean) (registry : Registry) :
    (registry.newBean isObject bean).2.record name = registry.record name := by
  cases isObject <;> rfl

theorem map_object_lookup_map {change : Site × Bean → Site × Bean}
    (sameSite : ∀ entry, (change entry).1 = entry.1)
    (sameObject : ∀ entry, (change entry).2.object = entry.2.object) (site : Site)
    (kept : List (Site × Bean)) :
    ((kept.map change).lookup site).map (·.object) = (kept.lookup site).map (·.object) := by
  induction kept with
  | nil => rfl
  | cons entry rest ih =>
      have changed : change entry = (entry.1, (change entry).2) := Prod.ext (sameSite entry) rfl
      rw [List.map_cons, changed, List.lookup_cons, List.lookup_cons]
      split
      · exact congrArg some (sameObject entry)
      · exact ih

theorem record_update (object : ObjectId) (change : Content → Content) (registry : Registry) :
    (registry.update object change).record name = registry.record name := by
  refine Prod.ext (map_object_lookup_map ?_ ?_ (.bean name) registry.kept) rfl <;>
    · intro entry
      split <;> rfl

theorem record_keep_of_ne (different : other ≠ name) (bean : Bean) (registry : Registry) :
    (registry.keep (.bean other) bean).2.record name = registry.record name := by
  unfold keep
  split
  · rfl
  · have notOther : (Site.bean name == Site.bean other) = false := by simpa using different.symm
    simp [record, kept?, runs, List.lookup_append, List.lookup_cons, notOther]

theorem runs_countRun (site counted : Site) (listed : Bool) (registry : Registry) :
    (registry.countRun counted listed).2.runs site =
      registry.runs site + if counted = site then 1 else 0 := by
  by_cases same : counted = site
  · subst same
    have gone : (registry.tallies.filter (·.site != counted)).find? (·.site == counted) = none := by
      simp [List.find?_eq_none]
    simp only [runs, countRun, List.find?_append, gone]
    simp
  · have stays : (registry.tallies.filter (·.site != counted)).find? (·.site == site) =
        registry.tallies.find? (·.site == site) := by
      rw [List.find?_filter]
      congr 1
      funext tally
      by_cases own : tally.site = site
      · simp [own, Ne.symm same]
      · simp [own]
    simp only [runs, countRun, List.find?_append, stays]
    simp [same]

theorem record_apply (registration : Registration) (registry : Registry) :
    (registration.apply registry).2.record name = registry.record name := by
  have record_insert : ∀ bean strategy (registry : Registry),
      (registry.insert bean strategy).2.record name = registry.record name := by
    intro bean strategy registry
    rcases insert_cases bean strategy registry with ⟨fault, refused⟩ | ⟨_, _, accepted⟩
    · rw [refused]
    · rw [accepted]
      rfl
  cases registration with
  | strategy bean made => exact record_insert bean made registry
  | supply bean type supplied => exact record_insert bean (.supplied type supplied) registry
  | ensure bean type =>
      simp only [Registration.apply, ensure]
      split
      · exact record_insert bean _ (registry.report (.registeringMissing bean))
      · rfl

theorem record_countRun_of_ne (different : other ≠ name) (listed : Bool) (registry : Registry) :
    (registry.countRun (.bean other) listed).2.record name = registry.record name := by
  refine Prod.ext rfl ?_
  have otherSite : Site.bean other ≠ .bean name := fun same => different (Site.bean.inj same)
  rw [record, runs_countRun, if_neg otherSite]
  rfl

section Answering

variable {thread : Thread} {request : Request} {registry entered : Registry} {strategy : Strategy}

theorem Enters.record (enters : Enters thread request registry strategy entered) :
    entered.record name = registry.record name := by
  rcases enters.enter with ⟨chains, _, rfl⟩
  rfl

theorem Enters.locked (enters : Enters thread request registry strategy entered) :
    entered.locked = registry.locked := by
  rcases enters.enter with ⟨chains, _, rfl⟩
  rfl

/-- Nothing but what is in flight and what is reported changes when a name is entered. -/
theorem Enters.keeps (enters : Enters thread request registry strategy entered) :
    entered.beans = registry.beans ∧ entered.kept = registry.kept ∧
      entered.objects = registry.objects := by
  rcases enters.enter with ⟨chains, _, rfl⟩
  exact ⟨rfl, rfl, rfl⟩

theorem record_prepare (strategy : Strategy) (site : Site) (registry : Registry) :
    (strategy.prepare site registry).record name = registry.record name := by
  unfold Strategy.prepare
  split <;> rfl

theorem mem_locked_prepare_self (once : strategy.makesOnce = true) (site : Site)
    (registry : Registry) : site ∈ (strategy.prepare site registry).locked := by
  rw [Strategy.prepare, if_pos once]
  exact List.mem_cons_self

theorem mem_locked_prepare_of_ne (different : other ≠ name) (registry : Registry) :
    .bean name ∈ (strategy.prepare (.bean other) registry).locked ↔
      .bean name ∈ registry.locked := by
  unfold Strategy.prepare
  split
  · simp [lock, different.symm]
  · rfl

theorem record_complete_of_ne (different : other ≠ name) (made : Except BeanError Bean)
    (filled : Registry) :
    (strategy.complete (.bean other) made filled).2.record name = filled.record name := by
  cases made with
  | error error =>
      simp only [Strategy.complete]
      split <;> rfl
  | ok bean =>
      simp only [Strategy.complete]
      split
      · exact (record_keep_of_ne different _ _).trans (record_newBean _ bean filled)
      · exact record_newBean _ bean filled

theorem record_complete_error (strategy : Strategy) (site : Site) (error : BeanError)
    (filled : Registry) :
    (strategy.complete site (.error error) filled).2.record name = filled.record name := by
  simp only [Strategy.complete]
  split <;> rfl

/-- Where nothing is kept yet, the new bean is a new object, and it is kept and handed out. -/
theorem complete_stores (once : strategy.makesOnce = true) (made : Bean) {site : Site}
    {filled : Registry} (unkept : filled.kept? site = none) :
    (strategy.complete site (.ok made) filled).1 = .ok (made.inside filled.objects) ∧
      (strategy.complete site (.ok made) filled).2.kept? site =
        some (made.inside filled.objects) ∧
      (strategy.complete site (.ok made) filled).2.objects = filled.objects + 1 ∧
      (strategy.complete site (.ok made) filled).2.tallies = filled.tallies := by
  have makesObjects := Strategy.makesObjects_of_once once
  have unkeptNew : (filled.newBean true made).2.kept? site = none := unkept
  have unkeptBefore : List.lookup site filled.kept = none := unkept
  simp only [Strategy.complete, once, makesObjects, if_true, keep, unkeptNew]
  refine ⟨rfl, ?_, rfl, rfl⟩
  simp [kept?, unlock, newBean, allocate, List.lookup_append, unkeptBefore]

/-- The first object that is made for the name is kept and handed out. -/
theorem complete_made (once : strategy.makesOnce = true) (made : Bean) {filled : Registry}
    (unmade : filled.Holds name none) :
    ∃ object, (strategy.complete (.bean name) (.ok made) filled).1 = .ok (made.inside object) ∧
      (strategy.complete (.bean name) (.ok made) filled).2.record name =
        (some (some object), (filled.record name).2) := by
  have unkept : filled.kept? (.bean name) = none := Option.map_eq_none_iff.mp unmade
  rcases complete_stores once made unkept with ⟨handsOut, kept, _, tallies⟩
  refine ⟨filled.objects, handsOut, ?_⟩
  rw [record, kept, record, runs, tallies]
  rfl

theorem complete_beans (site : Site) (made : Except BeanError Bean) (filled : Registry) :
    (strategy.complete site made filled).2.beans = filled.beans := by
  cases made with
  | error error =>
      simp only [Strategy.complete]
      split <;> rfl
  | ok bean =>
      simp only [Strategy.complete]
      split
      · exact (keep_beans site _ _).trans (newBean_beans _ bean filled)
      · exact newBean_beans _ bean filled

/-- A bean that is made once is neither there nor in the making when its constructor is to run. -/
theorem unmade_of_due (once : strategy.makesOnce = true) {site : Site} {constructor : Constructor}
    (due : strategy.due? site registry = some constructor) :
    registry.kept? site = none ∧ site ∉ registry.locked := by
  cases strategy with
  | supplied type bean | factory type own | smartFactory type own => cases once
  | singleton type own | smartSingleton type own =>
      simp only [Strategy.due?, Option.ite_none_left_eq_some, not_or, Bool.not_eq_true,
        Option.isSome_eq_false_iff, Option.isNone_iff_eq_none] at due
      exact due.1

end Answering

end BeanContainer.Registry
