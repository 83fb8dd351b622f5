import BeanContainer.Proofs.Registry.Course
import BeanContainer.Proofs.Registry.Record
import Mathlib.Data.List.Nodup

/-!
# Allocation of objects

Strategies other than plain factories put what a constructor makes into an object of its own. The
object comes into being when a run of the constructor has succeeded, and is allotted to the name that
the run was for. The moments of an evaluation tell all allotments. Each object is allotted once, later
ones after earlier ones, and what a registry keeps for a name is either what it kept before or what
was allotted to that name. This relies on the mark of beans under construction: while it is set, no
other bean is kept for the name, so the new object is the one that is kept. Objects that user code
makes, and beans that it passes on, are allotted to no name.
-/

namespace BeanContainer

/-- Whether the strategy behind the name puts each new bean into an object of its own. -/
def Registry.makesObjects (registry : Registry) (name : String) : Bool :=
  (registry.find? name).any Strategy.makesObjects

/-- The name and the object that is allotted to it, if the moment is the end of a successful run. -/
def Moment.allotment? (moment : Moment) : Option (String × ObjectId) :=
  match moment.happening with
  | .answers request (some (.ok _)) (.ok bean) =>
    if moment.registry.makesObjects request.name then bean.object.map (request.name, ·) else none
  | _ => none

/-- All allotments in the course of an evaluation. -/
def allotments (moments : List Moment) : List (String × ObjectId) :=
  moments.filterMap (·.allotment?)

@[simp]
theorem allotments_append (moments others : List Moment) :
    allotments (moments ++ others) = allotments moments ++ allotments others :=
  List.filterMap_append

namespace Registry

/-- What is kept for a name is an object that was allocated, and that of no other name. -/
structure Allotted (registry : Registry) : Prop where
  allocated : ∀ name found, (registry.record name).1 = some found →
    ∃ object, found = some object ∧ object < registry.objects
  distinct : ∀ name other found, (registry.record name).1 = some found →
    (registry.record other).1 = some found → name = other

/-- The moments allot the objects allocated meanwhile, and tell where the kept ones are from. -/
structure Allots (before : Registry) (moments : List Moment) (after : Registry) : Prop where
  le : before.objects ≤ after.objects
  ordered : (allotments moments).Pairwise fun first second => first.2 < second.2
  within : ∀ entry ∈ allotments moments, before.objects ≤ entry.2 ∧ entry.2 < after.objects
  kept : ∀ name found, (after.record name).1 = some found →
    (before.record name).1 = some found ∨
      ∃ object, found = some object ∧ (name, object) ∈ allotments moments

/-- The object was made for the name: it was kept before, or it was allotted to the name since. -/
def MadeFor (before : Registry) (moments : List Moment) (name : String) (object : ObjectId) :
    Prop :=
  (before.record name).1 = some (some object) ∨ (name, object) ∈ allotments moments

section Telling

variable {before first after : Registry} {moments others : List Moment}

/-- Where nothing is allotted, nothing is kept for any name that was not before. -/
theorem allots_of_unaffected (nothing : allotments moments = [])
    (le : before.objects ≤ after.objects)
    (same : ∀ name, (after.record name).1 = (before.record name).1) :
    Allots before moments after where
  le := le
  ordered := by simp [nothing]
  within := by simp [nothing]
  kept name found kept := Or.inl (by rwa [← same])

/-- One object is allotted, and it is the only one that may be kept in addition. -/
theorem allots_of_one {name : String} (one : allotments moments = [(name, before.objects)])
    (objects : after.objects = before.objects + 1)
    (kept : ∀ other found, (after.record other).1 = some found →
      (before.record other).1 = some found ∨ other = name ∧ found = some before.objects) :
    Allots before moments after where
  le := objects ▸ Nat.le_succ _
  ordered := by simp [one]
  within := by simp [one, objects]
  kept other found keptAfter := by
    rcases kept other found keptAfter with keptBefore | ⟨rfl, rfl⟩
    · exact Or.inl keptBefore
    · exact Or.inr ⟨before.objects, rfl, by simp [one]⟩

theorem Allots.append (left : Allots before moments first) (right : Allots first others after) :
    Allots before (moments ++ others) after where
  le := Nat.le_trans left.le right.le
  ordered := by
    rw [allotments_append, List.pairwise_append]
    refine ⟨left.ordered, right.ordered, ?_⟩
    intro earlier earlier_mem later later_mem
    exact Nat.lt_of_lt_of_le (left.within earlier earlier_mem).2
      (right.within later later_mem).1
  within := by
    rw [allotments_append, List.forall_mem_append]
    refine ⟨fun entry entry_mem => ?_, fun entry entry_mem => ?_⟩
    · have within := left.within entry entry_mem
      exact ⟨within.1, Nat.lt_of_lt_of_le within.2 right.le⟩
    · have within := right.within entry entry_mem
      exact ⟨Nat.le_trans left.le within.1, within.2⟩
  kept name found kept := by
    rw [allotments_append]
    rcases right.kept name found kept with keptFirst | ⟨object, same, entry_mem⟩
    · rcases left.kept name found keptFirst with keptBefore | ⟨object, same, entry_mem⟩
      · exact Or.inl keptBefore
      · exact Or.inr ⟨object, same, List.mem_append_left _ entry_mem⟩
    · exact Or.inr ⟨object, same, List.mem_append_right _ entry_mem⟩

/-- No object is allotted twice. -/
theorem Allots.nodup (allots : Allots before moments after) :
    ((allotments moments).map (·.2)).Nodup :=
  List.pairwise_map.mpr (allots.ordered.imp Nat.ne_of_lt)

theorem Allots.name_eq (allots : Allots before moments after) {name other : String}
    {object : ObjectId} (entry_mem : (name, object) ∈ allotments moments)
    (other_mem : (other, object) ∈ allotments moments) : name = other :=
  congrArg Prod.fst (List.inj_on_of_nodup_map allots.nodup entry_mem other_mem rfl)

theorem Allotted.lt_of_kept (allotted : before.Allotted) {name : String} {object : ObjectId}
    (kept : (before.record name).1 = some (some object)) : object < before.objects := by
  rcases allotted.allocated name _ kept with ⟨_, same, lt⟩
  cases same
  exact lt

theorem allotted_of_unkept {registry : Registry}
    (unkept : ∀ name, registry.kept? (.bean name) = none) : registry.Allotted where
  allocated name found kept := by simp [record, unkept] at kept
  distinct name other found kept := by simp [record, unkept] at kept

variable {name other : String} {object : ObjectId}

theorem MadeFor.lt (madeFor : before.MadeFor moments name object) (allotted : before.Allotted)
    (allots : Allots before moments after) : object < after.objects := by
  rcases madeFor with kept | entry_mem
  · exact Nat.lt_of_lt_of_le (allotted.lt_of_kept kept) allots.le
  · exact (allots.within _ entry_mem).2

/-- An object that is kept is not allotted again, and no object is allotted to two names. -/
theorem MadeFor.name_eq (madeFor : before.MadeFor moments name object)
    (madeForOther : before.MadeFor moments other object) (allotted : before.Allotted)
    (allots : Allots before moments after) : name = other := by
  rcases madeFor with kept | entry_mem <;> rcases madeForOther with keptOther | other_mem
  · exact allotted.distinct name other _ kept keptOther
  · have tooLate := (allots.within _ other_mem).1
    exact absurd (allotted.lt_of_kept kept) (Nat.not_lt_of_le tooLate)
  · have tooLate := (allots.within _ entry_mem).1
    exact absurd (allotted.lt_of_kept keptOther) (Nat.not_lt_of_le tooLate)
  · exact allots.name_eq entry_mem other_mem

theorem Allots.madeFor_of_kept (allots : Allots before moments after) (allotted : before.Allotted)
    {found : Option ObjectId} (kept : (after.record name).1 = some found) :
    ∃ object, found = some object ∧ before.MadeFor moments name object := by
  rcases allots.kept name found kept with keptBefore | ⟨object, same, entry_mem⟩
  · rcases allotted.allocated name found keptBefore with ⟨object, rfl, _⟩
    exact ⟨object, rfl, Or.inl keptBefore⟩
  · exact ⟨object, same, Or.inr entry_mem⟩

theorem Allotted.of_allots (allotted : before.Allotted) (allots : Allots before moments after) :
    after.Allotted where
  allocated name found kept := by
    rcases allots.madeFor_of_kept allotted kept with ⟨object, same, madeFor⟩
    exact ⟨object, same, madeFor.lt allotted allots⟩
  distinct name other found kept keptOther := by
    rcases allots.madeFor_of_kept allotted kept with ⟨object, rfl, madeFor⟩
    rcases allots.madeFor_of_kept allotted keptOther with ⟨_, same, madeForOther⟩
    cases same
    exact madeFor.name_eq madeForOther allotted allots

end Telling

section Answering

variable {name other : String} {thread : Thread} {frames : List String} {request : Request}
  {registry entered filled after : Registry} {strategy : Strategy} {constructor : Constructor}
  {outcome : Except BeanError Bean} {moments : List Moment}

theorem prepare_objects (strategy : Strategy) (site : Site) (registry : Registry) :
    (strategy.prepare site registry).objects = registry.objects := by
  unfold Strategy.prepare
  split <;> rfl

theorem newBean_objects (isObject : Bool) (bean : Bean) (registry : Registry) :
    (registry.newBean isObject bean).2.objects =
      registry.objects + if isObject then 1 else 0 := by
  cases isObject <;> rfl

theorem apply_objects (registration : Registration) (registry : Registry) :
    (registration.apply registry).2.objects = registry.objects := by
  have insert_objects : ∀ name strategy (registry : Registry),
      (registry.insert name strategy).2.objects = registry.objects := by
    intro name strategy registry
    rcases insert_cases name strategy registry with ⟨fault, refused⟩ | ⟨_, _, accepted⟩
    · rw [refused]
    · rw [accepted]
      rfl
  cases registration with
  | strategy name made => exact insert_objects name made registry
  | supply name type bean => exact insert_objects name (.supplied type bean) registry
  | ensure name type =>
      simp only [Registration.apply, ensure]
      split
      · exact insert_objects name _ (registry.report (.registeringMissing name))
      · rfl

theorem complete_of_not_once (notOnce : strategy.makesOnce = false) (site : Site) (made : Bean)
    (filled : Registry) :
    strategy.complete site (.ok made) filled =
      (.ok (filled.newBean strategy.makesObjects made).1,
        (filled.newBean strategy.makesObjects made).2) := by
  simp [Strategy.complete, notOnce]

/-- Only a new object is allotted at the end of a run. -/
theorem allotments_of_made (thread : Thread) (frames : List String)
    (found : after.find? request.name = some strategy) (made bean : Bean) :
    allotments [⟨thread, frames, after, .answers request (some (.ok made)) (.ok bean)⟩] =
      if strategy.makesObjects then (bean.object.map (request.name, ·)).toList else [] := by
  cases makes : strategy.makesObjects with
  | true => cases object : bean.object <;> simp [allotments, Moment.allotment?, makesObjects, *]
  | false => simp [allotments, Moment.allotment?, makesObjects, *]

/-- A bean that is not kept is a new object, or the constructor's own. -/
theorem allots_newBean (found : filled.find? request.name = some strategy) (made : Bean) :
    let completed := filled.newBean strategy.makesObjects made
    Allots filled [⟨thread, frames, completed.2.leave thread,
      .answers request (some (.ok made)) (.ok completed.1)⟩] (completed.2.leave thread) := by
  intro completed
  have same : ∀ name, ((completed.2.leave thread).record name).1 = (filled.record name).1 :=
    fun name => congrArg Prod.fst (record_newBean strategy.makesObjects made filled)
  have objects : (completed.2.leave thread).objects =
      filled.objects + if strategy.makesObjects then 1 else 0 :=
    newBean_objects strategy.makesObjects made filled
  have foundAfter : (completed.2.leave thread).find? request.name = some strategy := by
    change (filled.newBean strategy.makesObjects made).2.find? request.name = some strategy
    rwa [find?, newBean_beans]
  have allotted := allotments_of_made thread frames foundAfter made completed.1
  cases makes : strategy.makesObjects with
  | true =>
      have isObject : completed.1.object = some filled.objects := by
        simp [completed, makes, newBean, allocate, Bean.object, Bean.inside]
      rw [makes, if_pos rfl] at objects allotted
      rw [isObject] at allotted
      exact allots_of_one allotted objects fun name found kept => Or.inl (same name ▸ kept)
  | false =>
      rw [makes] at objects allotted
      exact allots_of_unaffected allotted (Nat.le_of_eq objects.symm) same

/-- The end of a run allots one object at most, and keeps no other one. -/
theorem allots_complete (found : filled.find? request.name = some strategy)
    (outcome : Except BeanError Bean)
    (unkept : strategy.makesOnce = true → filled.kept? (.bean request.name) = none) :
    let completed := strategy.complete (.bean request.name) outcome filled
    Allots filled [⟨thread, frames, completed.2.leave thread,
      .answers request (some outcome) completed.1⟩] (completed.2.leave thread) := by
  cases outcome with
  | error error =>
      refine allots_of_unaffected rfl (Nat.le_of_eq ?_)
        fun name => congrArg Prod.fst (record_complete_error strategy _ error filled)
      change _ = (strategy.complete (.bean request.name) (.error error) filled).2.objects
      simp only [Strategy.complete]
      split <;> rfl
  | ok made =>
      cases once : strategy.makesOnce with
      | true =>
          rcases complete_stores once made (unkept once) with ⟨handsOut, kept, objects, _⟩
          intro completed
          have foundAfter : (completed.2.leave thread).find? request.name = some strategy := by
            change completed.2.find? request.name = some strategy
            rwa [find?, complete_beans]
          have one : allotments [⟨thread, frames, completed.2.leave thread,
              .answers request (some (.ok made)) completed.1⟩] =
                [(request.name, filled.objects)] := by
            rw [handsOut, allotments_of_made thread frames foundAfter, Strategy.makesObjects_of_once once]
            rfl
          refine allots_of_one one objects fun name found keptAfter => ?_
          change (completed.2.record name).1 = some found at keptAfter
          by_cases own : request.name = name
          · subst own
            rw [record, kept] at keptAfter
            cases keptAfter
            exact Or.inr ⟨rfl, rfl⟩
          · rw [record_complete_of_ne own] at keptAfter
            exact Or.inl keptAfter
      | false =>
          rw [complete_of_not_once once]
          exact allots_newBean found made

/-- Only a bean that is made once is kept when a run has ended. -/
theorem record_complete (elsewhere : strategy.makesOnce = true → other ≠ name)
    (outcome : Except BeanError Bean) (filled : Registry) :
    (strategy.complete (.bean other) outcome filled).2.record name = filled.record name := by
  cases once : strategy.makesOnce with
  | true => exact record_complete_of_ne (elsewhere once) outcome filled
  | false =>
      cases outcome with
      | error error => exact record_complete_error strategy (.bean other) error filled
      | ok made =>
          rw [complete_of_not_once once]
          exact record_newBean strategy.makesObjects made filled

/-- When a constructor begins to run, the beans kept are those that were when it was called for. -/
theorem Enters.made_counted (enters : Enters thread request registry strategy entered)
    (listed : Bool) :
    (((strategy.prepare (.bean request.name) entered).countRun (.bean request.name)
      listed).2.record name).1 = (registry.record name).1 := by
  change ((strategy.prepare (.bean request.name) entered).record name).1 = _
  rw [record_prepare, enters.record]

theorem allots_built (enters : Enters thread request registry strategy entered)
    (found : filled.find? request.name = some strategy)
    (unkept : strategy.makesOnce = true → filled.kept? (.bean request.name) = none)
    (inside : Allots ((strategy.prepare (.bean request.name) entered).countRun (.bean request.name)
      constructor.listed).2 moments filled) :
    let counted := ((strategy.prepare (.bean request.name) entered).countRun
      (.bean request.name) constructor.listed).2
    let completed := strategy.complete (.bean request.name) outcome filled
    Allots registry (builtMoments thread frames request counted filled moments outcome completed)
      (completed.2.leave thread) := by
  intro counted completed
  have begun : Allots registry [⟨thread, frames ++ [request.name], counted,
      .begins request.name⟩] counted := by
    refine allots_of_unaffected rfl (Nat.le_of_eq ?_)
      fun _ => enters.made_counted constructor.listed
    rw [← enters.keeps.2.2]
    exact (prepare_objects strategy (.bean request.name) entered).symm
  have ended : Allots filled [⟨thread, frames ++ [request.name], filled,
      .ends request.name outcome⟩] filled :=
    allots_of_unaffected rfl (Nat.le_refl _) fun _ => rfl
  exact (begun.append (inside.append ended)).append (allots_complete found outcome unkept)

theorem mem_locked_prepare {site : Site} (strategy : Strategy) (marked : Site)
    (site_mem : site ∈ registry.locked) : site ∈ (strategy.prepare marked registry).locked := by
  unfold Strategy.prepare
  split
  · exact List.mem_cons_of_mem marked site_mem
  · exact site_mem

end Answering

/-- What moments tell of objects, and what goes on unseen while a bean is under construction. -/
structure Allocates (_ : Thread) (_ : List String) (before : Registry) (moments : List Moment)
    (after : Registry) : Prop where
  allots : Allots before moments after
  /-- While the bean of a name is under construction, no other one is made for the name. -/
  awaits : ∀ name, .bean name ∈ before.locked → before.Holds name none → after.Holds name none

section Evaluating

variable {thread : Thread} {frames : List String} {moments others : List Moment}

theorem allocates_of_unaffected {before after : Registry} (nothing : allotments moments = [])
    (le : before.objects ≤ after.objects)
    (same : ∀ name, (after.record name).1 = (before.record name).1) :
    Allocates thread frames before moments after where
  allots := allots_of_unaffected nothing le same
  awaits name _ unmade := by rwa [Holds, same]

theorem Allocates.append {first second third : Registry} (evolves : first.Evolves second)
    (left : Allocates thread frames first moments second)
    (right : Allocates thread frames second others third) :
    Allocates thread frames first (moments ++ others) third where
  allots := left.allots.append right.allots
  awaits name locked unmade :=
    right.awaits name (evolves.restores.locked.symm ▸ locked) (left.awaits name locked unmade)

theorem allocates_left {request : Request} {registry entered : Registry} {strategy : Strategy}
    (enters : Enters thread request registry strategy entered)
    (nothing : allotments moments = []) :
    Allocates thread frames registry moments (entered.leave thread) :=
  allocates_of_unaffected nothing (Nat.le_of_eq enters.keeps.2.2.symm)
    fun _ => congrArg Prod.fst enters.record

theorem allocates_built {request : Request} {registry entered filled : Registry}
    {strategy : Strategy} {constructor : Constructor} {outcome : Except BeanError Bean}
    (enters : Enters thread request registry strategy entered)
    (due : strategy.due? (.bean request.name) entered = some constructor)
    (evolves : Evolves ((strategy.prepare (.bean request.name) entered).countRun
      (.bean request.name) constructor.listed).2 filled)
    (inside : Allocates thread (frames ++ [request.name])
      ((strategy.prepare (.bean request.name) entered).countRun (.bean request.name)
        constructor.listed).2 moments filled) :
    let counted := ((strategy.prepare (.bean request.name) entered).countRun
      (.bean request.name) constructor.listed).2
    let completed := strategy.complete (.bean request.name) outcome filled
    Allocates thread frames registry
      (builtMoments thread frames request counted filled moments outcome completed)
      (completed.2.leave thread) := by
  intro counted completed
  have sameBefore : ∀ name, (counted.record name).1 = (registry.record name).1 :=
    fun _ => enters.made_counted constructor.listed
  have found : filled.find? request.name = some strategy := by
    have grown : registry.beans <+: filled.beans := by
      rw [← enters.prepare_beans]
      exact evolves.grown
    exact find?_of_grown grown enters.found
  refine ⟨allots_built enters found (fun once => ?_) inside.allots, fun name locked unmade => ?_⟩
  · -- The mark that is set for the run keeps all others from making the bean.
    have unkept := (unmade_of_due once due).1
    have lockedInside : .bean request.name ∈ counted.locked :=
      mem_locked_prepare_self once (.bean request.name) entered
    have unmadeInside : counted.Holds request.name none := by
      rw [Holds, sameBefore, ← enters.record]
      exact Option.map_eq_none_iff.mpr unkept
    exact Option.map_eq_none_iff.mp (inside.awaits request.name lockedInside unmadeInside)
  · have elsewhere : strategy.makesOnce = true → request.name ≠ name := by
      rintro once rfl
      exact (unmade_of_due once due).2 (enters.locked ▸ locked)
    have lockedInside : .bean name ∈ counted.locked :=
      mem_locked_prepare strategy (.bean request.name) (enters.locked ▸ locked)
    have unmadeFilled :=
      inside.awaits name lockedInside (by rwa [Holds, sameBefore])
    change (completed.2.record name).1 = _
    rwa [record_complete elsewhere]

theorem recounts_allocates : Recounts Allocates where
  works _ _ _ := allocates_of_unaffected rfl (Nat.le_refl _) fun _ => rfl
  append evolves _ left right := left.append evolves right
  update _ _ object change registry := allocates_of_unaffected rfl (Nat.le_refl _)
    fun _ => congrArg Prod.fst (record_update object change registry)
  allocate _ _ _ := allocates_of_unaffected rfl (Nat.le_succ _) fun _ => rfl
  report _ _ _ _ _ := allocates_of_unaffected rfl (Nat.le_refl _) fun _ => rfl
  elsewhere inside := ⟨inside.allots, inside.awaits⟩
  unregistered _ := allocates_of_unaffected rfl (Nat.le_refl _) fun _ => rfl
  refused _ _ := allocates_of_unaffected rfl (Nat.le_refl _) fun _ => rfl
  mismatched enters _ := allocates_left enters rfl
  ready enters _ _ := allocates_left enters rfl
  built enters _ due evolves inside := allocates_built enters due evolves inside

/-- A registration allots nothing. -/
theorem allocates_apply (registration : Registration) (registry : Registry) :
    Allocates thread frames registry [⟨thread, frames, registry, .writes registration⟩]
      (registration.apply registry).2 :=
  allocates_of_unaffected rfl (Nat.le_of_eq (apply_objects registration registry).symm)
    fun _ => congrArg Prod.fst (record_apply registration registry)

end Evaluating

end Registry

/-- The moments of a procedure allot each object once, and tell where the kept ones are from. -/
theorem Procedure.course_allots {α : Type} {procedure : Procedure Registration α} {thread : Thread}
    {initial after : Registry} {result : α}
    (ran : procedure.performOn thread initial = some (result, after)) :
    Registry.Allots initial (procedure.course thread initial) after :=
  (Registry.recounts_allocates.course (fun _ _ => Registry.allocates_apply) ran).allots

end BeanContainer
