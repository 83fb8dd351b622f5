import BeanContainer.Proofs.Context.Carrying
import BeanContainer.Proofs.Context.Filings
import BeanContainer.Proofs.Registry.MadeOnce
import BeanContainer.Proofs.Registry.Refusals

/-!
# Beans registered on first use

A request that may register a missing name first registers it and then resolves it. If the second
part could fail, the first would be left behind. It cannot: nothing is in flight when the caller has
the registry to itself, nothing was made for a name that is not registered, and a default bean needs
nothing. So the request either fails and adds nothing, or the name is there for good, with the one
object that every later request gets.
-/

namespace BeanContainer

namespace BeanType

/-- How many objects are made for a new bean of the type. -/
def sharings : BeanType → Nat
  | plain .. => 0
  | shared inner => inner.sharings + 1

/-- A new bean of the type, where the given object is the next one to be made. -/
def freshBean (content : Content) (next : ObjectId) : BeanType → Bean
  | plain .. => .plain content
  | shared inner => (inner.freshBean content next).inside (next + inner.sharings)

/-- The first bean of a default singleton of the type. -/
def firstBean (next : ObjectId) (type : BeanType) : Bean :=
  (type.freshBean type.default next).inside (next + type.sharings)

end BeanType

theorem Procedure.run_make {ω α : Type} (fetcher : Fetcher)
    (effect : ω → Registry → Except BeanError Unit × Registry) (thread : Thread)
    (content : Content) (type : BeanType) (next : Bean → Procedure ω α) (registry : Registry) :
    (make content type next).run fetcher effect thread registry =
      (next (type.freshBean content registry.objects)).run fetcher effect thread
        { registry with objects := registry.objects + type.sharings } := by
  induction type generalizing next with
  | plain name default => rfl
  | shared inner ih => exact ih _

namespace Registry

variable {name : String} {type : BeanType} {registry : Registry}

/-- Nothing is in flight, and beans are kept only for registered names. -/
structure Sound (registry : Registry) : Prop where
  atRest : registry.AtRest
  unkept : ∀ name, registry.contains name = false → registry.kept? (.bean name) = none

/-- If nothing is kept for the name unless it is registered, this stays so. -/
def StaysUnmade (name : String) (_ : Thread) (_ : List String) (before : Registry)
    (_ : List Moment) (after : Registry) : Prop :=
  (before.contains name = false → before.Holds name none) →
    after.contains name = false → after.Holds name none

theorem staysUnmade_of_record {thread : Thread} {frames : List String} {moments : List Moment}
    {before after : Registry} (grown : before.beans <+: after.beans)
    (same : after.record name = before.record name) :
    StaysUnmade name thread frames before moments after := by
  intro unmade missing
  rw [Holds, same]
  refine unmade (Bool.eq_false_iff.mpr fun contained => ?_)
  rw [contains_of_grown grown contained] at missing
  cases missing

theorem recounts_staysUnmade (name : String) : Recounts (StaysUnmade name) where
  works _ _ _ := id
  append _ _ left right unmade := right (left unmade)
  update _ _ object change registry :=
    staysUnmade_of_record List.prefix_rfl (record_update object change registry)
  allocate _ _ _ := id
  report _ _ _ _ _ := id
  elsewhere := id
  unregistered _ := id
  refused _ _ := id
  mismatched enters _ := staysUnmade_of_record enters.evolves.grown enters.record
  ready enters _ _ := staysUnmade_of_record enters.evolves.grown enters.record
  built := by
    intro thread frames request registry strategy entered constructor moments outcome filled enters
      same due counted completed evolves inside unmade missing
    have grown := (enters.evolves_complete outcome evolves).grown
    by_cases own : request.name = name
    · subst own
      rw [contains_of_grown grown enters.contains] at missing
      cases missing
    · -- What runs for another name counts for this one only as far as its own requests go.
      have sameBefore : counted.record name = registry.record name := by
        rw [record_countRun_of_ne own, record_prepare, enters.record]
      have sameAfter : (completed.2.leave thread).record name = filled.record name :=
        record_complete_of_ne own outcome filled
      have sameNames : counted.contains = registry.contains :=
        contains_congr enters.prepare_beans
      have sameNamesAfter : (completed.2.leave thread).contains = filled.contains :=
        contains_congr (complete_beans (.bean request.name) outcome filled)
      rw [sameNamesAfter] at missing
      rw [Holds, sameAfter]
      refine inside (fun missingBefore => ?_) missing
      rw [Holds, sameBefore]
      rw [sameNames] at missingBefore
      exact unmade missingBefore

theorem Sound.of_staysUnmade {before after : Registry} (sound : before.Sound)
    (restores : before.Restores after)
    (stays : ∀ name, (before.contains name = false → before.Holds name none) →
      after.contains name = false → after.Holds name none) : after.Sound where
  atRest := restores.atRest sound.atRest
  unkept name missing := by
    refine Option.map_eq_none_iff.mp (stays name (fun missingBefore => ?_) missing)
    rw [Holds, record, sound.unkept name missingBefore]
    rfl

/-- Whatever procedures do, a registry that is sound before is sound afterwards. -/
theorem carries_sound : Carries fun before _ after => before.Sound → after.Sound where
  refl _ := id
  append left right := right ∘ left
  report event registry sound := ⟨⟨sound.atRest.chains, sound.atRest.locked⟩, sound.unkept⟩
  read {α procedure result registry after} ran sound := by
    refine sound.of_staysUnmade (Procedure.read_restores ran) fun name => ?_
    exact (recounts_staysUnmade name).read ran
  perform ran sound := by
    refine sound.of_staysUnmade (Procedure.perform_restores ran) fun name => ?_
    exact (recounts_staysUnmade name).course
      (fun _ _ registration registry => staysUnmade_of_record
        (registration.apply_beans_grow registry) (record_apply registration registry)) ran

section Answering

variable {request : Request} {strategy : Strategy} {entered : Registry} {thread : Thread}

theorem AtRest.exists_enters (atRest : registry.AtRest) (thread : Thread)
    (found : registry.find? request.name = some strategy) :
    ∃ entered, Enters thread request registry strategy entered :=
  Registry.exists_enters found (by simp [atRest.chains])

theorem Enters.prospect_ready {bean : Bean}
    (enters : Enters thread request registry strategy entered)
    (same : strategy.handover = request.handover)
    (notDue : strategy.due? (.bean request.name) entered = none)
    (ready : strategy.ready? (.bean request.name) entered = some bean) :
    registry.prospect thread request = .ready bean entered := by
  rcases enters with ⟨found, chains, enter, rfl⟩
  simp [prospect, found, enter, same, notDue, ready]

/-- When nothing is in flight, a bean that is kept is handed out without further ado. -/
theorem get_of_kept {bean : Bean} (atRest : registry.AtRest) (thread : Thread)
    (found : registry.find? request.name = some strategy)
    (same : strategy.handover = request.handover) (once : strategy.makesOnce = true)
    (kept : registry.kept? (.bean request.name) = some bean) :
    ∃ after, registry.get thread request = some (.ok bean, after) ∧
      after.beans = registry.beans := by
  rcases atRest.exists_enters thread found with ⟨entered, enters⟩
  have keptInside : entered.kept? (.bean request.name) = some bean := by
    rw [kept?, enters.keeps.2.1]
    exact kept
  have prospect : registry.prospect thread request = .ready bean entered := by
    cases strategy with
    | supplied type bean | factory type made | smartFactory type made => cases once
    | singleton type made | smartSingleton type made =>
        exact enters.prospect_ready same (by simp [Strategy.due?, keptInside]) keptInside
  refine ⟨entered.leave thread, ?_, enters.keeps.1⟩
  rw [get, fetch_eq_retrieve, retrieve_eq, prospect]

/-- When nothing is in flight, a default singleton that was not requested yet is made. -/
theorem get_of_default (atRest : registry.AtRest) (thread : Thread)
    (found : registry.find? name = some (.singleton type (.default type)))
    (unkept : registry.kept? (.bean name) = none) :
    ∃ after, registry.get thread ⟨name, ⟨.reference, type⟩⟩ =
        some (.ok (type.firstBean registry.objects), after) ∧
      after.beans = registry.beans ∧
      after.kept? (.bean name) = some (type.firstBean registry.objects) := by
  have registered : registry.find? (Request.mk name ⟨.reference, type⟩).name =
      some (.singleton type (.default type)) := found
  rcases atRest.exists_enters thread registered with ⟨entered, enters⟩
  have unkeptInside : entered.kept? (.bean name) = none := by
    rw [kept?, enters.keeps.2.1]
    exact unkept
  have due : (Strategy.singleton type (.default type)).due? (.bean name) entered =
      some (.default type) := by
    simp [Strategy.due?, unkeptInside, enters.locked, atRest.locked]
  -- The constructor ends at once, whatever budget is left to it.
  obtain ⟨budget, size_eq⟩ : ∃ budget, registry.size = budget + 1 := by
    have inside := List.length_pos_of_mem (mem_beans_of_find? found)
    exact ⟨registry.size - 1, (Nat.sub_add_cancel inside).symm⟩
  obtain ⟨filled, built, same⟩ : ∃ filled,
      builderWithin (budget + 1) thread (.bean name) (.default type) (entered.lock (.bean name)) =
        some (.ok (type.freshBean type.default entered.objects), filled) ∧
      filled = { ((entered.lock (.bean name)).countRun (.bean name) false).2 with
        objects := entered.objects + type.sharings } := ⟨_, Procedure.run_make .., rfl⟩
  have unkeptFilled : filled.kept? (.bean name) = none := by
    rw [same]
    exact unkeptInside
  have first : (type.freshBean type.default entered.objects).inside filled.objects =
      type.firstBean registry.objects := by
    rw [same, ← enters.keeps.2.2]
    rfl
  have once : (Strategy.singleton type (.default type)).makesOnce = true := rfl
  rcases complete_stores once (type.freshBean type.default entered.objects) unkeptFilled with
    ⟨handsOut, kept, _, _⟩
  rw [first] at handsOut kept
  refine ⟨((Strategy.singleton type (.default type)).complete (.bean name)
    (.ok (type.freshBean type.default entered.objects)) filled).2.leave thread, ?_, ?_, kept⟩
  · rw [get, fetch_eq_retrieve, retrieve_eq, enters.prospect_due rfl due, size_eq]
    change (builderWithin (budget + 1) thread (.bean name) (.default type)
      (entered.lock (.bean name))).map _ = _
    rw [built, Option.map_some, handsOut]
  · refine (complete_beans (.bean name) _ filled).trans ?_
    rw [same]
    exact enters.keeps.1

end Answering

/-- Without permission to register, or if the name is there, the bean is requested as it is. -/
theorem getOrInsert_of_settled
    (settled : registry.autoRegister = false ∨ registry.contains name = true) :
    registry.getOrInsert name type = registry.get 0 ⟨name, ⟨.reference, type⟩⟩ := by
  have notMissing : ¬(registry.autoRegister && !registry.contains name) = true := by
    rcases settled with forbidden | contained
    · simp [forbidden]
    · simp [contained]
  rw [getOrInsert, ensure, if_neg notMissing]

theorem ensure_of_missing (type : BeanType) (permits : registry.autoRegister = true)
    (missing : registry.contains name = false) :
    registry.ensure name type = (registry.report (.registeringMissing name)).insert name
      (.singleton type (.default type)) := by
  have isMissing : (registry.autoRegister && !registry.contains name) = true := by
    simp [permits, missing]
  rw [ensure, if_pos isMissing, insertDefault]

theorem find?_of_added {before after : Registry} {strategy : Strategy}
    (added : after.beans = before.beans ++ [(name, strategy)])
    (missing : before.contains name = false) : after.find? name = some strategy := by
  have free : List.lookup name before.beans = none := by simpa [contains, find?] using missing
  rw [find?, added, List.lookup_append, free]
  simp

/-- A missing name is registered and its bean is made, in one go. -/
theorem getOrInsert_of_free (sound : registry.Sound) (type : BeanType)
    (permits : registry.autoRegister = true) (missing : registry.contains name = false)
    (nonempty : name ≠ "") :
    ∃ after, registry.getOrInsert name type =
        some (.ok (type.firstBean registry.objects), after) ∧
      after.beans = registry.beans ++ [(name, .singleton type (.default type))] ∧
      after.kept? (.bean name) = some (type.firstBean registry.objects) := by
  have isNonempty : name.isEmpty = false := by simpa using nonempty
  obtain ⟨inserted, ensured, beans, kept, objects, atRest⟩ : ∃ inserted,
      registry.ensure name type = (.ok (), inserted) ∧
      inserted.beans = registry.beans ++ [(name, .singleton type (.default type))] ∧
      inserted.kept = registry.kept ∧ inserted.objects = registry.objects ∧ inserted.AtRest := by
    rw [ensure_of_missing type permits missing, insert, isNonempty]
    have missingStill : (registry.report (.registeringMissing name)).contains name = false :=
      missing
    rw [missingStill]
    exact ⟨_, rfl, rfl, rfl, rfl, sound.atRest.chains, sound.atRest.locked⟩
  have unkept : inserted.kept? (.bean name) = none := by
    rw [kept?, kept]
    exact sound.unkept name missing
  rcases get_of_default atRest 0 (find?_of_added beans missing) unkept with
    ⟨after, answered, sameBeans, keptAfter⟩
  rw [objects] at answered keptAfter
  exact ⟨after, by rw [getOrInsert, ensured]; exact answered, sameBeans.trans beans, keptAfter⟩

/-- A request on first use that fails registers nothing. -/
theorem beans_of_getOrInsert_error (sound : registry.Sound) {error : BeanError} {after : Registry}
    (failed : registry.getOrInsert name type = some (.error error, after)) :
    after.beans = registry.beans := by
  by_cases settled : registry.autoRegister = false ∨ registry.contains name = true
  · rw [getOrInsert_of_settled settled] at failed
    exact (persists_stays.get failed).beans
  · rw [not_or, Bool.not_eq_false, Bool.not_eq_true] at settled
    by_cases empty : name = ""
    · have refused : registry.ensure name type = (.error (.invalidName name .empty),
          registry.report (.registeringMissing name)) := by
        rw [ensure_of_missing type settled.1 settled.2, insert, if_pos (by simp [empty])]
      rw [getOrInsert, refused] at failed
      cases failed
      rfl
    · rcases getOrInsert_of_free sound type settled.1 settled.2 empty with ⟨_, succeeded, _⟩
      cases succeeded.symm.trans failed

end Registry

/-- Once the first answer came with the object, all others come with it without any run. -/
theorem Life.handedOut_of_made {made : Option ObjectId} {answers later : List Answer}
    {bean : Bean} {object : ObjectId} (life : Life made answers)
    (answers_eq : answers = ⟨false, some (.ok bean), .ok (bean.inside object)⟩ :: later) :
    made = some object ∧ ∀ answer ∈ later, ∃ found,
      answer = ⟨false, none, .ok found⟩ ∧ found.object = some object := by
  induction life generalizing later with
  | unmade => cases answers_eq
  | refused before ih | failed before ih =>
      rcases List.append_eq_cons_iff.mp answers_eq with ⟨_, first⟩ | ⟨between, rfl, rfl⟩
      · cases first
      · cases (ih rfl).1
  | made before ih =>
      rcases List.append_eq_cons_iff.mp answers_eq with ⟨_, first⟩ | ⟨between, rfl, rfl⟩
      · simp only [List.cons.injEq, Answer.mk.injEq, Option.some.injEq, Except.ok.injEq] at first
        rcases first with ⟨⟨_, rfl, same⟩, rfl⟩
        simp only [Bean.inside, Bean.mk.injEq, List.cons.injEq] at same
        exact ⟨congrArg some same.2.1, by simp⟩
      · cases (ih rfl).1
  | handedOut before isObject ih =>
      rcases List.append_eq_cons_iff.mp answers_eq with ⟨_, first⟩ | ⟨between, rfl, rfl⟩
      · cases first
      · rcases ih rfl with ⟨same, handedOut⟩
        cases same
        refine ⟨rfl, List.forall_mem_append.mpr ⟨handedOut, ?_⟩⟩
        exact List.forall_mem_singleton.mpr ⟨_, rfl, isObject⟩

namespace Registry

variable {name : String} {type : BeanType} {registry : Registry} {object : ObjectId}

/-- Whatever is done on a registry that has the object of a name, requests for it get that one. -/
theorem answers_of_kept {strategy : Strategy} (atRest : registry.AtRest)
    (found : registry.find? name = some strategy) (once : strategy.makesOnce = true)
    (kept : (registry.kept? (.bean name)).map (·.object) = some (some object)) {α : Type}
    {procedure : Procedure Registration α} {thread : Thread} {result : α} {after : Registry}
    (ran : procedure.performOn thread registry = some (result, after)) :
    ∀ answer ∈ answersFor name (procedure.course thread registry), ∃ bean,
      answer = ⟨false, none, .ok bean⟩ ∧ bean.object = some object := by
  have foundAfter := find?_of_grown (Procedure.performOn_evolves ran).grown found
  have lives := atRest.lives foundAfter once ran
  have holds : registry.Holds name (some object) := kept
  -- The life is told as if the object had been made by an answer just before.
  have before : Life (some object)
      [⟨false, some (.ok (.plain .unit)), .ok ((Bean.plain .unit).inside object)⟩] :=
    .made .unmade
  rcases lives.life holds before with ⟨_, _, life⟩
  exact (life.handedOut_of_made rfl).2

/-- A request on first use leaves a sound registry behind. -/
theorem Sound.getOrInsert (sound : registry.Sound) {outcome : Except BeanError Bean}
    {after : Registry} (answered : registry.getOrInsert name type = some (outcome, after)) :
    after.Sound := by
  rw [← Procedure.perform_requiring] at answered
  exact carries_sound.perform answered sound

end Registry

/-- Every registry is sound that a run of a context reaches from one with no beans. -/
theorem Journal.run_sound {σ : Type} (all : List (Configuration σ)) (autoRegister : Bool)
    (operations : List (Operation σ)) :
    ((Journal.start { autoRegister }).run all operations).context.registry.Sound :=
  Registry.carries_sound.run_start all { autoRegister } operations
    ⟨⟨fun _ => rfl, rfl⟩, fun _ _ => rfl⟩

/--
A request on first use fails without registering anything. It is the plain request by reference if
missing names may not be registered or the name is there. And if the name is missing and may be
registered, the request succeeds with the default bean, and the name is that of a singleton. From
then on, whatever else is done with a context over the registry, all requests for the bean get the
same object without registering anything, be they made from outside or by any procedure, on any
thread and from within any constructor.
-/
theorem getOrInsert_is_atomic {σ : Type} {registry : Registry} (sound : registry.Sound)
    (name : String) (type : BeanType) :
    let request : Request := ⟨name, ⟨.reference, type⟩⟩
    (∀ error after, registry.getOrInsert name type = some (.error error, after) →
      after.beans = registry.beans) ∧
    (registry.autoRegister = false ∨ registry.contains name = true →
      registry.getOrInsert name type = registry.get 0 request) ∧
    (registry.autoRegister = true → registry.contains name = false → name ≠ "" →
      ∃ after object, registry.getOrInsert name type =
          some (.ok (type.firstBean registry.objects), after) ∧
        (type.firstBean registry.objects).object = some object ∧
        after.beans = registry.beans ++ [(name, .singleton type (.default type))] ∧
        ∀ (all : List (Configuration σ)) (journal : Journal σ) (operations : List (Operation σ)),
          journal.context.registry = after →
            let later := (journal.run all operations).context.registry
            (∀ thread, ∃ bean afterwards,
              later.get thread request = some (.ok bean, afterwards) ∧
              bean.object = some object ∧ afterwards.beans = later.beans) ∧
            later.getOrInsert name type = later.get 0 request ∧
            ∀ {α : Type} (procedure : Procedure Registration α) (thread : Thread) result final,
              procedure.performOn thread later = some (result, final) →
                ∀ answer ∈ answersFor name (procedure.course thread later), ∃ bean,
                  answer = ⟨false, none, .ok bean⟩ ∧ bean.object = some object) := by
  intro request
  refine ⟨fun _ _ => Registry.beans_of_getOrInsert_error sound,
    Registry.getOrInsert_of_settled, ?_⟩
  intro permits missing nonempty
  rcases Registry.getOrInsert_of_free sound type permits missing nonempty with
    ⟨after, answered, beans, kept⟩
  refine ⟨after, _, answered, rfl, beans, ?_⟩
  rintro all journal operations rfl later
  have soundLater : later.Sound := by
    rcases Registry.carries_sound.run all journal operations with ⟨_, _, keeps⟩
    exact keeps (sound.getOrInsert answered)
  rcases carries_accounts.run all journal operations with ⟨_, _, accounts⟩
  have retains := accounts.retains
  have found : later.find? request.name = some (.singleton type (.default type)) :=
    Registry.find?_of_grown retains.beans (Registry.find?_of_added beans missing)
  have keptLater := retains.made name _ (by rw [kept]; rfl)
  rcases Option.map_eq_some_iff.mp keptLater with ⟨bean, keptBean, same⟩
  change later.kept? (.bean request.name) = _ at keptBean
  refine ⟨?_, ?_, ?_⟩
  · intro thread
    rcases Registry.get_of_kept soundLater.atRest thread found rfl rfl keptBean with
      ⟨afterwards, answeredLater, sameBeans⟩
    exact ⟨bean, afterwards, answeredLater, same, sameBeans⟩
  · refine Registry.getOrInsert_of_settled (Or.inr ?_)
    rw [Registry.contains_eq_find?, found, Option.isSome_some]
  · intro α procedure thread result final ran
    exact Registry.answers_of_kept soundLater.atRest found rfl keptLater ran

/-- A procedure that supplies an integer, whatever comes of it. -/
def Procedure.supplying (name : String) (value : Int) : Procedure Registration Unit :=
  .write (.supply name .i32 (.plain (.integer value))) fun _ => .done ()

/-- A registry with one bean, in which missing names may be registered. -/
def permissive : Registry :=
  ((Journal.start { autoRegister := true }).run ([] : List (Configuration Unit))
    [.use (.supplying "port" 8080)]).context.registry

theorem getOrInsert_is_atomic_implicit :
    permissive.Sound ∧ permissive.autoRegister = true ∧ permissive.contains "implicit" = false ∧
      ∃ after, permissive.getOrInsert "implicit" (.shared .i32) =
          some (.ok ⟨.integer 0, [1, 0]⟩, after) ∧
        let later := ((Journal.start after).run ([] : List (Configuration Unit))
          [.use (.supplying "implicit" 1)]).context.registry
        ∃ bean afterwards, later.get 1 ⟨"implicit", ⟨.reference, .shared .i32⟩⟩ =
            some (.ok bean, afterwards) ∧
          bean.object = some 1 ∧ afterwards.beans = later.beans := by
  have sound : permissive.Sound :=
    Journal.run_sound ([] : List (Configuration Unit)) true [.use (.supplying "port" 8080)]
  have permits : permissive.autoRegister = true := rfl
  have missing : permissive.contains "implicit" = false := rfl
  have objects : permissive.objects = 0 := rfl
  rcases (getOrInsert_is_atomic sound "implicit" (.shared .i32)).2.2 permits missing
    (by decide) with ⟨after, object, answered, isObject, _, lasts⟩
  rw [objects] at answered isObject
  cases isObject
  have later := lasts ([] : List (Configuration Unit)) (.start after)
    [.use (.supplying "implicit" 1)] rfl
  exact ⟨sound, permits, missing, after, answered, later.1 1⟩

end BeanContainer
