import BeanContainer.Scenario.Session
import Mathlib.Data.List.Basic
import Mathlib.Data.List.Induction

/-!
# What a configuration waits for

A configuration may be checked against any number of lookups before it is built, and these need not
agree with each other. It waits for the declared names that none of them had, each once and in the
order of the first declaration. Each check asks its lookup for exactly what is waited for, and
nothing that was found before is asked for again. The registry it is built from is one lookup more,
but nothing is struck out by building.
-/

namespace BeanContainer

variable {σ : Type}

/--
The names are those declared that none of the lookups has, each once and in the order of the first
declaration.
-/
structure Configuration.WaitsFor (configuration : Configuration σ)
    (lookups : List (String → Bool)) (names : List String) : Prop where
  mem_iff : ∀ name, name ∈ names ↔
    (∃ resource ∈ configuration.resources, resource.name = name) ∧
      ∀ isThere ∈ lookups, isThere name = false
  ordered : names.Pairwise fun first second =>
    (configuration.resources.map (·.name)).idxOf first <
      (configuration.resources.map (·.name)).idxOf second

/-- What a check asked its lookup for, in order, and whether nothing was left. -/
structure Check where
  asked : List String
  isSatisfied : Bool

namespace Queued

/-- Checks against the lookups, one after the other. -/
def checkAll (queued : Queued σ) : List (String → Bool) → List Check × Queued σ
  | [] => ([], queued)
  | isThere :: lookups =>
    let ((isSatisfied, pruned), asked) := (queued.pruneBy (noting isThere)).run []
    let (checks, last) := pruned.checkAll lookups
    (⟨asked, isSatisfied⟩ :: checks, last)

end Queued

/-- Names are put behind each other as they come up first. -/
theorem pairwise_idxOf_eraseDups (names : List String) :
    names.eraseDups.Pairwise fun first second => names.idxOf first < names.idxOf second := by
  induction names using List.reverseRecOn with
  | nil => exact .nil
  | append_singleton names last ih =>
      have earlier : names.eraseDups.Pairwise fun first second =>
          (names ++ [last]).idxOf first < (names ++ [last]).idxOf second := by
        refine ih.imp_of_mem ?_
        intro first second first_mem second_mem precedes
        rwa [List.idxOf_append_of_mem (List.mem_eraseDups.mp first_mem),
          List.idxOf_append_of_mem (List.mem_eraseDups.mp second_mem)]
      rw [List.eraseDups_append]
      by_cases seen : last ∈ names
      · simpa [List.removeAll, seen] using earlier
      · have new : ([last].removeAll names).eraseDups = [last] := by
          simp [List.removeAll, seen, List.eraseDups_cons]
        rw [new, List.pairwise_append]
        refine ⟨earlier, List.pairwise_singleton _ _, ?_⟩
        simp only [List.mem_singleton, List.mem_eraseDups]
        rintro first first_mem _ rfl
        rw [List.idxOf_append_of_mem first_mem, List.idxOf_append_of_notMem seen]
        exact Nat.lt_add_right _ (List.idxOf_lt_length_of_mem first_mem)

/-- The names are asked for in order, whatever is found. -/
theorem run_filterAuxM_noting (isThere : String → Bool) (names kept asked : List String) :
    (names.filterAuxM (fun name => return !(← noting isThere name)) kept).run asked =
      ((names.filter fun name => !isThere name).reverse ++ kept, asked ++ names) := by
  induction names generalizing kept asked with
  | nil => exact congrArg (kept, ·) (List.append_nil asked).symm
  | cons name names ih =>
      refine (ih (cond (!isThere name) (name :: kept) kept) (asked ++ [name])).trans ?_
      cases found : isThere name <;> simp [found]

namespace Configuration

variable {configuration : Configuration σ} {lookups : List (String → Bool)} {names : List String}

namespace WaitsFor

/-- One lookup more strikes out what it has. -/
theorem filter (waits : configuration.WaitsFor lookups names) (isThere : String → Bool) :
    configuration.WaitsFor (lookups ++ [isThere]) (names.filter fun name => !isThere name) where
  mem_iff name := by
    simp only [List.mem_filter, waits.mem_iff, Bool.not_eq_true', List.forall_mem_append,
      List.forall_mem_singleton, and_assoc]
  ordered := waits.ordered.filter _

/-- Nothing is left exactly if waiting for nothing is right. -/
theorem eq_nil_iff (waits : configuration.WaitsFor lookups names) :
    names = [] ↔ configuration.WaitsFor lookups [] := by
  constructor
  · rintro rfl
    exact waits
  · intro none
    rw [List.eq_nil_iff_forall_not_mem]
    intro name name_mem
    exact List.not_mem_nil ((none.mem_iff name).mpr ((waits.mem_iff name).mp name_mem))

end WaitsFor

end Configuration

namespace Queued

/-- Before any check all declared names are waited for. -/
theorem waitsFor_ofConfiguration (id : ConfigurationId) (configuration : Configuration σ) :
    (ofConfiguration id configuration).configuration.WaitsFor []
      (ofConfiguration id configuration).missing where
  mem_iff name := by simp [ofConfiguration]
  ordered := pairwise_idxOf_eraseDups _

/-- A check asks for all that is missing, in order, and strikes out what is there. -/
theorem run_pruneBy_noting (isThere : String → Bool) (queued : Queued σ) :
    (queued.pruneBy (noting isThere)).run [] = (queued.prune isThere, queued.missing) := by
  have filtered := run_filterAuxM_noting isThere queued.missing [] []
  rw [List.append_nil, List.nil_append] at filtered
  unfold pruneBy List.filterM prune
  rw [StateT.run_bind, StateT.run_bind, filtered]
  change (let missing := (queued.missing.filter fun name => !isThere name).reverse.reverse
    ((missing.isEmpty, { queued with missing }), queued.missing)) = _
  rw [List.reverse_reverse]

theorem checkAll_cons (queued : Queued σ) (isThere : String → Bool)
    (lookups : List (String → Bool)) :
    queued.checkAll (isThere :: lookups) =
      (⟨queued.missing, (queued.prune isThere).1⟩ ::
        ((queued.prune isThere).2.checkAll lookups).1,
        ((queued.prune isThere).2.checkAll lookups).2) := by
  rw [checkAll, run_pruneBy_noting]

/-- What checks against some lookups answer, after those against earlier ones, and leave behind. -/
structure Checked (id : ConfigurationId) (configuration : Configuration σ)
    (so lookups : List (String → Bool)) (checks : List Check) (last : Queued σ) : Prop where
  same_id : last.id = id
  same_configuration : last.configuration = configuration
  waits : configuration.WaitsFor (so ++ lookups) last.missing
  length_eq : checks.length = lookups.length
  answers : ∀ place check, checks[place]? = some check →
    configuration.WaitsFor (so ++ lookups.take place) check.asked ∧
      (check.isSatisfied = true ↔ configuration.WaitsFor (so ++ lookups.take (place + 1)) [])

theorem checked {so : List (String → Bool)} {queued : Queued σ}
    (waits : queued.configuration.WaitsFor so queued.missing) (lookups : List (String → Bool)) :
    Checked queued.id queued.configuration so lookups (queued.checkAll lookups).1
      (queued.checkAll lookups).2 := by
  induction lookups generalizing so queued with
  | nil => exact ⟨rfl, rfl, by rwa [List.append_nil], rfl, by simp [checkAll]⟩
  | cons isThere lookups ih =>
      have pruned : (queued.prune isThere).2.configuration.WaitsFor (so ++ [isThere])
          (queued.prune isThere).2.missing := waits.filter isThere
      have later := ih pruned
      rw [checkAll_cons]
      refine ⟨later.same_id, later.same_configuration, ?_, by simp [later.length_eq], ?_⟩
      · rw [List.append_cons]
        exact later.waits
      · rintro (_ | place) check found
        · cases found
          refine ⟨by simpa using waits, ?_⟩
          rw [List.take_succ_cons, List.take_zero]
          exact List.isEmpty_iff.trans pruned.eq_nil_iff
        · simp only [List.take_succ_cons]
          rw [List.append_cons so _ (lookups.take place),
            List.append_cons so _ (lookups.take (place + 1))]
          exact later.answers place check found

theorem report_all_missing (configuration : Configuration σ) (absent : List String)
    (registry : Registry) :
    absent.foldl (fun registry resource =>
        registry.report (.missing configuration.name resource (configuration.binding? resource)))
      registry =
      { registry with events := registry.events ++ (absent.map fun resource =>
          .missing configuration.name resource (configuration.binding? resource)) } := by
  induction absent generalizing registry with
  | nil => simp
  | cons resource absent ih =>
      rw [List.foldl_cons, ih, List.map_cons, List.append_cons]
      rfl

variable {queued : Queued σ} {registry : Registry}

/-- If something is absent, it is all that happens that this is reported. -/
theorem build_of_absent {absent : List String}
    (absent_eq : (queued.missing.filter fun name => !registry.contains name) = absent)
    (some_absent : absent ≠ []) :
    queued.build registry =
      some (.error (.missingResources queued.configuration.name absent),
        { registry with events := registry.events ++ (absent.map fun resource =>
            .missing queued.configuration.name resource
              (queued.configuration.binding? resource)) }) := by
  simp [build, absent_eq, some_absent, report_all_missing]

/-- If nothing is absent, all that happens is what the first hook does. -/
theorem build_of_present
    (present : (queued.missing.filter fun name => !registry.contains name) = []) :
    queued.build registry =
      (queued.configuration.construct.read registry).map fun (outcome, after) =>
        (outcome.map fun state => ⟨queued.id, queued.configuration, state⟩, after) := by
  rw [build, present]
  simp only [List.isEmpty_nil, if_true]
  rcases queued.configuration.construct.read registry with _ | ⟨error | state, after⟩ <;> rfl

/-- For want of resources a build is refused if some are absent, or if the first hook says so. -/
theorem build_eq_missingResources_iff (queued : Queued σ) (registry : Registry) :
    (∃ resources after, queued.build registry =
        some (.error (.missingResources queued.configuration.name resources), after)) ↔
      (∃ resource ∈ queued.missing, registry.contains resource = false) ∨
        ∃ resources after, queued.configuration.construct.read registry =
          some (.error (.missingResources queued.configuration.name resources), after) := by
  by_cases present : (queued.missing.filter fun name => !registry.contains name) = []
  · have nothing : ¬∃ resource ∈ queued.missing, registry.contains resource = false := by
      simpa using present
    rw [build_of_present present, or_iff_right nothing]
    rcases queued.configuration.construct.read registry with _ | ⟨error | state, after⟩ <;>
      simp [Except.map]
  · have something : ∃ resource ∈ queued.missing, registry.contains resource = false := by
      simpa using present
    exact iff_of_true ⟨_, _, build_of_absent rfl present⟩ (Or.inl something)

end Queued

theorem Scenario.Session.queued_of_build (session : Session) (label target : String) :
    ∀ answer ∈ session.act (.build label target), answer.2.queued = session.queued := by
  intro answer answer_mem
  simp only [act, withSlot] at answer_mem
  cases found : session.queued.lookup label with
  | none =>
      rw [found] at answer_mem
      cases answer_mem
      rfl
  | some queued =>
      simp only [found] at answer_mem
      split at answer_mem <;> cases answer_mem <;> rfl

/--
After any checks a configuration waits for the declared names that no lookup had. Each check asked
for what was waited for before it, and was satisfied if nothing was left after it. From any registry
it is then built as its first hook does, if that has what is waited for. Otherwise it is refused
with what is absent, whatever that hook would do. Building strikes nothing out.
-/
theorem checks_follow_declaration (id : ConfigurationId) (configuration : Configuration σ)
    (lookups : List (String → Bool)) :
    ∃ (checks : List Check) (last : Queued σ),
      (Queued.ofConfiguration id configuration).checkAll lookups = (checks, last) ∧
      configuration.WaitsFor lookups last.missing ∧
      checks.length = lookups.length ∧
      (∀ place check, checks[place]? = some check →
        configuration.WaitsFor (lookups.take place) check.asked ∧
          (check.isSatisfied = true ↔ configuration.WaitsFor (lookups.take (place + 1)) [])) ∧
      (∀ registry : Registry,
        (∃ resources after, last.build registry =
            some (.error (.missingResources configuration.name resources), after)) ↔
          (∃ resource ∈ last.missing, registry.contains resource = false) ∨
            ∃ resources after, configuration.construct.read registry =
              some (.error (.missingResources configuration.name resources), after)) ∧
      (∀ (registry : Registry) (absent : List String),
        absent = (last.missing.filter fun name => !registry.contains name) →
          configuration.WaitsFor (lookups ++ [registry.contains]) absent ∧
          (absent ≠ [] → ∀ construct,
            { last with configuration := { configuration with construct } }.build registry =
              some (.error (.missingResources configuration.name absent),
                { registry with events := registry.events ++ (absent.map fun resource =>
                    .missing configuration.name resource (configuration.binding? resource)) })) ∧
          (absent = [] → last.build registry =
            (configuration.construct.read registry).map fun (outcome, after) =>
              (outcome.map fun state => ⟨id, configuration, state⟩, after))) ∧
      ∀ (session : Scenario.Session) (label target : String),
        ∀ answer ∈ session.act (.build label target), answer.2.queued = session.queued := by
  obtain ⟨checks, last, ran⟩ : ∃ checks last,
      (Queued.ofConfiguration id configuration).checkAll lookups = (checks, last) :=
    ⟨_, _, rfl⟩
  have checked := Queued.checked (Queued.waitsFor_ofConfiguration id configuration) lookups
  rw [ran] at checked
  rcases last with ⟨_, _, missing⟩
  cases checked.same_id
  cases checked.same_configuration
  refine ⟨checks, _, ran, checked.waits, checked.length_eq, checked.answers,
    Queued.build_eq_missingResources_iff _, ?_, Scenario.Session.queued_of_build⟩
  rintro registry absent rfl
  refine ⟨checked.waits.filter registry.contains, ?_, Queued.build_of_present⟩
  intro some_absent construct
  exact Queued.build_of_absent rfl some_absent

end BeanContainer
