import BeanContainer.Proofs.Registry.Course
import BeanContainer.Proofs.Registry.Record
import Mathlib.Data.List.Perm.Basic

/-!
# Attempts at registering

Whatever is done with a registry comes down to attempts at registering a strategy under a name, and
to evaluations in between. An attempt is accepted if the name is free and not empty. Then the
strategy is put behind the ones that are there, and nothing that is done later replaces it, nor the
object that was made for it. An attempt that is refused leaves the registry as it is.
-/

namespace BeanContainer

/-- An attempt at registering a strategy under a name, with the registry that it is made on. -/
structure Filing where
  name : String
  strategy : Strategy
  registry : Registry

namespace Filing

def outcome (filing : Filing) : Except BeanError Unit :=
  (filing.registry.insert filing.name filing.strategy).1

/-- The registry after the attempt. -/
def after (filing : Filing) : Registry :=
  (filing.registry.insert filing.name filing.strategy).2

def isAccepted (filing : Filing) : Bool :=
  filing.outcome.isOk

end Filing

/--
The attempt that carries out the registration. A registration on first use makes none if the name is
there, or if the registry does not permit it.
-/
def Registration.filing? (registry : Registry) : Registration → Option Filing
  | strategy name made => some ⟨name, made, registry⟩
  | supply name type bean => some ⟨name, .supplied type bean, registry⟩
  | ensure name type =>
    if registry.autoRegister && !registry.contains name then
      some ⟨name, .singleton type (.default type), registry.report (.registeringMissing name)⟩
    else none

/-- A registration does what its attempt does. What it does before that concerns no bean. -/
theorem Registration.apply_of_filing {registration : Registration} {registry : Registry}
    {filing : Filing} (files : registration.filing? registry = some filing) :
    registration.apply registry = (filing.outcome, filing.after) ∧
      filing.registry.beans = registry.beans ∧ filing.registry.kept = registry.kept := by
  cases registration with
  | strategy name made | supply name type bean =>
      cases files
      exact ⟨rfl, rfl, rfl⟩
  | ensure name type =>
      rw [filing?, Option.ite_none_right_eq_some, Option.some.injEq] at files
      rcases files with ⟨missing, rfl⟩
      exact ⟨by rw [apply, Registry.ensure, if_pos missing]; rfl, rfl, rfl⟩

theorem Registration.apply_of_no_filing {registration : Registration} {registry : Registry}
    (nothing : registration.filing? registry = none) :
    registration.apply registry = (.ok (), registry) := by
  cases registration with
  | strategy name made | supply name type bean => cases nothing
  | ensure name type =>
      rw [filing?, ite_eq_right_iff] at nothing
      rw [apply, Registry.ensure, if_neg fun missing => by simpa using nothing missing]

/-- What an attempt puts into the registry if it is accepted. -/
def Filing.entries (filing : Filing) : List (String × Strategy) :=
  if filing.isAccepted then [(filing.name, filing.strategy)] else []

/-- The attempt made at the moment, if it is one. -/
def Moment.filing? (moment : Moment) : Option Filing :=
  match moment.happening with
  | .writes registration => registration.filing? moment.registry
  | _ => none

/-- The attempts made at the moments. -/
def filingsIn (moments : List Moment) : List Filing :=
  moments.filterMap (·.filing?)

@[simp]
theorem filingsIn_append (moments others : List Moment) :
    filingsIn (moments ++ others) = filingsIn moments ++ filingsIn others :=
  List.filterMap_append

@[simp]
theorem filingsIn_builtMoments (thread : Thread) (frames : List String) (request : Request)
    (counted filled : Registry) (moments : List Moment) (outcome : Except BeanError Bean)
    (completed : Except BeanError Bean × Registry) :
    filingsIn (Registry.builtMoments thread frames request counted filled moments outcome
      completed) = filingsIn moments := by
  simp [Registry.builtMoments, filingsIn, Moment.filing?, List.filterMap_append]

/-- The attempts that a procedure makes, in order. -/
def Procedure.filings {α : Type} (procedure : Procedure Registration α) (registry : Registry) :
    List Filing :=
  filingsIn (procedure.course 0 registry)

/-- The first step may be an attempt, and the others are made on the registry it leaves. -/
theorem Procedure.filings_write {α : Type} (registration : Registration)
    (next : Except BeanError Unit → Procedure Registration α) (registry : Registry) :
    (write registration next).filings registry = (registration.filing? registry).toList ++
      (next (registration.apply registry).1).filings (registration.apply registry).2 := by
  unfold filings course tracePerform
  rw [Registry.apply_chains]
  cases files : registration.filing? registry <;>
    simp [trace, filingsIn, Moment.filing?, files]

namespace Registry

/-- The later registry has all beans and all objects made once that the earlier one had. -/
structure Retains (before after : Registry) : Prop where
  beans : before.beans <+: after.beans
  made : ∀ name object, (before.kept? (.bean name)).map (·.object) = some object →
    (after.kept? (.bean name)).map (·.object) = some object

/--
The attempts lead from the earlier registry to the later one: nothing that was there at any of them
is lost, and the beans that come behind are those of the accepted attempts, in order.
-/
structure Accounts (before : Registry) (filings : List Filing) (after : Registry) : Prop where
  retains : before.Retains after
  between : ∀ filing ∈ filings, before.Retains filing.registry ∧ filing.after.Retains after
  beans : after.beans = before.beans ++ filings.flatMap (·.entries)

/-- There are as many more beans as attempts were accepted. -/
theorem Accounts.size {before after : Registry} {filings : List Filing}
    (accounts : before.Accounts filings after) :
    after.size = before.size + filings.countP (·.isAccepted) := by
  have counted : (filings.flatMap (·.entries)).length = filings.countP (·.isAccepted) := by
    clear accounts
    induction filings with
    | nil => rfl
    | cons filing rest ih =>
        have one : filing.entries.length = if filing.isAccepted then 1 else 0 := by
          unfold Filing.entries
          split <;> rfl
        rw [List.flatMap_cons, List.length_append, ih, one, List.countP_cons, Nat.add_comm]
  rw [Registry.size, accounts.beans, List.length_append, counted]
  rfl

theorem Retains.refl (registry : Registry) : registry.Retains registry :=
  ⟨List.prefix_rfl, fun _ _ => id⟩

theorem Retains.trans {first second third : Registry} (left : first.Retains second)
    (right : second.Retains third) : first.Retains third where
  beans := left.beans.trans right.beans
  made name object made := right.made name object (left.made name object made)

theorem Accounts.trans {first second third : Registry} {filings later : List Filing}
    (left : first.Accounts filings second) (right : second.Accounts later third) :
    first.Accounts (filings ++ later) third where
  retains := left.retains.trans right.retains
  between filing filing_mem := by
    rcases List.mem_append.mp filing_mem with filing_mem | filing_mem
    · have between := left.between filing filing_mem
      exact ⟨between.1, between.2.trans right.retains⟩
    · have between := right.between filing filing_mem
      exact ⟨left.retains.trans between.1, between.2⟩
  beans := by rw [right.beans, left.beans, List.flatMap_append, List.append_assoc]

theorem Accounts.quietly {first second third : Registry} {filings : List Filing}
    (left : first.Accounts filings second) (right : second.Accounts [] third) :
    first.Accounts filings third := by
  rw [← List.append_nil filings]
  exact left.trans right

/-- Without any attempt there are the same beans, and what was made is kept. -/
theorem accounts_nil {before after : Registry} (sameBeans : after.beans = before.beans)
    (made : ∀ name object, (before.kept? (.bean name)).map (·.object) = some object →
      (after.kept? (.bean name)).map (·.object) = some object) : before.Accounts [] after where
  retains := ⟨sameBeans ▸ List.prefix_rfl, made⟩
  between := by simp
  beans := by simpa using sameBeans

theorem accounts_of_record {before after : Registry} (sameBeans : after.beans = before.beans)
    (sameRecord : ∀ name, after.record name = before.record name) : before.Accounts [] after :=
  accounts_nil sameBeans fun name _ made => (congrArg Prod.fst (sameRecord name)).trans made

theorem keep_accounts (site : Site) (bean : Bean) (registry : Registry) :
    registry.Accounts [] (registry.keep site bean).2 := by
  refine accounts_nil (keep_beans site bean registry) fun name object made => ?_
  unfold keep
  split
  · exact made
  · rcases Option.map_eq_some_iff.mp made with ⟨first, kept, rfl⟩
    have before : List.lookup (Site.bean name) registry.kept = some first := kept
    simp [kept?, List.lookup_append, before]

/-- Evaluation makes no attempt, so it keeps the beans and whatever was made. -/
theorem persists_accounts : Persists fun before after => before.Accounts [] after where
  refl _ := accounts_nil rfl fun _ _ => id
  trans left right := left.trans right
  countRun _ _ _ := accounts_nil rfl fun _ _ => id
  allocate _ := accounts_nil rfl fun _ _ => id
  keep := keep_accounts
  update object change registry :=
    accounts_of_record rfl fun _ => record_update object change registry
  report _ _ _ := accounts_nil rfl fun _ _ => id
  locking inside := ⟨⟨inside.retains.beans, inside.retains.made⟩, by simp, inside.beans⟩
  resolving _ inside := ⟨⟨inside.retains.beans, inside.retains.made⟩, by simp, inside.beans⟩

end Registry

namespace Filing

open Registry

variable {filing : Filing}

/-- A free name that is not empty is accepted, and no other one. -/
theorem isAccepted_iff : filing.isAccepted = true ↔
    filing.name ≠ "" ∧ filing.registry.contains filing.name = false := by
  unfold isAccepted outcome Registry.insert
  by_cases empty : filing.name = ""
  · simp [empty, Except.isOk, Except.toBool]
  · cases taken : filing.registry.contains filing.name with
    | true => simp [empty, Except.isOk, Except.toBool]
    | false => simp [empty, Except.isOk, Except.toBool]

/-- A refused attempt changes nothing and reports nothing, and tells what is wrong with the name. -/
theorem of_refused (refused : filing.isAccepted = false) :
    filing.outcome = .error (.invalidName filing.name
      (if filing.name = "" then .empty else .duplicated)) ∧ filing.after = filing.registry := by
  rw [← Bool.not_eq_true, isAccepted_iff, not_and, Bool.not_eq_false] at refused
  unfold outcome after Registry.insert
  by_cases empty : filing.name = ""
  · simp [empty]
  · simp [empty, refused empty]

theorem after_of_accepted (accepted : filing.isAccepted = true) :
    filing.outcome = .ok () ∧ filing.after =
      { filing.registry with
        beans := filing.registry.beans ++ [(filing.name, filing.strategy)] }.report
          (.registered filing.name filing.strategy.handover filing.strategy.kind) := by
  rcases isAccepted_iff.mp accepted with ⟨nonempty, free⟩
  unfold outcome after Registry.insert
  simp [nonempty, free]

theorem find?_after (accepted : filing.isAccepted = true) :
    filing.after.find? filing.name = some filing.strategy := by
  have free : List.lookup filing.name filing.registry.beans = none := by
    simpa [contains, find?] using (isAccepted_iff.mp accepted).2
  rw [(after_of_accepted accepted).2, find?]
  simp [report, List.lookup_append, free]

theorem after_beans (filing : Filing) :
    filing.after.beans = filing.registry.beans ++ filing.entries := by
  unfold entries
  cases accepted : filing.isAccepted with
  | true => rw [(after_of_accepted accepted).2]; rfl
  | false => simp [(of_refused accepted).2]

theorem retains (filing : Filing) : filing.registry.Retains filing.after := by
  refine ⟨⟨filing.entries, filing.after_beans.symm⟩, fun name object made => ?_⟩
  cases accepted : filing.isAccepted with
  | true => rwa [(after_of_accepted accepted).2]
  | false => rwa [(of_refused accepted).2]

theorem accounts (filing : Filing) : filing.registry.Accounts [filing] filing.after where
  retains := filing.retains
  between := by simp [Retains.refl]
  beans := by rw [filing.after_beans, List.flatMap_singleton]

end Filing

namespace Registry

theorem apply_accounts (registration : Registration) (registry : Registry) :
    registry.Accounts (registration.filing? registry).toList (registration.apply registry).2 := by
  cases files : registration.filing? registry with
  | none =>
      rw [Registration.apply_of_no_filing files]
      exact persists_accounts.refl registry
  | some filing =>
      rcases Registration.apply_of_filing files with ⟨applied, sameBeans, sameKept⟩
      have before : registry.Accounts [] filing.registry :=
        accounts_nil sameBeans fun name object made => by rwa [kept?, sameKept]
      rw [applied]
      exact before.trans filing.accounts

end Registry

/-- Requests a bean by reference, registering it first if it is missing and may be. -/
def Procedure.requiring (name : String) (type : BeanType) :
    Procedure Registration (Except BeanError Bean) :=
  .write (.ensure name type) fun
    | .error error => .done (.error error)
    | .ok () => .fetch 0 ⟨name, ⟨.reference, type⟩⟩ .done

/-- A request on first use is a procedure, so what holds of all procedures holds of it. -/
theorem Procedure.perform_requiring (name : String) (type : BeanType) (registry : Registry) :
    (requiring name type).perform registry = registry.getOrInsert name type := by
  unfold requiring perform Registry.getOrInsert
  rw [run, Registration.apply]
  rcases registry.ensure name type with ⟨error | _, ensured⟩
  · rfl
  · simp only [run, Nat.zero_add]
    cases ensured.get 0 ⟨name, ⟨.reference, type⟩⟩ <;> rfl

namespace Registry

/-- What a strategy makes of the outcome of a constructor is no attempt at registering. -/
theorem complete_accounts (strategy : Strategy) (site : Site) (outcome : Except BeanError Bean)
    (filled : Registry) : filled.Accounts [] (strategy.complete site outcome filled).2 := by
  have same : (strategy.prepare site filled).Accounts [] filled := by
    unfold Strategy.prepare
    split <;> exact accounts_nil rfl fun _ _ => id
  have completes := persists_accounts.complete outcome same
  exact completes

/-- All evaluation is accounted for by the attempts made in the course of it. -/
theorem recounts_accounts :
    Recounts fun _ _ before moments after => before.Accounts (filingsIn moments) after where
  works _ _ registry := persists_accounts.refl registry
  append _ _ left right := by
    rw [filingsIn_append]
    exact left.trans right
  update _ _ object change registry := persists_accounts.update object change registry
  allocate _ _ registry := persists_accounts.allocate registry
  report _ _ message fields registry := persists_accounts.report message fields registry
  elsewhere inside := inside
  unregistered _ := persists_accounts.refl _
  refused _ _ := persists_accounts.refl _
  mismatched enters _ := persists_accounts.leave enters (persists_accounts.refl _)
  ready enters _ _ := persists_accounts.leave enters (persists_accounts.refl _)
  built {_ _ request registry strategy entered constructor _ outcome filled} enters _ _ _
      inside := by
    rw [filingsIn_builtMoments]
    have counts : registry.Accounts [] ((strategy.prepare (.bean request.name) entered).countRun
        (.bean request.name) constructor.listed).2 := by
      refine accounts_nil enters.prepare_beans fun name object made => ?_
      have entersRecord : entered.record name = registry.record name := enters.record
      have sameRecord := (record_prepare strategy (.bean request.name) entered).trans entersRecord
      exact (congrArg Prod.fst sameRecord).trans made
    exact ((counts.trans inside).quietly
      (complete_accounts strategy (.bean request.name) outcome filled)).quietly
        (accounts_nil rfl fun _ _ => id)

/-- Evaluation makes no attempts at registering but those of the procedure itself. -/
theorem recounts_nothing_filed : Recounts fun _ _ _ moments _ => filingsIn moments = [] where
  works _ _ _ := rfl
  append _ _ left right := by rw [filingsIn_append, left, right, List.append_nil]
  update _ _ _ _ _ := rfl
  allocate _ _ _ := rfl
  report _ _ _ _ _ := rfl
  elsewhere inside := inside
  unregistered _ := rfl
  refused _ _ := rfl
  mismatched _ _ := rfl
  ready _ _ _ := rfl
  built _ _ _ _ inside := by rwa [filingsIn_builtMoments]

end Registry

/-- What a procedure does to a registry is accounted for by its attempts. -/
theorem Procedure.perform_accounts {α : Type} {procedure : Procedure Registration α}
    {registry after : Registry} {result : α}
    (ran : procedure.perform registry = some (result, after)) :
    registry.Accounts (procedure.filings registry) after := by
  refine Registry.recounts_accounts.course ?_ ran
  intro thread frames registration registry
  have accounts := Registry.apply_accounts registration registry
  have filed : filingsIn [⟨thread, frames, registry, .writes registration⟩] =
      (registration.filing? registry).toList := by
    cases files : registration.filing? registry <;> simp [filingsIn, Moment.filing?, files]
  rwa [filed]

theorem Procedure.read_accounts {α : Type} {procedure : Procedure Empty α}
    {registry after : Registry} {result : α}
    (ran : procedure.read registry = some (result, after)) : registry.Accounts [] after :=
  Registry.persists_accounts.read ran

theorem Procedure.read_files_nothing {α : Type} {procedure : Procedure Empty α}
    {registry after : Registry} {result : α}
    (ran : procedure.read registry = some (result, after)) :
    filingsIn (procedure.traceRead registry).events = [] :=
  Registry.recounts_nothing_filed.read ran

end BeanContainer
