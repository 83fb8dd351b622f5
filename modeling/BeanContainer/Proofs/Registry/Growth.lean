import BeanContainer.Proofs.Registry.Chains
import BeanContainer.Proofs.Registry.Evaluation
import Mathlib.Data.List.Perm.Subperm

/-!
# What evaluation leaves alone

Procedures that read a registry leave its beans alone, and procedures that may register beans only
add some behind the ones that are there. Neither changes what is in flight: at the end of a
procedure each thread has the chain that it had at the start, and the same beans are under
construction.
-/

namespace BeanContainer

namespace Registry

/-- What is in flight, and whether missing names may be registered, is as it was before. -/
structure Restores (before after : Registry) : Prop where
  autoRegister : after.autoRegister = before.autoRegister
  chains : ∀ thread, after.chains.current thread = before.chains.current thread
  locked : after.locked = before.locked

/-- No thread resolves anything, and no bean is under construction. -/
structure AtRest (registry : Registry) : Prop where
  chains : ∀ thread, registry.chains.current thread = []
  locked : registry.locked = []

theorem Restores.refl (registry : Registry) : registry.Restores registry :=
  ⟨rfl, fun _ => rfl, rfl⟩

theorem Restores.trans {first second third : Registry} (left : first.Restores second)
    (right : second.Restores third) : first.Restores third where
  autoRegister := right.autoRegister.trans left.autoRegister
  chains thread := (right.chains thread).trans (left.chains thread)
  locked := right.locked.trans left.locked

theorem Restores.atRest {before after : Registry} (restores : before.Restores after)
    (rest : before.AtRest) : after.AtRest where
  chains thread := (restores.chains thread).trans (rest.chains thread)
  locked := restores.locked.trans rest.locked

theorem keep_restores (site : Site) (bean : Bean) (registry : Registry) :
    registry.Restores (registry.keep site bean).2 := by
  unfold keep
  split
  · exact Restores.refl registry
  · exact ⟨rfl, fun _ => rfl, rfl⟩

/-- Removing the mark that was set first restores the marks. -/
theorem restores_unlock {site : Site} {registry after : Registry}
    (inside : (registry.lock site).Restores after) : registry.Restores (after.unlock site) where
  autoRegister := inside.autoRegister
  chains := inside.chains
  locked := by
    change after.locked.erase site = registry.locked
    rw [inside.locked]
    exact List.erase_cons_head site registry.locked

/-- Leaving the name that was entered restores the chain of the thread. -/
theorem restores_leave {thread : Thread} {name : String} {chains : Chains} {event : Event}
    {registry after : Registry} (entered : registry.chains.enter thread name = .ok chains)
    (inside : ({ registry with chains }.report event).Restores after) :
    registry.Restores (after.leave thread) where
  autoRegister := inside.autoRegister
  chains other := by
    have current := inside.chains
    change ∀ other, after.chains.current other = chains.current other at current
    change (after.chains.leave thread).current other = registry.chains.current other
    rw [← (Chains.enter_eq_ok_iff.mp entered).2] at current
    by_cases same : other = thread
    · simp [same, current]
    · simp [same, current]
  locked := inside.locked

theorem persists_restores : Persists Restores where
  refl := Restores.refl
  trans := Restores.trans
  countRun _ _ _ := ⟨rfl, fun _ => rfl, rfl⟩
  allocate _ := ⟨rfl, fun _ => rfl, rfl⟩
  keep := keep_restores
  update _ _ _ := ⟨rfl, fun _ => rfl, rfl⟩
  report _ _ _ := ⟨rfl, fun _ => rfl, rfl⟩
  locking := restores_unlock
  resolving := restores_leave

theorem newBean_beans (isObject : Bool) (bean : Bean) (registry : Registry) :
    (registry.newBean isObject bean).2.beans = registry.beans := by
  cases isObject <;> rfl

theorem newBean_kept (isObject : Bool) (bean : Bean) (registry : Registry) :
    (registry.newBean isObject bean).2.kept = registry.kept := by
  cases isObject <;> rfl

theorem keep_beans (site : Site) (bean : Bean) (registry : Registry) :
    (registry.keep site bean).2.beans = registry.beans := by
  unfold keep
  split <;> rfl

/-- What is kept after a bean was offered was kept before or is that bean. -/
theorem kept?_keep {name other : String} {bean found : Bean} {registry : Registry}
    (kept : (registry.keep (.bean name) bean).2.kept? (.bean other) = some found) :
    registry.kept? (.bean other) = some found ∨ other = name ∧ found = bean := by
  unfold keep at kept
  split at kept
  · exact Or.inl kept
  · simp only [kept?, List.lookup_append, Option.or_eq_some_iff] at kept
    rcases kept with before | ⟨_, added⟩
    · exact Or.inl before
    · right
      by_cases same : other = name
      · simpa [same, eq_comm] using added
      · have different : (Site.bean other == Site.bean name) = false := by simpa using same
        simp [List.lookup_cons, different] at added

/-- What is handed out for a bean that was offered is what is kept then. -/
theorem kept?_keep_self (site : Site) (bean : Bean) (registry : Registry) :
    (registry.keep site bean).2.kept? site = some (registry.keep site bean).1 := by
  cases kept : registry.kept? site with
  | some first => simp [keep, kept]
  | none =>
      have unkept : registry.kept.lookup site = none := kept
      simp [keep, kept?, List.lookup_append, unkept]

/-- Evaluation does not touch the registered beans, so it keeps every preorder of them. -/
theorem persists_beans (order : List (String × Strategy) → List (String × Strategy) → Prop)
    (refl : ∀ beans, order beans beans)
    (trans : ∀ {first second third}, order first second → order second third → order first third) :
    Persists fun before after => order before.beans after.beans where
  refl registry := refl registry.beans
  trans := trans
  countRun _ _ registry := refl registry.beans
  allocate registry := refl registry.beans
  keep site bean registry := by
    rw [keep_beans]
    exact refl registry.beans
  update _ _ registry := refl registry.beans
  report _ _ registry := refl registry.beans
  locking inside := inside
  resolving _ inside := inside

/-- A registration is refused, or puts one entry behind the others. -/
theorem insert_cases (name : String) (strategy : Strategy) (registry : Registry) :
    (∃ fault, registry.insert name strategy = (.error (.invalidName name fault), registry)) ∨
      (name ≠ "" ∧ registry.contains name = false ∧
        registry.insert name strategy =
          (.ok (), { registry with beans := registry.beans ++ [(name, strategy)] }.report
            (.registered name strategy.handover strategy.kind))) := by
  unfold insert
  by_cases empty : name.isEmpty
  · exact Or.inl ⟨.empty, by simp [empty]⟩
  · cases taken : registry.contains name with
    | true => exact Or.inl ⟨.duplicated, by simp [empty]⟩
    | false =>
        right
        exact ⟨by simpa using empty, rfl, by simp [empty]⟩

theorem insert_beans_grow (name : String) (strategy : Strategy) (registry : Registry) :
    registry.beans <+: (registry.insert name strategy).2.beans := by
  rcases insert_cases name strategy registry with ⟨fault, refused⟩ | ⟨_, _, accepted⟩
  · simp [refused]
  · rw [accepted]
    exact List.prefix_append registry.beans [(name, strategy)]

theorem insert_restores (name : String) (strategy : Strategy) (registry : Registry) :
    registry.Restores (registry.insert name strategy).2 := by
  rcases insert_cases name strategy registry with ⟨fault, refused⟩ | ⟨_, _, accepted⟩
  · rw [refused]
    exact Restores.refl registry
  · rw [accepted]
    exact ⟨rfl, fun _ => rfl, rfl⟩

end Registry

namespace Registration

open Registry

theorem apply_beans_grow (registration : Registration) (registry : Registry) :
    registry.beans <+: (registration.apply registry).2.beans := by
  cases registration with
  | strategy name made => exact insert_beans_grow name made registry
  | supply name type bean => exact insert_beans_grow name (.supplied type bean) registry
  | ensure name type =>
      simp only [apply, Registry.ensure]
      split
      · exact insert_beans_grow name (.singleton type (.default type))
          (registry.report (.registeringMissing name))
      · exact List.prefix_rfl

theorem apply_restores (registration : Registration) (registry : Registry) :
    registry.Restores (registration.apply registry).2 := by
  cases registration with
  | strategy name made => exact insert_restores name made registry
  | supply name type bean => exact insert_restores name (.supplied type bean) registry
  | ensure name type =>
      simp only [apply, Registry.ensure]
      split
      · have reported : registry.Restores (registry.report (.registeringMissing name)) :=
          ⟨rfl, fun _ => rfl, rfl⟩
        exact reported.trans (insert_restores name (.singleton type (.default type)) _)
      · exact Restores.refl registry

end Registration

namespace Procedure

variable {α : Type} {registry after : Registry} {result : α}

theorem read_beans {procedure : Procedure Empty α}
    (ran : procedure.read registry = some (result, after)) : after.beans = registry.beans :=
  (Registry.persists_beans (fun before after => after = before)
    (fun _ => rfl) (fun left right => right.trans left)).read ran

theorem read_restores {procedure : Procedure Empty α}
    (ran : procedure.read registry = some (result, after)) : registry.Restores after :=
  Registry.persists_restores.read ran

theorem perform_beans_grow {procedure : Procedure Registration α}
    (ran : procedure.perform registry = some (result, after)) : registry.beans <+: after.beans :=
  (Registry.persists_beans (· <+: ·) (fun _ => List.prefix_rfl) List.IsPrefix.trans).perform
    Registration.apply_beans_grow ran

theorem perform_restores {procedure : Procedure Registration α}
    (ran : procedure.perform registry = some (result, after)) : registry.Restores after :=
  Registry.persists_restores.perform Registration.apply_restores ran

end Procedure

namespace Registry

theorem contains_eq_find? (registry : Registry) (name : String) :
    registry.contains name = (registry.find? name).isSome := rfl

theorem find?_of_grown {before after : Registry} (grown : before.beans <+: after.beans)
    {name : String} {strategy : Strategy} (found : before.find? name = some strategy) :
    after.find? name = some strategy := by
  rcases grown with ⟨added, beans_eq⟩
  unfold find? at found ⊢
  rw [← beans_eq, List.lookup_append, found, Option.some_or]

theorem contains_of_grown {before after : Registry} (grown : before.beans <+: after.beans)
    {name : String} (contained : before.contains name) : after.contains name := by
  rw [contains_eq_find?, Option.isSome_iff_exists] at contained ⊢
  rcases contained with ⟨strategy, found⟩
  exact ⟨strategy, find?_of_grown grown found⟩

theorem mem_beans_of_find? {registry : Registry} {name : String} {strategy : Strategy}
    (found : registry.find? name = some strategy) : (name, strategy) ∈ registry.beans := by
  rcases List.lookup_eq_some_iff.mp found with ⟨before, behind, beans_eq, _⟩
  simp [beans_eq]

theorem mem_names_of_contains {registry : Registry} {name : String}
    (contained : registry.contains name = true) : name ∈ registry.names := by
  simp only [contains, find?, List.lookup_isSome_iff, beq_iff_eq] at contained
  rcases contained with ⟨entry, entry_mem, rfl⟩
  exact List.mem_map_of_mem entry_mem

/-- Distinct registered names leave one out only if they are fewer than the beans. -/
theorem length_lt_size {registry : Registry} {path : List String} {name : String}
    (nodup : path.Nodup) (registered : ∀ other ∈ path, registry.contains other = true)
    (contained : registry.contains name = true) (fresh : name ∉ path) :
    path.length < registry.size := by
  have inside : name :: path ⊆ registry.names := by
    intro other other_mem
    rcases List.mem_cons.mp other_mem with rfl | other_mem
    · exact mem_names_of_contains contained
    · exact mem_names_of_contains (registered other other_mem)
  have shorter := ((List.nodup_cons.mpr ⟨fresh, nodup⟩).subperm inside).length_le
  rwa [List.length_cons, names, List.length_map] at shorter

theorem contains_congr {before after : Registry} (same : after.beans = before.beans) :
    after.contains = before.contains := by
  funext name
  simp only [contains, find?, same]

/-- Whatever is registered before stays so, and the accepted name comes to it. -/
theorem contains_append {before after : Registry} {name : String} {strategy : Strategy}
    (added : after.beans = before.beans ++ [(name, strategy)]) (other : String) :
    after.contains other = true ↔ before.contains other = true ∨ other = name := by
  have singleton : (List.lookup other [(name, strategy)]).isSome = true ↔ other = name := by
    by_cases same : other = name
    · simp [same]
    · have notName : (other == name) = false := by simpa using same
      simp [List.lookup_cons, notName, same]
  simp only [contains, find?, added, List.lookup_append, Option.isSome_or, Bool.or_eq_true,
    singleton]

theorem insert_of_free {registry : Registry} {name : String} (strategy : Strategy)
    (nonempty : name ≠ "") (free : registry.contains name = false) :
    ∃ after, registry.insert name strategy = (.ok (), after) ∧
      after.beans = registry.beans ++ [(name, strategy)] := by
  have notEmpty : name.isEmpty = false := by simpa using nonempty
  unfold insert
  rw [notEmpty, free]
  exact ⟨_, rfl, rfl⟩

theorem supply_of_free {registry : Registry} {name : String} (type : BeanType) (bean : Bean)
    (nonempty : name ≠ "") (free : registry.contains name = false) :
    ∃ after, registry.supply name type bean = (.ok (), after) ∧
      ∀ other, after.contains other = true ↔ registry.contains other = true ∨ other = name := by
  rcases insert_of_free (.supplied type bean) nonempty free with ⟨after, inserted, added⟩
  exact ⟨after, inserted, contains_append added⟩

end Registry

end BeanContainer
