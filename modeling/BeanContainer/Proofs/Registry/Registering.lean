import BeanContainer.Proofs.Registry.Growth

/-!
# Registering several beans

Beans are registered one after the other, up to the first that is refused. If the names are
distinct, nonempty and free, none is refused, and afterwards the registry has exactly these names
besides its earlier ones. A caller that does not care for refusals gets the same names registered,
in whichever order they come.
-/

namespace BeanContainer

/-- The registry has the name afterwards, whether it was free or not. An empty one is refused. -/
theorem Registry.contains_insert_iff (name : String) (strategy : Strategy) (registry : Registry)
    (other : String) :
    (registry.insert name strategy).2.contains other = true ↔
      registry.contains other = true ∨ name ≠ "" ∧ name = other := by
  by_cases empty : name = ""
  · simp [insert, empty]
  · cases taken : registry.contains name with
    | true =>
        simp only [insert, taken, String.isEmpty_iff, empty, if_true, if_false]
        exact ⟨Or.inl, fun there => there.elim id fun named => named.2 ▸ taken⟩
    | false =>
        rcases insert_of_free strategy empty taken with ⟨after, inserted, added⟩
        rw [inserted, contains_append added]
        exact or_congr_right ⟨fun same => ⟨empty, same.symm⟩, fun named => named.2.symm⟩

namespace Registration

def name : Registration → String
  | strategy name _ | supply name _ _ | ensure name _ => name

/--
The registration is carried out wherever its name is free. One on first use needs the permission of
the registry for that.
-/
def IsAllowed (registry : Registry) : Registration → Prop
  | ensure _ _ => registry.autoRegister = true
  | _ => True

theorem IsAllowed.of_restores {registration : Registration} {before after : Registry}
    (allowed : registration.IsAllowed before) (restores : before.Restores after) :
    registration.IsAllowed after := by
  cases registration with
  | strategy name made => trivial
  | supply name type bean => trivial
  | ensure name type => exact restores.autoRegister.trans allowed

/-- Nothing speaks against the registration, unless its name is taken. -/
def IsAdmissible (registry : Registry) (registration : Registration) : Prop :=
  registration.IsAllowed registry ∧ registration.name ≠ ""

theorem isAdmissible_congr {before after : Registry} (restores : before.Restores after)
    (registration : Registration) :
    registration.IsAdmissible after ↔ registration.IsAdmissible before := by
  have permission := restores.autoRegister
  cases registration <;> simp [IsAdmissible, IsAllowed, permission]

/-- A nonempty name that is free can be registered, and nothing else is. -/
theorem apply_of_free {registration : Registration} {registry : Registry}
    (allowed : registration.IsAllowed registry) (nonempty : registration.name ≠ "")
    (free : registry.contains registration.name = false) :
    ∃ after, registration.apply registry = (.ok (), after) ∧
      ∀ other, after.contains other = true ↔
        registry.contains other = true ∨ other = registration.name := by
  cases registration with
  | strategy name made =>
      rcases Registry.insert_of_free made nonempty free with ⟨after, inserted, added⟩
      exact ⟨after, inserted, Registry.contains_append added⟩
  | supply name type bean => exact Registry.supply_of_free type bean nonempty free
  | ensure name type =>
      have freeStill : (registry.report (.registeringMissing name)).contains name = false := free
      rcases Registry.insert_of_free (.singleton type (.default type)) nonempty freeStill with
        ⟨after, inserted, added⟩
      have missing : (registry.autoRegister && !registry.contains name) = true := by
        have freeName : registry.contains name = false := free
        have permitted : registry.autoRegister = true := allowed
        simp [freeName, permitted]
      refine ⟨after, ?_, Registry.contains_append added⟩
      simp only [apply, Registry.ensure, missing, if_true]
      exact inserted

/-- Afterwards the name is there, whoever has taken it, unless the registration is inadmissible. -/
theorem contains_apply_iff (registration : Registration) (registry : Registry) (other : String) :
    (registration.apply registry).2.contains other = true ↔
      registry.contains other = true ∨
        registration.IsAdmissible registry ∧ registration.name = other := by
  cases registration with
  | strategy name made =>
      simp only [apply, Registry.contains_insert_iff, IsAdmissible, IsAllowed, Registration.name,
        true_and]
  | supply name type bean =>
      simp only [apply, Registry.supply, Registry.contains_insert_iff, IsAdmissible, IsAllowed,
        Registration.name, true_and]
  | ensure name type =>
      simp only [apply, Registry.ensure, IsAdmissible, IsAllowed, Registration.name]
      cases permitted : registry.autoRegister with
      | false => simp
      | true =>
          cases taken : registry.contains name with
          | true =>
              simp only [Bool.not_true, Bool.and_false, Bool.false_eq_true, if_false, true_and]
              exact ⟨Or.inl, fun there => there.elim id fun named => named.2 ▸ taken⟩
          | false =>
              simp only [Bool.not_false, Bool.and_true, if_true, true_and, Registry.insertDefault,
                Registry.contains_insert_iff]
              exact Iff.rfl

end Registration

/-- Carries out all registrations in order, whether they are accepted or refused. -/
def Registry.registerAll (registrations : List Registration) (registry : Registry) : Registry :=
  registrations.foldl (fun registry registration => (registration.apply registry).2) registry

theorem Registry.registerAll_beans_grow (registrations : List Registration) (registry : Registry) :
    registry.beans <+: (registry.registerAll registrations).beans := by
  induction registrations generalizing registry with
  | nil => exact List.prefix_rfl
  | cons registration rest ih => exact (registration.apply_beans_grow registry).trans (ih _)

theorem Registry.registerAll_restores (registrations : List Registration) (registry : Registry) :
    registry.Restores (registry.registerAll registrations) := by
  induction registrations generalizing registry with
  | nil => exact .refl registry
  | cons registration rest ih => exact (registration.apply_restores registry).trans (ih _)

theorem Registry.contains_registerAll_iff (registrations : List Registration) (registry : Registry)
    (other : String) :
    (registry.registerAll registrations).contains other = true ↔
      registry.contains other = true ∨ ∃ registration ∈ registrations,
        registration.IsAdmissible registry ∧ registration.name = other := by
  induction registrations generalizing registry with
  | nil => simp [registerAll]
  | cons registration rest ih =>
      have restores := registration.apply_restores registry
      rw [registerAll, List.foldl_cons, ← registerAll, ih, registration.contains_apply_iff,
        or_assoc]
      simp only [List.mem_cons, exists_eq_or_imp, Registration.isAdmissible_congr restores]

/-- Carries out the registrations in order, up to the first that is refused. -/
def Procedure.registering : List Registration → Procedure Registration (Except BeanError Unit)
  | [] => .done (.ok ())
  | registration :: rest => .write registration fun
    | .error error => .done (.error error)
    | .ok () => registering rest

/-- Distinct nonempty names that are free are all registered, and nothing else is. -/
theorem Procedure.perform_registering {registrations : List Registration} {registry : Registry}
    (allowed : ∀ registration ∈ registrations, registration.IsAllowed registry)
    (nodup : (registrations.map Registration.name).Nodup)
    (nonempty : ∀ registration ∈ registrations, registration.name ≠ "")
    (free : ∀ registration ∈ registrations, registry.contains registration.name = false) :
    ∃ after, (registering registrations).perform registry = some (.ok (), after) ∧
      ∀ other, after.contains other = true ↔
        registry.contains other = true ∨ other ∈ registrations.map Registration.name := by
  induction registrations generalizing registry with
  | nil => exact ⟨registry, rfl, by simp⟩
  | cons registration rest ih =>
      rw [List.map_cons, List.nodup_cons] at nodup
      rw [List.forall_mem_cons] at allowed nonempty free
      rcases Registration.apply_of_free allowed.1 nonempty.1 free.1 with
        ⟨registered, accepted, names_iff⟩
      have restores := registration.apply_restores registry
      rw [accepted] at restores
      have allowedStill : ∀ other ∈ rest, other.IsAllowed registered :=
        fun other other_mem => (allowed.2 other other_mem).of_restores restores
      have freeStill : ∀ other ∈ rest, registered.contains other.name = false := by
        intro other other_mem
        rw [Bool.eq_false_iff, Ne, names_iff, not_or]
        refine ⟨by simp [free.2 other other_mem], ?_⟩
        intro same
        exact nodup.1 (same ▸ List.mem_map_of_mem other_mem)
      rcases ih allowedStill nodup.2 nonempty.2 freeStill with ⟨after, performed, after_iff⟩
      refine ⟨after, ?_, ?_⟩
      · simpa [registering, perform, run, accepted] using performed
      · intro other
        rw [after_iff, names_iff, List.map_cons, List.mem_cons, or_assoc]

end BeanContainer
