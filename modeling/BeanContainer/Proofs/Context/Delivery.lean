import BeanContainer.Proofs.Context.Closure
import BeanContainer.Proofs.Context.Queueing
import BeanContainer.Proofs.Registry.Registering

/-!
# Deliveries

A context is supplied with beans from outside and with configurations. It may take all of them in
one delivery, or in several ones with an assembly after each. Without an assembly in between it
comes to the same, whether there is one delivery or several: the same waits in the same order, and
the same names are registered.
-/

namespace BeanContainer

variable {σ : Type}

/-- Beans from outside and configurations that are supplied together. -/
structure Delivery where
  registrations : List Registration
  ids : List ConfigurationId

namespace Delivery

/-- What is put behind the queue when the configurations are queued. -/
def queued (all : List (Configuration σ)) (delivery : Delivery) : List (Queued σ) :=
  delivery.ids.flatMap (queuedBy all)

/-- A bean from outside has the name, and nothing but a taken name can keep it out. -/
def Supplies (base : Registry) (delivery : Delivery) (name : String) : Prop :=
  ∃ registration ∈ delivery.registrations,
    registration.IsAdmissible base ∧ registration.name = name

instance : Append Delivery where
  append left right := ⟨left.registrations ++ right.registrations, left.ids ++ right.ids⟩

/-- One delivery in place of several ones. -/
def concat (deliveries : List Delivery) : Delivery where
  registrations := deliveries.flatMap (·.registrations)
  ids := deliveries.flatMap (·.ids)

/-- The deliveries hold the same, in different orders. -/
structure Perm (left right : Delivery) : Prop where
  registrations : left.registrations.Perm right.registrations
  ids : left.ids.Perm right.ids

/--
The configurations are well-behaved, and the names that they declare differ from each other, from
those in the base and from those of the beans from outside.
-/
structure Fits (all : List (Configuration σ)) (base : Registry) (delivery : Delivery) : Prop where
  wellBehaved : ∀ queued ∈ delivery.queued all, queued.configuration.WellBehaved base
  apart : Queued.DeclareApart (delivery.queued all)
  free : ∀ queued ∈ delivery.queued all, ∀ bean ∈ queued.configuration.beanNames,
    base.contains bean = false ∧ ∀ registration ∈ delivery.registrations, registration.name ≠ bean

theorem queued_append (all : List (Configuration σ)) (left right : Delivery) :
    (left ++ right).queued all = left.queued all ++ right.queued all :=
  List.flatMap_append

theorem supplies_append (base : Registry) (left right : Delivery) (name : String) :
    (left ++ right).Supplies base name ↔ left.Supplies base name ∨ right.Supplies base name := by
  change (∃ registration ∈ left.registrations ++ right.registrations, _) ↔ _
  simp only [List.mem_append, or_and_right, exists_or, Supplies]

theorem append_assoc (left middle right : Delivery) :
    left ++ middle ++ right = left ++ (middle ++ right) :=
  congrArg₂ Delivery.mk (List.append_assoc ..) (List.append_assoc ..)

theorem concat_singleton (delivery : Delivery) : concat [delivery] = delivery := by
  simp [concat]

theorem concat_cons (first : Delivery) (rest : List Delivery) :
    concat (first :: rest) = first ++ concat rest := rfl

theorem Perm.symm {left right : Delivery} (perm : left.Perm right) : right.Perm left :=
  ⟨perm.registrations.symm, perm.ids.symm⟩

theorem Perm.queued {left right : Delivery} (perm : left.Perm right)
    (all : List (Configuration σ)) : (left.queued all).Perm (right.queued all) :=
  perm.ids.flatMap_right (queuedBy all)

theorem Perm.supplies_iff {left right : Delivery} (perm : left.Perm right) (base : Registry)
    (name : String) : left.Supplies base name ↔ right.Supplies base name := by
  simp only [Supplies, perm.registrations.mem_iff]

theorem Fits.of_perm {all : List (Configuration σ)} {base : Registry} {left right : Delivery}
    (fits : left.Fits all base) (perm : left.Perm right) : right.Fits all base where
  wellBehaved queued queued_mem :=
    fits.wellBehaved queued ((perm.queued all).mem_iff.mpr queued_mem)
  apart := fits.apart.of_perm (perm.queued all)
  free queued queued_mem bean declared := by
    simp only [← perm.registrations.mem_iff]
    exact fits.free queued ((perm.queued all).mem_iff.mpr queued_mem) bean declared

/-- What is delivered first fits if it does together with what comes later. -/
theorem Fits.left {all : List (Configuration σ)} {base : Registry} {left right : Delivery}
    (fits : (left ++ right).Fits all base) : left.Fits all base := by
  have apart := fits.apart
  rw [queued_append, Queued.DeclareApart, List.pairwise_append] at apart
  have mem_queued : ∀ {queued}, queued ∈ left.queued all → queued ∈ (left ++ right).queued all := by
    intro queued queued_mem
    rw [queued_append]
    exact List.mem_append_left _ queued_mem
  refine ⟨fun queued queued_mem => fits.wellBehaved queued (mem_queued queued_mem), apart.1, ?_⟩
  intro queued queued_mem bean declared
  have free := fits.free queued (mem_queued queued_mem) bean declared
  exact ⟨free.1, fun registration mem => free.2 registration (List.mem_append_left _ mem)⟩

end Delivery

namespace Context

/-- Registers the beans from outside and queues the configurations. -/
def receive (all : List (Configuration σ)) (delivery : Delivery) (context : Context σ) :
    Context σ :=
  delivery.ids.foldl (fun context id => context.queue all id)
    { context with registry := context.registry.registerAll delivery.registrations }

/-- Takes a delivery and assembles. -/
def deliver (all : List (Configuration σ)) (delivery : Delivery) (context : Context σ) :
    Option (Except ConfigurationError Unit × Context σ) :=
  (context.receive all delivery).assemble

/-- Takes the deliveries in turn and assembles after each. Only the last outcome is looked at. -/
def deliverAll (all : List (Configuration σ)) : Delivery → List Delivery → Context σ →
    Option (Except ConfigurationError Unit × Context σ)
  | last, [], context => context.deliver all last
  | first, next :: rest, context =>
    match context.deliver all first with
    | none => none
    | some (_, context) => deliverAll all next rest context

/-- The later context is the earlier one with the delivery taken. -/
structure Receives (all : List (Configuration σ)) (base : Registry) (before : Context σ)
    (delivery : Delivery) (after : Context σ) : Prop where
  queues : before.Queues (delivery.queued all) after
  names : ∀ name, after.registry.contains name = true ↔
    before.registry.contains name = true ∨ delivery.Supplies base name

theorem Receives.trans {all : List (Configuration σ)} {base : Registry}
    {first second third : Context σ} {delivery later : Delivery}
    (left : Receives all base first delivery second)
    (right : Receives all base second later third) :
    Receives all base first (delivery ++ later) third where
  queues := by
    rw [Delivery.queued_append]
    exact left.queues.trans right.queues
  names name := by
    rw [right.names, left.names, or_assoc, Delivery.supplies_append]

theorem receive_receives (all : List (Configuration σ)) {base : Registry} (delivery : Delivery)
    {context : Context σ} (restores : base.Restores context.registry) :
    Receives all base context delivery (context.receive all delivery) := by
  have queues := queueAll_queues all delivery.ids
    { context with registry := context.registry.registerAll delivery.registrations }
  have sameNames := Registry.contains_congr (queueAll_beans all delivery.ids
    { context with registry := context.registry.registerAll delivery.registrations })
  have registers : context.Grows
      { context with registry := context.registry.registerAll delivery.registrations } :=
    ⟨context.registry.registerAll_beans_grow _, context.registry.registerAll_restores _⟩
  refine ⟨⟨queues.waiting, queues.fresh, queues.active, registers.trans queues.grows⟩, ?_⟩
  intro name
  simp only [receive, sameNames, Registry.contains_registerAll_iff, Delivery.Supplies,
    Registration.isAdmissible_congr restores]

/-- A delivery that fits waits well-posed in a new context. -/
theorem Receives.wellPosed {all : List (Configuration σ)} {base : Registry} {delivery : Delivery}
    {after : Context σ} (receives : Receives all base { registry := base } delivery after)
    (fits : delivery.Fits all base) : after.WellPosed := by
  have waiting_eq : after.waiting = delivery.queued all := receives.queues.waiting
  refine ⟨receives.queues.tracks (by simp [Tracks]), ?_, ?_, ?_⟩
  · rw [waiting_eq]
    exact fun queued queued_mem => (fits.wellBehaved queued queued_mem).of_grown
      receives.queues.grows.beans receives.queues.grows.restores
  · rw [waiting_eq]
    exact fits.apart
  · rw [waiting_eq]
    intro queued queued_mem bean declared
    rcases fits.free queued queued_mem bean declared with ⟨free, notSupplied⟩
    rw [Bool.eq_false_iff, Ne, receives.names, not_or]
    refine ⟨by simp [free], ?_⟩
    rintro ⟨registration, registration_mem, _, same⟩
    exact notSupplied registration registration_mem same

end Context

end BeanContainer
