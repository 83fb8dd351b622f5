import BeanContainer.Proofs.Context.Delivery

/-!
# Assembling in stages

Deliveries may be taken one after the other, with an assembly after each that may leave some
configurations waiting. What has been loaded after a stage is the least set for all that has been
delivered up to it, as if there had been no assembly before: nothing that was loaded early is
outside of that set, and the set only grows with later deliveries. So the last assembly comes to
the same as the only assembly of everything at once.
-/

namespace BeanContainer.Context

variable {σ : Type} {all : List (Configuration σ)} {base : Registry}

/-- What is loaded out of what was left before counts together with what had been loaded. -/
theorem Loads.trans {first middle : Context σ} {registry : Registry}
    {loaded added : List (Active σ)} {queue : List (Queued σ)}
    (left : first.Loads middle.registry loaded middle.waiting)
    (right : middle.Loads registry added queue)
    (grown : middle.registry.beans <+: registry.beans) :
    first.Loads registry (loaded ++ added) queue where
  tracks := right.tracks
  entries := by
    rw [List.map_append, List.append_assoc]
    exact (right.entries.append_left _).trans left.entries
  names name := by
    rw [right.names, left.names, or_assoc]
    simp [or_and_right, exists_or]
  sound := by
    -- What was left before needs no more than the least set, which is closed for it as well.
    have subset : middle.loadable ⊆ first.loadable := fun configuration needed =>
      needed first.loadable fun queued queued_mem available =>
        left.mem_loadable queued_mem available
    intro active active_mem
    rcases List.mem_append.mp active_mem with active_mem | active_mem
    · rcases left.sound active active_mem with ⟨needed, satisfied⟩
      exact ⟨needed, fun resource resource_mem =>
        Registry.contains_of_grown grown (satisfied resource resource_mem)⟩
    · exact ⟨subset (right.sound active active_mem).1, (right.sound active active_mem).2⟩

/-- A delivery comes to what has been delivered before, whatever has been loaded meanwhile. -/
theorem Loads.receive {whole context wholeAfter after : Context σ} {delivery : Delivery}
    (loads : whole.Loads context.registry context.active context.waiting)
    (left : Receives all base whole delivery wholeAfter)
    (right : Receives all base context delivery after) :
    wholeAfter.Loads after.registry after.active after.waiting where
  tracks := right.queues.tracks loads.tracks
  entries := by
    rw [right.queues.active, right.queues.waiting, left.queues.waiting, List.map_append,
      List.map_append, ← List.append_assoc]
    exact loads.entries.append_right _
  names name := by
    rw [right.names, loads.names, left.names, right.queues.active, or_right_comm]
  sound active active_mem := by
    rw [right.queues.active] at active_mem
    rcases loads.sound active active_mem with ⟨needed, satisfied⟩
    refine ⟨loadable_mono ?_ ?_ needed, fun resource resource_mem => ?_⟩
    · exact fun name contained => (left.names name).mpr (Or.inl contained)
    · rw [left.queues.waiting]
      exact List.subset_append_left _ _
    · exact (right.names resource.name).mpr (Or.inl (satisfied resource resource_mem))

theorem Loads.congr {initial : Context σ} {before after : Registry} {added : List (Active σ)}
    {queue : List (Queued σ)} (loads : initial.Loads before added queue)
    (same : after.beans = before.beans) : initial.Loads after added queue where
  tracks queued queued_mem := (loads.tracks queued queued_mem).of_grown (by simp [same])
  entries := loads.entries
  names := by
    rw [Registry.contains_congr same]
    exact loads.names
  sound := by
    simp only [Configuration.IsSatisfied, Registry.contains_congr same]
    exact loads.sound

/--
How far the stages have come: out of the whole of what was received, the context has loaded what is
active there and has the rest waiting.
-/
structure Staged (all : List (Configuration σ)) (base : Registry) (received : Delivery)
    (whole context : Context σ) : Prop where
  receives : Receives all base { registry := base } received whole
  loads : whole.Loads context.registry context.active context.waiting
  grows : Grows { registry := base } context

namespace Staged

variable {received : Delivery} {whole context : Context σ}

/-- The start of a new context, before the first stage. -/
theorem start (all : List (Configuration σ)) (base : Registry) :
    Staged all base ⟨[], []⟩ { registry := base } { registry := base } where
  receives := ⟨.refl _, by simp [Delivery.Supplies]⟩
  loads := ⟨by simp, by simp, by simp, by simp⟩
  grows := .of_registry_eq rfl

theorem receive (staged : Staged all base received whole context) (delivery : Delivery) :
    Staged all base (received ++ delivery) (whole.receive all delivery)
      (context.receive all delivery) := by
  have left := receive_receives all delivery staged.receives.queues.grows.restores
  have right := receive_receives all delivery staged.grows.restores
  exact ⟨staged.receives.trans left, staged.loads.receive left right,
    staged.grows.trans right.queues.grows⟩

theorem conclude (staged : Staged all base received whole context) :
    Staged all base received whole context.conclude.2 where
  receives := staged.receives
  loads := by
    rw [conclude_active, conclude_waiting]
    exact staged.loads.congr context.conclude_beans
  grows := staged.grows.trans context.conclude_grows

theorem wellPosed (staged : Staged all base received whole context)
    (fits : received.Fits all base) : context.WellPosed := by
  refine staged.loads.wellPosed (staged.receives.wellPosed fits) fun queued queued_mem => ?_
  rw [staged.receives.queues.waiting] at queued_mem
  exact (fits.wellBehaved queued queued_mem).of_grown staged.grows.beans staged.grows.restores

theorem assemble (staged : Staged all base received whole context)
    (fits : received.Fits all base) :
    ∃ settled, context.assemble = some settled.conclude ∧ settled.Settled ∧
      Staged all base received whole settled := by
  rcases assemble_settles (staged.wellPosed fits) with
    ⟨settled, added, assembled, isSettled, assembling⟩
  refine ⟨settled, assembled, isSettled, staged.receives, ?_,
    staged.grows.trans assembling.grows⟩
  rw [assembling.active]
  exact staged.loads.trans assembling.loads assembling.grows.beans

end Staged

/-- After the last stage, the context is settled for all that has been delivered. -/
theorem deliverAll_staged {first : Delivery} {rest : List Delivery} {received : Delivery}
    {whole context : Context σ}
    (fits : (received ++ Delivery.concat (first :: rest)).Fits all base)
    (staged : Staged all base received whole context) :
    ∃ wholeAfter settled, deliverAll all first rest context = some settled.conclude ∧
      settled.Settled ∧
        Staged all base (received ++ Delivery.concat (first :: rest)) wholeAfter settled := by
  -- The induction is on the stages to come: each leads on, whatever its outcome is.
  induction rest generalizing first received whole context with
  | nil =>
      rw [Delivery.concat_singleton] at fits ⊢
      rcases (staged.receive first).assemble fits with ⟨settled, assembled, isSettled, staged⟩
      exact ⟨_, settled, assembled, isSettled, staged⟩
  | cons next rest ih =>
      rw [Delivery.concat_cons, ← Delivery.append_assoc] at fits ⊢
      rcases (staged.receive first).assemble fits.left with ⟨settled, assembled, _, staged⟩
      rcases ih fits staged.conclude with ⟨wholeAfter, last, delivered, isSettled, staged⟩
      refine ⟨wholeAfter, last, ?_, isSettled, staged⟩
      simp [deliverAll, deliver, assembled, delivered]

/--
The same configurations are active, the same names are registered, and the same configurations wait
for the same resources.
-/
structure Matches (left right : Context σ) : Prop where
  active : (left.active.map Active.entry).Perm (right.active.map Active.entry)
  names : left.registry.contains = right.registry.contains
  waiting : left.waiting.Perm right.waiting

theorem Matches.conclude {left right : Context σ} (same : left.Matches right) :
    left.conclude.2.Matches right.conclude.2 where
  active := by
    rw [conclude_active, conclude_active]
    exact same.active
  names := by
    rw [Registry.contains_congr left.conclude_beans, Registry.contains_congr right.conclude_beans]
    exact same.names
  waiting := by
    rw [conclude_waiting, conclude_waiting]
    exact same.waiting

/-- What two contexts come to that are settled for the same deliveries. -/
theorem Staged.matches {received other : Delivery} {whole wholeOther left right : Context σ}
    (staged : Staged all base received whole left)
    (stagedOther : Staged all base other wholeOther right) (perm : received.Perm other)
    (isSettled : left.Settled) (isSettledOther : right.Settled) : left.Matches right := by
  have wholePerm : whole.waiting.Perm wholeOther.waiting := by
    rw [staged.receives.queues.waiting, stagedOther.receives.queues.waiting]
    exact (perm.queued all).append_left _
  have wholeNames : whole.registry.contains = wholeOther.registry.contains := by
    funext name
    rw [Bool.eq_iff_iff, staged.receives.names, stagedOther.receives.names,
      perm.supplies_iff base name]
  have sameLoadable := loadable_congr_of_contains wholeNames wholePerm
  have sameNames : left.registry.contains = right.registry.contains := by
    funext name
    rw [Bool.eq_iff_iff, staged.loads.contains_iff isSettled,
      stagedOther.loads.contains_iff isSettledOther, Available, Available, wholeNames, sameLoadable]
  have parts := staged.loads.parts isSettled
  have partsOther := stagedOther.loads.parts isSettledOther
  rw [sameLoadable] at parts
  refine ⟨?_, sameNames, ?_⟩
  · exact parts.1.trans (((wholePerm.filter _).map _).trans partsOther.1.symm)
  · rw [isSettled.waiting_eq staged.loads.tracks,
      isSettledOther.waiting_eq stagedOther.loads.tracks, Queued.awaiting_congr sameNames]
    exact (parts.2.trans (((wholePerm.filter _).map _).trans partsOther.2.symm)).map _

/--
However beans from outside and well-behaved configurations are split into deliveries, taking these
in turn with an assembly after each comes to the same as taking all at once and assembling once: the
same configurations are active, the same names are registered, the same configurations wait for the
same resources, and the kind of the last outcome is the same.
-/
theorem deliverAll_matches_deliver {first whole : Delivery} {rest : List Delivery}
    (fits : whole.Fits all base) (split : (Delivery.concat (first :: rest)).Perm whole) :
    ∃ outcome after outcomeAtOnce afterAtOnce,
      deliverAll all first rest { registry := base } = some (outcome, after) ∧
      deliver all whole { registry := base } = some (outcomeAtOnce, afterAtOnce) ∧
      after.Matches afterAtOnce ∧
      outcome.mapError (·.kind) = outcomeAtOnce.mapError (·.kind) := by
  rcases deliverAll_staged (fits.of_perm split.symm) (.start all base) with
    ⟨received, settled, delivered, isSettled, staged⟩
  rcases ((Staged.start all base).receive whole).assemble fits with
    ⟨settledAtOnce, assembled, isSettledAtOnce, stagedAtOnce⟩
  have same := staged.matches stagedAtOnce split isSettled isSettledAtOnce
  refine ⟨_, _, _, _, delivered, assembled, same.conclude, ?_⟩
  exact conclude_kind_congr same.waiting (staged.wellPosed (fits.of_perm split.symm)).apart

/-- The first two need each other, one of them needs a chain that starts with an outside bean. -/
def tangle : List (Configuration Unit) :=
  [.supplying "left" ["right bean", "late bean"] ["left bean"],
    .supplying "right" ["left bean"] ["right bean"],
    .supplying "late" ["early bean"] ["late bean"],
    .supplying "early" ["outside bean"] ["early bean"]]

/-- All of the tangle with the outside bean. -/
def tangled : Delivery where
  registrations := [.supply "outside bean" .i32 (.plain (.integer 7))]
  ids := [0, 1, 2, 3]

theorem tangled_fits : tangled.Fits tangle {} := by
  have queued_eq : tangled.queued tangle =
      [.ofConfiguration 0 (.supplying "left" ["right bean", "late bean"] ["left bean"]),
        .ofConfiguration 1 (.supplying "right" ["left bean"] ["right bean"]),
        .ofConfiguration 2 (.supplying "late" ["early bean"] ["late bean"]),
        .ofConfiguration 3 (.supplying "early" ["outside bean"] ["early bean"])] := by
    have alone : ∀ id ∈ [0, 1, 2, 3], visits tangle [] id = [.queue id] := by decide +kernel
    simp only [List.forall_mem_cons] at alone
    simp only [Delivery.queued, tangled, queuedBy, List.flatMap_cons, List.flatMap_nil, alone]
    rfl
  refine ⟨?_, ?_, ?_⟩
  · rw [queued_eq]
    simp only [List.forall_mem_cons, List.not_mem_nil, false_imp_iff, implies_true, and_true]
    refine ⟨?_, ?_, ?_, ?_⟩ <;> exact Configuration.supplying_wellBehaved _ _ (by simp) (by simp) _
  · simp [queued_eq, Queued.DeclareApart, Queued.ofConfiguration]
  · rw [queued_eq]
    simp [Queued.ofConfiguration, tangled, Registration.name, Registry.contains, Registry.find?]

/-- A list of what is pending comes of the first stage, and a cycle of the other two. -/
theorem deliverAll_matches_deliver_tangled :
    ∃ outcome after outcomeAtOnce afterAtOnce,
      deliverAll tangle ⟨[], [0, 2]⟩
        [⟨[.supply "outside bean" .i32 (.plain (.integer 7))], [1]⟩, ⟨[], [3]⟩] {} =
          some (outcome, after) ∧
      deliver tangle tangled {} = some (outcomeAtOnce, afterAtOnce) ∧
      after.Matches afterAtOnce ∧ outcomeAtOnce.mapError (·.kind) = .error "Cycle" := by
  have split : (Delivery.concat [⟨[], [0, 2]⟩,
      ⟨[.supply "outside bean" .i32 (.plain (.integer 7))], [1]⟩, ⟨[], [3]⟩]).Perm tangled :=
    ⟨.refl _, by decide⟩
  rcases deliverAll_matches_deliver tangled_fits split with
    ⟨outcome, after, outcomeAtOnce, afterAtOnce, delivered, deliveredAtOnce, same, kinds⟩
  refine ⟨outcome, after, outcomeAtOnce, afterAtOnce, delivered, deliveredAtOnce, same, ?_⟩
  let received := receive tangle tangled {}
  have passed : (received.passes received.waiting.length).map
      (fun ended => (ended.1.isOk, ended.2.nodes)) = some (true, deadlocked) := by
    decide +kernel
  rcases assemble_of_trace passed (List.cons_ne_nil _ _) cycleTrace?_deadlocked with
    ⟨settled, _, assembled⟩
  cases deliveredAtOnce.symm.trans assembled
  rfl

end BeanContainer.Context
