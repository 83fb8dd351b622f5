import BeanContainer.Proofs.Context.Trace
import Mathlib.Data.List.Perm.Basic

/-!
# What the turns of an assembly do

A turn either leaves the configuration waiting, with what is registered struck out, or takes it out
of the line and makes it active, or it is the last one. An assembly is nothing but turns that follow
each other, and then the conclusion. What holds of assemblies is therefore proved of single turns,
and holds of any number of them by an induction that is the same for all.
-/

namespace BeanContainer

variable {σ : Type}

/-- A turn after which the assembly goes on. -/
inductive Goes : Line σ → Context σ → Turn σ → Line σ → Context σ → Prop
  | waits {front behind : Line σ} {queued : Queued σ} {place : Nat} {context : Context σ}
      (missing : (queued.pruned context.registry).missing ≠ []) :
      Goes (front ++ (queued, place) :: behind) context ⟨place, queued, context.registry⟩
        (front ++ (queued.pruned context.registry, place) :: behind) context
  | loads {front behind : Line σ} {queued : Queued σ} {place : Nat} {context : Context σ}
      {final : σ} {provided : Registry}
      (attempt : Attempt .completed
        ((Turn.calls ⟨place, queued, context.registry⟩).map HookCall.summary))
      (loaded : context.load queued = some (.ok true, queued.pruned context.registry,
        context.activate queued final provided)) :
      Goes (front ++ (queued, place) :: behind) context ⟨place, queued, context.registry⟩
        (front ++ behind) (context.activate queued final provided)

/-- Turns that follow each other. The last one may fail or hang, and how it does so is given. -/
inductive Proceeds : Line σ → Context σ → List (Turn σ) → Option Ending → Line σ → Context σ → Prop
  | nil {line : Line σ} {context : Context σ} : Proceeds line context [] none line context
  | cons {line between left : Line σ} {context next after : Context σ} {turn : Turn σ}
      {turns : List (Turn σ)} {stop : Option Ending} (goes : Goes line context turn between next)
      (proceeds : Proceeds between next turns stop left after) :
      Proceeds line context (turn :: turns) stop left after
  | fails {front behind : Line σ} {queued : Queued σ} {place : Nat} {context : Context σ}
      {error : ConfigurationError} {registry : Registry}
      (attempt : Attempt (.failed error)
        ((Turn.calls ⟨place, queued, context.registry⟩).map HookCall.summary))
      (fails : queued.FailsWith context.registry error registry)
      (loaded : context.load queued = some (.error error, queued.pruned context.registry,
        { context with registry })) :
      Proceeds (front ++ (queued, place) :: behind) context [⟨place, queued, context.registry⟩]
        (some (.failed error)) (front ++ (queued.pruned context.registry, place) :: behind)
        { context with registry }
  | hangs {front behind : Line σ} {queued : Queued σ} {place : Nat} {context : Context σ}
      (attempt : Attempt .hung
        ((Turn.calls ⟨place, queued, context.registry⟩).map HookCall.summary)) :
      Proceeds (front ++ (queued, place) :: behind) context [⟨place, queued, context.registry⟩]
        (some .hung) (front ++ (queued, place) :: behind) context

/-- An evaluation takes turns, and comes to its end as the last of them does. -/
inductive ProceedsTo {α : Type} (line : Line σ) (context : Context σ) :
    Traced (Turn σ) (Except ConfigurationError α × Line σ × Context σ) → Prop
  | through {turns : List (Turn σ)} {value : α} {left : Line σ} {after : Context σ}
      (proceeds : Proceeds line context turns none left after) :
      ProceedsTo line context ⟨turns, some (.ok value, left, after)⟩
  | fails {turns : List (Turn σ)} {error : ConfigurationError} {left : Line σ} {after : Context σ}
      (proceeds : Proceeds line context turns (some (.failed error)) left after) :
      ProceedsTo line context ⟨turns, some (.error error, left, after)⟩
  | hangs {turns : List (Turn σ)} {left : Line σ} {after : Context σ}
      (proceeds : Proceeds line context turns (some .hung) left after) :
      ProceedsTo line context ⟨turns, none⟩

section Sequences

variable {α : Type} {line between left : Line σ} {context next after : Context σ}
  {turns later : List (Turn σ)} {stop : Option Ending}

theorem Proceeds.append (proceeds : Proceeds line context turns none between next)
    (proceedsOn : Proceeds between next later stop left after) :
    Proceeds line context (turns ++ later) stop left after := by
  generalize through : (none : Option Ending) = ending at proceeds
  induction proceeds with
  | nil => exact proceedsOn
  | cons goes _ ih => exact .cons goes (ih proceedsOn through)
  | fails => cases through
  | hangs => cases through

theorem Proceeds.proceedsTo
    {traced : Traced (Turn σ) (Except ConfigurationError α × Line σ × Context σ)}
    (proceeds : Proceeds line context turns none between next)
    (proceedsOn : ProceedsTo between next traced) :
    ProceedsTo line context ⟨turns ++ traced.events, traced.result⟩ := by
  cases proceedsOn with
  | through proceedsOn => exact .through (proceeds.append proceedsOn)
  | fails proceedsOn => exact .fails (proceeds.append proceedsOn)
  | hangs proceedsOn => exact .hangs (proceeds.append proceedsOn)

theorem Goes.proceedsTo {turn : Turn σ}
    {traced : Traced (Turn σ) (Except ConfigurationError α × Line σ × Context σ)}
    (goes : Goes line context turn between next) (proceedsOn : ProceedsTo between next traced) :
    ProceedsTo line context (.tell turn traced) :=
  (Proceeds.cons goes .nil).proceedsTo proceedsOn

/-- What goes on unless a turn fails takes turns as well. -/
theorem ProceedsTo.bind {β : Type}
    {first : Traced (Turn σ) (Except ConfigurationError α × Line σ × Context σ)}
    {next : Except ConfigurationError α × Line σ × Context σ →
      Traced (Turn σ) (Except ConfigurationError β × Line σ × Context σ)}
    (proceeds : ProceedsTo line context first)
    (fails : ∀ error left after,
      next (.error error, left, after) = .pure (.error error, left, after))
    (goesOn : ∀ value left after, ProceedsTo left after (next (.ok value, left, after))) :
    ProceedsTo line context (first.bind next) := by
  cases proceeds with
  | through proceeds => exact proceeds.proceedsTo (goesOn _ _ _)
  | fails proceeds =>
      rw [Traced.bind_of_some rfl, fails, Traced.pure_events, List.append_nil]
      exact .fails proceeds
  | hangs proceeds => exact .hangs proceeds

end Sequences

namespace Context

/-- A pass takes a turn for each configuration in the line, up to one that fails or hangs. -/
theorem tracePass_proceedsTo (still line : Line σ) (progressed : Bool) (context : Context σ) :
    ProceedsTo (still ++ line) context (tracePass line still progressed context) := by
  induction line generalizing still progressed context with
  | nil =>
      rw [tracePass, List.append_nil]
      exact .through .nil
  | cons entry rest ih =>
      rcases entry with ⟨queued, place⟩
      rw [tracePass, traceLoad_result]
      cases loadEnds queued context with
      | missing missing _ loaded =>
          rw [loaded]
          refine (Goes.waits missing).proceedsTo ?_
          rw [List.append_cons]
          exact ih _ progressed context
      | hung _ attempt loaded =>
          rw [loaded]
          exact .hangs (.hangs attempt)
      | failed _ attempt fails loaded =>
          rw [loaded]
          exact .fails (.fails attempt fails loaded)
      | completed _ attempt _ loaded =>
          rw [loaded]
          exact (Goes.loads attempt loaded).proceedsTo (ih still true _)

theorem tracePasses_proceedsTo (more : Nat) (line : Line σ) (context : Context σ) :
    ProceedsTo line context (tracePasses more line context) := by
  induction more generalizing line context with
  | zero =>
      rw [tracePasses]
      refine (tracePass_proceedsTo [] line false context).bind (fun _ _ _ => rfl) ?_
      intro progressed left after
      cases progressed <;> exact .through .nil
  | succ more ih =>
      rw [tracePasses]
      refine (tracePass_proceedsTo [] line false context).bind (fun _ _ _ => rfl) ?_
      intro progressed left after
      cases progressed with
      | false => exact .through .nil
      | true => exact ih left after

/-- How an assembly ends: it comes to a conclusion after its turns, or the last one stops it. -/
inductive AssembleEnds (line : Line σ) (context : Context σ) : Prop
  | concludes {left : Line σ} {settled : Context σ}
      (proceeds : Proceeds line context (context.traceAssemble line).events none left settled)
      (passed : (context.lineUp line).passes line.length = some (.ok (), settled.lineUp left))
      (ended : (context.traceAssemble line).result = some (settled.lineUp left).conclude)
  | fails {error : ConfigurationError} {left : Line σ} {after : Context σ}
      (proceeds : Proceeds line context (context.traceAssemble line).events
        (some (.failed error)) left after)
      (ended : (context.traceAssemble line).result = some (.error error, after.lineUp left))
  | hangs {left : Line σ} {after : Context σ}
      (proceeds : Proceeds line context (context.traceAssemble line).events (some .hung) left after)
      (ended : (context.traceAssemble line).result = none)

theorem assembleEnds (line : Line σ) (context : Context σ) : AssembleEnds line context := by
  have proceeds := tracePasses_proceedsTo line.length line context
  have passed := tracePasses_result line.length line context
  have told : (context.traceAssemble line).events = (tracePasses line.length line context).events :=
    rfl
  have ended : (context.traceAssemble line).result =
      (tracePasses line.length line context).result.map _ :=
    rfl
  generalize tracePasses line.length line context = traced at proceeds passed told ended
  cases proceeds with
  | through proceeds => exact .concludes (by rwa [told]) passed.symm ended
  | fails proceeds => exact .fails (by rwa [told]) ended
  | hangs proceeds => exact .hangs (by rwa [told]) ended

/-- The assembly that tells its turns comes to what the assembly comes to. -/
theorem traceAssemble_zipIdx_result (context : Context σ) :
    (context.traceAssemble context.waiting.zipIdx).result = context.assemble := by
  rw [traceAssemble_result, lineUp_zipIdx]

theorem conclude_cases (context : Context σ) :
    context.conclude.2 = context ∨
      context.conclude.2 = context.report (.assembled context.active.length) := by
  unfold conclude
  split
  · exact .inr rfl
  · split <;> exact .inl rfl

/--
An assembly takes turns. It comes to its end unless the last one hangs, and then does no more than
report that it is complete. If the last one fails, it ends with the error.
-/
theorem exists_proceeds (line : Line σ) (context : Context σ) :
    ∃ stop left settled,
      Proceeds line context (context.traceAssemble line).events stop left settled ∧
      ((context.traceAssemble line).result = none ↔ stop = some .hung) ∧
      (∀ error, stop = some (.failed error) →
        (context.traceAssemble line).result = some (.error error, settled.lineUp left)) ∧
      ∀ outcome after, (context.traceAssemble line).result = some (outcome, after) →
        after = settled.lineUp left ∨
          ∃ count, after = (settled.lineUp left).report (.assembled count) := by
  cases assembleEnds line context with
  | @concludes left settled proceeds _ ended =>
      refine ⟨none, left, settled, proceeds, by simp [ended], by simp, ?_⟩
      intro outcome after same
      have after_eq : (settled.lineUp left).conclude.2 = after :=
        congrArg Prod.snd (Option.some.inj (ended.symm.trans same))
      rcases (settled.lineUp left).conclude_cases with unchanged | reported
      · exact .inl (after_eq.symm.trans unchanged)
      · exact .inr ⟨_, after_eq.symm.trans reported⟩
  | @fails error left settled proceeds ended =>
      refine ⟨_, left, settled, proceeds, by simp [ended], ?_, ?_⟩
      · rintro _ ⟨⟩
        exact ended
      · intro outcome after same
        cases ended.symm.trans same
        exact .inl rfl
  | @hangs left settled proceeds ended =>
      exact ⟨_, left, settled, proceeds, by simp [ended], by simp, by simp [ended]⟩

/-- The turns of an assembly that comes to its end, and what they leave to its outcome. -/
theorem exists_proceeds_of_assemble {context after : Context σ}
    {outcome : Except ConfigurationError Unit}
    (assembled : context.assemble = some (outcome, after)) :
    ∃ stop left settled, Proceeds context.waiting.zipIdx context context.turns stop left settled ∧
      stop ≠ some .hung ∧
      (∀ error, stop = some (.failed error) →
        outcome = .error error ∧ after = settled.lineUp left) ∧
      after.waiting = left.map (·.1) ∧ after.active = settled.active := by
  rw [← traceAssemble_zipIdx_result] at assembled
  rcases exists_proceeds context.waiting.zipIdx context with
    ⟨stop, left, settled, proceeds, hangs_iff, fails, ends⟩
  refine ⟨stop, left, settled, proceeds, ?_, ?_, ?_⟩
  · rw [Ne, ← hangs_iff, assembled]
    simp
  · intro error stop_eq
    cases assembled.symm.trans (fails error stop_eq)
    exact ⟨rfl, rfl⟩
  · rcases ends outcome after assembled with rfl | ⟨count, rfl⟩ <;> exact ⟨rfl, rfl⟩

end Context

/-- What holds of a waiting configuration with the registry, and cannot be lost in an assembly. -/
structure Lasts (holds : Registry → Queued σ × Nat → Prop) : Prop where
  pruned : ∀ {registry queued place}, holds registry (queued, place) →
    holds registry (queued.pruned registry, place)
  grown : ∀ {before after entry}, before.beans <+: after.beans → holds before entry →
    holds after entry

namespace Lasts

variable {holds : Registry → Queued σ × Nat → Prop} {line left : Line σ}
  {context after : Context σ} {turns : List (Turn σ)} {stop : Option Ending}

theorem goes {turn : Turn σ} {between : Line σ} {next : Context σ} (lasts : Lasts holds)
    (goes : Goes line context turn between next)
    (all : ∀ entry ∈ line, holds context.registry entry) :
    holds turn.registry (turn.queued, turn.place) ∧
      ∀ entry ∈ between, holds next.registry entry := by
  cases goes with
  | waits missing =>
      rw [List.forall_mem_append, List.forall_mem_cons] at all ⊢
      exact ⟨all.2.1, all.1, lasts.pruned all.2.1, all.2.2⟩
  | loads attempt loaded =>
      have grows := (Context.load_grows loaded).beans
      rw [List.forall_mem_append, List.forall_mem_cons] at all
      rw [List.forall_mem_append]
      exact ⟨all.2.1, fun entry entry_mem => lasts.grown grows (all.1 entry entry_mem),
        fun entry entry_mem => lasts.grown grows (all.2.2 entry entry_mem)⟩

/-- What holds of all that waits holds at each turn, and of all that goes on waiting. -/
theorem proceeds (lasts : Lasts holds) (proceeds : Proceeds line context turns stop left after)
    (all : ∀ entry ∈ line, holds context.registry entry) :
    (∀ turn ∈ turns, holds turn.registry (turn.queued, turn.place)) ∧
      ∀ entry ∈ left, holds after.registry entry := by
  induction proceeds with
  | nil => exact ⟨by simp, all⟩
  | cons goes proceeds ih =>
      have first := lasts.goes goes all
      exact ⟨List.forall_mem_cons.mpr ⟨first.1, (ih first.2).1⟩, (ih first.2).2⟩
  | fails attempt fails loaded =>
      have grows := (Context.load_grows loaded).beans
      rw [List.forall_mem_append, List.forall_mem_cons] at all
      refine ⟨List.forall_mem_singleton.mpr all.2.1, ?_⟩
      rw [List.forall_mem_append, List.forall_mem_cons]
      exact ⟨fun entry entry_mem => lasts.grown grows (all.1 entry entry_mem),
        lasts.grown grows (lasts.pruned all.2.1),
        fun entry entry_mem => lasts.grown grows (all.2.2 entry entry_mem)⟩
  | hangs attempt =>
      exact ⟨List.forall_mem_singleton.mpr
        (all _ (List.mem_append_right _ List.mem_cons_self)), all⟩

end Lasts

theorem lasts_tracks : Lasts fun registry (entry : Queued σ × Nat) => entry.1.Tracks registry where
  pruned tracks := tracks.pruned
  grown grown tracks := tracks.of_grown grown

theorem lasts_allowed (allows : Configuration σ → Prop) :
    Lasts fun _ (entry : Queued σ × Nat) => allows entry.1.configuration where
  pruned allowed := allowed
  grown _ allowed := allowed

/--
A relation between an earlier and a later context, and the turns taken in between, that loads of
allowed configurations keep. It is not about what waits, and the report of a complete assembly keeps
it too.
-/
structure Upholds (allows : Configuration σ → Prop)
    (relation : Context σ → List (Turn σ) → Context σ → Prop) : Prop where
  waits : ∀ context waiting, relation context [] { context with waiting }
  append : ∀ {first second third turns later}, relation first turns second →
    relation second later third → relation first (turns ++ later) third
  load : ∀ {place queued pruned context after outcome}, allows queued.configuration →
    context.load queued = some (outcome, pruned, after) →
      relation context [⟨place, queued, context.registry⟩] after
  assembled : ∀ context count, relation context [] (context.report (.assembled count))

namespace Upholds

variable {allows : Configuration σ → Prop}
  {relation : Context σ → List (Turn σ) → Context σ → Prop} {line left : Line σ}
  {context after : Context σ} {turns : List (Turn σ)} {stop : Option Ending}

theorem quietly (upholds : Upholds allows relation) {first second third : Context σ}
    (taken : relation first turns second) (silent : relation second [] third) :
    relation first turns third := by
  rw [← List.append_nil turns]
  exact upholds.append taken silent

theorem goes (upholds : Upholds allows relation) {turn : Turn σ} {between : Line σ}
    {next : Context σ} (goes : Goes line context turn between next)
    (allowed : allows turn.queued.configuration) : relation context [turn] next := by
  cases goes with
  | waits missing => exact upholds.load allowed (Context.load_of_missing missing)
  | loads attempt loaded => exact upholds.load allowed loaded

/-- What loads keep is kept by any number of turns, unless the last one hangs. -/
theorem proceeds (upholds : Upholds allows relation)
    (proceeds : Proceeds line context turns stop left after)
    (ends : stop ≠ some .hung) (allowed : ∀ turn ∈ turns, allows turn.queued.configuration) :
    relation context turns after := by
  induction proceeds with
  | nil => exact upholds.waits _ _
  | cons goes proceeds ih =>
      rw [List.forall_mem_cons] at allowed
      exact upholds.append (upholds.goes goes allowed.1) (ih ends allowed.2)
  | fails attempt fails loaded =>
      exact upholds.load (allowed _ (List.mem_singleton_self _)) loaded
  | hangs attempt => exact absurd rfl ends

end Upholds

section Assemblies

variable {line : Line σ} {context after : Context σ} {outcome : Except ConfigurationError Unit}
  {allows : Configuration σ → Prop} {relation : Context σ → List (Turn σ) → Context σ → Prop}

/-- The turns of an assembly are of allowed configurations if those that wait are. -/
theorem Context.allowed_of_traceAssemble
    (allowed : ∀ queued ∈ line.map (·.1), allows queued.configuration)
    (ended : (context.traceAssemble line).result = some (outcome, after)) :
    (∀ turn ∈ (context.traceAssemble line).events, allows turn.queued.configuration) ∧
      ∀ queued ∈ after.waiting, allows queued.configuration := by
  rcases exists_proceeds line context with ⟨stop, left, settled, proceeds, _, _, ends⟩
  have marked : ∀ entry ∈ line, allows entry.1.configuration :=
    fun entry entry_mem => allowed entry.1 (List.mem_map_of_mem entry_mem)
  rcases (lasts_allowed allows).proceeds proceeds marked with ⟨atTurns, ofLeft⟩
  refine ⟨atTurns, ?_⟩
  have waiting_eq : after.waiting = left.map (·.1) := by
    rcases ends outcome after ended with rfl | ⟨count, rfl⟩ <;> rfl
  rw [waiting_eq]
  exact List.forall_mem_map.mpr ofLeft

theorem Upholds.assemble (upholds : Upholds allows relation)
    (allowed : ∀ queued ∈ line.map (·.1), allows queued.configuration)
    (ended : (context.traceAssemble line).result = some (outcome, after)) :
    relation context (context.traceAssemble line).events after := by
  rcases Context.exists_proceeds line context with
    ⟨stop, left, settled, proceeds, hangs_iff, _, ends⟩
  have goesOn : stop ≠ some .hung := by
    rw [Ne, ← hangs_iff, ended]
    simp
  have taken := upholds.proceeds proceeds goesOn (Context.allowed_of_traceAssemble allowed ended).1
  have linedUp := upholds.quietly taken (upholds.waits settled (left.map (·.1)))
  rcases ends outcome after ended with rfl | ⟨count, rfl⟩
  · exact linedUp
  · exact upholds.quietly linedUp (upholds.assembled _ count)

/-- What loads keep is kept by the turns of an assembly. -/
theorem Upholds.assemble_turns (upholds : Upholds allows relation)
    (allowed : ∀ queued ∈ context.waiting, allows queued.configuration)
    (assembled : context.assemble = some (outcome, after)) :
    relation context context.turns after := by
  refine upholds.assemble ?_ (context.traceAssemble_zipIdx_result.trans assembled)
  simpa using allowed

end Assemblies

namespace Carries

variable {relation : Registry → List Moment → Registry → Prop}

theorem upholds (carries : Carries relation) :
    Upholds (fun _ : Configuration σ => True) fun before turns after =>
      relation before.registry (turns.flatMap (·.moments)) after.registry where
  waits context _ := carries.refl context.registry
  append left right := by
    rw [List.flatMap_append]
    exact carries.append left right
  load _ loaded := by
    rw [List.flatMap_singleton]
    exact carries.load loaded
  assembled context _ := carries.report _ context.registry

theorem assemble (carries : Carries relation) {line : Line σ} {context after : Context σ}
    {outcome : Except ConfigurationError Unit}
    (ended : (context.traceAssemble line).result = some (outcome, after)) :
    relation context.registry ((context.traceAssemble line).events.flatMap (·.moments))
      after.registry :=
  carries.upholds.assemble (fun _ _ => trivial) ended

end Carries

theorem Proceeds.tracks {line left : Line σ} {context after : Context σ} {turns : List (Turn σ)}
    {stop : Option Ending} (proceeds : Proceeds line context turns stop left after)
    (tracks : (context.lineUp line).Tracks) : (after.lineUp left).Tracks :=
  List.forall_mem_map.mpr (lasts_tracks.proceeds proceeds (List.forall_mem_map.mp tracks)).2

end BeanContainer
