import BeanContainer.Proofs.Context.Filings
import BeanContainer.Proofs.Context.Supplying

/-!
# No configuration is lost in an assembly

However an assembly ends, each configuration that waited either goes on waiting, in the old order,
or has become active, and none of them twice. If a hook fails, the assembly ends with its error at
once. The configuration whose hook failed and all behind it that were not loaded before are left
waiting, and whatever was registered until then, also by that hook, stays registered.
-/

namespace BeanContainer

variable {σ : Type}

/-- What waits with a place is what waited there in the beginning, up to what is struck out. -/
def IsPlaced (waiting : List (Queued σ)) (entry : Queued σ × Nat) : Prop :=
  ∃ queued, waiting[entry.2]? = some queued ∧ entry.1.id = queued.id ∧
    entry.1.configuration = queued.configuration

theorem lasts_isPlaced (waiting : List (Queued σ)) :
    Lasts fun _ (entry : Queued σ × Nat) => IsPlaced waiting entry where
  pruned placed := placed
  grown _ placed := placed

theorem mem_zipIdx_self {waiting : List (Queued σ)} {entry : Queued σ × Nat}
    (entry_mem : entry ∈ waiting.zipIdx) : waiting[entry.2]? = some entry.1 :=
  List.mk_mem_zipIdx_iff_getElem?.mp entry_mem

/-- The turns of an assembly are of the configurations that wait at their places. -/
theorem Proceeds.isPlaced {waiting : List (Queued σ)} {context after : Context σ}
    {turns : List (Turn σ)} {stop : Option Ending} {left : Line σ}
    (proceeds : Proceeds waiting.zipIdx context turns stop left after) :
    ∀ turn ∈ turns, IsPlaced waiting (turn.queued, turn.place) :=
  ((lasts_isPlaced waiting).proceeds proceeds fun entry entry_mem =>
    ⟨entry.1, mem_zipIdx_self entry_mem, rfl, rfl⟩).1

theorem zipIdx_places (waiting : List (Queued σ)) :
    waiting.zipIdx.map (·.2) = List.range waiting.length := by
  rw [List.range_eq_range']
  exact List.zipIdx_map_snd 0 waiting

/-- The queued configuration after it was looked at in each of the turns at its place. -/
def checkedIn (turns : List (Turn σ)) (place : Nat) (queued : Queued σ) : Queued σ :=
  (turns.filter (·.place == place)).foldl (fun queued turn => queued.pruned turn.registry) queued

/-- What waits at the place is what waited there before, as it is after the turns. -/
def WaitsAfter (waiting : List (Queued σ)) (turns : List (Turn σ)) (place : Nat)
    (later : Queued σ) : Prop :=
  ∃ queued, waiting[place]? = some queued ∧ later = checkedIn turns place queued

section Checks

variable {turns : List (Turn σ)} {place : Nat} {queued : Queued σ}

theorem checkedIn_append (later : List (Turn σ)) :
    checkedIn (turns ++ later) place queued =
      checkedIn later place (checkedIn turns place queued) := by
  rw [checkedIn, List.filter_append, List.foldl_append, checkedIn, checkedIn]

theorem checkedIn_own (registry : Registry) (waiting : Queued σ) :
    checkedIn [⟨place, waiting, registry⟩] place queued = queued.pruned registry := by
  simp [checkedIn]

theorem checkedIn_other {turn : Turn σ} (different : turn.place ≠ place) :
    checkedIn [turn] place queued = queued := by
  simp [checkedIn, different]

theorem WaitsAfter.own {waiting : List (Queued σ)} (waits : WaitsAfter waiting turns place queued)
    (registry : Registry) :
    WaitsAfter waiting (turns ++ [⟨place, queued, registry⟩]) place (queued.pruned registry) := by
  rcases waits with ⟨original, found, rfl⟩
  exact ⟨original, found, by rw [checkedIn_append, checkedIn_own]⟩

end Checks

section Turns

variable {line between left : Line σ} {context next after : Context σ} {turn : Turn σ}
  {turns so : List (Turn σ)} {stop : Option Ending} {waiting : List (Queued σ)}

theorem Goes.perm (goes : Goes line context turn between next) :
    (between.map (·.2) ++ doneIn [turn]).Perm (line.map (·.2)) := by
  cases goes with
  | @waits front behind queued place context missing =>
      have incomplete : Turn.completes ⟨place, queued, context.registry⟩ = false :=
        Turn.completes_of_missing missing
      rw [doneIn_of_incomplete incomplete]
      simp
  | @loads front behind queued place context final provided attempt loaded =>
      have done : doneIn [⟨place, queued, context.registry⟩] = [place] := by
        simp [doneIn, Turn.completes_of_attempt attempt]
      rw [done, List.map_append, List.map_append, List.map_cons, List.append_assoc]
      exact (List.perm_append_singleton place _).append_left _

/-- Each place either goes on waiting or has one turn that completes. -/
theorem Proceeds.perm (proceeds : Proceeds line context turns stop left after) :
    (left.map (·.2) ++ doneIn turns).Perm (line.map (·.2)) := by
  induction proceeds with
  | nil => simp [doneIn]
  | cons goes proceeds ih =>
      rw [doneIn_cons]
      refine .trans ?_ ((ih.append_right _).trans goes.perm)
      rw [List.append_assoc]
      exact List.perm_append_comm.append_left _
  | fails attempt | hangs attempt =>
      rw [doneIn_of_incomplete (by simp [Turn.completes_of_attempt attempt])]
      simp

/-- What goes on waiting keeps its order. -/
theorem Proceeds.sublist (proceeds : Proceeds line context turns stop left after) :
    (left.map (·.2)).Sublist (line.map (·.2)) := by
  induction proceeds with
  | nil => exact List.Sublist.refl _
  | cons goes proceeds ih =>
      refine ih.trans ?_
      cases goes with
      | waits missing => simp
      | loads attempt loaded => simp
  | fails attempt | hangs attempt => simp

/-- The turns that complete give rise to the new active configurations, in order. -/
theorem Proceeds.rises (proceeds : Proceeds line context turns stop left after) :
    ∃ units, after.active = context.active ++ units ∧
      List.Forall₂ Turn.GivesRise (turns.filter (·.completes)) units := by
  induction proceeds with
  | nil => exact ⟨[], (List.append_nil _).symm, .nil⟩
  | cons goes proceeds ih =>
      rcases ih with ⟨units, active_eq, rises⟩
      cases goes with
      | waits missing =>
          refine ⟨units, active_eq, ?_⟩
          rw [List.filter_cons_of_neg (by simpa using Turn.completes_of_missing missing)]
          exact rises
      | @loads front behind queued place context final provided attempt loaded =>
          refine ⟨⟨queued.id, queued.configuration, final⟩ :: units, ?_, ?_⟩
          · rw [active_eq, Context.activate, List.append_assoc]
            rfl
          · rw [List.filter_cons_of_pos (by simp [Turn.completes_of_attempt attempt])]
            exact .cons ⟨rfl, rfl⟩ rises
  | fails attempt | hangs attempt =>
      refine ⟨[], (List.append_nil _).symm, ?_⟩
      rw [List.filter_cons_of_neg (by simp [Turn.completes_of_attempt attempt])]
      exact .nil

/-- A turn strikes out resources at its own place, and nothing at the others. -/
theorem waitsAfter_turn {front behind : Line σ} {queued : Queued σ} {place : Nat}
    (registry : Registry) (nodup : ((front ++ (queued, place) :: behind).map (·.2)).Nodup)
    (waits : ∀ entry ∈ front ++ (queued, place) :: behind, WaitsAfter waiting so entry.2 entry.1) :
    WaitsAfter waiting (so ++ [⟨place, queued, registry⟩]) place (queued.pruned registry) ∧
      ∀ entry ∈ front ++ behind,
        WaitsAfter waiting (so ++ [⟨place, queued, registry⟩]) entry.2 entry.1 := by
  rw [List.map_append, List.map_cons] at nodup
  have fresh := (List.nodup_cons.mp (List.nodup_middle.mp nodup)).1
  rw [← List.map_append] at fresh
  refine ⟨(waits _ (List.mem_append_right _ List.mem_cons_self)).own registry, ?_⟩
  intro entry entry_mem
  have different : place ≠ entry.2 := by
    have place_mem : entry.2 ∈ (front ++ behind).map (·.2) := List.mem_map_of_mem entry_mem
    intro same
    exact fresh (same ▸ place_mem)
  have known : entry ∈ front ++ (queued, place) :: behind := by
    rcases List.mem_append.mp entry_mem with entry_mem | entry_mem
    · exact List.mem_append_left _ entry_mem
    · exact List.mem_append_right _ (List.mem_cons_of_mem _ entry_mem)
  rcases waits entry known with ⟨original, found, same⟩
  refine ⟨original, found, ?_⟩
  rw [checkedIn_append, checkedIn_other different, same]

theorem Goes.waitsAfter (goes : Goes line context turn between next)
    (nodup : (line.map (·.2)).Nodup)
    (waits : ∀ entry ∈ line, WaitsAfter waiting so entry.2 entry.1) :
    ∀ entry ∈ between, WaitsAfter waiting (so ++ [turn]) entry.2 entry.1 := by
  cases goes with
  | @waits front behind queued place context missing =>
      rcases waitsAfter_turn context.registry nodup waits with ⟨own, others⟩
      rw [List.forall_mem_append] at others
      rw [List.forall_mem_append, List.forall_mem_cons]
      exact ⟨others.1, own, others.2⟩
  | @loads front behind queued place context final provided attempt loaded =>
      exact (waitsAfter_turn context.registry nodup waits).2

/-- What waits after turns that end is what waited before, looked at in the turns. -/
theorem Proceeds.waitsAfter (proceeds : Proceeds line context turns stop left after)
    (ends : stop ≠ some .hung) (nodup : (line.map (·.2)).Nodup)
    (waits : ∀ entry ∈ line, WaitsAfter waiting so entry.2 entry.1) :
    ∀ entry ∈ left, WaitsAfter waiting (so ++ turns) entry.2 entry.1 := by
  induction proceeds generalizing so with
  | nil => simpa using waits
  | cons goes proceeds ih =>
      have nodupAfter := nodup.sublist (Proceeds.cons goes .nil).sublist
      have later := ih ends nodupAfter (goes.waitsAfter nodup waits)
      rwa [List.append_cons]
  | @fails front behind queued place context error registry attempt fails loaded =>
      rcases waitsAfter_turn context.registry nodup waits with ⟨own, others⟩
      rw [List.forall_mem_append] at others
      rw [List.forall_mem_append, List.forall_mem_cons]
      exact ⟨others.1, own, others.2⟩
  | hangs attempt => exact absurd rfl ends

theorem Goes.not_failed (goes : Goes line context turn between next) (error : ConfigurationError) :
    turn.ending? ≠ some (.failed error) := by
  cases goes with
  | @waits _ _ queued place context missing =>
      have uncalled : Turn.ending? ⟨place, queued, context.registry⟩ = none :=
        Turn.ending?_of_missing missing
      simp [uncalled]
  | loads attempt loaded => simp [Turn.ending?_of_attempt attempt]

/-- A turn in which a hook fails is the last one, and its configuration goes on waiting. -/
theorem Proceeds.stops (proceeds : Proceeds line context turns stop left after) :
    ∀ turn ∈ turns, ∀ error, turn.ending? = some (.failed error) →
      stop = some (.failed error) ∧ (∃ earlier, turns = earlier ++ [turn]) ∧
        turn.place ∈ left.map (·.2) ∧
        turn.queued.FailsWith turn.registry error after.registry := by
  induction proceeds with
  | nil => simp
  | @cons _ _ _ _ _ _ first _ _ goes proceeds ih =>
      intro turn turn_mem error failed
      rcases List.mem_cons.mp turn_mem with rfl | turn_mem
      · exact absurd failed (goes.not_failed error)
      · rcases ih turn turn_mem error failed with ⟨stop_eq, ⟨earlier, turns_eq⟩, stays, fails⟩
        exact ⟨stop_eq, ⟨first :: earlier, by rw [turns_eq, List.cons_append]⟩, stays, fails⟩
  | fails attempt fails loaded =>
      intro turn turn_mem error failed
      rw [List.mem_singleton.mp turn_mem, Turn.ending?_of_attempt attempt] at failed
      cases failed
      rw [List.mem_singleton.mp turn_mem]
      exact ⟨rfl, ⟨[], rfl⟩, by simp, fails⟩
  | hangs attempt =>
      intro turn turn_mem error failed
      rw [List.mem_singleton.mp turn_mem, Turn.ending?_of_attempt attempt] at failed
      cases failed

end Turns

/-- What is in the queue behind a place is all that comes later and is not taken out of it. -/
theorem exists_behind {stays loads : List Nat} {size place : Nat}
    (sublist : stays.Sublist (List.range size)) (perm : (stays ++ loads).Perm (List.range size))
    (place_mem : place ∈ stays) :
    place ∉ loads ∧ ∃ front behind, stays = front ++ place :: behind ∧
      ∀ other, other ∈ behind ↔ place < other ∧ other < size ∧ other ∉ loads := by
  have apart := (List.nodup_append.mp (perm.nodup_iff.mpr List.nodup_range)).2.2
  have ordered : stays.Pairwise (· < ·) := List.pairwise_lt_range.sublist sublist
  rcases List.append_of_mem place_mem with ⟨front, behind, rfl⟩
  rcases List.pairwise_append.mp ordered with ⟨_, orderedFrom, before⟩
  refine ⟨fun loaded => apart place place_mem place loaded rfl, front, behind, rfl, ?_⟩
  intro other
  constructor
  · intro other_mem
    have stays_mem : other ∈ front ++ place :: behind :=
      List.mem_append_right front (List.mem_cons_of_mem place other_mem)
    refine ⟨(List.pairwise_cons.mp orderedFrom).1 other other_mem,
      List.mem_range.mp (sublist.subset stays_mem), ?_⟩
    exact fun loaded => apart other stays_mem other loaded rfl
  · rintro ⟨later, inside, notLoaded⟩
    have other_mem := perm.mem_iff.mpr (List.mem_range.mpr inside)
    rcases List.mem_append.mp other_mem with stays_mem | loaded
    · rcases List.mem_append.mp stays_mem with front_mem | behind_mem
      · have := before other front_mem place List.mem_cons_self
        omega
      · rcases List.mem_cons.mp behind_mem with rfl | behind_mem
        · omega
        · exact behind_mem
    · exact absurd loaded notLoaded

namespace Context

/-- The active configuration is the one that waited at the place. -/
def StandsFor (waiting : List (Queued σ)) (place : Nat) (active : Active σ) : Prop :=
  ∃ queued, waiting[place]? = some queued ∧ active.id = queued.id ∧
    active.configuration = queued.configuration

theorem standsFor_of_givesRise {waiting : List (Queued σ)} {turns : List (Turn σ)}
    (placed : ∀ turn ∈ turns, IsPlaced waiting (turn.queued, turn.place))
    {units : List (Active σ)}
    (rises : List.Forall₂ Turn.GivesRise (turns.filter (·.completes)) units) :
    List.Forall₂ (StandsFor waiting) (doneIn turns) units := by
  rw [doneIn, List.forall₂_map_left_iff]
  have own : ∀ turn ∈ turns.filter (·.completes), IsPlaced waiting (turn.queued, turn.place) :=
    fun turn turn_mem => placed turn (List.mem_filter.mp turn_mem).1
  refine ((List.forall₂_and_left _ _).mpr ⟨own, rises⟩).imp ?_
  rintro turn active ⟨⟨queued, found, same_id, same_configuration⟩, gives_id, gives_configuration⟩
  exact ⟨queued, found, gives_id.trans same_id, gives_configuration.trans same_configuration⟩

/-- Whatever is accepted at some turn of an assembly is registered when the assembly has ended. -/
theorem find?_of_turn {context after : Context σ} {outcome : Except ConfigurationError Unit}
    (assembled : context.assemble = some (outcome, after)) :
    ∀ turn ∈ context.turns, ∀ filing ∈ turn.filings, filing.isAccepted = true →
      after.registry.find? filing.name = some filing.strategy := by
  rw [← traceAssemble_zipIdx_result] at assembled
  intro turn turn_mem filing filing_mem accepted
  have accounts := carries_accounts.assemble assembled
  have told : filing ∈ filingsIn (context.turns.flatMap (·.moments)) := by
    rcases List.append_of_mem turn_mem with ⟨earlier, later, turns_eq⟩
    rw [turns_eq, List.flatMap_append, List.flatMap_cons, filingsIn_append, filingsIn_append]
    exact List.mem_append_right _ (List.mem_append_left _ filing_mem)
  have retains := (accounts.between filing told).2
  exact Registry.find?_of_grown retains.beans (Filing.find?_after accepted)

/--
In every assembly that comes to an end, each configuration that waited either goes on waiting, with
some resources struck out and in the old order, or it stands behind the active ones, and no
configuration does both, or either one twice. If a hook fails, it is the last one called, at the
last turn taken. The outcome is its error, the registry is left as the hook left it, and waiting are
the configuration whose hook it was and behind it all that come later in the queue and were not
loaded before. Whatever was registered before the assembly, or by any hook in it, is registered
afterwards.
-/
theorem assemble_conserves_and_stops {context after : Context σ}
    {outcome : Except ConfigurationError Unit}
    (assembled : context.assemble = some (outcome, after)) :
    ∃ (stays loads : List Nat) (units : List (Active σ)),
      stays.Sublist (List.range context.waiting.length) ∧
      (stays ++ loads).Perm (List.range context.waiting.length) ∧
      List.Forall₂ (WaitsAfter context.waiting context.turns) stays after.waiting ∧
      after.active = context.active ++ units ∧
      List.Forall₂ (StandsFor context.waiting) loads units ∧
      (context.traceAssemble context.waiting.zipIdx).result = some (outcome, after) ∧
      (∀ turn ∈ context.turns, ∀ call ∈ turn.calls, ∀ error, call.ending = .failed error →
        outcome = .error error ∧
        (∃ earlier, context.turns = earlier ++ [turn]) ∧
        (∃ before, turn.calls = before ++ [call]) ∧
        turn.queued.FailsWith turn.registry error after.registry ∧
        turn.place ∉ loads ∧
        ∃ front behind, stays = front ++ turn.place :: behind ∧
          ∀ place, place ∈ behind ↔
            turn.place < place ∧ place < context.waiting.length ∧ place ∉ loads) ∧
      context.registry.beans <+: after.registry.beans ∧
      ∀ turn ∈ context.turns, ∀ filing ∈ turn.filings, filing.isAccepted = true →
        after.registry.find? filing.name = some filing.strategy := by
  rcases exists_proceeds_of_assemble assembled with
    ⟨stop, left, settled, proceeds, ends, fails, waiting_eq, sameActive⟩
  have traced := context.traceAssemble_zipIdx_result.trans assembled
  have sublist := proceeds.sublist
  have perm := proceeds.perm
  rw [zipIdx_places] at sublist perm
  rcases proceeds.rises with ⟨units, active_eq, rises⟩
  refine ⟨left.map (·.2), doneIn context.turns, units, sublist, perm, ?_,
    sameActive.trans active_eq, standsFor_of_givesRise proceeds.isPlaced rises, traced, ?_,
    (carries_accounts.assemble traced).retains.beans, find?_of_turn assembled⟩
  · rw [waiting_eq, List.forall₂_map_left_iff, List.forall₂_map_right_iff, List.forall₂_same]
    have waits : ∀ entry ∈ context.waiting.zipIdx,
        WaitsAfter context.waiting [] entry.2 entry.1 :=
      fun entry entry_mem => ⟨entry.1, mem_zipIdx_self entry_mem, rfl⟩
    exact proceeds.waitsAfter ends (zipIdx_places context.waiting ▸ List.nodup_range) waits
  · intro turn turn_mem call call_mem error failed
    rcases Turn.ending?_of_call call_mem failed with ⟨ending, isLastCall⟩
    rcases proceeds.stops turn turn_mem error ending with ⟨stop_eq, isLast, stays, failsWith⟩
    rcases exists_behind sublist perm stays with ⟨notLoaded, behind⟩
    rcases fails error stop_eq with ⟨outcome_eq, rfl⟩
    exact ⟨outcome_eq, isLast, isLastCall, failsWith, notLoaded, behind⟩

/--
A queue in which the second configuration registers a bean and then fails, as soon as the third one
has supplied what it needs.
-/
def minefield : Context Unit where
  waiting := [
    .ofConfiguration 0 (.supplying "hopeless" ["nowhere"] []),
    .ofConfiguration 1 { Configuration.supplying "exploding" ["seed"] [] with
      provide := fun _ => .write (.supply "shrapnel" .i32 (.plain (.integer 1))) fun _ =>
        .done (.error (.construction "exploding" "boom"), ()) },
    .ofConfiguration 2 (.supplying "source" [] ["seed"]),
    .ofConfiguration 3 (.supplying "behind" ["shrapnel"] [])]

theorem assemble_stops_minefield :
    ∃ after : Context Unit,
      minefield.assemble = some (.error (.construction "exploding" "boom"), after) ∧
      (∃ turn ∈ minefield.turns, ∃ call ∈ turn.calls,
        call.ending = .failed (.construction "exploding" "boom")) ∧
      ∃ (stays loads : List Nat) (units : List (Active Unit)),
        stays.Sublist (List.range 4) ∧ (stays ++ loads).Perm (List.range 4) ∧
        after.active = units ∧ List.Forall₂ (StandsFor minefield.waiting) loads units := by
  have stops : minefield.assemble.map (·.1) =
      some (.error (.construction "exploding" "boom")) :=
    rfl
  have ends : some (.failed (.construction "exploding" "boom")) ∈
      minefield.turns.map (·.ending?) := by
    have endings : minefield.turns.map (·.ending?) = [none, none, some .completed, none, none,
        some (.failed (.construction "exploding" "boom"))] := by
      decide +kernel
    simp [endings]
  rcases Option.map_eq_some_iff.mp stops with ⟨⟨outcome, after⟩, assembled, outcome_eq⟩
  change outcome = _ at outcome_eq
  subst outcome_eq
  rcases List.mem_map.mp ends with ⟨turn, turn_mem, ends⟩
  rcases Option.map_eq_some_iff.mp ends with ⟨call, isLast, failed⟩
  rcases assemble_conserves_and_stops assembled with
    ⟨stays, loads, units, sublist, perm, _, active, stands, _⟩
  exact ⟨after, assembled, ⟨turn, turn_mem, call, List.mem_of_getLast? isLast, failed⟩,
    stays, loads, units, sublist, perm, active, stands⟩

end Context

end BeanContainer
