import BeanContainer.Proofs.Context.Diagnosis

/-!
# Circles of needs

The search for cycles goes by places of the queue and takes the last declarer of a bean for its
source. If no bean is declared twice there is only one declarer, and whether the queue holds a
circle does not depend on its order.
-/

namespace BeanContainer

variable {σ : Type}

namespace Queued

/-- No bean is declared at two places of the queue. -/
def DeclareApart (waiting : List (Queued σ)) : Prop :=
  waiting.Pairwise fun queued other =>
    List.Disjoint queued.configuration.beanNames other.configuration.beanNames

/-- A configuration of the queue misses a resource that another one declares. -/
def Needs (waiting : List (Queued σ)) (queued other : Queued σ) : Prop :=
  queued ∈ waiting ∧ other ∈ waiting ∧
    ∃ resource ∈ queued.missing, resource ∈ other.configuration.beanNames

theorem DeclareApart.of_perm {waiting permuted : List (Queued σ)} (apart : DeclareApart waiting)
    (perm : waiting.Perm permuted) : DeclareApart permuted :=
  (perm.pairwise_iff List.disjoint_symm).mp apart

theorem DeclareApart.place_eq {waiting : List (Queued σ)} (apart : DeclareApart waiting)
    {place other : Nat} {queued declarer : Queued σ} {bean : String}
    (found : waiting[place]? = some queued) (foundOther : waiting[other]? = some declarer)
    (declared : bean ∈ queued.configuration.beanNames)
    (declaredOther : bean ∈ declarer.configuration.beanNames) : place = other :=
  place_eq_of_disjoint apart found foundOther declared declaredOther

theorem needs_congr {waiting permuted : List (Queued σ)} (perm : waiting.Perm permuted) :
    Needs waiting = Needs permuted := by
  funext queued other
  simp only [Needs, perm.mem_iff]

end Queued

namespace Context

open Queued

theorem awaits_of_apart {context : Context σ} (apart : DeclareApart context.waiting)
    {place other : Nat} {queued source : Queued σ} {resource : String}
    (found : context.waiting[place]? = some queued)
    (foundSource : context.waiting[other]? = some source) (missing : resource ∈ queued.missing)
    (declared : resource ∈ source.configuration.beanNames) : context.Awaits place other := by
  refine ⟨queued, found, resource, missing, ⟨source, foundSource, declared⟩, ?_⟩
  intro later declarer foundLater declaredLater
  exact Nat.le_of_eq (apart.place_eq foundLater foundSource declaredLater declared)

theorem transGen_needs_of_awaits {context : Context σ} {place other : Nat}
    (walk : Relation.TransGen context.Awaits place other) :
    ∃ queued source, context.waiting[place]? = some queued ∧
      context.waiting[other]? = some source ∧
        Relation.TransGen (Needs context.waiting) queued source := by
  have needs_of_awaits : ∀ {place other}, context.Awaits place other →
      ∃ queued source, context.waiting[place]? = some queued ∧
        context.waiting[other]? = some source ∧ Needs context.waiting queued source := by
    rintro place other ⟨queued, found, resource, missing, ⟨source, foundSource, declared⟩, _⟩
    exact ⟨queued, source, found, foundSource, List.mem_of_getElem? found,
      List.mem_of_getElem? foundSource, resource, missing, declared⟩
  induction walk with
  | single edge =>
      rcases needs_of_awaits edge with ⟨queued, source, found, foundSource, needs⟩
      exact ⟨queued, source, found, foundSource, .single needs⟩
  | tail _ edge ih =>
      rcases ih with ⟨queued, middle, found, foundMiddle, walk⟩
      rcases needs_of_awaits edge with ⟨start, source, foundStart, foundSource, needs⟩
      rw [foundMiddle, Option.some.injEq] at foundStart
      subst foundStart
      exact ⟨queued, source, found, foundSource, walk.tail needs⟩

theorem transGen_awaits_of_needs {context : Context σ} (apart : DeclareApart context.waiting)
    {queued source : Queued σ} (walk : Relation.TransGen (Needs context.waiting) queued source)
    {place : Nat} (found : context.waiting[place]? = some queued) :
    ∃ other, context.waiting[other]? = some source ∧
      Relation.TransGen context.Awaits place other := by
  induction walk with
  | single needs =>
      rcases needs with ⟨_, source_mem, resource, missing, declared⟩
      rcases List.mem_iff_getElem?.mp source_mem with ⟨other, foundSource⟩
      exact ⟨other, foundSource, .single (awaits_of_apart apart found foundSource missing declared)⟩
  | tail _ needs ih =>
      rcases ih with ⟨between, foundBetween, walk⟩
      rcases needs with ⟨_, source_mem, resource, missing, declared⟩
      rcases List.mem_iff_getElem?.mp source_mem with ⟨other, foundSource⟩
      exact ⟨other, foundSource,
        walk.tail (awaits_of_apart apart foundBetween foundSource missing declared)⟩

/-- Without common beans, there is a circle of places exactly if there is one of configurations. -/
theorem hasCircle_iff_of_apart {context : Context σ} (apart : DeclareApart context.waiting) :
    context.HasCircle ↔ ∃ queued, Relation.TransGen (Needs context.waiting) queued queued := by
  constructor
  · rintro ⟨place, walk⟩
    rcases transGen_needs_of_awaits walk with ⟨queued, source, found, foundSource, walk⟩
    rw [found, Option.some.injEq] at foundSource
    subst foundSource
    exact ⟨queued, walk⟩
  · rintro ⟨queued, walk⟩
    -- Equal configurations may wait at several places, but only if they declare nothing.
    rcases Relation.TransGen.tail'_iff.mp walk with ⟨_, _, _, queued_mem, _, _, declared⟩
    rcases List.mem_iff_getElem?.mp queued_mem with ⟨place, found⟩
    rcases transGen_awaits_of_needs apart walk found with ⟨other, foundOther, walk⟩
    rw [← apart.place_eq found foundOther declared declared] at walk
    exact ⟨place, walk⟩

theorem hasCircle_congr {left right : Context σ} (perm : left.waiting.Perm right.waiting)
    (apart : DeclareApart left.waiting) : left.HasCircle ↔ right.HasCircle := by
  rw [hasCircle_iff_of_apart apart, hasCircle_iff_of_apart (apart.of_perm perm), needs_congr perm]

/-- The order of the queue does not matter for the kind of the conclusion. -/
theorem conclude_kind_congr {left right : Context σ} (perm : left.waiting.Perm right.waiting)
    (apart : DeclareApart left.waiting) :
    left.conclude.1.mapError (·.kind) = right.conclude.1.mapError (·.kind) := by
  by_cases empty : left.waiting = []
  · have emptyRight : right.waiting = [] := by simpa [empty] using perm
    rw [conclude_of_empty empty, conclude_of_empty emptyRight]
  · have waitsRight : right.waiting ≠ [] := by
      rintro emptyRight
      rw [emptyRight] at perm
      exact empty perm.eq_nil
    have same := hasCircle_congr perm apart
    rcases conclude_of_waiting empty with ⟨circle, trace, concluded⟩ | ⟨noCircle, concluded⟩
    · rcases conclude_of_waiting waitsRight with ⟨_, other, concludedRight⟩ | ⟨noCircle, _⟩
      · rw [concluded, concludedRight]
        rfl
      · exact absurd (same.mp circle) noCircle
    · rcases conclude_of_waiting waitsRight with ⟨circle, _⟩ | ⟨_, concludedRight⟩
      · exact absurd (same.mpr circle) noCircle
      · rw [concluded, concludedRight]
        rfl

end Context

end BeanContainer
