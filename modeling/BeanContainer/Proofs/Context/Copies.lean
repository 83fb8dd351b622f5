import BeanContainer.Proofs.Context.SearchInvariance

/-!
# Copies of configurations

A configuration that is reached along several paths is queued several times. Each copy is a
configuration of its own for the search, and the last copy is the source of the beans. Whether a
cycle is told does not depend on this, if any two configurations that declare a common bean need the
same resources: then it does not matter which declarer of a bean the search goes on from.

Places of the two lists correspond if their configurations need the same resources. What one of them
requires corresponds to something that the other one requires, so walks go side by side.
-/

namespace BeanContainer.Node

variable {nodes copies : List Node} {place copy next : Nat}

/-- Any two configurations that declare a common bean need the same resources. -/
def DeclareAlike (nodes : List Node) : Prop :=
  ∀ node ∈ nodes, ∀ other ∈ nodes, ∀ bean, bean ∈ node.beans → bean ∈ other.beans →
    ∀ resource, resource ∈ node.resources ↔ resource ∈ other.resources

/-- The configurations at the places, one in each list, need the same resources. -/
def NeedAlike (nodes copies : List Node) (place copy : Nat) : Prop :=
  ∃ node other, nodes[place]? = some node ∧ copies[copy]? = some other ∧
    ∀ resource, resource ∈ node.resources ↔ resource ∈ other.resources

theorem Declares.exists_isSource {bean : String} (declares : Declares nodes place bean) :
    ∃ last, IsSource nodes bean last := by
  cases source : source? nodes bean with
  | some last => exact ⟨last, source?_eq_some_iff.mp source⟩
  | none => exact absurd declares (source?_eq_none_iff.mp source place)

theorem exists_getElem?_of_subset (subset : nodes ⊆ copies) {node : Node}
    (found : nodes[place]? = some node) : ∃ copy : Nat, copies[copy]? = some node :=
  List.mem_iff_getElem?.mp (subset (List.mem_of_getElem? found))

/-- Both lists have a source of the bean, and the two need the same, whichever copies they are. -/
theorem IsSource.exists_needAlike (alike : DeclareAlike nodes) (subset : nodes ⊆ copies)
    (known : copies ⊆ nodes) {bean : String} (source : IsSource nodes bean place) :
    ∃ copy, IsSource copies bean copy ∧ NeedAlike nodes copies place copy := by
  rcases source.1 with ⟨node, found, declared⟩
  rcases exists_getElem?_of_subset subset found with ⟨image, foundImage⟩
  have declaresImage : Declares copies image bean := ⟨node, foundImage, declared⟩
  rcases declaresImage.exists_isSource with ⟨copy, isSource⟩
  rcases isSource.1 with ⟨other, foundOther, declaredOther⟩
  refine ⟨copy, isSource, node, other, found, foundOther, ?_⟩
  apply alike node (List.mem_of_getElem? found) other _ bean declared declaredOther
  exact known (List.mem_of_getElem? foundOther)

theorem NeedAlike.requires (same : NeedAlike nodes copies place copy)
    (alike : DeclareAlike nodes) (subset : nodes ⊆ copies) (known : copies ⊆ nodes)
    (requires : Requires nodes place next) :
    ∃ nextCopy, Requires copies copy nextCopy ∧ NeedAlike nodes copies next nextCopy := by
  rcases same with ⟨node, other, found, foundOther, sameNeeds⟩
  rcases requires with ⟨needy, foundNeedy, resource, needed, source⟩
  have sameNode : needy = node := by simpa [found, eq_comm] using foundNeedy
  subst sameNode
  rcases source.exists_needAlike alike subset known with ⟨nextCopy, sourceCopy, sameNext⟩
  exact ⟨nextCopy, ⟨other, foundOther, resource, (sameNeeds resource).mp needed, sourceCopy⟩,
    sameNext⟩

/-- A cycle does not go away when configurations are copied or copies are left out. -/
theorem HasCycle.of_copies (alike : DeclareAlike nodes) (subset : nodes ⊆ copies)
    (known : copies ⊆ nodes) (cycle : HasCycle nodes) : HasCycle copies := by
  by_contra noCycle
  rcases cycle with ⟨place, walk⟩
  obtain ⟨next, ⟨node, found, _⟩, _⟩ := Relation.TransGen.head'_iff.mp walk
  rcases exists_getElem?_of_subset subset found with ⟨copy, foundCopy⟩
  have begins : NeedAlike nodes copies place copy :=
    ⟨node, node, found, foundCopy, fun _ => Iff.rfl⟩
  have ends := acc_requires_of_not_hasCycle noCycle copy
  refine not_transGen_self_of_acc (acc_of_simulates ?_ begins ends) walk
  intro start next image same requires
  exact same.requires alike subset known requires

/--
Let any two configurations that declare a common bean need the same resources. Then whether a cycle
is told depends neither on how often each configuration was added nor on the order.
-/
theorem cycleTrace?_isSome_iff_of_copies {nodes copies : List Node} (alike : DeclareAlike nodes)
    (same : ∀ node, node ∈ copies ↔ node ∈ nodes) :
    (cycleTrace? copies).isSome ↔ (cycleTrace? nodes).isSome := by
  have known : copies ⊆ nodes := fun node => (same node).mp
  have subset : nodes ⊆ copies := fun node => (same node).mpr
  have alikeCopies : DeclareAlike copies := by
    intro node node_mem other other_mem
    exact alike node (known node_mem) other (known other_mem)
  simp only [cycleTrace?, Option.isSome_map, findCycle?_isSome_iff]
  constructor
  · intro cycle
    exact cycle.of_copies alikeCopies known subset
  · intro cycle
    exact cycle.of_copies alike subset known

/-- The house needs a bean that two rivals declare, both of which need the bean of the house. -/
def rivals : List Node :=
  [⟨"well", ["pump", "rope"], ["water"]⟩, ⟨"rival", ["rope", "pump", "rope"], ["water", "ice"]⟩,
    ⟨"house", ["water"], ["pump"]⟩]

/-- The house twice and one rival three times, in another order. -/
def repeatedRivals : List Node :=
  [⟨"house", ["water"], ["pump"]⟩, ⟨"rival", ["rope", "pump", "rope"], ["water", "ice"]⟩,
    ⟨"well", ["pump", "rope"], ["water"]⟩, ⟨"well", ["pump", "rope"], ["water"]⟩,
    ⟨"house", ["water"], ["pump"]⟩, ⟨"well", ["pump", "rope"], ["water"]⟩]

theorem cycleTrace?_repeatedRivals :
    cycleTrace? rivals = some ["house::water", "rival::pump", "house::water"] ∧
      (cycleTrace? repeatedRivals).isSome := by
  have told : cycleTrace? rivals = some ["house::water", "rival::pump", "house::water"] := by cbv
  refine ⟨told, (cycleTrace?_isSome_iff_of_copies ?_ ?_).mpr (Option.isSome_of_eq_some told)⟩
  · simp [DeclareAlike, rivals]
  · intro node
    simp only [rivals, repeatedRivals, List.mem_cons, List.not_mem_nil, or_false]
    tauto

end BeanContainer.Node
