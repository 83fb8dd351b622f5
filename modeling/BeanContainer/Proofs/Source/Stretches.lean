import BeanContainer.Proofs.Source.Reading

/-!
# The stretches between commas

A forest is split where a comma stands beside its trees. A comma may stand at the end; nothing comes
after it then.
-/

namespace BeanContainer.Source.Forest

/-- A tree in front of the first stretch. -/
def inFront (tree : Forest) : List Forest → List Forest
  | [] => [tree]
  | first :: others => (tree ++ first) :: others

/-- What stands between the commas. Nothing is no stretch, if it is behind the last comma. -/
def stretches : Forest → List Forest
  | .nil => []
  | .leaf (.mark ',' _) rest => .nil :: rest.stretches
  | .leaf token rest => inFront (.leaf token .nil) rest.stretches
  | .group delimiter content rest => inFront (.group delimiter content .nil) rest.stretches
  | .tagged name content rest => inFront (.tagged name content .nil) rest.stretches
  | .expression place inner rest => inFront (.expression place inner .nil) rest.stretches

/-- Whether the last tree is a comma. -/
def endsInComma : Forest → Bool
  | .nil => false
  | .leaf (.mark ',' _) .nil => true
  | .leaf _ rest | .group _ _ rest | .tagged _ _ rest | .expression _ _ rest => rest.endsInComma

/--
The other forest has the same stretches in another order. Those that begin with the same one of the
words keep their order.
-/
structure IsReordering (words : List String) (forest other : Forest) : Prop where
  perm : other.stretches.Perm forest.stretches
  keeps : ∀ word ∈ words, other.stretches.filter (·.starts (.word word)) =
    forest.stretches.filter (·.starts (.word word))
  /-- There is a comma at the end of both or of neither. -/
  ends : other.endsInComma = forest.endsInComma

instance (words : List String) (forest other : Forest) :
    Decidable (forest.IsReordering words other) :=
  decidable_of_iff (other.stretches.Perm forest.stretches ∧
    (∀ word ∈ words, other.stretches.filter (·.starts (.word word)) =
      forest.stretches.filter (·.starts (.word word))) ∧
    other.endsInComma = forest.endsInComma)
    ⟨fun ⟨perm, keeps, ends⟩ => ⟨perm, keeps, ends⟩,
      fun ⟨perm, keeps, ends⟩ => ⟨perm, keeps, ends⟩⟩

theorem IsReordering.symm {words : List String} {forest other : Forest}
    (isReordering : forest.IsReordering words other) : other.IsReordering words forest where
  perm := isReordering.perm.symm
  keeps word word_mem := (isReordering.keeps word word_mem).symm
  ends := isReordering.ends.symm

variable {tree rest forest other first : Forest} {list others : List Forest}

theorem inFront_ne_nil : inFront tree list ≠ [] := by
  cases list <;> simp [inFront]

theorem stretches_eq_nil_iff : forest.stretches = [] ↔ forest = .nil := by
  induction forest using stretches.induct with
  | case1 => simp [stretches]
  | case2 isJoint rest => simp [stretches]
  | case3 token rest notComma => simp [stretches, inFront_ne_nil]
  | case4 delimiter content rest => simp [stretches, inFront_ne_nil]
  | case5 name content rest => simp [stretches, inFront_ne_nil]
  | case6 place inner rest => simp [stretches, inFront_ne_nil]

/-- The first stretch reaches to the first comma, or to the end. -/
def BeginsWith (forest first : Forest) (others : List Forest) : Prop :=
  (forest = first ∧ others = []) ∨
    ∃ isJoint rest, forest = first ++ .leaf (.mark ',' isJoint) rest ∧ rest.stretches = others

theorem BeginsWith.inFront
    (begins : ∀ first others, rest.stretches = first :: others → rest.BeginsWith first others)
    (isSplit : Forest.inFront tree rest.stretches = first :: others) :
    (tree ++ rest).BeginsWith first others := by
  cases isRest : rest.stretches with
  | nil =>
      simp only [isRest, Forest.inFront, List.cons.injEq] at isSplit
      rcases isSplit with ⟨rfl, rfl⟩
      rw [stretches_eq_nil_iff.mp isRest]
      exact .inl ⟨append_nil tree, rfl⟩
  | cons next further =>
      simp only [isRest, Forest.inFront, List.cons.injEq] at isSplit
      rcases isSplit with ⟨rfl, rfl⟩
      rcases begins next further isRest with ⟨rfl, isLast⟩ | ⟨isJoint, behind, rfl, isBehind⟩
      · exact .inl ⟨rfl, isLast⟩
      · exact .inr ⟨isJoint, behind, (append_assoc tree next _).symm, isBehind⟩

theorem beginsWith_of_stretches (isSplit : forest.stretches = first :: others) :
    forest.BeginsWith first others := by
  induction forest using stretches.induct generalizing first others with
  | case1 => simp [stretches] at isSplit
  | case2 isJoint rest ih =>
      simp only [stretches, List.cons.injEq] at isSplit
      rcases isSplit with ⟨rfl, isRest⟩
      exact .inr ⟨isJoint, rest, rfl, isRest⟩
  | case3 token rest notComma ih =>
      simp only [stretches] at isSplit
      exact BeginsWith.inFront (fun _ _ => ih) isSplit
  | case4 delimiter content rest ih => exact BeginsWith.inFront (fun _ _ => ih) isSplit
  | case5 name content rest ih => exact BeginsWith.inFront (fun _ _ => ih) isSplit
  | case6 place inner rest ih => exact BeginsWith.inFront (fun _ _ => ih) isSplit

/-- The number of tokens and brackets of the stretches, with a comma behind each. -/
def extent : List Forest → Nat
  | [] => 0
  | first :: others => first.size + 1 + extent others

theorem extent_perm (perm : list.Perm others) : extent list = extent others := by
  induction perm with
  | nil => rfl
  | cons first _ ih => rw [extent, extent, ih]
  | swap first second others =>
      simp only [extent]
      omega
  | trans _ _ ihFirst ihSecond => exact ihFirst.trans ihSecond

/-- What a comma at the end would add, if there is none. -/
def missingComma (forest : Forest) : Nat :=
  (!forest.endsInComma).toNat

theorem extent_inFront
    (isExtent : rest ≠ .nil → extent rest.stretches = rest.size + rest.missingComma) :
    extent (inFront tree rest.stretches) = tree.size + (rest.size + rest.missingComma) := by
  cases isRest : rest.stretches with
  | nil =>
      rw [stretches_eq_nil_iff.mp isRest]
      simp [inFront, extent, size, missingComma, endsInComma]
  | cons next further =>
      have notNil : rest ≠ .nil := by
        rintro rfl
        simp [stretches] at isRest
      rw [← isExtent notNil, isRest]
      simp only [inFront, extent, size_append]
      omega

theorem extent_stretches (notNil : forest ≠ .nil) :
    extent forest.stretches = forest.size + forest.missingComma := by
  induction forest using stretches.induct with
  | case1 => exact absurd rfl notNil
  | case2 isJoint rest ih =>
      -- A comma at the end closes the last stretch, and then none is missing there.
      by_cases isNil : rest = .nil
      · rw [isNil]
        rfl
      have same : (leaf (.mark ',' isJoint) rest).endsInComma = rest.endsInComma := by
        rw [endsInComma]
        exact fun _ _ isLast => isNil isLast
      simp only [stretches, extent, ih isNil, missingComma, same, size]
      omega
  | case3 token rest notComma ih =>
      have same : (leaf token rest).endsInComma = rest.endsInComma := by
        rw [endsInComma]
        exact fun isJoint isComma _ => notComma isJoint isComma
      simp only [stretches, extent_inFront ih, missingComma, same, size]
      omega
  | case4 delimiter content rest ih =>
      simp only [stretches, extent_inFront ih, missingComma, endsInComma, size]
      omega
  | case5 name content rest ih =>
      simp only [stretches, extent_inFront ih, missingComma, endsInComma, size]
      omega
  | case6 place inner rest ih =>
      simp only [stretches, extent_inFront ih, missingComma, endsInComma, size]
      omega

theorem IsReordering.size_eq {words : List String} (isReordering : forest.IsReordering words other) :
    other.size = forest.size := by
  by_cases isNil : forest = .nil
  · have isEmpty := isReordering.perm
    rw [isNil] at isEmpty
    rw [isNil, stretches_eq_nil_iff.mp isEmpty.eq_nil]
  · have notNil : other ≠ .nil := by
      rintro rfl
      exact isNil (stretches_eq_nil_iff.mp isReordering.perm.nil_eq.symm)
    have extents : extent other.stretches = extent forest.stretches :=
      extent_perm isReordering.perm
    rw [extent_stretches isNil, extent_stretches notNil, missingComma, missingComma,
      isReordering.ends] at extents
    omega

end BeanContainer.Source.Forest
