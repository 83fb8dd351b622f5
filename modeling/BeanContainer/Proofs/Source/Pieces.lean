import BeanContainer.Proofs.Source.Reading

/-!
# Forests piece by piece

A forest is told by its pieces, from its beginning to its end: tokens, brackets, the bounds of
attributes, and the kinds of expressions with the bounds of their parts. With each piece go the
attributes that it stands in. To remove attributes is to leave out just the pieces that stand in
them, and as forests with the same pieces are the same, this tells all that a removal does.
-/

namespace BeanContainer.Source

/-- What a piece of a forest is. -/
inductive Mark where
  | token (token : Token)
  | opening (delimiter : Delimiter)
  | attribute
  | place (place : Place)
  /-- The beginning of an expression, told by one of its kind that has nothing in it. -/
  | outline (blank : Expression)
  /-- The end of a group, of an attribute, or of a part of an expression. -/
  | closing
  deriving DecidableEq

/-- A piece of a forest, and the paths of the attributes that it stands in. -/
structure Piece where
  around : List (Option Identifier)
  mark : Mark
  deriving DecidableEq

mutual

/-- The pieces of the forest, which stands in attributes itself. -/
def Forest.pieces : Forest → List (Option Identifier) → List Piece
  | .nil, _ => []
  | .leaf token rest, around => ⟨around, .token token⟩ :: rest.pieces around
  | .group delimiter content rest, around =>
    ⟨around, .opening delimiter⟩ :: content.pieces around ++
      ⟨around, .closing⟩ :: rest.pieces around
  | .tagged name content rest, around =>
    ⟨name :: around, .attribute⟩ :: content.pieces (name :: around) ++
      ⟨name :: around, .closing⟩ :: rest.pieces around
  | .expression place inner rest, around =>
    ⟨around, .place place⟩ :: inner.pieces around ++ rest.pieces around

/-- The pieces of the expression, which stands in attributes itself. -/
def Expression.pieces : Expression → List (Option Identifier) → List Piece
  | .absent, around => [⟨around, .outline .absent⟩]
  | .atom kind annotations content, around =>
    ⟨around, .outline (.atom kind .nil .nil)⟩ :: annotations.pieces around ++
      ⟨around, .closing⟩ :: content.pieces around ++ [⟨around, .closing⟩]
  | .block annotations label inner statements, around =>
    ⟨around, .outline (.block .nil .nil .nil .nil)⟩ :: annotations.pieces around ++
      ⟨around, .closing⟩ :: label.pieces around ++ ⟨around, .closing⟩ :: inner.pieces around ++
      ⟨around, .closing⟩ :: statements.pieces around ++ [⟨around, .closing⟩]
  | .trailed kind annotations base trailer, around =>
    ⟨around, .outline (.trailed kind .nil .absent .nil)⟩ :: annotations.pieces around ++
      ⟨around, .closing⟩ :: base.pieces around ++ trailer.pieces around ++ [⟨around, .closing⟩]
  | .prefixed annotations operator operand, around =>
    ⟨around, .outline (.prefixed .nil .nil .absent)⟩ :: annotations.pieces around ++
      ⟨around, .closing⟩ :: operator.pieces around ++ ⟨around, .closing⟩ :: operand.pieces around
  | .joined annotations left operator right, around =>
    ⟨around, .outline (.joined .nil .absent operator .absent)⟩ :: annotations.pieces around ++
      ⟨around, .closing⟩ :: left.pieces around ++ right.pieces around
  | .cast annotations value type, around =>
    ⟨around, .outline (.cast .nil .absent .nil)⟩ :: annotations.pieces around ++
      ⟨around, .closing⟩ :: value.pieces around ++ type.pieces around ++ [⟨around, .closing⟩]
  | .range annotations first dots last, around =>
    ⟨around, .outline (.range .nil .absent .nil .absent)⟩ :: annotations.pieces around ++
      ⟨around, .closing⟩ :: first.pieces around ++ dots.pieces around ++
      ⟨around, .closing⟩ :: last.pieces around
  | .jump kind annotations head value, around =>
    ⟨around, .outline (.jump kind .nil .nil .absent)⟩ :: annotations.pieces around ++
      ⟨around, .closing⟩ :: head.pieces around ++ ⟨around, .closing⟩ :: value.pieces around
  | .closure hasResult annotations head body, around =>
    ⟨around, .outline (.closure hasResult .nil .nil .absent)⟩ :: annotations.pieces around ++
      ⟨around, .closing⟩ :: head.pieces around ++ ⟨around, .closing⟩ :: body.pieces around
  | .matched annotations head value, around =>
    ⟨around, .outline (.matched .nil .nil .absent)⟩ :: annotations.pieces around ++
      ⟨around, .closing⟩ :: head.pieces around ++ ⟨around, .closing⟩ :: value.pieces around

end

/-- The piece stands in no attribute that is named by one of the identifiers. -/
def Piece.isOutside (isDropped : Identifier → Bool) (piece : Piece) : Bool :=
  !piece.around.any (·.any isDropped)

mutual

/-- What stands in the forest stands in the attributes around it. -/
theorem Forest.subset_around : ∀ (forest : Forest) (around : List (Option Identifier)),
    ∀ piece ∈ forest.pieces around, around ⊆ piece.around
  | .nil, around => by simp [Forest.pieces]
  | .leaf token rest, around => by simpa [Forest.pieces] using rest.subset_around around
  | .group delimiter content rest, around => by
    simpa [Forest.pieces, or_imp, forall_and] using
      ⟨content.subset_around around, rest.subset_around around⟩
  | .tagged name content rest, around => by
    have inside : ∀ piece ∈ content.pieces (name :: around), around ⊆ piece.around :=
      fun piece piece_mem => (List.cons_subset.mp
        (content.subset_around (name :: around) piece piece_mem)).2
    simpa [Forest.pieces, or_imp, forall_and] using ⟨inside, rest.subset_around around⟩
  | .expression place inner rest, around => by
    simpa [Forest.pieces, or_imp, forall_and] using
      ⟨inner.subset_around around, rest.subset_around around⟩

/-- What stands in the expression stands in the attributes around it. -/
theorem Expression.subset_around : ∀ (expression : Expression) (around : List (Option Identifier)),
    ∀ piece ∈ expression.pieces around, around ⊆ piece.around
  | .absent, around => by simp [Expression.pieces]
  | .atom kind annotations content, around => by
    simpa [Expression.pieces, or_imp, forall_and] using
      ⟨annotations.subset_around around, content.subset_around around⟩
  | .block annotations label inner statements, around => by
    simpa [Expression.pieces, or_imp, forall_and] using
      ⟨annotations.subset_around around, label.subset_around around, inner.subset_around around,
        statements.subset_around around⟩
  | .trailed kind annotations base trailer, around => by
    simpa [Expression.pieces, or_imp, forall_and] using
      ⟨annotations.subset_around around, base.subset_around around, trailer.subset_around around⟩
  | .prefixed annotations operator operand, around => by
    simpa [Expression.pieces, or_imp, forall_and] using
      ⟨annotations.subset_around around, operator.subset_around around,
        operand.subset_around around⟩
  | .joined annotations left operator right, around => by
    simpa [Expression.pieces, or_imp, forall_and] using
      ⟨annotations.subset_around around, left.subset_around around, right.subset_around around⟩
  | .cast annotations value type, around => by
    simpa [Expression.pieces, or_imp, forall_and] using
      ⟨annotations.subset_around around, value.subset_around around, type.subset_around around⟩
  | .range annotations first dots last, around => by
    simpa [Expression.pieces, or_imp, forall_and] using
      ⟨annotations.subset_around around, first.subset_around around, dots.subset_around around,
        last.subset_around around⟩
  | .jump kind annotations head value, around => by
    simpa [Expression.pieces, or_imp, forall_and] using
      ⟨annotations.subset_around around, head.subset_around around, value.subset_around around⟩
  | .closure hasResult annotations head body, around => by
    simpa [Expression.pieces, or_imp, forall_and] using
      ⟨annotations.subset_around around, head.subset_around around, body.subset_around around⟩
  | .matched annotations head value, around => by
    simpa [Expression.pieces, or_imp, forall_and] using
      ⟨annotations.subset_around around, head.subset_around around, value.subset_around around⟩

end

variable {isDropped : Identifier → Bool} {around : List (Option Identifier)}

theorem Piece.isOutside_mk {mark : Mark} (isKept : around.any (·.any isDropped) = false) :
    (⟨around, mark⟩ : Piece).isOutside isDropped = true := by
  simp [Piece.isOutside, isKept]

mutual

/-- Without some attributes the forest has just the pieces that stand in none of them. -/
theorem Forest.pieces_without : ∀ (forest : Forest) {around : List (Option Identifier)},
    around.any (·.any isDropped) = false → (forest.without isDropped).pieces around =
      (forest.pieces around).filter (·.isOutside isDropped)
  | .nil, around, _ => rfl
  | .leaf token rest, around, isKept => by
    simp [Forest.pieces, Forest.without, Piece.isOutside_mk isKept, rest.pieces_without isKept]
  | .group delimiter content rest, around, isKept => by
    simp [Forest.pieces, Forest.without, Piece.isOutside_mk isKept, content.pieces_without isKept,
      rest.pieces_without isKept]
  | .tagged name content rest, around, isKept => by
    cases isNamed : name.any isDropped with
    | false =>
        have isKeptInside : (name :: around).any (·.any isDropped) = false := by
          simp [isNamed, isKept]
        simp [Forest.pieces, Forest.without, isNamed, Piece.isOutside_mk isKeptInside,
          content.pieces_without isKeptInside, rest.pieces_without isKept]
    | true =>
        -- All that stands in the attribute has its path around it, so the filter leaves none of it.
        have inside : (content.pieces (name :: around)).filter (·.isOutside isDropped) = [] := by
          refine List.filter_eq_nil_iff.mpr fun piece piece_mem => ?_
          have name_mem := content.subset_around (name :: around) piece piece_mem List.mem_cons_self
          simpa [Piece.isOutside] using ⟨name, name_mem, isNamed⟩
        have isInside : ∀ mark, (⟨name :: around, mark⟩ : Piece).isOutside isDropped = false := by
          simp [Piece.isOutside, isNamed]
        simp [Forest.pieces, Forest.without, isNamed, isInside, inside, rest.pieces_without isKept]
  | .expression place inner rest, around, isKept => by
    simp [Forest.pieces, Forest.without, Piece.isOutside_mk isKept, inner.pieces_without isKept,
      rest.pieces_without isKept]

/-- Without some attributes the expression has just the pieces that stand in none of them. -/
theorem Expression.pieces_without :
    ∀ (expression : Expression) {around : List (Option Identifier)},
      around.any (·.any isDropped) = false → (expression.without isDropped).pieces around =
        (expression.pieces around).filter (·.isOutside isDropped)
  | .absent, around, isKept => by
    simp [Expression.pieces, Expression.without, Piece.isOutside_mk isKept]
  | .atom kind annotations content, around, isKept => by
    simp [Expression.pieces, Expression.without, Piece.isOutside_mk isKept,
      annotations.pieces_without isKept, content.pieces_without isKept]
  | .block annotations label inner statements, around, isKept => by
    simp [Expression.pieces, Expression.without, Piece.isOutside_mk isKept,
      annotations.pieces_without isKept, label.pieces_without isKept, inner.pieces_without isKept,
      statements.pieces_without isKept]
  | .trailed kind annotations base trailer, around, isKept => by
    simp [Expression.pieces, Expression.without, Piece.isOutside_mk isKept,
      annotations.pieces_without isKept, base.pieces_without isKept, trailer.pieces_without isKept]
  | .prefixed annotations operator operand, around, isKept => by
    simp [Expression.pieces, Expression.without, Piece.isOutside_mk isKept,
      annotations.pieces_without isKept, operator.pieces_without isKept,
      operand.pieces_without isKept]
  | .joined annotations left operator right, around, isKept => by
    simp [Expression.pieces, Expression.without, Piece.isOutside_mk isKept,
      annotations.pieces_without isKept, left.pieces_without isKept, right.pieces_without isKept]
  | .cast annotations value type, around, isKept => by
    simp [Expression.pieces, Expression.without, Piece.isOutside_mk isKept,
      annotations.pieces_without isKept, value.pieces_without isKept, type.pieces_without isKept]
  | .range annotations first dots last, around, isKept => by
    simp [Expression.pieces, Expression.without, Piece.isOutside_mk isKept,
      annotations.pieces_without isKept, first.pieces_without isKept, dots.pieces_without isKept,
      last.pieces_without isKept]
  | .jump kind annotations head value, around, isKept => by
    simp [Expression.pieces, Expression.without, Piece.isOutside_mk isKept,
      annotations.pieces_without isKept, head.pieces_without isKept, value.pieces_without isKept]
  | .closure hasResult annotations head body, around, isKept => by
    simp [Expression.pieces, Expression.without, Piece.isOutside_mk isKept,
      annotations.pieces_without isKept, head.pieces_without isKept, body.pieces_without isKept]
  | .matched annotations head value, around, isKept => by
    simp [Expression.pieces, Expression.without, Piece.isOutside_mk isKept,
      annotations.pieces_without isKept, head.pieces_without isKept, value.pieces_without isKept]

end

/-- The pieces end, or something ends with the first of them. -/
def Ends (pieces : List Piece) : Prop :=
  ∀ piece ∈ pieces.head?, piece.mark = .closing

theorem ends_nil : Ends [] := by
  simp [Ends]

theorem ends_closing {pieces : List Piece} : Ends (⟨around, .closing⟩ :: pieces) := by
  simp [Ends]

theorem Forest.eq_nil_of_pieces {forest : Forest} {behind otherBehind : List Piece}
    (ends : Ends otherBehind) (same : forest.pieces around ++ behind = otherBehind) :
    forest = .nil ∧ behind = otherBehind := by
  cases forest with
  | nil => exact ⟨rfl, same⟩
  | _ =>
    rw [← same] at ends
    simp [pieces, Ends] at ends

mutual

/-- Forests with the same pieces are the same, and so is what follows them. -/
theorem Forest.eq_of_pieces : ∀ (forest other : Forest) {around : List (Option Identifier)}
    {behind otherBehind : List Piece}, Ends behind → Ends otherBehind →
      forest.pieces around ++ behind = other.pieces around ++ otherBehind →
      forest = other ∧ behind = otherBehind
  | .nil, other, around, behind, otherBehind, ends, _, same => by
    -- What follows begins with the end of something, and no other forest does.
    rcases Forest.eq_nil_of_pieces ends same.symm with ⟨rfl, isBehind⟩
    exact ⟨rfl, isBehind.symm⟩
  | .leaf token rest, other, around, behind, otherBehind, ends, otherEnds, same => by
    cases other with
    | nil => exact Forest.eq_nil_of_pieces otherEnds same
    | leaf otherToken otherRest =>
        simp only [Forest.pieces, List.cons_append, List.cons.injEq, Piece.mk.injEq, true_and,
          Mark.token.injEq] at same
        rcases same with ⟨rfl, same⟩
        rcases rest.eq_of_pieces otherRest ends otherEnds same with ⟨rfl, isBehind⟩
        exact ⟨rfl, isBehind⟩
    | _ => simp [Forest.pieces] at same
  | .group delimiter content rest, other, around, behind, otherBehind, ends, otherEnds, same => by
    cases other with
    | nil => exact Forest.eq_nil_of_pieces otherEnds same
    | group otherDelimiter otherContent otherRest =>
        simp only [Forest.pieces, List.cons_append, List.append_assoc, List.cons.injEq,
          Piece.mk.injEq, true_and, Mark.opening.injEq] at same
        rcases same with ⟨rfl, same⟩
        rcases content.eq_of_pieces otherContent ends_closing ends_closing same with
          ⟨rfl, afterContent⟩
        rcases rest.eq_of_pieces otherRest ends otherEnds
          (List.tail_eq_of_cons_eq afterContent) with ⟨rfl, isBehind⟩
        exact ⟨rfl, isBehind⟩
    | _ => simp [Forest.pieces] at same
  | .tagged name content rest, other, around, behind, otherBehind, ends, otherEnds, same => by
    cases other with
    | nil => exact Forest.eq_nil_of_pieces otherEnds same
    | tagged otherName otherContent otherRest =>
        simp only [Forest.pieces, List.cons_append, List.append_assoc, List.cons.injEq,
          Piece.mk.injEq, and_true] at same
        rcases same with ⟨rfl, same⟩
        rcases content.eq_of_pieces otherContent ends_closing ends_closing same with
          ⟨rfl, afterContent⟩
        rcases rest.eq_of_pieces otherRest ends otherEnds
          (List.tail_eq_of_cons_eq afterContent) with ⟨rfl, isBehind⟩
        exact ⟨rfl, isBehind⟩
    | _ => simp [Forest.pieces] at same
  | .expression place inner rest, other, around, behind, otherBehind, ends, otherEnds, same => by
    cases other with
    | nil => exact Forest.eq_nil_of_pieces otherEnds same
    | expression otherPlace otherInner otherRest =>
        simp only [Forest.pieces, List.cons_append, List.append_assoc, List.cons.injEq,
          Piece.mk.injEq, true_and, Mark.place.injEq] at same
        rcases same with ⟨rfl, same⟩
        rcases inner.eq_of_pieces otherInner same with ⟨rfl, afterInner⟩
        rcases rest.eq_of_pieces otherRest ends otherEnds afterInner with ⟨rfl, isBehind⟩
        exact ⟨rfl, isBehind⟩
    | _ => simp [Forest.pieces] at same

/-- Expressions with the same pieces are the same, and so is what follows them. -/
theorem Expression.eq_of_pieces : ∀ (expression other : Expression)
    {around : List (Option Identifier)} {behind otherBehind : List Piece},
      expression.pieces around ++ behind = other.pieces around ++ otherBehind →
      expression = other ∧ behind = otherBehind
  | .absent, other, around, behind, otherBehind, same => by
    cases other with
    | absent => exact ⟨rfl, List.tail_eq_of_cons_eq same⟩
    | _ => simp [Expression.pieces] at same
  | .atom kind annotations content, other, around, behind, otherBehind, same => by
    cases other with
    | atom otherKind otherAnnotations otherContent =>
        simp only [Expression.pieces, List.cons_append, List.append_assoc, List.nil_append,
          List.cons.injEq, Piece.mk.injEq, true_and, Mark.outline.injEq, Expression.atom.injEq,
          and_true] at same
        rcases same with ⟨rfl, same⟩
        rcases annotations.eq_of_pieces otherAnnotations ends_closing ends_closing same with
          ⟨rfl, afterAnnotations⟩
        rcases content.eq_of_pieces otherContent ends_closing ends_closing
          (List.tail_eq_of_cons_eq afterAnnotations) with ⟨rfl, afterContent⟩
        exact ⟨rfl, List.tail_eq_of_cons_eq afterContent⟩
    | _ => simp [Expression.pieces] at same
  | .block annotations label inner statements, other, around, behind, otherBehind, same => by
    cases other with
    | block otherAnnotations otherLabel otherInner otherStatements =>
        simp only [Expression.pieces, List.cons_append, List.append_assoc, List.nil_append,
          List.cons.injEq, true_and] at same
        rcases annotations.eq_of_pieces otherAnnotations ends_closing ends_closing same with
          ⟨rfl, afterAnnotations⟩
        rcases label.eq_of_pieces otherLabel ends_closing ends_closing
          (List.tail_eq_of_cons_eq afterAnnotations) with ⟨rfl, afterLabel⟩
        rcases inner.eq_of_pieces otherInner ends_closing ends_closing
          (List.tail_eq_of_cons_eq afterLabel) with ⟨rfl, afterInner⟩
        rcases statements.eq_of_pieces otherStatements ends_closing ends_closing
          (List.tail_eq_of_cons_eq afterInner) with ⟨rfl, afterStatements⟩
        exact ⟨rfl, List.tail_eq_of_cons_eq afterStatements⟩
    | _ => simp [Expression.pieces] at same
  | .trailed kind annotations base trailer, other, around, behind, otherBehind, same => by
    cases other with
    | trailed otherKind otherAnnotations otherBase otherTrailer =>
        simp only [Expression.pieces, List.cons_append, List.append_assoc, List.nil_append,
          List.cons.injEq, Piece.mk.injEq, true_and, Mark.outline.injEq, Expression.trailed.injEq,
          and_true] at same
        rcases same with ⟨rfl, same⟩
        rcases annotations.eq_of_pieces otherAnnotations ends_closing ends_closing same with
          ⟨rfl, afterAnnotations⟩
        rcases base.eq_of_pieces otherBase (List.tail_eq_of_cons_eq afterAnnotations) with
          ⟨rfl, afterBase⟩
        rcases trailer.eq_of_pieces otherTrailer ends_closing ends_closing afterBase with
          ⟨rfl, afterTrailer⟩
        exact ⟨rfl, List.tail_eq_of_cons_eq afterTrailer⟩
    | _ => simp [Expression.pieces] at same
  | .prefixed annotations operator operand, other, around, behind, otherBehind, same => by
    cases other with
    | prefixed otherAnnotations otherOperator otherOperand =>
        simp only [Expression.pieces, List.cons_append, List.append_assoc, List.cons.injEq,
          true_and] at same
        rcases annotations.eq_of_pieces otherAnnotations ends_closing ends_closing same with
          ⟨rfl, afterAnnotations⟩
        rcases operator.eq_of_pieces otherOperator ends_closing ends_closing
          (List.tail_eq_of_cons_eq afterAnnotations) with ⟨rfl, afterOperator⟩
        rcases operand.eq_of_pieces otherOperand (List.tail_eq_of_cons_eq afterOperator) with
          ⟨rfl, afterOperand⟩
        exact ⟨rfl, afterOperand⟩
    | _ => simp [Expression.pieces] at same
  | .joined annotations left operator right, other, around, behind, otherBehind, same => by
    cases other with
    | joined otherAnnotations otherLeft otherOperator otherRight =>
        simp only [Expression.pieces, List.cons_append, List.append_assoc, List.cons.injEq,
          Piece.mk.injEq, true_and, Mark.outline.injEq, Expression.joined.injEq, and_true] at same
        rcases same with ⟨rfl, same⟩
        rcases annotations.eq_of_pieces otherAnnotations ends_closing ends_closing same with
          ⟨rfl, afterAnnotations⟩
        rcases left.eq_of_pieces otherLeft (List.tail_eq_of_cons_eq afterAnnotations) with
          ⟨rfl, afterLeft⟩
        rcases right.eq_of_pieces otherRight afterLeft with ⟨rfl, afterRight⟩
        exact ⟨rfl, afterRight⟩
    | _ => simp [Expression.pieces] at same
  | .cast annotations value type, other, around, behind, otherBehind, same => by
    cases other with
    | cast otherAnnotations otherValue otherType =>
        simp only [Expression.pieces, List.cons_append, List.append_assoc, List.nil_append,
          List.cons.injEq, true_and] at same
        rcases annotations.eq_of_pieces otherAnnotations ends_closing ends_closing same with
          ⟨rfl, afterAnnotations⟩
        rcases value.eq_of_pieces otherValue (List.tail_eq_of_cons_eq afterAnnotations) with
          ⟨rfl, afterValue⟩
        rcases type.eq_of_pieces otherType ends_closing ends_closing afterValue with
          ⟨rfl, afterType⟩
        exact ⟨rfl, List.tail_eq_of_cons_eq afterType⟩
    | _ => simp [Expression.pieces] at same
  | .range annotations first dots last, other, around, behind, otherBehind, same => by
    cases other with
    | range otherAnnotations otherFirst otherDots otherLast =>
        simp only [Expression.pieces, List.cons_append, List.append_assoc, List.cons.injEq,
          true_and] at same
        rcases annotations.eq_of_pieces otherAnnotations ends_closing ends_closing same with
          ⟨rfl, afterAnnotations⟩
        rcases first.eq_of_pieces otherFirst (List.tail_eq_of_cons_eq afterAnnotations) with
          ⟨rfl, afterFirst⟩
        rcases dots.eq_of_pieces otherDots ends_closing ends_closing afterFirst with
          ⟨rfl, afterDots⟩
        rcases last.eq_of_pieces otherLast (List.tail_eq_of_cons_eq afterDots) with
          ⟨rfl, afterLast⟩
        exact ⟨rfl, afterLast⟩
    | _ => simp [Expression.pieces] at same
  | .jump kind annotations head value, other, around, behind, otherBehind, same => by
    cases other with
    | jump otherKind otherAnnotations otherHead otherValue =>
        simp only [Expression.pieces, List.cons_append, List.append_assoc, List.cons.injEq,
          Piece.mk.injEq, true_and, Mark.outline.injEq, Expression.jump.injEq, and_true] at same
        rcases same with ⟨rfl, same⟩
        rcases annotations.eq_of_pieces otherAnnotations ends_closing ends_closing same with
          ⟨rfl, afterAnnotations⟩
        rcases head.eq_of_pieces otherHead ends_closing ends_closing
          (List.tail_eq_of_cons_eq afterAnnotations) with ⟨rfl, afterHead⟩
        rcases value.eq_of_pieces otherValue (List.tail_eq_of_cons_eq afterHead) with
          ⟨rfl, afterValue⟩
        exact ⟨rfl, afterValue⟩
    | _ => simp [Expression.pieces] at same
  | .closure hasResult annotations head body, other, around, behind, otherBehind, same => by
    cases other with
    | closure otherHasResult otherAnnotations otherHead otherBody =>
        simp only [Expression.pieces, List.cons_append, List.append_assoc, List.cons.injEq,
          Piece.mk.injEq, true_and, Mark.outline.injEq, Expression.closure.injEq, and_true] at same
        rcases same with ⟨rfl, same⟩
        rcases annotations.eq_of_pieces otherAnnotations ends_closing ends_closing same with
          ⟨rfl, afterAnnotations⟩
        rcases head.eq_of_pieces otherHead ends_closing ends_closing
          (List.tail_eq_of_cons_eq afterAnnotations) with ⟨rfl, afterHead⟩
        rcases body.eq_of_pieces otherBody (List.tail_eq_of_cons_eq afterHead) with
          ⟨rfl, afterBody⟩
        exact ⟨rfl, afterBody⟩
    | _ => simp [Expression.pieces] at same
  | .matched annotations head value, other, around, behind, otherBehind, same => by
    cases other with
    | matched otherAnnotations otherHead otherValue =>
        simp only [Expression.pieces, List.cons_append, List.append_assoc, List.cons.injEq,
          true_and] at same
        rcases annotations.eq_of_pieces otherAnnotations ends_closing ends_closing same with
          ⟨rfl, afterAnnotations⟩
        rcases head.eq_of_pieces otherHead ends_closing ends_closing
          (List.tail_eq_of_cons_eq afterAnnotations) with ⟨rfl, afterHead⟩
        rcases value.eq_of_pieces otherValue (List.tail_eq_of_cons_eq afterHead) with
          ⟨rfl, afterValue⟩
        exact ⟨rfl, afterValue⟩
    | _ => simp [Expression.pieces] at same

end

theorem Forest.pieces_inj {forest other : Forest} :
    forest.pieces around = other.pieces around ↔ forest = other := by
  refine ⟨fun same => ?_, fun same => by rw [same]⟩
  have followedAlike : forest.pieces around ++ [] = other.pieces around ++ [] := by
    rw [List.append_nil, List.append_nil, same]
  exact (forest.eq_of_pieces other ends_nil ends_nil followedAlike).1

/-- Removing the attributes once more changes nothing. -/
theorem Forest.without_without (isDropped : Identifier → Bool) (forest : Forest) :
    (forest.without isDropped).without isDropped = forest.without isDropped := by
  have isKept : ([] : List (Option Identifier)).any (·.any isDropped) = false := rfl
  rw [← @Forest.pieces_inj []]
  simp [Forest.pieces_without _ isKept]

end BeanContainer.Source
