import BeanContainer.Derivation.Expansion
import BeanContainer.Proofs.Source.Removal

/-!
# Removal of markers

What a derivation leaves of the implementation that it is given: all but the attributes that give
roles. These are gone from every list of attributes, and nothing else is.
-/

namespace BeanContainer.Derivation

open Source

/-- The paths of the attributes that give roles. -/
def markerPaths : List (Option Identifier) :=
  ["construct", "post_init", "provide_beans", "resource"].map fun word => some ⟨false, word⟩

theorem any_isMarker_iff {name : Option Identifier} :
    name.any isMarker = true ↔ name ∈ markerPaths := by
  rcases name with _ | ⟨isRaw, name⟩
  · simp [markerPaths]
  · simp only [Option.any_some, isMarker, Marker.identifier, Marker.name, markerPaths,
      List.any_cons, List.any_nil, Bool.or_false, Bool.or_eq_true, beq_iff_eq, List.map_cons,
      List.map_nil, List.mem_cons, List.not_mem_nil, or_false, Option.some.injEq]
    simp only [eq_comm]

/-- Whether the piece stands in no attribute that gives a role. -/
def staysInPlace (piece : Piece) : Bool :=
  piece.around.all (· ∉ markerPaths)

theorem isOutside_isMarker (piece : Piece) : piece.isOutside isMarker = staysInPlace piece := by
  rw [Bool.eq_iff_iff]
  simp [Piece.isOutside, staysInPlace, ← any_isMarker_iff]

variable {arguments : Arguments} {implementation : Implementation} {code : Forest}

/--
What is derived from an implementation begins with the implementation itself, of which just those
pieces are left out that stand in an attribute with a role. No such attribute is left, so there is
none to remove any more.
-/
theorem expand_keeps_all_but_markers (accepted : expand arguments implementation = .ok code) :
    ∃ roles kept, Roles.ofImplementation implementation = .ok roles ∧
      code = kept.forest ++ configurationCode arguments implementation roles ∧
      kept = implementation.without isMarker ∧
      (∀ forest : Forest, forest = kept.forest ↔
        forest.pieces [] = (implementation.forest.pieces []).filter staysInPlace) ∧
      (∀ piece ∈ kept.forest.pieces [], ∀ name ∈ piece.around, name ∉ markerPaths) ∧
      kept.forest.without isMarker = kept.forest ∧ kept.without isMarker = kept := by
  cases isRoles : Roles.ofImplementation implementation with
  | error refusal => simp [expand, isRoles, Except.map] at accepted
  | ok roles =>
      have isCode : implementation.forest.without isMarker ++
          configurationCode arguments implementation roles = code := by
        simpa [expand, isRoles, Except.map] using accepted
      have isKept : (implementation.without isMarker).forest.pieces [] =
          (implementation.forest.pieces []).filter staysInPlace := by
        rw [Implementation.forest_without, Forest.pieces_without _ rfl]
        simp only [isOutside_isMarker]
      refine ⟨roles, implementation.without isMarker, rfl, ?_, rfl, fun forest => ?_, ?_, ?_,
        implementation.without_without⟩
      · rw [Implementation.forest_without, isCode]
      · rw [← isKept, Forest.pieces_inj]
      · intro piece piece_mem
        rw [isKept, List.mem_filter] at piece_mem
        simpa [staysInPlace] using piece_mem.2
      · rw [Implementation.forest_without, Forest.without_without]

/-- An implementation with markers on a function, on an argument, and in a body. -/
def markedText : String :=
  "#[allow(a)] impl B \x7b #[inline] #[construct] fn new(#[cfg(c)] #[resource(\"d\")] (e): F) -> B " ++
    "\x7b #[resource] let g = 1; #[cold] h(e) \x7d \x7d"

/-- The same implementation without the markers. -/
def bareText : String :=
  "#[allow(a)] impl B \x7b #[inline] fn new(#[cfg(c)] (e): F) -> B " ++
    "\x7b let g = 1; #[cold] h(e) \x7d \x7d"

theorem expand_removes_markers_of_text : ∃ implementation code kept,
    (Forest.ofText? markedText).bind implementationOf? = some implementation ∧
      expand {} implementation = .ok code ∧
      kept = implementation.without isMarker ∧
      kept.forest.pieces [] = (implementation.forest.pieces []).filter staysInPlace ∧
      some kept.forest.words = (Forest.ofText? bareText).map (·.words) := by
  have outcomes : (((Forest.ofText? markedText).bind implementationOf?).any fun implementation =>
      (expand {} implementation).isOk &&
        some (implementation.without isMarker).forest.words ==
          (Forest.ofText? bareText).map (·.words)) = true := by
    decide +kernel
  rw [Option.any_eq_true] at outcomes
  rcases outcomes with ⟨implementation, isImplementation, outcomes⟩
  simp only [Bool.and_eq_true, beq_iff_eq] at outcomes
  rcases outcomes with ⟨accepts, sameWords⟩
  cases expands : expand {} implementation with
  | error refusal => simp [expands, Except.isOk, Except.toBool] at accepts
  | ok code =>
      rcases expand_keeps_all_but_markers expands with ⟨_, kept, _, _, isKept, keeps, _⟩
      have keptPieces := (keeps kept.forest).mp rfl
      have isBare : some kept.forest.words = (Forest.ofText? bareText).map (·.words) := by
        rw [isKept, sameWords]
      exact ⟨implementation, code, kept, isImplementation, expands, isKept, keptPieces, isBare⟩

end BeanContainer.Derivation
