import BeanContainer.Context.Cycle
import Mathlib.Data.List.Infix

/-!
# The closed part of a path

Whatever path is cut down, the cut is made before the first visit of its last element. No other part
that leads from a visit of that element to the end of the path is longer, and cutting once more
changes nothing. A search that has found a cycle has met its last step twice and all others once.
Its path has just one part that leads around a cycle to the end, and this part is what is left.
-/

namespace BeanContainer

variable {α : Type} {path part : List α} {last : α}

/-- The part starts with the last element of the path and leads to the end of the path. -/
structure IsReturn (path part : List α) : Prop where
  suffix : part <:+ path
  starts : part.head? = path.getLast?

/-- A longest one of the parts that start with the last element and lead to the end. -/
structure IsLongestReturn (path part : List α) : Prop extends IsReturn path part where
  longest : ∀ other, IsReturn path other → other.length ≤ part.length

/-- The path leaves an element and comes back to it in the end. -/
structure IsLoop (path : List α) : Prop where
  two_le_length : 2 ≤ path.length
  closes : path.head? = path.getLast?

theorem getLast?_of_suffix (suffix : part <:+ path) (nonempty : part ≠ []) :
    part.getLast? = path.getLast? := by
  rcases suffix with ⟨lead, rfl⟩
  exact (List.getLast?_append_of_ne_nil lead nonempty).symm

/-- A part that starts with an element off the lead-in has nothing of the lead-in. -/
theorem suffix_of_notMem_lead {lead rest : List α} (fresh : last ∉ lead)
    (suffix : part <:+ lead ++ rest) (starts : part.head? = some last) : part <:+ rest := by
  induction lead with
  | nil => exact suffix
  | cons first lead ih =>
      rw [List.mem_cons, not_or] at fresh
      rw [List.cons_append, List.suffix_cons_iff] at suffix
      rcases suffix with rfl | suffix
      · exact absurd (Option.some.inj starts).symm fresh.1
      · exact ih fresh.2 suffix

theorem IsLoop.isReturn (loop : IsLoop part) (suffix : part <:+ path) : IsReturn path part := by
  have nonempty : part ≠ [] := by
    rintro rfl
    exact absurd loop.two_le_length (by simp)
  exact ⟨suffix, loop.closes.trans (getLast?_of_suffix suffix nonempty)⟩

variable [BEq α] [LawfulBEq α]

theorem closedPart_of_first {lead rest : List α} (fresh : last ∉ lead)
    (isLast : (lead ++ last :: rest).getLast? = some last) :
    closedPart (lead ++ last :: rest) = last :: rest := by
  have passed : ∀ step ∈ lead, (step != last) = true := by
    intro step step_mem
    simp only [bne_iff_ne]
    rintro rfl
    exact fresh step_mem
  simp [closedPart, isLast, List.dropWhile_append_of_pos passed]

/-- A path with an end is a lead-in that does not visit it, and the part that starts there. -/
theorem exists_lead_closedPart (isLast : path.getLast? = some last) :
    ∃ lead rest, path = lead ++ last :: rest ∧ last ∉ lead ∧ closedPart path = last :: rest := by
  rcases List.eq_append_cons_of_mem (List.mem_of_getLast? isLast) with ⟨lead, rest, rfl, fresh⟩
  exact ⟨lead, rest, rfl, fresh, closedPart_of_first fresh isLast⟩

theorem isReturn_closedPart (path : List α) : IsReturn path (closedPart path) := by
  cases isLast : path.getLast? with
  | none =>
      rw [List.getLast?_eq_none_iff] at isLast
      subst isLast
      exact ⟨List.suffix_rfl, rfl⟩
  | some last =>
      rcases exists_lead_closedPart isLast with ⟨lead, rest, path_eq, _, closed⟩
      rw [closed]
      exact ⟨⟨lead, path_eq.symm⟩, isLast.symm⟩

/-- No part that starts with the last element reaches over the cut. -/
theorem IsReturn.suffix_closedPart (isReturn : IsReturn path part) : part <:+ closedPart path := by
  cases isLast : path.getLast? with
  | none =>
      have empty := isReturn.starts
      rw [isLast, List.head?_eq_none_iff] at empty
      rw [empty]
      exact List.nil_suffix
  | some last =>
      rcases exists_lead_closedPart isLast with ⟨lead, rest, path_eq, fresh, closed⟩
      rw [closed]
      apply suffix_of_notMem_lead fresh
      · exact path_eq ▸ isReturn.suffix
      · exact isReturn.starts.trans isLast

theorem isLongestReturn_iff : IsLongestReturn path part ↔ part = closedPart path := by
  constructor
  · intro isLongest
    have isSuffix := isLongest.toIsReturn.suffix_closedPart
    have isLonger := isLongest.longest (closedPart path) (isReturn_closedPart path)
    exact isSuffix.eq_of_length (Nat.le_antisymm isSuffix.length_le isLonger)
  · rintro rfl
    exact ⟨isReturn_closedPart path, fun _ isReturn => isReturn.suffix_closedPart.length_le⟩

theorem closedPart_eq_nil_iff : closedPart path = [] ↔ path = [] := by
  rw [← List.head?_eq_none_iff, (isReturn_closedPart path).starts, List.getLast?_eq_none_iff]

/-- A path that comes back to its first element in the end is left alone. -/
theorem closedPart_eq_self (closes : path.head? = path.getLast?) : closedPart path = path := by
  have isReturn : IsReturn path path := ⟨List.suffix_rfl, closes⟩
  have isLongest : IsLongestReturn path path := ⟨isReturn, fun _ other => other.suffix.length_le⟩
  exact (isLongestReturn_iff.mp isLongest).symm

theorem getLast?_closedPart (path : List α) : (closedPart path).getLast? = path.getLast? := by
  by_cases empty : path = []
  · subst empty
    rfl
  · exact getLast?_of_suffix (isReturn_closedPart path).suffix (mt closedPart_eq_nil_iff.mp empty)

theorem closedPart_closedPart (path : List α) : closedPart (closedPart path) = closedPart path :=
  closedPart_eq_self ((isReturn_closedPart path).starts.trans (getLast?_closedPart path).symm)

/-- A path whose last element occurs before is a lead-in and the part that it closes. -/
theorem exists_closedPart_eq {before : List α} (repeated : last ∈ before) :
    ∃ lead inner, before = lead ++ last :: inner ∧
      closedPart (before ++ [last]) = last :: inner ++ [last] := by
  rcases List.eq_append_cons_of_mem repeated with ⟨lead, inner, rfl, fresh⟩
  refine ⟨lead, inner, rfl, ?_⟩
  have isLast : (lead ++ last :: (inner ++ [last])).getLast? = some last := by
    rw [← List.cons_append, ← List.append_assoc, List.getLast?_concat]
  rw [List.append_assoc, List.cons_append]
  exact closedPart_of_first fresh isLast

/--
On a path of distinct elements that are followed by one of them once more, the closed part is the
only loop that leads to the end.
-/
theorem suffix_isLoop_iff {before : List α} (distinct : before.Nodup) (repeated : last ∈ before) :
    part <:+ before ++ [last] ∧ IsLoop part ↔ part = closedPart (before ++ [last]) := by
  rcases exists_closedPart_eq repeated with ⟨lead, inner, rfl, closed⟩
  constructor
  · rintro ⟨suffix, loop⟩
    have isReturn := loop.isReturn suffix
    have within := isReturn.suffix_closedPart
    rw [closed] at within ⊢
    rw [List.cons_append, List.suffix_cons_iff] at within
    rcases within with whole | within
    · exact whole
    · -- The last element is not met between its two visits, so a shorter part is the end alone.
      have fresh : last ∉ inner := (List.nodup_cons.mp (List.nodup_append.mp distinct).2.1).1
      have starts : part.head? = some last := isReturn.starts.trans List.getLast?_concat
      have length_le := (suffix_of_notMem_lead fresh within starts).length_le
      exact absurd (loop.two_le_length.trans length_le) (by simp)
  · rintro rfl
    have isReturn := isReturn_closedPart (lead ++ last :: inner ++ [last])
    refine ⟨isReturn.suffix, ?_, isReturn.starts.trans (getLast?_closedPart _).symm⟩
    rw [closed]
    simp

theorem nodup_dropLast_closedPart {before : List α} (distinct : before.Nodup)
    (repeated : last ∈ before) : (closedPart (before ++ [last])).dropLast.Nodup := by
  rcases exists_closedPart_eq repeated with ⟨lead, inner, rfl, closed⟩
  rw [closed, List.dropLast_concat]
  exact (List.nodup_append.mp distinct).2.1

/--
The closed part of a path is the longest of the parts that start with the path's last element and
lead to its end. It is empty for the empty path alone, and is left alone when cut again. If the
path meets its last element twice and no other one, then the closed part is the only loop that the
path ends with, and it meets none of its elements twice before it is closed.
-/
theorem closedPart_is_longest_return (path : List α) :
    (∀ part, IsLongestReturn path part ↔ part = closedPart path) ∧
      (closedPart path = [] ↔ path = []) ∧
      closedPart (closedPart path) = closedPart path ∧
      ∀ last ∈ path.dropLast, path.getLast? = some last → path.dropLast.Nodup →
        (∀ part, part <:+ path ∧ IsLoop part ↔ part = closedPart path) ∧
          (closedPart path).dropLast.Nodup := by
  refine ⟨fun _ => isLongestReturn_iff, closedPart_eq_nil_iff, closedPart_closedPart path, ?_⟩
  intro last repeated isLast distinct
  rcases List.getLast?_eq_some_iff.mp isLast with ⟨before, rfl⟩
  rw [List.dropLast_concat] at repeated distinct
  exact ⟨fun _ => suffix_isLoop_iff distinct repeated,
    nodup_dropLast_closedPart distinct repeated⟩

/-- Of several visits before the end it is the first one that counts. -/
example : closedPart [0, 1, 2, 1, 1, 3, 1] = [1, 2, 1, 1, 3, 1] := by decide

/-- A lead-in of two steps and a circle of three. -/
def roundTrip : List String :=
  ["Lead::d", "delta::b", "beta::c", "gamma::a", "alpha::b", "beta::c"]

theorem closedPart_roundTrip :
    ("beta::c" ∈ roundTrip.dropLast ∧ roundTrip.getLast? = some "beta::c" ∧
        roundTrip.dropLast.Nodup) ∧
      closedPart roundTrip = ["beta::c", "gamma::a", "alpha::b", "beta::c"] ∧
      IsLongestReturn roundTrip (closedPart roundTrip) ∧
      closedPart (closedPart roundTrip) = closedPart roundTrip ∧
      (∀ part, part <:+ roundTrip ∧ IsLoop part ↔ part = closedPart roundTrip) ∧
      (closedPart roundTrip).dropLast.Nodup := by
  have repeated : "beta::c" ∈ roundTrip.dropLast := by decide
  have isLast : roundTrip.getLast? = some "beta::c" := by decide
  have distinct : roundTrip.dropLast.Nodup := by decide
  rcases closedPart_is_longest_return roundTrip with ⟨longest, _, again, loops⟩
  exact ⟨⟨repeated, isLast, distinct⟩, by decide, (longest _).mpr rfl, again,
    loops "beta::c" repeated isLast distinct⟩

end BeanContainer
