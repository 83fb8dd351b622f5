import Mathlib.Data.List.Chain
import Mathlib.Logic.Relation

/-!
# Walks and cycles

Both searches for cycles, the one among configurations and the one among beans, keep a walk along
the edges of a graph. A walk that comes back to one of its places is a cycle, and there is none
where all walks come to an end.
-/

namespace BeanContainer

variable {α β : Type} {relation : α → α → Prop} {other : β → β → Prop}

theorem transGen_self_of_chain {walk : List α} {last : α}
    (linked : (walk ++ [last]).IsChain relation) (repeated : last ∈ walk) :
    Relation.TransGen relation last last := by
  have reachable := List.isChain_iff_pairwise.mp
    (linked.imp fun _ _ edge => Relation.TransGen.single edge)
  exact (List.pairwise_append.mp reachable).2.2 last repeated last (List.mem_singleton_self _)

theorem not_transGen_self_of_acc {start : α}
    (acc : Acc (fun next start => relation start next) start) :
    ¬Relation.TransGen relation start start := by
  have accTrans := acc.transGen
  intro cycle
  have reversed : Relation.TransGen (fun next start => relation start next) start start :=
    Relation.transGen_swap.mp cycle
  clear cycle acc
  induction accTrans with
  | intro start _ ih => exact ih start reversed reversed

/-- Walks come to an end where each of their edges is followed along edges whose walks do. -/
theorem acc_of_simulates {same : α → β → Prop}
    (simulates : ∀ {start next image}, same start image → relation start next →
      ∃ nextImage, other image nextImage ∧ same next nextImage)
    {start : α} {image : β} (begins : same start image)
    (acc : Acc (fun next image => other image next) image) :
    Acc (fun next start => relation start next) start := by
  induction acc generalizing start with
  | intro image _ ih =>
      apply Acc.intro
      intro next edge
      rcases simulates begins edge with ⟨nextImage, edgeImage, sameNext⟩
      exact ih nextImage edgeImage sameNext

end BeanContainer
