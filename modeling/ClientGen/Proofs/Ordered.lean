import ClientGen.Ordered
import Mathlib.Data.List.Sort

/-!
# Ordered sets are canonical

The list of an ordered set increases strictly. So it has no element twice, and two ordered sets of
the same elements are the same list.
-/

namespace ClientGen

section
variable {α : Type} [LT α] [DecidableLT α] [DecidableEq α] [IsTrans α (· < ·)]
  [Std.Trichotomous (α := α) (· < ·)]

theorem insertOrdered_increasing (a : α) {xs : List α} (h : xs.Pairwise (· < ·)) :
    (insertOrdered a xs).Pairwise (· < ·) := by
  induction xs with
  | nil => exact List.pairwise_singleton _ a
  | cons b rest ih =>
    obtain ⟨hb, hrest⟩ := List.pairwise_cons.1 h
    rw [insertOrdered]
    split
    · exact h
    · rename_i hne
      split
      · rename_i hlt
        refine List.pairwise_cons.2 ⟨fun c hc => ?_, h⟩
        rcases List.mem_cons.1 hc with rfl | hc
        · exact hlt
        · exact trans_of (· < ·) hlt (hb c hc)
      · rename_i hnlt
        refine List.pairwise_cons.2 ⟨fun c hc => ?_, ih hrest⟩
        rcases mem_insertOrdered.1 hc with rfl | hc
        · by_contra hnlt'
          exact hne (Std.Trichotomous.trichotomous (r := (· < ·)) _ _ hnlt hnlt')
        · exact hb c hc

theorem orderedSet_increasing (xs : List α) : (orderedSet xs).Pairwise (· < ·) :=
  List.foldlRecOn (motive := fun set => List.Pairwise (· < ·) set) xs _ List.Pairwise.nil
    fun _ h a _ => insertOrdered_increasing a h

variable [Std.Irrefl (α := α) (· < ·)]

theorem orderedSet_nodup (xs : List α) : (orderedSet xs).Nodup :=
  (orderedSet_increasing xs).nodup

theorem orderedSet_congr {xs ys : List α} (h : ∀ a, a ∈ xs ↔ a ∈ ys) :
    orderedSet xs = orderedSet ys := by
  have hantisymm : Std.Antisymm (α := α) (· < ·) :=
    ⟨fun a b hab hba => absurd (trans_of (· < ·) hab hba) (irrefl_of (· < ·) a)⟩
  refine (orderedSet_increasing xs).eq_of_mem_iff (orderedSet_increasing ys) fun a => ?_
  rw [mem_orderedSet, mem_orderedSet]
  exact h a

end

end ClientGen
