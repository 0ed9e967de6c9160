import Mathlib.Data.List.Sort

namespace ParcelPilot
namespace Ranking

variable {α : Type} {le : α → α → Prop} [DecidableRel le]

theorem filter_orderedInsert [IsTrans α le] (keep : α → Bool) (item : α) {ranked : List α}
    (sorted : ranked.Pairwise le) : (ranked.orderedInsert le item).filter keep =
      if keep item = true then (ranked.filter keep).orderedInsert le item else ranked.filter keep := by
  induction ranked with
  | nil => by_cases kept : keep item = true <;> simp [kept]
  | cons first rest ih =>
      rw [List.pairwise_cons] at sorted
      by_cases before : le item first
      · rw [List.orderedInsert_cons_of_le le rest before]
        by_cases kept : keep item = true
        · have ahead : ∀ other ∈ (first :: rest).filter keep, le item other := by
            intro other member
            rcases List.mem_cons.mp (List.mem_filter.mp member).1 with rfl | later
            · exact before
            · exact Trans.trans before (sorted.1 other later)
          rw [List.filter_cons_of_pos kept,if_pos kept]
          cases others : (first :: rest).filter keep with
          | nil => rfl
          | cons next more =>
              rw [others] at ahead
              exact (List.orderedInsert_cons_of_le le more (ahead next (by simp))).symm
        · rw [List.filter_cons_of_neg kept,if_neg kept]
      · rw [List.orderedInsert_of_not_le le rest before]
        by_cases first_ : keep first = true
        · rw [List.filter_cons_of_pos first_,ih sorted.2,List.filter_cons_of_pos first_]
          by_cases kept : keep item = true
          · rw [if_pos kept,if_pos kept,List.orderedInsert_of_not_le le _ before]
          · rw [if_neg kept,if_neg kept]
        · rw [List.filter_cons_of_neg first_,ih sorted.2,List.filter_cons_of_neg first_]

theorem filter_insertionSort [Std.Total le] [IsTrans α le] (keep : α → Bool) (items : List α) :
    (items.insertionSort le).filter keep = (items.filter keep).insertionSort le := by
  induction items with
  | nil => rfl
  | cons item rest ih =>
      rw [List.insertionSort_cons,filter_orderedInsert keep item (List.pairwise_insertionSort le rest),ih]
      by_cases kept : keep item = true <;> simp [kept]

-- A threshold that the ranking respects: what passes it comes first, so that it
-- makes no difference whether the list is cut before or after.
omit [DecidableRel le] in
theorem filter_take {keep : α → Bool} {ranked : List α} (sorted : ranked.Pairwise le)
    (aligned : ∀ one two, le one two → keep two = true → keep one = true) (n : Nat) :
    (ranked.take n).filter keep = (ranked.filter keep).take n := by
  induction ranked generalizing n with
  | nil => simp
  | cons first rest ih =>
      rw [List.pairwise_cons] at sorted
      cases n with
      | zero => simp
      | succ n =>
          by_cases kept : keep first = true
          · rw [List.take_succ_cons,List.filter_cons_of_pos kept,List.filter_cons_of_pos kept,
              List.take_succ_cons,ih sorted.2]
          · have nothing : (first :: rest).filter keep = [] := by
              apply List.filter_eq_nil_iff.mpr
              intro item member passes
              rcases List.mem_cons.mp member with rfl | later
              · exact kept passes
              · exact kept (aligned first item (sorted.1 item later) passes)
            have part := (List.take_sublist (n + 1) (first :: rest)).filter keep
            rw [nothing] at part ⊢
            rw [List.eq_nil_of_sublist_nil part,List.take_nil]

end Ranking
end ParcelPilot
