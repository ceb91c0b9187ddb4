import EnvLint.Tree.Children

/-! # Lists without repetition

    Erasing repetitions keeps the first of equal items.  It commutes with leaving
    items out, keeps the order, and does nothing to a list that has none. -/

namespace EnvLint

variable {α : Type} [BEq α] [LawfulBEq α]

/-- Repetitions can be erased before or after items are left out. -/
theorem eraseDups_filter (p : α → Bool) (items : List α) :
    (items.filter p).eraseDups = items.eraseDups.filter p := by
  induction hn : items.length using Nat.strongRecOn generalizing items with
  | ind n ih =>
      cases items with
      | nil => rfl
      | cons item items =>
          rw [List.length_cons] at hn
          have hlen := List.length_filter_le (fun other => !other == item) items
          have hrest := ih _ (by omega) (items.filter fun other => !other == item) rfl
          rw [List.eraseDups_cons, List.filter_cons]
          by_cases hp : p item = true
          · rw [if_pos hp, List.filter_cons, if_pos hp, List.eraseDups_cons, ← hrest,
              List.filter_filter, List.filter_filter]
            simp only [Bool.and_comm]
          · -- the item is left out, and with it all its repetitions
            have hgone : (items.filter fun other => !other == item).filter p = items.filter p := by
              rw [List.filter_filter]
              refine List.filter_congr ?_
              intro other _
              by_cases heq : other = item
              · simp [heq, hp]
              · simp [heq]
            rw [if_neg hp, List.filter_cons, if_neg hp, ← hrest, hgone]

/-- Repetitions are dropped and nothing is moved. -/
theorem eraseDups_sublist (items : List α) : items.eraseDups.Sublist items := by
  induction items with
  | nil => exact List.Sublist.refl []
  | cons item items ih =>
      rw [List.eraseDups_cons, eraseDups_filter]
      exact (List.filter_sublist.trans ih).cons_cons item

/-- Without repetitions nothing is dropped. -/
theorem eraseDups_of_nodup {items : List α} (h : items.Nodup) : items.eraseDups = items := by
  induction items with
  | nil => rfl
  | cons item items ih =>
      obtain ⟨hnew, hrest⟩ := List.nodup_cons.mp h
      have hkept : items.filter (fun other => !other == item) = items := by
        rw [List.filter_eq_self]
        intro other hother
        have hne : other ≠ item := by
          rintro rfl
          exact hnew hother
        simp [hne]
      rw [List.eraseDups_cons, hkept, ih hrest]

/-- Of two lists, the second adds what the first does not have. -/
theorem eraseDups_append_filter (xs ys : List α) :
    (xs ++ ys).eraseDups
      = xs.eraseDups ++ ys.eraseDups.filter fun y => !xs.eraseDups.contains y := by
  have hsame : ∀ y, xs.eraseDups.contains y = xs.contains y := by
    intro y
    rw [Bool.eq_iff_iff, List.contains_iff_mem, List.contains_iff_mem, List.mem_eraseDups]
  rw [List.eraseDups_append, List.removeAll, eraseDups_filter]
  simp only [hsame]

end EnvLint
