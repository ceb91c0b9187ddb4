import EnvLint.Text.Cells
import Mathlib.Data.List.Basic

/-! # Texts of narrow characters

    A character that takes one cell is narrow.  A text of such characters takes as
    many cells as it has characters, so it can be measured by its length, and a
    width that is no less than that leaves it on one line (`breaks_eq_nil`). -/

namespace EnvLint.Text

/-- A character that takes one cell. -/
def Narrow (c : Char) : Prop := charCells c = 1

instance : DecidablePred Narrow :=
  fun c => inferInstanceAs (Decidable (charCells c = 1))

theorem Narrow.ne {c d : Char} (h : Narrow c) (hd : charCells d ≠ 1) : c ≠ d := by
  rintro rfl
  exact hd h

/-- Control characters are not narrow. -/
theorem Narrow.le_toNat {c : Char} (h : Narrow c) : 32 ≤ c.toNat := by
  have hall : ∀ n, n < 32 → ¬Narrow (Char.ofNat n) := by decide +kernel
  refine Nat.not_lt.mp ?_
  intro hlow
  rw [← Char.ofNat_toNat c] at h
  exact hall c.toNat hlow h

theorem Narrow.ne_control {c d : Char} (h : Narrow c) (hd : d.toNat < 32) : c ≠ d := by
  rintro rfl
  exact absurd h.le_toNat (Nat.not_le.mpr hd)

/-- The printable characters of ASCII are narrow. -/
theorem narrow_of_printable {c : Char} (hlow : 32 ≤ c.toNat) (hhigh : c.toNat < 127) :
    Narrow c := by
  have hall : ∀ n, n < 127 → 32 ≤ n → Narrow (Char.ofNat n) := by decide +kernel
  rw [← Char.ofNat_toNat c]
  exact hall c.toNat hhigh hlow

theorem narrow_blank : Narrow ' ' :=
  narrow_of_printable (by decide) (by decide)

theorem narrow_ellipsis : Narrow '…' := by
  decide +kernel

/-- Narrow characters take one cell each. -/
theorem cellsAfter_of_narrow {cs : List Char} (h : ∀ c ∈ cs, Narrow c) (last : Option Char) :
    cellsAfter last cs = cs.length := by
  induction cs generalizing last with
  | nil => rfl
  | cons c cs ih =>
      obtain ⟨hc, hcs⟩ := List.forall_mem_cons.mp h
      have hone : charCells c = 1 := hc
      have hjoiner : c ≠ joiner := hc.ne (by decide +kernel)
      have hselector : c ≠ emojiSelector := hc.ne (by decide +kernel)
      rw [cellsAfter.eq_def]
      dsimp only
      rw [if_neg hjoiner, if_neg hselector, hone, if_neg Nat.one_ne_zero, ih hcs, List.length_cons,
        Nat.add_comm]

/-- **A narrow text takes a cell for each character.** -/
theorem cells_of_narrow {cs : List Char} (h : ∀ c ∈ cs, Narrow c) : cells cs = cs.length :=
  cellsAfter_of_narrow h none

/-! ## Words -/

/-- A word and what is left behind it are the text. -/
theorem eq_of_nextWord {cs word rest : List Char} (h : nextWord cs = some (word, rest)) :
    cs = word ++ rest := by
  have hsplit : ∀ (test : Char → Bool) (xs : List Char),
      xs.takeWhile test ++ xs.drop (xs.takeWhile test).length = xs :=
    fun test xs => (List.prefix_iff_eq_append.mp (List.takeWhile_prefix test))
  rw [nextWord] at h
  split at h
  · cases h
  · cases h
    simp only [List.append_assoc, hsplit]

/-- The words of a text come from its start. -/
theorem flatten_spacedWords_prefix (fuel : Nat) (cs : List Char) :
    (spacedWords fuel cs).flatten <+: cs := by
  induction fuel generalizing cs with
  | zero => exact List.nil_prefix
  | succ fuel ih =>
      rw [spacedWords]
      split
      · exact List.nil_prefix
      · rename_i word rest hnext
        rw [eq_of_nextWord hnext, List.flatten_cons]
        exact (List.prefix_append_right_inj word).mpr (ih rest)

/-- Trimming drops characters and moves none. -/
theorem trimRight_sublist (cs : List Char) : (trimRight cs).Sublist cs := by
  have h := (List.dropWhile_sublist isBlank (l := cs.reverse)).reverse
  rwa [List.reverse_reverse] at h

/-- A word that fits on the line causes no break. -/
theorem take_of_fits {width : Nat} {b : Breaks} {word : List Char} (h : ∀ c ∈ word, Narrow c)
    (hfit : b.used + word.length ≤ width) :
    b.take width word = { b with start := b.start + word.length, used := b.used + word.length } := by
  have htrimmed : cells (trimRight word) ≤ word.length := by
    rw [cells_of_narrow fun c hc => h c ((trimRight_sublist word).subset hc)]
    exact (trimRight_sublist word).length_le
  rw [Breaks.take, cells_of_narrow h, if_pos (by omega)]

/-- Words that fit into what is left of a line break it nowhere. -/
theorem found_of_fits {width : Nat} {words : List (List Char)}
    (h : ∀ c ∈ words.flatten, Narrow c) {b : Breaks}
    (hfit : b.used + words.flatten.length ≤ width) :
    (words.foldl (Breaks.take width) b).found = b.found := by
  induction words generalizing b with
  | nil => rfl
  | cons word words ih =>
      rw [List.flatten_cons, List.forall_mem_append] at h
      rw [List.flatten_cons, List.length_append] at hfit
      rw [List.foldl_cons, take_of_fits h.1 (by omega)]
      exact ih h.2 (by dsimp only; omega)

/-- **A narrow text that fits into a width is not broken.** -/
theorem breaks_eq_nil {width : Nat} {cs : List Char} (h : ∀ c ∈ cs, Narrow c)
    (hfit : cs.length ≤ width) : breaks width cs = [] := by
  have hwords := flatten_spacedWords_prefix cs.length cs
  have hlength := hwords.length_le
  have hused : (Breaks.mk 0 0 []).used + (spacedWords cs.length cs).flatten.length ≤ width := by
    dsimp only
    omega
  rw [breaks, found_of_fits (fun c hc => h c (hwords.subset hc)) hused]
  rfl

end EnvLint.Text
