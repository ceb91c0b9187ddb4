import EnvLint.Report.Console
import Mathlib.Data.List.TakeWhile

/-! # Escaped text has no tags

    A report puts paths and messages into markup, and both come from outside.
    What keeps them from acting as tags is `escape`.  This file shows that it
    does: whatever a text holds, its escaped form renders, alone or between the
    tags of a style.

    * `Escaped` says case by case what escaping does to a text;
    * `Escaped.tag?_eq_none`: a bracket that opens no tag opens none afterwards,
      although backslashes were added behind it;
    * `Escaped.pieces`: reading an escaped text gives back its characters, up to
      the backslashes at its end, which belong to whatever follows, and to one
      backslash before each bracket that opens no tag, which is lost;
    * `Escaped.pieces_tagged`: a style's closing tag is either read as a tag, and
      its opening tag is there, or it is read as text. -/

namespace EnvLint.Report.Markup

/-! ## Backslashes and tags -/

/-- A run of backslashes is read as a whole. -/
theorem backslashes_replicate (n : Nat) {rest : List Char} (h : rest.head? ≠ some '\\') :
    backslashes (List.replicate n '\\' ++ rest) = (n, rest) := by
  have htake : rest.takeWhile (· == '\\') = [] := by
    cases rest with
    | nil => rfl
    | cons c rest => simp_all
  have hdrop : rest.dropWhile (· == '\\') = rest := by
    cases rest with
    | nil => rfl
    | cons c rest => simp_all
  simp [backslashes, htake, hdrop]

/-- A text is its backslashes and what follows them. -/
theorem eq_of_backslashes {cs rest : List Char} {n : Nat} (h : backslashes cs = (n, rest)) :
    cs = List.replicate n '\\' ++ rest ∧ rest.head? ≠ some '\\' := by
  simp only [backslashes, Prod.mk.injEq] at h
  obtain ⟨rfl, rfl⟩ := h
  constructor
  · have hall : cs.takeWhile (· == '\\') =
        List.replicate (cs.takeWhile (· == '\\')).length '\\' := by
      rw [List.eq_replicate_iff]
      refine ⟨rfl, ?_⟩
      intro c hc
      simpa using List.all_eq_true.mp List.all_takeWhile c hc
    rw [← hall, List.takeWhile_append_dropWhile]
  · intro hhead
    have hfirst := List.head?_dropWhile_not (· == '\\') cs
    rw [hhead] at hfirst
    exact absurd hfirst (by decide)

/-- The text of a tag: it starts as one and holds no bracket. -/
def IsTag (tag : List Char) : Prop :=
  ∃ c more, tag = c :: more ∧ startsTag c = true ∧ ∀ d ∈ more, d ≠ ']' ∧ d ≠ '['

/-- A tag is read up to the first closing bracket. -/
theorem tag?_append {tag : List Char} (h : IsTag tag) (after : List Char) :
    tag? (tag ++ ']' :: after) = some (tag, after) := by
  obtain ⟨c, more, rfl, hstart, hmore⟩ := h
  have htake : (more ++ ']' :: after).takeWhile (fun d => d != ']' && d != '[') = more := by
    rw [List.takeWhile_append_of_pos]
    · simp
    · intro d hd
      simpa using hmore d hd
  simp [tag?, htake, hstart]

/-- What is read as a tag is one, and a closing bracket follows it. -/
theorem isTag_of_tag? {cs tag after : List Char} (h : tag? cs = some (tag, after)) :
    IsTag tag ∧ cs = tag ++ ']' :: after := by
  cases cs with
  | nil => cases h
  | cons c rest =>
      rw [tag?] at h
      split at h
      · rename_i hafter
        split at h
        · rename_i hstart
          cases h
          refine ⟨⟨c, _, rfl, hstart, ?_⟩, ?_⟩
          · intro d hd
            simpa using List.all_eq_true.mp List.all_takeWhile d hd
          · rw [List.cons_append, ← hafter]
            exact congrArg (c :: ·) (List.prefix_iff_eq_append.mp (List.takeWhile_prefix _)).symm
        · cases h
      · cases h

/-! ## Escaping -/

/-- What escaping does to a text, case by case. -/
inductive Escaped : List Char → List Char → Prop
  | nil : Escaped [] []
  | char {c : Char} {cs out : List Char} (hslash : c ≠ '\\') (hbracket : c ≠ '[')
      (h : Escaped cs out) : Escaped (c :: cs) (c :: out)
  | slashes {n : Nat} {rest out : List Char} (hpos : 0 < n) (hslash : rest.head? ≠ some '\\')
      (hbracket : rest.head? ≠ some '[') (h : Escaped rest out) :
      Escaped (List.replicate n '\\' ++ rest) (List.replicate n '\\' ++ out)
  | bracket {n : Nat} {rest out : List Char} (htag : tag? rest = none) (h : Escaped rest out) :
      Escaped (List.replicate n '\\' ++ '[' :: rest) (List.replicate n '\\' ++ '[' :: out)
  | tag {n : Nat} {tag after out : List Char} (htag : IsTag tag) (h : Escaped after out) :
      Escaped (List.replicate n '\\' ++ '[' :: (tag ++ ']' :: after))
        (List.replicate (2 * n + 1) '\\' ++ '[' :: (tag ++ ']' :: out))

/-- Backslashes that no opening bracket follows are kept, and so is a character that is
    none of them. -/
theorem escapeTags_of_not_bracket {c : Char} {cs rest : List Char} {n : Nat}
    (hread : backslashes (c :: cs) = (n, rest)) (hrest : rest.head? ≠ some '[') (fuel : Nat) :
    escapeTags (fuel + 1) (c :: cs) =
      if n = 0 then c :: escapeTags fuel cs
      else List.replicate n '\\' ++ escapeTags fuel rest := by
  rw [escapeTags, hread]
  split
  · rename_i heq
    cases heq
    exact absurd rfl hrest
  · rename_i heq
    cases heq
    rfl

/-- A tag gets twice its backslashes and one more; a bracket that opens no tag is kept. -/
theorem escapeTags_of_bracket {c : Char} {cs rest : List Char} {n : Nat}
    (hread : backslashes (c :: cs) = (n, '[' :: rest)) (fuel : Nat) :
    escapeTags (fuel + 1) (c :: cs) =
      match tag? rest with
      | some (tag, after) =>
          List.replicate (2 * n + 1) '\\' ++ '[' :: tag ++ ']' :: escapeTags fuel after
      | none => List.replicate n '\\' ++ '[' :: escapeTags fuel rest := by
  rw [escapeTags, hread]
  rfl

/-- The cases are what escaping does. -/
theorem escaped_escapeTags {fuel : Nat} {cs : List Char} (hfuel : cs.length ≤ fuel) :
    Escaped cs (escapeTags fuel cs) := by
  induction fuel generalizing cs with
  | zero =>
      rw [List.length_eq_zero_iff.mp (Nat.le_zero.mp hfuel)]
      exact Escaped.nil
  | succ fuel ih =>
      cases cs with
      | nil => exact Escaped.nil
      | cons c cs =>
          cases hread : backslashes (c :: cs) with
          | mk n rest =>
              obtain ⟨heq, hhead⟩ := eq_of_backslashes hread
              have hlength := congrArg List.length heq
              rw [List.length_append, List.length_replicate, List.length_cons] at hlength
              rw [List.length_cons] at hfuel
              by_cases hrest : rest.head? = some '['
              · obtain ⟨rest, rfl⟩ := List.head?_eq_some_iff.mp hrest
                rw [List.length_cons] at hlength
                rw [escapeTags_of_bracket hread, heq]
                cases htag : tag? rest with
                | none => exact Escaped.bracket htag (ih (by omega))
                | some found =>
                    obtain ⟨tag, after⟩ := found
                    obtain ⟨hisTag, rfl⟩ := isTag_of_tag? htag
                    rw [List.length_append, List.length_cons] at hlength
                    show Escaped _ (List.replicate (2 * n + 1) '\\' ++
                      '[' :: tag ++ ']' :: escapeTags fuel after)
                    rw [List.append_assoc]
                    exact Escaped.tag hisTag (ih (by omega))
              · rw [escapeTags_of_not_bracket hread hrest]
                by_cases hn : n = 0
                · -- the text starts with `c` itself
                  subst hn
                  cases heq
                  rw [if_pos rfl]
                  exact Escaped.char (by simpa using hhead) (by simpa using hrest) (ih (by omega))
                · rw [if_neg hn, heq]
                  exact Escaped.slashes (Nat.pos_of_ne_zero hn) hhead hrest (ih (by omega))

/-- Escaping adds backslashes only. -/
theorem Escaped.mem_of_mem {cs out : List Char} (h : Escaped cs out) {c : Char} (hc : c ∈ out) :
    c = '\\' ∨ c ∈ cs := by
  induction h with
  | nil => exact absurd hc List.not_mem_nil
  | char hslash hbracket h ih =>
      rcases List.mem_cons.mp hc with rfl | hc
      · exact Or.inr List.mem_cons_self
      · exact (ih hc).imp_right (List.mem_cons_of_mem _)
  | slashes hpos hslash hbracket h ih =>
      rcases List.mem_append.mp hc with hc | hc
      · exact Or.inl (List.mem_replicate.mp hc).2
      · exact (ih hc).imp_right (List.mem_append_right _)
  | bracket htag h ih =>
      simp only [List.mem_append, List.mem_cons, List.mem_replicate] at hc ⊢
      grind
  | tag htag h ih =>
      simp only [List.mem_append, List.mem_cons, List.mem_replicate] at hc ⊢
      grind

/-- The first bracket of a text. -/
def bracket? (cs : List Char) : Option Char :=
  cs.find? fun d => d == ']' || d == '['

theorem bracket?_replicate (n : Nat) (rest : List Char) :
    bracket? (List.replicate n '\\' ++ rest) = bracket? rest := by
  induction n with
  | zero => rfl
  | succ n ih => exact ih

/-- Escaping keeps the first bracket. -/
theorem Escaped.bracket?_eq {cs out : List Char} (h : Escaped cs out) (s : List Char) :
    bracket? (out ++ s) = bracket? (cs ++ s) := by
  induction h with
  | nil => rfl
  | @char c cs out hslash hbracket h ih =>
      rw [List.cons_append, List.cons_append, bracket?, bracket?, List.find?_cons, List.find?_cons]
      split
      · rfl
      · exact ih
  | slashes hpos hslash hbracket h ih =>
      rw [List.append_assoc, List.append_assoc, bracket?_replicate, bracket?_replicate]
      exact ih
  | bracket htag h ih =>
      -- the bracket itself comes first, so the rest does not matter
      rw [List.append_assoc, List.append_assoc, bracket?_replicate, bracket?_replicate]
      rfl
  | tag htag h ih =>
      rw [List.append_assoc, List.append_assoc, bracket?_replicate, bracket?_replicate]
      rfl

/-- A tag starts as one, and the first bracket behind its start closes it. -/
theorem bracket?_of_tag? {c : Char} {rest : List Char} :
    (tag? (c :: rest)).isSome = true ↔ startsTag c = true ∧ bracket? rest = some ']' := by
  constructor
  · intro h
    obtain ⟨⟨tag, after⟩, htag⟩ := Option.isSome_iff_exists.mp h
    obtain ⟨⟨c', more, rfl, hstart, hmore⟩, heq⟩ := isTag_of_tag? htag
    cases heq
    refine ⟨hstart, ?_⟩
    have hnone : more.find? (fun d => d == ']' || d == '[') = none := by
      rw [List.find?_eq_none]
      intro d hd
      simpa using hmore d hd
    show bracket? (more ++ ']' :: after) = some ']'
    rw [bracket?, List.find?_append, hnone]
    rfl
  · rintro ⟨hstart, hclose⟩
    obtain ⟨-, more, after, rfl, hmore⟩ := List.find?_eq_some_iff_append.mp hclose
    have htag : IsTag (c :: more) := by
      refine ⟨c, more, rfl, hstart, ?_⟩
      intro d hd
      simpa using hmore d hd
    show (tag? ((c :: more) ++ ']' :: after)).isSome = true
    rw [tag?_append htag]
    rfl

/-- A tag does not start with a backslash or a bracket. -/
theorem tag?_eq_none_of_start {c : Char} (rest : List Char) (h : startsTag c = false) :
    tag? (c :: rest) = none := by
  rw [← Option.not_isSome_iff_eq_none, bracket?_of_tag?, h]
  rintro ⟨hstart, -⟩
  exact Bool.noConfusion hstart

/-- What may follow an escaped text: it makes no tag of a bracket before it. -/
structure Follows (s : List Char) : Prop where
  tag : tag? s = none
  bracket : bracket? s ≠ some ']'

/-- What opens no tag opens none after escaping. -/
theorem Escaped.tag?_eq_none {cs out s : List Char} (h : Escaped cs out) (hs : Follows s)
    (hcs : tag? cs = none) : tag? (out ++ s) = none := by
  cases h with
  | nil => exact hs.tag
  | @char c cs out hslash hbracket h =>
      rw [List.cons_append, ← Option.not_isSome_iff_eq_none, bracket?_of_tag?, h.bracket?_eq]
      rw [← Option.not_isSome_iff_eq_none, bracket?_of_tag?] at hcs
      rintro ⟨hc, hclose⟩
      -- the bracket that would close the tag stands in the text or behind it
      rw [bracket?, List.find?_append] at hclose
      rcases Option.or_eq_some_iff.mp hclose with hfirst | ⟨-, hsecond⟩
      · exact hcs ⟨hc, hfirst⟩
      · exact hs.bracket hsecond
  | @slashes n rest out hpos hslash hbracket h =>
      obtain ⟨m, rfl⟩ := Nat.exists_eq_succ_of_ne_zero (Nat.pos_iff_ne_zero.mp hpos)
      exact tag?_eq_none_of_start _ rfl
  | @bracket n rest out htag h =>
      cases n with
      | zero => exact tag?_eq_none_of_start _ rfl
      | succ n => exact tag?_eq_none_of_start _ rfl
  | tag htag h => exact tag?_eq_none_of_start _ rfl

/-! ## What comes back -/

/-- Whether a text starts with a bracket that opens no tag. -/
def opensNothing : List Char → Bool
  | '[' :: rest => (tag? rest).isNone
  | _ => false

/-- A text without the backslashes that stand directly before a bracket that opens no
    tag.  Escaping does not double them, and reading takes one away. -/
def unslashed : List Char → List Char
  | [] => []
  | c :: cs => if c = '\\' ∧ opensNothing cs = true then unslashed cs else c :: unslashed cs

theorem opensNothing_of_head {cs : List Char} (h : cs.head? ≠ some '[') :
    opensNothing cs = false := by
  rw [opensNothing]
  rintro rest rfl
  exact h rfl

theorem unslashed_cons_of_ne {c : Char} (h : c ≠ '\\') (cs : List Char) :
    unslashed (c :: cs) = c :: unslashed cs := by
  rw [unslashed, if_neg (fun hc => h hc.1)]

/-- Backslashes stay if what follows opens a tag or is no bracket. -/
theorem unslashed_replicate (n : Nat) {rest : List Char} (h : opensNothing rest = false) :
    unslashed (List.replicate n '\\' ++ rest) = List.replicate n '\\' ++ unslashed rest := by
  induction n with
  | zero => rfl
  | succ n ih =>
      have hkept : opensNothing (List.replicate n '\\' ++ rest) = false := by
        cases n with
        | zero => exact h
        | succ n => rfl
      rw [List.replicate_succ, List.cons_append, unslashed, if_neg, ih]
      · rfl
      · rintro ⟨-, hlost⟩
        exact Bool.noConfusion (hlost.symm.trans hkept)

/-- Of backslashes before a bracket that opens no tag, one is taken away. -/
theorem unslashed_bracket (n : Nat) {rest : List Char} (h : tag? rest = none) :
    unslashed (List.replicate n '\\' ++ '[' :: rest)
      = List.replicate (n - 1) '\\' ++ '[' :: unslashed rest := by
  have hopens : opensNothing ('[' :: rest) = true := Option.isNone_iff_eq_none.mpr h
  have hbracket := unslashed_cons_of_ne (c := '[') (by decide) rest
  cases n with
  | zero => exact hbracket
  | succ n =>
      rw [List.replicate_succ', List.append_assoc, unslashed_replicate n rfl]
      show _ ++ unslashed ('\\' :: '[' :: rest) = _
      rw [unslashed, if_pos ⟨rfl, hopens⟩, hbracket]
      rfl

/-- A text without brackets stays, whatever follows it but a bracket. -/
theorem unslashed_append {xs ys : List Char} (hxs : '[' ∉ xs) (hys : ys.head? ≠ some '[') :
    unslashed (xs ++ ys) = xs ++ unslashed ys := by
  induction xs with
  | nil => rfl
  | cons c xs ih =>
      rw [List.mem_cons, not_or] at hxs
      have hnext : (xs ++ ys).head? ≠ some '[' := by
        cases xs with
        | nil => exact hys
        | cons d xs =>
            intro hhead
            exact hxs.2 (Option.some.inj hhead ▸ List.mem_cons_self)
      rw [List.cons_append, unslashed, if_neg, ih hxs.2]
      · rfl
      · rintro ⟨-, hlost⟩
        exact Bool.noConfusion (hlost.symm.trans (opensNothing_of_head hnext))

/-- A tag stays, with its backslashes. -/
theorem IsTag.unslashed_eq {tag : List Char} (h : IsTag tag) (n : Nat) (after : List Char) :
    unslashed (List.replicate n '\\' ++ '[' :: (tag ++ ']' :: after))
      = List.replicate n '\\' ++ '[' :: (tag ++ ']' :: unslashed after) := by
  have hopens : opensNothing ('[' :: (tag ++ ']' :: after)) = false := by
    show (tag? (tag ++ ']' :: after)).isNone = false
    rw [tag?_append h]
    rfl
  have hbare : '[' ∉ tag := by
    obtain ⟨c, more, rfl, hstart, hmore⟩ := h
    intro hmem
    rcases List.mem_cons.mp hmem with rfl | hmem
    · exact absurd hstart (by decide)
    · exact (hmore _ hmem).2 rfl
  rw [unslashed_replicate n hopens, unslashed_cons_of_ne (by decide),
    unslashed_append hbare (by simp), unslashed_cons_of_ne (by decide)]

/-- How many backslashes stand at the end of a text. -/
def slashesAtEnd (cs : List Char) : Nat :=
  (cs.reverse.takeWhile (· == '\\')).length

theorem slashesAtEnd_replicate (n : Nat) : slashesAtEnd (List.replicate n '\\') = n := by
  simp [slashesAtEnd]

/-- Only what stands behind the last other character counts. -/
theorem slashesAtEnd_append_cons (xs : List Char) {c : Char} (h : c ≠ '\\') (ys : List Char) :
    slashesAtEnd (xs ++ c :: ys) = slashesAtEnd ys := by
  have hstop : (c :: xs.reverse).takeWhile (· == '\\') = [] := by simp [h]
  rw [slashesAtEnd, slashesAtEnd, List.reverse_append, List.reverse_cons, List.append_assoc,
    List.singleton_append, List.takeWhile_append, hstop]
  split
  · rename_i hall
    rw [List.append_nil, hall]
  · rfl

theorem slashesAtEnd_append (xs : List Char) {c : Char} (h : c ≠ '\\') (ys : List Char) :
    slashesAtEnd (xs ++ c :: ys) = slashesAtEnd (c :: ys) :=
  (slashesAtEnd_append_cons xs h ys).trans (slashesAtEnd_append_cons [] h ys).symm

/-! ## Reading -/

/-- The character that a piece is. -/
def Piece.char? : Piece → Option Char
  | .char c => some c
  | _ => none

theorem eq_char {p : Piece} {c : Char} (h : p.char? = some c) : p = .char c := by
  cases p with
  | char d =>
      cases h
      rfl
  | bound => cases h
  | tag text position => cases h

/-- The characters among pieces of markup. -/
def charsOf (ps : List Piece) : List Char := ps.filterMap Piece.char?

theorem charsOf_nil : charsOf [] = [] := rfl

theorem charsOf_cons_of_char?_eq_none {p : Piece} (h : p.char? = none) (ps : List Piece) :
    charsOf (p :: ps) = charsOf ps :=
  List.filterMap_cons_none h

@[simp] theorem charsOf_append (ps qs : List Piece) :
    charsOf (ps ++ qs) = charsOf ps ++ charsOf qs :=
  List.filterMap_append

@[simp] theorem charsOf_map_char (cs : List Char) : charsOf (cs.map Piece.char) = cs := by
  rw [charsOf, List.filterMap_map]
  exact List.filterMap_some

@[simp] theorem charsOf_replicate (n : Nat) :
    charsOf (List.replicate n (Piece.char '\\')) = List.replicate n '\\' := by
  rw [← List.map_replicate, charsOf_map_char]

@[simp] theorem charsOf_tagAsText (tag : List Char) :
    charsOf (tagAsText tag) = ('[' :: tag) ++ [']'] := by
  show charsOf (_ ++ [Piece.bound]) = _
  rw [charsOf_append, charsOf_map_char]
  exact List.append_nil _

/-- Whether a piece is a tag. -/
def Piece.isTag : Piece → Bool
  | .tag .. => true
  | _ => false

/-- Pieces of which none is a tag. -/
def Tagless (ps : List Piece) : Prop := ∀ p ∈ ps, p.isTag = false

theorem tagless_map_char (cs : List Char) : Tagless (cs.map Piece.char) :=
  List.forall_mem_map.mpr fun _ _ => rfl

theorem tagless_replicate (n : Nat) : Tagless (List.replicate n (Piece.char '\\')) := by
  rw [← List.map_replicate]
  exact tagless_map_char _

theorem Tagless.append {ps qs : List Piece} (hps : Tagless ps) (hqs : Tagless qs) :
    Tagless (ps ++ qs) :=
  List.forall_mem_append.mpr ⟨hps, hqs⟩

theorem tagless_tagAsText (tag : List Char) : Tagless (tagAsText tag) :=
  List.forall_mem_cons.mpr
    ⟨rfl, (tagless_map_char _).append (List.forall_mem_singleton.mpr rfl)⟩

/-- A character that is neither a backslash nor an opening bracket is read as itself. -/
theorem pieces_char {c : Char} (hslash : c ≠ '\\') (hbracket : c ≠ '[') (fuel position : Nat)
    (cs : List Char) :
    pieces (fuel + 1) position (c :: cs) = .char c :: pieces fuel (position + 1) cs := by
  have hread : backslashes (c :: cs) = (0, c :: cs) :=
    backslashes_replicate 0 (by simpa using hslash)
  rw [pieces, hread]
  split
  · rename_i heq
    cases heq
    exact absurd rfl hbracket
  · rename_i heq
    cases heq
    rfl

/-- Backslashes that no opening bracket follows are read as themselves. -/
theorem pieces_slashes {n : Nat} (hpos : 0 < n) {rest : List Char}
    (hslash : rest.head? ≠ some '\\') (hbracket : rest.head? ≠ some '[') (fuel position : Nat) :
    pieces (fuel + 1) position (List.replicate n '\\' ++ rest)
      = List.replicate n (.char '\\') ++ pieces fuel (position + n) rest := by
  have hread := backslashes_replicate n hslash
  obtain ⟨m, rfl⟩ := Nat.exists_eq_succ_of_ne_zero (Nat.pos_iff_ne_zero.mp hpos)
  rw [List.replicate_succ, List.cons_append] at hread ⊢
  rw [pieces, hread]
  split
  · rename_i heq
    cases heq
    exact absurd rfl hbracket
  · rename_i heq
    cases heq
    rfl

/-- An opening bracket is read with the backslashes before it: it opens a tag, or it is
    text. -/
theorem pieces_open (fuel position n : Nat) (rest : List Char) :
    pieces (fuel + 1) position (List.replicate n '\\' ++ '[' :: rest) =
      match tag? rest with
      | some (tag, after) =>
          List.replicate (n / 2) (Piece.char '\\') ++
            (if n % 2 = 1 then tagAsText tag else [.tag tag (position + n)]) ++
            pieces fuel (position + (n + tag.length + 2)) after
      | none =>
          List.replicate (n - 1) (.char '\\') ++ .char '[' ::
            pieces fuel (position + n + 1) rest := by
  have hread : backslashes (List.replicate n '\\' ++ '[' :: rest) = (n, '[' :: rest) :=
    backslashes_replicate n (by simp)
  cases n with
  | zero =>
      rw [List.replicate_zero, List.nil_append] at hread ⊢
      rw [pieces, hread]
      rfl
  | succ n =>
      rw [List.replicate_succ, List.cons_append] at hread ⊢
      rw [pieces, hread]
      rfl

/-- A tag is read as one after an even number of backslashes, and else as text. -/
theorem pieces_tag {tag : List Char} (h : IsTag tag) (fuel position n : Nat)
    (after : List Char) :
    pieces (fuel + 1) position (List.replicate n '\\' ++ '[' :: (tag ++ ']' :: after)) =
      List.replicate (n / 2) (Piece.char '\\') ++
        (if n % 2 = 1 then tagAsText tag else [.tag tag (position + n)]) ++
        pieces fuel (position + (n + tag.length + 2)) after := by
  rw [pieces_open, tag?_append h]

/-- Escaping keeps whether a text is empty, and how a plain one starts. -/
theorem Escaped.head?_eq {cs out : List Char} (h : Escaped cs out)
    (hslash : cs.head? ≠ some '\\') (hbracket : cs.head? ≠ some '[') : out.head? = cs.head? := by
  cases h with
  | nil => rfl
  | char => rfl
  | @slashes n rest out hpos _ _ h =>
      obtain ⟨m, rfl⟩ := Nat.exists_eq_succ_of_ne_zero (Nat.pos_iff_ne_zero.mp hpos)
      exact absurd rfl hslash
  | @bracket n rest out htag h =>
      cases n with
      | zero => exact absurd rfl hbracket
      | succ n => exact absurd rfl hslash
  | @tag n tag after out htag h =>
      cases n with
      | zero => exact absurd rfl hbracket
      | succ n => exact absurd rfl hslash

/-- Escaping keeps the backslashes at the end. -/
theorem Escaped.slashesAtEnd_eq {cs out : List Char} (h : Escaped cs out) :
    slashesAtEnd out = slashesAtEnd cs := by
  induction h with
  | nil => rfl
  | @char c cs out hslash hbracket h ih =>
      have hend := fun xs : List Char => slashesAtEnd_append_cons [] hslash xs
      exact (hend out).trans (ih.trans (hend cs).symm)
  | @slashes n rest out hpos hslash hbracket h ih =>
      have hhead := h.head?_eq hslash hbracket
      cases rest with
      | nil => rw [List.head?_eq_none_iff.mp hhead]
      | cons d rest =>
          obtain ⟨more, rfl⟩ := List.head?_eq_some_iff.mp hhead
          have hd : d ≠ '\\' := by simpa using hslash
          rw [slashesAtEnd_append _ hd, slashesAtEnd_append _ hd, ih]
  | bracket htag h ih =>
      rw [slashesAtEnd_append_cons _ (by decide), slashesAtEnd_append_cons _ (by decide), ih]
  | @tag n tag after out htag h ih =>
      have hend := fun (k : Nat) (xs : List Char) => slashesAtEnd_append_cons
        (List.replicate k '\\' ++ '[' :: tag) (by decide : ']' ≠ '\\') xs
      simp only [List.append_assoc, List.cons_append] at hend
      rw [hend, hend, ih]

/-- **An escaped text is read as its own characters**, up to the backslashes at its end,
    which are read with what follows. -/
theorem Escaped.pieces {cs out s : List Char} (h : Escaped cs out) (hs : Follows s)
    {fuel : Nat} (position : Nat) (hfuel : (out ++ s).length ≤ fuel) :
    ∃ (ps : List Piece) (fuel' position' : Nat),
      Tagless ps ∧ unslashed cs = charsOf ps ++ List.replicate (slashesAtEnd cs) '\\' ∧
      (List.replicate (slashesAtEnd cs) '\\' ++ s).length ≤ fuel' ∧
      Markup.pieces fuel position (out ++ s) = ps ++
        Markup.pieces fuel' position' (List.replicate (slashesAtEnd cs) '\\' ++ s) := by
  induction h generalizing fuel position with
  | nil => exact ⟨[], fuel, position, List.forall_mem_nil _, rfl, hfuel, rfl⟩
  | @char c cs out hslash hbracket h ih =>
      cases fuel with
      | zero => simp at hfuel
      | succ fuel =>
          rw [List.cons_append, List.length_cons] at hfuel
          obtain ⟨ps, fuel', position', hps, htext, hle, heq⟩ :=
            ih (position + 1) (Nat.le_of_succ_le_succ hfuel)
          have hend : slashesAtEnd (c :: cs) = slashesAtEnd cs :=
            slashesAtEnd_append_cons [] hslash cs
          refine ⟨.char c :: ps, fuel', position', List.forall_mem_cons.mpr ⟨rfl, hps⟩, ?_,
            hend ▸ hle, ?_⟩
          · rw [unslashed_cons_of_ne hslash, htext, hend]
            rfl
          · rw [List.cons_append, pieces_char hslash hbracket, heq, hend]
            rfl
  | @slashes n rest out hpos hslash hbracket h ih =>
      have hhead := h.head?_eq hslash hbracket
      have hkept := unslashed_replicate n (opensNothing_of_head hbracket)
      cases rest with
      | nil =>
          -- nothing stops the backslashes from belonging to what follows
          have hout : out = [] := List.head?_eq_none_iff.mp hhead
          simp only [hout, List.append_nil, slashesAtEnd_replicate] at hfuel hkept ⊢
          exact ⟨[], fuel, position, List.forall_mem_nil _, hkept.trans (List.append_nil _), hfuel,
            rfl⟩
      | cons d rest =>
          cases fuel with
          | zero =>
              simp only [List.length_append, List.length_replicate] at hfuel
              omega
          | succ fuel =>
              have hlength : (out ++ s).length ≤ fuel := by
                rw [List.append_assoc, List.length_append, List.length_replicate] at hfuel
                omega
              have hd : d ≠ '\\' := by simpa using hslash
              have hend := slashesAtEnd_append (List.replicate n '\\') hd rest
              obtain ⟨ps, fuel', position', hps, htext, hle, heq⟩ := ih (position + n) hlength
              obtain ⟨more, rfl⟩ := List.head?_eq_some_iff.mp hhead
              have hslash' : (d :: more ++ s).head? ≠ some '\\' := hslash
              have hbracket' : (d :: more ++ s).head? ≠ some '[' := hbracket
              refine ⟨List.replicate n (.char '\\') ++ ps, fuel', position',
                (tagless_replicate n).append hps, ?_, hend ▸ hle, ?_⟩
              · rw [hkept, htext, hend, charsOf_append, charsOf_replicate, List.append_assoc]
              · rw [List.append_assoc, pieces_slashes hpos hslash' hbracket', heq, hend,
                  List.append_assoc]
  | @bracket n rest out htag h ih =>
      cases fuel with
      | zero => simp at hfuel
      | succ fuel =>
          have hlength : (out ++ s).length ≤ fuel := by
            rw [List.append_assoc, List.length_append, List.cons_append, List.length_cons] at hfuel
            omega
          have hend : slashesAtEnd (List.replicate n '\\' ++ '[' :: rest) = slashesAtEnd rest :=
            slashesAtEnd_append_cons _ (by decide) rest
          obtain ⟨ps, fuel', position', hps, htext, hle, heq⟩ := ih (position + n + 1) hlength
          refine ⟨List.replicate (n - 1) (.char '\\') ++ .char '[' :: ps, fuel', position',
            (tagless_replicate _).append (List.forall_mem_cons.mpr ⟨rfl, hps⟩), ?_,
            hend ▸ hle, ?_⟩
          · rw [unslashed_bracket n htag, htext, hend, charsOf_append, charsOf_replicate,
              List.append_assoc]
            rfl
          · rw [List.append_assoc, List.cons_append, pieces_open, h.tag?_eq_none hs htag, heq, hend,
              List.append_assoc]
            rfl
  | @tag n tag after out htag h ih =>
      cases fuel with
      | zero => simp at hfuel
      | succ fuel =>
          have hlength : (out ++ s).length ≤ fuel := by
            simp only [List.length_append, List.length_cons] at hfuel ⊢
            omega
          have hend : slashesAtEnd (List.replicate n '\\' ++ '[' :: (tag ++ ']' :: after))
              = slashesAtEnd after := by
            rw [slashesAtEnd_append_cons _ (by decide : '[' ≠ '\\'),
              slashesAtEnd_append_cons _ (by decide : ']' ≠ '\\')]
          obtain ⟨ps, fuel', position', hps, htext, hle, heq⟩ :=
            ih (position + (2 * n + 1 + tag.length + 2)) hlength
          refine ⟨List.replicate n (.char '\\') ++ tagAsText tag ++ ps, fuel', position',
            ((tagless_replicate n).append (tagless_tagAsText tag)).append hps, ?_, hend ▸ hle, ?_⟩
          · rw [htag.unslashed_eq n after, htext, hend]
            simp
          · -- the number of backslashes is odd, so the tag is text
            have hhalf : (2 * n + 1) / 2 = n := by omega
            have hodd : (2 * n + 1) % 2 = 1 := by omega
            rw [List.append_assoc, List.cons_append, List.append_assoc, List.cons_append,
              pieces_tag htag, hhalf, if_pos hodd, heq, hend]
            simp

/-! ## Text and tags together -/

theorem pieces_nil (fuel position : Nat) : pieces fuel position [] = [] := by
  cases fuel with
  | zero => rfl
  | succ fuel => rfl

/-- Backslashes at the end are characters. -/
theorem pieces_replicate {fuel n : Nat} (position : Nat) (hfuel : n ≤ fuel) :
    pieces fuel position (List.replicate n '\\') = (List.replicate n '\\').map Piece.char := by
  rw [List.map_replicate]
  cases n with
  | zero => exact pieces_nil fuel position
  | succ n =>
      cases fuel with
      | zero => exact absurd hfuel (Nat.not_succ_le_zero n)
      | succ fuel =>
          have h : pieces (fuel + 1) position (List.replicate (n + 1) '\\' ++ []) = _ :=
            pieces_slashes (Nat.succ_pos n) (by simp) (by simp) fuel position
          rw [List.append_nil, pieces_nil, List.append_nil] at h
          exact h

/-- The name of a style as a tag: it opens nothing but itself, and the closing tag
    names it. -/
structure StyleTag (tag : List Char) : Prop where
  isTag : IsTag tag
  opens : tag.head? ≠ some '/'
  bare : '=' ∉ tag
  trimmed : Text.trim tag = tag

theorem takeWhile_bare {tag : List Char} (h : '=' ∉ tag) : tag.takeWhile (· != '=') = tag := by
  rw [List.takeWhile_eq_self_iff]
  intro c hc
  rw [bne_iff_ne]
  rintro rfl
  exact h hc

theorem StyleTag.isTag_close {tag : List Char} (h : StyleTag tag) : IsTag ('/' :: tag) := by
  obtain ⟨c, more, rfl, hstart, hmore⟩ := h.isTag
  refine ⟨'/', c :: more, rfl, rfl, ?_⟩
  intro d hd
  rcases List.mem_cons.mp hd with rfl | hd
  · refine ⟨?_, ?_⟩
    · rintro rfl
      exact absurd hstart (by decide)
    · rintro rfl
      exact absurd hstart (by decide)
  · exact hmore d hd

/-- What follows an escaped text in a report: backslashes, then nothing or an opening
    bracket. -/
theorem follows_of_head (j : Nat) {s : List Char} (h : s = [] ∨ s.head? = some '[') :
    Follows (List.replicate j '\\' ++ s) := by
  constructor
  · cases j with
    | succ j => exact tag?_eq_none_of_start _ rfl
    | zero =>
        cases s with
        | nil => rfl
        | cons c s =>
            rcases h with h | h
            · cases h
            · cases h
              exact tag?_eq_none_of_start _ rfl
  · rw [bracket?_replicate]
    cases s with
    | nil => exact nofun
    | cons c s =>
        rcases h with h | h
        · cases h
        · cases h
          exact nofun

/-- An escaped text is read as its own characters, with any number of backslashes behind
    it. -/
theorem Escaped.pieces_replicate {cs out : List Char} (h : Escaped cs out) (j : Nat) :
    ∃ ps, Tagless ps ∧ charsOf ps = unslashed cs ++ List.replicate j '\\' ∧
      Markup.pieces (out ++ List.replicate j '\\').length 0 (out ++ List.replicate j '\\') = ps := by
  have hs : Follows (List.replicate j '\\' ++ []) := follows_of_head j (Or.inl rfl)
  rw [List.append_nil] at hs
  obtain ⟨ps, fuel, position, hps, htext, hle, heq⟩ := h.pieces hs 0 (Nat.le_refl _)
  rw [List.replicate_append_replicate] at hle heq
  rw [List.length_replicate] at hle
  rw [Markup.pieces_replicate position hle] at heq
  refine ⟨_, hps.append (tagless_map_char _), ?_, heq⟩
  rw [charsOf_append, charsOf_map_char, htext, List.append_assoc,
    List.replicate_append_replicate]

/-- The characters of a tag behind backslashes: half of them, and the tag itself if their
    number is odd. -/
def tagText (n : Nat) (tag : List Char) : List Char :=
  List.replicate (n / 2) '\\' ++ if n % 2 = 1 then ('[' :: tag) ++ [']'] else []

/-- A tag at the end is read as text, or as a tag behind some text. -/
theorem pieces_tag_end {tag : List Char} (h : IsTag tag) {fuel n : Nat} (position : Nat)
    (hfuel : (List.replicate n '\\' ++ '[' :: (tag ++ [']'])).length ≤ fuel) :
    ∃ ps last : List Piece, Tagless ps ∧ charsOf ps = tagText n tag ∧
      (last = [] ∨ last = [.tag tag (position + n)]) ∧
      pieces fuel position (List.replicate n '\\' ++ '[' :: (tag ++ [']'])) = ps ++ last := by
  cases fuel with
  | zero => simp at hfuel
  | succ fuel =>
      rw [pieces_tag h, pieces_nil, List.append_nil, tagText]
      by_cases hodd : n % 2 = 1
      · refine ⟨List.replicate (n / 2) (.char '\\') ++ tagAsText tag, [],
          (tagless_replicate _).append (tagless_tagAsText tag), ?_, Or.inl rfl, ?_⟩
        · rw [charsOf_append, charsOf_replicate, charsOf_tagAsText, if_pos hodd]
        · rw [if_pos hodd, List.append_nil]
      · refine ⟨List.replicate (n / 2) (.char '\\'), _, tagless_replicate _, ?_, Or.inr rfl, ?_⟩
        · rw [charsOf_replicate, if_neg hodd, List.append_nil]
        · rw [if_neg hodd]

/-- **Between the tags of a style an escaped text is read as its own characters.**  The
    backslashes at its end are read with the closing tag. -/
theorem Escaped.pieces_tagged {cs out : List Char} (h : Escaped cs out) {tag : String}
    (htag : StyleTag tag.toList) (j : Nat) :
    ∃ (text : List Char) (position : Nat) (ps last : List Piece),
      unslashed cs = text ++ List.replicate (slashesAtEnd cs) '\\' ∧
      (last = [] ∨ last = [.tag ('/' :: tag.toList) position]) ∧
      Tagless ps ∧ charsOf ps = text ++ tagText (slashesAtEnd cs + j) ('/' :: tag.toList) ∧
      Markup.pieces (tagged tag (out ++ List.replicate j '\\')).length 0
        (tagged tag (out ++ List.replicate j '\\')) = .tag tag.toList 0 :: (ps ++ last) := by
  -- behind the opening tag stands the text, and behind that the closing tag
  obtain ⟨close, hclose⟩ : ∃ close, close = '[' :: (('/' :: tag.toList) ++ [']']) := ⟨_, rfl⟩
  have htagged : tagged tag (out ++ List.replicate j '\\')
      = '[' :: (tag.toList ++ ']' :: (out ++ (List.replicate j '\\' ++ close))) := by
    simp [tagged, hclose]
  have hs : Follows (List.replicate j '\\' ++ close) :=
    follows_of_head j (Or.inr (by rw [hclose]; rfl))
  have hlength : (out ++ (List.replicate j '\\' ++ close)).length ≤
      (tag.toList ++ ']' :: (out ++ (List.replicate j '\\' ++ close))).length := by
    simp only [List.length_append, List.length_cons]
    omega
  obtain ⟨ps, fuel, position, hps, htext, hle, hinside⟩ :=
    h.pieces hs (0 + (0 + tag.toList.length + 2)) hlength
  have hmerge : List.replicate (slashesAtEnd cs) '\\' ++ (List.replicate j '\\' ++ close)
      = List.replicate (slashesAtEnd cs + j) '\\' ++ '[' :: (('/' :: tag.toList) ++ [']']) := by
    rw [← List.append_assoc, List.replicate_append_replicate, hclose]
  rw [hmerge] at hle hinside
  obtain ⟨qs, last, hqs, hchars, hlast, hend⟩ := pieces_tag_end htag.isTag_close position hle
  refine ⟨charsOf ps, _, ps ++ qs, last, htext, hlast, hps.append hqs, ?_, ?_⟩
  · rw [charsOf_append, hchars]
  · have hopen := pieces_tag htag.isTag (tag.toList ++ ']' ::
      (out ++ (List.replicate j '\\' ++ close))).length 0 0 (out ++ (List.replicate j '\\' ++ close))
    rw [hinside, hend] at hopen
    rw [htagged, List.length_cons, List.append_assoc]
    exact hopen

/-! ## Emoji -/

section Host

variable [Host]

/-- Without colons there is no name of an emoji. -/
theorem replaceNames_none {cs : List Char} (h : ':' ∉ cs) : replaceNames none cs = cs := by
  induction cs with
  | nil => rfl
  | cons c cs ih =>
      rw [List.mem_cons, not_or] at h
      rw [replaceNames, if_neg (Ne.symm h.1), ih h.2]

/-- A colon without another one behind it is text. -/
theorem replaceNames_some {cs : List Char} (h : ':' ∉ cs) (name : List Char) :
    replaceNames (some name) cs = ':' :: name.reverse ++ cs := by
  induction cs generalizing name with
  | nil => exact (List.append_nil _).symm
  | cons c cs ih =>
      rw [List.mem_cons, not_or] at h
      rw [replaceNames, if_neg (Ne.symm h.1)]
      split
      · rw [replaceNames_none h.2]
      · rw [ih h.2, List.reverse_cons]
        simp

/-- A stretch with no more than one colon stays as it is. -/
theorem replaceNames_of_count {cs : List Char} (h : cs.count ':' ≤ 1) :
    replaceNames none cs = cs := by
  induction cs with
  | nil => rfl
  | cons c cs ih =>
      rw [replaceNames]
      by_cases hc : c = ':'
      · subst hc
        rw [List.count_cons_self] at h
        rw [if_pos rfl, replaceNames_some (List.count_eq_zero.mp (by omega))]
        rfl
      · rw [List.count_cons_of_ne hc] at h
        rw [if_neg hc, ih h]

/-- A stretch ends where something else than a character follows. -/
theorem withEmoji_of_char?_eq_none {p : Piece} (h : p.char? = none) (stretch : List Char)
    (ps : List Piece) :
    withEmoji stretch (p :: ps)
      = (replaceNames none stretch.reverse).map .char ++ p :: withEmoji [] ps := by
  cases p with
  | char c => cases h
  | bound => rfl
  | tag text position => rfl

/-- Markup with no more than one colon shows its own characters. -/
theorem charsOf_withEmoji {stretch : List Char} {ps : List Piece}
    (h : (stretch.reverse ++ charsOf ps).count ':' ≤ 1) :
    charsOf (withEmoji stretch ps) = stretch.reverse ++ charsOf ps := by
  induction ps generalizing stretch with
  | nil =>
      rw [charsOf_nil, List.append_nil] at h ⊢
      rw [withEmoji, charsOf_map_char, replaceNames_of_count h]
  | cons p ps ih =>
      cases hp : p.char? with
      | some c =>
          cases eq_char hp
          have hstretch : stretch.reverse ++ charsOf (.char c :: ps)
              = (c :: stretch).reverse ++ charsOf ps := by
            rw [List.reverse_cons, List.append_assoc]
            rfl
          rw [hstretch] at h ⊢
          exact ih h
      | none =>
          rw [charsOf_cons_of_char?_eq_none hp, List.count_append] at h
          -- a tag ends the stretch, and what is behind it holds no more colons
          have hcount : ([].reverse ++ charsOf ps).count ':' ≤ 1 :=
            Nat.le_trans (Nat.le_add_left _ _) h
          have hrest := ih hcount
          rw [withEmoji_of_char?_eq_none hp, charsOf_append, charsOf_map_char,
            charsOf_cons_of_char?_eq_none hp, charsOf_cons_of_char?_eq_none hp, hrest,
            replaceNames_of_count (by omega)]
          rfl

/-- Emoji make no tags. -/
theorem Tagless.withEmoji {ps : List Piece} (h : Tagless ps) (stretch : List Char) :
    Tagless (Markup.withEmoji stretch ps) := by
  induction ps generalizing stretch with
  | nil => exact tagless_map_char _
  | cons p ps ih =>
      obtain ⟨hp, hps⟩ := List.forall_mem_cons.mp h
      cases hchar : p.char? with
      | some c =>
          cases eq_char hchar
          exact ih hps _
      | none =>
          rw [withEmoji_of_char?_eq_none hchar]
          exact (tagless_map_char _).append (List.forall_mem_cons.mpr ⟨hp, ih hps _⟩)

/-- What stands before a tag and what stands behind it are looked at by themselves. -/
theorem withEmoji_append_tag (stretch : List Char) (ps : List Piece) (tag : List Char)
    (position : Nat) (rest : List Piece) :
    withEmoji stretch (ps ++ .tag tag position :: rest)
      = withEmoji stretch ps ++ .tag tag position :: withEmoji [] rest := by
  induction ps generalizing stretch with
  | nil => rfl
  | cons p ps ih =>
      cases hp : p.char? with
      | some c =>
          cases eq_char hp
          exact ih _
      | none =>
          rw [List.cons_append, withEmoji_of_char?_eq_none hp, withEmoji_of_char?_eq_none hp, ih,
            List.append_assoc]
          rfl

/-! ## Rendering -/

/-- Without tags everything is taken, and the open tags stay as they are. -/
theorem Tagless.exists_foldlM {ps : List Piece} (h : Tagless ps) (s : State) :
    ∃ t, ps.foldlM State.take s = .ok t ∧ t.opened = s.opened := by
  induction ps generalizing s with
  | nil => exact ⟨s, rfl, rfl⟩
  | cons p ps ih =>
      obtain ⟨hp, hps⟩ := List.forall_mem_cons.mp h
      obtain ⟨u, hu, hopened⟩ : ∃ u, s.take p = .ok u ∧ u.opened = s.opened := by
        cases p with
        | char c =>
            refine ⟨_, rfl, ?_⟩
            split
            · rfl
            · rfl
        | bound => exact ⟨s, rfl, rfl⟩
        | tag text position => cases hp
      obtain ⟨t, ht, hsame⟩ := ih hps u
      refine ⟨t, ?_, hsame.trans hopened⟩
      rw [List.foldlM_cons, hu]
      exact ht

/-- Markup without tags renders. -/
theorem Tagless.exists_render {cs : List Char} (h : Tagless (pieces cs.length 0 cs)) :
    ∃ shown, render cs = .ok shown := by
  obtain ⟨t, ht, -⟩ := (h.withEmoji []).exists_foldlM ⟨[], 0, [], []⟩
  refine ⟨t.finish, ?_⟩
  rw [render, ht]
  rfl

/-- The tag of a style opens it, and calls nothing. -/
theorem StyleTag.takeTag_open {tag : List Char} (h : StyleTag tag) (s : State) (position : Nat) :
    ∃ t o, s.takeTag tag position = .ok t ∧ t.opened = o :: s.opened ∧
      o.name = Style.tagName (String.ofList tag) ∧ o.call = none := by
  rw [State.takeTag, takeWhile_bare h.bare]
  split
  · exact absurd rfl h.opens
  · refine ⟨_, _, rfl, rfl, by rw [Open.ofTag, takeWhile_bare h.bare], ?_⟩
    -- behind the name there are no parameters
    have hnone : tag.drop (tag.length + 1) = [] := List.drop_eq_nil_of_le (Nat.le_succ _)
    simp [Open.ofTag, takeWhile_bare h.bare, hnone]

/-- The closing tag of a style closes it if it is the last one opened. -/
theorem StyleTag.takeTag_close {tag : List Char} (h : StyleTag tag) {s : State} {o : Open}
    {opened : List Open} (hopened : s.opened = o :: opened)
    (hname : o.name = Style.tagName (String.ofList tag)) (hcall : o.call = none)
    (position : Nat) : ∃ t, s.takeTag ('/' :: tag) position = .ok t := by
  have hname' : ('/' :: tag).takeWhile (· != '=') = '/' :: tag :=
    takeWhile_bare (by simpa using h.bare)
  have hempty : ¬tag.isEmpty = true := by
    obtain ⟨c, more, rfl, -⟩ := h.isTag
    exact Bool.noConfusion
  have hfind : s.opened.find? (fun o => o.name == Style.tagName (String.ofList tag)) = some o := by
    rw [hopened, List.find?_cons, hname, beq_self_eq_true]
  rw [State.takeTag, hname']
  show ∃ t, (if (Text.trim tag).isEmpty then _ else _) = Except.ok t
  rw [h.trimmed, if_neg hempty]
  dsimp only
  rw [hfind]
  dsimp only
  rw [State.close, hcall]
  exact ⟨_, rfl⟩

/-- A style that is opened behind some text may be closed behind more of it, or not at
    all. -/
theorem StyleTag.exists_render {tag : List Char} (h : StyleTag tag) {cs : List Char}
    {lead ps last : List Piece} {start position : Nat} (hlead : Tagless lead) (hps : Tagless ps)
    (hlast : last = [] ∨ last = [.tag ('/' :: tag) position])
    (hread : pieces cs.length 0 cs = lead ++ .tag tag start :: (ps ++ last)) :
    ∃ shown, render cs = .ok shown := by
  have hemoji : withEmoji [] (lead ++ .tag tag start :: (ps ++ last))
      = withEmoji [] lead ++ .tag tag start :: (withEmoji [] ps ++ last) := by
    rw [withEmoji_append_tag]
    rcases hlast with rfl | rfl
    · rw [List.append_nil, List.append_nil]
    · rw [withEmoji_append_tag]
      rfl
  -- what leads, the tag, what it styles and the closing tag are taken in turn
  obtain ⟨r, hr, -⟩ := (hlead.withEmoji []).exists_foldlM ⟨[], 0, [], []⟩
  obtain ⟨s, o, hopen, hopened, hname, hcall⟩ := h.takeTag_open r start
  obtain ⟨t, ht, hsame⟩ := (hps.withEmoji []).exists_foldlM s
  obtain ⟨u, hu⟩ : ∃ u, last.foldlM State.take t = .ok u := by
    rcases hlast with rfl | rfl
    · exact ⟨t, rfl⟩
    · obtain ⟨u, hu⟩ := h.takeTag_close (hsame.trans hopened) hname hcall position
      refine ⟨u, ?_⟩
      rw [List.foldlM_cons, State.take, hu]
      rfl
  have hfold : (withEmoji [] lead ++ Piece.tag tag start :: (withEmoji [] ps ++ last)).foldlM
      State.take ⟨[], 0, [], []⟩ = .ok u := by
    rw [List.foldlM_append, hr]
    show (Piece.tag tag start :: (withEmoji [] ps ++ last)).foldlM State.take r = _
    rw [List.foldlM_cons, State.take, hopen]
    show (withEmoji [] ps ++ last).foldlM State.take s = _
    rw [List.foldlM_append, ht]
    exact hu
  refine ⟨u.finish, ?_⟩
  rw [render, hread, hemoji, hfold]
  rfl

end Host

/-! ## Texts of a report -/

/-- A text in which nothing acts as markup. -/
def IsPlain (cs : List Char) : Prop :=
  ∀ c ∈ cs, c ≠ '\\' ∧ c ≠ '['

/-- Whether a text is plain can be seen character by character. -/
instance (cs : List Char) : Decidable (IsPlain cs) :=
  decidable_of_iff (cs.all (fun c => c != '\\' && c != '[') = true) (by simp [IsPlain])

/-- Escaping leaves a plain text as it is. -/
theorem Escaped.plain_append {lead cs out : List Char} (hlead : IsPlain lead)
    (h : Escaped cs out) : Escaped (lead ++ cs) (lead ++ out) := by
  induction lead with
  | nil => exact h
  | cons c lead ih =>
      obtain ⟨⟨hslash, hbracket⟩, hrest⟩ := List.forall_mem_cons.mp hlead
      exact Escaped.char hslash hbracket (ih hrest)

/-- What shows itself is the escaped text; a single backslash at its end is doubled. -/
theorem escape_eq (cs : List Char) : escape cs = escapeTags cs.length cs ++
    List.replicate (if slashesAtEnd cs = 1 then 1 else 0) '\\' := by
  have hend := (escaped_escapeTags (Nat.le_refl cs.length)).slashesAtEnd_eq
  rw [← hend, escape, slashesAtEnd]
  split
  · rename_i more hreverse
    rw [hreverse, if_neg (by simp), List.replicate_zero, List.append_nil]
  · rename_i more hsecond hreverse
    have hstop : more.takeWhile (· == '\\') = [] := by
      cases more with
      | nil => rfl
      | cons c more =>
          have hc : c ≠ '\\' := by
            rintro rfl
            exact hsecond more rfl
          simp [hc]
    rw [hreverse, List.takeWhile_cons_of_pos rfl, hstop, List.length_singleton, if_pos rfl]
    rfl
  · rename_i hfirst hsecond
    have hstop : (escapeTags cs.length cs).reverse.takeWhile (· == '\\') = [] := by
      cases hreverse : (escapeTags cs.length cs).reverse with
      | nil => rfl
      | cons c more =>
          have hc : c ≠ '\\' := by
            rintro rfl
            exact hsecond more hreverse
          simp [hc]
    rw [hstop, if_neg (by simp), List.replicate_zero, List.append_nil]

/-- Without brackets nothing is escaped. -/
theorem escaped_self {cs : List Char} (h : '[' ∉ cs) : Escaped cs cs := by
  have hself := escaped_escapeTags (Nat.le_refl cs.length)
  generalize escapeTags cs.length cs = out at hself
  have heq : out = cs := by
    induction hself with
    | nil => rfl
    | char hslash hbracket _ ih => rw [ih fun hmem => h (List.mem_cons_of_mem _ hmem)]
    | slashes hpos hslash hbracket _ ih => rw [ih fun hmem => h (List.mem_append_right _ hmem)]
    | bracket htag _ _ => exact absurd (List.mem_append_right _ List.mem_cons_self) h
    | tag htag _ _ => exact absurd (List.mem_append_right _ List.mem_cons_self) h
  rwa [heq] at hself

section Host

variable [Host]

/-- An escaped text renders, with any number of backslashes behind it. -/
theorem Escaped.exists_render {cs out : List Char} (h : Escaped cs out) (j : Nat) :
    ∃ text, render (out ++ List.replicate j '\\') = .ok text := by
  obtain ⟨ps, hps, -, heq⟩ := h.pieces_replicate j
  rw [← heq] at hps
  exact hps.exists_render

/-- An escaped text renders between the tags of a style. -/
theorem Escaped.exists_render_tagged {cs out : List Char} (h : Escaped cs out) {tag : String}
    (htag : StyleTag tag.toList) (j : Nat) :
    ∃ text, render (tagged tag (out ++ List.replicate j '\\')) = .ok text := by
  obtain ⟨text, position, ps, last, -, hlast, hps, -, hread⟩ := h.pieces_tagged htag j
  exact htag.exists_render (List.forall_mem_nil _) hps hlast hread

/-- **A plain text renders.** -/
theorem exists_render_plain {cs : List Char} (h : IsPlain cs) : ∃ text, render cs = .ok text := by
  have hself := (Escaped.nil.plain_append h).exists_render 0
  simpa using hself

/-- **A text without brackets renders.** -/
theorem exists_render_bracketless {cs : List Char} (h : '[' ∉ cs) :
    ∃ text, render cs = .ok text := by
  have hself := (escaped_self h).exists_render 0
  simpa using hself

/-- **An escaped text renders**, whatever it holds. -/
theorem exists_render_escape (cs : List Char) : ∃ text, render (escape cs) = .ok text := by
  rw [escape_eq]
  exact (escaped_escapeTags (Nat.le_refl _)).exists_render _

/-- **An escaped text renders between the tags of a style**, with a plain text before
    it. -/
theorem exists_render_tagged {tag : String} (htag : StyleTag tag.toList) {lead : List Char}
    (hlead : IsPlain lead) (cs : List Char) :
    ∃ text, render (tagged tag (lead ++ escape cs)) = .ok text := by
  rw [escape_eq, ← List.append_assoc]
  exact ((escaped_escapeTags (Nat.le_refl _)).plain_append hlead).exists_render_tagged htag _

end Host

end EnvLint.Report.Markup
