import EnvLint.Proofs.Report.Characters
import EnvLint.Proofs.Text.Narrow

/-! # What markup shows

    Markup is read piece by piece, and what is shown are the pieces that are
    characters.  This file says what the texts of a report show, for narrow
    characters, and which of them show themselves.

    * `chars_render_of_count`: the characters of a rendered text are those that its
      markup shows, whatever the tags do, unless a name between colons stands for an
      emoji; what is shown is a part of the markup (`sublist_pieces`);
    * `shown_escape`: an escaped text loses a backslash before each bracket that
      opens no tag, and a single backslash at its end is doubled;
    * `shown_tagged_eq_self_iff`: between the tags of a style, the backslashes at
      the end are read with the closing tag, so no more than one may stand there;
    * `bare_iff`: a text that is not escaped shows itself if no bracket opens a
      tag or follows a backslash.  Otherwise some of its ink is lost
      (`bare_of_inked`). -/

namespace EnvLint.Report.Markup

open Text (Narrow)

/-! ## Characters -/

/-- The characters that markup shows: those that are read as text, less control
    characters. -/
def shown (cs : List Char) : List Char :=
  (charsOf (pieces cs.length 0 cs)).filter fun c => !isControl c

section Host

variable [Host]

/-- Closing a tag adds no characters. -/
theorem chars_close {s t : State} {o : Open} {opened : List Open}
    (h : s.close o opened = .ok t) : t.chars = s.chars := by
  rw [State.close] at h
  split at h
  · cases h
  · cases h
    rfl

/-- A tag adds no characters. -/
theorem chars_takeTag {s t : State} {tag : List Char} {position : Nat}
    (h : s.takeTag tag position = .ok t) : t.chars = s.chars := by
  rw [State.takeTag] at h
  split at h
  · split at h
    · split at h
      · exact chars_close h
      · cases h
    · dsimp only at h
      split at h
      · exact chars_close h
      · cases h
  · cases h
    rfl

/-- Rendering collects the characters. -/
theorem chars_foldlM {ps : List Piece} {s t : State} (h : ps.foldlM State.take s = .ok t) :
    t.chars.reverse = s.chars.reverse ++ (charsOf ps).filter fun c => !isControl c := by
  induction ps generalizing s with
  | nil =>
      cases h
      exact (List.append_nil _).symm
  | cons p ps ih =>
      rw [List.foldlM_cons] at h
      obtain ⟨u, hu, h⟩ := bind_eq_ok_iff.mp h
      rw [ih h]
      cases p with
      | bound =>
          cases hu
          rfl
      | tag text position =>
          rw [chars_takeTag hu]
          rfl
      | char c =>
          cases hu
          show _ = _ ++ (c :: charsOf ps).filter _
          rw [List.filter_cons]
          cases isControl c with
          | true => rfl
          | false => simp

/-- What a rendered text holds are the characters that its markup shows, with emoji. -/
theorem chars_render {cs : List Char} {text : StyledText} (h : render cs = .ok text) :
    text.chars
      = (charsOf (withEmoji [] (pieces cs.length 0 cs))).filter fun c => !isControl c := by
  obtain ⟨s, hs, hfinish⟩ := bind_eq_ok_iff.mp h
  cases hfinish
  exact chars_foldlM hs

end Host

/-- Characters that are read stand in the markup, in the same order. -/
theorem Escaped.sublist_pieces {cs out : List Char} (h : Escaped cs out) (fuel position : Nat) :
    (charsOf (Markup.pieces fuel position cs)).Sublist cs := by
  induction h generalizing fuel position with
  | nil =>
      rw [pieces_nil]
      exact List.Sublist.refl []
  | @char d cs out hslash hbracket h ih =>
      cases fuel with
      | zero => exact List.nil_sublist _
      | succ fuel =>
          rw [pieces_char hslash hbracket]
          exact (ih fuel (position + 1)).cons_cons d
  | @slashes n rest out hpos hslash hbracket h ih =>
      cases fuel with
      | zero => exact List.nil_sublist _
      | succ fuel =>
          rw [pieces_slashes hpos hslash hbracket, charsOf_append, charsOf_replicate]
          exact (List.Sublist.refl _).append (ih fuel _)
  | @bracket n rest out htag h ih =>
      cases fuel with
      | zero => exact List.nil_sublist _
      | succ fuel =>
          rw [pieces_open, htag, charsOf_append, charsOf_replicate]
          exact (List.replicate_sublist_replicate '\\' |>.mpr (Nat.sub_le n 1)).append
            ((ih fuel _).cons_cons '[')
  | @tag n tag after out htag h ih =>
      cases fuel with
      | zero => exact List.nil_sublist _
      | succ fuel =>
          have hslashes : (List.replicate (n / 2) '\\').Sublist (List.replicate n '\\') :=
            (List.replicate_sublist_replicate '\\').mpr (Nat.div_le_self n 2)
          have hrest := ih fuel (position + (n + tag.length + 2))
          rw [pieces_tag htag, charsOf_append, charsOf_append, charsOf_replicate, List.append_assoc]
          refine hslashes.append ?_
          have htext : '[' :: (tag ++ ']' :: after) = (('[' :: tag) ++ [']']) ++ after := by simp
          rw [htext]
          -- the tag is shown as text behind an odd number of backslashes, and else not at all
          refine List.Sublist.append ?_ hrest
          split
          · rw [charsOf_tagAsText]
          · exact List.nil_sublist _

/-- What is read of markup is a part of it. -/
theorem sublist_pieces (cs : List Char) : (charsOf (pieces cs.length 0 cs)).Sublist cs :=
  (escaped_escapeTags (Nat.le_refl _)).sublist_pieces _ _

/-- What is shown of a text are characters of it. -/
theorem mem_of_mem_shown {cs : List Char} {c : Char} (h : c ∈ shown cs) : c ∈ cs :=
  (sublist_pieces cs).subset (List.mem_filter.mp h).1

/-- **Markup with no more than one colon** renders to what it shows: there is no name of an
    emoji in it. -/
theorem chars_render_of_count [Host] {cs : List Char} (hcolons : cs.count ':' ≤ 1)
    {text : StyledText} (h : render cs = .ok text) : text.chars = shown cs := by
  have hcount : (charsOf (pieces cs.length 0 cs)).count ':' ≤ 1 :=
    Nat.le_trans ((sublist_pieces cs).count_le ':') hcolons
  have hown : charsOf (withEmoji [] (pieces cs.length 0 cs)) = [].reverse ++ _ :=
    charsOf_withEmoji hcount
  rw [chars_render h, hown]
  rfl

theorem not_isControl {c : Char} (h : Narrow c) : isControl c = false := by
  have hcontrols : ∀ d ∈ ['\x07', '\x08', '\x0b', '\x0c', '\r'], d.toNat < 32 :=
    forall_of_all (by decide)
  have hne : ∀ d ∈ ['\x07', '\x08', '\x0b', '\x0c', '\r'], c ≠ d :=
    fun d hd => h.ne_control (hcontrols d hd)
  simp only [List.forall_mem_cons] at hne
  simp [isControl, hne]

/-- Of narrow markup every character that is read is shown. -/
theorem shown_of_narrow {cs : List Char} (h : ∀ c ∈ cs, Narrow c) :
    shown cs = charsOf (pieces cs.length 0 cs) := by
  refine List.filter_eq_self.mpr ?_
  intro c hc
  rw [not_isControl (h c ((sublist_pieces cs).subset hc))]
  rfl

/-- All that reports put into their markup is narrow. -/
theorem narrow_markupLetters : ∀ c ∈ markupLetters, Narrow c :=
  forall_of_all (by decide +kernel)

/-! ## Escaped text -/

/-- A text in which every bracket behind a backslash opens a tag: it comes back as it is. -/
def Intact (cs : List Char) : Prop :=
  ∀ rest, '\\' :: '[' :: rest <:+ cs → (tag? rest).isSome = true

/-- A bracket opens nothing if no tag starts with it. -/
theorem opensNothing_iff {cs : List Char} :
    opensNothing cs = true ↔ ∃ rest, cs = '[' :: rest ∧ tag? rest = none := by
  constructor
  · intro h
    rw [opensNothing.eq_def] at h
    split at h
    · exact ⟨_, rfl, Option.isNone_iff_eq_none.mp h⟩
    · cases h
  · rintro ⟨rest, rfl, hrest⟩
    exact Option.isNone_iff_eq_none.mpr hrest

theorem intact_cons_iff {c : Char} {cs : List Char} :
    Intact (c :: cs) ↔ ¬(c = '\\' ∧ opensNothing cs = true) ∧ Intact cs := by
  simp only [Intact, List.suffix_cons_iff, opensNothing_iff]
  constructor
  · intro h
    refine ⟨?_, fun rest hrest => h rest (Or.inr hrest)⟩
    rintro ⟨rfl, rest, rfl, hnone⟩
    have hsome := h rest (Or.inl rfl)
    rw [hnone] at hsome
    exact Bool.noConfusion hsome
  · rintro ⟨hfirst, hrest⟩ rest (heq | hsuffix)
    · cases heq
      refine Option.isSome_iff_ne_none.mpr ?_
      intro hnone
      exact hfirst ⟨rfl, rest, rfl, hnone⟩
    · exact hrest rest hsuffix

/-- A text is intact if it does not change even at its start. -/
theorem intact_of_prefix {cs more other : List Char} (h : unslashed cs ++ more = cs ++ other) :
    Intact cs := by
  induction cs with
  | nil =>
      intro rest hrest
      exact absurd (List.suffix_nil.mp hrest) (List.cons_ne_nil _ _)
  | cons c cs ih =>
      rw [unslashed] at h
      split at h
      · rename_i hlost
        -- a bracket has taken the place of the backslash
        obtain ⟨rfl, hopens⟩ := hlost
        obtain ⟨rest, rfl, -⟩ := opensNothing_iff.mp hopens
        rw [unslashed_cons_of_ne (by decide)] at h
        exact absurd (List.cons.inj h).1 (by decide)
      · rename_i hkept
        exact intact_cons_iff.mpr ⟨hkept, ih (List.cons.inj h).2⟩

/-- Intact text loses no backslash, and any other text does. -/
theorem unslashed_eq_self_iff {cs : List Char} : unslashed cs = cs ↔ Intact cs := by
  constructor
  · intro h
    have hstart : unslashed cs ++ [] = cs ++ [] := by rw [h]
    exact intact_of_prefix hstart
  · intro h
    induction cs with
    | nil => rfl
    | cons c cs ih =>
        obtain ⟨hkept, hrest⟩ := intact_cons_iff.mp h
        rw [unslashed, if_neg hkept, ih hrest]

/-- Whether a text is intact can be seen from what comes back. -/
instance (cs : List Char) : Decidable (Intact cs) :=
  decidable_of_iff _ unslashed_eq_self_iff

/-- **What an escaped text shows**: itself, up to lost backslashes, with a single backslash
    at its end doubled. -/
theorem shown_escape {cs : List Char} (h : ∀ c ∈ cs, Narrow c) :
    shown (escape cs) = unslashed cs ++ if slashesAtEnd cs = 1 then ['\\'] else [] := by
  have hslash : Narrow '\\' := narrow_markupLetters _ (by decide)
  obtain ⟨ps, -, hchars, hread⟩ := (escaped_escapeTags (Nat.le_refl cs.length)).pieces_replicate
    (if slashesAtEnd cs = 1 then 1 else 0)
  rw [← escape_eq] at hread
  rw [shown_of_narrow (forall_escape hslash h), hread, hchars]
  split
  · rfl
  · rfl

/-- **What an escaped text shows between the tags of a style.**  The backslashes at its end
    are read with the closing tag. -/
theorem shown_tagged {tag : String} (htag : tag ∈ reportTags) {lead : List Char}
    (hlead : IsPlain lead) {cs : List Char} (h : ∀ c ∈ lead ++ cs, Narrow c) :
    ∃ text, unslashed (lead ++ cs) = text ++ List.replicate (slashesAtEnd (lead ++ cs)) '\\' ∧
      shown (tagged tag (lead ++ escape cs)) = text ++ tagText
        (slashesAtEnd (lead ++ cs) + if slashesAtEnd cs = 1 then 1 else 0) ('/' :: tag.toList) := by
  obtain ⟨hleadNarrow, hcs⟩ := List.forall_mem_append.mp h
  have hescaped := (escaped_escapeTags (Nat.le_refl cs.length)).plain_append hlead
  obtain ⟨text, position, ps, last, htext, hlast, -, hchars, hread⟩ := hescaped.pieces_tagged
    (styleTag_of_mem htag) (if slashesAtEnd cs = 1 then 1 else 0)
  rw [List.append_assoc, ← escape_eq] at hread
  refine ⟨text, htext, ?_⟩
  have hslash : Narrow '\\' := narrow_markupLetters _ (by decide)
  have hnarrow := forall_tagged narrow_markupLetters htag
    (List.forall_mem_append.mpr ⟨hleadNarrow, forall_escape hslash hcs⟩)
  have hnone : charsOf last = [] := by
    rcases hlast with rfl | rfl
    · rfl
    · rfl
  rw [shown_of_narrow hnarrow, hread]
  show charsOf (_ ++ last) = _
  rw [charsOf_append, hchars, hnone, List.append_nil]

/-- A text that ends in backslashes ends in a backslash. -/
theorem getLast?_of_slashesAtEnd {cs : List Char} (h : slashesAtEnd cs ≠ 0) :
    cs.getLast? = some '\\' := by
  rw [← List.head?_reverse]
  cases hreverse : cs.reverse with
  | nil =>
      rw [slashesAtEnd, hreverse] at h
      exact absurd rfl h
  | cons c more =>
      by_cases hc : c = '\\'
      · rw [hc]
        rfl
      · rw [slashesAtEnd, hreverse] at h
        simp [hc] at h

/-- Taking backslashes away shortens a text, if anything. -/
theorem length_unslashed_le (cs : List Char) : (unslashed cs).length ≤ cs.length := by
  induction cs with
  | nil => exact Nat.le_refl 0
  | cons c cs ih =>
      rw [unslashed]
      split
      · exact Nat.le_succ_of_le ih
      · exact Nat.succ_le_succ ih

/-- Plain texts show themselves between the tags of a style, one of them escaped. -/
theorem shown_tagged_plain {tag : String} (htag : tag ∈ reportTags) {lead cs : List Char}
    (hplain : IsPlain (lead ++ cs)) (h : ∀ c ∈ lead ++ cs, Narrow c) :
    shown (tagged tag (lead ++ escape cs)) = lead ++ cs := by
  obtain ⟨hlead, hcs⟩ := List.forall_mem_append.mp hplain
  have hends : ∀ {xs : List Char}, IsPlain xs → slashesAtEnd xs = 0 := by
    intro xs hxs
    by_contra hne
    exact (hxs _ (List.mem_of_getLast? (getLast?_of_slashesAtEnd hne))).1 rfl
  have hbracket : '[' ∉ lead ++ cs := fun hmem => (hplain _ hmem).2 rfl
  have hend : ([] : List Char).head? ≠ some '[' := by simp
  have hkept : unslashed (lead ++ cs) = lead ++ cs := by
    simpa [unslashed] using unslashed_append hbracket hend
  obtain ⟨text, htext, hshown⟩ := shown_tagged htag hlead h
  rw [hends hplain, hkept] at htext
  rw [hshown, hends hplain, hends hcs]
  exact htext.symm

/-- **Between the tags of a style a text shows itself** if it is intact and ends in no more
    than one backslash. -/
theorem shown_tagged_eq_self_iff {tag : String} (htag : tag ∈ reportTags) {cs : List Char}
    (h : ∀ c ∈ cs, Narrow c) :
    shown (tagged tag (escape cs)) = cs ↔ Intact cs ∧ slashesAtEnd cs ≤ 1 := by
  have hlead : IsPlain [] := fun c hc => absurd hc List.not_mem_nil
  obtain ⟨text, htext, hshown⟩ := shown_tagged htag hlead (show ∀ c ∈ [] ++ cs, Narrow c from h)
  simp only [List.nil_append] at htext hshown
  rw [hshown, ← unslashed_eq_self_iff]
  by_cases hone : slashesAtEnd cs = 1
  · rw [hone] at htext ⊢
    rw [htext]
    exact (and_iff_left (Nat.le_refl 1)).symm
  · rw [if_neg hone, Nat.add_zero]
    by_cases hzero : slashesAtEnd cs = 0
    · rw [hzero] at htext ⊢
      rw [htext]
      exact (and_iff_left (Nat.zero_le 1)).symm
    · refine iff_of_false ?_ (by omega)
      intro heq
      rw [tagText] at heq
      by_cases hodd : slashesAtEnd cs % 2 = 1
      · -- the closing tag is text, so the text does not end in a backslash
        rw [if_pos hodd] at heq
        have hlast := getLast?_of_slashesAtEnd hzero
        rw [← heq, ← List.append_assoc, ← List.append_assoc, List.getLast?_concat] at hlast
        exact absurd (Option.some.inj hlast) (by decide)
      · -- half of the backslashes are lost
        have hlength := length_unslashed_le cs
        have hshorter := congrArg List.length heq
        rw [htext, List.length_append, List.length_replicate] at hlength
        rw [if_neg hodd, List.append_nil, List.length_append, List.length_replicate] at hshorter
        omega

/-! ## Bare text -/

/-- A text that shows itself without being escaped: no bracket opens a tag, and none stands
    behind a backslash. -/
structure Bare (cs : List Char) : Prop where
  tagless : ∀ rest, '[' :: rest <:+ cs → tag? rest = none
  slashless : ¬['\\', '['] <:+: cs

theorem bare_nil : Bare [] where
  tagless _ hrest := absurd (List.suffix_nil.mp hrest) (List.cons_ne_nil _ _)
  slashless hinner := absurd (List.infix_nil.mp hinner) (List.cons_ne_nil _ _)

/-- An end of a bare text is bare. -/
theorem Bare.of_suffix {cs rest : List Char} (h : Bare cs) (hrest : rest <:+ cs) : Bare rest where
  tagless more hmore := h.tagless more (hmore.trans hrest)
  slashless hinner := h.slashless (hinner.trans hrest.isInfix)

/-- A character in front leaves a text bare, unless it opens a tag or is a backslash before
    a bracket. -/
theorem Bare.cons {c : Char} {cs : List Char} (h : Bare cs) (htag : c = '[' → tag? cs = none)
    (hslash : c = '\\' → cs.head? ≠ some '[') : Bare (c :: cs) where
  tagless rest hrest := by
    rcases List.suffix_cons_iff.mp hrest with heq | hsuffix
    · cases heq
      exact htag rfl
    · exact h.tagless rest hsuffix
  slashless hinner := by
    rcases List.infix_cons_iff.mp hinner with hstart | hinner
    · obtain ⟨rest, heq⟩ := hstart
      cases heq
      exact hslash rfl rfl
    · exact h.slashless hinner

/-- Backslashes in front leave a text bare that does not start with a bracket. -/
theorem Bare.slashes {rest : List Char} (h : Bare rest) (hbracket : rest.head? ≠ some '[')
    (n : Nat) : Bare (List.replicate n '\\' ++ rest) := by
  induction n with
  | zero => exact h
  | succ n ih =>
      refine ih.cons (fun hc => absurd hc (by decide)) (fun _ => ?_)
      cases n with
      | zero => exact hbracket
      | succ n => exact fun hhead => absurd (Option.some.inj hhead) (by decide)

/-- A bracket in a bare text has no backslash before it. -/
theorem Bare.eq_zero {n : Nat} {rest : List Char}
    (h : Bare (List.replicate n '\\' ++ '[' :: rest)) : n = 0 := by
  cases n with
  | zero => rfl
  | succ n =>
      refine absurd ⟨List.replicate n '\\', rest, ?_⟩ h.slashless
      rw [List.replicate_succ']
      simp

/-- Bare text is read as it is. -/
theorem Escaped.pieces_of_bare {cs out : List Char} (h : Escaped cs out) (hbare : Bare cs)
    {fuel : Nat} (position : Nat) (hfuel : cs.length ≤ fuel) :
    Markup.pieces fuel position cs = cs.map Piece.char := by
  induction h generalizing fuel position with
  | nil => exact pieces_nil fuel position
  | @char c cs out hslash hbracket h ih =>
      cases fuel with
      | zero => simp at hfuel
      | succ fuel =>
          rw [pieces_char hslash hbracket, ih (hbare.of_suffix (List.suffix_cons c cs)) _
            (Nat.le_of_succ_le_succ hfuel)]
          rfl
  | @slashes n rest out hpos hslash hbracket h ih =>
      rw [List.length_append, List.length_replicate] at hfuel
      obtain ⟨fuel, rfl⟩ := Nat.exists_eq_succ_of_ne_zero (show fuel ≠ 0 by omega)
      rw [pieces_slashes hpos hslash hbracket, ih (hbare.of_suffix (List.suffix_append _ _)) _
        (by omega), List.map_append, List.map_replicate]
  | @bracket n rest out htag h ih =>
      cases hbare.eq_zero
      cases fuel with
      | zero => simp at hfuel
      | succ fuel =>
          have hrest := ih (hbare.of_suffix (List.suffix_cons _ _)) (position + 0 + 1)
            (Nat.le_of_succ_le_succ hfuel)
          rw [pieces_open, htag, hrest]
          rfl
  | @tag n tag after out htag h ih =>
      have hnone := hbare.tagless _ (List.suffix_append _ _)
      rw [tag?_append htag] at hnone
      cases hnone

/-- **Bare text renders and shows itself.** -/
theorem Bare.pieces_eq {cs : List Char} (h : Bare cs) :
    Markup.pieces cs.length 0 cs = cs.map Piece.char :=
  (escaped_escapeTags (Nat.le_refl _)).pieces_of_bare h 0 (Nat.le_refl _)

/-- Bare text can be rendered. -/
theorem Bare.exists_render [Host] {cs : List Char} (h : Bare cs) :
    ∃ text, render cs = .ok text := by
  have htagless := tagless_map_char cs
  rw [← h.pieces_eq] at htagless
  exact htagless.exists_render

/-- Text without brackets and backslashes is bare. -/
theorem bare_of_isPlain {cs : List Char} (h : IsPlain cs) : Bare cs := by
  induction cs with
  | nil => exact bare_nil
  | cons c cs ih =>
      obtain ⟨⟨hslash, hbracket⟩, hrest⟩ := List.forall_mem_cons.mp h
      exact (ih hrest).cons (fun hc => absurd hc hbracket) (fun hc => absurd hc hslash)

/-- The characters of a tag are read, and then those behind it. -/
theorem charsOf_pieces_tag {tag : List Char} (h : IsTag tag) (fuel position n : Nat)
    (after : List Char) :
    charsOf (pieces (fuel + 1) position (List.replicate n '\\' ++ '[' :: (tag ++ ']' :: after)))
      = tagText n tag ++ charsOf (pieces fuel (position + (n + tag.length + 2)) after) := by
  rw [pieces_tag h, charsOf_append, charsOf_append, charsOf_replicate, tagText]
  by_cases hodd : n % 2 = 1
  · rw [if_pos hodd, if_pos hodd, charsOf_tagAsText]
  · rw [if_neg hodd, if_neg hodd]
    rfl

/-- How many characters of a text are no blanks. -/
def inked (cs : List Char) : Nat := cs.countP (· != ' ')

theorem inked_append (xs ys : List Char) : inked (xs ++ ys) = inked xs + inked ys :=
  List.countP_append

theorem inked_replicate (n : Nat) : inked (List.replicate n '\\') = n := by
  simp [inked, List.countP_replicate]

theorem inked_cons {c : Char} (h : c ≠ ' ') (cs : List Char) : inked (c :: cs) = inked cs + 1 :=
  List.countP_cons_of_pos (by simpa using h)

/-- Text that is not bare loses ink: a tag is not shown, and a backslash before a bracket
    is lost. -/
theorem Escaped.inked_pieces {cs out : List Char} (h : Escaped cs out) {fuel : Nat}
    (position : Nat) (hfuel : cs.length ≤ fuel) :
    inked (charsOf (Markup.pieces fuel position cs)) ≤ inked cs ∧
      (inked (charsOf (Markup.pieces fuel position cs)) = inked cs → Bare cs) := by
  induction h generalizing fuel position with
  | nil =>
      rw [pieces_nil]
      exact ⟨Nat.le_refl 0, fun _ => bare_nil⟩
  | @char c cs out hslash hbracket h ih =>
      cases fuel with
      | zero => simp at hfuel
      | succ fuel =>
          obtain ⟨hle, heq⟩ := ih (position + 1) (Nat.le_of_succ_le_succ hfuel)
          have hshown : charsOf (Markup.pieces (fuel + 1) position (c :: cs))
              = [c] ++ charsOf (Markup.pieces fuel (position + 1) cs) := by
            rw [pieces_char hslash hbracket]
            rfl
          have hink := inked_append [c] cs
          rw [List.singleton_append] at hink
          rw [hshown, inked_append, hink]
          refine ⟨by omega, fun hsame => (heq (by omega)).cons ?_ ?_⟩
          · exact fun hc => absurd hc hbracket
          · exact fun hc => absurd hc hslash
  | @slashes n rest out hpos hslash hbracket h ih =>
      rw [List.length_append, List.length_replicate] at hfuel
      obtain ⟨fuel, rfl⟩ := Nat.exists_eq_succ_of_ne_zero (show fuel ≠ 0 by omega)
      obtain ⟨hle, heq⟩ := ih (position + n) (show rest.length ≤ fuel by omega)
      rw [pieces_slashes hpos hslash hbracket, charsOf_append, charsOf_replicate, inked_append,
        inked_append]
      exact ⟨by omega, fun hsame => (heq (by omega)).slashes hbracket n⟩
  | @bracket n rest out htag h ih =>
      rw [List.length_append, List.length_cons] at hfuel
      obtain ⟨fuel, rfl⟩ := Nat.exists_eq_succ_of_ne_zero (show fuel ≠ 0 by omega)
      obtain ⟨hle, heq⟩ := ih (position + n + 1) (show rest.length ≤ fuel by omega)
      have hshown : charsOf (Markup.pieces (fuel + 1) position (List.replicate n '\\' ++ '[' :: rest))
          = List.replicate (n - 1) '\\' ++
            '[' :: charsOf (Markup.pieces fuel (position + n + 1) rest) := by
        rw [pieces_open, htag, charsOf_append, charsOf_replicate]
        rfl
      rw [hshown, inked_append, inked_append, inked_cons (by decide), inked_cons (by decide),
        inked_replicate, inked_replicate]
      refine ⟨by omega, fun hsame => ?_⟩
      -- no backslash is lost, so there was none
      obtain rfl : n = 0 := by omega
      exact (heq (by omega)).cons (fun _ => htag) (fun hc => absurd hc (by decide))
  | @tag n tag after out htag h ih =>
      rw [List.length_append, List.length_cons, List.length_append, List.length_cons] at hfuel
      obtain ⟨fuel, rfl⟩ := Nat.exists_eq_succ_of_ne_zero (show fuel ≠ 0 by omega)
      obtain ⟨hle, -⟩ := ih (position + (n + tag.length + 2)) (show after.length ≤ fuel by omega)
      have hless : inked (tagText n tag) < n + inked tag + 2 := by
        rw [tagText, inked_append, inked_replicate]
        split
        · rw [inked_append, inked_cons (by decide), inked_cons (by decide)]
          have hnone : inked [] = 0 := rfl
          omega
        · have hnone : inked [] = 0 := rfl
          omega
      rw [charsOf_pieces_tag htag, inked_append, inked_append, inked_replicate,
        inked_cons (by decide), inked_append, inked_cons (by decide)]
      exact ⟨by omega, fun hsame => by omega⟩

/-- **Only bare text keeps its ink.** -/
theorem bare_of_inked {cs : List Char} (h : ∀ c ∈ cs, Narrow c)
    (hsame : inked (shown cs) = inked cs) : Bare cs := by
  rw [shown_of_narrow h] at hsame
  exact ((escaped_escapeTags (Nat.le_refl _)).inked_pieces 0 (Nat.le_refl _)).2 hsame

/-- Bare text shows itself. -/
theorem Bare.shown_eq {cs : List Char} (hbare : Bare cs) (h : ∀ c ∈ cs, Narrow c) :
    shown cs = cs := by
  rw [shown_of_narrow h, hbare.pieces_eq, charsOf_map_char]

/-- Bare text is the text that shows itself. -/
theorem bare_iff {cs : List Char} : Bare cs ↔ charsOf (pieces cs.length 0 cs) = cs := by
  constructor
  · intro h
    rw [h.pieces_eq, charsOf_map_char]
  · intro h
    exact ((escaped_escapeTags (Nat.le_refl _)).inked_pieces 0 (Nat.le_refl _)).2 (by rw [h])

/-- Whether a text is bare can be seen by reading it. -/
instance (cs : List Char) : Decidable (Bare cs) :=
  decidable_of_iff _ bare_iff.symm

end EnvLint.Report.Markup
