import EnvLint.File.Read
import EnvLint.Proofs.Json.Remainder

/-! # Tokens and line ends

    Between tokens every line end is a blank; inside a text every one is refused,
    after a backslash or not; and nowhere else does a line end continue a token.
    So a token is read alike whichever way the lines end.

    `Alike` compares a reader on a text with the same reader on the text whose
    lines end in line feeds: both read the same and leave the same, line ends
    apart, or both fail for the same flaw.  One case is not plain: a unit escape
    that an unfinished escape follows is refused at once if five characters are
    left, and in turn if fewer are (`readString_badTail`). -/

namespace EnvLint

/-! ## Line ends -/

theorem unifyNewlines_cons {c : Char} (hc : c ≠ '\r') (cs : List Char) :
    unifyNewlines (c :: cs) = c :: unifyNewlines cs := by
  rw [unifyNewlines, if_neg hc]
  intro _ h _
  exact hc h

/-- A carriage return becomes a line feed, whether or not one follows it. -/
theorem unifyNewlines_return (cs : List Char) :
    ∃ rest, unifyNewlines ('\r' :: cs) = '\n' :: rest := by
  rw [unifyNewlines.eq_def]
  split
  next heq => cases heq
  next => exact ⟨_, rfl⟩
  next heq =>
    cases heq
    exact ⟨_, rfl⟩

/-- A text without carriage returns stays as it is. -/
theorem unifyNewlines_eq_self {cs : List Char} (h : '\r' ∉ cs) : unifyNewlines cs = cs := by
  induction cs with
  | nil => rfl
  | cons c cs ih =>
      rw [List.mem_cons, not_or] at h
      rw [unifyNewlines_cons (Ne.symm h.1), ih h.2]

/-- How a text and its unified form start. -/
inductive Heads : List Char → List Char → Prop where
  | nil : Heads [] []
  | same {c : Char} {cs : List Char} (hc : c ≠ '\r') : Heads (c :: cs) (c :: unifyNewlines cs)
  | line (cs rest : List Char) : Heads ('\r' :: cs) ('\n' :: rest)

/-- A text and its unified form start alike, but for a carriage return. -/
theorem heads (cs : List Char) : Heads cs (unifyNewlines cs) := by
  cases cs with
  | nil => exact .nil
  | cons c cs =>
      by_cases hc : c = '\r'
      · subst hc
        obtain ⟨rest, hrest⟩ := unifyNewlines_return cs
        rw [hrest]
        exact .line cs rest
      · rw [unifyNewlines_cons hc]
        exact .same hc

/-- A unified text that starts with no line feed shows how the text starts. -/
theorem eq_cons_of_unifyNewlines {cs rest : List Char} {c : Char} (hc : c ≠ '\n')
    (h : unifyNewlines cs = c :: rest) : ∃ tail, cs = c :: tail ∧ unifyNewlines tail = rest := by
  have hheads := heads cs
  rw [h] at hheads
  generalize hnew : c :: rest = new at hheads
  cases hheads with
  | nil => cases hnew
  | same _ =>
      cases hnew
      exact ⟨_, rfl, rfl⟩
  | line =>
      cases hnew
      exact absurd rfl hc

theorem unifyNewlines_eq_nil {cs : List Char} (h : unifyNewlines cs = []) : cs = [] := by
  have hheads := heads cs
  rw [h] at hheads
  cases hheads
  rfl

/-- A character in front never shortens the unified text, not even a return before a feed. -/
theorem length_unifyNewlines_le_cons (c : Char) (cs : List Char) :
    (unifyNewlines cs).length ≤ (unifyNewlines (c :: cs)).length := by
  rw [unifyNewlines.eq_def (c :: cs)]
  split
  next heq => cases heq
  next rest heq =>
    cases heq
    exact Nat.le_of_eq (congrArg List.length (unifyNewlines_cons (by decide) rest))
  next heq =>
    cases heq
    exact Nat.le_succ _

/-- The end of a text has no longer unified form than the text, so the fuel for the text
    lasts. -/
theorem length_unifyNewlines_le {rest cs : List Char} (h : rest <:+ cs) :
    (unifyNewlines rest).length ≤ (unifyNewlines cs).length := by
  obtain ⟨front, rfl⟩ := h
  induction front with
  | nil => exact Nat.le_refl _
  | cons c front ih => exact Nat.le_trans ih (length_unifyNewlines_le_cons c _)

/-- Characters in front that hold no carriage return stay in front. -/
theorem unifyNewlines_append {front : List Char} (h : '\r' ∉ front) (cs : List Char) :
    unifyNewlines (front ++ cs) = front ++ unifyNewlines cs := by
  induction front with
  | nil => rfl
  | cons c front ih =>
      rw [List.mem_cons, not_or] at h
      rw [List.cons_append, unifyNewlines_cons (Ne.symm h.1), ih h.2, List.cons_append]

/-- What stands in front of a unified text without a line feed stands in front of the text. -/
theorem eq_append_of_unifyNewlines {front cs rest : List Char} (hfront : '\n' ∉ front)
    (h : unifyNewlines cs = front ++ rest) :
    ∃ tail, cs = front ++ tail ∧ unifyNewlines tail = rest := by
  induction front generalizing cs with
  | nil => exact ⟨cs, rfl, h⟩
  | cons c front ih =>
      rw [List.mem_cons, not_or] at hfront
      obtain ⟨after, rfl, hafter⟩ := eq_cons_of_unifyNewlines (Ne.symm hfront.1) h
      obtain ⟨tail, rfl, htail⟩ := ih hfront.2 hafter
      exact ⟨tail, rfl, htail⟩

/-- Characters of a class without line ends are taken and left alike. -/
theorem takeWhile_unifyNewlines {p : Char → Bool} (hreturn : p '\r' = false)
    (hfeed : p '\n' = false) (cs : List Char) :
    (unifyNewlines cs).takeWhile p = cs.takeWhile p ∧
      (unifyNewlines cs).dropWhile p = unifyNewlines (cs.dropWhile p) := by
  induction cs with
  | nil => exact ⟨rfl, rfl⟩
  | cons c cs ih =>
      by_cases hc : c = '\r'
      · subst hc
        obtain ⟨rest, hrest⟩ := unifyNewlines_return cs
        rw [hrest, List.takeWhile_cons_of_neg (by simp [hfeed]),
          List.takeWhile_cons_of_neg (by simp [hreturn]),
          List.dropWhile_cons_of_neg (by simp [hfeed]),
          List.dropWhile_cons_of_neg (by simp [hreturn]), hrest]
        exact ⟨rfl, rfl⟩
      · rw [unifyNewlines_cons hc]
        by_cases hp : p c = true
        · rw [List.takeWhile_cons_of_pos hp, List.takeWhile_cons_of_pos hp,
            List.dropWhile_cons_of_pos hp, List.dropWhile_cons_of_pos hp, ih.1, ih.2]
          exact ⟨rfl, rfl⟩
        · rw [List.takeWhile_cons_of_neg hp, List.takeWhile_cons_of_neg hp,
            List.dropWhile_cons_of_neg hp, List.dropWhile_cons_of_neg hp, unifyNewlines_cons hc]
          exact ⟨rfl, rfl⟩

namespace Json

/-! ## Blanks -/

/-- Line ends are blanks in either form, so skipping blanks and unifying line ends commute. -/
theorem skipSpace_unifyNewlines (cs : List Char) :
    skipSpace (unifyNewlines cs) = unifyNewlines (skipSpace cs) := by
  induction cs using unifyNewlines.induct with
  | case1 => rfl
  | case2 cs ih => exact ih
  | case3 c cs hpair ih =>
      by_cases hspace : isSpace c = true
      · have hnew : isSpace (if c = '\r' then '\n' else c) = true := by
          split
          · rfl
          · exact hspace
        rw [unifyNewlines, skipSpace, List.dropWhile_cons_of_pos hnew, skipSpace,
          List.dropWhile_cons_of_pos hspace]
        · exact ih
        · exact hpair
      · have hc : c ≠ '\r' := by
          rintro rfl
          exact hspace rfl
        rw [unifyNewlines_cons hc, skipSpace, List.dropWhile_cons_of_neg hspace, skipSpace,
          List.dropWhile_cons_of_neg hspace, unifyNewlines_cons hc]

/-- Behind the blanks there is none. -/
theorem isSpace_of_skipSpace {cs rest : List Char} {c : Char} (h : skipSpace cs = c :: rest) :
    isSpace c = false := by
  have hne : cs.dropWhile isSpace ≠ [] := by
    rw [show cs.dropWhile isSpace = c :: rest from h]
    exact List.cons_ne_nil c rest
  have hhead := List.head_dropWhile_not isSpace hne
  have hc : (cs.dropWhile isSpace).head? = some c := by
    rw [show cs.dropWhile isSpace = c :: rest from h]
    rfl
  rw [List.head?_eq_some_head hne] at hc
  rw [Option.some.inj hc] at hhead
  exact hhead

/-- After blanks nothing is left, or the same character starts what is left. -/
theorem skipSpace_cases (cs : List Char) :
    (skipSpace cs = [] ∧ skipSpace (unifyNewlines cs) = []) ∨
      ∃ c rest, skipSpace cs = c :: rest ∧
        skipSpace (unifyNewlines cs) = c :: unifyNewlines rest := by
  rw [skipSpace_unifyNewlines]
  cases hskip : skipSpace cs with
  | nil => exact .inl ⟨rfl, rfl⟩
  | cons c rest =>
      have hc : c ≠ '\r' := by
        rintro rfl
        cases isSpace_of_skipSpace hskip
      exact .inr ⟨c, rest, rfl, unifyNewlines_cons hc rest⟩

/-! ## Runs that compare -/

variable {α β : Type}

/-- A run of a reader on a text and one on its unified form: both read the same and
    leave the same, line ends apart, or both fail for the same flaw. -/
inductive Alike : Except Fault (α × List Char) → Except Fault (α × List Char) → Prop where
  | ok (a : α) (rest : List Char) : Alike (.ok (a, rest)) (.ok (a, unifyNewlines rest))
  | error {fault fault' : Fault} (h : fault.flaw = fault'.flaw) :
      Alike (.error fault) (.error fault')

/-- Runs that go on alike from what they read compare. -/
theorem Alike.bind {run run' : Except Fault (α × List Char)}
    {next next' : α × List Char → Except Fault (β × List Char)} (h : Alike run run')
    (hnext : ∀ a rest, run = .ok (a, rest) → run' = .ok (a, unifyNewlines rest) →
      Alike (next (a, rest)) (next' (a, unifyNewlines rest))) :
    Alike (run >>= next) (run' >>= next') := by
  cases h with
  | ok a rest => exact hnext a rest rfl rfl
  | error h => exact .error h

/-- Runs that put together what they read compare. -/
theorem Alike.map {run run' : Except Fault (α × List Char)} (h : Alike run run') (f : α → β) :
    Alike (run >>= fun read => .ok (f read.1, read.2))
      (run' >>= fun read => .ok (f read.1, read.2)) :=
  h.bind fun a rest _ _ => .ok (f a) rest

/-! ## Numbers and constants -/

/-- A line end ends the digits of a number in either form. -/
theorem spanDigits_unifyNewlines (cs : List Char) :
    spanDigits (unifyNewlines cs) = ((spanDigits cs).1, unifyNewlines (spanDigits cs).2) := by
  obtain ⟨htake, hdrop⟩ := takeWhile_unifyNewlines (p := Char.isDigit) rfl rfl cs
  rw [spanDigits, htake, hdrop]
  rfl

/-- Unifying brings in no character but the line feed. -/
theorem ne_cons_unifyNewlines {cs : List Char} {c : Char} (hc : c ≠ '\n')
    (h : ∀ tail, cs ≠ c :: tail) : ∀ tail, unifyNewlines cs ≠ c :: tail := by
  intro tail htail
  obtain ⟨rest, hrest, -⟩ := eq_cons_of_unifyNewlines hc htail
  exact h rest hrest

theorem readWhole_of_ne {cs : List Char} (h : ∀ tail, cs ≠ '0' :: tail) :
    readWhole cs = if (spanDigits cs).1 = [] then none else some (spanDigits cs) := by
  rw [readWhole.eq_def]
  split
  next tail => exact absurd rfl (h tail)
  next =>
    obtain ⟨ds, rest⟩ := spanDigits cs
    cases ds with
    | nil => rfl
    | cons d ds => rfl

/-- The whole part of a number is read alike in both forms. -/
theorem readWhole_unifyNewlines (cs : List Char) :
    readWhole (unifyNewlines cs)
      = (readWhole cs).map fun found => (found.1, unifyNewlines found.2) := by
  by_cases hzero : ∃ tail, cs = '0' :: tail
  · obtain ⟨tail, rfl⟩ := hzero
    rw [unifyNewlines_cons (by decide)]
    rfl
  · rw [not_exists] at hzero
    rw [readWhole_of_ne hzero, readWhole_of_ne (ne_cons_unifyNewlines (by decide) hzero),
      spanDigits_unifyNewlines]
    split
    · rfl
    · rfl

theorem readFraction_of_ne {cs : List Char} (h : ∀ tail, cs ≠ '.' :: tail) :
    readFraction cs = ([], cs) := by
  rw [readFraction.eq_def]
  split
  next tail => exact absurd rfl (h tail)
  next => rfl

theorem readFraction_unifyNewlines (cs : List Char) :
    readFraction (unifyNewlines cs)
      = ((readFraction cs).1, unifyNewlines (readFraction cs).2) := by
  by_cases hpoint : ∃ tail, cs = '.' :: tail
  · obtain ⟨tail, rfl⟩ := hpoint
    rw [unifyNewlines_cons (by decide), readFraction, readFraction, spanDigits_unifyNewlines]
    obtain ⟨ds, rest⟩ := spanDigits tail
    cases ds with
    | nil =>
        show _ = ([], unifyNewlines ('.' :: tail))
        rw [unifyNewlines_cons (by decide)]
    | cons d ds => rfl
  · rw [not_exists] at hpoint
    rw [readFraction_of_ne hpoint, readFraction_of_ne (ne_cons_unifyNewlines (by decide) hpoint)]

theorem signed_unifyNewlines (cs : List Char) :
    signed (unifyNewlines cs) = ((signed cs).1, unifyNewlines (signed cs).2) := by
  by_cases hminus : ∃ tail, cs = '-' :: tail
  · obtain ⟨tail, rfl⟩ := hminus
    rw [unifyNewlines_cons (by decide)]
    rfl
  by_cases hplus : ∃ tail, cs = '+' :: tail
  · obtain ⟨tail, rfl⟩ := hplus
    rw [unifyNewlines_cons (by decide)]
    rfl
  · rw [not_exists] at hminus hplus
    have hother {cs : List Char} (hminus : ∀ tail, cs ≠ '-' :: tail)
        (hplus : ∀ tail, cs ≠ '+' :: tail) : signed cs = (false, cs) := by
      rw [signed.eq_def]
      split
      next tail => exact absurd rfl (hminus tail)
      next tail => exact absurd rfl (hplus tail)
      next => rfl
    rw [hother hminus hplus, hother (ne_cons_unifyNewlines (by decide) hminus)
      (ne_cons_unifyNewlines (by decide) hplus)]

/-- An exponent is read alike in both forms; a mark without digits is left in both. -/
theorem readExponent_unifyNewlines (cs : List Char) :
    readExponent (unifyNewlines cs)
      = ((readExponent cs).1, unifyNewlines (readExponent cs).2) := by
  by_cases hmark : ∃ e tail, (e = 'e' ∨ e = 'E') ∧ cs = e :: tail
  · obtain ⟨e, tail, he, rfl⟩ := hmark
    have hcons : unifyNewlines (e :: tail) = e :: unifyNewlines tail := by
      refine unifyNewlines_cons ?_ tail
      rcases he with rfl | rfl
      · decide
      · decide
    rw [hcons, readExponent_of_mark he, readExponent_of_mark he, signed_unifyNewlines,
      spanDigits_unifyNewlines]
    split
    · rw [hcons]
    · rfl
  · have hne : ∀ e tail, e = 'e' ∨ e = 'E' → cs ≠ e :: tail := by
      intro e tail he htail
      exact hmark ⟨e, tail, he, htail⟩
    have hne' : ∀ e tail, e = 'e' ∨ e = 'E' → unifyNewlines cs ≠ e :: tail := by
      intro e tail he
      refine ne_cons_unifyNewlines ?_ (fun tail => hne e tail he) tail
      rcases he with rfl | rfl
      · decide
      · decide
    rw [readExponent_of_ne hne, readExponent_of_ne hne']

/-- Numbers compare: the digits are the same in both runs, so the limit on their count meets
    both or neither. -/
theorem readMagnitude_alike (start start' : List Char) (negative : Bool) (cs : List Char) :
    Alike (readMagnitude start negative cs) (readMagnitude start' negative (unifyNewlines cs)) := by
  rw [readMagnitude, readMagnitude, readWhole_unifyNewlines]
  cases readWhole cs with
  | none => exact .error rfl
  | some found =>
      obtain ⟨whole, rest⟩ := found
      simp only [Option.map_some, readFraction_unifyNewlines, readExponent_unifyNewlines]
      obtain ⟨fraction, after⟩ := readFraction rest
      obtain ⟨exponent, last⟩ := readExponent after
      cases fraction with
      | nil =>
          cases exponent with
          | none =>
              dsimp only
              split
              · exact .error rfl
              · exact .ok _ _
          | some e => exact .ok _ _
      | cons d ds => exact .ok _ _

/-- A word without line ends stands in front of both forms or of neither. -/
theorem isPrefixOf_unifyNewlines {word : List Char} (hfeed : '\n' ∉ word) (hreturn : '\r' ∉ word)
    (cs : List Char) :
    word.isPrefixOf (unifyNewlines cs) = word.isPrefixOf cs ∧
      (word.isPrefixOf cs = true →
        (unifyNewlines cs).drop word.length = unifyNewlines (cs.drop word.length)) := by
  induction word generalizing cs with
  | nil => exact ⟨by simp, fun _ => rfl⟩
  | cons w word ih =>
      rw [List.mem_cons, not_or] at hfeed hreturn
      cases cs with
      | nil => exact ⟨rfl, fun h => by cases h⟩
      | cons c cs =>
          by_cases hc : c = '\r'
          · subst hc
            obtain ⟨rest, hrest⟩ := unifyNewlines_return cs
            have hfalse {d : Char} {tail : List Char} (hd : d ≠ w) :
                (w :: word).isPrefixOf (d :: tail) = false := by
              rw [List.isPrefixOf, beq_false_of_ne (Ne.symm hd)]
              rfl
            rw [hrest, hfalse hfeed.1, hfalse hreturn.1]
            exact ⟨rfl, fun h => by cases h⟩
          · obtain ⟨hbegins, hdrop⟩ := ih hfeed.2 hreturn.2 cs
            rw [unifyNewlines_cons hc, List.isPrefixOf, List.isPrefixOf, hbegins]
            refine ⟨rfl, ?_⟩
            intro h
            exact hdrop (Bool.and_eq_true_iff.mp h).2

theorem readWord_unifyNewlines {word : List Char} (hfeed : '\n' ∉ word) (hreturn : '\r' ∉ word)
    (v : Json) (cs : List Char) :
    readWord word v (unifyNewlines cs)
      = (readWord word v cs).map fun found => (found.1, unifyNewlines found.2) := by
  obtain ⟨hbegins, hdrop⟩ := isPrefixOf_unifyNewlines hfeed hreturn cs
  rw [readWord, readWord, hbegins]
  split
  next h => rw [hdrop h, Option.map_some]
  next => rfl

/-- No constant holds a line end. -/
theorem not_mem_constants : ∀ k ∈ constants, '\n' ∉ k.1.toList ∧ '\r' ∉ k.1.toList := by
  decide +kernel

/-- The first of several words is read alike in both forms. -/
theorem findSome?_unifyNewlines {words : List (String × Json)}
    (h : ∀ k ∈ words, '\n' ∉ k.1.toList ∧ '\r' ∉ k.1.toList) (cs : List Char) :
    (words.findSome? fun k => readWord k.1.toList k.2 (unifyNewlines cs))
      = (words.findSome? fun k => readWord k.1.toList k.2 cs).map
          fun found => (found.1, unifyNewlines found.2) := by
  induction words with
  | nil => rfl
  | cons k words ih =>
      rw [List.forall_mem_cons] at h
      rw [List.findSome?_cons, List.findSome?_cons, readWord_unifyNewlines h.1.1 h.1.2, ih h.2]
      cases readWord k.1.toList k.2 cs with
      | none => rfl
      | some found => rfl

/-- Constants and numbers compare. -/
theorem readScalar_alike (cs : List Char) :
    Alike (readScalar cs) (readScalar (unifyNewlines cs)) := by
  rw [readScalar.eq_def, readScalar.eq_def, findSome?_unifyNewlines not_mem_constants]
  cases constants.findSome? fun k => readWord k.1.toList k.2 cs with
  | some found => exact .ok found.1 found.2
  | none =>
      rw [Option.map_none]
      dsimp only
      by_cases hminus : ∃ tail, cs = '-' :: tail
      · obtain ⟨tail, rfl⟩ := hminus
        rw [unifyNewlines_cons (by decide)]
        exact readMagnitude_alike _ _ true tail
      · rw [not_exists] at hminus
        have hminus' := ne_cons_unifyNewlines (by decide) hminus
        split
        next tail => exact absurd rfl (hminus tail)
        next => exact readMagnitude_alike _ _ false cs

/-! ## Texts -/

/-- What is read as a hexadecimal number consists of its digits. -/
theorem isSome_hexValue?_of_readHex? {ds : List Char} {n : Nat} (h : Text.readHex? ds = some n) :
    ∀ d ∈ ds, (Text.hexValue? d).isSome = true := by
  rw [Text.readHex?] at h
  generalize 0 = value at h
  induction ds generalizing value with
  | nil => exact List.forall_mem_nil _
  | cons d ds ih =>
      rw [List.foldlM_cons] at h
      obtain ⟨next, hnext, hrest⟩ := Option.bind_eq_some_iff.mp h
      obtain ⟨digit, hdigit, -⟩ := Option.map_eq_some_iff.mp hnext
      refine List.forall_mem_cons.mpr ⟨?_, ih next hrest⟩
      rw [hdigit]
      rfl

/-- A numeral holds no line end. -/
theorem not_mem_of_readHex? {ds : List Char} {n : Nat} (h : Text.readHex? ds = some n) :
    '\n' ∉ ds ∧ '\r' ∉ ds := by
  have hdigits := isSome_hexValue?_of_readHex? h
  refine ⟨?_, ?_⟩
  · intro hmem
    cases hdigits _ hmem
  · intro hmem
    cases hdigits _ hmem

theorem eq_of_length_four {ds : List Char} (h : ds.length = 4) : ∃ a b c d, ds = [a, b, c, d] := by
  rcases ds with _ | ⟨a, _ | ⟨b, _ | ⟨c, _ | ⟨d, _ | ⟨e, ds⟩⟩⟩⟩⟩
  · cases h
  · cases h
  · cases h
  · cases h
  · exact ⟨a, b, c, d, rfl⟩
  · cases h

/-- A unit is read from four digits that something follows. -/
theorem readUnit_eq_some_iff {cs rest : List Char} {n : Nat} :
    readUnit cs = some (n, rest) ↔
      ∃ ds, ds.length = 4 ∧ Text.readHex? ds = some n ∧ rest ≠ [] ∧ cs = ds ++ rest := by
  constructor
  · intro h
    rw [readUnit.eq_def] at h
    split at h
    next a b c d e tail =>
      obtain ⟨m, hm, heq⟩ := Option.map_eq_some_iff.mp h
      cases heq
      exact ⟨[a, b, c, d], rfl, hm, List.cons_ne_nil e tail, rfl⟩
    next => cases h
  · rintro ⟨ds, hlength, hread, hrest, rfl⟩
    obtain ⟨a, b, c, d, rfl⟩ := eq_of_length_four hlength
    obtain ⟨e, rest, rfl⟩ := List.exists_cons_of_ne_nil hrest
    show (Text.readHex? [a, b, c, d]).map _ = _
    rw [hread]
    rfl

/-- No digit is a line end, so a unit is read alike in both forms. -/
theorem readUnit_unifyNewlines (cs : List Char) :
    readUnit (unifyNewlines cs)
      = (readUnit cs).map fun found => (found.1, unifyNewlines found.2) := by
  cases hread : readUnit cs with
  | some found =>
      obtain ⟨ds, hlength, hhex, hrest, rfl⟩ := readUnit_eq_some_iff.mp hread
      refine readUnit_eq_some_iff.mpr ⟨ds, hlength, hhex, ?_, ?_⟩
      · exact mt unifyNewlines_eq_nil hrest
      · exact unifyNewlines_append (not_mem_of_readHex? hhex).2 found.2
  | none =>
      cases hread' : readUnit (unifyNewlines cs) with
      | none => rfl
      | some found =>
          obtain ⟨ds, hlength, hhex, hrest, hsplit⟩ := readUnit_eq_some_iff.mp hread'
          obtain ⟨tail, rfl, htail⟩ :=
            eq_append_of_unifyNewlines (not_mem_of_readHex? hhex).1 hsplit
          have hne : tail ≠ [] := by
            rintro rfl
            exact hrest htail.symm
          rw [readUnit_eq_some_iff.mpr ⟨ds, hlength, hhex, hne, rfl⟩] at hread
          cases hread

/-- A second unit that is read makes a pair, or is no second unit. -/
theorem unitTail_of_some {high low : Nat} {digits rest : List Char} (hhigh : isHighUnit high = true)
    (h : readUnit digits = some (low, rest)) :
    unitTail high ('\\' :: 'u' :: digits)
      = if isLowUnit low = true then .paired low rest else .alone := by
  obtain ⟨ds, hlength, hhex, hrest, rfl⟩ := readUnit_eq_some_iff.mp h
  obtain ⟨a, b, c, d, rfl⟩ := eq_of_length_four hlength
  obtain ⟨e, rest, rfl⟩ := List.exists_cons_of_ne_nil hrest
  show (if isHighUnit high = true then _ else _) = _
  rw [if_pos hhigh, hhex]

/-- An escape that follows a unit without being one itself leaves the unit alone or breaks
    it. -/
theorem unitTail_of_none (high : Nat) {digits : List Char} (h : readUnit digits = none) :
    unitTail high ('\\' :: 'u' :: digits) = .alone ∨
      unitTail high ('\\' :: 'u' :: digits) = .broken := by
  cases htail : unitTail high ('\\' :: 'u' :: digits) with
  | alone => exact .inl rfl
  | broken => exact .inr rfl
  | paired low rest =>
      rw [unitTail.eq_def] at htail
      split at htail
      next heq =>
        cases heq
        rw [readUnit] at h
        rw [Option.map_eq_none_iff.mp h] at htail
        split at htail
        · cases htail
        · cases htail
      next => cases htail

/-- Where no unit escape follows, a unit stands alone. -/
theorem unitTail_of_ne {high : Nat} {cs : List Char} (h : ∀ digits, cs ≠ '\\' :: 'u' :: digits) :
    unitTail high cs = .alone := by
  rw [unitTail.eq_def]
  split
  · exact absurd rfl (h _)
  · rfl

/-- What stands after a unit is alike, unless it is an escape that no unit follows. -/
theorem unitTail_unifyNewlines (high : Nat) (after : List Char) :
    (unitTail high after = .alone ∧ unitTail high (unifyNewlines after) = .alone) ∨
    (∃ low rest, unitTail high after = .paired low rest ∧
      unitTail high (unifyNewlines after) = .paired low (unifyNewlines rest)) ∨
    ∃ digits, after = '\\' :: 'u' :: digits ∧ readUnit digits = none := by
  by_cases hescape : ∃ digits, after = '\\' :: 'u' :: digits
  · obtain ⟨digits, rfl⟩ := hescape
    cases hhigh : isHighUnit high with
    | false => exact .inl ⟨unitTail_alone hhigh _, unitTail_alone hhigh _⟩
    | true =>
        have hcons : unifyNewlines ('\\' :: 'u' :: digits)
            = '\\' :: 'u' :: unifyNewlines digits := by
          rw [unifyNewlines_cons (by decide), unifyNewlines_cons (by decide)]
        cases hread : readUnit digits with
        | none => exact .inr (.inr ⟨digits, rfl, hread⟩)
        | some found =>
            have hread' := readUnit_unifyNewlines digits
            rw [hread] at hread'
            rw [hcons, unitTail_of_some hhigh hread, unitTail_of_some hhigh hread']
            split
            · exact .inr (.inl ⟨_, _, rfl, rfl⟩)
            · exact .inl ⟨rfl, rfl⟩
  · rw [not_exists] at hescape
    refine .inl ⟨unitTail_of_ne hescape, unitTail_of_ne ?_⟩
    intro digits heq
    obtain ⟨tail, rfl, htail⟩ := eq_cons_of_unifyNewlines (by decide) heq
    obtain ⟨digits', rfl, -⟩ := eq_cons_of_unifyNewlines (by decide) htail
    exact hescape digits' rfl

variable {start : List Char} {fuel : Nat}

theorem readString_nil : readString start fuel [] = .error ⟨.unterminatedString, start⟩ := by
  cases fuel with
  | zero => rw [readString]
  | succ fuel =>
      rw [readString]
      rintro ⟨⟩

/-- A unit escape with too few digits is refused. -/
theorem readString_badUnit {digits : List Char} (h : readUnit digits = none) :
    ∃ rest, readString start (fuel + 1) ('\\' :: 'u' :: digits)
      = .error ⟨.invalidUnitEscape, rest⟩ := by
  refine ⟨'\\' :: 'u' :: digits, ?_⟩
  rw [readString.eq_def]
  simp only [show ('\\' : Char) ≠ '"' by decide, if_false, if_true, h]

/-- A unit before an escape without a unit: the escape is refused at once or in turn. -/
theorem readString_badTail {digits second : List Char} {high : Nat}
    (hread : readUnit digits = some (high, '\\' :: 'u' :: second)) (hbad : readUnit second = none)
    (hfuel : digits.length ≤ fuel) :
    ∃ rest, readString start (fuel + 1) ('\\' :: 'u' :: digits)
      = .error ⟨.invalidUnitEscape, rest⟩ := by
  have hlength := (readUnit_suffix hread).length_le
  rcases unitTail_of_none high hbad with htail | htail
  · rw [readString_unit hread htail]
    cases fuel with
    | zero => exact absurd (Nat.le_trans hlength hfuel) (Nat.not_succ_le_zero _)
    | succ fuel =>
        obtain ⟨rest, hrest⟩ := readString_badUnit hbad
        exact ⟨rest, by rw [hrest]; rfl⟩
  · refine ⟨'\\' :: 'u' :: digits, ?_⟩
    rw [readString.eq_def]
    simp only [show ('\\' : Char) ≠ '"' by decide, if_false, if_true, hread, htail]

/-- A character put in front of both runs leaves them alike. -/
theorem Alike.withChar {read read' : Except Fault (List Char × List Char)} (h : Alike read read')
    (c : Char) : Alike (withChar c read) (withChar c read') :=
  h.map fun s => c :: s

theorem readString_quote (cs : List Char) :
    readString start (fuel + 1) ('"' :: cs) = .ok ([], cs) := by
  rw [readString.eq_def]
  rfl

/-- A control character in a text is refused where it stands; every line end is one. -/
theorem readString_control {c : Char} (h : c.toNat < 0x20) (cs : List Char) :
    readString start (fuel + 1) (c :: cs) = .error ⟨.controlCharacter, c :: cs⟩ := by
  have hquote : c ≠ '"' := by
    rintro rfl
    exact absurd h (by decide)
  have hslash : c ≠ '\\' := by
    rintro rfl
    exact absurd h (by decide)
  rw [readString.eq_def]
  simp only [if_neg hquote, if_neg hslash, if_pos h]

/-- An unknown escape is refused at its backslash. -/
theorem readString_badEscape {e : Char} (hu : e ≠ 'u') (h : simpleEscape? e = none)
    (cs : List Char) :
    readString start (fuel + 1) ('\\' :: e :: cs)
      = .error ⟨.invalidEscape, '\\' :: e :: cs⟩ := by
  rw [readString.eq_def]
  simp only [show ('\\' : Char) ≠ '"' by decide, if_false, if_true, h]

/-- Behind a unit escape the same is read, or both runs refuse an escape. -/
theorem readString_unit_alike {start' digits : List Char} {fuel' : Nat}
    (hfuel : digits.length ≤ fuel) (hfuel' : (unifyNewlines digits).length ≤ fuel')
    (ih : ∀ {rest}, rest <:+ digits →
      Alike (readString start fuel rest) (readString start' fuel' (unifyNewlines rest))) :
    Alike (readString start (fuel + 1) ('\\' :: 'u' :: digits))
      (readString start' (fuel' + 1) ('\\' :: 'u' :: unifyNewlines digits)) := by
  have hread' := readUnit_unifyNewlines digits
  cases hread : readUnit digits with
  | none =>
      rw [hread] at hread'
      obtain ⟨rest, hrest⟩ := readString_badUnit hread
      obtain ⟨rest', hrest'⟩ := readString_badUnit hread'
      rw [hrest, hrest']
      exact .error rfl
  | some found =>
      obtain ⟨high, after⟩ := found
      rw [hread] at hread'
      have hafter := readUnit_suffix hread
      rcases unitTail_unifyNewlines high after with
        ⟨htail, htail'⟩ | ⟨low, rest, htail, htail'⟩ | ⟨second, rfl, hbad⟩
      · rw [readString_unit hread htail, readString_unit hread' htail']
        exact (ih hafter).withChar _
      · rw [readString_pair hread htail, readString_pair hread' htail']
        exact (ih ((unitTail_suffix htail).trans hafter)).withChar _
      · -- the second escape is unfinished: one run may see that at once, the other in turn
        have hbad' := readUnit_unifyNewlines second
        rw [hbad] at hbad'
        rw [Option.map_some, unifyNewlines_cons (by decide),
          unifyNewlines_cons (by decide)] at hread'
        obtain ⟨rest, hrest⟩ := readString_badTail hread hbad hfuel
        obtain ⟨rest', hrest'⟩ := readString_badTail hread' hbad' hfuel'
        rw [hrest, hrest']
        exact .error rfl

/-- An escape compares, if the rest of the text does: by what follows the backslash. -/
theorem readString_escape_alike {start' cs : List Char} {fuel' : Nat}
    (hfuel : cs.length ≤ fuel) (hfuel' : (unifyNewlines cs).length ≤ fuel')
    (ih : ∀ {rest}, rest <:+ cs →
      Alike (readString start fuel rest) (readString start' fuel' (unifyNewlines rest))) :
    Alike (readString start (fuel + 1) ('\\' :: cs))
      (readString start' (fuel' + 1) ('\\' :: unifyNewlines cs)) := by
  cases cs with
  | nil => exact .error rfl
  | cons e rest =>
      have htail := List.suffix_cons e rest
      by_cases he : e = '\r'
      · subst he
        -- no line end is an escape, in either form
        obtain ⟨tail, hnew⟩ := unifyNewlines_return rest
        rw [hnew, readString_badEscape (by decide) rfl, readString_badEscape (by decide) rfl]
        exact .error rfl
      rw [unifyNewlines_cons he] at hfuel' ⊢
      by_cases hu : e = 'u'
      · subst hu
        exact readString_unit_alike (Nat.le_of_succ_le hfuel) (Nat.le_of_succ_le hfuel')
          fun h => ih (h.trans htail)
      · cases hsimple : simpleEscape? e with
        | none =>
            rw [readString_badEscape hu hsimple, readString_badEscape hu hsimple]
            exact .error rfl
        | some c =>
            rw [readString_simple hsimple, readString_simple hsimple]
            exact (ih htail).withChar c

/-- A text is read alike, or refused alike, from any two quotes on. -/
theorem readString_alike (start start' : List Char) {fuel fuel' : Nat} {cs : List Char}
    (hfuel : cs.length ≤ fuel) (hfuel' : (unifyNewlines cs).length ≤ fuel') :
    Alike (readString start fuel cs) (readString start' fuel' (unifyNewlines cs)) := by
  induction fuel generalizing cs fuel' with
  | zero =>
      rw [List.eq_nil_of_length_eq_zero (Nat.le_zero.mp hfuel), unifyNewlines, readString_nil,
        readString_nil]
      exact .error rfl
  | succ fuel ih =>
      cases cs with
      | nil =>
          rw [unifyNewlines, readString_nil, readString_nil]
          exact .error rfl
      | cons c cs =>
          obtain ⟨fuel', rfl⟩ : ∃ n, fuel' = n + 1 := by
            refine Nat.exists_eq_succ_of_ne_zero ?_
            rintro rfl
            have hnil := List.eq_nil_of_length_eq_zero (Nat.le_zero.mp hfuel')
            exact absurd (unifyNewlines_eq_nil hnil) (List.cons_ne_nil c cs)
          by_cases hc : c = '\r'
          · subst hc
            -- a carriage return is a control character, and so is the line feed that it becomes
            obtain ⟨rest, hrest⟩ := unifyNewlines_return cs
            rw [hrest, readString_control (by decide), readString_control (by decide)]
            exact .error rfl
          rw [unifyNewlines_cons hc] at hfuel' ⊢
          have hle : cs.length ≤ fuel := Nat.le_of_succ_le_succ hfuel
          have hle' : (unifyNewlines cs).length ≤ fuel' := Nat.le_of_succ_le_succ hfuel'
          have ih' {rest : List Char} (h : rest <:+ cs) :
              Alike (readString start fuel rest) (readString start' fuel' (unifyNewlines rest)) :=
            ih (Nat.le_trans h.length_le hle) (Nat.le_trans (length_unifyNewlines_le h) hle')
          by_cases hquote : c = '"'
          · rw [hquote, readString_quote, readString_quote]
            exact .ok [] cs
          by_cases hslash : c = '\\'
          · rw [hslash]
            exact readString_escape_alike hle hle' ih'
          by_cases hlow : c.toNat < 0x20
          · rw [readString_control hlow, readString_control hlow]
            exact .error rfl
          · have hspace : ' ' ≤ c := Nat.not_lt.mp hlow
            rw [readString_plain hquote hslash hspace, readString_plain hquote hslash hspace]
            exact (ih' (List.suffix_refl cs)).withChar c

end Json

end EnvLint
