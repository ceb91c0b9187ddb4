import EnvLint.Json.Decode
import EnvLint.Json.Encode

/-! # Tokens read back

    The writer and the reader of documents agree on texts and whole numbers.

    A text is read character by character, so one lemma per kind of escape is
    enough: `readString_escapeChar` says that whatever stands for a character
    is read as that character, and `readString_written` follows by induction on
    the text.  A number ends where no digit, point or exponent follows
    (`Stops`); `readMagnitude_digitsOf` needs this, and that the number has no
    more digits than are read. -/

namespace EnvLint

/-! ## Hexadecimal digits -/

namespace Text

/-- A digit that is written is read as the number that it was written for. -/
theorem hexValue?_hexDigit {n : Nat} (h : n < 16) : hexValue? (hexDigit n) = some n := by
  revert n
  decide

/-- One digit more makes the number sixteen times as large. -/
theorem readHex?_concat (ds : List Char) (d : Char) :
    readHex? (ds ++ [d]) =
      (readHex? ds).bind fun n => (hexValue? d).map fun digit => 16 * n + digit := by
  unfold readHex?
  rw [List.foldlM_append]
  refine bind_congr fun n => ?_
  rw [List.foldlM_cons]
  exact bind_pure _

/-- A written numeral is read back, up to its width. -/
theorem readHex?_hexDigits (width n : Nat) :
    readHex? (hexDigits width n) = some (n % Nat.pow 16 width) := by
  induction width generalizing n with
  | zero => exact congrArg some (Nat.mod_one n).symm
  | succ width ih =>
      have hpow : Nat.pow 16 (width + 1) = 16 * Nat.pow 16 width := Nat.mul_comm _ _
      -- the last digit stands for the remainder, the others for the quotient
      have hlast : 16 * (n / 16 % Nat.pow 16 width) + n % 16 = n % Nat.pow 16 (width + 1) := by
        rw [hpow, Nat.mod_mul, Nat.add_comm]
      rw [hexDigits, readHex?_concat, ih, hexValue?_hexDigit (Nat.mod_lt n (by decide)), ← hlast]
      rfl

/-- Four digits are read back as the unit that they were written for. -/
theorem readHex?_hexDigits_four {n : Nat} (h : n < 0x10000) :
    readHex? (hexDigits 4 n) = some n := by
  rw [readHex?_hexDigits]
  exact congrArg some (Nat.mod_eq_of_lt h)

theorem hexDigits_four (n : Nat) : ∃ a b c d, hexDigits 4 n = [a, b, c, d] :=
  ⟨_, _, _, _, rfl⟩

end Text

namespace Json

/-! ## Texts -/

variable {start rest : List Char} {fuel : Nat}

/-- Forms of a character inside a written text. -/
inductive Written (c : Char) : List Char → Prop where
  | plain (hquote : c ≠ '"') (hslash : c ≠ '\\') (hspace : ' ' ≤ c) (htilde : c ≤ '~') :
      Written c [c]
  | simple {e : Char} (h : simpleEscape? e = some c) : Written c ['\\', e]
  | unit (h : c.toNat < 0x10000) : Written c (unitEscape c.toNat)
  | pair (h : ¬c.toNat < 0x10000) :
      Written c (unitEscape (0xD800 + (c.toNat - 0x10000) / 0x400)
        ++ unitEscape (0xDC00 + (c.toNat - 0x10000) % 0x400))

/-- Every character is written in one of these ways. -/
theorem written_escapeChar (c : Char) : Written c (escapeChar c) := by
  unfold escapeChar
  by_cases hspecial : c = '"' ∨ c = '\\'
  · rw [if_pos hspecial]
    rcases hspecial with rfl | rfl
    · exact .simple rfl
    · exact .simple rfl
  rw [if_neg hspecial]
  rw [not_or] at hspecial
  by_cases hprintable : ' ' ≤ c ∧ c ≤ '~'
  · rw [if_pos hprintable]
    exact .plain hspecial.1 hspecial.2 hprintable.1 hprintable.2
  rw [if_neg hprintable]
  split
  next h => rw [h]; exact .simple rfl
  split
  next h => rw [h]; exact .simple rfl
  split
  next h => rw [h]; exact .simple rfl
  split
  next h => rw [h]; exact .simple rfl
  split
  next h => rw [h]; exact .simple rfl
  split
  next h => exact .unit h
  next h => exact .pair h

/-- A unit is read back, if something follows it. -/
theorem readUnit_hexDigits {n : Nat} (h : n < 0x10000) (e : Char) (rest : List Char) :
    readUnit (Text.hexDigits 4 n ++ e :: rest) = some (n, e :: rest) := by
  have hread := Text.readHex?_hexDigits_four h
  obtain ⟨a, b, c, d, hdigits⟩ := Text.hexDigits_four n
  rw [hdigits] at hread ⊢
  show (Text.readHex? [a, b, c, d]).map _ = _
  rw [hread]
  rfl

/-- A unit that is no first half of a pair stands alone. -/
theorem unitTail_alone {n : Nat} (h : isHighUnit n = false) (rest : List Char) :
    unitTail n rest = .alone := by
  unfold unitTail
  split
  · rw [h]
    rfl
  · rfl

/-- A first half that a second half follows makes a pair with it. -/
theorem unitTail_paired {high low : Nat} (hhigh : isHighUnit high = true)
    (hlow : isLowUnit low = true) (e : Char) (rest : List Char) :
    unitTail high (unitEscape low ++ e :: rest) = .paired low (e :: rest) := by
  have hlt : low < 0x10000 := by
    simp only [isLowUnit, Bool.and_eq_true, decide_eq_true_eq] at hlow
    omega
  have hread := Text.readHex?_hexDigits_four hlt
  obtain ⟨a, b, c, d, hdigits⟩ := Text.hexDigits_four low
  rw [hdigits] at hread
  rw [unitEscape, hdigits]
  show (if isHighUnit high = true then _ else _) = _
  rw [if_pos hhigh, hread]
  show (if isLowUnit low = true then _ else _) = _
  rw [if_pos hlow]

/-- A character in front of the text that is read after it. -/
def withChar (c : Char) (read : Except Fault (List Char × List Char)) :
    Except Fault (List Char × List Char) := do
  let (s, rest) ← read
  .ok (c :: s, rest)

/-- A plain character stands for itself. -/
theorem readString_plain {c : Char} (hquote : c ≠ '"') (hslash : c ≠ '\\') (hspace : ' ' ≤ c) :
    readString start (fuel + 1) (c :: rest) = withChar c (readString start fuel rest) := by
  have hlow : ¬c.toNat < 0x20 := Nat.not_lt.mpr hspace
  rw [readString.eq_def]
  simp only [if_neg hquote, if_neg hslash, if_neg hlow]
  rfl

theorem readString_simple {e c : Char} (h : simpleEscape? e = some c) :
    readString start (fuel + 1) ('\\' :: e :: rest) = withChar c (readString start fuel rest) := by
  have hu : e ≠ 'u' := by
    rintro rfl
    cases h
  rw [readString.eq_def]
  simp only [show ('\\' : Char) ≠ '"' by decide, if_false, if_true, h]
  rfl

/-- A unit that stands alone is read as its character. -/
theorem readString_unit {digits : List Char} {n : Nat} (hread : readUnit digits = some (n, rest))
    (htail : unitTail n rest = .alone) :
    readString start (fuel + 1) ('\\' :: 'u' :: digits) =
      withChar (unitChar n) (readString start fuel rest) := by
  rw [readString.eq_def]
  simp only [show ('\\' : Char) ≠ '"' by decide, if_false, if_true, hread, htail]
  rfl

/-- Two halves are read as the character of the pair. -/
theorem readString_pair {digits after : List Char} {high low : Nat}
    (hread : readUnit digits = some (high, after))
    (htail : unitTail high after = .paired low rest) :
    readString start (fuel + 1) ('\\' :: 'u' :: digits) =
      withChar (pairChar high low) (readString start fuel rest) := by
  rw [readString.eq_def]
  simp only [show ('\\' : Char) ≠ '"' by decide, if_false, if_true, hread, htail]
  rfl

/-- Characters are no halves of a pair. -/
theorem toNat_lt_or_gt (c : Char) : c.toNat < 0xD800 ∨ 0xDFFF < c.toNat := by
  rcases c.valid with h | ⟨h, -⟩
  · exact .inl h
  · exact .inr h

theorem toNat_lt (c : Char) : c.toNat < 0x110000 := by
  rcases c.valid with h | ⟨-, h⟩
  · exact Nat.lt_trans h (by decide)
  · exact h

/-- A character of one unit is read back from its escape. -/
theorem readString_unitEscape {c : Char} (h : c.toNat < 0x10000) (e : Char) :
    readString start (fuel + 1) (unitEscape c.toNat ++ e :: rest) =
      withChar c (readString start fuel (e :: rest)) := by
  have hhigh : isHighUnit c.toNat = false := by
    have := toNat_lt_or_gt c
    simp only [isHighUnit, Bool.and_eq_false_iff, decide_eq_false_iff_not]
    omega
  have hlow : isLowUnit c.toNat = false := by
    have := toNat_lt_or_gt c
    simp only [isLowUnit, Bool.and_eq_false_iff, decide_eq_false_iff_not]
    omega
  have hchar : unitChar c.toNat = c := by
    rw [unitChar, hhigh, hlow]
    exact Char.ofNat_toNat c
  have hstep : readString start (fuel + 1) (unitEscape c.toNat ++ e :: rest) =
      withChar (unitChar c.toNat) (readString start fuel (e :: rest)) :=
    readString_unit (readUnit_hexDigits h e rest) (unitTail_alone hhigh _)
  rw [hstep, hchar]

/-- A character beyond one unit is read back from the escapes of its two halves. -/
theorem readString_pairEscape {c : Char} (h : ¬c.toNat < 0x10000) (e : Char) :
    readString start (fuel + 1)
        (unitEscape (0xD800 + (c.toNat - 0x10000) / 0x400)
          ++ unitEscape (0xDC00 + (c.toNat - 0x10000) % 0x400) ++ e :: rest) =
      withChar c (readString start fuel (e :: rest)) := by
  have hlt := toNat_lt c
  -- the two units are opaque from here on but for their ranges and what they add up to
  generalize hhighUnit : 0xD800 + (c.toNat - 0x10000) / 0x400 = high
  generalize hlowUnit : 0xDC00 + (c.toNat - 0x10000) % 0x400 = low
  have hhigh : isHighUnit high = true := by
    simp only [isHighUnit, Bool.and_eq_true, decide_eq_true_eq]
    omega
  have hlow : isLowUnit low = true := by
    simp only [isLowUnit, Bool.and_eq_true, decide_eq_true_eq]
    omega
  have hchar : pairChar high low = c := by
    have hnat : 0x10000 + (high - 0xD800) * 0x400 + (low - 0xDC00) = c.toNat := by omega
    rw [pairChar, hnat]
    exact Char.ofNat_toNat c
  have hread : readUnit (Text.hexDigits 4 high ++ (unitEscape low ++ e :: rest)) =
      some (high, unitEscape low ++ e :: rest) := readUnit_hexDigits (by omega) _ _
  have hstep : readString start (fuel + 1) (unitEscape high ++ (unitEscape low ++ e :: rest)) =
      withChar (pairChar high low) (readString start fuel (e :: rest)) :=
    readString_pair hread (unitTail_paired hhigh hlow e rest)
  rw [List.append_assoc, hstep, hchar]

/-- What stands for a character is read as that character. -/
theorem readString_escapeChar (c e : Char) :
    readString start (fuel + 1) (escapeChar c ++ e :: rest) =
      withChar c (readString start fuel (e :: rest)) := by
  have hwritten := written_escapeChar c
  generalize escapeChar c = cs at hwritten ⊢
  cases hwritten with
  | plain hquote hslash hspace _ => exact readString_plain hquote hslash hspace
  | simple h => exact readString_simple h
  | unit h => exact readString_unitEscape h e
  | pair h => exact readString_pairEscape h e

/-- A written text is read back, up to its closing quote. -/
theorem readString_written (s : List Char) (h : s.length < fuel) :
    readString start fuel (s.flatMap escapeChar ++ '"' :: rest) = .ok (s, rest) := by
  induction s generalizing fuel with
  | nil =>
      obtain ⟨fuel, rfl⟩ : ∃ n, fuel = n + 1 := ⟨fuel - 1, by simp at h; omega⟩
      rw [List.flatMap_nil, List.nil_append, readString.eq_def]
      simp only [if_true]
  | cons c s ih =>
      rw [List.length_cons] at h
      obtain ⟨fuel, rfl⟩ : ∃ n, fuel = n + 1 := ⟨fuel - 1, by omega⟩
      -- something follows every character: the next one, or the closing quote
      obtain ⟨e, after, hafter⟩ : ∃ e after, s.flatMap escapeChar ++ '"' :: rest = e :: after :=
        List.exists_cons_of_ne_nil (by simp)
      have hrest := ih (Nat.lt_of_succ_lt_succ h)
      rw [hafter] at hrest
      rw [List.flatMap_cons, List.append_assoc, hafter, readString_escapeChar, hrest]
      rfl

/-! ## Whole numbers -/

/-- Characters that continue a number. -/
def continuesNumber (c : Char) : Bool :=
  c.isDigit || c == '.' || c == 'e' || c == 'E'

/-- Nothing at the start of a text continues a number. -/
def Stops (rest : List Char) : Prop :=
  ∀ c ∈ rest.head?, continuesNumber c = false

theorem continuesNumber_eq_false_iff {c : Char} :
    continuesNumber c = false ↔ c.isDigit = false ∧ c ≠ '.' ∧ c ≠ 'e' ∧ c ≠ 'E' := by
  simp only [continuesNumber, Bool.or_eq_false_iff, beq_eq_false_iff_ne, and_assoc]

theorem stops_nil : Stops [] := by
  intro c hc
  cases hc

theorem stops_cons {c : Char} (h : continuesNumber c = false) (rest : List Char) :
    Stops (c :: rest) := by
  intro d hd
  cases hd
  exact h

theorem Stops.cons {c : Char} {rest : List Char} (h : Stops (c :: rest)) :
    c.isDigit = false ∧ c ≠ '.' ∧ c ≠ 'e' ∧ c ≠ 'E' :=
  continuesNumber_eq_false_iff.mp (h c rfl)

/-- A number is written in digits only. -/
theorem isDigit_of_mem_digitsOf {n : Nat} {c : Char} (h : c ∈ Decimal.digitsOf n) :
    c.isDigit = true :=
  Nat.isDigit_of_mem_toDigits (by decide) (by decide) h

/-- Digits are read up to where they stop. -/
theorem spanDigits_append {ds : List Char} (hds : ∀ c ∈ ds, c.isDigit = true) (h : Stops rest) :
    spanDigits (ds ++ rest) = (ds, rest) := by
  have hstop : rest.takeWhile Char.isDigit = [] ∧ rest.dropWhile Char.isDigit = rest := by
    cases rest with
    | nil => exact ⟨rfl, rfl⟩
    | cons c rest =>
        have hc := h.cons.1
        rw [List.takeWhile_cons_of_neg, List.dropWhile_cons_of_neg]
        · exact ⟨rfl, rfl⟩
        · rw [hc]; decide
        · rw [hc]; decide
  rw [spanDigits, List.takeWhile_append_of_pos hds, List.dropWhile_append_of_pos hds, hstop.1,
    hstop.2, List.append_nil]

theorem readFraction_of_stops (h : Stops rest) : readFraction rest = ([], rest) := by
  unfold readFraction
  split
  next rest => exact absurd rfl h.cons.2.1
  next => rfl

theorem readExponent_of_stops (h : Stops rest) : readExponent rest = (none, rest) := by
  unfold readExponent
  split
  next e rest =>
    rw [if_neg (not_or.mpr h.cons.2.2)]
  next => rfl

/-- The first digit is a zero only for zero itself. -/
theorem digitsOf_head {n : Nat} (h : 0 < n) : ∃ c ds, Decimal.digitsOf n = c :: ds ∧ c ≠ '0' := by
  induction n using Nat.strongRecOn with
  | ind n ih =>
      by_cases hn : n < 10
      · refine ⟨n.digitChar, [], Nat.toDigits_of_lt_base hn, ?_⟩
        rw [ne_eq, Nat.digitChar_eq_zero]
        omega
      · obtain ⟨c, ds, hds, hc⟩ := ih (n / 10) (by omega) (by omega)
        refine ⟨c, ds ++ [(n % 10).digitChar], ?_, hc⟩
        have hstep := Nat.toDigits_of_base_le (b := 10) (by decide) (Nat.not_lt.mp hn)
        rw [Decimal.digitsOf] at hds ⊢
        rw [hstep, hds]
        rfl

/-- The digits of a number are read back whole where nothing continues them. -/
theorem readWhole_digitsOf (n : Nat) (h : Stops rest) :
    readWhole (Decimal.digitsOf n ++ rest) = some (Decimal.digitsOf n, rest) := by
  by_cases hn : n = 0
  · subst hn
    rw [Decimal.digitsOf, Nat.toDigits_zero]
    rfl
  · obtain ⟨c, ds, hds, hc⟩ := digitsOf_head (Nat.pos_of_ne_zero hn)
    have hspan : spanDigits (c :: (ds ++ rest)) = (c :: ds, rest) :=
      spanDigits_append (fun d hd => isDigit_of_mem_digitsOf (n := n) (hds ▸ hd)) h
    rw [hds, List.cons_append]
    unfold readWhole
    split
    next heq =>
      cases heq
      exact absurd rfl hc
    next =>
      rw [hspan]

/-- Digits stand for the number that they were written for. -/
theorem ofDigits_digitsOf (n : Nat) : Decimal.ofDigits (Decimal.digitsOf n) = n :=
  calc
    Decimal.ofDigits (Decimal.digitsOf n) = Nat.ofDigitChars 10 (Nat.toDigits 10 n) 0 :=
      Nat.ofDigitChars_eq_foldl.symm
    _ = n := Nat.ofDigitChars_toDigits (by decide) (by decide)

/-- A number below a power of ten has no more digits than its exponent. -/
theorem length_digitsOf_le {n k : Nat} (hk : 0 < k) (h : n < Nat.pow 10 k) :
    (Decimal.digitsOf n).length ≤ k :=
  (Nat.length_toDigits_le_iff (by decide) hk).mpr h

/-- A number that is not too long is read back. -/
theorem readMagnitude_digitsOf {n : Nat} (hn : n < Nat.pow 10 maxDigits) (negative : Bool)
    (h : Stops rest) :
    readMagnitude start negative (Decimal.digitsOf n ++ rest) =
      .ok (.int (if negative then -Int.ofNat n else Int.ofNat n), rest) := by
  unfold readMagnitude
  rw [readWhole_digitsOf n h]
  simp only [readFraction_of_stops h, readExponent_of_stops h, ofDigits_digitsOf]
  rw [if_neg (Nat.not_lt.mpr (length_digitsOf_le (by decide) hn))]

/-! ## Constants and numbers -/

/-- A word is not read where another character stands. -/
theorem readWord_of_ne {w c : Char} (h : w ≠ c) (word cs : List Char) (v : Json) :
    readWord (w :: word) v (c :: cs) = none := by
  rw [readWord, if_neg]
  rw [List.isPrefixOf, beq_false_of_ne h]
  exact Bool.false_ne_true

/-- No constant starts with a digit. -/
theorem findSome?_constants_of_digit {c : Char} (hc : c.isDigit = true) (cs : List Char) :
    (constants.findSome? fun k => readWord k.1.toList k.2 (c :: cs)) = none := by
  rw [List.findSome?_eq_none_iff]
  intro k hk
  simp only [constants, List.mem_cons, List.not_mem_nil, or_false] at hk
  rcases hk with rfl | rfl | rfl | rfl | rfl | rfl
  all_goals
    refine readWord_of_ne ?_ _ _ _
    rintro rfl
    cases hc

/-- A sign in front of a digit is not the sign of infinity. -/
theorem findSome?_constants_of_sign {c : Char} (hc : c.isDigit = true) (cs : List Char) :
    (constants.findSome? fun k => readWord k.1.toList k.2 ('-' :: c :: cs)) = none := by
  rw [List.findSome?_eq_none_iff]
  intro k hk
  simp only [constants, List.mem_cons, List.not_mem_nil, or_false] at hk
  rcases hk with rfl | rfl | rfl | rfl | rfl | rfl
  -- the word for negative infinity differs in its second character only
  case inr.inr.inr.inr.inr =>
    have hI : 'I' ≠ c := by
      rintro rfl
      cases hc
    exact readWord_of_ne hI "nfinity".toList cs _
  all_goals exact readWord_of_ne (by decide) _ _ _

/-- What starts with a digit is read as a number. -/
theorem readScalar_of_digit {c : Char} (hc : c.isDigit = true) (cs : List Char) :
    readScalar (c :: cs) = readMagnitude (c :: cs) false (c :: cs) := by
  unfold readScalar
  rw [findSome?_constants_of_digit hc]
  split
  next heq => cases heq
  split
  next heq =>
    cases heq
    cases hc
  next => rfl

theorem readScalar_of_sign {c : Char} (hc : c.isDigit = true) (cs : List Char) :
    readScalar ('-' :: c :: cs) = readMagnitude ('-' :: c :: cs) true (c :: cs) := by
  unfold readScalar
  rw [findSome?_constants_of_sign hc]
  rfl

theorem digitsOf_eq_cons (n : Nat) :
    ∃ c ds, Decimal.digitsOf n = c :: ds ∧ c.isDigit = true := by
  obtain ⟨c, ds, hds⟩ := List.exists_cons_of_ne_nil (Nat.toDigits_ne_nil (n := n) (b := 10))
  refine ⟨c, ds, hds, isDigit_of_mem_digitsOf (n := n) ?_⟩
  rw [Decimal.digitsOf, hds]
  exact List.mem_cons_self

/-- A whole number is read back with its sign. -/
theorem readScalar_intText {n : Int} (hn : n.natAbs < Nat.pow 10 maxDigits) (h : Stops rest) :
    readScalar (Decimal.intText n ++ rest) = .ok (.int n, rest) := by
  obtain ⟨c, ds, hds, hc⟩ := digitsOf_eq_cons n.natAbs
  rw [Decimal.intText]
  by_cases hneg : n < 0
  · have hval : -Int.ofNat n.natAbs = n := by
      rw [Int.ofNat_eq_natCast]
      omega
    rw [if_pos hneg, hds, List.cons_append, List.cons_append, readScalar_of_sign hc,
      ← List.cons_append, ← hds, readMagnitude_digitsOf hn true h, if_pos rfl, hval]
  · have hval : Int.ofNat n.natAbs = n := by
      rw [Int.ofNat_eq_natCast]
      omega
    rw [if_neg hneg, hds, List.cons_append, readScalar_of_digit hc, ← List.cons_append, ← hds,
      readMagnitude_digitsOf hn false h, if_neg Bool.false_ne_true, hval]

end Json

end EnvLint
