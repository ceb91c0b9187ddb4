import EnvLint.Proofs.Json.Token
import EnvLint.Proofs.Outcome

/-! # What a reader leaves

    A reader that succeeds leaves an end of the text that it was given
    (`Leaves`).  So the fuel that a document starts with, two units for each
    character and some, lasts: whatever is read, what is left is no longer. -/

namespace EnvLint.Json

variable {α β : Type} {cs rest : List Char}

/-- A run on a text leaves an end of it, if it succeeds. -/
def Leaves (cs : List Char) (run : Except Fault (α × List Char)) : Prop :=
  ∀ a rest, run = .ok (a, rest) → rest <:+ cs

theorem Leaves.ok {a : α} (h : rest <:+ cs) : Leaves cs (.ok (a, rest)) := by
  rintro _ _ ⟨⟩
  exact h

theorem Leaves.error {fault : Fault} : Leaves cs (α := α) (.error fault) := by
  rintro _ _ ⟨⟩

theorem Leaves.mono {run : Except Fault (α × List Char)} (h : Leaves rest run)
    (hrest : rest <:+ cs) : Leaves cs run := by
  intro a left hrun
  exact (h a left hrun).trans hrest

/-- Runs one after the other leave an end, if each does. -/
theorem Leaves.bind {run : Except Fault (α × List Char)}
    {next : α × List Char → Except Fault (β × List Char)} (h : Leaves cs run)
    (hnext : ∀ a rest, Leaves rest (next (a, rest))) : Leaves cs (run >>= next) := by
  intro b left hrun
  obtain ⟨⟨a, rest⟩, hread, hleft⟩ := bind_eq_ok_iff.mp hrun
  exact (hnext a rest b left hleft).trans (h a rest hread)

theorem skipSpace_suffix (cs : List Char) : skipSpace cs <:+ cs :=
  List.dropWhile_suffix isSpace

/-- What follows the first character behind the blanks is an end of the text. -/
theorem suffix_of_skipSpace {c : Char} (h : skipSpace cs = c :: rest) : rest <:+ cs := by
  have hskip := skipSpace_suffix cs
  rw [h] at hskip
  exact (List.suffix_cons c rest).trans hskip

/-! ## Texts -/

theorem readUnit_suffix {n : Nat} (h : readUnit cs = some (n, rest)) : rest <:+ cs := by
  rw [readUnit.eq_def] at h
  split at h
  next a b c d e tail =>
    obtain ⟨m, -, heq⟩ := Option.map_eq_some_iff.mp h
    cases heq
    exact ⟨[a, b, c, d], rfl⟩
  next => cases h

/-- The second half of a pair leaves an end of what stood behind the first. -/
theorem unitTail_suffix {high low : Nat} (h : unitTail high cs = .paired low rest) :
    rest <:+ cs := by
  rw [unitTail.eq_def] at h
  split at h
  next a b c d e tail =>
    split at h
    · split at h
      · cases h
      · split at h
        · cases h
          exact ⟨['\\', 'u', a, b, c, d], rfl⟩
        · cases h
    · cases h
  next => cases h

theorem Leaves.withChar {read : Except Fault (List Char × List Char)} (h : Leaves cs read)
    (c : Char) : Leaves cs (withChar c read) :=
  h.bind fun _ _ => .ok (List.suffix_refl _)

/-- Reading a text leaves an end. -/
theorem leaves_readString (start : List Char) (fuel : Nat) (cs : List Char) :
    Leaves cs (readString start fuel cs) := by
  induction fuel generalizing cs with
  | zero =>
      rw [readString]
      exact .error
  | succ fuel ih =>
      have hnext (c : Char) {after : List Char} (h : after <:+ cs) :
          Leaves cs (Json.withChar c (readString start fuel after)) :=
        ((ih after).withChar c).mono h
      rw [readString.eq_def]
      cases cs with
      | nil => exact .error
      | cons c cs =>
          have htail := List.suffix_cons c cs
          dsimp only
          split
          · exact .ok htail
          split
          · split
            · exact .error
            next digits =>
              have hdigits := (List.suffix_cons 'u' digits).trans htail
              split
              · exact .error
              next high after hunit =>
                -- behind a unit: a broken second half, a second half or anything else
                have hafter := (readUnit_suffix hunit).trans hdigits
                split
                · exact .error
                next low rest hpair => exact hnext _ ((unitTail_suffix hpair).trans hafter)
                next => exact hnext _ hafter
            next e rest _ =>
              split
              · exact .error
              · exact hnext _ ((List.suffix_cons e rest).trans htail)
          · split
            · exact .error
            · exact hnext _ htail

/-! ## Numbers and constants -/

theorem spanDigits_suffix (cs : List Char) : (spanDigits cs).2 <:+ cs :=
  List.dropWhile_suffix Char.isDigit

theorem readWhole_suffix {ds : List Char} (h : readWhole cs = some (ds, rest)) : rest <:+ cs := by
  have hspan := spanDigits_suffix cs
  rw [readWhole.eq_def] at h
  split at h
  next tail =>
    cases h
    exact List.suffix_cons _ _
  next =>
    split at h
    · cases h
    next found _ =>
      cases h
      exact hspan

theorem readFraction_suffix (cs : List Char) : (readFraction cs).2 <:+ cs := by
  rw [readFraction.eq_def]
  split
  next rest =>
    split
    · exact List.suffix_refl _
    · exact (spanDigits_suffix rest).trans (List.suffix_cons _ _)
  next => exact List.suffix_refl _

/-- The sign of an exponent, and what follows it. -/
def signed (cs : List Char) : Bool × List Char :=
  match cs with
  | '-' :: ds => (true, ds)
  | '+' :: ds => (false, ds)
  | ds => (false, ds)

theorem signed_suffix (cs : List Char) : (signed cs).2 <:+ cs := by
  rw [signed.eq_def]
  split
  · exact List.suffix_cons _ _
  · exact List.suffix_cons _ _
  · exact List.suffix_refl _

/-- Behind its mark an exponent is a sign and digits; without digits the mark is left, too. -/
theorem readExponent_of_mark {e : Char} (he : e = 'e' ∨ e = 'E') (rest : List Char) :
    readExponent (e :: rest) =
      if (spanDigits (signed rest).2).1 = [] then (none, e :: rest)
      else
        (some (if (signed rest).1 then -Int.ofNat (Decimal.ofDigits (spanDigits (signed rest).2).1)
            else Int.ofNat (Decimal.ofDigits (spanDigits (signed rest).2).1)),
          (spanDigits (signed rest).2).2) := by
  rw [readExponent.eq_def]
  dsimp only
  rw [if_pos he]
  split
  next after heq =>
    have hspan : spanDigits (signed rest).2 = ([], after) := heq
    rw [hspan]
    rfl
  next ds after hds heq =>
    have hspan : spanDigits (signed rest).2 = (ds, after) := heq
    rw [hspan, if_neg (show ¬(ds, after).1 = [] from hds)]
    rfl

/-- Without its mark there is no exponent. -/
theorem readExponent_of_ne {cs : List Char}
    (h : ∀ e tail, e = 'e' ∨ e = 'E' → cs ≠ e :: tail) : readExponent cs = (none, cs) := by
  cases cs with
  | nil => rfl
  | cons c cs =>
      rw [readExponent.eq_def]
      dsimp only
      rw [if_neg]
      intro hc
      exact h c cs hc rfl

theorem readExponent_suffix (cs : List Char) : (readExponent cs).2 <:+ cs := by
  by_cases hmark : ∃ e tail, (e = 'e' ∨ e = 'E') ∧ cs = e :: tail
  · obtain ⟨e, tail, he, rfl⟩ := hmark
    rw [readExponent_of_mark he]
    split
    · exact List.suffix_refl _
    · exact ((spanDigits_suffix _).trans (signed_suffix tail)).trans (List.suffix_cons e tail)
  · have hne : ∀ e tail, e = 'e' ∨ e = 'E' → cs ≠ e :: tail := by
      intro e tail he htail
      exact hmark ⟨e, tail, he, htail⟩
    have hrest : (readExponent cs).2 = cs := by rw [readExponent_of_ne hne]
    exact ⟨[], hrest⟩

theorem leaves_readMagnitude (start : List Char) (negative : Bool) (cs : List Char) :
    Leaves cs (readMagnitude start negative cs) := by
  rw [readMagnitude]
  split
  · exact .error
  next whole after hwhole =>
    have hafter := readWhole_suffix hwhole
    have hexponent := (readExponent_suffix (readFraction after).2).trans (readFraction_suffix after)
    split
    · split
      · exact .error
      · exact .ok hafter
    next fraction _ exponent rest _ _ hread =>
      rw [hread] at hexponent
      exact .ok (hexponent.trans hafter)

/-- Reading a constant or a number leaves an end. -/
theorem leaves_readScalar (cs : List Char) : Leaves cs (readScalar cs) := by
  rw [readScalar.eq_def]
  split
  next found hfound =>
    obtain ⟨word, -, hread⟩ := List.exists_of_findSome?_eq_some hfound
    rw [readWord] at hread
    split at hread
    · cases hread
      exact .ok (List.drop_suffix _ _)
    · cases hread
  next =>
    split
    · exact (leaves_readMagnitude _ _ _).mono (List.suffix_cons _ _)
    · exact leaves_readMagnitude _ _ cs

/-! ## Values -/

/-- The three readers leave an end of the text, with some fuel. -/
structure LeaveEnds (fuel : Nat) : Prop where
  value : ∀ cs, Leaves cs (readValue fuel cs)
  items : ∀ cs, Leaves cs (readItems fuel cs)
  fields : ∀ cs, Leaves cs (readFields fuel cs)

/-- With one unit of fuel more, reading a value leaves an end. -/
theorem LeaveEnds.value_succ {fuel : Nat} (ih : LeaveEnds fuel) (cs : List Char) :
    Leaves cs (readValue (fuel + 1) cs) := by
  cases cs with
  | nil =>
      rw [readValue]
      · exact .error
      · rintro ⟨⟩
  | cons c cs =>
      have htail := List.suffix_cons c cs
      have hinner := (skipSpace_suffix cs).trans htail
      rw [readValue]
      split
      · exact ((leaves_readString _ fuel cs).mono htail).bind fun _ _ => .ok (List.suffix_refl _)
      split
      · split
        next hskip => exact .ok ((suffix_of_skipSpace hskip).trans htail)
        next => exact ((ih.items _).mono hinner).bind fun _ _ => .ok (List.suffix_refl _)
      split
      · split
        next hskip => exact .ok ((suffix_of_skipSpace hskip).trans htail)
        next => exact ((ih.fields _).mono hinner).bind fun _ _ => .ok (List.suffix_refl _)
      · exact leaves_readScalar _

theorem LeaveEnds.items_succ {fuel : Nat} (ih : LeaveEnds fuel) (cs : List Char) :
    Leaves cs (readItems (fuel + 1) cs) := by
  rw [readItems]
  refine (ih.value cs).bind ?_
  intro v rest
  dsimp only
  split
  next hskip => exact .ok (suffix_of_skipSpace hskip)
  next after hskip =>
    have hafter := (skipSpace_suffix after).trans (suffix_of_skipSpace hskip)
    exact ((ih.items _).mono hafter).bind fun _ _ => .ok (List.suffix_refl _)
  next => exact .error

theorem LeaveEnds.fields_succ {fuel : Nat} (ih : LeaveEnds fuel) (cs : List Char) :
    Leaves cs (readFields (fuel + 1) cs) := by
  rw [readFields.eq_def]
  split
  next _ tail heq =>
    cases heq
    refine ((leaves_readString _ fuel tail).mono (List.suffix_cons '"' tail)).bind ?_
    intro key rest
    dsimp only
    split
    next after hskip =>
      have hafter := (skipSpace_suffix after).trans (suffix_of_skipSpace hskip)
      refine ((ih.value _).mono hafter).bind ?_
      intro v rest
      dsimp only
      split
      next hskip => exact .ok (suffix_of_skipSpace hskip)
      next after hskip =>
        have hafter := (skipSpace_suffix after).trans (suffix_of_skipSpace hskip)
        exact ((ih.fields _).mono hafter).bind fun _ _ => .ok (List.suffix_refl _)
      next => exact .error
    next => exact .error
  next => exact .error

/-- The three readers leave ends with any fuel. -/
theorem leaveEnds (fuel : Nat) : LeaveEnds fuel := by
  induction fuel with
  | zero =>
      refine ⟨?_, ?_, ?_⟩
      · intro cs
        rw [readValue]
        exact .error
      · intro cs
        rw [readItems]
        exact .error
      · intro cs
        rw [readFields]
        · exact .error
        · rintro _ _ ⟨⟩
  | succ fuel ih => exact ⟨ih.value_succ, ih.items_succ, ih.fields_succ⟩

end EnvLint.Json
