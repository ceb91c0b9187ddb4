import EnvLint.Proofs.Json.Newlines
import EnvLint.Proofs.Json.RoundTrip

/-! # Documents and line ends

    A document says the same whichever way its lines end (`decode_unifyNewlines`):
    where one form is decoded, the other is decoded to the same value, and where
    one is refused, the other is refused for the same flaw.

    The readers of values, items and fields are compared at once, by induction on
    the fuel of the first run.  The unified text may be shorter, so the second run
    has a fuel of its own; each is enough for its text, two units for a character. -/

namespace EnvLint.Json

/-- The three readers compare, with some fuel in the first run and any that is enough
    in the second. -/
structure ReadAlike (fuel : Nat) : Prop where
  value : ∀ {fuel' : Nat} {cs cs' : List Char}, cs' = unifyNewlines cs → 2 * cs.length ≤ fuel →
    2 * cs'.length ≤ fuel' → Alike (readValue fuel cs) (readValue fuel' cs')
  items : ∀ {fuel' : Nat} {cs cs' : List Char}, cs' = unifyNewlines cs → 2 * cs.length < fuel →
    2 * cs'.length < fuel' → Alike (readItems fuel cs) (readItems fuel' cs')
  fields : ∀ {fuel' : Nat} {cs cs' : List Char}, cs' = unifyNewlines cs → 2 * cs.length ≤ fuel →
    2 * cs'.length ≤ fuel' → Alike (readFields fuel cs) (readFields fuel' cs')

variable {fuel fuel' : Nat} {cs : List Char}

theorem length_skipSpace_le (cs : List Char) : (skipSpace cs).length ≤ cs.length :=
  (skipSpace_suffix cs).length_le

/-- Behind a mark less is left than there was before it. -/
theorem length_lt_of_mark {c : Char} {rest after : List Char} (h : skipSpace rest = c :: after)
    (hrest : rest.length ≤ cs.length) : (skipSpace after).length < cs.length := by
  have hskip := length_skipSpace_le rest
  rw [h, List.length_cons] at hskip
  have hafter := length_skipSpace_le after
  omega

/-- Where nothing is left a value is missing, with fuel or without. -/
theorem readValue_nil : readValue fuel [] = .error ⟨.expectingValue, []⟩ := by
  cases fuel with
  | zero => rw [readValue]
  | succ fuel =>
      rw [readValue]
      rintro ⟨⟩

theorem readValue_nil_alike : Alike (readValue fuel []) (readValue fuel' (unifyNewlines [])) := by
  rw [unifyNewlines, readValue_nil, readValue_nil]
  exact .error rfl

/-- A field starts with a quotation mark or not at all. -/
theorem readFields_of_ne (h : ∀ tail, cs ≠ '"' :: tail) :
    readFields fuel cs = .error ⟨.expectingName, cs⟩ := by
  rw [readFields]
  rintro _ tail - rfl
  exact h tail rfl

theorem readFields_nil_alike :
    Alike (readFields fuel []) (readFields fuel' (unifyNewlines [])) := by
  rw [unifyNewlines, readFields_of_ne (by simp), readFields_of_ne (by simp)]
  exact .error rfl

/-- Items compare with one unit of fuel more: the first one by the hypothesis, then whatever
    stands behind it, a comma, the closing bracket or something else. -/
theorem ReadAlike.items_succ (ih : ReadAlike fuel) (hfuel : 2 * cs.length < fuel + 1)
    (hfuel' : 2 * (unifyNewlines cs).length < fuel' + 1) :
    Alike (readItems (fuel + 1) cs) (readItems (fuel' + 1) (unifyNewlines cs)) := by
  rw [readItems, readItems]
  refine (ih.value rfl (Nat.le_of_lt_succ hfuel) (Nat.le_of_lt_succ hfuel')).bind ?_
  intro v rest hread hread'
  have hrest := ((leaveEnds fuel).value _ v rest hread).length_le
  have hrest' := ((leaveEnds fuel').value _ v _ hread').length_le
  dsimp only
  rcases skipSpace_cases rest with ⟨hnil, hnil'⟩ | ⟨c, after, hcons, hcons'⟩
  · rw [hnil, hnil']
    exact .error rfl
  rw [hcons, hcons']
  split
  next heq =>
    cases heq
    exact .ok [v] after
  next heq =>
    cases heq
    have hlt := length_lt_of_mark hcons hrest
    have hlt' := length_lt_of_mark hcons' hrest'
    exact (ih.items (skipSpace_unifyNewlines after) (by omega) (by omega)).map fun vs => v :: vs
  next hclose hcomma =>
    split
    next heq =>
      cases heq
      exact absurd rfl (hclose _)
    next heq =>
      cases heq
      exact absurd rfl (hcomma _)
    next => exact .error rfl

/-- Fields compare likewise, with the name and the colon before each value. -/
theorem ReadAlike.fields_succ (ih : ReadAlike fuel) (hfuel : 2 * cs.length ≤ fuel + 1)
    (hfuel' : 2 * (unifyNewlines cs).length ≤ fuel' + 1) :
    Alike (readFields (fuel + 1) cs) (readFields (fuel' + 1) (unifyNewlines cs)) := by
  by_cases hquote : ∃ tail, cs = '"' :: tail
  · obtain ⟨tail, rfl⟩ := hquote
    rw [unifyNewlines_cons (by decide)] at hfuel' ⊢
    rw [List.length_cons] at hfuel hfuel'
    rw [readFields, readFields]
    refine (readString_alike _ _ (by omega) (by omega)).bind ?_
    intro key rest hread hread'
    have hrest := (leaves_readString _ fuel tail key rest hread).length_le
    have hrest' := (leaves_readString _ fuel' _ key _ hread').length_le
    dsimp only
    -- behind the name: nothing, the colon or something else
    rcases skipSpace_cases rest with ⟨hnil, hnil'⟩ | ⟨c, after, hcons, hcons'⟩
    · rw [hnil, hnil']
      exact .error rfl
    rw [hcons, hcons']
    split
    next heq =>
      cases heq
      have hlt := length_lt_of_mark hcons hrest
      have hlt' := length_lt_of_mark hcons' hrest'
      refine (ih.value (skipSpace_unifyNewlines after) (by omega) (by omega)).bind ?_
      intro v rest hread hread'
      have hrest := ((leaveEnds fuel).value _ v rest hread).length_le
      have hrest' := ((leaveEnds fuel').value _ v _ hread').length_le
      dsimp only
      -- behind the value: nothing, the closing brace, a comma or something else
      rcases skipSpace_cases rest with ⟨hnil, hnil'⟩ | ⟨c, after, hcons, hcons'⟩
      · rw [hnil, hnil']
        exact .error rfl
      rw [hcons, hcons']
      split
      next heq =>
        cases heq
        exact .ok [(String.ofList key, v)] after
      next heq =>
        cases heq
        have hlt := length_lt_of_mark hcons hrest
        have hlt' := length_lt_of_mark hcons' hrest'
        exact (ih.fields (skipSpace_unifyNewlines after) (by omega) (by omega)).map
          fun fs => (String.ofList key, v) :: fs
      next hclose hcomma =>
        split
        next heq =>
          cases heq
          exact absurd rfl (hclose _)
        next heq =>
          cases heq
          exact absurd rfl (hcomma _)
        next => exact .error rfl
    next hcolon =>
      split
      next heq =>
        cases heq
        exact absurd rfl (hcolon _)
      next => exact .error rfl
  · rw [not_exists] at hquote
    rw [readFields_of_ne hquote, readFields_of_ne (ne_cons_unifyNewlines (by decide) hquote)]
    exact .error rfl

/-- A list compares if what stands behind its bracket does. -/
theorem ReadAlike.list_succ (ih : ReadAlike fuel) (hfuel : 2 * cs.length < fuel)
    (hfuel' : 2 * (unifyNewlines cs).length < fuel') :
    Alike (readValue (fuel + 1) ('[' :: cs)) (readValue (fuel' + 1) ('[' :: unifyNewlines cs)) := by
  have hle := length_skipSpace_le cs
  have hle' := length_skipSpace_le (unifyNewlines cs)
  have hitems : Alike _ (readItems fuel' (skipSpace (unifyNewlines cs)) >>= _) :=
    (ih.items (skipSpace_unifyNewlines cs) (by omega) (by omega)).map Json.arr
  rw [readValue, readValue, if_neg (by decide), if_pos rfl, if_neg (by decide), if_pos rfl]
  rcases skipSpace_cases cs with ⟨hnil, hnil'⟩ | ⟨c, after, hcons, hcons'⟩
  · rw [hnil, hnil'] at hitems ⊢
    exact hitems
  rw [hcons, hcons'] at hitems ⊢
  split
  next heq =>
    cases heq
    exact .ok (arr []) after
  next hclose =>
    split
    next heq =>
      cases heq
      exact absurd rfl (hclose _)
    next => exact hitems

/-- An object compares if what stands behind its brace does. -/
theorem ReadAlike.object_succ (ih : ReadAlike fuel) (hfuel : 2 * cs.length < fuel)
    (hfuel' : 2 * (unifyNewlines cs).length < fuel') :
    Alike (readValue (fuel + 1) ('{' :: cs)) (readValue (fuel' + 1) ('{' :: unifyNewlines cs)) := by
  have hle := length_skipSpace_le cs
  have hle' := length_skipSpace_le (unifyNewlines cs)
  have hfields : Alike _ (readFields fuel' (skipSpace (unifyNewlines cs)) >>= _) :=
    (ih.fields (skipSpace_unifyNewlines cs) (by omega) (by omega)).map
      fun fs => Json.obj (mergeFields fs)
  rw [readValue, readValue, if_neg (by decide), if_neg (by decide), if_pos rfl, if_neg (by decide),
    if_neg (by decide), if_pos rfl]
  rcases skipSpace_cases cs with ⟨hnil, hnil'⟩ | ⟨c, after, hcons, hcons'⟩
  · rw [hnil, hnil'] at hfields ⊢
    exact hfields
  rw [hcons, hcons'] at hfields ⊢
  split
  next heq =>
    cases heq
    exact .ok (obj []) after
  next hclose =>
    split
    next heq =>
      cases heq
      exact absurd rfl (hclose _)
    next => exact hfields

/-- A text that opens nothing opens nothing after its line ends are unified. -/
theorem isOpening_unifyNewlines {c d : Char} {tail : List Char} (hc : isOpening c = false)
    (h : unifyNewlines (c :: cs) = d :: tail) : isOpening d = false := by
  by_cases hreturn : c = '\r'
  · subst hreturn
    obtain ⟨rest, hrest⟩ := unifyNewlines_return cs
    rw [hrest] at h
    cases h
    rfl
  · rw [unifyNewlines_cons hreturn] at h
    cases h
    exact hc

theorem isOpening_iff {c : Char} :
    isOpening c = true ↔ c = '"' ∨ c = '[' ∨ c = '{' := by
  simp only [isOpening, Bool.or_eq_true, beq_iff_eq, or_assoc]

/-- Values compare with one unit of fuel more, by the character that they start with. -/
theorem ReadAlike.value_succ (ih : ReadAlike fuel) (hfuel : 2 * cs.length ≤ fuel + 1)
    (hfuel' : 2 * (unifyNewlines cs).length ≤ fuel' + 1) :
    Alike (readValue (fuel + 1) cs) (readValue (fuel' + 1) (unifyNewlines cs)) := by
  cases cs with
  | nil => exact readValue_nil_alike
  | cons c cs =>
      cases hopening : isOpening c with
      | false =>
          have hscalar := readScalar_alike (c :: cs)
          obtain ⟨d, tail, hcons⟩ :=
            List.exists_cons_of_ne_nil (mt unifyNewlines_eq_nil (List.cons_ne_nil c cs))
          rw [hcons] at hscalar ⊢
          rw [readValue_scalar hopening, readValue_scalar (isOpening_unifyNewlines hopening hcons)]
          exact hscalar
      | true =>
          have hc : c ≠ '\r' := by
            rintro rfl
            cases hopening
          rw [unifyNewlines_cons hc] at hfuel' ⊢
          rw [List.length_cons] at hfuel hfuel'
          rcases isOpening_iff.mp hopening with rfl | rfl | rfl
          · rw [readValue, readValue, if_pos rfl, if_pos rfl]
            exact (readString_alike _ _ (by omega) (by omega)).map
              fun s => Json.str (String.ofList s)
          · exact ih.list_succ (by omega) (by omega)
          · exact ih.object_succ (by omega) (by omega)

/-- The readers compare with any fuel. -/
theorem readAlike (fuel : Nat) : ReadAlike fuel := by
  induction fuel with
  | zero =>
      refine ⟨?_, ?_, ?_⟩
      · rintro fuel' cs _ rfl hfuel -
        rw [List.eq_nil_of_length_eq_zero (by omega : cs.length = 0)]
        exact readValue_nil_alike
      · rintro fuel' cs _ - hfuel -
        exact absurd hfuel (Nat.not_lt_zero _)
      · rintro fuel' cs _ rfl hfuel -
        rw [List.eq_nil_of_length_eq_zero (by omega : cs.length = 0)]
        exact readFields_nil_alike
  | succ fuel ih =>
      -- a second run without fuel has nothing to read
      have hnil {cs : List Char} (h : 2 * (unifyNewlines cs).length ≤ 0) : cs = [] :=
        unifyNewlines_eq_nil (List.eq_nil_of_length_eq_zero (by omega))
      refine ⟨?_, ?_, ?_⟩
      · rintro (_ | fuel') cs _ rfl hfuel hfuel'
        · rw [hnil hfuel']
          exact readValue_nil_alike
        · exact ih.value_succ hfuel hfuel'
      · rintro (_ | fuel') cs _ rfl hfuel hfuel'
        · exact absurd hfuel' (Nat.not_lt_zero _)
        · exact ih.items_succ hfuel hfuel'
      · rintro (_ | fuel') cs _ rfl hfuel hfuel'
        · rw [hnil hfuel']
          exact readFields_nil_alike
        · exact ih.fields_succ hfuel hfuel'

/-! ## Documents -/

/-- A text and its unified form hold the same document, or have the same flaw. -/
theorem readDocument_unifyNewlines (cs : List Char) :
    (∃ v, readDocument cs = .ok v ∧ readDocument (unifyNewlines cs) = .ok v) ∨
      ∃ fault fault', readDocument cs = .error fault ∧
        readDocument (unifyNewlines cs) = .error fault' ∧ fault.flaw = fault'.flaw := by
  by_cases hmark : ∃ tail, cs = '\uFEFF' :: tail
  · obtain ⟨tail, rfl⟩ := hmark
    rw [unifyNewlines_cons (by decide)]
    exact .inr ⟨_, _, rfl, rfl, rfl⟩
  rw [not_exists] at hmark
  have hle := length_skipSpace_le cs
  have hle' := length_skipSpace_le (unifyNewlines cs)
  have hread := (readAlike (2 * cs.length + 2)).value (skipSpace_unifyNewlines cs) (by omega)
    (by omega : _ ≤ 2 * (unifyNewlines cs).length + 2)
  rw [readDocument_of_ne hmark, readDocument_of_ne (ne_cons_unifyNewlines (by decide) hmark)]
  generalize readValue (2 * cs.length + 2) (skipSpace cs) = run at hread
  generalize readValue _ (skipSpace (unifyNewlines cs)) = run' at hread
  cases hread with
  | error h => exact .inr ⟨_, _, rfl, rfl, h⟩
  | ok v rest =>
      rcases skipSpace_cases rest with ⟨hnil, hnil'⟩ | ⟨c, after, hcons, hcons'⟩
      · refine .inl ⟨v, ?_, ?_⟩
        · simp only [bind, Except.bind, hnil]
        · simp only [bind, Except.bind, hnil']
      · refine .inr ⟨⟨.extraData, c :: after⟩, ⟨.extraData, c :: unifyNewlines after⟩, ?_, ?_, rfl⟩
        · simp only [bind, Except.bind, hcons]
        · simp only [bind, Except.bind, hcons']

/-- **Documents and line ends.**  A text and its unified form are decoded to the same value, or
    refused for the same flaw. -/
theorem decode_unifyNewlines (text : String) :
    (∃ v, decode text = .ok v ∧ decode (String.ofList (unifyNewlines text.toList)) = .ok v) ∨
      ∃ flaw line line', decode text = .error ⟨flaw, line⟩ ∧
        decode (String.ofList (unifyNewlines text.toList)) = .error ⟨flaw, line'⟩ := by
  unfold decode
  rw [String.toList_ofList]
  rcases readDocument_unifyNewlines text.toList with
    ⟨v, hread, hread'⟩ | ⟨fault, fault', hread, hread', hflaw⟩
  · rw [hread, hread']
    exact .inl ⟨v, rfl, rfl⟩
  · rw [hread, hread']
    refine .inr ⟨fault.flaw, _, lineAt (unifyNewlines text.toList) fault'.rest, rfl, ?_⟩
    rw [hflaw]

end EnvLint.Json
