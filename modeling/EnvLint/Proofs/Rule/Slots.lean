import EnvLint.Proofs.Env.Report
import Mathlib.Data.List.TakeWhile
import Mathlib.Tactic.ByContra
import Mathlib.Tactic.Choose

/-! # Slots are filled at once

    A template is filled from the left, one slot after another.  Here stands what
    that comes to, without an order: every place of the template contributes a
    text of its own (`Contributes`), and the filled template is what its places
    contribute, one after another.

    * `Occurs.disjoint`, `Occurs.name_eq`: two slots never overlap, so a place
      belongs to one slot at most and contributes one text only;
    * `fill_eq_flatMap`: the run from the left against the contributions.  It
      carries that no slot reaches over the place where the run stands;
    * `interpolate_replaces`: the law of templates, and what it says of the
      message of the rule. -/

namespace EnvLint.Template

variable {data : List (String × Json)} {cs name other : List Char} {i j : Nat}

/-! ## Where slots stand -/

/-- A slot as it is written. -/
def written (name : List Char) : List Char := '{' :: '{' :: (name ++ ['}', '}'])

/-- A slot stands in a text: its name is not empty and holds no brace, and `i`
    characters come before it. -/
structure Occurs (cs : List Char) (i : Nat) (name : List Char) : Prop where
  nonempty : name ≠ []
  bare : ∀ c ∈ name, isBrace c = false
  stands : ∃ before after, cs = before ++ (written name ++ after) ∧ before.length = i

theorem length_written (name : List Char) : (written name).length = name.length + 4 := by
  simp [written]

/-- What is left of a text at a slot. -/
theorem Occurs.drop_eq (h : Occurs cs i name) :
    ∃ after, cs.drop i = '{' :: '{' :: (name ++ '}' :: '}' :: after) := by
  obtain ⟨before, after, rfl, rfl⟩ := h.stands
  refine ⟨after, ?_⟩
  rw [List.drop_left]
  simp [written]

/-- A slot stands where the text goes on as the slot is written. -/
theorem occurs_of_drop {after : List Char} (hne : name ≠ []) (hbare : ∀ c ∈ name, isBrace c = false)
    (h : cs.drop i = '{' :: '{' :: (name ++ '}' :: '}' :: after)) : Occurs cs i name := by
  have hi : i < cs.length := by
    have hlength := congrArg List.length h
    simp only [List.length_drop, List.length_cons] at hlength
    omega
  refine ⟨hne, hbare, cs.take i, after, ?_, List.length_take_of_le (Nat.le_of_lt hi)⟩
  calc
    cs = cs.take i ++ cs.drop i := (List.take_append_drop i cs).symm
    _ = cs.take i ++ (written name ++ after) := by
      rw [h]
      simp [written]

/-- The characters from where a slot stands are those of the slot. -/
theorem Occurs.getElem?_eq (h : Occurs cs i name) (k : Nat) :
    ∃ after, cs[i + k]? = ('{' :: '{' :: (name ++ '}' :: '}' :: after))[k]? := by
  obtain ⟨after, hafter⟩ := h.drop_eq
  refine ⟨after, ?_⟩
  rw [← hafter, List.getElem?_drop]

/-- A slot starts with two braces. -/
theorem Occurs.opens (h : Occurs cs i name) : cs[i]? = some '{' ∧ cs[i + 1]? = some '{' := by
  obtain ⟨after, hfirst⟩ := h.getElem?_eq 0
  obtain ⟨after', hsecond⟩ := h.getElem?_eq 1
  exact ⟨hfirst, hsecond⟩

/-- Behind its first character a slot holds one opening brace, and no brace before
    its closing ones. -/
theorem Occurs.not_opens (h : Occurs cs i name) {k : Nat} (hk : 2 ≤ k)
    (hend : k < (written name).length) : cs[i + k]? ≠ some '{' := by
  obtain ⟨after, hat⟩ := h.getElem?_eq k
  obtain ⟨k, rfl⟩ : ∃ n, k = n + 2 := ⟨k - 2, by omega⟩
  rw [length_written] at hend
  rw [hat]
  show (name ++ '}' :: '}' :: after)[k]? ≠ some '{'
  by_cases hname : k < name.length
  · rw [List.getElem?_append_left hname]
    intro hbrace
    have hbare := h.bare '{' (List.mem_of_getElem? hbrace)
    exact absurd hbare (by decide)
  · rw [List.getElem?_append_right (Nat.not_lt.mp hname)]
    obtain hzero | hone : k - name.length = 0 ∨ k - name.length = 1 := by omega
    · rw [hzero]
      simp
    · rw [hone]
      simp

/-- Slots do not overlap: the braces that open a slot stand in no slot before it. -/
theorem Occurs.disjoint (h : Occurs cs i name) (h' : Occurs cs j other) (hij : i < j) :
    i + (written name).length ≤ j := by
  by_contra hover
  have hlength := length_written name
  obtain ⟨k, rfl⟩ : ∃ k, j = i + k := ⟨j - i, by omega⟩
  by_cases hk : 2 ≤ k
  · exact h.not_opens hk (by omega) h'.opens.1
  · -- the next slot would start with the second brace, and go on into the name
    obtain rfl : k = 1 := by omega
    have hpos := List.length_pos_iff.mpr h.nonempty
    exact h.not_opens (k := 2) (Nat.le_refl 2) (by omega) h'.opens.2

/-- The name of a slot is known from where it stands. -/
theorem Occurs.name_eq (h : Occurs cs i name) (h' : Occurs cs i other) : name = other := by
  have hname {name : List Char} (h : Occurs cs i name) : slotName (cs.drop (i + 2)) = name := by
    obtain ⟨after, hafter⟩ := h.drop_eq
    rw [← List.drop_drop, hafter]
    show List.takeWhile _ (name ++ _) = name
    rw [List.takeWhile_append_of_pos]
    · rw [List.takeWhile_cons_of_neg (by decide), List.append_nil]
    · intro c hc
      rw [h.bare c hc]
      rfl
  rw [← hname h, hname h']

/-! ## What a place contributes -/

/-- What a place of a template contributes: the first place of a slot the value of
    its name, or the slot as it is written if the name has none; the other places
    of a slot nothing; a place outside of slots its character. -/
inductive Contributes (data : List (String × Json)) (cs : List Char) (i : Nat) :
    List Char → Prop where
  | value {name : List Char} {v : Json} (h : Occurs cs i name)
      (hkey : Json.lookup (String.ofList (Text.trim name)) data = some v) :
      Contributes data cs i v.text.toList
  | verbatim {name : List Char} (h : Occurs cs i name)
      (hkey : Json.lookup (String.ofList (Text.trim name)) data = none) :
      Contributes data cs i (written name)
  | inside {name : List Char} {j : Nat} (h : Occurs cs j name) (hj : j < i)
      (hi : i < j + (written name).length) : Contributes data cs i []
  | outside {c : Char} (h : ∀ j name, Occurs cs j name → i < j ∨ j + (written name).length ≤ i)
      (hc : cs[i]? = some c) : Contributes data cs i [c]

/-- A name that has a value is filled with its text. -/
theorem filling_of_value {v : Json}
    (h : Json.lookup (String.ofList (Text.trim name)) data = some v) :
    filling data name = v.text.toList := by
  rw [filling, value?, h]
  rfl

/-- A name without a value is left as it is written. -/
theorem filling_of_missing
    (h : Json.lookup (String.ofList (Text.trim name)) data = none) :
    filling data name = written name := by
  rw [filling, value?, h]
  rfl

/-- The first place of a slot contributes what the slot is filled with. -/
theorem Contributes.of_occurs {out : List Char} (hout : Contributes data cs i out)
    (h : Occurs cs i name) : out = filling data name := by
  have hlength := length_written name
  cases hout with
  | value h' hkey =>
      obtain rfl := h.name_eq h'
      exact (filling_of_value hkey).symm
  | verbatim h' hkey =>
      obtain rfl := h.name_eq h'
      exact (filling_of_missing hkey).symm
  | inside h' hj hi => exact absurd (h'.disjoint h hj) (by omega)
  | outside hout hc =>
      rcases hout i name h with hlt | hle
      · omega
      · omega

/-- The other places of a slot contribute nothing. -/
theorem Contributes.of_inside {out : List Char} (hout : Contributes data cs i out)
    (h : Occurs cs j name) (hj : j < i) (hi : i < j + (written name).length) : out = [] := by
  cases hout with
  | value h' hkey => exact absurd (h.disjoint h' hj) (by omega)
  | verbatim h' hkey => exact absurd (h.disjoint h' hj) (by omega)
  | inside h' hj hi => rfl
  | outside hout hc =>
      rcases hout j name h with hlt | hle
      · omega
      · omega

/-- A place in no slot contributes its character. -/
theorem Contributes.of_outside {out : List Char} {c : Char} (hout : Contributes data cs i out)
    (h : ∀ j name, Occurs cs j name → i < j ∨ j + (written name).length ≤ i)
    (hc : cs[i]? = some c) : out = [c] := by
  have hnot {j : Nat} {name : List Char} (h' : Occurs cs j name) (hj : j ≤ i)
      (hi : i < j + (written name).length) : False := by
    rcases h j name h' with hlt | hle
    · omega
    · omega
  cases hout with
  | value h' hkey => exact (hnot h' (Nat.le_refl i) (by rw [length_written]; omega)).elim
  | verbatim h' hkey => exact (hnot h' (Nat.le_refl i) (by rw [length_written]; omega)).elim
  | inside h' hj hi => exact (hnot h' (Nat.le_of_lt hj) hi).elim
  | outside h' hc' =>
      rw [hc] at hc'
      cases hc'
      rfl

/-- A place contributes one text only. -/
theorem Contributes.unique {out out' : List Char} (h : Contributes data cs i out)
    (h' : Contributes data cs i out') : out = out' := by
  cases h' with
  | value hat hkey => rw [h.of_occurs hat, filling_of_value hkey]
  | verbatim hat hkey => rw [h.of_occurs hat, filling_of_missing hkey]
  | inside hat hj hi => exact h.of_inside hat hj hi
  | outside hall hc => exact h.of_outside hall hc

/-- Every place of a template contributes something. -/
theorem exists_contributes (data : List (String × Json)) (hi : i < cs.length) :
    ∃ out, Contributes data cs i out := by
  by_cases hslot : ∃ j name, Occurs cs j name ∧ j ≤ i ∧ i < j + (written name).length
  · obtain ⟨j, name, hat, hj, hend⟩ := hslot
    rcases Nat.lt_or_eq_of_le hj with hlt | rfl
    · exact ⟨[], .inside hat hlt hend⟩
    · cases hkey : Json.lookup (String.ofList (Text.trim name)) data with
      | none => exact ⟨_, .verbatim hat hkey⟩
      | some v => exact ⟨_, .value hat hkey⟩
  · refine ⟨[cs[i]], .outside ?_ (List.getElem?_eq_getElem hi)⟩
    intro j name hat
    by_contra hover
    exact hslot ⟨j, name, hat, by omega, by omega⟩

/-- Contributions of all places of a template. -/
theorem exists_contributions (data : List (String × Json)) (cs : List Char) :
    ∃ f : Nat → List Char, ∀ i < cs.length, Contributes data cs i (f i) := by
  have hsome : ∀ i, ∃ out, i < cs.length → Contributes data cs i out := by
    intro i
    by_cases hi : i < cs.length
    · obtain ⟨out, hout⟩ := exists_contributes data hi
      exact ⟨out, fun _ => hout⟩
    · exact ⟨[], fun h => absurd h hi⟩
  choose f hf using hsome
  exact ⟨f, hf⟩

/-! ## The run from the left -/

/-- A slot is read after its opening braces exactly where one stands. -/
theorem slot?_eq_some_iff {rest after : List Char} :
    slot? rest = some (name, after) ↔
      name ≠ [] ∧ (∀ c ∈ name, isBrace c = false) ∧ rest = name ++ '}' :: '}' :: after := by
  constructor
  · intro h
    rw [slot?] at h
    split at h
    next after' hdrop =>
      split at h
      · cases h
      next hne =>
        cases h
        refine ⟨?_, ?_, ?_⟩
        · intro hnil
          exact hne (List.isEmpty_iff.mpr hnil)
        · intro c hc
          have hc' := List.mem_takeWhile_imp hc
          simpa using hc'
        · rw [← hdrop, slotName, List.takeWhile_append_dropWhile]
    next => cases h
  · rintro ⟨hne, hbare, rfl⟩
    have hpass : ∀ c ∈ name, (!isBrace c) = true := by
      intro c hc
      rw [hbare c hc]
      rfl
    have htake : slotName (name ++ '}' :: '}' :: after) = name := by
      rw [slotName, List.takeWhile_append_of_pos hpass, List.takeWhile_cons_of_neg (by decide),
        List.append_nil]
    have hdrop : (name ++ '}' :: '}' :: after).dropWhile (fun c => !isBrace c)
        = '}' :: '}' :: after := by
      rw [List.dropWhile_append_of_pos hpass, List.dropWhile_cons_of_neg (by decide)]
    have hfull : ¬name.isEmpty = true := by
      rw [List.isEmpty_iff]
      exact hne
    rw [slot?, hdrop]
    show (if (slotName _).isEmpty = true then none else some (slotName _, after)) = _
    rw [htake, if_neg hfull]

/-- Two braces that open no slot are not special: the run goes on behind the first of them. -/
theorem fill_of_no_slot (data : List (String × Json)) {rest : List Char} (h : slot? rest = none) :
    fill data ('{' :: '{' :: rest) = '{' :: fill data ('{' :: rest) := by
  rw [fill]
  split
  next heq =>
    rw [h] at heq
    cases heq
  next => rfl

/-- No slot reaches over a place. -/
def Clear (cs : List Char) (i : Nat) : Prop :=
  ∀ j name, Occurs cs j name → j < i → j + (written name).length ≤ i

/-- No slot reaches over the end of a slot, since slots do not overlap. -/
theorem Clear.after_slot (hclear : Clear cs i) (h : Occurs cs i name) :
    Clear cs (i + (written name).length) := by
  intro j other hother hj
  rcases Nat.lt_trichotomy j i with hlt | rfl | hgt
  · have := hclear j other hother hlt
    omega
  · rw [h.name_eq hother]
  · exact absurd (h.disjoint hother hgt) (by omega)

/-- No slot reaches over the next place if none stands at this one. -/
theorem Clear.succ (hclear : Clear cs i) (h : ∀ name, ¬Occurs cs i name) : Clear cs (i + 1) := by
  intro j name hat hj
  rcases Nat.lt_or_eq_of_le (Nat.le_of_lt_succ hj) with hlt | rfl
  · have := hclear j name hat hlt
    omega
  · exact absurd hat (h name)

/-- At a place that no slot reaches over and where none starts, the character stays. -/
theorem Clear.outside (hclear : Clear cs i) (h : ∀ name, ¬Occurs cs i name) :
    ∀ j name, Occurs cs j name → i < j ∨ j + (written name).length ≤ i := by
  intro j name hat
  rcases Nat.lt_trichotomy j i with hlt | rfl | hgt
  · exact .inr (hclear j name hat hlt)
  · exact absurd hat (h name)
  · exact .inl hgt

variable {f : Nat → List Char}

/-- The places of a slot contribute what it is filled with. -/
theorem flatMap_slot (hf : ∀ k < cs.length, Contributes data cs k (f k)) (h : Occurs cs i name) :
    (List.range' i (written name).length).flatMap f = filling data name := by
  have hlength := length_written name
  have hend : i + (written name).length ≤ cs.length := by
    obtain ⟨before, after, rfl, rfl⟩ := h.stands
    simp only [List.length_append]
    omega
  have hrest : (List.range' (i + 1) (name.length + 3)).flatMap f = [] := by
    rw [List.flatMap_eq_nil_iff]
    intro k hk
    rw [List.mem_range'_1] at hk
    exact (hf k (by omega)).of_inside h (by omega) (by omega)
  rw [hlength, List.range'_succ, List.flatMap_cons, hrest, List.append_nil]
  exact (hf i (by omega)).of_occurs h

/-- A place where no slot stands contributes its character. -/
theorem flatMap_char (hf : ∀ k < cs.length, Contributes data cs k (f k)) (hclear : Clear cs i)
    (hnone : ∀ name, ¬Occurs cs i name) {c : Char} {tail : List Char}
    (hrest : cs.drop i = c :: tail) :
    (List.range' i (c :: tail).length).flatMap f
      = c :: (List.range' (i + 1) tail.length).flatMap f := by
  have hc : cs[i]? = some c := by
    have hzero : (cs.drop i)[0]? = cs[i]? := List.getElem?_drop
    rw [hrest] at hzero
    exact hzero.symm
  have hi : i < cs.length := (List.getElem?_eq_some_iff.mp hc).1
  have hfi : f i = [c] := (hf i hi).of_outside (hclear.outside hnone) hc
  rw [List.length_cons, List.range'_succ, List.flatMap_cons, hfi]
  rfl

theorem drop_succ_of_drop {c : Char} {tail : List Char} (h : cs.drop i = c :: tail) :
    cs.drop (i + 1) = tail := by
  rw [← List.drop_drop, h]
  rfl

/-- The run from the left gives what the places from there on contribute. -/
theorem fill_eq_flatMap (hf : ∀ k < cs.length, Contributes data cs k (f k)) (rest : List Char)
    (hclear : Clear cs i) (hrest : cs.drop i = rest) :
    fill data rest = (List.range' i rest.length).flatMap f := by
  induction rest using fill.induct generalizing i with
  | case1 rest name after hslot ih =>
      obtain ⟨hne, hbare, rfl⟩ := slot?_eq_some_iff.mp hslot
      have hat : Occurs cs i name := occurs_of_drop hne hbare hrest
      have hafter : cs.drop (i + (written name).length) = after := by
        rw [← List.drop_drop, hrest, length_written]
        simp [List.drop_append]
      have hlength : ('{' :: '{' :: (name ++ '}' :: '}' :: after)).length
          = (written name).length + after.length := by
        simp [written]
        omega
      rw [fill_slot data hslot, ih (hclear.after_slot hat) hafter, ← flatMap_slot hf hat, hlength,
        ← List.range'_append_1, List.flatMap_append]
  | case2 rest hslot ih =>
      -- two braces that open no slot: the first one stays, and a slot may start at the second
      have hnone : ∀ name, ¬Occurs cs i name := by
        intro name hat
        obtain ⟨after, hafter⟩ := hat.drop_eq
        rw [hrest] at hafter
        cases hafter
        have hsome : slot? (name ++ '}' :: '}' :: after) = some (name, after) :=
          slot?_eq_some_iff.mpr ⟨hat.nonempty, hat.bare, rfl⟩
        rw [hslot] at hsome
        cases hsome
      rw [fill_of_no_slot data hslot, flatMap_char hf hclear hnone hrest,
        ih (hclear.succ hnone) (drop_succ_of_drop hrest)]
  | case3 c rest hopen ih =>
      have hnone : ∀ name, ¬Occurs cs i name := by
        intro name hat
        obtain ⟨after, hafter⟩ := hat.drop_eq
        rw [hrest] at hafter
        cases hafter
        exact hopen _ rfl rfl
      rw [fill, flatMap_char hf hclear hnone hrest,
        ih (hclear.succ hnone) (drop_succ_of_drop hrest)]
      exact hopen
  | case4 => simp [fill]

/-! ## Names without a value -/

/-- A slot stands further behind by what is put in front of the text. -/
theorem Occurs.append (h : Occurs cs i name) (front : List Char) :
    Occurs (front ++ cs) (front.length + i) name := by
  obtain ⟨before, after, rfl, rfl⟩ := h.stands
  exact ⟨h.nonempty, h.bare, front ++ before, after, (List.append_assoc _ _ _).symm,
    List.length_append⟩

/-- No slot of a text has a value. -/
def Keyless (data : List (String × Json)) (cs : List Char) : Prop :=
  ∀ i name, Occurs cs i name → Json.lookup (String.ofList (Text.trim name)) data = none

/-- If no slot of a text has a value, none of an end of it has. -/
theorem Keyless.of_append {front : List Char} (h : Keyless data (front ++ cs)) :
    Keyless data cs := by
  intro i name hat
  exact h _ name (hat.append front)

theorem Keyless.tail {c : Char} (h : Keyless data (c :: cs)) : Keyless data cs :=
  Keyless.of_append (show Keyless data ([c] ++ cs) from h)

/-- A template none of whose slots has a value stays as it is. -/
theorem fill_of_keyless (h : Keyless data cs) : fill data cs = cs := by
  induction cs using fill.induct with
  | case1 rest name after hslot ih =>
      obtain ⟨hne, hbare, rfl⟩ := slot?_eq_some_iff.mp hslot
      have hsplit : '{' :: '{' :: (name ++ '}' :: '}' :: after) = written name ++ after := by
        simp [written]
      have hat : Occurs ('{' :: '{' :: (name ++ '}' :: '}' :: after)) 0 name :=
        ⟨hne, hbare, [], after, hsplit, rfl⟩
      rw [fill_slot data hslot, filling_of_missing (h 0 name hat), hsplit]
      rw [hsplit] at h
      rw [ih h.of_append]
  | case2 rest hslot ih =>
      rw [fill_of_no_slot data hslot, ih h.tail]
  | case3 c rest hopen ih =>
      rw [fill, ih h.tail]
      exact hopen
  | case4 => simp [fill]

/-! ## The law -/

/-- Without data the template stays as it is, and it is filled to itself as well. -/
theorem interpolate_eq (template : String) (data : List (String × Json)) :
    interpolate template data = String.ofList (fill data template.toList) := by
  rw [interpolate]
  split
  next hempty =>
    obtain rfl := List.isEmpty_iff.mp hempty
    have hkeyless : Keyless [] template.toList := by
      intro i name hat
      rfl
    rw [fill_of_keyless hkeyless, String.ofList_toList]
  next => rfl

/-- **Slots are filled at once.**  Two slots of a template never overlap.  The filled
    template is what the places of the template contribute, and each of them
    contributes one text that depends on nothing filled in elsewhere.  So a template
    none of whose slots has a value stays as it is, and the rule's message about a
    name is its template with that name, whatever it holds, in place of the slot. -/
theorem interpolate_replaces (template : String) (data : List (String × Json)) :
    (∀ i j name other, Occurs template.toList i name → Occurs template.toList j other →
      (i = j ∧ name = other) ∨ i + (written name).length ≤ j ∨ j + (written other).length ≤ i) ∧
    (∃ f : Nat → List Char,
      (∀ i < template.length, ∀ out, Contributes data template.toList i out ↔ out = f i) ∧
      interpolate template data = String.ofList ((List.range template.length).flatMap f)) ∧
    (Keyless data template.toList → interpolate template data = template) ∧
    (Env.template = Env.messageStart ++ (String.ofList (written Env.slotName.toList)
        ++ Env.messageEnd) ∧
      ∀ (c : Context) (site : Env.Site), c.describes = Env.description →
        ∃ d, Env.Session.reportSite c site
            = .ok { c with diagnostics := c.diagnostics ++ [d] } ∧
          d.message = Env.messageStart ++ (site.name ++ Env.messageEnd)) := by
  refine ⟨?_, ?_, ?_, ?_, ?_⟩
  · intro i j name other hname hother
    rcases Nat.lt_trichotomy i j with hlt | rfl | hgt
    · exact .inr (.inl (hname.disjoint hother hlt))
    · exact .inl ⟨rfl, hname.name_eq hother⟩
    · exact .inr (.inr (hother.disjoint hname hgt))
  · obtain ⟨f, hf⟩ := exists_contributions data template.toList
    refine ⟨f, ?_, ?_⟩
    · intro i hi out
      constructor
      · intro hout
        exact hout.unique (hf i hi)
      · rintro rfl
        exact hf i hi
    · -- the run starts in front, where no slot can reach over
      have hclear : Clear template.toList 0 := by
        intro j name hat hj
        omega
      rw [interpolate_eq, fill_eq_flatMap hf template.toList hclear rfl, List.range_eq_range']
      rfl
  · intro hkeyless
    rw [interpolate_eq, fill_of_keyless hkeyless, String.ofList_toList]
  · have hslot : String.ofList (written Env.slotName.toList) = "\x7b\x7bvarName\x7d\x7d" := by
      decide +kernel
    rw [hslot]
    exact Env.template_eq
  · intro c site hdescribes
    exact ⟨_, Env.reportSite_eq_ok hdescribes site, rfl⟩

end EnvLint.Template
