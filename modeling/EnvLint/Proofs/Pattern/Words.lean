import EnvLint.Pattern.Regex

/-! # Patterns that are words

    A word is a text of ASCII letters, digits and underscores.  None of these
    characters means anything else in a pattern, so a word is read as itself,
    after an anchor or not (`read_word`, `read_anchored`).

    A matcher of a word consumes that word or fails (`matcher_word`).  A search
    tries every place (`findFrom_iff`), and the anchor holds at the first one
    alone; so a word is found where it occurs, and an anchored one where the
    text starts with it. -/

namespace EnvLint.Pattern

/-! ## Reading a word -/

/-- ASCII letters, digits and the underscore. -/
def IsLetter (c : Char) : Prop := c.isAlphanum = true ∨ c = '_'

/-- A text of letters. -/
def IsWord (w : List Char) : Prop := ∀ c ∈ w, IsLetter c

/-- A letter of a word is no sign. -/
theorem IsLetter.ne {c : Char} (h : IsLetter c) {d : Char} (hd : d.isAlphanum = false)
    (hline : d ≠ '_') : c ≠ d := by
  rintro rfl
  rcases h with h | h
  · rw [hd] at h
    cases h
  · exact hline h

/-- The node that a character of a word is read as. -/
def literal (c : Char) : Node := .char false c.toNat

/-- The scanner after some characters, if `rest` is left then. -/
def Scanner.at (s : Scanner) (rest : List Char) (count : Nat) : Scanner :=
  { s with rest, position := s.position + count }

variable {s : Scanner} {w : List Char} {fuel : Nat} {first : Bool} {items : List Node}

/-- A character other than a backslash is a token by itself. -/
theorem token_of_ne {c : Char} (hc : c ≠ '\\') (hs : s.rest = c :: w) : s.token = [c] := by
  rw [Scanner.token, hs]
  split
  next heq => exact absurd (List.cons.inj heq).1 hc
  next heq => rw [(List.cons.inj heq).1]
  next heq => cases heq

/-- Behind a token of one character the scanner stands at what follows. -/
theorem next_of_token {c : Char} (htoken : s.token = [c]) (hs : s.rest = c :: w)
    (hw : w ≠ ['\\']) : s.next = .ok (s.at w 1) := by
  rw [Scanner.next, htoken, hs, Scanner.settle]
  split
  next heq => exact absurd heq hw
  next => rfl

theorem IsWord.ne_backslash (hw : IsWord w) : w ≠ ['\\'] := by
  rintro rfl
  exact (hw '\\' List.mem_cons_self).ne rfl (by decide) rfl

/-- Items without a flaw in them make a sequence without one. -/
theorem flaw?_ofItems {template : Bool} {items : List Node}
    (h : ∀ n ∈ items, n.flaw? template = none) : (Node.ofItems items).flaw? template = none := by
  induction items with
  | nil => rfl
  | cons n items ih =>
      rw [List.forall_mem_cons] at h
      cases items with
      | nil => exact h.1
      | cons m items =>
          rw [Node.ofItems, Node.flaw?, h.1, ih h.2]
          · rfl
          · intro heq
            cases heq

/-- Literals have no flaw. -/
theorem flaw?_literals (template : Bool) (w : List Char) :
    ∀ n ∈ w.map literal, n.flaw? template = none := by
  intro n hn
  obtain ⟨c, -, rfl⟩ := List.mem_map.mp hn
  rfl

section Host

variable [Host]

/-- A letter is read as itself. -/
theorem sequence_letter {c : Char} (hc : IsLetter c) (hw : IsWord w) (hs : s.rest = c :: w) :
    sequence (fuel + 1) false first items s
      = sequence fuel false first (literal c :: items) (s.at w 1) := by
  have hne (d : Char) (hd : d.isAlphanum = false) (hline : d ≠ '_') : c ≠ d := hc.ne hd hline
  have htoken : s.token = [c] := token_of_ne (hne '\\' rfl (by decide)) hs
  have hnext := next_of_token htoken hs hw.ne_backslash
  rw [sequence, htoken]
  split
  next heq => cases heq
  next heq => exact absurd (List.cons.inj heq).1 (hne '|' rfl (by decide))
  next heq => exact absurd (List.cons.inj heq).1 (hne ')' rfl (by decide))
  next heq => cases heq
  next heq =>
    cases heq
    rw [hnext]
    -- what a pattern means by a character is decided here, and no letter has a meaning
    simp only [bind, Except.bind, Bool.false_and, Bool.false_eq_true, if_false]
    split
    · exact absurd rfl (hne '.' rfl (by decide))
    · exact absurd rfl (hne '^' rfl (by decide))
    · exact absurd rfl (hne '$' rfl (by decide))
    · exact absurd rfl (hne '[' rfl (by decide))
    · exact absurd rfl (hne '(' rfl (by decide))
    · have hrepeat : ¬(decide (c = '*') || decide (c = '+') || decide (c = '?')
          || decide (c = '\x7b')) = true := by
        simp [hne '*' rfl (by decide), hne '+' rfl (by decide), hne '?' rfl (by decide),
          hne '\x7b' rfl (by decide)]
      rw [if_neg hrepeat]
      rfl

/-- A sequence ends with its text. -/
theorem sequence_end (hs : s.rest = []) :
    sequence (fuel + 1) false first items s = .ok (.ofItems items.reverse, s) := by
  have htoken : s.token = [] := by
    rw [Scanner.token, hs]
  rw [sequence, htoken]

/-- An anchor in front of a word is read as one, and the word is left. -/
theorem sequence_anchor (hw : IsWord w) (hs : s.rest = '^' :: w) :
    sequence (fuel + 1) false first items s
      = sequence fuel false first (.anchor .start :: items) (s.at w 1) := by
  have htoken : s.token = ['^'] := token_of_ne (by decide) hs
  rw [sequence, htoken]
  dsimp only
  rw [next_of_token htoken hs hw.ne_backslash]
  rfl

/-- A word is read letter by letter. -/
theorem sequence_word (hw : IsWord w) (hs : s.rest = w) (hfuel : w.length < fuel) :
    sequence fuel false first items s
      = .ok (.ofItems (items.reverse ++ w.map literal), s.at [] w.length) := by
  induction w generalizing s fuel items with
  | nil =>
      obtain ⟨fuel, rfl⟩ : ∃ n, fuel = n + 1 := ⟨fuel - 1, by omega⟩
      have hat : s.at [] 0 = s := by
        rw [← hs]
        rfl
      rw [sequence_end hs, List.map_nil, List.append_nil]
      exact congrArg (fun t => Except.ok (Node.ofItems items.reverse, t)) hat.symm
  | cons c w ih =>
      rw [List.length_cons] at hfuel
      obtain ⟨fuel, rfl⟩ : ∃ n, fuel = n + 1 := ⟨fuel - 1, by omega⟩
      have hletter : IsLetter c := hw c List.mem_cons_self
      have hrest : IsWord w := fun d hd => hw d (List.mem_cons_of_mem c hd)
      rw [sequence_letter hletter hrest hs, ih hrest rfl (by omega)]
      simp only [List.reverse_cons, List.append_assoc, List.map_cons, List.length_cons,
        Scanner.at, List.singleton_append]
      rw [Nat.add_assoc, Nat.add_comm 1]

/-- What stands before the first token. -/
def Scanner.begin (source : List Char) : Scanner := ⟨source, 0, [], [], none, [], []⟩

/-- A pattern that is one sequence without flaws is that sequence. -/
theorem read_of_sequence {source : List Char} {node : Node} {n : Nat}
    (hsource : source ≠ ['\\'])
    (hread : sequence (3 * source.length + 2) false true [] (Scanner.begin source)
      = .ok (node, (Scanner.begin source).at [] n))
    (hflaw : node.flaw? false = none) : read source = .ok ⟨node, .plain⟩ := by
  have hstart : Scanner.start source = .ok (Scanner.begin source) := by
    rw [Scanner.start, Scanner.settle]
    split
    next heq => exact absurd heq hsource
    next => rfl
  have hwhole : alternatives (3 * source.length + 3) true false true (Scanner.begin source)
      = .ok (node, (Scanner.begin source).at [] n) := by
    rw [alternatives, hread]
    rfl
  rw [read, hstart]
  show (alternatives (3 * source.length + 3) true false true (Scanner.begin source) >>= _) = _
  have hscope : Scope.plain.within [] [] = .plain := rfl
  rw [hwhole]
  simp [bind, Except.bind, Scanner.at, Scanner.begin, Scanner.atEnd, missingGroup?, hflaw, hscope]

/-- A word is read as its letters. -/
theorem read_word (hw : IsWord w) : read w = .ok ⟨.ofItems (w.map literal), .plain⟩ :=
  read_of_sequence hw.ne_backslash (sequence_word hw rfl (by omega))
    (flaw?_ofItems (flaw?_literals false w))

/-- An anchored word is read as the anchor and the letters. -/
theorem read_anchored (hw : IsWord w) :
    read ('^' :: w) = .ok ⟨.ofItems (.anchor .start :: w.map literal), .plain⟩ := by
  refine read_of_sequence (n := 1 + w.length) (by simp) ?_ ?_
  · rw [List.length_cons, sequence_anchor hw rfl, sequence_word hw rfl (by omega)]
    simp [Scanner.at, Nat.add_assoc]
  · exact flaw?_ofItems (List.forall_mem_cons.mpr ⟨rfl, flaw?_literals false w⟩)

end Host

/-! ## Matching a word -/

/-- A sequence is matched item by item. -/
theorem matcher_ofItems_cons (scope : Scope) (n : Node) (items : List Node) :
    (Node.ofItems (n :: items)).matcher scope
      = (n.matcher scope).cat ((Node.ofItems items).matcher scope) := by
  cases items with
  | nil => rfl
  | cons m items => rfl

/-- A matcher of a word succeeds where the word stands. -/
theorem isSome_word (w : List Char) (p : Place) :
    (((Node.ofItems (w.map literal)).matcher .plain).alone p).isSome = true ↔ w <+: p.after := by
  induction w generalizing p with
  | nil =>
      constructor
      · intro _
        exact List.nil_prefix
      · intro _
        rfl
  | cons c w ih =>
      rw [List.map_cons, matcher_ofItems_cons]
      obtain ⟨before, after, groups⟩ := p
      cases after with
      | nil =>
          show (none : Option Place).isSome = true ↔ c :: w <+: []
          simp
      | cons d after =>
          -- the first letter is compared as a code point
          have hsame : ((d.toNat == c.toNat) != false) = true ↔ c = d := by
            rw [Bool.bne_false, beq_iff_eq, Char.toNat_inj]
            exact eq_comm
          show (if ((d.toNat == c.toNat) != false) = true then
              ((Node.ofItems (w.map literal)).matcher .plain).alone ⟨d :: before, after, groups⟩
            else none).isSome = true ↔ c :: w <+: d :: after
          rw [List.cons_prefix_cons]
          by_cases hcd : c = d
          · rw [if_pos (hsame.mpr hcd), ih]
            exact ⟨fun h => ⟨hcd, h⟩, fun h => h.2⟩
          · rw [if_neg (fun h => hcd (hsame.mp h))]
            constructor
            · intro h
              cases h
            · rintro ⟨h, -⟩
              exact absurd h hcd

/-- An anchored matcher succeeds at the start of a text, where what follows does. -/
theorem isSome_anchored (m : Matcher) (p : Place) :
    (((Matcher.anchor .plain .start).cat m).alone p).isSome = true ↔
      p.before = [] ∧ (m.alone p).isSome = true := by
  obtain ⟨before, after, groups⟩ := p
  cases before with
  | nil =>
      show (m.alone _).isSome = true ↔ _
      exact ⟨fun h => ⟨rfl, h⟩, fun h => h.2⟩
  | cons c before =>
      show (none : Option Place).isSome = true ↔ _
      simp

/-- A negated look ahead goes on where what it looks for does not stand. -/
theorem isSome_notAhead (m rest : Matcher) (p : Place) :
    ((m.notAhead.cat rest).alone p).isSome = true ↔
      (m.alone p).isSome = false ∧ (rest.alone p).isSome = true := by
  have hstep : (m.notAhead.cat rest).alone p
      = if (m.alone p).isSome then none else rest.alone p := by
    show m.notAhead p rest.alone = _
    rw [Matcher.notAhead]
    cases m.alone p with
    | some q => rfl
    | none => rfl
  rw [hstep]
  cases m.alone p with
  | some q => simp
  | none => simp

/-- A loop without a least number of rounds never keeps a match from succeeding. -/
theorem isSome_loop (m : Matcher) (most : Option Nat) (p : Place) :
    ((m.rep .greedy 0 most).alone p).isSome = true := by
  show (Option.or _ (some p)).isSome = true
  rw [Option.isSome_or, Option.isSome_some, Bool.or_true]

/-! ## Searching -/

/-- A search that skips no place succeeds if the matcher does at some place. -/
theorem findFrom_iff {m : Matcher} {allowed : Char → Bool} (hall : ∀ c, allowed c = true)
    (before text : List Char) :
    m.findFrom allowed before text = true ↔
      ∃ front back, text = front ++ back ∧
        (m.alone ⟨front.reverse ++ before, back, .none⟩).isSome = true := by
  induction text generalizing before with
  | nil =>
      rw [Matcher.findFrom]
      constructor
      · intro h
        exact ⟨[], [], rfl, h⟩
      · rintro ⟨front, back, hsplit, h⟩
        obtain ⟨rfl, rfl⟩ := List.append_eq_nil_iff.mp hsplit.symm
        exact h
  | cons c text ih =>
      rw [Matcher.findFrom, hall, Bool.true_and, Bool.or_eq_true, ih]
      constructor
      · rintro (h | ⟨front, back, rfl, h⟩)
        · exact ⟨[], c :: text, rfl, h⟩
        · refine ⟨c :: front, back, rfl, ?_⟩
          rw [List.reverse_cons, List.append_assoc]
          exact h
      · rintro ⟨front, back, hsplit, h⟩
        -- the match starts here, or further on
        cases front with
        | nil =>
            obtain rfl : c :: text = back := hsplit
            exact .inl h
        | cons d front =>
            obtain ⟨rfl, rfl⟩ := List.cons.inj hsplit
            rw [List.reverse_cons, List.append_assoc] at h
            exact .inr ⟨front, back, rfl, h⟩

/-- An anchored search looks at the first place alone. -/
theorem findFrom_anchored_iff {m : Matcher} {allowed : Char → Bool}
    (hall : ∀ c, allowed c = true) (text : List Char) :
    ((Matcher.anchor .plain .start).cat m).findFrom allowed [] text = true ↔
      (m.alone ⟨[], text, .none⟩).isSome = true := by
  rw [findFrom_iff hall]
  constructor
  · rintro ⟨front, back, rfl, h⟩
    obtain ⟨hfront, hmatch⟩ := (isSome_anchored m _).mp h
    obtain rfl : front = [] := by simpa using hfront
    exact hmatch
  · intro h
    exact ⟨[], text, rfl, (isSome_anchored m _).mpr ⟨rfl, h⟩⟩

/-- A search for a word that skips no place finds it where it occurs. -/
theorem findFrom_word_iff {allowed : Char → Bool} (hall : ∀ c, allowed c = true)
    (w text : List Char) :
    ((Node.ofItems (w.map literal)).matcher .plain).findFrom allowed [] text = true ↔
      w <:+: text := by
  rw [findFrom_iff hall]
  constructor
  · rintro ⟨front, back, rfl, h⟩
    obtain ⟨after, rfl⟩ := (isSome_word w _).mp h
    exact ⟨front, after, List.append_assoc _ _ _⟩
  · rintro ⟨front, after, rfl⟩
    exact ⟨front, w ++ after, List.append_assoc _ _ _, (isSome_word w _).mpr ⟨after, rfl⟩⟩

/-- A sequence has no leading class if its first item has none. -/
theorem lead?_of_first {n : Node} {items : List Node} {scope : Scope}
    (hitem : n.firstItem?.isSome = true) (h : n.lead? scope = none) :
    (Node.ofItems (n :: items)).lead? scope = none := by
  cases items with
  | nil => exact h
  | cons m items =>
      rw [Node.ofItems, Node.lead?, if_neg, h]
      · intro hnone
        rw [Option.isNone_iff_eq_none] at hnone
        rw [hnone] at hitem
        cases hitem
      · intro heq
        cases heq

/-- A word has no leading class, so a search tries every position. -/
theorem lead?_word (w : List Char) : (Node.ofItems (w.map literal)).lead? .plain = none := by
  cases w with
  | nil => rfl
  | cons c w => exact lead?_of_first rfl rfl

end EnvLint.Pattern

namespace EnvLint.Regex

open Pattern

variable {w : String}

/-- A search skips no place if nothing is known about the first character. -/
theorem search_eq {r : Regex} (h : r.parsed.node.lead? r.parsed.scope = none) (name : String) :
    r.search name
      = (r.parsed.node.matcher r.parsed.scope).findFrom (fun _ => true) [] name.toList := by
  rw [search, h]
  rfl

/-- A word opens no group, so reading it takes no depth. -/
theorem count_paren_of_isWord {cs : List Char} (hw : IsWord cs) : cs.count '(' = 0 := by
  rw [List.count_eq_zero]
  intro hparen
  exact (hw '(' hparen).ne rfl (by decide) rfl

variable [Host]

/-- A pattern with at most one group is read as if the stack had no end. -/
theorem compile_of_flat {source : String} (h : source.toList.count '(' ≤ 1) :
    compile source = (read source.toList).map fun parsed => ⟨source, parsed⟩ := by
  rw [compile, Host.overflow?_eq_none _ (Nat.le_trans h Host.room_pos)]

/-- A word is found in a text where it occurs. -/
theorem compile_word (hw : IsWord w.toList) :
    ∃ r, compile w = .ok r ∧ ∀ name, r.search name = true ↔ w.toList <:+: name.toList := by
  refine ⟨⟨w, .ofItems (w.toList.map literal), .plain⟩, ?_, ?_⟩
  · rw [compile_of_flat (by simp [count_paren_of_isWord hw]), read_word hw]
    rfl
  · intro name
    rw [search_eq (lead?_word _)]
    exact findFrom_word_iff (fun _ => rfl) _ _

/-- An anchored word is found in a text that starts with it. -/
theorem compile_anchored (hw : IsWord w.toList) :
    ∃ r, compile ("^" ++ w) = .ok r ∧ ∀ name, r.search name = true ↔ w.toList <+: name.toList := by
  refine ⟨⟨"^" ++ w, .ofItems (.anchor .start :: w.toList.map literal), .plain⟩, ?_, ?_⟩
  · have hflat : ("^" ++ w).toList.count '(' ≤ 1 := by
      simp [String.toList_append, count_paren_of_isWord hw]
    rw [compile_of_flat hflat, String.toList_append]
    show (read ('^' :: w.toList)).map _ = _
    rw [read_anchored hw]
    rfl
  · intro name
    rw [search_eq (lead?_of_first rfl rfl), matcher_ofItems_cons]
    show ((Matcher.anchor .plain .start).cat _).findFrom _ [] name.toList = true ↔ _
    rw [findFrom_anchored_iff (fun _ => rfl)]
    exact isSome_word _ _

end EnvLint.Regex
