import EnvLint.Proofs.Json.Token

/-! # Documents read back

    A written document is read back as the value that was written, whatever its
    layout (`decode_encodeAt`), and is ASCII text (`ascii_encodeAt`).

    This holds of the values that `Exact` describes: whole numbers that are not
    too long, and no key twice in one object.  Numbers with a point are left
    out, since they are read as the nearest value that a number can have.

    The induction is on the value.  Each call of the reader takes one unit of
    fuel and leaves at least one character less, so a value needs no more fuel
    than it has characters (`Reads`), and what follows it must not continue a
    number (`Stops`). -/

namespace EnvLint.Json

/-- Values that are written without loss. -/
inductive Exact : Json → Prop where
  | null : Exact .null
  | bool (b : Bool) : Exact (.bool b)
  | int {n : Int} (h : n.natAbs < Nat.pow 10 maxDigits) : Exact (.int n)
  | str (s : String) : Exact (.str s)
  | arr {items : List Json} (h : ∀ v ∈ items, Exact v) : Exact (.arr items)
  | obj {fields : List (String × Json)} (hkeys : (fields.map Prod.fst).Nodup)
      (h : ∀ f ∈ fields, Exact f.2) : Exact (.obj fields)

/-! ## Blanks -/

/-- Blanks in front of a text are skipped, whatever it starts with. -/
theorem skipSpace_append {blanks : List Char} (h : ∀ c ∈ blanks, isSpace c = true)
    (cs : List Char) : skipSpace (blanks ++ cs) = skipSpace cs :=
  List.dropWhile_append_of_pos h

theorem skipSpace_cons {c : Char} (h : isSpace c = false) (cs : List Char) :
    skipSpace (c :: cs) = c :: cs := by
  rw [skipSpace, List.dropWhile_cons_of_neg]
  rw [h]
  exact Bool.false_ne_true

/-- A line break of a layout consists of blanks. -/
theorem isSpace_of_mem_lineBreak {layout : Layout} {level : Nat} {c : Char}
    (h : c ∈ layout.lineBreak level) : isSpace c = true := by
  cases layout with
  | compact => cases h
  | lines indent =>
      rcases List.mem_cons.mp h with rfl | h
      · rfl
      · rw [List.eq_of_mem_replicate h]
        rfl

/-- What separates two items is a comma and blanks. -/
theorem comma_eq (layout : Layout) (level : Nat) :
    ∃ blanks, layout.comma level = ',' :: blanks ∧ ∀ c ∈ blanks, isSpace c = true := by
  cases layout with
  | compact => exact ⟨[' '], rfl, List.forall_mem_singleton.mpr rfl⟩
  | lines indent =>
      refine ⟨Layout.lineBreak (.lines indent) level, rfl, ?_⟩
      intro c hc
      exact isSpace_of_mem_lineBreak hc

theorem isSpace_iff {c : Char} :
    isSpace c = true ↔ c = ' ' ∨ c = '\t' ∨ c = '\n' ∨ c = '\r' := by
  simp only [isSpace, Bool.or_eq_true, beq_iff_eq, or_assoc]

/-- Blanks end a number, and so does what ends one behind them. -/
theorem stops_of_blanks {blanks rest : List Char} (h : ∀ c ∈ blanks, isSpace c = true)
    (hrest : Stops rest) : Stops (blanks ++ rest) := by
  cases blanks with
  | nil => exact hrest
  | cons c blanks =>
      rcases isSpace_iff.mp (h c List.mem_cons_self) with rfl | rfl | rfl | rfl
      all_goals exact stops_cons rfl _

/-! ## Where a value begins and ends -/

/-- First characters of an item or a field: no blank, and nothing that closes a list
    or an object. -/
def isFirst (c : Char) : Bool :=
  !isSpace c && c != ']' && c != '\x7d'

/-- First characters of texts, lists and objects. -/
def isOpening (c : Char) : Bool :=
  c == '"' || c == '[' || c == '\x7b'

/-- The start of an item or a field. -/
def Begins (cs : List Char) : Prop :=
  ∃ c rest, cs = c :: rest ∧ isFirst c = true

theorem isFirst_iff {c : Char} :
    isFirst c = true ↔ isSpace c = false ∧ c ≠ ']' ∧ c ≠ '\x7d' := by
  simp only [isFirst, Bool.and_eq_true, Bool.not_eq_true', bne_iff_ne, and_assoc]

theorem isOpening_eq_false_iff {c : Char} :
    isOpening c = false ↔ c ≠ '"' ∧ c ≠ '[' ∧ c ≠ '\x7b' := by
  simp only [isOpening, Bool.or_eq_false_iff, beq_eq_false_iff_ne, and_assoc]

theorem begins_cons {c : Char} (h : isFirst c = true) (rest : List Char) : Begins (c :: rest) :=
  ⟨c, rest, rfl, h⟩

/-- A digit may be the first character of an item, and opens nothing. -/
theorem first_of_isDigit {c : Char} (hc : c.isDigit = true) :
    isFirst c = true ∧ isOpening c = false := by
  have hne (d : Char) (hd : d.isDigit = false) : c ≠ d := by
    rintro rfl
    rw [hc] at hd
    cases hd
  have hspace : isSpace c = false := by
    rw [Bool.eq_false_iff, ne_eq, isSpace_iff]
    rintro (h | h | h | h)
    all_goals exact hne _ rfl h
  exact ⟨isFirst_iff.mpr ⟨hspace, hne _ rfl, hne _ rfl⟩,
    isOpening_eq_false_iff.mpr ⟨hne _ rfl, hne _ rfl, hne _ rfl⟩⟩

/-- A whole number starts like an item, and not like a text, list or object. -/
theorem intText_eq_cons (n : Int) :
    ∃ c ds, Decimal.intText n = c :: ds ∧ isFirst c = true ∧ isOpening c = false := by
  obtain ⟨c, ds, hds, hc⟩ := digitsOf_eq_cons n.natAbs
  rw [Decimal.intText, hds]
  by_cases hneg : n < 0
  · rw [if_pos hneg]
    exact ⟨'-', c :: ds, rfl, rfl, rfl⟩
  · rw [if_neg hneg]
    exact ⟨c, ds, rfl, first_of_isDigit hc⟩

/-- A written value begins like an item, so no blank and no closing mark stands in front of
    it. -/
theorem begins_encodeAt {v : Json} (h : Exact v) (layout : Layout) (level : Nat) :
    Begins (encodeAt layout level v) := by
  cases h with
  | null => exact begins_cons rfl _
  | bool b =>
      cases b with
      | false => exact begins_cons rfl _
      | true => exact begins_cons rfl _
  | int _ =>
      obtain ⟨c, ds, hn, hc, -⟩ := intText_eq_cons _
      exact ⟨c, ds, hn, hc⟩
  | str s => exact begins_cons rfl _
  | @arr items _ =>
      cases items with
      | nil => exact begins_cons rfl _
      | cons v items =>
          rw [encodeAt]
          exact begins_cons rfl _
  | @obj fields _ _ =>
      cases fields with
      | nil => exact begins_cons rfl _
      | cons f fields =>
          rw [encodeAt]
          exact begins_cons rfl _

theorem Begins.append {cs : List Char} (h : Begins cs) (rest : List Char) :
    Begins (cs ++ rest) := by
  obtain ⟨c, after, rfl, hc⟩ := h
  exact ⟨c, after ++ rest, rfl, hc⟩

/-- Blanks are skipped up to an item and no further. -/
theorem Begins.skipSpace_eq {cs blanks : List Char} (h : Begins cs)
    (hblanks : ∀ c ∈ blanks, isSpace c = true) : skipSpace (blanks ++ cs) = cs := by
  obtain ⟨c, rest, rfl, hc⟩ := h
  rw [skipSpace_append hblanks, skipSpace_cons (isFirst_iff.mp hc).1]

theorem Begins.skipSpace_blank {cs : List Char} (h : Begins cs) : skipSpace (' ' :: cs) = cs :=
  h.skipSpace_eq (List.forall_mem_singleton.mpr rfl : ∀ c ∈ [' '], isSpace c = true)

/-- What follows the last item of a list or the last field of an object. -/
structure Closes (mark : Char) (tail rest : List Char) : Prop where
  stops : Stops tail
  skips : skipSpace tail = mark :: rest

/-- A closing mark on a line of its own closes what stands before it. -/
theorem closes_lineBreak (layout : Layout) (level : Nat) {mark : Char}
    (hmark : mark = ']' ∨ mark = '\x7d') (rest : List Char) :
    Closes mark (layout.lineBreak level ++ mark :: rest) rest := by
  have hblanks : ∀ c ∈ layout.lineBreak level, isSpace c = true :=
    fun _ => isSpace_of_mem_lineBreak
  rcases hmark with rfl | rfl
  all_goals
    refine ⟨stops_of_blanks hblanks (stops_cons rfl rest), ?_⟩
    rw [skipSpace_append hblanks]
    exact skipSpace_cons rfl rest

/-! ## Items and fields -/

variable {layout : Layout} {level : Nat}

/-- A value is read back, with fuel for its characters. -/
def Reads (layout : Layout) (level : Nat) (v : Json) : Prop :=
  ∀ fuel rest, Stops rest → (encodeAt layout level v).length ≤ fuel →
    readValue fuel (encodeAt layout level v ++ rest) = .ok (v, rest)

theorem encodeItems_cons (v : Json) {items : List Json} (hne : items ≠ []) :
    encodeItems layout level (v :: items) =
      encodeAt layout level v ++ layout.comma level ++ encodeItems layout level items := by
  rw [encodeItems]
  intro h
  exact hne h

/-- Items begin like the first of them. -/
theorem begins_encodeItems {items : List Json} (hne : items ≠ []) (h : ∀ v ∈ items, Exact v) :
    Begins (encodeItems layout level items) := by
  cases items with
  | nil => exact absurd rfl hne
  | cons v items =>
      have hbegins := begins_encodeAt (h v List.mem_cons_self) layout level
      by_cases hitems : items = []
      · rw [hitems, encodeItems]
        exact hbegins
      · rw [encodeItems_cons v hitems, List.append_assoc]
        exact hbegins.append _

/-- A value in front of the closing bracket is the last item. -/
theorem readItems_last {fuel : Nat} {cs tail rest : List Char} {v : Json}
    (hv : readValue fuel cs = .ok (v, tail)) (htail : skipSpace tail = ']' :: rest) :
    readItems (fuel + 1) cs = .ok ([v], rest) := by
  rw [readItems]
  simp only [bind, Except.bind, hv, htail]

/-- A value in front of a comma is followed by the other items. -/
theorem readItems_next {fuel : Nat} {cs tail after rest : List Char} {v : Json} {vs : List Json}
    (hv : readValue fuel cs = .ok (v, tail)) (htail : skipSpace tail = ',' :: after)
    (hvs : readItems fuel (skipSpace after) = .ok (vs, rest)) :
    readItems (fuel + 1) cs = .ok (v :: vs, rest) := by
  rw [readItems]
  simp only [bind, Except.bind, hv, htail, hvs]

/-- What separates two items does not continue a number, and a comma is read from it. -/
theorem comma_append (layout : Layout) (level : Nat) (cs : List Char) (h : Begins cs) :
    Stops (layout.comma level ++ cs) ∧
      ∃ after, skipSpace (layout.comma level ++ cs) = ',' :: after ∧ skipSpace after = cs := by
  obtain ⟨blanks, hcomma, hblanks⟩ := comma_eq layout level
  rw [hcomma, List.cons_append]
  refine ⟨stops_cons rfl _, blanks ++ cs, ?_, ?_⟩
  · exact skipSpace_cons rfl _
  · exact h.skipSpace_eq hblanks

/-- A separator has at least two characters, which pay for the fuel of the next item. -/
theorem two_le_length_comma (layout : Layout) (level : Nat) :
    2 ≤ (layout.comma level).length := by
  cases layout with
  | compact => exact Nat.le_refl 2
  | lines indent =>
      rw [Layout.comma, List.length_cons, List.length_cons]
      omega

/-- Items are read back up to the closing bracket. -/
theorem readItems_encodeItems {items : List Json} (hne : items ≠ [])
    (hexact : ∀ v ∈ items, Exact v) (hreads : ∀ v ∈ items, Reads layout level v)
    {tail rest : List Char} (hclose : Closes ']' tail rest) {fuel : Nat}
    (hfuel : (encodeItems layout level items).length < fuel) :
    readItems fuel (encodeItems layout level items ++ tail) = .ok (items, rest) := by
  induction items generalizing fuel with
  | nil => exact absurd rfl hne
  | cons v items ih =>
      obtain ⟨fuel, rfl⟩ : ∃ n, fuel = n + 1 := ⟨fuel - 1, by omega⟩
      rw [List.forall_mem_cons] at hexact hreads
      by_cases hitems : items = []
      · subst hitems
        rw [encodeItems] at hfuel ⊢
        exact readItems_last (hreads.1 fuel tail hclose.stops (by omega)) hclose.skips
      · -- the comma ends the first item, and the blanks behind it end at the next one
        have hbegins : Begins (encodeItems layout level items ++ tail) :=
          (begins_encodeItems hitems hexact.2).append tail
        obtain ⟨hstops, after, hcomma, hafter⟩ := comma_append layout level _ hbegins
        have hlength := two_le_length_comma layout level
        rw [encodeItems_cons v hitems] at hfuel ⊢
        simp only [List.length_append] at hfuel
        rw [List.append_assoc, List.append_assoc]
        refine readItems_next (hreads.1 fuel _ hstops (by omega)) hcomma ?_
        rw [hafter]
        exact ih hitems hexact.2 hreads.2 (by omega)

/-- A written text is its escaped characters between quotation marks. -/
theorem encodeString_append (k : String) (rest : List Char) :
    encodeString k ++ rest = '"' :: (k.toList.flatMap escapeChar ++ '"' :: rest) := by
  rw [encodeString, List.cons_append, List.cons_append, List.append_assoc]
  rfl

theorem encodeFields_single (k : String) (v : Json) :
    encodeFields layout level [(k, v)] =
      encodeString k ++ ':' :: ' ' :: encodeAt layout level v := by
  rw [encodeFields]

theorem encodeFields_cons (k : String) (v : Json) {fields : List (String × Json)}
    (hne : fields ≠ []) :
    encodeFields layout level ((k, v) :: fields) =
      encodeString k ++ ':' :: ' ' :: encodeAt layout level v ++ layout.comma level
        ++ encodeFields layout level fields := by
  rw [encodeFields]
  intro h
  exact hne h

theorem begins_encodeFields {fields : List (String × Json)} (hne : fields ≠ []) :
    Begins (encodeFields layout level fields) := by
  cases fields with
  | nil => exact absurd rfl hne
  | cons f fields =>
      obtain ⟨k, v⟩ := f
      by_cases hfields : fields = []
      · rw [hfields, encodeFields_single, encodeString_append]
        exact begins_cons rfl _
      · rw [encodeFields_cons k v hfields, List.append_assoc, List.append_assoc,
          encodeString_append]
        exact begins_cons rfl _

/-- Escaping never shortens a text. -/
theorem length_le_flatMap_escapeChar (s : List Char) :
    s.length ≤ (s.flatMap escapeChar).length := by
  induction s with
  | nil => exact Nat.le_refl 0
  | cons c s ih =>
      have hpos : 0 < (escapeChar c).length := by
        have hwritten := written_escapeChar c
        generalize escapeChar c = cs at hwritten ⊢
        cases hwritten with
        | plain => exact Nat.zero_lt_one
        | simple => exact Nat.zero_lt_two
        | unit => exact Nat.zero_lt_succ _
        | pair => exact Nat.zero_lt_succ _
      rw [List.flatMap_cons, List.length_append, List.length_cons]
      omega

/-- A written text is longer than the text, by its marks at least. -/
theorem length_encodeString (k : String) :
    k.toList.length + 2 ≤ (encodeString k).length := by
  have := length_le_flatMap_escapeChar k.toList
  rw [encodeString, List.length_append, List.length_cons, List.length_singleton]
  omega

/-- A value in front of the closing brace belongs to the last field. -/
theorem readFields_last {fuel : Nat} {k : String} {cs tail rest : List Char} {v : Json}
    (hcs : skipSpace (' ' :: cs) = cs) (hk : k.toList.length < fuel)
    (hv : readValue fuel cs = .ok (v, tail)) (htail : skipSpace tail = '\x7d' :: rest) :
    readFields (fuel + 1) (encodeString k ++ ':' :: ' ' :: cs) = .ok ([(k, v)], rest) := by
  have hcolon : skipSpace (':' :: ' ' :: cs) = ':' :: ' ' :: cs := skipSpace_cons rfl _
  rw [encodeString_append, readFields, readString_written k.toList hk]
  simp only [bind, Except.bind, hcolon, hcs, hv, htail, String.ofList_toList]

/-- A value in front of a comma is followed by the other fields. -/
theorem readFields_next {fuel : Nat} {k : String} {cs tail after rest : List Char} {v : Json}
    {fields : List (String × Json)} (hcs : skipSpace (' ' :: cs) = cs)
    (hk : k.toList.length < fuel) (hv : readValue fuel cs = .ok (v, tail))
    (htail : skipSpace tail = ',' :: after)
    (hfields : readFields fuel (skipSpace after) = .ok (fields, rest)) :
    readFields (fuel + 1) (encodeString k ++ ':' :: ' ' :: cs) = .ok ((k, v) :: fields, rest) := by
  have hcolon : skipSpace (':' :: ' ' :: cs) = ':' :: ' ' :: cs := skipSpace_cons rfl _
  rw [encodeString_append, readFields, readString_written k.toList hk]
  simp only [bind, Except.bind, hcolon, hcs, hv, htail, hfields, String.ofList_toList]

/-- Fields are read back up to the closing brace. -/
theorem readFields_encodeFields {fields : List (String × Json)} (hne : fields ≠ [])
    (hexact : ∀ f ∈ fields, Exact f.2) (hreads : ∀ f ∈ fields, Reads layout level f.2)
    {tail rest : List Char} (hclose : Closes '\x7d' tail rest) {fuel : Nat}
    (hfuel : (encodeFields layout level fields).length < fuel) :
    readFields fuel (encodeFields layout level fields ++ tail) = .ok (fields, rest) := by
  induction fields generalizing fuel with
  | nil => exact absurd rfl hne
  | cons f fields ih =>
      obtain ⟨k, v⟩ := f
      obtain ⟨fuel, rfl⟩ : ∃ n, fuel = n + 1 := ⟨fuel - 1, by omega⟩
      rw [List.forall_mem_cons] at hexact hreads
      have hkey := length_encodeString k
      have hread : Reads layout level v := hreads.1
      have hvalue (after : List Char) :
          skipSpace (' ' :: (encodeAt layout level v ++ after)) =
            encodeAt layout level v ++ after :=
        ((begins_encodeAt hexact.1 layout level).append after).skipSpace_blank
      by_cases hfields : fields = []
      · subst hfields
        rw [encodeFields_single] at hfuel ⊢
        simp only [List.length_append, List.length_cons] at hfuel
        rw [List.append_assoc, List.cons_append, List.cons_append]
        exact readFields_last (hvalue tail) (by omega)
          (hread fuel tail hclose.stops (by omega)) hclose.skips
      · -- the comma ends the first field, and the blanks behind it end at the next one
        have hbegins : Begins (encodeFields layout level fields ++ tail) :=
          (begins_encodeFields hfields).append tail
        obtain ⟨hstops, after, hcomma, hafter⟩ := comma_append layout level _ hbegins
        have hlength := two_le_length_comma layout level
        rw [encodeFields_cons k v hfields] at hfuel ⊢
        simp only [List.length_append, List.length_cons] at hfuel
        simp only [List.append_assoc, List.cons_append]
        refine readFields_next (hvalue _) (by omega) (hread fuel _ hstops (by omega)) hcomma ?_
        rw [hafter]
        exact ih hfields hexact.2 hreads.2 (by omega)

/-! ## Distinct keys -/

/-- A new key is set at the end. -/
theorem setField_of_not_mem {fields : List (String × Json)} {key : String}
    (h : key ∉ fields.map Prod.fst) (v : Json) :
    setField fields key v = fields ++ [(key, v)] := by
  induction fields with
  | nil => rfl
  | cons f fields ih =>
      rw [List.map_cons, List.mem_cons, not_or] at h
      rw [setField, if_neg (by simpa using Ne.symm h.1), ih h.2]
      rfl

/-- Fields whose keys are all new are merged in their order. -/
theorem foldl_setField {before fields : List (String × Json)}
    (h : ((before ++ fields).map Prod.fst).Nodup) :
    fields.foldl (fun fields f => setField fields f.1 f.2) before = before ++ fields := by
  induction fields generalizing before with
  | nil => rw [List.foldl_nil, List.append_nil]
  | cons f fields ih =>
      -- a key that is new so far goes to the end, where it was written
      have hnew : f.1 ∉ before.map Prod.fst := by
        intro hmem
        rw [List.map_append, List.nodup_append] at h
        exact h.2.2 _ hmem _ List.mem_cons_self rfl
      rw [List.foldl_cons, setField_of_not_mem hnew, ih]
      · rw [List.append_assoc]
        rfl
      · rw [List.append_assoc]
        exact h

/-- Fields with distinct keys stay as they are. -/
theorem mergeFields_of_nodup {fields : List (String × Json)}
    (h : (fields.map Prod.fst).Nodup) : mergeFields fields = fields := by
  rw [mergeFields, foldl_setField, List.nil_append]
  exact h

/-! ## Values -/

/-- A bracket that items follow opens a list of them. -/
theorem readValue_items {fuel : Nat} {cs inner rest : List Char} {items : List Json}
    (hskip : skipSpace cs = inner) (hinner : Begins inner)
    (hitems : readItems fuel inner = .ok (items, rest)) :
    readValue (fuel + 1) ('[' :: cs) = .ok (.arr items, rest) := by
  obtain ⟨c, after, rfl, hc⟩ := hinner
  rw [readValue]
  rw [if_neg (by decide), if_pos rfl, hskip]
  split
  next heq =>
    cases heq
    exact absurd rfl (isFirst_iff.mp hc).2.1
  next =>
    rw [hitems]
    rfl

/-- A brace that fields follow opens an object of them. -/
theorem readValue_fields {fuel : Nat} {cs inner rest : List Char} {fields : List (String × Json)}
    (hskip : skipSpace cs = inner) (hinner : Begins inner)
    (hfields : readFields fuel inner = .ok (fields, rest)) :
    readValue (fuel + 1) ('\x7b' :: cs) = .ok (.obj (mergeFields fields), rest) := by
  obtain ⟨c, after, rfl, hc⟩ := hinner
  rw [readValue]
  rw [if_neg (by decide), if_neg (by decide), if_pos rfl, hskip]
  split
  next heq =>
    cases heq
    exact absurd rfl (isFirst_iff.mp hc).2.2
  next =>
    rw [hfields]
    rfl

/-- What opens nothing is read as a constant or a number. -/
theorem readValue_scalar {fuel : Nat} {c : Char} (h : isOpening c = false) (cs : List Char) :
    readValue (fuel + 1) (c :: cs) = readScalar (c :: cs) := by
  obtain ⟨hquote, hlist, hobject⟩ := isOpening_eq_false_iff.mp h
  rw [readValue]
  rw [if_neg hquote, if_neg hlist, if_neg hobject]

/-- Fuel for every character of an item is fuel for one step. -/
theorem Begins.exists_fuel {cs : List Char} (h : Begins cs) {fuel : Nat}
    (hfuel : cs.length ≤ fuel) : ∃ n, fuel = n + 1 := by
  obtain ⟨c, rest, rfl, -⟩ := h
  rw [List.length_cons] at hfuel
  exact ⟨fuel - 1, by omega⟩

theorem reads_null : Reads layout level .null := by
  intro fuel rest _ hfuel
  obtain ⟨fuel, rfl⟩ := (begins_encodeAt .null layout level).exists_fuel hfuel
  exact readValue_scalar rfl _

theorem reads_bool (b : Bool) : Reads layout level (.bool b) := by
  intro fuel rest _ hfuel
  obtain ⟨fuel, rfl⟩ := (begins_encodeAt (.bool b) layout level).exists_fuel hfuel
  cases b with
  | false => exact readValue_scalar rfl _
  | true => exact readValue_scalar rfl _

/-- A whole number with few enough digits is read back up to the character that stops it. -/
theorem reads_int {n : Int} (hn : n.natAbs < Nat.pow 10 maxDigits) :
    Reads layout level (.int n) := by
  intro fuel rest hrest hfuel
  obtain ⟨fuel, rfl⟩ := (begins_encodeAt (.int hn) layout level).exists_fuel hfuel
  obtain ⟨c, ds, htext, -, hc⟩ := intText_eq_cons n
  have hscalar := readScalar_intText hn hrest
  rw [encodeAt]
  rw [htext] at hscalar ⊢
  rw [← hscalar]
  exact readValue_scalar hc _

theorem reads_str (s : String) : Reads layout level (.str s) := by
  intro fuel rest _ hfuel
  have hlength := length_encodeString s
  obtain ⟨fuel, rfl⟩ := (begins_encodeAt (.str s) layout level).exists_fuel hfuel
  rw [encodeAt] at hfuel ⊢
  rw [encodeString_append, readValue]
  rw [if_pos rfl, readString_written s.toList (by omega)]
  show Except.ok (Json.str (String.ofList s.toList), rest) = _
  rw [String.ofList_toList]

/-- A list is read back if its items are, one level further in. -/
theorem reads_arr {items : List Json} (hexact : ∀ v ∈ items, Exact v)
    (hreads : ∀ v ∈ items, Reads layout (level + 1) v) : Reads layout level (.arr items) := by
  intro fuel rest _ hfuel
  obtain ⟨fuel, rfl⟩ := (begins_encodeAt (.arr hexact) layout level).exists_fuel hfuel
  cases items with
  | nil => rfl
  | cons v items =>
      have hne := List.cons_ne_nil v items
      have hbegins (tail : List Char) :
          Begins (encodeItems layout (level + 1) (v :: items) ++ tail) :=
        (begins_encodeItems hne hexact).append tail
      have hclose := closes_lineBreak layout level (.inl rfl) rest
      rw [encodeAt] at hfuel ⊢
      simp only [List.length_append, List.length_cons] at hfuel
      simp only [List.append_assoc, List.cons_append, List.nil_append]
      have hread := readItems_encodeItems hne hexact hreads hclose (show _ < fuel by omega)
      exact readValue_items ((hbegins _).skipSpace_eq fun _ => isSpace_of_mem_lineBreak)
        (hbegins _) hread

/-- An object with distinct keys is read back if its values are, one level further in. -/
theorem reads_obj {fields : List (String × Json)} (hkeys : (fields.map Prod.fst).Nodup)
    (hexact : ∀ f ∈ fields, Exact f.2)
    (hreads : ∀ f ∈ fields, Reads layout (level + 1) f.2) : Reads layout level (.obj fields) := by
  intro fuel rest _ hfuel
  obtain ⟨fuel, rfl⟩ := (begins_encodeAt (.obj hkeys hexact) layout level).exists_fuel hfuel
  cases fields with
  | nil => rfl
  | cons f fields =>
      have hne := List.cons_ne_nil f fields
      have hbegins (tail : List Char) :
          Begins (encodeFields layout (level + 1) (f :: fields) ++ tail) :=
        (begins_encodeFields hne).append tail
      have hclose := closes_lineBreak layout level (.inr rfl) rest
      rw [encodeAt] at hfuel ⊢
      simp only [List.length_append, List.length_cons] at hfuel
      simp only [List.append_assoc, List.cons_append, List.nil_append]
      have hread := readFields_encodeFields hne hexact hreads hclose (show _ < fuel by omega)
      rw [readValue_fields ((hbegins _).skipSpace_eq fun _ => isSpace_of_mem_lineBreak)
        (hbegins _) hread, mergeFields_of_nodup hkeys]

/-- Every exact value is read back, in every layout and at every level. -/
theorem reads_of_exact {v : Json} (h : Exact v) (layout : Layout) (level : Nat) :
    Reads layout level v := by
  induction h generalizing level with
  | null => exact reads_null
  | bool b => exact reads_bool b
  | int hn => exact reads_int hn
  | str s => exact reads_str s
  | arr h ih => exact reads_arr h fun v hv => ih v hv (level + 1)
  | obj hkeys h ih => exact reads_obj hkeys h fun f hf => ih f hf (level + 1)

/-! ## ASCII -/

/-- Text of ASCII characters. -/
def Ascii (cs : List Char) : Prop :=
  ∀ c ∈ cs, c.toNat < 128

theorem ascii_nil : Ascii [] :=
  List.forall_mem_nil _

theorem ascii_of_all {cs : List Char} (h : (cs.all fun c => decide (c.toNat < 128)) = true) :
    Ascii cs := by
  intro c hc
  exact of_decide_eq_true (List.all_eq_true.mp h c hc)

theorem ascii_cons {c : Char} {cs : List Char} (hc : c.toNat < 128) (h : Ascii cs) :
    Ascii (c :: cs) :=
  List.forall_mem_cons.mpr ⟨hc, h⟩

theorem Ascii.append {cs ds : List Char} (hcs : Ascii cs) (hds : Ascii ds) : Ascii (cs ++ ds) :=
  List.forall_mem_append.mpr ⟨hcs, hds⟩

theorem ascii_of_blanks {blanks : List Char} (h : ∀ c ∈ blanks, isSpace c = true) :
    Ascii blanks := by
  intro c hc
  rcases isSpace_iff.mp (h c hc) with rfl | rfl | rfl | rfl
  all_goals decide

theorem ascii_lineBreak (layout : Layout) (level : Nat) : Ascii (layout.lineBreak level) :=
  ascii_of_blanks fun _ => isSpace_of_mem_lineBreak

theorem ascii_comma (layout : Layout) (level : Nat) : Ascii (layout.comma level) := by
  obtain ⟨blanks, hcomma, hblanks⟩ := comma_eq layout level
  rw [hcomma]
  exact ascii_cons (by decide) (ascii_of_blanks hblanks)

theorem ascii_hexDigits (width n : Nat) : Ascii (Text.hexDigits width n) := by
  have hdigit : ∀ n < 16, (Text.hexDigit n).toNat < 128 := by decide
  induction width generalizing n with
  | zero => exact ascii_nil
  | succ width ih =>
      exact (ih _).append (ascii_cons (hdigit _ (Nat.mod_lt n (by decide))) ascii_nil)

theorem ascii_unitEscape (unit : Nat) : Ascii (unitEscape unit) :=
  ascii_cons (by decide) (ascii_cons (by decide) (ascii_hexDigits 4 unit))

/-- A short escape is an ASCII character. -/
theorem toNat_lt_of_simpleEscape? {e c : Char} (h : simpleEscape? e = some c) :
    e.toNat < 128 := by
  unfold simpleEscape? at h
  split at h
  case h_9 => cases h
  all_goals decide

/-- A character is written in ASCII characters: itself only if it is one. -/
theorem ascii_escapeChar (c : Char) : Ascii (escapeChar c) := by
  have hwritten := written_escapeChar c
  generalize escapeChar c = cs at hwritten ⊢
  cases hwritten with
  | plain _ _ _ htilde => exact ascii_cons (Nat.lt_succ_of_le (Nat.le_succ_of_le htilde)) ascii_nil
  | simple h => exact ascii_cons (by decide) (ascii_cons (toNat_lt_of_simpleEscape? h) ascii_nil)
  | unit => exact ascii_unitEscape _
  | pair => exact (ascii_unitEscape _).append (ascii_unitEscape _)

theorem ascii_encodeString (s : String) : Ascii (encodeString s) := by
  have hchars : Ascii (s.toList.flatMap escapeChar) := by
    intro c hc
    obtain ⟨d, -, hd⟩ := List.mem_flatMap.mp hc
    exact ascii_escapeChar d c hd
  exact ascii_cons (by decide) (hchars.append (ascii_cons (by decide) ascii_nil))

theorem ascii_intText (n : Int) : Ascii (Decimal.intText n) := by
  have hdigits : Ascii (Decimal.digitsOf n.natAbs) := by
    intro c hc
    have hdigit := isDigit_of_mem_digitsOf hc
    rw [Char.isDigit_iff_toNat] at hdigit
    exact Nat.lt_of_le_of_lt hdigit.2 (by decide)
  rw [Decimal.intText]
  by_cases hneg : n < 0
  · rw [if_pos hneg]
    exact ascii_cons (by decide) hdigits
  · rw [if_neg hneg]
    exact hdigits

/-- Items are ASCII text if each of them is. -/
theorem ascii_encodeItems {items : List Json} (h : ∀ v ∈ items, Ascii (encodeAt layout level v)) :
    Ascii (encodeItems layout level items) := by
  induction items with
  | nil => exact ascii_nil
  | cons v items ih =>
      rw [List.forall_mem_cons] at h
      by_cases hitems : items = []
      · rw [hitems, encodeItems]
        exact h.1
      · rw [encodeItems_cons v hitems]
        exact (h.1.append (ascii_comma layout level)).append (ih h.2)

/-- Fields are ASCII text if their values are; their keys always are. -/
theorem ascii_encodeFields {fields : List (String × Json)}
    (h : ∀ f ∈ fields, Ascii (encodeAt layout level f.2)) :
    Ascii (encodeFields layout level fields) := by
  induction fields with
  | nil => exact ascii_nil
  | cons f fields ih =>
      obtain ⟨k, v⟩ := f
      rw [List.forall_mem_cons] at h
      have hfield : Ascii (encodeString k ++ ':' :: ' ' :: encodeAt layout level v) :=
        (ascii_encodeString k).append (ascii_cons (by decide) (ascii_cons (by decide) h.1))
      by_cases hfields : fields = []
      · rw [hfields, encodeFields_single]
        exact hfield
      · rw [encodeFields_cons k v hfields]
        exact (hfield.append (ascii_comma layout level)).append (ih h.2)

/-- A written document is ASCII text. -/
theorem ascii_encodeAt {v : Json} (h : Exact v) (layout : Layout) (level : Nat) :
    Ascii (encodeAt layout level v) := by
  induction h generalizing level with
  | null => exact ascii_of_all rfl
  | bool b =>
      cases b with
      | false => exact ascii_of_all rfl
      | true => exact ascii_of_all rfl
  | int _ => exact ascii_intText _
  | str s => exact ascii_encodeString s
  | @arr items _ ih =>
      cases items with
      | nil => exact ascii_of_all rfl
      | cons v items =>
          rw [encodeAt]
          have hitems := ascii_encodeItems fun w hw => ih w hw (level + 1)
          exact (((ascii_cons (by decide) (ascii_lineBreak layout _)).append hitems).append
            (ascii_lineBreak layout _)).append (ascii_cons (by decide) ascii_nil)
  | @obj fields _ _ ih =>
      cases fields with
      | nil => exact ascii_of_all rfl
      | cons f fields =>
          rw [encodeAt]
          have hfields := ascii_encodeFields fun w hw => ih w hw (level + 1)
          exact (((ascii_cons (by decide) (ascii_lineBreak layout _)).append hfields).append
            (ascii_lineBreak layout _)).append (ascii_cons (by decide) ascii_nil)

/-! ## Documents -/

/-- A document without a mark of its encoding is one value with blanks around it. -/
theorem readDocument_of_ne {cs : List Char} (h : ∀ tail, cs ≠ '\uFEFF' :: tail) :
    readDocument cs = (do
      let (v, rest) ← readValue (2 * cs.length + 2) (skipSpace cs)
      match skipSpace rest with
      | [] => .ok v
      | rest => .error ⟨.extraData, rest⟩) := by
  rw [readDocument.eq_def]
  split
  next tail => exact absurd rfl (h tail)
  next => rfl

/-- ASCII text does not start with a mark of its encoding. -/
theorem Ascii.ne_mark {cs : List Char} (h : Ascii cs) (tail : List Char) :
    cs ≠ '\uFEFF' :: tail := by
  rintro rfl
  exact absurd (h _ List.mem_cons_self) (by decide)

/-- A written document is read back, whatever its layout and the blanks after it. -/
theorem decode_encodeAt {v : Json} (h : Exact v) (layout : Layout) {blanks : List Char}
    (hblanks : ∀ c ∈ blanks, isSpace c = true) :
    decode (String.ofList (encodeAt layout 0 v ++ blanks)) = .ok v := by
  have hskip : skipSpace (encodeAt layout 0 v ++ blanks) = encodeAt layout 0 v ++ blanks :=
    ((begins_encodeAt h layout 0).append blanks).skipSpace_eq (List.forall_mem_nil _)
  have hrest : skipSpace blanks = [] := by
    rw [← List.append_nil blanks, skipSpace_append hblanks]
    rfl
  have hstops : Stops blanks := by
    rw [← List.append_nil blanks]
    exact stops_of_blanks hblanks stops_nil
  -- the reader starts with twice as much fuel as there are characters
  have hread := reads_of_exact h layout 0 (2 * (encodeAt layout 0 v ++ blanks).length + 2) blanks
    hstops (by rw [List.length_append]; omega)
  have hascii := (ascii_encodeAt h layout 0).append (ascii_of_blanks hblanks)
  rw [decode, String.toList_ofList, readDocument_of_ne hascii.ne_mark, hskip, hread]
  simp only [bind, Except.bind, hrest]

end EnvLint.Json
