import EnvLint.Proofs.File.Encoding
import EnvLint.Proofs.Json.LineEnds
import EnvLint.Proofs.Refusals

/-! # Programs from files and from texts

    A program is read from a file or from a text, and the two agree where the
    file holds the text (`load_agrees`): decoding undoes encoding, and a document
    says the same whichever way its lines end.

    A text that is no program is refused for the path that it was read from, with
    two exceptions, which fail as such: a whole number of more digits than are
    read (`Overlong`), and lists and objects nested too deep for the stack, which
    a file exhausts one call earlier than a text (`Shallow`). -/

namespace EnvLint.Program

/-- The decoder stops at a whole number of too many digits. -/
def Overlong (text : String) : Prop :=
  ∃ count line, Json.decode text = .error ⟨.tooManyDigits count, line⟩

section Reasons

variable {p : Path} {text : String}

/-- A flaw other than the length of a number is a reason to refuse a text. -/
theorem refused_of_flaw {flaw : Json.Flaw} (h : ∀ count, flaw ≠ .tooManyDigits count) (line : Nat) :
    Refused p (.error (decodeFailure p ⟨flaw, line⟩)) := by
  rw [decodeFailure]
  split
  next count heq => exact absurd heq (h count)
  next => exact ⟨_, rfl⟩

/-- A text that is decoded holds no number that is too long. -/
theorem not_overlong_of_ok {v : Json} (h : Json.decode text = .ok v) : ¬Overlong text := by
  rintro ⟨count, line, hlong⟩
  rw [h] at hlong
  cases hlong

end Reasons

/-- Digits alone are refused for their number, if there are too many of them. -/
theorem decode_digits {c : Char} {ds : List Char} (hds : ∀ d ∈ c :: ds, d.isDigit = true)
    (hzero : c ≠ '0') (hlength : Json.maxDigits < (c :: ds).length) :
    ∃ line, Json.decode (String.ofList (c :: ds))
      = .error ⟨.tooManyDigits (c :: ds).length, line⟩ := by
  have hc : c.isDigit = true := hds c List.mem_cons_self
  obtain ⟨hfirst, hopening⟩ := Json.first_of_isDigit hc
  have hmark : ∀ tail, c :: ds ≠ '\uFEFF' :: tail := by
    rintro tail ⟨⟩
    cases hc
  have hspan : Json.spanDigits (c :: ds) = (c :: ds, []) := by
    have happend := Json.spanDigits_append hds Json.stops_nil
    rw [List.append_nil] at happend
    exact happend
  have hwhole : Json.readWhole (c :: ds) = some (c :: ds, []) := by
    rw [Json.readWhole_of_ne (fun tail h => hzero (List.head_eq_of_cons_eq h)), hspan]
    rfl
  have hread : Json.readDocument (c :: ds)
      = .error ⟨.tooManyDigits (c :: ds).length, c :: ds⟩ := by
    rw [Json.readDocument_of_ne hmark, Json.skipSpace_cons (Json.isFirst_iff.mp hfirst).1,
      Json.readValue_scalar hopening, Json.readScalar_of_digit hc, Json.readMagnitude, hwhole]
    show (if (c :: ds).length > Json.maxDigits then _ else _) >>= _ = _
    rw [if_pos hlength]
    rfl
  rw [Json.decode, String.toList_ofList, hread]
  exact ⟨_, rfl⟩

/-- Unifying line ends leaves all brackets. -/
theorem countP_opens_unifyNewlines (cs : List Char) :
    (unifyNewlines cs).countP Recursion.opens = cs.countP Recursion.opens := by
  fun_induction unifyNewlines cs with
  | case1 => rfl
  | case2 rest ih =>
      rw [List.countP_cons_of_neg (by decide), List.countP_cons_of_neg (by decide),
        List.countP_cons_of_neg (by decide), ih]
  | case3 c rest _ ih =>
      have hsame : Recursion.opens (if c = '\r' then '\n' else c) = Recursion.opens c := by
        by_cases hreturn : c = '\r'
        · rw [if_pos hreturn, hreturn]
          rfl
        · rw [if_neg hreturn]
      rw [List.countP_cons, List.countP_cons, ih, hsame]

section Host

variable [Host] {d : Disk} {p : Path} {text : String} {calls : Nat}

/-- A path leads to a file that holds a text. -/
def Holds (d : Disk) (p : Path) (text : String) : Prop :=
  p.hasNull = false ∧ d.octets p = .ok (Utf8.encode text.toList)

/-- The stack is deep enough for a text, given as such and read from a file. -/
def Shallow (text : String) : Prop :=
  Host.overflow? (.decode 0 text.toList) = none ∧
    Host.overflow? (.decode 1 (unifyNewlines text.toList)) = none

/-- A file is read like its text with unified line ends, one call further down. -/
theorem load_of_holds (h : Holds d p text) :
    load d p = ofTextBelow 1 (String.ofList (unifyNewlines text.toList)) p := by
  have hread : d.readText p = .ok (unifyNewlines text.toList) := by
    rw [Disk.readText, h.1, h.2]
    show (Utf8.decode (Utf8.encode text.toList)).mapError ReadFault.encoding >>= _ = _
    rw [Utf8.decode_encode]
    rfl
  rw [load, trace, hread]

/-! ## Reading a text -/

/-- A text that exhausts the stack fails before it is decoded. -/
theorem ofTextBelow_of_overflow {words : String}
    (h : Host.overflow? (.decode calls text.toList) = some words) (p : Path) :
    ofTextBelow calls text p = .error (.exhausted words) := by
  rw [ofTextBelow, Failure.checkStack, h]
  rfl

/-- A text that is decoded is a program if its value is. -/
theorem ofTextBelow_of_ok (hfits : Host.overflow? (.decode calls text.toList) = none) {v : Json}
    (h : Json.decode text = .ok v) (p : Path) : ofTextBelow calls text p = accept p v := by
  rw [ofTextBelow, checkStack_eq_ok_iff.mpr hfits, h]
  rfl

/-- A text that is not decoded fails as decoding it does. -/
theorem ofTextBelow_of_error (hfits : Host.overflow? (.decode calls text.toList) = none)
    {e : Json.DecodeError} (h : Json.decode text = .error e) (p : Path) :
    ofTextBelow calls text p = .error (decodeFailure p e) := by
  rw [ofTextBelow, checkStack_eq_ok_iff.mpr hfits, h]
  rfl

/-- Where the stack is deep enough, it makes no difference how far down the caller is. -/
theorem ofTextBelow_of_fits (hfits : Host.overflow? (.decode calls text.toList) = none)
    (htext : Host.overflow? (.decode 0 text.toList) = none) (p : Path) :
    ofTextBelow calls text p = ofText text p := by
  rw [ofText, ofTextBelow, ofTextBelow, checkStack_eq_ok_iff.mpr hfits,
    checkStack_eq_ok_iff.mpr htext]

/-- A text with fewer opening brackets than there is room for is read without regard to the
    stack. -/
theorem shallow_of_few (h : text.toList.countP Recursion.opens < Host.room) : Shallow text := by
  refine ⟨Host.overflow?_eq_none _ ?_, Host.overflow?_eq_none _ ?_⟩
  · rw [Recursion.size]
    omega
  · rw [Recursion.size, countP_opens_unifyNewlines]
    omega

/-! ## Files and texts -/

/-- A file that holds a text and the text are the same program, or both are refused, or both
    have a number that is too long; if the stack is deep enough. -/
theorem load_cases (h : Holds d p text) (hshallow : Shallow text) :
    (∃ v, ¬Overlong text ∧ load d p = .ok v ∧ ofText text p = .ok v) ∨
    (¬Overlong text ∧ Refused p (load d p) ∧ Refused p (ofText text p)) ∨
    ∃ count line, Json.decode text = .error ⟨.tooManyDigits count, line⟩ ∧
      load d p = .error (.longNumber count) ∧ ofText text p = .error (.longNumber count) := by
  obtain ⟨hfits, hfits'⟩ := hshallow
  rw [← String.toList_ofList (l := unifyNewlines text.toList)] at hfits'
  rw [load_of_holds h, ofText]
  rcases Json.decode_unifyNewlines text with
    ⟨v, hdecode, hdecode'⟩ | ⟨flaw, line, line', hdecode, hdecode'⟩
  · rw [ofTextBelow_of_ok hfits' hdecode', ofTextBelow_of_ok hfits hdecode]
    rcases accept_cases p v with hok | hrefused
    · exact .inl ⟨v, not_overlong_of_ok hdecode, hok, hok⟩
    · exact .inr (.inl ⟨not_overlong_of_ok hdecode, hrefused, hrefused⟩)
  · rw [ofTextBelow_of_error hfits' hdecode', ofTextBelow_of_error hfits hdecode]
    by_cases hlong : ∃ count, flaw = .tooManyDigits count
    · obtain ⟨count, rfl⟩ := hlong
      exact .inr (.inr ⟨count, line, hdecode, rfl, rfl⟩)
    · rw [not_exists] at hlong
      refine .inr (.inl ⟨?_, refused_of_flaw hlong line', refused_of_flaw hlong line⟩)
      rintro ⟨count, line, hdecode''⟩
      rw [hdecode] at hdecode''
      cases hdecode''
      exact hlong count rfl

/-- A file and a text agree: they are the same program, or both are refused for their path. -/
def Agree (d : Disk) (p : Path) (text : String) : Prop :=
  (∀ program, load d p = .ok program ↔ ofText text p = .ok program) ∧
    (¬Succeeds (ofText text p) → Refused p (load d p) ∧ Refused p (ofText text p))

/-- What exhausts the stack is neither a program nor refused for its path. -/
theorem not_agree_of_overflow {words : String}
    (h : load d p = .error (.exhausted words) ∨ ofText text p = .error (.exhausted words)) :
    ¬Agree d p text := by
  rintro ⟨hsame, hfails⟩
  have hnone : ¬Succeeds (ofText text p) := by
    rintro ⟨program, hprogram⟩
    rcases h with h | h
    · rw [(hsame program).mpr hprogram] at h
      cases h
    · rw [hprogram] at h
      cases h
  obtain ⟨⟨_, hload⟩, _, htext⟩ := hfails hnone
  rcases h with h | h
  · rw [hload] at h
    cases h
  · rw [htext] at h
    cases h

/-- Only a number that is too long, or a stack that is not deep enough, keeps a file and its text
    from agreeing. -/
theorem agree_iff (h : Holds d p text) : Agree d p text ↔ Shallow text ∧ ¬Overlong text := by
  constructor
  · intro hagree
    have hshallow : Shallow text := by
      refine ⟨?_, ?_⟩
      · cases hfits : Host.overflow? (.decode 0 text.toList) with
        | none => rfl
        | some words =>
            exact absurd hagree (not_agree_of_overflow (.inr (ofTextBelow_of_overflow hfits p)))
      · cases hfits : Host.overflow? (.decode 1 (unifyNewlines text.toList)) with
        | none => rfl
        | some words =>
            have hload : load d p = .error (.exhausted words) := by
              rw [load_of_holds h]
              exact ofTextBelow_of_overflow (by rw [String.toList_ofList, hfits]) p
            exact absurd hagree (not_agree_of_overflow (.inl hload))
    refine ⟨hshallow, ?_⟩
    -- a number that is too long fails both, and is no refusal for the path
    rcases load_cases h hshallow with ⟨v, hshort, -⟩ | ⟨hshort, -⟩ | ⟨count, line, -, hload, htext⟩
    · exact hshort
    · exact hshort
    · obtain ⟨⟨_, hrefused⟩, -⟩ := hagree.2 (by rw [htext]; exact not_succeeds_error _)
      rw [hload] at hrefused
      cases hrefused
  · rintro ⟨hshallow, hshort⟩
    rcases load_cases h hshallow with
      ⟨v, -, hload, htext⟩ | ⟨-, hrefused⟩ | ⟨count, line, hdecode, -⟩
    · refine ⟨fun program => by rw [hload, htext], ?_⟩
      intro hfails
      exact absurd ⟨v, htext⟩ hfails
    · obtain ⟨⟨reason, hload⟩, reason', htext⟩ := hrefused
      refine ⟨fun program => ?_, fun _ => ⟨⟨reason, hload⟩, reason', htext⟩⟩
      rw [hload, htext]
      exact iff_of_false nofun nofun
    · exact absurd ⟨count, line, hdecode⟩ hshort

/-- **Files and texts.**  A file that holds a text is a program if and only if the text is, and
    the same one, and where they are none both are refused for their path: if and only if the
    stack is deep enough and no number is too long.  Where one is, both fail for it, and still
    are programs together; where the stack is not deep enough, that is the failure.  Few brackets
    are always read.  Without carriage returns the two outcomes are the same altogether. -/
theorem load_agrees (h : Holds d p text) :
    (Agree d p text ↔ Shallow text ∧ ¬Overlong text) ∧
    (Shallow text →
      (∀ program, load d p = .ok program ↔ ofText text p = .ok program) ∧
      (∀ count line, Json.decode text = .error ⟨.tooManyDigits count, line⟩ →
        load d p = .error (.longNumber count) ∧ ofText text p = .error (.longNumber count)) ∧
      ('\r' ∉ text.toList → load d p = ofText text p)) ∧
    (∀ words, Host.overflow? (.decode 0 text.toList) = some words →
      ofText text p = .error (.exhausted words)) ∧
    (∀ words, Host.overflow? (.decode 1 (unifyNewlines text.toList)) = some words →
      load d p = .error (.exhausted words)) ∧
    (text.toList.countP Recursion.opens < Host.room → Shallow text) := by
  refine ⟨agree_iff h, ?_, fun words hfull => ofTextBelow_of_overflow hfull p, ?_, shallow_of_few⟩
  · intro hshallow
    refine ⟨?_, ?_, ?_⟩
    · intro program
      rcases load_cases h hshallow with
        ⟨v, -, hload, htext⟩ | ⟨-, ⟨reason, hload⟩, reason', htext⟩ | ⟨count, line, -, hload, htext⟩
      · rw [hload, htext]
      · rw [hload, htext]
        exact iff_of_false nofun nofun
      · rw [hload, htext]
    · intro count line hdecode
      rcases load_cases h hshallow with
        ⟨v, hshort, -⟩ | ⟨hshort, -⟩ | ⟨count', line', hdecode', houtcomes⟩
      · exact absurd ⟨count, line, hdecode⟩ hshort
      · exact absurd ⟨count, line, hdecode⟩ hshort
      · rw [hdecode] at hdecode'
        cases hdecode'
        exact houtcomes
    · intro hreturn
      obtain ⟨hfits, hfits'⟩ := hshallow
      rw [unifyNewlines_eq_self hreturn] at hfits'
      rw [load_of_holds h, unifyNewlines_eq_self hreturn, String.ofList_toList,
        ofTextBelow_of_fits hfits' hfits]
  · intro words hfull
    rw [load_of_holds h]
    exact ofTextBelow_of_overflow (by rw [String.toList_ofList, hfull]) p

/-- They fail alike from a file and as a text. -/
theorem load_digits {c : Char} {ds : List Char} (hds : ∀ d ∈ c :: ds, d.isDigit = true)
    (hzero : c ≠ '0') (hlength : Json.maxDigits < (c :: ds).length) {p : Path}
    (h : Holds d p (String.ofList (c :: ds))) (hshallow : Shallow (String.ofList (c :: ds))) :
    load d p = .error (.longNumber (c :: ds).length) ∧
      ofText (String.ofList (c :: ds)) p = .error (.longNumber (c :: ds).length) := by
  obtain ⟨line, hline⟩ := decode_digits hds hzero hlength
  rcases load_cases h hshallow with ⟨_, hshort, -⟩ | ⟨hshort, -⟩ | ⟨count, _, hdecode, houtcomes⟩
  · exact absurd ⟨_, line, hline⟩ hshort
  · exact absurd ⟨_, line, hline⟩ hshort
  · rw [hline] at hdecode
    cases hdecode
    exact houtcomes

end Host

section Standard

attribute [local instance] Host.standard

/-- A path in the working directory. -/
def pagePath : Path := .ofString "page.json"

/-- A disk whose one file holds a text. -/
def diskOf (text : String) : Disk :=
  Disk.blank.write pagePath (.file (Utf8.encode text.toList))

theorem shallow_standard (text : String) : Shallow text := ⟨rfl, rfl⟩

theorem holds_diskOf (text : String) : Holds (diskOf text) pagePath text :=
  ⟨by decide +kernel, rfl⟩

/-- A program without statements, its lines ended in three ways. -/
def mixedText : String := "\x7b\r\"type\":\r\n\"Program\",\n\"body\":[]\x7d\r"

/-- Its file is read as the text is, to a program. -/
theorem load_mixedText :
    Holds (diskOf mixedText) pagePath mixedText ∧
      load (diskOf mixedText) pagePath
        = .ok (.obj [("type", .str "Program"), ("body", .arr [])]) := by
  have hholds := holds_diskOf mixedText
  have hread : (Json.decode mixedText).toOption.map (fun v => (v, isProgram v))
      = some (.obj [("type", .str "Program"), ("body", .arr [])], true) := by
    decide +kernel
  have htext : ofText mixedText pagePath
      = .ok (.obj [("type", .str "Program"), ("body", .arr [])]) := by
    cases hdecode : Json.decode mixedText with
    | error e =>
        rw [hdecode] at hread
        cases hread
    | ok v =>
        rw [hdecode] at hread
        obtain ⟨rfl, hprogram⟩ := Prod.mk.inj (Option.some.inj hread)
        rw [ofText, ofTextBelow_of_ok rfl hdecode, accept, if_pos hprogram]
  exact ⟨hholds, (((load_agrees hholds).2.1 (shallow_standard _)).1 _).mpr htext⟩

/-- A number of one digit more than are read. -/
def overlongText : String := String.ofList ('9' :: List.replicate 4300 '9')

/-- It is no program, but neither its file nor itself is refused for that. -/
theorem load_overlongText :
    Holds (diskOf overlongText) pagePath overlongText ∧
      load (diskOf overlongText) pagePath = .error (.longNumber 4301) ∧
      ofText overlongText pagePath = .error (.longNumber 4301) ∧
      ¬Refused pagePath (.error (.longNumber 4301)) := by
  have hdigits : ∀ d ∈ '9' :: List.replicate 4300 '9', d.isDigit = true := by
    refine List.forall_mem_cons.mpr ⟨rfl, ?_⟩
    intro d hd
    rw [List.eq_of_mem_replicate hd]
    rfl
  have hlength : ('9' :: List.replicate 4300 '9').length = 4301 := by
    rw [List.length_cons, List.length_replicate]
  have hlong : Json.maxDigits < ('9' :: List.replicate 4300 '9').length := by
    rw [hlength]
    exact Nat.lt_succ_self 4300
  have hholds := holds_diskOf overlongText
  obtain ⟨hload, htext⟩ := load_digits hdigits (by decide) hlong hholds
    (shallow_standard _)
  rw [hlength] at hload htext
  refine ⟨hholds, hload, htext, ?_⟩
  rintro ⟨reason, h⟩
  cases h

end Standard

end EnvLint.Program
