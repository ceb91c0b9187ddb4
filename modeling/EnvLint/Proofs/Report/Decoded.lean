import EnvLint.Proofs.Json.RoundTrip
import EnvLint.Proofs.Report.Written
import EnvLint.Proofs.Tree.Location
import Mathlib.Data.List.Forall2

/-! # Reports for programs, decoded

    A report for programs is ASCII text that ends in one line feed, and the
    decoder of documents reads from it, for every indent, the same list of
    objects that describe the files (`machine_decodes`).  Numbers with more
    digits than can be shown are the only exception: with one of them there is
    no report at all (`machine_longColumn`).

    What the objects hold is said field by field (`DescribesFile`,
    `DescribesMessage`), not through the functions that build them. -/

namespace EnvLint.Report

open Json (Exact Ascii)

/-! ## What a report holds -/

/-- Fields of an object for a diagnostic. -/
def messageKeys : List String :=
  ["ruleId", "messageId", "severity", "message", "line", "column", "endLine", "endColumn"]

/-- The object for a diagnostic.  The column is counted from one, and an end stands
    there if both its numbers are known, and else not at all. -/
structure DescribesMessage (v : Json) (d : Diagnostic) : Prop where
  ruleId : v.get? "ruleId" = some (.str d.ruleId)
  messageId : v.get? "messageId" = some (.str d.messageId)
  message : v.get? "message" = some (.str d.message)
  severity : v.get? "severity" = some (.int (if d.severity = .error then 2 else 1))
  line : v.get? "line" = some d.location.line.toJson
  column : v.get? "column" = some (.int (d.location.column.val + 1))
  ends (line column : Coord) (hline : d.location.endLine = some line)
    (hcolumn : d.location.endColumn = some column) :
    v.get? "endLine" = some line.toJson ∧ v.get? "endColumn" = some (.int (column.val + 1))
  noEnds (h : d.location.endLine = none ∨ d.location.endColumn = none) :
    v.get? "endLine" = none ∧ v.get? "endColumn" = none
  only (key : String) (h : key ∉ messageKeys) : v.get? key = none

/-- Fields of an object for a file. -/
def fileKeys : List String := ["filePath", "messages", "errorCount", "warningCount"]

/-- The object for a file, with the objects for its diagnostics in order. -/
structure DescribesFile (v : Json) (f : FileResult) : Prop where
  filePath : v.get? "filePath" = some (.str f.path.text)
  messages : ∃ messages, v.get? "messages" = some (.arr messages) ∧
    List.Forall₂ DescribesMessage messages f.diagnostics
  errorCount : v.get? "errorCount" =
    some (.int (f.diagnostics.countP fun d => d.severity = .error))
  warningCount : v.get? "warningCount" =
    some (.int (f.diagnostics.countP fun d => d.severity = .warning))
  only (key : String) (h : key ∉ fileKeys) : v.get? key = none

/-- The list of the objects for the files, in order. -/
def Describes (v : Json) (r : LintResult) : Prop :=
  ∃ files, v = .arr files ∧ List.Forall₂ DescribesFile files r.files

/-- A text that holds a document in ASCII, with one line feed behind it. -/
structure Holds (text : String) (v : Json) : Prop where
  ascii : Ascii text.toList
  ending : ∃ document, text.toList = document ++ ['\n'] ∧ document.getLast? ≠ some '\n'
  decodes : Json.decode text = .ok v

/-! ## The objects are as described -/

theorem get?_of_not_mem {fields : List (String × Json)} {key : String}
    (h : key ∉ fields.map Prod.fst) : (Json.obj fields).get? key = none := by
  have hnone : (fields.find? fun f => f.1 == key) = none := by
    rw [List.find?_eq_none]
    intro f hf heq
    exact h (List.mem_map.mpr ⟨f, hf, eq_of_beq heq⟩)
  rw [Json.get?, Json.lookup, hnone]
  rfl

/-- Either both numbers of an end are known, or the end is left out. -/
theorem ends_cases (l : Location) :
    (∃ line column, l.endLine = some line ∧ l.endColumn = some column) ∨
      l.endLine = none ∨ l.endColumn = none := by
  cases l.endLine with
  | none => exact .inr (.inl rfl)
  | some line =>
      cases l.endColumn with
      | none => exact .inr (.inr rfl)
      | some column => exact .inl ⟨line, column, rfl, rfl⟩

/-- Both ends of a location are written if both are set. -/
theorem endFields_of_known {l : Location} {line column : Coord} (hline : l.endLine = some line)
    (hcolumn : l.endColumn = some column) :
    endFields l = [("endLine", line.toJson), ("endColumn", .int (column.val + 1))] := by
  rw [endFields, hline, hcolumn]

theorem endNumbers_of_known {l : Location} {line column : Coord} (hline : l.endLine = some line)
    (hcolumn : l.endColumn = some column) : endNumbers l = [line.val, column.val + 1] := by
  rw [endNumbers, hline, hcolumn]

/-- No end is written unless both are set. -/
theorem endFields_of_unknown {l : Location} (h : l.endLine = none ∨ l.endColumn = none) :
    endFields l = [] := by
  rw [endFields]
  split
  next hline hcolumn =>
    rcases h with h | h
    · rw [hline] at h
      cases h
    · rw [hcolumn] at h
      cases h
  next => rfl

/-- The object of a diagnostic describes it. -/
theorem describesMessage_messageObject (d : Diagnostic) :
    DescribesMessage (messageObject d) d where
  ruleId := rfl
  messageId := rfl
  message := rfl
  severity := by
    show some (Json.int d.severity.level) = _
    cases d.severity with
    | error => rfl
    | warning => rfl
  line := rfl
  column := rfl
  ends line column hline hcolumn := by
    rw [messageObject, endFields_of_known hline hcolumn]
    exact ⟨rfl, rfl⟩
  noEnds h := by
    rw [messageObject, endFields_of_unknown h]
    exact ⟨rfl, rfl⟩
  only key h := by
    refine get?_of_not_mem ?_
    intro hmem
    rcases ends_cases d.location with ⟨line, column, hline, hcolumn⟩ | hends
    · rw [endFields_of_known hline hcolumn] at hmem
      exact h hmem
    · rw [endFields_of_unknown hends, List.append_nil] at hmem
      exact h (List.mem_append_left ["endLine", "endColumn"] hmem)

theorem describesFile_fileObject (f : FileResult) : DescribesFile (fileObject f) f where
  filePath := rfl
  messages := by
    refine ⟨f.diagnostics.map messageObject, rfl, ?_⟩
    rw [List.forall₂_map_left_iff, List.forall₂_same]
    intro d _
    exact describesMessage_messageObject d
  errorCount := rfl
  warningCount := rfl
  only key h := get?_of_not_mem h

/-- The document of a result describes it. -/
theorem describes_machineDocument (r : LintResult) : Describes (machineDocument r) r := by
  refine ⟨r.files.map fileObject, rfl, ?_⟩
  rw [List.forall₂_map_left_iff, List.forall₂_same]
  intro f _
  exact describesFile_fileObject f

/-! ## The objects are written without loss -/

theorem exact_int {n : Int} (h : n.natAbs < leastUnshown) : Exact (.int n) := by
  unfold leastUnshown at h
  exact .int h

theorem exact_count {n : Nat} (h : n < leastUnshown) : Exact (.int n) :=
  exact_int h

theorem exact_coord {c : Coord} (h : c.val.natAbs < leastUnshown) : Exact c.toJson := by
  cases c with
  | number n => exact exact_int h
  | flag b => exact .bool b

theorem level_lt_leastUnshown (s : Severity) : s.level < leastUnshown := by
  have hlevel : s.level < 10 := by
    cases s with
    | error => decide
    | warning => decide
  have hpow {k : Nat} (hk : 0 < k) : 10 ≤ Nat.pow 10 k := Nat.le_self_pow (Nat.ne_of_gt hk) 10
  unfold leastUnshown
  exact Nat.lt_of_lt_of_le hlevel (hpow (by decide))

theorem exact_endFields {l : Location} (h : Showable (endNumbers l)) :
    ∀ f ∈ endFields l, Exact f.2 := by
  rcases ends_cases l with ⟨line, column, hline, hcolumn⟩ | hends
  · rw [endNumbers_of_known hline hcolumn] at h
    rw [endFields_of_known hline hcolumn]
    rw [Showable, List.forall_mem_cons, List.forall_mem_singleton] at h
    rw [List.forall_mem_cons, List.forall_mem_singleton]
    exact ⟨exact_coord h.1, exact_int h.2⟩
  · rw [endFields_of_unknown hends]
    exact List.forall_mem_nil _

/-- The object of a diagnostic is written without loss if its numbers can be shown. -/
theorem exact_messageObject {d : Diagnostic}
    (h : Showable (positionNumbers d.location ++ endNumbers d.location)) :
    Exact (messageObject d) := by
  rw [Showable, List.forall_mem_append, positionNumbers, List.forall_mem_cons,
    List.forall_mem_singleton] at h
  obtain ⟨⟨hline, hcolumn⟩, hends⟩ := h
  refine .obj ?_ ?_
  · rcases ends_cases d.location with ⟨line, column, hline, hcolumn⟩ | hends
    · rw [endFields_of_known hline hcolumn]
      exact (by decide : messageKeys.Nodup)
    · rw [endFields_of_unknown hends]
      exact (by decide : (messageKeys.take 6).Nodup)
  · rw [List.forall_mem_append]
    refine ⟨?_, exact_endFields hends⟩
    simp only [List.forall_mem_cons]
    exact ⟨.str _, .str _, exact_count (level_lt_leastUnshown _), .str _, exact_coord hline,
      exact_int hcolumn, List.forall_mem_nil _⟩

/-- Results whose numbers can all be shown. -/
def Fits (r : LintResult) : Prop :=
  ∀ f ∈ r.files, f.errorCount < leastUnshown ∧ f.warningCount < leastUnshown ∧
    ∀ d ∈ f.diagnostics, Showable (positionNumbers d.location ++ endNumbers d.location)

theorem exact_fileObject {f : FileResult} (herrors : f.errorCount < leastUnshown)
    (hwarnings : f.warningCount < leastUnshown)
    (hplaces : ∀ d ∈ f.diagnostics,
      Showable (positionNumbers d.location ++ endNumbers d.location)) :
    Exact (fileObject f) := by
  have hmessages : Exact (.arr (f.diagnostics.map messageObject)) := by
    refine .arr ?_
    rw [List.forall_mem_map]
    intro d hd
    exact exact_messageObject (hplaces d hd)
  refine .obj (by decide : fileKeys.Nodup) ?_
  simp only [List.forall_mem_cons]
  exact ⟨.str _, hmessages, exact_count herrors, exact_count hwarnings, List.forall_mem_nil _⟩

/-- The document of a result is written without loss if its numbers can be shown. -/
theorem exact_machineDocument {r : LintResult} (h : Fits r) : Exact (machineDocument r) := by
  refine .arr ?_
  rw [List.forall_mem_map]
  intro f hf
  obtain ⟨herrors, hwarnings, hplaces⟩ := h f hf
  exact exact_fileObject herrors hwarnings hplaces

/-! ## The report -/

/-- A report with numbers that can be shown is the written document, and a line feed. -/
theorem machine_eq_ok {r : LintResult} (h : Fits r) (indent : Option Int) :
    machine indent r = .ok ((machineDocument r).encode (layoutOf indent) ++ "\n") := by
  have hshow : Succeeds (checkNumbers
      (r.diagnostics.flatMap fun d => positionNumbers d.location ++ endNumbers d.location)) := by
    rw [succeeds_checkNumbers_iff, showable_flatMap_iff]
    intro d hd
    obtain ⟨f, hf, hd⟩ := List.mem_flatMap.mp hd
    exact (h f hf).2.2 d hd
  obtain ⟨_, hcheck⟩ := hshow
  rw [machine, hcheck]
  rfl

/-- A written list ends with its bracket, so one line feed ends the report. -/
theorem getLast?_encodeAt_arr (layout : Json.Layout) (items : List Json) :
    (Json.encodeAt layout 0 (.arr items)).getLast? = some ']' := by
  cases items with
  | nil => rfl
  | cons v items => rw [Json.encodeAt, List.getLast?_append]; rfl

/-- A written document holds what it was written from. -/
theorem holds_encode {items : List Json} (h : Exact (.arr items)) (layout : Json.Layout) :
    Holds ((Json.arr items).encode layout ++ "\n") (.arr items) := by
  have htext : (Json.arr items).encode layout ++ "\n" =
      String.ofList (Json.encodeAt layout 0 (.arr items) ++ ['\n']) := by
    rw [String.ofList_append]
    rfl
  have hblank : ∀ c ∈ ['\n'], Json.isSpace c = true := List.forall_mem_singleton.mpr rfl
  refine ⟨?_, ⟨Json.encodeAt layout 0 (.arr items), ?_, ?_⟩, ?_⟩
  · rw [htext, String.toList_ofList]
    exact (Json.ascii_encodeAt h layout 0).append (Json.ascii_of_blanks hblank)
  · rw [htext, String.toList_ofList]
  · rw [getLast?_encodeAt_arr]
    decide
  · rw [htext]
    exact Json.decode_encodeAt h layout hblank

/-- A report whose numbers can be shown is written and decoded, with the same value for
    every indent. -/
theorem machine_decodes (r : LintResult) (h : Fits r) :
    ∃ v, Describes v r ∧
      ∀ indent, ∃ text, machine indent r = .ok text ∧ Holds text v := by
  -- one value for all indents: the layout is chosen after it
  refine ⟨machineDocument r, describes_machineDocument r, ?_⟩
  intro indent
  exact ⟨_, machine_eq_ok h indent, holds_encode (exact_machineDocument h) (layoutOf indent)⟩

/-- A place with an end, its line spelled as a truth value. -/
def flaggedPlace : Location :=
  ⟨⟨.working, ["ü.json"]⟩, .flag true, .number 0, some (.number 12), some (.number 9)⟩

/-- A result whose texts need every kind of escape. -/
def quotedFinding : LintResult where
  files := [
    ⟨flaggedPlace.file,
      [⟨"rule", "id", "a \"\\\" and\t\u2028 and 😀\x7f", flaggedPlace, .warning, []⟩]⟩,
    ⟨⟨.working, []⟩, []⟩]

theorem machine_decodes_quotedFinding :
    Fits quotedFinding ∧ ∃ v, Describes v quotedFinding ∧
      ∀ indent, ∃ text, machine indent quotedFinding = .ok text ∧ Holds text v := by
  have hfits : Fits quotedFinding := by
    simp only [Fits, Showable]
    decide +kernel
  exact ⟨hfits, machine_decodes quotedFinding hfits⟩

/-- A place whose column has as many digits as a document may give it, all nines. -/
def longColumn : Location :=
  ⟨⟨.working, ["page.json"]⟩, .number 1, .number (leastUnshown - 1), none, none⟩

/-- A result with a diagnostic at that place. -/
def longColumnFinding : LintResult where
  files := [⟨longColumn.file, [⟨"rule", "id", "text", longColumn, .error, []⟩]⟩]

/-- The place is a valid one, but its column counted from one has a digit too many. -/
theorem machine_longColumn :
    longColumn.Valid ∧ machine none longColumnFinding = .error .unshownNumber := by
  refine ⟨⟨by decide, by decide +kernel, ?_, ?_, ?_⟩, ?_⟩
  · rintro e ⟨⟩
  · rintro c ⟨⟩
  · rintro e c ⟨⟩
  · rw [machine, checkNumbers, if_pos]
    · rfl
    · decide +kernel

end EnvLint.Report
