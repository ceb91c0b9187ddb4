import EnvLint.Proofs.Env.Flagged
import EnvLint.Proofs.Env.Handlers
import EnvLint.Proofs.Report.Decoded
import Mathlib.Data.Prod.Lex

/-! # Ranges in a report

    The positions of a tree are not checked when it is read: they can be missing,
    whole or in part, lie in any order, and be truth values in place of numbers.
    A report for programs shows none of this.  Every message has a start that
    counts from one, and an end if the property that was read has one, which does
    not lie before the start; and from message to message the start does not go
    back (`lint_ranges`).

    Numbers are read from the objects themselves (`number?`), so nothing here
    depends on how a location keeps them. -/

namespace EnvLint.Report

open Env (ReportOf flaggedBy messageFor nameOf)

/-! ## Numbers in objects -/

/-- The number that a value is read as; a truth value counts as one or zero. -/
def number? : Json → Option Int
  | .int n => some n
  | .bool b => some (if b then 1 else 0)
  | _ => none

/-- A line and a column that an object has under two names. -/
def pair? (v : Json) (line column : String) : Option (Int × Int) := do
  let l ← (v.get? line).bind number?
  let c ← (v.get? column).bind number?
  some (l, c)

/-- One side of the position of a node, if both its numbers are whole. -/
def side? (node : Json) (side : String) : Option (Int × Int) :=
  ((node.get? "loc").bind (·.get? side)).bind (pair? · "line" "column")

/-- Start of a message. -/
def start? (message : Json) : Option (Int × Int) := pair? message "line" "column"

/-- End of a message. -/
def stop? (message : Json) : Option (Int × Int) := pair? message "endLine" "endColumn"

/-- A message about a property has the range of the property, with columns counted from
    one. -/
structure RangeOf (property message : Json) : Prop where
  text : message.get? "message" = some (.str (messageFor (nameOf property)))
  start : ∃ line column, side? property "start" = some (line, column) ∧
    start? message = some (line, column + 1) ∧ 1 ≤ line ∧ 1 ≤ column + 1
  /-- An end stands there as a whole, if the property has one. -/
  endLine : (message.get? "endLine").isSome ↔ (side? property "end").isSome
  endColumn : (message.get? "endColumn").isSome ↔ (side? property "end").isSome
  ends : ∀ line column, side? property "end" = some (line, column) →
    stop? message = some (line, column + 1)
  ordered : ∀ s e, start? message = some s → stop? message = some e → toLex s ≤ toLex e

/-- The object for a program that was checked: its messages have the ranges of the
    properties that are flagged, and stand in the order of their starts. -/
structure FileRanges (l : Linter) (program : Json) (path : Path) (v : Json) : Prop where
  filePath : v.get? "filePath" = some (.str path.text)
  messages : ∃ messages properties, v.get? "messages" = some (.arr messages) ∧
    properties.Perm (flaggedBy l program) ∧ List.Forall₂ RangeOf properties messages ∧
    messages.Pairwise fun a b => ∀ s t, start? a = some s → start? b = some t → toLex s ≤ toLex t

/-! ## From coordinates to numbers -/

/-- A number is read from an object as a coordinate is. -/
theorem number?_eq (v : Json) : number? v = (Coord.ofJson? v).map Coord.val := by
  cases v <;> rfl

theorem number?_toJson (c : Coord) : number? c.toJson = some c.val := by
  cases c <;> rfl

/-- A line and a column are read as a position is. -/
theorem pair?_eq_position? (v : Json) :
    pair? v "line" "column" = (position? v).map fun p => (p.1.val, p.2.val) := by
  have hbind : ∀ o : Option Json,
      o.bind number? = (o.bind Coord.ofJson?).map Coord.val := by
    intro o
    cases o with
    | none => rfl
    | some w => exact number?_eq w
  rw [pair?, position?, hbind, hbind]
  cases (v.get? "line").bind Coord.ofJson? with
  | none => rfl
  | some line =>
      cases (v.get? "column").bind Coord.ofJson? with
      | none => rfl
      | some column => rfl

theorem pair?_of_get? {v line column : Json} {lineKey columnKey : String} {l c : Int}
    (hline : v.get? lineKey = some line) (hl : number? line = some l)
    (hcolumn : v.get? columnKey = some column) (hc : number? column = some c) :
    pair? v lineKey columnKey = some (l, c) := by
  rw [pair?, hline, hcolumn, Option.bind_some, Option.bind_some, hl, hc]
  rfl

/-- The sides of a node are the positions that it carries. -/
theorem side?_of_span? {node : Json} {start : Coord × Coord} {stop : Option (Coord × Coord)}
    (h : span? node = some (start, stop)) :
    side? node "start" = some (start.1.val, start.2.val) ∧
      side? node "end" = stop.map fun p => (p.1.val, p.2.val) := by
  obtain ⟨loc, hloc, h⟩ := Option.bind_eq_some_iff.mp h
  obtain ⟨first, hfirst, h⟩ := Option.bind_eq_some_iff.mp h
  cases h
  have hside : ∀ side, side? node side
      = ((loc.get? side).bind position?).map fun p => (p.1.val, p.2.val) := by
    intro side
    rw [side?, hloc, Option.bind_some]
    cases loc.get? side with
    | none => rfl
    | some v => exact pair?_eq_position? v
  refine ⟨?_, hside "end"⟩
  rw [hside, hfirst]
  rfl

/-- A place has the sides of its node; it has an end if its node has a whole one. -/
theorem sides_of_placeOf {node : Json} {path : Path} {l : Location}
    (h : Env.placeOf node (some path) = .ok l) :
    side? node "start" = some (l.line.val, l.column.val) ∧
      (side? node "end" = none ∧ l.endLine = none ∨
        ∃ line column, side? node "end" = some (line.val, column.val) ∧
          l.endLine = some line ∧ l.endColumn = some column) := by
  unfold Env.placeOf at h
  split at h
  next start stop hspan =>
    obtain ⟨rfl, -⟩ := Location.make_eq_ok_iff.mp (mapError_eq_ok_iff.mp h)
    obtain ⟨hstart, hstop⟩ := side?_of_span? hspan
    refine ⟨hstart, ?_⟩
    cases stop with
    | none => exact .inl ⟨hstop, rfl⟩
    | some stop => exact .inr ⟨stop.1, stop.2, hstop, rfl, rfl⟩
  next => cases h
  next => cases h

/-! ## Messages -/

/-- Starts in document order, with columns counted from zero or from one. -/
theorem le_iff_toLex_le {a b : Location} :
    a.le b = true ↔ toLex (a.line.val, a.column.val + 1) ≤ toLex (b.line.val, b.column.val + 1) := by
  rw [Prod.Lex.toLex_le_toLex, Location.le]
  simp

/-- A valid location does not end before it starts. -/
theorem toLex_le_of_valid {l : Location} (h : l.Valid) {line column : Coord}
    (hline : l.endLine = some line) (hcolumn : l.endColumn = some column) :
    toLex (l.line.val, l.column.val + 1) ≤ toLex (line.val, column.val + 1) := by
  rw [Prod.Lex.toLex_le_toLex]
  rcases lt_or_eq_of_le (h.line_le line hline) with hlt | heq
  · exact .inl hlt
  · refine .inr ⟨heq, ?_⟩
    have hle := h.column_le line column hline hcolumn heq.symm
    show l.column.val + 1 ≤ column.val + 1
    omega

/-- The object of a diagnostic starts where its location starts. -/
theorem start?_messageObject (d : Diagnostic) :
    start? (messageObject d) = some (d.location.line.val, d.location.column.val + 1) := by
  have h := describesMessage_messageObject d
  exact pair?_of_get? h.line (number?_toJson _) h.column rfl

/-- The message about a property has its range. -/
theorem rangeOf_messageObject {path : Path} {property : Json} {d : Diagnostic}
    (h : ReportOf path property d) : RangeOf property (messageObject d) := by
  obtain ⟨-, hvalid⟩ := Env.valid_of_placeOf h.place
  obtain ⟨hstart, hends⟩ := sides_of_placeOf h.place
  have hobject := describesMessage_messageObject d
  have htext : (messageObject d).get? "message" = some (.str (messageFor (nameOf property))) := by
    rw [hobject.message, h.message]
  have hfirst : ∃ line column, side? property "start" = some (line, column) ∧
      start? (messageObject d) = some (line, column + 1) ∧ 1 ≤ line ∧ 1 ≤ column + 1 := by
    have hcolumn := hvalid.column_nonneg
    exact ⟨_, _, hstart, start?_messageObject d, hvalid.line_pos, by omega⟩
  rcases hends with ⟨hnone, hendLine⟩ | ⟨line, column, hsome, hendLine, hendColumn⟩
  · -- without a whole end the message has none
    obtain ⟨hnoLine, hnoColumn⟩ := hobject.noEnds (.inl hendLine)
    refine ⟨htext, hfirst, ?_, ?_, ?_, ?_⟩
    · rw [hnoLine, hnone]
      rfl
    · rw [hnoColumn, hnone]
      rfl
    · intro line column hsome
      rw [hnone] at hsome
      cases hsome
    · intro s e _ hstop
      rw [stop?, pair?, hnoLine] at hstop
      cases hstop
  · obtain ⟨hline, hcolumn⟩ := hobject.ends line column hendLine hendColumn
    have hstop : stop? (messageObject d) = some (line.val, column.val + 1) :=
      pair?_of_get? hline (number?_toJson line) hcolumn rfl
    refine ⟨htext, hfirst, ?_, ?_, ?_, ?_⟩
    · rw [hline, hsome]
      rfl
    · rw [hcolumn, hsome]
      rfl
    · intro endLine endColumn hknown
      rw [hsome] at hknown
      cases hknown
      exact hstop
    · intro s e hs he
      rw [start?_messageObject] at hs
      rw [hstop] at he
      cases hs
      cases he
      exact toLex_le_of_valid hvalid hendLine hendColumn

/-! ## Files -/

/-- The order of diagnostics is one by their starts. -/
theorem pairwise_mergeSort_diagnostics (diagnostics : List Diagnostic) :
    (diagnostics.mergeSort Diagnostic.le).Pairwise fun a b => a.location.le b.location = true := by
  refine List.pairwise_mergeSort ?_ ?_ diagnostics
  · intro a b c hab hbc
    exact le_iff_toLex_le.mpr ((le_iff_toLex_le.mp hab).trans (le_iff_toLex_le.mp hbc))
  · intro a b
    rw [Bool.or_eq_true]
    exact (le_total _ _).imp le_iff_toLex_le.mpr le_iff_toLex_le.mpr

/-- The object for a program that was checked has its ranges. -/
theorem fileRanges_of_lint {l : Linter} {program : Json} {path : Path} {result : FileResult}
    (h : l.lint program path = .ok result) :
    FileRanges l program path (fileObject result) := by
  obtain ⟨properties, hperm, hreports⟩ := Env.lint_flagged h
  obtain ⟨-, final, -, -, rfl⟩ := Env.runVisits_of_lint h
  refine ⟨rfl, (Linter.found final).map messageObject, properties, rfl, hperm, ?_, ?_⟩
  · rw [List.forall₂_map_right_iff]
    exact hreports.imp fun _ _ => rangeOf_messageObject
  · rw [List.pairwise_map]
    refine (pairwise_mergeSort_diagnostics _).imp ?_
    intro a b hle s t hs ht
    rw [start?_messageObject] at hs ht
    cases hs
    cases ht
    exact le_iff_toLex_le.mp hle

/-- **Every reported position is a range.**  If a program is checked, its diagnostics lie in
    its file, and the object that a report holds for it has the ranges of the properties
    that are flagged, in the order of their starts; and that object is what a report with
    the result is written with, and decoded to. -/
theorem lint_ranges {l : Linter} {program : Json} {path : Path} {result : FileResult}
    (h : l.lint program path = .ok result) :
    result.path = path ∧ (∀ d ∈ result.diagnostics, d.location.file = path) ∧
      FileRanges l program path (fileObject result) ∧
      ∀ (r : LintResult) (indent : Option Int) (text : String), machine indent r = .ok text →
        ∃ files, text = (Json.arr files).encode (layoutOf indent) ++ "\n" ∧
          (Fits r → Json.decode text = .ok (.arr files)) ∧
          ∀ i : Nat, r.files[i]? = some result → files[i]? = some (fileObject result) := by
  refine ⟨?_, ?_, fileRanges_of_lint h, ?_⟩
  · obtain ⟨-, -, -, -, rfl⟩ := Env.runVisits_of_lint h
    rfl
  · intro d hd
    obtain ⟨properties, -, hreports⟩ := Env.lint_flagged h
    have hplaced : List.Forall₂ (fun d property => d.location.file = path ∧ ReportOf path property d)
        result.diagnostics properties :=
      List.Forall₂.flip <| hreports.imp fun property d hreport =>
        ⟨(Env.valid_of_placeOf hreport.place).1, hreport⟩
    exact ((List.forall₂_and_left _ _).mp hplaced).1 d hd
  · intro r indent text htext
    obtain ⟨-, -, hwritten⟩ := bind_eq_ok_iff.mp htext
    cases hwritten
    refine ⟨r.files.map fileObject, rfl, ?_, ?_⟩
    · intro hfits
      exact (holds_encode (exact_machineDocument hfits) (layoutOf indent)).decodes
    · intro i hi
      rw [List.getElem?_map, hi]
      rfl

/-- A property on the first line, which is written as a truth value, with an end two lines
    below and to the left. -/
def rangedSecret : Json :=
  .obj [("type", .str "Identifier"), ("name", .str "TOKEN"),
    ("loc", .obj [("start", .obj [("line", .bool true), ("column", .int 7)]),
      ("end", .obj [("line", .int 3), ("column", .bool false)])])]

/-- A module that reads a secret on the second line, and then that property. -/
def backwardModule : Json :=
  .obj [("type", .str "Program"), ("body", .arr [Env.accessorImport, Env.secretRead 2,
    .obj [("type", .str "MemberExpression"),
      ("object", .obj [("type", .str "Identifier"), ("name", .str "env")]),
      ("property", rangedSecret)]])]

/-- What the rule finds in it, as it comes to it. -/
def backwardFindings : List Diagnostic :=
  [Env.diagnosticOf .error ⟨"SECRET", ⟨Path.here, .number 2, .number 4, none, none⟩, true⟩,
    Env.diagnosticOf .error ⟨"TOKEN",
      ⟨Path.here, .flag true, .number 7, some (.number 3), some (.flag false)⟩, true⟩]

section Standard

attribute [local instance] Host.standard

/-- The messages stand in the order of their starts, with truth values read as numbers. -/
theorem lint_ranges_backwardModule :
    ∃ l result, Linter.ofConfig ⟨[(Env.ruleId, ⟨.error, []⟩)]⟩ = .ok l ∧
      l.lint backwardModule Path.here = .ok result ∧
      FileRanges l backwardModule Path.here (fileObject result) ∧
      result.diagnostics.map (fun d => (start? (messageObject d), stop? (messageObject d)))
        = [(some (1, 8), some (3, 1)), (some (2, 5), none)] := by
  have hknown : ((Env.readOptions (.obj [])).toOption.map fun o =>
      (Env.firstFault o Path.here [] (Tree.nodes backwardModule),
        Env.reportsFrom o .error Path.here [] (Tree.events backwardModule)))
          = some (none, backwardFindings) := by
    decide +kernel
  obtain ⟨o, hoptions, hrun⟩ := exists_eq_ok_of_map hknown
  obtain ⟨hfault, hreports⟩ := Prod.mk.inj hrun
  have hconfig := Env.ofConfig_eq_ok hoptions .error
  have hlint := Env.lint_eq (Env.rules_of_ofConfig hoptions hconfig)
    (show Tree.isNode backwardModule = true by decide +kernel) Path.here
  rw [hfault, hreports] at hlint
  refine ⟨_, _, hconfig, hlint, (lint_ranges hlint).2.2.1, ?_⟩
  have hsorted : backwardFindings.mergeSort Diagnostic.le = backwardFindings.reverse := by
    simp [List.mergeSort, backwardFindings, Diagnostic.le, Location.le, Env.diagnosticOf, Coord.val]
  show (backwardFindings.mergeSort Diagnostic.le).map _ = _
  rw [hsorted]
  decide +kernel

end Standard

end EnvLint.Report
