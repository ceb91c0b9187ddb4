import EnvLint.Tree.Location

/-! # Valid locations

    A location is made if and only if a file is given and the numbers fit
    together: lines count from one, columns from zero, and the end does not lie
    before the start. -/

namespace EnvLint.Location

/-- Numbers that fit together. -/
structure Valid (l : Location) : Prop where
  line_pos : 0 < l.line.val
  column_nonneg : 0 ≤ l.column.val
  line_le : ∀ e, l.endLine = some e → l.line.val ≤ e.val
  endColumn_nonneg : ∀ c, l.endColumn = some c → 0 ≤ c.val
  column_le : ∀ e c, l.endLine = some e → l.endColumn = some c → e.val = l.line.val →
    l.column.val ≤ c.val

/-- No coordinate is refused if and only if each one that is given is accepted. -/
theorem filter_eq_none_iff {refuses : Coord → Bool} {given : Option Coord} :
    given.filter refuses = none ↔ ∀ c, given = some c → refuses c = false := by
  cases given with
  | none => simp
  | some c => simp [Option.filter]

/-- A location is made if and only if each check in turn lets it pass. -/
theorem make_eq_ok_iff_checks {path : Path} {line column : Coord}
    {endLine endColumn : Option Coord} {l : Location} :
    make (some path) line column endLine endColumn = .ok l ↔
      l = ⟨path, line, column, endLine, endColumn⟩ ∧ ¬line.val ≤ 0 ∧ ¬column.val < 0 ∧
        endLine.filter (·.val < line.val) = none ∧ endColumn.filter (·.val < 0) = none ∧
        endColumn.filter (fun c =>
          endLine.any (·.val == line.val) && decide (c.val < column.val)) = none := by
  unfold make
  dsimp only
  by_cases hline : line.val ≤ 0
  · simp [hline]
  · by_cases hcolumn : column.val < 0
    · simp [hline, hcolumn]
    · cases hendLine : endLine.filter (·.val < line.val) with
      | some e => simp [hline, hcolumn]
      | none =>
          cases hendColumn : endColumn.filter (·.val < 0) with
          | some c => simp [hline, hcolumn]
          | none =>
              cases hbefore : endColumn.filter (fun c =>
                  endLine.any (·.val == line.val) && decide (c.val < column.val)) with
              | some c => simp [hline, hcolumn]
              | none => simp [hline, hcolumn, eq_comm]

/-- A location is made from numbers that fit together, and from no others. -/
theorem make_eq_ok_iff {path : Path} {line column : Coord} {endLine endColumn : Option Coord}
    {l : Location} :
    make (some path) line column endLine endColumn = .ok l ↔
      l = ⟨path, line, column, endLine, endColumn⟩ ∧ l.Valid := by
  rw [make_eq_ok_iff_checks]
  refine and_congr_right ?_
  rintro rfl
  rw [filter_eq_none_iff, filter_eq_none_iff, filter_eq_none_iff]
  constructor
  · rintro ⟨hline, hcolumn, hendLine, hendColumn, hbefore⟩
    refine ⟨Int.not_le.mp hline, Int.not_lt.mp hcolumn, ?_, ?_, ?_⟩
    · intro e he
      simpa using hendLine e he
    · intro c hc
      simpa using hendColumn c hc
    · intro e c he hc hsame
      have hcheck := hbefore c hc
      rw [show endLine = some e from he] at hcheck
      simpa [hsame] using hcheck
  · intro hvalid
    refine ⟨Int.not_le.mpr hvalid.line_pos, Int.not_lt.mpr hvalid.column_nonneg, ?_, ?_, ?_⟩
    · intro e he
      simpa using hvalid.line_le e he
    · intro c hc
      simpa using hvalid.endColumn_nonneg c hc
    · intro c hc
      cases hend : endLine with
      | none => rfl
      | some e =>
          by_cases hsame : e.val = line.val
          · simpa [hsame] using hvalid.column_le e c hend hc hsame
          · simp [hsame]

end EnvLint.Location
