import EnvLint.Proofs.Json.Distinct
import EnvLint.Proofs.Rule.Grammar

/-! # Edited configurations

    What becomes of a configuration if one entry of its document is written anew
    or taken out.  In a document with distinct names a rule has the setting that
    its entry spells (`Entries.valueOf_of_entry`), so an edit of one entry changes
    one rule (`Entries.assign`, `Entries.filter`), and the document stays a
    configuration (`Document.ofJson_writeEntries`). -/

namespace EnvLint

theorem Config.get?_eq_valueOf (c : Config) (id : String) : c.get? id = valueOf c.rules id := rfl

/-- A rule is inserted as a name is assigned. -/
theorem Config.insert_eq_assign (rules : List (String × Setting)) (id : String) (s : Setting) :
    Config.insert rules id s = assign rules id s := by
  induction rules with
  | nil => rfl
  | cons r rules ih => rw [Config.insert, assign, ih]

/-! ## Entries of a document -/

/-- A level has one meaning. -/
theorem Level.unique {raw : Json} {l m : Option Severity} (hl : Level raw l) (hm : Level raw m) :
    l = m := by
  rw [level_iff_mem_levels] at hl hm
  have hnames : (levels.map Prod.fst).Nodup := by decide
  exact congrArg Prod.snd (List.inj_on_of_nodup_map hnames hl hm rfl)

/-- A setting has one meaning, since no level is a list. -/
theorem Spelled.unique {raw : Json} {s t : Option Setting} (hs : Spelled raw s)
    (ht : Spelled raw t) : s = t := by
  cases hs with
  | level hl =>
      cases ht with
      | level hm => rw [hl.unique hm]
      | listed _ => cases hl
      | withOptions _ => cases hl
  | listed hl =>
      cases ht with
      | level hm => cases hm
      | listed hm => rw [hl.unique hm]
  | withOptions hl =>
      cases ht with
      | level hm => cases hm
      | withOptions hm => rw [hl.unique hm]

section Entries

variable {raws others : List (String × Json)} {rules settings : List (String × Setting)}
  {id : String}

/-- The rules that entries give stand in the order of the entries. -/
theorem Entries.sublist (h : Entries raws rules) :
    (rules.map Prod.fst).Sublist (raws.map Prod.fst) := by
  induction h with
  | nil => exact List.Sublist.refl []
  | off _ _ _ ih => exact ih.cons _
  | on _ _ _ ih => exact ih.cons_cons _

/-- A rule without an entry has no setting. -/
theorem Entries.valueOf_of_missing (h : Entries raws rules) (hraw : valueOf raws id = none) :
    valueOf rules id = none := by
  rw [valueOf_eq_none_iff] at hraw ⊢
  exact fun hmem => hraw (h.sublist.subset hmem)

/-- A rule has the setting that its entry spells; none if it is off. -/
theorem Entries.valueOf_of_entry (h : Entries raws rules) (hnames : (raws.map Prod.fst).Nodup)
    {raw : Json} (hraw : valueOf raws id = some raw) :
    ∃ s, Spelled raw s ∧ valueOf rules id = s := by
  induction h with
  | nil => cases hraw
  | @off name other raws rules _ hother hrest ih =>
      obtain ⟨hnew, hnames⟩ := List.nodup_cons.mp hnames
      rw [valueOf_cons] at hraw
      by_cases hname : name = id
      · -- the entry is off, and its name stands nowhere else
        rw [if_pos hname] at hraw
        cases hraw
        refine ⟨none, hother, hrest.valueOf_of_missing ?_⟩
        exact valueOf_eq_none_iff.mpr (hname ▸ hnew)
      · rw [if_neg hname] at hraw
        exact ih hnames hraw
  | @on name other s raws rules _ hother hrest ih =>
      rw [valueOf_cons] at hraw ⊢
      by_cases hname : name = id
      · rw [if_pos hname] at hraw ⊢
        cases hraw
        exact ⟨some s, hother, rfl⟩
      · rw [if_neg hname] at hraw ⊢
        exact ih (List.nodup_cons.mp hnames).2 hraw

/-- Equal entries give equal settings. -/
theorem Entries.valueOf_congr (h : Entries raws rules) (hothers : Entries others settings)
    (hnames : (raws.map Prod.fst).Nodup) (hnames' : (others.map Prod.fst).Nodup)
    (hsame : valueOf raws id = valueOf others id) : valueOf rules id = valueOf settings id := by
  cases hraw : valueOf raws id with
  | none =>
      rw [h.valueOf_of_missing hraw, hothers.valueOf_of_missing (hsame ▸ hraw)]
  | some raw =>
      obtain ⟨s, hs, hrules⟩ := h.valueOf_of_entry hnames hraw
      obtain ⟨t, ht, hsettings⟩ := hothers.valueOf_of_entry hnames' (hsame ▸ hraw)
      rw [hrules, hsettings, hs.unique ht]

/-- Leaving out entries by their names leaves out their rules. -/
theorem Entries.filter (h : Entries raws rules) (keep : String → Bool) :
    Entries (raws.filter fun r => keep r.1) (rules.filter fun r => keep r.1) := by
  induction h with
  | nil => exact .nil
  | @off name raw raws rules hid hraw _ ih =>
      rw [List.filter_cons]
      split
      · exact .off hid hraw ih
      · exact ih
  | @on name raw s raws rules hid hraw _ ih =>
      rw [List.filter_cons, List.filter_cons]
      split
      · exact .on hid hraw ih
      · exact ih

/-- An entry that is spelled well may be put into a document. -/
theorem Entries.exists_assign (h : Entries raws rules) (hid : id ≠ "") {raw : Json} {s : Setting}
    (hraw : Spelled raw (some s)) : ∃ edited, Entries (assign raws id raw) edited := by
  induction h with
  | nil => exact ⟨_, .on hid hraw .nil⟩
  | off hname hother hrest ih =>
      rw [assign_cons]
      split
      · exact ⟨_, .on hid hraw hrest⟩
      · obtain ⟨edited, hedited⟩ := ih
        exact ⟨_, .off hname hother hedited⟩
  | on hname hother hrest ih =>
      rw [assign_cons]
      split
      · exact ⟨_, .on hid hraw hrest⟩
      · obtain ⟨edited, hedited⟩ := ih
        exact ⟨_, .on hname hother hedited⟩

/-- Writing an entry sets its rule, and no other. -/
theorem Entries.assign (h : Entries raws rules) (hnames : (raws.map Prod.fst).Nodup)
    (hid : id ≠ "") {raw : Json} {s : Setting} (hraw : Spelled raw (some s)) :
    ∃ edited, Entries (assign raws id raw) edited ∧
      ∀ other, valueOf edited other = valueOf (EnvLint.assign rules id s) other := by
  obtain ⟨edited, hedited⟩ := h.exists_assign hid hraw
  have hnames' := nodup_assign hnames id raw
  refine ⟨edited, hedited, ?_⟩
  intro other
  by_cases hother : id = other
  · have hentry : valueOf (EnvLint.assign raws id raw) other = some raw := by
      rw [valueOf_assign, if_pos hother]
    obtain ⟨t, ht, hvalue⟩ := hedited.valueOf_of_entry hnames' hentry
    rw [hvalue, valueOf_assign, if_pos hother, ht.unique hraw]
  · rw [valueOf_assign, if_neg hother]
    refine hedited.valueOf_congr h hnames' hnames ?_
    rw [valueOf_assign, if_neg hother]

end Entries

/-! ## Documents -/

/-- The entries of a document. -/
def entriesOf (doc : Json) : List (String × Json) :=
  match doc.get? "rules" with
  | some (.obj raws) => raws
  | _ => []

/-- Writes the entries of a document anew. -/
def writeEntries (doc : Json) (raws : List (String × Json)) : Json :=
  match doc with
  | .obj fields => .obj (Json.setField fields "rules" (.obj raws))
  | v => v

/-- Level and options as an entry writes them; one that is off writes neither. -/
def written? : Json → Option (Json × List (String × Json))
  | .arr [level, .obj options] =>
      if level = .str "off" ∨ level = .int 0 then none else some (level, options)
  | .arr [level] => if level = .str "off" ∨ level = .int 0 then none else some (level, [])
  | level => if level = .str "off" ∨ level = .int 0 then none else some (level, [])

/-- Level and options of a rule in a document, or a plain error. -/
def writtenIn (doc : Json) (id : String) : Json × List (String × Json) :=
  ((Json.lookup id (entriesOf doc)).bind written?).getD (.str "error", [])

section Document

variable {doc : Json} {rules : List (String × Setting)}

/-- The rules of a document come from its entries. -/
theorem Document.entries (h : Document doc rules) : Entries (entriesOf doc) rules := by
  cases h with
  | empty => exact .nil
  | rules _ hrules hentries =>
      rw [entriesOf, Json.get?, hrules]
      exact hentries

/-- A document with other entries is read as the rules of these entries. -/
theorem Document.ofJson_writeEntries [Host] (h : Document doc rules) {raws : List (String × Json)}
    {edited : List (String × Setting)} (hraws : Entries raws edited) :
    Config.ofJson (writeEntries doc raws) = .ok ⟨edited⟩ := by
  obtain ⟨fields, rfl, hknown⟩ : ∃ fields, doc = .obj fields ∧ ∀ f ∈ fields, f.1 = "rules" := by
    cases h with
    | empty => exact ⟨[], rfl, List.forall_mem_nil _⟩
    | rules hknown _ _ => exact ⟨_, rfl, hknown⟩
  refine Config.ofJson_eq_ok_iff.mpr (.rules ?_ ?_ hraws)
  · rw [Json.setField_eq_assign]
    intro f hf
    rcases mem_assign hf with rfl | hold
    · rfl
    · exact hknown f hold
  · rw [Json.setField_eq_assign, Json.lookup_eq_valueOf, valueOf_assign, if_pos rfl]

/-- Entries of a decoded document have distinct names. -/
theorem Json.Distinct.nodup_entriesOf (h : doc.Distinct) :
    ((entriesOf doc).map Prod.fst).Nodup := by
  rw [entriesOf]
  split
  next raws hraws =>
    cases h with
    | obj _ hfields =>
        cases hfields _ (mem_of_valueOf hraws) with
        | obj hkeys _ => exact hkeys
    | _ => cases hraws
  next => exact List.nodup_nil

/-- A level is what an entry writes unless it is off; then a plain error stands for it. -/
theorem level_written {level : Json} {l : Option Severity} (h : Level level l)
    (options : List (String × Json)) :
    ∃ shown, (if level = .str "off" ∨ level = .int 0 then none else some (level, options)).getD
        (.str "error", [])
          = (shown, ((l.map fun severity => Setting.mk severity options).getD .standard).options) ∧
      Level shown
        (some ((l.map fun severity => Setting.mk severity options).getD .standard).severity) := by
  cases h with
  | off => exact ⟨_, rfl, .error⟩
  | warn => exact ⟨_, rfl, .warn⟩
  | error => exact ⟨_, rfl, .error⟩
  | zero => exact ⟨_, rfl, .error⟩
  | one => exact ⟨_, rfl, .one⟩
  | two => exact ⟨_, rfl, .two⟩

/-- What is kept of an entry that is edited, its level and its options, is that of its
    setting; of an entry that is off the standard setting is kept. -/
theorem Spelled.written {raw : Json} {s : Option Setting} (h : Spelled raw s) :
    ∃ level, (written? raw).getD (.str "error", []) = (level, (s.getD .standard).options) ∧
      Level level (some (s.getD .standard).severity) := by
  cases h with
  | level hl =>
      have hwritten := level_written hl []
      cases hl with
      | off => exact hwritten
      | warn => exact hwritten
      | error => exact hwritten
      | zero => exact hwritten
      | one => exact hwritten
      | two => exact hwritten
  | listed hl => exact level_written hl []
  | withOptions hl => exact level_written hl _

/-- What a document writes for a rule is its setting, or a plain error without one. -/
theorem Entries.writtenIn (h : Entries (entriesOf doc) rules)
    (hnames : ((entriesOf doc).map Prod.fst).Nodup) (id : String) :
    ∃ level, writtenIn doc id = (level, ((valueOf rules id).getD .standard).options) ∧
      Level level (some ((valueOf rules id).getD .standard).severity) := by
  rw [EnvLint.writtenIn, Json.lookup_eq_valueOf]
  cases hraw : valueOf (entriesOf doc) id with
  | none =>
      rw [h.valueOf_of_missing hraw]
      exact ⟨_, rfl, .error⟩
  | some raw =>
      obtain ⟨s, hs, hvalue⟩ := h.valueOf_of_entry hnames hraw
      rw [hvalue]
      exact hs.written

end Document

end EnvLint
