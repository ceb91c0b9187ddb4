import EnvLint.Proofs.Outcome
import EnvLint.Rule.Config

/-! # The configuration language

    Which documents are configurations, and what they mean, said by rules and
    not by the reader: a level has six spellings, a setting three forms, and a
    document holds at most the field `rules`.

    * `readLevel_eq_ok_iff`, `Setting.read_eq_ok_iff`, `readRules_eq_ok_iff`:
      each reader accepts what the rules allow, and nothing else;
    * `Setting.read_eq_error_iff`, `readRules_eq_error_iff`: it refuses the rest
      for the reason that comes first, and of several entries for the first one,
      or fails at showing a level that cannot be written;
    * `ofJson_eq_ok_iff`, `ofJson_eq_error_iff`: the same of whole documents. -/

namespace EnvLint

/-! ## The rules of the language -/

/-- Spellings of a level; a rule that is off has no severity. -/
inductive Level : Json → Option Severity → Prop where
  | off : Level (.str "off") none
  | warn : Level (.str "warn") (some .warning)
  | error : Level (.str "error") (some .error)
  | zero : Level (.int 0) none
  | one : Level (.int 1) (some .warning)
  | two : Level (.int 2) (some .error)

/-- Forms of a setting: a level, a list of a level, or a list of a level and an object
    of options. -/
inductive Spelled : Json → Option Setting → Prop where
  | level {raw : Json} {l : Option Severity} (hl : Level raw l) :
      Spelled raw (l.map fun severity => ⟨severity, []⟩)
  | listed {raw : Json} {l : Option Severity} (hl : Level raw l) :
      Spelled (.arr [raw]) (l.map fun severity => ⟨severity, []⟩)
  | withOptions {raw : Json} {l : Option Severity} {options : List (String × Json)}
      (hl : Level raw l) :
      Spelled (.arr [raw, .obj options]) (l.map fun severity => ⟨severity, options⟩)

/-- Entries of rules, and the settings of those that are not off, in order. -/
inductive Entries : List (String × Json) → List (String × Setting) → Prop where
  | nil : Entries [] []
  | off {id : String} {raw : Json} {raws : List (String × Json)}
      {rules : List (String × Setting)} (hid : id ≠ "") (hraw : Spelled raw none)
      (hrest : Entries raws rules) : Entries ((id, raw) :: raws) rules
  | on {id : String} {raw : Json} {s : Setting} {raws : List (String × Json)}
      {rules : List (String × Setting)} (hid : id ≠ "") (hraw : Spelled raw (some s))
      (hrest : Entries raws rules) : Entries ((id, raw) :: raws) ((id, s) :: rules)

/-- Entries of the same names, in the same order, for the same settings. -/
inductive Respelled : List (String × Json) → List (String × Json) → Prop where
  | nil : Respelled [] []
  | cons {id : String} {raw other : Json} {s : Option Setting} {raws others : List (String × Json)}
      (hraw : Spelled raw s) (hother : Spelled other s) (hrest : Respelled raws others) :
      Respelled ((id, raw) :: raws) ((id, other) :: others)

/-- Documents, and the settings that they hold. -/
inductive Document : Json → List (String × Setting) → Prop where
  | empty : Document (.obj []) []
  | rules {fields raws : List (String × Json)} {rules : List (String × Setting)}
      (hknown : ∀ f ∈ fields, f.1 = "rules")
      (hrules : Json.lookup "rules" fields = some (.obj raws)) (hentries : Entries raws rules) :
      Document (.obj fields) rules

/-! ## What is refused, and for which reason -/

/-- Why a value is no setting. -/
inductive SettingFault : Json → RuleReason → Prop where
  | level {raw : Json} (hlist : ∀ items, raw ≠ .arr items) (hlevel : ∀ l, ¬Level raw l) :
      SettingFault raw (.badLevel raw)
  | empty : SettingFault (.arr []) .emptySetting
  | long {items : List Json} (hlong : 2 < items.length) : SettingFault (.arr items) .longSetting
  | listed {raw : Json} {rest : List Json} (hshort : rest.length ≤ 1)
      (hlevel : ∀ l, ¬Level raw l) : SettingFault (.arr (raw :: rest)) (.badLevel raw)
  | options {raw v : Json} {l : Option Severity} (hlevel : Level raw l)
      (hobject : ∀ fields, v ≠ .obj fields) : SettingFault (.arr [raw, v]) .settingOptions

section Host

variable [Host]

/-- Why a value cannot be written in a message: it is nested too deep for the stack, or holds a
    whole number with too many digits. -/
inductive Unwritable (v : Json) : Failure → Prop where
  | stack {words : String} (h : Host.overflow? (.write v) = some words) :
      Unwritable v (.exhausted words)
  | digits {n : Int} (hfits : Host.overflow? (.write v) = none) (hn : n ∈ v.integers)
      (hlong : leastUnshown ≤ n.natAbs) : Unwritable v .unshownNumber

/-- Reasons whose wording can be written.  Only that of a bad level shows a value. -/
def Wordable : RuleReason → Prop
  | .badLevel raw => ∀ e, ¬Unwritable raw e
  | _ => True

/-- Why an entry is malformed. -/
inductive EntryFault : String × Json → Failure → Prop where
  | noName {raw : Json} : EntryFault ("", raw) (.config .emptyRuleId)
  | setting {id : String} {raw : Json} {reason : RuleReason} (hid : id ≠ "")
      (hraw : SettingFault raw reason) (hwords : Wordable reason) :
      EntryFault (id, raw) (.rule id reason)

/-- Entries that are malformed by a level that cannot be written, with the failure to write it. -/
inductive EntryLimit : String × Json → Failure → Prop where
  | mk {id : String} {raw level : Json} {e : Failure} (hid : id ≠ "")
      (hraw : SettingFault raw (.badLevel level)) (hlevel : Unwritable level e) :
      EntryLimit (id, raw) e

/-- Why a value is no document: it is no object, it has unknown keys, which are all
    named in order, its rules are no object, or its first malformed entry. -/
inductive DocumentFault : Json → Failure → Prop where
  | notObject {v : Json} (hobject : ∀ fields, v ≠ .obj fields) :
      DocumentFault v (.config .notObject)
  | unknownKeys {fields : List (String × Json)} {keys : List String} (hkeys : keys ≠ [])
      (hsorted : keys.Pairwise (· ≤ ·))
      (hall : keys.Perm ((fields.map Prod.fst).filter (· != "rules"))) :
      DocumentFault (.obj fields) (.config (.unknownKeys keys))
  | rulesNotObject {fields : List (String × Json)} {v : Json}
      (hknown : ∀ f ∈ fields, f.1 = "rules") (hrules : Json.lookup "rules" fields = some v)
      (hobject : ∀ raws, v ≠ .obj raws) : DocumentFault (.obj fields) (.config .rulesNotObject)
  | entry {fields before after : List (String × Json)} {bad : String × Json}
      {rules : List (String × Setting)} {e : Failure} (hknown : ∀ f ∈ fields, f.1 = "rules")
      (hrules : Json.lookup "rules" fields = some (.obj (before ++ bad :: after)))
      (hbefore : Entries before rules) (hbad : EntryFault bad e) : DocumentFault (.obj fields) e

/-- Values whose first malformed entry cannot be refused in words, with the failure instead. -/
inductive DocumentLimit : Json → Failure → Prop where
  | mk {fields before after : List (String × Json)} {bad : String × Json}
      {rules : List (String × Setting)} {e : Failure} (hknown : ∀ f ∈ fields, f.1 = "rules")
      (hrules : Json.lookup "rules" fields = some (.obj (before ++ bad :: after)))
      (hbefore : Entries before rules) (hbad : EntryLimit bad e) : DocumentLimit (.obj fields) e

end Host

/-! ## Levels -/

/-- The levels of the language are the entries of the table. -/
theorem level_iff_mem_levels {raw : Json} {l : Option Severity} :
    Level raw l ↔ (raw, l) ∈ levels := by
  constructor
  · intro h
    cases h <;> decide
  · intro h
    simp only [levels, List.mem_cons, Prod.mk.injEq, List.not_mem_nil, or_false] at h
    rcases h with ⟨rfl, rfl⟩ | ⟨rfl, rfl⟩ | ⟨rfl, rfl⟩ | ⟨rfl, rfl⟩ | ⟨rfl, rfl⟩ | ⟨rfl, rfl⟩
    · exact .off
    · exact .warn
    · exact .error
    · exact .zero
    · exact .one
    · exact .two

/-- A rule with a name is refused under its name. -/
theorem Failure.ofRule_eq {id : String} (hid : id ≠ "") (reason : RuleReason) :
    Failure.ofRule id reason = .rule id reason := by
  rw [Failure.ofRule, if_neg hid]

section Levels

variable [Host]

/-- A value fails to be written for its size or for its numbers. -/
theorem unwritable_iff {v : Json} {e : Failure} :
    Unwritable v e ↔ (Failure.checkStack (.write v) >>= fun _ => checkNumbers v.integers) =
      .error e := by
  rw [bind_eq_error_iff]
  constructor
  · rintro (h | ⟨hfits, hn, hlong⟩)
    · exact .inl (checkStack_eq_error_iff.mpr ⟨_, h, rfl⟩)
    · exact .inr ⟨(), checkStack_eq_ok_iff.mpr hfits,
        checkNumbers_eq_error_iff.mpr ⟨⟨_, hn, hlong⟩, rfl⟩⟩
  · rintro (h | ⟨_, hfits, h⟩)
    · obtain ⟨words, hwords, rfl⟩ := checkStack_eq_error_iff.mp h
      exact .stack hwords
    · obtain ⟨⟨n, hn, hlong⟩, rfl⟩ := checkNumbers_eq_error_iff.mp h
      exact .digits (checkStack_eq_ok_iff.mp hfits) hn hlong

/-- A level is read from its spellings. -/
theorem readLevel_eq_ok_iff {id : String} {raw : Json} {l : Option Severity} :
    readLevel id raw = .ok l ↔ Level raw l := by
  constructor
  · intro h
    rw [readLevel] at h
    split at h
    next found hfind =>
      cases h
      have hraw : found.1 = raw := by simpa using List.find?_some hfind
      rw [level_iff_mem_levels, ← hraw]
      exact List.mem_of_find?_eq_some hfind
    next =>
      obtain ⟨_, -, h⟩ := bind_eq_ok_iff.mp h
      obtain ⟨_, -, h⟩ := bind_eq_ok_iff.mp h
      cases h
  · intro h
    cases h <;> rfl

/-- Any other value is written in a refusal. -/
theorem readLevel_of_no_level {id : String} (hid : id ≠ "") {raw : Json}
    (hlevel : ∀ l, ¬Level raw l) :
    readLevel id raw = ((Failure.checkStack (.write raw) >>= fun _ => checkNumbers raw.integers) >>=
      fun _ => .error (.rule id (.badLevel raw))) := by
  rw [readLevel]
  split
  next found hfind =>
    have hraw : found.1 = raw := by simpa using List.find?_some hfind
    refine absurd (level_iff_mem_levels.mpr ?_) (hlevel found.2)
    rw [← hraw]
    exact List.mem_of_find?_eq_some hfind
  next =>
    rw [Failure.ofRule_eq hid]
    cases Failure.checkStack (.write raw) <;> rfl

/-- A bad level that cannot be written fails as writing it does. -/
theorem readLevel_of_unwritable {id : String} (hid : id ≠ "") {raw : Json} {e : Failure}
    (hlevel : ∀ l, ¬Level raw l) (h : Unwritable raw e) : readLevel id raw = .error e := by
  rw [readLevel_of_no_level hid hlevel, unwritable_iff.mp h]
  rfl

/-- A bad level that can be written is refused. -/
theorem readLevel_of_wordable {id : String} (hid : id ≠ "") {raw : Json}
    (hlevel : ∀ l, ¬Level raw l) (h : Wordable (.badLevel raw)) :
    readLevel id raw = .error (.rule id (.badLevel raw)) := by
  rw [readLevel_of_no_level hid hlevel]
  cases hwrite : Failure.checkStack (.write raw) >>= fun _ => checkNumbers raw.integers with
  | error e => exact absurd (unwritable_iff.mpr hwrite) (h e)
  | ok _ => rfl

end Levels

/-! ## Settings -/

/-- What is no list spells a setting or is malformed. -/
theorem spelled_or_fault_of_no_list {raw : Json} (hlist : ∀ items, raw ≠ .arr items) :
    (∃ s, Spelled raw s) ∨ ∃ reason, SettingFault raw reason := by
  by_cases hlevel : ∃ l, Level raw l
  · obtain ⟨l, hl⟩ := hlevel
    exact .inl ⟨_, .level hl⟩
  · exact .inr ⟨_, .level hlist (not_exists.mp hlevel)⟩

/-- A value is a setting or has a fault. -/
theorem spelled_or_fault (raw : Json) :
    (∃ s, Spelled raw s) ∨ ∃ reason, SettingFault raw reason := by
  match raw with
  | .arr [] => exact .inr ⟨_, .empty⟩
  | .arr (_ :: _ :: _ :: _) =>
      refine .inr ⟨_, .long ?_⟩
      simp only [List.length_cons]
      omega
  | .arr [raw] =>
      by_cases hlevel : ∃ l, Level raw l
      · obtain ⟨l, hl⟩ := hlevel
        exact .inl ⟨_, .listed hl⟩
      · exact .inr ⟨_, .listed (Nat.zero_le 1) (not_exists.mp hlevel)⟩
  | .arr [raw, options] =>
      by_cases hlevel : ∃ l, Level raw l
      · obtain ⟨l, hl⟩ := hlevel
        by_cases hobject : ∃ fields, options = .obj fields
        · obtain ⟨fields, rfl⟩ := hobject
          exact .inl ⟨_, .withOptions hl⟩
        · exact .inr ⟨_, .options hl (not_exists.mp hobject)⟩
      · exact .inr ⟨_, .listed (Nat.le_refl 1) (not_exists.mp hlevel)⟩
  | .null | .bool _ | .int _ | .float _ | .str _ | .obj _ =>
      exact spelled_or_fault_of_no_list (by rintro _ ⟨⟩)

section Settings

variable [Host]

/-- A setting is read from its three forms. -/
theorem Setting.read_eq_ok_iff {id : String} {raw : Json} {s : Option Setting} :
    Setting.read id raw = .ok s ↔ Spelled raw s := by
  constructor
  · intro h
    rw [Setting.read.eq_def] at h
    split at h
    · cases h
    next level =>
      obtain ⟨l, hl, rfl⟩ := map_eq_ok_iff.mp h
      exact .listed (readLevel_eq_ok_iff.mp hl)
    next level options =>
      obtain ⟨l, hl, hoptions⟩ := bind_eq_ok_iff.mp h
      split at hoptions
      · cases hoptions
        exact .withOptions (readLevel_eq_ok_iff.mp hl)
      · cases hoptions
    · cases h
    next =>
      obtain ⟨l, hl, rfl⟩ := map_eq_ok_iff.mp h
      exact .level (readLevel_eq_ok_iff.mp hl)
  · intro h
    cases h with
    | level hl => cases hl <;> rfl
    | listed hl => exact map_eq_ok_iff.mpr ⟨_, readLevel_eq_ok_iff.mpr hl, rfl⟩
    | withOptions hl => exact bind_eq_ok_iff.mpr ⟨_, readLevel_eq_ok_iff.mpr hl, rfl⟩

/-- A level that is refused refuses the setting, in the same way. -/
theorem Setting.read_of_badLevel {id : String} {raw level : Json} {e : Failure}
    (h : SettingFault raw (.badLevel level))
    (hlevel : (∀ l, ¬Level level l) → readLevel id level = .error e) :
    Setting.read id raw = .error e := by
  cases h with
  | level hlist hno =>
      -- the four forms of a list are excluded, which leaves the level alone
      rw [Setting.read.eq_def]
      split
      · exact absurd rfl (hlist _)
      · exact absurd rfl (hlist _)
      · exact absurd rfl (hlist _)
      · exact absurd rfl (hlist _)
      · exact map_eq_error_iff.mpr (hlevel hno)
  | @listed _ rest hshort hno =>
      match rest, hshort with
      | [], _ => exact map_eq_error_iff.mpr (hlevel hno)
      | [_], _ => exact bind_eq_error_iff.mpr (.inl (hlevel hno))

/-- Each fault is what the reader says, if it can be said. -/
theorem Setting.read_of_fault {id : String} (hid : id ≠ "") {raw : Json} {reason : RuleReason}
    (h : SettingFault raw reason) (hwords : Wordable reason) :
    Setting.read id raw = .error (.rule id reason) := by
  cases hfault : h with
  | level => exact read_of_badLevel h fun hno => readLevel_of_wordable hid hno hwords
  | empty => exact congrArg _ (Failure.ofRule_eq hid _)
  | @long items hlong =>
      match items, hlong with
      | _ :: _ :: _ :: _, _ => exact congrArg _ (Failure.ofRule_eq hid _)
  | listed => exact read_of_badLevel h fun hno => readLevel_of_wordable hid hno hwords
  | options hlevel hobject =>
      refine bind_eq_error_iff.mpr (.inr ⟨_, readLevel_eq_ok_iff.mpr hlevel, ?_⟩)
      split
      · exact absurd rfl (hobject _)
      · exact congrArg _ (Failure.ofRule_eq hid _)

/-- A level that cannot be written fails as writing it does. -/
theorem Setting.read_of_unwritable {id : String} (hid : id ≠ "") {raw level : Json} {e : Failure}
    (h : SettingFault raw (.badLevel level)) (hlevel : Unwritable level e) :
    Setting.read id raw = .error e :=
  read_of_badLevel h fun hno => readLevel_of_unwritable hid hno hlevel

/-- A reason can be worded, or it is a level that cannot be written. -/
theorem wordable_or_unwritable (reason : RuleReason) :
    Wordable reason ∨ ∃ level e, reason = .badLevel level ∧ Unwritable level e := by
  by_cases h : ∃ level e, reason = .badLevel level ∧ Unwritable level e
  · exact .inr h
  · refine .inl ?_
    cases reason with
    | badLevel level => exact fun e he => h ⟨level, e, rfl, he⟩
    | _ => trivial

/-- Any other value is refused for its fault, or for a level that cannot be written. -/
theorem Setting.read_eq_error_iff {id : String} (hid : id ≠ "") {raw : Json} {e : Failure} :
    Setting.read id raw = .error e ↔
      (∃ reason, SettingFault raw reason ∧ Wordable reason ∧ e = .rule id reason) ∨
        ∃ level, SettingFault raw (.badLevel level) ∧ Unwritable level e := by
  constructor
  · intro h
    rcases spelled_or_fault raw with ⟨s, hs⟩ | ⟨reason, hreason⟩
    · rw [Setting.read_eq_ok_iff.mpr hs] at h
      cases h
    · rcases wordable_or_unwritable reason with hwords | ⟨level, other, rfl, hlevel⟩
      · rw [Setting.read_of_fault hid hreason hwords] at h
        cases h
        exact .inl ⟨reason, hreason, hwords, rfl⟩
      · rw [Setting.read_of_unwritable hid hreason hlevel] at h
        cases h
        exact .inr ⟨level, hreason, hlevel⟩
  · rintro (⟨reason, hreason, hwords, rfl⟩ | ⟨level, hreason, hlevel⟩)
    · exact Setting.read_of_fault hid hreason hwords
    · exact Setting.read_of_unwritable hid hreason hlevel

end Settings

/-! ## Sorted keys -/

/-- Sorting gives the one ordered list of the same texts. -/
theorem mergeSort_eq_iff {keys sorted : List String} :
    keys.mergeSort = sorted ↔ sorted.Perm keys ∧ sorted.Pairwise (· ≤ ·) := by
  have hperm := List.mergeSort_perm keys fun a b => decide (a ≤ b)
  have hsorted : (keys.mergeSort fun a b => decide (a ≤ b)).Pairwise (· ≤ ·) := by
    refine (List.pairwise_mergeSort ?_ ?_ keys).imp of_decide_eq_true
    · intro a b c hab hbc
      exact decide_eq_true (String.le_trans (of_decide_eq_true hab) (of_decide_eq_true hbc))
    · intro a b
      simpa using String.le_total a b
  constructor
  · rintro rfl
    exact ⟨hperm, hsorted⟩
  · rintro ⟨hsame, hpairs⟩
    exact (hperm.trans hsame.symm).eq_of_pairwise (fun a b _ _ => String.le_antisymm) hsorted hpairs

theorem mergeSort_eq_nil_iff {keys : List String} : keys.mergeSort = [] ↔ keys = [] := by
  rw [← List.length_eq_zero_iff, List.length_mergeSort, List.length_eq_zero_iff]

/-! ## Entries -/

namespace Config

/-- No key is unknown just if all are that of the rules. -/
theorem unknownKeys_eq_nil_iff {fields : List (String × Json)} :
    unknownKeys fields = [] ↔ ∀ f ∈ fields, f.1 = "rules" := by
  rw [unknownKeys, mergeSort_eq_nil_iff]
  simp

/-- Without the field there is no field at all. -/
theorem eq_nil_of_lookup {fields : List (String × Json)} (h : ∀ f ∈ fields, f.1 = "rules")
    (hrules : Json.lookup "rules" fields = none) : fields = [] := by
  cases fields with
  | nil => rfl
  | cons f rest =>
      obtain ⟨key, v⟩ := f
      obtain rfl : key = "rules" := h _ List.mem_cons_self
      cases hrules

section Host

variable [Host]

theorem readRules_cons {id : String} (hid : id ≠ "") (raw : Json) (raws : List (String × Json)) :
    readRules ((id, raw) :: raws) = (do
      let s ← Setting.read id raw
      let rules ← readRules raws
      .ok (match s with
        | some s => (id, s) :: rules
        | none => rules)) := by
  rw [readRules]
  exact if_neg hid

/-- An entry without a name is refused before its setting is looked at. -/
theorem readRules_cons_of_empty (raw : Json) (raws : List (String × Json)) :
    readRules (("", raw) :: raws) = .error (.config .emptyRuleId) := by
  rw [readRules, if_pos rfl]

/-- Entries are read if each of them is well formed; those that are off vanish. -/
theorem readRules_eq_ok_iff {raws : List (String × Json)} {rules : List (String × Setting)} :
    readRules raws = .ok rules ↔ Entries raws rules := by
  constructor
  · intro h
    induction raws generalizing rules with
    | nil =>
        cases h
        exact .nil
    | cons entry raws ih =>
        obtain ⟨id, raw⟩ := entry
        by_cases hid : id = ""
        · rw [hid, readRules_cons_of_empty] at h
          cases h
        · rw [readRules_cons hid] at h
          obtain ⟨s, hs, h⟩ := bind_eq_ok_iff.mp h
          obtain ⟨rest, hrest, h⟩ := bind_eq_ok_iff.mp h
          -- an entry that is off is read, and vanishes
          have hraw := Setting.read_eq_ok_iff.mp hs
          cases s with
          | none =>
              cases h
              exact .off hid hraw (ih hrest)
          | some s =>
              cases h
              exact .on hid hraw (ih hrest)
  · intro h
    induction h with
    | nil => rfl
    | off hid hraw _ ih => rw [readRules_cons hid, Setting.read_eq_ok_iff.mpr hraw, ih]; rfl
    | on hid hraw _ ih => rw [readRules_cons hid, Setting.read_eq_ok_iff.mpr hraw, ih]; rfl

/-- Of malformed entries the first one is refused, whatever follows it. -/
theorem readRules_eq_error_iff {raws : List (String × Json)} {e : Failure} :
    readRules raws = .error e ↔
      ∃ before bad after rules, raws = before ++ bad :: after ∧ Entries before rules ∧
        (EntryFault bad e ∨ EntryLimit bad e) := by
  constructor
  · intro h
    induction raws with
    | nil => cases h
    | cons entry raws ih =>
        obtain ⟨id, raw⟩ := entry
        by_cases hid : id = ""
        · subst hid
          rw [readRules_cons_of_empty] at h
          cases h
          exact ⟨[], _, raws, [], rfl, .nil, .inl .noName⟩
        · rw [readRules_cons hid] at h
          -- this entry is the first malformed one, or one behind it is
          rcases bind_eq_error_iff.mp h with hraw | ⟨s, hs, h⟩
          · refine ⟨[], _, raws, [], rfl, .nil, ?_⟩
            rcases (Setting.read_eq_error_iff hid).mp hraw with
              ⟨reason, hreason, hwords, rfl⟩ | ⟨level, hreason, hlevel⟩
            · exact .inl (.setting hid hreason hwords)
            · exact .inr (.mk hid hreason hlevel)
          · rcases bind_eq_error_iff.mp h with hrest | ⟨_, _, h⟩
            · obtain ⟨before, bad, after, rules, rfl, hbefore, hbad⟩ := ih hrest
              have hraw := Setting.read_eq_ok_iff.mp hs
              cases s with
              | none => exact ⟨_ :: before, bad, after, _, rfl, .off hid hraw hbefore, hbad⟩
              | some s => exact ⟨_ :: before, bad, after, _, rfl, .on hid hraw hbefore, hbad⟩
            · cases h
  · rintro ⟨before, bad, after, rules, rfl, hbefore, hbad⟩
    -- the induction is on the well-formed entries, so `after` is never looked at
    induction hbefore with
    | nil =>
        rcases hbad with (_ | ⟨hid, hraw, hwords⟩) | ⟨hid, hraw, hlevel⟩
        · exact readRules_cons_of_empty _ _
        · rw [List.nil_append, readRules_cons hid, Setting.read_of_fault hid hraw hwords]
          rfl
        · rw [List.nil_append, readRules_cons hid, Setting.read_of_unwritable hid hraw hlevel]
          rfl
    | off hid hraw _ ih =>
        rw [List.cons_append, readRules_cons hid, Setting.read_eq_ok_iff.mpr hraw, ih]
        rfl
    | on hid hraw _ ih =>
        rw [List.cons_append, readRules_cons hid, Setting.read_eq_ok_iff.mpr hraw, ih]
        rfl

/-- How a setting is spelled makes no difference. -/
theorem readRules_of_respelled {raws others : List (String × Json)} (h : Respelled raws others) :
    readRules raws = readRules others := by
  induction h with
  | nil => rfl
  | @cons id raw other s raws others hraw hother _ ih =>
      by_cases hid : id = ""
      · subst hid
        rw [readRules_cons_of_empty, readRules_cons_of_empty]
      · rw [readRules_cons hid, readRules_cons hid, Setting.read_eq_ok_iff.mpr hraw,
          Setting.read_eq_ok_iff.mpr hother, ih]

/-! ## Documents -/

/-- Unknown keys are refused before the rules are looked at. -/
theorem ofJson_of_unknown {fields : List (String × Json)} (h : unknownKeys fields ≠ []) :
    ofJson (.obj fields) = .error (.config (.unknownKeys (unknownKeys fields))) := by
  rw [ofJson, if_pos]
  simpa using h

/-- Without unknown keys the rules are read. -/
theorem ofJson_of_known {fields : List (String × Json)} (h : ∀ f ∈ fields, f.1 = "rules") :
    ofJson (.obj fields) =
      match Json.lookup "rules" fields with
      | none => .ok ⟨[]⟩
      | some (.obj rules) => (readRules rules).map (⟨·⟩)
      | some _ => .error (.config .rulesNotObject) := by
  rw [ofJson]
  refine if_neg ?_
  rw [unknownKeys_eq_nil_iff.mpr h]
  decide

/-- A document is read if the rules of the language allow it. -/
theorem ofJson_eq_ok_iff {v : Json} {c : Config} : ofJson v = .ok c ↔ Document v c.rules := by
  constructor
  · intro h
    cases v with
    | obj fields =>
        by_cases hknown : unknownKeys fields = []
        · rw [unknownKeys_eq_nil_iff] at hknown
          rw [ofJson_of_known hknown] at h
          split at h
          next hrules =>
            cases h
            rw [eq_nil_of_lookup hknown hrules]
            exact .empty
          next raws hrules =>
            obtain ⟨rules, hread, rfl⟩ := map_eq_ok_iff.mp h
            exact .rules hknown hrules (readRules_eq_ok_iff.mp hread)
          next => cases h
        · rw [ofJson_of_unknown hknown] at h
          cases h
    | _ => cases h
  · intro h
    obtain ⟨rules⟩ := c
    cases h with
    | empty => exact ofJson_of_known (List.forall_mem_nil _)
    | rules hknown hrules hentries =>
        rw [ofJson_of_known hknown, hrules]
        exact map_eq_ok_iff.mpr ⟨rules, readRules_eq_ok_iff.mpr hentries, rfl⟩

/-- Each fault of a document refuses it. -/
theorem ofJson_of_fault {v : Json} {e : Failure} (h : DocumentFault v e) : ofJson v = .error e := by
  cases h with
  | notObject hobject =>
      cases v with
      | obj fields => exact absurd rfl (hobject fields)
      | _ => rfl
  | unknownKeys hkeys hsorted hall =>
      -- the named keys are the sorted ones, since the sorted list is unique
      have hsame : unknownKeys _ = _ := mergeSort_eq_iff.mpr ⟨hall, hsorted⟩
      rw [← hsame] at hkeys ⊢
      exact ofJson_of_unknown hkeys
  | rulesNotObject hknown hrules hobject =>
      rw [ofJson_of_known hknown, hrules]
      split
      next heq => cases heq
      next raws heq => exact absurd (Option.some.inj heq) (hobject raws)
      next => rfl
  | entry hknown hrules hbefore hbad =>
      rw [ofJson_of_known hknown, hrules]
      exact map_eq_error_iff.mpr
        (readRules_eq_error_iff.mpr ⟨_, _, _, _, rfl, hbefore, .inl hbad⟩)

/-- Any other value is refused for its first fault, or fails at showing it. -/
theorem ofJson_eq_error_iff {v : Json} {e : Failure} :
    ofJson v = .error e ↔ DocumentFault v e ∨ DocumentLimit v e := by
  constructor
  · intro h
    cases v with
    | obj fields =>
        by_cases hknown : unknownKeys fields = []
        · rw [unknownKeys_eq_nil_iff] at hknown
          rw [ofJson_of_known hknown] at h
          split at h
          next => cases h
          next raws hrules =>
            obtain ⟨before, bad, after, rules, rfl, hbefore, hbad⟩ :=
              readRules_eq_error_iff.mp (map_eq_error_iff.mp h)
            exact hbad.imp (.entry hknown hrules hbefore) (.mk hknown hrules hbefore)
          next v hobject hrules =>
            cases h
            exact .inl (.rulesNotObject hknown hrules hobject)
        · rw [ofJson_of_unknown hknown] at h
          cases h
          -- all unknown keys are named, in order
          obtain ⟨hperm, hsorted⟩ := mergeSort_eq_iff.mp (rfl : unknownKeys fields = _)
          exact .inl (.unknownKeys hknown hsorted hperm)
    | _ =>
        cases h
        exact .inl (.notObject (by rintro _ ⟨⟩))
  · rintro (h | ⟨hknown, hrules, hbefore, hbad⟩)
    · exact ofJson_of_fault h
    · rw [ofJson_of_known hknown, hrules]
      exact map_eq_error_iff.mpr
        (readRules_eq_error_iff.mpr ⟨_, _, _, _, rfl, hbefore, .inr hbad⟩)

/-- All spellings of the same settings give the same configuration. -/
theorem ofJson_of_respelled {raws others : List (String × Json)} (h : Respelled raws others) :
    ofJson (.obj [("rules", .obj others)]) = ofJson (.obj [("rules", .obj raws)]) := by
  have hknown (v : Json) : ∀ f ∈ [("rules", v)], f.1 = "rules" := by simp
  rw [ofJson_of_known (hknown _), ofJson_of_known (hknown _)]
  show (readRules others).map _ = (readRules raws).map _
  rw [readRules_of_respelled h]

end Host

/-! ## Names -/

/-- Only rules with a name are enabled. -/
theorem ne_empty_of_entries {raws : List (String × Json)} {rules : List (String × Setting)}
    (h : Entries raws rules) : ∀ rule ∈ rules, rule.1 ≠ "" := by
  induction h with
  | nil => exact List.forall_mem_nil _
  | off _ _ _ ih => exact ih
  | on hid _ _ ih => exact List.forall_mem_cons.mpr ⟨hid, ih⟩

/-- All rules of a document have names. -/
theorem ne_empty_of_document {v : Json} {rules : List (String × Setting)} (h : Document v rules) :
    ∀ rule ∈ rules, rule.1 ≠ "" := by
  cases h with
  | empty => exact List.forall_mem_nil _
  | rules _ _ hentries => exact ne_empty_of_entries hentries

end Config

end EnvLint
