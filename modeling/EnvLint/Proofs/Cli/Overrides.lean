import EnvLint.Cli.Overrides
import EnvLint.Proofs.Env.Run
import EnvLint.Proofs.Lint.SetUp
import EnvLint.Proofs.Rule.Edited

/-! # Options of the command as edits of the configuration

    The options of the command that concern the rule act as if its entry in the
    configuration document had been edited (`Arguments.edit`): taken out if the
    rule is switched off, and else written anew with the given level and options
    in place of those that stood there.

    * `spelled_editEntry`, `override_eq_edit`: the edited entry spells the changed
      setting, and no other rule changes;
    * `override_idem`: a second change finds nothing left to do;
    * `resolve_edits`: so a run gets the configuration of the edited document. -/

namespace EnvLint

/-! ## Edits -/

/-- The spelling of a severity on the command line. -/
def levelFlag : Severity → Json
  | .error => .str "error"
  | .warning => .str "warn"

namespace Cli.Arguments

variable (a : Arguments)

/-- Options of an entry with those of the command in their place. -/
def editOptions (options : List (String × Json)) : List (String × Json) :=
  let options := match a.envSource with
    | some s => Json.setField options envSourceOption (.str s)
    | none => options
  match a.serverOnlyPattern with
  | some s => Json.setField options serverOnlyPatternOption (.str s)
  | none => options

/-- The entry of the rule as the command asks for it. -/
def editEntry (written : Json × List (String × Json)) : Json :=
  .arr [(a.severity.join.map levelFlag).getD written.1, .obj (a.editOptions written.2)]

/-- A document as the command asks for it: as it is if nothing is asked for, without the
    entry of the rule if that is switched off, and else with an edited one. -/
def edit (doc : Json) : Json :=
  match a.severity, a.envSource, a.serverOnlyPattern with
  | none, none, none => doc
  | some none, _, _ => writeEntries doc ((entriesOf doc).filter fun r => r.1 != Env.ruleId)
  | _, _, _ =>
      let entry := a.editEntry (writtenIn doc Env.ruleId)
      writeEntries doc (Json.setField (entriesOf doc) Env.ruleId entry)

/-- A setting of the rule as the command asks for it. -/
def change (s : Setting) : Setting :=
  ⟨a.severity.join.getD s.severity, a.editOptions s.options⟩

variable {a}

/-- The command asks for nothing that concerns the rule. -/
def Silent (a : Arguments) : Prop :=
  a.severity = none ∧ a.envSource = none ∧ a.serverOnlyPattern = none

/-- The command asks for a change of the rule, and does not switch it off. -/
def Changes (a : Arguments) : Prop :=
  a.severity ≠ some none ∧ ¬a.Silent

/-- The command asks for nothing, switches the rule off, or changes it. -/
theorem changes_cases (a : Arguments) : a.Silent ∨ a.severity = some none ∨ a.Changes := by
  by_cases hsilent : a.Silent
  · exact Or.inl hsilent
  · by_cases hoff : a.severity = some none
    · exact Or.inr (Or.inl hoff)
    · exact Or.inr (Or.inr ⟨hoff, hsilent⟩)

/-- Options of the command are set as an entry is edited. -/
theorem setOptions_overrides (a : Arguments) (options : List (String × Json)) :
    setOptions options a.overrides = a.editOptions options := by
  rw [overrides, editOptions]
  cases a.envSource with
  | none =>
      cases a.serverOnlyPattern with
      | none => rfl
      | some pattern => rfl
  | some source =>
      cases a.serverOnlyPattern with
      | none => rfl
      | some pattern => rfl

theorem override_of_silent (h : a.Silent) (c : Config) : a.override c = c := by
  obtain ⟨hseverity, hsource, hpattern⟩ := h
  rw [override, overrides, hseverity, hsource, hpattern]
  rfl

/-- A command that switches the rule off takes it out. -/
theorem override_of_off (h : a.severity = some none) (c : Config) :
    a.override c = ⟨c.rules.filter fun r => r.1 != Env.ruleId⟩ := by
  rw [override, h]
  rfl

/-- A command that changes the rule changes its setting, or the standard one if it has none. -/
theorem override_of_changes (h : a.Changes) (c : Config) :
    a.override c =
      ⟨assign c.rules Env.ruleId (a.change ((c.get? Env.ruleId).getD .standard))⟩ := by
  obtain ⟨hoff, hasked⟩ := h
  have hgiven : ¬(a.severity.isNone && a.overrides.isEmpty) = true := by
    intro hnone
    rw [Bool.and_eq_true, Option.isNone_iff_eq_none, overrides, List.isEmpty_iff,
      List.append_eq_nil_iff, List.map_eq_nil_iff, List.map_eq_nil_iff,
      Option.toList_eq_nil_iff, Option.toList_eq_nil_iff] at hnone
    exact hasked hnone
  rw [override, if_neg hgiven, ← Config.insert_eq_assign, change, ← setOptions_overrides]
  cases hseverity : a.severity with
  | none => rfl
  | some severity =>
      cases severity with
      | none => exact absurd hseverity hoff
      | some severity => rfl

theorem edit_of_silent (h : a.Silent) (doc : Json) : a.edit doc = doc := by
  obtain ⟨hseverity, hsource, hpattern⟩ := h
  rw [edit, hseverity, hsource, hpattern]

/-- A command that switches the rule off takes out its entry. -/
theorem edit_of_off (h : a.severity = some none) (doc : Json) :
    a.edit doc = writeEntries doc ((entriesOf doc).filter fun r => r.1 != Env.ruleId) := by
  rw [edit, h]

/-- A command that changes the rule writes its entry anew. -/
theorem edit_of_changes (h : a.Changes) (doc : Json) :
    a.edit doc = writeEntries doc
      (assign (entriesOf doc) Env.ruleId (a.editEntry (writtenIn doc Env.ruleId))) := by
  obtain ⟨hoff, hasked⟩ := h
  rw [edit, ← Json.setField_eq_assign]
  split
  next hseverity hsource hpattern => exact absurd ⟨hseverity, hsource, hpattern⟩ hasked
  next hseverity => exact absurd hseverity hoff
  next => rfl

/-! ## The options of an edited entry -/

/-- The import path of an edited entry is that of the command, if it gives one. -/
theorem lookup_editOptions_envSource (options : List (String × Json)) :
    Json.lookup envSourceOption (a.editOptions options)
      = (a.envSource.map Json.str).or (Json.lookup envSourceOption options) := by
  have hne : serverOnlyPatternOption ≠ envSourceOption := by decide
  rw [editOptions]
  cases a.envSource with
  | none =>
      cases a.serverOnlyPattern with
      | none => rfl
      | some pattern =>
          dsimp only
          rw [Json.setField_eq_assign, Json.lookup_eq_valueOf, valueOf_assign, if_neg hne]
          rfl
  | some source =>
      cases a.serverOnlyPattern with
      | none =>
          dsimp only
          rw [Json.setField_eq_assign, Json.lookup_eq_valueOf, valueOf_assign, if_pos rfl]
          rfl
      | some pattern =>
          dsimp only
          rw [Json.setField_eq_assign, Json.setField_eq_assign, Json.lookup_eq_valueOf,
            valueOf_assign, if_neg hne, valueOf_assign, if_pos rfl]
          rfl

/-- The pattern of an edited entry is that of the command, if it gives one. -/
theorem lookup_editOptions_pattern (options : List (String × Json)) :
    Json.lookup serverOnlyPatternOption (a.editOptions options)
      = (a.serverOnlyPattern.map Json.str).or (Json.lookup serverOnlyPatternOption options) := by
  have hne : envSourceOption ≠ serverOnlyPatternOption := by decide
  rw [editOptions]
  cases a.serverOnlyPattern with
  | none =>
      cases a.envSource with
      | none => rfl
      | some source =>
          dsimp only
          rw [Json.setField_eq_assign, Json.lookup_eq_valueOf, valueOf_assign, if_neg hne]
          rfl
  | some pattern =>
      dsimp only
      rw [Json.setField_eq_assign, Json.lookup_eq_valueOf, valueOf_assign, if_pos rfl]
      rfl

/-- Options that are there already are not changed. -/
theorem editOptions_idem (options : List (String × Json)) :
    a.editOptions (a.editOptions options) = a.editOptions options := by
  have hsource := lookup_editOptions_envSource (a := a) options
  have hpattern := lookup_editOptions_pattern (a := a) options
  generalize a.editOptions options = edited at hsource hpattern ⊢
  have hfirst : (match a.envSource with
      | some s => Json.setField edited envSourceOption (.str s)
      | none => edited) = edited := by
    cases hgiven : a.envSource with
    | none => rfl
    | some s =>
        rw [hgiven] at hsource
        exact (Json.setField_eq_assign _ _ _).trans (assign_of_valueOf hsource)
  rw [editOptions, hfirst]
  cases hgiven : a.serverOnlyPattern with
  | none => rfl
  | some s =>
      rw [hgiven] at hpattern
      exact (Json.setField_eq_assign _ _ _).trans (assign_of_valueOf hpattern)

/-- A second change by the same command finds nothing left to do. -/
theorem change_idem (s : Setting) : a.change (a.change s) = a.change s := by
  rw [change, change, editOptions_idem]
  cases a.severity.join with
  | none => rfl
  | some severity => rfl

/-! ## Configurations -/

/-- The other rules keep their settings and their order. -/
theorem filter_override (a : Arguments) (c : Config) :
    (a.override c).rules.filter (fun r => r.1 != Env.ruleId)
      = c.rules.filter fun r => r.1 != Env.ruleId := by
  rcases changes_cases a with hsilent | hoff | hchanges
  · rw [override_of_silent hsilent]
  · rw [override_of_off hoff, List.filter_filter]
    simp only [Bool.and_self]
  · rw [override_of_changes hchanges]
    exact filter_assign _ _ _

/-- A second change finds nothing left to do. -/
theorem override_idem (a : Arguments) (c : Config) : a.override (a.override c) = a.override c := by
  rcases changes_cases a with hsilent | hoff | hchanges
  · rw [override_of_silent hsilent, override_of_silent hsilent]
  · rw [override_of_off hoff, override_of_off hoff, List.filter_filter]
    simp only [Bool.and_self]
  · rw [override_of_changes hchanges c, override_of_changes hchanges]
    have hget : (Config.mk (assign c.rules Env.ruleId
        (a.change ((c.get? Env.ruleId).getD .standard)))).get? Env.ruleId
          = some (a.change ((c.get? Env.ruleId).getD .standard)) := by
      rw [Config.get?_eq_valueOf, valueOf_assign, if_pos rfl]
    rw [hget, Option.getD_some, change_idem]
    exact congrArg Config.mk (assign_of_valueOf hget)

/-- A command brings in no second rule of one name. -/
theorem nodup_override {c : Config} (h : (c.rules.map Prod.fst).Nodup) :
    ((a.override c).rules.map Prod.fst).Nodup := by
  rcases changes_cases a with hsilent | hoff | hchanges
  · rw [override_of_silent hsilent]
    exact h
  · rw [override_of_off hoff]
    exact h.sublist (List.filter_sublist.map Prod.fst)
  · rw [override_of_changes hchanges]
    exact nodup_assign h _ _

/-- A command brings in no rule without a name. -/
theorem ne_empty_override {c : Config} (h : ∀ r ∈ c.rules, r.1 ≠ "") :
    ∀ r ∈ (a.override c).rules, r.1 ≠ "" := by
  rcases changes_cases a with hsilent | hoff | hchanges
  · rw [override_of_silent hsilent]
    exact h
  · rw [override_of_off hoff]
    exact fun r hr => h r (List.mem_of_mem_filter hr)
  · rw [override_of_changes hchanges]
    intro r hr
    rcases mem_assign hr with rfl | hold
    · exact show Env.ruleId ≠ "" by decide
    · exact h r hold

end Cli.Arguments

namespace Cli

/-- An edited entry spells the changed setting. -/
theorem spelled_editEntry {a : Arguments} {level : Json} {s : Setting}
    (h : Level level (some s.severity)) :
    Spelled (a.editEntry (level, s.options)) (some (a.change s)) := by
  rw [Arguments.editEntry, Arguments.change]
  cases a.severity.join with
  | none => exact .withOptions h
  | some severity =>
      cases severity with
      | error => exact .withOptions .error
      | warning => exact .withOptions .warn

/-- The text that is used for an option: that of the command, or else that of the
    document, or else the default.  An empty text stands for the default. -/
def Chosen (flag : Option String) (options : List (String × Json)) (key default used : String) :
    Prop :=
  match flag with
  | some s => used = if s = "" then default else s
  | none => TextGiven options key default used

/-- What is taken from edited options is what the command gives, or else what the document
    gives, or else the default. -/
theorem chosen_of_textGiven {flag : Option String} {options edited : List (String × Json)}
    {key default used : String}
    (hlookup : Json.lookup key edited = (flag.map Json.str).or (Json.lookup key options))
    (h : TextGiven edited key default used) : Chosen flag options key default used := by
  cases flag with
  | none =>
      cases h with
      | missing h => exact .missing (hlookup.symm.trans h)
      | empty h => exact .empty (hlookup.symm.trans h)
      | given hs h => exact .given hs (hlookup.symm.trans h)
  | some s =>
      -- an empty text of the command stands for the default, whatever the document gives
      show used = if s = "" then default else s
      cases h with
      | missing h =>
          rw [h] at hlookup
          cases hlookup
      | empty h =>
          rw [h] at hlookup
          cases hlookup
          rfl
      | given hs h =>
          rw [h] at hlookup
          cases hlookup
          exact (if_neg hs).symm

section Host

variable [Host] {a : Arguments} {doc : Json} {c : Config}

/-- A changed configuration has the settings of the edited document. -/
theorem override_eq_edit (hdoc : Config.ofJson doc = .ok c)
    (hnames : ((entriesOf doc).map Prod.fst).Nodup) :
    ∃ edited, Config.ofJson (a.edit doc) = .ok edited ∧
      ∀ id, (a.override c).get? id = edited.get? id := by
  have hdocument := Config.ofJson_eq_ok_iff.mp hdoc
  rcases a.changes_cases with hsilent | hoff | hchanges
  · rw [Arguments.edit_of_silent hsilent, Arguments.override_of_silent hsilent]
    exact ⟨c, hdoc, fun id => rfl⟩
  · rw [Arguments.edit_of_off hoff, Arguments.override_of_off hoff]
    have hkept := hdocument.entries.filter fun id => id != Env.ruleId
    exact ⟨_, hdocument.ofJson_writeEntries hkept, fun id => rfl⟩
  · rw [Arguments.edit_of_changes hchanges, Arguments.override_of_changes hchanges]
    obtain ⟨level, hwritten, hlevel⟩ := hdocument.entries.writtenIn hnames Env.ruleId
    have hspelled := spelled_editEntry (a := a) hlevel
    rw [← hwritten] at hspelled
    have hid : Env.ruleId ≠ "" := by decide
    obtain ⟨edited, hedited, hvalues⟩ := hdocument.entries.assign hnames hid hspelled
    exact ⟨_, hdocument.ofJson_writeEntries hedited, fun id => (hvalues id).symm⟩

/-- The options of the changed rule are those of the document with those of the command
    in their place. -/
theorem options_override (hdoc : Config.ofJson doc = .ok c)
    (hnames : ((entriesOf doc).map Prod.fst).Nodup) {s : Setting}
    (hs : (a.override c).get? Env.ruleId = some s) :
    s.options = a.editOptions (writtenIn doc Env.ruleId).2 := by
  have hdocument := Config.ofJson_eq_ok_iff.mp hdoc
  obtain ⟨level, hwritten, -⟩ := hdocument.entries.writtenIn hnames Env.ruleId
  rw [hwritten]
  rcases a.changes_cases with hsilent | hoff | hchanges
  · rw [Arguments.override_of_silent hsilent, Config.get?_eq_valueOf] at hs
    obtain ⟨-, hsource, hpattern⟩ := hsilent
    rw [hs, Arguments.editOptions, hsource, hpattern]
    rfl
  · rw [Arguments.override_of_off hoff, Config.get?_eq_valueOf, valueOf_eq_none_iff.mpr] at hs
    · cases hs
    · intro hmem
      obtain ⟨r, hr, hname⟩ := List.mem_map.mp hmem
      simpa [hname] using (List.mem_filter.mp hr).2
  · rw [Arguments.override_of_changes hchanges, Config.get?_eq_valueOf, valueOf_assign,
      if_pos rfl] at hs
    cases hs
    rfl

/-! ## The linter -/

/-- A linter in which the rule is enabled has no other rule, since there is none. -/
theorem rules_of_enabled {l : Linter} (hl : Linter.ofConfig c = .ok l)
    (hnames : ∀ r ∈ c.rules, r.1 ≠ "") (hdistinct : (c.rules.map Prod.fst).Nodup) {s : Setting}
    (hs : c.get? Env.ruleId = some s) : ∃ o, Taken s.options o ∧ l.rules = [⟨o, s.severity⟩] := by
  have hready := (Linter.succeeds_ofConfig_iff hnames).mp ⟨l, hl⟩
  have hname : ∀ r ∈ c.rules, r.1 = Env.ruleId := fun r hr => registered_iff.mp (hready r hr).1
  obtain ⟨rules⟩ := c
  have honly : rules = [(Env.ruleId, s)] := by
    cases rules with
    | nil => cases hs
    | cons r rest =>
        obtain ⟨hfirst, hrest⟩ := List.forall_mem_cons.mp hname
        rw [Config.get?_eq_valueOf, valueOf_cons, if_pos hfirst] at hs
        cases hs
        rw [List.map_cons, List.nodup_cons] at hdistinct
        have hempty : rest = [] := by
          refine List.eq_nil_iff_forall_not_mem.mpr fun other hother => hdistinct.1 ?_
          rw [hfirst, ← hrest other hother]
          exact List.mem_map.mpr ⟨other, hother, rfl⟩
        rw [hempty, ← hfirst]
  subst honly
  obtain ⟨-, o, ho⟩ := hready _ List.mem_cons_self
  exact ⟨o, ho, Env.rules_of_ofConfig (RuleOptions.ofFields_of_taken ho) hl⟩

/-! ## The configuration of a run -/

/-- The document of the configuration that is used without a file. -/
def defaultDocument : Json := .obj [("rules", .obj [(Env.ruleId, .str "error")])]

/-- The default document is read as the default configuration. -/
theorem ofJson_defaultDocument : Config.ofJson defaultDocument = .ok defaultConfig := by
  refine Config.ofJson_eq_ok_iff.mpr (.rules (List.forall_mem_singleton.mpr rfl) rfl ?_)
  exact .on (by decide) (.level .error) .nil

/-- The configuration document of a run: that of the file which is asked for, or the
    default. -/
inductive ConfiguredBy (a : Arguments) (d : Disk) : Json → Prop where
  | standard (h : a.config = none) : ConfiguredBy a d defaultDocument
  | file {path : Path} {text : List Char} {doc : Json} (h : a.config = some path)
      (hread : d.readText path = .ok text)
      (hfits : Host.overflow? (.decode 0 text) = none)
      (hdecode : Json.decode (String.ofList text) = .ok doc) : ConfiguredBy a d doc

/-- A run gets the configuration of its document, changed as the command asks. -/
theorem resolve_of_configuredBy {d : Disk} (h : ConfiguredBy a d doc)
    (hdoc : Config.ofJson doc = .ok c) : a.resolve d = .ok (a.override c) := by
  cases h with
  | standard hconfig =>
      rw [ofJson_defaultDocument] at hdoc
      cases hdoc
      rw [Arguments.resolve, hconfig]
      rfl
  | file hconfig hread hfits hdecode =>
      rw [Arguments.resolve, hconfig]
      dsimp only
      rw [Config.load, hread]
      dsimp only
      rw [Config.ofText, String.toList_ofList, checkStack_eq_ok_iff.mpr hfits, hdecode]
      show (Config.ofJson doc >>= _) = _
      rw [hdoc]
      rfl

/-- The document of a run has distinct entries, since it is decoded or the default one. -/
theorem nodup_of_configuredBy {d : Disk} (h : ConfiguredBy a d doc) :
    ((entriesOf doc).map Prod.fst).Nodup := by
  cases h with
  | standard _ => exact List.nodup_singleton Env.ruleId
  | file _ _ _ hdecode => exact (Json.distinct_decode hdecode).nodup_entriesOf

/-- **Options of the command are edits of the configuration.**  A run whose document is a
    configuration gets the settings of the edited document.  The other rules keep their
    settings and their order, and a second change does nothing.  The linter that is set up
    so, if the rule is enabled, uses the texts of the command, or else those of the
    document, or else the defaults, with its pattern compiled. -/
theorem resolve_edits {d : Disk} (hsource : ConfiguredBy a d doc)
    (hdoc : Config.ofJson doc = .ok c) :
    ∃ resolved edited, a.resolve d = .ok resolved ∧ Config.ofJson (a.edit doc) = .ok edited ∧
      (∀ id, resolved.get? id = edited.get? id) ∧
      resolved.rules.filter (fun r => r.1 != Env.ruleId)
        = c.rules.filter (fun r => r.1 != Env.ruleId) ∧
      a.override resolved = resolved ∧
      ∀ l s, Linter.ofConfig resolved = .ok l → resolved.get? Env.ruleId = some s →
        ∃ envSource source pattern,
          Chosen a.envSource (writtenIn doc Env.ruleId).2 envSourceOption
            defaultEnvSource envSource ∧
          Chosen a.serverOnlyPattern (writtenIn doc Env.ruleId).2 serverOnlyPatternOption
            defaultServerOnlyPattern source ∧
          Regex.compile source = .ok pattern ∧
          l.rules = [⟨⟨envSource, pattern, none⟩, s.severity⟩] := by
  have hnames := nodup_of_configuredBy hsource
  have hdocument := Config.ofJson_eq_ok_iff.mp hdoc
  obtain ⟨edited, hedited, hvalues⟩ := override_eq_edit (a := a) hdoc hnames
  refine ⟨a.override c, edited, resolve_of_configuredBy hsource hdoc, hedited, hvalues,
    a.filter_override c, a.override_idem c, ?_⟩
  intro l s hl hs
  -- the entries are distinct, so the rule is set up once, with the options of its entry
  have hdistinct := hnames.sublist hdocument.entries.sublist
  obtain ⟨o, @⟨envSource, source, pattern, htexts, hpattern⟩, hrules⟩ :=
    rules_of_enabled hl (Arguments.ne_empty_override (Config.ne_empty_of_document hdocument))
      (Arguments.nodup_override hdistinct) hs
  have henv := htexts.envSource
  have hsource := htexts.source
  rw [options_override hdoc hnames hs] at henv hsource
  exact ⟨envSource, source, pattern,
    chosen_of_textGiven (Arguments.lookup_editOptions_envSource _) henv,
    chosen_of_textGiven (Arguments.lookup_editOptions_pattern _) hsource, hpattern, hrules⟩

end Host

/-- A configuration that switches the rule off. -/
def offDocument : Json := .obj [("rules", .obj [(Env.ruleId, .str "off")])]

/-- Its text. -/
def offText : String := "\x7b\"rules\": \x7b\"require-force-dynamic-for-env\": \"off\"\x7d\x7d"

/-- A disk with a file of that text. -/
def offDisk : Disk :=
  ⟨.dir [("off.json", .file (offText.toList.map fun c => UInt8.ofNat c.toNat))], []⟩

/-- Arguments that ask for this file and for an import path that is empty. -/
def offArguments : Arguments :=
  { Arguments.blank with config := some (.ofString "off.json"), envSource := some "" }

section Standard

attribute [local instance] Host.standard

theorem configuredBy_offDocument : ConfiguredBy offArguments offDisk offDocument := by
  have hread : offDisk.readText (.ofString "off.json") = .ok offText.toList := by
    decide +kernel
  refine .file rfl hread rfl ?_
  have hdocument : (Json.readDocument offText.toList).toOption = some offDocument := by
    decide +kernel
  rw [Json.decode, String.toList_ofList]
  cases hdecoded : Json.readDocument offText.toList with
  | error fault =>
      rw [hdecoded] at hdocument
      cases hdocument
  | ok v =>
      rw [hdecoded] at hdocument
      cases hdocument
      rfl

/-- The rule is back, at its usual severity, and reads the usual import path. -/
theorem resolve_edits_offDocument :
    ∃ resolved, offArguments.resolve offDisk = .ok resolved ∧
      resolved.get? Env.ruleId = some ⟨.error, [(envSourceOption, .str "")]⟩ ∧
      ∀ l, Linter.ofConfig resolved = .ok l →
        ∃ pattern, l.rules = [⟨⟨defaultEnvSource, pattern, none⟩, .error⟩] := by
  have hdoc : Config.ofJson offDocument = .ok ⟨[]⟩ := by
    refine Config.ofJson_eq_ok_iff.mpr (.rules (List.forall_mem_singleton.mpr rfl) rfl ?_)
    exact .off (by decide) (.level .off) .nil
  have hedit : offArguments.edit offDocument = .obj [("rules", .obj [(Env.ruleId,
      .arr [.str "error", .obj [(envSourceOption, .str "")]])])] := by
    decide +kernel
  obtain ⟨resolved, edited, hresolved, hedited, hvalues, -, -, hlinter⟩ :=
    resolve_edits configuredBy_offDocument hdoc
  have hget : resolved.get? Env.ruleId = some ⟨.error, [(envSourceOption, .str "")]⟩ := by
    have hwritten : Document (offArguments.edit offDocument)
        [(Env.ruleId, ⟨.error, [(envSourceOption, .str "")]⟩)] := by
      rw [hedit]
      exact .rules (List.forall_mem_singleton.mpr rfl) rfl
        (.on (by decide) (.withOptions .error) .nil)
    rw [hvalues]
    cases hedited.symm.trans (Config.ofJson_eq_ok_iff.mpr hwritten)
    rfl
  refine ⟨resolved, hresolved, hget, ?_⟩
  intro l hl
  obtain ⟨envSource, source, pattern, henv, -, -, hrules⟩ := hlinter l _ hl hget
  obtain rfl : envSource = defaultEnvSource := henv
  exact ⟨pattern, hrules⟩

end Standard

end Cli

end EnvLint
