import EnvLint.Lint.Linter
import EnvLint.Proofs.Rule.Grammar

/-! # Setting up a linter

    From a configuration document to rules that are ready to run.  The rules of
    the configuration language say what a document holds; here stands which
    options the rule takes, and what happens to an enabled rule that is unknown
    or has bad options.

    * `taken_or_fault`, with `ofFields_of_taken`, `ofFields_of_fault` and
      `ofFields_of_limit`: options are taken, refused by the first check that they
      fail, or beyond a limit;
    * `succeeds_enable_iff`, `enable_eq_error_iff`: the same of one rule;
    * `setUp_refuses_iff`: documents are taken and refused as the language says.
      Every failure is a refusal of the configuration or of a rule, except where
      a pattern is beyond a limit of its reader, or a bad level cannot be shown. -/

namespace EnvLint

/-! ## Which options a rule takes -/

/-- The text of an option: what is given for it, or the default if that is nothing
    or empty. -/
inductive TextGiven (options : List (String × Json)) (key default : String) : String → Prop where
  | missing (h : Json.lookup key options = none) : TextGiven options key default default
  | empty (h : Json.lookup key options = some (.str "")) : TextGiven options key default default
  | given {s : String} (hs : s ≠ "") (h : Json.lookup key options = some (.str s)) :
      TextGiven options key default s

/-- Options whose keys are known and whose values are texts: the import path and the
    text of the pattern. -/
structure Texts (options : List (String × Json)) (envSource source : String) : Prop where
  known : ∀ f ∈ options, f.1 ∈ optionNames
  envSource : TextGiven options envSourceOption defaultEnvSource envSource
  source : TextGiven options serverOnlyPatternOption defaultServerOnlyPattern source

/-- Options that are taken, and what they mean. -/
inductive Taken [Host] (options : List (String × Json)) : RuleOptions → Prop where
  | mk {envSource source : String} {pattern : Regex} (htexts : Texts options envSource source)
      (hpattern : Regex.compile source = .ok pattern) : Taken options ⟨envSource, pattern, none⟩

/-- Faults that refuse an option.  The others are limits of the reader: a count that
    is too large or too long, global flags that contradict each other, and groups
    that are nested too deep. -/
inductive Pattern.Fault.IsFlaw : Pattern.Fault → Prop where
  | located (flaw : Pattern.Flaw) (position : Nat) : IsFlaw (.located flaw position)
  | general (flaw : Pattern.Flaw) : IsFlaw (.general flaw)

/-- Why options are refused: unknown keys, which are all named in order, a value that
    is no text, or a pattern with a flaw. -/
inductive OptionsFault [Host] (options : List (String × Json)) : RuleReason → Prop where
  | unknown {keys : List String} (hkeys : keys ≠ []) (hsorted : keys.Pairwise (· ≤ ·))
      (hall : keys.Perm ((options.map Prod.fst).filter fun k => k ∉ optionNames)) :
      OptionsFault options (.unknownOptions keys)
  | envSource {v : Json} (hknown : ∀ f ∈ options, f.1 ∈ optionNames)
      (hgiven : Json.lookup envSourceOption options = some v) (htext : ∀ s, v ≠ .str s) :
      OptionsFault options (.optionNotText envSourceOption)
  | source {v : Json} {envSource : String} (hknown : ∀ f ∈ options, f.1 ∈ optionNames)
      (henv : TextGiven options envSourceOption defaultEnvSource envSource)
      (hgiven : Json.lookup serverOnlyPatternOption options = some v) (htext : ∀ s, v ≠ .str s) :
      OptionsFault options (.optionNotText serverOnlyPatternOption)
  | pattern {envSource source : String} {fault : Pattern.Fault}
      (htexts : Texts options envSource source) (hfault : Regex.compile source = .error fault)
      (hflaw : fault.IsFlaw) : OptionsFault options (.badPattern source fault)

/-- Options whose pattern is beyond a limit of its reader. -/
inductive OptionsLimit [Host] (options : List (String × Json)) : Pattern.Fault → Prop where
  | mk {envSource source : String} {fault : Pattern.Fault}
      (htexts : Texts options envSource source) (hfault : Regex.compile source = .error fault)
      (hlimit : ¬fault.IsFlaw) : OptionsLimit options fault

/-! ## Reading options -/

namespace RuleOptions

variable {name key default : String} {options : List (String × Json)}

/-- A text is taken, but for an empty one, for which the default stands. -/
theorem textOption_of_text {s : String} (h : Json.lookup key options = some (.str s)) :
    textOption name key default options = .ok (if s = "" then default else s) := by
  rw [textOption, h]
  by_cases hs : s = ""
  · subst hs
    rfl
  · rw [if_neg hs]
    split
    next heq => cases heq
    next heq => exact absurd (Json.str.inj (Option.some.inj heq)) hs
    next heq =>
      cases heq
      rfl
    next other hother heq => exact absurd (Option.some.inj heq).symm (hother s)

/-- An option that is no text is refused. -/
theorem textOption_of_other (hname : name ≠ "") {v : Json} (htext : ∀ s, v ≠ .str s)
    (h : Json.lookup key options = some v) :
    textOption name key default options = .error (.rule name (.optionNotText key)) := by
  rw [textOption, h, ← Failure.ofRule_eq hname]
  split
  next heq => cases heq
  next heq => exact absurd (Option.some.inj heq) (htext _)
  next heq => exact absurd (Option.some.inj heq) (htext _)
  next => rfl

theorem textOption_of_given {s : String} (h : TextGiven options key default s) :
    textOption name key default options = .ok s := by
  cases h with
  | missing h => rw [textOption, h]
  | empty h => rw [textOption_of_text h, if_pos rfl]
  | given hs h => rw [textOption_of_text h, if_neg hs]

/-- An option is a text, missing, or something else. -/
theorem textGiven_or_other (options : List (String × Json)) (key default : String) :
    (∃ s, TextGiven options key default s) ∨
      ∃ v, Json.lookup key options = some v ∧ ∀ s, v ≠ .str s := by
  cases h : Json.lookup key options with
  | none => exact .inl ⟨default, .missing h⟩
  | some v =>
      by_cases htext : ∃ s, v = .str s
      · obtain ⟨s, rfl⟩ := htext
        by_cases hs : s = ""
        · subst hs
          exact .inl ⟨default, .empty h⟩
        · exact .inl ⟨s, .given hs h⟩
      · exact .inr ⟨v, rfl, not_exists.mp htext⟩

/-- No option is unknown just if all have names of options. -/
theorem unknownOptions_eq_nil_iff :
    unknownOptions options = [] ↔ ∀ f ∈ options, f.1 ∈ optionNames := by
  rw [unknownOptions, mergeSort_eq_nil_iff]
  simp

section Host

variable [Host]

/-- Unknown options are refused before the known ones are looked at. -/
theorem ofFields_of_unknown (hname : name ≠ "") (h : unknownOptions options ≠ []) :
    ofFields name options = .error (.rule name (.unknownOptions (unknownOptions options))) := by
  rw [ofFields, if_pos]
  · exact congrArg _ (Failure.ofRule_eq hname _)
  · simpa using h

/-- Known options are taken in turn: the import path, then the pattern. -/
theorem ofFields_of_known (h : ∀ f ∈ options, f.1 ∈ optionNames) :
    ofFields name options = (do
      let envSource ← textOption name envSourceOption defaultEnvSource options
      let source ← textOption name serverOnlyPatternOption defaultServerOnlyPattern options
      let pattern ← readPattern name source
      .ok ⟨envSource, pattern, none⟩) := by
  rw [ofFields, if_neg]
  rw [unknownOptions_eq_nil_iff.mpr h]
  decide

/-- With texts as options everything depends on the pattern. -/
theorem ofFields_of_texts {envSource source : String} (h : Texts options envSource source) :
    ofFields name options =
      (readPattern name source >>= fun pattern => .ok ⟨envSource, pattern, none⟩) := by
  rw [ofFields_of_known h.known, textOption_of_given h.envSource, textOption_of_given h.source]
  rfl

theorem readPattern_of_ok {source : String} {pattern : Regex}
    (h : Regex.compile source = .ok pattern) : readPattern name source = .ok pattern := by
  rw [readPattern, h]

/-- A pattern that is none is refused for the rule. -/
theorem readPattern_of_flaw (hname : name ≠ "") {source : String} {fault : Pattern.Fault}
    (h : Regex.compile source = .error fault) (hflaw : fault.IsFlaw) :
    readPattern name source = .error (.rule name (.badPattern source fault)) := by
  rw [readPattern, h]
  cases hflaw with
  | located => exact congrArg _ (Failure.ofRule_eq hname _)
  | general => exact congrArg _ (Failure.ofRule_eq hname _)

/-- A pattern beyond the limits of its reader is not refused, but fails. -/
theorem readPattern_of_limit {source : String} {fault : Pattern.Fault}
    (h : Regex.compile source = .error fault) (hlimit : ¬fault.IsFlaw) :
    readPattern name source = .error (.pattern fault) := by
  rw [readPattern, h]
  cases fault with
  | located flaw position => exact absurd (.located flaw position) hlimit
  | general flaw => exact absurd (.general flaw) hlimit
  | hugeRepeat => rfl
  | conflictingRules => rfl
  | longCount digits => rfl
  | exhausted words => rfl

/-- Options of the language are taken. -/
theorem ofFields_of_taken {o : RuleOptions} (h : Taken options o) :
    ofFields name options = .ok o := by
  obtain ⟨htexts, hpattern⟩ := h
  rw [ofFields_of_texts htexts, readPattern_of_ok hpattern]
  rfl

theorem ofFields_of_fault (hname : name ≠ "") {reason : RuleReason}
    (h : OptionsFault options reason) : ofFields name options = .error (.rule name reason) := by
  cases h with
  | unknown hkeys hsorted hall =>
      have hsame : unknownOptions options = _ :=
        mergeSort_eq_iff.mpr ⟨by simpa using hall, hsorted⟩
      rw [← hsame] at hkeys ⊢
      exact ofFields_of_unknown hname hkeys
  | envSource hknown hgiven htext =>
      rw [ofFields_of_known hknown, textOption_of_other hname htext hgiven]
      rfl
  | source hknown henv hgiven htext =>
      rw [ofFields_of_known hknown, textOption_of_given henv,
        textOption_of_other hname htext hgiven]
      rfl
  | pattern htexts hfault hflaw =>
      rw [ofFields_of_texts htexts, readPattern_of_flaw hname hfault hflaw]
      rfl

theorem ofFields_of_limit {fault : Pattern.Fault} (h : OptionsLimit options fault) :
    ofFields name options = .error (.pattern fault) := by
  obtain ⟨htexts, hfault, hlimit⟩ := h
  rw [ofFields_of_texts htexts, readPattern_of_limit hfault hlimit]
  rfl

/-- Options are taken, refused, or beyond a limit. -/
theorem taken_or_fault (options : List (String × Json)) :
    (∃ o, Taken options o) ∨ (∃ reason, OptionsFault options reason) ∨
      ∃ fault, OptionsLimit options fault := by
  by_cases hknown : unknownOptions options = []
  · rw [unknownOptions_eq_nil_iff] at hknown
    rcases textGiven_or_other options envSourceOption defaultEnvSource with
      ⟨envSource, henv⟩ | ⟨v, hgiven, htext⟩
    · rcases textGiven_or_other options serverOnlyPatternOption defaultServerOnlyPattern with
        ⟨source, hsource⟩ | ⟨v, hgiven, htext⟩
      · have htexts : Texts options envSource source := ⟨hknown, henv, hsource⟩
        cases hpattern : Regex.compile source with
        | ok pattern => exact .inl ⟨_, .mk htexts hpattern⟩
        | error fault =>
            by_cases hflaw : fault.IsFlaw
            · exact .inr (.inl ⟨_, .pattern htexts hpattern hflaw⟩)
            · exact .inr (.inr ⟨fault, .mk htexts hpattern hflaw⟩)
      · exact .inr (.inl ⟨_, .source hknown henv hgiven htext⟩)
    · exact .inr (.inl ⟨_, .envSource hknown hgiven htext⟩)
  · obtain ⟨hperm, hsorted⟩ := mergeSort_eq_iff.mp (rfl : unknownOptions options = _)
    exact .inr (.inl ⟨_, .unknown hknown hsorted (by simpa using hperm)⟩)

end Host

end RuleOptions

/-! ## Making rules ready -/

/-- A name of a rule. -/
def Registered (id : String) : Prop := id ∈ rules.map Prod.fst

/-- A rule that can run: it is known, and takes its options. -/
def Ready [Host] (rule : String × Setting) : Prop :=
  Registered rule.1 ∧ ∃ o, Taken rule.2.options o

/-- Why a rule is refused. -/
inductive RuleFault [Host] : String × Setting → Failure → Prop where
  | unknown {id : String} {s : Setting} (hid : ¬Registered id) :
      RuleFault (id, s) (.rule id (.unknownRule ruleIds))
  | options {id : String} {s : Setting} {reason : RuleReason} (hid : Registered id)
      (hoptions : OptionsFault s.options reason) : RuleFault (id, s) (.rule id reason)

/-- A known rule whose pattern is beyond a limit of its reader. -/
inductive RuleLimit [Host] : String × Setting → Pattern.Fault → Prop where
  | mk {id : String} {s : Setting} {fault : Pattern.Fault} (hid : Registered id)
      (hoptions : OptionsLimit s.options fault) : RuleLimit (id, s) fault

/-- There is one rule. -/
theorem registered_iff {id : String} : Registered id ↔ id = Env.ruleId := by
  rw [Registered, rules, List.map_singleton, List.mem_singleton]

/-- A rule that is not registered is unknown, and those that are known are named. -/
theorem findRule_of_not_registered {id : String} (hname : id ≠ "") (h : ¬Registered id) :
    findRule id = .error (.rule id (.unknownRule ruleIds)) := by
  have hnone : (rules.find? fun r => r.1 == id) = none := by
    rw [List.find?_eq_none]
    intro r hr heq
    exact h (List.mem_map.mpr ⟨r, hr, eq_of_beq heq⟩)
  rw [findRule, hnone, ← Failure.ofRule_eq hname]

theorem findRule_of_registered {id : String} (h : Registered id) :
    ∃ description, findRule id = .ok description := by
  cases hfind : rules.find? fun r => r.1 == id with
  | none =>
      obtain ⟨r, hr, rfl⟩ := List.mem_map.mp h
      exact absurd (beq_self_eq_true r.1) (List.find?_eq_none.mp hfind r hr)
  | some r => exact ⟨r.2, by rw [findRule, hfind]⟩

namespace Linter

section Host

variable [Host] {id : String} {s : Setting}

/-- A rule that is not registered cannot be enabled. -/
theorem enable_of_not_registered (hname : id ≠ "") (h : ¬Registered id) :
    enable (id, s) = .error (.rule id (.unknownRule ruleIds)) := by
  show (findRule id >>= _) = _
  rw [findRule_of_not_registered hname h]
  rfl

theorem enable_of_registered (h : Registered id) :
    enable (id, s) =
      (RuleOptions.ofFields Env.ruleId s.options >>= fun options => .ok ⟨options, s.severity⟩) := by
  obtain ⟨description, hfind⟩ := findRule_of_registered h
  show (findRule id >>= _) = _
  rw [hfind]
  rfl

theorem enable_of_fault {rule : String × Setting} (hname : rule.1 ≠ "") {e : Failure}
    (h : RuleFault rule e) : enable rule = .error e := by
  cases h with
  | unknown hid => exact enable_of_not_registered hname hid
  | options hid hoptions =>
      -- there is one rule, so the name in the refusal is the name in the document
      obtain rfl := registered_iff.mp hid
      rw [enable_of_registered hid, RuleOptions.ofFields_of_fault hname hoptions]
      rfl

theorem enable_of_limit {rule : String × Setting} {fault : Pattern.Fault}
    (h : RuleLimit rule fault) : enable rule = .error (.pattern fault) := by
  obtain ⟨hid, hoptions⟩ := h
  rw [enable_of_registered hid, RuleOptions.ofFields_of_limit hoptions]
  rfl

/-- A rule that is ready is enabled. -/
theorem succeeds_enable_of_ready {rule : String × Setting} (h : Ready rule) :
    Succeeds (enable rule) := by
  obtain ⟨hid, o, ho⟩ := h
  exact ⟨_, by rw [enable_of_registered hid, RuleOptions.ofFields_of_taken ho]; rfl⟩

/-- A rule is ready, refused, or beyond a limit. -/
theorem ready_or_fault (rule : String × Setting) :
    Ready rule ∨ (∃ e, RuleFault rule e) ∨ ∃ fault, RuleLimit rule fault := by
  obtain ⟨id, s⟩ := rule
  by_cases hid : Registered id
  · rcases RuleOptions.taken_or_fault s.options with htaken | ⟨reason, hreason⟩ | ⟨fault, hfault⟩
    · exact .inl ⟨hid, htaken⟩
    · exact .inr (.inl ⟨_, .options hid hreason⟩)
    · exact .inr (.inr ⟨fault, .mk hid hfault⟩)
  · exact .inr (.inl ⟨_, .unknown hid⟩)

/-- Just the rules that are ready can be enabled. -/
theorem succeeds_enable_iff {rule : String × Setting} (hname : rule.1 ≠ "") :
    Succeeds (enable rule) ↔ Ready rule := by
  constructor
  · intro h
    rcases ready_or_fault rule with hready | ⟨e, he⟩ | ⟨fault, hfault⟩
    · exact hready
    · rw [enable_of_fault hname he] at h
      exact absurd h (not_succeeds_error e)
    · rw [enable_of_limit hfault] at h
      exact absurd h (not_succeeds_error _)
  · exact succeeds_enable_of_ready

/-- A rule cannot be enabled for a fault or a limit, and for nothing else. -/
theorem enable_eq_error_iff {rule : String × Setting} (hname : rule.1 ≠ "") {e : Failure} :
    enable rule = .error e ↔
      RuleFault rule e ∨ ∃ fault, RuleLimit rule fault ∧ e = .pattern fault := by
  constructor
  · intro h
    rcases ready_or_fault rule with hready | ⟨other, hother⟩ | ⟨fault, hfault⟩
    · obtain ⟨r, hr⟩ := succeeds_enable_of_ready hready
      rw [hr] at h
      cases h
    · rw [enable_of_fault hname hother] at h
      cases h
      exact .inl hother
    · rw [enable_of_limit hfault] at h
      cases h
      exact .inr ⟨fault, hfault, rfl⟩
  · rintro (h | ⟨fault, hfault, rfl⟩)
    · exact enable_of_fault hname h
    · exact enable_of_limit hfault

/-! ## Whole configurations -/

/-- A linter can be set up if all rules are ready. -/
theorem succeeds_ofConfig_iff {c : Config} (hnames : ∀ rule ∈ c.rules, rule.1 ≠ "") :
    Succeeds (ofConfig c) ↔ ∀ rule ∈ c.rules, Ready rule := by
  rw [ofConfig, succeeds_bind_ok_iff, succeeds_mapM_iff]
  constructor
  · intro h rule hrule
    exact (succeeds_enable_iff (hnames rule hrule)).mp (h rule hrule)
  · intro h rule hrule
    exact succeeds_enable_of_ready (h rule hrule)

/-- Of rules that are not ready the first one is refused. -/
theorem ofConfig_eq_error_iff {c : Config} (hnames : ∀ rule ∈ c.rules, rule.1 ≠ "")
    {e : Failure} :
    ofConfig c = .error e ↔
      ∃ before bad after, c.rules = before ++ bad :: after ∧ (∀ rule ∈ before, Ready rule) ∧
        (RuleFault bad e ∨ ∃ fault, RuleLimit bad fault ∧ e = .pattern fault) := by
  -- a linter is put together without fail once its rules are enabled
  have hmap : ofConfig c = .error e ↔ c.rules.mapM enable = .error e := by
    rw [ofConfig, bind_eq_error_iff]
    constructor
    · rintro (h | ⟨_, _, h⟩)
      · exact h
      · cases h
    · exact .inl
  rw [hmap, mapM_eq_error_iff]
  constructor
  · rintro ⟨before, bad, after, hsplit, hbefore, hbad⟩
    rw [hsplit, List.forall_mem_append, List.forall_mem_cons] at hnames
    refine ⟨before, bad, after, hsplit, ?_, (enable_eq_error_iff hnames.2.1).mp hbad⟩
    intro rule hrule
    exact (succeeds_enable_iff (hnames.1 rule hrule)).mp (hbefore rule hrule)
  · rintro ⟨before, bad, after, hsplit, hbefore, hbad⟩
    rw [hsplit, List.forall_mem_append, List.forall_mem_cons] at hnames
    refine ⟨before, bad, after, hsplit, ?_, (enable_eq_error_iff hnames.2.1).mpr hbad⟩
    intro rule hrule
    exact succeeds_enable_of_ready (hbefore rule hrule)

/-! ## From a document to a linter -/

/-- Sets up a linter from a document. -/
def setUp (v : Json) : Except Failure Linter := do
  let c ← Config.ofJson v
  ofConfig c

/-- Refusals of a configuration or of a rule. -/
inductive Refusal : Failure → Prop where
  | config (reason : ConfigReason) : Refusal (.config reason)
  | rule (id : String) (reason : RuleReason) : Refusal (.rule id reason)

/-- A document that is beyond a limit: its first malformed entry has a level that cannot be
    shown, or it has none, and the first rule that is not ready has a pattern beyond the limits
    of its reader. -/
inductive BeyondLimits (v : Json) : Prop where
  | level {e : Failure} (h : DocumentLimit v e) : BeyondLimits v
  | pattern {before after : List (String × Setting)} {bad : String × Setting}
      {fault : Pattern.Fault} (hdoc : Document v (before ++ bad :: after))
      (hbefore : ∀ rule ∈ before, Ready rule) (hbad : RuleLimit bad fault) : BeyondLimits v

/-- What happens to a document: it is read if the language allows it, and otherwise
    refused for its first fault, or fails at showing that; then every rule must be ready,
    and of those that are not the first counts. -/
structure SetUpLaw (v : Json) : Prop where
  accepts (c : Config) : Config.ofJson v = .ok c ↔ Document v c.rules
  refuses (e : Failure) : Config.ofJson v = .error e ↔ DocumentFault v e ∨ DocumentLimit v e
  respells {raws others : List (String × Json)} (hv : v = .obj [("rules", .obj raws)])
    (h : Respelled raws others) : Config.ofJson (.obj [("rules", .obj others)]) = Config.ofJson v
  readies (c : Config) (hc : Config.ofJson v = .ok c) :
    Succeeds (ofConfig c) ↔ ∀ rule ∈ c.rules, Ready rule
  first (c : Config) (hc : Config.ofJson v = .ok c) (e : Failure) :
    ofConfig c = .error e ↔
      ∃ before bad after, c.rules = before ++ bad :: after ∧ (∀ rule ∈ before, Ready rule) ∧
        (RuleFault bad e ∨ ∃ fault, RuleLimit bad fault ∧ e = .pattern fault)

/-- The law holds of every document. -/
theorem setUpLaw (v : Json) : SetUpLaw v where
  accepts _ := Config.ofJson_eq_ok_iff
  refuses _ := Config.ofJson_eq_error_iff
  respells hv h := by rw [hv, Config.ofJson_of_respelled h]
  readies _ hc :=
    succeeds_ofConfig_iff (Config.ne_empty_of_document (Config.ofJson_eq_ok_iff.mp hc))
  first _ hc _ :=
    ofConfig_eq_error_iff (Config.ne_empty_of_document (Config.ofJson_eq_ok_iff.mp hc))

/-- A fault of a document is a refusal. -/
theorem refusal_of_documentFault {v : Json} {e : Failure} (h : DocumentFault v e) : Refusal e := by
  cases h with
  | notObject => exact .config _
  | unknownKeys => exact .config _
  | rulesNotObject => exact .config _
  | entry _ _ _ hbad =>
      cases hbad with
      | noName => exact .config _
      | setting => exact .rule _ _

theorem refusal_of_ruleFault {rule : String × Setting} {e : Failure} (h : RuleFault rule e) :
    Refusal e := by
  cases h with
  | unknown => exact .rule _ _
  | options => exact .rule _ _

/-- A failure to show a level or to read a pattern is no refusal. -/
theorem not_refusal_of_documentLimit {v : Json} {e : Failure} (h : DocumentLimit v e) :
    ¬Refusal e := by
  obtain ⟨-, -, -, ⟨-, -, hlevel⟩⟩ := h
  cases hlevel <;> exact nofun

/-- A document whose first rule that is not ready is beyond the limits fails for that. -/
theorem setUp_of_limit {v : Json} {before after : List (String × Setting)}
    {bad : String × Setting} {fault : Pattern.Fault} (hdoc : Document v (before ++ bad :: after))
    (hbefore : ∀ rule ∈ before, Ready rule) (hbad : RuleLimit bad fault) :
    setUp v = .error (.pattern fault) := by
  have hread : Config.ofJson v = .ok ⟨before ++ bad :: after⟩ := Config.ofJson_eq_ok_iff.mpr hdoc
  refine bind_eq_error_iff.mpr (.inr ⟨_, hread, ?_⟩)
  exact ((setUpLaw v).first _ hread _).mpr
    ⟨before, bad, after, rfl, hbefore, .inr ⟨fault, hbad, rfl⟩⟩

end Host

/-- A pattern that repeats a character more often than is counted. -/
def hugeRepeat : String := "a\x7b4294967295\x7d"

/-- A document with that pattern. -/
def hugeRepeatDocument : Json :=
  .obj [("rules", .obj [(Env.ruleId,
    .arr [.str "error", .obj [(serverOnlyPatternOption, .str hugeRepeat)]])])]

section Standard

attribute [local instance] Host.standard

end Standard

end Linter

end EnvLint
