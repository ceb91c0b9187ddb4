import EnvLint.Proofs.Lint.SetUp
import EnvLint.Proofs.Pattern.Words

/-! # Which names are server-only

    Without a pattern of its own the rule takes every name for server-only that
    does not start with the public mark, line breaks in the name or not.  A
    pattern that is a word picks the names that it occurs in, and an anchored
    one those that start with it (`isServerOnly_classifies`). -/

namespace EnvLint

open Pattern

/-- What public names start with. -/
def publicMark : String := "NEXT_PUBLIC_"

/-- What the default pattern is read as. -/
def defaultNode : Node :=
  .ofItems [.anchor .start, .look false true (.ofItems (publicMark.toList.map literal)),
    .rep .greedy 0 none .any]

section Host

variable [Host]

/-- The default pattern is read as the node that is searched for here. -/
theorem read_default : read defaultServerOnlyPattern.toList = .ok ⟨defaultNode, .plain⟩ := by
  rfl

end Host

namespace Regex

/-- The default pattern is found in the texts that do not start with the public mark:
    the anchor keeps a search from passing over the mark, and the loop behind the
    look ahead never fails. -/
theorem compile_default [Host] :
    ∃ r, compile defaultServerOnlyPattern = .ok r ∧
      ∀ name, r.search name = true ↔ ¬publicMark.toList <+: name.toList := by
  refine ⟨⟨defaultServerOnlyPattern, defaultNode, .plain⟩, ?_, ?_⟩
  · rw [compile_of_flat (by decide), read_default]
    rfl
  · intro name
    rw [search_eq (lead?_of_first rfl rfl), defaultNode, matcher_ofItems_cons,
      matcher_ofItems_cons]
    show ((Matcher.anchor .plain .start).cat
      (((Node.ofItems (publicMark.toList.map literal)).matcher .plain).notAhead.cat _)).findFrom
        _ [] name.toList = true ↔ _
    rw [findFrom_anchored_iff (fun _ => rfl), isSome_notAhead, Bool.eq_false_iff, ne_eq,
      isSome_word]
    constructor
    · intro h
      exact h.1
    · intro h
      exact ⟨h, isSome_loop _ _ _⟩

end Regex

namespace RuleOptions

/-- Options that are fine but for the pattern: all keys are known, and the import
    path is a text if one is given. -/
structure Fits (options : List (String × Json)) : Prop where
  known : ∀ f ∈ options, f.1 ∈ optionNames
  path : ∃ envSource, TextGiven options envSourceOption defaultEnvSource envSource

/-- An option that is no text is refused. -/
theorem not_succeeds_textOption {ruleName key default : String} {options : List (String × Json)}
    {v : Json} (htext : ∀ s, v ≠ .str s)
    (h : Json.lookup key options = some v) :
    ¬Succeeds (textOption ruleName key default options) := by
  rintro ⟨s, hs⟩
  rw [textOption, h] at hs
  split at hs
  next heq => cases heq
  next heq => exact htext _ (Option.some.inj heq)
  next heq => exact htext _ (Option.some.inj heq)
  next => cases hs

section Host

variable [Host] {ruleName : String} {options : List (String × Json)}

/-- Options are taken if they fit, and the server-only names are then those with a
    property. -/
def Classifies (ruleName : String) (options : List (String × Json)) (P : String → Prop) : Prop :=
  (Succeeds (ofJson ruleName (.obj options)) ↔ Fits options) ∧
    ∀ o, ofJson ruleName (.obj options) = .ok o →
      ∀ name, o.isServerOnly name = true ↔ P name

/-- Options that are taken fit. -/
theorem fits_of_ofFields {o : RuleOptions} (h : ofFields ruleName options = .ok o) :
    Fits options := by
  have hknown : unknownOptions options = [] := by
    cases hunknown : unknownOptions options with
    | nil => rfl
    | cons key keys =>
        rw [ofFields, hunknown] at h
        cases h
  rw [unknownOptions_eq_nil_iff] at hknown
  rw [ofFields_of_known hknown] at h
  obtain ⟨envSource, henv, -⟩ := bind_eq_ok_iff.mp h
  rcases textGiven_or_other options envSourceOption defaultEnvSource with
    hgiven | ⟨v, hgiven, htext⟩
  · exact ⟨hknown, hgiven⟩
  · exact absurd ⟨envSource, henv⟩ (not_succeeds_textOption htext hgiven)

/-- The pattern of options that fit decides which names are server-only. -/
theorem classifies_of_compile {source : String} {P : String → Prop}
    (hsource : TextGiven options serverOnlyPatternOption defaultServerOnlyPattern source)
    (hpattern : ∃ r, Regex.compile source = .ok r ∧ ∀ name, r.search name = true ↔ P name) :
    Classifies ruleName options P := by
  obtain ⟨r, hr, hsearch⟩ := hpattern
  have htaken (hfits : Fits options) :
      ∃ envSource, ofFields ruleName options = .ok ⟨envSource, r, none⟩ := by
    obtain ⟨envSource, henv⟩ := hfits.path
    exact ⟨envSource, ofFields_of_taken (.mk ⟨hfits.known, henv, hsource⟩ hr)⟩
  refine ⟨⟨?_, ?_⟩, ?_⟩
  · rintro ⟨o, ho⟩
    exact fits_of_ofFields ho
  · intro hfits
    obtain ⟨envSource, hok⟩ := htaken hfits
    exact ⟨_, hok⟩
  · intro o ho name
    obtain ⟨envSource, hok⟩ := htaken (fits_of_ofFields ho)
    have hsame : Except.ok o = Except.ok _ := ho.symm.trans hok
    cases hsame
    exact hsearch name

/-- **Classification of names.**  Options without a pattern, or with an empty one, take
    every name for server-only that does not start with the public mark.  A word as
    the pattern picks the names that it occurs in, and an anchored one the names that
    start with it.  No options at all are options without fields. -/
theorem isServerOnly_classifies (ruleName : String) (options : List (String × Json)) :
    ofJson ruleName .null = ofJson ruleName (.obj []) ∧
    (Json.lookup serverOnlyPatternOption options = none ∨
        Json.lookup serverOnlyPatternOption options = some (.str "") →
      Classifies ruleName options fun name => ¬publicMark.toList <+: name.toList) ∧
    ∀ w : String, w ≠ "" → IsWord w.toList →
      (Json.lookup serverOnlyPatternOption options = some (.str w) →
        Classifies ruleName options fun name => w.toList <:+: name.toList) ∧
      (Json.lookup serverOnlyPatternOption options = some (.str ("^" ++ w)) →
        Classifies ruleName options fun name => w.toList <+: name.toList) := by
  refine ⟨rfl, ?_, ?_⟩
  · rintro (hmissing | hempty)
    · exact classifies_of_compile (.missing hmissing) Regex.compile_default
    · exact classifies_of_compile (.empty hempty) Regex.compile_default
  · intro w hne hw
    refine ⟨?_, ?_⟩
    · intro hgiven
      exact classifies_of_compile (.given hne hgiven) (Regex.compile_word hw)
    · intro hgiven
      have hcaret : "^" ++ w ≠ "" := by
        intro h
        have hlength := congrArg String.length h
        rw [String.length_append] at hlength
        have hone : "^".length = 1 := rfl
        have hempty : "".length = 0 := rfl
        omega
      exact classifies_of_compile (.given hcaret hgiven) (Regex.compile_anchored hw)

end Host

section Standard

attribute [local instance] Host.standard

theorem isWord_secret : IsWord "SECRET".toList := fun c hc =>
  .inl (List.all_eq_true.mp (by decide : "SECRET".toList.all Char.isAlphanum = true) c hc)

theorem fits_pattern (source : String) : Fits [(serverOnlyPatternOption, .str source)] :=
  ⟨List.forall_mem_singleton.mpr (by simp [optionNames]), defaultEnvSource, .missing rfl⟩

/-- By default `NEXT_PUBLIC_URL` is the public one of two names; the word `SECRET` picks both
    names that it occurs in, and anchored only the one that starts with it. -/
theorem isServerOnly_classifies_secret :
    (∃ o, ofJson Env.ruleId (.obj []) = .ok o ∧
      o.isServerOnly "DATABASE_URL" = true ∧ o.isServerOnly "NEXT_PUBLIC_URL" = false) ∧
    (∃ o, ofJson Env.ruleId (.obj [(serverOnlyPatternOption, .str "SECRET")]) = .ok o ∧
      o.isServerOnly "SECRET_KEY" = true ∧ o.isServerOnly "MY_SECRET" = true) ∧
    ∃ o, ofJson Env.ruleId (.obj [(serverOnlyPatternOption, .str "^SECRET")]) = .ok o ∧
      o.isServerOnly "SECRET_KEY" = true ∧ o.isServerOnly "MY_SECRET" = false := by
  refine ⟨?_, ?_, ?_⟩
  · obtain ⟨htaken, hpicks⟩ := (isServerOnly_classifies Env.ruleId []).2.1 (.inl rfl)
    obtain ⟨o, ho⟩ := htaken.mpr ⟨List.forall_mem_nil _, defaultEnvSource, .missing rfl⟩
    refine ⟨o, ho, (hpicks o ho _).mpr ?_, Bool.eq_false_iff.mpr fun h => ?_⟩
    · decide
    · exact absurd ((hpicks o ho _).mp h) (by decide)
  · obtain ⟨htaken, hpicks⟩ :=
      ((isServerOnly_classifies Env.ruleId [(serverOnlyPatternOption, .str "SECRET")]).2.2
        "SECRET" (by decide) isWord_secret).1 rfl
    obtain ⟨o, ho⟩ := htaken.mpr (fits_pattern "SECRET")
    exact ⟨o, ho, (hpicks o ho _).mpr ⟨[], "_KEY".toList, rfl⟩,
      (hpicks o ho _).mpr ⟨"MY_".toList, [], rfl⟩⟩
  · obtain ⟨htaken, hpicks⟩ :=
      ((isServerOnly_classifies Env.ruleId [(serverOnlyPatternOption, .str "^SECRET")]).2.2
        "SECRET" (by decide) isWord_secret).2 rfl
    obtain ⟨o, ho⟩ := htaken.mpr (fits_pattern "^SECRET")
    refine ⟨o, ho, (hpicks o ho _).mpr ⟨"_KEY".toList, rfl⟩, Bool.eq_false_iff.mpr fun h => ?_⟩
    exact absurd ((hpicks o ho _).mp h) (by decide)

end Standard

end RuleOptions

end EnvLint
