import EnvLint.Lint.Program
import EnvLint.Lint.Result
import EnvLint.Proofs.Outcome
import EnvLint.Rule.Meta
import EnvLint.Tree.Children

/-! # What a failure tells

    A failure belongs to classes, by which a caller tells what to do with it, and
    it may be about a file, a place or a rule.

    * `isOwn_iff`, `isExpected_iff`: the command ends with the message of a failure
      if that belongs to the class of the program, or says that a file is missing;
    * `message_eq_of_reason`: a failure with a reason says what it is about, and
      then the reason;
    * what refuses diagnostics where none may be, options of a rule that takes
      none, or a value that is no node, refuses nothing else, and its failure
      tells of it. -/

namespace EnvLint

namespace Failure

/-! ## Classes -/

/-- A failure belongs to its own class first. -/
theorem head?_ancestry (failure : Failure) : failure.ancestry.head? = some failure.className := by
  cases failure with
  | _ => rfl

theorem misuse_className (m : Misuse) : m.className = "TypeError" ∨ m.className = "ValueError" := by
  fun_cases Misuse.className m with
  | case1 | case2 | case3 | case4 | case5 | case6 | case7 | case8 => exact Or.inl rfl
  | _ => exact Or.inr rfl

/-- No failure has the class of the program as its own. -/
theorem className_ne_ownClass (failure : Failure) : failure.className ≠ ownClass := by
  fun_cases className failure with
  | case20 m =>
      rcases misuse_className m with hclass | hclass
      · simp [hclass, ownClass]
      · simp [hclass, ownClass]
  | _ => simp [ownClass]

/-- One failure says that a file is missing. -/
theorem className_eq_missing_iff (failure : Failure) :
    failure.className = "FileNotFoundError" ↔ ∃ path, failure = .missingPath path := by
  fun_cases className failure with
  | case20 m =>
      rcases misuse_className m with hclass | hclass
      · simp [hclass]
      · simp [hclass]
  | _ => simp

/-- The failures of what is checked and of the setup are those that belong to the class of
    the program. -/
theorem isOwn_iff (failure : Failure) : failure.isOwn = true ↔ ownClass ∈ failure.ancestry := by
  fun_cases ancestry failure with
  | case6 failure htree hrule hload hconfig hviolations =>
      have hother : failure.isOwn = false := by
        cases failure with
        | load path reason => exact absurd rfl (hload path reason)
        | tree path place reason => exact absurd rfl (htree path place reason)
        | config reason => exact absurd rfl (hconfig reason)
        | rule name reason => exact absurd rfl (hrule name reason)
        | violations found => exact absurd rfl (hviolations found)
        | _ => rfl
      simp [hother, (className_ne_ownClass failure).symm]
  | _ => simp [isOwn]

/-- **What the command expects**: a failure of the program, or a missing file. -/
theorem isExpected_iff (failure : Failure) :
    failure.isExpected = true ↔
      ownClass ∈ failure.ancestry ∨ failure.className = "FileNotFoundError" := by
  rw [← isOwn_iff, className_eq_missing_iff]
  fun_cases isExpected failure with
  | case1 path => simp
  | case2 failure hmissing =>
      constructor
      · exact Or.inl
      · rintro (hown | ⟨path, rfl⟩)
        · exact hown
        · exact absurd rfl (hmissing path)

/-! ## Messages -/

/-- What a failure with a reason says that it is about. -/
def subject (failure : Failure) : String :=
  match failure.path?, failure.ruleName? with
  | some path, _ => "Failed to load " ++ path.text
  | none, some name => "Invalid rule '" ++ name ++ "'"
  | none, none => "Invalid configuration"

/-- **A failure with a reason** says what it is about, and then the reason. -/
theorem message_eq_of_reason {failure : Failure} {reason : String}
    (h : failure.reason? = some reason) : failure.message = failure.subject ++ ": " ++ reason := by
  cases failure with
  | load path loadReason =>
      cases h
      rfl
  | tree path place treeReason =>
      cases h
      show "Failed to load " ++ path.text ++ ": " ++ treeReason.message ++ " at " ++ place.text
        = "Failed to load " ++ path.text ++ ": " ++ (treeReason.message ++ " at " ++ place.text)
      simp only [String.append_assoc]
  | config configReason =>
      cases h
      rfl
  | rule name ruleReason =>
      cases h
      have hquote : "': " = "'" ++ ": " := rfl
      show "Invalid rule '" ++ name ++ "': " ++ ruleReason.message
        = "Invalid rule '" ++ name ++ "'" ++ ": " ++ ruleReason.message
      simp only [hquote, String.append_assoc]
  | _ => cases h

/-- A place stands in the reason of the failure, which is about a file. -/
theorem reason_of_place {failure : Failure} {place : Location} (h : failure.place? = some place) :
    ∃ path words, failure.path? = some path ∧
      failure.reason? = some (words ++ " at " ++ place.text) := by
  cases failure with
  | tree path place reason =>
      cases h
      exact ⟨path, reason.message, rfl, rfl⟩
  | _ => cases h

/-- What is said in words to be wrong with a file is the reason of the failure. -/
theorem reason_of_statedLoad {path : Option Path} {words : String} {failure : Failure}
    (h : statedLoad path words = .ok failure) :
    failure.path? = path ∧ failure.reason? = some words ∧ words ≠ "" := by
  cases path with
  | none => cases h
  | some path =>
      rw [statedLoad] at h
      split at h
      · cases h
      · rename_i hwords
        cases h
        exact ⟨rfl, rfl, hwords⟩

/-- What is said in words to be wrong with a tree stands in the reason, before the place. -/
theorem reason_of_statedTree {path : Option Path} {place : Option Location} {words : String}
    {failure : Failure} (h : statedTree path place words = .ok failure) :
    failure.path? = path ∧ failure.place? = place ∧
      failure.reason? = place.map fun l => words ++ " at " ++ l.text := by
  cases place with
  | none => cases h
  | some place =>
      cases path with
      | none => cases h
      | some path =>
          cases h
          exact ⟨rfl, rfl, rfl⟩

/-- What is said in words to be wrong with a configuration is the reason of the failure. -/
theorem reason_of_statedConfig {words : String} {failure : Failure}
    (h : statedConfig words = .ok failure) : failure.reason? = some words ∧ words ≠ "" := by
  rw [statedConfig] at h
  split at h
  · cases h
  · rename_i hwords
    cases h
    exact ⟨rfl, hwords⟩

/-- What is said in words to be wrong with a rule is the reason of the failure. -/
theorem reason_of_statedRule {name words : String} {failure : Failure}
    (h : statedRule name words = .ok failure) :
    failure.ruleName? = some name ∧ failure.reason? = some words ∧ words ≠ "" := by
  rw [statedRule] at h
  split at h
  · cases h
  · split at h
    · cases h
    · rename_i hwords
      cases h
      exact ⟨rfl, rfl, hwords⟩

end Failure

/-! ## Refusals -/

/-- Diagnostics are refused as violations where none may be, if there are any. -/
theorem assertClean_eq_error_iff {found : List Diagnostic} {failure : Failure} :
    assertClean found = .error failure ↔ Failure.ofViolations found = .ok failure := by
  rw [assertClean, Failure.ofViolations]
  split
  · simp
  · simp

/-- Only a file without diagnostics passes, warnings included. -/
theorem succeeds_assertClean_iff {f : FileResult} :
    Succeeds (assertClean f.diagnostics) ↔ f.clean = true := by
  rw [assertClean, FileResult.clean]
  split
  · rename_i hclean
    exact iff_of_true (succeeds_ok ()) hclean
  · rename_i hdirty
    exact iff_of_false (not_succeeds_error _) hdirty

/-- A rule that takes no options refuses those that are not empty, and a checked description
    gives it a name to say so. -/
theorem noOptions_eq_error_iff {m : Meta} (hcheck : m.check = .ok m) {options : Json}
    {failure : Failure} :
    m.noOptions options = .error failure ↔
      options.truthy = true ∧ failure = .rule m.ruleId .takesNoOptions := by
  have hname : m.ruleId ≠ "" := by
    intro hempty
    rw [Meta.check, if_pos hempty] at hcheck
    cases hcheck
  rw [Meta.noOptions, Failure.ofRule, if_neg hname]
  split
  · rename_i htruthy
    rw [Except.error.injEq, eq_comm, and_iff_right htruthy]
  · rename_i hfalsy
    exact iff_of_false nofun fun h => hfalsy h.1

namespace Tree

/-- The children of a value can be read if it is a node. -/
theorem readChildren_eq_ok_iff {v : Json} {cs : List Json} :
    readChildren v = .ok cs ↔ isNode v = true ∧ cs = children v := by
  rw [readChildren, typeOf, isNode]
  cases typeOf? v with
  | none => simp [Except.map]
  | some name => simp [Except.map, eq_comm]

/-- The children of a node stand under the keys that can be read of it. -/
theorem readChildren_eq_map (v : Json) :
    readChildren v = (readChildKeys v).map fun keys => keys.flatMap (nodesUnder v) := by
  rw [readChildren, readChildKeys]
  cases typeOf v with
  | error fault => rfl
  | ok name => rfl

end Tree

namespace Program

/-- A document is refused, for a reason, at the path that it is read from. -/
def Refused (p : Path) (outcome : Except Failure Json) : Prop :=
  ∃ reason, outcome = .error (.load p reason)

/-- A value is accepted or refused for the path. -/
theorem accept_cases (p : Path) (v : Json) : accept p v = .ok v ∨ Refused p (accept p v) := by
  rw [accept]
  split
  · exact .inl rfl
  · refine .inr ?_
    split
    · split
      · exact ⟨_, rfl⟩
      · exact ⟨_, rfl⟩
    · exact ⟨_, rfl⟩

/-- A value is accepted for every path or for none. -/
theorem accept_eq_ok_iff {path : Path} {v w : Json} :
    accept path v = .ok w ↔ isProgram v = true ∧ v = w := by
  rw [accept]
  split
  · rename_i hprogram
    simp [hprogram]
  · rename_i hother
    refine iff_of_false ?_ fun h => hother h.1
    split
    · split
      · exact nofun
      · exact nofun
    · exact nofun

/-- What a text holds does not depend on the file that it is said to come from. -/
theorem ofText_eq_ok_iff [Host] {text : String} {path : Path} {w : Json} :
    ofText text path = .ok w ↔
      Failure.checkStack (.decode 0 text.toList) = .ok () ∧
        Json.decode text = .ok w ∧ isProgram w = true := by
  rw [ofText, ofTextBelow, bind_eq_ok_iff]
  constructor
  · rintro ⟨_, hstack, h⟩
    refine ⟨hstack, ?_⟩
    cases hdecode : Json.decode text with
    | error e =>
        rw [hdecode] at h
        cases h
    | ok v =>
        rw [hdecode] at h
        obtain ⟨hprogram, rfl⟩ := accept_eq_ok_iff.mp h
        exact ⟨rfl, hprogram⟩
  · rintro ⟨hstack, hdecode, hprogram⟩
    refine ⟨(), hstack, ?_⟩
    rw [hdecode]
    exact accept_eq_ok_iff.mpr ⟨hprogram, rfl⟩

/-- A text without a file of its own is a program if it is one in any file. -/
theorem ofTextAt_eq_ok_iff [Host] {text : String} {w : Json} (file : Option Path)
    (path : Path) : ofTextAt text file = .ok w ↔ ofText text path = .ok w := by
  rw [ofText_eq_ok_iff]
  cases file with
  | some file => exact ofText_eq_ok_iff
  | none =>
      have hhere : ofText text .here = .ok w ↔ _ := ofText_eq_ok_iff
      rw [ofTextAt, ← hhere]
      split
      · rename_i hrefused
        rw [hrefused]
        exact iff_of_false nofun nofun
      · rfl

end Program

end EnvLint
