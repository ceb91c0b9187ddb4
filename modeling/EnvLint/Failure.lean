import EnvLint.File.Glob
import EnvLint.File.Read
import EnvLint.Json.Decode
import EnvLint.Lint.Diagnostic
import EnvLint.Pattern.Fault
import EnvLint.Report.Markup
import EnvLint.Tree.Node

/-! # Failures

    Every way in which an operation can fail, by its cause.  The first five are
    failures of what is checked or of how the checker was set up, and a run ends
    with a message; the others are wrong uses of an operation or faults that no
    run expects. -/

namespace EnvLint

/-- Why a document cannot be loaded. -/
inductive LoadReason where
  /-- There is no such file. -/
  | notFound
  /-- The path leads to a directory. -/
  | directory
  /-- The file is no UTF-8. -/
  | encoding (fault : Utf8.Fault)
  /-- The text is no JSON. -/
  | json (error : Json.DecodeError)
  /-- The file may not be read. -/
  | denied
  /-- The root is a node of another type. -/
  | otherRoot (type : String)
  /-- The root is no program. -/
  | noProgram
  /-- A reason in words. -/
  | stated (words : String)
deriving DecidableEq, Repr

/-- Why a tree is malformed. -/
inductive TreeReason where
  /-- A node, given by its type, has no position. -/
  | unplaced (type : String)
  /-- A reason in words. -/
  | stated (words : String)
deriving DecidableEq, Repr

/-- Why a configuration is refused. -/
inductive ConfigReason where
  /-- The configuration is no object. -/
  | notObject
  /-- It has keys that mean nothing. -/
  | unknownKeys (keys : List String)
  /-- Its rules are no object. -/
  | rulesNotObject
  /-- A rule has no name. -/
  | emptyRuleId
  /-- Its file cannot be opened. -/
  | unreadable (path : Path) (fault : OpenFault)
  /-- Its file is no UTF-8. -/
  | encoding (path : Path) (fault : Utf8.Fault)
  /-- Its file is no JSON. -/
  | json (path : Path) (error : Json.DecodeError)
  /-- A reason in words. -/
  | stated (words : String)
deriving DecidableEq, Repr

/-- Why a rule, its setting or its options are refused. -/
inductive RuleReason where
  /-- Options of another kind than an object. -/
  | optionsKind (kind : String)
  /-- Options that mean nothing. -/
  | unknownOptions (keys : List String)
  /-- An option that is no text. -/
  | optionNotText (key : String)
  /-- A pattern that cannot be read. -/
  | badPattern (source : String) (fault : Pattern.Fault)
  /-- An unknown level. -/
  | badLevel (raw : Json)
  /-- A setting list without a level. -/
  | emptySetting
  /-- A setting list with more than a level and options. -/
  | longSetting
  /-- Options of a setting that are no object. -/
  | settingOptions
  /-- Options for a rule that takes none. -/
  | takesNoOptions
  /-- A rule that does not exist. -/
  | unknownRule (known : List String)
  /-- A message that the rule does not declare. -/
  | unknownMessage (id : String)
  /-- A reason in words. -/
  | stated (words : String)
deriving DecidableEq, Repr

/-- A wrong use of an operation: a part is missing or of the wrong kind. -/
inductive Misuse where
  /-- A load failure without a path. -/
  | noPath
  /-- A load failure without a reason. -/
  | noLoadReason
  /-- A failure of a tree, or an access, without a place. -/
  | noLocation
  /-- A refusal without a reason. -/
  | noReason
  /-- A refusal of a rule without a name. -/
  | noRuleName
  /-- A failure for violations without any. -/
  | noViolations
  /-- An access without a name. -/
  | noAccessName
  /-- An alias without a name. -/
  | noAlias
  /-- A context without a file. -/
  | noFilePath
  /-- A rule id that is empty in a configuration. -/
  | noConfiguredRule
  /-- A setting of a rule that is no setting. -/
  | notSetting (ruleId : String)
  /-- A severity of another kind. -/
  | severityKind (kind : String)
  /-- Options of a setting of another kind. -/
  | settingOptionsKind (kind : String)
  /-- A source that is no text or empty. -/
  | envSource
  /-- A pattern that was not compiled. -/
  | patternKind (kind : String)
  /-- A predicate that cannot be called. -/
  | predicate
  /-- A rule type that does not exist. -/
  | ruleType (given : Json)
  /-- A rule without a name. -/
  | noRuleId
  /-- A rule without a description. -/
  | noDescription
  /-- A rule without messages. -/
  | noMessages
  /-- A message without a text. -/
  | emptyTemplate (id : String)
  /-- Fewer workers than one. -/
  | jobs (given : Int)
  /-- A report that is too narrow. -/
  | narrow (width : Int)
deriving DecidableEq, Repr

/-- Why an operation failed. -/
inductive Failure where
  /-- A document cannot be loaded. -/
  | load (path : Path) (reason : LoadReason)
  /-- A tree is malformed at a place. -/
  | tree (path : Path) (location : Location) (reason : TreeReason)
  /-- A configuration is refused. -/
  | config (reason : ConfigReason)
  /-- A rule is refused; its name is not empty. -/
  | rule (name : String) (reason : RuleReason)
  /-- Violations where none were expected. -/
  | violations (found : List Diagnostic)
  /-- A path leads nowhere. -/
  | missingPath (path : Path)
  /-- A path goes through a file. -/
  | throughFile (path : Path)
  /-- A path cannot be looked up. -/
  | blocked (path : Path) (obstacle : Obstacle)
  /-- A path holds a null character. -/
  | nullInPath
  /-- A location that does not fit together. -/
  | location (fault : LocationFault)
  /-- A diagnostic with a part missing. -/
  | diagnostic (fault : DiagnosticFault)
  /-- A value that is no node. -/
  | notNode (fault : Tree.NotNode)
  /-- A value that is no list, by its kind. -/
  | notList (kind : String)
  /-- An access before an alias. -/
  | noTrackedAlias
  /-- A pattern beyond the reader's limits. -/
  | pattern (fault : Pattern.Fault)
  /-- A whole number with too many digits in a document. -/
  | longNumber (digits : Nat)
  /-- A whole number with too many digits to be shown. -/
  | unshownNumber
  /-- A recursion that exhausts the stack, in the words of the host. -/
  | exhausted (words : String)
  /-- A glob that cannot be used. -/
  | glob (fault : Glob.Fault)
  /-- Markup that cannot be shown. -/
  | markup (fault : Report.Markup.Fault)
  /-- A wrong use of an operation. -/
  | misuse (m : Misuse)
deriving DecidableEq, Repr

/-- Wording of a JSON error. -/
def Json.DecodeError.message (e : Json.DecodeError) : String :=
  "invalid JSON at line " ++ toString e.line ++ ": " ++ e.flaw.message

/-- Wording of a load reason. -/
def LoadReason.message : LoadReason → String
  | .notFound => "file not found"
  | .directory => "is a directory"
  | .encoding fault => "encoding error: " ++ fault.message
  | .json error => error.message
  | .denied => "permission denied"
  | .otherRoot type => "root node must be Program, got " ++ type
  | .noProgram => "root must be an ESTree Program object"
  | .stated words => words

/-- Wording of an obstacle. -/
def Obstacle.message : Obstacle → String
  | .denied => "[Errno 13] Permission denied"
  | .tooLong => "[Errno 36] File name too long"

/-- Wording of a tree reason. -/
def TreeReason.message : TreeReason → String
  | .unplaced type => type ++ " node has no loc info"
  | .stated words => words

/-- Wording of a configuration reason. -/
def ConfigReason.message : ConfigReason → String
  | .notObject => "configuration must be an object"
  | .unknownKeys keys => "unknown key(s): " ++ ", ".intercalate keys
  | .rulesNotObject => "'rules' must be an object"
  | .emptyRuleId => "rule ids must be non-empty strings, got ''"
  | .unreadable path fault => "cannot read " ++ path.text ++ ": " ++ fault.message
  | .encoding path fault => path.text ++ ": encoding error: " ++ fault.message
  | .json path error => path.text ++ ": " ++ error.message
  | .stated words => words

/-- Wording of a rule reason. -/
def RuleReason.message : RuleReason → String
  | .optionsKind kind => "options must be an object, got " ++ kind
  | .unknownOptions keys => "unknown option(s): " ++ ", ".intercalate keys
  | .optionNotText key => "'" ++ key ++ "' must be a string"
  | .badPattern source fault =>
      "'serverOnlyPattern' is not a valid regular expression: " ++ fault.message source.toList
  | .badLevel raw =>
      "invalid severity " ++ raw.repr ++ ", expected off/warn/error or 0/1/2"
  | .emptySetting => "setting list must start with a severity"
  | .longSetting => "setting list takes a severity and one options object"
  | .settingOptions => "options must be an object"
  | .takesNoOptions => "rule takes no options"
  | .unknownRule known => "unknown rule, known rules: " ++ ", ".intercalate known
  | .unknownMessage id => "unknown message id '" ++ id ++ "'"
  | .stated words => words

/-- Wording of a wrong use. -/
def Misuse.message : Misuse → String
  | .noPath => "path must not be None"
  | .noLoadReason => "reason must be non-empty string"
  | .noLocation => "location must not be None"
  | .noReason => "reason must not be empty"
  | .noRuleName => "rule_name must not be empty"
  | .noViolations => "ViolationsFoundError requires at least one diagnostic"
  | .noAccessName => "property_name must not be empty"
  | .noAlias => "alias name must not be empty"
  | .noFilePath => "file_path must not be None"
  | .noConfiguredRule => "rule id must not be empty"
  | .notSetting ruleId => "setting for '" ++ ruleId ++ "' must be RuleSetting"
  | .severityKind kind => "severity must be Severity, got " ++ kind
  | .settingOptionsKind kind => "options must be Mapping, got " ++ kind
  | .envSource => "env_source must be non-empty string"
  | .patternKind kind => "server_only_pattern must be compiled re.Pattern, got " ++ kind
  | .predicate => "predicate must be callable or None"
  | .ruleType given => given.repr ++ " is not a valid RuleType"
  | .noRuleId => "rule_id must not be empty"
  | .noDescription => "description must not be empty"
  | .noMessages => "messages must not be empty"
  | .emptyTemplate id => "message '" ++ id ++ "' has empty template"
  | .jobs given => "jobs must be >= 1, got " ++ String.ofList (Decimal.intText given)
  | .narrow width => "width must be >= 40, got " ++ String.ofList (Decimal.intText width)

/-- The name of the class of a wrong use: a part of the wrong kind, or a wrong value. -/
def Misuse.className : Misuse → String
  | .noPath | .noLocation | .noFilePath | .notSetting _ | .severityKind _ | .settingOptionsKind _
  | .patternKind _ | .predicate => "TypeError"
  | .noLoadReason | .noReason | .noRuleName | .noViolations | .noAccessName | .noAlias
  | .noConfiguredRule | .envSource | .ruleType _ | .noRuleId | .noDescription | .noMessages
  | .emptyTemplate _ | .jobs _ | .narrow _ => "ValueError"

namespace Failure

/-- Wording of a failure. -/
def message : Failure → String
  | .load path reason => "Failed to load " ++ path.text ++ ": " ++ reason.message
  | .tree path place reason =>
      "Failed to load " ++ path.text ++ ": " ++ reason.message ++ " at " ++ place.text
  | .config reason => "Invalid configuration: " ++ reason.message
  | .rule name reason => "Invalid rule '" ++ name ++ "': " ++ reason.message
  | .violations found =>
      "\n".intercalate
        (("Found " ++ toString found.length ++ " violation(s):") :: found.map Diagnostic.text)
  | .missingPath path => "no such file or directory: " ++ path.text
  | .throughFile path => "[Errno 20] Not a directory: " ++ Text.quote path.text
  | .blocked path obstacle => obstacle.message ++ ": " ++ Text.quote path.text
  | .nullInPath => "embedded null byte"
  | .location fault => fault.message
  | .diagnostic fault => fault.message
  | .notNode fault => fault.message
  | .notList kind => "'" ++ kind ++ "' object is not iterable"
  | .noTrackedAlias => "cannot record access before env import is tracked"
  | .pattern fault => fault.message []
  | .longNumber digits => (Json.Flaw.tooManyDigits digits).message
  | .unshownNumber =>
      "Exceeds the limit (4300 digits) for integer string conversion; "
        ++ "use sys.set_int_max_str_digits() to increase the limit"
  | .exhausted words => words
  | .glob fault => fault.message
  | .markup fault => fault.message
  | .misuse m => m.message

/-- The file that a failure is about. -/
def path? : Failure → Option Path
  | .load path _ | .tree path _ _ => some path
  | _ => none

/-- The place that a failure is about. -/
def place? : Failure → Option Location
  | .tree _ place _ => some place
  | _ => none

/-- The rule that a failure is about. -/
def ruleName? : Failure → Option String
  | .rule name _ => some name
  | _ => none

/-- The reason that a failure states; that of a malformed tree names the place. -/
def reason? : Failure → Option String
  | .load _ reason => some reason.message
  | .tree _ place reason => some (reason.message ++ " at " ++ place.text)
  | .config reason => some reason.message
  | .rule _ reason => some reason.message
  | _ => none

/-- The name of the class that tells a failure from others. -/
def className : Failure → String
  | .load .. => "ParsingError"
  | .tree .. => "ASTError"
  | .config _ => "ConfigurationError"
  | .rule .. => "RuleValidationError"
  | .violations _ => "ViolationsFoundError"
  | .missingPath _ => "FileNotFoundError"
  | .throughFile _ => "NotADirectoryError"
  | .blocked _ .denied => "PermissionError"
  | .blocked _ .tooLong => "OSError"
  | .location .noFile | .diagnostic .noLocation | .notNode _ | .notList _ => "TypeError"
  | .noTrackedAlias => "RuntimeError"
  | .exhausted _ | .pattern (.exhausted _) => "RecursionError"
  | .pattern .hugeRepeat => "OverflowError"
  | .glob .absolute => "NotImplementedError"
  | .markup _ => "MarkupError"
  | .misuse m => m.className
  | .nullInPath | .location _ | .diagnostic _ | .pattern _ | .longNumber _ | .unshownNumber
  | .glob _ => "ValueError"

/-- The class that all failures of what is checked and of the setup belong to. -/
def ownClass : String := "EnvCheckError"

/-- The names of the classes that a failure belongs to, its own first. -/
def ancestry (failure : Failure) : List String :=
  match failure with
  | .tree .. => ["ASTError", "ParsingError", ownClass]
  | .rule .. => ["RuleValidationError", "ConfigurationError", ownClass]
  | .load .. => ["ParsingError", ownClass]
  | .config _ => ["ConfigurationError", ownClass]
  | .violations _ => ["ViolationsFoundError", ownClass]
  | failure => [failure.className]

/-- Whether a failure is one of the checked things or of the setup. -/
def isOwn : Failure → Bool
  | .load .. | .tree .. | .config _ | .rule .. | .violations _ => true
  | _ => false

/-- Whether a run of the command expects a failure and ends with its message. -/
def isExpected : Failure → Bool
  | .missingPath _ => true
  | failure => failure.isOwn

/-- A refusal of a rule; a rule without a name is a wrong use. -/
def ofRule (name : String) (reason : RuleReason) : Failure :=
  if name = "" then .misuse .noRuleName else .rule name reason

/-- A failure to load for a reason in words, if a path and a reason are given. -/
def statedLoad (path : Option Path) (words : String) : Except Failure Failure :=
  match path with
  | none => .error (.misuse .noPath)
  | some path =>
      if words = "" then .error (.misuse .noLoadReason) else .ok (.load path (.stated words))

/-- A failure of a tree for a reason in words, if a place and a path are given. -/
def statedTree (path : Option Path) (place : Option Location) (words : String) :
    Except Failure Failure :=
  match place, path with
  | none, _ => .error (.misuse .noLocation)
  | some _, none => .error (.misuse .noPath)
  | some place, some path => .ok (.tree path place (.stated words))

/-- A refusal of a configuration in words, if there are any. -/
def statedConfig (words : String) : Except Failure Failure :=
  if words = "" then .error (.misuse .noReason) else .ok (.config (.stated words))

/-- A refusal of a rule in words, if it has a name and there are any. -/
def statedRule (name words : String) : Except Failure Failure :=
  if name = "" then .error (.misuse .noRuleName)
  else if words = "" then .error (.misuse .noReason)
  else .ok (.rule name (.stated words))

/-- Makes sure that a recursion does not exhaust the stack. -/
def checkStack [Host] (r : Recursion) : Except Failure Unit :=
  match Host.overflow? r with
  | some words => .error (.exhausted words)
  | none => .ok ()

/-- A failure for violations, if there are any. -/
def ofViolations (found : List Diagnostic) : Except Failure Failure :=
  if found.isEmpty then .error (.misuse .noViolations) else .ok (.violations found)

end Failure

/-- The least number with too many digits to be shown. -/
def leastUnshown : Nat := Nat.pow 10 Json.maxDigits

/-- Accepts numbers that can be shown. -/
def checkNumbers (numbers : List Int) : Except Failure Unit :=
  if numbers.any fun n => leastUnshown ≤ n.natAbs then .error .unshownNumber else .ok ()

end EnvLint
