import EnvLint.Text.Quoted

/-! # Faults of patterns

    What keeps a text from being a pattern, and where.  Most faults name a place;
    the position is counted in characters, and in a pattern of several lines
    also as a line and a column. -/

namespace EnvLint.Pattern

/-- What is wrong with a pattern. -/
inductive Flaw where
  /-- A backslash at the end. -/
  | trailingBackslash
  /-- An unknown escape. -/
  | badEscape (text : List Char)
  /-- An escape with too few digits. -/
  | incompleteEscape (text : List Char)
  /-- An octal escape beyond one byte. -/
  | octalRange (text : List Char)
  /-- A character name without its brace. -/
  | missingBrace
  /-- An empty name; what it should name. -/
  | missingName (what : String)
  /-- A name without its end mark. -/
  | unterminatedName (mark : Char)
  /-- An unknown character name. -/
  | undefinedCharacter (name : List Char)
  /-- A reference to a group that is still open. -/
  | openGroup
  /-- A reference, inside a look behind, to a group of the same look behind. -/
  | sameLookbehind
  /-- A reference to a group that does not exist. -/
  | noGroup (index : Nat)
  /-- A set without its closing bracket. -/
  | unterminatedSet
  /-- A range between things that are no characters, or in the wrong order. -/
  | badRange (low high : List Char)
  /-- A repetition whose bounds are in the wrong order. -/
  | repeatOrder
  /-- A repetition of nothing. -/
  | nothingToRepeat
  /-- A repetition of a repetition. -/
  | multipleRepeat
  /-- A group that ends in its head. -/
  | unexpectedEnd
  /-- A group name that is no identifier. -/
  | badName (name : List Char)
  /-- A reference to a name without a group. -/
  | unknownName (name : List Char)
  /-- A second group of one name. -/
  | redefinition (name : List Char) (index was : Nat)
  /-- An unknown group head. -/
  | unknownExtension (text : List Char)
  /-- A comment without its closing parenthesis. -/
  | unterminatedComment
  /-- A group without its closing parenthesis. -/
  | unterminatedGroup
  /-- A condition on group zero. -/
  | badGroupNumber
  /-- A condition with three branches. -/
  | manyBranches
  /-- Flags for the whole pattern after its start. -/
  | lateFlags
  /-- The flag for locale rules. -/
  | localeFlag
  /-- Two flags that choose different rules. -/
  | incompatibleFlags
  /-- Flags without an end. -/
  | missingFlagEnd
  /-- An unknown flag. -/
  | unknownFlag
  /-- A flag of the whole pattern turned on in a group. -/
  | globalOn
  /-- A flag of the whole pattern turned off in a group. -/
  | globalOff
  /-- A minus sign without a flag. -/
  | missingFlag
  /-- Flags turned off without a colon. -/
  | missingColon
  /-- A choice of rules turned off. -/
  | rulesOff
  /-- A flag both on and off. -/
  | onAndOff
  /-- A closing parenthesis without a group. -/
  | unbalanced
  /-- A look behind that can match texts of different length. -/
  | variableLookbehind
  /-- A look behind that is too wide. -/
  | wideLookbehind
  /-- A repetition in a pattern that refuses it, by its name. -/
  | refusedRepeat (name : String)
deriving DecidableEq, Repr

/-- Wording of a flaw. -/
def Flaw.message : Flaw → String
  | .trailingBackslash => "bad escape (end of pattern)"
  | .badEscape text => "bad escape " ++ String.ofList text
  | .incompleteEscape text => "incomplete escape " ++ String.ofList text
  | .octalRange text =>
      "octal escape value " ++ String.ofList text ++ " outside of range 0-0o377"
  | .missingBrace => "missing \x7b"
  | .missingName what => "missing " ++ what
  | .unterminatedName mark => "missing " ++ mark.toString ++ ", unterminated name"
  | .undefinedCharacter name => "undefined character name " ++ String.ofList (Text.quoted name)
  | .openGroup => "cannot refer to an open group"
  | .sameLookbehind => "cannot refer to group defined in the same lookbehind subpattern"
  | .noGroup index => "invalid group reference " ++ toString index
  | .unterminatedSet => "unterminated character set"
  | .badRange low high =>
      "bad character range " ++ String.ofList low ++ "-" ++ String.ofList high
  | .repeatOrder => "min repeat greater than max repeat"
  | .nothingToRepeat => "nothing to repeat"
  | .multipleRepeat => "multiple repeat"
  | .unexpectedEnd => "unexpected end of pattern"
  | .badName name => "bad character in group name " ++ String.ofList (Text.quoted name)
  | .unknownName name => "unknown group name " ++ String.ofList (Text.quoted name)
  | .redefinition name index was =>
      "redefinition of group name " ++ String.ofList (Text.quoted name) ++ " as group "
        ++ toString index ++ "; was group " ++ toString was
  | .unknownExtension text => "unknown extension " ++ String.ofList text
  | .unterminatedComment => "missing ), unterminated comment"
  | .unterminatedGroup => "missing ), unterminated subpattern"
  | .badGroupNumber => "bad group number"
  | .manyBranches => "conditional backref with more than two branches"
  | .lateFlags => "global flags not at the start of the expression"
  | .localeFlag => "bad inline flags: cannot use 'L' flag with a str pattern"
  | .incompatibleFlags => "bad inline flags: flags 'a', 'u' and 'L' are incompatible"
  | .missingFlagEnd => "missing -, : or )"
  | .unknownFlag => "unknown flag"
  | .globalOn => "bad inline flags: cannot turn on global flag"
  | .globalOff => "bad inline flags: cannot turn off global flag"
  | .missingFlag => "missing flag"
  | .missingColon => "missing :"
  | .rulesOff => "bad inline flags: cannot turn off flags 'a', 'u' and 'L'"
  | .onAndOff => "bad inline flags: flag turned on and off"
  | .unbalanced => "unbalanced parenthesis"
  | .variableLookbehind => "look-behind requires fixed-width pattern"
  | .wideLookbehind => "looks too much behind"
  | .refusedRepeat name => "internal: unsupported template operator " ++ name

/-- Why a text is no pattern. -/
inductive Fault where
  /-- A flaw at a position. -/
  | located (flaw : Flaw) (position : Nat)
  /-- A flaw of the pattern as a whole. -/
  | general (flaw : Flaw)
  /-- A repetition beyond every count. -/
  | hugeRepeat
  /-- Two global flags that choose different rules. -/
  | conflictingRules
  /-- A count with more digits than are read. -/
  | longCount (digits : Nat)
  /-- Groups nested so deep that reading them exhausts the stack. -/
  | exhausted (words : String)
deriving DecidableEq, Repr

/-- A position with its line and column, where the pattern has several lines. -/
def positionText (source : List Char) (position : Nat) : String :=
  let read := source.take position
  let column := (read.reverse.takeWhile (· != '\n')).length + 1
  "at position " ++ toString position ++
    (if source.contains '\n' then
      " (line " ++ toString (read.count '\n' + 1) ++ ", column " ++ toString column ++ ")"
    else "")

/-- Wording of a fault in a pattern. -/
def Fault.message (source : List Char) : Fault → String
  | .located flaw position => flaw.message ++ " " ++ positionText source position
  | .general flaw => flaw.message
  | .hugeRepeat => "the repetition number is too large"
  | .conflictingRules => "ASCII and UNICODE flags are incompatible"
  | .longCount digits =>
      "Exceeds the limit (4300 digits) for integer string conversion: value has "
        ++ toString digits ++ " digits; use sys.set_int_max_str_digits() to increase the limit"
  | .exhausted words => words

end EnvLint.Pattern
