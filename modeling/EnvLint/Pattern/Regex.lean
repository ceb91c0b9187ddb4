import EnvLint.Pattern.Lead
import EnvLint.Pattern.Matcher
import EnvLint.Pattern.Reader

/-! # Regular expressions

    A regular expression is a read pattern.  Its meaning is a matcher, built from
    the tree; a name matches if the matcher succeeds from some place of it. -/

namespace EnvLint.Pattern

/-- The matcher that a node stands for, under the flags around it. -/
def Node.matcher (scope : Scope) : Node → Matcher
  | .empty => .empty
  | .char negated p => .one fun c => samePoint scope p c != negated
  | .set negated members => .one fun c => inSet scope members c != negated
  | .any => .one fun c => scope.dotAll || c != '\n'
  | .anchor a => .anchor scope a
  | .cat a b => (a.matcher scope).cat (b.matcher scope)
  | .alt a b => (a.matcher scope).alt (b.matcher scope)
  | .rep greed least most body => (body.matcher scope).rep greed least most
  | .capture index body => (body.matcher scope).capture index
  | .scoped on off body => body.matcher (scope.within on off)
  | .look false false body => (body.matcher scope).ahead
  | .look false true body => (body.matcher scope).notAhead
  | .look true false body => (body.matcher scope).behind body.width.least
  | .look true true body => (body.matcher scope).notBehind body.width.least
  | .atomic body => (body.matcher scope).atomic
  | .same index _ => .same scope index
  | .cond index yes no => .cond index (yes.matcher scope) (no.matcher scope)

/-- Whether a matcher succeeds from a place, or from a later one; a place is only
    tried if the character after it is allowed there. -/
def Matcher.findFrom (m : Matcher) (allowed : Char → Bool) (before : List Char) :
    List Char → Bool
  | [] => (m.alone ⟨before, [], .none⟩).isSome
  | c :: rest =>
      (allowed c && (m.alone ⟨before, c :: rest, .none⟩).isSome)
        || findFrom m allowed (c :: before) rest

end EnvLint.Pattern

namespace EnvLint

/-- A regular expression: its text and what was read from it. -/
structure Regex where
  /-- The text. -/
  source : String
  /-- What was read. -/
  parsed : Pattern.Parsed
deriving DecidableEq, Repr

namespace Regex

/-- Reads a regular expression, if the stack is deep enough for its groups. -/
def compile [Host] (source : String) : Except Pattern.Fault Regex :=
  match Host.overflow? (.pattern source.toList) with
  | some words => .error (.exhausted words)
  | none => (Pattern.read source.toList).map fun parsed => ⟨source, parsed⟩

/-- Whether the expression matches somewhere in a text. -/
def search (r : Regex) (text : String) : Bool :=
  let scope := r.parsed.scope
  let lead := r.parsed.node.lead? scope
  (r.parsed.node.matcher scope).findFrom (fun c => lead.all (·.allows scope c)) [] text.toList

end Regex

end EnvLint
