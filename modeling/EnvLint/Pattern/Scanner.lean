import EnvLint.Pattern.Fault
import EnvLint.Pattern.Node

/-! # Scanning a pattern

    A pattern is read token by token: a token is a character, or a backslash and
    the character after it.  A scanner always stands on a token, so a backslash
    at the very end is a fault as soon as the token before it is consumed.  It
    also knows which groups were opened and closed so far. -/

namespace EnvLint.Pattern

/-- Where reading a pattern stands. -/
structure Scanner where
  /-- What is left to read. -/
  rest : List Char
  /-- How many characters were read. -/
  position : Nat
  /-- Widths of the groups in the order of their numbers; none while open. -/
  groups : List (Option Width)
  /-- Named groups. -/
  names : List (List Char × Nat)
  /-- How many groups there were, with group zero, when a look behind began. -/
  behind : Option Nat
  /-- Groups that conditions ask for, each with its first position. -/
  asked : List (Nat × Nat)
  /-- Flags set for the whole pattern. -/
  flags : List Flag
deriving DecidableEq, Repr

namespace Scanner

/-- A token: the characters of one step, none of them at the end. -/
def token (s : Scanner) : List Char :=
  match s.rest with
  | '\\' :: c :: _ => ['\\', c]
  | c :: _ => [c]
  | [] => []

/-- A fault some characters before the current token. -/
def fault (s : Scanner) (flaw : Flaw) (back : Nat) : Fault :=
  .located flaw (s.position - back)

/-- Makes sure that what is left does not end in the middle of a token. -/
def settle (s : Scanner) : Except Fault Scanner :=
  match s.rest with
  | ['\\'] => .error (.located .trailingBackslash s.position)
  | _ => .ok s

/-- Steps over the current token. -/
def next (s : Scanner) : Except Fault Scanner :=
  settle
    { s with rest := s.rest.drop s.token.length, position := s.position + s.token.length }

/-- Whether the current token is a character. -/
def sees (s : Scanner) (c : Char) : Bool := s.token == [c]

/-- Steps over a character, if it is the current token. -/
def accept (s : Scanner) (c : Char) : Except Fault (Bool × Scanner) :=
  if s.sees c then s.next.map ((true, ·)) else .ok (false, s)

/-- Whether nothing is left. -/
def atEnd (s : Scanner) : Bool := s.rest.isEmpty

/-- Steps over at most `limit` characters of a class. -/
def takeChars (p : Char → Bool) : (limit : Nat) → Scanner → Except Fault (List Char × Scanner)
  | 0, s => .ok ([], s)
  | limit + 1, s =>
      match s.token with
      | [c] =>
          if p c then do
            let (cs, s) ← takeChars p limit (← s.next)
            .ok (c :: cs, s)
          else .ok ([], s)
      | _ => .ok ([], s)

/-- Steps over all characters of a class. -/
def takeAll (p : Char → Bool) (s : Scanner) : Except Fault (List Char × Scanner) :=
  takeChars p s.rest.length s

/-- Steps over tokens up to an end mark, and over the mark. -/
def tokensUntil (mark : Char) : (limit : Nat) → Scanner → Except Fault (List Char × Bool × Scanner)
  | 0, s => .ok ([], false, s)
  | limit + 1, s =>
      if s.atEnd then .ok ([], false, s)
      else if s.sees mark then do .ok ([], true, ← s.next)
      else do
        let (cs, closed, after) ← tokensUntil mark limit (← s.next)
        .ok (s.token ++ cs, closed, after)

/-- Reads a name up to its end mark. -/
def name (mark : Char) (what : String) (s : Scanner) : Except Fault (List Char × Scanner) := do
  let (cs, closed, s) ← tokensUntil mark (s.rest.length + 1) s
  if !closed then
    if cs.isEmpty then .error (s.fault (.missingName what) 0)
    else .error (s.fault (.unterminatedName mark) cs.length)
  else if cs.isEmpty then .error (s.fault (.missingName what) 1)
  else .ok (cs, s)

/-- How many groups there are, group zero included. -/
def groupCount (s : Scanner) : Nat := s.groups.length + 1

/-- Width of a group that is closed. -/
def closedWidth (s : Scanner) (index : Nat) : Option Width :=
  if index = 0 then none else (s.groups[index - 1]?).join

/-- Opens a group. -/
def openGroup (s : Scanner) : Scanner × Nat :=
  ({ s with groups := s.groups ++ [none] }, s.groupCount)

/-- Closes a group of a known width. -/
def closeGroup (s : Scanner) (index : Nat) (w : Width) : Scanner :=
  { s with groups := s.groups.set (index - 1) (some w) }

/-- Refuses a group that a look behind may not refer to. -/
def checkBehind (s : Scanner) (index : Nat) : Except Fault Unit :=
  match s.behind with
  | none => .ok ()
  | some count =>
      if (s.closedWidth index).isNone then .error (s.fault .openGroup 0)
      else if count ≤ index then .error (s.fault .sameLookbehind 0)
      else .ok ()

/-- The number of a named group. -/
def named? (s : Scanner) (name : List Char) : Option Nat :=
  (s.names.find? fun n => n.1 == name).map Prod.snd

/-- Stands on the first token of a pattern. -/
def start (source : List Char) : Except Fault Scanner :=
  settle ⟨source, 0, [], [], none, [], []⟩

end Scanner

end EnvLint.Pattern
