import EnvLint.Cli.Option

/-! # Command-line tokens

    Every argument is told apart before any is acted on.  An argument that starts
    with a hyphen is an option, unless it is the hyphen alone, looks like a
    negative number, or holds a space and is no known option; after a double
    hyphen, everything is plain.  Long options may be abbreviated, and short ones
    stand together in one argument. -/

namespace EnvLint.Cli

/-- A value that is written in the same argument as its option. -/
structure Attached where
  /-- Whether an equals sign divides them. -/
  equals : Bool
  /-- The value. -/
  value : List Char
deriving DecidableEq, Repr

/-- An argument. -/
inductive Token where
  /-- No option. -/
  | plain (text : String)
  /-- The double hyphen. -/
  | divider
  /-- A long option. -/
  | long (option : Opt) (attached : Option (List Char))
  /-- A short option and what follows it in the argument. -/
  | short (option : Opt) (attached : Option Attached)
  /-- An option that does not exist. -/
  | unknown (text : String)
deriving DecidableEq, Repr

/-- Splits a text at its first equals sign. -/
def splitEquals (cs : List Char) : List Char × Option (List Char) :=
  match cs.dropWhile (· != '=') with
  | [] => (cs, none)
  | _ :: value => (cs.takeWhile (· != '='), some value)

/-- Whether a text is digits, up to a line feed at the end. -/
def allDigits (cs : List Char) : Bool :=
  match cs.dropWhile fun c => (Text.decimalValue? c).isSome with
  | [] | ['\n'] => true
  | _ => false

/-- Whether a text starts with a digit. -/
def startsWithDigit : List Char → Bool
  | c :: _ => (Text.decimalValue? c).isSome
  | [] => false

/-- Whether a text after a hyphen makes a negative number: digits, or a point with
    digits after it. -/
def isNumberTail (cs : List Char) : Bool :=
  (startsWithDigit cs && allDigits cs) ||
    match cs.dropWhile fun c => (Text.decimalValue? c).isSome with
    | '.' :: rest => startsWithDigit rest && allDigits rest
    | _ => false

/-- Reads an argument that no spelling matches and that abbreviates nothing. -/
def Token.other (arg : String) : Token :=
  if isNumberTail (arg.toList.drop 1) || arg.toList.contains ' ' then .plain arg
  else .unknown arg

/-- Reads an argument of two hyphens and more. -/
def Token.ofLong (arg : String) : Except UsageFault Token :=
  let (front, value) := splitEquals arg.toList
  match Opt.ofSpelling? front with
  | some option => .ok (.long option value)
  | none =>
      match Opt.abbreviated front with
      | [] => .ok (.other arg)
      | [row] => .ok (.long row.2 value)
      | rows => .error (.ambiguous arg (rows.map fun row => String.ofList row.1))

/-- Reads an argument of one hyphen, the character `c`, and more. -/
def Token.ofShort (arg : String) (c : Char) (rest : List Char) : Token :=
  match Opt.ofSpelling? ['-', c], rest with
  | none, _ => .other arg
  | some option, [] => .short option none
  | some option, '=' :: value => .short option (some ⟨true, value⟩)
  | some option, rest => .short option (some ⟨false, rest⟩)

/-- Reads an argument other than the double hyphen. -/
def Token.read (arg : String) : Except UsageFault Token :=
  match arg.toList with
  | '-' :: '-' :: _ => Token.ofLong arg
  | '-' :: c :: rest => .ok (Token.ofShort arg c rest)
  | _ => .ok (.plain arg)

/-- Reads an argument list. -/
def Token.readAll : List String → Except UsageFault (List Token)
  | [] => .ok []
  | arg :: rest =>
      if arg = "--" then .ok (.divider :: rest.map .plain)
      else do
        let token ← Token.read arg
        let tokens ← Token.readAll rest
        .ok (token :: tokens)

/-- An option and its value, if it has one. -/
abbrev Use := Opt × Option String

/-- What one argument asks for: uses in order, then an option that looks for its
    value in the next argument, or letters that mean nothing. -/
structure Cluster where
  /-- Complete uses. -/
  uses : List Use
  /-- An option whose value is the next argument. -/
  open? : Option Opt
  /-- What is left of the argument. -/
  stray? : Option String
deriving DecidableEq, Repr

namespace Cluster

/-- An option on its own. -/
def bare (option : Opt) : Cluster :=
  if option.takesValue then ⟨[], some option, none⟩ else ⟨[(option, none)], none, none⟩

/-- An option with a value of its own. -/
def valued (option : Opt) (value : List Char) : Cluster :=
  ⟨[(option, some (String.ofList value))], none, none⟩

/-- Puts a use in front. -/
def cons (use : Use) (c : Cluster) : Cluster := { c with uses := use :: c.uses }

/-- Reads a short option that is followed by a value or by more short options. -/
def ofShort (option : Opt) (equals : Bool) (attached : List Char) : Except UsageFault Cluster :=
  if option.takesValue then .ok (valued option attached)
  else
    match attached with
    | [] => .error (.ignoredValue option "")
    | c :: rest =>
        if equals || c == '-' then .error (.ignoredValue option (String.ofList (c :: rest)))
        else
          match Opt.ofSpelling? ['-', c], rest with
          | none, rest =>
              .ok ⟨[(option, none)], none, some (String.ofList ('-' :: c :: rest))⟩
          | some next, [] => .ok (cons (option, none) (bare next))
          | some next, '=' :: value => (ofShort next true value).map (cons (option, none))
          | some next, d :: rest => (ofShort next false (d :: rest)).map (cons (option, none))

/-- Reads a long option that is followed by a value. -/
def ofLong (option : Opt) (value : List Char) : Except UsageFault Cluster :=
  if option.takesValue then .ok (valued option value)
  else .error (.ignoredValue option (String.ofList value))

end Cluster

end EnvLint.Cli
