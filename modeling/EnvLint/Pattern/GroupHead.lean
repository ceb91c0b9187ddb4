import EnvLint.Decimal.Numeral
import EnvLint.Pattern.Scanner
import EnvLint.Text.Identifier

/-! # Group heads

    What stands between an opening parenthesis and the content of the group: the
    kind of the group, its name, its flags or its condition.  Comments and
    references by name are heads without content. -/

namespace EnvLint.Pattern

/-- The kind of a group. -/
inductive Head where
  /-- A numbered group, named or not. -/
  | capture (name : Option (List Char))
  /-- A group without a number that sets flags. -/
  | scoped (on off : List Flag)
  /-- A group that is matched once and for all. -/
  | atomic
  /-- A look ahead or behind. -/
  | look (behind negated : Bool)
  /-- A condition on a group. -/
  | cond (index : Nat)
  /-- Complete in itself: the text of an earlier group. -/
  | same (index : Nat) (width : Width)
  /-- Complete in itself: a comment. -/
  | comment
  /-- Complete in itself: flags of the whole pattern. -/
  | flags
deriving DecidableEq, Repr

/-- Letters of the flags; the one for locale rules is no flag here. -/
def flagOf? : Char → Option Flag
  | 'i' => some .ignoreCase
  | 'm' => some .multiline
  | 's' => some .dotAll
  | 'x' => some .verbose
  | 'a' => some .ascii
  | 'u' => some .unicode
  | 't' => some .template
  | _ => none

/-- Whether a flag chooses the rules for classes and case. -/
def Flag.isRules : Flag → Bool
  | .ascii | .unicode => true
  | _ => false

/-- What ends a list of flags. -/
inductive FlagEnd where
  /-- The end of the group. -/
  | close
  /-- The start of the flags to turn off. -/
  | minus
  /-- The start of the content. -/
  | colon
deriving DecidableEq, Repr

/-- Reads the flags to turn on, the first of them given, and what ends them. -/
def flagsOn (c : Char) (on : List Flag) :
    (limit : Nat) → Scanner → Except Fault (List Flag × FlagEnd × Scanner)
  | 0, s => .error (s.fault .missingFlagEnd 0)
  | limit + 1, s =>
      match flagOf? c with
      | none => .error (s.fault .localeFlag 0)
      | some flag =>
          let on := flag :: on
          if flag.isRules && on.any fun f => f.isRules && f != flag then
            .error (s.fault .incompatibleFlags 0)
          else
            match s.token with
            | [] => .error (s.fault .missingFlagEnd 0)
            | [')'] => do .ok (on, .close, ← s.next)
            | ['-'] => do .ok (on, .minus, ← s.next)
            | [':'] => do .ok (on, .colon, ← s.next)
            | token => do
                let s ← s.next
                match token with
                | [d] =>
                    if (flagOf? d).isSome || d = 'L' then flagsOn d on limit s
                    else if Text.isLetter d then .error (s.fault .unknownFlag 1)
                    else .error (s.fault .missingFlagEnd 1)
                | _ => .error (s.fault .missingFlagEnd token.length)

/-- Reads the flags to turn off, the first of them given, up to a colon. -/
def flagsOff (c : Char) (off : List Flag) :
    (limit : Nat) → Scanner → Except Fault (List Flag × Scanner)
  | 0, s => .error (s.fault .missingColon 0)
  | limit + 1, s =>
      match (flagOf? c).filter fun f => !f.isRules with
      | none => .error (s.fault .rulesOff 0)
      | some flag =>
          match s.token with
          | [] => .error (s.fault .missingColon 0)
          | [':'] => do .ok (flag :: off, ← s.next)
          | token => do
              let s ← s.next
              match token with
              | [d] =>
                  if (flagOf? d).isSome || d = 'L' then flagsOff d (flag :: off) limit s
                  else if Text.isLetter d then .error (s.fault .unknownFlag 1)
                  else .error (s.fault .missingColon 1)
              | _ => .error (s.fault .missingColon token.length)

/-- Reads the flags to turn off after the minus sign. -/
def flagsAfterMinus (s : Scanner) : Except Fault (List Flag × Scanner) :=
  match s.token with
  | [] => .error (s.fault .missingFlag 0)
  | token => do
      let s ← s.next
      match token with
      | [d] =>
          if (flagOf? d).isSome || d = 'L' then flagsOff d [] (s.rest.length + 1) s
          else if Text.isLetter d then .error (s.fault .unknownFlag 1)
          else .error (s.fault .missingFlag 1)
      | _ => .error (s.fault .missingFlag token.length)

/-- A group that turns flags on and off, if they may stand on a group. -/
def scopedHead (on off : List Flag) (s : Scanner) : Except Fault (Head × Scanner) :=
  if off.contains .template then .error (s.fault .globalOff 1)
  else if on.any off.contains then .error (s.fault .onAndOff 1)
  else .ok (.scoped on off, s)

/-- Reads flags whose first token was a given letter or a minus sign. -/
def flagsHead (c : Char) (s : Scanner) : Except Fault (Head × Scanner) := do
  let (on, stop, s) ←
    if c = '-' then .ok ([], .minus, s) else flagsOn c [] (s.rest.length + 1) s
  match stop with
  | .close => .ok (.flags, { s with flags := s.flags ++ on })
  | stop =>
      if on.contains .template then .error (s.fault .globalOn 1)
      else if stop = .minus then do
        let (off, s) ← flagsAfterMinus s
        scopedHead on off s
      else scopedHead on [] s

/-- Refuses a name that is no identifier. -/
def checkName (name : List Char) (s : Scanner) : Except Fault Unit :=
  if Text.isIdentifier name then .ok ()
  else .error (s.fault (.badName name) (name.length + 1))

/-- The group of a name. -/
def lookUpName (name : List Char) (s : Scanner) : Except Fault Nat :=
  match s.named? name with
  | some index => .ok index
  | none => .error (s.fault (.unknownName name) (name.length + 1))

/-- Reads a reference by name. -/
def sameHead (s : Scanner) : Except Fault (Head × Scanner) := do
  let (name, s) ← s.name ')' "group name"
  checkName name s
  let index ← lookUpName name s
  match s.closedWidth index with
  | none => .error (s.fault .openGroup (name.length + 1))
  | some w => do
      s.checkBehind index
      .ok (.same index w, s)

/-- Reads what follows the letter of named groups and references. -/
def namedHead (s : Scanner) : Except Fault (Head × Scanner) := do
  if s.sees '<' then
    let (name, s) ← (← s.next).name '>' "group name"
    checkName name s
    .ok (.capture (some name), s)
  else if s.sees '=' then sameHead (← s.next)
  else if s.atEnd then .error (s.fault .unexpectedEnd 0)
  else
    let after ← s.next
    .error (after.fault (.unknownExtension ('?' :: 'P' :: s.token)) (s.token.length + 2))

/-- Reads what follows the mark of a look behind. -/
def behindHead (s : Scanner) : Except Fault (Head × Scanner) := do
  if s.sees '=' then .ok (.look true false, ← s.next)
  else if s.sees '!' then .ok (.look true true, ← s.next)
  else if s.atEnd then .error (s.fault .unexpectedEnd 0)
  else
    let after ← s.next
    .error (after.fault (.unknownExtension ('?' :: '<' :: s.token)) (s.token.length + 2))

/-- The most groups that a condition may count to. -/
def maxGroups : Nat := 1073741823

/-- The number of a group that a condition names by number. -/
def numberedCondition (name : List Char) (s : Scanner) : Except Fault (Nat × Scanner) :=
  match Decimal.readInt? name with
  | none => .error (s.fault (.badName name) (name.length + 1))
  | some n =>
      if n < 0 then .error (s.fault (.badName name) (name.length + 1))
      else if n = 0 then .error (s.fault .badGroupNumber (name.length + 1))
      else if n.toNat ≥ maxGroups then .error (s.fault (.noGroup n.toNat) (name.length + 1))
      else
        let known := s.asked.any fun a => a.1 == n.toNat
        let asked := if known then s.asked
          else s.asked ++ [(n.toNat, s.position - name.length - 1)]
        .ok (n.toNat, { s with asked })

/-- Reads the group that a condition asks for. -/
def condHead (s : Scanner) : Except Fault (Head × Scanner) := do
  let (name, s) ← s.name ')' "group name"
  let (index, s) ←
    if Text.isIdentifier name then do .ok (← lookUpName name s, s)
    else numberedCondition name s
  s.checkBehind index
  .ok (.cond index, s)

/-- Reads a comment up to its closing parenthesis; `start` is where it began. -/
def commentHead (start : Nat) (s : Scanner) : Except Fault (Head × Scanner) := do
  let (_, closed, s) ← s.tokensUntil ')' (s.rest.length + 1)
  if closed then .ok (.comment, s) else .error (.located .unterminatedComment start)

/-- Reads a group head after the question mark; `start` is where the group began. -/
def extendedHead (start : Nat) (s : Scanner) : Except Fault (Head × Scanner) := do
  if s.atEnd then .error (s.fault .unexpectedEnd 0)
  else
    let after ← s.next
    match s.token with
    | ['P'] => namedHead after
    | [':'] => .ok (.scoped [] [], after)
    | ['#'] => commentHead start after
    | ['='] => .ok (.look false false, after)
    | ['!'] => .ok (.look false true, after)
    | ['<'] => behindHead after
    | ['('] => condHead after
    | ['>'] => .ok (.atomic, after)
    | [c] =>
        if c = '-' || c = 'L' || (flagOf? c).isSome then flagsHead c after
        else .error (after.fault (.unknownExtension ['?', c]) 2)
    | token => .error (after.fault (.unknownExtension ('?' :: token)) (token.length + 1))

/-- Reads a group head after the opening parenthesis. -/
def groupHead (start : Nat) (s : Scanner) : Except Fault (Head × Scanner) := do
  if s.sees '?' then extendedHead start (← s.next) else .ok (.capture none, s)

end EnvLint.Pattern
