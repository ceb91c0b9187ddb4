import EnvLint.Host
import EnvLint.Pattern.Scanner
import EnvLint.Text.Hex

/-! # Escapes

    What a backslash and the character after it stand for.  Inside a set an
    escape is a code point or a class; outside it can also be a place or the
    text of an earlier group.  Every function here starts after the two
    characters of the escape. -/

namespace EnvLint.Pattern

/-- Code points of the escapes that are the same everywhere. -/
def controlEscape? : Char → Option Nat
  | 'a' => some 7
  | 'f' => some 12
  | 'n' => some 10
  | 'r' => some 13
  | 't' => some 9
  | 'v' => some 11
  | '\\' => some 92
  | _ => none

/-- Classes named by an escape, negated or not. -/
def categoryEscape? : Char → Option Member
  | 'd' => some (.category false .digit)
  | 'D' => some (.category true .digit)
  | 's' => some (.category false .space)
  | 'S' => some (.category true .space)
  | 'w' => some (.category false .word)
  | 'W' => some (.category true .word)
  | _ => none

/-- Places named by an escape. -/
def anchorEscape? : Char → Option Anchor
  | 'A' => some .textStart
  | 'b' => some .boundary
  | 'B' => some .nonBoundary
  | 'Z' => some .textEnd
  | _ => none

/-- Whether a character is an octal digit. -/
def isOctal (c : Char) : Bool := '0' ≤ c && c ≤ '7'

/-- Value of octal digits. -/
def ofOctal (ds : List Char) : Nat :=
  ds.foldl (fun n d => 8 * n + (d.toNat - 48)) 0

/-- How many hexadecimal digits an escape takes. -/
def hexLength? : Char → Option Nat
  | 'x' => some 2
  | 'u' => some 4
  | 'U' => some 8
  | _ => none

/-- Reads the digits of an escape by code point. -/
def hexEscape (c : Char) (count : Nat) (s : Scanner) : Except Fault (Nat × Scanner) := do
  let (ds, s) ← s.takeChars (fun d => (Text.hexValue? d).isSome) count
  let text := '\\' :: c :: ds
  if ds.length ≠ count then .error (s.fault (.incompleteEscape text) text.length)
  else
    match Text.readHex? ds with
    | some n => if n < 0x110000 then .ok (n, s) else .error (s.fault (.badEscape text) text.length)
    | none => .error (s.fault (.badEscape text) text.length)

/-- Reads an escape by character name. -/
def nameEscape [Host] (s : Scanner) : Except Fault (Nat × Scanner) := do
  let (opened, s) ← s.accept '{'
  if !opened then .error (s.fault .missingBrace 0)
  else
    let (name, s) ← s.name '}' "character name"
    match Host.character? name with
    | some c => .ok (c.toNat, s)
    | none => .error (s.fault (.undefinedCharacter name) (name.length + 4))

/-- An escape that stands for its own character: no letter or digit of ASCII. -/
def ownEscape (c : Char) (s : Scanner) : Except Fault (Nat × Scanner) :=
  if c.isAlphanum then .error (s.fault (.badEscape ['\\', c]) 2)
  else .ok (c.toNat, s)

/-- Reads an octal escape after its first digit. -/
def octalEscape (c : Char) (s : Scanner) : Except Fault (Nat × Scanner) := do
  let (ds, s) ← s.takeChars isOctal 2
  let n := ofOctal (c :: ds)
  if n > 255 then .error (s.fault (.octalRange ('\\' :: c :: ds)) (ds.length + 2))
  else .ok (n, s)

/-- Reads an escape inside a set. -/
def setEscape [Host] (c : Char) (s : Scanner) : Except Fault (Member × Scanner) :=
  if c = 'b' then .ok (.point 8, s)
  else if let some n := controlEscape? c then .ok (.point n, s)
  else if let some m := categoryEscape? c then .ok (m, s)
  else do
    let (n, s) ←
      if let some count := hexLength? c then hexEscape c count s
      else if c = 'N' then nameEscape s
      else if isOctal c then octalEscape c s
      else ownEscape c s
    .ok (.point n, s)

/-- Refers to a group by its number; `length` is the length of the escape. -/
def groupEscape (index length : Nat) (s : Scanner) : Except Fault (Node × Scanner) :=
  if index < s.groupCount then
    match s.closedWidth index with
    | none => .error (s.fault .openGroup length)
    | some w => do
        s.checkBehind index
        .ok (.same index w, s)
  else .error (s.fault (.noGroup index) (length - 1))

/-- Reads an escape that starts with a digit other than zero: three octal digits are
    a code point, anything else is the number of a group. -/
def digitEscape (c : Char) (s : Scanner) : Except Fault (Node × Scanner) := do
  let (second, s) ← s.takeChars Char.isDigit 1
  let (third, s) ←
    if isOctal c && !second.isEmpty && second.all isOctal then s.takeChars isOctal 1
    else .ok ([], s)
  let ds := c :: second ++ third
  if !third.isEmpty then
    if ofOctal ds > 255 then .error (s.fault (.octalRange ('\\' :: ds)) (ds.length + 1))
    else .ok (.char false (ofOctal ds), s)
  else
    groupEscape (ds.foldl (fun n d => 10 * n + (d.toNat - 48)) 0) (ds.length + 1) s

/-- Reads an escape outside of sets. -/
def nodeEscape [Host] (c : Char) (s : Scanner) : Except Fault (Node × Scanner) :=
  if let some a := anchorEscape? c then .ok (.anchor a, s)
  else if let some m := categoryEscape? c then .ok (.set false [m], s)
  else if let some n := controlEscape? c then .ok (.char false n, s)
  else if c.isDigit && c != '0' then digitEscape c s
  else do
    let (n, s) ←
      if let some count := hexLength? c then hexEscape c count s
      else if c = 'N' then nameEscape s
      else if c = '0' then octalEscape c s
      else ownEscape c s
    .ok (.char false n, s)

end EnvLint.Pattern
