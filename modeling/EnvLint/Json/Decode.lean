import EnvLint.Json.Basic
import EnvLint.Text.Hex

/-! # Reading documents

    The decoder accepts JSON with three additions: the numbers `NaN`, `Infinity`
    and `-Infinity`.  It works on the characters that are left to read, so a
    fault is known by what is left where it lies; the line of a fault is one
    more than the number of line feeds read before it.

    Every call consumes a character or ends, so the number of characters bounds
    the number of nested calls.  Whether the stack is deep enough for them is a
    matter of the host: those who decode a document ask for that first
    (`Failure.checkStack`).  An escape may name half of a surrogate pair and leave
    it alone; there is no character for that, and `replacement` is read for it. -/

namespace EnvLint.Json

/-- What keeps a text from being a document. -/
inductive Flaw where
  /-- No value starts here. -/
  | expectingValue
  /-- No field name starts here. -/
  | expectingName
  /-- A field name without its colon. -/
  | expectingColon
  /-- Neither a comma nor a closing bracket. -/
  | expectingComma
  /-- Text after the document. -/
  | extraData
  /-- A text without its closing quote. -/
  | unterminatedString
  /-- A control character inside a text. -/
  | controlCharacter
  /-- An unknown escape. -/
  | invalidEscape
  /-- A unit escape without four hexadecimal digits. -/
  | invalidUnitEscape
  /-- A byte order mark before the document. -/
  | byteOrderMark
  /-- A whole number with more digits than are read. -/
  | tooManyDigits (count : Nat)
deriving DecidableEq, Repr

/-- A flaw and what is left to read where it lies. -/
structure Fault where
  /-- What is wrong. -/
  flaw : Flaw
  /-- What is left to read there. -/
  rest : List Char
deriving DecidableEq, Repr

/-- The most digits that a whole number may have. -/
def maxDigits : Nat := 4300

/-- Blanks between tokens. -/
def isSpace (c : Char) : Bool :=
  c == ' ' || c == '\t' || c == '\n' || c == '\r'

/-- Skips blanks. -/
def skipSpace (cs : List Char) : List Char :=
  cs.dropWhile isSpace

/-- Stands for half of a surrogate pair without the other half, for which there is no
    character. -/
def replacement : Char := '\uFFFD'

/-- Whether a UTF-16 unit is the first of a pair. -/
def isHighUnit (n : Nat) : Bool := 0xD800 ≤ n && n ≤ 0xDBFF

/-- Whether a UTF-16 unit is the second of a pair. -/
def isLowUnit (n : Nat) : Bool := 0xDC00 ≤ n && n ≤ 0xDFFF

/-- The character of a UTF-16 unit outside a pair. -/
def unitChar (n : Nat) : Char :=
  if isHighUnit n || isLowUnit n then replacement else Char.ofNat n

/-- The character of a pair of UTF-16 units. -/
def pairChar (high low : Nat) : Char :=
  Char.ofNat (0x10000 + (high - 0xD800) * 0x400 + (low - 0xDC00))

/-- Reads four hexadecimal digits, which must not end the text. -/
def readUnit : List Char → Option (Nat × List Char)
  | a :: b :: c :: d :: e :: rest =>
      (Text.readHex? [a, b, c, d]).map fun n => (n, e :: rest)
  | _ => none

/-- The character of a one-letter escape. -/
def simpleEscape? : Char → Option Char
  | '"' => some '"'
  | '\\' => some '\\'
  | '/' => some '/'
  | 'b' => some '\x08'
  | 'f' => some '\x0c'
  | 'n' => some '\n'
  | 'r' => some '\r'
  | 't' => some '\t'
  | _ => none

/-- What stands after a unit escape: the second unit of a pair, if the first one
    asks for it and a whole escape follows. -/
inductive UnitTail where
  /-- The escape stands alone. -/
  | alone
  /-- The second unit and what follows it. -/
  | paired (low : Nat) (rest : List Char)
  /-- A second escape without four digits. -/
  | broken

/-- Looks for the second unit of a pair. -/
def unitTail (high : Nat) : List Char → UnitTail
  | '\\' :: 'u' :: a :: b :: c :: d :: e :: rest =>
      if isHighUnit high then
        match Text.readHex? [a, b, c, d] with
        | none => .broken
        | some low => if isLowUnit low then .paired low (e :: rest) else .alone
      else .alone
  | _ => .alone

/-- Reads the characters of a text up to its closing quote.  `start` is what was
    left to read at the opening quote. -/
def readString (start : List Char) (fuel : Nat) (cs : List Char) :
    Except Fault (List Char × List Char) :=
  match fuel, cs with
  | 0, _ => .error ⟨.unterminatedString, start⟩
  | _, [] => .error ⟨.unterminatedString, start⟩
  | fuel + 1, c :: rest =>
      if c = '"' then .ok ([], rest)
      else if c = '\\' then
        match rest with
        | [] => .error ⟨.unterminatedString, start⟩
        | 'u' :: digits =>
            match readUnit digits with
            | none => .error ⟨.invalidUnitEscape, cs⟩
            | some (high, rest) =>
                match unitTail high rest with
                | .broken => .error ⟨.invalidUnitEscape, cs⟩
                | .paired low rest => do
                    let (s, rest) ← readString start fuel rest
                    .ok (pairChar high low :: s, rest)
                | .alone => do
                    let (s, rest) ← readString start fuel rest
                    .ok (unitChar high :: s, rest)
        | e :: rest =>
            match simpleEscape? e with
            | none => .error ⟨.invalidEscape, cs⟩
            | some c => do
                let (s, rest) ← readString start fuel rest
                .ok (c :: s, rest)
      else if c.toNat < 0x20 then .error ⟨.controlCharacter, cs⟩
      else do
        let (s, rest) ← readString start fuel rest
        .ok (c :: s, rest)

/-- The digits at the start of a text, and the rest. -/
def spanDigits (cs : List Char) : List Char × List Char :=
  (cs.takeWhile Char.isDigit, cs.dropWhile Char.isDigit)

/-- Digits after a point, and the rest; nothing is read without a digit. -/
def readFraction : List Char → List Char × List Char
  | '.' :: rest =>
      match spanDigits rest with
      | ([], _) => ([], '.' :: rest)
      | found => found
  | cs => ([], cs)

/-- Value of a signed exponent, and the rest; nothing is read without a digit. -/
def readExponent (cs : List Char) : Option Int × List Char :=
  match cs with
  | e :: rest =>
      if e = 'e' ∨ e = 'E' then
        let (negative, digits) := match rest with
          | '-' :: ds => (true, ds)
          | '+' :: ds => (false, ds)
          | ds => (false, ds)
        match spanDigits digits with
        | ([], _) => (none, cs)
        | (ds, rest) =>
            let n := Int.ofNat (Decimal.ofDigits ds)
            (some (if negative then -n else n), rest)
      else (none, cs)
  | [] => (none, cs)

/-- Whole digits of a number: a zero alone, or digits that start with no zero. -/
def readWhole : List Char → Option (List Char × List Char)
  | '0' :: rest => some (['0'], rest)
  | cs =>
      match spanDigits cs with
      | ([], _) => none
      | found => some found

/-- Reads a number after its sign; `start` is what was left to read before the
    sign. -/
def readMagnitude (start : List Char) (negative : Bool) (cs : List Char) :
    Except Fault (Json × List Char) :=
  match readWhole cs with
  | none => .error ⟨.expectingValue, start⟩
  | some (whole, rest) =>
      match readFraction rest, readExponent (readFraction rest).2 with
      | ([], _), (none, _) =>
          if whole.length > maxDigits then .error ⟨.tooManyDigits whole.length, start⟩
          else
            let n := Int.ofNat (Decimal.ofDigits whole)
            .ok (.int (if negative then -n else n), rest)
      | (fraction, _), (exponent, rest) =>
          let digits := Decimal.ofDigits (whole ++ fraction)
          let e := exponent.getD 0 - Int.ofNat fraction.length
          .ok (.float (.ofDecimal negative digits e), rest)

/-- Reads a fixed word; none if the text starts otherwise. -/
def readWord (word : List Char) (v : Json) (cs : List Char) : Option (Json × List Char) :=
  if word.isPrefixOf cs then some (v, cs.drop word.length) else none

/-- The words that stand for a value. -/
def constants : List (String × Json) :=
  [("null", .null), ("true", .bool true), ("false", .bool false), ("NaN", .float .nan),
    ("Infinity", .float (.infinite false)), ("-Infinity", .float (.infinite true))]

/-- Reads a constant or a number. -/
def readScalar (cs : List Char) : Except Fault (Json × List Char) :=
  match constants.findSome? fun c => readWord c.1.toList c.2 cs with
  | some found => .ok found
  | none =>
      match cs with
      | '-' :: rest => readMagnitude cs true rest
      | _ => readMagnitude cs false cs

mutual

/-- Reads a value. -/
def readValue (fuel : Nat) (cs : List Char) : Except Fault (Json × List Char) :=
  match fuel, cs with
  | 0, _ => .error ⟨.expectingValue, cs⟩
  | _, [] => .error ⟨.expectingValue, []⟩
  | fuel + 1, c :: rest =>
      if c = '"' then do
        let (s, rest) ← readString cs fuel rest
        .ok (.str (String.ofList s), rest)
      else if c = '[' then
        match skipSpace rest with
        | ']' :: rest => .ok (.arr [], rest)
        | inner => do
            let (items, rest) ← readItems fuel inner
            .ok (.arr items, rest)
      else if c = '{' then
        match skipSpace rest with
        | '}' :: rest => .ok (.obj [], rest)
        | inner => do
            let (fields, rest) ← readFields fuel inner
            .ok (.obj (mergeFields fields), rest)
      else readScalar cs

/-- Reads the items of a list up to its closing bracket. -/
def readItems (fuel : Nat) (cs : List Char) : Except Fault (List Json × List Char) :=
  match fuel with
  | 0 => .error ⟨.expectingValue, cs⟩
  | fuel + 1 => do
      let (v, rest) ← readValue fuel cs
      match skipSpace rest with
      | ']' :: rest => .ok ([v], rest)
      | ',' :: rest => do
          let (vs, rest) ← readItems fuel (skipSpace rest)
          .ok (v :: vs, rest)
      | rest => .error ⟨.expectingComma, rest⟩

/-- Reads the fields of an object up to its closing brace. -/
def readFields (fuel : Nat) (cs : List Char) :
    Except Fault (List (String × Json) × List Char) :=
  match fuel, cs with
  | fuel + 1, '"' :: rest => do
      let (k, rest) ← readString cs fuel rest
      match skipSpace rest with
      | ':' :: rest => do
          let (v, rest) ← readValue fuel (skipSpace rest)
          match skipSpace rest with
          | '}' :: rest => .ok ([(String.ofList k, v)], rest)
          | ',' :: rest => do
              let (fs, rest) ← readFields fuel (skipSpace rest)
              .ok ((String.ofList k, v) :: fs, rest)
          | rest => .error ⟨.expectingComma, rest⟩
      | rest => .error ⟨.expectingColon, rest⟩
  | _, _ => .error ⟨.expectingName, cs⟩

end

/-- Reads a whole document: blanks, a value, blanks. -/
def readDocument (cs : List Char) : Except Fault Json :=
  match cs with
  | '\uFEFF' :: _ => .error ⟨.byteOrderMark, cs⟩
  | _ => do
      let (v, rest) ← readValue (2 * cs.length + 2) (skipSpace cs)
      match skipSpace rest with
      | [] => .ok v
      | rest => .error ⟨.extraData, rest⟩

/-- The line of a place in a text, from what is left to read there. -/
def lineAt (text rest : List Char) : Nat :=
  1 + (text.count '\n' - rest.count '\n')

/-- Why a text is no document: a flaw and its line. -/
structure DecodeError where
  /-- What is wrong. -/
  flaw : Flaw
  /-- The line it is on, counted from one. -/
  line : Nat
deriving DecidableEq, Repr

/-- Decodes a document. -/
def decode (text : String) : Except DecodeError Json :=
  match readDocument text.toList with
  | .ok v => .ok v
  | .error fault => .error ⟨fault.flaw, lineAt text.toList fault.rest⟩

/-- Wording of a flaw. -/
def Flaw.message : Flaw → String
  | .expectingValue => "Expecting value"
  | .expectingName => "Expecting property name enclosed in double quotes"
  | .expectingColon => "Expecting ':' delimiter"
  | .expectingComma => "Expecting ',' delimiter"
  | .extraData => "Extra data"
  | .unterminatedString => "Unterminated string starting at"
  | .controlCharacter => "Invalid control character at"
  | .invalidEscape => "Invalid \\escape"
  | .invalidUnitEscape => "Invalid \\uXXXX escape"
  | .byteOrderMark => "Unexpected UTF-8 BOM (decode using utf-8-sig)"
  | .tooManyDigits count =>
      "Exceeds the limit (4300 digits) for integer string conversion: value has "
        ++ toString count ++ " digits; use sys.set_int_max_str_digits() to increase the limit"

end EnvLint.Json
