import EnvLint.Decimal.Shortest
import EnvLint.Json.Basic
import EnvLint.Text.Hex

/-! # Writing documents

    A document as ASCII text, on one line or with one item per line.  Characters
    outside the printable ASCII range are written as escapes of their UTF-16
    units. -/

namespace EnvLint.Json

/-- How a document is laid out: on one line, or with a line per item and this many
    blanks per level. -/
inductive Layout where
  /-- All on one line. -/
  | compact
  /-- A line per item. -/
  | lines (indent : Nat)
deriving DecidableEq, Repr

namespace Layout

/-- What separates an item at a level from the item or bracket before it. -/
def lineBreak : Layout → Nat → List Char
  | .compact, _ => []
  | .lines indent, level => '\n' :: List.replicate (indent * level) ' '

/-- What separates two items at a level. -/
def comma : Layout → Nat → List Char
  | .compact, _ => [',', ' ']
  | .lines indent, level => ',' :: '\n' :: List.replicate (indent * level) ' '

end Layout

/-- Escape of one UTF-16 unit. -/
def unitEscape (unit : Nat) : List Char :=
  '\\' :: 'u' :: Text.hexDigits 4 unit

/-- One character inside a written text. -/
def escapeChar (c : Char) : List Char :=
  if c = '"' ∨ c = '\\' then ['\\', c]
  else if ' ' ≤ c ∧ c ≤ '~' then [c]
  else if c = '\n' then ['\\', 'n']
  else if c = '\r' then ['\\', 'r']
  else if c = '\t' then ['\\', 't']
  else if c = '\x08' then ['\\', 'b']
  else if c = '\x0c' then ['\\', 'f']
  else if c.toNat < 0x10000 then unitEscape c.toNat
  else
    unitEscape (0xD800 + (c.toNat - 0x10000) / 0x400)
      ++ unitEscape (0xDC00 + (c.toNat - 0x10000) % 0x400)

/-- A text in double quotes. -/
def encodeString (s : String) : List Char :=
  '"' :: s.toList.flatMap escapeChar ++ ['"']

/-- A number with a point or an exponent; the three special values have names. -/
def encodeFloat : Decimal.Binary64 → List Char
  | .nan => "NaN".toList
  | .infinite negative => if negative then "-Infinity".toList else "Infinity".toList
  | x => x.text

mutual

/-- Writes a value whose items stand at a level. -/
def encodeAt (layout : Layout) (level : Nat) : Json → List Char
  | .null => "null".toList
  | .bool b => if b then "true".toList else "false".toList
  | .int n => Decimal.intText n
  | .float x => encodeFloat x
  | .str s => encodeString s
  | .arr [] => ['[', ']']
  | .arr (v :: vs) =>
      '[' :: layout.lineBreak (level + 1) ++ encodeItems layout (level + 1) (v :: vs)
        ++ layout.lineBreak level ++ [']']
  | .obj [] => ['{', '}']
  | .obj (f :: fs) =>
      '{' :: layout.lineBreak (level + 1) ++ encodeFields layout (level + 1) (f :: fs)
        ++ layout.lineBreak level ++ ['}']

/-- Writes the items of a list. -/
def encodeItems (layout : Layout) (level : Nat) : List Json → List Char
  | [] => []
  | [v] => encodeAt layout level v
  | v :: vs => encodeAt layout level v ++ layout.comma level ++ encodeItems layout level vs

/-- Writes the fields of an object. -/
def encodeFields (layout : Layout) (level : Nat) : List (String × Json) → List Char
  | [] => []
  | [(k, v)] => encodeString k ++ ':' :: ' ' :: encodeAt layout level v
  | (k, v) :: fs =>
      encodeString k ++ ':' :: ' ' :: encodeAt layout level v ++ layout.comma level
        ++ encodeFields layout level fs

end

/-- A document as text. -/
def encode (v : Json) (layout : Layout) : String :=
  String.ofList (encodeAt layout 0 v)

end EnvLint.Json
