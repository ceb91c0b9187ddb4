import EnvLint.Text.Hex
import EnvLint.Text.Printable

/-! # Quoted text

    How messages quote a text: in single quotes, or in double quotes if it holds
    single quotes and no double ones.  The quote, the backslash and all
    characters that are not printable are escaped. -/

namespace EnvLint.Text

/-- The quote that surrounds a text. -/
def quoteFor (cs : List Char) : Char :=
  if cs.contains '\'' && !cs.contains '"' then '"' else '\''

/-- One character between quotes. -/
def quoteChar (quote c : Char) : List Char :=
  if c = quote ∨ c = '\\' then ['\\', c]
  else if c = '\n' then ['\\', 'n']
  else if c = '\r' then ['\\', 'r']
  else if c = '\t' then ['\\', 't']
  else if isPrintable c then [c]
  else if c.toNat < 0x100 then '\\' :: 'x' :: hexDigits 2 c.toNat
  else if c.toNat < 0x10000 then '\\' :: 'u' :: hexDigits 4 c.toNat
  else '\\' :: 'U' :: hexDigits 8 c.toNat

/-- A text in quotes. -/
def quoted (cs : List Char) : List Char :=
  let quote := quoteFor cs
  quote :: cs.flatMap (quoteChar quote) ++ [quote]

/-- A string in quotes. -/
def quote (s : String) : String :=
  String.ofList (quoted s.toList)

end EnvLint.Text
