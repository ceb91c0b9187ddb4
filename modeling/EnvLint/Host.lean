import EnvLint.File.Entry
import EnvLint.Json.Size

/-! # Hosts

    What a run depends on besides its input.  The stack is finite, so a recursion
    that goes as deep as its input may exhaust it; when it does depends on the
    interpreter and on the calls in progress.  File systems limit the length of
    names and paths.  The names of characters and of emoji come from tables that
    are not part of the program, links are told apart by random numbers, and a
    terminal may understand no codes. -/

namespace EnvLint

/-- A recursion that goes as deep as its input. -/
inductive Recursion where
  /-- Decoding a document, a number of calls further down than the caller. -/
  | decode (calls : Nat) (text : List Char)
  /-- Reading a pattern. -/
  | pattern (source : List Char)
  /-- Writing a value in a message. -/
  | write (value : Json)
  /-- Searching a directory with a glob. -/
  | search (start : Entry) (glob : String)

namespace Recursion

/-- Whether a character opens a list or an object of a document. -/
def opens (c : Char) : Bool := c == '[' || c == '{'

/-- A number of steps down that a recursion does not exceed. -/
def size : Recursion → Nat
  | .decode calls text => calls + text.countP opens
  | .pattern source => source.count '('
  | .write value => value.size
  | .search start glob => start.size * (glob.toList.count '/' + 2)

end Recursion

/-- A terminal, as far as a printer asks for it. -/
structure Terminal where
  /-- Whether it says of itself that it understands no codes. -/
  dumb : Bool
  /-- Whether the environment gives its number of lines. -/
  sized : Bool
deriving DecidableEq, Repr

/-- A terminal on which a report has the width that it asks for: one that understands
    codes, or whose number of lines is known. -/
def Terminal.HeedsWidth (t : Terminal) : Prop := t.dumb = false ∨ t.sized = true

instance (t : Terminal) : Decidable t.HeedsWidth := inferInstanceAs (Decidable (_ ∨ _))

/-- Where a run takes place. -/
class Host where
  /-- The words in which a recursion fails that exhausts the stack; none if the stack is
      deep enough. -/
  overflow? : Recursion → Option String
  /-- The size up to which a recursion never exhausts the stack. -/
  room : Nat
  /-- There is room for one step down. -/
  room_pos : 0 < room
  /-- Recursions up to that size do not fail. -/
  overflow?_eq_none (r : Recursion) : r.size ≤ room → overflow? r = none
  /-- How many octets the name of an entry may have. -/
  longestName : Nat
  /-- How many octets a path may have. -/
  longestPath : Nat
  /-- The character of a name. -/
  character? : List Char → Option Char
  /-- The text of an emoji, by the name that a report gives it. -/
  emoji? : List Char → Option (List Char)
  /-- The text of an emoji holds no escape character. -/
  emoji_unmarked (name text : List Char) : emoji? name = some text → '\x1b' ∉ text
  /-- The words in which a report refuses what a tag calls. -/
  callFault? : List Char → Option String
  /-- The number of a link, by the line and the run of the report that it stands in. -/
  linkNumber (line run : Nat) : Nat
  /-- The terminal that reports are written to. -/
  terminal : Terminal

namespace Host

/-- Names of the characters that have no letters or digits of their own to name them. -/
def signNames : List (String × Char) :=
  [("SPACE", ' '), ("LOW LINE", '_'), ("HYPHEN-MINUS", '-'), ("FULL STOP", '.'),
    ("DIGIT ZERO", '0'), ("DIGIT ONE", '1'), ("DIGIT TWO", '2'), ("DIGIT THREE", '3'),
    ("DIGIT FOUR", '4'), ("DIGIT FIVE", '5'), ("DIGIT SIX", '6'), ("DIGIT SEVEN", '7'),
    ("DIGIT EIGHT", '8'), ("DIGIT NINE", '9')]

/-- A host whose stack is never exhausted, with the limits that file systems mostly have, a
    short table of names, no emoji and a terminal that understands codes. -/
@[reducible] def standard : Host where
  overflow? _ := none
  room := 1
  room_pos := Nat.one_pos
  overflow?_eq_none _ _ := rfl
  longestName := 255
  longestPath := 4095
  character? name := (signNames.find? fun e => e.1.toList == name).map Prod.snd
  emoji? _ := none
  emoji_unmarked _ _ h := nomatch h
  callFault? _ := none
  linkNumber _ _ := 0
  terminal := ⟨false, false⟩

end Host

end EnvLint
