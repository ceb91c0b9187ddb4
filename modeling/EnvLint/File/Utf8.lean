import EnvLint.Text.Hex

/-! # UTF-8

    Decoding octets.  The first octet of a character says how many follow and in
    which range the second one lies; all later ones are continuation octets.
    Where decoding stops, the bad part is the longest run of octets that could
    have started a character. -/

namespace EnvLint.Utf8

/-- Why octets are no character. -/
inductive Reason where
  /-- No character starts with this octet. -/
  | badStart
  /-- The next octet does not continue the character. -/
  | badContinuation
  /-- The octets end inside a character. -/
  | shortEnd
deriving DecidableEq, Repr

/-- Where and why decoding stops. -/
structure Fault where
  /-- The bad octets. -/
  octets : List UInt8
  /-- How many octets come before them. -/
  position : Nat
  /-- What is wrong with them. -/
  reason : Reason
deriving DecidableEq, Repr

/-- What a first octet promises. -/
structure Lead where
  /-- How many octets follow. -/
  more : Nat
  /-- Bits that the first octet contributes. -/
  bits : Nat
  /-- Least second octet. -/
  low : Nat
  /-- Greatest second octet. -/
  high : Nat
deriving DecidableEq, Repr

/-- Reads a first octet; none if no character starts with it. -/
def lead? (b : Nat) : Option Lead :=
  if b < 0x80 then some ⟨0, b, 0, 0⟩
  else if b < 0xC2 then none
  else if b < 0xE0 then some ⟨1, b - 0xC0, 0x80, 0xBF⟩
  else if b = 0xE0 then some ⟨2, b - 0xE0, 0xA0, 0xBF⟩
  else if b = 0xED then some ⟨2, b - 0xE0, 0x80, 0x9F⟩
  else if b < 0xF0 then some ⟨2, b - 0xE0, 0x80, 0xBF⟩
  else if b = 0xF0 then some ⟨3, b - 0xF0, 0x90, 0xBF⟩
  else if b < 0xF4 then some ⟨3, b - 0xF0, 0x80, 0xBF⟩
  else if b = 0xF4 then some ⟨3, b - 0xF0, 0x80, 0x8F⟩
  else none

/-- Reads the octets that a lead promises: the code point and their number, or how
    many of them are good and why the next is not. -/
def follow : (more bits low high : Nat) → List UInt8 → Except (Nat × Reason) (Nat × Nat)
  | 0, bits, _, _, _ => .ok (bits, 0)
  | _ + 1, _, _, _, [] => .error (0, .shortEnd)
  | more + 1, bits, low, high, b :: rest =>
      if low ≤ b.toNat ∧ b.toNat ≤ high then
        match follow more (bits * 64 + (b.toNat - 0x80)) 0x80 0xBF rest with
        | .ok (n, count) => .ok (n, count + 1)
        | .error (good, reason) => .error (good + 1, reason)
      else .error (0, .badContinuation)

/-- Reads the first character: its code point and its length, or the length of the
    bad part and what is wrong with it. -/
def first (b : UInt8) (rest : List UInt8) : Except (Nat × Reason) (Nat × Nat) :=
  match lead? b.toNat with
  | none => .error (1, .badStart)
  | some l =>
      match follow l.more l.bits l.low l.high rest with
      | .ok (n, count) => .ok (n, count + 1)
      | .error (good, reason) => .error (good + 1, reason)

/-- Decodes octets, `position` of which were read before; at most `fuel` characters
    are read. -/
def decodeFrom : (fuel position : Nat) → List UInt8 → Except Fault (List Char)
  | 0, _, _ => .ok []
  | _, _, [] => .ok []
  | fuel + 1, position, b :: rest =>
      match first b rest with
      | .error (bad, reason) => .error ⟨(b :: rest).take bad, position, reason⟩
      | .ok (n, length) => do
          let cs ← decodeFrom fuel (position + length) ((b :: rest).drop length)
          .ok (Char.ofNat n :: cs)

/-- Decodes octets. -/
def decode (octets : List UInt8) : Except Fault (List Char) :=
  decodeFrom octets.length 0 octets

/-- Encodes characters. -/
def encode (cs : List Char) : List UInt8 :=
  cs.flatMap String.utf8EncodeChar

/-- Wording of a reason. -/
def Reason.message : Reason → String
  | .badStart => "invalid start byte"
  | .badContinuation => "invalid continuation byte"
  | .shortEnd => "unexpected end of data"

/-- Wording of a fault: one bad octet is shown, several are named by position. -/
def Fault.message (f : Fault) : String :=
  let subject := match f.octets with
    | [b] =>
        "byte 0x" ++ String.ofList (Text.hexDigits 2 b.toNat) ++ " in position "
          ++ toString f.position
    | octets =>
        "bytes in position " ++ toString f.position ++ "-"
          ++ toString (f.position + octets.length - 1)
  "'utf-8' codec can't decode " ++ subject ++ ": " ++ f.reason.message

end EnvLint.Utf8
