import EnvLint.Host
import EnvLint.Report.StyledText

/-! # Markup

    Text with tags in square brackets.  A tag starts with a lower-case letter,
    `#`, `/` or `@`, holds no opening bracket and ends at the first closing one;
    other brackets are text.  An odd number of backslashes before a tag makes it
    text, and every two of them stand for one.

    Between tags a name between two colons stands for an emoji, if one has that
    name. -/

namespace EnvLint.Report

namespace Markup

/-- Whether a character starts a tag. -/
def startsTag (c : Char) : Bool :=
  ('a' ≤ c && c ≤ 'z') || c == '#' || c == '/' || c == '@'

/-- The text of a tag after its opening bracket, and what follows it. -/
def tag? (cs : List Char) : Option (List Char × List Char) :=
  match cs with
  | c :: rest =>
      let more := rest.takeWhile fun d => d != ']' && d != '['
      match rest.drop more.length with
      | ']' :: after => if startsTag c then some (c :: more, after) else none
      | _ => none
  | [] => none

/-- Backslashes at the start, and what follows them. -/
def backslashes (cs : List Char) : Nat × List Char :=
  ((cs.takeWhile (· == '\\')).length, cs.dropWhile (· == '\\'))

/-- Escapes tags: backslashes before a tag are doubled, and one more is added. -/
def escapeTags : (fuel : Nat) → List Char → List Char
  | 0, cs => cs
  | _, [] => []
  | fuel + 1, c :: cs =>
      match backslashes (c :: cs) with
      | (n, '[' :: rest) =>
          match tag? rest with
          | some (tag, after) =>
              List.replicate (2 * n + 1) '\\' ++ '[' :: tag ++ ']' :: escapeTags fuel after
          | none => List.replicate n '\\' ++ '[' :: escapeTags fuel rest
      | (n, rest) =>
          if n = 0 then c :: escapeTags fuel cs
          else List.replicate n '\\' ++ escapeTags fuel rest

/-- Makes a text that shows itself; one backslash at the end is doubled. -/
def escape (cs : List Char) : List Char :=
  let escaped := escapeTags cs.length cs
  match escaped.reverse with
  | '\\' :: '\\' :: _ => escaped
  | '\\' :: _ => escaped ++ ['\\']
  | _ => escaped

/-- A piece of markup. -/
inductive Piece where
  /-- A character of the text. -/
  | char (c : Char)
  /-- A place between two stretches of text. -/
  | bound
  /-- A tag and its position. -/
  | tag (text : List Char) (position : Nat)
deriving DecidableEq, Repr

/-- The pieces of a tag that is text: a stretch of its own. -/
def tagAsText (tag : List Char) : List Piece :=
  .bound :: ((('[' :: tag) ++ [']']).map .char ++ [.bound])

/-- Reads markup; `position` characters were read before. -/
def pieces : (fuel position : Nat) → List Char → List Piece
  | 0, _, _ => []
  | _, _, [] => []
  | fuel + 1, position, c :: cs =>
      match backslashes (c :: cs) with
      | (n, '[' :: rest) =>
          match tag? rest with
          | some (tag, after) =>
              let length := n + tag.length + 2
              let slashes := List.replicate (n / 2) (Piece.char '\\')
              let tagged := if n % 2 = 1 then tagAsText tag else [.tag tag (position + n)]
              slashes ++ tagged ++ pieces fuel (position + length) after
          | none =>
              List.replicate (n - 1) (.char '\\') ++ .char '[' ::
                pieces fuel (position + n + 1) rest
      | (n, rest) =>
          if n = 0 then .char c :: pieces fuel (position + 1) cs
          else List.replicate n (.char '\\') ++ pieces fuel (position + n) rest

/-! ## Emoji -/

/-- How the end of a name asks for a variant of an emoji, and the character that makes it. -/
def variants : List (String × Char) := [("-emoji", '\ufe0f'), ("-text", '\ufe0e')]

/-- What a name between two colons shows: an emoji in a variant, or itself. -/
def emoji [Host] (name : List Char) : List Char :=
  let variant := variants.find? fun v => v.1.toList.isSuffixOf name
  let ending := (variant.map fun v => v.1.length).getD 0
  match Host.emoji? (name.take (name.length - ending)) with
  | some text => text ++ (variant.map Prod.snd).toList
  | none => ':' :: name ++ [':']

/-- Replaces the names of emoji in a stretch of text.  Names hold no blanks; `name` is
    what was read since a colon, latest first. -/
def replaceNames [Host] : (name : Option (List Char)) → List Char → List Char
  | none, [] => []
  | some name, [] => ':' :: name.reverse
  | none, c :: cs => if c = ':' then replaceNames (some []) cs else c :: replaceNames none cs
  | some name, c :: cs =>
      if c = ':' then emoji name.reverse ++ replaceNames none cs
      else if Text.isBlank c then ':' :: name.reverse ++ c :: replaceNames none cs
      else replaceNames (some (c :: name)) cs

/-- Replaces the names of emoji in each stretch; `stretch` is what was read of one, latest
    first. -/
def withEmoji [Host] : (stretch : List Char) → List Piece → List Piece
  | stretch, [] => (replaceNames none stretch.reverse).map .char
  | stretch, .char c :: ps => withEmoji (c :: stretch) ps
  | stretch, p :: ps => (replaceNames none stretch.reverse).map .char ++ p :: withEmoji [] ps

/-! ## Rendering -/

/-- Why markup cannot be shown. -/
inductive Fault where
  /-- A closing tag whose opening tag is missing. -/
  | unopened (tag : List Char) (position : Nat)
  /-- A closing tag without a name where no tag is open. -/
  | nothingToClose (position : Nat)
  /-- A tag whose call is refused, with the words for it. -/
  | call (words : String)
deriving DecidableEq, Repr

/-- Wording of a fault. -/
def Fault.message : Fault → String
  | .unopened tag position =>
      "closing tag '[" ++ String.ofList tag ++ "]' at position " ++ toString position
        ++ " doesn't match any open tag"
  | .nothingToClose position =>
      "closing tag '[/]' at position " ++ toString position ++ " has nothing to close"
  | .call words => words

/-- A tag that is open: where it started, its name, what it stands for and what it calls. -/
structure Open where
  /-- First character of its stretch. -/
  start : Nat
  /-- The name that closes it. -/
  name : String
  /-- The style that it stands for. -/
  style : Style
  /-- What a tag with `@` calls. -/
  call : Option (List Char)

/-- What a tag opens: the part before `=` is its name, and the rest its parameters. -/
def Open.ofTag (start : Nat) (tag : List Char) : Open :=
  let words := tag.takeWhile (· != '=')
  let name := Style.tagName (String.ofList words)
  let parameters := tag.drop (words.length + 1)
  let definition := if '=' ∈ tag then name ++ " " ++ String.ofList parameters else name
  let call := if name.startsWith "@" && !parameters.isEmpty then some parameters else none
  ⟨start, name, Style.lookup definition, call⟩

/-- Characters that a terminal would act on and that are not shown. -/
def isControl (c : Char) : Bool :=
  c == '\x07' || c == '\x08' || c == '\x0b' || c == '\x0c' || c == '\r'

/-- Where rendering stands: characters and stretches so far, both latest first, and
    the open tags, innermost first. -/
structure State where
  /-- Characters so far, latest first. -/
  chars : List Char
  /-- Number of characters so far. -/
  length : Nat
  /-- Closed stretches, latest first. -/
  spans : List Span
  /-- Open tags, innermost first. -/
  opened : List Open

namespace State

/-- Closes an open tag.  What it calls is looked at now. -/
def close [Host] (s : State) (o : Open) (opened : List Open) : Except Fault State :=
  match o.call.bind Host.callFault? with
  | some words => .error (.call words)
  | none => .ok { s with spans := ⟨o.start, s.length, o.style⟩ :: s.spans, opened }

/-- Takes a tag. -/
def takeTag [Host] (s : State) (tag : List Char) (position : Nat) : Except Fault State :=
  match tag.takeWhile (· != '=') with
  | '/' :: closing =>
      if (Text.trim closing).isEmpty then
        match s.opened with
        | o :: opened => s.close o opened
        | [] => .error (.nothingToClose position)
      else
        let wanted := Style.tagName (String.ofList (Text.trim closing))
        match s.opened.find? fun o => o.name == wanted with
        | some o =>
            let outer := s.opened.dropWhile fun o => o.name != wanted
            let inner := s.opened.takeWhile fun o => o.name != wanted
            s.close o (inner ++ outer.drop 1)
        | none => .error (.unopened tag position)
  | _ => .ok { s with opened := .ofTag s.length tag :: s.opened }

/-- Takes a piece of markup. -/
def take [Host] (s : State) : Piece → Except Fault State
  | .char c =>
      .ok (if isControl c then s else { s with chars := c :: s.chars, length := s.length + 1 })
  | .bound => .ok s
  | .tag text position => s.takeTag text position

/-- The text and its stretches, by their start and the outer ones first; open tags
    reach to the end. -/
def finish (s : State) : StyledText :=
  let rest := s.opened.map fun o => ⟨o.start, s.length, o.style⟩
  ⟨s.chars.reverse, (rest.reverse ++ s.spans).mergeSort fun a b => a.start ≤ b.start⟩

end State

/-- The text that markup shows. -/
def render [Host] (cs : List Char) : Except Fault StyledText := do
  let s ← (withEmoji [] (pieces cs.length 0 cs)).foldlM State.take ⟨[], 0, [], []⟩
  .ok s.finish

end Markup

end EnvLint.Report
