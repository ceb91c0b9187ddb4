import EnvLint.Report.Palette
import EnvLint.Text.Blank

/-! # Styles

    A style sets or clears attributes of text and chooses colours.  A definition
    is a list of words: attributes, `not` before an attribute, a colour, `on` before
    the colour behind the text, and `link` before an address.  Later styles win
    over earlier ones. -/

namespace EnvLint.Report

/-- An attribute of text. -/
inductive Attribute where
  | bold
  | dim
  | italic
  | underline
  | blink
  | blinkFast
  | inverse
  | conceal
  | strike
  | underlineTwice
  | frame
  | encircle
  | overline
deriving DecidableEq, Repr

namespace Attribute

/-- All attributes in the order in which they are written. -/
def all : List Attribute :=
  [.bold, .dim, .italic, .underline, .blink, .blinkFast, .inverse, .conceal, .strike,
    .underlineTwice, .frame, .encircle, .overline]

/-- Word of an attribute. -/
def name : Attribute → String
  | .bold => "bold"
  | .dim => "dim"
  | .italic => "italic"
  | .underline => "underline"
  | .blink => "blink"
  | .blinkFast => "blink2"
  | .inverse => "reverse"
  | .conceal => "conceal"
  | .strike => "strike"
  | .underlineTwice => "underline2"
  | .frame => "frame"
  | .encircle => "encircle"
  | .overline => "overline"

/-- Terminal code of an attribute. -/
def code : Attribute → Nat
  | .bold => 1
  | .dim => 2
  | .italic => 3
  | .underline => 4
  | .blink => 5
  | .blinkFast => 6
  | .inverse => 7
  | .conceal => 8
  | .strike => 9
  | .underlineTwice => 21
  | .frame => 51
  | .encircle => 52
  | .overline => 53

/-- Short words of attributes. -/
def shortNames : List (String × Attribute) :=
  [("d", .dim), ("b", .bold), ("i", .italic), ("u", .underline), ("r", .inverse),
    ("c", .conceal), ("s", .strike), ("uu", .underlineTwice), ("o", .overline)]

/-- Reads an attribute. -/
def ofString? (s : String) : Option Attribute :=
  (all.find? fun a => a.name == s).or ((shortNames.find? fun e => e.1 == s).map Prod.snd)

end Attribute

/-- A style. -/
structure Style where
  /-- Attributes that are set or cleared, latest first. -/
  marks : List (Attribute × Bool)
  /-- Colour of the text. -/
  color : Option Color
  /-- Colour behind the text. -/
  background : Option Color
  /-- Address that the text leads to. -/
  link : Option String
deriving DecidableEq, Repr

namespace Style

/-- Changes nothing. -/
def plain : Style := ⟨[], none, none, none⟩

/-- Sets one attribute. -/
def ofAttribute (a : Attribute) : Style := ⟨[(a, true)], none, none, none⟩

/-- One style and then another. -/
def add (a b : Style) : Style :=
  ⟨b.marks ++ a.marks, b.color.or a.color, b.background.or a.background, b.link.or a.link⟩

/-- Whether an attribute is set, cleared or left alone. -/
def mark? (s : Style) (a : Attribute) : Option Bool :=
  (s.marks.find? fun m => m.1 == a).map Prod.snd

/-- Terminal codes of a style. -/
def codes (s : Style) : List Nat :=
  (Attribute.all.filter fun a => s.mark? a == some true).map Attribute.code
    ++ (s.color.map (Color.codes false)).getD []
    ++ (s.background.map (Color.codes true)).getD []

/-- Reads the words of a definition into a style. -/
def ofWords? (s : Style) : List String → Option Style
  | [] => some s
  | word :: rest =>
      let lower := word.toLower
      if lower = "on" then
        match rest with
        | [] => none
        | name :: rest => do
            let c ← Color.ofString? name
            ofWords? { s with background := some c } rest
      else if lower = "not" then
        match rest with
        | [] => none
        | name :: rest => do
            let a ← Attribute.ofString? name
            ofWords? { s with marks := (a, false) :: s.marks } rest
      else if lower = "link" then
        match rest with
        | [] => none
        | address :: rest => ofWords? { s with link := some address } rest
      else if let some a := Attribute.ofString? lower then
        ofWords? { s with marks := (a, true) :: s.marks } rest
      else do
        let c ← Color.ofString? lower
        ofWords? { s with color := some c } rest

/-- Reads a definition. -/
def ofString? (s : String) : Option Style :=
  let words := (Text.words s.toList).map String.ofList
  if words = ["none"] then some plain else ofWords? plain words

/-- Standard definition of a style. -/
def text (s : Style) : String :=
  let marks := Attribute.all.filterMap fun a =>
    (s.mark? a).map fun on => if on then a.name else "not " ++ a.name
  let words := marks ++ (s.color.map (·.name)).toList
    ++ ((s.background.map fun c => "on " ++ c.name)).toList
    ++ (s.link.map fun address => "link " ++ address).toList
  if words.isEmpty then "none" else " ".intercalate words

/-- Named styles that are no definitions, or mean something else as such. -/
def named : List (String × Style) :=
  [("bright", ⟨[(.dim, false)], none, none, none⟩), ("strong", ofAttribute .bold),
    ("code", ⟨[(.inverse, true), (.bold, true)], none, none, none⟩),
    ("emphasize", ofAttribute .italic),
    ("reset",
      ⟨[(.bold, false), (.dim, false), (.italic, false), (.underline, false), (.blink, false),
          (.blinkFast, false), (.inverse, false), (.conceal, false), (.strike, false)],
        some ⟨"default", .usual⟩, some ⟨"default", .usual⟩, none⟩)]

/-- The style of a name or a definition; an unknown one changes nothing. -/
def lookup (s : String) : Style :=
  ((named.find? fun e => e.1 == s).map Prod.snd).or (ofString? s) |>.getD plain

/-- The name under which a tag is opened and closed. -/
def tagName (s : String) : String :=
  match ofString? s with
  | some style => style.text
  | none => (String.ofList (Text.trim s.toList)).toLower

end Style

end EnvLint.Report
