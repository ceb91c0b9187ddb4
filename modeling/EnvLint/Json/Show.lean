import EnvLint.Decimal.Shortest
import EnvLint.Json.Basic
import EnvLint.Text.Quoted

/-! # Values in messages

    How a message shows a value: texts stand for themselves, or in quotes inside
    lists and objects, and the three constants are spelled `None`, `True` and
    `False`. -/

namespace EnvLint.Json

/-- Spelling of a truth value. -/
def boolText (b : Bool) : List Char :=
  if b then "True".toList else "False".toList

mutual

/-- A value as shown inside another, texts in quotes. -/
def shown : Json → List Char
  | .null => "None".toList
  | .bool b => boolText b
  | .int n => Decimal.intText n
  | .float x => x.text
  | .str s => Text.quoted s.toList
  | .arr items => '[' :: shownItems items ++ [']']
  | .obj fields => '{' :: shownFields fields ++ ['}']

/-- The items of a list, separated by commas. -/
def shownItems : List Json → List Char
  | [] => []
  | [v] => shown v
  | v :: vs => shown v ++ ',' :: ' ' :: shownItems vs

/-- The fields of an object, separated by commas. -/
def shownFields : List (String × Json) → List Char
  | [] => []
  | [(k, v)] => Text.quoted k.toList ++ ':' :: ' ' :: shown v
  | (k, v) :: fs => Text.quoted k.toList ++ ':' :: ' ' :: shown v ++ ',' :: ' ' :: shownFields fs

end

/-- A value in quotes where it is a text. -/
def repr (v : Json) : String :=
  String.ofList v.shown

/-- A value as text, a text standing for itself. -/
def text : Json → String
  | .str s => s
  | v => v.repr

/-- The name of a value's kind. -/
def kind : Json → String
  | .null => "NoneType"
  | .bool _ => "bool"
  | .int _ => "int"
  | .float _ => "float"
  | .str _ => "str"
  | .arr _ => "list"
  | .obj _ => "dict"

end EnvLint.Json
