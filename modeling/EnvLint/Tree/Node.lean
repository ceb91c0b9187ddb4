import EnvLint.Json.Show

/-! # Syntax-tree nodes

    A node is an object with a text under `type`.  This module reads the few
    shapes that the rule looks at: identifiers, string literals, and fields that
    have to hold a node of a given type. -/

namespace EnvLint.Tree

/-- The type of a node; none if the value is no node. -/
def typeOf? (v : Json) : Option String :=
  (v.get? "type").bind Json.str?

/-- Whether a value is a node. -/
def isNode (v : Json) : Bool :=
  (typeOf? v).isSome

/-- Whether a value is an object of a given type. -/
def hasType (v : Json) (name : String) : Bool :=
  typeOf? v == some name

/-- Name of a plain identifier; none for anything else. -/
def identifierName (v : Json) : Option String :=
  if hasType v "Identifier" then (v.get? "name").bind Json.str? else none

/-- Value of a string literal; none for anything else. -/
def stringLiteral (v : Json) : Option String :=
  if hasType v "Literal" then (v.get? "value").bind Json.str? else none

/-- A value that was given where a node is needed, by its kind. -/
structure NotNode where
  /-- Kind of the value. -/
  kind : String
deriving DecidableEq, Repr

/-- Wording of a missing node. -/
def NotNode.message (e : NotNode) : String :=
  "expected ESTree node, got " ++ e.kind

/-- The type of a node, or why there is none. -/
def typeOf (v : Json) : Except NotNode String :=
  match typeOf? v with
  | some name => .ok name
  | none => .error ⟨v.kind⟩

end EnvLint.Tree
