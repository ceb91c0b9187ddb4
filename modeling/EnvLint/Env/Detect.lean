import EnvLint.Failure
import EnvLint.Tree.Children

/-! # What the rule looks for

    Shapes of single nodes: the client directive at the start of a module, an
    accessor's import, the export that makes a module dynamic, and a read of a
    name on the accessor. -/

namespace EnvLint.Env

/-- The directive of a client module. -/
def clientDirective : String := "use client"

/-- The export that controls rendering. -/
def dynamicName : String := "dynamic"

/-- The value of that export that makes a module dynamic. -/
def forceDynamic : String := "force-dynamic"

/-- Whether a statement is the client directive. -/
def isDirective (statement : Json) : Bool :=
  Tree.hasType statement "ExpressionStatement" &&
    (statement.get? "expression").bind Tree.stringLiteral == some clientDirective

/-- Whether the first statement of a module is the client directive. -/
def isClientDirective (program : Json) : Bool :=
  match program.get? "body" with
  | some (.arr (statement :: _)) => isDirective statement
  | _ => false

/-- The items that a value is walked through as a list: a list has its items, an
    object and a text have keys and characters, of which none is a node, and an
    empty value has none. -/
def itemsOf (v : Json) : Except Failure (List Json) :=
  match v with
  | .arr items => .ok items
  | .obj _ | .str _ => .ok []
  | v => if v.truthy then .error (.notList v.kind) else .ok []

/-- Local name of a named import specifier; none if it has no name. -/
def specifierName (specifier : Json) : Option String :=
  if Tree.hasType specifier "ImportSpecifier" then
    ((specifier.get? "local").bind Tree.identifierName).filter (· != "")
  else none

/-- Local name of the first named specifier that imports from a source. -/
def importAlias (node : Json) (source : String) : Except Failure (Option String) :=
  if (node.get? "source").bind Tree.stringLiteral != some source then .ok none
  else do
    let specifiers ← itemsOf ((node.get? "specifiers").getD .null)
    .ok (specifiers.findSome? specifierName)

/-- Whether a declarator gives the export the dynamic value. -/
def isForceDynamicDeclarator (declarator : Json) : Bool :=
  (declarator.get? "id").bind Tree.identifierName == some dynamicName &&
    (declarator.get? "init").bind Tree.stringLiteral == some forceDynamic

/-- Whether an export makes the module dynamic. -/
def declaresForceDynamic (node : Json) : Bool :=
  match node.get? "declaration" with
  | some declaration =>
      Tree.hasType declaration "VariableDeclaration" &&
        (match declaration.get? "declarations" with
        | some (.arr declarators) => declarators.any isForceDynamicDeclarator
        | _ => false)
  | none => false

/-- Object name and property of a member expression by plain names; none for a
    computed one. -/
def memberAccess (node : Json) : Option (String × Json) :=
  if ((node.get? "computed").map Json.truthy).getD false then none
  else do
    let object ← (node.get? "object").bind Tree.identifierName
    let property ← node.get? "property"
    let _ ← Tree.identifierName property
    some (object, property)

/-- The place of a node in a document.  A node without a position is a fault of the
    tree, at the start of the document. -/
def placeOf (node : Json) (path : Option Path) : Except Failure Location :=
  match span? node, path with
  | some (start, stop), path =>
      (Location.make path start.1 start.2 (stop.map Prod.fst) (stop.map Prod.snd)).mapError
        .location
  | none, none => .error (.location .noFile)
  | none, some path =>
      let type := ((node.get? "type").map Json.text).getD "<node>"
      .error (.tree path (.startOf path) (.unplaced type))

end EnvLint.Env
