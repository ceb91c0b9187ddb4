import EnvLint.Json.Size
import EnvLint.Tree.Node

/-! # Children of a node

    Which fields of a node hold its children, in source order.  Types of the
    table have a fixed row; a type outside it is searched in the order of its
    own fields, position and comment data left out.  Lists are flattened once,
    and values that are no nodes are skipped. -/

namespace EnvLint.Tree

/-- Fields that never hold children. -/
def nonChildKeys : List String :=
  ["type", "loc", "range", "start", "end", "parent", "tokens", "comments", "leadingComments",
    "trailingComments"]

/-- Child fields of the known node types, in source order.  Type positions are not
    descended into. -/
def childKeyTable : List (String × List String) := [
    ("AccessorProperty", ["decorators", "key", "value"]), ("ArrayExpression", ["elements"]),
    ("ArrayPattern", ["decorators", "elements"]), ("ArrowFunctionExpression", ["params", "body"]),
    ("AssignmentExpression", ["left", "right"]),
    ("AssignmentPattern", ["decorators", "left", "right"]), ("AwaitExpression", ["argument"]),
    ("BinaryExpression", ["left", "right"]), ("BlockStatement", ["body"]),
    ("BreakStatement", ["label"]), ("CallExpression", ["callee", "arguments"]),
    ("CatchClause", ["param", "body"]), ("ChainExpression", ["expression"]),
    ("ClassBody", ["body"]), ("ClassDeclaration", ["decorators", "id", "superClass", "body"]),
    ("ClassExpression", ["decorators", "id", "superClass", "body"]),
    ("ConditionalExpression", ["test", "consequent", "alternate"]),
    ("ContinueStatement", ["label"]), ("DebuggerStatement", []), ("Decorator", ["expression"]),
    ("DoWhileStatement", ["body", "test"]), ("EmptyStatement", []),
    ("ExportAllDeclaration", ["exported", "source"]), ("ExportDefaultDeclaration", ["declaration"]),
    ("ExportNamedDeclaration", ["declaration", "specifiers", "source"]),
    ("ExportSpecifier", ["local", "exported"]), ("ExpressionStatement", ["expression"]),
    ("ForInStatement", ["left", "right", "body"]), ("ForOfStatement", ["left", "right", "body"]),
    ("ForStatement", ["init", "test", "update", "body"]),
    ("FunctionDeclaration", ["id", "params", "body"]),
    ("FunctionExpression", ["id", "params", "body"]), ("Identifier", ["decorators"]),
    ("IfStatement", ["test", "consequent", "alternate"]),
    ("ImportDeclaration", ["specifiers", "source"]), ("ImportDefaultSpecifier", ["local"]),
    ("ImportExpression", ["source"]), ("ImportNamespaceSpecifier", ["local"]),
    ("ImportSpecifier", ["imported", "local"]), ("LabeledStatement", ["label", "body"]),
    ("Literal", []), ("LogicalExpression", ["left", "right"]),
    ("MemberExpression", ["object", "property"]), ("MetaProperty", ["meta", "property"]),
    ("MethodDefinition", ["decorators", "key", "value"]),
    ("NewExpression", ["callee", "arguments"]), ("ObjectExpression", ["properties"]),
    ("ObjectPattern", ["decorators", "properties"]), ("PrivateIdentifier", []),
    ("Program", ["body"]), ("Property", ["key", "value"]),
    ("PropertyDefinition", ["decorators", "key", "value"]),
    ("RestElement", ["decorators", "argument"]), ("ReturnStatement", ["argument"]),
    ("SequenceExpression", ["expressions"]), ("SpreadElement", ["argument"]),
    ("StaticBlock", ["body"]), ("Super", []), ("SwitchCase", ["test", "consequent"]),
    ("SwitchStatement", ["discriminant", "cases"]), ("TaggedTemplateExpression", ["tag", "quasi"]),
    ("TemplateElement", []), ("TemplateLiteral", ["quasis", "expressions"]), ("ThisExpression", []),
    ("ThrowStatement", ["argument"]), ("TryStatement", ["block", "handler", "finalizer"]),
    ("UnaryExpression", ["argument"]), ("UpdateExpression", ["argument"]),
    ("VariableDeclaration", ["declarations"]), ("VariableDeclarator", ["id", "init"]),
    ("WhileStatement", ["test", "body"]), ("WithStatement", ["object", "body"]),
    ("YieldExpression", ["argument"]), ("JSXAttribute", ["name", "value"]),
    ("JSXClosingElement", ["name"]), ("JSXClosingFragment", []),
    ("JSXElement", ["openingElement", "children", "closingElement"]), ("JSXEmptyExpression", []),
    ("JSXExpressionContainer", ["expression"]),
    ("JSXFragment", ["openingFragment", "children", "closingFragment"]), ("JSXIdentifier", []),
    ("JSXMemberExpression", ["object", "property"]), ("JSXNamespacedName", ["namespace", "name"]),
    ("JSXOpeningElement", ["name", "attributes"]), ("JSXOpeningFragment", []),
    ("JSXSpreadAttribute", ["argument"]), ("JSXSpreadChild", ["expression"]), ("JSXText", []),
    ("TSAsExpression", ["expression"]), ("TSNonNullExpression", ["expression"]),
    ("TSParameterProperty", ["decorators", "parameter"]), ("TSSatisfiesExpression", ["expression"]),
    ("TSTypeAssertion", ["expression"])]

/-- The table row of a node type. -/
def knownChildKeys (name : String) : Option (List String) :=
  (childKeyTable.find? fun row => row.1 == name).map Prod.snd

/-- Fields of a value; none but for an object. -/
def fieldsOf : Json → List (String × Json)
  | .obj fields => fields
  | _ => []

/-- The names of a value's own fields that hold children if its type is not in the
    table, each once. -/
def ownChildKeys (v : Json) : List String :=
  ((fieldsOf v).map Prod.fst).eraseDups.filter fun key => !nonChildKeys.contains key

/-- Names of the fields that may hold children. -/
def childKeys (v : Json) : List String :=
  match (typeOf? v).bind knownChildKeys with
  | some keys => keys
  | none => ownChildKeys v

/-- The nodes that a child field holds: itself, or the nodes of its list. -/
def nodesIn : Json → List Json
  | .arr items => items.filter isNode
  | v => if isNode v then [v] else []

/-- The nodes under a key; none if there is no such field. -/
def nodesUnder (v : Json) (key : String) : List Json :=
  ((v.get? key).map nodesIn).getD []

/-- Direct children of a node, in source order. -/
def children (v : Json) : List Json :=
  (childKeys v).flatMap (nodesUnder v)

/-- Names of the fields of a node that may hold children, or why there are none. -/
def readChildKeys (v : Json) : Except NotNode (List String) :=
  (typeOf v).map fun _ => childKeys v

/-- Direct children of a node, or why there are none. -/
def readChildren (v : Json) : Except NotNode (List Json) :=
  (typeOf v).map fun _ => children v

/-! ## Children are smaller

    The keys of a node are distinct, so its children are disjoint parts of it. -/

/-- Erasing repetitions leaves no item twice. -/
theorem nodup_eraseDups {α : Type} [BEq α] [LawfulBEq α] (items : List α) :
    items.eraseDups.Nodup := by
  induction hn : items.length using Nat.strongRecOn generalizing items with
  | ind n ih =>
      cases items with
      | nil => exact List.nodup_nil
      | cons item items =>
          rw [List.eraseDups_cons]
          have hlen := List.length_filter_le (fun other => !other == item) items
          rw [List.length_cons] at hn
          refine List.nodup_cons.mpr ⟨?_, ih _ (by omega) _ rfl⟩
          rw [List.mem_eraseDups, List.mem_filter]
          simp

/-- No row of the table names a field twice. -/
theorem nodup_of_mem_table : ∀ row ∈ childKeyTable, row.2.Nodup := by
  decide

/-- The keys of a node are distinct. -/
theorem childKeys_nodup (v : Json) : (childKeys v).Nodup := by
  rw [childKeys]
  split
  next keys hkeys =>
    obtain ⟨type, -, hknown⟩ := Option.bind_eq_some_iff.mp hkeys
    obtain ⟨row, hfind, rfl⟩ := Option.map_eq_some_iff.mp hknown
    exact nodup_of_mem_table row (List.mem_of_find?_eq_some hfind)
  next =>
    exact (nodup_eraseDups _).filter _

/-- The nodes that a value holds are parts of it. -/
theorem sizeItems_nodesIn_le (v : Json) : Json.sizeItems (nodesIn v) ≤ v.size := by
  rw [nodesIn.eq_def]
  split
  next items =>
    have hle := Json.sizeItems_filter_le isNode items
    rw [Json.size]
    omega
  next =>
    split
    · exact Nat.le_refl _
    · exact Nat.zero_le _

/-- The nodes under a key are parts of the value there. -/
theorem sizeItems_nodesUnder_le (fields : List (String × Json)) (key : String) :
    Json.sizeItems (nodesUnder (.obj fields) key) ≤ Json.sizeUnder fields key := by
  rw [nodesUnder, Json.sizeUnder, Json.get?]
  cases Json.lookup key fields with
  | none => exact Nat.le_refl _
  | some v => exact sizeItems_nodesIn_le v

/-- The nodes under distinct keys are parts of an object. -/
theorem sizeItems_flatMap_nodesUnder_le (fields : List (String × Json)) {keys : List String}
    (h : keys.Nodup) :
    Json.sizeItems (keys.flatMap (nodesUnder (.obj fields))) ≤ Json.sizeFields fields := by
  induction keys generalizing fields with
  | nil => exact Nat.zero_le _
  | cons key keys ih =>
      obtain ⟨hkey, hkeys⟩ := List.nodup_cons.mp h
      -- the other keys see nothing of the fields under `key`
      have hother : keys.flatMap (nodesUnder (.obj (fields.filter fun f => f.1 != key)))
          = keys.flatMap (nodesUnder (.obj fields)) := by
        rw [List.flatMap_def, List.flatMap_def]
        refine congrArg List.flatten (List.map_congr_left ?_)
        intro other hmem
        have hne : other ≠ key := fun heq => hkey (heq ▸ hmem)
        rw [nodesUnder, nodesUnder, Json.get?, Json.get?, Json.lookup_filter_ne fields hne]
      have hrest := ih (fields.filter fun f => f.1 != key) hkeys
      rw [hother] at hrest
      have hhere := sizeItems_nodesUnder_le fields key
      have hsplit := Json.sizeUnder_add_le fields key
      rw [List.flatMap_cons, Json.sizeItems_append]
      omega

/-- The children of a node are together smaller than it. -/
theorem sizeItems_children_lt (v : Json) : Json.sizeItems (children v) < v.size := by
  cases v with
  | obj fields =>
      have hle := sizeItems_flatMap_nodesUnder_le fields (childKeys_nodup (.obj fields))
      rw [children, Json.size]
      omega
  | null | bool | int | float | str | arr =>
      simpa [children, childKeys, ownChildKeys, fieldsOf, typeOf?, Json.get?, Json.sizeItems]
        using Json.size_pos _

/-- A child is smaller than its node. -/
theorem size_lt_of_mem_children {v c : Json} (h : c ∈ children v) : c.size < v.size := by
  obtain ⟨before, after, hsplit⟩ := List.append_of_mem h
  have hlt := sizeItems_children_lt v
  rw [hsplit, Json.sizeItems_append, Json.sizeItems] at hlt
  omega

end EnvLint.Tree
