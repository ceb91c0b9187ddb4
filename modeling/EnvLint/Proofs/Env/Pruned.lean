import EnvLint.Proofs.Env.Run
import EnvLint.Proofs.Tree.Pruned

/-! # Fields that nothing looks at do not matter

    The rule looks below the nodes that it is called on: at the source and the
    specifiers of an import, at the declarators of an export, at the property of
    a member expression.  Each such look goes through a child field of a known
    type, or it asks for one of the inspected fields, whatever the type of the
    value it asks.  So each detector sees the same in a pruned node, a session
    takes a visit to a pruned node as it takes the visit itself (`visit_prune`),
    and a run over the pruned tree is the run over the tree (`traceAt_prune`). -/

namespace EnvLint.Env

open EnvLint.Tree (prune pruneHeld)

/-! ## Single fields -/

/-- The child fields of a node of a known type are the row of its type. -/
theorem childKeys_eq {n : Json} {type : String} {keys : List String}
    (h : Tree.typeOf? n = some type) (hknown : Tree.knownChildKeys type = some keys) :
    Tree.childKeys n = keys := by
  rw [Tree.childKeys, h, Option.bind_some, hknown]

theorem typeOf?_of_hasType {n : Json} {type : String} (h : Tree.hasType n type = true) :
    Tree.typeOf? n = some type := by
  simpa [Tree.hasType] using h

theorem isNode_of_typeOf? {n : Json} {type : String} (h : Tree.typeOf? n = some type) :
    Tree.isNode n = true := by
  rw [Tree.isNode, h, Option.isSome_some]

/-- A child field of a node of a known type is pruned. -/
theorem get?_prune_child {n : Json} {type key : String} {keys : List String}
    (h : Tree.typeOf? n = some type) (hknown : Tree.knownChildKeys type = some keys)
    (hkey : key ∈ keys) : (prune n).get? key = (n.get? key).map pruneHeld := by
  rw [Tree.get?_prune (isNode_of_typeOf? h), childKeys_eq h hknown, if_pos hkey]

/-- A look at an inspected field that does not tell a value from the pruned one sees
    the same in a pruned value. -/
theorem bind_get?_prune {α : Type} {look : Json → Option α}
    (hlook : ∀ v, look (pruneHeld v) = look v) {key : String} (hkey : key ∈ Tree.inspectedKeys)
    (v : Json) : ((prune v).get? key).bind look = (v.get? key).bind look := by
  by_cases hnode : Tree.isNode v = true
  · rw [Tree.get?_prune hnode]
    by_cases hchild : key ∈ Tree.childKeys v
    · rw [if_pos hchild, Option.bind_map]
      exact congrArg _ (funext hlook)
    · rw [if_neg hchild, if_pos hkey]
  · rw [Tree.prune_of_not_isNode (Bool.eq_false_iff.mpr hnode)]

/-- A text in a field is no node and stays. -/
theorem str?_pruneHeld (v : Json) : (pruneHeld v).str? = v.str? := by
  cases v with
  | obj fields =>
      obtain ⟨kept, hkept⟩ := Tree.exists_pruneHeld_obj fields
      rw [hkept]
      rfl
  | null | bool | int | float | str | arr => rfl

/-- A name is read the same in a pruned identifier. -/
theorem identifierName_prune (v : Json) :
    Tree.identifierName (prune v) = Tree.identifierName v := by
  rw [Tree.identifierName, Tree.identifierName, Tree.hasType_prune,
    bind_get?_prune str?_pruneHeld (by decide)]

/-- A value is read the same in a pruned literal. -/
theorem stringLiteral_prune (v : Json) :
    Tree.stringLiteral (prune v) = Tree.stringLiteral v := by
  rw [Tree.stringLiteral, Tree.stringLiteral, Tree.hasType_prune,
    bind_get?_prune str?_pruneHeld (by decide)]

/-- A list is neither an identifier nor a literal, so what a child field holds is read
    the same. -/
theorem identifierName_pruneHeld (v : Json) :
    Tree.identifierName (pruneHeld v) = Tree.identifierName v := by
  cases v with
  | arr items => rfl
  | null | bool | int | float | str | obj => exact identifierName_prune _

/-- A literal keeps its text, for its value is inspected. -/
theorem stringLiteral_pruneHeld (v : Json) :
    Tree.stringLiteral (pruneHeld v) = Tree.stringLiteral v := by
  cases v with
  | arr items => rfl
  | null | bool | int | float | str | obj => exact stringLiteral_prune _

/-- A node is held as it is, not as a list. -/
theorem pruneHeld_of_hasType {v : Json} {type : String} (h : Tree.hasType v type = true) :
    pruneHeld v = prune v := by
  cases v with
  | arr items => exact Bool.noConfusion h
  | null | bool | int | float | str | obj => rfl

/-- A node in a field keeps its type. -/
theorem hasType_pruneHeld (v : Json) (type : String) :
    Tree.hasType (pruneHeld v) type = Tree.hasType v type := by
  cases v with
  | arr items => rfl
  | null | bool | int | float | str | obj => exact Tree.hasType_prune _ type

/-! ## Detectors -/

/-- The client directive is seen the same. -/
theorem isDirective_prune (statement : Json) :
    isDirective (prune statement) = isDirective statement := by
  rw [isDirective, isDirective, Tree.hasType_prune]
  by_cases h : Tree.hasType statement "ExpressionStatement" = true
  · rw [get?_prune_child (typeOf?_of_hasType h) rfl (by decide), Option.bind_map]
    simp only [Function.comp_def, stringLiteral_pruneHeld]
  · simp [h]

/-- A client directive is found in a pruned program if it is found in the program. -/
theorem isClientDirective_prune {n : Json} (h : Tree.typeOf? n = some "Program") :
    isClientDirective (prune n) = isClientDirective n := by
  rw [isClientDirective, isClientDirective, get?_prune_child h rfl (by decide)]
  cases n.get? "body" with
  | none => rfl
  | some body =>
      cases body with
      | arr statements =>
          cases statements with
          | nil => rfl
          | cons statement rest => exact isDirective_prune statement
      | obj fields =>
          obtain ⟨kept, hkept⟩ := Tree.exists_pruneHeld_obj fields
          rw [Option.map_some, hkept]
      | null | bool | int | float | str => rfl

/-- The items of a pruned list are the pruned items, and other values are walked as
    before. -/
theorem itemsOf_pruneHeld (v : Json) :
    itemsOf (pruneHeld v) = (itemsOf v).map (List.map prune) := by
  cases v with
  | obj fields =>
      obtain ⟨kept, hkept⟩ := Tree.exists_pruneHeld_obj fields
      rw [hkept]
      rfl
  | arr items => rfl
  | str s => rfl
  | null => rfl
  | bool b => cases b <;> rfl
  | int i =>
      by_cases h : (Json.int i).truthy = true
      · simp [pruneHeld, prune, itemsOf, h, Except.map]
      · simp [pruneHeld, prune, itemsOf, h, Except.map]
  | float x =>
      by_cases h : (Json.float x).truthy = true
      · simp [pruneHeld, prune, itemsOf, h, Except.map]
      · simp [pruneHeld, prune, itemsOf, h, Except.map]

/-- A specifier names the same after pruning. -/
theorem specifierName_prune (specifier : Json) :
    specifierName (prune specifier) = specifierName specifier := by
  rw [specifierName, specifierName, Tree.hasType_prune]
  by_cases h : Tree.hasType specifier "ImportSpecifier" = true
  · rw [get?_prune_child (typeOf?_of_hasType h) rfl (by decide), Option.bind_map]
    simp only [Function.comp_def, identifierName_pruneHeld]
  · simp [h]

/-- The name that an import binds is seen the same. -/
theorem importAlias_prune {n : Json} (h : Tree.typeOf? n = some "ImportDeclaration")
    (source : String) : importAlias (prune n) source = importAlias n source := by
  have hsource : ((prune n).get? "source").bind Tree.stringLiteral
      = (n.get? "source").bind Tree.stringLiteral := by
    rw [get?_prune_child h rfl (by decide), Option.bind_map]
    simp only [Function.comp_def, stringLiteral_pruneHeld]
  have hspecifiers : itemsOf (((prune n).get? "specifiers").getD .null)
      = (itemsOf ((n.get? "specifiers").getD .null)).map (List.map prune) := by
    rw [get?_prune_child h rfl (by decide)]
    cases n.get? "specifiers" with
    | none => rfl
    | some specifiers => exact itemsOf_pruneHeld specifiers
  rw [importAlias, importAlias, hsource, hspecifiers]
  cases itemsOf ((n.get? "specifiers").getD .null) with
  | error failure => rfl
  | ok specifiers =>
      -- each specifier names the same after pruning
      have hfind : (specifiers.map prune).findSome? specifierName
          = specifiers.findSome? specifierName := by
        rw [List.findSome?_map]
        simp only [Function.comp_def, specifierName_prune]
      show (if _ then _ else Except.ok ((specifiers.map prune).findSome? specifierName)) = _
      rw [hfind]
      rfl

/-- A declarator is matched by its fields and not by its type, so the value asked for
    them may be of any type; they are inspected fields. -/
theorem isForceDynamicDeclarator_prune (declarator : Json) :
    isForceDynamicDeclarator (prune declarator) = isForceDynamicDeclarator declarator := by
  rw [isForceDynamicDeclarator, isForceDynamicDeclarator,
    bind_get?_prune identifierName_pruneHeld (by decide),
    bind_get?_prune stringLiteral_pruneHeld (by decide)]

theorem any_isForceDynamicDeclarator_prune (declarators : List Json) :
    (declarators.map prune).any isForceDynamicDeclarator
      = declarators.any isForceDynamicDeclarator := by
  rw [List.any_map]
  simp only [Function.comp_def, isForceDynamicDeclarator_prune]

/-- The dynamic export is seen the same. -/
theorem declaresForceDynamic_prune {n : Json}
    (h : Tree.typeOf? n = some "ExportNamedDeclaration") :
    declaresForceDynamic (prune n) = declaresForceDynamic n := by
  rw [declaresForceDynamic, declaresForceDynamic, get?_prune_child h rfl (by decide)]
  cases n.get? "declaration" with
  | none => rfl
  | some declaration =>
      show (Tree.hasType (pruneHeld declaration) "VariableDeclaration" && _) = _
      rw [hasType_pruneHeld]
      by_cases htype : Tree.hasType declaration "VariableDeclaration" = true
      · -- a declaration of variables is a node, so its declarators are pruned with it
        rw [pruneHeld_of_hasType htype,
          get?_prune_child (typeOf?_of_hasType htype) rfl (by decide)]
        refine congrArg _ ?_
        cases declaration.get? "declarations" with
        | none => rfl
        | some held =>
            cases held with
            | arr declarators => exact any_isForceDynamicDeclarator_prune declarators
            | obj fields =>
                obtain ⟨kept, hkept⟩ := Tree.exists_pruneHeld_obj fields
                rw [Option.map_some, hkept]
            | null | bool | int | float | str => rfl
      · simp [htype]

/-- A member expression reads the same name, and the pruned property. -/
theorem memberAccess_prune {n : Json} (h : Tree.typeOf? n = some "MemberExpression") :
    memberAccess (prune n)
      = (memberAccess n).map fun access => (access.1, pruneHeld access.2) := by
  -- whether the access is computed is inspected, and holds no node
  have hcomputed : (prune n).get? "computed" = n.get? "computed" := by
    rw [Tree.get?_prune (isNode_of_typeOf? h), childKeys_eq h rfl, if_neg (by decide),
      if_pos (by decide)]
  have hobject : ((prune n).get? "object").bind Tree.identifierName
      = (n.get? "object").bind Tree.identifierName := by
    rw [get?_prune_child h rfl (by decide), Option.bind_map]
    simp only [Function.comp_def, identifierName_pruneHeld]
  rw [memberAccess, memberAccess, hcomputed, hobject, get?_prune_child h rfl (by decide)]
  by_cases hc : ((n.get? "computed").map Json.truthy).getD false = true
  · rw [if_pos hc, if_pos hc]
    rfl
  · rw [if_neg hc, if_neg hc]
    cases (n.get? "object").bind Tree.identifierName with
    | none => rfl
    | some object =>
        cases n.get? "property" with
        | none => rfl
        | some property =>
            show (Tree.identifierName (pruneHeld property) >>= _)
              = (Tree.identifierName property >>= _).map _
            rw [identifierName_pruneHeld]
            cases Tree.identifierName property <;> rfl

/-- A pruned property stands in the same place, or is the same fault. -/
theorem placeOf_pruneHeld (property : Json) (path : Option Path) :
    placeOf (pruneHeld property) path = placeOf property path := by
  have hspan : span? (prune property) = span? property := by
    rw [span?, span?, Tree.get?_loc_prune]
  have hprune : placeOf (prune property) path = placeOf property path := by
    unfold placeOf
    rw [hspan, Tree.get?_type_prune]
  cases property with
  | arr items => rfl
  | null | bool | int | float | str | obj => exact hprune

/-! ## Sessions -/

namespace Session

/-- A read is recorded alike, for its place and its name are inspected. -/
theorem recordAccess_pruneHeld (s : Session) (property : Json) :
    s.recordAccess (pruneHeld property) = s.recordAccess property := by
  rw [recordAccess, recordAccess, identifierName_pruneHeld, placeOf_pruneHeld]

/-- A member expression has the same effect after pruning. -/
theorem onMember_prune (s : Session) {n : Json} (h : Tree.typeOf? n = some "MemberExpression") :
    s.onMember (prune n) = s.onMember n := by
  rw [onMember, onMember, memberAccess_prune h]
  cases s.state.tracked with
  | none => rfl
  | some name =>
      cases memberAccess n with
      | none => rfl
      | some access =>
          obtain ⟨object, property⟩ := access
          simp only [Option.map_some, recordAccess_pruneHeld]

/-- A session takes a visit to a pruned node as it takes the visit. -/
theorem visit_prune (s : Session) (v : Tree.Visit) : s.visit v.prune = s.visit v := by
  have hselect : Selector.ofVisit? v.prune = Selector.ofVisit? v := by
    rw [Selector.ofVisit?, Selector.ofVisit?, Tree.Visit.prune, Tree.typeOf?_prune]
  obtain ⟨phase, n⟩ := v
  rw [visit, visit, hselect]
  cases hcall : Selector.ofVisit? ⟨phase, n⟩ with
  | none => rfl
  | some x =>
      show s.step x (prune n) = s.step x n
      cases phase with
      | leave =>
          obtain ⟨rfl, -⟩ := Selector.ofVisit?_leave.mp hcall
          rfl
      | enter =>
          -- the type of the node is the name of the selector, so its child fields are known
          have htype := Selector.ofVisit?_enter.mp hcall
          cases x with
          | program =>
              show Except.ok (s.onProgram (prune n)) = Except.ok (s.onProgram n)
              rw [onProgram, onProgram, isClientDirective_prune htype]
          | importDeclaration =>
              show s.onImport (prune n) = s.onImport n
              rw [onImport, onImport, importAlias_prune htype]
          | exportDeclaration =>
              show Except.ok (s.onExport (prune n)) = Except.ok (s.onExport n)
              rw [onExport, onExport, declaresForceDynamic_prune htype]
          | member => exact s.onMember_prune htype
          | programExit => rfl

end Session

/-! ## Runs -/

/-- A pruned visit has the same effect on all sessions. -/
theorem visitAll_prune (sessions : List Session) (v : Tree.Visit) :
    Linter.visitAll sessions v.prune = Linter.visitAll sessions v := by
  rw [Linter.visitAll, Linter.visitAll]
  simp only [Session.visit_prune]

/-- Sessions go through the visits of a pruned tree as through those of the tree. -/
theorem runVisits_prune (sessions : List Session) (visits : List Tree.Visit) :
    Linter.runVisits sessions (visits.map Tree.Visit.prune)
      = Linter.runVisits sessions visits := by
  induction visits generalizing sessions with
  | nil => rfl
  | cons v visits ih =>
      rw [List.map_cons, Linter.runVisits, Linter.runVisits, visitAll_prune]
      cases Linter.visitAll sessions v with
      | error failure => rfl
      | ok next => exact ih next

/-- A run over a pruned tree is the run over the tree, and tells the same. -/
theorem traceAt_prune (l : Linter) (program : Json) (path : Option Path) :
    l.traceAt (prune program) path = l.traceAt program path := by
  rw [Linter.traceAt, Linter.traceAt, Tree.walk_prune]
  cases l.sessions path with
  | error failure => rfl
  | ok sessions =>
      cases Tree.walk program with
      | error fault => rfl
      | ok visits =>
          simp only [Except.map, runVisits_prune]

/-- **Nothing but the child fields and the inspected fields matters.**  Pruning
    deletes in every node that a walk reaches all fields but these and keeps
    their order.  The walk of the pruned tree shows the same phases and types,
    and every linter gives the same result for it, or fails in the same way. -/
theorem lint_prune (l : Linter) (program : Json) (path : Path) :
    (∀ n, (Tree.fieldsOf (prune n)).map Prod.fst =
      if Tree.isNode n then
        ((Tree.fieldsOf n).map Prod.fst).filter fun key => decide (Tree.IsKept n key)
      else (Tree.fieldsOf n).map Prod.fst) ∧
    Tree.nodes (prune program) =
      (if Tree.isNode program then (Tree.nodes program).map prune else Tree.nodes program) ∧
    (Tree.walk (prune program)).map (List.map Tree.Visit.label)
      = (Tree.walk program).map (List.map Tree.Visit.label) ∧
    l.lint (prune program) path = l.lint program path := by
  refine ⟨?_, ?_, Tree.map_label_walk_prune program, ?_⟩
  · intro n
    by_cases hnode : Tree.isNode n = true
    · rw [if_pos hnode, Tree.map_fst_fieldsOf_prune hnode]
    · rw [if_neg hnode, Tree.prune_of_not_isNode (Bool.eq_false_iff.mpr hnode)]
  · by_cases hnode : Tree.isNode program = true
    · rw [if_pos hnode, Tree.nodes_prune hnode]
    · rw [if_neg hnode, Tree.prune_of_not_isNode (Bool.eq_false_iff.mpr hnode)]
  · rw [Linter.lint, Linter.lint, traceAt_prune]

end EnvLint.Env
