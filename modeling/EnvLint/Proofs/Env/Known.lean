import EnvLint.Proofs.Env.Report

/-! # What is known after the nodes entered so far

    A session collects what it knows call by call.  This file says what it knows
    as a function of the nodes entered so far, with no state in between:

    * `binding`: the first import that binds the accessor wins;
    * `reads`: the reads of a property on that name, after that import;
    * `stateOf`: all of it as the state of a session;
    * `fault`: why a node cannot be taken in, given the nodes before it.

    `stateOf_append` tells how one more node changes the state.  It is the only
    place where the closed form is taken apart. -/

namespace EnvLint.Env

/-! ## The closed form -/

/-- The name that a node binds to the accessor: an import does, if it can be read. -/
def binding (source : String) (n : Json) : Option String :=
  if Tree.hasType n "ImportDeclaration" then (importAlias n source).toOption.join else none

/-- The property that a node reads on a name: a member expression does. -/
def readOn (name : String) (n : Json) : Option Json :=
  if Tree.hasType n "MemberExpression" then
    (memberAccess n).bind fun access => if access.1 = name then some access.2 else none
  else none

/-- The properties read on the accessor: by the nodes after the first one that binds
    it, on the name that it binds. -/
def reads (source : String) : List Json → List Json
  | [] => []
  | n :: rest =>
      match binding source n with
      | some name => rest.filterMap (readOn name)
      | none => reads source rest

/-- The site of a property that is read. -/
def siteOf (o : RuleOptions) (path : Path) (property : Json) : Except Failure Site := do
  let name := (Tree.identifierName property).getD ""
  let location ← placeOf property (some path)
  Site.make name (some location) (o.isServerOnly name)

/-- Whether a node is a program with the client directive. -/
def marksClient (n : Json) : Bool :=
  Tree.hasType n "Program" && isClientDirective n

/-- Whether a node is an export that makes the module dynamic. -/
def marksDynamic (n : Json) : Bool :=
  Tree.hasType n "ExportNamedDeclaration" && declaresForceDynamic n

/-- What is known after nodes were entered. -/
def stateOf (o : RuleOptions) (path : Path) (entered : List Json) : State where
  client := entered.any marksClient
  tracked := entered.findSome? (binding o.envSource)
  dynamic := entered.any marksDynamic
  sites := (reads o.envSource entered).filterMap fun p => (siteOf o path p).toOption

/-- The failure of an outcome, if it is one. -/
def failureOf {α : Type} : Except Failure α → Option Failure
  | .error failure => some failure
  | .ok _ => none

/-- Why a node cannot be taken in: it is an import that cannot be read, or it reads
    a property on the name bound before and the property makes no site. -/
def fault (o : RuleOptions) (path : Path) (before : List Json) (n : Json) : Option Failure :=
  if Tree.hasType n "ImportDeclaration" then failureOf (importAlias n o.envSource)
  else ((before.findSome? (binding o.envSource)).bind (readOn · n)).bind fun p =>
    failureOf (siteOf o path p)

/-! ## One more node -/

/-- One more node adds the property that it reads on the name bound before it. -/
theorem reads_append (source : String) (entered : List Json) (n : Json) :
    reads source (entered ++ [n]) = reads source entered
      ++ ((entered.findSome? (binding source)).bind (readOn · n)).toList := by
  induction entered with
  | nil =>
      show reads source [n] = []
      rw [reads]
      cases binding source n <;> rfl
  | cons m entered ih =>
      rw [List.cons_append, reads, reads, List.findSome?_cons]
      cases hm : binding source m with
      | none => exact ih
      | some name =>
          show (entered ++ [n]).filterMap (readOn name)
            = entered.filterMap (readOn name) ++ (readOn name n).toList
          rw [List.filterMap_append]
          cases hn : readOn name n with
          | none => simp [hn]
          | some p => simp [hn]

/-- How one more node changes what is known. -/
theorem stateOf_append (o : RuleOptions) (path : Path) (entered : List Json) (n : Json) :
    stateOf o path (entered ++ [n]) =
      { client := (stateOf o path entered).client || marksClient n
        tracked := (stateOf o path entered).tracked.or (binding o.envSource n)
        dynamic := (stateOf o path entered).dynamic || marksDynamic n
        sites := (stateOf o path entered).sites ++
          (((stateOf o path entered).tracked.bind (readOn · n)).bind fun p =>
            (siteOf o path p).toOption).toList } := by
  have hsites : ∀ property : Option Json,
      property.toList.filterMap (fun p => (siteOf o path p).toOption)
        = (property.bind fun p => (siteOf o path p).toOption).toList := by
    intro property
    cases property with
    | none => rfl
    | some p =>
        show [p].filterMap _ = (siteOf o path p).toOption.toList
        cases hp : (siteOf o path p).toOption with
        | none => simp [hp]
        | some site => simp [hp]
  have hbinding : [n].findSome? (binding o.envSource) = binding o.envSource n := by
    rw [List.findSome?_cons]
    cases binding o.envSource n <;> rfl
  simp only [stateOf, State.mk.injEq]
  -- marks and the name are looked for node by node, and a read counts behind the name only
  refine ⟨?_, ?_, ?_, ?_⟩
  · rw [List.any_append, List.any_cons, List.any_nil, Bool.or_false]
  · rw [List.findSome?_append, hbinding]
  · rw [List.any_append, List.any_cons, List.any_nil, Bool.or_false]
  · rw [reads_append, List.filterMap_append, hsites]

/-! ## Types of nodes -/

theorem hasType_eq {n : Json} {type : String} (h : Tree.typeOf? n = some type) (name : String) :
    Tree.hasType n name = decide (type = name) := by
  rw [Tree.hasType, h]
  by_cases heq : type = name
  · simp [heq]
  · simp [heq]

section

variable {o : RuleOptions} {path : Path} {entered : List Json} {s : State} {n : Json}

/-- A program changes whether the module is a client module. -/
theorem stateOf_append_program (hs : s = stateOf o path entered)
    (h : Tree.typeOf? n = some "Program") :
    stateOf o path (entered ++ [n]) = { s with client := s.client || isClientDirective n } := by
  simp [hs, stateOf_append, marksClient, marksDynamic, binding, readOn, hasType_eq h]

/-- An import binds a name unless one is bound. -/
theorem stateOf_append_import (hs : s = stateOf o path entered)
    (h : Tree.typeOf? n = some "ImportDeclaration") :
    stateOf o path (entered ++ [n]) =
      { s with tracked := s.tracked.or (importAlias n o.envSource).toOption.join } := by
  simp [hs, stateOf_append, marksClient, marksDynamic, binding, readOn, hasType_eq h]

/-- An export changes whether the module is dynamic. -/
theorem stateOf_append_export (hs : s = stateOf o path entered)
    (h : Tree.typeOf? n = some "ExportNamedDeclaration") :
    stateOf o path (entered ++ [n]) = { s with dynamic := s.dynamic || declaresForceDynamic n } := by
  simp [hs, stateOf_append, marksClient, marksDynamic, binding, readOn, hasType_eq h]

/-- A member expression adds the site of what it reads on the bound name. -/
theorem stateOf_append_member (hs : s = stateOf o path entered)
    (h : Tree.typeOf? n = some "MemberExpression") :
    stateOf o path (entered ++ [n]) =
      { s with sites := s.sites ++
          ((s.tracked.bind (readOn · n)).bind fun p => (siteOf o path p).toOption).toList } := by
  simp [hs, stateOf_append, marksClient, marksDynamic, binding, hasType_eq h]

end

/-- The types of nodes that the state depends on. -/
def watchedTypes : List String :=
  ["Program", "ImportDeclaration", "ExportNamedDeclaration", "MemberExpression"]

/-- A node of any other type changes nothing. -/
theorem stateOf_append_other {n : Json} (h : ∀ type ∈ watchedTypes, Tree.hasType n type = false)
    (o : RuleOptions) (path : Path) (entered : List Json) :
    stateOf o path (entered ++ [n]) = stateOf o path entered := by
  simp only [watchedTypes, List.forall_mem_cons] at h
  obtain ⟨hprogram, himport, hexport, hmember, -⟩ := h
  simp [stateOf_append, marksClient, marksDynamic, binding, readOn, hprogram, himport, hexport,
    hmember]

/-- A node that is neither an import nor a member expression has no fault. -/
theorem fault_of_other {n : Json} (himport : Tree.hasType n "ImportDeclaration" = false)
    (hmember : Tree.hasType n "MemberExpression" = false) (o : RuleOptions) (path : Path)
    (before : List Json) : fault o path before n = none := by
  simp [fault, readOn, himport, hmember]

theorem importAlias_ne_empty {n : Json} {source name : String}
    (h : importAlias n source = .ok (some name)) : name ≠ "" := by
  rw [importAlias] at h
  split at h
  · cases h
  · cases hitems : itemsOf ((n.get? "specifiers").getD .null) with
    | error failure =>
        rw [hitems] at h
        cases h
    | ok specifiers =>
        rw [hitems] at h
        have hfind : specifiers.findSome? specifierName = some name := Except.ok.inj h
        obtain ⟨specifier, -, hname⟩ := List.exists_of_findSome?_eq_some hfind
        rw [specifierName] at hname
        split at hname
        · obtain ⟨-, hne⟩ := Option.filter_eq_some_iff.mp hname
          simpa using hne
        · cases hname

end EnvLint.Env
