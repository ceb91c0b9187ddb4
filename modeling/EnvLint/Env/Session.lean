import EnvLint.Env.Detect
import EnvLint.Env.Rule
import EnvLint.Env.State
import EnvLint.Lint.Context
import EnvLint.Lint.Event
import EnvLint.Tree.Walk

/-! # Sessions

    A session runs the rule over one file.  It is called for the nodes that the
    rule asks for, collects what is known and, when the program is left, reports
    every offending read.  A call that fails leaves the session as it was. -/

namespace EnvLint.Env

/-- The visits that the rule asks for. -/
inductive Selector where
  /-- Entering a program. -/
  | program
  /-- Entering an import. -/
  | importDeclaration
  /-- Entering a named export. -/
  | exportDeclaration
  /-- Entering a member expression. -/
  | member
  /-- Leaving a program. -/
  | programExit
deriving DecidableEq, Repr

namespace Selector

/-- All selectors. -/
def all : List Selector :=
  [.program, .importDeclaration, .exportDeclaration, .member, .programExit]

/-- Name of a selector. -/
def name : Selector → String
  | .program => "Program"
  | .importDeclaration => "ImportDeclaration"
  | .exportDeclaration => "ExportNamedDeclaration"
  | .member => "MemberExpression"
  | .programExit => "Program:exit"

/-- The selector of a name. -/
def ofString? (s : String) : Option Selector := all.find? fun x => x.name == s

/-- The name that a visit is called by: the type of the node, marked when it is
    left. -/
def visitName (phase : Tree.Phase) (type : String) : String :=
  match phase with
  | .enter => type
  | .leave => type ++ ":exit"

/-- The selector of a visit. -/
def ofVisit? (v : Tree.Visit) : Option Selector :=
  (Tree.typeOf? v.node).bind fun type => ofString? (visitName v.phase type)

end Selector

/-- The rule at work on one file. -/
structure Session where
  /-- Options of the rule. -/
  options : RuleOptions
  /-- Reports so far. -/
  context : Context
  /-- What is known so far. -/
  state : State
  /-- Events so far. -/
  events : List Event

namespace Session

/-- Starts on a file, if one is given. -/
def start (options : RuleOptions) (severity : Severity) (path : Option Path) :
    Except Failure Session := do
  let context ← Context.start description severity path
  .ok ⟨options, context, .start, []⟩

/-- The session with one more event. -/
def tell (s : Session) (e : Event) : Session := { s with events := s.events ++ [e] }

/-- The file. -/
def path (s : Session) : Path := s.context.path

/-- Enters a program. -/
def onProgram (s : Session) (node : Json) : Session :=
  if isClientDirective node then
    tell { s with state := s.state.markClient } (.client s.path)
  else s

/-- Enters an import. -/
def onImport (s : Session) (node : Json) : Except Failure Session := do
  match ← importAlias node s.options.envSource with
  | none => .ok s
  | some name => do
      let (bound, state) ← s.state.track name
      let event := if bound then .tracking s.path name
        else .ignoring s.path name (state.tracked.getD "")
      .ok (tell { s with state } event)

/-- Enters a named export. -/
def onExport (s : Session) (node : Json) : Session :=
  if declaresForceDynamic node then
    tell { s with state := s.state.markDynamic } (.dynamic s.path)
  else s

/-- Records a read of a property on the accessor. -/
def recordAccess (s : Session) (property : Json) : Except Failure Session := do
  let name := (Tree.identifierName property).getD ""
  let location ← placeOf property (some s.path)
  let site ← Site.make name (some location) (s.options.isServerOnly name)
  let state ← s.state.record site
  .ok { s with state }

/-- Enters a member expression. -/
def onMember (s : Session) (node : Json) : Except Failure Session :=
  match s.state.tracked, memberAccess node with
  | some name, some (object, property) =>
      if object = name then s.recordAccess property else .ok s
  | _, _ => .ok s

/-- Reports a read. -/
def reportSite (c : Context) (site : Site) : Except Failure Context :=
  c.report (some site.location) messageId [(slotName, .str site.name)]

/-- Leaves a program: every offending read is reported. -/
def onProgramExit (s : Session) : Except Failure Session := do
  let found := s.state.offending
  let event := .verdict s.path s.state.sites.length s.state.privateSites.length found.length
  let context ← found.foldlM reportSite s.context
  .ok (tell { s with context } event)

/-- Calls the session for a node that the rule asks for. -/
def step (s : Session) (selector : Selector) (node : Json) : Except Failure Session :=
  match selector with
  | .program => .ok (s.onProgram node)
  | .importDeclaration => s.onImport node
  | .exportDeclaration => .ok (s.onExport node)
  | .member => s.onMember node
  | .programExit => s.onProgramExit

/-- Calls the session for a visit, if the rule asks for it. -/
def visit (s : Session) (v : Tree.Visit) : Except Failure Session :=
  match Selector.ofVisit? v with
  | some selector => s.step selector v.node
  | none => .ok s

end Session

end EnvLint.Env
