import EnvLint.Proofs.Env.Malformed
import EnvLint.Proofs.Outcome
import EnvLint.Proofs.Tree.Location

/-! # Calls in any order

    A session is called for the nodes of a walk, but nothing in it depends on
    the order of a walk.  This file looks at any finite sequence of calls, on
    any values, where a call that fails does not end the sequence.

    A call writes into its session, and what it wrote before it fails is not
    taken back.  `Handling` are such calls in place, and `call_run_eq` shows
    that they do what `Session.step` does: nothing is written before everything
    that can fail has been done.  For reports this needs that no report is ever
    refused.

    * `step_effect`: all that one call can do, by cause;
    * `Session.Sound.call`: so a call keeps the invariant and obeys `CallLaw`;
    * `Session.Sound.after`, `grows_after`: so does every sequence of calls. -/

namespace EnvLint.Env

/-! ## Reports -/

namespace Session

/-- The session with reads reported. -/
def reporting (s : Session) (sites : List Site) : Session :=
  { s with context := { s.context with
      diagnostics := s.context.diagnostics ++ sites.map (diagnosticOf s.context.severity) } }

theorem reporting_nil (s : Session) : s.reporting [] = s := by
  rw [reporting, List.map_nil, List.append_nil]

theorem reporting_cons (s : Session) (site : Site) (sites : List Site) :
    (s.reporting [site]).reporting sites = s.reporting (site :: sites) := by
  simp [reporting]

/-- Leaving a program reports the offending reads; no report is refused. -/
theorem onProgramExit_eq {s : Session} (h : s.context.describes = description) :
    s.onProgramExit = .ok ((s.reporting s.state.offending).tell (.verdict s.path
      s.state.sites.length s.state.privateSites.length s.state.offending.length)) := by
  rw [onProgramExit]
  show (s.state.offending.foldlM reportSite s.context >>= _) = _
  rw [foldlM_reportSite_eq_ok _ h]
  rfl

end Session

/-! ## Calls in place -/

/-- Work on a session in place: what is written stays, also if the work fails
    later. -/
abbrev Handling := EStateM Failure Session

namespace Handling

/-- Goes on with the value of an outcome, or fails as it does. -/
def orFail {α : Type} (outcome : Except Failure α) : Handling α :=
  fun s => match outcome with
    | .ok a => .ok a s
    | .error failure => .error failure s

/-- Enters a program. -/
def program (node : Json) : Handling Unit := do
  if isClientDirective node then
    modify fun s => { s with state := s.state.markClient }
    modify fun s => s.tell (.client s.path)

/-- Enters an import. -/
def importDeclaration (node : Json) : Handling Unit := do
  match ← orFail (importAlias node (← get).options.envSource) with
  | none => pure ()
  | some name => do
      let (bound, state) ← orFail ((← get).state.track name)
      modify fun s => { s with state }
      modify fun s => s.tell (if bound then .tracking s.path name
        else .ignoring s.path name (s.state.tracked.getD ""))

/-- Enters a named export. -/
def exportDeclaration (node : Json) : Handling Unit := do
  if declaresForceDynamic node then
    modify fun s => { s with state := s.state.markDynamic }
    modify fun s => s.tell (.dynamic s.path)

/-- Records a read of a property on the accessor. -/
def access (property : Json) : Handling Unit := do
  let name := (Tree.identifierName property).getD ""
  let location ← orFail (placeOf property (some (← get).path))
  let site ← orFail (Site.make name (some location) ((← get).options.isServerOnly name))
  let state ← orFail ((← get).state.record site)
  modify fun s => { s with state }

/-- Enters a member expression. -/
def member (node : Json) : Handling Unit := do
  match (← get).state.tracked, memberAccess node with
  | some name, some (object, property) => if object = name then access property else pure ()
  | _, _ => pure ()

/-- Reports a read; a later report that is refused does not take it back. -/
def report (site : Site) : Handling Unit := do
  let context ← orFail (Session.reportSite (← get).context site)
  modify fun s => { s with context }

/-- Leaves a program: every offending read is reported, one after another. -/
def programExit : Handling Unit := do
  let s ← get
  let found := s.state.offending
  modify fun s => s.tell
    (.verdict s.path s.state.sites.length s.state.privateSites.length found.length)
  found.forM report

/-- The call for a selector. -/
def call (x : Selector) (node : Json) : Handling Unit :=
  match x with
  | .program => program node
  | .importDeclaration => importDeclaration node
  | .exportDeclaration => exportDeclaration node
  | .member => member node
  | .programExit => programExit

/-- The session that work leaves behind, also where it fails. -/
def after (work : Handling Unit) (s : Session) : Session :=
  match work.run s with
  | .ok _ t => t
  | .error _ t => t

/-- Why work fails. -/
def failure? (work : Handling Unit) (s : Session) : Option Failure :=
  match work.run s with
  | .ok _ _ => none
  | .error failure _ => some failure

/-- What a call in place ends with if it writes only once it can no longer fail. -/
def ending (s : Session) : Except Failure Session → EStateM.Result Failure Session Unit
  | .ok t => .ok () t
  | .error failure => .error failure s

/-- The call for a program succeeds and notes what it says. -/
theorem run_program (node : Json) (s : Session) :
    (program node).run s = .ok () (s.onProgram node) := by
  rw [program, Session.onProgram]
  by_cases h : isClientDirective node = true
  · rw [if_pos h, if_pos h]
    rfl
  · rw [if_neg h, if_neg h]
    rfl

/-- The call for an export succeeds and notes what it says. -/
theorem run_exportDeclaration (node : Json) (s : Session) :
    (exportDeclaration node).run s = .ok () (s.onExport node) := by
  rw [exportDeclaration, Session.onExport]
  by_cases h : declaresForceDynamic node = true
  · rw [if_pos h, if_pos h]
    rfl
  · rw [if_neg h, if_neg h]
    rfl

/-- Work goes on from what the work before it left. -/
theorem run_bind_ok {α β : Type} {work : Handling α} {next : α → Handling β} {s t : Session}
    {a : α} (h : work.run s = .ok a t) : (work >>= next).run s = (next a).run t := by
  have hwork : work s = .ok a t := h
  show EStateM.bind work next s = next a t
  rw [EStateM.bind, hwork]

/-- Work that goes on with an outcome fails as it does, and has written nothing. -/
theorem run_orFail_bind {α β : Type} (outcome : Except Failure α) (next : α → Handling β)
    (s : Session) :
    (orFail outcome >>= next).run s = match outcome with
      | .ok a => (next a).run s
      | .error failure => .error failure s := by
  cases outcome <;> rfl

/-- An import is read and its name is checked before anything is written. -/
theorem run_importDeclaration (node : Json) (s : Session) :
    (importDeclaration node).run s = ending s (s.onImport node) := by
  show (orFail (importAlias node s.options.envSource) >>= _).run s = _
  rw [run_orFail_bind, Session.onImport]
  cases importAlias node s.options.envSource with
  | error failure => rfl
  | ok found =>
      cases found with
      | none => rfl
      | some name =>
          show (orFail (s.state.track name) >>= _).run s = ending s (s.state.track name >>= _)
          rw [run_orFail_bind]
          cases s.state.track name with
          | error failure => rfl
          | ok tracked => rfl

/-- Place, site and state of a read are made before anything is written. -/
theorem run_access (property : Json) (s : Session) :
    (access property).run s = ending s (s.recordAccess property) := by
  show (orFail (placeOf property (some s.path)) >>= _).run s = _
  rw [run_orFail_bind, Session.recordAccess]
  cases placeOf property (some s.path) with
  | error failure => rfl
  | ok location =>
      show (orFail (Site.make _ (some location) _) >>= _).run s
        = ending s (Site.make _ (some location) _ >>= _)
      rw [run_orFail_bind]
      cases Site.make ((Tree.identifierName property).getD "") (some location)
          (s.options.isServerOnly ((Tree.identifierName property).getD "")) with
      | error failure => rfl
      | ok site =>
          show (orFail (s.state.record site) >>= _).run s = ending s (s.state.record site >>= _)
          rw [run_orFail_bind]
          cases s.state.record site <;> rfl

/-- The call for a member expression in place is that of the session, made as a whole or not
    at all. -/
theorem run_member (node : Json) (s : Session) :
    (member node).run s = ending s (s.onMember node) := by
  show (match s.state.tracked, memberAccess node with
    | some name, some (object, property) => if object = name then access property else pure ()
    | _, _ => pure () : Handling Unit).run s = _
  rw [Session.onMember]
  cases s.state.tracked with
  | none => rfl
  | some name =>
      cases memberAccess node with
      | none => rfl
      | some read =>
          obtain ⟨object, property⟩ := read
          by_cases h : object = name
          · simp only [if_pos h]
            exact run_access property s
          · simp only [if_neg h]
            rfl

/-- Reports in place are never refused, so none of them is left over from a call that
    fails. -/
theorem run_forM_report (sites : List Site) {s : Session}
    (h : s.context.describes = description) :
    (sites.forM report).run s = .ok () (s.reporting sites) := by
  induction sites generalizing s with
  | nil =>
      rw [Session.reporting_nil]
      rfl
  | cons site sites ih =>
      have hreport : (report site).run s = .ok () (s.reporting [site]) := by
        show (orFail (Session.reportSite s.context site) >>= _).run s = _
        rw [run_orFail_bind, reportSite_eq_ok h site]
        rfl
      show (report site >>= fun _ => sites.forM report).run s = _
      rw [run_bind_ok hreport, ih (s := s.reporting [site]) h, Session.reporting_cons]

theorem run_programExit {s : Session} (h : s.context.describes = description) :
    programExit.run s = ending s s.onProgramExit := by
  rw [Session.onProgramExit_eq h]
  exact run_forM_report s.state.offending (s := s.tell (.verdict s.path s.state.sites.length
    s.state.privateSites.length s.state.offending.length)) h

/-- **Calls in place do what the session's own step does**: a call that fails has
    written nothing. -/
theorem call_run_eq {s : Session} (h : s.context.describes = description) (x : Selector)
    (node : Json) : (call x node).run s = ending s (s.step x node) := by
  cases x with
  | program => exact run_program node s
  | importDeclaration => exact run_importDeclaration node s
  | exportDeclaration => exact run_exportDeclaration node s
  | member => exact run_member node s
  | programExit => exact run_programExit h

end Handling

/-! ## All that a call can do -/

/-- A session that knows and has reported what is said, and is otherwise as before. -/
def Session.Becomes (s : Session) (state : State) (context : Context) (t : Session) : Prop :=
  t.options = s.options ∧ t.state = state ∧ t.context = context

/-- All that a call can do, by cause. -/
inductive Effect (s : Session) : Selector → Json → Except Failure Session → Prop where
  | nothing {x : Selector} {n : Json} {t : Session} (hx : x ≠ .programExit)
      (ht : s.Becomes s.state s.context t) : Effect s x n (.ok t)
  | client {n : Json} {t : Session} (ht : s.Becomes s.state.markClient s.context t) :
      Effect s .program n (.ok t)
  | dynamic {n : Json} {t : Session} (ht : s.Becomes s.state.markDynamic s.context t) :
      Effect s .exportDeclaration n (.ok t)
  | bound {n : Json} {t : Session} {name : String} (hname : name ≠ "")
      (hfree : s.state.tracked = none)
      (ht : s.Becomes { s.state with tracked := some name } s.context t) :
      Effect s .importDeclaration n (.ok t)
  | read {n property : Json} {t : Session} {name : String} {site : Site}
      (hbound : s.state.tracked = some name) (hread : memberAccess n = some (name, property))
      (hsite : siteOf s.options s.path property = .ok site)
      (ht : s.Becomes { s.state with sites := s.state.sites ++ [site] } s.context t) :
      Effect s .member n (.ok t)
  | reported {n : Json} {t : Session}
      (ht : s.Becomes s.state (s.reporting s.state.offending).context t) :
      Effect s .programExit n (.ok t)
  | badImport {n : Json} {failure : Failure}
      (hfail : importAlias n s.options.envSource = .error failure) :
      Effect s .importDeclaration n (.error failure)
  | badRead {n property : Json} {name : String} {failure : Failure}
      (hbound : s.state.tracked = some name) (hread : memberAccess n = some (name, property))
      (hfail : siteOf s.options s.path property = .error failure) :
      Effect s .member n (.error failure)

/-- A program says at most that the module is a client. -/
theorem onProgram_effect (s : Session) (n : Json) : Effect s .program n (.ok (s.onProgram n)) := by
  rw [Session.onProgram]
  split
  · exact .client ⟨rfl, rfl, rfl⟩
  · exact .nothing (by decide) ⟨rfl, rfl, rfl⟩

/-- An export says at most that the module is dynamic. -/
theorem onExport_effect (s : Session) (n : Json) :
    Effect s .exportDeclaration n (.ok (s.onExport n)) := by
  rw [Session.onExport]
  split
  · exact .dynamic ⟨rfl, rfl, rfl⟩
  · exact .nothing (by decide) ⟨rfl, rfl, rfl⟩

/-- The name that an import binds is not empty, so it is never refused. -/
theorem onImport_effect (s : Session) (n : Json) :
    Effect s .importDeclaration n (s.onImport n) := by
  rw [Session.onImport]
  cases halias : importAlias n s.options.envSource with
  | error failure => exact .badImport halias
  | ok found =>
      cases found with
      | none => exact .nothing (by decide) ⟨rfl, rfl, rfl⟩
      | some name =>
          have hname := importAlias_ne_empty halias
          show Effect s _ n (s.state.track name >>= _)
          rw [State.track, if_neg hname]
          by_cases hfree : s.state.tracked.isSome = true
          · rw [if_pos hfree]
            exact .nothing (by decide) ⟨rfl, rfl, rfl⟩
          · rw [if_neg hfree]
            exact .bound hname (by simpa using hfree) ⟨rfl, rfl, rfl⟩

/-- Something is read only once a name is bound, so no read is refused for that. -/
theorem onMember_effect (s : Session) (n : Json) : Effect s .member n (s.onMember n) := by
  rw [Session.onMember]
  cases hbound : s.state.tracked with
  | none => exact .nothing (by decide) ⟨rfl, rfl, rfl⟩
  | some name =>
      cases hread : memberAccess n with
      | none => exact .nothing (by decide) ⟨rfl, rfl, rfl⟩
      | some read =>
          obtain ⟨object, property⟩ := read
          by_cases hobject : object = name
          · subst hobject
            simp only [if_pos]
            rw [Session.recordAccess_eq]
            cases hsite : siteOf s.options s.path property with
            | error failure => exact .badRead hbound hread hsite
            | ok site =>
                have hsome : ¬s.state.tracked.isNone = true := by
                  rw [hbound]
                  exact Bool.noConfusion
                show Effect s _ n (s.state.record site >>= _)
                rw [State.record, if_neg hsome]
                exact .read hbound hread hsite ⟨rfl, rfl, rfl⟩
          · simp only [if_neg hobject]
            exact .nothing (by decide) ⟨rfl, rfl, rfl⟩

/-- **All that a call can do.** -/
theorem step_effect {s : Session} (h : s.context.describes = description) (x : Selector)
    (n : Json) : Effect s x n (s.step x n) := by
  cases x with
  | program => exact onProgram_effect s n
  | importDeclaration => exact onImport_effect s n
  | exportDeclaration => exact onExport_effect s n
  | member => exact onMember_effect s n
  | programExit =>
      show Effect s _ n s.onProgramExit
      rw [Session.onProgramExit_eq h]
      exact .reported ⟨rfl, rfl, rfl⟩

/-! ## How a call can fail -/

/-- Failures of an operation that refuses a name, a read or a report. -/
def isRefusal : Failure → Bool
  | .misuse .noAlias | .misuse .noRuleName | .noTrackedAlias | .diagnostic _ | .rule .. => true
  | _ => false

/-- Tracking a name can only be refused. -/
theorem isRefusal_of_track {state : State} {name : String} {e : Failure}
    (h : state.track name = .error e) : isRefusal e = true := by
  rw [State.track] at h
  split at h
  · cases h
    rfl
  · split at h
    · cases h
    · cases h

theorem isRefusal_of_record {state : State} {site : Site} {e : Failure}
    (h : state.record site = .error e) : isRefusal e = true := by
  rw [State.record] at h
  split at h
  · cases h
    rfl
  · cases h

theorem isRefusal_of_template {m : Meta} {id : String} {e : Failure}
    (h : m.template id = .error e) : isRefusal e = true := by
  rw [Meta.template] at h
  split at h
  · cases h
  · cases h
    rw [Failure.ofRule]
    split
    · rfl
    · rfl

/-- A report is refused for a message that is not declared or for a missing part. -/
theorem isRefusal_of_report {context : Context} {location : Option Location} {id : String}
    {data : List (String × Json)} {e : Failure} (h : context.report location id data = .error e) :
    isRefusal e = true := by
  rcases bind_eq_error_iff.mp h with htemplate | ⟨template, -, hmake⟩
  · exact isRefusal_of_template htemplate
  · rcases bind_eq_error_iff.mp hmake with hfault | ⟨d, -, hok⟩
    · obtain ⟨fault, -, rfl⟩ := mapError_eq_error_iff.mp hfault
      rfl
    · cases hok

/-- Reading an import is not refused; it fails for what is no list. -/
theorem not_isRefusal_of_importAlias {n : Json} {source : String} {e : Failure}
    (h : importAlias n source = .error e) : isRefusal e = false := by
  obtain ⟨-, v, -, hitems⟩ := importAlias_eq_error_iff.mp h
  obtain ⟨rfl, -⟩ := itemsOf_eq_error_iff.mp hitems
  rfl

/-- Placing a read is not refused; it fails for the place that the document gives. -/
theorem not_isRefusal_of_placeOf {property : Json} {path : Path} {e : Failure}
    (h : placeOf property (some path) = .error e) : isRefusal e = false := by
  unfold placeOf at h
  split at h
  · obtain ⟨fault, -, rfl⟩ := mapError_eq_error_iff.mp h
    rfl
  · cases h
    rfl
  · cases h
    rfl

theorem not_isRefusal_of_siteOf {o : RuleOptions} {path : Path} {property : Json} {e : Failure}
    (h : siteOf o path property = .error e) : isRefusal e = false := by
  rcases bind_eq_error_iff.mp h with hplace | ⟨location, -, hmake⟩
  · exact not_isRefusal_of_placeOf hplace
  · rw [Site.make] at hmake
    split at hmake
    · cases hmake
      rfl
    · cases hmake

/-! ## What a call keeps -/

/-- A read with a name and a valid place in the file, classified by the options. -/
structure Site.Sound (o : RuleOptions) (path : Path) (site : Site) : Prop where
  name_ne : site.name ≠ ""
  file : site.location.file = path
  location : site.location.Valid
  isPrivate : site.isPrivate = o.isServerOnly site.name

/-- What holds of a session of the rule after any calls. -/
structure Session.Sound (o : RuleOptions) (severity : Severity) (path : Path) (s : Session) :
    Prop where
  options_eq : s.options = o
  describes_eq : s.context.describes = description
  severity_eq : s.context.severity = severity
  path_eq : s.context.path = path
  tracked_ne : ∀ name, s.state.tracked = some name → name ≠ ""
  sites : ∀ site ∈ s.state.sites, site.Sound o path

/-- What a call does to a session, and how it can fail. -/
structure CallLaw (o : RuleOptions) (severity : Severity) (path : Path) (s : Session)
    (x : Selector) (n : Json) (failure : Option Failure) (t : Session) : Prop where
  /-- The call in place is the session's own step. -/
  step : s.step x n = match failure with
    | none => .ok t
    | some failure => .error failure
  /-- A name that is bound stays. -/
  tracked : ∀ name, s.state.tracked = some name → t.state.tracked = some name
  /-- A client module stays one. -/
  client : s.state.client = true → t.state.client = true
  /-- A dynamic module stays one. -/
  dynamic : s.state.dynamic = true → t.state.dynamic = true
  /-- Only a member expression on the bound name adds a read, and one only. -/
  sites : t.state.sites = s.state.sites ∨ ∃ name property site, x = .member ∧
    s.state.tracked = some name ∧ memberAccess n = some (name, property) ∧
    siteOf o path property = .ok site ∧ t.state.sites = s.state.sites ++ [site]
  /-- Only leaving a program reports, each offending read once and in order. -/
  diagnostics : t.context.diagnostics = s.context.diagnostics ++
    if x = .programExit then s.state.offending.map (diagnosticOf severity) else []
  /-- A call that fails leaves everything as it was. -/
  unchanged : failure ≠ none → t = s
  /-- No call fails because a name, a read or a report is refused. -/
  failures : ∀ e, failure = some e →
    (∀ (state : State) (name : String), state.track name ≠ .error e) ∧
    (∀ (state : State) (site : Site), state.record site ≠ .error e) ∧
    (∀ (context : Context) (location : Option Location) (id : String)
      (data : List (String × Json)), context.report location id data ≠ .error e)

section

variable {o : RuleOptions} {severity : Severity} {path : Path} {s t u : Session}

/-- A place is valid and in the file. -/
theorem valid_of_placeOf {property : Json} {location : Location}
    (h : placeOf property (some path) = .ok location) : location.file = path ∧ location.Valid := by
  unfold placeOf at h
  split at h
  · obtain ⟨rfl, hvalid⟩ := Location.make_eq_ok_iff.mp (mapError_eq_ok_iff.mp h)
    exact ⟨rfl, hvalid⟩
  · cases h
  · cases h

/-- A site is made with a name and a valid place. -/
theorem sound_of_siteOf {property : Json} {site : Site} (h : siteOf o path property = .ok site) :
    site.Sound o path := by
  obtain ⟨location, hplace, hmake⟩ := bind_eq_ok_iff.mp h
  obtain ⟨hfile, hvalid⟩ := valid_of_placeOf hplace
  rw [Site.make] at hmake
  split at hmake
  · cases hmake
  next hname =>
    cases hmake
    exact ⟨hname, hfile, hvalid, rfl⟩

/-- A call that is not refused cannot fail as an operation that refuses. -/
theorem failures_of_not_isRefusal {e : Failure} (h : isRefusal e = false) :
    (∀ (state : State) (name : String), state.track name ≠ .error e) ∧
    (∀ (state : State) (site : Site), state.record site ≠ .error e) ∧
    (∀ (context : Context) (location : Option Location) (id : String)
      (data : List (String × Json)), context.report location id data ≠ .error e) := by
  refine ⟨?_, ?_, ?_⟩
  · intro state name htrack
    exact Bool.false_ne_true (h.symm.trans (isRefusal_of_track htrack))
  · intro state site hrecord
    exact Bool.false_ne_true (h.symm.trans (isRefusal_of_record hrecord))
  · intro context location id data hreport
    exact Bool.false_ne_true (h.symm.trans (isRefusal_of_report hreport))

/-- A session that becomes another one stays sound if what it becomes is. -/
theorem Session.Sound.becomes (h : s.Sound o severity path) {state : State}
    {diagnostics : List Diagnostic} (ht : s.Becomes state { s.context with diagnostics } t)
    (htracked : ∀ name, state.tracked = some name → name ≠ "")
    (hsites : ∀ site ∈ state.sites, site.Sound o path) : t.Sound o severity path := by
  obtain ⟨hoptions, rfl, hcontext⟩ := ht
  refine ⟨hoptions.trans h.options_eq, ?_, ?_, ?_, htracked, hsites⟩
  · rw [hcontext]
    exact h.describes_eq
  · rw [hcontext]
    exact h.severity_eq
  · rw [hcontext]
    exact h.path_eq

/-- A call that reports nothing obeys the law if what is known afterwards does. -/
theorem callLaw_of_becomes {x : Selector} {n : Json} {state : State}
    (hstep : s.step x n = .ok t) (hexit : x ≠ .programExit) (ht : s.Becomes state s.context t)
    (htracked : ∀ name, s.state.tracked = some name → state.tracked = some name)
    (hclient : s.state.client = true → state.client = true)
    (hdynamic : s.state.dynamic = true → state.dynamic = true)
    (hsites : state.sites = s.state.sites ∨ ∃ name property site, x = .member ∧
      s.state.tracked = some name ∧ memberAccess n = some (name, property) ∧
      siteOf o path property = .ok site ∧ state.sites = s.state.sites ++ [site]) :
    CallLaw o severity path s x n none t := by
  obtain ⟨-, rfl, hcontext⟩ := ht
  refine ⟨hstep, htracked, hclient, hdynamic, hsites, ?_, fun hfail => absurd rfl hfail, ?_⟩
  · rw [if_neg hexit, hcontext, List.append_nil]
  · intro e he
    cases he

/-- A call that does something keeps the invariant and obeys the law. -/
theorem Session.Sound.effect (h : s.Sound o severity path) {x : Selector} {n : Json}
    (heffect : Effect s x n (.ok t)) (hstep : s.step x n = .ok t) :
    CallLaw o severity path s x n none t ∧ t.Sound o severity path := by
  cases heffect with
  | nothing hexit ht =>
      exact ⟨callLaw_of_becomes hstep hexit ht (fun _ => id) id id (Or.inl rfl),
        h.becomes ht h.tracked_ne h.sites⟩
  | client ht =>
      exact ⟨callLaw_of_becomes hstep (by decide) ht (fun _ => id) (fun _ => rfl) id (Or.inl rfl),
        h.becomes ht h.tracked_ne h.sites⟩
  | dynamic ht =>
      exact ⟨callLaw_of_becomes hstep (by decide) ht (fun _ => id) id (fun _ => rfl) (Or.inl rfl),
        h.becomes ht h.tracked_ne h.sites⟩
  | bound hname hfree ht =>
      refine ⟨callLaw_of_becomes hstep (by decide) ht ?_ id id (Or.inl rfl),
        h.becomes ht ?_ h.sites⟩
      · -- a name is bound only where none was
        intro name hbound
        rw [hfree] at hbound
        cases hbound
      · intro name heq
        cases heq
        exact hname
  | @read _ property _ name site hbound hread hsite ht =>
      have hmade : siteOf o path property = .ok site := by
        rw [← h.options_eq, ← h.path_eq]
        exact hsite
      refine ⟨callLaw_of_becomes hstep (by decide) ht (fun _ => id) id id
        (Or.inr ⟨name, property, site, rfl, hbound, hread, hmade, rfl⟩),
        h.becomes ht h.tracked_ne ?_⟩
      -- the one site that is new is sound, since it was made
      intro other hother
      rcases List.mem_append.mp hother with hold | hnew
      · exact h.sites other hold
      · rw [List.mem_singleton.mp hnew]
        exact sound_of_siteOf hmade
  | reported ht =>
      refine ⟨?_, h.becomes ht h.tracked_ne h.sites⟩
      obtain ⟨-, hstate, hcontext⟩ := ht
      refine ⟨hstep, ?_, ?_, ?_, Or.inl ?_, ?_, fun hfail => absurd rfl hfail, ?_⟩
      · rw [hstate]
        exact fun _ => id
      · rw [hstate]
        exact id
      · rw [hstate]
        exact id
      · rw [hstate]
      · rw [if_pos rfl, hcontext, ← h.severity_eq]
        rfl
      · intro e he
        cases he

/-- A call that fails obeys the law. -/
theorem callLaw_of_effect_error {x : Selector} {n : Json}
    {e : Failure} (heffect : Effect s x n (.error e)) (hstep : s.step x n = .error e) :
    CallLaw o severity path s x n (some e) s := by
  have hexit : x ≠ .programExit := by
    cases heffect <;> exact nofun
  have hrefusal : isRefusal e = false := by
    cases heffect with
    | badImport hfail => exact not_isRefusal_of_importAlias hfail
    | badRead _ _ hfail => exact not_isRefusal_of_siteOf hfail
  refine ⟨hstep, fun _ => id, id, id, Or.inl rfl, ?_, fun _ => rfl, ?_⟩
  · rw [if_neg hexit, List.append_nil]
  · rintro other heq
    cases heq
    exact failures_of_not_isRefusal hrefusal

/-- **One call** in place keeps the invariant and obeys the law, whether it fails or
    not. -/
theorem Session.Sound.call (h : s.Sound o severity path) (x : Selector) (n : Json) :
    CallLaw o severity path s x n ((Handling.call x n).failure? s) ((Handling.call x n).after s) ∧
      ((Handling.call x n).after s).Sound o severity path := by
  have heffect := step_effect h.describes_eq x n
  rw [Handling.failure?, Handling.after, Handling.call_run_eq h.describes_eq]
  cases hstep : s.step x n with
  | error e =>
      rw [hstep] at heffect
      exact ⟨callLaw_of_effect_error heffect hstep, h⟩
  | ok t =>
      rw [hstep] at heffect
      exact h.effect heffect hstep

/-! ## Sequences of calls -/

/-- The session after calls one after another, those that fail included. -/
def afterCalls (s : Session) (calls : List (Selector × Json)) : Session :=
  calls.foldl (fun s c => (Handling.call c.1 c.2).after s) s

/-- What calls only add to. -/
structure Grows (s t : Session) : Prop where
  tracked : ∀ name, s.state.tracked = some name → t.state.tracked = some name
  client : s.state.client = true → t.state.client = true
  dynamic : s.state.dynamic = true → t.state.dynamic = true
  sites : s.state.sites <+: t.state.sites
  diagnostics : s.context.diagnostics <+: t.context.diagnostics

theorem Grows.refl (s : Session) : Grows s s :=
  ⟨fun _ => id, id, id, List.prefix_rfl, List.prefix_rfl⟩

/-- What grows twice grows. -/
theorem Grows.trans (hst : Grows s t) (htu : Grows t u) : Grows s u where
  tracked name := htu.tracked name ∘ hst.tracked name
  client := htu.client ∘ hst.client
  dynamic := htu.dynamic ∘ hst.dynamic
  sites := hst.sites.trans htu.sites
  diagnostics := hst.diagnostics.trans htu.diagnostics

/-- A call that obeys the law lets a session grow. -/
theorem CallLaw.grows {x : Selector} {n : Json} {failure : Option Failure}
    (h : CallLaw o severity path s x n failure t) : Grows s t := by
  refine ⟨h.tracked, h.client, h.dynamic, ?_, ?_⟩
  · rcases h.sites with heq | ⟨_, _, site, _, _, _, _, heq⟩
    · exact heq ▸ List.prefix_rfl
    · exact heq ▸ List.prefix_append _ _
  · rw [h.diagnostics]
    exact List.prefix_append _ _

/-- Any calls keep the invariant, and only add. -/
theorem Session.Sound.afterCalls (h : s.Sound o severity path) (calls : List (Selector × Json)) :
    (afterCalls s calls).Sound o severity path ∧ Grows s (afterCalls s calls) := by
  induction calls generalizing s with
  | nil => exact ⟨h, Grows.refl s⟩
  | cons c calls ih =>
      obtain ⟨hlaw, hnext⟩ := h.call c.1 c.2
      obtain ⟨hsound, hgrows⟩ := ih hnext
      exact ⟨hsound, hlaw.grows.trans hgrows⟩

/-- Calls are made one after the other, so a sequence may be cut anywhere. -/
theorem afterCalls_append (s : Session) (calls more : List (Selector × Json)) :
    afterCalls s (calls ++ more) = afterCalls (afterCalls s calls) more :=
  List.foldl_append

/-- A new session is sound. -/
theorem sound_start (o : RuleOptions) (severity : Severity) (path : Path) :
    ∃ s, Session.start o severity (some path) = .ok s ∧ s.Sound o severity path := by
  refine ⟨_, rfl, rfl, rfl, rfl, rfl, ?_, ?_⟩
  · intro name hname
    cases hname
  · intro site hsite
    cases hsite

end

/-- **Calls in any order.**  A session can be started on a file, and after any calls
    on any values, also ones that failed, it is sound: a name that is bound is
    not empty, and each read has a name, a valid place and its classification.
    Later calls only add to what it knows and has reported, and each call obeys
    `CallLaw`. -/
theorem calls_lawful (o : RuleOptions) (severity : Severity) (path : Path) :
    ∃ start, Session.start o severity (some path) = .ok start ∧
      ∀ calls : List (Selector × Json),
        (afterCalls start calls).Sound o severity path ∧
        (∀ more, Grows (afterCalls start calls) (afterCalls start (calls ++ more))) ∧
        ∀ x n, CallLaw o severity path (afterCalls start calls) x n
          ((Handling.call x n).failure? (afterCalls start calls))
          (afterCalls start (calls ++ [(x, n)])) := by
  obtain ⟨start, hstart, hsound⟩ := sound_start o severity path
  refine ⟨start, hstart, ?_⟩
  intro calls
  have hcalls := (hsound.afterCalls calls).1
  refine ⟨hcalls, ?_, ?_⟩
  · intro more
    rw [afterCalls_append]
    exact (hcalls.afterCalls more).2
  · intro x n
    rw [afterCalls_append]
    exact (hcalls.call x n).1

end EnvLint.Env
