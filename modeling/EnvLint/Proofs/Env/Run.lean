import EnvLint.Lint.Linter
import EnvLint.Proofs.Env.Known
import EnvLint.Proofs.Tree.Traversal

/-! # A session over a whole walk

    What one call does to a session, and from it, by induction on the visits,
    what a whole walk does.  `Session.Knows` is the invariant: a session knows
    what `stateOf` says of the nodes entered so far, and it has reported what
    `reportsFrom` says of the visits so far.  A visit either keeps it or fails
    with the fault of the node that it enters (`Knows.visit`), so a walk fails
    with the first fault of its nodes or ends in the closed form (`lint_eq`). -/

namespace EnvLint.Env

/-! ## Which visits call the session -/

namespace Selector

theorem ofString?_eq_some {s : String} {x : Selector} : ofString? s = some x ↔ x.name = s := by
  constructor
  · intro h
    simpa using List.find?_some h
  · rintro rfl
    cases x <;> rfl

/-- Entering a node calls the selector that its type names. -/
theorem ofVisit?_enter {n : Json} {x : Selector} :
    ofVisit? ⟨.enter, n⟩ = some x ↔ Tree.typeOf? n = some x.name := by
  rw [ofVisit?, Option.bind_eq_some_iff]
  constructor
  · rintro ⟨type, htype, hname⟩
    rw [show Tree.typeOf? n = some type from htype]
    exact congrArg some (ofString?_eq_some.mp hname).symm
  · intro h
    exact ⟨x.name, h, ofString?_eq_some.mpr rfl⟩

theorem getLast?_exitName (type : String) : (type ++ ":exit").toList.getLast? = some 't' := by
  rw [String.toList_append, List.getLast?_append]
  rfl

/-- Leaving a node calls the session for a program only. -/
theorem ofVisit?_leave {n : Json} {x : Selector} :
    ofVisit? ⟨.leave, n⟩ = some x ↔ x = .programExit ∧ Tree.typeOf? n = some "Program" := by
  have hexit : "Program" ++ ":exit" = programExit.name := by decide +kernel
  rw [ofVisit?, Option.bind_eq_some_iff]
  constructor
  · rintro ⟨type, htype, hname⟩
    have hx : x.name = type ++ ":exit" := ofString?_eq_some.mp hname
    -- of all selectors only the exit one ends in a `t`
    have hlast := getLast?_exitName type
    rw [← hx] at hlast
    cases x with
    | programExit =>
        rw [← hexit] at hx
        rw [(String.append_left_inj ":exit").mp hx]
        exact ⟨rfl, htype⟩
    | program | importDeclaration | exportDeclaration | member =>
        exact absurd hlast (by decide +kernel)
  · rintro ⟨rfl, htype⟩
    refine ⟨"Program", htype, ofString?_eq_some.mpr ?_⟩
    exact hexit.symm

end Selector

/-! ## The invariant -/

/-- The reports that leaving a program makes after nodes were entered. -/
def verdict (o : RuleOptions) (severity : Severity) (path : Path) (entered : List Json) :
    List Diagnostic :=
  (stateOf o path entered).offending.map (diagnosticOf severity)

/-- Why a visit fails: for the fault of the node that it enters. -/
def visitFault (o : RuleOptions) (path : Path) (entered : List Json) (v : Tree.Visit) :
    Option Failure :=
  match v.phase with
  | .enter => fault o path entered v.node
  | .leave => none

/-- The reports that a visit makes after nodes were entered, its own among them. -/
def reportsAt (o : RuleOptions) (severity : Severity) (path : Path) (entered : List Json)
    (v : Tree.Visit) : List Diagnostic :=
  if Selector.ofVisit? v = some .programExit then verdict o severity path entered else []

/-- What a session knows and has reported after nodes were entered. -/
structure Session.Knows (o : RuleOptions) (severity : Severity) (path : Path)
    (entered : List Json) (reported : List Diagnostic) (s : Session) : Prop where
  options : s.options = o
  context : s.context = ⟨description, severity, path, reported⟩
  state : s.state = stateOf o path entered

/-- An outcome fails for a reason if there is one, and else has a property. -/
def Reaches (outcome : Except Failure Session) (reason : Option Failure)
    (property : Session → Prop) : Prop :=
  match reason with
  | some failure => outcome = .error failure
  | none => ∃ s, outcome = .ok s ∧ property s

variable {o : RuleOptions} {severity : Severity} {path : Path} {entered : List Json}
  {reported : List Diagnostic} {s : Session}

/-- A session that starts knows nothing. -/
theorem start_eq_ok (o : RuleOptions) (severity : Severity) (path : Path) :
    ∃ s, Session.start o severity (some path) = .ok s ∧
      Session.Knows o severity path [] [] s :=
  ⟨_, rfl, rfl, rfl, rfl⟩

/-- A read is recorded by its site. -/
theorem Session.recordAccess_eq (s : Session) (property : Json) :
    s.recordAccess property =
      (siteOf s.options s.path property >>= fun site =>
        s.state.record site >>= fun state => .ok { s with state }) := by
  rw [Session.recordAccess, siteOf]
  cases placeOf property (some s.path) <;> rfl

/-- Entering a member expression records what it reads on the bound name. -/
theorem Session.onMember_eq {n : Json} (htype : Tree.typeOf? n = some "MemberExpression") :
    s.onMember n = match s.state.tracked.bind (readOn · n) with
      | some property => s.recordAccess property
      | none => .ok s := by
  rw [Session.onMember]
  cases s.state.tracked with
  | none => rfl
  | some name =>
      have hread : readOn name n = (memberAccess n).bind fun access =>
          if access.1 = name then some access.2 else none := by
        rw [readOn, hasType_eq htype]
        rfl
      rw [Option.bind_some, hread]
      cases memberAccess n with
      | none => rfl
      | some access =>
          obtain ⟨object, property⟩ := access
          rw [Option.bind_some]
          by_cases hobject : object = name
          · simp only [if_pos hobject]
          · simp only [if_neg hobject]

/-- A visit that calls nothing, or the verdict, sees no watched type. -/
theorem not_watched {n : Json}
    (h : Selector.ofVisit? ⟨.enter, n⟩ = none ∨ Selector.ofVisit? ⟨.enter, n⟩ = some .programExit) :
    ∀ type ∈ watchedTypes, Tree.hasType n type = false := by
  have hselect : ∀ x : Selector, x ≠ .programExit → Tree.hasType n x.name = false := by
    intro x hx
    by_cases htype : Tree.typeOf? n = some x.name
    · have hcalled := Selector.ofVisit?_enter.mpr htype
      rcases h with h | h
      · rw [h] at hcalled
        cases hcalled
      · rw [h] at hcalled
        exact absurd (Option.some.inj hcalled).symm hx
    · simpa [Tree.hasType] using htype
  intro type hmem
  simp only [watchedTypes, List.mem_cons, List.not_mem_nil, or_false] at hmem
  rcases hmem with rfl | rfl | rfl | rfl
  · exact hselect .program (by decide)
  · exact hselect .importDeclaration (by decide)
  · exact hselect .exportDeclaration (by decide)
  · exact hselect .member (by decide)

namespace Session.Knows

/-- Entering a program keeps the invariant. -/
theorem onProgram (h : Knows o severity path entered reported s) {n : Json}
    (htype : Tree.typeOf? n = some "Program") :
    Knows o severity path (entered ++ [n]) reported (s.onProgram n) := by
  have hstate := stateOf_append_program h.state htype
  rw [Session.onProgram]
  by_cases hclient : isClientDirective n = true
  · rw [if_pos hclient]
    rw [hclient, Bool.or_true] at hstate
    exact ⟨h.options, h.context, hstate.symm⟩
  · rw [if_neg hclient]
    rw [(Bool.not_eq_true _).mp hclient, Bool.or_false] at hstate
    exact ⟨h.options, h.context, hstate.symm⟩

/-- Entering an export keeps the invariant. -/
theorem onExport (h : Knows o severity path entered reported s) {n : Json}
    (htype : Tree.typeOf? n = some "ExportNamedDeclaration") :
    Knows o severity path (entered ++ [n]) reported (s.onExport n) := by
  have hstate := stateOf_append_export h.state htype
  rw [Session.onExport]
  by_cases hdynamic : declaresForceDynamic n = true
  · rw [if_pos hdynamic]
    rw [hdynamic, Bool.or_true] at hstate
    exact ⟨h.options, h.context, hstate.symm⟩
  · rw [if_neg hdynamic]
    rw [(Bool.not_eq_true _).mp hdynamic, Bool.or_false] at hstate
    exact ⟨h.options, h.context, hstate.symm⟩

/-- Entering an import keeps the invariant, or fails if the import cannot be read. -/
theorem onImport (h : Knows o severity path entered reported s) {n : Json}
    (htype : Tree.typeOf? n = some "ImportDeclaration") :
    Reaches (s.onImport n) (failureOf (importAlias n o.envSource))
      (Knows o severity path (entered ++ [n]) reported) := by
  have hstate := stateOf_append_import h.state htype
  obtain ⟨rfl, hcontext, -⟩ := h
  rw [Session.onImport]
  cases halias : importAlias n s.options.envSource with
  | error failure => rfl
  | ok found =>
      rw [halias] at hstate
      cases found with
      | none =>
          refine ⟨s, rfl, rfl, hcontext, ?_⟩
          rw [hstate]
          show s.state = { s.state with tracked := s.state.tracked.or none }
          rw [Option.or_none]
      | some name =>
          have hname := importAlias_ne_empty halias
          show Reaches (s.state.track name >>= _) none _
          cases htracked : s.state.tracked with
          | none =>
              -- the first name is bound
              have htrack : s.state.track name
                  = .ok (true, { s.state with tracked := some name }) := by
                rw [State.track, if_neg hname, htracked]
                rfl
              rw [htrack]
              refine ⟨_, rfl, rfl, hcontext, ?_⟩
              rw [hstate, htracked]
              rfl
          | some first =>
              -- a later name is ignored
              have htrack : s.state.track name = .ok (false, s.state) := by
                rw [State.track, if_neg hname, htracked]
                rfl
              rw [htrack]
              refine ⟨_, rfl, rfl, hcontext, ?_⟩
              show s.state = _
              rw [hstate, htracked, Option.some_or, ← htracked]

/-- Entering a member expression keeps the invariant, or fails with its fault. -/
theorem onMember (h : Knows o severity path entered reported s) {n : Json}
    (htype : Tree.typeOf? n = some "MemberExpression") :
    Reaches (s.onMember n) (fault o path entered n)
      (Knows o severity path (entered ++ [n]) reported) := by
  have hpath : s.path = path := by
    rw [Session.path, h.context]
  have hstate := stateOf_append_member h.state htype
  have hfault : fault o path entered n
      = (s.state.tracked.bind (readOn · n)).bind fun p => failureOf (siteOf o path p) := by
    rw [fault, hasType_eq htype, h.state]
    rfl
  obtain ⟨rfl, hcontext, -⟩ := h
  rw [onMember_eq htype, hfault]
  cases hread : s.state.tracked.bind (readOn · n) with
  | none =>
      rw [hread] at hstate
      refine ⟨s, rfl, rfl, hcontext, ?_⟩
      rw [hstate]
      show s.state = { s.state with sites := s.state.sites ++ [] }
      rw [List.append_nil]
  | some property =>
      rw [hread] at hstate
      show Reaches (s.recordAccess property) (failureOf (siteOf s.options path property)) _
      rw [recordAccess_eq, hpath]
      cases hsite : siteOf s.options path property with
      | error failure => rfl
      | ok site =>
          -- something is read only once a name is bound
          have hrecord : s.state.record site
              = .ok { s.state with sites := s.state.sites ++ [site] } := by
            obtain ⟨name, htracked, -⟩ := Option.bind_eq_some_iff.mp hread
            have hsome : ¬s.state.tracked.isNone = true := by
              rw [htracked]
              exact Bool.noConfusion
            rw [State.record, if_neg hsome]
          show Reaches (s.state.record site >>= _) none _
          rw [hrecord]
          refine ⟨_, rfl, rfl, hcontext, ?_⟩
          show { s.state with sites := s.state.sites ++ [site] } = _
          rw [hstate]
          show _ = { s.state with
            sites := s.state.sites ++ (siteOf s.options path property).toOption.toList }
          rw [hsite]
          rfl

/-- Leaving a program adds the verdict on what is known. -/
theorem onProgramExit (h : Knows o severity path entered reported s) :
    ∃ t, s.onProgramExit = .ok t ∧
      Knows o severity path entered (reported ++ verdict o severity path entered) t := by
  have hdescribes : s.context.describes = description := by
    rw [h.context]
  rw [Session.onProgramExit]
  show ∃ t, (s.state.offending.foldlM reportSite s.context >>= _) = _ ∧ _
  rw [foldlM_reportSite_eq_ok _ hdescribes]
  refine ⟨_, rfl, h.options, ?_, h.state⟩
  show ({ s.context with diagnostics := _ } : Context) = _
  rw [h.context, h.state]
  rfl

/-- A node of no watched type keeps the invariant. -/
theorem other (h : Knows o severity path entered reported s) {n : Json}
    (hother : ∀ type ∈ watchedTypes, Tree.hasType n type = false) :
    Knows o severity path (entered ++ [n]) reported s :=
  ⟨h.options, h.context, (stateOf_append_other hother o path entered) ▸ h.state⟩

/-- Leaving a node keeps the invariant. -/
theorem leave (h : Knows o severity path entered reported s) (n : Json) :
    ∃ t, s.visit ⟨.leave, n⟩ = .ok t ∧
      Knows o severity path entered
        (reported ++ reportsAt o severity path entered ⟨.leave, n⟩) t := by
  rw [Session.visit, reportsAt]
  cases hcall : Selector.ofVisit? ⟨.leave, n⟩ with
  | none =>
      rw [if_neg (by simp), List.append_nil]
      exact ⟨s, rfl, h⟩
  | some x =>
      obtain ⟨rfl, -⟩ := Selector.ofVisit?_leave.mp hcall
      rw [if_pos rfl]
      exact h.onProgramExit

/-- Entering a node keeps the invariant, or fails with its fault. -/
theorem enter (h : Knows o severity path entered reported s) (n : Json) :
    Reaches (s.visit ⟨.enter, n⟩) (fault o path entered n)
      (Knows o severity path (entered ++ [n])
        (reported ++ reportsAt o severity path (entered ++ [n]) ⟨.enter, n⟩)) := by
  rw [Session.visit, reportsAt]
  cases hcall : Selector.ofVisit? ⟨.enter, n⟩ with
  | none =>
      -- the rule does not watch this type
      have hother := not_watched (Or.inl hcall)
      rw [fault_of_other (hother _ (by simp [watchedTypes])) (hother _ (by simp [watchedTypes])),
        if_neg (by simp), List.append_nil]
      exact ⟨s, rfl, h.other hother⟩
  | some x =>
      have htype := Selector.ofVisit?_enter.mp hcall
      cases x with
      | programExit =>
          -- an inner node whose type is the name of the last call: the rule reports here, too
          have hother := not_watched (Or.inr hcall)
          rw [fault_of_other (hother _ (by simp [watchedTypes])) (hother _ (by simp [watchedTypes])),
            if_pos rfl]
          exact (h.other hother).onProgramExit
      | program =>
          rw [fault_of_other (hasType_eq htype _) (hasType_eq htype _), if_neg (by simp),
            List.append_nil]
          exact ⟨_, rfl, h.onProgram htype⟩
      | exportDeclaration =>
          rw [fault_of_other (hasType_eq htype _) (hasType_eq htype _), if_neg (by simp),
            List.append_nil]
          exact ⟨_, rfl, h.onExport htype⟩
      | importDeclaration =>
          have hfault : fault o path entered n = failureOf (importAlias n o.envSource) := by
            rw [fault, hasType_eq htype]
            rfl
          rw [hfault, if_neg (by simp), List.append_nil]
          exact h.onImport htype
      | member =>
          rw [if_neg (by simp), List.append_nil]
          exact h.onMember htype

/-- A visit keeps the invariant, or fails with the fault of the node that it enters. -/
theorem visit (h : Knows o severity path entered reported s) (v : Tree.Visit) :
    Reaches (s.visit v) (visitFault o path entered v)
      (Knows o severity path (entered ++ v.entered)
        (reported ++ reportsAt o severity path (entered ++ v.entered) v)) := by
  obtain ⟨phase, n⟩ := v
  cases phase with
  | enter => exact h.enter n
  | leave =>
      have hnil : entered ++ (Tree.Visit.mk .leave n).entered = entered := List.append_nil entered
      rw [hnil]
      exact h.leave n

end Session.Knows

/-! ## The whole walk -/

/-- The first fault of nodes that are entered after others. -/
def firstFault (o : RuleOptions) (path : Path) (entered : List Json) : List Json → Option Failure
  | [] => none
  | n :: rest => (fault o path entered n).or (firstFault o path (entered ++ [n]) rest)

/-- The reports of visits that are made after nodes were entered. -/
def reportsFrom (o : RuleOptions) (severity : Severity) (path : Path) (entered : List Json) :
    List Tree.Visit → List Diagnostic
  | [] => []
  | v :: rest =>
      reportsAt o severity path (entered ++ v.entered) v ++
        reportsFrom o severity path (entered ++ v.entered) rest

/-- The first fault is that of the first visit, or that of the others. -/
theorem firstFault_entered (o : RuleOptions) (path : Path) (entered : List Json)
    (v : Tree.Visit) (nodes : List Json) :
    firstFault o path entered (v.entered ++ nodes)
      = (visitFault o path entered v).or
          (firstFault o path (entered ++ v.entered) nodes) := by
  obtain ⟨phase, n⟩ := v
  cases phase with
  | enter => rfl
  | leave =>
      show firstFault o path entered nodes = firstFault o path (entered ++ []) nodes
      rw [List.append_nil]

/-- Visits keep the invariant, or fail with the first fault of the nodes that they
    enter. -/
theorem Session.Knows.run (h : Knows o severity path entered reported s)
    (visits : List Tree.Visit) :
    Reaches (visits.foldlM Session.visit s)
      (firstFault o path entered (visits.flatMap Tree.Visit.entered))
      (Knows o severity path (entered ++ visits.flatMap Tree.Visit.entered)
        (reported ++ reportsFrom o severity path entered visits)) := by
  -- what was entered and reported grows with the visits, so both are general
  induction visits generalizing entered reported s with
  | nil =>
      refine ⟨s, rfl, ?_⟩
      rw [List.flatMap_nil, List.append_nil, reportsFrom, List.append_nil]
      exact h
  | cons v visits ih =>
      have hvisit := h.visit v
      rw [List.foldlM_cons, List.flatMap_cons, firstFault_entered, reportsFrom,
        ← List.append_assoc, ← List.append_assoc]
      cases hfault : visitFault o path entered v with
      | some failure =>
          rw [hfault] at hvisit
          have herror : s.visit v = .error failure := hvisit
          rw [herror]
          rfl
      | none =>
          rw [hfault] at hvisit
          obtain ⟨t, hok, ht⟩ : ∃ t, s.visit v = .ok t ∧ _ := hvisit
          rw [hok]
          exact ih ht

/-! ## The linter with the rule -/

theorem visitAll_singleton (s : Session) (v : Tree.Visit) :
    Linter.visitAll [s] v = (s.visit v).map fun t => [t] := by
  rw [Linter.visitAll, List.mapM_cons]
  cases s.visit v <;> rfl

/-- Visits that succeed one after another succeed as a run. -/
theorem runVisits_of_ok {visits : List Tree.Visit} {s t : Session}
    (h : visits.foldlM Session.visit s = .ok t) : Linter.runVisits [s] visits = ([t], none) := by
  induction visits generalizing s with
  | nil =>
      cases h
      rfl
  | cons v visits ih =>
      rw [List.foldlM_cons] at h
      rw [Linter.runVisits, visitAll_singleton]
      cases hv : s.visit v with
      | error failure =>
          rw [hv] at h
          cases h
      | ok next =>
          rw [hv] at h
          exact ih h

/-- A visit that fails ends the run with its failure. -/
theorem runVisits_of_error {visits : List Tree.Visit} {s : Session} {failure : Failure}
    (h : visits.foldlM Session.visit s = .error failure) :
    (Linter.runVisits [s] visits).2 = some failure := by
  induction visits generalizing s with
  | nil => cases h
  | cons v visits ih =>
      rw [List.foldlM_cons] at h
      rw [Linter.runVisits, visitAll_singleton]
      cases hv : s.visit v with
      | error other =>
          rw [hv] at h
          cases h
          rfl
      | ok next =>
          rw [hv] at h
          exact ih h

/-- The linter of a configuration that enables the rule with options it accepts. -/
theorem ofConfig_eq_ok [Host] {fields : List (String × Json)}
    (h : readOptions (.obj fields) = .ok o)
    (severity : Severity) :
    Linter.ofConfig ⟨[(ruleId, ⟨severity, fields⟩)]⟩
      = .ok ⟨⟨[(ruleId, ⟨severity, fields⟩)]⟩, [⟨o, severity⟩]⟩ := by
  have hfind : findRule ruleId = .ok description := by
    rw [findRule, rules, List.find?_cons_of_pos (by decide)]
  have henable : Linter.enable (ruleId, ⟨severity, fields⟩) = .ok ⟨o, severity⟩ := by
    rw [Linter.enable, hfind]
    show (readOptions (.obj fields) >>= _) = _
    rw [h]
    rfl
  rw [Linter.ofConfig, List.mapM_cons, henable]
  rfl

theorem rules_of_ofConfig [Host] {fields : List (String × Json)}
    (h : readOptions (.obj fields) = .ok o)
    {l : Linter} (hl : Linter.ofConfig ⟨[(ruleId, ⟨severity, fields⟩)]⟩ = .ok l) :
    l.rules = [⟨o, severity⟩] := by
  rw [ofConfig_eq_ok h severity] at hl
  cases hl
  rfl

/-- **A run of the rule in closed form**: it fails with the first fault of the nodes
    of the tree, or it ends with the reports of its visits in document order. -/
theorem lint_eq {l : Linter} (hrules : l.rules = [⟨o, severity⟩]) {program : Json}
    (hnode : Tree.isNode program = true) (path : Path) :
    l.lint program path = match firstFault o path [] (Tree.nodes program) with
      | some failure => .error failure
      | none => .ok ⟨path,
          (reportsFrom o severity path [] (Tree.events program)).mergeSort Diagnostic.le⟩ := by
  obtain ⟨s, hstart, hs⟩ := start_eq_ok o severity path
  have hsessions : l.sessions (some path) = .ok [s] := by
    rw [Linter.sessions, hrules, List.mapM_cons]
    show (Session.start o severity (some path) >>= _) = _
    rw [hstart]
    rfl
  -- one session makes all visits, and knows the nodes that were entered
  have hrun := hs.run (Tree.events program)
  rw [Tree.flatMap_entered_events] at hrun
  rw [Linter.lint, Linter.traceAt, hsessions, Tree.walk_eq_ok_events hnode]
  cases hfault : firstFault o path [] (Tree.nodes program) with
  | some failure =>
      rw [hfault] at hrun
      have hfail := runVisits_of_error hrun
      show (match (Linter.runVisits [s] (Tree.events program)).2 with
        | some failure => Except.error failure
        | none => _) = _
      rw [hfail]
  | none =>
      rw [hfault] at hrun
      obtain ⟨t, hok, ht⟩ := hrun
      show (match (Linter.runVisits [s] (Tree.events program)).2 with
        | some failure => Except.error failure
        | none => FileResult.make (some path)
            (Linter.found (Linter.runVisits [s] (Tree.events program)).1)) = _
      rw [runVisits_of_ok hok]
      show Except.ok (FileResult.mk path (([t].flatMap (·.context.diagnostics)).mergeSort
        Diagnostic.le)) = _
      rw [List.flatMap_singleton, ht.context]
      rfl

/-- Everything that a run reports is about the rule. -/
theorem ruleId_of_lint {l : Linter} (hrules : l.rules = [⟨o, severity⟩]) {program : Json}
    (hnode : Tree.isNode program = true) {path : Path} {result : FileResult}
    (h : l.lint program path = .ok result) : ∀ d ∈ result.diagnostics, d.ruleId = ruleId := by
  have hreports : ∀ (visits : List Tree.Visit) (entered : List Json),
      ∀ d ∈ reportsFrom o severity path entered visits, d.ruleId = ruleId := by
    intro visits
    induction visits with
    | nil => exact fun entered d hd => absurd hd List.not_mem_nil
    | cons v visits ih =>
        intro entered d hd
        rcases List.mem_append.mp hd with hd | hd
        · rw [reportsAt] at hd
          split at hd
          · obtain ⟨site, -, rfl⟩ := List.mem_map.mp hd
            rfl
          · exact absurd hd List.not_mem_nil
        · exact ih _ d hd
  rw [lint_eq hrules hnode] at h
  split at h
  · cases h
  · cases h
    intro d hd
    exact hreports _ _ d (List.mem_mergeSort.mp hd)

end EnvLint.Env
