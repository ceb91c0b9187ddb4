import EnvLint.Proofs.Env.Verdict
import Mathlib.Data.List.Perm.Subperm

/-! # When the verdict is given

    The rule gives its verdict whenever its exit handler is called.  The call is
    found by the name of a visit, and that name comes from the document: the
    handler runs when a node of type `Program` is left, and also when a node of
    type `Program:exit` is entered.  The root of an accepted document is left
    last, so the last call is always to this handler (`getLast?_calls_events`),
    but every other node of one of the two types makes a call of its own
    (`countP_calls_events`).  So the verdict is given once, after everything was
    collected, for the documents without such a node below the root, and for no
    others. -/

namespace EnvLint.Env

/-! ## The calls of a run -/

/-- The calls that visits make, each with the node that it is made for. -/
def calls (visits : List Tree.Visit) : List (Selector × Json) :=
  visits.filterMap fun v => (Selector.ofVisit? v).map fun x => (x, v.node)

/-- A session takes a call. -/
def Session.call (s : Session) (c : Selector × Json) : Except Failure Session :=
  s.step c.1 c.2

/-- Whether a call is to the exit handler. -/
def isExitCall (c : Selector × Json) : Bool :=
  c.1 == .programExit

/-- Visits do what their calls do. -/
theorem foldlM_visit (visits : List Tree.Visit) (s : Session) :
    visits.foldlM Session.visit s = (calls visits).foldlM Session.call s := by
  induction visits generalizing s with
  | nil => rfl
  | cons v visits ih =>
      rw [List.foldlM_cons, calls, List.filterMap_cons, Session.visit]
      cases Selector.ofVisit? v with
      | none =>
          -- a visit without a call leaves the session as it is
          exact ih s
      | some x =>
          show (s.step x v.node >>= fun t => visits.foldlM Session.visit t)
            = (s.step x v.node >>= fun t => (calls visits).foldlM Session.call t)
          cases s.step x v.node with
          | error failure => rfl
          | ok t => exact ih t

/-- Calls to the exit handler are counted by their visits. -/
theorem countP_calls (visits : List Tree.Visit) :
    (calls visits).countP isExitCall
      = visits.countP fun v => Selector.ofVisit? v == some .programExit := by
  rw [calls, List.countP_filterMap]
  refine List.countP_congr ?_
  intro v _
  cases Selector.ofVisit? v with
  | none => simp
  | some x => simp [isExitCall]

/-- Entering and leaving a node makes one call to the exit handler if the node has
    one of the two types, and else none. -/
theorem exitCalls_node (n : Json) :
    (if Selector.ofVisit? ⟨.enter, n⟩ == some .programExit then 1 else 0)
      + (if Selector.ofVisit? ⟨.leave, n⟩ == some .programExit then 1 else 0)
      = if callsExit n then 1 else 0 := by
  have henter : (Selector.ofVisit? ⟨.enter, n⟩ == some .programExit)
      = Tree.hasType n "Program:exit" := by
    rw [Bool.eq_iff_iff, beq_iff_eq, Selector.ofVisit?_enter, Tree.hasType, beq_iff_eq]
    rfl
  have hleave : (Selector.ofVisit? ⟨.leave, n⟩ == some .programExit)
      = Tree.hasType n "Program" := by
    rw [Bool.eq_iff_iff, beq_iff_eq, Selector.ofVisit?_leave, Tree.hasType, beq_iff_eq]
    exact and_iff_right rfl
  rw [henter, hleave, callsExit]
  by_cases hprogram : Tree.hasType n "Program" = true
  · -- one node does not have both types
    have hexit : Tree.hasType n "Program:exit" = false := by
      rw [Bool.eq_false_iff]
      intro hexit
      exact absurd (hasType_unique hprogram hexit) (by decide)
    rw [hprogram, hexit]
    rfl
  · rw [(Bool.not_eq_true _).mp hprogram, Bool.false_or]
    rfl

/-- A traversal calls the exit handler once for every node of one of the two types. -/
theorem countP_calls_events (n : Json) :
    (calls (Tree.events n)).countP isExitCall = (Tree.nodes n).countP callsExit := by
  rw [countP_calls]
  induction n using Tree.children_induction with
  | step n ih =>
      -- below the node the counts agree, and the node itself counts on both sides
      have hbelow : (Tree.children n).map
          (List.countP (fun v => Selector.ofVisit? v == some .programExit) ∘ Tree.events)
            = (Tree.children n).map (List.countP callsExit ∘ Tree.nodes) :=
        List.map_congr_left ih
      rw [Tree.events_eq, Tree.nodes_eq, List.countP_cons, List.countP_append, List.countP_singleton,
        List.countP_cons, List.countP_flatMap, List.countP_flatMap, hbelow, ← exitCalls_node n]
      omega

/-- The last call of a traversal of a program is to the exit handler, for the root. -/
theorem getLast?_calls_events {program : Json} (h : Tree.hasType program "Program" = true) :
    (calls (Tree.events program)).getLast? = some (.programExit, program) := by
  have hleave : Selector.ofVisit? ⟨.leave, program⟩ = some .programExit := by
    rw [Tree.hasType, beq_iff_eq] at h
    exact Selector.ofVisit?_leave.mpr ⟨rfl, h⟩
  rw [Tree.events_eq, calls, ← List.cons_append, List.filterMap_append, List.getLast?_append,
    List.filterMap_cons, hleave]
  rfl

/-- The exit handler is called once if and only if no node below the root makes it be
    called. -/
theorem countP_calls_eq_one_iff {program : Json} (h : Tree.hasType program "Program" = true) :
    (calls (Tree.events program)).countP isExitCall = 1 ↔
      ∀ n ∈ (Tree.nodes program).tail, callsExit n = false := by
  have hroot : callsExit program = true := by
    rw [callsExit, h, Bool.true_or]
  rw [countP_calls_events, Tree.nodes_eq, List.countP_cons, if_pos hroot, List.tail_cons]
  constructor
  · intro hone
    have hnone : ((Tree.children program).flatMap Tree.nodes).countP callsExit = 0 := by omega
    intro n hn
    exact (Bool.not_eq_true _).mp (List.countP_eq_zero.mp hnone n hn)
  · intro hinner
    rw [List.countP_eq_zero.mpr fun n hn => (Bool.not_eq_true _).mpr (hinner n hn)]

/-! ## A run that returns -/

/-- A run that returns ends in a session that knows all nodes, and its result holds
    the reports of that session in the order of their places. -/
theorem exists_session_of_lint {l : Linter} {o : RuleOptions} {severity : Severity}
    (hrules : l.rules = [⟨o, severity⟩]) {program : Json} (hnode : Tree.isNode program = true)
    {path : Path} {result : FileResult} (h : l.lint program path = .ok result) :
    ∃ s t, Session.start o severity (some path) = .ok s ∧
      (Tree.events program).foldlM Session.visit s = .ok t ∧
      Session.Knows o severity path (Tree.nodes program)
        (reportsFrom o severity path [] (Tree.events program)) t ∧
      result = ⟨path, t.context.diagnostics.mergeSort Diagnostic.le⟩ := by
  rw [lint_eq hrules hnode path] at h
  obtain ⟨s, hstart, hs⟩ := start_eq_ok o severity path
  have hrun := hs.run (Tree.events program)
  rw [Tree.flatMap_entered_events] at hrun
  cases hfault : firstFault o path [] (Tree.nodes program) with
  | some failure =>
      rw [hfault] at h
      cases h
  | none =>
      rw [hfault] at h hrun
      obtain ⟨t, hok, ht⟩ := hrun
      refine ⟨s, t, hstart, hok, ht, ?_⟩
      rw [ht.context]
      exact (Except.ok.inj h).symm

/-! ## The verdict is given once -/

/-- The verdict on a file is given once, after everything was collected: the exit
    handler is called once and last, every server-only read has at most one
    diagnostic, and a dynamic module has none. -/
structure VerdictOnce (severity : Severity) (program : Json) (visits : List Tree.Visit)
    (final : Session) (result : FileResult) : Prop where
  called_once : (calls visits).countP isExitCall = 1
  called_last : ∃ n, (calls visits).getLast? = some (.programExit, n)
  one_each : result.diagnostics.Subperm (final.state.privateSites.map (diagnosticOf severity))
  dynamic : (∃ n ∈ Tree.nodes program, marksDynamic n = true) → result.diagnostics = []

/-- **When the verdict is given once.**  A run over an accepted document takes the
    calls that its walk makes, and its result holds what the session reported.  The
    exit handler is called as often as there are nodes of one of the two types, and
    last for the root.  The verdict is given once, after everything was collected, if
    and only if no node below the root has one of these types. -/
theorem verdictOnce_iff [Host] {text : String} {path : Path} {program : Json}
    (hprogram : Program.ofText text path = .ok program) {fields : List (String × Json)}
    {o : RuleOptions} (hoptions : readOptions (.obj fields) = .ok o) (severity : Severity) :
    ∃ l, Linter.ofConfig ⟨[(ruleId, ⟨severity, fields⟩)]⟩ = .ok l ∧
      ∀ result, l.lint program path = .ok result →
        ∃ visits s t, Tree.walk program = .ok visits ∧
          Session.start o severity (some path) = .ok s ∧
          (calls visits).foldlM Session.call s = .ok t ∧
          result = ⟨path, t.context.diagnostics.mergeSort Diagnostic.le⟩ ∧
          (calls visits).countP isExitCall = (Tree.nodes program).countP callsExit ∧
          (calls visits).getLast? = some (.programExit, program) ∧
          (VerdictOnce severity program visits t result ↔
            ∀ n ∈ (Tree.nodes program).tail,
              Tree.hasType n "Program" = false ∧ Tree.hasType n "Program:exit" = false) := by
  have htype := hasType_of_ofText hprogram
  have hnode := isNode_of_hasType htype
  have hinner : (∀ n ∈ (Tree.nodes program).tail,
      Tree.hasType n "Program" = false ∧ Tree.hasType n "Program:exit" = false) ↔
        ∀ n ∈ (Tree.nodes program).tail, callsExit n = false := by
    simp only [callsExit, Bool.or_eq_false_iff]
  refine ⟨_, ofConfig_eq_ok hoptions severity, ?_⟩
  intro result hresult
  obtain ⟨s, t, hstart, hrun, ht, rfl⟩ := exists_session_of_lint rfl hnode hresult
  rw [foldlM_visit] at hrun
  refine ⟨Tree.events program, s, t, Tree.walk_eq_ok_events hnode, hstart, hrun, rfl,
    countP_calls_events program, getLast?_calls_events htype, ?_⟩
  rw [hinner]
  constructor
  · intro honce
    exact (countP_calls_eq_one_iff htype).mp honce.called_once
  · intro hcalls
    -- the only verdict is the last one, on the final state
    have hreported : t.context.diagnostics
        = t.state.offending.map (diagnosticOf severity) := by
      rw [ht.context, ht.state]
      exact reportsFrom_events htype hcalls
    refine ⟨(countP_calls_eq_one_iff htype).mpr hcalls, ⟨program, getLast?_calls_events htype⟩,
      ?_, ?_⟩
    · have hsublist : t.state.offending.Sublist t.state.privateSites := by
        rw [State.offending]
        split
        · exact List.nil_sublist _
        · exact List.Sublist.refl _
      rw [hreported]
      exact (List.mergeSort_perm _ _).subperm.trans (hsublist.map _).subperm
    · rintro ⟨n, hn, hdynamic⟩
      have hknown : t.state.dynamic = true := by
        rw [ht.state]
        exact List.any_eq_true.mpr ⟨n, hn, hdynamic⟩
      rw [hreported, State.offending, hknown, Bool.or_true, if_pos rfl, List.map_nil,
        List.mergeSort_nil]

section Standard

attribute [local instance] Host.standard

/-- The verdict on a module that reads a secret is given once, and reports it. -/
theorem verdictOnce_secretModule :
    ∃ l result visits t,
      Program.ofText secretModuleText (.ofString "page.json") = .ok secretModule ∧
      Linter.ofConfig ⟨[(ruleId, ⟨.error, []⟩)]⟩ = .ok l ∧
      l.lint secretModule (.ofString "page.json") = .ok result ∧
      result.diagnostics = [secretReport (.ofString "page.json")] ∧
      VerdictOnce .error secretModule visits t result := by
  have hprogram := ofText_secretModule (.ofString "page.json")
  obtain ⟨o, hoptions, hfound⟩ := lint_secretModule
  obtain ⟨l, hl, hreturns⟩ := verdictOnce_iff hprogram hoptions .error
  have hlint := hfound l (rules_of_ofConfig hoptions hl)
  obtain ⟨visits, s, t, -, -, -, -, -, -, honce⟩ := hreturns _ hlint
  exact ⟨l, _, visits, t, hprogram, hl, hlint, rfl, honce.mpr (by decide +kernel)⟩

/-- A document with a program below its root, after a read of a secret. -/
def nestedText : String :=
  String.join (secretText "2" ++ [",\x7b\"type\":\"Program\"\x7d]\x7d"])

/-- The program of that document. -/
def nestedModule : Json :=
  .obj [("type", .str "Program"),
    ("body", .arr [accessorImport, secretRead 2, .obj [("type", .str "Program")]])]

/-- The exit handler is called twice and the one read is reported twice. -/
theorem secret_reported_twice :
    ∃ l visits, Program.ofText nestedText Path.here = .ok nestedModule ∧
      Linter.ofConfig ⟨[(ruleId, ⟨.error, []⟩)]⟩ = .ok l ∧
      Tree.walk nestedModule = .ok visits ∧ (calls visits).countP isExitCall = 2 ∧
      l.lint nestedModule Path.here = .ok ⟨Path.here, List.replicate 2 (diagnosticOf .error
        ⟨"SECRET", ⟨Path.here, .number 2, .number 4, none, none⟩, true⟩)⟩ := by
  have hread : (Json.readDocument nestedText.toList).toOption = some nestedModule := by
    rw [nestedText, String.toList_join]
    decide +kernel
  have hprogram := ofText_eq_ok hread rfl (by decide +kernel) Path.here
  have hknown : ((readOptions (.obj [])).toOption.map fun o =>
      (firstFault o Path.here [] (Tree.nodes nestedModule),
        reportsFrom o .error Path.here [] (Tree.events nestedModule)))
          = some (none, List.replicate 2 (diagnosticOf .error
            ⟨"SECRET", ⟨Path.here, .number 2, .number 4, none, none⟩, true⟩)) := by
    decide +kernel
  obtain ⟨o, hoptions, hrun⟩ := exists_eq_ok_of_map hknown
  obtain ⟨hfault, hreports⟩ := Prod.mk.inj hrun
  have hnode : Tree.isNode nestedModule = true := by decide +kernel
  refine ⟨_, _, hprogram, ofConfig_eq_ok hoptions .error, Tree.walk_eq_ok_events hnode, ?_, ?_⟩
  · rw [countP_calls_events]
    decide +kernel
  · rw [lint_eq rfl hnode, hfault, hreports]
    show Except.ok (FileResult.mk _ _) = _
    rw [List.mergeSort_of_pairwise]
    exact List.pairwise_replicate.mpr (Or.inr (by decide +kernel))

end Standard

end EnvLint.Env
