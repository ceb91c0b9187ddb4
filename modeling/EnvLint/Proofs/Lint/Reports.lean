import EnvLint.Lint.Context
import EnvLint.Proofs.Dictionary
import EnvLint.Proofs.InPlace

/-! # Any calls to report

    A rule reports by naming a declared message.  That a description is accepted
    does not make every report succeed: a message can be declared under an empty
    name, and a template that is not empty can be filled to an empty text, so a
    report may still be refused after its template was found.  This file looks at
    any finite sequence of calls, refused ones included.

    * `atomic_report`: a report, made in place, is the context's own report, and a
      refused one has written nothing;
    * `report_effect`: all that one call can do, by cause;
    * `reports_atomic`: so every call obeys `ReportLaw`, and the diagnostics are
      those of the calls that were not refused, in order. -/

namespace EnvLint

open InPlace

/-! ## Calls -/

/-- A call to report. -/
structure ReportCall where
  /-- The place, if one is given. -/
  location : Option Location
  /-- Name of the message. -/
  messageId : String
  /-- What the slots are filled with, if anything is given. -/
  data : Option (List (String × Json))
deriving DecidableEq

/-- The data of a call; nothing given is no data. -/
def ReportCall.entries (call : ReportCall) : List (String × Json) := call.data.getD []

/-- What a context gives for a call. -/
def Context.take (c : Context) (call : ReportCall) : Except Failure Context :=
  c.report call.location call.messageId call.entries

/-- Reports in place: the diagnostic is made before it is added. -/
def reporting (call : ReportCall) : InPlace Context Unit := do
  let c ← get
  let template ← orFail (c.describes.template call.messageId)
  let d ← orFail ((Diagnostic.make c.describes.ruleId call.messageId
    (Template.interpolate template call.entries) call.location c.severity
    call.entries).mapError .diagnostic)
  modify fun c => { c with diagnostics := c.diagnostics ++ [d] }

/-- **A report in place is the context's own report**: a refused one has written
    nothing. -/
theorem atomic_report (call : ReportCall) (c : Context) :
    Atomic (reporting call) c (c.take call) := by
  refine atomic_of_run ?_
  show (orFail (c.describes.template call.messageId) >>= _).run c
    = ending c (c.describes.template call.messageId >>= _)
  rw [run_orFail_bind]
  cases c.describes.template call.messageId with
  | error failure => rfl
  | ok template =>
      show (orFail ((Diagnostic.make _ _ _ _ _ _).mapError Failure.diagnostic) >>= _).run c
        = ending c ((Diagnostic.make _ _ _ _ _ _).mapError Failure.diagnostic >>= _)
      rw [run_orFail_bind]
      cases (Diagnostic.make c.describes.ruleId call.messageId
          (Template.interpolate template call.entries) call.location c.severity
          call.entries).mapError Failure.diagnostic with
      | error failure => rfl
      | ok d => rfl

/-! ## All that a call can do -/

/-- The diagnostic for a call that is not refused: a declared message under a name, its
    template filled to a text, and all else as it was given. -/
structure Reported (m : Meta) (severity : Severity) (call : ReportCall) (d : Diagnostic) : Prop where
  ruleId : d.ruleId = m.ruleId
  messageId : d.messageId = call.messageId
  message : ∃ template, valueOf m.messages call.messageId = some template ∧
    d.message = Template.interpolate template call.entries
  location : call.location = some d.location
  severity : d.severity = severity
  data : d.data = call.entries
  messageId_ne : d.messageId ≠ ""
  message_ne : d.message ≠ ""

/-- All that a call can do, by cause. -/
inductive ReportEffect (c : Context) (call : ReportCall) : Except Failure Context → Prop where
  | undeclared (hmissing : valueOf c.describes.messages call.messageId = none) :
      ReportEffect c call
        (.error (.rule c.describes.ruleId (.unknownMessage call.messageId)))
  | noMessageId {template : String}
      (hdeclared : valueOf c.describes.messages call.messageId = some template)
      (hid : call.messageId = "") : ReportEffect c call (.error (.diagnostic .noMessageId))
  | noMessage {template : String}
      (hdeclared : valueOf c.describes.messages call.messageId = some template)
      (hid : call.messageId ≠ "") (hempty : Template.interpolate template call.entries = "") :
      ReportEffect c call (.error (.diagnostic .noMessage))
  | noLocation {template : String}
      (hdeclared : valueOf c.describes.messages call.messageId = some template)
      (hid : call.messageId ≠ "") (hfilled : Template.interpolate template call.entries ≠ "")
      (hplace : call.location = none) : ReportEffect c call (.error (.diagnostic .noLocation))
  | added {d : Diagnostic} (hentry : Reported c.describes c.severity call d) :
      ReportEffect c call (.ok { c with diagnostics := c.diagnostics ++ [d] })

/-- A template is found by the name of its message. -/
theorem template_eq_valueOf (m : Meta) (id : String) :
    m.template id = match valueOf m.messages id with
      | some template => .ok template
      | none => .error (.ofRule m.ruleId (.unknownMessage id)) := by
  rw [Meta.template, valueOf]
  cases m.messages.find? fun t => t.1 == id with
  | none => rfl
  | some t => rfl

/-- **All that a call can do**, for a rule with a name. -/
theorem report_effect {c : Context} (hrule : c.describes.ruleId ≠ "") (call : ReportCall) :
    ReportEffect c call (c.take call) := by
  show ReportEffect c call (c.describes.template call.messageId >>= _)
  rw [template_eq_valueOf]
  cases hdeclared : valueOf c.describes.messages call.messageId with
  | none =>
      show ReportEffect c call (.error (.ofRule _ _))
      rw [Failure.ofRule, if_neg hrule]
      exact .undeclared hdeclared
  | some template =>
      show ReportEffect c call ((Diagnostic.make _ _ _ _ _ _).mapError Failure.diagnostic >>= _)
      rw [Diagnostic.make.eq_def, if_neg hrule]
      by_cases hid : call.messageId = ""
      · rw [if_pos hid]
        exact .noMessageId hdeclared hid
      · rw [if_neg hid]
        by_cases hempty : Template.interpolate template call.entries = ""
        · rw [if_pos hempty]
          exact .noMessage hdeclared hid hempty
        · rw [if_neg hempty]
          cases hplace : call.location with
          | none => exact .noLocation hdeclared hid hempty hplace
          | some location =>
              exact .added ⟨rfl, rfl, ⟨template, hdeclared, rfl⟩, hplace, rfl, rfl, hid, hempty⟩

/-! ## What a call obeys -/

/-- Kinds of refusal. -/
inductive ReportRefusal where
  /-- The rule does not declare the message. -/
  | undeclared
  /-- The name of the message or its text is empty. -/
  | empty
  /-- There is no place. -/
  | unplaced
deriving DecidableEq

/-- The kind of a failure to report. -/
def refusalOf : Failure → Option ReportRefusal
  | .rule .. => some .undeclared
  | .diagnostic .noLocation => some .unplaced
  | .diagnostic _ => some .empty
  | _ => none

/-- Whether and how a rule refuses a call: for a message that it does not declare; if it
    declares the message, for an empty name or an empty text; and else for a missing
    place. -/
def ReportCall.refusal? (m : Meta) (call : ReportCall) : Option ReportRefusal :=
  match valueOf m.messages call.messageId with
  | none => some .undeclared
  | some template =>
      if call.messageId = "" ∨ Template.interpolate template call.entries = "" then some .empty
      else if call.location = none then some .unplaced
      else none

/-- What a call does to the reports of a rule. -/
structure ReportLaw (m : Meta) (severity : Severity) (call : ReportCall) (c : Context)
    (failure : Option Failure) (t : Context) : Prop where
  /-- The call in place is the context's own report. -/
  outcome : c.report call.location call.messageId call.entries = match failure with
    | none => .ok t
    | some failure => .error failure
  /-- It fails if it is refused, and as it is refused. -/
  refusal : failure.map refusalOf = (call.refusal? m).map some
  /-- A refused call leaves everything as it was. -/
  refused : failure ≠ none → t = c
  /-- Any other call adds one diagnostic, and does nothing else. -/
  added : failure = none → ∃ d, Reported m severity call d ∧
    t = { c with diagnostics := c.diagnostics ++ [d] }

/-- The refusals of a rule are told from the rule and the call. -/
theorem refusal_of_effect {c : Context} {call : ReportCall} {outcome : Except Failure Context}
    (h : ReportEffect c call outcome) :
    (fault? outcome).map refusalOf = (call.refusal? c.describes).map some := by
  rw [ReportCall.refusal?]
  cases h with
  | undeclared hmissing =>
      rw [hmissing]
      rfl
  | noMessageId hdeclared hid =>
      rw [hdeclared]
      simp only [if_pos (Or.inl hid)]
      rfl
  | noMessage hdeclared hid hempty =>
      rw [hdeclared]
      simp only [if_pos (Or.inr hempty)]
      rfl
  | noLocation hdeclared hid hfilled hplace =>
      rw [hdeclared]
      simp only [if_neg (not_or.mpr ⟨hid, hfilled⟩), if_pos hplace]
      rfl
  | added hentry =>
      obtain ⟨template, hdeclared, hmessage⟩ := hentry.message
      -- what is added passed every check, so nothing refuses the call
      have hid : call.messageId ≠ "" := hentry.messageId ▸ hentry.messageId_ne
      have hfilled : Template.interpolate template call.entries ≠ "" := hmessage ▸ hentry.message_ne
      have hplace : call.location ≠ none := by
        rw [hentry.location]
        exact nofun
      rw [hdeclared]
      simp only [if_neg (not_or.mpr ⟨hid, hfilled⟩), if_neg hplace]
      rfl

/-- **One call** in place obeys the law, whether it is refused or not. -/
theorem reportLaw {m : Meta} {severity : Severity} {c : Context} (hm : c.describes = m)
    (hseverity : c.severity = severity) (hrule : m.ruleId ≠ "") (call : ReportCall) :
    ReportLaw m severity call c ((reporting call).failure? c) ((reporting call).after c) := by
  subst hm hseverity
  have hatomic := atomic_report call c
  have heffect := report_effect hrule call
  have hrefusal := refusal_of_effect heffect
  cases houtcome : c.take call with
  | error failure =>
      rw [houtcome] at hatomic hrefusal
      rw [hatomic.of_error.1, hatomic.of_error.2]
      exact ⟨houtcome, hrefusal, fun _ => rfl, nofun⟩
  | ok t =>
      rw [houtcome] at hatomic hrefusal heffect
      rw [hatomic.of_ok.1, hatomic.of_ok.2]
      refine ⟨houtcome, hrefusal, fun h => absurd rfl h, ?_⟩
      intro _
      cases heffect with
      | added hentry => exact ⟨_, hentry, rfl⟩

/-! ## Sequences of calls -/

/-- The context after calls one after another, refused ones included. -/
def afterReports (c : Context) (calls : List ReportCall) : Context :=
  calls.foldl (fun c call => (reporting call).after c) c

/-- The calls that are not refused when they are made. -/
def accepted (c : Context) : List ReportCall → List ReportCall
  | [] => []
  | call :: rest =>
      (if (reporting call).failure? c = none then [call] else []) ++
        accepted ((reporting call).after c) rest

theorem afterReports_append (c : Context) (calls more : List ReportCall) :
    afterReports c (calls ++ more) = afterReports (afterReports c calls) more :=
  List.foldl_append

/-- Calls keep the rule and the severity, and add a diagnostic for each that is not
    refused. -/
theorem afterReports_cases {m : Meta} {severity : Severity} (hrule : m.ruleId ≠ "")
    (calls : List ReportCall) {c : Context} (hm : c.describes = m)
    (hseverity : c.severity = severity) :
    ∃ added, List.Forall₂ (Reported m severity) (accepted c calls) added ∧
      afterReports c calls = { c with diagnostics := c.diagnostics ++ added } := by
  induction calls generalizing c with
  | nil =>
      refine ⟨[], .nil, ?_⟩
      rw [List.append_nil]
      rfl
  | cons call calls ih =>
      have hlaw := reportLaw hm hseverity hrule call
      show ∃ added, _ ∧ afterReports ((reporting call).after c) calls = _
      rw [accepted]
      by_cases hfail : (reporting call).failure? c = none
      · obtain ⟨d, hentry, hafter⟩ := hlaw.added hfail
        rw [hafter, if_pos hfail]
        obtain ⟨added, hadded, hrest⟩ :=
          ih (c := { c with diagnostics := c.diagnostics ++ [d] }) hm hseverity
        refine ⟨d :: added, .cons hentry hadded, ?_⟩
        rw [hrest, List.append_assoc]
        rfl
      · rw [hlaw.refused hfail, if_neg hfail]
        exact ih hm hseverity

/-- A rule description that is checked has a name. -/
theorem ruleId_ne_of_check {m : Meta} (h : m.check = .ok m) : m.ruleId ≠ "" := by
  intro hempty
  rw [Meta.check, if_pos hempty] at h
  cases h

/-- **Any calls to report.**  For a description that is accepted, a context can be
    started on a file, and it has no diagnostics.  After any calls, refused ones
    included, the next one obeys `ReportLaw`, and the diagnostics are those of the
    calls that were not refused, in the order of the calls. -/
theorem reports_atomic {m : Meta} (hm : m.check = .ok m) (severity : Severity) (path : Path) :
    ∃ start, Context.start m severity (some path) = .ok start ∧ ∀ calls : List ReportCall,
      (∀ call, ReportLaw m severity call (afterReports start calls)
        ((reporting call).failure? (afterReports start calls))
        (afterReports start (calls ++ [call]))) ∧
      ∃ diagnostics, List.Forall₂ (Reported m severity) (accepted start calls) diagnostics ∧
        afterReports start calls = ⟨m, severity, path, diagnostics⟩ := by
  have hrule := ruleId_ne_of_check hm
  refine ⟨⟨m, severity, path, []⟩, rfl, ?_⟩
  intro calls
  obtain ⟨diagnostics, hreported, hafter⟩ :=
    afterReports_cases hrule calls (c := ⟨m, severity, path, []⟩) rfl rfl
  refine ⟨?_, diagnostics, hreported, hafter⟩
  intro call
  rw [afterReports_append, hafter]
  refine reportLaw ?_ ?_ hrule call
  · rfl
  · rfl

/-- A rule that declares a message without a name, and one that is nothing but a slot. -/
def bareMeta : Meta :=
  ⟨"bare", .problem, "Bare messages", "", false, [("", "text"), ("slot", "\x7b\x7bv\x7d\x7d")], []⟩

/-- A call for that slot. -/
def slotCall (value : String) : ReportCall :=
  ⟨some (.startOf Path.here), "slot", some [("v", .str value)]⟩

/-- Calls of every kind: an empty name, an empty text, an unknown message and no place are
    refused, and a filled slot is not. -/
def mixedCalls : List ReportCall :=
  [⟨some (.startOf Path.here), "", none⟩, slotCall "", ⟨none, "other", none⟩, ⟨none, "slot", none⟩,
    slotCall "A"]

/-- Of those calls one is not refused, and its diagnostic is the only one. -/
theorem reports_atomic_mixedCalls :
    bareMeta.check = .ok bareMeta ∧
      ∃ start, Context.start bareMeta .warning (some Path.here) = .ok start ∧
        ∃ d, Reported bareMeta .warning (slotCall "A") d ∧
          (afterReports start mixedCalls).diagnostics = [d] := by
  have hm : bareMeta.check = .ok bareMeta := by decide
  refine ⟨hm, ?_⟩
  obtain ⟨start, hstart, hcalls⟩ := reports_atomic hm .warning Path.here
  refine ⟨start, hstart, ?_⟩
  cases hstart
  obtain ⟨-, diagnostics, hreported, hafter⟩ := hcalls mixedCalls
  have haccepted : accepted ⟨bareMeta, .warning, Path.here, []⟩ mixedCalls = [slotCall "A"] := by
    decide +kernel
  rw [haccepted] at hreported
  obtain ⟨d, rest, hd, hnil, rfl⟩ := List.forall₂_cons_left_iff.mp hreported
  rw [List.forall₂_nil_left_iff.mp hnil] at hafter
  refine ⟨d, hd, ?_⟩
  rw [hafter]

end EnvLint
