import EnvLint.Proofs.Env.Verdict
import EnvLint.Proofs.Lint.Files
import Mathlib.Data.List.Perm.Basic

/-! # The reads that a run flags

    A diagnostic is about a property that is read on the accessor.  This file
    pairs the diagnostics of a run with these properties, for any number of rules
    and for any tree, also one with programs inside: `flaggedFrom` lists the
    properties as the visits come to them, in terms of the nodes alone, and
    `lint_flagged` says that each of them has one diagnostic in the result, which
    only the sorting has moved.

    The rules run beside each other, visit by visit.  A run that succeeds is one
    run of each rule (`forall₂_of_runVisits`), so what is known of a single one
    (`Session.Knows.run`) holds of all. -/

namespace EnvLint.Env

/-! ## Properties -/

/-- Name of a property. -/
def nameOf (property : Json) : String := (Tree.identifierName property).getD ""

/-- The properties that leaving a program flags after nodes were entered: the server-only
    ones that were read, unless the module is a client module or dynamic by then. -/
def flagged (o : RuleOptions) (entered : List Json) : List Json :=
  if entered.any marksClient || entered.any marksDynamic then []
  else (reads o.envSource entered).filter fun property => o.isServerOnly (nameOf property)

/-- The properties that visits flag which are made after nodes were entered. -/
def flaggedFrom (o : RuleOptions) (entered : List Json) : List Tree.Visit → List Json
  | [] => []
  | v :: rest =>
      (if Selector.ofVisit? v = some .programExit then flagged o (entered ++ v.entered) else []) ++
        flaggedFrom o (entered ++ v.entered) rest

/-- A diagnostic is about a property: it names it, and stands where it does. -/
structure ReportOf (path : Path) (property : Json) (d : Diagnostic) : Prop where
  message : d.message = messageFor (nameOf property)
  place : placeOf property (some path) = .ok d.location

/-- Every property that is read makes a site. -/
def Sited (o : RuleOptions) (path : Path) (entered : List Json) : Prop :=
  ∀ property ∈ reads o.envSource entered, Succeeds (siteOf o path property)

section OneRule

variable {o : RuleOptions} {severity : Severity} {path : Path} {entered : List Json}

/-- One more node without a fault keeps that every property has a site. -/
theorem Sited.append (h : Sited o path entered) {n : Json} (hfault : fault o path entered n = none) :
    Sited o path (entered ++ [n]) := by
  intro property hproperty
  rw [reads_append, List.mem_append, Option.mem_toList] at hproperty
  rcases hproperty with hold | hnew
  · exact h property hold
  · obtain ⟨name, -, hread⟩ := Option.bind_eq_some_iff.mp hnew
    -- what reads a property is no import, so its fault is that of the site
    have himport : ¬Tree.hasType n "ImportDeclaration" = true := fun htype =>
      absurd (hasType_unique htype (hasType_of_readOn hread)) (by decide)
    rw [fault, if_neg himport, hnew, Option.bind_some] at hfault
    cases hsite : siteOf o path property with
    | ok site => exact succeeds_ok site
    | error failure =>
        rw [hsite] at hfault
        cases hfault

theorem Sited.visit (h : Sited o path entered) {v : Tree.Visit}
    (hfault : visitFault o path entered v = none) : Sited o path (entered ++ v.entered) := by
  obtain ⟨phase, n⟩ := v
  cases phase with
  | enter => exact h.append hfault
  | leave =>
      show Sited o path (entered ++ [])
      rw [List.append_nil]
      exact h

/-- A site has the name and the place of its property, and is classified by the name. -/
theorem eq_of_siteOf {property : Json} {site : Site} (h : siteOf o path property = .ok site) :
    site.name = nameOf property ∧ placeOf property (some path) = .ok site.location ∧
      site.isPrivate = o.isServerOnly (nameOf property) := by
  obtain ⟨location, hplace, hmake⟩ := bind_eq_ok_iff.mp h
  rw [Site.make] at hmake
  split at hmake
  · cases hmake
  · cases hmake
    exact ⟨rfl, hplace, rfl⟩

/-- The server-only properties make the private sites. -/
theorem forall₂_privateSites (h : Sited o path entered) :
    List.Forall₂ (fun property site => siteOf o path property = .ok site)
      ((reads o.envSource entered).filter fun property => o.isServerOnly (nameOf property))
      (stateOf o path entered).privateSites := by
  have hsites := mapM_eq_ok_iff.mp (mapM_eq_ok_of_forall h)
  refine List.rel_filter ?_ hsites
  intro property site hsite
  show o.isServerOnly (nameOf property) = true ↔ site.isPrivate = true
  rw [(eq_of_siteOf hsite).2.2]

/-- The verdict reports the flagged properties. -/
theorem forall₂_verdict (h : Sited o path entered) :
    List.Forall₂ (ReportOf path) (flagged o entered)
      (verdict o severity path entered) := by
  rw [verdict, List.forall₂_map_right_iff, flagged, State.offending]
  by_cases hexempt : (entered.any marksClient || entered.any marksDynamic) = true
  · rw [if_pos hexempt]
    show List.Forall₂ _ [] (if (entered.any marksClient || entered.any marksDynamic) = true then _
      else _)
    rw [if_pos hexempt]
    exact .nil
  · rw [if_neg hexempt]
    show List.Forall₂ _ _ (if (entered.any marksClient || entered.any marksDynamic) = true then _
      else _)
    rw [if_neg hexempt]
    refine (forall₂_privateSites h).imp ?_
    intro property site hsite
    obtain ⟨hname, hplace, -⟩ := eq_of_siteOf hsite
    exact ⟨congrArg messageFor hname, hplace⟩

/-- Visits without a fault report the properties that they flag. -/
theorem forall₂_reportsFrom {visits : List Tree.Visit} (h : Sited o path entered)
    (hfault : firstFault o path entered (visits.flatMap Tree.Visit.entered) = none) :
    List.Forall₂ (ReportOf path) (flaggedFrom o entered visits)
      (reportsFrom o severity path entered visits) := by
  -- what was entered grows with the visits, so it is general
  induction visits generalizing entered with
  | nil => exact .nil
  | cons v visits ih =>
      rw [List.flatMap_cons, firstFault_entered, Option.or_eq_none_iff] at hfault
      obtain ⟨hvisit, hrest⟩ := hfault
      have hsited := h.visit hvisit
      rw [flaggedFrom, reportsFrom, reportsAt]
      refine List.rel_append ?_ (ih hsited hrest)
      split
      · exact forall₂_verdict hsited
      · exact .nil

end OneRule

/-! ## Any number of rules -/

/-- Lists that are related item by item through a third one. -/
theorem forall₂_trans {α β γ : Type} {R : α → β → Prop} {S : β → γ → Prop} {T : α → γ → Prop}
    (h : ∀ a b c, R a b → S b c → T a c) {xs : List α} {ys : List β} {zs : List γ}
    (hxy : List.Forall₂ R xs ys) (hyz : List.Forall₂ S ys zs) : List.Forall₂ T xs zs := by
  induction hxy generalizing zs with
  | nil =>
      cases hyz
      exact .nil
  | cons hhead _ ih =>
      cases hyz with
      | cons hnext hrest => exact .cons (h _ _ _ hhead hnext) (ih hrest)

/-- Sessions that make visits beside each other each make all of them. -/
theorem forall₂_of_runVisits {visits : List Tree.Visit} {sessions final : List Session}
    (h : Linter.runVisits sessions visits = (final, none)) :
    List.Forall₂ (fun s t => visits.foldlM Session.visit s = .ok t) sessions final := by
  induction visits generalizing sessions with
  | nil =>
      cases h
      exact List.forall₂_same.mpr fun s _ => rfl
  | cons v visits ih =>
      rw [Linter.runVisits] at h
      split at h
      next next hnext =>
        refine forall₂_trans ?_ (mapM_eq_ok_iff.mp hnext) (ih h)
        intro s mid t hvisit hrest
        rw [List.foldlM_cons, hvisit]
        exact hrest
      next => cases h

/-- A session that makes all visits of a tree has reported the properties that they
    flag. -/
theorem forall₂_of_foldlM {o : RuleOptions} {severity : Severity} {path : Path} {program : Json}
    {s t : Session} (hstart : Session.start o severity (some path) = .ok s)
    (hrun : (Tree.events program).foldlM Session.visit s = .ok t) :
    List.Forall₂ (ReportOf path) (flaggedFrom o [] (Tree.events program))
      t.context.diagnostics := by
  obtain ⟨s', hstart', hknows⟩ := start_eq_ok o severity path
  rw [hstart] at hstart'
  cases hstart'
  have hreaches := hknows.run (Tree.events program)
  rw [hrun] at hreaches
  cases hfault : firstFault o path [] ((Tree.events program).flatMap Tree.Visit.entered) with
  | some failure =>
      rw [hfault] at hreaches
      cases hreaches
  | none =>
      rw [hfault] at hreaches
      obtain ⟨t', ht, hend⟩ := hreaches
      cases ht
      rw [hend.context]
      exact forall₂_reportsFrom (fun property hproperty => absurd hproperty List.not_mem_nil) hfault

/-- What a run that succeeds has gone through. -/
theorem runVisits_of_lint {l : Linter} {program : Json} {path : Path} {result : FileResult}
    (h : l.lint program path = .ok result) :
    ∃ sessions final, l.sessions (some path) = .ok sessions ∧
      Linter.runVisits sessions (Tree.events program) = (final, none) ∧
      result = ⟨path, Linter.found final⟩ := by
  rw [Linter.lint, Linter.traceAt] at h
  split at h
  next failure hsessions => exact absurd hsessions (sessions_ne_error l path failure)
  next sessions hsessions =>
    split at h
    next => cases h
    next visits hwalk =>
      -- only a node can be walked
      have hnode : Tree.isNode program = true := by
        by_contra hnone
        rw [Tree.walk_eq_error (Bool.not_eq_true _ ▸ hnone)] at hwalk
        cases hwalk
      rw [Tree.walk_eq_ok_events hnode] at hwalk
      cases hwalk
      obtain ⟨final, failure, hrun⟩ :
          ∃ final failure, Linter.runVisits sessions (Tree.events program) = (final, failure) :=
        ⟨_, _, rfl⟩
      rw [hrun] at h
      cases failure with
      | some failure => cases h
      | none =>
          cases h
          exact ⟨sessions, final, hsessions, hrun, rfl⟩

/-- The properties that a linter flags in a program, rule by rule. -/
def flaggedBy (l : Linter) (program : Json) : List Json :=
  l.rules.flatMap fun r => flaggedFrom r.options [] (Tree.events program)

/-- **A run reports what it flags**: every flagged property has one diagnostic, and there
    are no others. -/
theorem lint_flagged {l : Linter} {program : Json} {path : Path} {result : FileResult}
    (h : l.lint program path = .ok result) :
    ∃ properties, properties.Perm (flaggedBy l program) ∧
      List.Forall₂ (ReportOf path) properties result.diagnostics := by
  obtain ⟨sessions, final, hsessions, hrun, rfl⟩ := runVisits_of_lint h
  have hends : List.Forall₂ (fun r t => List.Forall₂ (ReportOf path)
      (flaggedFrom r.options [] (Tree.events program)) t.context.diagnostics) l.rules final := by
    refine forall₂_trans ?_ (mapM_eq_ok_iff.mp hsessions) (forall₂_of_runVisits hrun)
    intro r s t hstart hvisits
    exact forall₂_of_foldlM hstart hvisits
  have hall : List.Forall₂ (ReportOf path) (flaggedBy l program)
      (final.flatMap (·.context.diagnostics)) :=
    List.rel_flatMap hends fun _ _ hreports => hreports
  -- sorting moves the diagnostics, and the properties with them
  have hsorted : (Linter.found final).Perm (final.flatMap (·.context.diagnostics)) :=
    List.mergeSort_perm _ Diagnostic.le
  obtain ⟨properties, hreports, hperm⟩ := List.perm_comp_forall₂ hsorted hall.flip
  exact ⟨properties, hperm, hreports.flip⟩

end EnvLint.Env
