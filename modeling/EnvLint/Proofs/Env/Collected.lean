import EnvLint.Env.State
import EnvLint.Proofs.InPlace
import EnvLint.Proofs.Tree.Location
import Mathlib.Data.List.Induction

/-! # What any steps collect

    A state collects marks, a name and reads while a file is walked, and the
    verdict looks at it once, at the end.  That is sound only if it does not
    matter when a mark arrives, and if a step that fails leaves no trace.  This
    file looks at any finite sequence of steps, failing ones included.

    * `atomic_step`: the operations, written as they write, are the operations on
      states; a failing one has written nothing;
    * `after_step`: all that one step does to a state;
    * `afterSteps_eq`: so steps end in a closed form, `collected`, in which the
      marks are told apart from the rest (`collected_congr`). -/

namespace EnvLint.Env

open InPlace

/-! ## Steps -/

/-- A step on a state. -/
inductive Step where
  /-- The client directive is seen. -/
  | client
  /-- The dynamic export is seen. -/
  | dynamic
  /-- The accessor is imported by a name. -/
  | track (name : String)
  /-- A name is read at a place. -/
  | access (name : String) (line column : Coord) (isPrivate : Bool)
deriving DecidableEq

namespace Step

/-- Whether a step is a mark, and no more than that. -/
def isMark : Step → Bool
  | .client | .dynamic => true
  | .track _ | .access .. => false

/-- The name that a step binds, unless one is bound: it is not empty. -/
def name? : Step → Option String
  | .track name => if name = "" then none else some name
  | _ => none

/-- The read that a step asks for: its line is positive, its column is not negative,
    and its name is not empty. -/
def site? (path : Path) : Step → Option Site
  | .access name line column isPrivate =>
      if 0 < line.val ∧ 0 ≤ column.val ∧ name ≠ "" then
        some ⟨name, ⟨path, line, column, none, none⟩, isPrivate⟩
      else none
  | _ => none

end Step

/-- What a step gives, by the operations on states.  A place is made before the read,
    and the read before it is recorded. -/
def State.step (path : Path) (s : State) : Step → Except Failure State
  | .client => .ok s.markClient
  | .dynamic => .ok s.markDynamic
  | .track name => (s.track name).map Prod.snd
  | .access name line column isPrivate => do
      let location ← (Location.make (some path) line column none none).mapError .location
      let site ← Site.make name (some location) isPrivate
      s.record site

/-! ## Steps in place -/

namespace Writing

/-- Binds a name unless one is bound; says whether it did. -/
def track (name : String) : InPlace State Bool := do
  if name = "" then throw (.misuse .noAlias)
  if (← get).tracked.isSome then return false
  modify fun s => { s with tracked := some name }
  return true

/-- Records a read, once a name is bound. -/
def record (site : Site) : InPlace State Unit := do
  if (← get).tracked.isNone then throw .noTrackedAlias
  modify fun s => { s with sites := s.sites ++ [site] }

/-- Makes a step. -/
def step (path : Path) : Step → InPlace State Unit
  | .client => modify State.markClient
  | .dynamic => modify State.markDynamic
  | .track name => do
      let _ ← track name
  | .access name line column isPrivate => do
      let location ← orFail ((Location.make (some path) line column none none).mapError .location)
      let site ← orFail (Site.make name (some location) isPrivate)
      record site

/-- A name is checked before anything is written. -/
theorem run_track (name : String) (s : State) :
    (track name).run s = match s.track name with
      | .ok (bound, t) => .ok bound t
      | .error failure => .error failure s := by
  rw [track, State.track]
  by_cases hname : name = ""
  · rw [if_pos hname, if_pos hname]
    rfl
  · rw [if_neg hname, if_neg hname]
    show (if s.tracked.isSome = true then pure false else _ : InPlace State Bool).run s = _
    by_cases hbound : s.tracked.isSome = true
    · rw [if_pos hbound, if_pos hbound]
      rfl
    · rw [if_neg hbound, if_neg hbound]
      rfl

theorem run_record (site : Site) (s : State) : (record site).run s = ending s (s.record site) := by
  rw [record, State.record]
  show (if s.tracked.isNone = true then throw .noTrackedAlias >>= _ else _ :
    InPlace State Unit).run s = _
  by_cases hfree : s.tracked.isNone = true
  · rw [if_pos hfree, if_pos hfree]
    rfl
  · rw [if_neg hfree, if_neg hfree]
    rfl

/-- **Steps in place do what the operations on states do**: a step that fails has
    written nothing. -/
theorem atomic_step (path : Path) (s : State) (a : Step) :
    Atomic (step path a) s (s.step path a) := by
  refine atomic_of_run ?_
  cases a with
  | client => rfl
  | dynamic => rfl
  | track name =>
      show EStateM.bind (track name) (fun _ => pure ()) s = ending s ((s.track name).map Prod.snd)
      have hrun : track name s = _ := run_track name s
      rw [EStateM.bind, hrun]
      cases s.track name with
      | error failure => rfl
      | ok tracked => rfl
  | access name line column isPrivate =>
      show (orFail _ >>= _).run s = ending s (_ >>= _)
      rw [run_orFail_bind]
      cases (Location.make (some path) line column none none).mapError Failure.location with
      | error failure => rfl
      | ok location =>
          show (orFail (Site.make name (some location) isPrivate) >>= record).run s
            = ending s (Site.make name (some location) isPrivate >>= s.record)
          rw [run_orFail_bind]
          cases Site.make name (some location) isPrivate with
          | error failure => rfl
          | ok site => exact run_record site s

end Writing

/-! ## All that a step does -/

/-- A state with what a step asks for: a mark, a name unless one is bound, and a read if
    one was bound before. -/
def State.taking (path : Path) (s : State) (a : Step) : State where
  client := s.client || decide (a = .client)
  tracked := s.tracked.or a.name?
  dynamic := s.dynamic || decide (a = .dynamic)
  sites := s.sites ++ if s.tracked.isSome then (a.site? path).toList else []

/-- A place without an end is made if its line is positive and its column is not
    negative. -/
theorem make_eq_ok_iff_start {path : Path} {line column : Coord} {l : Location} :
    Location.make (some path) line column none none = .ok l ↔
      l = ⟨path, line, column, none, none⟩ ∧ 0 < line.val ∧ 0 ≤ column.val := by
  rw [Location.make_eq_ok_iff]
  refine and_congr_right ?_
  rintro rfl
  constructor
  · intro hvalid
    exact ⟨hvalid.line_pos, hvalid.column_nonneg⟩
  · rintro ⟨hline, hcolumn⟩
    exact ⟨hline, hcolumn, nofun, nofun, nofun⟩

/-- The place and the read of a step are made if the step asks for a read. -/
theorem step_access (path : Path) (s : State) (name : String) (line column : Coord)
    (isPrivate : Bool) :
    match Step.site? path (.access name line column isPrivate) with
      | some site => s.step path (.access name line column isPrivate) = s.record site
      | none => ∃ failure, s.step path (.access name line column isPrivate) = .error failure := by
  rw [Step.site?]
  by_cases hfits : 0 < line.val ∧ 0 ≤ column.val ∧ name ≠ ""
  · rw [if_pos hfits]
    obtain ⟨hline, hcolumn, hname⟩ := hfits
    have hplace : Location.make (some path) line column none none
        = .ok ⟨path, line, column, none, none⟩ :=
      make_eq_ok_iff_start.mpr ⟨rfl, hline, hcolumn⟩
    show ((Location.make _ _ _ _ _).mapError Failure.location >>= _) = _
    rw [hplace]
    show (Site.make name _ isPrivate >>= _) = _
    rw [Site.make, if_neg hname]
    rfl
  · rw [if_neg hfits]
    cases hstep : s.step path (.access name line column isPrivate) with
    | error failure => exact ⟨failure, rfl⟩
    | ok t =>
        -- a place and a name that do not fit are refused, so there is no state
        exfalso
        obtain ⟨location, hplace, hrest⟩ := bind_eq_ok_iff.mp hstep
        obtain ⟨-, hline, hcolumn⟩ := make_eq_ok_iff_start.mp (mapError_eq_ok_iff.mp hplace)
        obtain ⟨site, hsite, -⟩ := bind_eq_ok_iff.mp hrest
        refine hfits ⟨hline, hcolumn, ?_⟩
        intro hname
        rw [Site.make, if_pos hname] at hsite
        cases hsite

/-- **All that a step does to a state**, whether it fails or not. -/
theorem after_step (path : Path) (s : State) (a : Step) :
    (Writing.step path a).after s = s.taking path a := by
  have hatomic := Writing.atomic_step path s a
  cases a with
  | client =>
      rw [hatomic.of_ok.2]
      simp [State.taking, State.markClient, Step.name?, Step.site?]
  | dynamic =>
      rw [hatomic.of_ok.2]
      simp [State.taking, State.markDynamic, Step.name?, Step.site?]
  | track name =>
      by_cases hname : name = ""
      · -- an empty name is refused
        have herror : s.step path (.track name) = .error (.misuse .noAlias) := by
          show (s.track name).map Prod.snd = _
          rw [State.track, if_pos hname]
          rfl
        rw [herror] at hatomic
        rw [hatomic.of_error.2]
        simp [State.taking, Step.name?, Step.site?, hname]
      · have hok : s.step path (.track name) = .ok { s with tracked := s.tracked.or (some name) } := by
          show (s.track name).map Prod.snd = _
          rw [State.track, if_neg hname]
          cases htracked : s.tracked with
          | none => rfl
          | some first =>
              -- the first name stays
              show Except.ok s = _
              rw [Option.some_or, ← htracked]
        rw [hok] at hatomic
        rw [hatomic.of_ok.2]
        simp [State.taking, Step.name?, Step.site?, hname]
  | access name line column isPrivate =>
      have hread := step_access path s name line column isPrivate
      cases hsite : Step.site? path (.access name line column isPrivate) with
      | none =>
          rw [hsite] at hread
          obtain ⟨failure, herror⟩ := hread
          rw [herror] at hatomic
          rw [hatomic.of_error.2]
          simp [State.taking, Step.name?, hsite]
      | some site =>
          rw [hsite] at hread
          have hrecord : s.step path (.access name line column isPrivate) = s.record site := hread
          rw [hrecord, State.record] at hatomic
          by_cases hfree : s.tracked.isNone = true
          · -- no name is bound yet
            rw [if_pos hfree] at hatomic
            rw [hatomic.of_error.2]
            have hunbound : s.tracked.isSome = false := by
              rw [← Option.not_isNone, hfree]
              rfl
            simp [State.taking, Step.name?, hunbound]
          · rw [if_neg hfree] at hatomic
            rw [hatomic.of_ok.2]
            have hbound : s.tracked.isSome = true := by
              rw [← Option.not_isNone, (Bool.not_eq_true _).mp hfree]
              rfl
            simp [State.taking, Step.name?, hbound, hsite]

/-! ## The closed form -/

/-- The state after steps in place, one after another, failing ones included. -/
def afterSteps (path : Path) (steps : List Step) : State :=
  steps.foldl (fun s a => (Writing.step path a).after s) .start

/-- The reads that steps ask for, from the first one on that binds a name. -/
def readsOnce (path : Path) (steps : List Step) : List Site :=
  (steps.dropWhile fun a => a.name?.isNone).filterMap (Step.site? path)

/-- What steps collect. -/
def collected (path : Path) (steps : List Step) : State where
  client := decide (.client ∈ steps)
  tracked := steps.findSome? Step.name?
  dynamic := decide (.dynamic ∈ steps)
  sites := readsOnce path steps

/-- Only a name that is not empty is bound. -/
theorem name?_eq_some_iff {a : Step} {name : String} :
    a.name? = some name ↔ a = .track name ∧ name ≠ "" := by
  cases a with
  | track other =>
      rw [Step.name?]
      by_cases hname : other = ""
      · rw [if_pos hname]
        constructor
        · intro h
          cases h
        · rintro ⟨heq, hne⟩
          cases heq
          exact absurd hname hne
      · rw [if_neg hname]
        constructor
        · intro h
          cases h
          exact ⟨rfl, hname⟩
        · rintro ⟨heq, -⟩
          cases heq
          rfl
  | _ => simp [Step.name?]

/-- Steps that bind no name track none but empty ones. -/
theorem name?_eq_none_of_forall {steps : List Step}
    (h : ∀ name, .track name ∈ steps → name = "") : ∀ a ∈ steps, a.name? = none := by
  intro a ha
  rw [Option.eq_none_iff_forall_ne_some]
  intro name hname
  obtain ⟨rfl, hne⟩ := name?_eq_some_iff.mp hname
  exact hne (h name ha)

section

variable {path : Path} {b : Step} {steps : List Step}

theorem readsOnce_cons_of_unbound (h : b.name? = none) :
    readsOnce path (b :: steps) = readsOnce path steps := by
  rw [readsOnce, List.dropWhile_cons_of_pos (by rw [h]; rfl), readsOnce]

theorem readsOnce_cons_of_bound {name : String} (h : b.name? = some name) :
    readsOnce path (b :: steps) = steps.filterMap (Step.site? path) := by
  rw [readsOnce, List.dropWhile_cons_of_neg (by rw [h]; exact Bool.noConfusion)]
  obtain ⟨rfl, -⟩ := name?_eq_some_iff.mp h
  rfl

/-- Nothing is recorded before a name is bound. -/
theorem readsOnce_append_of_unbound (h : ∀ a ∈ steps, a.name? = none) (rest : List Step) :
    readsOnce path (steps ++ rest) = readsOnce path rest := by
  rw [readsOnce, List.dropWhile_append_of_pos (by intro a ha; rw [h a ha]; rfl), readsOnce]

/-- One more step adds the read that it asks for, if a name was bound before it. -/
theorem readsOnce_concat (a : Step) :
    readsOnce path (steps ++ [a]) = readsOnce path steps ++
      if (steps.findSome? Step.name?).isSome then (a.site? path).toList else [] := by
  induction steps with
  | nil =>
      show readsOnce path [a] = []
      cases hname : a.name? with
      | none => exact readsOnce_cons_of_unbound hname
      | some name => exact readsOnce_cons_of_bound hname
  | cons b steps ih =>
      rw [List.cons_append, List.findSome?_cons]
      cases hname : b.name? with
      | none => rw [readsOnce_cons_of_unbound hname, readsOnce_cons_of_unbound hname, ih]
      | some name =>
          rw [readsOnce_cons_of_bound hname, readsOnce_cons_of_bound hname, List.filterMap_append]
          show _ ++ [a].filterMap (Step.site? path) = _ ++ (a.site? path).toList
          cases hsite : a.site? path with
          | none => simp [hsite]
          | some site => simp [hsite]

end

/-- One more step changes what is collected as it changes a state. -/
theorem collected_concat (path : Path) (steps : List Step) (a : Step) :
    collected path (steps ++ [a]) = (collected path steps).taking path a := by
  have hname : [a].findSome? Step.name? = a.name? := by
    rw [List.findSome?_cons]
    cases a.name? <;> rfl
  simp only [collected, State.taking, State.mk.injEq]
  refine ⟨?_, ?_, ?_, ?_⟩
  · simp [eq_comm]
  · rw [List.findSome?_append, hname]
  · simp [eq_comm]
  · exact readsOnce_concat a

/-- Steps end in the closed form. -/
theorem afterSteps_eq (path : Path) (steps : List Step) :
    afterSteps path steps = collected path steps := by
  induction steps using List.reverseRecOn with
  | nil => rfl
  | append_singleton steps a ih =>
      rw [collected_concat, ← ih, ← after_step, afterSteps, List.foldl_append]
      rfl

/-! ## Marks anywhere -/

/-- A mark binds no name and asks for no read. -/
theorem name?_of_isMark {a : Step} (h : a.isMark = true) : a.name? = none := by
  cases a with
  | client => rfl
  | dynamic => rfl
  | _ => cases h

theorem site?_of_isMark {a : Step} (h : a.isMark = true) (path : Path) : a.site? path = none := by
  cases a with
  | client => rfl
  | dynamic => rfl
  | _ => cases h

/-- The steps that are no marks. -/
def unmarked (steps : List Step) : List Step := steps.filter fun a => !a.isMark

theorem filterMap_unmarked {α : Type} {f : Step → Option α}
    (h : ∀ a : Step, a.isMark = true → f a = none) (steps : List Step) :
    (unmarked steps).filterMap f = steps.filterMap f := by
  rw [unmarked, List.filterMap_filter]
  refine List.filterMap_congr ?_
  intro a _
  by_cases hmark : a.isMark = true
  · rw [hmark, h a hmark]
    rfl
  · rw [(Bool.not_eq_true _).mp hmark]
    rfl

theorem readsOnce_unmarked (path : Path) (steps : List Step) :
    readsOnce path (unmarked steps) = readsOnce path steps := by
  induction steps with
  | nil => rfl
  | cons b steps ih =>
      by_cases hmark : b.isMark = true
      · -- a mark is passed over on both sides
        rw [unmarked, List.filter_cons_of_neg (by rw [hmark]; exact Bool.noConfusion),
          readsOnce_cons_of_unbound (name?_of_isMark hmark)]
        exact ih
      · rw [unmarked, List.filter_cons_of_pos (by rw [(Bool.not_eq_true _).mp hmark]; rfl)]
        cases hname : b.name? with
        | none =>
            rw [readsOnce_cons_of_unbound hname, readsOnce_cons_of_unbound hname]
            exact ih
        | some name =>
            rw [readsOnce_cons_of_bound hname, readsOnce_cons_of_bound hname]
            exact filterMap_unmarked (fun a ha => site?_of_isMark ha path) steps

/-- What is collected depends on which marks there are and on the other steps, and not
    on where the marks stand among them. -/
theorem collected_congr {xs ys : List Step} (hrest : unmarked xs = unmarked ys)
    (hclient : .client ∈ xs ↔ .client ∈ ys) (hdynamic : .dynamic ∈ xs ↔ .dynamic ∈ ys)
    (path : Path) : collected path xs = collected path ys := by
  have htracked : ∀ steps : List Step,
      steps.findSome? Step.name? = ((unmarked steps).filterMap Step.name?).head? := by
    intro steps
    rw [filterMap_unmarked (fun a => name?_of_isMark), List.head?_filterMap]
  rw [collected, collected, htracked, htracked, hrest, decide_eq_decide.mpr hclient,
    decide_eq_decide.mpr hdynamic, ← readsOnce_unmarked path xs, hrest, readsOnce_unmarked]

/-! ## Any steps -/

/-- What a state holds after steps. -/
structure Collects (path : Path) (steps : List Step) (s : State) : Prop where
  client : s.client = true ↔ .client ∈ steps
  dynamic : s.dynamic = true ↔ .dynamic ∈ steps
  /-- Without a name there is no read. -/
  unbound : (∀ name, .track name ∈ steps → name = "") → s.tracked = none ∧ s.sites = []
  /-- The first name that is not empty is bound, and the steps after it are recorded. -/
  bound : ∀ before name after, steps = before ++ .track name :: after → name ≠ "" →
    (∀ other, .track other ∈ before → other = "") →
    s.tracked = some name ∧ s.sites = after.filterMap (Step.site? path)
  exempt : .client ∈ steps ∨ .dynamic ∈ steps → s.offending = []
  reported : .client ∉ steps → .dynamic ∉ steps → s.offending = s.sites.filter (·.isPrivate)

theorem collects_collected (path : Path) (steps : List Step) :
    Collects path steps (collected path steps) where
  client := decide_eq_true_iff
  dynamic := decide_eq_true_iff
  unbound h := by
    have hnone := name?_eq_none_of_forall h
    refine ⟨List.findSome?_eq_none_iff.mpr hnone, ?_⟩
    show readsOnce path steps = []
    rw [← List.append_nil steps, readsOnce_append_of_unbound hnone]
    rfl
  bound before name after hsteps hname hfirst := by
    have hnone := name?_eq_none_of_forall hfirst
    -- no name is bound before this one, which is not empty
    have hbinds : (Step.track name).name? = some name := name?_eq_some_iff.mpr ⟨rfl, hname⟩
    subst hsteps
    refine ⟨?_, ?_⟩
    · show (before ++ .track name :: after).findSome? Step.name? = some name
      rw [List.findSome?_append, List.findSome?_eq_none_iff.mpr hnone, List.findSome?_cons, hbinds]
      rfl
    · show readsOnce path (before ++ .track name :: after) = _
      rw [readsOnce_append_of_unbound hnone, readsOnce_cons_of_bound hbinds]
  exempt h := by
    have hmarked : ((collected path steps).client || (collected path steps).dynamic) = true := by
      rw [Bool.or_eq_true]
      exact h.imp decide_eq_true decide_eq_true
    rw [State.offending, if_pos hmarked]
  reported hclient hdynamic := by
    have hsilent : ¬((collected path steps).client || (collected path steps).dynamic) = true := by
      rw [Bool.or_eq_true]
      rintro (h | h)
      · exact hclient (of_decide_eq_true h)
      · exact hdynamic (of_decide_eq_true h)
    rw [State.offending, if_neg hsilent, State.privateSites]

/-- **What any steps collect.**  A step does what the operation on states does, and one
    that fails leaves the state as it was.  After any steps, failing ones included,
    each mark is seen if it was made, the first name that is not empty is bound, and
    the reads are those that later steps ask for.  So it does not matter where the
    marks stand: steps with the same marks, and otherwise the same, end alike. -/
theorem steps_collect (path : Path) :
    (∀ s a, Atomic (Writing.step path a) s (s.step path a)) ∧
    (∀ steps, Collects path steps (afterSteps path steps)) ∧
    ∀ xs ys, unmarked xs = unmarked ys → (.client ∈ xs ↔ .client ∈ ys) →
      (.dynamic ∈ xs ↔ .dynamic ∈ ys) → afterSteps path xs = afterSteps path ys := by
  refine ⟨Writing.atomic_step path, ?_, ?_⟩
  · intro steps
    rw [afterSteps_eq]
    exact collects_collected path steps
  · intro xs ys hrest hclient hdynamic
    rw [afterSteps_eq, afterSteps_eq]
    exact collected_congr hrest hclient hdynamic path

/-- A read of a name on the first line. -/
def readOf (name : String) : Step := .access name (.flag true) (.number 0) true

/-- A mark that comes late, among steps that fail, ends as one that comes first. -/
theorem steps_collect_lateMark :
    afterSteps Path.here [readOf "A", .track "", .track "env", readOf "B", readOf "", .dynamic]
      = afterSteps Path.here
          [.dynamic, readOf "A", .track "", .dynamic, .track "env", readOf "B", readOf ""] := by
  obtain ⟨-, -, hmarks⟩ := steps_collect Path.here
  exact hmarks _ _ (by decide) (by decide) (by decide)

end EnvLint.Env
