import EnvLint.Proofs.Env.Verdict

/-! # Malformed trees

    The rule reads fields of nodes that nothing has checked.  A property without
    a place is a fault of the tree, and the run fails with it.  Other shapes make
    the run fail in ways that no run expects:

    * an import of the accessor whose `specifiers` are a truth value or a number,
      and not an empty one, so that they cannot be walked as a list;
    * a property whose place does not fit together, or whose name is empty.

    `faultAt_cases` shows that there are no others.  As the first fault ends the
    run, it fails unexpectedly if and only if one of these shapes stands before
    every property without a place (`firstFault_breaks_iff`). -/

namespace EnvLint.Env

/-! ## Shapes -/

/-- An import of the accessor whose specifiers cannot be walked as a list. -/
def Unlisted (source : String) (n : Json) : Prop :=
  Tree.hasType n "ImportDeclaration" = true ∧
    (n.get? "source").bind Tree.stringLiteral = some source ∧
    ∃ v, n.get? "specifiers" = some v ∧ v.truthy = true ∧
      ((∃ b, v = .bool b) ∨ (∃ i, v = .int i) ∨ ∃ x, v = .float x)

/-- A property with a place that does not fit together, or without a name. -/
def Misplaced (path : Path) (property : Json) : Prop :=
  ∃ start stop, span? property = some (start, stop) ∧
    ((∀ location, Location.make (some path) start.1 start.2 (stop.map Prod.fst)
        (stop.map Prod.snd) ≠ .ok location) ∨
      (Tree.identifierName property).getD "" = "")

/-- A node breaks the run: it is an import that cannot be walked, or it reads a
    misplaced property on the name bound before it. -/
def BreaksAt (o : RuleOptions) (path : Path) (nodes : List Json) (i : Nat) : Prop :=
  ∃ n, nodes[i]? = some n ∧ (Unlisted o.envSource n ∨
    ∃ k name property, FirstBinding o.envSource nodes k name ∧ k < i ∧
      readOn name n = some property ∧ Misplaced path property)

/-- A node reads a property without a place on the name bound before it. -/
def UnplacedAt (o : RuleOptions) (nodes : List Json) (i : Nat) : Prop :=
  ∃ n k name property, nodes[i]? = some n ∧ FirstBinding o.envSource nodes k name ∧ k < i ∧
    readOn name n = some property ∧ span? property = none

/-- A tree breaks the run: a node does before every read of a property without a
    place. -/
def Breaks (o : RuleOptions) (path : Path) (nodes : List Json) : Prop :=
  ∃ i, BreaksAt o path nodes i ∧ ∀ j < i, ¬UnplacedAt o nodes j

/-! ## Failures of single nodes -/

/-- A value cannot be walked as a list if it is a truth value or a number, and not an
    empty one. -/
theorem itemsOf_eq_error_iff {v : Json} {failure : Failure} :
    itemsOf v = .error failure ↔ failure = .notList v.kind ∧ v.truthy = true ∧
      ((∃ b, v = .bool b) ∨ (∃ i, v = .int i) ∨ ∃ x, v = .float x) := by
  cases v with
  | arr items => simp [itemsOf]
  | obj fields => simp [itemsOf]
  | str s => simp [itemsOf]
  | null => simp [itemsOf, Json.truthy]
  | bool b => cases b <;> simp [itemsOf, Json.truthy, eq_comm]
  | int i =>
      by_cases h : (Json.int i).truthy = true
      · simp [itemsOf, h, eq_comm]
      · simp [itemsOf, h]
  | float x =>
      by_cases h : (Json.float x).truthy = true
      · simp [itemsOf, h, eq_comm]
      · simp [itemsOf, h]

/-- An import cannot be read if it is one of the accessor and its specifiers cannot be
    walked. -/
theorem importAlias_eq_error_iff {n : Json} {source : String} {failure : Failure} :
    importAlias n source = .error failure ↔
      (n.get? "source").bind Tree.stringLiteral = some source ∧
        ∃ v, n.get? "specifiers" = some v ∧ itemsOf v = .error failure := by
  rw [importAlias]
  by_cases hsource : (n.get? "source").bind Tree.stringLiteral = some source
  · have hne : ¬((n.get? "source").bind Tree.stringLiteral != some source) = true := by
      rw [hsource, bne_self_eq_false]
      exact Bool.noConfusion
    rw [if_neg hne]
    cases hspecifiers : n.get? "specifiers" with
    | none =>
        constructor
        · intro h
          cases h
        · rintro ⟨-, v, hv, -⟩
          cases hv
    | some v =>
        show (itemsOf v >>= _) = _ ↔ _
        cases hitems : itemsOf v with
        | error other => simp [hsource, hitems, Bind.bind, Except.bind]
        | ok items => simp [hitems, Bind.bind, Except.bind]
  · have hne : ((n.get? "source").bind Tree.stringLiteral != some source) = true :=
      bne_iff_ne.mpr hsource
    rw [if_pos hne]
    -- an import of something else is not looked into
    simp [hsource]

/-- An import that cannot be walked fails, and the run does not expect it. -/
theorem importAlias_of_unlisted {n : Json} {source : String} (h : Unlisted source n) :
    ∃ failure, importAlias n source = .error failure ∧ failure.isExpected = false := by
  obtain ⟨-, hsource, v, hv, htruthy, hshape⟩ := h
  refine ⟨.notList v.kind, importAlias_eq_error_iff.mpr ⟨hsource, v, hv, ?_⟩, rfl⟩
  exact itemsOf_eq_error_iff.mpr ⟨rfl, htruthy, hshape⟩

/-- An import that cannot be read cannot be walked. -/
theorem unlisted_of_importAlias {n : Json} {source : String} {failure : Failure}
    (htype : Tree.hasType n "ImportDeclaration" = true)
    (h : importAlias n source = .error failure) :
    Unlisted source n ∧ failure.isExpected = false := by
  obtain ⟨hsource, v, hv, hitems⟩ := importAlias_eq_error_iff.mp h
  obtain ⟨rfl, htruthy, hshape⟩ := itemsOf_eq_error_iff.mp hitems
  exact ⟨⟨htype, hsource, v, hv, htruthy, hshape⟩, rfl⟩

/-- A property without a place is a fault of the tree. -/
theorem siteOf_of_unplaced (o : RuleOptions) (path : Path) {property : Json}
    (h : span? property = none) :
    ∃ place reason, siteOf o path property = .error (.tree path place reason) := by
  have hplace : ∃ place reason, placeOf property (some path) = .error (.tree path place reason) := by
    unfold placeOf
    rw [h]
    exact ⟨_, _, rfl⟩
  obtain ⟨place, reason, hplace⟩ := hplace
  rw [siteOf, hplace]
  exact ⟨place, reason, rfl⟩

/-- A property with a place makes no site if it is misplaced, and the run does not
    expect that. -/
theorem siteOf_of_placed (o : RuleOptions) (path : Path) {property : Json}
    (hplaced : span? property ≠ none) :
    (Misplaced path property → ∃ failure, siteOf o path property = .error failure) ∧
      ∀ failure, siteOf o path property = .error failure →
        Misplaced path property ∧ failure.isExpected = false := by
  obtain ⟨⟨start, stop⟩, hspan⟩ := Option.ne_none_iff_exists'.mp hplaced
  have hplace : placeOf property (some path) = (Location.make (some path) start.1 start.2
      (stop.map Prod.fst) (stop.map Prod.snd)).mapError .location := by
    unfold placeOf
    rw [hspan]
  rw [Misplaced, siteOf, hplace, hspan]
  cases hmake : Location.make (some path) start.1 start.2 (stop.map Prod.fst)
      (stop.map Prod.snd) with
  | error fault =>
      refine ⟨?_, ?_⟩
      · intro _
        exact ⟨.location fault, rfl⟩
      · intro failure h
        cases h
        refine ⟨⟨start, stop, rfl, Or.inl ?_⟩, rfl⟩
        intro location hlocation
        rw [hmake] at hlocation
        cases hlocation
  | ok location =>
      -- the place fits together, so only the name is left to be refused
      show (_ → ∃ failure, Site.make _ (some location) _ = _) ∧
        ∀ failure, Site.make _ (some location) _ = _ → _
      rw [Site.make]
      by_cases hname : (Tree.identifierName property).getD "" = ""
      · rw [if_pos hname]
        refine ⟨?_, ?_⟩
        · intro _
          exact ⟨_, rfl⟩
        · intro failure h
          cases h
          exact ⟨⟨start, stop, rfl, Or.inr hname⟩, rfl⟩
      · rw [if_neg hname]
        refine ⟨?_, ?_⟩
        · rintro ⟨start', stop', heq, hbad | hbad⟩
          · cases heq
            exact absurd hmake (hbad location)
          · exact absurd hbad hname
        · intro failure h
          cases h

/-! ## The first fault -/

section

variable {o : RuleOptions} {path : Path} {nodes : List Json} {i : Nat} {failure : Failure}

theorem faultAt_unique {other : Failure} (h : FaultAt o path nodes i failure)
    (hother : FaultAt o path nodes i other) : failure = other := by
  obtain ⟨n, hn, hfault⟩ := faultAt_iff.mp h
  obtain ⟨m, hm, hfault'⟩ := faultAt_iff.mp hother
  rw [hn] at hm
  cases hm
  exact Option.some.inj (hfault.symm.trans hfault')

/-- **Every fault is known**: a node that fails breaks the run, and then the run does
    not expect it, or it reads a property without a place. -/
theorem faultAt_cases (h : FaultAt o path nodes i failure) :
    (BreaksAt o path nodes i ∧ failure.isExpected = false) ∨
      (UnplacedAt o nodes i ∧ ∃ place reason, failure = .tree path place reason) := by
  obtain ⟨n, hn, ⟨htype, halias⟩ | ⟨k, name, property, hfirst, hlt, hread, hsite⟩⟩ := h
  · obtain ⟨hunlisted, hunexpected⟩ := unlisted_of_importAlias htype halias
    exact Or.inl ⟨⟨n, hn, Or.inl hunlisted⟩, hunexpected⟩
  · by_cases hplaced : span? property = none
    · obtain ⟨place, reason, htree⟩ := siteOf_of_unplaced o path hplaced
      rw [hsite] at htree
      cases htree
      exact Or.inr ⟨⟨n, k, name, property, hn, hfirst, hlt, hread, hplaced⟩, place, reason, rfl⟩
    · obtain ⟨hmisplaced, hunexpected⟩ := (siteOf_of_placed o path hplaced).2 failure hsite
      exact Or.inl ⟨⟨n, hn, Or.inr ⟨k, name, property, hfirst, hlt, hread, hmisplaced⟩⟩,
        hunexpected⟩

/-- A node that breaks the run fails, and the run does not expect it. -/
theorem BreaksAt.faultAt (h : BreaksAt o path nodes i) :
    ∃ failure, FaultAt o path nodes i failure ∧ failure.isExpected = false := by
  obtain ⟨n, hn, hunlisted | ⟨k, name, property, hfirst, hlt, hread, hmisplaced⟩⟩ := h
  · obtain ⟨failure, halias, hunexpected⟩ := importAlias_of_unlisted hunlisted
    exact ⟨failure, ⟨n, hn, Or.inl ⟨hunlisted.1, halias⟩⟩, hunexpected⟩
  · have hplaced : span? property ≠ none := by
      obtain ⟨start, stop, hspan, -⟩ := hmisplaced
      rw [hspan]
      exact nofun
    obtain ⟨failure, hsite⟩ := (siteOf_of_placed o path hplaced).1 hmisplaced
    refine ⟨failure, ⟨n, hn, Or.inr ⟨k, name, property, hfirst, hlt, hread, hsite⟩⟩, ?_⟩
    exact ((siteOf_of_placed o path hplaced).2 failure hsite).2

/-- A read of a property without a place fails. -/
theorem UnplacedAt.faultAt (h : UnplacedAt o nodes i) (path : Path) :
    ∃ place reason, FaultAt o path nodes i (.tree path place reason) := by
  obtain ⟨n, k, name, property, hn, hfirst, hlt, hread, hspan⟩ := h
  obtain ⟨place, reason, hsite⟩ := siteOf_of_unplaced o path hspan
  exact ⟨place, reason, n, hn, Or.inr ⟨k, name, property, hfirst, hlt, hread, hsite⟩⟩

/-- **When a tree breaks the run**: the first fault is one that no run expects if and
    only if a node breaks the run before every read of a property without a place. -/
theorem firstFault_breaks_iff :
    (∃ failure, firstFault o path [] nodes = some failure ∧ failure.isExpected = false) ↔
      Breaks o path nodes := by
  constructor
  · rintro ⟨failure, hfound, hunexpected⟩
    obtain ⟨i, hfault, hfirst⟩ := firstFault_eq_some_iff.mp hfound
    rcases faultAt_cases hfault with ⟨hbreaks, -⟩ | ⟨-, place, reason, rfl⟩
    · refine ⟨i, hbreaks, ?_⟩
      intro j hj hunplaced
      obtain ⟨place, reason, hearlier⟩ := hunplaced.faultAt path
      exact hfirst j hj _ hearlier
    · cases hunexpected
  · rintro ⟨i, hbreaks, hplaced⟩
    obtain ⟨failure, hfault, hunexpected⟩ := hbreaks.faultAt
    obtain ⟨first, earliest, hearliest, hfirst⟩ := exists_first_fault ⟨i, failure, hfault⟩
    have hle : first ≤ i := by
      by_contra hlt
      exact hfirst i (Nat.not_le.mp hlt) failure hfault
    refine ⟨earliest, firstFault_eq_some_of_faultAt hearliest hfirst, ?_⟩
    -- what fails first breaks the run too: no property without a place stands before
    rcases Nat.lt_or_eq_of_le hle with hlt | rfl
    · rcases faultAt_cases hearliest with ⟨-, hunexpected⟩ | ⟨hunplaced, -⟩
      · exact hunexpected
      · exact absurd hunplaced (hplaced first hlt)
    · rw [faultAt_unique hearliest hfault]
      exact hunexpected

/-- A tree that does not break the run fails for a property without a place, if at all. -/
theorem firstFault_of_not_breaks (h : ¬Breaks o path nodes) :
    firstFault o path [] nodes = none ∨
      ∃ place reason, firstFault o path [] nodes = some (.tree path place reason) := by
  cases hfound : firstFault o path [] nodes with
  | none => exact Or.inl rfl
  | some failure =>
      obtain ⟨i, hfault, -⟩ := firstFault_eq_some_iff.mp hfound
      rcases faultAt_cases hfault with ⟨-, hunexpected⟩ | ⟨-, place, reason, rfl⟩
      · exact absurd (firstFault_breaks_iff.mp ⟨failure, hfound, hunexpected⟩) h
      · exact Or.inr ⟨place, reason, rfl⟩

end

/-! ## Checking a text -/

/-- A check ends as it should: with a result, with a document that cannot be loaded, or
    with a malformed tree. -/
def EndsProperly (path : Path) (outcome : Except Failure FileResult) : Prop :=
  Succeeds outcome ∨ (∃ reason, outcome = .error (.load path reason)) ∨
    ∃ place reason, outcome = .error (.tree path place reason)

theorem not_endsProperly {path : Path} {failure : Failure} (h : failure.isExpected = false) :
    ¬EndsProperly path (.error failure) := by
  rintro (hok | ⟨reason, hload⟩ | ⟨place, reason, htree⟩)
  · exact not_succeeds_error failure hok
  · cases hload
    cases h
  · cases htree
    cases h

/-- Whether an escape names half of a surrogate pair without the other half; `pending` says
    whether the escape before named the first half of one. -/
def hasLoneUnit (pending : Bool) : List Char → Bool
  | '\\' :: 'u' :: a :: b :: c :: d :: rest =>
      match Text.readHex? [a, b, c, d] with
      | none => pending || hasLoneUnit false (a :: b :: c :: d :: rest)
      | some unit =>
          if Json.isLowUnit unit then !pending || hasLoneUnit false rest
          else pending || hasLoneUnit (Json.isHighUnit unit) rest
  | '\\' :: _ :: rest => pending || hasLoneUnit false rest
  | _ :: rest => pending || hasLoneUnit false rest
  | [] => pending

section

variable [Host]

/-- Texts within the bounds of what is read: the stack is deep enough for them, from a file and as
    such, no number has too many digits, and every half of a surrogate pair has its other half,
    so that there is a character for it. -/
structure Bounded (text : String) : Prop where
  depth : ∀ calls ≤ 1, Host.overflow? (.decode calls text.toList) = none
  digits : ∀ e count, Json.decode text = .error e → e.flaw ≠ .tooManyDigits count
  paired : hasLoneUnit false text.toList = false

/-- A text that loads has no number with too many digits. -/
theorem Bounded.of_ofText {text : String} {path : Path} {program : Json}
    (h : Program.ofText text path = .ok program)
    (hdepth : ∀ calls ≤ 1, Host.overflow? (.decode calls text.toList) = none)
    (hpaired : hasLoneUnit false text.toList = false) : Bounded text where
  depth := hdepth
  digits e count herror := by
    obtain ⟨-, -, hdecoded⟩ := bind_eq_ok_iff.mp h
    rw [herror] at hdecoded
    cases hdecoded
  paired := hpaired

/-- Such a text is read alike as such and from a file. -/
theorem Bounded.ofTextBelow {text : String} (h : Bounded text) (path : Path) :
    Program.ofTextBelow 1 text path = Program.ofText text path := by
  rw [Program.ofText, Program.ofTextBelow, Program.ofTextBelow,
    checkStack_eq_ok_iff.mpr (h.depth 1 (Nat.le_refl 1)),
    checkStack_eq_ok_iff.mpr (h.depth 0 (Nat.zero_le 1))]

/-- Such a text can be loaded, or fails to load. -/
theorem ofText_cases {text : String} (h : Bounded text) (path : Path) :
    (∃ program, Program.ofText text path = .ok program) ∨
      ∃ reason, Program.ofText text path = .error (.load path reason) := by
  rw [Program.ofText, Program.ofTextBelow, checkStack_eq_ok_iff.mpr (h.depth 0 (Nat.zero_le 1))]
  cases hdecode : Json.decode text with
  | error e =>
      refine Or.inr ⟨.json e, ?_⟩
      show Except.error (Program.decodeFailure path e) = _
      rw [Program.decodeFailure]
      split
      · rename_i count hflaw
        exact absurd hflaw (h.digits e count hdecode)
      · rfl
  | ok v =>
      show (∃ program, Program.accept path v = .ok program) ∨
        ∃ reason, Program.accept path v = .error (.load path reason)
      exact (Program.accept_cases path v).imp_left fun haccept => ⟨v, haccept⟩

/-- A text breaks the run: it is a program whose tree does. -/
def TextBreaks (o : RuleOptions) (path : Path) (text : String) : Prop :=
  ∃ program, Program.ofText text path = .ok program ∧ Breaks o path (Tree.nodes program)

variable {l : Linter} {o : RuleOptions} {severity : Severity} {text : String} {path : Path}

/-- A text that breaks the run makes it fail, and no run expects that. -/
theorem lint_of_textBreaks (hrules : l.rules = [⟨o, severity⟩]) (h : TextBreaks o path text) :
    ∃ failure, (Program.ofText text path >>= fun program => l.lint program path)
      = .error failure ∧ failure.isExpected = false := by
  obtain ⟨program, hprogram, hbreaks⟩ := h
  obtain ⟨failure, hfound, hunexpected⟩ := firstFault_breaks_iff.mpr hbreaks
  refine ⟨failure, ?_, hunexpected⟩
  rw [hprogram]
  show l.lint program path = _
  rw [lint_eq hrules (isNode_of_hasType (hasType_of_ofText hprogram)), hfound]

/-- A text that does not break the run makes it end as it should. -/
theorem lint_of_not_textBreaks (hrules : l.rules = [⟨o, severity⟩]) (htext : Bounded text)
    (h : ¬TextBreaks o path text) :
    EndsProperly path (Program.ofText text path >>= fun program => l.lint program path) := by
  rcases ofText_cases htext path with ⟨program, hprogram⟩ | ⟨reason, hload⟩
  · rw [hprogram]
    show EndsProperly path (l.lint program path)
    rw [lint_eq hrules (isNode_of_hasType (hasType_of_ofText hprogram))]
    rcases firstFault_of_not_breaks fun hbreaks => h ⟨program, hprogram, hbreaks⟩ with
      hnone | ⟨place, reason, htree⟩
    · rw [hnone]
      exact Or.inl (succeeds_ok _)
    · rw [htree]
      exact Or.inr (Or.inr ⟨place, reason, rfl⟩)
  · rw [hload]
    exact Or.inr (Or.inl ⟨reason, rfl⟩)

/-- A failure ends a check as it should if it is one that a run expects. -/
theorem isExpected_iff_endsProperly (hrules : l.rules = [⟨o, severity⟩]) (htext : Bounded text)
    {failure : Failure} (h : (Program.ofText text path >>= fun program => l.lint program path)
      = .error failure) :
    failure.isExpected = true ↔ EndsProperly path (.error failure) := by
  constructor
  · intro hexpected
    rw [← h]
    refine lint_of_not_textBreaks hrules htext ?_
    intro hbreaks
    obtain ⟨other, herror, hunexpected⟩ := lint_of_textBreaks hrules hbreaks
    rw [h] at herror
    cases herror
    rw [hexpected] at hunexpected
    exact Bool.noConfusion hunexpected
  · intro hproper
    by_contra hunexpected
    exact not_endsProperly ((Bool.not_eq_true _).mp hunexpected) hproper

/-- **When a check ends as it should.**  Checking a text ends with a result, a document
    that cannot be loaded or a malformed tree unless the text breaks the run. -/
theorem endsProperly_iff (hrules : l.rules = [⟨o, severity⟩]) (htext : Bounded text) :
    EndsProperly path (Program.ofText text path >>= fun program => l.lint program path) ↔
      ¬TextBreaks o path text := by
  constructor
  · intro hproper hbreaks
    obtain ⟨failure, herror, hunexpected⟩ := lint_of_textBreaks hrules hbreaks
    rw [herror] at hproper
    exact not_endsProperly hunexpected hproper
  · exact lint_of_not_textBreaks hrules htext

end

end EnvLint.Env
