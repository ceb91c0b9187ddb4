import EnvLint.Proofs.Env.Run
import EnvLint.Proofs.Refusals
import Mathlib.Data.Nat.Find

/-! # The verdict on a program

    What the rule says about a program, read off the list of its nodes in
    document order.  The first import of the accessor binds a name; the reads of
    a property on that name after it are the sites.  The run fails with the first
    node that is an import which cannot be read or a read without a site.  If
    there is none, the server-only sites are reported, unless the module is a
    client module or dynamic.

    * `FirstBinding` and `FaultAt` say by position what `stateOf` and `fault`
      compute from the nodes entered before;
    * `firstFault_eq_some_iff` finds the first position with a fault;
    * `reportsFrom_events` shows that without inner programs only the last visit
      reports. -/

namespace EnvLint.Env

/-! ## Positions -/

/-- A node is an import that binds a name to the accessor. -/
def Binds (source : String) (n : Json) (name : String) : Prop :=
  Tree.hasType n "ImportDeclaration" = true ∧ importAlias n source = .ok (some name)

/-- The first of some nodes that binds a name to the accessor, by its position. -/
def FirstBinding (source : String) (nodes : List Json) (k : Nat) (name : String) : Prop :=
  (∃ n, nodes[k]? = some n ∧ Binds source n name) ∧
    ∀ j < k, ∀ n other, nodes[j]? = some n → ¬Binds source n other

/-- A node cannot be taken in: it is an import that cannot be read, or it reads a
    property on the name bound before it and the property makes no site. -/
def FaultAt (o : RuleOptions) (path : Path) (nodes : List Json) (i : Nat) (failure : Failure) :
    Prop :=
  ∃ n, nodes[i]? = some n ∧
    ((Tree.hasType n "ImportDeclaration" = true ∧ importAlias n o.envSource = .error failure) ∨
      ∃ k name property, FirstBinding o.envSource nodes k name ∧ k < i ∧
        readOn name n = some property ∧ siteOf o path property = .error failure)

theorem binding_eq_some_iff {source name : String} {n : Json} :
    binding source n = some name ↔ Binds source n name := by
  rw [binding, Binds]
  by_cases htype : Tree.hasType n "ImportDeclaration" = true
  · rw [if_pos htype]
    cases importAlias n source with
    | error failure => simp [Except.toOption]
    | ok found => simp [Except.toOption, htype]
  · rw [if_neg htype]
    simp [htype]

theorem binding_eq_none_iff {source : String} {n : Json} :
    binding source n = none ↔ ∀ name, ¬Binds source n name := by
  rw [Option.eq_none_iff_forall_ne_some]
  constructor
  · intro h name hbinds
    exact h name (binding_eq_some_iff.mpr hbinds)
  · intro h name hsome
    exact h name (binding_eq_some_iff.mp hsome)

theorem firstBinding_zero {source name : String} {m : Json} {nodes : List Json} :
    FirstBinding source (m :: nodes) 0 name ↔ Binds source m name := by
  constructor
  · rintro ⟨⟨n, hn, hbinds⟩, -⟩
    cases hn
    exact hbinds
  · intro hbinds
    refine ⟨⟨m, rfl, hbinds⟩, ?_⟩
    intro j hj
    exact absurd hj (Nat.not_lt_zero j)

theorem firstBinding_succ {source name : String} {m : Json} {nodes : List Json} {k : Nat} :
    FirstBinding source (m :: nodes) (k + 1) name ↔
      (∀ other, ¬Binds source m other) ∧ FirstBinding source nodes k name := by
  constructor
  · rintro ⟨hbinds, hfirst⟩
    refine ⟨?_, hbinds, ?_⟩
    · intro other
      exact hfirst 0 (Nat.succ_pos k) m other rfl
    · intro j hj n other hn
      exact hfirst (j + 1) (Nat.succ_lt_succ hj) n other hn
  · rintro ⟨hm, hbinds, hfirst⟩
    refine ⟨hbinds, ?_⟩
    intro j hj n other hn
    cases j with
    | zero =>
        cases hn
        exact hm other
    | succ j => exact hfirst j (Nat.lt_of_succ_lt_succ hj) n other hn

/-- A name is bound before a position if the first binding stands there. -/
theorem findSome?_binding_take {source name : String} {nodes : List Json} {i : Nat} :
    (nodes.take i).findSome? (binding source) = some name ↔
      ∃ k, k < i ∧ FirstBinding source nodes k name := by
  induction nodes generalizing i with
  | nil => simp [FirstBinding]
  | cons m nodes ih =>
      cases i with
      | zero => simp
      | succ i =>
          rw [List.take_succ_cons, List.findSome?_cons]
          cases hm : binding source m with
          | some bound =>
              -- the first node binds, so no later position can be the first
              have hbinds := binding_eq_some_iff.mp hm
              constructor
              · intro h
                cases h
                exact ⟨0, Nat.succ_pos i, firstBinding_zero.mpr hbinds⟩
              · rintro ⟨k, -, hk⟩
                cases k with
                | zero =>
                    show some bound = some name
                    rw [← hm]
                    exact binding_eq_some_iff.mpr (firstBinding_zero.mp hk)
                | succ k => exact absurd hbinds ((firstBinding_succ.mp hk).1 bound)
          | none =>
              have hnone := binding_eq_none_iff.mp hm
              constructor
              · intro h
                obtain ⟨k, hlt, hk⟩ := ih.mp h
                exact ⟨k + 1, Nat.succ_lt_succ hlt, firstBinding_succ.mpr ⟨hnone, hk⟩⟩
              · rintro ⟨k, hlt, hk⟩
                cases k with
                | zero => exact absurd (firstBinding_zero.mp hk) (hnone name)
                | succ k =>
                    exact ih.mpr ⟨k, Nat.lt_of_succ_lt_succ hlt, (firstBinding_succ.mp hk).2⟩

/-- The name that is bound at all is that of the first binding. -/
theorem findSome?_binding {source name : String} {nodes : List Json} :
    nodes.findSome? (binding source) = some name ↔ ∃ k, FirstBinding source nodes k name := by
  have h : (nodes.take nodes.length).findSome? (binding source) = some name ↔ _ :=
    findSome?_binding_take
  rw [List.take_length] at h
  rw [h]
  constructor
  · rintro ⟨k, -, hk⟩
    exact ⟨k, hk⟩
  · rintro ⟨k, hk⟩
    obtain ⟨n, hn, -⟩ := hk.1
    exact ⟨k, (List.getElem?_eq_some_iff.mp hn).1, hk⟩

/-- The reads on the accessor are made after its first binding. -/
theorem reads_eq_drop {source name : String} {nodes : List Json} {k : Nat}
    (h : FirstBinding source nodes k name) :
    reads source nodes = (nodes.drop (k + 1)).filterMap (readOn name) := by
  induction nodes generalizing k with
  | nil =>
      obtain ⟨n, hn, -⟩ := h.1
      cases hn
  | cons m nodes ih =>
      rw [reads, List.drop_succ_cons]
      cases k with
      | zero =>
          rw [binding_eq_some_iff.mpr (firstBinding_zero.mp h), List.drop_zero]
      | succ k =>
          obtain ⟨hm, hk⟩ := firstBinding_succ.mp h
          rw [binding_eq_none_iff.mpr hm]
          exact ih hk

/-- Without a binding nothing is read on the accessor. -/
theorem reads_eq_nil {source : String} {nodes : List Json}
    (h : nodes.findSome? (binding source) = none) : reads source nodes = [] := by
  induction nodes with
  | nil => rfl
  | cons m nodes ih =>
      rw [List.findSome?_cons] at h
      rw [reads]
      cases hm : binding source m with
      | some name =>
          rw [hm] at h
          cases h
      | none =>
          rw [hm] at h
          exact ih h

/-! ## Faults by position -/

theorem hasType_unique {n : Json} {a b : String} (ha : Tree.hasType n a = true)
    (hb : Tree.hasType n b = true) : a = b := by
  rw [Tree.hasType, beq_iff_eq] at ha hb
  exact Option.some.inj (ha.symm.trans hb)

/-- Only a member expression reads a property. -/
theorem hasType_of_readOn {name : String} {n property : Json} (h : readOn name n = some property) :
    Tree.hasType n "MemberExpression" = true := by
  rw [readOn] at h
  split at h
  · assumption
  · cases h

theorem failureOf_eq_some_iff {α : Type} {outcome : Except Failure α} {failure : Failure} :
    failureOf outcome = some failure ↔ outcome = .error failure := by
  cases outcome with
  | error other => simp [failureOf]
  | ok value => simp [failureOf]

section

variable {o : RuleOptions} {path : Path} {nodes : List Json} {i : Nat} {failure : Failure}

/-- The faults by position are those that the nodes before them make. -/
theorem faultAt_iff :
    FaultAt o path nodes i failure ↔
      ∃ n, nodes[i]? = some n ∧ fault o path (nodes.take i) n = some failure := by
  constructor
  · rintro ⟨n, hn, ⟨htype, halias⟩ | ⟨k, name, property, hfirst, hlt, hread, hsite⟩⟩
    · refine ⟨n, hn, ?_⟩
      rw [fault, if_pos htype]
      exact failureOf_eq_some_iff.mpr halias
    · -- what reads a property is no import
      have htype : ¬Tree.hasType n "ImportDeclaration" = true := by
        intro himport
        exact absurd (hasType_unique himport (hasType_of_readOn hread)) (by decide)
      refine ⟨n, hn, ?_⟩
      rw [fault, if_neg htype, findSome?_binding_take.mpr ⟨k, hlt, hfirst⟩]
      show (readOn name n).bind _ = _
      rw [hread]
      exact failureOf_eq_some_iff.mpr hsite
  · rintro ⟨n, hn, hfault⟩
    refine ⟨n, hn, ?_⟩
    rw [fault] at hfault
    split at hfault
    · rename_i htype
      exact Or.inl ⟨htype, failureOf_eq_some_iff.mp hfault⟩
    · obtain ⟨property, hproperty, hsite⟩ := Option.bind_eq_some_iff.mp hfault
      obtain ⟨name, hname, hread⟩ := Option.bind_eq_some_iff.mp hproperty
      obtain ⟨k, hlt, hfirst⟩ := findSome?_binding_take.mp hname
      exact Or.inr ⟨k, name, property, hfirst, hlt, hread, failureOf_eq_some_iff.mp hsite⟩

/-- A fault is found if a node has it and no node before has any. -/
theorem firstFault_eq_some_of {before : List Json} {n : Json} (hn : nodes[i]? = some n)
    (hfault : fault o path (before ++ nodes.take i) n = some failure)
    (hfirst : ∀ j < i, ∀ m, nodes[j]? = some m → fault o path (before ++ nodes.take j) m = none) :
    firstFault o path before nodes = some failure := by
  -- the nodes up to position `i` move over to `before` one by one
  induction nodes generalizing before i with
  | nil => cases hn
  | cons m nodes ih =>
      rw [firstFault]
      cases i with
      | zero =>
          cases hn
          rw [List.take_zero, List.append_nil] at hfault
          rw [hfault]
          rfl
      | succ i =>
          have hm : fault o path before m = none := by
            have h := hfirst 0 (Nat.succ_pos i) m rfl
            rwa [List.take_zero, List.append_nil] at h
          rw [hm, Option.none_or]
          rw [List.take_succ_cons, List.append_cons] at hfault
          refine ih hn hfault ?_
          intro j hj other hother
          have h := hfirst (j + 1) (Nat.succ_lt_succ hj) other hother
          rwa [List.take_succ_cons, List.append_cons] at h

/-- No fault is found if no node has one. -/
theorem firstFault_eq_none_of {before : List Json}
    (h : ∀ j m, nodes[j]? = some m → fault o path (before ++ nodes.take j) m = none) :
    firstFault o path before nodes = none := by
  induction nodes generalizing before with
  | nil => rfl
  | cons m nodes ih =>
      have hm := h 0 m rfl
      rw [List.take_zero, List.append_nil] at hm
      rw [firstFault, hm, Option.none_or]
      refine ih ?_
      intro j other hother
      have hj := h (j + 1) other hother
      rwa [List.take_succ_cons, List.append_cons] at hj

/-- If some position has a fault, there is a first one. -/
theorem exists_first_fault (h : ∃ i other, FaultAt o path nodes i other) :
    ∃ i other, FaultAt o path nodes i other ∧
      ∀ j < i, ∀ earlier, ¬FaultAt o path nodes j earlier := by
  classical
  obtain ⟨other, hfault⟩ := Nat.find_spec h
  refine ⟨Nat.find h, other, hfault, ?_⟩
  intro j hj earlier hearlier
  exact Nat.find_min h hj ⟨earlier, hearlier⟩

/-- The fault of the first position that has one is found. -/
theorem firstFault_eq_some_of_faultAt (hfault : FaultAt o path nodes i failure)
    (hfirst : ∀ j < i, ∀ earlier, ¬FaultAt o path nodes j earlier) :
    firstFault o path [] nodes = some failure := by
  obtain ⟨n, hn, hfailure⟩ := faultAt_iff.mp hfault
  refine firstFault_eq_some_of hn hfailure ?_
  intro j hj m hm
  rw [List.nil_append, Option.eq_none_iff_forall_ne_some]
  intro earlier hearlier
  exact hfirst j hj earlier (faultAt_iff.mpr ⟨m, hm, hearlier⟩)

/-- No fault is found if and only if no position has one. -/
theorem firstFault_eq_none_iff :
    firstFault o path [] nodes = none ↔ ∀ i other, ¬FaultAt o path nodes i other := by
  constructor
  · intro h i other hfault
    obtain ⟨first, earliest, hearliest, hfirst⟩ := exists_first_fault ⟨i, other, hfault⟩
    rw [firstFault_eq_some_of_faultAt hearliest hfirst] at h
    cases h
  · intro h
    refine firstFault_eq_none_of ?_
    intro j m hm
    rw [List.nil_append, Option.eq_none_iff_forall_ne_some]
    intro other hother
    exact h j other (faultAt_iff.mpr ⟨m, hm, hother⟩)

/-- The fault that is found is that of the first position that has one. -/
theorem firstFault_eq_some_iff :
    firstFault o path [] nodes = some failure ↔
      ∃ i, FaultAt o path nodes i failure ∧ ∀ j < i, ∀ other, ¬FaultAt o path nodes j other := by
  constructor
  · intro h
    have hsome : ∃ i other, FaultAt o path nodes i other := by
      by_contra hnone
      rw [firstFault_eq_none_iff.mpr fun i other hfault => hnone ⟨i, other, hfault⟩] at h
      cases h
    obtain ⟨i, other, hfault, hfirst⟩ := exists_first_fault hsome
    rw [firstFault_eq_some_of_faultAt hfault hfirst] at h
    cases h
    exact ⟨i, hfault, hfirst⟩
  · rintro ⟨i, hfault, hfirst⟩
    exact firstFault_eq_some_of_faultAt hfault hfirst

end

/-! ## Sites -/

/-- Without a fault every property that is read on the accessor makes a site. -/
theorem mapM_siteOf_eq_ok {o : RuleOptions} {path : Path} {nodes : List Json} {k : Nat}
    {name : String} (hfirst : FirstBinding o.envSource nodes k name)
    (hnone : ∀ i failure, ¬FaultAt o path nodes i failure) :
    ((nodes.drop (k + 1)).filterMap (readOn name)).mapM (siteOf o path)
      = .ok (stateOf o path nodes).sites := by
  rw [stateOf, reads_eq_drop hfirst]
  refine mapM_eq_ok_of_forall ?_
  intro property hproperty
  obtain ⟨n, hn, hread⟩ := List.mem_filterMap.mp hproperty
  obtain ⟨j, hj⟩ := List.mem_iff_getElem?.mp hn
  rw [List.getElem?_drop] at hj
  cases hsite : siteOf o path property with
  | ok site => exact ⟨site, rfl⟩
  | error failure =>
      -- a property without a site is a fault at the position of its read
      refine absurd ?_ (hnone (k + 1 + j) failure)
      exact ⟨n, hj, Or.inr ⟨k, name, property, hfirst, by omega, hread, hsite⟩⟩

/-! ## Reports -/

/-- Whether a node makes the rule give its verdict: a program does when it is left,
    and a node of the type that names this visit does when it is entered. -/
def callsExit (n : Json) : Bool :=
  Tree.hasType n "Program" || Tree.hasType n "Program:exit"

/-- A visit that gives the verdict visits a node that makes it. -/
theorem callsExit_of_ofVisit? {v : Tree.Visit} (h : Selector.ofVisit? v = some .programExit) :
    callsExit v.node = true := by
  obtain ⟨phase, n⟩ := v
  cases phase with
  | enter => simp [callsExit, hasType_eq (Selector.ofVisit?_enter.mp h), Selector.name]
  | leave => simp [callsExit, hasType_eq (Selector.ofVisit?_leave.mp h).2]

/-- The visits of a tree are to its nodes. -/
theorem node_mem_nodes {n : Json} {v : Tree.Visit} (h : v ∈ Tree.events n) :
    v.node ∈ Tree.nodes n := by
  induction n using Tree.children_induction with
  | step n ih =>
      rw [Tree.events_eq, List.mem_cons, List.mem_append, List.mem_singleton] at h
      rw [Tree.nodes_eq]
      rcases h with rfl | h | rfl
      · exact List.mem_cons_self
      · obtain ⟨c, hc, hv⟩ := List.mem_flatMap.mp h
        exact List.mem_cons_of_mem n (List.mem_flatMap.mpr ⟨c, hc, ih c hc hv⟩)
      · exact List.mem_cons_self

section

variable {o : RuleOptions} {severity : Severity} {path : Path}

theorem reportsFrom_append (entered : List Json) (xs ys : List Tree.Visit) :
    reportsFrom o severity path entered (xs ++ ys)
      = reportsFrom o severity path entered xs ++
          reportsFrom o severity path (entered ++ xs.flatMap Tree.Visit.entered) ys := by
  induction xs generalizing entered with
  | nil =>
      rw [List.flatMap_nil, List.append_nil]
      rfl
  | cons v xs ih =>
      rw [List.cons_append, reportsFrom, reportsFrom, ih, List.append_assoc, List.flatMap_cons,
        List.append_assoc]

/-- Visits that do not give the verdict report nothing. -/
theorem reportsFrom_eq_nil {entered : List Json} {visits : List Tree.Visit}
    (h : ∀ v ∈ visits, callsExit v.node = false) :
    reportsFrom o severity path entered visits = [] := by
  induction visits generalizing entered with
  | nil => rfl
  | cons v visits ih =>
      rw [List.forall_mem_cons] at h
      have hv : ¬Selector.ofVisit? v = some .programExit := by
        intro hcall
        rw [callsExit_of_ofVisit? hcall] at h
        exact Bool.noConfusion h.1
      rw [reportsFrom, reportsAt, if_neg hv, ih h.2]
      rfl

/-- Without inner programs only the last visit reports, and it knows all nodes. -/
theorem reportsFrom_events {program : Json} (hprogram : Tree.hasType program "Program" = true)
    (hinner : ∀ n ∈ (Tree.nodes program).tail, callsExit n = false) :
    reportsFrom o severity path [] (Tree.events program)
      = verdict o severity path (Tree.nodes program) := by
  have htype : Tree.typeOf? program = some "Program" := by
    rwa [Tree.hasType, beq_iff_eq] at hprogram
  have henter : ¬Selector.ofVisit? ⟨.enter, program⟩ = some .programExit := by
    rw [Selector.ofVisit?_enter, htype]
    decide
  have hleave : Selector.ofVisit? ⟨.leave, program⟩ = some .programExit :=
    Selector.ofVisit?_leave.mpr ⟨rfl, htype⟩
  -- entering the root calls another handler, and no visit below it reports
  have hbelow : ∀ v ∈ (Tree.children program).flatMap Tree.events, callsExit v.node = false := by
    intro v hv
    obtain ⟨c, hc, hvc⟩ := List.mem_flatMap.mp hv
    refine hinner v.node ?_
    rw [Tree.nodes_eq, List.tail_cons]
    exact List.mem_flatMap.mpr ⟨c, hc, node_mem_nodes hvc⟩
  have hentered : ([] ++ Tree.Visit.entered ⟨.enter, program⟩) ++
      ((Tree.children program).flatMap Tree.events).flatMap Tree.Visit.entered ++
        Tree.Visit.entered ⟨.leave, program⟩ = Tree.nodes program := by
    rw [← Tree.flatMap_entered_events, Tree.events_eq, List.flatMap_cons, List.flatMap_append,
      List.flatMap_singleton, List.nil_append, List.append_assoc]
  rw [Tree.events_eq, reportsFrom, reportsAt, if_neg henter, List.nil_append, reportsFrom_append,
    reportsFrom_eq_nil hbelow, List.nil_append, reportsFrom, reportsAt, if_pos hleave, reportsFrom,
    List.append_nil, hentered]

end

/-! ## Documents -/

theorem isNode_of_hasType {n : Json} {type : String} (h : Tree.hasType n type = true) :
    Tree.isNode n = true := by
  rw [Tree.hasType, beq_iff_eq] at h
  rw [Tree.isNode, h]
  rfl

section Host

variable [Host]

/-- A document that is accepted is a program. -/
theorem hasType_of_ofText {text : String} {path : Path} {program : Json}
    (h : Program.ofText text path = .ok program) : Tree.hasType program "Program" = true := by
  obtain ⟨-, -, hprogram⟩ := Program.ofText_eq_ok_iff.mp h
  rw [Program.isProgram, Bool.and_eq_true] at hprogram
  exact hprogram.1

/-- A document that decodes to a program is accepted. -/
theorem ofText_eq_ok {text : String} {program : Json}
    (hread : (Json.readDocument text.toList).toOption = some program)
    (hfits : Host.overflow? (.decode 0 text.toList) = none)
    (hprogram : Program.isProgram program = true) (path : Path) :
    Program.ofText text path = .ok program := by
  refine Program.ofText_eq_ok_iff.mpr ⟨checkStack_eq_ok_iff.mpr hfits, ?_, hprogram⟩
  rw [Json.decode]
  cases hdocument : Json.readDocument text.toList with
  | error fault =>
      rw [hdocument] at hread
      cases hread
  | ok v =>
      rw [hdocument] at hread
      cases hread
      rfl

end Host

/-! ## The verdict -/

/-- A module whose reads are not reported: it has the client directive, or it is
    dynamic by an export anywhere in it. -/
def Exempt (program : Json) : Prop :=
  isClientDirective program = true ∨ ∃ n ∈ Tree.nodes program, marksDynamic n = true

/-- Without inner programs the state after all nodes says whether the module is
    exempt. -/
theorem client_or_dynamic_iff {program : Json} (hprogram : Tree.hasType program "Program" = true)
    (hinner : ∀ n ∈ (Tree.nodes program).tail, callsExit n = false) (o : RuleOptions) (path : Path) :
    ((stateOf o path (Tree.nodes program)).client || (stateOf o path (Tree.nodes program)).dynamic)
      = true ↔ Exempt program := by
  have hbelow : (Tree.nodes program).tail.any marksClient = false := by
    rw [List.any_eq_false]
    intro n hn
    have htype := hinner n hn
    rw [callsExit, Bool.or_eq_false_iff] at htype
    rw [marksClient, htype.1]
    exact Bool.noConfusion
  have hclient : (Tree.nodes program).any marksClient = isClientDirective program := by
    rw [Tree.nodes_eq, List.tail_cons] at hbelow
    rw [Tree.nodes_eq, List.any_cons, hbelow, Bool.or_false, marksClient, hprogram, Bool.true_and]
  rw [Bool.or_eq_true, Exempt]
  show (Tree.nodes program).any marksClient = true ∨ (Tree.nodes program).any marksDynamic = true ↔ _
  rw [hclient, List.any_eq_true]

/-- Where nothing is bound nothing is offending. -/
theorem offending_of_unbound {o : RuleOptions} {nodes : List Json}
    (h : ∀ k name, ¬FirstBinding o.envSource nodes k name) (path : Path) :
    (stateOf o path nodes).offending = [] := by
  have hfind : nodes.findSome? (binding o.envSource) = none := by
    rw [Option.eq_none_iff_forall_ne_some]
    intro name hname
    obtain ⟨k, hk⟩ := findSome?_binding.mp hname
    exact h k name hk
  have hsites : (stateOf o path nodes).sites = [] := by
    rw [stateOf, reads_eq_nil hfind]
    rfl
  rw [State.offending, State.privateSites, hsites, List.filter_nil, ite_self]

/-- **The verdict on a program.**  The rule runs over a tree whose only program is its
    root.  The run fails with the failure of the first node that cannot be taken in, and
    for no other reason.  If there is none, the reads after the first import of the
    accessor, on the name that it binds, all make sites, and the server-only ones are
    reported in the order of their places; nothing is reported if nothing is bound or
    the module is exempt. -/
theorem lint_verdict [Host] {fields : List (String × Json)} {o : RuleOptions}
    (hoptions : readOptions (.obj fields) = .ok o) (severity : Severity) (path : Path)
    {program : Json} (hprogram : Tree.hasType program "Program" = true)
    (hinner : ∀ n ∈ (Tree.nodes program).tail,
      Tree.hasType n "Program" = false ∧ Tree.hasType n "Program:exit" = false) :
    ∃ l, Linter.ofConfig ⟨[(ruleId, ⟨severity, fields⟩)]⟩ = .ok l ∧
      (∀ failure, l.lint program path = .error failure ↔
        ∃ i, FaultAt o path (Tree.nodes program) i failure ∧
          ∀ j < i, ∀ other, ¬FaultAt o path (Tree.nodes program) j other) ∧
      ((∀ i failure, ¬FaultAt o path (Tree.nodes program) i failure) →
        ((∀ k name, ¬FirstBinding o.envSource (Tree.nodes program) k name) ∨ Exempt program →
          l.lint program path = .ok ⟨path, []⟩) ∧
        ∀ k name, FirstBinding o.envSource (Tree.nodes program) k name → ¬Exempt program →
          ∃ sites, (((Tree.nodes program).drop (k + 1)).filterMap (readOn name)).mapM
              (siteOf o path) = .ok sites ∧
            l.lint program path = .ok ⟨path,
              ((sites.filter (·.isPrivate)).map (diagnosticOf severity)).mergeSort
                Diagnostic.le⟩) := by
  have hcalls : ∀ n ∈ (Tree.nodes program).tail, callsExit n = false := by
    intro n hn
    obtain ⟨htype, hexit⟩ := hinner n hn
    rw [callsExit, htype, hexit, Bool.or_false]
  have hnode := isNode_of_hasType hprogram
  refine ⟨_, ofConfig_eq_ok hoptions severity, ?_⟩
  have hlint := lint_eq (l := ⟨⟨[(ruleId, ⟨severity, fields⟩)]⟩, [⟨o, severity⟩]⟩) rfl hnode path
  rw [reportsFrom_events hprogram hcalls] at hlint
  rw [hlint]
  have hexempt := client_or_dynamic_iff hprogram hcalls o path
  refine ⟨?_, ?_⟩
  · intro failure
    rw [← firstFault_eq_some_iff]
    cases firstFault o path [] (Tree.nodes program) with
    | some other => simp
    | none => simp
  · intro hnone
    rw [firstFault_eq_none_iff.mpr hnone]
    refine ⟨?_, ?_⟩
    · intro h
      -- nothing is offending: either there are no sites, or the module is exempt
      have hnil : (stateOf o path (Tree.nodes program)).offending = [] := by
        rcases h with hunbound | h
        · exact offending_of_unbound hunbound path
        · rw [State.offending, if_pos (hexempt.mpr h)]
      show Except.ok (FileResult.mk path (((stateOf o path (Tree.nodes program)).offending.map
        (diagnosticOf severity)).mergeSort Diagnostic.le)) = _
      rw [hnil, List.map_nil, List.mergeSort_nil]
    · intro k name hfirst hreported
      refine ⟨_, mapM_siteOf_eq_ok hfirst hnone, ?_⟩
      have hoffending : (stateOf o path (Tree.nodes program)).offending
          = (stateOf o path (Tree.nodes program)).sites.filter (·.isPrivate) := by
        rw [State.offending, if_neg (fun h => hreported (hexempt.mp h)), State.privateSites]
      show Except.ok (FileResult.mk path (((stateOf o path (Tree.nodes program)).offending.map
        (diagnosticOf severity)).mergeSort Diagnostic.le)) = _
      rw [hoffending]

/-- A property with the name of a secret, on a line. -/
def secretAt (line : Int) : Json :=
  .obj [("type", .str "Identifier"), ("name", .str "SECRET"),
    ("loc", .obj [("start", .obj [("line", .int line), ("column", .int 4)])])]

/-- A read of that secret on the accessor. -/
def secretRead (line : Int) : Json :=
  .obj [("type", .str "MemberExpression"),
    ("object", .obj [("type", .str "Identifier"), ("name", .str "env")]),
    ("property", secretAt line)]

/-- An import of the accessor. -/
def accessorImport : Json :=
  .obj [("type", .str "ImportDeclaration"),
    ("source", .obj [("type", .str "Literal"), ("value", .str "@/env")]),
    ("specifiers", .arr [.obj [("type", .str "ImportSpecifier"),
      ("local", .obj [("type", .str "Identifier"), ("name", .str "env")])]])]

/-- The start of a document with that import and that read, up to the read. -/
def secretText (line : String) : List String :=
  ["\x7b\"type\":\"Program\",\"body\":[", "\x7b\"type\":\"ImportDeclaration\",",
    "\"source\":\x7b\"type\":\"Literal\",", "\"value\":\"@/env\"\x7d,", "\"specifiers\":[",
    "\x7b\"type\":\"ImportSpecifier\",", "\"local\":\x7b\"type\":\"Identifier\",",
    "\"name\":\"env\"\x7d\x7d]\x7d,", "\x7b\"type\":\"MemberExpression\",",
    "\"object\":\x7b\"type\":\"Identifier\",", "\"name\":\"env\"\x7d,",
    "\"property\":\x7b\"type\":\"Identifier\",", "\"name\":\"SECRET\",\"loc\":\x7b",
    "\"start\":\x7b\"line\":", line, ",\"column\":4\x7d\x7d\x7d\x7d"]

/-- A module that imports the accessor and reads a secret on it. -/
def secretModule : Json :=
  .obj [("type", .str "Program"), ("body", .arr [accessorImport, secretRead 2])]

section Standard

attribute [local instance] Host.standard

/-- The secret is reported. -/
theorem lint_verdict_secretModule :
    ∃ l, Linter.ofConfig ⟨[(ruleId, ⟨.error, []⟩)]⟩ = .ok l ∧
      l.lint secretModule Path.here = .ok ⟨Path.here, [diagnosticOf .error
        ⟨"SECRET", ⟨Path.here, .number 2, .number 4, none, none⟩, true⟩]⟩ := by
  have hread : ((readOptions (.obj [])).toOption.map fun o =>
      (o.envSource, (firstFault o Path.here [] (Tree.nodes secretModule)).isNone,
        ([secretAt 2].mapM (siteOf o Path.here)).toOption)) = some (defaultEnvSource, true,
          some [⟨"SECRET", ⟨Path.here, .number 2, .number 4, none, none⟩, true⟩]) := by
    decide +kernel
  obtain ⟨o, hoptions, hknown⟩ := exists_eq_ok_of_map hread
  simp only [Prod.mk.injEq, Option.isNone_iff_eq_none] at hknown
  obtain ⟨hsource, hnone, hsites⟩ := hknown
  obtain ⟨l, hl, -, hverdict⟩ := lint_verdict hoptions .error Path.here
    (show Tree.hasType secretModule "Program" = true by decide +kernel)
    (by decide +kernel)
  obtain ⟨-, hreported⟩ := hverdict (firstFault_eq_none_iff.mp hnone)
  have hbinding : (Tree.nodes secretModule).findSome? (binding o.envSource) = some "env" := by
    rw [hsource]
    decide +kernel
  have hreads : reads o.envSource (Tree.nodes secretModule) = [secretAt 2] := by
    rw [hsource]
    decide +kernel
  have hexempt : ¬Exempt secretModule := by
    rw [Exempt]
    decide +kernel
  obtain ⟨k, hk⟩ := findSome?_binding.mp hbinding
  obtain ⟨sites, hok, hlint⟩ := hreported k "env" hk hexempt
  rw [← reads_eq_drop hk, hreads] at hok
  rw [hok] at hsites
  cases hsites
  rw [List.filter_cons_of_pos rfl, List.filter_nil, List.map_singleton,
    List.mergeSort_singleton] at hlint
  exact ⟨l, hl, hlint⟩

/-- The text of that module. -/
def secretModuleText : String := String.join (secretText "2" ++ ["]\x7d"])

theorem ofText_secretModule (path : Path) :
    Program.ofText secretModuleText path = .ok secretModule := by
  have hread : (Json.readDocument secretModuleText.toList).toOption = some secretModule := by
    rw [secretModuleText, String.toList_join]
    decide +kernel
  exact ofText_eq_ok hread rfl (by decide +kernel) path

/-- The report of the secret, in a file of that path. -/
def secretReport (path : Path) : Diagnostic :=
  diagnosticOf .error ⟨"SECRET", ⟨path, .number 2, .number 4, none, none⟩, true⟩

/-- The rule finds the secret in that module if nothing is set. -/
theorem lint_secretModule :
    ∃ o, readOptions (.obj []) = .ok o ∧ ∀ l : Linter, l.rules = [⟨o, .error⟩] →
      l.lint secretModule (.ofString "page.json")
        = .ok ⟨.ofString "page.json", [secretReport (.ofString "page.json")]⟩ := by
  have hknown : ((readOptions (.obj [])).toOption.map fun o =>
      (firstFault o (.ofString "page.json") [] (Tree.nodes secretModule),
        reportsFrom o .error (.ofString "page.json") [] (Tree.events secretModule)))
          = some (none, [secretReport (.ofString "page.json")]) := by
    decide +kernel
  obtain ⟨o, hoptions, hrun⟩ := exists_eq_ok_of_map hknown
  obtain ⟨hfault, hreports⟩ := Prod.mk.inj hrun
  refine ⟨o, hoptions, ?_⟩
  intro l hrules
  rw [lint_eq hrules (by decide +kernel), hfault, hreports, List.mergeSort_singleton]

end Standard

end EnvLint.Env
