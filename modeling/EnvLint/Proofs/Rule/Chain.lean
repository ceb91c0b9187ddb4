import EnvLint.Proofs.Rule.Edited
import EnvLint.Proofs.Rule.History
import Mathlib.Data.List.Induction

/-! # Chains of changes to a configuration

    A change that is refused leaves the last good configuration in force.  After
    any chain of changes a rule has the setting that was written last.  The order
    of the rules, which is visible, depends on the whole history: a rule stands
    where it was last enabled, so that replacing its setting keeps its place, and
    disabling it gives the place up.

    The rules that a configuration starts with count as set first, in their order
    (`history`).  The argument is one induction on that history, with `next_cases`
    for all that a change can do. -/

namespace EnvLint

/-! ## Names in order -/

section Names

variable {α : Type} {items : List (String × α)} {name : String} {value : α}

/-- A new name is assigned at the end. -/
theorem assign_of_not_mem (h : name ∉ items.map Prod.fst) :
    assign items name value = items ++ [(name, value)] := by
  induction items with
  | nil => rfl
  | cons item rest ih =>
      rw [List.map_cons, List.mem_cons, not_or] at h
      rw [assign_cons, if_neg (Ne.symm h.1), ih h.2]
      rfl

/-- A name that is assigned again keeps its place. -/
theorem map_fst_assign_of_mem (h : name ∈ items.map Prod.fst) :
    (assign items name value).map Prod.fst = items.map Prod.fst := by
  induction items with
  | nil => cases h
  | cons item rest ih =>
      rw [assign_cons]
      by_cases hname : item.1 = name
      · rw [if_pos hname, List.map_cons, List.map_cons, hname]
      · rw [if_neg hname, List.map_cons, List.map_cons, ih]
        exact (List.mem_cons.mp h).resolve_left (Ne.symm hname)

theorem map_fst_filter_ne :
    (items.filter fun item => item.1 != name).map Prod.fst
      = (items.map Prod.fst).filter (· != name) := by
  rw [List.filter_map]
  rfl

/-- Taking a name out takes its value and no other. -/
theorem valueOf_filter_ne (other : String) :
    valueOf (items.filter fun item => item.1 != name) other
      = if name = other then none else valueOf items other := by
  by_cases h : name = other
  · rw [if_pos h, valueOf_eq_none_iff, map_fst_filter_ne, h]
    simp
  · rw [if_neg h]
    induction items with
    | nil => rfl
    | cons item rest ih =>
        by_cases hname : item.1 = name
        · rw [List.filter_cons_of_neg (by simp [hname]), ih, valueOf_cons, if_neg]
          rw [hname]
          exact h
        · rw [List.filter_cons_of_pos (by simp [hname]), valueOf_cons, valueOf_cons, ih]

end Names

/-! ## Changes -/

namespace Config

/-- The configuration after a change; a refused one leaves it as it was. -/
def next (c : Config) (step : RuleStep) : Config :=
  match c.withRule step.1 step.2 with
  | .ok d => d
  | .error _ => c

/-- The configuration after changes, each made to the last one that was built. -/
def chain (c : Config) (steps : List RuleStep) : Config := steps.foldl next c

/-- Names of the rules, in order. -/
def names (c : Config) : List String := c.rules.map Prod.fst

/-- Changes are made one after the other, so a chain may be cut anywhere. -/
theorem chain_append (c : Config) (steps more : List RuleStep) :
    c.chain (steps ++ more) = (c.chain steps).chain more :=
  List.foldl_append

theorem chain_concat (c : Config) (steps : List RuleStep) (step : RuleStep) :
    c.chain (steps ++ [step]) = (c.chain steps).next step :=
  chain_append c steps [step]

/-- **All that a change can do**: it is refused, it disables a rule, or it sets one. -/
theorem next_cases (c : Config) (step : RuleStep) :
    ((∀ id o, ¬Writes step id o) ∧ (∃ e, Refuses step e ∧ c.withRule step.1 step.2 = .error e) ∧
        c.next step = c) ∨
      (∃ id, Writes step id none ∧ c.withRule step.1 step.2 = .ok (c.next step) ∧
        (c.next step).rules = c.rules.filter fun r => r.1 != id) ∨
      ∃ id s, Writes step id (some s) ∧ c.withRule step.1 step.2 = .ok (c.next step) ∧
        (c.next step).rules = assign c.rules id s := by
  obtain ⟨id, given⟩ := step
  cases given with
  | none => exact .inr (.inl ⟨id, .off, rfl, rfl⟩)
  | some given =>
      -- a rule without a name is refused before its setting is looked at
      by_cases hid : id = ""
      · subst hid
        have herror : c.withRule "" (some given) = .error (.misuse .noConfiguredRule) := by
          unfold withRule
          exact if_pos rfl
        refine .inl ⟨?_, ⟨_, .unnamed, herror⟩, ?_⟩
        · intro id o h
          cases h with
          | set hid => exact hid rfl
        · rw [next, herror]
      · cases given with
        | other v =>
            have herror : c.withRule id (some (.other v)) = .error (.misuse (.notSetting id)) := by
              rw [withRule, if_neg hid]
            refine .inl ⟨?_, ⟨_, .unset hid, herror⟩, ?_⟩
            · intro other o h
              cases h
            · rw [next, herror]
        | good s =>
            have hok : c.withRule id (some (.good s)) = .ok ⟨assign c.rules id s⟩ := by
              rw [withRule, if_neg hid, insert_eq_assign]
            have hnext : c.next (id, some (.good s)) = ⟨assign c.rules id s⟩ := by
              rw [next, hok]
            refine .inr (.inr ⟨id, s, .set hid, ?_, ?_⟩)
            · rw [hnext]
              exact hok
            · rw [hnext]

end Config

/-! ## The order of the rules -/

/-- A change keeps the order. -/
theorem InOrder.next {steps : List RuleStep} {c : Config} (h : InOrder steps c.names)
    (step : RuleStep) :
    InOrder (steps ++ [step]) (c.next step).names := by
  rcases c.next_cases step with ⟨hnone, -, heq⟩ | ⟨id, hwrites, -, hrules⟩ |
    ⟨id, s, hwrites, -, hrules⟩
  · rw [heq]
    exact h.of_times fun id n => enabledSince_concat_of_other (hnone id)
  · rw [Config.names, hrules, map_fst_filter_ne]
    exact h.off hwrites
  · rw [Config.names, hrules]
    by_cases hmem : id ∈ c.names
    · rw [map_fst_assign_of_mem hmem]
      exact h.replaced hwrites hmem
    · rw [assign_of_not_mem hmem, List.map_append]
      exact h.new hwrites hmem

/-- The rules of a chain that starts with none stand in the order of the times since when
    they are enabled. -/
theorem inOrder_chain (steps : List RuleStep) : InOrder steps (Config.chain ⟨[]⟩ steps).names := by
  induction steps using List.reverseRecOn with
  | nil =>
      refine ⟨?_, List.Pairwise.nil⟩
      intro id
      refine iff_of_false List.not_mem_nil ?_
      rintro ⟨n, hn⟩
      obtain ⟨s, hset⟩ := hn.sets
      exact absurd hset.lt_length (Nat.not_lt_zero n)
  | append_singleton steps step ih =>
      rw [Config.chain_concat]
      exact ih.next step

/-! ## Settings -/

section Settings

variable {c : Config} {step : RuleStep} {id : String}

/-- A change gives its rule the setting that it writes. -/
theorem get?_next_of_writes {o : Option Setting} (h : Writes step id o) :
    (c.next step).get? id = o := by
  rw [Config.get?_eq_valueOf]
  rcases c.next_cases step with ⟨hnone, -, -⟩ | ⟨other, hwrites, -, hrules⟩ |
    ⟨other, s, hwrites, -, hrules⟩
  · exact absurd h (hnone id o)
  · obtain ⟨rfl, rfl⟩ := hwrites.unique h
    rw [hrules, valueOf_filter_ne, if_pos rfl]
  · obtain ⟨rfl, rfl⟩ := hwrites.unique h
    rw [hrules, valueOf_assign, if_pos rfl]

/-- A change to something else leaves the setting of a rule. -/
theorem get?_next_of_other (h : ∀ o, ¬Writes step id o) : (c.next step).get? id = c.get? id := by
  rw [Config.get?_eq_valueOf, Config.get?_eq_valueOf]
  rcases c.next_cases step with ⟨-, -, heq⟩ | ⟨other, hwrites, -, hrules⟩ |
    ⟨other, s, hwrites, -, hrules⟩
  · rw [heq]
  · rw [hrules, valueOf_filter_ne, if_neg]
    rintro rfl
    exact h none hwrites
  · rw [hrules, valueOf_assign, if_neg]
    rintro rfl
    exact h (some s) hwrites

/-- A rule has the setting that was written last. -/
theorem get?_chain_of_writesAt {steps : List RuleStep} {n : Nat} {o : Option Setting}
    (hlast : WritesAt steps n id o) (hrest : ∀ m, n < m → ∀ p, ¬WritesAt steps m id p) :
    (c.chain steps).get? id = o := by
  induction steps using List.reverseRecOn with
  | nil => exact absurd hlast.lt_length (Nat.not_lt_zero n)
  | append_singleton steps step ih =>
      rw [Config.chain_concat]
      rcases writesAt_concat.mp hlast with hold | ⟨-, hwrites⟩
      · -- the last change writes to another rule
        rw [get?_next_of_other fun p hp =>
          hrest steps.length hold.lt_length p (writesAt_concat.mpr (.inr ⟨rfl, hp⟩))]
        exact ih hold fun m hm p hp => hrest m hm p (writesAt_concat.mpr (.inl hp))
      · exact get?_next_of_writes hwrites

/-- A rule that nothing was written to has the setting that it had. -/
theorem get?_chain_of_other {steps : List RuleStep} (h : ∀ n o, ¬WritesAt steps n id o) :
    (c.chain steps).get? id = c.get? id := by
  induction steps using List.reverseRecOn with
  | nil => rfl
  | append_singleton steps step ih =>
      rw [Config.chain_concat, get?_next_of_other fun o ho =>
        h steps.length o (writesAt_concat.mpr (.inr ⟨rfl, ho⟩))]
      exact ih fun n o hn => h n o (writesAt_concat.mpr (.inl hn))

end Settings

/-! ## Configurations that can be made -/

namespace Config

/-- A configuration whose rules have names, each its own. -/
structure Named (c : Config) : Prop where
  ne_empty : ∀ id ∈ c.names, id ≠ ""
  nodup : c.names.Nodup

theorem Named.fst_ne_empty {c : Config} (h : c.Named) : ∀ r ∈ c.rules, r.1 ≠ "" :=
  fun r hr => h.ne_empty r.1 (List.mem_map.mpr ⟨r, hr, rfl⟩)

/-- The rules of a configuration, as parts to make it from. -/
def parts (rules : List (String × Setting)) : List (String × Given Setting) :=
  rules.map fun r => (r.1, .good r.2)

/-- A configuration that can be made has the parts that it was made of, and all of them have
    names. -/
theorem parts_eq_of_make {given : List (String × Given Setting)} {c : Config}
    (h : make given = .ok c) : given = parts c.rules ∧ ∀ id ∈ c.names, id ≠ "" := by
  induction given generalizing c with
  | nil =>
      cases h
      exact ⟨rfl, List.forall_mem_nil _⟩
  | cons item rest ih =>
      obtain ⟨id, s⟩ := item
      rw [make.eq_def] at h
      dsimp only at h
      by_cases hid : id = ""
      · rw [if_pos hid] at h
        cases h
      · rw [if_neg hid] at h
        cases s with
        | other v => cases h
        | good s =>
            obtain ⟨d, hd, hmade⟩ := bind_eq_ok_iff.mp h
            cases hmade
            obtain ⟨rfl, hnames⟩ := ih hd
            exact ⟨rfl, List.forall_mem_cons.mpr ⟨hid, hnames⟩⟩

/-- A configuration made of parts with distinct names is well named. -/
theorem named_of_make {given : List (String × Given Setting)} {c : Config}
    (hnames : (given.map Prod.fst).Nodup) (h : make given = .ok c) : c.Named := by
  obtain ⟨rfl, hne⟩ := parts_eq_of_make h
  refine ⟨hne, ?_⟩
  rwa [parts, List.map_map] at hnames

/-- Rules with names are made into a configuration. -/
theorem make_parts {rules : List (String × Setting)} (h : ∀ r ∈ rules, r.1 ≠ "") :
    make (parts rules) = .ok ⟨rules⟩ := by
  induction rules with
  | nil => rfl
  | cons r rules ih =>
      rw [List.forall_mem_cons] at h
      show make ((r.1, .good r.2) :: parts rules) = _
      rw [make, if_neg h.1, ih h.2]
      rfl

/-- The parts of a configuration after a change: a rule is taken out, or set in its
    place or at the end, to whatever is given. -/
def changed (c : Config) (step : RuleStep) : List (String × Given Setting) :=
  match step.2 with
  | none => (parts c.rules).filter fun r => r.1 != step.1
  | some s => assign (parts c.rules) step.1 s

/-- Assigning to the rules assigns to the parts that they are made of. -/
theorem parts_assign (rules : List (String × Setting)) (id : String) (s : Setting) :
    assign (parts rules) id (.good s) = parts (assign rules id s) := by
  induction rules with
  | nil => rfl
  | cons r rules ih =>
      show assign ((r.1, .good r.2) :: parts rules) id (.good s) = _
      rw [assign_cons, assign_cons, ih]
      by_cases hid : r.1 = id
      · rw [if_pos hid, if_pos hid]
        rfl
      · rw [if_neg hid, if_neg hid]
        rfl

/-- One part that is refused is the only reason why rules with names are not made into a
    configuration. -/
theorem make_assign_of_refused {rules : List (String × Setting)} (h : ∀ r ∈ rules, r.1 ≠ "")
    {id : String} {given : Given Setting} {e : Failure}
    (hrefused : ∀ rest, make ((id, given) :: rest) = .error e) :
    make (assign (parts rules) id given) = .error e := by
  induction rules with
  | nil => exact hrefused []
  | cons r rules ih =>
      rw [List.forall_mem_cons] at h
      show make (assign ((r.1, .good r.2) :: parts rules) id given) = _
      rw [assign_cons]
      by_cases hid : r.1 = id
      · rw [if_pos hid]
        exact hrefused _
      -- the parts before the refused one pass their checks
      · rw [if_neg hid, make, if_neg h.1, ih h.2]
        rfl

/-- A change is the configuration made anew from the changed parts. -/
theorem withRule_eq_make {c : Config} (h : ∀ r ∈ c.rules, r.1 ≠ "") (step : RuleStep) :
    c.withRule step.1 step.2 = make (c.changed step) := by
  obtain ⟨id, given⟩ := step
  cases given with
  | none =>
      have hfilter : (parts c.rules).filter (fun r => r.1 != id)
          = parts (c.rules.filter fun r => r.1 != id) := by
        rw [parts, List.filter_map]
        rfl
      show _ = make ((parts c.rules).filter fun r => r.1 != id)
      rw [hfilter, make_parts fun r hr => h r (List.mem_of_mem_filter hr)]
      rfl
  | some given =>
      show _ = make (assign (parts c.rules) id given)
      by_cases hid : id = ""
      · have hrefused : ∀ rest, make ((id, given) :: rest) = .error (.misuse .noConfiguredRule) := by
          intro rest
          unfold make
          exact if_pos hid
        rw [make_assign_of_refused h hrefused]
        unfold withRule
        exact if_pos hid
      · cases given with
        | other v =>
            have hrefused : ∀ rest, make ((id, .other v) :: rest)
                = .error (.misuse (.notSetting id)) := by
              intro rest
              rw [make, if_neg hid]
            rw [make_assign_of_refused h hrefused, withRule, if_neg hid]
        | good s =>
            -- all parts are good, the new one included, so they make the assigned rules
            have hrules : ∀ r ∈ assign c.rules id s, r.1 ≠ "" := by
              intro r hr
              rcases mem_assign hr with rfl | hold
              · exact hid
              · exact h r hold
            rw [parts_assign, make_parts hrules, withRule, if_neg hid, insert_eq_assign]

/-- A change keeps the names. -/
theorem Named.next {c : Config} (h : c.Named) (step : RuleStep) : (c.next step).Named := by
  rcases c.next_cases step with ⟨-, -, heq⟩ | ⟨id, -, -, hrules⟩ | ⟨id, s, hwrites, -, hrules⟩
  · rw [heq]
    exact h
  · have hnames : (c.next step).names = c.names.filter (· != id) := by
      rw [names, hrules, map_fst_filter_ne]
      rfl
    refine ⟨?_, ?_⟩
    · rw [hnames]
      exact fun other hother => h.ne_empty other (List.mem_of_mem_filter hother)
    · rw [hnames]
      exact h.nodup.filter _
  · refine ⟨?_, ?_⟩
    · rw [names, hrules]
      intro other hother
      obtain ⟨r, hr, rfl⟩ := List.mem_map.mp hother
      rcases mem_assign hr with rfl | hold
      · cases hwrites with
        | set hid => exact hid
      · exact h.fst_ne_empty r hold
    · rw [names, hrules]
      exact nodup_assign h.nodup id s

/-- Changes to a well named configuration give well named ones. -/
theorem Named.chain {c : Config} (h : c.Named) (steps : List RuleStep) : (c.chain steps).Named := by
  induction steps using List.reverseRecOn with
  | nil => exact h
  | append_singleton steps step ih =>
      rw [chain_concat]
      exact ih.next step

/-! ## Any chain -/

/-- Changes that set the rules of a configuration in their order. -/
def own (c : Config) : List RuleStep := c.rules.map fun r => (r.1, some (.good r.2))

/-- All that happened to a configuration: its own rules were set first, in their order,
    and then it was changed. -/
def history (c : Config) (steps : List RuleStep) : List RuleStep := c.own ++ steps

/-- A configuration comes from none by its own rules. -/
theorem chain_own {c : Config} (h : c.Named) : chain ⟨[]⟩ c.own = c := by
  obtain ⟨rules⟩ := c
  induction rules using List.reverseRecOn with
  | nil => rfl
  | append_singleton rules r ih =>
      have hnames : names ⟨rules ++ [r]⟩ = names ⟨rules⟩ ++ [r.1] := List.map_append
      have hne := h.ne_empty
      have hnodup := h.nodup
      rw [hnames] at hne hnodup
      have hrules : Named ⟨rules⟩ :=
        ⟨fun id hid => hne id (List.mem_append_left _ hid), hnodup.of_append_left⟩
      have hid : r.1 ≠ "" := hne r.1 (List.mem_append_right _ List.mem_cons_self)
      have hnew : r.1 ∉ names ⟨rules⟩ := fun hmem =>
        List.disjoint_of_nodup_append hnodup hmem List.mem_cons_self
      have hown : own ⟨rules ++ [r]⟩ = own ⟨rules⟩ ++ [(r.1, some (.good r.2))] := List.map_append
      -- the last rule is new to those before it, so setting it puts it at the end
      rw [hown, chain_concat, ih hrules, next, withRule, if_neg hid, insert_eq_assign,
        assign_of_not_mem hnew]

/-- A chain of changes to a well named configuration is one that starts with no rules: those
    that were there count as set first. -/
theorem chain_eq_history {c : Config} (h : c.Named) (steps : List RuleStep) :
    c.chain steps = chain ⟨[]⟩ (c.history steps) := by
  rw [history, chain_append, chain_own h]

/-- What a configuration holds after changes. -/
structure ChainLaw (c : Config) (steps : List RuleStep) (final : Config) : Prop where
  /-- A rule has the setting that was written last, -/
  last : ∀ id n o, WritesAt steps n id o → (∀ m, n < m → ∀ p, ¬WritesAt steps m id p) →
    final.get? id = o
  /-- or the one that it had. -/
  kept : ∀ id, (∀ n o, ¬WritesAt steps n id o) → final.get? id = c.get? id
  named : final.Named
  /-- It can be made from its parts. -/
  made : make (parts final.rules) = .ok final
  /-- Its rules are those that are enabled, each since one time, and stand in the order of
      these times. -/
  since : ∀ id, id ∈ final.names ↔ ∃! n, EnabledSince (c.history steps) id n
  ordered : final.names.Pairwise fun a b =>
    ∀ m n, EnabledSince (c.history steps) a m → EnabledSince (c.history steps) b n → m < n

/-- What a change does to a configuration. -/
structure StepLaw (c : Config) (step : RuleStep) (d : Config) : Prop where
  /-- It is the configuration made anew from the changed parts. -/
  made : c.withRule step.1 step.2 = make (c.changed step)
  /-- It fails if it is refused, and as it is refused, -/
  refused : ∀ e, c.withRule step.1 step.2 = .error e ↔ Refuses step e
  /-- and then the configuration stays in force. -/
  outcome : (∃ e, c.withRule step.1 step.2 = .error e) ∧ d = c ∨ c.withRule step.1 step.2 = .ok d
  /-- A rule that is enabled keeps its place. -/
  replaced : ∀ id s, Writes step id (some s) → id ∈ c.names → d.names = c.names
  /-- One that is not goes to the end. -/
  enabled : ∀ id s, Writes step id (some s) → id ∉ c.names → d.names = c.names ++ [id]
  /-- One that is disabled gives its place up. -/
  disabled : ∀ id, Writes step id none → d.names = c.names.filter (· != id)

/-- A change fails just as it is refused. -/
theorem withRule_eq_error_iff (c : Config) (step : RuleStep) (e : Failure) :
    c.withRule step.1 step.2 = .error e ↔ Refuses step e := by
  rcases c.next_cases step with ⟨-, ⟨e', hrefuses, herror⟩, -⟩ | ⟨id, hwrites, hok, -⟩ |
    ⟨id, s, hwrites, hok, -⟩
  · rw [herror]
    constructor
    · intro h
      cases h
      exact hrefuses
    · intro h
      rw [h.unique hrefuses]
  · rw [hok]
    exact iff_of_false nofun hwrites.not_refuses
  · rw [hok]
    exact iff_of_false nofun hwrites.not_refuses

/-- The law holds of every change to a well named configuration. -/
theorem stepLaw {c : Config} (h : c.Named) (step : RuleStep) : StepLaw c step (c.next step) := by
  have hmade : c.withRule step.1 step.2 = make (c.changed step) :=
    withRule_eq_make h.fst_ne_empty step
  have hrefused := c.withRule_eq_error_iff step
  rcases c.next_cases step with ⟨hnone, ⟨e, -, herror⟩, heq⟩ | ⟨id, hwrites, hok, hrules⟩ |
    ⟨id, s, hwrites, hok, hrules⟩
  · -- a change that is refused writes nothing
    exact {
      made := hmade
      refused := hrefused
      outcome := .inl ⟨⟨e, herror⟩, heq⟩
      replaced := fun id s hset => absurd hset (hnone id (some s))
      enabled := fun id s hset => absurd hset (hnone id (some s))
      disabled := fun id hoff => absurd hoff (hnone id none) }
  · refine ⟨hmade, hrefused, .inr hok, ?_, ?_, ?_⟩
    · intro other s hset
      cases (hwrites.unique hset).2
    · intro other s hset
      cases (hwrites.unique hset).2
    · intro other hoff
      obtain ⟨rfl, -⟩ := hwrites.unique hoff
      rw [names, hrules, map_fst_filter_ne]
      rfl
  · refine ⟨hmade, hrefused, .inr hok, ?_, ?_, ?_⟩
    · intro other t hset hmem
      obtain ⟨rfl, -⟩ := hwrites.unique hset
      rw [names, hrules]
      exact map_fst_assign_of_mem hmem
    · intro other t hset hnew
      obtain ⟨rfl, -⟩ := hwrites.unique hset
      rw [names, hrules, assign_of_not_mem hnew, List.map_append]
      rfl
    · intro other hoff
      cases (hwrites.unique hoff).2

theorem chainLaw {c : Config} (h : c.Named) (steps : List RuleStep) :
    ChainLaw c steps (c.chain steps) := by
  have hnamed : (c.chain steps).Named := h.chain steps
  have horder : InOrder (c.history steps) (c.chain steps).names := by
    rw [chain_eq_history h]
    exact inOrder_chain _
  refine {
    last := fun id n o hlast hrest => get?_chain_of_writesAt hlast hrest
    kept := fun id hnone => get?_chain_of_other hnone
    named := hnamed
    made := make_parts hnamed.fst_ne_empty
    since := ?_
    ordered := horder.ordered }
  intro id
  rw [horder.enabled]
  constructor
  · rintro ⟨n, hn⟩
    exact ⟨n, hn, fun m hm => hm.unique hn⟩
  · exact ExistsUnique.exists

/-- A rule that is disabled and enabled again goes to the end. -/
theorem names_chain_anew {c : Config} (h : c.Named) {id : String} (hid : id ≠ "") (s : Setting) :
    (c.chain [(id, none), (id, some (.good s))]).names = c.names.filter (· != id) ++ [id] := by
  show ((c.next (id, none)).next (id, some (.good s))).names = _
  have hoff : (c.next (id, none)).names = c.names.filter (· != id) :=
    (stepLaw h (id, none)).disabled id .off
  rw [(stepLaw (h.next (id, none)) _).enabled id s (.set hid), hoff]
  rw [hoff, List.mem_filter]
  rintro ⟨-, hne⟩
  exact bne_iff_ne.mp hne rfl

/-- **A chain of changes is an ordered map in which the last write wins**: after any
    changes, refused ones included, every rule has the setting that was written last, and
    the rules stand in the order in which they were last enabled.  The next change is
    refused for its own parts alone, and then all stays as it is; a rule that is disabled
    and enabled again goes to the end. -/
theorem chain_lawful {given : List (String × Given Setting)}
    (hnames : (given.map Prod.fst).Nodup) {c : Config} (hmake : make given = .ok c)
    (steps : List RuleStep) :
    ChainLaw c steps (c.chain steps) ∧
      (∀ step, StepLaw (c.chain steps) step (c.chain (steps ++ [step]))) ∧
      ∀ id s, id ≠ "" →
        (c.chain (steps ++ [(id, none), (id, some (.good s))])).names
          = (c.chain steps).names.filter (· != id) ++ [id] := by
  have hnamed : (c.chain steps).Named := (named_of_make hnames hmake).chain steps
  refine ⟨chainLaw (named_of_make hnames hmake) steps, ?_, ?_⟩
  · intro step
    rw [chain_concat]
    exact stepLaw hnamed step
  · intro id s hid
    rw [chain_append]
    exact names_chain_anew hnamed hid s

/-- Rules `a` and `b`, as errors. -/
def twoRules : List (String × Given Setting) :=
  [("a", .good .standard), ("b", .good .standard)]

/-- Replaces `b`, tries to set a rule without a name and `a` to a number, and disables `a`. -/
def mixedChanges : List RuleStep :=
  [("b", some (.good ⟨.warning, []⟩)), ("", some (.good .standard)), ("a", some (.other (.int 1))),
    ("a", none)]

/-- The refused changes do nothing, and a rule that is enabled anew follows the one that
    was replaced. -/
theorem chain_lawful_mixedChanges :
    (twoRules.map Prod.fst).Nodup ∧ ∃ c, make twoRules = .ok c ∧
      (c.chain mixedChanges).get? "a" = none ∧
      (c.chain mixedChanges).get? "b" = some ⟨.warning, []⟩ ∧
      (c.chain (mixedChanges ++ [("a", some (.good .standard))])).names = ["b", "a"] := by
  have hnames : (twoRules.map Prod.fst).Nodup := by decide
  have hmake : make twoRules = .ok ⟨[("a", .standard), ("b", .standard)]⟩ := rfl
  refine ⟨hnames, _, hmake, ?_⟩
  obtain ⟨hchain, hstep, -⟩ := chain_lawful hnames hmake mixedChanges
  have hoff : WritesAt mixedChanges 3 "a" none := ⟨_, rfl, .off⟩
  have hset : WritesAt mixedChanges 0 "b" (some ⟨.warning, []⟩) := ⟨_, rfl, .set (by decide)⟩
  refine ⟨hchain.last "a" 3 none hoff ?_, hchain.last "b" 0 _ hset ?_, ?_⟩
  · intro m hm p hp
    exact absurd hp.lt_length (Nat.not_lt.mpr hm)
  · rintro m hm p ⟨step, hat, hwrites⟩
    have hlater : step ∈ mixedChanges.drop 1 := by
      obtain ⟨k, rfl⟩ : ∃ k, m = 1 + k := ⟨m - 1, by omega⟩
      exact List.mem_of_getElem? (List.getElem?_drop.trans hat)
    cases hwrites with
    | set => simp [mixedChanges] at hlater
    | off => simp [mixedChanges] at hlater
  · have hnew : "a" ∉ names (chain ⟨[("a", .standard), ("b", .standard)]⟩ mixedChanges) := by decide
    rw [(hstep ("a", some (.good .standard))).enabled "a" .standard (.set (by decide)) hnew]
    rfl

end Config

end EnvLint
