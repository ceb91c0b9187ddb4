import EnvLint.Rule.Config
import Mathlib.Tactic.ByContra
import Mathlib.Tactic.Push

/-! # Histories of changes

    A configuration is changed rule by rule: a rule is set or disabled, or the
    change is refused for its own parts.  This file says in terms of the changes
    alone since when a rule is enabled (`EnabledSince`), and in which order rules
    stand that were enabled one after another (`InOrder`).

    One more change can do four things to the times: nothing, end one, leave the
    one that it writes to, or start one.  There is a lemma `enabledSince_concat_*`
    for each, and one of `InOrder` that rests on it. -/

namespace EnvLint

/-! ## Changes -/

/-- A change of one rule; none disables it. -/
abbrev RuleStep := String × Option (Given Setting)

/-- What a change that is not refused writes: the setting of a rule, or none if it is
    disabled. -/
inductive Writes : RuleStep → String → Option Setting → Prop where
  | set {id : String} {s : Setting} (hid : id ≠ "") : Writes (id, some (.good s)) id (some s)
  | off {id : String} : Writes (id, none) id none

/-- Why a change is refused: it sets a rule without a name, or to what is no setting. -/
inductive Refuses : RuleStep → Failure → Prop where
  | unnamed {s : Given Setting} : Refuses ("", some s) (.misuse .noConfiguredRule)
  | unset {id : String} {v : Json} (hid : id ≠ "") :
      Refuses (id, some (.other v)) (.misuse (.notSetting id))

/-- A change writes one rule at most, and one setting of it. -/
theorem Writes.unique {step : RuleStep} {id other : String} {o p : Option Setting}
    (h : Writes step id o) (h' : Writes step other p) : other = id ∧ p = o := by
  cases h with
  | set => cases h' with | set => exact ⟨rfl, rfl⟩
  | off => cases h' with | off => exact ⟨rfl, rfl⟩

theorem Writes.other {step : RuleStep} {id other : String} {o : Option Setting}
    (h : Writes step id o) (hne : other ≠ id) (p : Option Setting) : ¬Writes step other p :=
  fun h' => hne (h.unique h').1

/-- A change that writes something is not refused. -/
theorem Writes.not_refuses {step : RuleStep} {id : String} {o : Option Setting} {e : Failure}
    (h : Writes step id o) : ¬Refuses step e := by
  intro hrefuses
  cases h with
  | set hid => cases hrefuses with | unnamed => exact hid rfl
  | off => cases hrefuses

/-- A change is refused for one reason. -/
theorem Refuses.unique {step : RuleStep} {e e' : Failure} (h : Refuses step e)
    (h' : Refuses step e') : e' = e := by
  cases h with
  | unnamed =>
      cases h' with
      | unnamed => rfl
      | unset hid => exact absurd rfl hid
  | unset hid =>
      cases h' with
      | unnamed => exact absurd rfl hid
      | unset => rfl

/-! ## Times -/

/-- The change at a place in a history writes a setting of a rule. -/
def WritesAt (steps : List RuleStep) (n : Nat) (id : String) (o : Option Setting) : Prop :=
  ∃ step, steps[n]? = some step ∧ Writes step id o

/-- The place in a history since which a rule is enabled: it is set there, it is not
    disabled later, and whenever it was set earlier it was disabled since. -/
structure EnabledSince (steps : List RuleStep) (id : String) (n : Nat) : Prop where
  sets : ∃ s, WritesAt steps n id (some s)
  stays : ∀ m, n < m → ¬WritesAt steps m id none
  anew : ∀ m < n, (∃ s, WritesAt steps m id (some s)) → ∃ k, m < k ∧ WritesAt steps k id none

section Times

variable {steps : List RuleStep} {step : RuleStep} {id : String} {n : Nat}

/-- Nothing is written after the last change. -/
theorem WritesAt.lt_length {o : Option Setting} (h : WritesAt steps n id o) : n < steps.length := by
  obtain ⟨step, hstep, -⟩ := h
  exact (List.getElem?_eq_some_iff.mp hstep).1

/-- One more change writes at the end, and the others write where they did. -/
theorem writesAt_concat {o : Option Setting} :
    WritesAt (steps ++ [step]) n id o ↔
      WritesAt steps n id o ∨ n = steps.length ∧ Writes step id o := by
  by_cases hlt : n < steps.length
  · rw [WritesAt, List.getElem?_append_left hlt]
    exact (or_iff_left fun h => absurd h.1 (Nat.ne_of_lt hlt)).symm
  · have hnot : ¬WritesAt steps n id o := fun h => hlt h.lt_length
    rw [or_iff_right hnot]
    constructor
    · intro h
      have hend := h.lt_length
      rw [List.length_append, List.length_singleton] at hend
      obtain rfl : n = steps.length := by omega
      obtain ⟨other, hother, hwrites⟩ := h
      rw [List.getElem?_concat_length] at hother
      cases hother
      exact ⟨rfl, hwrites⟩
    · rintro ⟨rfl, hwrites⟩
      exact ⟨step, List.getElem?_concat_length, hwrites⟩

/-- A rule is enabled since one place only. -/
theorem EnabledSince.unique {m : Nat} (hm : EnabledSince steps id m)
    (hn : EnabledSince steps id n) : m = n := by
  have hle : ∀ {a b}, EnabledSince steps id a → EnabledSince steps id b → ¬a < b := by
    intro a b ha hb hlt
    obtain ⟨k, hk, hoff⟩ := hb.anew a hlt ha.sets
    exact ha.stays k hk hoff
  exact Nat.le_antisymm (Nat.not_lt.mp (hle hn hm)) (Nat.not_lt.mp (hle hm hn))

/-- A rule that was set and not disabled later is enabled since some place. -/
theorem exists_enabledSince (hset : ∃ s, WritesAt steps n id (some s))
    (hstays : ∀ m, n < m → ¬WritesAt steps m id none) : ∃ k, EnabledSince steps id k := by
  -- the first such place: an earlier one where it was set was followed by a disabling
  induction n using Nat.strongRecOn with
  | ind n ih =>
      by_cases hearlier : ∃ m < n, (∃ s, WritesAt steps m id (some s)) ∧
          ∀ k, m < k → ¬WritesAt steps k id none
      · obtain ⟨m, hm, hsetm, hstaysm⟩ := hearlier
        exact ih m hm hsetm hstaysm
      · refine ⟨n, hset, hstays, ?_⟩
        intro m hm hsetm
        by_contra hnone
        push Not at hnone
        exact hearlier ⟨m, hm, hsetm, hnone⟩

/-- A change to nothing that a rule has leaves its time. -/
theorem enabledSince_concat_of_other (h : ∀ o, ¬Writes step id o) :
    EnabledSince (steps ++ [step]) id n ↔ EnabledSince steps id n := by
  have hwrites : ∀ m o, WritesAt (steps ++ [step]) m id o ↔ WritesAt steps m id o := by
    intro m o
    rw [writesAt_concat]
    exact or_iff_left fun hnew => h o hnew.2
  constructor
  · rintro ⟨hsets, hstays, hanew⟩
    simp only [hwrites] at hsets hstays hanew
    exact ⟨hsets, hstays, hanew⟩
  · rintro ⟨hsets, hstays, hanew⟩
    simp only [← hwrites] at hsets hstays hanew
    exact ⟨hsets, hstays, hanew⟩

/-- A rule that is disabled last is not enabled. -/
theorem not_enabledSince_concat_of_off (h : Writes step id none) :
    ¬EnabledSince (steps ++ [step]) id n := by
  rintro ⟨⟨s, hset⟩, hstays, -⟩
  have hoff : WritesAt (steps ++ [step]) steps.length id none :=
    writesAt_concat.mpr (.inr ⟨rfl, h⟩)
  rcases writesAt_concat.mp hset with hold | ⟨rfl, hnew⟩
  · exact hstays _ hold.lt_length hoff
  · cases (h.unique hnew).2

/-- Setting a rule that is enabled leaves its time. -/
theorem enabledSince_concat_of_on {s : Setting} {k : Nat} (h : Writes step id (some s))
    (hon : EnabledSince steps id k) :
    EnabledSince (steps ++ [step]) id n ↔ n = k := by
  have hoff : ∀ m, WritesAt (steps ++ [step]) m id none ↔ WritesAt steps m id none := by
    intro m
    rw [writesAt_concat]
    refine or_iff_left ?_
    rintro ⟨-, hnew⟩
    cases (h.unique hnew).2
  have hkeeps : EnabledSince (steps ++ [step]) id k := by
    obtain ⟨⟨t, hset⟩, hstays, hanew⟩ := hon
    refine ⟨⟨t, writesAt_concat.mpr (.inl hset)⟩, ?_, ?_⟩
    · intro m hm
      rw [hoff]
      exact hstays m hm
    · rintro m hm ⟨t', hset'⟩
      rcases writesAt_concat.mp hset' with hold | ⟨rfl, -⟩
      · obtain ⟨j, hj, hdisabled⟩ := hanew m hm ⟨t', hold⟩
        exact ⟨j, hj, (hoff j).mpr hdisabled⟩
      · -- the new change comes after the time that is kept
        exact absurd hset.lt_length (Nat.lt_asymm hm)
  constructor
  · intro hn
    exact hn.unique hkeeps
  · rintro rfl
    exact hkeeps

/-- A rule that is set while it is not enabled is enabled since then. -/
theorem enabledSince_concat_of_new {s : Setting} (h : Writes step id (some s))
    (hnew : ∀ k, ¬EnabledSince steps id k) :
    EnabledSince (steps ++ [step]) id n ↔ n = steps.length := by
  have hstarts : EnabledSince (steps ++ [step]) id steps.length := by
    refine ⟨⟨s, writesAt_concat.mpr (.inr ⟨rfl, h⟩)⟩, ?_, ?_⟩
    · intro m hm hoff
      have hlt := hoff.lt_length
      rw [List.length_append, List.length_singleton] at hlt
      omega
    · rintro m hm ⟨t, hset⟩
      have hold : WritesAt steps m id (some t) :=
        (writesAt_concat.mp hset).resolve_right fun hend => absurd hend.1 (Nat.ne_of_lt hm)
      -- were it not disabled since, it would be enabled
      by_contra hnone
      push Not at hnone
      obtain ⟨k, hk⟩ := exists_enabledSince ⟨t, hold⟩ fun j hj hoff =>
        hnone j hj (writesAt_concat.mpr (.inl hoff))
      exact hnew k hk
  constructor
  · intro hn
    exact hn.unique hstarts
  · rintro rfl
    exact hstarts

end Times

/-! ## The order of the rules -/

/-- The names are those of the enabled rules, and stand in the order of their times. -/
structure InOrder (steps : List RuleStep) (names : List String) : Prop where
  enabled : ∀ id, id ∈ names ↔ ∃ n, EnabledSince steps id n
  ordered : names.Pairwise fun a b =>
    ∀ m n, EnabledSince steps a m → EnabledSince steps b n → m < n

section Order

variable {steps : List RuleStep} {step : RuleStep} {id : String} {names : List String}

/-- A change that leaves all times leaves the order. -/
theorem InOrder.of_times (h : InOrder steps names)
    (htimes : ∀ id n, EnabledSince (steps ++ [step]) id n ↔ EnabledSince steps id n) :
    InOrder (steps ++ [step]) names := by
  refine ⟨?_, ?_⟩
  · intro id
    simp only [htimes]
    exact h.enabled id
  · simp only [htimes]
    exact h.ordered

/-- Disabling a rule takes its name out of the order and leaves the others in it. -/
theorem InOrder.off (h : InOrder steps names) (hwrites : Writes step id none) :
    InOrder (steps ++ [step]) (names.filter (· != id)) := by
  have htimes : ∀ {other}, other ≠ id → ∀ n,
      EnabledSince (steps ++ [step]) other n ↔ EnabledSince steps other n :=
    fun hne n => enabledSince_concat_of_other (hwrites.other hne)
  refine ⟨?_, ?_⟩
  · intro other
    rw [List.mem_filter, bne_iff_ne]
    by_cases hne : other = id
    · subst hne
      constructor
      · rintro ⟨-, hne⟩
        exact absurd rfl hne
      · rintro ⟨n, hn⟩
        exact absurd hn (not_enabledSince_concat_of_off hwrites)
    · simp only [htimes hne]
      rw [h.enabled]
      exact and_iff_left hne
  · -- the others keep their times, and so their order
    refine (h.ordered.filter (· != id)).imp_of_mem ?_
    intro a b ha hb hlt m n hm hn
    have hane : a ≠ id := bne_iff_ne.mp (List.mem_filter.mp ha).2
    have hbne : b ≠ id := bne_iff_ne.mp (List.mem_filter.mp hb).2
    exact hlt m n ((htimes hane m).mp hm) ((htimes hbne n).mp hn)

/-- Setting a rule that is enabled leaves the order as it is. -/
theorem InOrder.replaced (h : InOrder steps names) {s : Setting}
    (hwrites : Writes step id (some s)) (hmem : id ∈ names) : InOrder (steps ++ [step]) names := by
  obtain ⟨k, hk⟩ := (h.enabled id).mp hmem
  refine h.of_times ?_
  intro other n
  by_cases hne : other = id
  · subst hne
    rw [enabledSince_concat_of_on hwrites hk]
    constructor
    · rintro rfl
      exact hk
    · intro hn
      exact hn.unique hk
  · exact enabledSince_concat_of_other (hwrites.other hne)

/-- Setting a rule that is not enabled puts its name at the end. -/
theorem InOrder.new (h : InOrder steps names) {s : Setting}
    (hwrites : Writes step id (some s)) (hmem : id ∉ names) :
    InOrder (steps ++ [step]) (names ++ [id]) := by
  have hnew : ∀ k, ¬EnabledSince steps id k := fun k hk => hmem ((h.enabled id).mpr ⟨k, hk⟩)
  have htimes : ∀ {other}, other ≠ id → ∀ n,
      EnabledSince (steps ++ [step]) other n ↔ EnabledSince steps other n :=
    fun hne n => enabledSince_concat_of_other (hwrites.other hne)
  refine ⟨?_, ?_⟩
  · intro other
    rw [List.mem_append, List.mem_singleton]
    by_cases hne : other = id
    · subst hne
      exact iff_of_true (.inr rfl) ⟨_, (enabledSince_concat_of_new hwrites hnew).mpr rfl⟩
    · simp only [htimes hne]
      rw [← h.enabled]
      exact or_iff_left hne
  · rw [List.pairwise_append]
    refine ⟨h.ordered.imp_of_mem ?_, List.pairwise_singleton _ _, ?_⟩
    · intro a b ha hb hlt m n hm hn
      have hane : a ≠ id := fun heq => hmem (heq ▸ ha)
      have hbne : b ≠ id := fun heq => hmem (heq ▸ hb)
      exact hlt m n ((htimes hane m).mp hm) ((htimes hbne n).mp hn)
    · intro a ha b hb m n hm hn
      -- the new rule is enabled after all that happened before
      rw [List.mem_singleton] at hb
      subst hb
      have hane : a ≠ b := fun heq => hmem (heq ▸ ha)
      obtain ⟨s, hset⟩ := ((htimes hane m).mp hm).sets
      rw [(enabledSince_concat_of_new hwrites hnew).mp hn]
      exact hset.lt_length

end Order

end EnvLint
