import EnvLint.Failure
import Mathlib.Data.List.Forall2

/-! # Outcomes

    When a chain of operations succeeds.  Each lemma takes one way of putting
    operations together apart: one after the other, and over a list.  Two checks
    stand in many chains, of the stack and of the numbers that are shown. -/

namespace EnvLint

variable {α β : Type}

/-- An outcome is a value. -/
def Succeeds (outcome : Except Failure α) : Prop :=
  ∃ a, outcome = .ok a

theorem succeeds_ok (a : α) : Succeeds (.ok a) :=
  ⟨a, rfl⟩

theorem not_succeeds_error (failure : Failure) : ¬Succeeds (.error failure : Except Failure α) := by
  rintro ⟨a, ha⟩
  cases ha

/-- A chain succeeds if its first step does, and the rest does with what it gives. -/
theorem succeeds_bind_iff {outcome : Except Failure α} {f : α → Except Failure β} :
    Succeeds (outcome >>= f) ↔ ∃ a, outcome = .ok a ∧ Succeeds (f a) := by
  cases outcome with
  | error failure =>
      constructor
      · intro h
        exact absurd h (not_succeeds_error failure)
      · rintro ⟨a, ha, -⟩
        cases ha
  | ok a =>
      constructor
      · intro h
        exact ⟨a, rfl, h⟩
      · rintro ⟨b, hb, h⟩
        cases hb
        exact h

/-- A chain that ends by putting a value together succeeds if its first step does. -/
theorem succeeds_bind_ok_iff {outcome : Except Failure α} {f : α → β} :
    Succeeds (outcome >>= fun a => .ok (f a)) ↔ Succeeds outcome := by
  rw [succeeds_bind_iff]
  constructor
  · rintro ⟨a, ha, -⟩
    exact ⟨a, ha⟩
  · rintro ⟨a, ha⟩
    exact ⟨a, ha, succeeds_ok _⟩

/-- A chain gives a value if its first step does and the rest gives it from there. -/
theorem bind_eq_ok_iff {ε : Type} {outcome : Except ε α} {f : α → Except ε β} {b : β} :
    outcome >>= f = .ok b ↔ ∃ a, outcome = .ok a ∧ f a = .ok b := by
  cases outcome with
  | error failure =>
      constructor
      · intro h
        cases h
      · rintro ⟨a, ha, -⟩
        cases ha
  | ok a =>
      constructor
      · intro h
        exact ⟨a, rfl, h⟩
      · rintro ⟨b, hb, h⟩
        cases hb
        exact h

/-- A chain fails where its first step does, or where the rest does. -/
theorem bind_eq_error_iff {outcome : Except Failure α} {f : α → Except Failure β} {e : Failure} :
    outcome >>= f = .error e ↔ outcome = .error e ∨ ∃ a, outcome = .ok a ∧ f a = .error e := by
  cases outcome with
  | error failure =>
      constructor
      · intro h
        cases h
        exact Or.inl rfl
      · rintro (h | ⟨a, ha, -⟩)
        · cases h
          rfl
        · cases ha
  | ok a =>
      constructor
      · intro h
        exact Or.inr ⟨a, rfl, h⟩
      · rintro (h | ⟨b, hb, h⟩)
        · cases h
        · cases hb
          exact h

/-- A value is changed, and a failure stays. -/
theorem map_eq_ok_iff {outcome : Except Failure α} {f : α → β} {b : β} :
    outcome.map f = .ok b ↔ ∃ a, outcome = .ok a ∧ f a = b := by
  cases outcome with
  | error failure => simp [Except.map]
  | ok a => simp [Except.map]

theorem map_eq_error_iff {outcome : Except Failure α} {f : α → β} {e : Failure} :
    outcome.map f = .error e ↔ outcome = .error e := by
  cases outcome with
  | error failure => simp [Except.map]
  | ok a => simp [Except.map]

/-- A fault is named anew, and a value stays. -/
theorem mapError_eq_ok_iff {ε : Type} {outcome : Except ε α} {name : ε → Failure} {a : α} :
    outcome.mapError name = .ok a ↔ outcome = .ok a := by
  cases outcome with
  | error fault =>
      constructor
      · intro h
        cases h
      · intro h
        cases h
  | ok b =>
      constructor
      · intro h
        cases h
        rfl
      · intro h
        cases h
        rfl

/-- Renaming failures neither adds nor removes one. -/
theorem mapError_eq_error_iff {ε : Type} {outcome : Except ε α} {name : ε → Failure}
    {e : Failure} :
    outcome.mapError name = .error e ↔ ∃ fault, outcome = .error fault ∧ e = name fault := by
  cases outcome with
  | error fault =>
      constructor
      · intro h
        cases h
        exact ⟨fault, rfl, rfl⟩
      · rintro ⟨other, hother, rfl⟩
        cases hother
        rfl
  | ok a =>
      constructor
      · intro h
        cases h
      · rintro ⟨fault, hfault, -⟩
        cases hfault

/-- A list of operations that all succeed gives their values. -/
theorem mapM_eq_ok_of_forall {f : α → Except Failure β} {xs : List α}
    (h : ∀ x ∈ xs, Succeeds (f x)) :
    xs.mapM f = .ok (xs.filterMap fun x => (f x).toOption) := by
  induction xs with
  | nil => rfl
  | cons x xs ih =>
      rw [List.forall_mem_cons] at h
      obtain ⟨⟨y, hy⟩, hxs⟩ := h
      rw [List.mapM_cons, hy, ih hxs]
      show Except.ok (y :: _) = Except.ok ((x :: xs).filterMap _)
      rw [List.filterMap_cons, hy]
      rfl

/-- Operations over a list succeed if each of them does. -/
theorem succeeds_mapM_iff {f : α → Except Failure β} {xs : List α} :
    Succeeds (xs.mapM f) ↔ ∀ x ∈ xs, Succeeds (f x) := by
  constructor
  · intro h
    induction xs with
    | nil => exact fun x hx => absurd hx List.not_mem_nil
    | cons x xs ih =>
        rw [List.mapM_cons, succeeds_bind_iff] at h
        obtain ⟨y, hy, hrest⟩ := h
        obtain ⟨ys, hys, -⟩ := succeeds_bind_iff.mp hrest
        rw [List.forall_mem_cons]
        exact ⟨⟨y, hy⟩, ih ⟨ys, hys⟩⟩
  · intro h
    exact ⟨_, mapM_eq_ok_of_forall h⟩

/-- Operations over a list fail where the first of them does. -/
theorem mapM_eq_error_iff {f : α → Except Failure β} {xs : List α} {e : Failure} :
    xs.mapM f = .error e ↔
      ∃ before bad after, xs = before ++ bad :: after ∧ (∀ x ∈ before, Succeeds (f x)) ∧
        f bad = .error e := by
  constructor
  · intro h
    induction xs with
    | nil => cases h
    | cons x xs ih =>
        rw [List.mapM_cons] at h
        rcases bind_eq_error_iff.mp h with hx | ⟨y, hy, h⟩
        · exact ⟨[], x, xs, rfl, List.forall_mem_nil _, hx⟩
        · rcases bind_eq_error_iff.mp h with hxs | ⟨_, _, h⟩
          · obtain ⟨before, bad, after, rfl, hbefore, hbad⟩ := ih hxs
            exact ⟨x :: before, bad, after, rfl, List.forall_mem_cons.mpr ⟨⟨y, hy⟩, hbefore⟩, hbad⟩
          · cases h
  · rintro ⟨before, bad, after, rfl, hbefore, hbad⟩
    rw [List.mapM_append, mapM_eq_ok_of_forall hbefore, List.mapM_cons, hbad]
    rfl

/-- Every result of a mapped list comes from an item of it. -/
theorem mem_of_mapM {f : α → Except Failure β} {xs : List α} {ys : List β}
    (h : xs.mapM f = .ok ys) {y : β} (hy : y ∈ ys) : ∃ x ∈ xs, f x = .ok y := by
  rw [mapM_eq_ok_of_forall (succeeds_mapM_iff.mp ⟨ys, h⟩)] at h
  cases h
  obtain ⟨x, hx, hvalue⟩ := List.mem_filterMap.mp hy
  refine ⟨x, hx, ?_⟩
  cases hfx : f x with
  | error failure =>
      rw [hfx] at hvalue
      cases hvalue
  | ok value =>
      rw [hfx] at hvalue
      cases hvalue
      rfl

/-- Every item of a mapped list has its result among the results. -/
theorem mem_mapM_of_mem {f : α → Except Failure β} {xs : List α} {ys : List β}
    (h : xs.mapM f = .ok ys) {x : α} (hx : x ∈ xs) {y : β} (hy : f x = .ok y) : y ∈ ys := by
  rw [mapM_eq_ok_of_forall (succeeds_mapM_iff.mp ⟨ys, h⟩)] at h
  cases h
  refine List.mem_filterMap.mpr ⟨x, hx, ?_⟩
  rw [hy]
  rfl

/-- Operations over a list give values if each of them gives its own. -/
theorem mapM_eq_ok_iff {f : α → Except Failure β} {xs : List α} {ys : List β} :
    xs.mapM f = .ok ys ↔ List.Forall₂ (fun x y => f x = .ok y) xs ys := by
  induction xs generalizing ys with
  | nil =>
      rw [List.mapM_nil, List.forall₂_nil_left_iff]
      constructor
      · intro h
        cases h
        rfl
      · rintro rfl
        rfl
  | cons x xs ih =>
      rw [List.mapM_cons, bind_eq_ok_iff, List.forall₂_cons_left_iff]
      constructor
      · rintro ⟨y, hy, hrest⟩
        obtain ⟨rest, hxs, hlist⟩ := bind_eq_ok_iff.mp hrest
        cases hlist
        exact ⟨y, rest, hy, ih.mp hxs, rfl⟩
      · rintro ⟨y, rest, hy, hxs, rfl⟩
        refine ⟨y, hy, ?_⟩
        rw [ih.mpr hxs]
        rfl

/-- What values look like over a list, if each looks as it should. -/
theorem map_mapM_eq_ok {γ : Type} {f : α → Except Failure β} {view : β → γ} {look : α → γ}
    {xs : List α} (h : ∀ x ∈ xs, (f x).map view = .ok (look x)) :
    (xs.mapM f).map (List.map view) = .ok (xs.map look) := by
  induction xs with
  | nil => rfl
  | cons x xs ih =>
      rw [List.forall_mem_cons] at h
      obtain ⟨y, hy, hlook⟩ := map_eq_ok_iff.mp h.1
      obtain ⟨ys, hys, hlooks⟩ := map_eq_ok_iff.mp (ih h.2)
      rw [List.mapM_cons, hy, hys, List.map_cons, ← hlook, ← hlooks]
      rfl

/-- The fault of an outcome. -/
def fault? {ε : Type} : Except ε α → Option ε
  | .error fault => some fault
  | .ok _ => none

theorem eq_error_of_fault? {ε : Type} {outcome : Except ε α} {fault : ε}
    (h : fault? outcome = some fault) : outcome = .error fault := by
  cases outcome with
  | error other =>
      cases h
      rfl
  | ok a => cases h

/-- An outcome whose value has a known image is that value. -/
theorem exists_eq_ok_of_map {outcome : Except Failure α} {f : α → β} {b : β}
    (h : outcome.toOption.map f = some b) : ∃ a, outcome = .ok a ∧ f a = b := by
  obtain ⟨a, ha, hb⟩ := Option.map_eq_some_iff.mp h
  cases outcome with
  | error failure => cases ha
  | ok value =>
      cases ha
      exact ⟨a, rfl, hb⟩

/-! ## Limits -/

/-- A number with too many digits keeps numbers from being shown. -/
theorem checkNumbers_eq_error_iff {numbers : List Int} {e : Failure} :
    checkNumbers numbers = .error e ↔
      (∃ n ∈ numbers, leastUnshown ≤ n.natAbs) ∧ e = .unshownNumber := by
  have hany : (numbers.any fun n => leastUnshown ≤ n.natAbs) = true ↔
      ∃ n ∈ numbers, leastUnshown ≤ n.natAbs := by
    simp [List.any_eq_true]
  rw [checkNumbers]
  split
  next hlong => exact ⟨fun h => ⟨hany.mp hlong, (Except.error.inj h).symm⟩, fun h => h.2 ▸ rfl⟩
  next hshort => exact ⟨nofun, fun h => absurd (hany.mpr h.1) hshort⟩

section Host

variable [Host] {r : Recursion}

/-- The stack is found deep enough just where it is. -/
theorem checkStack_eq_ok_iff : Failure.checkStack r = .ok () ↔ Host.overflow? r = none := by
  rw [Failure.checkStack]
  cases Host.overflow? r with
  | none => exact iff_of_true rfl rfl
  | some words => exact iff_of_false nofun nofun

/-- A full stack is reported in the words of the host, and nothing else is. -/
theorem checkStack_eq_error_iff {e : Failure} :
    Failure.checkStack r = .error e ↔
      ∃ words, Host.overflow? r = some words ∧ e = .exhausted words := by
  rw [Failure.checkStack]
  cases Host.overflow? r with
  | none => exact iff_of_false nofun nofun
  | some words =>
      constructor
      · rintro ⟨⟩
        exact ⟨words, rfl, rfl⟩
      · rintro ⟨_, ⟨⟩, rfl⟩
        rfl

end Host

end EnvLint
