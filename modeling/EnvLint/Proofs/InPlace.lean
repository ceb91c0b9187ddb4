import EnvLint.Proofs.Outcome

/-! # Work in place

    Operations that write into what they are called on.  What an operation wrote
    before it fails is not taken back, so it is a theorem, and no matter of
    definition, that a failing one leaves nothing behind: `InPlace` keeps the
    state that was reached beside the failure.

    `Atomic` ties such work to a plain outcome.  It holds of work that makes all
    its checks before it writes (`atomic_of_run`). -/

namespace EnvLint

/-- Work on a state in place: what is written stays, also if the work fails later. -/
abbrev InPlace (σ : Type) := EStateM Failure σ

namespace InPlace

variable {σ α β : Type}

/-- Goes on with the value of an outcome, or fails as it does. -/
def orFail (outcome : Except Failure α) : InPlace σ α :=
  fun s => match outcome with
    | .ok a => .ok a s
    | .error failure => .error failure s

/-- The state that work leaves behind, also where it fails. -/
def after (work : InPlace σ Unit) (s : σ) : σ :=
  match work.run s with
  | .ok _ t => t
  | .error _ t => t

/-- Why work fails. -/
def failure? (work : InPlace σ Unit) (s : σ) : Option Failure :=
  match work.run s with
  | .ok _ _ => none
  | .error failure _ => some failure

/-- What work ends with if it writes only once it can no longer fail. -/
def ending (s : σ) : Except Failure σ → EStateM.Result Failure σ Unit
  | .ok t => .ok () t
  | .error failure => .error failure s

/-- Work gives an outcome, and leaves everything as it was if that is a failure. -/
structure Atomic (work : InPlace σ Unit) (s : σ) (outcome : Except Failure σ) : Prop where
  outcome_eq : outcome = match work.failure? s with
    | none => .ok (work.after s)
    | some failure => .error failure
  unchanged : work.failure? s ≠ none → work.after s = s

/-- Work that goes on with an outcome fails as it does, and has written nothing. -/
theorem run_orFail_bind (outcome : Except Failure α) (next : α → InPlace σ β) (s : σ) :
    (orFail outcome >>= next).run s = match outcome with
      | .ok a => (next a).run s
      | .error failure => .error failure s := by
  cases outcome <;> rfl

section

variable {work : InPlace σ Unit} {s : σ} {outcome : Except Failure σ}

theorem atomic_of_run (h : work.run s = ending s outcome) : Atomic work s outcome := by
  cases outcome with
  | ok t =>
      refine ⟨?_, ?_⟩
      · rw [failure?, after, h]
        rfl
      · intro hfail
        rw [failure?, h] at hfail
        exact absurd rfl hfail
  | error failure =>
      refine ⟨?_, ?_⟩
      · rw [failure?, h]
        rfl
      · intro _
        rw [after, h]
        rfl

/-- Atomic work that is known to succeed is done, and nothing else. -/
theorem Atomic.of_ok {t : σ} (h : Atomic work s (.ok t)) :
    work.failure? s = none ∧ work.after s = t := by
  have heq := h.outcome_eq
  cases hfail : work.failure? s with
  | none =>
      rw [hfail] at heq
      exact ⟨rfl, (Except.ok.inj heq).symm⟩
  | some failure =>
      rw [hfail] at heq
      cases heq

/-- Atomic work that is known to fail leaves the state alone. -/
theorem Atomic.of_error {failure : Failure} (h : Atomic work s (.error failure)) :
    work.failure? s = some failure ∧ work.after s = s := by
  have heq := h.outcome_eq
  cases hfail : work.failure? s with
  | none =>
      rw [hfail] at heq
      cases heq
  | some other =>
      rw [hfail] at heq
      refine ⟨congrArg some (Except.error.inj heq).symm, h.unchanged ?_⟩
      rw [hfail]
      exact nofun

end

end InPlace

end EnvLint
