import Mathlib.Tactic.Common

/-!
# Scans

A scan reads an input it does not own and may give up part-way. What it
returns is an `outcome`; what it touched on the way is its `log`, kept
whether or not it gave up. The two are apart so that a bound on the
accesses can be stated of every scan, and the result of those that
succeed.

The rules take a sequence apart. `bind_ok` and `bind_error` are
inversions of its outcome: it succeeds where both parts do, and fails
where the first does or the second after it. `forall_log_bind` is the
one of its log: the accesses of the first part all happen, those of the
second only where the first got through, and may use its result. A check
is `stopIf`, whose success is the negated condition (`stopIf_ok`); so
the conditions a parser has checked so far are the hypotheses under
which its next access has to be in bounds.
-/

namespace Interaction

/-- A computation with accesses `A` that may stop early with `ε`. -/
structure Scan (A ε α : Type) where
  log : List A
  outcome : Except ε α

namespace Scan

variable {A ε α β : Type}

protected def bind (x : Scan A ε α) (f : α → Scan A ε β) : Scan A ε β :=
  match x.outcome with
  | .ok a => ⟨x.log ++ (f a).log, (f a).outcome⟩
  | .error e => ⟨x.log, .error e⟩

instance : Monad (Scan A ε) where
  pure a := ⟨[], .ok a⟩
  bind := Scan.bind

def note (a : A) : Scan A ε Unit := ⟨[a], .ok ()⟩

def stop (e : ε) : Scan A ε α := ⟨[], .error e⟩

def stopIf (bad : Prop) [Decidable bad] (e : ε) : Scan A ε Unit :=
  if bad then stop e else pure ()

theorem outcome_bind (x : Scan A ε α) (f : α → Scan A ε β) :
    (x >>= f).outcome = match x.outcome with
      | .ok a => (f a).outcome
      | .error e => .error e := by
  show (Scan.bind x f).outcome = _
  unfold Scan.bind
  split <;> rfl

@[simp] theorem outcome_pure (a : α) : (pure a : Scan A ε α).outcome = .ok a := rfl

@[simp] theorem outcome_stop (e : ε) : (stop e : Scan A ε α).outcome = .error e := rfl

@[simp] theorem outcome_note_bind (a : A) (f : Unit → Scan A ε β) :
    (note a >>= f).outcome = (f ()).outcome := rfl

@[simp] theorem outcome_pure_bind (a : α) (f : α → Scan A ε β) :
    ((pure a : Scan A ε α) >>= f).outcome = (f a).outcome := rfl

@[simp] theorem outcome_stopIf_bind {bad : Prop} [Decidable bad] {e : ε}
    {f : Unit → Scan A ε β} :
    (stopIf bad e >>= f).outcome = if bad then .error e else (f ()).outcome := by
  unfold stopIf
  split <;> rfl

theorem bind_ok {x : Scan A ε α} {f : α → Scan A ε β} {b : β} :
    (x >>= f).outcome = .ok b ↔ ∃ a, x.outcome = .ok a ∧ (f a).outcome = .ok b := by
  rw [outcome_bind]
  cases h : x.outcome with
  | ok a => simp
  | error e => simp

theorem bind_error {x : Scan A ε α} {f : α → Scan A ε β} {e : ε} :
    (x >>= f).outcome = .error e ↔
      x.outcome = .error e ∨ ∃ a, x.outcome = .ok a ∧ (f a).outcome = .error e := by
  rw [outcome_bind]
  cases h : x.outcome with
  | ok a => simp
  | error e' => simp

/-- The accesses of a sequence: those of the first scan, and those of the second
if the first got through. -/
theorem mem_log_bind {x : Scan A ε α} {f : α → Scan A ε β} {r : A} :
    r ∈ (x >>= f).log ↔ r ∈ x.log ∨ ∃ a, x.outcome = .ok a ∧ r ∈ (f a).log := by
  show r ∈ (Scan.bind x f).log ↔ _
  unfold Scan.bind
  cases h : x.outcome with
  | ok a => simp
  | error e => simp

/-- What holds of every access of a sequence: of those of the first scan, and of
those of the second wherever the first got through. It is the only rule about
logs that a proof about a parser needs. -/
theorem forall_log_bind {x : Scan A ε α} {f : α → Scan A ε β} {P : A → Prop} :
    (∀ r ∈ (x >>= f).log, P r) ↔
      (∀ r ∈ x.log, P r) ∧ ∀ a, x.outcome = .ok a → ∀ r ∈ (f a).log, P r := by
  simp only [mem_log_bind, or_imp, forall_and, forall_exists_index, and_imp]
  exact and_congr_right fun _ => ⟨fun h a ha r hr => h r a ha hr, fun h r a ha hr => h a ha r hr⟩

@[simp] theorem log_pure (a : α) : (pure a : Scan A ε α).log = [] := rfl

@[simp] theorem log_note (a : A) : (note a : Scan A ε Unit).log = [a] := rfl

@[simp] theorem log_stop (e : ε) : (stop e : Scan A ε α).log = [] := rfl

@[simp] theorem log_stopIf {bad : Prop} [Decidable bad] (e : ε) :
    (stopIf bad e : Scan A ε Unit).log = [] := by
  unfold stopIf
  split <;> rfl

@[simp] theorem stopIf_ok {bad : Prop} [Decidable bad] {e : ε} {u : Unit} :
    (stopIf bad e : Scan A ε Unit).outcome = .ok u ↔ ¬bad := by
  unfold stopIf
  split <;> simp [*]

end Scan

end Interaction
