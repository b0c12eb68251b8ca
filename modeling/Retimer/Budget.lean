import Retimer.Prog

/-!
# How much a program can ask for

`w` says what a request costs. A program costs at most `n` when the
requests on every way through it add up to no more, whatever the answers
are (`CostAtMost`). A bound for the program is one for each of its
traces, whether they have come to their end or not (`CostAtMost.trace`):
that is what makes it a bound on work, and the reason why the definition
goes by recursion on the program and not over its runs.

The rules follow the program. `CostAtMost.bind` adds up the budgets of
the two parts of a sequence, `CostAtMost.ite` takes one budget for both
branches, `CostAtMost.free` puts a part that costs nothing in front of
another without any addition, and `costAtMost_of_only` is the rule for
such a part: it is free when every request it can make (`Only`) is. A
loop is an induction that pays for one turn at a time.

`cost_ite` makes a count out of a cost: with weight one for the requests
of a kind, the cost of a trace is the number of them.
-/

namespace Interaction

variable {E : Type} {R : E → Type} {α β : Type}

/-- What the requests of a trace cost. The answers have no price: what is
bounded is what a program asks for. -/
def cost (w : E → Nat) : List (Event E R) → Nat
  | [] => 0
  | ev :: tr => w ev.1 + cost w tr

theorem cost_ite {P : E → Prop} [DecidablePred P] {tr : List (Event E R)} :
    cost (fun e => if P e then 1 else 0) tr = (tr.filter fun ev => P ev.1).length := by
  induction tr with
  | nil => rfl
  | cons ev tr ih =>
      rw [cost, ih, List.filter_cons]
      by_cases h : P ev.1
      · rw [if_pos h, if_pos (decide_eq_true h), List.length_cons, Nat.add_comm]
      · rw [if_neg h, if_neg (decide_eq_true_iff.not.mpr h), Nat.zero_add]

namespace Prog

def CostAtMost (w : E → Nat) : Prog E R α → Nat → Prop
  | .ret _, _ => True
  | .ask e k, n => w e ≤ n ∧ ∀ r, CostAtMost w (k r) (n - w e)

variable {w : E → Nat} {p q : Prog E R α} {m n : Nat}

@[simp] theorem costAtMost_ret (a : α) : CostAtMost w (.ret a : Prog E R α) n := trivial

theorem CostAtMost.mono (h : CostAtMost w p m) (hmn : m ≤ n) : CostAtMost w p n := by
  induction p generalizing m n with
  | ret a => trivial
  | ask e k ih => exact ⟨Nat.le_trans h.1 hmn, fun r => ih r (h.2 r) (Nat.sub_le_sub_right hmn _)⟩

theorem costAtMost_perform {e : E} (h : w e ≤ n) :
    CostAtMost w (perform e : Prog E R (R e)) n :=
  ⟨h, fun _ => trivial⟩

theorem CostAtMost.bind {f : α → Prog E R β} (hp : CostAtMost w p m)
    (hf : ∀ a, CostAtMost w (f a) n) : CostAtMost w (p >>= f) (m + n) := by
  induction p generalizing m with
  | ret a => exact (hf a).mono (Nat.le_add_left n m)
  | ask e k ih =>
      obtain ⟨he, hk⟩ := hp
      refine ⟨Nat.le_trans he (Nat.le_add_right m n), fun r => (ih r (hk r)).mono ?_⟩
      omega

/-- What costs nothing can stand in front. -/
theorem CostAtMost.free {f : α → Prog E R β} (hp : CostAtMost w p 0)
    (hf : ∀ a, CostAtMost w (f a) n) : CostAtMost w (p >>= f) n :=
  (hp.bind hf).mono (Nat.le_of_eq (Nat.zero_add n))

theorem CostAtMost.ite {c : Prop} [Decidable c] (hp : CostAtMost w p n) (hq : CostAtMost w q n) :
    CostAtMost w (if c then p else q) n := by
  split
  · exact hp
  · exact hq

theorem costAtMost_of_only (h : Only (fun e => w e = 0) p) : CostAtMost w p n := by
  induction p generalizing n with
  | ret a => trivial
  | ask e k ih => exact ⟨h.1 ▸ Nat.zero_le n, fun r => ih r (h.2 r)⟩

theorem CostAtMost.trace (h : CostAtMost w p n) {tr : List (Event E R)} (htr : Trace p tr q) :
    cost w tr ≤ n := by
  induction htr generalizing n with
  | nil => exact Nat.zero_le n
  | @cons e r k tr q htr ih =>
      have hrest := ih (h.2 r)
      have he := h.1
      show w e + cost w tr ≤ n
      omega

end Prog

end Interaction
