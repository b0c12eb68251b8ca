import Mathlib.Tactic.Common

/-!
# Table-driven CRC registers

A register of `w` bits, shifted out by one byte at a time, most
significant bit first, with a table entry folded in per byte (`step`,
`run`). Nothing is assumed of the table but `LowInjective`: different
indices have entries with different low bytes. A generator polynomial
with constant term 1 gives such a table, and it is all that error
detection needs.

Reading a register backwards, its low byte names the table index just
used (`step_low`, `index_eq_of_step`), and what is left after taking
that entry out is the low part of the register before (`step_back`). So
the register after `k` bytes, `8 * k ≤ w`, determines all `k` indices
(`run_back`), with `AgreeLow` counting the low bits that are still known
on the way; and where the registers in front were the same, the indices
determine the bytes.

Two different strings of `k` bytes from one register therefore cannot
meet again (`burst_detected`), whatever follows: behind the burst the
bytes are equal, and with the byte fixed a step loses nothing of the
register (`step_inj`, `run_inj`).
-/

namespace TableCrc

variable {w : Nat} {T : BitVec 8 → BitVec w}

/-- The table index: the byte shifted out, plus the byte coming in. -/
def index (s : BitVec w) (b : BitVec 8) : BitVec 8 := (s >>> (w - 8)).setWidth 8 ^^^ b

def step (T : BitVec 8 → BitVec w) (s : BitVec w) (b : BitVec 8) : BitVec w :=
  (s <<< 8) ^^^ T (index s b)

def run (T : BitVec 8 → BitVec w) (s : BitVec w) (bs : List (BitVec 8)) : BitVec w :=
  bs.foldl (step T) s

/-- `s` and `s'` have the same `n` low bits. -/
def AgreeLow (n : Nat) (s s' : BitVec w) : Prop :=
  ∀ i, i < n → s.getLsbD i = s'.getLsbD i

theorem AgreeLow.of_eq {s s' : BitVec w} (h : s = s') (n : Nat) : AgreeLow n s s' :=
  fun _ _ => h ▸ rfl

def LowInjective (T : BitVec 8 → BitVec w) : Prop :=
  ∀ i j, AgreeLow 8 (T i) (T j) → i = j

theorem run_cons (s : BitVec w) (b : BitVec 8) (bs : List (BitVec 8)) :
    run T s (b :: bs) = run T (step T s b) bs := rfl

theorem run_append (s : BitVec w) (bs cs : List (BitVec 8)) :
    run T s (bs ++ cs) = run T (run T s bs) cs := List.foldl_append

theorem step_low {s : BitVec w} {b : BitVec 8} {i : Nat} (hi : i < 8) :
    (step T s b).getLsbD i = (T (index s b)).getLsbD i := by
  simp [step, hi]

theorem step_high {s : BitVec w} {b : BitVec 8} {i : Nat} (hi : i + 8 < w) :
    (step T s b).getLsbD (i + 8) = (s.getLsbD i ^^ (T (index s b)).getLsbD (i + 8)) := by
  have hge : ¬ i + 8 < 8 := by omega
  simp only [step, BitVec.getLsbD_xor, BitVec.getLsbD_shiftLeft, hi, hge, decide_true,
    decide_false, Bool.not_false, Bool.true_and, Nat.add_sub_cancel]

theorem index_eq_of_step {s s' : BitVec w} {b b' : BitVec 8} (hT : LowInjective T)
    (h : AgreeLow 8 (step T s b) (step T s' b')) : index s b = index s' b' := by
  apply hT
  intro i hi
  rw [← step_low hi, ← step_low hi]
  exact h i hi

/-- One byte back: the index used, and the low part of the register before. The
entries of the table differ in their low bytes, so the low byte of the register
tells which entry was used. -/
theorem step_back {s s' : BitVec w} {b b' : BitVec 8} {m : Nat} (hT : LowInjective T)
    (hm : m + 8 ≤ w) (h : AgreeLow (m + 8) (step T s b) (step T s' b')) :
    index s b = index s' b' ∧ AgreeLow m s s' := by
  have hidx : index s b = index s' b' :=
    index_eq_of_step hT fun i hi => h i (by omega)
  refine ⟨hidx, fun i hi => ?_⟩
  have hstep := h (i + 8) (by omega)
  rw [step_high (by omega), step_high (by omega), hidx] at hstep
  exact Bool.xor_left_inj.mp hstep

theorem step_inj {s s' : BitVec w} {b : BitVec 8} (hT : LowInjective T) (hw : 8 ≤ w)
    (h : step T s b = step T s' b) : s = s' := by
  have hback := step_back (m := w - 8) hT (by omega) (AgreeLow.of_eq h _)
  apply BitVec.eq_of_getLsbD_eq
  intro i hi
  by_cases hlow : i < w - 8
  · exact hback.2 i hlow
  · have htop := congrArg (·.getLsbD (i - (w - 8))) hback.1
    have h8 : i - (w - 8) < 8 := by omega
    have hadd : w - 8 + (i - (w - 8)) = i := by omega
    simpa [index, h8, hadd] using htop

theorem run_inj {s s' : BitVec w} (hT : LowInjective T) (hw : 8 ≤ w)
    (bs : List (BitVec 8)) (h : run T s bs = run T s' bs) : s = s' := by
  induction bs generalizing s s' with
  | nil => exact h
  | cons b bs ih => exact step_inj hT hw (ih h)

/-- The register after `k` bytes gives back the `k` indices, and the bytes
themselves when the registers before were the same. The induction runs over
the bytes from the front; `m` counts the low bits still known there. -/
theorem run_back (hT : LowInjective T) : ∀ {bs bs' : List (BitVec 8)} {s s' : BitVec w}
    {m : Nat}, bs.length = bs'.length → 8 * bs.length + m ≤ w →
    AgreeLow (8 * bs.length + m) (run T s bs) (run T s' bs') →
    AgreeLow m s s' ∧ (s = s' → bs = bs')
  | [], [], _, _, _, _, _, h => ⟨by simpa [run] using h, fun _ => rfl⟩
  | b :: bs, b' :: bs', s, s', m, hlen, hm, h => by
      simp only [List.length_cons] at hlen hm h
      have hbits : 8 * (bs.length + 1) + m = 8 * bs.length + (m + 8) := by omega
      rw [run_cons, run_cons, hbits] at h
      have hrest := run_back hT (Nat.succ.inj hlen) (by omega) h
      obtain ⟨hidx, hlow⟩ := step_back hT (by omega) hrest.1
      refine ⟨hlow, fun hs => ?_⟩
      subst hs
      have hb : b = b' := by simpa [index] using hidx
      subst hb
      rw [hrest.2 rfl]

/-- **Short bursts are detected.** Two strings that differ only inside a
window no wider than the register leave different registers. -/
theorem burst_detected (hT : LowInjective T) (hw : 8 ≤ w) {s : BitVec w}
    {pre post bs bs' : List (BitVec 8)} (hlen : bs.length = bs'.length)
    (hshort : 8 * bs.length ≤ w) (hne : bs ≠ bs') :
    run T s (pre ++ bs ++ post) ≠ run T s (pre ++ bs' ++ post) := by
  intro h
  simp only [run_append] at h
  have hmeet := run_inj hT hw post h
  exact hne ((run_back hT (m := 0) hlen hshort (AgreeLow.of_eq hmeet _)).2 rfl)

end TableCrc
