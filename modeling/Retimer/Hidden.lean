import Retimer.Prog

/-!
# Programs with some of their requests hidden

`hide f p` is what is left of `p` when the requests that `f` answers are
not asked at all: `f` gives their answers. Two programs that are equal
once hidden behave alike for an observer of the other requests, and
equations between programs are easier to have than runs side by side.

The equations go by the structure of the program: `hide_bind` takes a
sequence apart, `hide_of_hidden` drops a part that asks for hidden
things only, and `hide_congr` goes on behind what both programs have in
common.

`run_hide` reads the equations back: where the answers hidden are the
only ones there are (the hypothesis is that the type of the answer has
one element at most, as for output), the runs of `hide f p` are the runs
of `p`, cut down to what is `observed`. Neither direction holds for
answers that leave a choice, since `f` has made it.
-/

namespace Interaction

variable {E : Type} {R : E → Type} {α β : Type}

/-- The part of a trace that `f` does not answer. -/
def observed (f : (e : E) → Option (R e)) (tr : List (Event E R)) : List (Event E R) :=
  tr.filter fun ev => (f ev.1).isNone

section Observed

variable {f : (e : E) → Option (R e)} {tr : List (Event E R)} {e : E} {r r' : R e}

@[simp] theorem observed_nil : observed f ([] : List (Event E R)) = [] := rfl

theorem observed_cons_none (h : f e = none) :
    observed f (⟨e, r⟩ :: tr) = ⟨e, r⟩ :: observed f tr :=
  List.filter_cons_of_pos (Option.isNone_iff_eq_none.mpr h)

theorem observed_cons_some (h : f e = some r') :
    observed f (⟨e, r⟩ :: tr) = observed f tr := by
  refine List.filter_cons_of_neg ?_
  rw [h]
  exact Bool.false_ne_true

end Observed

namespace Prog

/-- `p` with the requests that `f` answers left out. The program goes on with
the answer that `f` gives, on that branch alone. -/
def hide (f : (e : E) → Option (R e)) : Prog E R α → Prog E R α
  | .ret a => .ret a
  | .ask e k =>
      match f e with
      | some r => (k r).hide f
      | none => .ask e fun r => (k r).hide f

variable {f : (e : E) → Option (R e)} {p : Prog E R α}

@[simp] theorem hide_ret (a : α) : hide f (.ret a : Prog E R α) = .ret a := rfl

theorem hide_ask_some {e : E} {r : R e} {k : R e → Prog E R α} (h : f e = some r) :
    hide f (.ask e k) = hide f (k r) := by
  rw [hide, h]

theorem hide_ask_none {e : E} {k : R e → Prog E R α} (h : f e = none) :
    hide f (.ask e k) = .ask e fun r => hide f (k r) := by
  rw [hide, h]

theorem hide_bind (g : α → Prog E R β) : hide f (p >>= g) = hide f p >>= fun a => hide f (g a) := by
  induction p with
  | ret a => rfl
  | ask e k ih =>
      rw [ask_bind]
      cases h : f e with
      | none =>
          rw [hide_ask_none h, hide_ask_none h, ask_bind]
          simp only [ih]
      | some r => rw [hide_ask_some h, hide_ask_some h, ih]

/-- What is hidden in the whole has no part in what follows: the front is not
looked into, only what comes behind each of its results. -/
theorem hide_congr {g g' : α → Prog E R β} (h : ∀ a, hide f (g a) = hide f (g' a)) :
    hide f (p >>= g) = hide f (p >>= g') := by
  rw [hide_bind, hide_bind]
  simp only [h]

/-- A program that asks for hidden things only. -/
theorem hide_of_hidden {p : Prog E R Unit} (h : Only (fun e => (f e).isSome) p) :
    hide f p = .ret () := by
  induction p with
  | ret a => rfl
  | ask e k ih =>
      obtain ⟨r, hr⟩ := Option.isSome_iff_exists.mp h.1
      rw [hide_ask_some hr, ih r (h.2 r)]

/-- What a run shows of itself is a run of the rest, and nothing else is: the
second half is what lets an equation between hidden programs be used for a run
that is already there. -/
theorem run_hide (hf : ∀ e, (f e).isSome → Subsingleton (R e)) {t : List (Event E R)} {a : α} :
    Run (hide f p) t a ↔ ∃ tr, Run p tr a ∧ observed f tr = t := by
  induction p generalizing t with
  | ret b =>
      rw [hide_ret, run_ret]
      constructor
      · rintro ⟨rfl, rfl⟩
        exact ⟨[], run_ret.mpr ⟨rfl, rfl⟩, rfl⟩
      · rintro ⟨tr, h, rfl⟩
        obtain ⟨rfl, rfl⟩ := run_ret.mp h
        exact ⟨rfl, rfl⟩
  | ask e k ih =>
      cases hfe : f e with
      | none =>
          rw [hide_ask_none hfe, run_ask]
          constructor
          · rintro ⟨r, t', rfl, h⟩
            obtain ⟨tr, hrun, rfl⟩ := (ih r).mp h
            exact ⟨⟨e, r⟩ :: tr, run_ask.mpr ⟨r, tr, rfl, hrun⟩, observed_cons_none hfe⟩
          · rintro ⟨tr, h, rfl⟩
            obtain ⟨r, tr', rfl, hrun⟩ := run_ask.mp h
            exact ⟨r, observed f tr', observed_cons_none hfe, (ih r).mpr ⟨tr', hrun, rfl⟩⟩
      | some r =>
          rw [hide_ask_some hfe, ih]
          constructor
          · rintro ⟨tr, hrun, rfl⟩
            exact ⟨⟨e, r⟩ :: tr, run_ask.mpr ⟨r, tr, rfl, hrun⟩,
              observed_cons_some hfe⟩
          · rintro ⟨tr, h, rfl⟩
            obtain ⟨r', tr', rfl, hrun⟩ := run_ask.mp h
            have hsub := hf e (Option.isSome_iff_exists.mpr ⟨r, hfe⟩)
            obtain rfl := hsub.elim r r'
            exact ⟨tr', hrun, (observed_cons_some hfe).symm⟩

end Prog

end Interaction
