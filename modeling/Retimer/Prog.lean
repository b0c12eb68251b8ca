import Mathlib.Tactic.Common

/-!
# Interaction programs

A program is a tree: it has returned, or it asks its environment for
something (`e : E`) and goes on with whatever answer of type `R e` it
gets. The tree fixes no environment. `Trace` lists what a program can
ask and be answered, for every way the environment may behave; `Run` is
a trace that ends in a result. An environment is then a relation on a
state of its own (`Env`), and `Follows` says that it accepts a trace.
The product of the two is a run of the program in that environment.

Everything about sequences goes through a handful of inversion rules:

- `run_bind` cuts a run of `p >>= f` in two, and `run_perform_bind`
  takes its first event off; both are equivalences, so that a program of
  twenty statements is read by applying them twenty times.
- `trace_bind` is the same for a trace that may stop anywhere: inside
  the first program, or after the whole of it.
- `follows_append` cuts the environment's side at the same place.

Two static bounds need no environment at all: `Only P p`, every request
`p` can make satisfies `P`, and `Returns Q p`, every result does. They
are found by recursion on the program, once for each function, and
`trace_bind_marked`/`trace_bind_unmarked` use the first to find the part
of a sequence in which an event with a known property was made.

`Prog.wp` is the matching program logic: one predicate transformer that
carries a postcondition and a demand on every event at the state in
which it happens. `wp_run` and `wp_event` read both back off a run, the
second also off one that never ends. `Ensures` is `wp` without the
demand, `wp_of_only` the rule for an invariant that every possible
request preserves, `Ensures.simulate` the one for a coarser view of the
environment.

`play` goes the other way and makes traces: it runs a program against a
player that computes the answers. `run_play` and `follows_play` turn
such a play into a run and into a trace of any environment the player
keeps to. `parts` cuts a list of events at the ones of a kind.
-/

namespace Interaction

/-- A program over the requests `E`, answered in `R`, with result in `α`. It
branches over every answer it may get, so the one tree holds all the runs there
can be. -/
inductive Prog (E : Type) (R : E → Type) (α : Type) : Type where
  | ret (a : α)
  | ask (e : E) (k : R e → Prog E R α)

/-- A request with the answer it got. -/
abbrev Event (E : Type) (R : E → Type) : Type := (e : E) × R e

variable {E : Type} {R : E → Type} {α β : Type}

/-! ## Cuts of a list of events -/

theorem cut_after {front rest pre post : List α} {x : α} (h : front ++ rest = pre ++ x :: post)
    (hx : x ∉ front) : ∃ mid, pre = front ++ mid ∧ rest = mid ++ x :: post := by
  rcases List.append_eq_append_iff.mp h with ⟨cs, rfl, hcs⟩ | ⟨cs, rfl, hcs⟩
  · exact ⟨cs, rfl, hcs⟩
  · cases cs with
    | nil => exact ⟨[], by simp, hcs.symm⟩
    | cons y cs =>
        obtain ⟨rfl, -⟩ := List.cons.inj hcs
        exact absurd (List.mem_append_right pre List.mem_cons_self) hx

theorem cut_at {tr : List (Event E R)} {i : Nat} {e : E} (h : tr[i]?.map (·.1) = some e) :
    ∃ r, tr = tr.take i ++ ⟨e, r⟩ :: tr.drop (i + 1) := by
  obtain ⟨⟨e', r⟩, hget, rfl⟩ := Option.map_eq_some_iff.mp h
  obtain ⟨hlt, hev⟩ := List.getElem?_eq_some_iff.mp hget
  refine ⟨r, ?_⟩
  rw [← hev, ← List.drop_eq_getElem_cons hlt, List.take_append_drop]

/-- The parts of a list that start at an element with `p`. What is in front of
the first one is in none of them. -/
def parts (p : α → Bool) : List α → List (List α)
  | [] => []
  | x :: xs => if p x then (x :: xs.takeWhile (!p ·)) :: parts p xs else parts p xs

section Parts

variable {p : α → Bool} {x : α} {xs rest : List α}

theorem parts_skip (hxs : ∀ y ∈ xs, p y = false) : parts p (xs ++ rest) = parts p rest := by
  induction xs with
  | nil => rfl
  | cons y xs ih =>
      rw [List.cons_append, parts, hxs y List.mem_cons_self, if_neg Bool.false_ne_true]
      exact ih fun z hz => hxs z (List.mem_cons_of_mem _ hz)

theorem parts_cons (hx : p x = true) (hxs : ∀ y ∈ xs, p y = false)
    (hrest : ∀ y ∈ rest.head?, p y = true) :
    parts p (x :: xs ++ rest) = (x :: xs) :: parts p rest := by
  have hown : (xs ++ rest).takeWhile (!p ·) = xs := by
    have hall : ∀ y ∈ xs, (!p y) = true := fun y hy => by rw [hxs y hy]; rfl
    rw [List.takeWhile_append_of_pos hall]
    cases rest with
    | nil => exact List.append_nil xs
    | cons y rest =>
        have hy : ¬(!p y) = true := by rw [hrest y rfl]; exact Bool.false_ne_true
        rw [List.takeWhile_cons, if_neg hy, List.append_nil]
  rw [List.cons_append, parts, if_pos hx, hown, parts_skip hxs]

end Parts
namespace Prog

protected def bind : Prog E R α → (α → Prog E R β) → Prog E R β
  | .ret a, f => f a
  | .ask e k, f => .ask e fun r => (k r).bind f

instance : Monad (Prog E R) where
  pure := .ret
  bind := Prog.bind

/-- Ask for `e` and return the answer. -/
def perform (e : E) : Prog E R (R e) := .ask e .ret

@[simp] theorem pure_eq (a : α) : (pure a : Prog E R α) = .ret a := rfl

@[simp] theorem ret_bind (a : α) (f : α → Prog E R β) :
    (Prog.ret a : Prog E R α) >>= f = f a := rfl

@[simp] theorem ask_bind (e : E) (k : R e → Prog E R α) (f : α → Prog E R β) :
    (Prog.ask e k) >>= f = .ask e fun r => k r >>= f := rfl

theorem bind_assoc {γ : Type} (p : Prog E R α) (f : α → Prog E R β)
    (g : β → Prog E R γ) : (p >>= f) >>= g = p >>= fun a => f a >>= g := by
  induction p with
  | ret a => rfl
  | ask e k ih => simp only [ask_bind, ih]

/-! ## Traces -/

/-- `Trace p tr q`: `p` goes through the events `tr` and is `q` after them.
Nothing is said of whether `q` has come to its end; a program that waits for
ever has all of its traces. -/
inductive Trace : Prog E R α → List (Event E R) → Prog E R α → Prop where
  | nil {p : Prog E R α} : Trace p [] p
  | cons {e : E} {r : R e} {k : R e → Prog E R α} {tr : List (Event E R)}
      {q : Prog E R α} : Trace (k r) tr q → Trace (.ask e k) (⟨e, r⟩ :: tr) q

/-- A trace of `p` to the end, with result `a`. For a program `p` and events
`tr` there is at most one `a`: what a program returns is a function of what it
was answered. -/
def Run (p : Prog E R α) (tr : List (Event E R)) (a : α) : Prop :=
  Trace p tr (.ret a)

theorem trace_nil {p q : Prog E R α} : Trace p [] q ↔ q = p := by
  constructor
  · intro h; cases h; rfl
  · rintro rfl; exact .nil

theorem trace_ret {a : α} {tr : List (Event E R)} {q : Prog E R α} :
    Trace (.ret a) tr q ↔ tr = [] ∧ q = .ret a := by
  constructor
  · intro h; cases h; exact ⟨rfl, rfl⟩
  · rintro ⟨rfl, rfl⟩; exact .nil

theorem trace_ask {e : E} {k : R e → Prog E R α} {tr : List (Event E R)}
    {q : Prog E R α} :
    Trace (.ask e k) tr q ↔ (tr = [] ∧ q = .ask e k)
      ∨ ∃ r tr', tr = ⟨e, r⟩ :: tr' ∧ Trace (k r) tr' q := by
  constructor
  · intro h
    cases h with
    | nil => exact Or.inl ⟨rfl, rfl⟩
    | cons h => exact Or.inr ⟨_, _, rfl, h⟩
  · rintro (⟨rfl, rfl⟩ | ⟨r, tr', rfl, h⟩)
    · exact .nil
    · exact .cons h

theorem trace_perform_bind {e : E} {f : R e → Prog E R β} {tr : List (Event E R)}
    {q : Prog E R β} : Trace (perform e >>= f) tr q ↔ (tr = [] ∧ q = perform e >>= f)
      ∨ ∃ r tr', tr = ⟨e, r⟩ :: tr' ∧ Trace (f r) tr' q :=
  trace_ask

theorem trace_append {p q : Prog E R α} {tr tr' : List (Event E R)} :
    Trace p (tr ++ tr') q ↔ ∃ m, Trace p tr m ∧ Trace m tr' q := by
  constructor
  · intro h
    induction tr generalizing p with
    | nil => exact ⟨p, .nil, h⟩
    | cons ev tr ih =>
        cases h with
        | cons h =>
            obtain ⟨m, h1, h2⟩ := ih h
            exact ⟨m, .cons h1, h2⟩
  · rintro ⟨m, h1, h2⟩
    induction h1 with
    | nil => exact h2
    | cons _ ih => exact .cons (ih h2)

theorem Trace.bind {p q : Prog E R α} {tr : List (Event E R)}
    (h : Trace p tr q) (f : α → Prog E R β) :
    Trace (p >>= f) tr (q >>= f) := by
  induction h with
  | nil => exact .nil
  | cons _ ih => exact .cons ih

/-- A trace of a sequence stops inside the first program, or runs it to the
end and goes on in the second. -/
theorem trace_bind {p : Prog E R α} {f : α → Prog E R β}
    {tr : List (Event E R)} {q : Prog E R β} :
    Trace (p >>= f) tr q ↔ (∃ p', Trace p tr p' ∧ q = p' >>= f)
      ∨ ∃ tr₁ a tr₂, tr = tr₁ ++ tr₂ ∧ Run p tr₁ a ∧ Trace (f a) tr₂ q := by
  constructor
  · intro h
    induction p generalizing tr with
    | ret a => exact Or.inr ⟨[], a, tr, rfl, .nil, h⟩
    | ask e k ih =>
        rcases trace_ask.mp h with ⟨rfl, rfl⟩ | ⟨r, tr', rfl, h'⟩
        · exact Or.inl ⟨_, .nil, rfl⟩
        · rcases ih r h' with ⟨p', h1, rfl⟩ | ⟨tr₁, a, tr₂, rfl, h1, h2⟩
          · exact Or.inl ⟨p', .cons h1, rfl⟩
          · exact Or.inr ⟨⟨e, r⟩ :: tr₁, a, tr₂, rfl, .cons h1, h2⟩
  · rintro (⟨p', h, rfl⟩ | ⟨tr₁, a, tr₂, rfl, h1, h2⟩)
    · exact h.bind f
    · exact trace_append.mpr ⟨f a, h1.bind f, h2⟩

/-! ## Runs -/

@[simp] theorem run_ret {a b : α} {tr : List (Event E R)} :
    Run (.ret a) tr b ↔ tr = [] ∧ b = a := by
  rw [Run, trace_ret, ret.injEq]

theorem run_ask {e : E} {k : R e → Prog E R α} {tr : List (Event E R)}
    {a : α} : Run (.ask e k) tr a ↔
      ∃ r tr', tr = ⟨e, r⟩ :: tr' ∧ Run (k r) tr' a := by
  rw [Run, trace_ask]
  simp only [reduceCtorEq, and_false, false_or, Run]

@[simp] theorem run_perform {e : E} {r : R e} {tr : List (Event E R)} :
    Run (perform e) tr r ↔ tr = [⟨e, r⟩] := by
  rw [perform, run_ask]
  constructor
  · rintro ⟨r', tr', rfl, h⟩
    obtain ⟨rfl, rfl⟩ := run_ret.mp h
    rfl
  · rintro rfl
    exact ⟨r, [], rfl, run_ret.mpr ⟨rfl, rfl⟩⟩

/-- The one inversion rule for sequences; every run lemma goes through it. The
middle result is a witness, and the events are cut where the first program
returned. -/
theorem run_bind {p : Prog E R α} {f : α → Prog E R β}
    {tr : List (Event E R)} {b : β} :
    Run (p >>= f) tr b ↔
      ∃ tr₁ a tr₂, tr = tr₁ ++ tr₂ ∧ Run p tr₁ a ∧ Run (f a) tr₂ b := by
  constructor
  · intro h
    rcases trace_bind.mp h with ⟨p', h1, h2⟩ | h
    · cases p' with
      | ret a => exact ⟨tr, a, [], (List.append_nil tr).symm, h1, trace_nil.mpr h2⟩
      | ask e k => simp only [ask_bind, reduceCtorEq] at h2
    · exact h
  · intro h
    exact trace_bind.mpr (Or.inr h)

theorem run_perform_bind {e : E} {f : R e → Prog E R β}
    {tr : List (Event E R)} {b : β} :
    Run (perform e >>= f) tr b ↔ ∃ r tr', tr = ⟨e, r⟩ :: tr' ∧ Run (f r) tr' b :=
  run_ask

theorem run_perform_cons {e : E} {r : R e} {f : R e → Prog E R β} {tr : List (Event E R)} {b : β} :
    Run (perform e >>= f) (⟨e, r⟩ :: tr) b ↔ Run (f r) tr b := by
  rw [run_perform_bind]
  constructor
  · rintro ⟨r', tr', heq, h⟩
    obtain ⟨hev, rfl⟩ := List.cons.inj heq
    obtain rfl := eq_of_heq (Sigma.mk.inj hev).2
    exact h
  · intro h
    exact ⟨r, tr, rfl, h⟩

/-! ## The requests of a program -/

/-- Every request `p` can make satisfies `P`. -/
def Only (P : E → Prop) : Prog E R α → Prop
  | .ret _ => True
  | .ask e k => P e ∧ ∀ r, Only P (k r)

section Only

variable {P Q : E → Prop}

@[simp] theorem only_ret {a : α} : Only P (.ret a : Prog E R α) := trivial

@[simp] theorem only_ask {e : E} {k : R e → Prog E R α} :
    Only P (.ask e k) ↔ P e ∧ ∀ r, Only P (k r) := Iff.rfl

@[simp] theorem only_perform {e : E} : Only P (perform e : Prog E R (R e)) ↔ P e :=
  ⟨fun h => h.1, fun h => ⟨h, fun _ => trivial⟩⟩

theorem Only.bind {p : Prog E R α} {f : α → Prog E R β} (hp : Only P p)
    (hf : ∀ a, Only P (f a)) : Only P (p >>= f) := by
  induction p with
  | ret a => exact hf a
  | ask e k ih => exact ⟨hp.1, fun r => ih r (hp.2 r)⟩

theorem Only.ite {c : Prop} [Decidable c] {p q : Prog E R α} (hp : Only P p) (hq : Only P q) :
    Only P (if c then p else q) := by
  split
  · exact hp
  · exact hq

theorem Only.mono {p : Prog E R α} (hp : Only P p) (h : ∀ e, P e → Q e) : Only Q p := by
  induction p with
  | ret a => trivial
  | ask e k ih => exact ⟨h e hp.1, fun r => ih r (hp.2 r)⟩

theorem Only.and {p : Prog E R α} (hp : Only P p) (hq : Only Q p) :
    Only (fun e => P e ∧ Q e) p := by
  induction p with
  | ret a => trivial
  | ask e k ih => exact ⟨⟨hp.1, hq.1⟩, fun r => ih r (hp.2 r) (hq.2 r)⟩

theorem Only.trace {p q : Prog E R α} {tr : List (Event E R)} (hp : Only P p)
    (h : Trace p tr q) : (∀ ev ∈ tr, P ev.1) ∧ Only P q := by
  induction h with
  | nil => exact ⟨fun ev hev => absurd hev List.not_mem_nil, hp⟩
  | cons h ih =>
      obtain ⟨htr, hq⟩ := ih (hp.2 _)
      exact ⟨List.forall_mem_cons.mpr ⟨hp.1, htr⟩, hq⟩

theorem Only.run {p : Prog E R α} {a : α} {tr : List (Event E R)} (hp : Only P p)
    (h : Run p tr a) : ∀ ev ∈ tr, P ev.1 :=
  (hp.trace h).1

/-- A request that `p` cannot make was made after `p`, and `p` had run to its
end before it. With `trace_bind_unmarked` this places an event in one of the two
parts of a sequence by what it is, whatever the answers were. -/
theorem trace_bind_marked {p : Prog E R α} {f : α → Prog E R β} {q : Prog E R β}
    {pre seg : List (Event E R)} {ev : Event E R} (hp : Only P p) (hev : ¬P ev.1)
    (h : Trace (p >>= f) (pre ++ ev :: seg) q) :
    ∃ pre₁ a pre₂, pre = pre₁ ++ pre₂ ∧ Run p pre₁ a ∧ Trace (f a) (pre₂ ++ ev :: seg) q := by
  have hmem : ev ∈ pre ++ ev :: seg := by simp
  rcases trace_bind.mp h with ⟨p', h1, -⟩ | ⟨tr₁, a, tr₂, heq, h1, h2⟩
  · exact absurd ((hp.trace h1).1 ev hmem) hev
  · obtain ⟨mid, rfl, rfl⟩ := cut_after heq.symm fun hmem => hev (hp.run h1 ev hmem)
    exact ⟨tr₁, a, mid, rfl, h1, h2⟩

/-- A request that nothing behind `p` can make was made in `p`. -/
theorem trace_bind_unmarked {p : Prog E R α} {f : α → Prog E R β} {q : Prog E R β}
    {pre : List (Event E R)} {ev : Event E R} (hf : ∀ a, Only P (f a)) (hev : ¬P ev.1)
    (h : Trace (p >>= f) (pre ++ [ev]) q) : ∃ p', Trace p (pre ++ [ev]) p' := by
  rcases trace_bind.mp h with ⟨p', h1, -⟩ | ⟨tr₁, a, tr₂, heq, h1, h2⟩
  · exact ⟨p', h1⟩
  · rcases List.eq_nil_or_concat tr₂ with rfl | ⟨tr₂', ev', rfl⟩
    · rw [heq, List.append_nil]
      exact ⟨_, h1⟩
    · rw [List.concat_eq_append, ← List.append_assoc] at heq
      obtain rfl : ev = ev' := by simpa using (List.append_inj' heq rfl).2
      exact absurd (((hf a).trace h2).1 ev (by simp)) hev

theorem Only.last {p q : Prog E R α} {pre : List (Event E R)} {ev : Event E R} (hp : Only P p)
    (h : Trace p (pre ++ [ev]) q) : P ev.1 :=
  (hp.trace h).1 ev (by simp)

end Only

/-! ## The results of a program -/

/-- Every result `p` can have satisfies `Q`. -/
def Returns (Q : α → Prop) : Prog E R α → Prop
  | .ret a => Q a
  | .ask _ k => ∀ r, Returns Q (k r)

section Returns

variable {Q : α → Prop}

@[simp] theorem returns_ret {a : α} : Returns Q (.ret a : Prog E R α) ↔ Q a := Iff.rfl

theorem Returns.bind {p : Prog E R α} {f : α → Prog E R β} {P : β → Prop} (hp : Returns Q p)
    (hf : ∀ a, Q a → Returns P (f a)) : Returns P (p >>= f) := by
  induction p with
  | ret a => exact hf a hp
  | ask e k ih => exact fun r => ih r (hp r)

theorem Returns.ite {c : Prop} [Decidable c] {p q : Prog E R α} (hp : c → Returns Q p)
    (hq : ¬c → Returns Q q) : Returns Q (if c then p else q) := by
  split
  · exact hp ‹c›
  · exact hq ‹¬c›

theorem Returns.run {p : Prog E R α} {a : α} {tr : List (Event E R)} (hp : Returns Q p)
    (h : Run p tr a) : Q a := by
  induction tr generalizing p with
  | nil =>
      obtain rfl := (trace_nil.mp h).symm
      exact hp
  | cons ev tr ih =>
      cases h with
      | cons h => exact ih (hp _) h

end Returns

/-! ## Playing against given answers -/

/-- The first `n` events of `p` when a player with state in `σ` gives the
answers, for as long as it has one; what is left of `p`, and of the state. A
player that answers `none` stops the play, so that a partial player plays a
prefix of a run. -/
def play {σ : Type} (answer : σ → (e : E) → Option (R e × σ)) :
    Nat → σ → Prog E R α → List (Event E R) × Prog E R α × σ
  | 0, s, p => ([], p, s)
  | _ + 1, s, .ret a => ([], .ret a, s)
  | n + 1, s, .ask e k =>
      match answer s e with
      | none => ([], .ask e k, s)
      | some (r, s') =>
          let rest := play answer n s' (k r)
          (⟨e, r⟩ :: rest.1, rest.2)

theorem trace_play {σ : Type} (answer : σ → (e : E) → Option (R e × σ)) (n : Nat) (s : σ)
    (p : Prog E R α) : Trace p (play answer n s p).1 (play answer n s p).2.1 := by
  induction n generalizing s p with
  | zero => exact .nil
  | succ n ih =>
      cases p with
      | ret a => exact .nil
      | ask e k =>
          simp only [play]
          split
          · exact .nil
          · exact .cons (ih _ _)

def result : Prog E R α → Option α
  | .ret a => some a
  | .ask _ _ => none

/-- A play to the end is a run. A concrete run is made this way: the player
answers, and its trace is computed with it. -/
theorem run_play {σ : Type} {answer : σ → (e : E) → Option (R e × σ)} {n : Nat} {s : σ}
    {p : Prog E R α} {a : α} (h : (play answer n s p).2.1.result = some a) :
    Run p (play answer n s p).1 a := by
  have htr := trace_play answer n s p
  cases hp : (play answer n s p).2.1 with
  | ret a' =>
      rw [hp] at h htr
      obtain rfl := Option.some.inj h
      exact htr
  | ask e k =>
      rw [hp] at h
      cases h

theorem run_play_some {σ : Type} {answer : σ → (e : E) → Option (R e × σ)} {n : Nat} {s : σ}
    {p : Prog E R (Option α)} {a : α}
    (h : ((play answer n s p).2.1.result.getD none).isSome = true) :
    Run p (play answer n s p).1 (some (((play answer n s p).2.1.result.getD none).getD a)) := by
  apply run_play
  cases hresult : (play answer n s p).2.1.result with
  | none => simp [hresult] at h
  | some res =>
      cases res with
      | none => simp [hresult] at h
      | some a' => rfl

end Prog

/-! ## Environments -/

/-- An environment with state in `S`: which answers it may give, and what it
does to its state. It is a relation and need not be total: an answer it does not
relate to any later state is one it never gives. -/
abbrev Env (E : Type) (R : E → Type) (S : Type) : Type :=
  S → Event E R → S → Prop

variable {S : Type}

/-- The environment accepts the events of a trace one after the other. -/
def Follows (env : Env E R S) : S → List (Event E R) → S → Prop
  | s, [], s' => s' = s
  | s, ev :: tr, s' => ∃ m, env s ev m ∧ Follows env m tr s'

@[simp] theorem follows_nil {env : Env E R S} {s s' : S} :
    Follows env s [] s' ↔ s' = s := Iff.rfl

@[simp] theorem follows_cons {env : Env E R S} {s s' : S} {ev : Event E R}
    {tr : List (Event E R)} :
    Follows env s (ev :: tr) s' ↔ ∃ m, env s ev m ∧ Follows env m tr s' := Iff.rfl

theorem follows_append {env : Env E R S} {s s' : S} {tr tr' : List (Event E R)} :
    Follows env s (tr ++ tr') s' ↔ ∃ m, Follows env s tr m ∧ Follows env m tr' s' := by
  induction tr generalizing s with
  | nil => simp
  | cons ev tr ih =>
      simp only [List.cons_append, follows_cons, ih]
      constructor
      · rintro ⟨m, h1, n, h2, h3⟩; exact ⟨n, ⟨m, h1, h2⟩, h3⟩
      · rintro ⟨n, ⟨m, h1, h2⟩, h3⟩; exact ⟨m, h1, n, h2, h3⟩

/-- What one step preserves, a trace preserves. -/
theorem Follows.invariant {env : Env E R S} {P : Event E R → Prop} {I : S → Prop}
    (hstep : ∀ s ev s', I s → P ev → env s ev s' → I s') {s s' : S}
    {tr : List (Event E R)} (h : Follows env s tr s') (htr : ∀ ev ∈ tr, P ev) (hs : I s) :
    I s' := by
  induction tr generalizing s with
  | nil => exact follows_nil.mp h ▸ hs
  | cons ev tr ih =>
      obtain ⟨m, h1, h2⟩ := h
      obtain ⟨hev, hrest⟩ := List.forall_mem_cons.mp htr
      exact ih h2 hrest (hstep s ev m hs hev h1)

/-- A trace in an environment is one in any coarser view of it. This is how what
was proved of a part of the state is used for the whole. -/
theorem Follows.map {S' : Type} {env : Env E R S} {env' : Env E R S'} {π : S → S'}
    (hstep : ∀ s ev s', env s ev s' → env' (π s) ev (π s')) {s s' : S}
    {tr : List (Event E R)} (h : Follows env s tr s') : Follows env' (π s) tr (π s') := by
  induction tr generalizing s with
  | nil => exact congrArg π h
  | cons ev tr ih =>
      obtain ⟨m, h1, h2⟩ := h
      exact ⟨π m, hstep s ev m h1, ih h2⟩

theorem Follows.forall_mem {env : Env E R S} {P : Event E R → Prop}
    (hstep : ∀ s ev s', env s ev s' → P ev) {s s' : S} {tr : List (Event E R)}
    (h : Follows env s tr s') : ∀ ev ∈ tr, P ev := by
  induction tr generalizing s with
  | nil => exact fun ev hev => absurd hev List.not_mem_nil
  | cons ev tr ih =>
      obtain ⟨m, h1, h2⟩ := h
      exact List.forall_mem_cons.mpr ⟨hstep s ev m h1, ih h2⟩

/-- Two environments side by side. -/
def Env.prod {S' : Type} (env : Env E R S) (env' : Env E R S') : Env E R (S × S') :=
  fun s ev s' => env s.1 ev s'.1 ∧ env' s.2 ev s'.2

theorem Follows.left {S' : Type} {env : Env E R S} {env' : Env E R S'} {s s' : S × S'}
    {tr : List (Event E R)} (h : Follows (env.prod env') s tr s') : Follows env s.1 tr s'.1 :=
  h.map fun _ _ _ h => h.1

theorem Follows.right {S' : Type} {env : Env E R S} {env' : Env E R S'} {s s' : S × S'}
    {tr : List (Event E R)} (h : Follows (env.prod env') s tr s') : Follows env' s.2 tr s'.2 :=
  h.map fun _ _ _ h => h.2

/-- A player that keeps to the environment plays traces of it. -/
theorem follows_play {σ : Type} {env : Env E R σ} {answer : σ → (e : E) → Option (R e × σ)}
    (hanswer : ∀ s e r s', answer s e = some (r, s') → env s ⟨e, r⟩ s') (n : Nat) (s : σ)
    (p : Prog E R α) : Follows env s (p.play answer n s).1 (p.play answer n s).2.2 := by
  induction n generalizing s p with
  | zero => rfl
  | succ n ih =>
      cases p with
      | ret a => rfl
      | ask e k =>
          simp only [Prog.play]
          split
          · rfl
          · next r s' heq => exact ⟨s', hanswer s e r s' heq, ih _ _⟩

/-- What holds of every answer of a player holds of every event of a play. One
look at the player replaces going through the trace. -/
theorem mem_play {σ : Type} {answer : σ → (e : E) → Option (R e × σ)} {P : Event E R → Prop}
    (hanswer : ∀ s e r s', answer s e = some (r, s') → P ⟨e, r⟩) (n : Nat) (s : σ)
    (p : Prog E R α) : ∀ ev ∈ (p.play answer n s).1, P ev := by
  have hfollows : Follows (fun _ ev _ => P ev) s (p.play answer n s).1 (p.play answer n s).2.2 :=
    follows_play hanswer n s p
  have hstep : ∀ (s : σ) (ev : Event E R) (s' : σ), (fun _ ev _ => P ev) s ev s' → P ev :=
    fun _ _ _ h => h
  exact hfollows.forall_mem hstep

/-! ## The program logic -/

namespace Prog

variable {env : Env E R S} {G G' : S → Event E R → Prop}

/-- Weakest precondition of `p` in `env`: every event meets `G` at the state
before it, and the result and the final state meet `Q`. It quantifies over the
answers that `env` may give, so it holds vacuously of a program that `env` gives
no answer. -/
def wp (env : Env E R S) (G : S → Event E R → Prop) :
    Prog E R α → (α → S → Prop) → S → Prop
  | .ret a, Q, s => Q a s
  | .ask e k, Q, s => ∀ r s', env s ⟨e, r⟩ s' → G s ⟨e, r⟩ ∧ wp env G (k r) Q s'

@[simp] theorem wp_ret {a : α} {Q : α → S → Prop} {s : S} :
    wp env G (.ret a) Q s ↔ Q a s := Iff.rfl

theorem wp_ask {e : E} {k : R e → Prog E R α} {Q : α → S → Prop} {s : S} :
    wp env G (.ask e k) Q s ↔
      ∀ r s', env s ⟨e, r⟩ s' → G s ⟨e, r⟩ ∧ wp env G (k r) Q s' := Iff.rfl

theorem wp_perform {e : E} {Q : R e → S → Prop} {s : S} :
    wp env G (perform e) Q s ↔
      ∀ r s', env s ⟨e, r⟩ s' → G s ⟨e, r⟩ ∧ Q r s' := Iff.rfl

theorem wp_bind {p : Prog E R α} {f : α → Prog E R β} {Q : β → S → Prop} {s : S} :
    wp env G (p >>= f) Q s ↔ wp env G p (fun a s' => wp env G (f a) Q s') s := by
  induction p generalizing s with
  | ret a => rfl
  | ask e k ih => simp only [ask_bind, wp_ask, ih]

theorem wp_mono {p : Prog E R α} {Q Q' : α → S → Prop} {s : S}
    (h : wp env G p Q s) (hG : ∀ s ev, G s ev → G' s ev)
    (hQ : ∀ a s', Q a s' → Q' a s') : wp env G' p Q' s := by
  induction p generalizing s with
  | ret a => exact hQ a s h
  | ask e k ih =>
      intro r s' hs
      exact ⟨hG _ _ (h r s' hs).1, ih r (h r s' hs).2⟩

/-- An invariant that every request `p` can make preserves: one step lemma for
the requests that satisfy `P`, and the syntactic bound `Only P p`, give the run
lemma, with no look at the program's own control flow. -/
theorem wp_of_only {P : E → Prop} {I : S → Prop} {p : Prog E R α} (hp : Only P p)
    (hstep : ∀ s e r s', P e → I s → env s ⟨e, r⟩ s' → G s ⟨e, r⟩ ∧ I s') {s : S} (hs : I s) :
    wp env G p (fun _ s' => I s') s := by
  induction p generalizing s with
  | ret a => exact hs
  | ask e k ih =>
      intro r s' henv
      obtain ⟨hG, hI⟩ := hstep s e r s' hp.1 hs henv
      exact ⟨hG, ih r (hp.2 r) hI⟩

/-- Weakest precondition without a demand on events. -/
abbrev Ensures (env : Env E R S) (p : Prog E R α) (Q : α → S → Prop) (s : S) : Prop :=
  wp env (fun _ _ => True) p Q s

theorem Ensures.and {p : Prog E R α} {Q Q' : α → S → Prop} {s : S} (h : Ensures env p Q s)
    (h' : Ensures env p Q' s) : Ensures env p (fun a s' => Q a s' ∧ Q' a s') s := by
  induction p generalizing s with
  | ret a => exact ⟨h, h'⟩
  | ask e k ih =>
      exact fun r s' hs => ⟨trivial, ih r (h r s' hs).2 (h' r s' hs).2⟩

/-- What `p` ensures in an environment it ensures in any that is simulated by
it, step by step and for what `p` can ask. `I` is an invariant of the finer
environment, `π` what the coarser one sees of its state. -/
theorem Ensures.simulate {S' : Type} {env' : Env E R S'} {P : E → Prop} {I : S → Prop} {π : S → S'}
    {p : Prog E R α} {Q : α → S' → Prop} (hp : Only P p)
    (hstep : ∀ s e r s', P e → I s → env s ⟨e, r⟩ s' → env' (π s) ⟨e, r⟩ (π s') ∧ I s') {s : S}
    (hs : I s) (h : Ensures env' p Q (π s)) : Ensures env p (fun a s' => Q a (π s')) s := by
  induction p generalizing s with
  | ret a => exact h
  | ask e k ih =>
      intro r s' henv
      obtain ⟨hsim, hI⟩ := hstep s e r s' hp.1 hs henv
      exact ⟨trivial, ih r (hp.2 r) hI (h r (π s') hsim).2⟩

/-- What `p` can ask for is a demand it meets, so a demand on requests alone
comes on top of whatever `p` ensures. -/
theorem Ensures.of_only {P : E → Prop} {p : Prog E R α} {Q : α → S → Prop} {s : S}
    (h : Ensures env p Q s) (hp : Only P p) : wp env (fun _ ev => P ev.1) p Q s := by
  induction p generalizing s with
  | ret a => exact h
  | ask e k ih =>
      intro r s' henv
      exact ⟨hp.1, ih r (h r s' henv).2 (hp.2 r)⟩

/-- The postcondition holds at the end of every run. -/
theorem wp_run {p : Prog E R α} {Q : α → S → Prop} {s s' : S} {a : α}
    {tr : List (Event E R)} (h : wp env G p Q s) (hrun : Run p tr a)
    (hf : Follows env s tr s') : Q a s' := by
  induction tr generalizing p s with
  | nil =>
      obtain rfl := (trace_nil.mp hrun).symm
      exact follows_nil.mp hf ▸ h
  | cons ev tr ih =>
      cases hrun with
      | cons hrun =>
          obtain ⟨m, h1, h2⟩ := hf
          exact ih (h _ _ h1).2 hrun h2

/-- The demand on events holds wherever a trace has got to, whether or not the
program goes on to return: a request is judged by what went before it alone. -/
theorem wp_event {p q : Prog E R α} {Q : α → S → Prop} {s m s' : S}
    {pre : List (Event E R)} {ev : Event E R} (h : wp env G p Q s)
    (htr : Trace p (pre ++ [ev]) q) (hf : Follows env s pre m)
    (hev : env m ev s') : G m ev := by
  induction pre generalizing p s with
  | nil =>
      obtain rfl := follows_nil.mp hf
      cases htr with
      | cons _ => exact (h _ _ hev).1
  | cons ev' pre ih =>
      cases htr with
      | cons htr =>
          obtain ⟨n, h1, h2⟩ := hf
          exact ih (h _ _ h1).2 htr h2

/-- The environment may be taken to accept only events that meet the demand. A
demand that was met is available from then on like a fact about the environment. -/
theorem wp_follows {p q : Prog E R α} {Q : α → S → Prop} {s s' : S} {tr : List (Event E R)}
    (h : wp env G p Q s) (htr : Trace p tr q) (hf : Follows env s tr s') :
    Follows (fun s ev s' => G s ev ∧ env s ev s') s tr s' := by
  induction htr generalizing s with
  | nil => exact hf
  | cons _ ih =>
      obtain ⟨m, h1, h2⟩ := hf
      exact ⟨m, ⟨(h _ _ h1).1, h1⟩, ih (h _ _ h1).2 h2⟩

end Prog

end Interaction
