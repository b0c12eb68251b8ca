import Retimer.Prog

/-!
# Programs whose requests are programs

`interp h p` is `p` with every request `e` carried out by `h e`, a
program over requests of another kind. Two levels of one design meet
here: above, the request is one event with an answer; below, it is the
calls that make up that answer.

What the interpreted program makes sure of in an environment, `p` makes
sure of in the one above, if each event there is a run of its handler
here (`Ensures.of_interp`). The bounds go up in the same way: what the
handlers can ask for is all that the interpreted program can
(`only_interp`). Interpreting twice is interpreting once with the
composed handlers (`interp_interp`), and handlers that hand their
request on change nothing (`interp_id`).

Handlers may also keep a state (`interpState`). The interpreted program
then has the runs of `p`, expanded: `Expands` relates a trace above to
one below in which every event has become a run of its handler, with the
state handed on from one to the next, and `run_interpState` is an
equivalence between the runs of the two levels.

`history` is the environment that accepts everything and keeps it. A
demand on its events is one on what went before them, and holds of every
trace (`wp_history`). `wp_history_only` is the rule for a part that
makes some requests only, and so leaves the history without any others.
-/

namespace Interaction

variable {E E' : Type} {R : E → Type} {R' : E' → Type} {α β S : Type}

namespace Prog

def interp (h : (e : E) → Prog E' R' (R e)) : Prog E R α → Prog E' R' α
  | .ret a => .ret a
  | .ask e k => h e >>= fun r => (k r).interp h

section Interp

variable {h : (e : E) → Prog E' R' (R e)} {p : Prog E R α}

@[simp] theorem interp_ret (a : α) : interp h (.ret a : Prog E R α) = .ret a := rfl

theorem interp_ask {e : E} {k : R e → Prog E R α} :
    interp h (.ask e k) = h e >>= fun r => interp h (k r) := rfl

theorem interp_perform_bind {e : E} {f : R e → Prog E R α} :
    interp h (perform e >>= f) = h e >>= fun r => interp h (f r) := rfl

theorem interp_bind (f : α → Prog E R β) :
    interp h (p >>= f) = interp h p >>= fun a => interp h (f a) := by
  induction p with
  | ret a => rfl
  | ask e k ih => simp only [ask_bind, interp_ask, bind_assoc, ih]

theorem interp_interp {E'' : Type} {R'' : E'' → Type} {h' : (e : E') → Prog E'' R'' (R' e)} :
    interp h' (interp h p) = interp (fun e => interp h' (h e)) p := by
  induction p with
  | ret a => rfl
  | ask e k ih => simp only [interp_ask, interp_bind, ih]

/-- Requests that are handed on as they are. -/
theorem interp_id {p : Prog E R α} : interp perform p = p := by
  induction p with
  | ret a => rfl
  | ask e k ih =>
      show Prog.ask e (fun r => interp perform (k r)) = .ask e k
      simp only [ih]

theorem bind_ret {p : Prog E R α} : p >>= Prog.ret = p := by
  induction p with
  | ret a => rfl
  | ask e k ih => simp only [ask_bind, ih]

theorem interp_perform {e : E} : interp h (perform e) = h e := bind_ret

theorem only_interp {P : E' → Prop} (hh : ∀ e, Only P (h e)) : Only P (interp h p) := by
  induction p with
  | ret a => trivial
  | ask e k ih => exact (hh e).bind ih

/-- The other way round: what the interpreted program makes sure of below, `p`
makes sure of above, if its events are runs of their handlers there. The
hypothesis is on single events; the induction over the program is here. -/
theorem Ensures.of_interp {S' : Type} {env : Env E R S} {env' : Env E' R' S'} {P : E → Prop}
    {π : S → S'} {Q : α → S' → Prop} {s : S} (hp : Only P p)
    (hh : ∀ s e r s', P e → env s ⟨e, r⟩ s' →
      ∃ seg, Run (h e) seg r ∧ Follows env' (π s) seg (π s'))
    (hinterp : Ensures env' (interp h p) Q (π s)) : Ensures env p (fun a s' => Q a (π s')) s := by
  induction p generalizing s with
  | ret a => exact hinterp
  | ask e k ih =>
      intro r s' henv
      obtain ⟨seg, hrun, hfollows⟩ := hh s e r s' hp.1 henv
      rw [interp_ask, Ensures, wp_bind] at hinterp
      have hrest := wp_run hinterp hrun hfollows
      exact ⟨trivial, ih r (hp.2 r) hrest⟩

end Interp

/-! ### Handlers with a state -/

def interpState (h : (e : E) → S → Prog E' R' (R e × S)) : S → Prog E R α → Prog E' R' (α × S)
  | s, .ret a => .ret (a, s)
  | s, .ask e k => h e s >>= fun res => interpState h res.2 (k res.1)

/-- `tr'` is `tr` with every event replaced by a run of its handler. The handler
is started in the state that the last one left behind, and its result is the
answer of the event above. -/
def Expands (h : (e : E) → S → Prog E' R' (R e × S)) :
    S → List (Event E R) → List (Event E' R') → S → Prop
  | s, [], tr', s' => tr' = [] ∧ s' = s
  | s, ev :: tr, tr', s' => ∃ seg rest m, tr' = seg ++ rest ∧ Run (h ev.1 s) seg (ev.2, m)
      ∧ Expands h m tr rest s'

theorem run_interpState {h : (e : E) → S → Prog E' R' (R e × S)} {p : Prog E R α} {s s' : S}
    {tr' : List (Event E' R')} {a : α} : Run (interpState h s p) tr' (a, s')
      ↔ ∃ tr, Run p tr a ∧ Expands h s tr tr' s' := by
  induction p generalizing s tr' with
  | ret b =>
      rw [interpState, run_ret]
      constructor
      · rintro ⟨rfl, heq⟩
        obtain ⟨rfl, rfl⟩ := Prod.mk.inj heq
        exact ⟨[], .nil, rfl, rfl⟩
      · rintro ⟨tr, hrun, hexpands⟩
        obtain ⟨rfl, rfl⟩ := run_ret.mp hrun
        obtain ⟨rfl, rfl⟩ := hexpands
        exact ⟨rfl, rfl⟩
  | ask e k ih =>
      rw [interpState, run_bind]
      constructor
      · rintro ⟨seg, ⟨r, m⟩, rest, rfl, hseg, hrest⟩
        obtain ⟨tr, hrun, hexpands⟩ := (ih r).mp hrest
        exact ⟨⟨e, r⟩ :: tr, .cons hrun, seg, rest, m, rfl, hseg, hexpands⟩
      · rintro ⟨tr, hrun, hexpands⟩
        obtain ⟨r, tr₁, rfl, hrest⟩ := run_ask.mp hrun
        obtain ⟨seg, rest, m, rfl, hseg, hexpands⟩ := hexpands
        exact ⟨seg, (r, m), rest, rfl, hseg, (ih r).mpr ⟨tr₁, hrest, hexpands⟩⟩

/-- What holds at the end of every run is ensured. This is the way back from
runs to `wp`, for results that were proved of runs. -/
theorem ensures_of_runs {env : Env E R S} {p : Prog E R α} {Q : α → S → Prop} {s : S}
    (h : ∀ tr a s', Run p tr a → Follows env s tr s' → Q a s') : Ensures env p Q s := by
  induction p generalizing s with
  | ret a => exact h [] a s .nil rfl
  | ask e k ih =>
      refine fun r s' henv => ⟨trivial, ih r fun tr a s'' hrun hfollows => ?_⟩
      exact h (⟨e, r⟩ :: tr) a s'' (.cons hrun) ⟨s', henv, hfollows⟩

end Prog

/-! ## Histories -/

def history : Env E R (List (Event E R)) := fun past ev past' => past' = past ++ [ev]

theorem follows_history {past tr : List (Event E R)} : Follows history past tr (past ++ tr) := by
  induction tr generalizing past with
  | nil => exact List.append_nil past
  | cons ev tr ih =>
      refine ⟨past ++ [ev], rfl, ?_⟩
      have hrest : Follows history (past ++ [ev]) tr (past ++ [ev] ++ tr) := ih
      rwa [List.append_assoc] at hrest

namespace Prog

variable {G : List (Event E R) → Event E R → Prop} {Q : α → List (Event E R) → Prop}
  {p q : Prog E R α} {past pre : List (Event E R)} {e : E} {ev : Event E R}

@[simp] theorem wp_history_perform {Q : R e → List (Event E R) → Prop} :
    wp history G (perform e) Q past ↔ ∀ r, G past ⟨e, r⟩ ∧ Q r (past ++ [⟨e, r⟩]) := by
  rw [wp_perform]
  constructor
  · exact fun h r => h r _ rfl
  · rintro h r s' rfl
    exact h r

/-- A program that asks for some things only has asked for no others. The past
is the state here, so a demand on it can be made at every event. -/
theorem wp_history_only {P : E → Prop} (hp : Only P p) (h : wp history G p Q past)
    (hpast : ∀ ev ∈ past, P ev.1) :
    wp history (fun past ev => G past ev ∧ ∀ ev' ∈ past, P ev'.1) p Q past := by
  induction p generalizing past with
  | ret a => exact h
  | ask e k ih =>
      rintro r _ rfl
      obtain ⟨hG, hrest⟩ := h r _ rfl
      refine ⟨⟨hG, hpast⟩, ih r (hp.2 r) hrest fun ev hev => ?_⟩
      rcases List.mem_append.mp hev with hev | hev
      · exact hpast ev hev
      · rw [List.mem_singleton.mp hev]
        exact hp.1

/-- What a program asks for next. -/
def request : Prog E R α → Option E
  | .ret _ => none
  | .ask e _ => some e

theorem Trace.next (h : Trace p pre q) (hrequest : q.request = some e) (r : R e) :
    ∃ q', Trace p (pre ++ [⟨e, r⟩]) q' := by
  cases q with
  | ret a => cases hrequest
  | ask e' k =>
      obtain rfl := Option.some.inj hrequest
      exact ⟨k r, trace_append.mpr ⟨_, h, .cons .nil⟩⟩

/-- What is demanded of an event with its history holds wherever it is made, in
a run that has ended or in one that has not. -/
theorem wp_history (h : wp history G p Q []) (htr : Trace p (pre ++ [ev]) q) : G pre ev :=
  wp_event h htr follows_history rfl

end Prog

end Interaction
