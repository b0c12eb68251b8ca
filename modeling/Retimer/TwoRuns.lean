import Retimer.Prog
import Mathlib.Data.List.Forall2

/-!
# Two runs side by side

Two programs, each in its own environment, taken step by step together.
`asked` says which requests correspond and `alike` which answered
requests do; where corresponding requests are always answered alike
(`AnsweredAlike`, by position in the two traces), `Both` is the weakest
precondition of a relation between the two results and the two final
states. `both_run` reads it off a pair of runs, and says as well that
the two traces correspond event by event.

Its rules are those of `wp`, two at a time: `Both.bind` for sequences,
`Both.ite` where the two tests come out the same, `Both.mono` for the
relation at the end, and `Both.wp` to use in it what each of the
programs ensures on its own. The programs need not be the same one; a
loop with different bodies is an induction over both.

`both_self` is the rule for one program run twice: an invariant between
the two states that makes the answers equal makes the runs equal. Only
the requests of the program matter for it (`Only`), so it takes one
lemma on single events and no look at the program.

Without environments the same gives determinacy: a program whose
requests are answered the same does the same (`run_same`), and it is
enough that the requests which leave a choice are
(`run_same_of_filter`).
-/

namespace Interaction

variable {E : Type} {R : E → Type} {α β γ δ S S' : Type}

/-- Position by position, what corresponds is answered alike. Where the requests
at a position do not correspond, nothing is asked of their answers. -/
def AnsweredAlike (asked : E → E → Prop) (alike : Event E R → Event E R → Prop) :
    List (Event E R) → List (Event E R) → Prop
  | ev :: tr, ev' :: tr' => (asked ev.1 ev'.1 → alike ev ev') ∧ AnsweredAlike asked alike tr tr'
  | _, _ => True

/-- Two traces whose answers correspond wherever their requests do. -/
theorem answeredAlike_of_forall {asked : E → E → Prop} {alike : Event E R → Event E R → Prop}
    {tr tr' : List (Event E R)}
    (h : ∀ ev ∈ tr, ∀ ev' ∈ tr', asked ev.1 ev'.1 → alike ev ev') :
    AnsweredAlike asked alike tr tr' := by
  induction tr generalizing tr' with
  | nil => trivial
  | cons ev tr ih =>
      cases tr' with
      | nil => trivial
      | cons ev' tr' =>
          exact ⟨h ev List.mem_cons_self ev' List.mem_cons_self, ih fun e he e' he' =>
            h e (List.mem_cons_of_mem _ he) e' (List.mem_cons_of_mem _ he')⟩

theorem answeredAlike_self {asked : E → E → Prop} (tr : List (Event E R)) :
    AnsweredAlike asked (· = ·) tr tr := by
  induction tr with
  | nil => trivial
  | cons ev tr ih => exact ⟨fun _ => rfl, ih⟩

namespace Prog

/-- Both programs go through corresponding requests, and their results and final
states meet `Q`. One may not ask where the other has returned, so they end
together. -/
def Both (env : Env E R S) (env' : Env E R S') (asked : E → E → Prop)
    (alike : Event E R → Event E R → Prop) :
    Prog E R α → Prog E R β → (α → β → S → S' → Prop) → S → S' → Prop
  | .ret a, .ret b, Q, s, s' => Q a b s s'
  | .ask e k, .ask e' k', Q, s, s' => asked e e' ∧ ∀ r r' m m', env s ⟨e, r⟩ m →
      env' s' ⟨e', r'⟩ m' → alike ⟨e, r⟩ ⟨e', r'⟩ → Both env env' asked alike (k r) (k' r') Q m m'
  | _, _, _, _, _ => False

variable {env : Env E R S} {env' : Env E R S'} {asked : E → E → Prop}
  {alike : Event E R → Event E R → Prop} {G G' : S → Event E R → Prop}

theorem both_ask {e e' : E} {k : R e → Prog E R α} {k' : R e' → Prog E R β}
    {Q : α → β → S → S' → Prop} {s : S} {s' : S'} :
    Both env env' asked alike (.ask e k) (.ask e' k') Q s s' ↔
      asked e e' ∧ ∀ r r' m m', env s ⟨e, r⟩ m → env' s' ⟨e', r'⟩ m' → alike ⟨e, r⟩ ⟨e', r'⟩ →
        Both env env' asked alike (k r) (k' r') Q m m' := Iff.rfl

theorem both_perform {e e' : E} {Q : R e → R e' → S → S' → Prop} {s : S} {s' : S'} :
    Both env env' asked alike (perform e) (perform e') Q s s' ↔
      asked e e' ∧ ∀ r r' m m', env s ⟨e, r⟩ m → env' s' ⟨e', r'⟩ m' → alike ⟨e, r⟩ ⟨e', r'⟩ →
        Q r r' m m' := Iff.rfl

theorem Both.mono {p : Prog E R α} {q : Prog E R β} {P Q : α → β → S → S' → Prop} {s : S} {s' : S'}
    (h : Both env env' asked alike p q P s s') (hQ : ∀ a b m m', P a b m m' → Q a b m m') :
    Both env env' asked alike p q Q s s' := by
  induction p generalizing q s s' with
  | ret a =>
      cases q with
      | ret b => exact hQ a b s s' h
      | ask e k => exact h.elim
  | ask e k ih =>
      cases q with
      | ret b => exact h.elim
      | ask e' k' =>
          obtain ⟨hasked, h⟩ := both_ask.mp h
          exact both_ask.mpr ⟨hasked, fun r r' m m' hm hm' halike =>
            ih r (h r r' m m' hm hm' halike)⟩

theorem Both.bind {p : Prog E R α} {q : Prog E R β} {f : α → Prog E R γ} {g : β → Prog E R δ}
    {P : α → β → S → S' → Prop} {Q : γ → δ → S → S' → Prop} {s : S} {s' : S'}
    (h : Both env env' asked alike p q P s s')
    (hfg : ∀ a b m m', P a b m m' → Both env env' asked alike (f a) (g b) Q m m') :
    Both env env' asked alike (p >>= f) (q >>= g) Q s s' := by
  induction p generalizing q s s' with
  | ret a =>
      cases q with
      | ret b => exact hfg a b s s' h
      | ask e k => exact h.elim
  | ask e k ih =>
      cases q with
      | ret b => exact h.elim
      | ask e' k' =>
          obtain ⟨hasked, h⟩ := both_ask.mp h
          exact both_ask.mpr ⟨hasked, fun r r' m m' hm hm' halike =>
            ih r (h r r' m m' hm hm' halike)⟩

theorem Both.ite {c c' : Prop} [Decidable c] [Decidable c'] {p p' : Prog E R α} {q q' : Prog E R β}
    {Q : α → β → S → S' → Prop} {s : S} {s' : S'} (hcond : c ↔ c')
    (hp : c → Both env env' asked alike p q Q s s')
    (hq : ¬c → Both env env' asked alike p' q' Q s s') :
    Both env env' asked alike (if c then p else p') (if c' then q else q') Q s s' := by
  by_cases hc : c
  · rw [if_pos hc, if_pos (hcond.mp hc)]
    exact hp hc
  · rw [if_neg hc, if_neg (hcond.not.mp hc)]
    exact hq hc

/-- What each program ensures on its own holds where they go side by side. -/
theorem Both.wp {p : Prog E R α} {q : Prog E R β} {P : α → β → S → S' → Prop} {A : α → S → Prop}
    {B : β → S' → Prop} {G : S → Event E R → Prop} {G' : S' → Event E R → Prop} {s : S} {s' : S'}
    (h : Both env env' asked alike p q P s s') (hp : Prog.wp env G p A s)
    (hq : Prog.wp env' G' q B s') :
    Both env env' asked alike p q (fun a b m m' => P a b m m' ∧ A a m ∧ B b m') s s' := by
  induction p generalizing q s s' with
  | ret a =>
      cases q with
      | ret b => exact ⟨h, hp, hq⟩
      | ask e k => exact h.elim
  | ask e k ih =>
      cases q with
      | ret b => exact h.elim
      | ask e' k' =>
          obtain ⟨hasked, h⟩ := both_ask.mp h
          exact both_ask.mpr ⟨hasked, fun r r' m m' hm hm' halike =>
            ih r (h r r' m m' hm hm' halike) (hp r m hm).2 (hq r' m' hm').2⟩

theorem both_self {P : E → Prop} {I : S → S' → Prop} {p : Prog E R α} (hp : Only P p)
    (hasked : ∀ e, P e → asked e e)
    (hstep : ∀ s s' e r r' m m', P e → I s s' → env s ⟨e, r⟩ m → env' s' ⟨e, r'⟩ m' →
      alike ⟨e, r⟩ ⟨e, r'⟩ → r = r' ∧ I m m') {s : S} {s' : S'} (hI : I s s') :
    Both env env' asked alike p p (fun a b m m' => a = b ∧ I m m') s s' := by
  induction p generalizing s s' with
  | ret a => exact ⟨rfl, hI⟩
  | ask e k ih =>
      refine both_ask.mpr ⟨hasked e hp.1, fun r r' m m' hm hm' halike => ?_⟩
      obtain ⟨rfl, hI'⟩ := hstep s s' e r r' m m' hp.1 hI hm hm' halike
      exact ih r (hp.2 r) hI'

/-- What holds side by side holds of two runs answered alike, which then stay
together event by event. -/
theorem both_run {p : Prog E R α} {q : Prog E R β} {Q : α → β → S → S' → Prop} {s m : S}
    {s' m' : S'}
    {tr tr' post post' : List (Event E R)} {a : α} {b : β}
    (h : Both env env' asked alike p q Q s s') (hp : Run p tr a) (hq : Run q tr' b)
    (hf : Follows env s tr m) (hf' : Follows env' s' tr' m')
    (halike : AnsweredAlike asked alike (tr ++ post) (tr' ++ post')) :
    Q a b m m' ∧ List.Forall₂ (fun ev ev' => asked ev.1 ev'.1 ∧ alike ev ev') tr tr'
      ∧ AnsweredAlike asked alike post post' := by
  induction p generalizing q s s' tr tr' with
  | ret a =>
      obtain ⟨rfl, rfl⟩ := run_ret.mp hp
      cases q with
      | ret b =>
          obtain ⟨rfl, rfl⟩ := run_ret.mp hq
          obtain rfl := follows_nil.mp hf
          obtain rfl := follows_nil.mp hf'
          exact ⟨h, .nil, halike⟩
      | ask e k => exact h.elim
  | ask e k ih =>
      cases q with
      | ret b => exact h.elim
      | ask e' k' =>
          obtain ⟨hasked, h⟩ := both_ask.mp h
          obtain ⟨r, tr₁, rfl, hp₁⟩ := run_ask.mp hp
          obtain ⟨r', tr₁', rfl, hq₁⟩ := run_ask.mp hq
          obtain ⟨n, hn, hf₁⟩ := hf
          obtain ⟨n', hn', hf₁'⟩ := hf'
          have hhead := halike.1 hasked
          obtain ⟨hQ, hall, hpost⟩ := ih r (h r r' n n' hn hn' hhead) hp₁ hq₁ hf₁ hf₁' halike.2
          exact ⟨hQ, .cons ⟨hasked, hhead⟩ hall, hpost⟩

end Prog

/-! ## Without environments -/

/-- The environment that accepts everything. -/
def anyEnv : Env E R Unit := fun _ _ _ => True

theorem follows_any (tr : List (Event E R)) : Follows anyEnv () tr () := by
  induction tr with
  | nil => rfl
  | cons ev tr ih => exact ⟨(), trivial, ih⟩

namespace Prog

theorem only_true (p : Prog E R α) : Only (fun _ => True) p := by
  induction p with
  | ret a => trivial
  | ask e k ih => exact ⟨trivial, ih⟩

/-- Two runs of one program whose requests are answered the same are the
same. -/
theorem run_same {p : Prog E R α} {tr tr' post post' : List (Event E R)} {a a' : α}
    (h : Run p tr a) (h' : Run p tr' a')
    (halike : AnsweredAlike (· = ·) (· = ·) (tr ++ post) (tr' ++ post')) :
    tr = tr' ∧ a = a' ∧ AnsweredAlike (· = ·) (· = ·) post post' := by
  have hboth : Both anyEnv anyEnv (· = ·) (· = ·) p p (fun a a' _ _ => a = a' ∧ True) () () := by
    refine both_self (only_true p) (fun _ _ => rfl) ?_ trivial
    intro _ _ e r r' _ _ _ _ _ _ heq
    cases heq
    exact ⟨rfl, trivial⟩
  obtain ⟨⟨heq, -⟩, hall, hpost⟩ := both_run hboth h h' (follows_any tr) (follows_any tr') halike
  refine ⟨?_, heq, hpost⟩
  rw [← List.forall₂_eq_eq_eq]
  exact hall.imp fun _ _ h => h.2

/-- Only the requests that leave a choice have to be answered the same. Of an
answer that can be but one, nothing has to be said. -/
theorem run_same_of_filter {P : E → Prop} [DecidablePred P] {p : Prog E R α}
    (hp : Only (fun e => P e ∨ Subsingleton (R e)) p) {tr tr' : List (Event E R)} {a a' : α}
    (h : Run p tr a) (h' : Run p tr' a')
    (halike : AnsweredAlike (· = ·) (· = ·) (tr.filter (P ·.1)) (tr'.filter (P ·.1))) :
    tr = tr' ∧ a = a' := by
  induction p generalizing tr tr' with
  | ret b =>
      obtain ⟨rfl, rfl⟩ := run_ret.mp h
      obtain ⟨rfl, rfl⟩ := run_ret.mp h'
      exact ⟨rfl, rfl⟩
  | ask e k ih =>
      obtain ⟨r, tr₁, rfl, h₁⟩ := run_ask.mp h
      obtain ⟨r', tr₁', rfl, h₁'⟩ := run_ask.mp h'
      by_cases he : P e
      · have hcons : ∀ (r : R e) (tr : List (Event E R)), ((⟨e, r⟩ :: tr).filter fun ev => P ev.1)
            = ⟨e, r⟩ :: tr.filter fun ev => P ev.1 :=
          fun _ _ => List.filter_cons_of_pos (decide_eq_true he)
        rw [hcons, hcons] at halike
        cases halike.1 rfl
        obtain ⟨rfl, rfl⟩ := ih r (hp.2 r) h₁ h₁' halike.2
        exact ⟨rfl, rfl⟩
      · have hcons : ∀ (r : R e) (tr : List (Event E R)), ((⟨e, r⟩ :: tr).filter fun ev => P ev.1)
            = tr.filter fun ev => P ev.1 :=
          fun _ _ => List.filter_cons_of_neg (decide_eq_true_iff.not.mpr he)
        rw [hcons, hcons] at halike
        obtain rfl : r = r' := (hp.1.resolve_left he).elim r r'
        obtain ⟨rfl, rfl⟩ := ih r (hp.2 r) h₁ h₁' halike
        exact ⟨rfl, rfl⟩

end Prog

end Interaction
