import Mathlib.Logic.Function.Basic
import Mathlib.Logic.Relation

/-!
# Values whose changes are announced

A `Source` has a value at every key. The values change on their own, at
any time, and each change is announced to a listener who hears of it
later. Announcements may also be missed: while nobody listens a change
is not announced at all, and the listener may `lose` keys without
hearing of it.

What is `Known` of a value is what holds of it as long as no
announcement of it is pending and the listener has missed none. The
conditional is what makes it an invariant: a change falsifies the
premise and not the implication, so what is known survives every change
(`Known.change`, `Known.changes`), and it may be found out in several
steps while the values go on changing. Hearing of a key starts it anew
(`hear`): nothing is known of it then but what is read afterwards
(`known_self`), and what is known of the other keys stays
(`Known.hear_ne`). A key that is lost is known for nothing
(`known_of_lost`, `Known.lose`).
-/

namespace Interaction

structure Source (K V : Type) where
  value : K → V
  /-- Changes are announced. -/
  listening : Bool
  /-- Announced, and not yet heard. -/
  pending : List K
  /-- The listener has been told of these, and missed nothing since. -/
  followed : List K

namespace Source

variable {K V : Type} {s s' : Source K V} {k k' : K} {P P' : V → Prop}

/-- `P` holds of the value, if the listener follows it and has no change of it to
hear of. -/
def Known (k : K) (P : V → Prop) (s : Source K V) : Prop :=
  k ∉ s.pending → k ∈ s.followed → P (s.value k)

theorem Known.mono (h : Known k P s) (hP : ∀ v, P v → P' v) : Known k P' s :=
  fun hpending hfollowed => hP _ (h hpending hfollowed)

theorem Known.and (h : Known k P s) (h' : Known k P' s) : Known k (fun v => P v ∧ P' v) s :=
  fun hpending hfollowed => ⟨h hpending hfollowed, h' hpending hfollowed⟩

theorem known_of_lost (h : k ∉ s.followed) : Known k P s :=
  fun _ hfollowed => absurd hfollowed h

theorem known_self {α : Type} (f : V → α) : Known k (fun v => f v = f (s.value k)) s :=
  fun _ _ => rfl

def listen (s : Source K V) : Source K V := { s with listening := true }

section Lose

variable {which : K → Prop} [DecidablePred which]

def lose (s : Source K V) (which : K → Prop) [DecidablePred which] : Source K V :=
  { s with followed := s.followed.filter fun k => ¬which k }

theorem lost_of_lose (hk : which k) : k ∉ (s.lose which).followed := by
  simp [lose, hk]

theorem Known.lose (h : Known k P s) : Known k P (s.lose which) :=
  fun hpending hfollowed => h hpending (List.mem_filter.mp hfollowed).1

end Lose

variable [DecidableEq K]

def change (s : Source K V) (k : K) (v : V) : Source K V :=
  { value := Function.update s.value k v
    listening := s.listening
    pending := if s.listening then s.pending ++ [k] else s.pending
    followed := if s.listening then s.followed else s.followed.filter (· ≠ k) }

/-- Any number of changes. -/
def Changes : Source K V → Source K V → Prop :=
  Relation.ReflTransGen fun s s' => ∃ k v, s' = s.change k v

/-- The listener hears of `k`, and starts with it anew: the announcement is no
longer pending, and the value is whatever it has become in the meantime. -/
def hear (s : Source K V) (k : K) : Source K V :=
  { s with pending := s.pending.erase k, followed := k :: s.followed }

theorem Known.change {v : V} (h : Known k P s) : Known k P (s.change k' v) := by
  intro hpending hfollowed
  simp only [Source.change] at hpending hfollowed ⊢
  by_cases heq : k = k'
  · subst heq
    split at hpending
    · exact absurd (List.mem_append_right _ List.mem_cons_self) hpending
    · next hsilent =>
        rw [if_neg hsilent] at hfollowed
        simp at hfollowed
  · rw [Function.update_of_ne heq]
    refine h (fun hmem => hpending ?_) ?_
    · split
      · exact List.mem_append_left _ hmem
      · exact hmem
    · split at hfollowed
      · exact hfollowed
      · exact (List.mem_filter.mp hfollowed).1

/-- What is known stays known, whatever changes: of a change to `k` there is a
report still to come, or `k` is no longer followed. -/
theorem Known.changes (h : Known k P s) (hchanges : Changes s s') : Known k P s' := by
  induction hchanges with
  | refl => exact h
  | tail _ hchange ih =>
      obtain ⟨k', v, rfl⟩ := hchange
      exact ih.change

theorem Known.hear_ne (h : Known k P s) (hne : k ≠ k') : Known k P (s.hear k') := by
  intro hpending hfollowed
  refine h (fun hmem => hpending ((List.mem_erase_of_ne hne).mpr hmem)) ?_
  exact (List.mem_cons.mp hfollowed).resolve_left hne

end Source

end Interaction
