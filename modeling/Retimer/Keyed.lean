import Mathlib.Data.List.Nodup
import Mathlib.Tactic.Common

/-!
# First elements by key

A collection that takes at most one element of each key. `firsts` is
what it should hold after a list of elements was offered to it: the
first one of each key, in order. It is the library's `eraseDupsBy`, and
`firsts_induct` is the induction that goes with it: an element comes in
front, and everything of its key goes from the rest.

`Inserts` is what a collection does that leaves the choice to somebody
else: an element whose key is not taken goes in, one whose key is taken
may. Two things hold whatever the choice was: nothing that was offered
is lost for good (`Inserts.covers`: its key is taken at the end), and
nothing goes in if and only if nothing was offered
(`Inserts.eq_nil_iff`). If moreover no key was taken twice, the two
agree (`Inserts.eq_firsts`).

`firsts_filterMap` is the rule for a selection that is made from the
elements one by one: selecting first of each key and selecting of the
first of each key come to the same, where the first element of a key is
selected if any of the key is.
-/

namespace Keyed

variable {α β κ : Type}

/-! ## First elements -/

section Firsts

variable [DecidableEq κ] {key : α → κ} {x : α} {xs : List α}

def firsts (key : α → κ) (xs : List α) : List α := xs.eraseDupsBy fun x y => key x = key y

@[simp] theorem firsts_nil : firsts key [] = [] := rfl

theorem firsts_cons :
    firsts key (x :: xs) = x :: firsts key (xs.filter fun y => key y ≠ key x) := by
  rw [firsts, List.eraseDupsBy_cons]
  simp only [firsts, decide_eq_false_iff_not, ne_eq]

/-- An element comes in front, and with it everything of its key goes. -/
theorem firsts_induct (key : α → κ) {P : List α → Prop} (nil : P [])
    (cons : ∀ x xs, P (xs.filter fun y => key y ≠ key x) → P (x :: xs)) : ∀ xs, P xs
  | [] => nil
  | x :: xs => cons x xs (firsts_induct key nil cons (xs.filter fun y => key y ≠ key x))
termination_by xs => xs.length
decreasing_by exact Nat.lt_succ_of_le (List.length_filter_le _ xs)

theorem mem_of_mem_firsts (h : x ∈ firsts key xs) : x ∈ xs := by
  induction xs using firsts_induct key with
  | nil => exact h
  | cons y ys ih =>
      rw [firsts_cons] at h
      rcases List.mem_cons.mp h with rfl | h
      · exact List.mem_cons_self
      · exact List.mem_cons_of_mem _ (List.mem_filter.mp (ih h)).1

theorem nodup_firsts : ((firsts key xs).map key).Nodup := by
  induction xs using firsts_induct key with
  | nil => exact List.nodup_nil
  | cons y ys ih =>
      rw [firsts_cons, List.map_cons, List.nodup_cons]
      refine ⟨fun hmem => ?_, ih⟩
      obtain ⟨z, hz, heq⟩ := List.mem_map.mp hmem
      exact of_decide_eq_true (List.mem_filter.mp (mem_of_mem_firsts hz)).2 heq

/-- What is selected first of each key is selected of the first of each key,
where that is selected if anything of the key is. -/
theorem firsts_filterMap {κ' : Type} [DecidableEq κ'] {key' : β → κ'} {f : α → Option β}
    (hkey : ∀ x x' y y', f x = some y → f x' = some y' → (key' y = key' y' ↔ key x = key x'))
    (h : ∀ x ∈ xs, ∀ first ∈ firsts key xs, key x = key first → f first = none → f x = none) :
    firsts key' (xs.filterMap f) = (firsts key xs).filterMap f := by
  induction xs using firsts_induct key with
  | nil => rfl
  | cons x xs ih =>
      rw [firsts_cons] at h ⊢
      have hrest : firsts key' ((xs.filter fun y => key y ≠ key x).filterMap f)
          = (firsts key (xs.filter fun y => key y ≠ key x)).filterMap f := by
        apply ih
        intro y hy first hfirst
        exact h y (List.mem_cons_of_mem _ (List.mem_filter.mp hy).1) first
          (List.mem_cons_of_mem _ hfirst)
      cases hx : f x with
      | none =>
          rw [List.filterMap_cons_none hx, List.filterMap_cons_none hx, ← hrest,
            List.filterMap_filter]
          -- with `x`, nothing of its key is selected
          congr 1
          apply List.filterMap_congr
          intro y hy
          by_cases heq : key y = key x
          · rw [h y (List.mem_cons_of_mem _ hy) x List.mem_cons_self heq hx]
            simp
          · simp [heq]
      | some y =>
          rw [List.filterMap_cons_some hx, List.filterMap_cons_some hx, firsts_cons, ← hrest,
            List.filter_filterMap, List.filterMap_filter]
          congr 2
          apply List.filterMap_congr
          intro z hz
          cases hfz : f z with
          | none => simp
          | some w => simp [Option.filter, hkey z x w y hfz hx]

end Firsts

/-! ## Insertion -/

/-- `ys` of `xs` went in, where the keys `taken` were taken before. An element
whose key is taken is refused (`refuse`) or goes in a second time (`insert`);
which of the two is the collection's affair. -/
inductive Inserts (key : α → κ) : List κ → List α → List α → Prop where
  | nil {taken : List κ} : Inserts key taken [] []
  | insert {taken : List κ} {x : α} {xs ys : List α} :
      Inserts key (key x :: taken) xs ys → Inserts key taken (x :: xs) (x :: ys)
  | refuse {taken : List κ} {x : α} {xs ys : List α} :
      key x ∈ taken → Inserts key taken xs ys → Inserts key taken (x :: xs) ys

namespace Inserts

variable {key : α → κ} {taken : List κ} {x : α} {xs ys : List α}

/-- Every key that was offered is taken at the end. -/
theorem covers (h : Inserts key taken xs ys) (hx : x ∈ xs) :
    key x ∈ taken ∨ key x ∈ ys.map key := by
  induction h with
  | nil => exact absurd hx List.not_mem_nil
  | insert _ ih =>
      rcases List.mem_cons.mp hx with rfl | hx
      · exact Or.inr List.mem_cons_self
      · rcases ih hx with hmem | hmem
        · rcases List.mem_cons.mp hmem with heq | hmem
          · exact Or.inr (List.mem_cons.mpr (Or.inl heq))
          · exact Or.inl hmem
        · exact Or.inr (List.mem_cons_of_mem _ hmem)
  | refuse htaken _ ih =>
      rcases List.mem_cons.mp hx with rfl | hx
      · exact Or.inl htaken
      · exact ih hx

theorem eq_nil_iff (h : Inserts key [] xs ys) : ys = [] ↔ xs = [] := by
  cases h with
  | nil => exact Iff.rfl
  | insert h => exact iff_of_false (List.cons_ne_nil _ _) (List.cons_ne_nil _ _)
  | refuse htaken _ => exact absurd htaken List.not_mem_nil

variable [DecidableEq κ]

theorem eq_firsts_filter (h : Inserts key taken xs ys) (hnodup : (ys.map key).Nodup)
    (hfree : ∀ y ∈ ys, key y ∉ taken) : ys = firsts key (xs.filter fun x => key x ∉ taken) := by
  induction h with
  | nil => rfl
  | @insert taken x xs ys _ ih =>
      have hx : key x ∉ taken := hfree x List.mem_cons_self
      obtain ⟨hnew, hrest⟩ := List.nodup_cons.mp hnodup
      have hys : ys = firsts key (xs.filter fun y => key y ∉ key x :: taken) := by
        apply ih hrest
        intro y hy hmem
        rcases List.mem_cons.mp hmem with heq | hmem
        · exact hnew (heq ▸ List.mem_map_of_mem hy)
        · exact hfree y (List.mem_cons_of_mem _ hy) hmem
      rw [List.filter_cons, if_pos (decide_eq_true hx), firsts_cons, List.filter_filter]
      refine congrArg (x :: ·) (hys.trans ?_)
      congr 1
      apply List.filter_congr
      intro y _
      simp [not_or]
  | refuse htaken _ ih =>
      rw [List.filter_cons, if_neg (by simp [htaken])]
      exact ih hnodup hfree

/-- If no key went in twice, exactly the first of each key went in: the first
cannot be refused, and a later one has the same key. -/
theorem eq_firsts (h : Inserts key [] xs ys) (hnodup : (ys.map key).Nodup) :
    ys = firsts key xs := by
  have hys := h.eq_firsts_filter hnodup fun y _ => List.not_mem_nil
  simpa using hys

end Inserts

end Keyed
