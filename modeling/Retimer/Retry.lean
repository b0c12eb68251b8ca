import Retimer.SilentTimeout

/-!
# Which retimers are tried again

The bitmap of the second trigger is the three error bytes of the first
attempt's last status word, taken together and taken as they are
(`Retries.head_bitmap`). It is the bitmap it should be unless the FPGA
names a retimer that was not asked for, or the first attempt timed out
without naming one (`retry_right_iff`).

`RightRetry` says what it should be: the retimers with an error, all of
them requested, and at least one. `rightRetry_iff` turns it into a
condition on the one status word (`NamesRequested`), so that nothing but
`Retries` has to be known of the run. The run of the last theorem is the
one of an update that never ends: its second trigger has an empty
bitmap.
-/

namespace Retimer

open Interaction Interaction.Prog

/-- A second trigger for `bitmap` that is as it should be: it has just those of
the retimers asked for that the first attempt has left an error for, and there
is one. -/
structure RightRetry (bitmap : UInt8) (a₁ a₂ : Attempt) : Prop where
  unfinished : ∃ w, a₁.polled = some w ∧ ¬Clear w
  nonempty : a₂.bitmap ≠ 0
  requested : ∀ r, Has a₂.bitmap r → Has bitmap r
  failed : ∀ w, a₁.polled = some w → ∀ r, Has bitmap r → Has (flagged w) r → Has a₂.bitmap r
  finished : ∀ w, a₁.polled = some w → ∀ r, ¬Has (flagged w) r → ¬Has a₂.bitmap r

/-- An error bit for some retimer, and none but for those asked for. The code
looks at neither. -/
def NamesRequested (bitmap : UInt8) (w : Vector UInt8 4) : Prop :=
  flagged w ≠ 0 ∧ ∀ r, Has (flagged w) r → Has bitmap r

theorem rightRetry_iff {bitmap : UInt8} {a₁ a₂ : Attempt} {w : Vector UInt8 4}
    (hpolled : a₁.polled = some w) (hclear : ¬Clear w) (hbitmap : a₂.bitmap = flagged w) :
    RightRetry bitmap a₁ a₂ ↔ NamesRequested bitmap w := by
  have hword : ∀ w', a₁.polled = some w' → w' = w := fun w' h =>
    Option.some.inj (h.symm.trans hpolled)
  constructor
  · intro h
    refine ⟨?_, fun r hr => ?_⟩
    · rw [← hbitmap]
      exact h.nonempty
    · rw [← hbitmap] at hr
      exact h.requested r hr
  · rintro ⟨hne, hsub⟩
    refine ⟨⟨w, hpolled, hclear⟩, ?_, ?_, ?_, ?_⟩
    · rwa [hbitmap]
    · rwa [hbitmap]
    · intro w' hw' r _ hr
      rw [hbitmap]
      exact hword w' hw' ▸ hr
    · intro w' hw' r hr
      rw [hbitmap]
      exact hword w' hw' ▸ hr

/-- The bitmap of a trigger behind another attempt. -/
theorem Retries.head_bitmap {n : Nat} {bitmap notUpdated : UInt8} {ret : Int32} {a : Attempt}
    {as : List Attempt} {res : Int32 × UInt8} (h : Retries n bitmap notUpdated ret (a :: as) res) :
    a.bitmap = bitmap := by
  cases h with
  | failed hbitmap => exact hbitmap
  | clear hbitmap => exact hbitmap
  | again hbitmap => exact hbitmap

/-- **The second trigger.** In every complete run, a second attempt is for the
retimers of the first that failed, and for nobody else, just if the word that
ended the first names some retimer, and none but those asked for. The bitmap of
the retry is what the three error bytes give, so a timeout without an error bit
triggers an update for no retimer. -/
theorem retry_right_iff (b : Build) (fd : Int) (bitmap : UInt8) (versionStr : List UInt8)
    (retimerNotUpdated : UInt8) (tr : List SysEvent) (res : Int32 × UInt8)
    (h : Run (startRetimerFwUpdate b fd bitmap versionStr retimerNotUpdated) tr res) :
    (∀ a₁ a₂ rest, attempts b tr = a₁ :: a₂ :: rest → RightRetry bitmap a₁ a₂)
      ↔ ∀ a w, (attempts b tr).head? = some a → a.polled = some w → ¬Clear w →
          NamesRequested bitmap w := by
  obtain ⟨hretries, -⟩ := run_updateAttempts h
  generalize attempts b tr = as at hretries
  cases hretries with
  | failed hbitmap hfailed hret =>
      refine iff_of_true (fun a₁ a₂ rest heq => ?_) fun a w ha hpolled => ?_
      · cases heq
      · obtain rfl := Option.some.inj ha
        rw [polled_of_failed hfailed] at hpolled
        cases hpolled
  | clear hbitmap hpolled hclear =>
      refine iff_of_true (fun a₁ a₂ rest heq => ?_) fun a w ha hpolled' hdirty => ?_
      · cases heq
      · obtain rfl := Option.some.inj ha
        obtain rfl := Option.some.inj (hpolled.symm.trans hpolled')
        exact absurd hclear hdirty
  | @again _ _ _ _ _ a w as _ hbitmap hpolled hclear hcode hzero hrest =>
      have hsecond : ∀ a₂ rest, as = a₂ :: rest →
          (RightRetry bitmap a a₂ ↔ NamesRequested bitmap w) := by
        rintro a₂ rest rfl
        exact rightRetry_iff hpolled hclear hrest.head_bitmap
      constructor
      · intro hright a' w' ha hpolled' _
        obtain rfl := Option.some.inj ha
        obtain rfl := Option.some.inj (hpolled.symm.trans hpolled')
        -- one more attempt is allowed, so there is one
        obtain ⟨a₂, rest, rfl⟩ : ∃ a₂ rest, as = a₂ :: rest := by
          cases hrest with
          | failed => exact ⟨_, _, rfl⟩
          | clear => exact ⟨_, _, rfl⟩
          | again => exact ⟨_, _, rfl⟩
        exact (hsecond a₂ rest rfl).mp (hright a a₂ rest rfl)
      · intro hnames a₁ a₂ rest heq
        obtain ⟨rfl, rfl⟩ := List.cons.inj heq
        exact (hsecond a₂ rest rfl).mpr (hnames a w rfl hpolled hclear)

theorem retry_right_iff_busy :
    (∀ a₁ a₂ rest, attempts defaultBuild busyRun.1 = a₁ :: a₂ :: rest → RightRetry 1 a₁ a₂)
      ↔ ∀ a w, (attempts defaultBuild busyRun.1).head? = some a → a.polled = some w → ¬Clear w →
          NamesRequested 1 w :=
  retry_right_iff defaultBuild 3 1 [] initUint8 busyRun.1 (0, 0) run_busyRun

/-- An update that never ends is triggered once more for no retimer. -/
theorem retry_for_none :
    ¬∀ (b : Build) (fd : Int) (bitmap : UInt8) (versionStr : List UInt8) (retimerNotUpdated : UInt8)
      (tr : List SysEvent) (res : Int32 × UInt8), bitmap ≠ 0 →
      Run (startRetimerFwUpdate b fd bitmap versionStr retimerNotUpdated) tr res →
      ∀ a₁ a₂ rest, attempts b tr = a₁ :: a₂ :: rest → RightRetry bitmap a₁ a₂ := by
  intro h
  have hbitmaps : (attempts defaultBuild busyRun.1).map (·.bitmap) = [1, 0] := rfl
  have hright := h defaultBuild 3 1 [] initUint8 busyRun.1 (0, 0) (by decide) run_busyRun
  obtain ⟨a₁, as, hatt, -, has⟩ := List.map_eq_cons_iff.mp hbitmaps
  obtain ⟨a₂, rest, rfl, hempty, -⟩ := List.map_eq_cons_iff.mp has
  exact (hright a₁ a₂ rest hatt).nonempty hempty

end Retimer
