import Retimer.Attempts

/-!
# When an update that returns 0 was one

A polling loop that times out leaves a status word whose byte 0 is not
zero. With no bit in the error bytes nothing then becomes of it:
`startRetimerFwUpdate` triggers the update of no retimer at all, or
returns 0. That is the only way it returns 0 for an update that was not
completed.

What an update should have been is `ReallyUpdated`: for each retimer,
the last attempt with it in the trigger was waited for to its end, and
its word has no error for it (`Followed`). The condition,
`SilentTimeout`, is on the status words of two attempts in which no
transaction failed.

By `Retries` a return of 0 comes from one attempt that ended clear, from
two of which the second did, or from two of which the second timed out
without an error bit. `reallyUpdated_one` and `reallyUpdated_two` are
the first two; in the second of them a retimer that is not in the second
trigger must have been done after the first, and that is so unless the
first word was one of a timeout. `silentTimeout_two` brings the
condition into the same form.
-/

namespace Retimer

open Interaction Interaction.Prog

/-- The last update of retimer `r` was waited for to its end, and the FPGA has
no error for it. -/
def Followed (b : Build) (tr : List SysEvent) (r : Nat) : Prop :=
  ∃ a w, ((attempts b tr).filter fun a => Has a.bitmap r).getLast? = some a
    ∧ a.words.getLast? = some w ∧ ¬Busy w ∧ ¬Has (flagged w) r

/-- The retimers of `bitmap` were updated: the last status word of all is clear,
and for each of them the update was followed to its end. -/
structure ReallyUpdated (b : Build) (bitmap : UInt8) (tr : List SysEvent) : Prop where
  lastWord : ∃ w, (statusWords b tr).getLast? = some w ∧ Clear w
  each : ∀ r, Has bitmap r → Followed b tr r

/-- In two attempts in which nothing failed, the second ends without an error
bit, and timed out; or the first one timed out, and has no error bit for some
retimer of `bitmap`. -/
def SilentTimeout (b : Build) (bitmap : UInt8) (tr : List SysEvent) : Prop :=
  ∃ a₁ a₂ w₁ w₂, attempts b tr = [a₁, a₂] ∧ a₁.polled = some w₁ ∧ a₂.polled = some w₂
    ∧ flagged w₂ = 0 ∧ (Busy w₂ ∨ (Busy w₁ ∧ ∃ r, Has bitmap r ∧ ¬Has (flagged w₁) r))

/-! ## Attempts -/

theorem getLast?_flatMap_concat (as : List Attempt) {a : Attempt} {w : Vector UInt8 4}
    (h : a.words.getLast? = some w) : ((as ++ [a]).flatMap (·.words)).getLast? = some w := by
  rw [List.flatMap_append, List.getLast?_append, List.flatMap_singleton, h]
  rfl

/-- One attempt that ends in a clear word. -/
theorem reallyUpdated_one {b : Build} {tr : List SysEvent} {a : Attempt} {w : Vector UInt8 4}
    (hatt : attempts b tr = [a]) (hwords : statusWords b tr = (attempts b tr).flatMap (·.words))
    (hpolled : a.polled = some w) (hclear : Clear w) : ReallyUpdated b a.bitmap tr := by
  obtain ⟨-, hlast⟩ := polled_some hpolled
  obtain ⟨hdone, hflags⟩ := clear_iff.mp hclear
  refine ⟨⟨w, ?_, hclear⟩, fun r hr => ⟨a, w, ?_, hlast, hdone, ?_⟩⟩
  · rw [hwords, hatt]
    exact getLast?_flatMap_concat [] hlast
  · rw [hatt]
    simp [hr]
  · rw [hflags]
    exact not_has_zero

/-- Two attempts, of which the second ends in a clear word: the retimers that
are not in it must have been done after the first. -/
theorem reallyUpdated_two {b : Build} {tr : List SysEvent} {a₁ a₂ : Attempt}
    {w₁ w₂ : Vector UInt8 4} (hatt : attempts b tr = [a₁, a₂])
    (hwords : statusWords b tr = (attempts b tr).flatMap (·.words))
    (hpolled₁ : a₁.polled = some w₁) (hpolled₂ : a₂.polled = some w₂)
    (hbitmap : a₂.bitmap = flagged w₁) (hclear : Clear w₂) :
    ReallyUpdated b a₁.bitmap tr
      ↔ ¬(Busy w₁ ∧ ∃ r, Has a₁.bitmap r ∧ ¬Has (flagged w₁) r) := by
  obtain ⟨-, hlast₁⟩ := polled_some hpolled₁
  obtain ⟨-, hlast₂⟩ := polled_some hpolled₂
  obtain ⟨hdone, hflags⟩ := clear_iff.mp hclear
  constructor
  · rintro hreal ⟨htimeout, r, hr, hflag⟩
    obtain ⟨a, w, ha, hw, hzero, -⟩ := hreal.each r hr
    have hsecond : ¬Has a₂.bitmap r := hbitmap ▸ hflag
    rw [hatt] at ha
    simp only [List.filter_cons, hr, hsecond, decide_true, decide_false, if_true, List.filter_nil,
      Bool.false_eq_true, if_false, List.getLast?_singleton, Option.some.injEq] at ha
    subst ha
    rw [hlast₁, Option.some.injEq] at hw
    exact absurd htimeout (hw ▸ hzero)
  · intro hquiet
    refine ⟨⟨w₂, ?_, hclear⟩, fun r hr => ?_⟩
    · rw [hwords, hatt]
      exact getLast?_flatMap_concat [a₁] hlast₂
    · by_cases hflag : Has (flagged w₁) r
      · refine ⟨a₂, w₂, ?_, hlast₂, hdone, hflags ▸ not_has_zero⟩
        have hsecond : Has a₂.bitmap r := hbitmap ▸ hflag
        rw [hatt]
        simp [hr, hsecond]
      · have hdone₁ : ¬Busy w₁ := by
          intro htimeout
          exact hquiet ⟨htimeout, r, hr, hflag⟩
        refine ⟨a₁, w₁, ?_, hlast₁, hdone₁, hflag⟩
        have hsecond : ¬Has a₂.bitmap r := hbitmap ▸ hflag
        rw [hatt]
        simp [hr, hsecond]

/-! ## The return code -/

theorem not_silentTimeout_one {b : Build} {bitmap : UInt8} {tr : List SysEvent} {a : Attempt}
    (hatt : attempts b tr = [a]) : ¬SilentTimeout b bitmap tr := by
  rintro ⟨a₁, a₂, w₁, w₂, htwo, -⟩
  rw [hatt] at htwo
  cases htwo

/-- With two attempts, the condition is one on their last words. -/
theorem silentTimeout_two {b : Build} {bitmap : UInt8} {tr : List SysEvent} {a₁ a₂ : Attempt}
    {w₁ : Vector UInt8 4} (hatt : attempts b tr = [a₁, a₂]) (hpolled₁ : a₁.polled = some w₁) :
    SilentTimeout b bitmap tr ↔ ∃ w₂, a₂.polled = some w₂ ∧ flagged w₂ = 0
      ∧ (Busy w₂ ∨ (Busy w₁ ∧ ∃ r, Has bitmap r ∧ ¬Has (flagged w₁) r)) := by
  constructor
  · rintro ⟨a₁', a₂', w₁', w₂, htwo, hpolled₁', hpolled₂, hrest⟩
    rw [hatt] at htwo
    cases htwo
    rw [hpolled₁] at hpolled₁'
    cases hpolled₁'
    exact ⟨w₂, hpolled₂, hrest⟩
  · rintro ⟨w₂, hpolled₂, hrest⟩
    exact ⟨a₁, a₂, w₁, w₂, hatt, hpolled₁, hpolled₂, hrest⟩

/-- **No false success, but for silent timeouts.** For every bitmap and every
complete run, a return of 0 means that the retimers of the bitmap were updated,
just if there was no silent timeout. A timeout is silent where the word that
ends the last attempt has no error bit: the three checks then add nothing to the
0 that the polling loop returned. -/
theorem startRetimerFwUpdate_success_iff (b : Build) (fd : Int) (retimerNumber : UInt8)
    (versionStr : List UInt8) (retimerNotUpdated : UInt8) (tr : List SysEvent) (ret : Int32)
    (notUpdated : UInt8)
    (h : Run (startRetimerFwUpdate b fd retimerNumber versionStr retimerNotUpdated) tr
      (ret, notUpdated)) :
    (ret = 0 → ReallyUpdated b retimerNumber tr) ↔ ¬SilentTimeout b retimerNumber tr := by
  obtain ⟨hretries, hwords⟩ := run_updateAttempts h
  generalize hatt : attempts b tr = as at hretries
  generalize hres : (ret, notUpdated) = res at hretries
  cases hretries with
  | failed hbitmap hfailed hret =>
      obtain ⟨rfl, -⟩ := Prod.mk.inj hres
      exact iff_of_true (fun hzero => absurd hzero (ne_zero_of_toUint8 hret))
        (not_silentTimeout_one hatt)
  | clear hbitmap hpolled hclear =>
      exact iff_of_true (fun _ => hbitmap ▸ reallyUpdated_one hatt hwords hpolled hclear)
        (not_silentTimeout_one hatt)
  | again hbitmap hpolled hdirty hcode hzero hrest =>
      cases hrest with
      | failed hbitmap₂ hfailed hret =>
          obtain ⟨rfl, -⟩ := Prod.mk.inj hres
          refine iff_of_true (fun hzero => absurd hzero (ne_zero_of_toUint8 hret)) ?_
          rw [silentTimeout_two hatt hpolled]
          rintro ⟨w₂, hpolled₂, -⟩
          rw [polled_of_failed hfailed] at hpolled₂
          cases hpolled₂
      | clear hbitmap₂ hpolled₂ hclear₂ =>
          obtain ⟨rfl, -⟩ := Prod.mk.inj hres
          obtain ⟨hdone, hflags⟩ := clear_iff.mp hclear₂
          have hiff := reallyUpdated_two hatt hwords hpolled hpolled₂ hbitmap₂ hclear₂
          rw [hbitmap] at hiff
          rw [silentTimeout_two hatt hpolled, hpolled₂, hiff]
          simp [hdone, hflags]
      | again hbitmap₂ hpolled₂ hdirty₂ hcode₂ hzero₂ hrest₂ =>
          cases hrest₂
          obtain ⟨rfl, -⟩ := Prod.mk.inj hres
          rename_i a₁ _ _ w₂
          rw [silentTimeout_two hatt hpolled, hpolled₂]
          by_cases hflags : flagged w₂ = 0
          · have hbusy : Busy w₂ :=
              not_not.mp fun hdone => hdirty₂ (clear_iff.mpr ⟨hdone, hflags⟩)
            refine iff_of_false (fun hreal => ?_) (not_not.mpr ⟨w₂, rfl, hflags, Or.inl hbusy⟩)
            obtain ⟨w, hlast, hclear⟩ := (hreal (hzero₂ hflags)).lastWord
            rw [hwords, hatt] at hlast
            have hend := hlast.symm.trans (getLast?_flatMap_concat [a₁] (polled_some hpolled₂).2)
            exact hdirty₂ (Option.some.inj hend ▸ hclear)
          · refine iff_of_true (fun hret => ?_) ?_
            · rw [hret] at hcode₂
              exact absurd hcode₂.symm hflags
            · rintro ⟨w, hw, hzero, -⟩
              exact hflags (Option.some.inj hw ▸ hzero)

section Small

/-- Every transaction goes through, and byte 0 of every word read is 1. -/
def busyReply (_ : Unit) : (c : Call) → Option (Answer c × Unit)
  | .i2cRead _ _ _ n =>
      some (.ok (if h : 0 < n then (Vector.replicate n 0).set 0 1 h else Vector.replicate n 0), ())
  | c => (c.succeed []).map (·, ())

def busyRun : List SysEvent × Sys (Int32 × UInt8) × Unit :=
  play busyReply 200 () (startRetimerFwUpdate defaultBuild 3 1 [] initUint8)

theorem run_busyRun :
    Run (startRetimerFwUpdate defaultBuild 3 1 [] initUint8) busyRun.1 (0, 0) :=
  run_play rfl

theorem startRetimerFwUpdate_success_iff_busy :
    ((0 : Int32) = 0 → ReallyUpdated defaultBuild 1 busyRun.1)
      ↔ ¬SilentTimeout defaultBuild 1 busyRun.1 :=
  startRetimerFwUpdate_success_iff defaultBuild 3 1 [] initUint8 busyRun.1 0 0 run_busyRun

/-- It returns 0. -/
theorem startRetimerFwUpdate_false_success :
    ¬∀ (b : Build) (fd : Int) (retimerNumber : UInt8) (versionStr : List UInt8)
      (retimerNotUpdated : UInt8) (tr : List SysEvent) (ret : Int32) (notUpdated : UInt8),
      retimerNumber ≠ 0 →
      Run (startRetimerFwUpdate b fd retimerNumber versionStr retimerNotUpdated) tr
        (ret, notUpdated) →
      ret = 0 → ReallyUpdated b retimerNumber tr := by
  intro h
  obtain ⟨w, hlast, hclear⟩ :=
    (h defaultBuild 3 1 [] initUint8 busyRun.1 0 0 (by decide) run_busyRun rfl).lastWord
  have hbusy : (statusWords defaultBuild busyRun.1).getLast? = some #v[1, 0, 0, 0] := by
    rfl
  obtain rfl := Option.some.inj (hbusy.symm.trans hlast)
  exact absurd hclear (by decide)

end Small

end Retimer
