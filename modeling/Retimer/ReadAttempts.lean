import Retimer.ReadEngine

/-!
# The attempts of a read

`readRetimerfw` as its attempts show it on the bus. A transaction that
fails ends it with the error, and a status word without busy and NACK
bit with 0; any other status word goes into the next attempt, and with
the last attempt into a return of 0 all the same
(`readRetimerfw_success_iff`).

The attempts are those of the update with the other register:
`readMarkOf` marks the triggers, status words and lost reads of a read,
and `readAttemptsOf` groups them in the same way.
`run_readAttempts_cons` is the one attempt at a read and what its word
decides, `ReadTries` the attempts in a row, and `readTries_of_run` has
every run in it. `ReadTries.outcome` then says what they come to: the
error of the last one, or 0, either after a read that was done
(`Attempt.ReadDone`) or after attempts none of which came to one
(`Attempt.ReadUndone`).
-/

namespace Retimer

open Interaction Interaction.Prog

/-! ## Marks -/

/-- What an event shows of a read: a trigger, a status word, a read of a
register that failed. -/
def readMarkOf (b : Build) : SysEvent → Option Mark
  | ⟨.i2cWrite _ slaveId writeData, answer⟩ =>
      if IsReadTrigger b slaveId writeData then
        some (.trigger ((payloadOf writeData).getD 0 0) answer.completed)
      else none
  | ⟨.i2cRead _ _ _ _, .failed _⟩ => some .lost
  | ⟨.i2cRead _ slaveId writeData 4, .ok readData⟩ =>
      if slaveId = b.fpgaI2cCntrlAddr ∧ writeData = regAddress fpgaReadStatusReg then
        some (.word readData)
      else none
  | _ => none

/-- The attempts at a read, as `attempts` has those at an update. -/
def readAttemptsOf (b : Build) (tr : List SysEvent) : List Attempt :=
  attemptsOf (tr.filterMap (readMarkOf b))

/-- The attempt was triggered, and its polling ended with the busy bit and the
NACK bit clear. -/
def Attempt.ReadDone (a : Attempt) : Prop :=
  ∃ w, a.polled = some w ∧ Retimer.ReadDone w.toList

/-- No transaction of the attempt failed, and its polling ended with the busy
bit or the NACK bit set. -/
def Attempt.ReadUndone (a : Attempt) : Prop :=
  ∃ w, a.polled = some w ∧ ¬Retimer.ReadDone w.toList

theorem Attempt.ReadUndone.not_done {a : Attempt} (h : a.ReadUndone) : ¬a.ReadDone := by
  obtain ⟨w, hpolled, hundone⟩ := h
  rintro ⟨w', hpolled', hdone⟩
  obtain rfl := Option.some.inj (hpolled.symm.trans hpolled')
  exact hundone hdone

theorem not_readDone_of_failed {a : Attempt} (h : a.Failed) : ¬a.ReadDone := by
  rintro ⟨w, hpolled, -⟩
  rw [polled_of_failed h] at hpolled
  cases hpolled

theorem not_readUndone_of_failed {a : Attempt} (h : a.Failed) : ¬a.ReadUndone := by
  rintro ⟨w, hpolled, -⟩
  rw [polled_of_failed h] at hpolled
  cases hpolled

theorem readMarkOf_message {b : Build} {ev : SysEvent} (hmsg : IsMessage ev.1) :
    readMarkOf b ev = none := by
  obtain ⟨c, r⟩ := ev
  cases c with
  | emitLogMessage m => rfl
  | _ => exact hmsg.elim

/-! ## Runs -/

section Runs

variable {b : Build} {fd : Int} {retimerNumber : UInt8} {n : Nat} {ret ret' : Int32}
  {tr : List SysEvent}

theorem run_readTrigger
    (h : Run (sendI2cCmdWrite b fd b.fpgaI2cCntrlAddr (readTrigger retimerNumber)) tr ret) :
    ∃ byte sent, tr.filterMap (readMarkOf b) = [.trigger byte sent]
      ∧ ((sent = true ∧ ret = 0) ∨ (sent = false ∧ ret = -errorIoctlI2cRdwrFailure)) := by
  obtain ⟨answer, tr', rfl, hmsg, hanswer⟩ := run_sendI2cCmdWrite h
  refine ⟨(payloadOf (readTrigger retimerNumber)).getD 0 0, answer.completed, ?_, hanswer⟩
  have hnone : tr'.filterMap (readMarkOf b) = [] :=
    List.filterMap_eq_nil_iff.mpr fun ev hev => readMarkOf_message (hmsg ev hev)
  have hfirst : readMarkOf b ⟨.i2cWrite fd b.fpgaI2cCntrlAddr (readTrigger retimerNumber), answer⟩
      = some (.trigger ((payloadOf (readTrigger retimerNumber)).getD 0 0) answer.completed) :=
    if_pos isReadTrigger_readTrigger
  rw [List.filterMap_cons_some hfirst, hnone]

/-- The attempts of a read with `n` of them allowed, and what it returns. -/
inductive ReadTries : Nat → Int32 → List Attempt → Int32 → Prop where
  | spent {ret : Int32} : ReadTries 0 ret [] ret
  | failed {n : Nat} {ret ret' : Int32} {a : Attempt} (hfailed : a.Failed) (hret : ret' ≠ 0) :
      ReadTries (n + 1) ret [a] ret'
  | done {n : Nat} {ret : Int32} {a : Attempt} (hdone : a.ReadDone) : ReadTries (n + 1) ret [a] 0
  | again {n : Nat} {ret ret' : Int32} {a : Attempt} {as : List Attempt} (hundone : a.ReadUndone)
      (hrest : ReadTries n 0 as ret') : ReadTries (n + 1) ret (a :: as) ret'

/-- **One attempt** at a read, and what its status word decides. -/
theorem run_readAttempts_cons (h : Run (readAttempts b fd retimerNumber (n + 1) ret) tr ret') :
    ∃ (a : Attempt) (tr₁ tr₂ : List SysEvent), tr = tr₁ ++ tr₂
      ∧ tr₁.filterMap (readMarkOf b) = a.marks
      ∧ ((a.Failed ∧ tr₂ = [] ∧ ret' ≠ 0) ∨ (a.ReadDone ∧ tr₂ = [] ∧ ret' = 0)
        ∨ (a.ReadUndone ∧ Run (readAttempts b fd retimerNumber n 0) tr₂ ret')) := by
  have hioctl : -errorIoctlI2cRdwrFailure ≠ 0 := by decide
  obtain ⟨tr₁, ret₁, tr₂, rfl, hsend, h₁⟩ := run_bind.mp h
  obtain ⟨byte, sent, hmark, hsent⟩ := run_readTrigger hsend
  rcases hsent with ⟨rfl, rfl⟩ | ⟨rfl, rfl⟩
  · rw [if_neg (not_not.mpr rfl)] at h₁
    obtain ⟨tr₃, ⟨ret₂, w⟩, tr₄, rfl, hpoll, h₂⟩ := run_bind.mp h₁
    dsimp only at h₂
    obtain ⟨ws, ⟨hret, hwords, hlast⟩ | ⟨hret, hwords⟩⟩ :=
      run_pollStatus (f := readMarkOf b) (fun w => by simp [readMarkOf]) (fun _ => rfl)
        (fun _ => readMarkOf_message) (by decide) hpoll
    · obtain rfl : ret₂ = 0 := hret
      rw [if_neg (not_not.mpr rfl)] at h₂
      refine ⟨⟨byte, true, ws, false⟩, tr₁ ++ tr₃, tr₄, (List.append_assoc _ _ _).symm, ?_, ?_⟩
      · rw [List.filterMap_append, hmark, hwords]
        simp [Attempt.marks]
      · have hiff : ReadDone w.toList
            ↔ w[0] &&& fwReadStatusMask = 0x0 ∧ ¬w[1] &&& fwReadNackMask ≠ 0 := by
          rw [ReadDone, ReadBusy, ReadNacked, getD_toList_zero, getD_toList_one, not_not]
        by_cases hdone : ReadDone w.toList
        · obtain ⟨hbusy, hnack⟩ := hiff.mp hdone
          rw [if_pos hbusy, if_neg hnack] at h₂
          obtain ⟨rfl, rfl⟩ := run_ret.mp h₂
          exact Or.inr (Or.inl ⟨⟨w, hlast, hdone⟩, rfl, rfl⟩)
        · refine Or.inr (Or.inr ⟨⟨w, hlast, hdone⟩, ?_⟩)
          split at h₂
          · next hbusy =>
              rw [if_pos (not_not.mp fun hnack => hdone (hiff.mpr ⟨hbusy, hnack⟩))] at h₂
              exact h₂
          · exact h₂
    · obtain rfl : ret₂ = -errorIoctlI2cRdwrFailure := hret
      rw [if_pos hioctl] at h₂
      obtain ⟨rfl, rfl⟩ := run_ret.mp h₂
      refine ⟨⟨byte, true, ws, true⟩, tr₁ ++ tr₃, [], (List.append_assoc _ _ _).symm, ?_,
        Or.inl ⟨Or.inr rfl, rfl, hioctl⟩⟩
      rw [List.filterMap_append, hmark, hwords]
      simp [Attempt.marks]
  · rw [if_pos hioctl] at h₁
    obtain ⟨rfl, rfl⟩ := run_ret.mp h₁
    exact ⟨⟨byte, false, [], false⟩, tr₁, [], rfl, hmark, Or.inl ⟨Or.inl rfl, rfl, hioctl⟩⟩

theorem head_readAttempts (h : Run (readAttempts b fd retimerNumber n ret) tr ret') :
    ∀ m ∈ (tr.filterMap (readMarkOf b)).head?, m.isFirst = true := by
  cases n with
  | zero =>
      obtain ⟨rfl, -⟩ := run_ret.mp h
      intro m hm
      cases hm
  | succ n =>
      obtain ⟨tr₁, ret₁, tr₂, rfl, hsend, -⟩ := run_bind.mp h
      obtain ⟨byte, sent, hmark, -⟩ := run_readTrigger hsend
      rw [List.filterMap_append, hmark]
      intro m hm
      obtain rfl := Option.some.inj hm
      rfl

theorem readAttemptsOf_cons {a : Attempt} {tr₁ tr₂ : List SysEvent}
    (h₁ : tr₁.filterMap (readMarkOf b) = a.marks)
    (h₂ : ∀ m ∈ (tr₂.filterMap (readMarkOf b)).head?, m.isFirst = true) :
    readAttemptsOf b (tr₁ ++ tr₂) = a :: readAttemptsOf b tr₂ := by
  rw [readAttemptsOf, List.filterMap_append, h₁, attemptsOf_append _ h₂, attemptsOf_marks]
  rfl

theorem readTries_of_run (h : Run (readAttempts b fd retimerNumber n ret) tr ret') :
    ReadTries n ret (readAttemptsOf b tr) ret' := by
  induction n generalizing ret tr with
  | zero =>
      obtain ⟨rfl, rfl⟩ := run_ret.mp h
      exact .spent
  | succ n ih =>
      obtain ⟨a, tr₁, tr₂, rfl, hmarks, hrest⟩ := run_readAttempts_cons h
      have hhead : ∀ m ∈ (tr₂.filterMap (readMarkOf b)).head?, m.isFirst = true := by
        rcases hrest with ⟨-, rfl, -⟩ | ⟨-, rfl, -⟩ | ⟨-, hrun⟩
        · intro m hm
          cases hm
        · intro m hm
          cases hm
        · exact head_readAttempts hrun
      rw [readAttemptsOf_cons hmarks hhead]
      rcases hrest with ⟨hfailed, rfl, hret⟩ | ⟨hdone, rfl, rfl⟩ | ⟨hundone, hrun⟩
      · exact .failed hfailed hret
      · exact .done hdone
      · exact .again hundone (ih hrun)

/-- What the attempts come to: the error of the last one, or 0 after a read or
after attempts none of which came to one. -/
theorem ReadTries.outcome {as : List Attempt} (h : ReadTries n 0 as ret') :
    (ret' ≠ 0 ∧ (∀ a ∈ as, ¬a.ReadDone) ∧ ∃ a ∈ as, a.Failed)
      ∨ (ret' = 0 ∧ ∃ a ∈ as, a.ReadDone) ∨ (ret' = 0 ∧ ∀ a ∈ as, a.ReadUndone) := by
  induction as generalizing n with
  | nil =>
      cases h
      exact Or.inr (Or.inr ⟨rfl, fun a ha => absurd ha List.not_mem_nil⟩)
  | cons a as ih =>
      cases h with
      | failed hfailed hret =>
          refine Or.inl ⟨hret, ?_, a, List.mem_cons_self, hfailed⟩
          intro a' ha'
          obtain rfl := List.mem_singleton.mp ha'
          exact not_readDone_of_failed hfailed
      | done hdone => exact Or.inr (Or.inl ⟨rfl, a, List.mem_cons_self, hdone⟩)
      | again hundone hrest =>
          rcases ih hrest with ⟨hret, hnone, a', ha', hfailed⟩ | ⟨hret, a', ha', hdone⟩
            | ⟨hret, hall⟩
          · refine Or.inl ⟨hret, ?_, a', List.mem_cons_of_mem _ ha', hfailed⟩
            exact List.forall_mem_cons.mpr ⟨hundone.not_done, hnone⟩
          · exact Or.inr (Or.inl ⟨hret, a', List.mem_cons_of_mem _ ha', hdone⟩)
          · exact Or.inr (Or.inr ⟨hret, List.forall_mem_cons.mpr ⟨hundone, hall⟩⟩)

end Runs

/-- **Success of a read, but for attempts that came to nothing.** In every
complete run, a return of 0 tells that some attempt ended with a word that is
not busy and has no NACK, just if not every attempt got to its status word and
came to nothing: the loop then ends with the 0 of its last poll. -/
theorem readRetimerfw_success_iff (b : Build) (fd : Int) (retimerNumber : UInt8)
    (tr : List SysEvent) (ret : Int32) (h : Run (readRetimerfw b fd retimerNumber) tr ret) :
    (ret = 0 ↔ ∃ a ∈ readAttemptsOf b tr, a.ReadDone)
      ↔ ¬∀ a ∈ readAttemptsOf b tr, a.ReadUndone := by
  have hfirst : ∃ a, a ∈ readAttemptsOf b tr := by
    have htries := readTries_of_run h
    generalize readAttemptsOf b tr = as at htries
    cases htries <;> exact ⟨_, List.mem_cons_self⟩
  rcases (readTries_of_run h).outcome with ⟨hret, hnone, a, ha, hfailed⟩ | ⟨hret, a, ha, hdone⟩
    | ⟨hret, hall⟩
  · refine iff_of_true ⟨fun hzero => absurd hzero hret, ?_⟩
      fun hall => not_readUndone_of_failed hfailed (hall a ha)
    rintro ⟨a', ha', hdone⟩
    exact absurd hdone (hnone a' ha')
  · exact iff_of_true ⟨fun _ => ⟨a, ha, hdone⟩, fun _ => hret⟩
      fun hall => (hall a ha).not_done hdone
  · refine iff_of_false (fun hiff => ?_) (not_not.mpr hall)
    obtain ⟨a, ha, hdone⟩ := hiff.mp hret
    exact (hall a ha).not_done hdone

section Small

/-- Every transaction goes through, and every status word has the NACK bit of
the read register. -/
def nackReply (_ : Unit) : (c : Call) → Option (Answer c × Unit)
  | .i2cRead _ _ _ n =>
      some (.ok (if h : 1 < n then (Vector.replicate n 0).set 1 1 h else Vector.replicate n 0), ())
  | c => (c.succeed []).map (·, ())

def nackedRun : List SysEvent × Sys Int32 × Unit :=
  play nackReply 10 () (readRetimerfw defaultBuild 3 0)

theorem run_nackedRun : Run (readRetimerfw defaultBuild 3 0) nackedRun.1 0 :=
  run_play rfl

theorem readRetimerfw_success_iff_nacked :
    ((0 : Int32) = 0 ↔ ∃ a ∈ readAttemptsOf defaultBuild nackedRun.1, a.ReadDone)
      ↔ ¬∀ a ∈ readAttemptsOf defaultBuild nackedRun.1, a.ReadUndone :=
  readRetimerfw_success_iff defaultBuild 3 0 nackedRun.1 0 run_nackedRun

/-- It returns 0. -/
theorem readRetimerfw_false_success :
    ¬∀ (b : Build) (fd : Int) (retimerNumber : UInt8) (tr : List SysEvent) (ret : Int32),
      Run (readRetimerfw b fd retimerNumber) tr ret →
        (ret = 0 ↔ ∃ a ∈ readAttemptsOf b tr, a.ReadDone) := by
  intro h
  obtain ⟨a, ha, w, hpolled, hdone⟩ := (h defaultBuild 3 0 nackedRun.1 0 run_nackedRun).mp rfl
  have hall : ∀ a ∈ readAttemptsOf defaultBuild nackedRun.1, a.polled = some #v[0, 1, 0, 0] := by
    decide
  obtain rfl := Option.some.inj ((hall a ha).symm.trans hpolled)
  exact absurd hdone (by decide)

end Small

end Retimer
