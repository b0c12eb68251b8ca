import Retimer.ReadBack
import Retimer.Attempts

/-!
# Reading a retimer's firmware

The FPGA once more, with its reading engine: a trigger names a retimer,
and at some later time the read comes to an end, with the firmware of
that retimer in the DPRAM or with its NACK bit set and nothing in the
DPRAM (`Ends`). When that happens is left open; the status register only
says whether it has (`Reports`). What an engine makes of a trigger while
it is still reading is left open as well: it may start the new read or
take no notice (`Starts`).

`readRetimerfw` returns 0 when the transactions of its last attempt got
through, so the status word it read last decides whether there is
firmware. `placed_of_readRetimerfw` says that there is, if that word is
not busy and has no NACK and if the engine has taken notice of the
triggers; `Underway` is the invariant of the polling loop
(`placed_of_poll`), `Placed` what it ends with, and both stand whatever
the engine does in between as long as nobody writes to the FPGA
(`Underway.step`, `Placed.accepts`).

The second condition is in the environment: `obedient` is the engine in
runs in which every trigger that got through starts its read. That is so
wherever no read is under way at a trigger (`obedient_of_idle`), which
the program does not see to: a poll that is lost leaves its read under
way. While nothing is being read, the engine is the plain FPGA of the
update tool (`follows_idle`), and what is known of copies holds for it.
-/

namespace Retimer

open Interaction Interaction.Prog

/-! ## The engine -/

structure ReadEngine where
  mem : ByteMem
  /-- The retimer that is being read. -/
  reading : Option Nat
  /-- The NACK bit of the read that ended last. -/
  nacked : Bool
  /-- The firmware put into the DPRAM so far, each with its retimer. -/
  delivered : List (Nat × List UInt8)

/-- A trigger of the reading engine. -/
def IsReadTrigger (b : Build) (slaveId : UInt8) (writeData : List UInt8) : Prop :=
  slaveId = b.fpgaI2cCntrlAddr ∧ addressOf writeData = fpgaReadStatusReg.toNat
    ∧ (payloadOf writeData).getD 0 0 &&& setRetimerFwRead ≠ 0

instance (b : Build) (slaveId : UInt8) (writeData : List UInt8) :
    Decidable (IsReadTrigger b slaveId writeData) :=
  inferInstanceAs (Decidable (_ ∧ _))

def triggered (writeData : List UInt8) : Nat := ((payloadOf writeData).getD 0 0 >>> 4).toNat

/-- No trigger of the reading engine. -/
def StartsNoRead : Call → Prop
  | .i2cWrite _ _ writeData => addressOf writeData ≠ fpgaReadStatusReg.toNat
  | _ => True

theorem IsStaging.startsNoRead {c : Call} (h : IsStaging c) : StartsNoRead c := by
  cases c with
  | i2cWrite fd slaveId writeData => exact h.2
  | _ => trivial

theorem IsTrying.startsNoRead {c : Call} (h : IsTrying c) : StartsNoRead c := by
  cases c with
  | i2cWrite fd slaveId writeData =>
      have haddr : addressOf writeData = fpgaUpdateStatusReg.toNat := h
      rw [StartsNoRead, haddr]
      decide
  | _ => trivial

theorem IsLoading.startsNoRead {c : Call} (h : IsLoading c) : StartsNoRead c := by
  cases c with
  | i2cWrite fd slaveId writeData => exact h.2
  | _ => trivial

theorem IsMessage.startsNoRead {c : Call} (h : IsMessage c) : StartsNoRead c := by
  cases c with
  | emitLogMessage m => trivial
  | _ => exact h.elim

def ReadBusy (word : List UInt8) : Prop := word.getD 0 0 &&& fwReadStatusMask ≠ 0
def ReadNacked (word : List UInt8) : Prop := word.getD 1 0 &&& fwReadNackMask ≠ 0

namespace ReadEngine

/-- What the engine does on its own between two events: nothing, or the read
comes to an end. -/
inductive Ends (b : Build) : ReadEngine → ReadEngine → Prop where
  | nothing {g : ReadEngine} : Ends b g g
  | nacked {g : ReadEngine} {r : Nat} (hreading : g.reading = some r) :
      Ends b g ⟨g.mem, none, true, g.delivered⟩
  | delivered {g : ReadEngine} {r : Nat} {fw : List UInt8} (hreading : g.reading = some r)
      (hlength : fw.length = b.maxFwImageSize) :
      Ends b g ⟨g.mem.store 0 fw, none, false, (r, fw) :: g.delivered⟩

/-- What is being read after an event. A trigger may be lost in two ways: its
transaction may fail, and an engine that is still reading may take no notice of it. -/
def Starts (b : Build) (g : ReadEngine) : SysEvent → Option Nat → Prop
  | ⟨.i2cWrite _ slaveId writeData, answer⟩, reading =>
      if IsReadTrigger b slaveId writeData then
        reading = some (triggered writeData)
          ∨ ((answer.completed = false ∨ g.reading ≠ none) ∧ reading = g.reading)
      else reading = g.reading
  | _, reading => reading = g.reading

/-- A status word tells the truth. -/
def Reports (b : Build) (g : ReadEngine) : SysEvent → Prop
  | ⟨.i2cRead _ slaveId writeData n, .ok readData⟩ =>
      slaveId = b.fpgaI2cCntrlAddr → addressOf writeData = fpgaReadStatusReg.toNat → 2 ≤ n →
        (ReadBusy readData.toList ↔ g.reading ≠ none)
          ∧ (g.reading = none → (ReadNacked readData.toList ↔ g.nacked = true))
  | _ => True

structure Accepts (b : Build) (g : ReadEngine) (ev : SysEvent) (g' : ReadEngine) : Prop where
  mem : Fpga.step b g.mem ev g'.mem
  reading : g.Starts b ev g'.reading
  reports : g.Reports b ev
  nacked : g'.nacked = g.nacked
  delivered : g'.delivered = g.delivered

def step (b : Build) : Env Call Answer ReadEngine :=
  fun g ev g' => ∃ g₁, Ends b g g₁ ∧ g₁.Accepts b ev g'

/-- A trigger that got through has started its read. -/
def Obeys (b : Build) (g' : ReadEngine) : SysEvent → Prop
  | ⟨.i2cWrite _ slaveId writeData, answer⟩ =>
      IsReadTrigger b slaveId writeData → answer.completed = true →
        g'.reading = some (triggered writeData)
  | _ => True

/-- The engine in runs in which it takes notice of every trigger. Nothing in the
program sees to that: a poll that is lost leaves its read under way, and the trigger
of the next request is sent without a look at the status. -/
def obedient (b : Build) : Env Call Answer ReadEngine :=
  fun g ev g' => step b g ev g' ∧ g'.Obeys b ev

/-- No read is under way at a trigger. -/
def TriggersIdle (b : Build) (g : ReadEngine) : SysEvent → Prop
  | ⟨.i2cWrite _ slaveId writeData, _⟩ => IsReadTrigger b slaveId writeData → g.reading = none
  | _ => True

/-- Firmware of `r` is in the DPRAM, and nothing is being read that could
replace it. -/
def Placed (b : Build) (r : Nat) (g : ReadEngine) : Prop :=
  g.reading = none ∧ (r, g.mem.load 0 b.maxFwImageSize) ∈ g.delivered

/-- A read of `r` is going on, or has come to an end: with a NACK, or with
firmware of `r` in the DPRAM. -/
def Underway (b : Build) (r : Nat) (g : ReadEngine) : Prop :=
  g.reading = some r ∨ (g.reading = none ∧ g.nacked = true) ∨ Placed b r g

section Steps

variable {b : Build} {g g₁ g' : ReadEngine} {r : Nat} {ev : SysEvent} {tr : List SysEvent}

theorem Ends.of_idle (h : Ends b g g₁) (hidle : g.reading = none) : g₁ = g := by
  cases h with
  | nothing => rfl
  | nacked hreading => exact absurd (hidle.symm.trans hreading) (by simp)
  | delivered hreading => exact absurd (hidle.symm.trans hreading) (by simp)

theorem Ends.underway (h : Ends b g g₁) (hg : Underway b r g) : Underway b r g₁ := by
  rcases hg with hreading | hended
  · cases h with
    | nothing => exact Or.inl hreading
    | nacked => exact Or.inr (Or.inl ⟨rfl, rfl⟩)
    | @delivered r' fw hreading' hlength =>
        obtain rfl : r = r' := Option.some.inj (hreading.symm.trans hreading')
        have hload : (g.mem.store 0 fw).load 0 b.maxFwImageSize = fw := by
          rw [← hlength, ByteMem.load_store_same]
        refine Or.inr (Or.inr ⟨rfl, ?_⟩)
        rw [hload]
        exact List.mem_cons_self
  · have hidle : g.reading = none := hended.elim (·.1) (·.1)
    rw [h.of_idle hidle]
    exact Or.inr hended

theorem Ends.delivered_subset (h : Ends b g g₁) : g.delivered ⊆ g₁.delivered := by
  cases h with
  | nothing => exact List.Subset.refl _
  | nacked => exact List.Subset.refl _
  | delivered => exact List.subset_cons_self _ _

theorem follows_of_obedient (h : Follows (obedient b) g tr g') : Follows (step b) g tr g' :=
  h.map fun _ _ _ hstep => hstep.1

/-- An engine that reads nothing takes notice of a trigger: the only thing that
`Starts` leaves open is what a busy one makes of it. -/
theorem obedient_of_idle (h : step b g ev g') (hidle : g.TriggersIdle b ev) :
    obedient b g ev g' := by
  refine ⟨h, ?_⟩
  obtain ⟨g₁, hends, haccepts⟩ := h
  have hstarts := haccepts.reading
  obtain ⟨c, answer⟩ := ev
  cases c with
  | i2cWrite fd slaveId writeData =>
      intro htrigger hcompleted
      have hreading : g.reading = none := hidle htrigger
      rw [hends.of_idle hreading] at hstarts
      simp only [Starts, if_pos htrigger] at hstarts
      refine hstarts.resolve_right fun hlost => ?_
      rcases hlost.1 with hfailed | hbusy
      · exact absurd (hfailed.symm.trans hcompleted) Bool.false_ne_true
      · exact hbusy hreading
  | _ => trivial

theorem StartsNoRead.triggersIdle (h : StartsNoRead ev.1) : g.TriggersIdle b ev := by
  obtain ⟨c, answer⟩ := ev
  cases c with
  | i2cWrite fd slaveId writeData => exact fun htrigger => absurd htrigger.2.1 h
  | _ => trivial

/-- What was delivered stays delivered. -/
theorem delivered_subset (h : Follows (obedient b) g tr g') : g.delivered ⊆ g'.delivered := by
  refine Follows.invariant (P := fun _ => True) (I := fun s => g.delivered ⊆ s.delivered) ?_
    (follows_of_obedient h) (fun _ _ => trivial) (List.Subset.refl _)
  rintro s ev s' hs - ⟨s₁, hends, haccepts⟩
  rw [haccepts.delivered]
  exact List.Subset.trans hs hends.delivered_subset

def IsQuiet : Call → Prop
  | .i2cWrite _ _ _ => False
  | _ => True

theorem isQuiet_of_fetching {c : Call} (h : IsFetching c) : IsQuiet c := by
  cases c with
  | i2cWrite fd slaveId writeData => exact h.elim
  | _ => trivial

theorem Accepts.quiet (h : g.Accepts b ev g') (hquiet : IsQuiet ev.1) :
    KeepsStaging g.mem g'.mem ∧ g'.reading = g.reading := by
  obtain ⟨hmem, hreading, -⟩ := h
  obtain ⟨c, a⟩ := ev
  cases c with
  | i2cWrite fd slaveId writeData => exact hquiet.elim
  | i2cRead fd slaveId writeData n =>
      cases a with
      | ok readData => exact ⟨hmem.1, hreading⟩
      | failed errno => exact ⟨hmem, hreading⟩
  | _ => exact ⟨hmem, hreading⟩

theorem Placed.accepts (h : Placed b r g) (hacc : g.Accepts b ev g') (hquiet : IsQuiet ev.1) :
    Placed b r g' := by
  obtain ⟨hkeep, hreading⟩ := hacc.quiet hquiet
  have hload : g'.mem.load 0 b.maxFwImageSize = g.mem.load 0 b.maxFwImageSize :=
    hkeep.load (by
      rw [Nat.zero_add]
      exact Nat.le_trans b.maxFwImageSize_le (by decide))
  refine ⟨hreading.trans h.1, ?_⟩
  rw [hload, hacc.delivered]
  exact h.2

theorem Underway.accepts (h : Underway b r g) (hacc : g.Accepts b ev g') (hquiet : IsQuiet ev.1) :
    Underway b r g' := by
  obtain ⟨-, hreading⟩ := hacc.quiet hquiet
  rcases h with hread | ⟨hidle, hnacked⟩ | hplaced
  · exact Or.inl (hreading.trans hread)
  · exact Or.inr (Or.inl ⟨hreading.trans hidle, hacc.nacked.trans hnacked⟩)
  · exact Or.inr (Or.inr (hplaced.accepts hacc hquiet))

theorem Underway.step (h : Underway b r g) (hstep : step b g ev g') (hquiet : IsQuiet ev.1) :
    Underway b r g' := by
  obtain ⟨g₁, hends, haccepts⟩ := hstep
  exact (hends.underway h).accepts haccepts hquiet

theorem Accepts.still (h : g.Accepts b ev g') (hev : StartsNoRead ev.1) :
    g'.reading = g.reading := by
  have hreading := h.reading
  obtain ⟨c, r⟩ := ev
  cases c with
  | i2cWrite fd slaveId writeData =>
      simp only [ReadEngine.Starts] at hreading
      rwa [if_neg fun htrigger => hev htrigger.2.1] at hreading
  | _ => exact hreading

theorem IsQuiet.startsNoRead {c : Call} (h : IsQuiet c) : StartsNoRead c := by
  cases c with
  | i2cWrite fd slaveId writeData => exact h.elim
  | _ => trivial

theorem step_idle (h : step b g ev g') (hev : StartsNoRead ev.1) (hidle : g.reading = none) :
    g'.reading = none := by
  obtain ⟨g₁, hends, haccepts⟩ := h
  rw [haccepts.still hev, hends.of_idle hidle, hidle]

/-- While nothing is being read, the engine is the FPGA of the update tool, and
what was proved there of staging and updating can be used as it is. -/
theorem follows_idle (h : Follows (step b) g tr g') (hidle : g.reading = none)
    (hnoread : ∀ ev ∈ tr, StartsNoRead ev.1) :
    Follows (Fpga.step b) g.mem tr g'.mem ∧ g'.reading = none ∧ g'.delivered = g.delivered := by
  induction tr generalizing g with
  | nil =>
      obtain rfl := follows_nil.mp h
      exact ⟨rfl, hidle, rfl⟩
  | cons ev tr ih =>
      obtain ⟨g₁, ⟨g₂, hends, haccepts⟩, hrest⟩ := h
      obtain rfl := hends.of_idle hidle
      obtain ⟨hev, hnoread'⟩ := List.forall_mem_cons.mp hnoread
      obtain ⟨hmem, hidle', hdelivered⟩ :=
        ih hrest ((haccepts.still hev).trans hidle) hnoread'
      exact ⟨⟨g₁.mem, haccepts.mem, hmem⟩, hidle', hdelivered.trans haccepts.delivered⟩

end Steps

end ReadEngine

/-! ## Status words -/

/-- What a status word of the reading engine says, in the bytes that were
read. -/
def readStatusOf (b : Build) : SysEvent → Option (List UInt8)
  | ⟨.i2cRead _ slaveId writeData _, .ok readData⟩ =>
      if slaveId = b.fpgaI2cCntrlAddr ∧ addressOf writeData = fpgaReadStatusReg.toNat then
        some readData.toList
      else none
  | _ => none

def readStatuses (b : Build) (tr : List SysEvent) : List (List UInt8) :=
  tr.filterMap (readStatusOf b)

/-- The read has come to an end without a NACK. -/
def ReadDone (word : List UInt8) : Prop := ¬ReadBusy word ∧ ¬ReadNacked word

instance (word : List UInt8) : Decidable (ReadDone word) :=
  inferInstanceAs (Decidable (¬_ ≠ _ ∧ ¬_ ≠ _))

section Polling

variable {b : Build} {fd : Int} {tr : List SysEvent} {busy : UInt8 → Bool}

theorem readStatuses_append (tr tr' : List SysEvent) :
    readStatuses b (tr ++ tr') = readStatuses b tr ++ readStatuses b tr' :=
  List.filterMap_append

theorem readStatuses_of_fetching (h : ∀ ev ∈ tr, IsFetching ev.1) : readStatuses b tr = [] := by
  refine List.filterMap_eq_nil_iff.mpr fun ev hev => ?_
  have hfetch := h ev hev
  obtain ⟨c, r⟩ := ev
  cases c with
  | i2cRead fd slaveId writeData n =>
      cases r with
      | ok readData => exact if_neg fun h => hfetch h.2
      | failed errno => rfl
  | _ => rfl

/-- A poll that got through ends with the word it returns. -/
theorem readStatuses_poll {turns : Nat} {w₀ w : Vector UInt8 4}
    (h : Run (pollStatus b fd fpgaReadStatusReg busy turns w₀) tr (0, w)) (hturns : turns ≠ 0) :
    (readStatuses b tr).getLast? = some w.toList := by
  obtain ⟨ws, ⟨-, rfl, hlast⟩ | ⟨errno, msgs, hret, -⟩⟩ := run_pollStatus_last hturns h
  · have hword : ∀ w, readStatusOf b (statusRead b fd fpgaReadStatusReg w) = some w.toList := by
      have haddr : addressOf (regAddress fpgaReadStatusReg) = fpgaReadStatusReg.toNat := rfl
      intro w
      simp [readStatusOf, haddr]
    rw [readStatuses, filterMap_statusReads hword, List.getLast?_map, hlast, Option.map_some]
  · have hne : (0 : Int32) ≠ -errorIoctlI2cRdwrFailure := by decide
    exact absurd hret hne

/-- A poll that got through, of a read that is under way: the word it returns
decides whether there is firmware. -/
theorem placed_of_poll {turns : Nat} {w₀ w : Vector UInt8 4} {r : Nat} {g g' : ReadEngine}
    (h : Run (pollStatus b fd fpgaReadStatusReg (· &&& fwReadStatusMask ≠ 0x0) turns w₀) tr (0, w))
    (hg : Follows (ReadEngine.step b) g tr g') (hunderway : g.Underway b r) (hturns : turns ≠ 0)
    (hdone : ReadDone w.toList) : g'.Placed b r := by
  induction turns generalizing w₀ tr g with
  | zero => exact absurd rfl hturns
  | succ turns ih =>
      obtain ⟨tr₁, ⟨ret, w'⟩, tr₂, rfl, hread, h₁⟩ := run_bind.mp h
      obtain ⟨g₁, hg₁, hg₂⟩ := follows_append.mp hg
      rcases run_sendI2cCmdRead hread with ⟨w'', rfl, heq⟩ | ⟨errno, tr', rfl, hmsg, hret⟩
      · obtain ⟨rfl, rfl⟩ := Prod.mk.inj heq
        obtain ⟨g₂, hstep, rfl⟩ := hg₁
        dsimp only at h₁
        rw [if_neg (not_not.mpr rfl)] at h₁
        have hbyte : w'.toList.getD 0 0 = w'[0] := by simp
        split at h₁
        · next hbusy =>
            by_cases hzero : turns = 0
            · subst hzero
              obtain ⟨rfl, heq⟩ := run_ret.mp h₁
              cases heq
              refine absurd ?_ hdone.1
              rw [ReadBusy, hbyte]
              exact of_decide_eq_true hbusy
            · exact ih h₁ hg₂ (hunderway.step hstep trivial) hzero
        · obtain ⟨rfl, heq⟩ := run_ret.mp h₁
          cases heq
          obtain rfl := follows_nil.mp hg₂
          -- the word says that the read has ended, and how
          obtain ⟨g₃, hends, haccepts⟩ := hstep
          obtain ⟨hbusy, hnacked⟩ := haccepts.reports rfl rfl (by decide)
          obtain ⟨-, hreading⟩ := haccepts.quiet trivial
          have hidle : g₃.reading = none := not_not.mp (hbusy.not.mp hdone.1)
          rcases hends.underway hunderway with hread | ⟨-, hnack⟩ | hplaced
          · exact absurd (hidle.symm.trans hread) (by simp)
          · exact absurd ((hnacked hidle).mpr hnack) hdone.2
          · exact hplaced.accepts haccepts trivial
      · obtain rfl : ret = -errorIoctlI2cRdwrFailure := hret
        dsimp only at h₁
        rw [if_pos (by decide)] at h₁
        have hne : (0 : Int32) ≠ -errorIoctlI2cRdwrFailure := by decide
        exact absurd (congrArg Prod.fst (run_ret.mp h₁).2) hne

theorem engine_sendI2cCmdRead {slaveId : UInt8} {writeData : List UInt8} {n : Nat}
    {Q : Int32 × Vector UInt8 n → ReadEngine → Prop} {g : ReadEngine}
    (hok : ∀ word g', ReadEngine.step b g ⟨.i2cRead fd slaveId writeData n, .ok word⟩ g' →
      Q (0, word) g')
    (hfailed : ∀ g', Q (-errorIoctlI2cRdwrFailure, Vector.replicate n 0) g') :
    Ensures (ReadEngine.step b) (sendI2cCmdRead b fd slaveId writeData n) Q g := by
  intro answer g' hstep
  cases answer with
  | ok readData => exact ⟨trivial, hok readData g' hstep⟩
  | failed errno => exact ⟨trivial, fun _ g'' _ => ⟨trivial, hfailed g''⟩⟩

/-- After a poll that got through with a word that is not busy, nothing is being read. -/
theorem idle_pollStatus {turns : Nat} {w : Vector UInt8 4} {g : ReadEngine} (hturns : turns ≠ 0) :
    Ensures (ReadEngine.step b)
      (pollStatus b fd fpgaReadStatusReg (· &&& fwReadStatusMask ≠ 0x0) turns w)
      (fun res g' => res.1 = 0 → ¬ReadBusy res.2.toList → g'.reading = none) g := by
  induction turns generalizing w g with
  | zero => exact absurd rfl hturns
  | succ turns ih =>
      unfold pollStatus
      refine wp_bind.mpr (engine_sendI2cCmdRead (fun w' g₁ hstep => ?_) fun g₁ => ?_)
      · obtain ⟨g₂, -, haccepts⟩ := hstep
        obtain ⟨hbusy, -⟩ := haccepts.reports rfl rfl (by decide)
        obtain ⟨-, hreading⟩ := haccepts.quiet trivial
        have hidle : ¬ReadBusy w'.toList → g₁.reading = none :=
          fun h => hreading.trans (not_not.mp (hbusy.not.mp h))
        dsimp only
        rw [if_neg (not_not.mpr rfl)]
        split
        · by_cases hzero : turns = 0
          · subst hzero
            exact fun _ => hidle
          · exact ih hzero
        · exact fun _ => hidle
      · dsimp only
        rw [if_pos (by decide)]
        exact fun hret => absurd hret (by decide)

end Polling

/-! ## `readRetimerfw` -/

section Reading

variable {b : Build} {fd : Int} {tr : List SysEvent} {retimerNumber : UInt8}

def readTrigger (retimerNumber : UInt8) : List UInt8 :=
  regAddress fpgaReadStatusReg ++
    [((retimerNumber &&& nibble) <<< 4) ||| setRetimerFwRead, 0x0, 0x0, 0x0]

theorem isReadTrigger_readTrigger :
    IsReadTrigger b b.fpgaI2cCntrlAddr (readTrigger retimerNumber) := by
  have hset : ∀ x : UInt8, (x ||| setRetimerFwRead) &&& setRetimerFwRead ≠ 0 := by
    intro x hzero
    have hbit := congrArg UInt8.toNat hzero
    rw [UInt8.toNat_and, UInt8.toNat_or] at hbit
    have hodd := congrArg (Nat.testBit · 0) hbit
    simp [setRetimerFwRead] at hodd
  exact ⟨rfl, rfl, hset _⟩

theorem triggered_readTrigger {r : Nat} (h : r < 16) :
    triggered (readTrigger (UInt8.ofNat r)) = r := by
  revert r
  decide

/-- One attempt of a read that returns 0, and what is behind it. -/
theorem run_readAttempts_succ {attempts : Nat} {ret₀ : Int32}
    (h : Run (readAttempts b fd retimerNumber (attempts + 1) ret₀) tr 0) :
    ∃ readData polls w rest, tr = ⟨.i2cWrite fd b.fpgaI2cCntrlAddr (readTrigger retimerNumber),
        .ok readData⟩ :: (polls ++ rest)
      ∧ Run (pollStatus b fd fpgaReadStatusReg (· &&& fwReadStatusMask ≠ 0x0) maxTimeoutSec
          clearedBuffer) polls (0, w)
      ∧ (rest = [] ∨ Run (readAttempts b fd retimerNumber attempts 0) rest 0) := by
  unfold readAttempts at h
  obtain ⟨tr₁, ret, tr₂, rfl, hwrite, h₁⟩ := run_bind.mp h
  split at h₁
  · next hret => exact absurd (run_ret.mp h₁).2.symm hret
  · next hret =>
      obtain ⟨tr₃, ⟨ret', w⟩, tr₄, rfl, hpoll, h₂⟩ := run_bind.mp h₁
      dsimp only at h₂
      split at h₂
      · next hret' => exact absurd (run_ret.mp h₂).2.symm hret'
      · next hret' =>
          obtain rfl := not_not.mp hret'
          obtain ⟨answer, tr', rfl, hanswer⟩ := run_perform_bind.mp hwrite
          cases answer with
          | failed errno =>
              obtain ⟨-, rfl⟩ := run_sendI2cCmdFailed hanswer
              exact absurd (by decide) hret
          | ok readData =>
              obtain ⟨rfl, -⟩ := run_ret.mp hanswer
              refine ⟨readData, tr₃, w, tr₄, rfl, hpoll, ?_⟩
              split at h₂
              · split at h₂
                · exact Or.inr h₂
                · exact Or.inl (run_ret.mp h₂).1
              · exact Or.inr h₂

/-- Where it returns 0, the transactions of the last attempt got through. What
its status word says is not known yet: 0 is returned after a timeout as well. -/
theorem run_readAttempts {attempts : Nat} {ret₀ : Int32}
    (h : Run (readAttempts b fd retimerNumber attempts ret₀) tr 0) (hattempts : attempts ≠ 0) :
    ∃ pre readData polls w, tr = pre
        ++ ⟨.i2cWrite fd b.fpgaI2cCntrlAddr (readTrigger retimerNumber), .ok readData⟩ :: polls
      ∧ Run (pollStatus b fd fpgaReadStatusReg (· &&& fwReadStatusMask ≠ 0x0) maxTimeoutSec
          clearedBuffer) polls (0, w) := by
  induction attempts generalizing ret₀ tr with
  | zero => exact absurd rfl hattempts
  | succ attempts ih =>
      obtain ⟨readData, polls, w, rest, rfl, hpoll, hrest⟩ := run_readAttempts_succ h
      have hlast : rest = [] → polls ++ rest = polls := fun hnil => by rw [hnil, List.append_nil]
      rcases hrest with hnil | hrest
      · exact ⟨[], readData, polls, w, by rw [hlast hnil]; rfl, hpoll⟩
      · by_cases hzero : attempts = 0
        · subst hzero
          exact ⟨[], readData, polls, w, by rw [hlast (run_ret.mp hrest).1]; rfl, hpoll⟩
        · obtain ⟨pre, readData', polls', w', rfl, hpoll'⟩ := ih hrest hzero
          refine ⟨⟨.i2cWrite fd b.fpgaI2cCntrlAddr (readTrigger retimerNumber), .ok readData⟩
            :: (polls ++ pre), readData', polls', w', ?_, hpoll'⟩
          rw [List.cons_append, List.append_assoc]

/-- **Reading.** Where it returns 0, every trigger has started its read and the
status word it read last says that the read has ended without a NACK, the firmware
is in the DPRAM. -/
theorem placed_of_readRetimerfw {r : Nat} {g g' : ReadEngine} (hr : r < 16)
    (h : Run (readRetimerfw b fd (UInt8.ofNat r)) tr 0)
    (hg : Follows (ReadEngine.obedient b) g tr g') :
    ∃ word, (readStatuses b tr).getLast? = some word ∧ (ReadDone word → g'.Placed b r) := by
  obtain ⟨pre, readData, polls, w, rfl, hpoll⟩ := run_readAttempts h (by decide)
  have hturns : maxTimeoutSec ≠ 0 := by decide
  refine ⟨w.toList, ?_, fun hdone => ?_⟩
  · rw [readStatuses_append, ← List.singleton_append, readStatuses_append, List.getLast?_append,
      List.getLast?_append, readStatuses_poll hpoll hturns]
    rfl
  · obtain ⟨g₁, -, g₂, ⟨-, hobeys⟩, hpolls⟩ := follows_append.mp hg
    have hreading : g₂.reading = some r := by
      rw [hobeys isReadTrigger_readTrigger rfl, triggered_readTrigger hr]
    exact placed_of_poll hpoll (ReadEngine.follows_of_obedient hpolls) (Or.inl hreading) hturns
      hdone

end Reading

end Retimer
