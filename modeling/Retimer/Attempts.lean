import Mathlib.Data.List.TakeWhile
import Retimer.Triggers

/-!
# The attempts of an update, read off a run

What can be seen of `startRetimerFwUpdate` from outside: the triggers,
the status words the polling loops read, and the transactions that fail
(`Mark`). `attempts` groups them by trigger, so that an `Attempt` has
its bitmap, whether the FPGA got it, the words, and whether a read was
lost. Everything else that the function does on the bus, the extended
error register for example, has no mark.

`run_updateAttempts_turn` is the one lemma about the retry loop: a run
is one turn (`AttemptRun`), followed by what its ending decides
(`AttemptEnd.Goes`). It stands on one lemma for each part of a turn:
`run_sendI2cCmdWrite` and `run_sendI2cCmdRead` for a transaction,
`run_pollStatus` for the polling loop (the words read, and the last one
left in the buffer), `run_checkStatusWord` for the checks,
`run_checkExtenedErrorReg` for what may end the update behind them.
`AttemptRun.attempt` is what the turn shows: the attempt itself, and how
it ended.

With the turns in a row, `Retries` is the retry loop on attempts alone:
a failure ends it with `*retimerNotUpdated` as it stands, a clear word
with a return of 0, and any other word goes into the next attempt.
`run_updateAttempts` has every run in it; the modules about what an
update returns, names or tries again are about `Retries` and have no
more to do with the program.
-/

namespace Retimer

open Interaction Interaction.Prog

/-! ## Marks -/

/-- The bit of retimer `r` is set. -/
def Has (bitmap : UInt8) (r : Nat) : Prop := bitmap.toNat.testBit r = true

instance (bitmap : UInt8) (r : Nat) : Decidable (Has bitmap r) :=
  inferInstanceAs (Decidable (_ = true))

/-- A trigger, and whether the FPGA got it; a status word; a read that failed;
the start of an operation. -/
inductive Mark where
  | trigger (bitmap : UInt8) (sent : Bool)
  | word (w : Vector UInt8 4)
  | lost
  | operation
deriving DecidableEq

def I2cResult.completed {n : Nat} : I2cResult n → Bool
  | .ok _ => true
  | .failed _ => false

def markOf (b : Build) : SysEvent → Option Mark
  | ⟨.performing _, _⟩ => some .operation
  | ⟨.i2cWrite fd slaveId writeData, answer⟩ =>
      if IsTrigger b (.i2cWrite fd slaveId writeData) then
        some (.trigger (triggerBitmap (.i2cWrite fd slaveId writeData)) answer.completed)
      else none
  | ⟨.i2cRead _ _ _ _, .failed _⟩ => some .lost
  | ⟨.i2cRead _ slaveId writeData 4, .ok readData⟩ =>
      if slaveId = b.fpgaI2cCntrlAddr ∧ writeData = regAddress fpgaUpdateStatusReg then
        some (.word readData)
      else none
  | _ => none

def marks (b : Build) (tr : List SysEvent) : List Mark := tr.filterMap (markOf b)

@[simp] theorem marks_nil (b : Build) : marks b [] = [] := rfl

@[simp] theorem marks_append (b : Build) (tr tr' : List SysEvent) :
    marks b (tr ++ tr') = marks b tr ++ marks b tr' :=
  List.filterMap_append

theorem marks_cons (b : Build) (ev : SysEvent) (tr : List SysEvent) :
    marks b (ev :: tr) = (markOf b ev).toList ++ marks b tr := by
  unfold marks
  rw [List.filterMap_cons]
  cases markOf b ev <;> rfl

theorem marks_eq_nil {b : Build} {tr : List SysEvent} (h : ∀ ev ∈ tr, markOf b ev = none) :
    marks b tr = [] :=
  List.filterMap_eq_nil_iff.mpr h

theorem markOf_message {b : Build} {ev : SysEvent} (hmsg : IsMessage ev.1) :
    markOf b ev = none := by
  obtain ⟨c, r⟩ := ev
  cases c with
  | emitLogMessage m => rfl
  | _ => exact hmsg.elim

theorem marks_of_messages {b : Build} {tr : List SysEvent} (h : ∀ ev ∈ tr, IsMessage ev.1) :
    marks b tr = [] :=
  marks_eq_nil fun ev hev => markOf_message (h ev hev)

theorem marks_of_reports {b : Build} {tr : List SysEvent} (h : ∀ ev ∈ tr, IsReport ev.1) :
    marks b tr = [] :=
  marks_of_messages fun ev hev => (h ev hev).isMessage

theorem marks_of_generic {b : Build} {α : Type} {p : Sys α} {tr : List SysEvent} {a : α}
    (hp : Only IsGeneric p) (h : Run p tr a) : marks b tr = [] :=
  marks_of_messages fun ev hev => (hp.run h ev hev).isMessage

/-! ## Attempts -/

/-- A trigger and what follows it up to the next one: the bitmap that was sent,
whether it got through, the status words that were read, and whether a read of
the status register failed. -/
structure Attempt where
  bitmap : UInt8
  sent : Bool
  words : List (Vector UInt8 4)
  lost : Bool
deriving DecidableEq

/-- Some transaction of the attempt failed. -/
def Attempt.Failed (a : Attempt) : Prop := a.sent = false ∨ a.lost = true

instance (a : Attempt) : Decidable a.Failed := inferInstanceAs (Decidable (_ ∨ _))

/-- The word the polling loop of the attempt ended with, when nothing failed. -/
def Attempt.polled (a : Attempt) : Option (Vector UInt8 4) :=
  if a.Failed then none else a.words.getLast?

theorem polled_some {a : Attempt} {w : Vector UInt8 4} (h : a.polled = some w) :
    ¬a.Failed ∧ a.words.getLast? = some w := by
  unfold Attempt.polled at h
  split at h
  · cases h
  · next hfailed => exact ⟨hfailed, h⟩

theorem polled_of_failed {a : Attempt} (h : a.Failed) : a.polled = none :=
  if_pos h

def Mark.isFirst : Mark → Bool
  | .trigger _ _ | .operation => true
  | .word _ | .lost => false

def Mark.word? : Mark → Option (Vector UInt8 4)
  | .word w => some w
  | _ => none

/-- The attempts a list of marks shows, from its first trigger on. Marks in
front of it, and such as come from no update, are passed over. -/
def attemptsOf : List Mark → List Attempt
  | [] => []
  | .trigger bitmap sent :: ms =>
      let own := ms.takeWhile (!·.isFirst)
      ⟨bitmap, sent, own.filterMap Mark.word?, own.contains .lost⟩ :: attemptsOf ms
  | _ :: ms => attemptsOf ms

def attempts (b : Build) (tr : List SysEvent) : List Attempt := attemptsOf (marks b tr)

def statusWords (b : Build) (tr : List SysEvent) : List (Vector UInt8 4) :=
  (marks b tr).filterMap Mark.word?

def Attempt.marks (a : Attempt) : List Mark :=
  .trigger a.bitmap a.sent :: a.words.map .word ++ if a.lost then [.lost] else []

theorem Attempt.not_isFirst (a : Attempt) : ∀ m ∈ a.marks.tail, (!m.isFirst) = true := by
  intro m hm
  rcases List.mem_append.mp hm with hm | hm
  · obtain ⟨w, -, rfl⟩ := List.mem_map.mp hm
    rfl
  · split at hm
    · obtain rfl := List.mem_singleton.mp hm
      rfl
    · exact absurd hm List.not_mem_nil

theorem Attempt.word?_marks (a : Attempt) : a.marks.tail.filterMap Mark.word? = a.words := by
  have hwords : (a.words.map Mark.word).filterMap Mark.word? = a.words := by
    rw [List.filterMap_map]
    exact List.filterMap_some
  have hlost : (if a.lost then [Mark.lost] else []).filterMap Mark.word? = [] := by
    split <;> rfl
  calc a.marks.tail.filterMap Mark.word?
      = (a.words.map Mark.word).filterMap Mark.word?
          ++ (if a.lost then [Mark.lost] else []).filterMap Mark.word? := List.filterMap_append
    _ = a.words := by rw [hwords, hlost, List.append_nil]

theorem Attempt.lost_marks (a : Attempt) : a.marks.tail.contains .lost = a.lost := by
  cases hlost : a.lost <;> simp [Attempt.marks, hlost]

theorem attemptsOf_rest {ms : List Mark} (h : ∀ m ∈ ms, (!m.isFirst) = true) :
    attemptsOf ms = [] := by
  induction ms with
  | nil => rfl
  | cons m ms ih =>
      have hrest := ih fun m' hm' => h m' (List.mem_cons_of_mem _ hm')
      have hm := h m List.mem_cons_self
      cases m with
      | trigger bitmap sent => cases hm
      | operation => cases hm
      | word w => exact hrest
      | lost => exact hrest

/-- An attempt is read off its marks. -/
theorem attemptsOf_marks (a : Attempt) : attemptsOf a.marks = [a] := by
  have hown : a.marks.tail.takeWhile (!·.isFirst) = a.marks.tail :=
    List.takeWhile_eq_self_iff.mpr a.not_isFirst
  have hcons : attemptsOf a.marks
      = ⟨a.bitmap, a.sent, (a.marks.tail.takeWhile (!·.isFirst)).filterMap Mark.word?,
          (a.marks.tail.takeWhile (!·.isFirst)).contains .lost⟩ :: attemptsOf a.marks.tail := rfl
  rw [hcons, hown, a.word?_marks, a.lost_marks, attemptsOf_rest a.not_isFirst]

theorem attemptsOf_append (ms : List Mark) {ms' : List Mark}
    (h : ∀ m ∈ ms'.head?, m.isFirst = true) :
    attemptsOf (ms ++ ms') = attemptsOf ms ++ attemptsOf ms' := by
  have hown : ∀ ms : List Mark,
      (ms ++ ms').takeWhile (!·.isFirst) = ms.takeWhile (!·.isFirst) := by
    intro ms
    cases ms' with
    | nil => rw [List.append_nil]
    | cons m' ms' =>
        have hfirst := h m' rfl
        induction ms with
        | nil => simp [hfirst]
        | cons m ms ih => simp only [List.cons_append, List.takeWhile_cons, ih]
  induction ms with
  | nil => rfl
  | cons m ms ih =>
      cases m with
      | trigger bitmap sent =>
          simp only [List.cons_append, attemptsOf, hown, ih]
      | operation => exact ih
      | word w => exact ih
      | lost => exact ih

/-! ## Bitmaps of retimers -/

theorem has_or {x y : UInt8} {r : Nat} : Has (x ||| y) r ↔ Has x r ∨ Has y r := by
  simp only [Has, UInt8.toNat_or, Nat.testBit_or, Bool.or_eq_true]

theorem not_has_zero {r : Nat} : ¬Has 0 r := by
  simp [Has]

theorem eq_of_has {x y : UInt8} (h : ∀ r, Has x r ↔ Has y r) : x = y := by
  apply UInt8.toNat_inj.mp
  refine Nat.eq_of_testBit_eq fun r => ?_
  exact Bool.eq_iff_iff.mpr (h r)

theorem Has.lt {x : UInt8} {r : Nat} (h : Has x r) : r < 8 := by
  by_contra hge
  have hlt : x.toNat < 2 ^ r :=
    Nat.lt_of_lt_of_le x.toNat_lt (Nat.pow_le_pow_right (by decide) (Nat.le_of_not_lt hge))
  rw [Has, Nat.testBit_lt_two_pow hlt] at h
  cases h

/-! ## Transactions -/

section Transactions

variable {b : Build} {fd : Int} {slaveId : UInt8} {writeData : List UInt8} {tr : List SysEvent}

theorem run_sendI2cCmdFailed {errno ret : Int32}
    (h : Run (sendI2cCmdFailed b errno slaveId) tr ret) :
    (∀ ev ∈ tr, IsMessage ev.1) ∧ ret = -errorIoctlI2cRdwrFailure := by
  obtain ⟨tr₁, _, tr₂, rfl, hmsg, h₁⟩ := run_bind.mp h
  obtain ⟨rfl, rfl⟩ := run_ret.mp h₁
  rw [List.append_nil]
  exact ⟨only_genericMessageRegistry.run hmsg, rfl⟩

/-- A write is one transaction, with messages behind it if it fails. -/
theorem run_sendI2cCmdWrite_answer {ret : Int32}
    (h : Run (sendI2cCmdWrite b fd slaveId writeData) tr ret) :
    (∃ readData, tr = [⟨.i2cWrite fd slaveId writeData, .ok readData⟩] ∧ ret = 0)
      ∨ ∃ errno msgs, tr = ⟨.i2cWrite fd slaveId writeData, .failed errno⟩ :: msgs
        ∧ (∀ ev ∈ msgs, IsMessage ev.1) ∧ ret = -errorIoctlI2cRdwrFailure := by
  obtain ⟨answer, msgs, rfl, h₁⟩ := run_perform_bind.mp h
  cases answer with
  | ok readData =>
      obtain ⟨rfl, rfl⟩ := run_ret.mp h₁
      exact Or.inl ⟨readData, rfl, rfl⟩
  | failed errno =>
      obtain ⟨hmsg, rfl⟩ := run_sendI2cCmdFailed h₁
      exact Or.inr ⟨errno, msgs, rfl, hmsg, rfl⟩

theorem run_sendI2cCmdWrite {ret : Int32}
    (h : Run (sendI2cCmdWrite b fd slaveId writeData) tr ret) :
    ∃ answer tr', tr = ⟨.i2cWrite fd slaveId writeData, answer⟩ :: tr'
      ∧ (∀ ev ∈ tr', IsMessage ev.1) ∧ ((answer.completed = true ∧ ret = 0)
        ∨ (answer.completed = false ∧ ret = -errorIoctlI2cRdwrFailure)) := by
  rcases run_sendI2cCmdWrite_answer h with ⟨readData, rfl, rfl⟩ | ⟨errno, msgs, rfl, hmsg, rfl⟩
  · exact ⟨_, [], rfl, fun _ hev => absurd hev List.not_mem_nil, Or.inl ⟨rfl, rfl⟩⟩
  · exact ⟨_, msgs, rfl, hmsg, Or.inr ⟨rfl, rfl⟩⟩

theorem run_sendI2cCmdRead {n : Nat} {res : Int32 × Vector UInt8 n}
    (h : Run (sendI2cCmdRead b fd slaveId writeData n) tr res) :
    (∃ readData, tr = [⟨.i2cRead fd slaveId writeData n, .ok readData⟩] ∧ res = (0, readData))
      ∨ ∃ errno tr', tr = ⟨.i2cRead fd slaveId writeData n, .failed errno⟩ :: tr'
        ∧ (∀ ev ∈ tr', IsMessage ev.1) ∧ res.1 = -errorIoctlI2cRdwrFailure := by
  obtain ⟨answer, tr', rfl, h₁⟩ := run_perform_bind.mp h
  cases answer with
  | ok readData =>
      obtain ⟨rfl, rfl⟩ := run_ret.mp h₁
      exact Or.inl ⟨readData, rfl, rfl⟩
  | failed errno =>
      obtain ⟨tr₁, ret, tr₂, rfl, hfailed, h₂⟩ := run_bind.mp h₁
      obtain ⟨hmsg, rfl⟩ := run_sendI2cCmdFailed hfailed
      obtain ⟨rfl, rfl⟩ := run_ret.mp h₂
      rw [List.append_nil]
      exact Or.inr ⟨errno, tr₁, rfl, hmsg, rfl⟩

end Transactions

/-! ## Polling -/

section Polling

variable {b : Build} {fd : Int} {tr : List SysEvent}

/-- A status word read from `reg`. -/
abbrev statusRead (b : Build) (fd : Int) (reg : UInt32) (w : Vector UInt8 4) : SysEvent :=
  ⟨.i2cRead fd b.fpgaI2cCntrlAddr (regAddress reg) 4, .ok w⟩

/-- The words a polling loop read, and how it ended. It ended with 0 and the
last word it read, or with the error of a read that failed, which is then
followed by messages only. -/
theorem run_pollStatus_events {reg : UInt32} {turns : Nat} {w₀ : Vector UInt8 4}
    {res : Int32 × Vector UInt8 4} {busy : UInt8 → Bool}
    (h : Run (pollStatus b fd reg busy turns w₀) tr res) :
    ∃ ws : List (Vector UInt8 4), (res.1 = 0 ∧ tr = ws.map (statusRead b fd reg)
        ∧ (w₀ :: ws).getLast? = some res.2 ∧ (turns ≠ 0 → ws ≠ []))
      ∨ ∃ errno msgs, res.1 = -errorIoctlI2cRdwrFailure
        ∧ tr = ws.map (statusRead b fd reg)
          ++ ⟨.i2cRead fd b.fpgaI2cCntrlAddr (regAddress reg) 4, .failed errno⟩ :: msgs
        ∧ ∀ ev ∈ msgs, IsMessage ev.1 := by
  induction turns generalizing w₀ tr with
  | zero =>
      obtain ⟨rfl, rfl⟩ := run_ret.mp h
      exact ⟨[], Or.inl ⟨rfl, rfl, rfl, fun h => absurd rfl h⟩⟩
  | succ turns ih =>
      obtain ⟨tr₁, ⟨ret, w⟩, tr₂, rfl, hread, h₁⟩ := run_bind.mp h
      rcases run_sendI2cCmdRead hread with ⟨w', rfl, heq⟩ | ⟨errno, tr', rfl, hmsg, rfl⟩
      · obtain ⟨rfl, rfl⟩ := Prod.mk.inj heq
        dsimp only at h₁
        rw [if_neg (not_not.mpr rfl)] at h₁
        split at h₁
        · obtain ⟨ws, hws⟩ := ih h₁
          refine ⟨w :: ws, ?_⟩
          rcases hws with ⟨hret, rfl, hlast, -⟩ | ⟨errno, msgs, hret, rfl, hmsg⟩
          · refine Or.inl ⟨hret, rfl, ?_, fun _ => List.cons_ne_nil _ _⟩
            rw [List.getLast?_cons_cons]
            exact hlast
          · exact Or.inr ⟨errno, msgs, hret, rfl, hmsg⟩
        · obtain ⟨rfl, rfl⟩ := run_ret.mp h₁
          exact ⟨[w], Or.inl ⟨rfl, rfl, rfl, fun _ => List.cons_ne_nil _ _⟩⟩
      · dsimp only at h₁
        have hne : -errorIoctlI2cRdwrFailure ≠ 0 := by decide
        rw [if_pos hne] at h₁
        obtain ⟨rfl, rfl⟩ := run_ret.mp h₁
        exact ⟨[], Or.inr ⟨errno, tr', rfl, List.append_nil _, hmsg⟩⟩

/-- A loop with a turn to go ends with the last word it read. -/
theorem run_pollStatus_last {reg : UInt32} {turns : Nat} {w₀ : Vector UInt8 4}
    {res : Int32 × Vector UInt8 4} {busy : UInt8 → Bool} (hturns : turns ≠ 0)
    (h : Run (pollStatus b fd reg busy turns w₀) tr res) :
    ∃ ws : List (Vector UInt8 4), (res.1 = 0 ∧ tr = ws.map (statusRead b fd reg)
        ∧ ws.getLast? = some res.2)
      ∨ ∃ errno msgs, res.1 = -errorIoctlI2cRdwrFailure
        ∧ tr = ws.map (statusRead b fd reg)
          ++ ⟨.i2cRead fd b.fpgaI2cCntrlAddr (regAddress reg) 4, .failed errno⟩ :: msgs
        ∧ ∀ ev ∈ msgs, IsMessage ev.1 := by
  obtain ⟨ws, ⟨hret, htr, hlast, hne⟩ | hfailed⟩ := run_pollStatus_events h
  · obtain ⟨w, ws, rfl⟩ := List.exists_cons_of_ne_nil (hne hturns)
    rw [List.getLast?_cons_cons] at hlast
    exact ⟨w :: ws, Or.inl ⟨hret, htr, hlast⟩⟩
  · exact ⟨ws, Or.inr hfailed⟩

theorem filterMap_statusReads {β : Type} {f : SysEvent → Option β} {g : Vector UInt8 4 → β}
    {reg : UInt32} (hword : ∀ w, f (statusRead b fd reg w) = some (g w))
    (ws : List (Vector UInt8 4)) : (ws.map (statusRead b fd reg)).filterMap f = ws.map g := by
  induction ws with
  | nil => rfl
  | cons w ws ih => rw [List.map_cons, List.filterMap_cons_some (hword w), ih, List.map_cons]

/-- The marks of a polling loop, for any way of marking that knows its words. -/
theorem run_pollStatus {f : SysEvent → Option Mark} {reg : UInt32} {turns : Nat}
    {w₀ : Vector UInt8 4} {res : Int32 × Vector UInt8 4} {busy : UInt8 → Bool}
    (hword : ∀ w, f (statusRead b fd reg w) = some (.word w))
    (hlost : ∀ errno,
      f ⟨.i2cRead fd b.fpgaI2cCntrlAddr (regAddress reg) 4, .failed errno⟩ = some .lost)
    (hmsg : ∀ ev : SysEvent, IsMessage ev.1 → f ev = none) (hturns : turns ≠ 0)
    (h : Run (pollStatus b fd reg busy turns w₀) tr res) :
    ∃ ws : List (Vector UInt8 4), (res.1 = 0 ∧ tr.filterMap f = ws.map .word
        ∧ ws.getLast? = some res.2)
      ∨ (res.1 = -errorIoctlI2cRdwrFailure ∧ tr.filterMap f = ws.map .word ++ [.lost]) := by
  obtain ⟨ws, ⟨hret, rfl, hlast⟩ | ⟨errno, msgs, hret, rfl, hmsgs⟩⟩ := run_pollStatus_last hturns h
  · exact ⟨ws, Or.inl ⟨hret, filterMap_statusReads hword ws, hlast⟩⟩
  · refine ⟨ws, Or.inr ⟨hret, ?_⟩⟩
    have hnone : msgs.filterMap f = [] :=
      List.filterMap_eq_nil_iff.mpr fun ev hev => hmsg ev (hmsgs ev hev)
    rw [List.filterMap_append, filterMap_statusReads hword, List.filterMap_cons_some (hlost errno),
      hnone]

end Polling

/-! ## The error bytes -/

theorem toNat_maskRetimer {i : Nat} (h : i < 8) : (maskRetimer.getD i 0).toNat = 2 ^ i := by
  revert i
  decide

theorem has_maskRetimer {i r : Nat} (h : i < 8) : Has (maskRetimer.getD i 0) r ↔ r = i := by
  rw [Has, toNat_maskRetimer h, Nat.testBit_two_pow, decide_eq_true_eq, eq_comm]

/-- The test of the loop in the three status checks. -/
theorem masked_shift {status : UInt8} {i : Nat} (h : i < 8) :
    (status &&& maskRetimer.getD i 0).toNat >>> i = 1 ↔ Has status i := by
  rw [UInt8.toNat_and, toNat_maskRetimer h, Nat.shiftRight_and_distrib, Nat.shiftRight_eq_div_pow,
    Nat.shiftRight_eq_div_pow, Nat.div_self (Nat.two_pow_pos i), Nat.and_one_is_mod, Has,
    Nat.testBit_eq_decide_div_mod_eq, decide_eq_true_eq]

section Errors

variable {status retimer : UInt8} {allRetimers oneRetimer resolution : String}
  {tr : List SysEvent}

theorem run_statusErrorLoop_low {n : Nat} (hn : n ≤ 8) {res : UInt8}
    (h : Run (statusErrorLoop status allRetimers oneRetimer resolution n retimer) tr res)
    (r : Nat) :
    Has res r ↔ Has retimer r ∨ (r < n ∧ Has status r) := by
  induction n generalizing retimer tr with
  | zero =>
      obtain ⟨-, rfl⟩ := run_ret.mp h
      simp
  | succ i ih =>
      have hi : i < 8 := hn
      rw [statusErrorLoop, if_neg (fun h => absurd h.1 (Nat.ne_of_lt hi))] at h
      split at h
      · next hbit =>
          obtain ⟨_, _, _, -, -, h₁⟩ := run_bind.mp h
          rw [ih (Nat.le_of_lt hi) h₁, has_or, has_maskRetimer hi, or_assoc,
            Nat.lt_succ_iff_lt_or_eq]
          have hset := (masked_shift hi).mp hbit
          constructor
          · rintro (h | rfl | ⟨hlt, h⟩)
            · exact Or.inl h
            · exact Or.inr ⟨Or.inr rfl, hset⟩
            · exact Or.inr ⟨Or.inl hlt, h⟩
          · rintro (h | ⟨hlt | rfl, h⟩)
            · exact Or.inl h
            · exact Or.inr (Or.inr ⟨hlt, h⟩)
            · exact Or.inr (Or.inl rfl)
      · next hbit =>
          rw [ih (Nat.le_of_lt hi) h, Nat.lt_succ_iff_lt_or_eq]
          have hclear := mt (masked_shift hi).mpr hbit
          constructor
          · rintro (h | ⟨hlt, h⟩)
            · exact Or.inl h
            · exact Or.inr ⟨Or.inl hlt, h⟩
          · rintro (hset | ⟨hlt | rfl, hset⟩)
            · exact Or.inl hset
            · exact Or.inr ⟨hlt, hset⟩
            · exact absurd hset hclear

theorem masked_all (status : UInt8) : status &&& maskRetimer.getD 8 0 = status := by
  have hmask : maskRetimer.getD 8 0 = 0xFF := rfl
  have hall : (0xFF : UInt8).toNat = 2 ^ 8 - 1 := rfl
  rw [hmask]
  apply eq_of_has
  intro r
  rw [Has, UInt8.toNat_and, hall, Nat.and_two_pow_sub_one_eq_mod _ 8,
    Nat.mod_eq_of_lt status.toNat_lt, Has]

theorem not_shift_all (status : UInt8) : ¬status.toNat >>> 8 = 1 := by
  rw [Nat.shiftRight_eq_div_pow, Nat.div_eq_of_lt status.toNat_lt]
  decide

/-- The status checks find just the retimers in the byte. The loop has nine
turns, and the mask of the last one leaves the whole byte, which has no bit 8,
so that turn finds nothing. -/
theorem run_statusErrorLoop {res : UInt8}
    (h : Run (statusErrorLoop status allRetimers oneRetimer resolution 9 retimer) tr res) :
    res = retimer ||| status := by
  have hmask : maskRetimer.getD 8 0 = 0xFF := rfl
  rw [statusErrorLoop] at h
  simp only [masked_all, true_and] at h
  split at h
  · next hall =>
      obtain ⟨_, _, _, -, -, h₁⟩ := run_bind.mp h
      obtain ⟨-, rfl⟩ := run_ret.mp h₁
      rw [hall, hmask]
  · rw [if_neg (not_shift_all status)] at h
    apply eq_of_has
    intro r
    rw [run_statusErrorLoop_low (Nat.le_refl 8) h, has_or]
    exact or_congr_right ⟨And.right, fun h => ⟨h.lt, h⟩⟩

/-- The ways through the check of one status byte, with `retry` the retimers
found before it. -/
inductive StatusByteRun (error : Int32) (allRetimers oneRetimer resolution message : String)
    (versionStr : List UInt8) (status retry : UInt8) : List SysEvent → Int32 × UInt8 → Prop where
  | clear (hzero : status = 0) :
      StatusByteRun error allRetimers oneRetimer resolution message versionStr status retry []
        (0, retry)
  | checked {tr₁ tr₂ : List SysEvent} (hne : status ≠ 0)
      (hloop : Run (statusErrorLoop status allRetimers oneRetimer resolution 9 retry) tr₁
        (retry ||| status))
      (hbatch : Run (prepareMessageRegistry (retry ||| status) message versionStr
        msgRegVerFollowedByDev critical
        (some "Reach out to the NVIDIA support team for further action") false) tr₂ ()) :
      StatusByteRun error allRetimers oneRetimer resolution message versionStr status retry
        (tr₁ ++ tr₂) (-error ||| Int32.ofNat (retry ||| status).toNat, retry ||| status)

section Byte

variable {error : Int32} {message : String} {versionStr : List UInt8} {retry : UInt8}
  {res : Int32 × UInt8}

theorem run_checkStatusByte
    (h : Run (checkStatusByte (checkStatusError error allRetimers oneRetimer resolution) message
      versionStr status retry) tr res) :
    StatusByteRun error allRetimers oneRetimer resolution message versionStr status retry tr
      res := by
  unfold checkStatusByte at h
  split at h
  · next hzero =>
      obtain ⟨rfl, rfl⟩ := run_ret.mp h
      exact .clear hzero
  · next hne =>
      obtain ⟨tr₁, ⟨code, found⟩, _, rfl, hcheck, h₁⟩ := run_bind.mp h
      obtain ⟨tr₂, _, _, rfl, hbatch, h₂⟩ := run_bind.mp h₁
      obtain ⟨rfl, rfl⟩ := run_ret.mp h₂
      obtain ⟨tr₃, retimer, _, rfl, hloop, h₃⟩ := run_bind.mp hcheck
      obtain ⟨rfl, heq⟩ := run_ret.mp h₃
      obtain ⟨rfl, rfl⟩ := Prod.mk.inj heq
      obtain rfl := run_statusErrorLoop hloop
      rw [List.append_nil, List.append_nil]
      exact .checked hne hloop hbatch

/-- A nonzero byte adds its retimers to the retry, and the code has them in its
low byte. -/
theorem StatusByteRun.found (herror : toUint8 (-error) = 0)
    (h : StatusByteRun error allRetimers oneRetimer resolution message versionStr status retry tr
      res) :
    res.2 = retry ||| status ∧ (status = 0 → res.1 = 0)
      ∧ retry ||| toUint8 res.1 = retry ||| status := by
  cases h with
  | clear hzero =>
      rw [hzero, UInt8.or_zero]
      exact ⟨rfl, fun _ => rfl, UInt8.or_zero⟩
  | checked hne =>
      refine ⟨rfl, fun hzero => absurd hzero hne, ?_⟩
      rw [toUint8_or, toUint8_ofNat, herror, UInt8.zero_or, ← UInt8.or_assoc, UInt8.or_self]

end Byte

/-- The code of a status word has the retimers found in its low byte, and is 0
when there are none. -/
theorem run_checkStatusWord {versionStr : List UInt8} {w : Vector UInt8 4} {res : Int32 × UInt8}
    (h : Run (checkStatusWord versionStr w) tr res) :
    res.2 = flagged w ∧ toUint8 res.1 = flagged w ∧ (flagged w = 0 → res.1 = 0) := by
  obtain ⟨_, ⟨writeNack, retry₁⟩, _, -, hwrite, h₁⟩ := run_bind.mp h
  obtain ⟨_, ⟨readNack, retry₂⟩, _, -, hread, h₂⟩ := run_bind.mp h₁
  obtain ⟨_, ⟨checksum, retry₃⟩, _, -, hsum, h₃⟩ := run_bind.mp h₂
  obtain ⟨-, rfl⟩ := run_ret.mp h₃
  obtain ⟨hretry₁, hzero₁, hcode₁⟩ := (run_checkStatusByte hwrite).found (by decide)
  obtain ⟨hretry₂, hzero₂, hcode₂⟩ := (run_checkStatusByte hread).found (by decide)
  obtain ⟨hretry₃, hzero₃, hcode₃⟩ := (run_checkStatusByte hsum).found (by decide)
  simp only [UInt8.zero_or] at hretry₁ hcode₁
  obtain rfl : retry₁ = w[1] := hretry₁
  obtain rfl : retry₂ = w[1] ||| w[2] := hretry₂
  dsimp only at hcode₂ hcode₃ hzero₁ hzero₂ hzero₃
  refine ⟨hretry₃, ?_, fun hclear => ?_⟩
  · calc toUint8 (writeNack ||| readNack ||| checksum)
        = w[1] ||| toUint8 readNack ||| toUint8 checksum := by rw [toUint8_or, toUint8_or, hcode₁]
      _ = flagged w := by rw [hcode₂, hcode₃, flagged]
  · obtain ⟨h₁, h₂, h₃⟩ := flagged_eq_zero.mp hclear
    show writeNack ||| readNack ||| checksum = 0
    rw [hzero₁ h₁, hzero₂ h₂, hzero₃ h₃]
    rfl

end Errors

/-! ## The extended error register -/

section Extended

variable {b : Build} {tr : List SysEvent}

/-- The extended error register costs the update one transaction, which is the
only way to fail. -/
theorem run_checkExtenedErrorReg {ret : Int32} (h : Run (checkExtenedErrorReg b) tr ret) :
    (¬ret < 0 ∧ marks b tr = []) ∨ (ret < 0 ∧ marks b tr = [.lost]) := by
  obtain ⟨exfd, tr₁, rfl, h₁⟩ := run_perform_bind.mp h
  rw [marks_cons]
  split at h₁
  · obtain ⟨rfl, rfl⟩ := run_ret.mp h₁
    exact Or.inl ⟨by decide, rfl⟩
  · obtain ⟨tr₂, ⟨code, dump⟩, tr₃, rfl, hread, h₂⟩ := run_bind.mp h₁
    rcases run_sendI2cCmdRead hread with ⟨w, rfl, heq⟩ | ⟨errno, tr', rfl, hmsg, rfl⟩
    · obtain ⟨rfl, rfl⟩ := Prod.mk.inj heq
      dsimp only at h₂
      rw [if_neg (not_not.mpr rfl)] at h₂
      obtain ⟨tr₄, _, tr₅, rfl, hloop, h₃⟩ := run_bind.mp h₂
      obtain ⟨tr₆, _, tr₇, rfl, hwp, h₄⟩ := run_bind.mp h₃
      obtain ⟨tr₈, _, tr₉, rfl, hmux, h₅⟩ := run_bind.mp h₄
      obtain ⟨_, tr₁₀, rfl, h₆⟩ := run_perform_bind.mp h₅
      obtain ⟨rfl, rfl⟩ := run_ret.mp h₆
      refine Or.inl ⟨by decide, ?_⟩
      rw [marks_append, marks_append, marks_append, marks_append,
        marks_of_generic only_extendedErrorLoop hloop, marks_of_generic only_checkGlobalWp hwp,
        marks_of_generic only_checkMuxSel hmux]
      rfl
    · dsimp only at h₂
      have hne : -errorIoctlI2cRdwrFailure ≠ 0 := by decide
      rw [if_pos hne] at h₂
      obtain ⟨_, tr₄, rfl, h₃⟩ := run_perform_bind.mp h₂
      obtain ⟨rfl, rfl⟩ := run_ret.mp h₃
      refine Or.inr ⟨by decide, ?_⟩
      rw [marks_append, marks_cons, marks_of_messages hmsg]
      rfl

end Extended

/-! ## The retry loop -/

section Attempts

variable {b : Build} {fd : Int} {versionStr : List UInt8} {n : Nat} {bitmap : UInt8} {ret : Int32}
  {retimerNotUpdated : UInt8} {tr : List SysEvent} {res : Int32 × UInt8}

/-- How a turn of the retry loop ends: the loop is left with `ret`, it is left
with an update that went well, or the retimers found go into the next turn. -/
inductive AttemptEnd where
  | failed (ret : Int32)
  | clear
  | retry (retryUpdate4Retimer : UInt8) (code : Int32)

/-- The request that starts an update. -/
abbrev triggerCall (b : Build) (fd : Int) (bitmap : UInt8) : Call :=
  .i2cWrite fd b.fpgaI2cCntrlAddr (regAddress fpgaUpdateStatusReg ++ [bitmap, 0x00, 0x00, 0x00])

abbrev lostRead (b : Build) (fd : Int) (errno : Int32) : SysEvent :=
  ⟨.i2cRead fd b.fpgaI2cCntrlAddr (regAddress fpgaUpdateStatusReg) 4, .failed errno⟩

theorem markOf_trigger {answer : I2cResult 0} :
    markOf b ⟨triggerCall b fd bitmap, answer⟩ = some (.trigger bitmap answer.completed) :=
  if_pos ⟨rfl, addressOf_updateStatus _⟩

theorem marks_words (words : List (Vector UInt8 4)) :
    marks b (words.map (statusRead b fd fpgaUpdateStatusReg)) = words.map .word :=
  filterMap_statusReads (fun w => by simp [markOf]) words

/-- One turn of the retry loop: the trigger, the words polled, and what is made
of the last one. -/
inductive AttemptRun (b : Build) (fd : Int) (versionStr : List UInt8) (bitmap : UInt8) :
    List SysEvent → AttemptEnd → Prop where
  | unsent {errno : Int32} {msgs : List SysEvent} (hmsgs : ∀ ev ∈ msgs, IsMessage ev.1) :
      AttemptRun b fd versionStr bitmap (⟨triggerCall b fd bitmap, .failed errno⟩ :: msgs)
        (.failed (-errorIoctlI2cRdwrFailure))
  | lost {r : Vector UInt8 0} {words : List (Vector UInt8 4)} {errno : Int32}
      {msgs : List SysEvent} (hmsgs : ∀ ev ∈ msgs, IsMessage ev.1) :
      AttemptRun b fd versionStr bitmap (⟨triggerCall b fd bitmap, .ok r⟩
          :: (words.map (statusRead b fd fpgaUpdateStatusReg) ++ lostRead b fd errno :: msgs))
        (.failed (-errorIoctlI2cRdwrFailure))
  | clear {r : Vector UInt8 0} {words : List (Vector UInt8 4)} {w : Vector UInt8 4}
      (hlast : words.getLast? = some w) (hclear : Clear w) :
      AttemptRun b fd versionStr bitmap (⟨triggerCall b fd bitmap, .ok r⟩
          :: words.map (statusRead b fd fpgaUpdateStatusReg)) .clear
  | checked {r : Vector UInt8 0} {words : List (Vector UInt8 4)} {w : Vector UInt8 4}
      {check ext : List SysEvent} {code extended : Int32} {retry : UInt8}
      (hlast : words.getLast? = some w) (hclear : ¬Clear w)
      (hcheck : Run (checkStatusWord versionStr w) check (code, retry))
      (hext : Run (checkExtenedErrorReg b) ext extended) :
      AttemptRun b fd versionStr bitmap (⟨triggerCall b fd bitmap, .ok r⟩
          :: (words.map (statusRead b fd fpgaUpdateStatusReg) ++ (check ++ ext)))
        (if extended < 0 then .failed (-errorOpenFirmware) else .retry retry code)

/-- What comes after a turn that ended so, with `n` more to go. -/
def AttemptEnd.Goes (b : Build) (fd : Int) (versionStr : List UInt8) (n : Nat)
    (retimerNotUpdated : UInt8) (rest : List SysEvent) (res : Int32 × UInt8) : AttemptEnd → Prop
  | .failed ret => rest = [] ∧ res = (ret, retimerNotUpdated)
  | .clear => rest = [] ∧ res = (0, retimerNotUpdated)
  | .retry bitmap code => Run (updateAttempts b fd versionStr n bitmap code bitmap) rest res

/-- **One turn of the retry loop**, and the rest. The turn has the events up to
its last poll and, where its word has an error, those of the checks and of the
extended error register. -/
theorem run_updateAttempts_turn
    (h : Run (updateAttempts b fd versionStr (n + 1) bitmap ret retimerNotUpdated) tr res) :
    ∃ seg rest ending, tr = seg ++ rest ∧ AttemptRun b fd versionStr bitmap seg ending
      ∧ ending.Goes b fd versionStr n retimerNotUpdated rest res := by
  have hioctl : -errorIoctlI2cRdwrFailure ≠ 0 := by decide
  obtain ⟨tr₁, ret₁, tr₂, rfl, hsend, h₁⟩ := run_bind.mp h
  rcases run_sendI2cCmdWrite_answer hsend with ⟨r, rfl, rfl⟩ | ⟨errno, msgs, rfl, hmsgs, rfl⟩
  · rw [if_neg (not_not.mpr rfl)] at h₁
    obtain ⟨tr₃, ⟨ret₂, w⟩, tr₄, rfl, hpoll, h₂⟩ := run_bind.mp h₁
    dsimp only at h₂
    obtain ⟨words, ⟨hret, rfl, hlast⟩ | ⟨errno, msgs, hret, rfl, hmsgs⟩⟩ :=
      run_pollStatus_last (by decide) hpoll
    · obtain rfl : ret₂ = 0 := hret
      rw [if_neg (not_not.mpr rfl)] at h₂
      split at h₂
      · next hclear =>
          obtain ⟨rfl, rfl⟩ := run_ret.mp h₂
          exact ⟨_, [], _, rfl, .clear hlast hclear, rfl, rfl⟩
      · next hclear =>
          obtain ⟨check, ⟨code, retry⟩, tr₆, rfl, hcheck, h₃⟩ := run_bind.mp h₂
          obtain ⟨ext, extended, rest, rfl, hext, h₄⟩ := run_bind.mp h₃
          refine ⟨_, rest, _, ?_, .checked (r := r) hlast hclear hcheck hext, ?_⟩
          · simp
          · split at h₄
            · next hneg =>
                obtain ⟨rfl, rfl⟩ := run_ret.mp h₄
                rw [if_pos hneg]
                exact ⟨rfl, rfl⟩
            · next hneg =>
                rw [if_neg hneg]
                exact h₄
    · obtain rfl : ret₂ = -errorIoctlI2cRdwrFailure := hret
      rw [if_pos hioctl] at h₂
      obtain ⟨rfl, rfl⟩ := run_ret.mp h₂
      refine ⟨_, [], _, ?_, @AttemptRun.lost b fd versionStr bitmap r words errno msgs hmsgs,
        rfl, rfl⟩
      simp
  · rw [if_pos hioctl] at h₁
    obtain ⟨rfl, rfl⟩ := run_ret.mp h₁
    exact ⟨_, [], _, rfl, .unsent hmsgs, rfl, rfl⟩

/-- What the attempt of a turn shows of its ending. The word that a retry goes
by is the last one of the attempt, and the bitmap and the code of the next turn
are what the checks make of it. -/
def AttemptEnd.Shows (versionStr : List UInt8) (a : Attempt) : AttemptEnd → Prop
  | .failed ret => a.Failed ∧ toUint8 ret ≠ 0
  | .clear => ∃ w, a.polled = some w ∧ Clear w
  | .retry bitmap code => ∃ w check, a.polled = some w ∧ ¬Clear w
      ∧ Run (checkStatusWord versionStr w) check (code, bitmap)

theorem AttemptRun.attempt {ending : AttemptEnd} {seg : List SysEvent}
    (h : AttemptRun b fd versionStr bitmap seg ending) :
    ∃ a : Attempt, marks b seg = a.marks ∧ a.bitmap = bitmap ∧ ending.Shows versionStr a := by
  have hioctl : toUint8 (-errorIoctlI2cRdwrFailure) ≠ 0 := by decide
  have hopen : toUint8 (-errorOpenFirmware) ≠ 0 := by decide
  cases h with
  | unsent hmsgs =>
      refine ⟨⟨bitmap, false, [], false⟩, ?_, rfl, Or.inl rfl, hioctl⟩
      rw [marks_cons, markOf_trigger, marks_of_messages hmsgs]
      rfl
  | @lost r words errno msgs hmsgs =>
      refine ⟨⟨bitmap, true, words, true⟩, ?_, rfl, Or.inr rfl, hioctl⟩
      rw [marks_cons, markOf_trigger, marks_append, marks_words, marks_cons,
        marks_of_messages hmsgs]
      rfl
  | @clear r words w hlast hclear =>
      refine ⟨⟨bitmap, true, words, false⟩, ?_, rfl, w, hlast, hclear⟩
      rw [marks_cons, markOf_trigger, marks_words]
      exact (List.append_nil _).symm
  | @checked r words w check ext code extended retry hlast hclear hcheck hext =>
      have hquiet := marks_of_reports (b := b) (only_checkStatusWord.run hcheck)
      rcases run_checkExtenedErrorReg hext with ⟨hpos, hextm⟩ | ⟨hneg, hextm⟩
      · rw [if_neg hpos]
        refine ⟨⟨bitmap, true, words, false⟩, ?_, rfl, w, check, hlast, hclear, hcheck⟩
        rw [marks_cons, markOf_trigger, marks_append, marks_words, marks_append, hquiet, hextm]
        rfl
      · rw [if_pos hneg]
        refine ⟨⟨bitmap, true, words, true⟩, ?_, rfl, Or.inr rfl, hopen⟩
        rw [marks_cons, markOf_trigger, marks_append, marks_words, marks_append, hquiet, hextm]
        rfl

/-- **One attempt.** A run of the retry loop with an attempt to go is that
attempt `a`; what follows it is decided by whether it failed and by the status
word it ended with. -/
theorem run_updateAttempts_succ
    (h : Run (updateAttempts b fd versionStr (n + 1) bitmap ret retimerNotUpdated) tr res) :
    ∃ (a : Attempt) (tr₁ tr₂ : List SysEvent), tr = tr₁ ++ tr₂ ∧ marks b tr₁ = a.marks
      ∧ a.bitmap = bitmap
      ∧ ((a.Failed ∧ tr₂ = [] ∧ toUint8 res.1 ≠ 0 ∧ res.2 = retimerNotUpdated)
        ∨ ∃ w, a.polled = some w
          ∧ ((Clear w ∧ tr₂ = [] ∧ res = (0, retimerNotUpdated))
            ∨ (¬Clear w ∧ ∃ code, toUint8 code = flagged w ∧ (flagged w = 0 → code = 0)
              ∧ Run (updateAttempts b fd versionStr n (flagged w) code (flagged w)) tr₂ res))) := by
  obtain ⟨seg, rest, ending, rfl, hturn, hgoes⟩ := run_updateAttempts_turn h
  obtain ⟨a, hmarks, hbitmap, hshows⟩ := hturn.attempt
  refine ⟨a, seg, rest, rfl, hmarks, hbitmap, ?_⟩
  cases ending with
  | failed ret' =>
      obtain ⟨rfl, rfl⟩ := hgoes
      exact Or.inl ⟨hshows.1, rfl, hshows.2, rfl⟩
  | clear =>
      obtain ⟨rfl, rfl⟩ := hgoes
      obtain ⟨w, hpolled, hclear⟩ := hshows
      exact Or.inr ⟨w, hpolled, Or.inl ⟨hclear, rfl, rfl⟩⟩
  | retry bitmap' code =>
      obtain ⟨w, check, hpolled, hclear, hcheck⟩ := hshows
      obtain ⟨rfl, hcode, hzero⟩ := run_checkStatusWord hcheck
      exact Or.inr ⟨w, hpolled, Or.inr ⟨hclear, code, hcode, hzero, hgoes⟩⟩

theorem head_updateAttempts
    (h : Run (updateAttempts b fd versionStr n bitmap ret retimerNotUpdated) tr res) :
    ∀ m ∈ (marks b tr).head?, m.isFirst = true := by
  cases n with
  | zero =>
      obtain ⟨rfl, -⟩ := run_ret.mp h
      exact fun m hm => nomatch hm
  | succ n =>
      obtain ⟨a, tr₁, tr₂, rfl, hmarks, -⟩ := run_updateAttempts_succ h
      rw [marks_append, hmarks]
      intro m hm
      obtain rfl := Option.some.inj hm
      rfl

end Attempts

/-- One attempt comes off the front of a trace, if what is behind it starts with
a trigger or has no marks. A run is cut into its attempts by this lemma and
nothing else. -/
theorem attempts_cons {b : Build} {a : Attempt} {tr₁ tr₂ : List SysEvent}
    (h₁ : marks b tr₁ = a.marks) (h₂ : ∀ m ∈ (marks b tr₂).head?, m.isFirst = true) :
    attempts b (tr₁ ++ tr₂) = a :: attempts b tr₂
      ∧ statusWords b (tr₁ ++ tr₂) = a.words ++ statusWords b tr₂ := by
  have htail : a.marks.filterMap Mark.word? = a.marks.tail.filterMap Mark.word? := rfl
  refine ⟨?_, ?_⟩
  · rw [attempts, marks_append, h₁, attemptsOf_append _ h₂, attemptsOf_marks]
    rfl
  · rw [statusWords, marks_append, List.filterMap_append, h₁, htail, a.word?_marks]
    rfl

/-- What the retry loop makes of its attempts, with `n` of them allowed: a
failure ends it with `*retimerNotUpdated` as it stands, a clear status word
with a return of 0, and any other word goes into the next attempt. -/
inductive Retries : Nat → UInt8 → UInt8 → Int32 → List Attempt → Int32 × UInt8 → Prop where
  | spent {bitmap notUpdated : UInt8} {ret : Int32} :
      Retries 0 bitmap notUpdated ret [] (ret, notUpdated)
  | failed {n : Nat} {bitmap notUpdated : UInt8} {ret ret' : Int32} {a : Attempt}
      (hbitmap : a.bitmap = bitmap) (hfailed : a.Failed) (hret : toUint8 ret' ≠ 0) :
      Retries (n + 1) bitmap notUpdated ret [a] (ret', notUpdated)
  | clear {n : Nat} {bitmap notUpdated : UInt8} {ret : Int32} {a : Attempt} {w : Vector UInt8 4}
      (hbitmap : a.bitmap = bitmap) (hpolled : a.polled = some w) (hclear : Clear w) :
      Retries (n + 1) bitmap notUpdated ret [a] (0, notUpdated)
  | again {n : Nat} {bitmap notUpdated : UInt8} {ret code : Int32} {a : Attempt}
      {w : Vector UInt8 4} {as : List Attempt} {res : Int32 × UInt8}
      (hbitmap : a.bitmap = bitmap) (hpolled : a.polled = some w) (hclear : ¬Clear w)
      (hcode : toUint8 code = flagged w) (hzero : flagged w = 0 → code = 0)
      (hrest : Retries n (flagged w) (flagged w) code as res) :
      Retries (n + 1) bitmap notUpdated ret (a :: as) res

theorem run_updateAttempts {b : Build} {fd : Int} {versionStr : List UInt8} {n : Nat}
    {bitmap retimerNotUpdated : UInt8} {ret : Int32} {tr : List SysEvent} {res : Int32 × UInt8}
    (h : Run (updateAttempts b fd versionStr n bitmap ret retimerNotUpdated) tr res) :
    Retries n bitmap retimerNotUpdated ret (attempts b tr) res
      ∧ statusWords b tr = (attempts b tr).flatMap (·.words) := by
  induction n generalizing bitmap ret retimerNotUpdated tr with
  | zero =>
      obtain ⟨rfl, rfl⟩ := run_ret.mp h
      exact ⟨.spent, rfl⟩
  | succ n ih =>
      obtain ⟨a, tr₁, tr₂, rfl, hmarks, hbitmap, hrest⟩ := run_updateAttempts_succ h
      have hlast : attempts b (tr₁ ++ []) = [a] ∧ statusWords b (tr₁ ++ []) = a.words ++ [] :=
        attempts_cons hmarks fun m hm => nomatch hm
      rcases hrest with ⟨hfailed, rfl, hret, hres⟩
        | ⟨w, hpolled, ⟨hclear, rfl, rfl⟩ | ⟨hclear, code, hcode, hzero, hrun⟩⟩
      · obtain ⟨ret', _⟩ := res
        obtain rfl : _ = retimerNotUpdated := hres
        rw [hlast.1, hlast.2]
        exact ⟨.failed hbitmap hfailed hret, rfl⟩
      · rw [hlast.1, hlast.2]
        exact ⟨.clear hbitmap hpolled hclear, rfl⟩
      · obtain ⟨hatt, hwords⟩ := attempts_cons hmarks (head_updateAttempts hrun)
        obtain ⟨hretries, hrest⟩ := ih hrun
        rw [hatt, hwords, hrest]
        exact ⟨.again hbitmap hpolled hclear hcode hzero hretries, rfl⟩

end Retimer
