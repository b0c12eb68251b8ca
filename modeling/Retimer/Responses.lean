import Retimer.HashExits
import Retimer.TwoRuns

/-!
# One request in two histories

An FPGA that answers by what is in view of it: the DPRAM as far as an
image reaches, the size and the checksum register, and the transactions
of the request so far (`FpgaModel`). Two requests whose calls have the
same outcomes then go on in the same way once the DPRAM has been
cleared, since by then all that is in view is the same; and until it has
been cleared nothing that is read from the FPGA is looked at.

The two requests are taken side by side (`Side`, an instance of `Both`),
with the same outcome of every call (`SameOutcome`): success or the same
failure, whatever data was delivered. There are two relations between
their states. `Together` has the same transactions and the same file; it
is enough for a program that only writes (`side_posting`), and for the
copy into the DPRAM, whose reads are of no consequence. `SameSight` has
the same memory in view as well; then the same outcome is the same
answer (`SameSight.answer`), and whatever is settled by its outcomes
goes the same way in both (`side_settled`).

From the one to the other it takes the copy of an image of full length.
`ensures_cleared` is its specification for this FPGA, from the one of
the update tool (`FpgaModel.step_clearing`); `Loaded.sameView` says that
all in view has been overwritten, and `side_loaded` and
`side_copyImageFromFileToFpga` put it together.
-/

namespace Retimer

open Interaction Interaction.Prog

/-! ## The FPGA -/

/-- The memory is the same where an FPGA may look. -/
def SameView (b : Build) (m m' : ByteMem) : Prop :=
  ∀ x, x < b.maxFwImageSize ∨ (fpgaImgSizeReg.toNat ≤ x ∧ x < fpgaUpdateStatusReg.toNat) →
    m' x = m x

/-- The bytes that reads deliver and what transactions do to the memory, each by
the transactions of the request so far and the memory in view. Until a read is
triggered, the memory changes by writes alone. Nothing else is known of the
FPGA, in particular not when a read ends or what it delivers. -/
structure FpgaModel (b : Build) where
  reply (past : List (Call × Bool)) (m : ByteMem) (slaveId : UInt8) (writeData : List UInt8)
    (n : Nat) : Vector UInt8 n
  effect (past : List (Call × Bool)) (m : ByteMem) (c : Call) (completed : Bool) : ByteMem
  reply_congr {past : List (Call × Bool)} {m m' : ByteMem} {slaveId : UInt8}
    {writeData : List UInt8} {n : Nat} (h : SameView b m m') :
    reply past m' slaveId writeData n = reply past m slaveId writeData n
  effect_congr {past : List (Call × Bool)} {m m' : ByteMem} {c : Call} {completed : Bool}
    (h : SameView b m m') : SameView b (effect past m c completed) (effect past m' c completed)
  effect_write {past : List (Call × Bool)} {m : ByteMem} {fd : Int} {slaveId : UInt8}
    {writeData : List UInt8} {answer : I2cResult 0} (hpast : ∀ t ∈ past, StartsNoRead t.1)
    (hwrite : StartsNoRead (.i2cWrite fd slaveId writeData)) :
    Fpga.step b m ⟨.i2cWrite fd slaveId writeData, answer⟩
      (effect past m (.i2cWrite fd slaveId writeData) answer.completed)
  effect_read {past : List (Call × Bool)} {m : ByteMem} {fd : Int} {slaveId : UInt8}
    {writeData : List UInt8} {n : Nat} {completed : Bool} (hpast : ∀ t ∈ past, StartsNoRead t.1) :
    KeepsStaging m (effect past m (.i2cRead fd slaveId writeData n) completed)

/-- The transactions of the request so far, and the memory. -/
abbrev FpgaState : Type := List (Call × Bool) × ByteMem

namespace FpgaModel

variable {b : Build} (model : FpgaModel b)

def after (s : FpgaState) (c : Call) (completed : Bool) : FpgaState :=
  (s.1 ++ [(c, completed)], model.effect s.1 s.2 c completed)

/-- Whether a transaction gets through is left open. -/
def step : Env Call Answer FpgaState
  | s, ⟨.i2cWrite fd slaveId writeData, answer⟩, s' =>
      s' = model.after s (.i2cWrite fd slaveId writeData) answer.completed
  | s, ⟨.i2cRead fd slaveId writeData n, answer⟩, s' =>
      (∀ readData, answer = .ok readData → readData = model.reply s.1 s.2 slaveId writeData n)
        ∧ s' = model.after s (.i2cRead fd slaveId writeData n) answer.completed
  | s, _, s' => s' = s

end FpgaModel

/-! ## Outcomes -/

def I2cResult.errno {n : Nat} : I2cResult n → Option Int32
  | .ok _ => none
  | .failed errno => some errno

/-- The same outcome: success or the same failure, whatever data is delivered. -/
def SameAnswer : (c : Call) → Answer c → Answer c → Prop
  | .i2cRead _ _ _ _, a, a' => a.errno = a'.errno
  | .fstat _, a, a' => a.isSome = a'.isSome
  | .malloc _, a, a' => a.isSome = a'.isSome
  | .read _ _, a, a' => a.isSome = a'.isSome
  | .write _ _, a, a' => a.isSome = a'.isSome
  | .evpDigestFinal, a, a' => a.isSome = a'.isSome
  | _, a, a' => a = a'

/-- One call with the same outcome in both requests. -/
inductive SameOutcome : SysEvent → SysEvent → Prop where
  | same {c : Call} {a a' : Answer c} (h : SameAnswer c a a') : SameOutcome ⟨c, a⟩ ⟨c, a'⟩

theorem SameOutcome.answer {c : Call} {a a' : Answer c} (h : SameOutcome ⟨c, a⟩ ⟨c, a'⟩) :
    SameAnswer c a a' := by
  cases h with
  | same h => exact h

/-- Both failed, or both delivered something. -/
theorem both_of_isSome {α : Type} {a a' : Option α} (h : a.isSome = a'.isSome) :
    (a = none ∧ a' = none) ∨ ∃ x x', a = some x ∧ a' = some x' := by
  rcases a with _ | x
  · rcases a' with _ | x'
    · exact Or.inl ⟨rfl, rfl⟩
    · cases h
  · rcases a' with _ | x'
    · cases h
    · exact Or.inr ⟨x, x', rfl, rfl⟩

theorem I2cResult.completed_of_errno {n : Nat} {a a' : I2cResult n} (h : a.errno = a'.errno) :
    a'.completed = a.completed := by
  cases a <;> cases a' <;> first | rfl | cases h

namespace TempFile

/-- What is read or written is all there is to be transferred. -/
def Full (f : TempFile) : SysEvent → Prop
  | ⟨.read fd n, some bs⟩ => fd = f.fd → bs.val.length = min n (f.contents.length - f.offset)
  | ⟨.write fd buf, some n⟩ => fd = f.fd → n.val = buf.length
  | _ => True

def fullStep (path : String) : Env Call Answer TempFile :=
  fun f ev f' => TempFile.step path f ev f' ∧ f.Full ev

section Steps

variable {path : String} {f f₁ f₁' : TempFile} {c : Call} {a a' : Answer c}

theorem step_keeps (h : TempFile.step path f ⟨c, a⟩ f₁) (hc : KeepsName c) :
    f₁.named = f.named ∧ f₁.fd = f.fd := by
  cases effect_of_step h with
  | moved offset => exact ⟨rfl, rfl⟩
  | truncated => exact ⟨rfl, rfl⟩
  | written => exact ⟨rfl, rfl⟩
  | _ => exact hc.elim

/-- Calls with the same outcome leave the same file. -/
theorem fullStep_same (h : fullStep path f ⟨c, a⟩ f₁) (h' : fullStep path f ⟨c, a'⟩ f₁')
    (hsame : SameAnswer c a a') : f₁' = f₁ := by
  obtain ⟨hstep, hfull⟩ := h
  obtain ⟨hstep', hfull'⟩ := h'
  cases c with
  | fstat fd =>
      have hkept : ∀ {a : Answer (.fstat fd)} {f' : TempFile},
          TempFile.step path f ⟨.fstat fd, a⟩ f' → f' = f := by
        intro a f' h
        cases a with
        | none => exact h
        | some size => exact h.1
      rw [hkept hstep, hkept hstep']
  | read fd n =>
      rcases both_of_isSome hsame with ⟨rfl, rfl⟩ | ⟨bs, bs', rfl, rfl⟩
      · exact hstep'.trans hstep.symm
      · simp only [TempFile.step] at hstep hstep'
        by_cases hfd : fd = f.fd
        · rw [if_pos hfd] at hstep hstep'
          rw [hstep.2.2, hstep'.2.2, hfull hfd, hfull' hfd]
        · rw [if_neg hfd] at hstep hstep'
          rw [hstep, hstep']
  | write fd buf =>
      rcases both_of_isSome hsame with ⟨rfl, rfl⟩ | ⟨n, n', rfl, rfl⟩
      · exact hstep'.trans hstep.symm
      · simp only [TempFile.step] at hstep hstep'
        by_cases hfd : fd = f.fd
        · rw [if_pos hfd] at hstep hstep'
          rw [hstep, hstep', hfull hfd, hfull' hfd]
        · rw [if_neg hfd] at hstep hstep'
          rw [hstep, hstep']
  | i2cRead fd slaveId writeData n => exact hstep'.trans hstep.symm
  | malloc n => exact hstep'.trans hstep.symm
  | evpDigestFinal => exact hstep'.trans hstep.symm
  | unlink p =>
      obtain rfl : a = a' := hsame
      cases a <;> exact hstep'.trans hstep.symm
  | ftruncate fd length =>
      obtain rfl : a = a' := hsame
      cases a <;> exact hstep'.trans hstep.symm
  | lseek fd off =>
      obtain rfl : a = a' := hsame
      cases a <;> exact hstep'.trans hstep.symm
  | _ =>
      obtain rfl : a = a' := hsame
      exact hstep'.trans hstep.symm

end Steps

end TempFile

/-! ## Two requests side by side -/

/-- The FPGA, the file and the digest context. -/
abbrev RequestState : Type := FpgaState × TempFile × List UInt8

abbrev requestEnv {b : Build} (model : FpgaModel b) (sha384 : List UInt8 → Vector UInt8 48) :
    Env Call Answer RequestState :=
  model.step.prod ((TempFile.fullStep hashFile).prod (DigestContext.step sha384))

/-- Two requests that have made the same transactions and have the same file,
open as `dummyfd`. -/
structure Together (dummyfd : Int) (s s' : RequestState) : Prop where
  past : s'.1.1 = s.1.1
  file : s'.2.1 = s.2.1
  fd : s.2.1.fd = dummyfd

/-- The requests stand together, and the same memory is in view, so what an FPGA
makes of the next transaction is the same in both. -/
structure SameSight (b : Build) (dummyfd : Int) (s s' : RequestState) : Prop extends
    Together dummyfd s s' where
  view : SameView b s.1.2 s'.1.2

/-- The answer follows from the outcome, for requests that stand together. -/
def Settled (dummyfd : Int) : Call → Prop
  | .fstat fd | .read fd _ | .write fd _ => fd = dummyfd
  | .malloc _ | .evpDigestFinal | .openFile _ _ | .unlink _ => False
  | _ => True

theorem Settled.keepsName {dummyfd : Int} {c : Call} (h : Settled dummyfd c) : KeepsName c := by
  cases c with
  | openFile p flags => exact h
  | unlink p => exact h
  | _ => trivial

section Steps

variable {b : Build} {model : FpgaModel b} {sha384 : List UInt8 → Vector UInt8 48} {dummyfd : Int}
  {s s' s₁ s₁' : RequestState} {c : Call} {a a' : Answer c}

theorem Together.step (h : Together dummyfd s s') (hs : requestEnv model sha384 s ⟨c, a⟩ s₁)
    (hs' : requestEnv model sha384 s' ⟨c, a'⟩ s₁') (hsame : SameAnswer c a a')
    (hc : KeepsName c) : Together dummyfd s₁ s₁' := by
  obtain ⟨hpast, hfile, hfd⟩ := h
  obtain ⟨hfpga, hstep, -⟩ := hs
  obtain ⟨hfpga', hstep', -⟩ := hs'
  rw [hfile] at hstep'
  refine ⟨?_, TempFile.fullStep_same hstep hstep' hsame,
    (TempFile.step_keeps hstep.1 hc).2.trans hfd⟩
  cases c with
  | i2cWrite fd slaveId writeData =>
      obtain rfl : a = a' := hsame
      have hafter : s₁.1 = _ := hfpga
      have hafter' : s₁'.1 = _ := hfpga'
      rw [hafter, hafter', FpgaModel.after, FpgaModel.after, hpast]
  | i2cRead fd slaveId writeData n =>
      rw [hfpga.2, hfpga'.2, FpgaModel.after, FpgaModel.after, hpast,
        I2cResult.completed_of_errno hsame]
  | _ =>
      have hafter : s₁.1 = s.1 := hfpga
      have hafter' : s₁'.1 = s'.1 := hfpga'
      rw [hafter, hafter', hpast]

theorem SameSight.step (h : SameSight b dummyfd s s') (hs : requestEnv model sha384 s ⟨c, a⟩ s₁)
    (hs' : requestEnv model sha384 s' ⟨c, a'⟩ s₁') (hsame : SameAnswer c a a')
    (hc : KeepsName c) : SameSight b dummyfd s₁ s₁' := by
  refine ⟨h.toTogether.step hs hs' hsame hc, ?_⟩
  obtain ⟨⟨hpast, -, -⟩, hview⟩ := h
  cases c with
  | i2cWrite fd slaveId writeData =>
      obtain rfl : a = a' := hsame
      have hafter : s₁.1 = _ := hs.1
      have hafter' : s₁'.1 = _ := hs'.1
      rw [hafter, hafter', FpgaModel.after, FpgaModel.after, hpast]
      exact model.effect_congr hview
  | i2cRead fd slaveId writeData n =>
      rw [hs.1.2, hs'.1.2, FpgaModel.after, FpgaModel.after, hpast,
        I2cResult.completed_of_errno hsame]
      exact model.effect_congr hview
  | _ =>
      have hafter : s₁.1 = s.1 := hs.1
      have hafter' : s₁'.1 = s'.1 := hs'.1
      rwa [hafter, hafter']

/-- With the same in view, the same outcome is the same answer. -/
theorem SameSight.answer (h : SameSight b dummyfd s s') (hs : requestEnv model sha384 s ⟨c, a⟩ s₁)
    (hs' : requestEnv model sha384 s' ⟨c, a'⟩ s₁') (hsame : SameAnswer c a a')
    (hc : Settled dummyfd c) : a = a' := by
  obtain ⟨⟨hpast, hfile, hfd⟩, hview⟩ := h
  obtain ⟨hfpga, ⟨hstep, hfull⟩, -⟩ := hs
  obtain ⟨hfpga', ⟨hstep', hfull'⟩, -⟩ := hs'
  rw [hfile] at hstep' hfull'
  cases c with
  | i2cRead fd slaveId writeData n =>
      cases a with
      | failed errno =>
          cases a' with
          | failed errno' => exact congrArg _ (Option.some.inj hsame)
          | ok readData' => cases hsame
      | ok readData =>
          cases a' with
          | failed errno' => cases hsame
          | ok readData' =>
              rw [hfpga.1 readData rfl, hfpga'.1 readData' rfl, hpast, model.reply_congr hview]
  | fstat fd =>
      obtain rfl : fd = dummyfd := hc
      rcases both_of_isSome hsame with ⟨rfl, rfl⟩ | ⟨size, size', rfl, rfl⟩
      · rfl
      · rw [hstep.2 hfd.symm, hstep'.2 hfd.symm]
  | read fd n =>
      obtain rfl : fd = dummyfd := hc
      rcases both_of_isSome hsame with ⟨rfl, rfl⟩ | ⟨bs, bs', rfl, rfl⟩
      · rfl
      · simp only [TempFile.step, if_pos hfd.symm] at hstep hstep'
        have hlen : bs.val.length = bs'.val.length :=
          (hfull hfd.symm).trans (hfull' hfd.symm).symm
        refine congrArg some (Subtype.ext ?_)
        rw [hstep.1, hstep'.1, hlen]
  | write fd buf =>
      obtain rfl : fd = dummyfd := hc
      rcases both_of_isSome hsame with ⟨rfl, rfl⟩ | ⟨n, n', rfl, rfl⟩
      · rfl
      · exact congrArg some (Fin.ext ((hfull hfd.symm).trans (hfull' hfd.symm).symm))
  | malloc n => exact hc.elim
  | evpDigestFinal => exact hc.elim
  | openFile p flags => exact hc.elim
  | unlink p => exact hc.elim
  | _ => exact hsame

end Steps

/-! ## Rules for two requests -/

/-- The two programs, in the surroundings of their requests, each call with the
same outcome in both. -/
abbrev Side {b : Build} (model : FpgaModel b) (sha384 : List UInt8 → Vector UInt8 48) {α β : Type}
    (p : Sys α) (q : Sys β) (Q : α → β → RequestState → RequestState → Prop)
    (s s' : RequestState) : Prop :=
  Both (requestEnv model sha384) (requestEnv model sha384) (· = ·) SameOutcome p q Q s s'

/-- Writes to the FPGA, and messages. -/
def IsPosting : Call → Prop
  | .i2cWrite _ _ _ | .emitLogMessage _ => True
  | _ => False

theorem IsGeneric.isPosting {c : Call} (h : IsGeneric c) : IsPosting c := by
  cases c with
  | emitLogMessage m => trivial
  | _ => exact h.elim

section Rules

variable {b : Build} {model : FpgaModel b} {sha384 : List UInt8 → Vector UInt8 48}
    {dummyfd fd : Int}
  {s s' : RequestState} {slaveId : UInt8} {α β γ : Type}

theorem side_request {c : Call} {k : Answer c → Sys α} {k' : Answer c → Sys β}
    {Q : α → β → RequestState → RequestState → Prop}
    (h : ∀ a a' m m', requestEnv model sha384 s ⟨c, a⟩ m → requestEnv model sha384 s' ⟨c, a'⟩ m' →
      SameAnswer c a a' → Side model sha384 (k a) (k' a') Q m m') :
    Side model sha384 (Sys.request c >>= k) (Sys.request c >>= k') Q s s' :=
  both_ask.mpr ⟨rfl, fun a a' m m' hm hm' halike => h a a' m m' hm hm' halike.answer⟩

/-- With the same in view, what is settled by its outcomes goes the same way. By
induction on the program; at each request `SameSight.answer` gives the same
answer, and so the same rest. -/
theorem side_settled {p : Sys α} (hp : Only (Settled dummyfd) p) (h : SameSight b dummyfd s s') :
    Side model sha384 p p (fun a a' m m' => a = a' ∧ SameSight b dummyfd m m') s s' := by
  refine both_self hp (fun _ _ => rfl) (fun s s' c a a' m m' hc hsight hm hm' halike => ?_) h
  exact ⟨hsight.answer hm hm' halike.answer hc, hsight.step hm hm' halike.answer hc.keepsName⟩

/-- Whatever is in view, writing goes the same way: nothing that comes back
depends on the memory. -/
theorem side_posting {p : Sys α} (hp : Only IsPosting p) (h : Together dummyfd s s') :
    Side model sha384 p p (fun a a' m m' => a = a' ∧ Together dummyfd m m') s s' := by
  refine both_self hp (fun _ _ => rfl) (fun s s' c a a' m m' hc htogether hm hm' halike => ?_) h
  have hsame := halike.answer
  cases c with
  | i2cWrite fd slaveId writeData => exact ⟨hsame, htogether.step hm hm' hsame trivial⟩
  | emitLogMessage msg => exact ⟨hsame, htogether.step hm hm' hsame trivial⟩
  | _ => exact hc.elim

/-! ## Clearing -/

theorem side_sendI2cCmdRead {writeData : List UInt8} {n : Nat} (h : Together dummyfd s s') :
    Side model sha384 (sendI2cCmdRead b fd slaveId writeData n)
      (sendI2cCmdRead b fd slaveId writeData n)
      (fun res res' m m' => res.1 = res'.1 ∧ Together dummyfd m m') s s' := by
  unfold sendI2cCmdRead
  refine side_request fun answer answer' m m' hm hm' hsame => ?_
  have htogether := h.step hm hm' hsame trivial
  cases answer with
  | ok readData =>
      cases answer' with
      | ok readData' => exact ⟨rfl, htogether⟩
      | failed errno' => cases hsame
  | failed errno =>
      cases answer' with
      | ok readData' => cases hsame
      | failed errno' =>
          obtain rfl : errno = errno' := Option.some.inj hsame
          refine (side_posting (only_sendI2cCmdFailed fun _ => IsGeneric.isPosting)
            htogether).bind ?_
          rintro ret _ m m' ⟨rfl, htogether⟩
          exact ⟨rfl, htogether⟩

theorem side_writeRegister {reg value : UInt32} (h : Together dummyfd s s') :
    Side model sha384 (writeRegister b fd slaveId reg value) (writeRegister b fd slaveId reg value)
      (fun ret ret' m m' => ret = ret' ∧ Together dummyfd m m') s s' := by
  unfold writeRegister
  refine (side_posting (only_sendI2cCmdWrite (fun _ => IsGeneric.isPosting) trivial) h).bind ?_
  rintro ret _ m m' ⟨rfl, htogether⟩
  refine Both.ite Iff.rfl (fun _ => ⟨rfl, htogether⟩) fun _ => ?_
  exact (side_sendI2cCmdRead htogether).bind fun _ _ _ _ h => h

variable {fwAddr : List UInt8} {fwSize : Nat}

theorem posting_copyPages {pageCount count i : Nat} :
    Only IsPosting (copyPages b fwAddr fwSize pageCount fd slaveId count i) := by
  induction count generalizing i with
  | zero => trivial
  | succ count ih =>
      unfold copyPages
      refine Only.ite trivial ?_
      refine (only_sendI2cCmdWrite (fun _ => IsGeneric.isPosting) trivial).bind fun ret => ?_
      exact Only.ite trivial ih

theorem side_copyImageFromMemToFpga {fwCrc32 : UInt32} (h : Together dummyfd s s') :
    Side model sha384 (copyImageFromMemToFpga b fwAddr fwSize fwCrc32 fd slaveId)
      (copyImageFromMemToFpga b fwAddr fwSize fwCrc32 fd slaveId)
      (fun ret ret' m m' => ret = ret' ∧ Together dummyfd m m') s s' := by
  unfold copyImageFromMemToFpga
  refine Both.ite Iff.rfl (fun _ => ⟨rfl, h⟩) fun _ => ?_
  refine (side_posting posting_copyPages h).bind ?_
  rintro ret _ m m' ⟨rfl, htogether⟩
  refine Both.ite Iff.rfl (fun _ => ⟨rfl, htogether⟩) fun _ => ?_
  refine (side_writeRegister htogether).bind ?_
  rintro ret _ m m' ⟨rfl, htogether⟩
  exact Both.ite Iff.rfl (fun _ => ⟨rfl, htogether⟩) fun _ => side_writeRegister htogether

/-- What clearing takes: it reads no page. -/
def IsClearing : Call → Prop
  | .i2cWrite _ _ writeData => addressOf writeData ≠ fpgaReadStatusReg.toNat
  | .i2cRead _ _ writeData n => dpramSize < addressOf writeData + n
  | .emitLogMessage _ => True
  | _ => False

theorem IsGeneric.isClearing {c : Call} (h : IsGeneric c) : IsClearing c := by
  cases c with
  | emitLogMessage m => trivial
  | _ => exact h.elim

theorem IsClearing.startsNoRead {c : Call} (h : IsClearing c) : StartsNoRead c := by
  cases c with
  | i2cWrite fd slaveId writeData => exact h
  | _ => trivial

theorem clearing_copyPages {pageCount count i : Nat} :
    Only IsClearing (copyPages b fwAddr fwSize pageCount fd slaveId count i) := by
  have hpage : ∀ i bs, IsStaging (.i2cWrite fd slaveId (pageAddress i ++ bs)) := isStaging_page
  induction count generalizing i with
  | zero => trivial
  | succ count ih =>
      unfold copyPages
      refine Only.ite trivial ?_
      refine (only_sendI2cCmdWrite (fun _ => IsGeneric.isClearing) (hpage _ _).2).bind
        fun ret => ?_
      exact Only.ite trivial ih

theorem clearing_writeRegister {reg value : UInt32}
    (hwrite : IsClearing (.i2cWrite fd slaveId (regAddress reg ++ payload32 value)))
    (hread : IsClearing (.i2cRead fd slaveId (regAddress reg) 4)) :
    Only IsClearing (writeRegister b fd slaveId reg value) := by
  unfold writeRegister
  refine (only_sendI2cCmdWrite (fun _ => IsGeneric.isClearing) hwrite).bind fun ret => ?_
  refine Only.ite trivial ?_
  exact (only_sendI2cCmdRead (fun _ => IsGeneric.isClearing) hread).bind fun _ => trivial

theorem clearing_copyImageFromMemToFpga {fwCrc32 : UInt32} :
    Only IsClearing (copyImageFromMemToFpga b fwAddr fwSize fwCrc32 fd slaveId) := by
  unfold copyImageFromMemToFpga
  refine Only.ite trivial (clearing_copyPages.bind fun ret => Only.ite trivial ?_)
  refine (clearing_writeRegister ?_ ?_).bind fun ret =>
    Only.ite trivial (clearing_writeRegister ?_ ?_)
  · rw [IsClearing, addressOf_imgSize]
    decide
  · exact (by decide : dpramSize < addressOf (regAddress fpgaImgSizeReg) + 4)
  · rw [IsClearing, addressOf_chksum]
    decide
  · exact (by decide : dpramSize < addressOf (regAddress fpgaChksumReg) + 4)

/-- Until a read is triggered, the FPGA is that of the update tool, so the blank
image ends up where it should. -/
theorem FpgaModel.step_clearing {c : Call} {a : Answer c} {t t' : FpgaState} (hc : IsClearing c)
    (hpast : ∀ e ∈ t.1, StartsNoRead e.1) (h : model.step t ⟨c, a⟩ t') :
    Fpga.step b t.2 ⟨c, a⟩ t'.2 ∧ ∀ e ∈ t'.1, StartsNoRead e.1 := by
  have hafter : ∀ {completed : Bool}, ∀ e ∈ (model.after t c completed).1, StartsNoRead e.1 := by
    intro completed e he
    rcases List.mem_append.mp he with he | he
    · exact hpast e he
    · obtain rfl := List.mem_singleton.mp he
      exact hc.startsNoRead
  cases c with
  | i2cWrite fd slaveId writeData =>
      obtain rfl : t' = _ := h
      exact ⟨model.effect_write hpast hc, hafter⟩
  | i2cRead fd slaveId writeData n =>
      obtain ⟨-, rfl⟩ := h
      refine ⟨?_, hafter⟩
      cases a with
      | ok readData =>
          exact ⟨model.effect_read hpast, fun _ hin => absurd hc (Nat.not_lt.mpr hin)⟩
      | failed errno => exact model.effect_read hpast
  | emitLogMessage msg =>
      obtain rfl : t' = t := h
      exact ⟨fun _ _ => rfl, hpast⟩
  | _ => exact hc.elim

theorem ensures_cleared {fwCrc32 : UInt32} (hlen : fwSize ≤ fwAddr.length)
    (hpast : ∀ t ∈ s.1.1, StartsNoRead t.1) : Ensures (requestEnv model sha384)
      (copyImageFromMemToFpga b fwAddr fwSize fwCrc32 fd b.fpgaI2cCntrlAddr)
      (fun ret m => ret = 0 → Loaded m.1.2 (fwAddr.take fwSize) fwCrc32) s := by
  refine wp_mono (Ensures.simulate (π := fun t : RequestState => t.1.2)
    (I := fun t => ∀ e ∈ t.1.1, StartsNoRead e.1) clearing_copyImageFromMemToFpga ?_ hpast
    (ensures_copyImageFromMemToFpga fwCrc32 hlen s.1.2)) (fun _ _ h => h)
    fun ret m h hret => (h.1 hret).2
  intro t c a t' hc hpast henv
  exact FpgaModel.step_clearing hc hpast henv.1

theorem ByteMem.eq_of_load {m m' : ByteMem} {a n x : Nat} (h : m'.load a n = m.load a n)
    (hlo : a ≤ x) (hhi : x < a + n) : m' x = m x := by
  have hget := congrArg (fun bs => bs[x - a]?) h
  simp only [ByteMem.getElem?_load] at hget
  rw [if_pos (by omega), if_pos (by omega), Nat.add_sub_cancel' hlo] at hget
  exact Option.some.inj hget

/-- All that is in view is what was loaded. -/
theorem Loaded.sameView {m m' : ByteMem} {bytes : List UInt8} {fwCrc32 : UInt32}
    (h : Loaded m bytes fwCrc32) (h' : Loaded m' bytes fwCrc32)
    (hlen : bytes.length = b.maxFwImageSize) : SameView b m m' := by
  have himage := h'.image.trans h.image.symm
  have hsize := h'.size.trans h.size.symm
  have hchecksum := h'.checksum.trans h.checksum.symm
  have hregs : fpgaChksumReg.toNat = fpgaImgSizeReg.toNat + 4
      ∧ fpgaUpdateStatusReg.toNat = fpgaImgSizeReg.toNat + 8 := by decide
  intro x hx
  rcases hx with hx | ⟨hlo, hhi⟩
  · exact ByteMem.eq_of_load himage (Nat.zero_le _) (by omega)
  · by_cases hfirst : x < fpgaImgSizeReg.toNat + 4
    · exact ByteMem.eq_of_load hsize hlo hfirst
    · exact ByteMem.eq_of_load hchecksum (by omega) (by omega)

theorem TempFile.buffer_of_fullStep {path : String} {f f' : TempFile} {n : Nat}
    {bytes : {bs : List UInt8 // bs.length ≤ n}} {fwBuf : Vector UInt8 n}
    (h : TempFile.fullStep path f ⟨.read dummyfd n, some bytes⟩ f') (hfd : f.fd = dummyfd)
    (hoffset : f.offset = 0) (hlength : f.contents.length = n) :
    bytes.val ++ fwBuf.toList.drop bytes.val.length = f.contents := by
  subst hfd
  have hfull := h.2 rfl
  rw [hoffset, hlength, Nat.sub_zero, Nat.min_self] at hfull
  exact TempFile.buffer_of_read h.1 hfull hoffset hlength

/-- Loading as many bytes as an image may have makes what is in view the same.
What was in the DPRAM before, from an earlier request, is then overwritten. -/
theorem side_loaded {fwCrc32 : UInt32} (h : Together dummyfd s s')
    (hlength : fwAddr.length = b.maxFwImageSize) (hpast : ∀ t ∈ s.1.1, StartsNoRead t.1) :
    Side model sha384
      (copyImageFromMemToFpga b fwAddr b.maxFwImageSize fwCrc32 fd b.fpgaI2cCntrlAddr)
      (copyImageFromMemToFpga b fwAddr b.maxFwImageSize fwCrc32 fd b.fpgaI2cCntrlAddr)
      (fun ret ret' m m' => ret = ret' ∧ (ret = 0 → SameSight b dummyfd m m')) s s' := by
  have hpast' : ∀ t ∈ s'.1.1, StartsNoRead t.1 := h.past ▸ hpast
  have hall : fwAddr.take b.maxFwImageSize = fwAddr := by rw [← hlength, List.take_length]
  refine ((side_copyImageFromMemToFpga h).wp (ensures_cleared hlength.ge hpast)
    (ensures_cleared hlength.ge hpast')).mono ?_
  rintro ret _ m m' ⟨⟨rfl, htogether⟩, hloaded, hloaded'⟩
  rw [hall] at hloaded hloaded'
  exact ⟨rfl, fun hret => ⟨htogether, (hloaded hret).sameView (hloaded' hret) hlength⟩⟩

/-- Loading the file, in full and from its start, makes what is in view the
same. -/
theorem side_copyImageFromFileToFpga (h : Together dummyfd s s') (hoffset : s.2.1.offset = 0)
    (hlength : s.2.1.contents.length = b.maxFwImageSize) (hpast : ∀ t ∈ s.1.1, StartsNoRead t.1) :
    Side model sha384 (copyImageFromFileToFpga b dummyfd fd b.fpgaI2cCntrlAddr)
      (copyImageFromFileToFpga b dummyfd fd b.fpgaI2cCntrlAddr)
      (fun ret ret' m m' => ret = ret' ∧ (ret = 0 → SameSight b dummyfd m m')) s s' := by
  have hfailed : ∀ {ret : Int32} {m m' : RequestState}, ret ≠ 0 →
      (ret = ret ∧ (ret = 0 → SameSight b dummyfd m m')) := fun hne => ⟨rfl, fun h => absurd h hne⟩
  unfold copyImageFromFileToFpga
  refine side_request fun size size' m₁ m₁' hm₁ hm₁' hsame => ?_
  have htogether₁ := h.step hm₁ hm₁' hsame trivial
  rcases both_of_isSome hsame with ⟨rfl, rfl⟩ | ⟨size, size', rfl, rfl⟩
  · exact side_request fun _ _ _ _ _ _ _ => hfailed (by decide)
  · obtain ⟨hpast₁, ⟨⟨hfile₁, hsize⟩, -⟩, -⟩ := hm₁
    obtain ⟨-, ⟨⟨-, hsize'⟩, -⟩, -⟩ := hm₁'
    obtain rfl : size = b.maxFwImageSize := (hsize h.fd.symm).trans hlength
    obtain rfl : size' = b.maxFwImageSize := by
      rw [hsize' (by rw [h.file, h.fd]), h.file, hlength]
    refine Both.ite Iff.rfl (fun _ => ?_) fun _ => ?_
    · exact side_request fun _ _ _ _ _ _ _ => hfailed (by decide)
    · refine side_request fun fwBuf fwBuf' m₂ m₂' hm₂ hm₂' hsame => ?_
      have htogether₂ := htogether₁.step hm₂ hm₂' hsame trivial
      obtain ⟨hpast₂, ⟨hfile₂, -⟩, -⟩ := hm₂
      rcases both_of_isSome hsame with ⟨rfl, rfl⟩ | ⟨fwBuf, fwBuf', rfl, rfl⟩
      · exact hfailed (by decide)
      · refine side_request fun bytes bytes' m₃ m₃' hm₃ hm₃' hsame => ?_
        have htogether₃ := htogether₂.step hm₃ hm₃' hsame trivial
        rcases both_of_isSome hsame with ⟨rfl, rfl⟩ | ⟨bytes, bytes', rfl, rfl⟩
        · exact side_request fun _ _ _ _ _ _ _ => hfailed (by decide)
        · have hfile : m₂.2.1 = s.2.1 := Eq.trans hfile₂ hfile₁
          have hfile' : m₂'.2.1 = s.2.1 := htogether₂.file.trans hfile
          obtain ⟨hpast₃, hread, -⟩ := hm₃
          obtain ⟨-, hread', -⟩ := hm₃'
          rw [hfile] at hread
          rw [hfile'] at hread'
          dsimp only
          rw [TempFile.buffer_of_fullStep hread h.fd hoffset hlength,
            TempFile.buffer_of_fullStep hread' h.fd hoffset hlength]
          have hstate : m₃.1 = s.1 := Eq.trans hpast₃ (Eq.trans hpast₂ hpast₁)
          exact side_loaded htogether₃ hlength (hstate ▸ hpast)

end Rules

end Retimer
