import Retimer.Budget
import Retimer.Isolation

/-!
# An update comes to an end

However the FPGA and the bus behave, an update run makes no more
transactions than the pages of eight images, their registers and two
attempts each take. The count goes by the price of each kind of
transaction (`Priced`), so that one bound serves for all transactions,
for the polls, each of which stands for a second of waiting, and for the
triggers.

There is a lemma `cost_f` for each function `f`, with the budget written
in the prices, from `cost_sendI2cCmdWrite` up to `cost_main`; loops are
inductions on the iterations left, and `cost_copyPages` has the pages
that are left from page `i` on. What makes no transaction is free
(`Priced.free_of_only`), which takes care of every message.

The number of operations is not bounded by the loop, which takes
whatever the parser gives it, but by the parser: `length_updateOps_le`,
from what the two loops of `parseCompositeImage` return for a file of
any size. The counts at the end are three choices of prices.
-/

namespace Retimer

open Interaction Interaction.Prog

def IsPoll (b : Build) : Call → Prop
  | .i2cRead _ slaveId writeData _ =>
      slaveId = b.fpgaI2cCntrlAddr ∧ addressOf writeData = fpgaUpdateStatusReg.toNat
  | _ => False

instance (b : Build) : DecidablePred (IsPoll b)
  | .i2cRead _ slaveId writeData _ =>
      inferInstanceAs (Decidable (slaveId = b.fpgaI2cCntrlAddr ∧ addressOf writeData = _))
  | .i2cWrite _ _ _ | .emitLogMessage _ | .performing _ | .openFile _ _ | .close _ | .fstat _
  | .ftruncate _ _ | .mmap _ _ | .calloc | .malloc _ | .segfault | .read _ _ | .write _ _
  | .lseek _ _ | .access _ | .mkdir _ | .unlink _ | .evpMdCtxNew | .evpDigestInit
  | .evpDigestUpdate _ | .evpDigestFinal | .evpMdCtxFree | .sdBusMessageRead
  | .sdBusReplyMethodReturn | .sdBusReplyInvalidArgument | .sdBusEmitPropertiesChanged _ =>
      isFalse id

/-- What the transactions of an update cost at most, by kind. -/
structure Prices where
  page : Nat
  register : Nat
  trigger : Nat
  poll : Nat
  extended : Nat

/-- `w` keeps to the prices: a transaction of each kind costs no more than the
price of its kind, and what is no transaction costs nothing. -/
structure Priced (b : Build) (w : Call → Nat) (prices : Prices) : Prop where
  other : ∀ c, ¬IsTransaction c → w c = 0
  page : ∀ fd i bs, w (.i2cWrite fd b.fpgaI2cCntrlAddr (pageAddress i ++ bs)) ≤ prices.page
  register : ∀ fd reg bs, reg = fpgaImgSizeReg ∨ reg = fpgaChksumReg →
    w (.i2cWrite fd b.fpgaI2cCntrlAddr (regAddress reg ++ bs)) ≤ prices.register
      ∧ w (.i2cRead fd b.fpgaI2cCntrlAddr (regAddress reg) 4) ≤ prices.register
  trigger : ∀ fd bs, w (.i2cWrite fd b.fpgaI2cCntrlAddr (regAddress fpgaUpdateStatusReg ++ bs))
    ≤ prices.trigger
  poll : ∀ fd, w (.i2cRead fd b.fpgaI2cCntrlAddr (regAddress fpgaUpdateStatusReg) 4) ≤ prices.poll
  extended : ∀ fd, w (.i2cRead fd fpgaSecondaryRegtbl [0x0, 0x1] extendedErrMaxPageSz)
    ≤ prices.extended

namespace Prices

variable (prices : Prices)

def pages (b : Build) : Nat := (b.maxFwImageSize + (bytePerPage - 1)) / bytePerPage

def attempt : Nat := prices.trigger + (maxTimeoutSec * prices.poll + prices.extended)

def operation (b : Build) : Nat :=
  prices.page * pages b + 4 * prices.register + maxUpdateRetryCount * prices.attempt

end Prices

section Costs

variable {b : Build} {w : Call → Nat} {prices : Prices} {fd : Int}

theorem Priced.free_of_only {α : Type} {P : Call → Prop} {p : Sys α} {n : Nat}
    (hw : Priced b w prices) (hP : ∀ c, P c → ¬IsTransaction c) (h : Only P p) :
    CostAtMost w p n :=
  costAtMost_of_only (h.mono fun c hc => hw.other c (hP c hc))

theorem Priced.free_messages {p : Sys Unit} {n : Nat} (hw : Priced b w prices)
    (h : Only IsMessage p) : CostAtMost w p n :=
  hw.free_of_only (fun _ => IsMessage.not_transaction) h

theorem cost_sendI2cCmdWrite {slaveId : UInt8} {writeData : List UInt8} {n : Nat}
    (hw : Priced b w prices) (h : w (.i2cWrite fd slaveId writeData) ≤ n) :
    CostAtMost w (sendI2cCmdWrite b fd slaveId writeData) n := by
  unfold sendI2cCmdWrite
  refine ((costAtMost_perform h).bind fun answer => ?_).mono (Nat.le_of_eq (Nat.add_zero n))
  cases answer with
  | ok readData => trivial
  | failed errno =>
      exact hw.free_of_only (fun _ h => h.isMessage.not_transaction)
        (only_sendI2cCmdFailed fun _ h => h)

theorem cost_sendI2cCmdRead {slaveId : UInt8} {writeData : List UInt8} {k n : Nat}
    (hw : Priced b w prices) (h : w (.i2cRead fd slaveId writeData k) ≤ n) :
    CostAtMost w (sendI2cCmdRead b fd slaveId writeData k) n := by
  unfold sendI2cCmdRead
  refine ((costAtMost_perform h).bind fun answer => ?_).mono (Nat.le_of_eq (Nat.add_zero n))
  cases answer with
  | ok readData => trivial
  | failed errno =>
      refine CostAtMost.free (hw.free_of_only (fun _ h => h.isMessage.not_transaction)
        (only_sendI2cCmdFailed fun _ h => h)) fun _ => trivial

/-- The pages that are left from page `i` on. -/
theorem cost_copyPages {fwAddr : List UInt8} {fwSize count i : Nat} (hw : Priced b w prices)
    (hi : i + count = fwSize / bytePerPage + 1) :
    CostAtMost w (copyPages b fwAddr fwSize (fwSize / bytePerPage) fd b.fpgaI2cCntrlAddr count i)
      (prices.page * ((fwSize + (bytePerPage - 1)) / bytePerPage - i)) := by
  induction count generalizing i with
  | zero => trivial
  | succ count ih =>
      rw [copyPages]
      by_cases hdone : (if i < fwSize / bytePerPage then bytePerPage
          else fwSize - fwSize / bytePerPage * bytePerPage) = 0
      · rw [if_pos hdone]
        trivial
      · have hleft : (fwSize + (bytePerPage - 1)) / bytePerPage - i
            = 1 + ((fwSize + (bytePerPage - 1)) / bytePerPage - (i + 1)) := by
          by_cases hlt : i < fwSize / bytePerPage
          · simp only [bytePerPage] at hlt ⊢
            omega
          · rw [if_neg hlt] at hdone
            simp only [bytePerPage] at hlt hdone hi ⊢
            omega
        rw [if_neg hdone, hleft, Nat.mul_add, Nat.mul_one]
        refine (cost_sendI2cCmdWrite hw (hw.page fd _ _)).bind fun ret => ?_
        exact CostAtMost.ite trivial (ih (by omega))

theorem cost_writeRegister {reg value : UInt32} (hw : Priced b w prices)
    (hreg : reg = fpgaImgSizeReg ∨ reg = fpgaChksumReg) :
    CostAtMost w (writeRegister b fd b.fpgaI2cCntrlAddr reg value)
      (prices.register + prices.register) := by
  obtain ⟨hwrite, hread⟩ := And.intro (fun bs => (hw.register fd reg bs hreg).1)
    (hw.register fd reg [] hreg).2
  unfold writeRegister
  refine (cost_sendI2cCmdWrite hw (hwrite _)).bind fun ret => CostAtMost.ite trivial ?_
  refine ((cost_sendI2cCmdRead hw hread).bind fun _ => ?_).mono (Nat.le_of_eq (Nat.add_zero _))
  trivial

theorem cost_copyImageFromMemToFpga {fwAddr : List UInt8} {fwSize : Nat} {crc : UInt32}
    (hw : Priced b w prices) :
    CostAtMost w (copyImageFromMemToFpga b fwAddr fwSize crc fd b.fpgaI2cCntrlAddr)
      (prices.page * Prices.pages b + 4 * prices.register) := by
  unfold copyImageFromMemToFpga
  by_cases hsize : fwSize > b.maxFwImageSize
  · rw [if_pos hsize]
    trivial
  · rw [if_neg hsize]
    have hpages : prices.page * ((fwSize + (bytePerPage - 1)) / bytePerPage - 0)
        ≤ prices.page * Prices.pages b := by
      refine Nat.mul_le_mul_left prices.page ?_
      rw [Nat.sub_zero]
      exact Nat.div_le_div_right (by omega)
    have hregisters : 4 * prices.register
        = prices.register + prices.register + (prices.register + prices.register) := by omega
    rw [hregisters]
    refine ((cost_copyPages hw (Nat.zero_add _)).mono hpages).bind fun ret => ?_
    refine CostAtMost.ite trivial ((cost_writeRegister hw (Or.inl rfl)).bind fun ret => ?_)
    exact CostAtMost.ite trivial (cost_writeRegister hw (Or.inr rfl))

theorem cost_pollStatus {busy : UInt8 → Bool} {turns : Nat} {word : Vector UInt8 4}
    (hw : Priced b w prices) :
    CostAtMost w (pollStatus b fd fpgaUpdateStatusReg busy turns word)
      (turns * prices.poll) := by
  induction turns generalizing word with
  | zero => trivial
  | succ turns ih =>
      rw [Nat.succ_mul, Nat.add_comm (turns * prices.poll)]
      unfold pollStatus
      refine (cost_sendI2cCmdRead hw (hw.poll fd)).bind fun _ => ?_
      exact CostAtMost.ite trivial (CostAtMost.ite ih trivial)

theorem cost_checkExtenedErrorReg (hw : Priced b w prices) :
    CostAtMost w (checkExtenedErrorReg b) prices.extended := by
  have hquiet : ∀ {p : Sys Unit}, Only IsGeneric p → CostAtMost w p 0 := fun h =>
    hw.free_messages (h.mono fun _ => IsGeneric.isMessage)
  have hclose : ∀ {exfd : Int}, CostAtMost w (Sys.close exfd) 0 := fun {exfd} =>
    costAtMost_perform (Nat.le_of_eq (hw.other (.close exfd) id))
  unfold checkExtenedErrorReg
  refine CostAtMost.free (costAtMost_perform (Nat.le_of_eq (hw.other _ id))) fun exfd => ?_
  refine CostAtMost.ite trivial ?_
  refine ((cost_sendI2cCmdRead hw (hw.extended exfd)).bind fun res => ?_).mono
    (Nat.le_of_eq (Nat.add_zero _))
  refine CostAtMost.ite (hclose.free fun _ => trivial) ?_
  refine (hquiet only_extendedErrorLoop).free fun _ => ?_
  refine (hquiet only_checkGlobalWp).free fun _ => ?_
  exact (hquiet only_checkMuxSel).free fun _ => hclose.free fun _ => trivial

theorem cost_updateAttempts {versionStr : List UInt8} {attempts : Nat} {targets nu : UInt8}
    {ret : Int32} (hw : Priced b w prices) :
    CostAtMost w (updateAttempts b fd versionStr attempts targets ret nu)
      (attempts * prices.attempt) := by
  induction attempts generalizing targets ret nu with
  | zero => trivial
  | succ attempts ih =>
      have hprice : (attempts + 1) * prices.attempt = prices.trigger
          + (maxTimeoutSec * prices.poll + (prices.extended + attempts * prices.attempt)) := by
        rw [Nat.succ_mul, Nat.add_comm, ← Nat.add_assoc, ← Nat.add_assoc, Prices.attempt,
          ← Nat.add_assoc]
      rw [hprice]
      unfold updateAttempts
      refine (cost_sendI2cCmdWrite hw (hw.trigger fd _)).bind fun ret => CostAtMost.ite trivial ?_
      refine (cost_pollStatus hw).bind fun res => ?_
      refine CostAtMost.ite trivial (CostAtMost.ite trivial ?_)
      refine CostAtMost.free (hw.free_of_only (fun _ h => h.isMessage.not_transaction)
        only_checkStatusWord) fun res => ?_
      exact (cost_checkExtenedErrorReg hw).bind fun extended => CostAtMost.ite trivial ih

theorem cost_performUpdate {image : List UInt8} {op : UpdateOperation} {st : LoopState}
    (hw : Priced b w prices) :
    CostAtMost w (performUpdate b fd image op st) (prices.operation b) := by
  unfold performUpdate
  refine CostAtMost.ite trivial ?_
  refine (hw.free_messages only_prepareMessageRegistry).free fun _ => ?_
  refine (cost_copyImageFromMemToFpga hw).bind fun ret => ?_
  refine CostAtMost.ite ((hw.free_messages only_prepareMessageRegistry).free fun _ => trivial) ?_
  refine ((cost_updateAttempts hw).bind fun res => ?_).mono (Nat.le_of_eq (Nat.add_zero _))
  refine CostAtMost.ite ?_ ?_
  · exact (hw.free_messages only_reportApplyFailed).free fun _ => trivial
  · exact (hw.free_messages only_reportUpdateSuccessful).free fun _ => trivial

theorem cost_updateLoop {image : List UInt8} {ops : List UpdateOperation} {uo : Nat}
    {st : LoopState} (hw : Priced b w prices) :
    CostAtMost w (updateLoop b fd image uo ops st) (ops.length * prices.operation b) := by
  induction ops generalizing uo st with
  | nil => trivial
  | cons op ops ih =>
      rw [List.length_cons, Nat.succ_mul, Nat.add_comm (ops.length * _), updateLoop]
      refine CostAtMost.free (costAtMost_perform (Nat.le_of_eq (hw.other _ id))) fun _ => ?_
      exact (cost_performUpdate hw).bind fun _ => ih

end Costs

/-! ## The number of operations -/

section Operations

variable {b : Build} {image : List UInt8} {fwSize : Nat}

theorem length_of_verifyComponents {count comp next : Nat} {covered cov : UInt32}
    {raw : List UpdateOperation}
    (h : (verifyComponents b image fwSize count comp next covered).outcome = .ok (cov, raw)) :
    raw.length = count := by
  induction count generalizing comp next covered raw with
  | zero =>
      obtain ⟨-, rfl⟩ : covered = cov ∧ [] = raw := by simpa [verifyComponents] using h
      rfl
  | succ count ih =>
      simp only [verifyComponents, readBytes_bind, readU32_bind, readCrc32_bind,
        Scan.outcome_stopIf_bind, ite_error_ok, Scan.bind_ok, Scan.outcome_pure, Except.ok.injEq,
        Prod.exists, Prod.mk.injEq] at h
      obtain ⟨-, -, -, -, _, rest, hrest, rfl, rfl⟩ := h
      rw [List.length_cons, ih hrest]

theorem length_of_verifyImages {comp : Nat} {raw ops : List UpdateOperation}
    (h : (verifyImages image comp raw).outcome = .ok ops) : ops.length = raw.length := by
  induction raw generalizing comp ops with
  | nil =>
      obtain rfl : [] = ops := by simpa [verifyImages] using h
      rfl
  | cons op raw ih =>
      obtain ⟨-, rest, hrest, rfl⟩ := verifyImages_cons_ok.mp h
      rw [List.length_cons, List.length_cons, ih hrest]

theorem length_of_parseComposite {calloc : Bool} {count : Nat} {ops : List UpdateOperation}
    (h : (parseComposite b image fwSize calloc).outcome = .ok (count, ops)) :
    ops.length ≤ retimerMaxNum := by
  simp only [parseComposite, readU32_bind, readU8_bind, readCrc32_bind,
    Scan.outcome_stopIf_bind, ite_error_ok, Scan.bind_ok, Scan.outcome_pure, Except.ok.injEq,
    Prod.exists, Prod.mk.injEq] at h
  obtain ⟨-, -, -, hcount, -, -, -, -, _, raw, hraw, -, _, hops, -, rfl⟩ := h
  rw [length_of_verifyImages hops, length_of_verifyComponents hraw]
  exact Nat.not_lt.mp hcount

/-- Whatever the file, there are no more operations than retimers. -/
theorem length_updateOps_le {pldmVersionStr : List UInt8} {calloc : Bool} :
    ((parseCompositeImage b image fwSize pldmVersionStr calloc).updateOps.getD []).length
      ≤ retimerMaxNum := by
  have hbare : ∀ {count : Nat} {ops : List UpdateOperation},
      (parseBare image fwSize pldmVersionStr calloc).outcome = .ok (count, ops) →
      ops.length ≤ retimerMaxNum := by
    intro count ops h
    simp only [parseBare, readCrc32_bind, Scan.outcome_stopIf_bind, ite_error_ok,
      Scan.outcome_pure, Except.ok.injEq, Prod.mk.injEq] at h
    obtain ⟨-, -, rfl⟩ := h
    exact Nat.succ_le_of_lt (by decide)
  cases hout : (parseImage b image fwSize pldmVersionStr calloc).outcome with
  | error exit =>
      rw [parse_error b hout]
      exact Nat.zero_le _
  | ok res =>
      obtain ⟨count, ops⟩ := res
      rw [parse_ok b hout]
      unfold parseImage at hout
      split at hout
      · exact hbare hout
      · rw [readBytes_bind] at hout
        split at hout
        · exact hbare hout
        · exact length_of_parseComposite hout

end Operations

/-! ## `main` -/

section Main

variable {b : Build} {w : Call → Nat} {prices : Prices} {fd : Int}

theorem cost_filterTargets {α : Type} {retimerToUpdate : UInt8} {ops : List UpdateOperation}
    {n : Nat} {f : List UpdateOperation → Sys α} (hw : Priced b w prices)
    (hf : ∀ ops', ops'.length = ops.length → CostAtMost w (f ops') n) :
    CostAtMost w (filterTargets retimerToUpdate ops >>= f) n := by
  induction ops generalizing f with
  | nil => exact hf [] rfl
  | cons op ops ih =>
      rw [filterTargets, bind_assoc]
      refine (hw.free_messages only_prepareMessageRegistry).free fun _ => ?_
      rw [bind_assoc]
      exact ih fun ops' hops' => hf _ (congrArg Nat.succ hops')

theorem cost_updateOperations {image : List UInt8} {retimerToUpdate : UInt8}
    {ops : List UpdateOperation} (hw : Priced b w prices) (hlen : ops.length ≤ retimerMaxNum) :
    CostAtMost w (updateOperations b fd image retimerToUpdate ops)
      (retimerMaxNum * prices.operation b) := by
  refine cost_filterTargets hw fun ops' hops' => ?_
  refine ((cost_updateLoop hw).bind fun _ => ?_).mono (Nat.le_of_eq (Nat.add_zero _)) |>.mono ?_
  · trivial
  · exact Nat.mul_le_mul_right _ (hops'.trans_le hlen)

theorem cost_updateImage {image versionStr : List UInt8} {fwSize : Nat} {retimerToUpdate : UInt8}
    (hw : Priced b w prices) :
    CostAtMost w (updateImage b fd image fwSize versionStr retimerToUpdate)
      (retimerMaxNum * prices.operation b) := by
  unfold updateImage
  refine CostAtMost.free (costAtMost_perform (Nat.le_of_eq (hw.other _ id))) fun calloc => ?_
  refine (hw.free_messages only_parseMessage).free fun _ => ?_
  refine CostAtMost.ite ((hw.free_messages only_prepareMessageRegistry).free fun _ => trivial) ?_
  have hlen : ((parseCompositeImage b image fwSize versionStr calloc).updateOps.getD []).length
      ≤ retimerMaxNum := length_updateOps_le
  cases hops : (parseCompositeImage b image fwSize versionStr calloc).updateOps with
  | none =>
      refine CostAtMost.ite ((hw.free_messages only_prepareMessageRegistry).free fun _ => trivial)
        ?_
      exact cost_updateOperations hw (Nat.zero_le _)
  | some ops =>
      rw [hops] at hlen
      exact cost_updateOperations hw hlen

theorem Priced.free_request {c : Call} (hw : Priced b w prices) (hc : ¬IsTransaction c) :
    CostAtMost w (Sys.request c) 0 :=
  costAtMost_perform (Nat.le_of_eq (hw.other c hc))

theorem cost_updateCommand {args : Arguments} (hw : Priced b w prices) :
    CostAtMost w (updateCommand b fd args) (retimerMaxNum * prices.operation b) := by
  have hunavailable : ∀ {message : String} {res : Int32 × Int} {n : Nat},
      CostAtMost w (fileUnavailable args.retimerBitmap message args.versionStr
        >>= fun _ => pure res) n :=
    fun {message res n} => (hw.free_messages only_prepareMessageRegistry).free fun _ => trivial
  unfold updateCommand
  refine (hw.free_request id).free fun imagefd => CostAtMost.ite hunavailable ?_
  refine (hw.free_request id).free fun size => ?_
  cases size with
  | none => exact hunavailable
  | some fwSize =>
      refine (hw.free_request id).free fun mapped => ?_
      cases mapped with
      | none => exact hunavailable
      | some image =>
          refine (hw.free_request id).free fun _ => ?_
          refine ((cost_updateImage hw).bind fun ret => ?_).mono (Nat.le_of_eq (Nat.add_zero _))
          trivial

theorem cost_main {fuel : Nat} {argv : List (List UInt8)} (hw : Priced b w prices)
    (hcommand : ∀ args, checkArguments b fuel argv = some (.ok args) →
      args.command ≠ retimerFwRead) :
    CostAtMost w (main b fuel argv) (retimerMaxNum * prices.operation b) := by
  have hclose : ∀ {fd : Int} {n : Nat}, CostAtMost w (closeUnless fd) n := fun {fd n} =>
    hw.free_of_only (fun c hc => hc.not_transaction) closes_closeUnless
  unfold main
  split
  · trivial
  · trivial
  · next args hargs =>
      refine (hw.free_request id).free fun fd => ?_
      refine CostAtMost.ite (hclose.free fun _ => trivial) ?_
      refine (CostAtMost.bind (n := 0) ?_ fun res => ?_).mono (Nat.le_of_eq (Nat.add_zero _))
      · rw [runCommand]
        by_cases hupdate : args.command = retimerFwUpdate
        · rw [if_pos hupdate]
          refine ((cost_updateCommand hw).bind (n := 0) fun _ => ?_).mono
            (Nat.le_of_eq (Nat.add_zero _))
          trivial
        · rw [if_neg hupdate, if_neg (hcommand args hargs)]
          trivial
      · exact hclose.free fun _ => hclose.free fun _ => hclose.free fun _ => trivial

end Main

/-! ## The three counts -/

section Counts

theorem priced_transactions (b : Build) :
    Priced b (fun c => if IsTransaction c then 1 else 0) ⟨1, 1, 1, 1, 1⟩ where
  other _ hc := if_neg hc
  page _ _ _ := Nat.le_refl 1
  register _ _ _ _ := ⟨Nat.le_refl 1, Nat.le_refl 1⟩
  trigger _ _ := Nat.le_refl 1
  poll _ := Nat.le_refl 1
  extended _ := Nat.le_refl 1

theorem priced_polls (b : Build) :
    Priced b (fun c => if IsPoll b c then 1 else 0) ⟨0, 0, 0, 1, 0⟩ where
  other c hc := if_neg fun hpoll => by
    cases c with
    | i2cRead fd slaveId writeData n => exact hc trivial
    | _ => exact hpoll
  page _ _ _ := Nat.le_refl 0
  register _ reg _ hreg := by
    refine ⟨Nat.le_refl 0, Nat.le_of_eq (if_neg fun hpoll => ?_)⟩
    rcases hreg with rfl | rfl
    · exact absurd hpoll.2 (by decide)
    · exact absurd hpoll.2 (by decide)
  trigger _ _ := Nat.le_refl 0
  poll _ := by
    show (if _ then 1 else 0) ≤ 1
    split <;> decide
  extended _ := Nat.le_of_eq (if_neg fun hpoll => absurd hpoll.2 (by decide))

theorem priced_triggers (b : Build) :
    Priced b (fun c => if IsTrigger b c then 1 else 0) ⟨0, 0, 1, 0, 0⟩ where
  other c hc := if_neg fun htrigger => by
    cases c with
    | i2cWrite fd slaveId writeData => exact hc trivial
    | _ => exact htrigger
  page _ i bs := Nat.le_of_eq (if_neg ((isStaging_page i bs).isPlain.not_trigger b))
  register _ reg bs hreg := by
    refine ⟨Nat.le_of_eq (if_neg fun htrigger => ?_), Nat.le_refl 0⟩
    rcases hreg with rfl | rfl
    · exact absurd (htrigger.2.symm.trans (addressOf_imgSize bs)) (by decide)
    · exact absurd (htrigger.2.symm.trans (addressOf_chksum bs)) (by decide)
  trigger _ _ := by
    show (if _ then 1 else 0) ≤ 1
    split <;> decide
  poll _ := Nat.le_refl 0
  extended _ := Nat.le_refl 0

end Counts

/-- **Bounded work.** However the FPGA, the bus and the file behave, and however
far a run has got, the tool has triggered no more than 16 updates, polled for
them no more than 960 times, and made no more transactions than 8 largest
images, their registers and 16 attempts take, unless it was asked to read. -/
theorem main_bounded (b : Build) (fuel : Nat) (argv : List (List UInt8)) (tr : List SysEvent)
    (q : Sys (Option Int32))
    (hcommand : ∀ args, checkArguments b fuel argv = some (.ok args) →
      args.command ≠ retimerFwRead)
    (h : Trace (main b fuel argv) tr q) :
    (transactions tr).length ≤ 8 * ((b.maxFwImageSize + 255) / 256 + 4 + 2 * (1 + 60 + 1))
      ∧ (tr.filter (IsPoll b ·.1)).length ≤ 8 * 2 * 60
      ∧ (tr.filter (IsTrigger b ·.1)).length ≤ 8 * 2 := by
  have hcount : ∀ {P : Call → Prop} [DecidablePred P] {prices : Prices},
      Priced b (fun c => if P c then 1 else 0) prices →
      (tr.filter (P ·.1)).length ≤ retimerMaxNum * prices.operation b := by
    intro P _ prices hw
    rw [← cost_ite]
    exact (cost_main hw hcommand).trace h
  refine ⟨(hcount (priced_transactions b)).trans ?_, (hcount (priced_polls b)).trans ?_,
    (hcount (priced_triggers b)).trans ?_⟩
  all_goals
    simp only [Prices.operation, Prices.attempt, Prices.pages, bytePerPage, maxTimeoutSec,
      maxUpdateRetryCount, retimerMaxNum]
    omega

theorem main_bounded_working :
    (transactions workingRun.1).length
        ≤ 8 * ((defaultBuild.maxFwImageSize + 255) / 256 + 4 + 2 * (1 + 60 + 1))
      ∧ (workingRun.1.filter (IsPoll defaultBuild ·.1)).length ≤ 8 * 2 * 60
      ∧ (workingRun.1.filter (IsTrigger defaultBuild ·.1)).length ≤ 8 * 2 :=
  main_bounded defaultBuild 10 smallArgv workingRun.1 _
    (fun args hargs => by
      obtain rfl : smallArguments = args := by
        cases hargs
        rfl
      decide)
    (trace_play _ _ _ _)

end Retimer
