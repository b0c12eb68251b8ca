import Retimer.Attempts

/-!
# The codes of a failed update

Each status check returns its negated error code ORed with the retimers
found so far, and `startRetimerFwUpdate` ORs what the checks of a word
return. The bits of the codes mix: ORing a bitmap into a negative number
takes its bits off the magnitude, and ORing two negative codes gives the
code of neither. What comes out for a status word (`statusCode`) is
never, negated, an error code with the bitmap of the retimers.

`run_checkStatusByte_code` and `run_checkStatusWord_code` find the code
of a word, check by check; `statusCode_eq` writes it as the ORed error
bits and the flagged retimers. The rest is arithmetic on 32-bit words
with the combinations of three errors and 255 bitmaps: with a bitmap `k`
that is not 0 the negated code is `K - k` for one of four constants `K`,
and the documented ones are `E + k` (`not_documented`; the finitely many
cases in it are `errorBits_undocumented`). `run_updateAttempts_code` has
the last attempt alone make the code.
-/

namespace Retimer

open Interaction Interaction.Prog

/-! ## The code of a status word -/

/-- What one check adds to `ret`, with `found` the retimers found so far. The
error is negated first. -/
def byteCode (error : Int32) (status found : UInt8) : Int32 :=
  if status = 0 then 0 else -error ||| Int32.ofNat found.toNat

/-- The return code of an update whose last attempt ends with this word: what
the three checks return, ORed, each with the retimers that the checks before it
have found. -/
def statusCode (w : Vector UInt8 4) : Int32 :=
  byteCode errorWriteNack (statusWriteNack w) (statusWriteNack w)
    ||| byteCode errorReadNack (statusReadNack w) (statusWriteNack w ||| statusReadNack w)
    ||| byteCode errorChecksum (statusChecksum w) (flagged w)

/-- The code as the comments of the checks describe it, `(ERROR | (Retimer
Number))`, for an error whose byte is not 0. -/
def Documented (w : Vector UInt8 4) (ret : Int32) : Prop :=
  ∃ error status, (error, status) ∈ [(errorWriteNack, statusWriteNack w),
      (errorReadNack, statusReadNack w), (errorChecksum, statusChecksum w)]
    ∧ status ≠ 0 ∧ -ret = error ||| Int32.ofNat (flagged w).toNat

section Checks

variable {status retry : UInt8} {tr : List SysEvent} {res : Int32 × UInt8}

theorem run_checkStatusByte_code {error : Int32}
    {allRetimers oneRetimer resolution message : String} {versionStr : List UInt8}
    (h : Run (checkStatusByte (checkStatusError error allRetimers oneRetimer resolution) message
      versionStr status retry) tr res) :
    res = (byteCode error status (retry ||| status), retry ||| status) := by
  unfold byteCode
  cases run_checkStatusByte h with
  | clear hzero => rw [if_pos hzero, hzero, UInt8.or_zero]
  | checked hne => rw [if_neg hne]

theorem run_checkStatusWord_code {versionStr : List UInt8} {w : Vector UInt8 4}
    (h : Run (checkStatusWord versionStr w) tr res) : res = (statusCode w, flagged w) := by
  obtain ⟨_, _, _, -, hwrite, h₁⟩ := run_bind.mp h
  obtain rfl := run_checkStatusByte_code hwrite
  obtain ⟨_, _, _, -, hread, h₂⟩ := run_bind.mp h₁
  obtain rfl := run_checkStatusByte_code hread
  obtain ⟨_, _, _, -, hsum, h₃⟩ := run_bind.mp h₂
  obtain rfl := run_checkStatusByte_code hsum
  obtain ⟨-, rfl⟩ := run_ret.mp h₃
  rw [UInt8.zero_or]
  rfl

end Checks

/-! ## No documented code -/

theorem ofNat_or (x y : UInt8) :
    Int32.ofNat (x ||| y).toNat = Int32.ofNat x.toNat ||| Int32.ofNat y.toNat := by
  rw [UInt8.toNat_or]
  apply Int32.toBitVec_inj.mp
  rw [Int32.toBitVec_or]
  exact BitVec.ofNat_or

/-- The error codes that are ORed, for the checks that are made. There are eight
cases only, so the numbers can be looked at one by one. -/
def errorBits (write read checksum : Bool) : Int32 :=
  (if write then -errorWriteNack else 0) ||| (if read then -errorReadNack else 0)
    ||| (if checksum then -errorChecksum else 0)

/-- The retimers found so far add up to the ones flagged, so the bitmap in the
code is right. It is the error codes that are wrong. -/
theorem statusCode_eq (w : Vector UInt8 4) :
    statusCode w = errorBits (statusWriteNack w ≠ 0) (statusReadNack w ≠ 0) (statusChecksum w ≠ 0)
      ||| Int32.ofNat (flagged w).toNat := by
  rw [statusCode, errorBits, flagged_eq]
  generalize statusWriteNack w = x
  generalize statusReadNack w = y
  generalize statusChecksum w = z
  by_cases hx : x = 0 <;> by_cases hy : y = 0 <;> by_cases hz : z = 0 <;>
    simp [-UInt8.toNat_or, byteCode, hx, hy, hz, ofNat_or] <;> ac_nf

theorem errorBits_undocumented : ∀ write read checksum : Bool, ∀ k < 256, k ≠ 0 →
    (write = true →
      -(errorBits write read checksum ||| Int32.ofNat k) ≠ errorWriteNack ||| Int32.ofNat k)
    ∧ (read = true →
      -(errorBits write read checksum ||| Int32.ofNat k) ≠ errorReadNack ||| Int32.ofNat k)
    ∧ (checksum = true →
      -(errorBits write read checksum ||| Int32.ofNat k) ≠ errorChecksum ||| Int32.ofNat k) := by
  decide +kernel

theorem toUint8_errorBits : ∀ write read checksum : Bool,
    toUint8 (errorBits write read checksum) = 0 := by
  decide

section Codes

variable {w : Vector UInt8 4}

theorem statusCode_ne_zero (h : flagged w ≠ 0) : statusCode w ≠ 0 := by
  apply ne_zero_of_toUint8
  rwa [statusCode_eq, toUint8_or, toUint8_errorBits, toUint8_ofNat, UInt8.zero_or]

/-- With a bitmap `k` that is not 0 the negated code is `K - k`, for one of
0x100, 0x200, 0x300 and 0x400 as `K`; the documented ones are `E + k`. -/
theorem not_documented (h : flagged w ≠ 0) : ¬Documented w (statusCode w) := by
  rintro ⟨error, status, hmem, hstatus, hcode⟩
  rw [statusCode_eq] at hcode
  have hne : (flagged w).toNat ≠ 0 := fun hzero => h (UInt8.toNat_inj.mp hzero)
  obtain ⟨hwrite, hread, hsum⟩ := errorBits_undocumented (decide (statusWriteNack w ≠ 0))
    (decide (statusReadNack w ≠ 0)) (decide (statusChecksum w ≠ 0)) _ (flagged w).toNat_lt hne
  simp only [List.mem_cons, Prod.mk.injEq, List.not_mem_nil, or_false] at hmem
  rcases hmem with ⟨rfl, rfl⟩ | ⟨rfl, rfl⟩ | ⟨rfl, rfl⟩
  · exact hwrite (decide_eq_true hstatus) hcode
  · exact hread (decide_eq_true hstatus) hcode
  · exact hsum (decide_eq_true hstatus) hcode

end Codes

/-! ## Runs -/

section Runs

variable {b : Build} {fd : Int} {versionStr : List UInt8} {n : Nat}
  {bitmap retimerNotUpdated : UInt8} {ret : Int32} {tr : List SysEvent} {res : Int32 × UInt8}

/-- The last attempt alone makes the code, when it got through with errors: the
`ret` of the attempt before is not used. -/
theorem run_updateAttempts_code
    (h : Run (updateAttempts b fd versionStr n bitmap ret retimerNotUpdated) tr res)
    {a : Attempt} {w : Vector UInt8 4} (hlast : (attempts b tr).getLast? = some a)
    (hpolled : a.polled = some w) (hflag : flagged w ≠ 0) : res.1 = statusCode w := by
  induction n generalizing bitmap ret retimerNotUpdated tr with
  | zero =>
      obtain ⟨rfl, -⟩ := run_ret.mp h
      cases hlast
  | succ n ih =>
      obtain ⟨seg, rest, ending, rfl, hturn, hgoes⟩ := run_updateAttempts_turn h
      obtain ⟨a', hmarks, -, hshows⟩ := hturn.attempt
      have hlast_of : rest = [] → a' = a := by
        rintro rfl
        rw [(attempts_cons hmarks fun m hm => by cases hm).1] at hlast
        exact Option.some.inj hlast
      cases ending with
      | failed ret' =>
          obtain rfl := hlast_of hgoes.1
          exact absurd hshows.1 (polled_some hpolled).1
      | clear =>
          obtain rfl := hlast_of hgoes.1
          obtain ⟨w', hpolled', hclear⟩ := hshows
          obtain rfl : w' = w := Option.some.inj (hpolled'.symm.trans hpolled)
          exact absurd (clear_iff.mp hclear).2 hflag
      | retry bitmap' code =>
          obtain ⟨w', check, hpolled', -, hcheck⟩ := hshows
          obtain ⟨rfl, rfl⟩ := Prod.mk.inj (run_checkStatusWord_code hcheck)
          rw [(attempts_cons hmarks (head_updateAttempts hgoes)).1] at hlast
          by_cases hnil : attempts b rest = []
          · -- the retries are spent
            rw [hnil] at hlast
            obtain rfl : a' = a := Option.some.inj hlast
            obtain rfl : w' = w := Option.some.inj (hpolled'.symm.trans hpolled)
            have hretries := (run_updateAttempts hgoes).1
            rw [hnil] at hretries
            cases hretries
            rfl
          · obtain ⟨a'', as, has⟩ := List.exists_cons_of_ne_nil hnil
            rw [has, List.getLast?_cons_cons, ← has] at hlast
            exact ih hgoes hlast

end Runs

/-- **No failed update returns a documented code.** When the last attempt gets
through with an error byte, the code is not 0, and its negation is not the code
of one of its errors with the retimers flagged. The error code is negated before
the bitmap is ORed into it, so negating the sum does not give the bits back. -/
theorem startRetimerFwUpdate_undocumented (b : Build) (fd : Int) (retimerNumber : UInt8)
    (versionStr : List UInt8) (retimerNotUpdated : UInt8) (tr : List SysEvent)
    (res : Int32 × UInt8)
    (h : Run (startRetimerFwUpdate b fd retimerNumber versionStr retimerNotUpdated) tr res)
    (a : Attempt) (w : Vector UInt8 4) (hlast : (attempts b tr).getLast? = some a)
    (hpolled : a.polled = some w) (hflag : flagged w ≠ 0) :
    res.1 ≠ 0 ∧ ¬Documented w res.1 := by
  rw [run_updateAttempts_code h hlast hpolled hflag]
  exact ⟨statusCode_ne_zero hflag, not_documented hflag⟩

section Small

def erringReply (w : Vector UInt8 4) (_ : Unit) : (c : Call) → Option (Answer c × Unit)
  | .i2cRead _ _ _ 4 => some (.ok w, ())
  | c => (c.succeed []).map (·, ())

def writeNackWord : Vector UInt8 4 := ⟨#[0, 1, 0, 0], rfl⟩

def nackedUpdate : List SysEvent × Sys (Int32 × UInt8) × Unit :=
  play (erringReply writeNackWord) 60 () (startRetimerFwUpdate defaultBuild 3 1 [] 0)

theorem nackedUpdate_result : nackedUpdate.2.1.result = some (-0x1FF, 1)
    ∧ (attempts defaultBuild nackedUpdate.1).getLast?
      = some ⟨1, true, [writeNackWord], false⟩ := by
  decide

theorem run_nackedUpdate :
    Run (startRetimerFwUpdate defaultBuild 3 1 [] 0) nackedUpdate.1 (-0x1FF, 1) :=
  run_play nackedUpdate_result.1

theorem startRetimerFwUpdate_undocumented_nacked :
    (-0x1FF : Int32) ≠ 0 ∧ ¬Documented writeNackWord (-0x1FF) :=
  startRetimerFwUpdate_undocumented defaultBuild 3 1 [] 0 nackedUpdate.1 _ run_nackedUpdate _
    writeNackWord nackedUpdate_result.2 rfl (by decide)

/-- The negated code is 0x1FF, not `ERROR_WRITE_NACK | 1`. -/
theorem nacked_code_undocumented :
    ¬∀ (b : Build) (fd : Int) (retimerNumber : UInt8) (versionStr : List UInt8)
      (retimerNotUpdated : UInt8) (tr : List SysEvent) (res : Int32 × UInt8) (a : Attempt)
      (w : Vector UInt8 4),
      Run (startRetimerFwUpdate b fd retimerNumber versionStr retimerNotUpdated) tr res →
      (attempts b tr).getLast? = some a → a.polled = some w → flagged w ≠ 0 → res.1 ≠ 0 →
      Documented w res.1 := by
  intro h
  obtain ⟨error, status, hmem, hstatus, hcode⟩ := h defaultBuild 3 1 [] 0 nackedUpdate.1 _ _ _
    run_nackedUpdate nackedUpdate_result.2 rfl (by decide) (by decide)
  simp only [List.mem_cons, Prod.mk.injEq, List.not_mem_nil, or_false] at hmem
  rcases hmem with ⟨rfl, rfl⟩ | ⟨rfl, rfl⟩ | ⟨rfl, rfl⟩
  · exact absurd hcode (by decide)
  · exact absurd rfl hstatus
  · exact absurd rfl hstatus

end Small

end Retimer
