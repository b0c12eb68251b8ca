import Retimer.Isolation

/-!
# Which error a run of the update loop reports

Every failing operation leaves its code in `updateFirstErrRet`, over the
one that is there, so that what the loop returns is the code of the last
failing operation. It is that of the first one only when the two codes
are the same.

`Last` is the invariant: the variables of the loop, after operations
whose failures were these, have the last of them. `Operated.last` is the
step for one operation and `run_updateLoop_last` the induction over the
loop. The operations and their results are those of `EachAttempted`, so
that what fails and in which order can be said of the run (`failures`,
`firstError`, `lastError`).

The results belong to the run and not to the way it is cut up:
`announced_codes` says that the events of the operations have one list
of codes only, whichever operation traces are found for them.
-/

namespace Retimer

open Interaction Interaction.Prog

/-! ## Results of operations -/

/-- The code of an operation: that of its update, of its copy if there was no
update, and 0 if it was skipped. -/
def OperationTrace.code (t : OperationTrace) : Int32 := t.startRet.getD (t.copyRet.getD 0)

def failures (ts : List OperationTrace) : List Int32 :=
  (ts.map OperationTrace.code).filter (· ≠ 0)

def firstError (ts : List OperationTrace) : Int32 := (failures ts).head?.getD 0

def lastError (ts : List OperationTrace) : Int32 := (failures ts).getLast?.getD 0

theorem failures_append (ts ts' : List OperationTrace) :
    failures (ts ++ ts') = failures ts ++ failures ts' := by
  rw [failures, List.map_append, List.filter_append]
  rfl

theorem failures_of_failed {t : OperationTrace} (h : t.code ≠ 0) : failures [t] = [t.code] :=
  List.filter_cons_of_pos (decide_eq_true h)

theorem failures_of_code_zero {t : OperationTrace} (h : t.code = 0) : failures [t] = [] :=
  List.filter_cons_of_neg (by simp [h])

/-- The operations of the loop, after some messages: the run is `EachAttempted`
of the operations as they were cut down to the retimers asked for. -/
structure PerformedAs (b : Build) (fd : Int) (image : List UInt8) (ops : List UpdateOperation)
    (tr : List SysEvent) (ts : List OperationTrace) : Prop where
  split : ∃ front, tr = front ++ announced 0 ts ∧ ∀ ev ∈ front, ¬IsPerforming ev.1
  each : List.Forall₂ (Attempted b fd image) ops ts

/-! ## The variables of the loop -/

/-- The variables of the loop after operations with these failures. `ret` is
what the last operation returned, so it may be 0 behind a failure. -/
structure Last (es : List Int32) (st : LoopState) : Prop where
  first : st.updateFirstErrRet = es.getLast?.getD 0
  ret : st.ret = 0 ∨ st.ret = st.updateFirstErrRet

theorem last_initial : Last [] initialLoopState := ⟨rfl, Or.inl rfl⟩

theorem Last.loopRet {es : List Int32} {st : LoopState} (h : Last es st) :
    loopRet st = es.getLast?.getD 0 := by
  rw [← h.first, Retimer.loopRet]
  split
  · rfl
  · next hno =>
      rcases h.ret with hret | hret
      · by_contra hfirst
        exact hno ⟨hret, fun hzero => hfirst (by rw [hret, hzero])⟩
      · exact hret

theorem Last.failed {es : List Int32} {e : Int32} {notUpdated : UInt8} :
    Last (es ++ [e]) ⟨e, e, notUpdated⟩ :=
  ⟨by rw [List.getLast?_concat]; rfl, Or.inr rfl⟩

section Loop

variable {b : Build} {fd : Int} {image : List UInt8} {op : UpdateOperation} {st st' : LoopState}
  {tr : List SysEvent} {es : List Int32}

theorem Operated.last (h : Operated b fd image op st tr st') (hst : Last es st) :
    ∃ t, t.events = tr ∧ Attempted b fd image op t ∧ Last (es ++ failures [t]) st' := by
  cases h with
  | skipped hempty =>
      refine ⟨_, rfl, .skipped hempty, ?_⟩
      rw [failures_of_code_zero rfl, List.append_nil]
      exact hst
  | notCopied hbitmap hannounce hcopy hret hreport =>
      refine ⟨_, rfl, .notCopied hbitmap hannounce hcopy hret
        (only_prepareMessageRegistry.run hreport), ?_⟩
      rw [failures_of_failed]
      · exact .failed
      · exact hret
  | refused hbitmap hannounce hcopy hstart hret hreport =>
      refine ⟨_, rfl, .started hbitmap hannounce hcopy hstart
        (only_reportApplyFailed.run hreport), ?_⟩
      rw [failures_of_failed]
      · exact .failed
      · exact hret
  | updated hbitmap hannounce hcopy hstart hreport =>
      refine ⟨_, rfl, .started hbitmap hannounce hcopy hstart
        (only_reportUpdateSuccessful.run hreport), ?_⟩
      rw [failures_of_code_zero rfl, List.append_nil]
      exact ⟨hst.first, Or.inl rfl⟩

theorem run_updateLoop_last {uo : Nat} {ops : List UpdateOperation}
    (h : Run (updateLoop b fd image uo ops st) tr st') (hst : Last es st) :
    ∃ ts, tr = announced uo ts ∧ List.Forall₂ (Attempted b fd image) ops ts
      ∧ Last (es ++ failures ts) st' := by
  induction ops generalizing uo st tr es with
  | nil =>
      obtain ⟨rfl, rfl⟩ := run_ret.mp h
      exact ⟨[], rfl, .nil, by rwa [failures, List.map_nil, List.filter_nil, List.append_nil]⟩
  | cons op ops ih =>
      obtain ⟨seg, st₁, tr', rfl, hbody, hrest⟩ := run_updateLoop_cons h
      obtain ⟨t, rfl, ht, hst₁⟩ := (run_performUpdate hbody).last hst
      obtain ⟨ts, rfl, hts, hst'⟩ := ih hrest hst₁
      refine ⟨t :: ts, rfl, .cons ht hts, ?_⟩
      rwa [List.append_assoc, ← failures_append] at hst'

/-! ## The results are determined by the run -/

theorem Attempted.quiet {t : OperationTrace} (h : Attempted b fd image op t) :
    ∀ ev ∈ t.events, ¬IsPerforming ev.1 := by
  have hannounced : ∀ {tr : List SysEvent} {u : Unit}, Run (announceTransfer op) tr u →
      ∀ ev ∈ tr, ¬IsPerforming ev.1 := fun htr ev hev =>
    (only_announceTransfer.run htr ev hev).isPlain.not_performing
  have hcopied : ∀ {tr : List SysEvent} {ret : Int32}, Run (copyOperation b fd image op) tr ret →
      ∀ ev ∈ tr, ¬IsPerforming ev.1 := fun htr ev hev =>
    (only_copyImageFromMemToFpga.run htr ev hev).not_performing
  cases h with
  | skipped hempty => exact fun ev hev => absurd hev List.not_mem_nil
  | notCopied hbitmap hannounce hcopy hret hreport =>
      simp only [List.forall_mem_append]
      exact ⟨hannounced hannounce, hcopied hcopy,
        fun ev hev => (hreport ev hev).isPlain.not_performing⟩
  | started hbitmap hannounce hcopy hstart hreport =>
      simp only [List.forall_mem_append]
      exact ⟨hannounced hannounce, hcopied hcopy,
        fun ev hev => (only_startRetimerFwUpdate.run hstart ev hev).not_performing,
        fun ev hev => (hreport ev hev).isPlain.not_performing⟩

theorem head_announced {uo : Nat} {ts : List OperationTrace} :
    ∀ ev ∈ (announced uo ts).head?, IsPerforming ev.1 := by
  intro ev hev
  cases ts with
  | nil => cases hev
  | cons t ts =>
      obtain rfl := Option.some.inj hev
      trivial

theorem announced_codes {uo : Nat} {ops : List UpdateOperation} {ts ts' : List OperationTrace}
    (h : List.Forall₂ (Attempted b fd image) ops ts)
    (h' : List.Forall₂ (Attempted b fd image) ops ts')
    (heq : announced uo ts = announced uo ts') : failures ts = failures ts' := by
  induction h generalizing uo ts' with
  | nil =>
      cases h'
      rfl
  | @cons op t ops ts ht hts ih =>
      cases h' with
      | @cons _ t' _ ts' ht' hts' =>
          obtain ⟨hevents, hrest⟩ := upToPerforming_unique (List.cons.inj heq).2 ht.quiet ht'.quiet
            head_announced head_announced
          obtain ⟨-, hcopy, hstart⟩ := ht.same ht' (hevents ▸ answeredAlike_self t.events)
          have hcode : t.code = t'.code := by
            rw [OperationTrace.code, OperationTrace.code, hcopy, hstart]
          have hfailures := ih hts' hrest
          rw [failures, failures] at hfailures ⊢
          rw [List.map_cons, List.map_cons, List.filter_cons, List.filter_cons, hfailures, hcode]

theorem PerformedAs.failures_eq {ops : List UpdateOperation} {ts ts' : List OperationTrace}
    (h : PerformedAs b fd image ops tr ts) (h' : PerformedAs b fd image ops tr ts') :
    failures ts = failures ts' := by
  obtain ⟨⟨front, rfl, hfront⟩, heach⟩ := h
  obtain ⟨⟨front', heq, hfront'⟩, heach'⟩ := h'
  obtain ⟨-, hloop⟩ := upToPerforming_unique heq hfront hfront' head_announced head_announced
  exact announced_codes heach heach' hloop

end Loop

/-! ## The code of the run -/

/-- What the update loop returns is the code of the last failing operation. -/
theorem run_updateOperations_last {b : Build} {fd : Int} {image : List UInt8}
    {retimerToUpdate : UInt8} {ops : List UpdateOperation} {tr : List SysEvent} {ret : Int32}
    (h : Run (updateOperations b fd image retimerToUpdate ops) tr ret) :
    ∃ ts, PerformedAs b fd image (ops.map (·.targeted retimerToUpdate)) tr ts
      ∧ ret = lastError ts := by
  obtain ⟨before, loop, final, rfl, hbefore, hloop, rfl⟩ := run_updateOperations h
  obtain ⟨ts, rfl, hts, hlast⟩ := run_updateLoop_last hloop last_initial
  refine ⟨ts, ⟨⟨before, rfl, fun ev hev => (hbefore ev hev).not_performing⟩, hts⟩, ?_⟩
  rw [List.nil_append] at hlast
  exact hlast.loopRet

/-- **The first error.** The operations were performed in some way, and in
whichever way the run is cut into operations, the code of the first one that
failed is returned just if it is that of the last one as well. The loop keeps
the code of the last failure, so with two different ones the first is lost. -/
theorem updateOperations_firstError_iff (b : Build) (fd : Int) (image : List UInt8)
    (retimerToUpdate : UInt8) (ops : List UpdateOperation) (tr : List SysEvent) (ret : Int32)
    (h : Run (updateOperations b fd image retimerToUpdate ops) tr ret) :
    (∃ ts, PerformedAs b fd image (ops.map (·.targeted retimerToUpdate)) tr ts)
      ∧ ∀ ts, PerformedAs b fd image (ops.map (·.targeted retimerToUpdate)) tr ts →
        (ret = firstError ts ↔ lastError ts = firstError ts) := by
  obtain ⟨ts₀, hts₀, rfl⟩ := run_updateOperations_last h
  refine ⟨⟨ts₀, hts₀⟩, fun ts hts => ?_⟩
  rw [lastError, hts₀.failures_eq hts]
  rfl

section Small

/-- An image that is too large is not copied. -/
theorem Attempted.tooLarge {b : Build} {fd : Int} {image : List UInt8} {op : UpdateOperation}
    {t : OperationTrace} (h : Attempted b fd image op t) (hbitmap : op.applyBitmap ≠ 0)
    (hsize : op.imageLength > b.maxFwImageSize) : t.code = -errorWrongFirmware := by
  have hcode : ∀ {tr : List SysEvent} {ret : Int32}, Run (copyOperation b fd image op) tr ret →
      ret = -errorWrongFirmware := by
    intro tr ret hcopy
    rw [copyOperation, copyImageFromMemToFpga, if_pos hsize] at hcopy
    exact (run_ret.mp hcopy).2
  cases h with
  | skipped hempty => exact absurd hempty hbitmap
  | notCopied _ hannounce hcopy hret hreport => exact hcode hcopy
  | started _ hannounce hcopy hstart hreport => exact absurd (hcode hcopy) (by decide)

/-- An image that is too large for retimer 0, and one for retimer 1. -/
def twoOperations : List UpdateOperation :=
  [⟨0, defaultBuild.maxFwImageSize + 1, 1, 0, []⟩, ⟨0, 3, 2, 0, []⟩]

/-- No write gets through. -/
def silentReply (_ : Unit) : (c : Call) → Option (Answer c × Unit)
  | .i2cWrite _ _ _ => some (.failed 6, ())
  | c => (c.succeed []).map (·, ())

def twoFailures : List SysEvent × Sys Int32 × Unit :=
  play silentReply 30 () (updateOperations defaultBuild 3 [1, 2, 3] 3 twoOperations)

theorem run_twoFailures : Run (updateOperations defaultBuild 3 [1, 2, 3] 3 twoOperations)
    twoFailures.1 (-errorIoctlI2cRdwrFailure) :=
  run_play rfl

theorem updateOperations_firstError_iff_two :
    (∃ ts, PerformedAs defaultBuild 3 [1, 2, 3] (twoOperations.map (·.targeted 3)) twoFailures.1 ts)
      ∧ ∀ ts, PerformedAs defaultBuild 3 [1, 2, 3] (twoOperations.map (·.targeted 3))
          twoFailures.1 ts →
        (-errorIoctlI2cRdwrFailure = firstError ts ↔ lastError ts = firstError ts) :=
  updateOperations_firstError_iff defaultBuild 3 [1, 2, 3] 3 twoOperations twoFailures.1 _
    run_twoFailures

/-- The code of the first operation is lost. -/
theorem two_failures_last :
    ¬∀ (b : Build) (fd : Int) (image : List UInt8) (retimerToUpdate : UInt8)
      (ops : List UpdateOperation) (tr : List SysEvent) (ret : Int32) (ts : List OperationTrace),
      Run (updateOperations b fd image retimerToUpdate ops) tr ret →
      PerformedAs b fd image (ops.map (·.targeted retimerToUpdate)) tr ts →
      ret = firstError ts := by
  intro h
  obtain ⟨ts, hts, -⟩ := run_updateOperations_last run_twoFailures
  have hret := h defaultBuild 3 [1, 2, 3] 3 twoOperations twoFailures.1 _ ts run_twoFailures hts
  obtain ⟨t, ts, ht, -, rfl⟩ := List.forall₂_cons_left_iff.mp hts.each
  have hcode : t.code = -errorWrongFirmware :=
    ht.tooLarge (by decide) (Nat.lt_succ_self defaultBuild.maxFwImageSize)
  have hne : t.code ≠ 0 := by
    rw [hcode]
    decide
  have hfirst : firstError (t :: ts) = t.code := by
    rw [firstError, ← List.singleton_append, failures_append, failures_of_failed hne]
    rfl
  rw [hfirst, hcode] at hret
  exact absurd hret (by decide)

end Small

end Retimer
