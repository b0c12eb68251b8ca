import Retimer.Attempts
import Retimer.OperationRun

/-!
# What an operation reports

The retimers an operation is reported to have succeeded or failed for,
by the messages of the update loop, and the value `retimerNotUpdated`
has from the runs of `startRetimerFwUpdate` so far. An operation whose
apply phase fails takes that value for the retimers that failed,
whatever it is.

The messages come from `prepareMessageRegistry`, a loop over the bits of
a bitmap; `logged_prepareMessageRegistry` says that just the retimers of
the bitmap get one. Their names are different (`retimerName_injective`),
so a message names one retimer.

The value is a function of the run so far (`standing`): the first one is
that of the declaration, an attempt with an error word sets it, and an
attempt that failed leaves it (`Attempt.report`, folded over the
attempts by `reported`). `Retries.reported` is the step for one update,
`Operated.reported` for one operation, `run_updateLoop_reported` the
induction over the loop, and `OperationAt.standing` the result: where an
operation starts, the variable has the value that the run so far has
given it. `Refused` says of the attempts of an update that it did not
end well, and `Retries.refused` that its return code tells so.
-/

namespace Retimer

open Interaction Interaction.Prog

/-! ## Messages for a bitmap -/

theorem index_of_numbered (name : String) {i j : Nat}
    (h : name ++ toString i = name ++ toString j) : i = j := by
  have hchars := congrArg String.toList h
  rw [String.toList_append, String.toList_append, List.append_cancel_left_eq, Nat.toString_eq_repr,
    Nat.toString_eq_repr, Nat.toList_repr, Nat.toList_repr] at hchars
  calc i = Nat.ofDigitChars 10 (Nat.toDigits 10 i) 0 := Nat.ofDigitChars_ten_toDigits.symm
    _ = Nat.ofDigitChars 10 (Nat.toDigits 10 j) 0 := by rw [hchars]
    _ = j := Nat.ofDigitChars_ten_toDigits

theorem retimerName_injective {i j : Nat} (h : retimerName i = retimerName j) : i = j :=
  index_of_numbered _ h

/-- The message of `prepareMessageRegistry` for one retimer. -/
def registryMessage (message versionStr : String) (verBeforeDevice : Bool) (severity : String)
    (resolution : Option String) (genericMessage : Bool) (index : Nat) : LogMessage :=
  if verBeforeDevice then
    ⟨message, versionStr, retimerName index, severity, resolution, genericMessage⟩
  else ⟨message, retimerName index, versionStr, severity, resolution, genericMessage⟩

def Logged (tr : List SysEvent) (m : LogMessage) : Prop :=
  (⟨.emitLogMessage m, ()⟩ : SysEvent) ∈ tr

theorem logged_append {tr tr' : List SysEvent} {m : LogMessage} :
    Logged (tr ++ tr') m ↔ Logged tr m ∨ Logged tr' m :=
  List.mem_append

theorem exists_logged_append {tr tr' : List SysEvent} {P : LogMessage → Prop} :
    (∃ m, Logged (tr ++ tr') m ∧ P m) ↔ (∃ m, Logged tr m ∧ P m) ∨ ∃ m, Logged tr' m ∧ P m := by
  simp only [logged_append, or_and_right, exists_or]

theorem not_logged_nil {m : LogMessage} : ¬Logged [] m := List.not_mem_nil

theorem logged_singleton {m m' : LogMessage} :
    Logged [⟨.emitLogMessage m', ()⟩] m ↔ m = m' := by
  simp [Logged]

theorem has_zero_iff {x : UInt8} : Has x 0 ↔ x &&& 1 ≠ 0 := by
  have hone : (1 : UInt8).toNat = 1 := rfl
  rw [Has, ne_eq, ← UInt8.toNat_inj, UInt8.toNat_and, hone, Nat.and_one_is_mod, UInt8.toNat_zero,
    Nat.testBit_zero, decide_eq_true_eq]
  omega

theorem has_succ {x : UInt8} {r : Nat} : Has x (r + 1) ↔ Has (x >>> 1) r := by
  have hshift : (x >>> 1).toNat = x.toNat >>> 1 := rfl
  rw [Has, Has, hshift, Nat.testBit_shiftRight, Nat.add_comm]

section Messages

variable {retimer : UInt8} {message severity : String} {resolution : Option String}
  {genericMessage verBeforeDevice : Bool} {tr : List SysEvent}

theorem logged_registryLoop {versionStr : String} {count index : Nat} {u : Unit}
    (h : Run (registryLoop message versionStr verBeforeDevice severity resolution genericMessage
      count index retimer) tr u) (m : LogMessage) :
    Logged tr m ↔ ∃ k < count, Has retimer k ∧ m = registryMessage message versionStr
      verBeforeDevice severity resolution genericMessage (index + k) := by
  induction count generalizing index retimer tr with
  | zero =>
      obtain ⟨rfl, -⟩ := run_ret.mp h
      simp [not_logged_nil]
  | succ count ih =>
      -- the message of this turn, when its bit is set
      obtain ⟨tr₁, tr₂, rfl, hfirst, hrest⟩ : ∃ tr₁ tr₂, tr = tr₁ ++ tr₂
          ∧ (Logged tr₁ m ↔ Has retimer 0 ∧ m = registryMessage message versionStr
            verBeforeDevice severity resolution genericMessage index)
          ∧ Run (registryLoop message versionStr verBeforeDevice severity resolution
            genericMessage count (index + 1) (retimer >>> 1)) tr₂ u := by
        unfold registryLoop at h
        split at h
        · next hbit =>
            split at h
            · next hver =>
                obtain ⟨tr₁, _, tr₂, rfl, hemit, hrest⟩ := run_bind.mp h
                obtain rfl := run_perform.mp hemit
                refine ⟨_, tr₂, rfl, ?_, hrest⟩
                rw [logged_singleton, registryMessage, if_pos hver]
                exact (and_iff_right (has_zero_iff.mpr hbit)).symm
            · next hver =>
                obtain ⟨tr₁, _, tr₂, rfl, hemit, hrest⟩ := run_bind.mp h
                obtain rfl := run_perform.mp hemit
                refine ⟨_, tr₂, rfl, ?_, hrest⟩
                rw [logged_singleton, registryMessage, if_neg hver]
                exact (and_iff_right (has_zero_iff.mpr hbit)).symm
        · next hbit =>
            refine ⟨[], tr, rfl, ?_, h⟩
            exact iff_of_false not_logged_nil fun hset => hbit (has_zero_iff.mp hset.1)
      rw [logged_append, hfirst, ih hrest]
      constructor
      · rintro (⟨hset, rfl⟩ | ⟨k, hk, hset, rfl⟩)
        · exact ⟨0, Nat.succ_pos count, hset, rfl⟩
        · exact ⟨k + 1, Nat.succ_lt_succ hk, has_succ.mpr hset,
            by rw [Nat.add_right_comm, Nat.add_assoc]⟩
      · rintro ⟨k, hk, hset, rfl⟩
        cases k with
        | zero => exact Or.inl ⟨hset, rfl⟩
        | succ k =>
            refine Or.inr ⟨k, Nat.lt_of_succ_lt_succ hk, has_succ.mp hset, ?_⟩
            rw [Nat.add_right_comm, Nat.add_assoc]

/-- Just the retimers of the bitmap get a message, and all messages are the same
but for the name. -/
theorem logged_prepareMessageRegistry {versionStr : List UInt8} {u : Unit}
    (h : Run (prepareMessageRegistry retimer message versionStr verBeforeDevice severity resolution
      genericMessage) tr u) (m : LogMessage) :
    Logged tr m ↔ ∃ r, Has retimer r ∧ m = registryMessage message (textOf versionStr)
      verBeforeDevice severity resolution genericMessage r := by
  unfold prepareMessageRegistry at h
  split at h
  · rw [logged_registryLoop h]
    constructor
    · rintro ⟨k, -, hset, rfl⟩
      exact ⟨k, hset, by rw [Nat.zero_add]⟩
    · rintro ⟨r, hset, rfl⟩
      exact ⟨r, hset.lt, hset, by rw [Nat.zero_add]⟩
  · next hzero =>
      obtain ⟨rfl, -⟩ := run_ret.mp h
      obtain rfl := not_not.mp hzero
      exact iff_of_false not_logged_nil fun ⟨r, hset, _⟩ => not_has_zero hset

end Messages

/-! ## The value of `retimerNotUpdated` -/

/-- An attempt that went through with a word that is not clear leaves the
retimers in its error bytes. -/
def Attempt.report (notUpdated : UInt8) (a : Attempt) : UInt8 :=
  match a.polled with
  | some w => if Clear w then notUpdated else flagged w
  | none => notUpdated

/-- What some attempts make of `retimerNotUpdated`. -/
def reported (notUpdated : UInt8) (as : List Attempt) : UInt8 :=
  as.foldl Attempt.report notUpdated

/-- The value of `retimerNotUpdated` after the events of a run of `main`: what
the attempts so far have made of the one it was declared with. -/
def standing (b : Build) (tr : List SysEvent) : UInt8 := reported initUint8 (attempts b tr)

/-- The apply phase does not end well: a transaction failed, or the last word
read has an error bit. -/
def Refused (as : List Attempt) : Prop :=
  (∃ a ∈ as, a.Failed) ∨ ∃ a w, as.getLast? = some a ∧ a.polled = some w ∧ flagged w ≠ 0

theorem Attempt.report_of_failed {a : Attempt} (h : a.Failed) (notUpdated : UInt8) :
    a.report notUpdated = notUpdated := by
  rw [Attempt.report, polled_of_failed h]

section Retries

variable {n : Nat} {bitmap notUpdated : UInt8} {ret : Int32} {as : List Attempt}
  {res : Int32 × UInt8}

theorem Retries.reported (h : Retries n bitmap notUpdated ret as res) :
    res.2 = reported notUpdated as := by
  induction h with
  | spent => rfl
  | failed hbitmap hfailed hret => exact (Attempt.report_of_failed hfailed _).symm
  | @clear n bitmap notUpdated ret a w hbitmap hpolled hclear =>
      show notUpdated = a.report notUpdated
      rw [Attempt.report, hpolled]
      exact (if_pos hclear).symm
  | @again n bitmap notUpdated ret code a w as res hbitmap hpolled hclear hcode hzero hrest ih =>
      show res.2 = Retimer.reported (a.report notUpdated) as
      rw [ih, Attempt.report, hpolled]
      exact congrArg (Retimer.reported · as) (if_neg hclear).symm

theorem refused_cons {a : Attempt} {w : Vector UInt8 4} (hpolled : a.polled = some w)
    (hne : as ≠ []) : Refused (a :: as) ↔ Refused as := by
  obtain ⟨a', as, rfl⟩ := List.exists_cons_of_ne_nil hne
  have hwell := (polled_some hpolled).1
  rw [Refused, Refused, List.getLast?_cons_cons, List.exists_mem_cons_iff, or_iff_right hwell]

theorem refused_one {a : Attempt} {w : Vector UInt8 4} (hpolled : a.polled = some w) :
    Refused [a] ↔ flagged w ≠ 0 := by
  constructor
  · rintro (⟨a', ha', hfailed⟩ | ⟨a', w', ha', hpolled', hflag⟩)
    · obtain rfl := List.mem_singleton.mp ha'
      exact absurd hfailed (polled_some hpolled).1
    · obtain rfl : a = a' := Option.some.inj ha'
      rw [hpolled] at hpolled'
      exact Option.some.inj hpolled' ▸ hflag
  · exact fun hflag => Or.inr ⟨a, w, rfl, hpolled, hflag⟩

/-- The return code tells a failed apply phase, even its low byte alone. That
matters for the exit status, which is the low byte. -/
theorem Retries.refused (h : Retries n bitmap notUpdated ret as res) (hne : as ≠ []) :
    (Refused as → toUint8 res.1 ≠ 0) ∧ (¬Refused as → res.1 = 0) := by
  induction h with
  | spent => exact absurd rfl hne
  | @failed n bitmap notUpdated ret ret' a hbitmap hfailed hret =>
      exact ⟨fun _ => hret,
        fun hwell => absurd (Or.inl ⟨a, List.mem_singleton_self a, hfailed⟩) hwell⟩
  | clear hbitmap hpolled hclear =>
      rw [refused_one hpolled]
      exact ⟨fun hflag => absurd (clear_iff.mp hclear).2 hflag, fun _ => rfl⟩
  | @again n bitmap notUpdated ret code a w as res hbitmap hpolled hclear hcode hzero hrest ih =>
      by_cases hlast : as = []
      · subst hlast
        cases hrest
        rw [refused_one hpolled, hcode]
        exact ⟨fun hflag => hflag, fun hflag => hzero (not_not.mp hflag)⟩
      · rw [refused_cons hpolled hlast]
        exact ih hlast

theorem Retries.ne_nil (h : Retries (n + 1) bitmap notUpdated ret as res) : as ≠ [] := by
  cases h <;> exact List.cons_ne_nil _ _

theorem Retries.first (h : Retries n bitmap notUpdated ret as res) :
    ∀ a ∈ as.head?, a.bitmap = bitmap := by
  intro a ha
  cases h with
  | spent => cases ha
  | failed hbitmap => exact Option.some.inj ha ▸ hbitmap
  | clear hbitmap => exact Option.some.inj ha ▸ hbitmap
  | again hbitmap => exact Option.some.inj ha ▸ hbitmap

/-- A trigger that did not get through is the first, or was for the retimers
reported. -/
theorem Retries.unsent (h : Retries n bitmap notUpdated ret as res) {a : Attempt} (ha : a ∈ as)
    (hsent : a.sent = false) : (as = [a] ∧ a.bitmap = bitmap ∧ res.2 = notUpdated)
      ∨ a.bitmap = res.2 := by
  induction h with
  | spent => cases ha
  | failed hbitmap hfailed hret =>
      obtain rfl := List.mem_singleton.mp ha
      exact Or.inl ⟨rfl, hbitmap, rfl⟩
  | clear hbitmap hpolled hclear =>
      obtain rfl := List.mem_singleton.mp ha
      exact absurd (Or.inl hsent) (polled_some hpolled).1
  | again hbitmap hpolled hclear hcode hzero hrest ih =>
      rcases List.mem_cons.mp ha with rfl | ha
      · exact absurd (Or.inl hsent) (polled_some hpolled).1
      · rcases ih ha with ⟨-, hbitmap', hres⟩ | hbitmap'
        · exact Or.inr (hbitmap'.trans hres.symm)
        · exact Or.inr hbitmap'

end Retries

/-! ## Over the operations -/

theorem plain_marks {b : Build} {tr : List SysEvent} (h : ∀ ev ∈ tr, IsPlain ev.1) :
    ∀ m ∈ marks b tr, (!m.isFirst) = true := by
  intro m hm
  obtain ⟨ev, hev, hmark⟩ := List.mem_filterMap.mp hm
  have hplain := h ev hev
  obtain ⟨c, r⟩ := ev
  cases c with
  | i2cWrite fd slaveId writeData =>
      rw [markOf, if_neg (hplain.not_trigger b)] at hmark
      cases hmark
  | i2cRead fd slaveId writeData n =>
      -- a read shows as a word, as a failure, or not at all
      unfold markOf at hmark
      split at hmark <;> simp_all
      · exact hmark ▸ rfl
      · exact hmark.2 ▸ rfl
  | performing uo => exact hplain.elim
  | _ => cases hmark

theorem attempts_plain {b : Build} {tr : List SysEvent} (h : ∀ ev ∈ tr, IsPlain ev.1) :
    attempts b tr = [] :=
  attemptsOf_rest (plain_marks h)

theorem attempts_append {b : Build} (tr : List SysEvent) {tr' : List SysEvent}
    (h : ∀ m ∈ (marks b tr').head?, m.isFirst = true) :
    attempts b (tr ++ tr') = attempts b tr ++ attempts b tr' := by
  rw [attempts, marks_append, attemptsOf_append _ h]
  rfl

theorem head_performing {b : Build} {tr : List SysEvent} (h : ∀ ev ∈ tr.head?, IsPerforming ev.1) :
    ∀ m ∈ (marks b tr).head?, m.isFirst = true := by
  cases tr with
  | nil => exact fun m hm => nomatch hm
  | cons ev tr =>
      have hev := h ev rfl
      obtain ⟨c, r⟩ := ev
      cases c with
      | performing uo =>
          intro m hm
          rw [marks_cons] at hm
          obtain rfl := Option.some.inj hm
          rfl
      | _ => exact hev.elim

section Operation

variable {b : Build} {fd : Int} {image : List UInt8} {op : UpdateOperation} {st st' : LoopState}
  {tr tr₁ tr₂ tr₃ tr₄ : List SysEvent}

theorem only_announceTransfer : Only IsMessage (announceTransfer op) := only_prepareMessageRegistry

theorem plain_front {ret : Int32} (hannounce : Run (announceTransfer op) tr₁ ())
    (hcopy : Run (copyOperation b fd image op) tr₂ ret) : ∀ ev ∈ tr₁ ++ tr₂, IsPlain ev.1 := by
  intro ev hev
  rcases List.mem_append.mp hev with hev | hev
  · exact (only_announceTransfer.run hannounce ev hev).isPlain
  · exact only_copyImageFromMemToFpga.run hcopy ev hev

/-- The attempts of an operation are those of its call to
`startRetimerFwUpdate`: neither the copy nor a message has marks. -/
theorem attempts_parts {N : UInt8} {ret : Int32} {res : Int32 × UInt8}
    (hannounce : Run (announceTransfer op) tr₁ ())
    (hcopy : Run (copyOperation b fd image op) tr₂ ret)
    (hstart : Run (startOperation b fd op N) tr₃ res) (hreport : ∀ ev ∈ tr₄, IsMessage ev.1) :
    attempts b (tr₁ ++ (tr₂ ++ (tr₃ ++ tr₄))) = attempts b tr₃ := by
  have hquiet : marks b tr₄ = [] := marks_of_messages hreport
  have hhead : ∀ m ∈ (marks b (tr₃ ++ tr₄)).head?, m.isFirst = true := by
    rw [marks_append, hquiet, List.append_nil]
    exact head_updateAttempts hstart
  rw [← List.append_assoc, attempts_append _ hhead, attempts_plain (plain_front hannounce hcopy),
    List.nil_append, attempts, attempts, marks_append, hquiet, List.append_nil]

theorem attempts_notCopied {ret : Int32} (hannounce : Run (announceTransfer op) tr₁ ())
    (hcopy : Run (copyOperation b fd image op) tr₂ ret) (hreport : ∀ ev ∈ tr₃, IsMessage ev.1) :
    attempts b (tr₁ ++ (tr₂ ++ tr₃)) = [] := by
  rw [← List.append_assoc]
  refine attempts_plain fun ev hev => ?_
  rcases List.mem_append.mp hev with hev | hev
  · exact plain_front hannounce hcopy ev hev
  · exact (hreport ev hev).isPlain

theorem Operated.reported (h : Operated b fd image op st tr st') :
    st'.retimerNotUpdated = reported st.retimerNotUpdated (attempts b tr) := by
  cases h with
  | skipped hempty => rfl
  | notCopied hbitmap hannounce hcopy hret hreport =>
      rw [attempts_notCopied hannounce hcopy (only_prepareMessageRegistry.run hreport)]
      rfl
  | refused hbitmap hannounce hcopy hstart hret hreport =>
      rw [attempts_parts hannounce hcopy hstart (only_reportApplyFailed.run hreport)]
      exact (run_updateAttempts hstart).1.reported
  | updated hbitmap hannounce hcopy hstart hreport =>
      rw [attempts_parts hannounce hcopy hstart (only_reportUpdateSuccessful.run hreport)]
      exact (run_updateAttempts hstart).1.reported

theorem run_updateLoop_reported {uo : Nat} {ops : List UpdateOperation}
    (h : Run (updateLoop b fd image uo ops st) tr st') :
    st'.retimerNotUpdated = reported st.retimerNotUpdated (attempts b tr) := by
  induction ops generalizing uo st tr with
  | nil =>
      obtain ⟨rfl, rfl⟩ := run_ret.mp h
      rfl
  | cons op ops ih =>
      obtain ⟨seg, st₁, tr', rfl, hbody, hrest⟩ := run_updateLoop_cons h
      have hsplit : attempts b (⟨.performing uo, ()⟩ :: (seg ++ tr'))
          = attempts b seg ++ attempts b tr' :=
        attempts_append seg (head_performing (head_updateLoop hrest))
      rw [hsplit, ih hrest, (run_performUpdate hbody).reported, Retimer.reported, Retimer.reported,
        Retimer.reported, List.foldl_append]

/-- Where an operation starts, the variable has the value the run so far has
given it. -/
theorem OperationAt.standing {fuel : Nat} {argv : List (List UInt8)} {pre seg : List SysEvent}
    {uo : Nat} (h : OperationAt b fuel argv pre uo seg op st) :
    st.retimerNotUpdated = standing b pre := by
  obtain ⟨fd, image, ops, front, body, rfl, hplain, hloop⟩ := h.before
  rw [run_updateLoop_reported hloop, Retimer.standing,
    attempts_append front (head_performing (head_updateLoop hloop)), attempts_plain hplain]
  rfl

end Operation

end Retimer
