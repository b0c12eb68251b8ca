import Retimer.CompositeEncode
import Retimer.OperationRun
import Retimer.PageCopy
import Retimer.TwoRuns

/-!
# One image, packaged in two ways

The bare file and the composite file with the same image as its only
component, for all retimers: the update command does the same with both.
The two runs go side by side, request by request. They differ in the
version string, which gets into messages only, and in where the image
lies in the file.

`AskedAlike` has requests correspond that are the same but for the text
of a message and the size of the file that is mapped, `AnsweredFrom` has
answers correspond that are the same but for the file itself. In these
terms there is one lemma `paired_f` for each function `f`, up to
`paired_main`. What does not look at the file goes by itself
(`paired_self`); what sends messages needs that they are about the same
retimers, so that their number is the same (`paired_prepare`); and what
the loop does for an operation needs that the operations differ in
version and offset only (`SameUpdate`, `paired_performUpdate`).

The parser is where the two packages meet: `SameParse` says that they
are taken for the same update, or not for want of memory, and
`Package.sameParse_encode` that the bare file and its package are.
`transactions_eq` drops the messages at the end.
-/

namespace Retimer

open Interaction Interaction.Prog

/-! ## Requests that correspond -/

/-- The same request, but for the text of a message; each run maps the whole of
its own file. -/
def AskedAlike (file file' : List UInt8) : Call → Call → Prop
  | .emitLogMessage _, .emitLogMessage _ => True
  | .mmap fd n, .mmap fd' n' => fd' = fd ∧ n = file.length ∧ n' = file'.length
  | c, c' => c' = c

/-- The same answer, but for the size and the contents of the file. -/
def AnsweredFrom (file file' : List UInt8) : SysEvent → SysEvent → Prop
  | ⟨.emitLogMessage _, _⟩, ⟨.emitLogMessage _, _⟩ => True
  | ⟨.fstat _, size⟩, ⟨.fstat _, size'⟩ =>
      (size = none ∧ size' = none) ∨ (size = some file.length ∧ size' = some file'.length)
  | ⟨.mmap _ _, image⟩, ⟨.mmap _ _, image'⟩ => (image = none ∧ image' = none)
      ∨ (image.map (·.toList) = some file ∧ image'.map (·.toList) = some file')
  | ev, ev' => ev' = ev

/-- The programs go side by side, one with each file, and their results meet
`Q`. -/
abbrev Paired {α β : Type} (file file' : List UInt8) (p : Sys α) (q : Sys β) (Q : α → β → Prop) :
    Prop :=
  Both anyEnv anyEnv (AskedAlike file file') (AnsweredFrom file file') p q
    (fun a b _ _ => Q a b) () ()

def NotFile : Call → Prop
  | .fstat _ | .mmap _ _ => False
  | _ => True

section Paired

variable {α : Type} {b : Build} {x f : List UInt8} {fd : Int}

theorem IsMessage.notFile {c : Call} (h : IsMessage c) : NotFile c := by
  cases c with
  | emitLogMessage m => trivial
  | _ => exact h.elim

theorem IsStaging.notFile {c : Call} (h : IsStaging c) : NotFile c := by
  cases c with
  | fstat fd => exact h.elim
  | mmap fd n => exact h.elim
  | _ => trivial

theorem IsTrying.notFile {c : Call} (h : IsTrying c) : NotFile c := by
  cases c with
  | fstat fd => exact h.elim
  | mmap fd n => exact h.elim
  | _ => trivial

/-- A program that does not look at the file goes side by side with itself. -/
theorem paired_self {p : Sys α} (hp : Only NotFile p) : Paired x f p p (fun a a' => a = a') := by
  refine (both_self (I := fun _ _ => True) hp ?_ ?_ trivial).mono fun _ _ _ _ h => h.1
  · intro c hc
    cases c with
    | mmap fd n => exact hc.elim
    | emitLogMessage m => trivial
    | _ => rfl
  · intro _ _ c r r' _ _ hc _ _ _ halike
    refine ⟨?_, trivial⟩
    cases c with
    | emitLogMessage m => rfl
    | fstat fd => exact hc.elim
    | mmap fd n => exact hc.elim
    | _ => cases halike; rfl

theorem Paired.bind {β γ δ : Type} {p : Sys α} {q : Sys β} {g : α → Sys γ} {g' : β → Sys δ}
    {P : α → β → Prop} {Q : γ → δ → Prop} (h : Paired x f p q P)
    (hg : ∀ a b, P a b → Paired x f (g a) (g' b) Q) : Paired x f (p >>= g) (q >>= g') Q :=
  Both.bind h fun a b _ _ hP => hg a b hP

theorem paired_registryLoop {message severity v v' : String} {verBeforeDevice genericMessage : Bool}
    {resolution : Option String} {count index : Nat} {retimer : UInt8} :
    Paired x f
      (registryLoop message v verBeforeDevice severity resolution genericMessage count index
        retimer)
      (registryLoop message v' verBeforeDevice severity resolution genericMessage count index
        retimer)
      (fun _ _ => True) := by
  have hemit : ∀ m m' : LogMessage, Paired x f (Sys.emitLogMessage m) (Sys.emitLogMessage m')
      (fun _ _ => True) := fun m m' => both_perform.mpr ⟨trivial, fun _ _ _ _ _ _ _ => trivial⟩
  induction count generalizing index retimer with
  | zero => trivial
  | succ count ih =>
      unfold registryLoop
      refine Both.ite Iff.rfl (fun _ => ?_) fun _ => ih
      refine Both.ite Iff.rfl (fun _ => ?_) fun _ => ?_
      · exact Paired.bind (hemit _ _) fun _ _ _ => ih
      · exact Paired.bind (hemit _ _) fun _ _ _ => ih

theorem paired_prepare {retimer : UInt8} {message severity : String} {v v' : List UInt8}
    {verBeforeDevice genericMessage : Bool} {resolution : Option String} :
    Paired x f (prepareMessageRegistry retimer message v verBeforeDevice severity resolution
        genericMessage)
      (prepareMessageRegistry retimer message v' verBeforeDevice severity resolution genericMessage)
      (fun _ _ => True) :=
  Both.ite Iff.rfl (fun _ => paired_registryLoop) fun _ => trivial

/-! ## The update of one operation -/

theorem paired_checkStatusByte {check : UInt8 → UInt8 → Sys (Int32 × UInt8)} {message : String}
    {v v' : List UInt8} {status retry : UInt8}
    (hcheck : ∀ status retry, Only IsReport (check status retry)) :
    Paired x f (checkStatusByte check message v status retry)
      (checkStatusByte check message v' status retry) (fun a a' => a = a') := by
  unfold checkStatusByte
  refine Both.ite Iff.rfl (fun _ => rfl) fun _ => ?_
  refine Paired.bind (paired_self ((hcheck _ _).mono fun _ h => h.isMessage.notFile)) ?_
  rintro res _ rfl
  exact Paired.bind paired_prepare fun _ _ _ => rfl

theorem paired_checkStatusWord {v v' : List UInt8} {word : Vector UInt8 4} :
    Paired x f (checkStatusWord v word) (checkStatusWord v' word) (fun a a' => a = a') := by
  unfold checkStatusWord
  refine Paired.bind (paired_checkStatusByte fun _ _ => only_checkStatusError) ?_
  rintro res₁ _ rfl
  refine Paired.bind (paired_checkStatusByte fun _ _ => only_checkStatusError) ?_
  rintro res₂ _ rfl
  refine Paired.bind (paired_checkStatusByte fun _ _ => only_checkStatusError) ?_
  rintro res₃ _ rfl
  rfl

theorem paired_updateAttempts {v v' : List UInt8} {attempts : Nat}
    {retimerNumber notUpdated : UInt8}
    {ret : Int32} :
    Paired x f (updateAttempts b fd v attempts retimerNumber ret notUpdated)
      (updateAttempts b fd v' attempts retimerNumber ret notUpdated) (fun a a' => a = a') := by
  have hmsg : ∀ c, IsGeneric c → NotFile c := fun _ h => h.isMessage.notFile
  induction attempts generalizing retimerNumber notUpdated ret with
  | zero => rfl
  | succ attempts ih =>
      unfold updateAttempts
      refine Paired.bind (paired_self (only_sendI2cCmdWrite hmsg trivial)) ?_
      rintro ret _ rfl
      refine Both.ite Iff.rfl (fun _ => rfl) fun _ => ?_
      refine Paired.bind (paired_self (only_pollStatus hmsg trivial)) ?_
      rintro ⟨ret, word⟩ _ rfl
      refine Both.ite Iff.rfl (fun _ => rfl) fun _ => ?_
      refine Both.ite Iff.rfl (fun _ => rfl) fun _ => ?_
      refine Paired.bind paired_checkStatusWord ?_
      rintro ⟨ret, retry⟩ _ rfl
      refine Paired.bind (paired_self (only_checkExtenedErrorReg.mono fun _ => IsTrying.notFile)) ?_
      rintro extended _ rfl
      exact Both.ite Iff.rfl (fun _ => rfl) fun _ => ih

/-- Operations that only differ in the version and in where the image lies. A
bare image is at the start of its file, the one of a package at the end. -/
structure SameUpdate (x f : List UInt8) (op op' : UpdateOperation) : Prop where
  applyBitmap : op'.applyBitmap = op.applyBitmap
  imageLength : op'.imageLength = op.imageLength
  imageCrc : op'.imageCrc = op.imageCrc
  image : f.drop op'.startOffset = x.drop op.startOffset

theorem paired_performUpdate {op op' : UpdateOperation} {st : LoopState}
    (h : SameUpdate x f op op') :
    Paired x f (performUpdate b fd x op st) (performUpdate b fd f op' st) (fun a a' => a = a') := by
  obtain ⟨hbitmap, hlength, hcrc, himage⟩ := h
  unfold performUpdate
  rw [hbitmap, hlength, hcrc, himage]
  refine Both.ite Iff.rfl (fun _ => rfl) fun _ => ?_
  refine Paired.bind paired_prepare fun _ _ _ => ?_
  refine Paired.bind (paired_self (only_staging.mono fun _ => IsStaging.notFile)) ?_
  rintro ret _ rfl
  refine Both.ite Iff.rfl (fun _ => Paired.bind paired_prepare fun _ _ _ => rfl) fun _ => ?_
  refine Paired.bind paired_updateAttempts ?_
  rintro ⟨ret, notUpdated⟩ _ rfl
  refine Both.ite Iff.rfl (fun _ => ?_) fun _ => ?_
  · refine Paired.bind (P := fun _ _ => True) ?_ fun _ _ _ => rfl
    unfold reportApplyFailed
    rw [hbitmap]
    refine Paired.bind paired_prepare fun _ _ _ => ?_
    refine Both.ite Iff.rfl (fun _ => ?_) fun _ => trivial
    exact Paired.bind paired_prepare fun _ _ _ => paired_prepare
  · refine Paired.bind (P := fun _ _ => True) ?_ fun _ _ _ => rfl
    unfold reportUpdateSuccessful
    rw [hbitmap]
    exact Paired.bind paired_prepare fun _ _ _ => paired_prepare

/-! ## The update command -/

theorem paired_updateOperations {op op' : UpdateOperation} {retimerToUpdate : UInt8}
    (h : SameUpdate x f op op') :
    Paired x f (updateOperations b fd x retimerToUpdate [op])
      (updateOperations b fd f retimerToUpdate [op']) (fun a a' => a = a') := by
  have htargeted : SameUpdate x f (op.targeted retimerToUpdate) (op'.targeted retimerToUpdate) := by
    refine ⟨?_, h.imageLength, h.imageCrc, h.image⟩
    simp only [UpdateOperation.targeted, h.applyBitmap]
  have hfilter : Paired x f (filterTargets retimerToUpdate [op])
      (filterTargets retimerToUpdate [op'])
      (fun ops ops' => ops = [op.targeted retimerToUpdate]
        ∧ ops' = [op'.targeted retimerToUpdate]) := by
    simp only [filterTargets, h.applyBitmap]
    refine Paired.bind paired_prepare fun _ _ _ => ?_
    exact ⟨rfl, by rw [UpdateOperation.targeted, h.applyBitmap]⟩
  unfold updateOperations
  refine Paired.bind hfilter ?_
  rintro _ _ ⟨rfl, rfl⟩
  refine Paired.bind (P := fun st st' => st = st') ?_ ?_
  · simp only [updateLoop]
    refine Paired.bind (paired_self (only_perform.mpr trivial)) fun _ _ _ => ?_
    refine Paired.bind (paired_performUpdate htargeted) ?_
    rintro st _ rfl
    rfl
  · rintro st _ rfl
    rfl

/-- Two files that the parser takes for the same update, or does not get the
memory for. -/
structure SameParse (b : Build) (x f versionStr : List UInt8) : Prop where
  unallocated : ∀ image ∈ [x, f],
    (parseCompositeImage b image image.length versionStr false).ret = allocationFailed.ret
      ∧ (parseCompositeImage b image image.length versionStr false).message
        = allocationFailed.message
  accepted : ∃ op op', SameUpdate x f op op'
    ∧ (parseCompositeImage b x x.length versionStr true).ret = 0
    ∧ (parseCompositeImage b x x.length versionStr true).updateOps = some [op]
    ∧ (parseCompositeImage b f f.length versionStr true).ret = 0
    ∧ (parseCompositeImage b f f.length versionStr true).updateOps = some [op']

theorem paired_updateImage {versionStr : List UInt8} {retimerToUpdate : UInt8}
    (h : SameParse b x f versionStr) :
    Paired x f (updateImage b fd x x.length versionStr retimerToUpdate)
      (updateImage b fd f f.length versionStr retimerToUpdate) (fun a a' => a = a') := by
  unfold updateImage
  refine Paired.bind (paired_self (only_perform.mpr trivial)) ?_
  rintro calloc _ rfl
  cases calloc with
  | false =>
      obtain ⟨hret, hmsg⟩ := h.unallocated x (by simp)
      obtain ⟨hret', hmsg'⟩ := h.unallocated f (by simp)
      have hne : allocationFailed.ret ≠ 0 := by decide
      simp only [hret, hret', hmsg, hmsg', if_pos hne]
      refine paired_self ((only_parseMessage.mono fun _ => IsMessage.notFile).bind fun _ => ?_)
      exact (only_prepareMessageRegistry.mono fun _ => IsMessage.notFile).bind fun _ => trivial
  | true =>
      obtain ⟨op, op', hsame, hret, hops, hret', hops'⟩ := h.accepted
      simp only [hret, hops, hret', hops', parse_message b hops, parse_message b hops', ne_eq,
        not_true_eq_false, if_false]
      exact Paired.bind (paired_self trivial) fun _ _ _ => paired_updateOperations hsame

theorem paired_fileUnavailable {retimerToUpdate : UInt8} {message : String}
    {versionStr : List UInt8} {res : Int32 × Int} :
    Paired x f (fileUnavailable retimerToUpdate message versionStr >>= fun _ => pure res)
      (fileUnavailable retimerToUpdate message versionStr >>= fun _ => pure res)
      (fun a a' => a = a') :=
  paired_self ((only_prepareMessageRegistry.mono fun _ => IsMessage.notFile).bind fun _ => trivial)

theorem paired_updateCommand {args : Arguments} (h : SameParse b x f args.versionStr) :
    Paired x f (updateCommand b fd args) (updateCommand b fd args) (fun a a' => a = a') := by
  have hfstat : ∀ imagefd : Int, Paired x f (Sys.fstat imagefd) (Sys.fstat imagefd)
      (fun size size' => (size = none ∧ size' = none)
        ∨ (size = some x.length ∧ size' = some f.length)) :=
    fun imagefd => both_perform.mpr ⟨rfl, fun _ _ _ _ _ _ halike => halike⟩
  have hmmap : ∀ imagefd : Int, Paired x f (Sys.request (.mmap imagefd x.length))
      (Sys.request (.mmap imagefd f.length)) (fun image image' => (image = none ∧ image' = none)
        ∨ (image.map (·.toList) = some x ∧ image'.map (·.toList) = some f)) :=
    fun imagefd => both_perform.mpr ⟨⟨rfl, rfl, rfl⟩, fun _ _ _ _ _ _ halike => halike⟩
  unfold updateCommand
  refine Paired.bind (paired_self (only_perform.mpr trivial)) ?_
  rintro imagefd _ rfl
  refine Both.ite Iff.rfl (fun _ => paired_fileUnavailable) fun _ => ?_
  refine Paired.bind (hfstat imagefd) ?_
  rintro _ _ (⟨rfl, rfl⟩ | ⟨rfl, rfl⟩)
  · exact paired_fileUnavailable
  · refine Paired.bind (hmmap imagefd) ?_
    rintro _ _ (⟨rfl, rfl⟩ | ⟨himage, himage'⟩)
    · exact paired_fileUnavailable
    · obtain ⟨image, rfl, hx⟩ := Option.map_eq_some_iff.mp himage
      obtain ⟨image', rfl, hf⟩ := Option.map_eq_some_iff.mp himage'
      refine Paired.bind (paired_self (only_perform.mpr trivial)) fun _ _ _ => ?_
      rw [hx, hf]
      refine Paired.bind (paired_updateImage h) ?_
      rintro ret _ rfl
      rfl

theorem paired_main {fuel : Nat} {argv : List (List UInt8)} {args : Arguments}
    (hargs : checkArguments b fuel argv = some (.ok args))
    (hcommand : args.command = retimerFwUpdate)
    (h : SameParse b x f args.versionStr) :
    Paired x f (main b fuel argv) (main b fuel argv) (fun a a' => a = a') := by
  have hclose : ∀ {fd : Int}, Only NotFile (closeUnless fd) :=
    Only.ite (only_perform.mpr trivial) trivial
  unfold main
  rw [hargs]
  refine Paired.bind (paired_self (only_perform.mpr trivial)) ?_
  rintro fd _ rfl
  refine Both.ite Iff.rfl (fun _ => paired_self (hclose.bind fun _ => trivial)) fun _ => ?_
  rw [runCommand, if_pos hcommand, bind_assoc]
  refine Paired.bind (paired_updateCommand h) ?_
  rintro ⟨ret, imagefd⟩ _ rfl
  exact paired_self (hclose.bind fun _ => hclose.bind fun _ => hclose.bind fun _ => trivial)

end Paired

/-! ## The two packages -/

namespace Package

variable {b : Build} {p : Package} {c : Component}

theorem drop_encode (hc : p.components = [c]) : p.encode.drop (componentHeaderAt 1) = c.image := by
  have hlen : (p.header ++ (p.components.map Component.header).flatten).length
      = componentHeaderAt 1 := by
    rw [List.length_append, length_header, length_headers, hc]
    rfl
  rw [encode, ← hlen, List.drop_left, hc]
  simp

/-- The bare file and its package are taken for the same update, and without
memory both are refused. -/
theorem sameParse_encode (hplatform : (p.platformType.toNat : Int) = b.platformType)
    (hc : p.components = [c]) (hbitmap : c.applyBitmap = retimerAll)
    (hbare : ¬IsComposite c.image c.image.length) (versionStr : List UInt8) :
    SameParse b c.image p.encode versionStr := by
  have hsize : p.encode.length < 2 ^ 31 := p.length_encode.trans_lt p.size_lt
  have himage : c.image.length < 2 ^ 31 := by
    have hlt := p.size_lt
    simp only [hc, imagesLength_cons] at hlt
    omega
  have hparsed := p.parsed_encode b hplatform versionStr
  rw [← p.length_encode, hc] at hparsed
  obtain ⟨hret, hops⟩ := parse_of_parsed b himage (.bare hbare)
  obtain ⟨hret', hops'⟩ := parse_of_parsed b hsize hparsed
  have hsame : SameUpdate c.image p.encode
      ⟨0, c.image.length, retimerAll, crcAt c.image 0 c.image.length, versionField versionStr⟩
      (c.operation (componentHeaderAt 1)) := ⟨hbitmap, rfl, rfl, p.drop_encode hc⟩
  refine ⟨fun image himage => parse_unallocated b fun hcomp => ?_,
    _, _, hsame, hret, hops, hret', hops'⟩
  simp only [List.mem_cons, List.not_mem_nil, or_false] at himage
  rcases himage with rfl | rfl
  · exact absurd hcomp hbare
  · rw [length_encode, componentCountOf_encode, hc]
    exact ⟨p.compositeHeaderOk_encode b hplatform, by simp⟩

end Package

theorem asked_transaction {x f : List UInt8} {c c' : Call} (h : AskedAlike x f c c') :
    c' = c ∨ (¬IsTransaction c ∧ ¬IsTransaction c') := by
  cases c with
  | emitLogMessage m =>
      cases c' with
      | emitLogMessage m' => exact Or.inr ⟨id, id⟩
      | _ => cases h
  | mmap fd n =>
      cases c' with
      | mmap fd' n' => exact Or.inr ⟨id, id⟩
      | _ => cases h
  | _ => exact Or.inl h

/-- Runs that go side by side make the same transactions, since `AskedAlike`
lets only messages and the mapping of the file differ. -/
theorem transactions_eq {x f : List UInt8} {tr tr' : List SysEvent}
    (h : List.Forall₂ (fun ev ev' => AskedAlike x f ev.1 ev'.1 ∧ AnsweredFrom x f ev ev') tr tr') :
    transactions tr = transactions tr' := by
  have hskip : ∀ {ev : SysEvent} {tr : List SysEvent}, ¬IsTransaction ev.1 →
      transactions (ev :: tr) = transactions tr := fun hev =>
    List.filter_cons_of_neg (by rw [decide_eq_true_eq]; exact hev)
  induction h with
  | nil => rfl
  | @cons ev ev' tr tr' hev _ ih =>
      obtain ⟨c, a⟩ := ev
      obtain ⟨c', a'⟩ := ev'
      obtain ⟨hasked, hanswered⟩ := hev
      by_cases hc : IsTransaction c
      · have heq : (⟨c', a'⟩ : SysEvent) = ⟨c, a⟩ := by
          cases c with
          | i2cWrite fd slaveId writeData => exact hanswered
          | i2cRead fd slaveId writeData n => exact hanswered
          | _ => exact hc.elim
        rw [heq, transactions, transactions, List.filter_cons, List.filter_cons, ← transactions,
          ← transactions, ih]
      · have hc' : ¬IsTransaction c' := by
          rcases asked_transaction hasked with rfl | ⟨-, hc'⟩
          · exact hc
          · exact hc'
        rw [hskip hc, hskip hc', ih]

/-- **Packaging.** The update command makes the same transactions for a bare
file and for the composite file with the same image for all retimers, and it
returns the same code. The runs are compared request by request: where both ask
for the same, they get the same answer, but for the size and the contents of the
file. -/
theorem main_packaging (b : Build) (fuel : Nat) (argv : List (List UInt8)) (args : Arguments)
    (x : List UInt8) (p : Package) (c : Component) (tr tr' : List SysEvent)
    (ret ret' : Option Int32)
    (hargs : checkArguments b fuel argv = some (.ok args))
    (hcommand : args.command = retimerFwUpdate)
    (hbare : x.length < 40 ∨ x.take 16 ≠ compositeImageHeaderUuid) (himage : c.image = x)
    (hbitmap : c.applyBitmap = 0xFF) (hcomponents : p.components = [c])
    (hplatform : (p.platformType.toNat : Int) = b.platformType)
    (h : Run (main b fuel argv) tr ret) (h' : Run (main b fuel argv) tr' ret')
    (halike : AnsweredAlike (AskedAlike x p.encode) (AnsweredFrom x p.encode) tr tr') :
    transactions tr = transactions tr' ∧ ret = ret' := by
  subst himage
  have hnot : ¬IsComposite c.image c.image.length := by
    rintro ⟨hlen, huuid⟩
    exact hbare.elim (fun hlt => absurd hlen (Nat.not_le.mpr hlt)) fun hne => hne huuid
  have hpaired := paired_main hargs hcommand
    (p.sameParse_encode hplatform hcomponents hbitmap hnot args.versionStr)
  have halike' : AnsweredAlike (AskedAlike c.image p.encode) (AnsweredFrom c.image p.encode)
      (tr ++ []) (tr' ++ []) := by
    rwa [List.append_nil, List.append_nil]
  obtain ⟨hret, hall, -⟩ := both_run hpaired h h' (follows_any tr) (follows_any tr') halike'
  exact ⟨transactions_eq hall, hret⟩

section Small

def smallBundle : Package where
  reserved0 := 0
  platformType := 0
  sku := 0
  reserved2 := List.replicate 8 0
  components := [{
    image := [1, 2, 3]
    applyBitmap := 0xFF
    version := [0x32]
    reserved := List.replicate 8 0
    version_length := by decide
    version_ne_zero := List.forall_mem_singleton.mpr (by decide)
    reserved_length := rfl }]
  reserved2_length := rfl
  components_ne_nil := by decide
  components_le := by decide
  bitmap_le := List.forall_mem_singleton.mpr (by decide)
  disjoint := List.pairwise_singleton _ _
  size_lt := by decide

def smallComponent : Component := smallBundle.components.head smallBundle.components_ne_nil

/-- A machine on which nothing fails, without any other file. -/
def servingReply (file : List UInt8) (_ : Unit) : (c : Call) → Option (Answer c × Unit)
  | .read _ _ => none
  | c => (c.succeed file).map (·, ())

def servedRun (file : List UInt8) : List SysEvent × Sys (Option Int32) × Unit :=
  play (servingReply file) 60 () (main defaultBuild 10 smallArgv)

theorem servingReply_alike {x f : List UInt8} {c c' : Call} {a : Answer c} {a' : Answer c'}
    (h : servingReply x () c = some (a, ())) (h' : servingReply f () c' = some (a', ()))
    (hasked : AskedAlike x f c c') : AnsweredFrom x f ⟨c, a⟩ ⟨c', a'⟩ := by
  cases c with
  | emitLogMessage m =>
      cases c' with
      | emitLogMessage m' => trivial
      | _ => cases hasked
  | mmap fd n =>
      cases c' with
      | mmap fd' n' =>
          obtain ⟨rfl, rfl, rfl⟩ := hasked
          simp only [servingReply, Call.succeed, dif_pos, Option.map_some, Option.some.injEq,
            Prod.mk.injEq, and_true] at h h'
          subst h h'
          exact Or.inr ⟨rfl, rfl⟩
      | _ => cases hasked
  | read fd n => cases h
  | segfault => cases h
  | fstat fd =>
      cases hasked
      cases h
      cases h'
      exact Or.inr ⟨rfl, rfl⟩
  | _ =>
      cases hasked
      cases h
      cases h'
      rfl

theorem servedRun_alike (x f : List UInt8) : AnsweredAlike (AskedAlike x f) (AnsweredFrom x f)
    (servedRun x).1 (servedRun f).1 := by
  have hanswers : ∀ file, ∀ ev ∈ (servedRun file).1, servingReply file () ev.1 = some (ev.2, ()) :=
    fun file => mem_play (fun _ _ _ _ h => h) 60 () _
  exact answeredAlike_of_forall fun ev hev ev' hev' hasked =>
    servingReply_alike (hanswers x ev hev) (hanswers f ev' hev') hasked

theorem run_servedRun : Run (main defaultBuild 10 smallArgv) (servedRun [1, 2, 3]).1 (some 0)
    ∧ Run (main defaultBuild 10 smallArgv) (servedRun smallBundle.encode).1 (some 0) :=
  ⟨run_play rfl, run_play (by decide +kernel)⟩

theorem main_packaging_small :
    transactions (servedRun [1, 2, 3]).1 = transactions (servedRun smallBundle.encode).1
      ∧ some (0 : Int32) = some 0 :=
  main_packaging defaultBuild 10 smallArgv smallArguments [1, 2, 3] smallBundle smallComponent
    (servedRun [1, 2, 3]).1 (servedRun smallBundle.encode).1 (some 0) (some 0) rfl rfl
    (Or.inl (by decide)) rfl rfl rfl rfl run_servedRun.1 run_servedRun.2
    (servedRun_alike [1, 2, 3] smallBundle.encode)

end Small

end Retimer
