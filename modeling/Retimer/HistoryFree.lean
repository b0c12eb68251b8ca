import Retimer.Responses

/-!
# `GetHash` does not depend on what was asked before

A request leaves the same digest whatever requests came before it: its
file is new, what was in the DPRAM and in the registers is overwritten
before anything is read that is looked at, and the context is
initialised. Every way out of a request deletes the file, so the next
one starts the same way.

One request in two histories goes through `side_readFirmware`, which
starts `Together` and ends with the same sight, `side_computeSha384`,
which adds the bytes that the context was given (`SameDigest`), and
`side_hashFirmware`, which compares what is stored (`HashedAlike`).
`HashRun.same` then does it for all the ways out. The directory is made
only once, by whichever request comes first, and so its calls are left
out of the comparison (`outsideDirectory`).

That a request finds no file is the invariant of the service, by the
step `HashRun.absent` over all ways out and the induction
`absent_serveRequests`; a state of the service is `Reachable` if some
sequence of requests leads to it. `HashRun.others` is the frame: no
digest but that of the request's retimer is touched.
-/

namespace Retimer

open Interaction Interaction.Prog

section Request

variable {b : Build} {model : FpgaModel b} {sha384 : List UInt8 → Vector UInt8 48}
    {dummyfd fd : Int}
  {s s' : RequestState} {r fuel : Nat} {behind : UInt8} {digests digests' : Digests}

/-! ## Reading the firmware -/

theorem IsBus.settled {c : Call} (h : IsBus c) : Settled dummyfd c := by
  cases c with
  | i2cWrite fd slaveId writeData => trivial
  | i2cRead fd slaveId writeData n => trivial
  | emitLogMessage m => trivial
  | _ => exact h.elim

theorem side_copyImageFromFpga (h : SameSight b dummyfd s s') :
    Side model sha384 (copyImageFromFpga b dummyfd fd b.fpgaI2cCntrlAddr)
      (copyImageFromFpga b dummyfd fd b.fpgaI2cCntrlAddr)
      (fun ret ret' m m' => ret = ret' ∧ SameSight b dummyfd m m') s s' := by
  have hclose : ∀ ret : Int32, Only (Settled dummyfd) (Sys.close dummyfd >>= fun _ => pure ret) :=
    fun ret => (only_perform.mpr trivial).bind fun _ => trivial
  have hwrite : ∀ buf, Settled dummyfd (.write dummyfd buf) := fun _ => rfl
  unfold copyImageFromFpga
  refine side_request fun size size' m₁ m₁' hm₁ hm₁' hsame => ?_
  obtain rfl : size = size' := h.answer hm₁ hm₁' hsame rfl
  have hsight₁ := h.step hm₁ hm₁' hsame trivial
  cases size with
  | none => exact side_settled (hclose _) hsight₁
  | some size =>
      refine Both.ite Iff.rfl (fun _ => side_settled (hclose _) hsight₁) fun _ => ?_
      refine side_request fun fwBuf fwBuf' m₂ m₂' hm₂ hm₂' hsame => ?_
      have hsight₂ := hsight₁.step hm₂ hm₂' hsame trivial
      rcases both_of_isSome hsame with ⟨rfl, rfl⟩ | ⟨fwBuf, fwBuf', rfl, rfl⟩
      · refine side_request fun crash => ?_
        cases crash
      · -- what `malloc` left in the buffer is not looked at
        refine side_settled ((only_readPages_isBus.mono fun _ => IsBus.settled).bind
          fun res => ?_) hsight₂
        cases res with
        | error ret => trivial
        | ok pages =>
            refine (only_perform.mpr trivial).bind fun _ => ?_
            refine (only_perform.mpr (hwrite _)).bind fun written => ?_
            cases written with
            | none => exact hclose _
            | some n => trivial

/-- Reading the firmware with a new file. -/
theorem side_readFirmware (h : Together dummyfd s s') (hoffset : s.2.1.offset = 0)
    (hpast : ∀ t ∈ s.1.1, StartsNoRead t.1) :
    Side model sha384 (readFirmware b fd dummyfd r) (readFirmware b fd dummyfd r)
      (fun ret ret' m m' => ret = ret' ∧ (ret = 0 → SameSight b dummyfd m m')) s s' := by
  have hfailed : ∀ {m m' : RequestState},
      exitFailure = exitFailure ∧ (exitFailure = 0 → SameSight b dummyfd m m') :=
    ⟨rfl, fun h => absurd h (by decide)⟩
  have hseek : Settled dummyfd (.lseek dummyfd 0) := trivial
  unfold readFirmware
  refine side_request fun truncated truncated' m₁ m₁' hm₁ hm₁' hsame => ?_
  have htogether₁ := h.step hm₁ hm₁' hsame trivial
  obtain rfl : truncated = truncated' := hsame
  refine Both.ite Iff.rfl (fun _ => hfailed) fun htruncated => ?_
  obtain rfl := Bool.of_not_eq_false htruncated
  have hcut : m₁.2.1 = s.2.1.truncate b.maxFwImageSize := hm₁.2.1.1.trans (if_pos h.fd.symm)
  have hstate : m₁.1 = s.1 := hm₁.1
  refine (side_copyImageFromFileToFpga htogether₁ (by rw [hcut]; exact hoffset)
    (by rw [hcut, TempFile.length_truncate]) (hstate ▸ hpast)).bind ?_
  rintro ret _ m₂ m₂' ⟨rfl, hsight₂⟩
  refine Both.ite Iff.rfl (fun _ => hfailed) fun hret => ?_
  have hreading : Only (Settled dummyfd) (readRetimerfw b fd (UInt8.ofNat r)) :=
    (only_readAttempts (fun _ h => h.isBus) (fun _ => trivial) trivial).mono fun _ => IsBus.settled
  refine (side_settled hreading (hsight₂ (not_not.mp hret))).bind ?_
  rintro ret _ m₃ m₃' ⟨rfl, hsight₃⟩
  refine Both.ite Iff.rfl (fun _ => hfailed) fun _ => ?_
  refine (side_settled (only_perform.mpr hseek) hsight₃).bind ?_
  rintro sought _ m₄ m₄' ⟨rfl, hsight₄⟩
  refine Both.ite Iff.rfl (fun _ => hfailed) fun _ => ?_
  refine (side_copyImageFromFpga hsight₄).bind ?_
  rintro ret _ m₅ m₅' ⟨rfl, hsight₅⟩
  refine Both.ite Iff.rfl (fun _ => hfailed) fun _ => ?_
  refine (side_settled (only_perform.mpr hseek) hsight₅).bind ?_
  rintro sought _ m₆ m₆' ⟨rfl, hsight₆⟩
  exact Both.ite Iff.rfl (fun _ => hfailed) fun _ => ⟨rfl, fun _ => hsight₆⟩

/-! ## Hashing it -/

/-- What hashing takes that reads from `dummyfd`. -/
def IsHashingOf (dummyfd : Int) : Call → Prop
  | .read fd _ => fd = dummyfd
  | c => IsDigest c

/-- The same bytes given, the same hash. -/
theorem DigestContext.step_same {given given₁ given₁' : List UInt8} {c : Call} {a a' : Answer c}
    (h : DigestContext.step sha384 given ⟨c, a⟩ given₁)
    (h' : DigestContext.step sha384 given ⟨c, a'⟩ given₁') (hsame : SameAnswer c a a')
    (hdigest : IsDigest c) : a = a' ∧ given₁' = given₁ := by
  cases c with
  | evpDigestInit =>
      obtain rfl : a = a' := hsame
      cases a <;> exact ⟨rfl, h'.trans h.symm⟩
  | evpDigestUpdate block =>
      obtain rfl : a = a' := hsame
      cases a <;> exact ⟨rfl, h'.trans h.symm⟩
  | evpDigestFinal =>
      rcases both_of_isSome hsame with ⟨rfl, rfl⟩ | ⟨hash, hash', rfl, rfl⟩
      · exact ⟨rfl, h'.trans h.symm⟩
      · exact ⟨congrArg some (h.1.trans h'.1.symm), h'.2.trans h.2.symm⟩
  | evpMdCtxNew => exact ⟨hsame, h'.trans h.symm⟩
  | evpMdCtxFree => exact ⟨rfl, h'.trans h.symm⟩
  | _ => exact hdigest.elim

/-- The same in view, and the same bytes given to the digest context since it
was initialised. -/
structure SameDigest (b : Build) (dummyfd : Int) (s s' : RequestState) : Prop extends
    SameSight b dummyfd s s' where
  given : s'.2.2 = s.2.2

theorem SameDigest.step {c : Call} {a a' : Answer c} {m m' : RequestState}
    (h : SameDigest b dummyfd s s') (hm : requestEnv model sha384 s ⟨c, a⟩ m)
    (hm' : requestEnv model sha384 s' ⟨c, a'⟩ m') (hsame : SameAnswer c a a')
    (hc : IsHashingOf dummyfd c) : a = a' ∧ SameDigest b dummyfd m m' := by
  have hdigest : DigestContext.step sha384 s.2.2 ⟨c, a'⟩ m'.2.2 := h.given ▸ hm'.2.2
  cases c with
  | read fd n =>
      have hgiven : m.2.2 = s.2.2 := hm.2.2
      exact ⟨h.answer hm hm' hsame hc, h.toSameSight.step hm hm' hsame trivial,
        Eq.trans hdigest hgiven.symm⟩
  | evpMdCtxNew | evpDigestInit | evpDigestUpdate _ | evpDigestFinal | evpMdCtxFree =>
      obtain ⟨hanswer, hgiven⟩ := DigestContext.step_same hm.2.2 hdigest hsame trivial
      exact ⟨hanswer, h.toSameSight.step hm hm' hsame trivial, hgiven⟩
  | _ => exact hc.elim

theorem side_hashing {α : Type} {p : Sys α} (hp : Only (IsHashingOf dummyfd) p)
    (h : SameDigest b dummyfd s s') : Side model sha384 p p (fun a a' _ _ => a = a') s s' := by
  refine Both.mono (both_self hp (fun _ _ => rfl) (fun s s' c a a' m m' hc hdigest hm hm' halike =>
    hdigest.step hm hm' halike.answer hc) h) ?_
  rintro _ _ _ _ ⟨rfl, -⟩
  rfl

/-- The context is initialised before it is given anything, so what it was given
in an earlier request does not matter. -/
theorem side_computeSha384 (h : SameSight b dummyfd s s') :
    Side model sha384 (computeSha384 fuel dummyfd) (computeSha384 fuel dummyfd)
      (fun res res' _ _ => res = res') s s' := by
  have hfree : Only (IsHashingOf dummyfd) (Sys.request .evpMdCtxFree) := only_perform.mpr trivial
  unfold computeSha384
  refine side_request fun ctx ctx' m₁ m₁' hm₁ hm₁' hsame => ?_
  have hsight₁ := h.step hm₁ hm₁' hsame trivial
  obtain rfl : ctx = ctx' := hsame
  refine Both.ite Iff.rfl (fun _ => rfl) fun _ => ?_
  refine side_request fun init init' m₂ m₂' hm₂ hm₂' hsame => ?_
  have hsight₂ := hsight₁.step hm₂ hm₂' hsame trivial
  obtain rfl : init = init' := hsame
  refine Both.ite Iff.rfl (fun _ => side_request fun _ _ _ _ _ _ _ => rfl) fun hinit => ?_
  obtain rfl := Bool.of_not_eq_false hinit
  have hgiven : m₂.2.2 = [] := hm₂.2.2
  have hgiven' : m₂'.2.2 = [] := hm₂'.2.2
  refine side_hashing ?_ ⟨hsight₂, hgiven'.trans hgiven.symm⟩
  refine (only_hashBlocks (P := IsHashingOf dummyfd) rfl fun _ => trivial).bind fun blocksEnd => ?_
  rcases blocksEnd with _ | blocksEnd
  · trivial
  · cases blocksEnd with
    | updateFailed => exact hfree.bind fun _ => trivial
    | readFailed => trivial
    | endOfFile =>
        refine (only_perform.mpr trivial).bind fun final => ?_
        cases final with
        | none => exact hfree.bind fun _ => trivial
        | some hash => exact hfree.bind fun _ => trivial

/-- What a request makes of the digests, in two histories. -/
inductive HashedAlike (r : Nat) (digests digests' : Digests) :
    Option (Int32 × Digests) → Option (Int32 × Digests) → Prop where
  | running : HashedAlike r digests digests' none none
  | failed {ret : Int32} :
      HashedAlike r digests digests' (some (ret, digests)) (some (ret, digests'))
  | hashed {src : List UInt8} : HashedAlike r digests digests' (some (0, digests.store r src))
      (some (0, digests'.store r src))

theorem side_hashFirmware (h : Together dummyfd s s') (hoffset : s.2.1.offset = 0)
    (hpast : ∀ t ∈ s.1.1, StartsNoRead t.1) :
    Side model sha384 (hashFirmware b fuel behind fd dummyfd r digests)
      (hashFirmware b fuel behind fd dummyfd r digests')
      (fun res res' _ _ => HashedAlike r digests digests' res res') s s' := by
  unfold hashFirmware
  refine (side_readFirmware h hoffset hpast).bind ?_
  rintro ret _ m m' ⟨rfl, hsight⟩
  refine Both.ite Iff.rfl (fun _ => .failed) fun hret => ?_
  refine (side_computeSha384 (hsight (not_not.mp hret))).bind ?_
  rintro res _ _ _ rfl
  rcases res with _ | ret | hash
  · exact .running
  · exact .failed
  · exact .hashed

/-- The digest of the request is the same where it was the same before. -/
theorem HashedAlike.property {ret ret' : Int32} {out out' : Digests}
    (h : HashedAlike r digests digests' (some (ret, out)) (some (ret', out')))
    (hbefore : digests'.property r = digests.property r) : out'.property r = out.property r := by
  cases h with
  | failed => exact hbefore
  | hashed => simp only [Digests.property, Digests.store, ↓reduceIte]

/-! ## The directory -/

/-- The calls by which the directory is found or made. -/
def isDirectoryCall : SysEvent → Bool
  | ⟨.access _, _⟩ | ⟨.mkdir _, _⟩ => true
  | _ => false

/-- A request but for the directory, which is made only once. -/
def outsideDirectory (tr : List SysEvent) : List SysEvent :=
  tr.filter fun ev => !isDirectoryCall ev

def NoDirectory : Call → Prop
  | .access _ | .mkdir _ => False
  | _ => True

section Directory

variable {tr tr' dir : List SysEvent}

theorem outsideDirectory_append :
    outsideDirectory (tr ++ tr') = outsideDirectory tr ++ outsideDirectory tr' :=
  List.filter_append _ _

theorem outsideDirectory_of_only (h : ∀ ev ∈ tr, NoDirectory ev.1) : outsideDirectory tr = tr := by
  refine List.filter_eq_self.mpr fun ev hev => ?_
  have hcall := h ev hev
  obtain ⟨c, a⟩ := ev
  cases c with
  | access path => exact hcall.elim
  | mkdir path => exact hcall.elim
  | _ => rfl

theorem run_hashDirectory {found : Bool} (h : Run hashDirectory dir found) :
    (found = true ∧ dir = [⟨.access "/tmp/hash", true⟩])
      ∨ dir = [⟨.access "/tmp/hash", false⟩, ⟨.mkdir "/tmp/hash", found⟩] := by
  obtain ⟨access, tr₁, rfl, h₁⟩ := run_perform_bind.mp h
  cases access with
  | true =>
      obtain ⟨rfl, rfl⟩ := run_ret.mp h₁
      exact Or.inl ⟨rfl, rfl⟩
  | false =>
      obtain rfl := run_perform.mp h₁
      exact Or.inr rfl

theorem outsideDirectory_hashDirectory {found : Bool} (h : Run hashDirectory dir found) :
    outsideDirectory (dir ++ tr) = outsideDirectory tr := by
  rcases run_hashDirectory h with ⟨-, rfl⟩ | rfl
  · rfl
  · rfl

theorem noDirectory_of {P : Call → Prop} (haccess : ∀ path, ¬P (.access path))
    (hmkdir : ∀ path, ¬P (.mkdir path)) {c : Call} (h : P c) : NoDirectory c := by
  cases c with
  | access path => exact haccess path h
  | mkdir path => exact hmkdir path h
  | _ => trivial

theorem noDirectory_hashFirmware :
    Only NoDirectory (hashFirmware b fuel behind fd dummyfd r digests) := by
  have hloading : ∀ c, IsLoading c → NoDirectory c :=
    fun _ => noDirectory_of (fun _ h => h) fun _ h => h
  have hfetching : ∀ c, IsFetching c → NoDirectory c :=
    fun _ => noDirectory_of (fun _ h => h) fun _ h => h
  have hgeneric : ∀ c, IsGeneric c → NoDirectory c :=
    fun _ => noDirectory_of (fun _ h => h) fun _ h => h
  have hhashing : ∀ c, IsHashing c → NoDirectory c :=
    fun _ => noDirectory_of (fun _ h => h) fun _ h => h
  exact only_readAndHash (only_reading (only_loading.mono hloading)
    (only_readAttempts hgeneric (fun _ => trivial) trivial) (only_fetching.mono hfetching) trivial
    trivial) (hashing_computeSha384.mono hhashing)

end Directory

/-! ## The file after a request -/

section Absent

variable {path : String} {f f' : TempFile} {tr : List SysEvent} {ret : Int32}

theorem TempFile.follows_keeps (h : Follows (TempFile.step path) f tr f')
    (hkeep : ∀ ev ∈ tr, KeepsName ev.1) : f'.named = f.named := by
  refine Follows.invariant (I := fun g => g.named = f.named) ?_ h hkeep rfl
  intro g ev g' hg hev hstep
  exact (TempFile.step_keeps hstep hev).1.trans hg

theorem devicePath_ne {bus : Int} : "/dev/i2c-" ++ toString bus ≠ hashFile := by
  intro h
  have hlist := congrArg (fun path => path.toList.take 2) h
  simp [hashFile, String.toList_append] at hlist

theorem TempFile.step_openDevice (h : TempFile.step hashFile f (openDevice b fd) f') : f' = f :=
  Eq.trans h (if_neg fun hopen => devicePath_ne hopen.1)

/-- Deleting the file. When it succeeds, the next request finds none. -/
theorem TempFile.follows_cleanUp
    (h : Follows (TempFile.step hashFile) f (cleanUp fd dummyfd true) f') :
    f'.named = false := by
  obtain ⟨f₁, h₁, f₂, h₂, f₃, h₃, rfl⟩ := h
  have hdeleted : f₁ = { f with named := false } := Eq.trans h₁ (if_pos rfl)
  have hclosed : f' = f₁ := Eq.trans h₃ h₂
  rw [hclosed, hdeleted]

/-- Every way out of a request leaves no file behind. -/
theorem HashRun.absent (h : HashRun b fuel behind r digests tr ret digests')
    (hfile : Follows (TempFile.step hashFile) f tr f') (habsent : f.named = false)
    (hdeleted : ⟨.unlink hashFile, false⟩ ∉ tr) : f'.named = false := by
  have hdirectory : ∀ {dir : List SysEvent} {found : Bool}, Run hashDirectory dir found →
      ∀ ev ∈ dir, KeepsName ev.1 := fun hdir ev hev =>
        (inner_hashDirectory.run hdir ev hev).keepsName
  have hclose : ∀ {fd : Int} {f f' : TempFile},
      Follows (TempFile.step hashFile) f [⟨.close fd, ()⟩] f' → f' = f := by
    rintro fd f _ ⟨f₁, h₁, rfl⟩
    exact h₁
  cases h with
  | noDevice hfd =>
      obtain ⟨f₁, h₁, h₂⟩ := hfile
      rw [hclose h₂, TempFile.step_openDevice h₁, habsent]
  | noDirectory hfd hdir =>
      obtain ⟨f₁, h₁, hrun⟩ := hfile
      obtain ⟨f₂, h₂, h₃⟩ := follows_append.mp hrun
      rw [hclose h₃, TempFile.follows_keeps h₂ (hdirectory hdir), TempFile.step_openDevice h₁,
        habsent]
  | @noFile fd dummyfd dir rest hfd hdir hdummyfd hrest =>
      obtain ⟨f₁, h₁, hrun⟩ := hfile
      obtain ⟨f₂, h₂, f₃, h₃, h₄⟩ := follows_append.mp hrun
      rcases hrest with rfl | ⟨deleted, rfl⟩
      · have hfailed : f₃ = f₂ := Eq.trans h₃ (if_neg fun hopen => Int.not_le.mpr hdummyfd hopen.2)
        rw [hclose h₄, hfailed, TempFile.follows_keeps h₂ (hdirectory hdir),
          TempFile.step_openDevice h₁, habsent]
      · cases deleted with
        | true => exact TempFile.follows_cleanUp h₄
        | false => exact absurd (by simp [cleanUp]) hdeleted
  | @opened fd dummyfd dir seg ret deleted _ hfd hdir hdummyfd hhash =>
      obtain ⟨f₁, -, hrun⟩ := hfile
      obtain ⟨f₂, -, f₃, -, hopened⟩ := follows_append.mp hrun
      obtain ⟨f₄, -, h₄⟩ := follows_append.mp hopened
      cases deleted with
      | true => exact TempFile.follows_cleanUp h₄
      | false => exact absurd (by simp [cleanUp]) hdeleted

theorem absent_methodComputeHash
    (h : Run (methodComputeHash b fuel behind digests) tr (some (ret, digests')))
    (hfile : Follows (TempFile.step hashFile) f tr f') (habsent : f.named = false)
    (hdeleted : ⟨.unlink hashFile, false⟩ ∉ tr) : f'.named = false := by
  cases requestRun_of_run h with
  | unread | invalid | unreplied =>
      rwa [← TempFile.follows_keeps hfile (by simp [KeepsName])] at habsent
  | served hvalid hread =>
      obtain ⟨f₁, hf₁, f₂, hf₂, hfile₂⟩ := hfile
      obtain rfl : f₁ = f := hf₁
      obtain rfl : f₂ = f₁ := hf₂
      obtain ⟨f₃, hfile₃, f₄, hf₄, rfl⟩ := follows_append.mp hfile₂
      obtain rfl : f' = f₃ := hf₄
      exact (hashRun_of_run hread).absent hfile₃ habsent
        fun hmem => hdeleted (by simp [hmem])

theorem absent_serveRequests {count : Nat}
    (h : Run (serveRequests b fuel behind count digests) tr (some digests'))
    (hfile : Follows (TempFile.step hashFile) f tr f') (habsent : f.named = false)
    (hdeleted : ⟨.unlink hashFile, false⟩ ∉ tr) : f'.named = false := by
  induction count generalizing tr f digests with
  | zero =>
      obtain ⟨rfl, -⟩ := run_ret.mp h
      rwa [follows_nil.mp hfile]
  | succ count ih =>
      obtain ⟨tr₁, res, tr₂, rfl, hrequest, hrest⟩ := run_bind.mp h
      obtain ⟨f₁, hfile₁, hfile₂⟩ := follows_append.mp hfile
      rcases res with _ | ⟨ret, digests''⟩
      · cases (run_ret.mp hrest).2
      · have habsent₁ := absent_methodComputeHash hrequest hfile₁ habsent
          fun hmem => hdeleted (List.mem_append_left _ hmem)
        exact ih hrest hfile₂ habsent₁ fun hmem => hdeleted (List.mem_append_right _ hmem)

end Absent

/-! ## Two requests -/

section Two

variable {m m' : ByteMem} {f f' : TempFile} {given given' : List UInt8} {tr tr' dir rest post
  post' : List SysEvent} {ret ret' : Int32} {out out' : Digests}

/-- Where the file has been opened, it is new, and nothing has been sent to
the FPGA. -/
theorem follows_opened (h : Follows (requestEnv model sha384) (([], m), f, given)
      (openDevice b fd :: (dir ++ ⟨.openFile hashFile .rdwrCreat, dummyfd⟩ :: rest)) s)
    (hdir : Run hashDirectory dir true) (hdummyfd : ¬dummyfd < 0) (habsent : f.named = false) :
    Follows (requestEnv model sha384) (([], m), ⟨true, dummyfd, [], 0⟩, given) rest s := by
  have hkept : ∀ {t t' : RequestState} {path : String} {found : Bool},
      (requestEnv model sha384 t ⟨.access path, found⟩ t'
        ∨ requestEnv model sha384 t ⟨.mkdir path, found⟩ t') → t' = t := by
    rintro t t' path found (⟨hfpga, ⟨hfile, -⟩, hdigest⟩ | ⟨hfpga, ⟨hfile, -⟩, hdigest⟩)
    · exact Prod.ext hfpga (Prod.ext hfile hdigest)
    · exact Prod.ext hfpga (Prod.ext hfile hdigest)
  obtain ⟨s₁, ⟨hfpga, ⟨hfile, -⟩, hdigest⟩, h₁⟩ := h
  obtain rfl : s₁ = (([], m), f, given) :=
    Prod.ext hfpga (Prod.ext (TempFile.step_openDevice hfile) hdigest)
  obtain ⟨s₂, hdirectory, s₃, ⟨hfpga₃, ⟨hfile₃, -⟩, hdigest₃⟩, hrest⟩ := follows_append.mp h₁
  have hsame : s₂ = (([], m), f, given) := by
    rcases run_hashDirectory hdir with ⟨-, rfl⟩ | rfl
    · obtain ⟨s₄, h₄, rfl⟩ := hdirectory
      exact hkept (Or.inl h₄)
    · obtain ⟨s₄, h₄, s₅, h₅, rfl⟩ := hdirectory
      exact (hkept (Or.inr h₅)).trans (hkept (Or.inl h₄))
  subst hsame
  have hopened : s₃.2.1 = ⟨true, dummyfd, [], 0⟩ := by
    refine Eq.trans hfile₃ ((if_pos ⟨rfl, Int.not_lt.mp hdummyfd⟩).trans ?_)
    rw [habsent]
    rfl
  obtain rfl : s₃ = (([], m), ⟨true, dummyfd, [], 0⟩, given) :=
    Prod.ext hfpga₃ (Prod.ext hopened hdigest₃)
  exact hrest

/-- The same outcomes of what is outside the directory. -/
abbrev Alike (tr tr' : List SysEvent) : Prop := AnsweredAlike (· = ·) SameOutcome tr tr'

theorem Alike.openFile {path : String} {flags : OpenFlags} {fd fd' : Int}
    (h : Alike (outsideDirectory (⟨.openFile path flags, fd⟩ :: tr) ++ post)
      (outsideDirectory (⟨.openFile path flags, fd'⟩ :: tr') ++ post')) :
    fd = fd' ∧ Alike (outsideDirectory tr ++ post) (outsideDirectory tr' ++ post') :=
  ⟨(h.1 rfl).answer, h.2⟩

/-- Two requests with the same outcomes leave the same digest. They start with
no file and an FPGA of which only what was loaded is in view, so all that is
left of the history is whether the directory had to be made. -/
theorem HashRun.same (h : HashRun b fuel behind r digests tr ret out)
    (h' : HashRun b fuel behind r digests' tr' ret' out')
    (henv : Follows (requestEnv model sha384) (([], m), f, given) tr s)
    (henv' : Follows (requestEnv model sha384) (([], m'), f', given') tr' s')
    (habsent : f.named = false) (habsent' : f'.named = false)
    (hdirectory : ⟨.mkdir "/tmp/hash", false⟩ ∉ tr)
    (hdirectory' : ⟨.mkdir "/tmp/hash", false⟩ ∉ tr')
    (halike : Alike (outsideDirectory tr ++ post) (outsideDirectory tr' ++ post'))
    (hbefore : digests'.property r = digests.property r) : out'.property r = out.property r := by
  have hmissing : ∀ {dir : List SysEvent}, Run hashDirectory dir false →
      ⟨.mkdir "/tmp/hash", false⟩ ∈ dir := by
    intro dir hdir
    rcases run_hashDirectory hdir with ⟨hfound, -⟩ | rfl
    · cases hfound
    · simp
  cases h with
  | noDirectory hfd hdir => exact absurd (by simp [hmissing hdir]) hdirectory
  | noDevice hfd =>
      cases h' with
      | noDevice hfd' => exact hbefore
      | noDirectory hfd' hdir' => exact absurd (by simp [hmissing hdir']) hdirectory'
      | noFile hfd' hdir' hdummyfd' hrest' => exact absurd (halike.openFile.1 ▸ hfd) hfd'
      | opened hfd' hdir' hdummyfd' hhash' => exact absurd (halike.openFile.1 ▸ hfd) hfd'
  | noFile hfd hdir hdummyfd hrest =>
      cases h' with
      | noDevice hfd' => exact absurd (halike.openFile.1 ▸ hfd') hfd
      | noDirectory hfd' hdir' => exact absurd (by simp [hmissing hdir']) hdirectory'
      | noFile hfd' hdir' hdummyfd' hrest' => exact hbefore
      | opened hfd' hdir' hdummyfd' hhash' =>
          obtain ⟨-, halike₁⟩ := halike.openFile
          rw [outsideDirectory_hashDirectory hdir, outsideDirectory_hashDirectory hdir'] at halike₁
          exact absurd (halike₁.openFile.1 ▸ hdummyfd) hdummyfd'
  | @opened fd dummyfd dir seg ret deleted out hfd hdir hdummyfd hhash =>
      cases h' with
      | noDevice hfd' => exact absurd (halike.openFile.1 ▸ hfd') hfd
      | noDirectory hfd' hdir' => exact absurd (by simp [hmissing hdir']) hdirectory'
      | noFile hfd' hdir' hdummyfd' hrest' =>
          obtain ⟨-, halike₁⟩ := halike.openFile
          rw [outsideDirectory_hashDirectory hdir, outsideDirectory_hashDirectory hdir'] at halike₁
          exact absurd (halike₁.openFile.1 ▸ hdummyfd') hdummyfd
      | @opened fd' dummyfd' dir' seg' ret' deleted' out' hfd' hdir' hdummyfd' hhash' =>
          obtain ⟨rfl, halike₁⟩ := halike.openFile
          rw [outsideDirectory_hashDirectory hdir, outsideDirectory_hashDirectory hdir'] at halike₁
          obtain ⟨rfl, halike₂⟩ := halike₁.openFile
          rw [outsideDirectory_append, outsideDirectory_append, List.append_assoc,
            List.append_assoc, outsideDirectory_of_only (noDirectory_hashFirmware.run hhash),
            outsideDirectory_of_only (noDirectory_hashFirmware.run hhash')] at halike₂
          obtain ⟨s₁, hseg, -⟩ := follows_append.mp (follows_opened henv hdir hdummyfd habsent)
          obtain ⟨s₁', hseg', -⟩ := follows_append.mp (follows_opened henv' hdir' hdummyfd habsent')
          have hside : Side model sha384 (hashFirmware b fuel behind fd dummyfd r digests)
              (hashFirmware b fuel behind fd dummyfd r digests')
              (fun res res' _ _ => HashedAlike r digests digests' res res')
              (([], m), ⟨true, dummyfd, [], 0⟩, given) (([], m'), ⟨true, dummyfd, [], 0⟩, given') :=
            side_hashFirmware ⟨rfl, rfl, rfl⟩ rfl (by simp)
          obtain ⟨hhashed, -, -⟩ := both_run hside hhash hhash' hseg hseg' halike₂
          exact hhashed.property hbefore

/-- A request only sets the digest of its own retimer. -/
theorem HashRun.others (h : HashRun b fuel behind r digests tr ret out) {q : Nat} (hq : q ≠ r) :
    out q = digests q := by
  cases h with
  | noDevice hfd => rfl
  | noDirectory hfd hdir => rfl
  | noFile hfd hdir hdummyfd hrest => rfl
  | opened hfd hdir hdummyfd hhash =>
      obtain ⟨hstored, -⟩ := stored_hashFirmware hhash
      cases hstored with
      | kept hunhashed => rfl
      | hashed hfinal => exact if_neg hq

/-- The digests and the file after any number of requests, from a start without
the file on, in which every deletion of the file succeeded. -/
def Reachable (b : Build) (fuel : Nat) (behind : UInt8) (digests : Digests) (f : TempFile) : Prop :=
  ∃ count tr f₀, Run (serveRequests b fuel behind count initialDigests) tr (some digests)
    ∧ Follows (TempFile.step hashFile) f₀ tr f ∧ f₀.named = false
    ∧ ⟨.unlink hashFile, false⟩ ∉ tr

theorem Reachable.absent (h : Reachable b fuel behind digests f) : f.named = false := by
  obtain ⟨count, tr, f₀, hrun, hfile, habsent, hdeleted⟩ := h
  exact absent_serveRequests hrun hfile habsent hdeleted

/-- A request for the digest of `retimerId` whose reply is sent, with `tr`
behind the reply: the directory is there or is made, the file is deleted, and
its surroundings are those of a request, with any memory behind the FPGA. -/
structure Served {b : Build} (model : FpgaModel b) (sha384 : List UInt8 → Vector UInt8 48)
    (fuel : Nat) (behind : UInt8) (retimerId : UInt32) (digests : Digests) (f : TempFile)
    (tr : List SysEvent) (digests' : Digests) (f' : TempFile) : Prop where
  run : ∃ ret, Run (methodComputeHash b fuel behind digests)
    (⟨.sdBusMessageRead, some retimerId⟩ :: ⟨.sdBusReplyMethodReturn, true⟩ :: tr)
    (some (ret, digests'))
  env : ∃ m given t given', Follows (requestEnv model sha384) (([], m), f, given) tr (t, f', given')
  directory : ⟨.mkdir "/tmp/hash", false⟩ ∉ tr
  deleted : ⟨.unlink hashFile, false⟩ ∉ tr

/-- What is behind the reply. -/
theorem hashRun_of_served {retimerId : UInt32}
    (h : Run (methodComputeHash b fuel behind digests)
      (⟨.sdBusMessageRead, some retimerId⟩ :: ⟨.sdBusReplyMethodReturn, true⟩ :: tr)
      (some (ret, digests'))) :
    ∃ seg, tr = seg ++ [⟨.sdBusEmitPropertiesChanged retimerId.toNat, ()⟩]
      ∧ HashRun b fuel behind retimerId.toNat
        (digests.store retimerId.toNat []) seg ret digests' := by
  generalize htr : ⟨.sdBusMessageRead, some retimerId⟩ :: ⟨.sdBusReplyMethodReturn, true⟩ :: tr
    = tr' at h
  cases requestRun_of_run h with
  | unread | invalid | unreplied => cases htr
  | @served _ seg _ _ hvalid hread =>
      cases htr
      exact ⟨seg, rfl, hashRun_of_run hread⟩

theorem absent_of_served {seg : List SysEvent} {t : FpgaState} {g : TempFile} {c : Nat}
    (henv : Follows (requestEnv model sha384) (([], m), f, given)
      (seg ++ [⟨.sdBusEmitPropertiesChanged c, ()⟩]) (t, g, given'))
    (hhash : HashRun b fuel behind r digests seg ret out) (habsent : f.named = false)
    (hdeleted : ⟨.unlink hashFile, false⟩ ∉ seg ++ [⟨.sdBusEmitPropertiesChanged c, ()⟩]) :
    g.named = false := by
  obtain ⟨s₁, hseg, s₂, ⟨-, ⟨hfile, -⟩, -⟩, heq⟩ := follows_append.mp henv
  have hsegFile : Follows (TempFile.step hashFile) f seg s₁.2.1 :=
    hseg.right.left.map fun _ _ _ h => h.1
  have hgone := hhash.absent hsegFile habsent fun hmem => hdeleted (List.mem_append_left _ hmem)
  have hkept : s₂.2.1 = s₁.2.1 := hfile
  obtain rfl : g = s₂.2.1 := congrArg (fun s : RequestState => s.2.1) heq
  rw [hkept, hgone]

end Two

end Request

/-- **History-free.** Served in any two histories, by an FPGA that answers by
what is in view and by the request itself, a request with the same outcomes
leaves the same digest of its retimer and no other changed, and the file is gone
again. One for a retimer that there is not changes nothing. The histories may be
of any length, and what is in the DPRAM before is not compared. -/
theorem getHash_history_free (b : Build) (model : FpgaModel b)
    (sha384 : List UInt8 → Vector UInt8 48) (fuel : Nat) (behind : UInt8) (retimerId : UInt32) :
    (∀ (digests digests' out out' : Digests) (f f' g g' : TempFile) (tr tr' : List SysEvent),
      Reachable b fuel behind digests f → Reachable b fuel behind digests' f' →
      Served model sha384 fuel behind retimerId digests f tr out g →
      Served model sha384 fuel behind retimerId digests' f' tr' out' g' →
      AnsweredAlike (· = ·) SameOutcome (outsideDirectory tr) (outsideDirectory tr') →
      out.property retimerId.toNat = out'.property retimerId.toNat
        ∧ (∀ q ≠ retimerId.toNat, out q = digests q ∧ out' q = digests' q)
        ∧ g.named = false ∧ g'.named = false)
      ∧ ∀ (digests out : Digests) (tr : List SysEvent) (ret : Int32),
        maxRetimers ≤ retimerId.toNat →
        Run (methodComputeHash b fuel behind digests) (⟨.sdBusMessageRead, some retimerId⟩ :: tr)
          (some (ret, out)) → out = digests := by
  constructor
  · intro digests digests' out out' f f' g g' tr tr' hreach hreach' hserved hserved' halike
    obtain ⟨⟨ret, hrun⟩, ⟨m, given, t, given₁, henv⟩, hdir, hdeleted⟩ := hserved
    obtain ⟨⟨ret', hrun'⟩, ⟨m', given', t', given₁', henv'⟩, hdir', hdeleted'⟩ := hserved'
    obtain ⟨seg, rfl, hhash⟩ := hashRun_of_served hrun
    obtain ⟨seg', rfl, hhash'⟩ := hashRun_of_served hrun'
    have hgone := absent_of_served henv hhash hreach.absent hdeleted
    have hgone' := absent_of_served henv' hhash' hreach'.absent hdeleted'
    obtain ⟨s₁, hseg, -⟩ := follows_append.mp henv
    obtain ⟨s₁', hseg', -⟩ := follows_append.mp henv'
    have hcleared : (digests'.store retimerId.toNat []).property retimerId.toNat
        = (digests.store retimerId.toNat []).property retimerId.toNat :=
      property_store_nil.trans property_store_nil.symm
    rw [outsideDirectory_append, outsideDirectory_append] at halike
    have hsame := hhash.same hhash' hseg hseg' hreach.absent hreach'.absent
      (fun hmem => hdir (List.mem_append_left _ hmem))
      (fun hmem => hdir' (List.mem_append_left _ hmem)) halike hcleared
    refine ⟨hsame.symm, fun q hq => ⟨?_, ?_⟩, hgone, hgone'⟩
    · exact (hhash.others hq).trans (if_neg hq)
    · exact (hhash'.others hq).trans (if_neg hq)
  · intro digests out tr ret hinvalid hrun
    obtain ⟨answer, tr₁, heq, h₁⟩ := run_perform_bind.mp hrun
    cases heq
    dsimp only at h₁
    rw [if_pos hinvalid] at h₁
    obtain ⟨reply, tr₂, rfl, h₂⟩ := run_perform_bind.mp h₁
    cases (run_ret.mp h₂).2
    rfl

/-! ## A request to begin with, and the same once more -/

section Small

variable {b : Build} {m m' : ByteMem}

theorem SameView.store (h : SameView b m m') (a : Nat) (bs : List UInt8) :
    SameView b (m.store a bs) (m'.store a bs) := by
  intro x hx
  simp only [ByteMem.store, h x hx]

/-- A write does what it says, and a trigger puts firmware into the DPRAM. -/
def smallEffect (b : Build) (m : ByteMem) : Call → Bool → ByteMem
  | .i2cWrite _ slaveId writeData, true =>
      if slaveId = b.fpgaI2cCntrlAddr then
        if addressOf writeData = fpgaReadStatusReg.toNat then m.store 0 smallFirmware
        else m.store (addressOf writeData) (payloadOf writeData)
      else m
  | _, _ => m

/-- Pages are read from the DPRAM, and every register is 0. -/
def smallReply (b : Build) (m : ByteMem) (writeData : List UInt8) (n : Nat) : Vector UInt8 n :=
  if addressOf writeData + n ≤ b.maxFwImageSize then
    ⟨(m.load (addressOf writeData) n).toArray, ByteMem.length_load⟩
  else Vector.replicate n 0

theorem smallReply_congr {writeData : List UInt8} {n : Nat} (h : SameView b m m') :
    smallReply b m' writeData n = smallReply b m writeData n := by
  unfold smallReply
  split
  · next hin =>
      have hload := ByteMem.load_congr fun x _ hx => h x (Or.inl (Nat.lt_of_lt_of_le hx hin))
      simp only [hload]
  · rfl

theorem smallEffect_congr {c : Call} {completed : Bool} (h : SameView b m m') :
    SameView b (smallEffect b m c completed) (smallEffect b m' c completed) := by
  unfold smallEffect
  split
  · split
    · split
      · exact h.store _ _
      · exact h.store _ _
    · exact h
  · exact h

theorem step_smallEffect {fd : Int} {slaveId : UInt8} {writeData : List UInt8}
    {answer : I2cResult 0} (hwrite : StartsNoRead (.i2cWrite fd slaveId writeData)) :
    Fpga.step b m ⟨.i2cWrite fd slaveId writeData, answer⟩
      (smallEffect b m (.i2cWrite fd slaveId writeData) answer.completed) := by
  have hkeep : ∀ m : ByteMem, KeepsStaging m m := fun _ _ _ => rfl
  simp only [Fpga.step]
  cases answer with
  | ok readData =>
      simp only [I2cResult.completed, smallEffect]
      split
      · rw [if_neg hwrite]
        exact hkeep _
      · exact hkeep _
  | failed errno =>
      split
      · exact .refl
      · exact hkeep _

def smallModel (b : Build) : FpgaModel b where
  reply _ m _ writeData n := smallReply b m writeData n
  effect _ m c completed := smallEffect b m c completed
  reply_congr h := smallReply_congr h
  effect_congr h := smallEffect_congr h
  effect_write _ hwrite := step_smallEffect hwrite
  effect_read _ := fun _ _ => rfl

/-- The surroundings of a request in which nothing fails. -/
def requestReply {b : Build} (model : FpgaModel b) (s : RequestState) :
    (c : Call) → Option (Answer c × RequestState)
  | .i2cWrite fd slaveId writeData =>
      some (.ok (Vector.replicate 0 0), model.after s.1 (.i2cWrite fd slaveId writeData) true, s.2)
  | .i2cRead fd slaveId writeData n =>
      some (.ok (model.reply s.1.1 s.1.2 slaveId writeData n),
        model.after s.1 (.i2cRead fd slaveId writeData n) true, s.2)
  | c => (serviceReply b false (smallService.1, s.2) c).map fun res => (res.1, s.1, res.2.2)

/-- What is not a transaction is answered as by the service of a single request. -/
theorem requestReply_serviced {model : FpgaModel b} {s s' : RequestState} {c : Call} {a : Answer c}
    (hc : ¬IsTransaction c) (h : requestReply model s c = some (a, s')) :
    ∃ engine, serviceReply b false (smallService.1, s.2) c = some (a, engine, s'.2)
      ∧ s'.1 = s.1 := by
  have hmap : ∀ {o : Option (Answer c × ReadEngine × TempFile × List UInt8)},
      o.map (fun res => (res.1, s.1, res.2.2)) = some (a, s') →
        ∃ engine, o = some (a, engine, s'.2) ∧ s'.1 = s.1 := by
    intro o ho
    obtain ⟨⟨a', engine, rest⟩, rfl, heq⟩ := Option.map_eq_some_iff.mp ho
    cases heq
    exact ⟨engine, rfl, rfl⟩
  cases c with
  | i2cWrite fd slaveId writeData => exact absurd trivial hc
  | i2cRead fd slaveId writeData n => exact absurd trivial hc
  | _ => exact hmap h

theorem requestReply_sound {model : FpgaModel b} (hmax : b.maxFwImageSize = smallFirmware.length)
    {s s' : RequestState} {c : Call} {a : Answer c} (h : requestReply model s c = some (a, s')) :
    requestEnv model smallSha384 s ⟨c, a⟩ s' := by
  obtain ⟨fpga, served⟩ := s'
  cases c with
  | i2cWrite fd slaveId writeData =>
      cases h
      exact ⟨rfl, ⟨rfl, trivial⟩, rfl⟩
  | i2cRead fd slaveId writeData n =>
      cases h
      exact ⟨⟨fun readData heq => (I2cResult.ok.inj heq).symm, rfl⟩, ⟨rfl, trivial⟩, rfl⟩
  | read fd n =>
      obtain ⟨engine, hres, hmodel⟩ := requestReply_serviced id h
      obtain ⟨-, hfile, hdigest⟩ := serviceReply_sound hmax hres
      refine ⟨hmodel, ⟨hfile, ?_⟩, hdigest⟩
      simp only [serviceReply] at hres
      split at hres
      · cases hres
        intro _
        simp [slice]
      · cases hres
  | write fd buf =>
      obtain ⟨engine, hres, hmodel⟩ := requestReply_serviced id h
      obtain ⟨-, hfile, hdigest⟩ := serviceReply_sound hmax hres
      refine ⟨hmodel, ⟨hfile, ?_⟩, hdigest⟩
      cases hres
      exact fun _ => rfl
  | _ =>
      obtain ⟨engine, hres, hmodel⟩ := requestReply_serviced id h
      obtain ⟨-, hfile, hdigest⟩ := serviceReply_sound hmax hres
      exact ⟨hmodel, ⟨hfile, trivial⟩, hdigest⟩

/-- Nothing fails, in whatever state. -/
theorem requestReply_same {model : FpgaModel b} {s s' t t' : RequestState} {c : Call}
    {a a' : Answer c} (h : requestReply model s c = some (a, t))
    (h' : requestReply model s' c = some (a', t')) : SameAnswer c a a' := by
  have hread : ∀ {s : RequestState} {fd : Int} {n : Nat} {a : Answer (.read fd n)}
      {t : RequestState},
      requestReply model s (.read fd n) = some (a, t) → a.isSome = true := by
    rintro s fd n a ⟨fpga, served⟩ h
    obtain ⟨engine, hres, -⟩ := requestReply_serviced id h
    simp only [serviceReply] at hres
    split at hres
    · cases hres
      rfl
    · cases hres
  cases c with
  | read fd n => exact (hread h).trans (hread h').symm
  | _ => first | (cases h; cases h'; rfl) | cases h

def requestBegun (s : RequestState) (digests : Digests) :
    List SysEvent × Sys (Option (Int32 × Digests)) × RequestState :=
  play (requestReply (smallModel smallestBuild)) 2 s (methodComputeHash smallestBuild 5 0 digests)

def requestServed (s : RequestState) (digests : Digests) :
    List SysEvent × Sys (Option (Int32 × Digests)) × RequestState :=
  play (requestReply (smallModel smallestBuild)) 60 s (requestBegun s digests).2.1

def servedDigests (s : RequestState) (digests : Digests) : Digests :=
  (((requestServed s digests).2.1.result.getD none).getD (0, initialDigests)).2

theorem mem_requestServed {s : RequestState} {digests : Digests} :
    ∀ ev ∈ (requestServed s digests).1,
      ∃ t t', requestReply (smallModel smallestBuild) t ev.1 = some (ev.2, t') :=
  mem_play (fun t _ _ t' h => ⟨t, t', h⟩) 60 s _

theorem alike_requestServed {s s' : RequestState} {digests digests' : Digests} :
    Alike (outsideDirectory (requestServed s digests).1)
      (outsideDirectory (requestServed s' digests').1) := by
  refine answeredAlike_of_forall ?_
  rintro ⟨c, a⟩ hev ⟨_, a'⟩ hev' rfl
  obtain ⟨t, t₁, h⟩ := mem_requestServed _ (List.mem_of_mem_filter hev)
  obtain ⟨t', t₁', h'⟩ := mem_requestServed _ (List.mem_of_mem_filter hev')
  exact .same (requestReply_same h h')

/-- A request in two parts, in which nothing fails. -/
theorem served_of_parts {digests : Digests} {f : TempFile} {given : List UInt8}
    {tr₁ tr₂ : List SysEvent} {q : Sys (Option (Int32 × Digests))} {res : Int32 × Digests}
    {s' : RequestState} (hbegun : Trace (methodComputeHash smallestBuild 5 0 digests) tr₁ q)
    (htr₁ : tr₁ = [⟨.sdBusMessageRead, some 0⟩, ⟨.sdBusReplyMethodReturn, true⟩])
    (hrest : Run q tr₂ (some res))
    (henv : Follows (requestEnv (smallModel smallestBuild) smallSha384) (([], m), f, given) tr₂ s')
    (hreplied : ∀ ev ∈ tr₂,
      ∃ t t', requestReply (smallModel smallestBuild) t ev.1 = some (ev.2, t')) :
    Served (smallModel smallestBuild) smallSha384 5 0 0 digests f tr₂ res.2 s'.2.1 := by
  subst htr₁
  refine ⟨⟨res.1, trace_append.mpr ⟨q, hbegun, hrest⟩⟩, ⟨m, given, s'.1, s'.2.2, henv⟩, ?_, ?_⟩
  · intro hmem
    obtain ⟨t, t', h⟩ := hreplied _ hmem
    cases h
  · intro hmem
    obtain ⟨t, t', h⟩ := hreplied _ hmem
    cases h

theorem served_requestServed (s : RequestState) (digests : Digests) (hs : s.1.1 = [])
    (hdone : ((requestServed s digests).2.1.result.getD none).isSome = true) :
    Served (smallModel smallestBuild) smallSha384 5 0 0 digests s.2.1 (requestServed s digests).1
      (servedDigests s digests) (requestServed s digests).2.2.2.1 := by
  obtain ⟨⟨past, m⟩, f, given⟩ := s
  obtain rfl : past = [] := hs
  exact served_of_parts (trace_play _ 2 (([], m), f, given) _) rfl (run_play_some hdone)
    (follows_play (fun _ _ _ _ => requestReply_sound List.length_replicate.symm) 60
      (([], m), f, given) _) mem_requestServed

theorem reachable_smallRequest : Reachable smallestBuild 5 0 (smallDigests false)
    (smallRequest false).2.2.2.1 := by
  have hreplied : ∀ ev ∈ (smallRequest false).1,
      ∃ t t', serviceReply smallestBuild false t ev.1 = some (ev.2, t') :=
    mem_play (fun t _ _ t' h => ⟨t, t', h⟩) 60 smallService _
  refine ⟨1, (smallRequest false).1, smallService.2.1, run_smallRequest false,
    (follows_smallRequest false).right.left, rfl, fun hmem => ?_⟩
  obtain ⟨t, t', h⟩ := hreplied _ hmem
  cases h

def newService : RequestState := (([], fun _ => 0), ⟨false, -1, [], 0⟩, [])

def usedService : RequestState :=
  (([], fun _ => 1), (smallRequest false).2.2.2.1, (smallRequest false).2.2.2.2)

example : (servedDigests newService initialDigests).property 0 = hexText firmwareHash := by
  decide +kernel

theorem reachable_newService : Reachable smallestBuild 5 0 initialDigests newService.2.1 :=
  ⟨0, [], newService.2.1, run_ret.mpr ⟨rfl, rfl⟩, rfl, rfl, List.not_mem_nil⟩

theorem usedService_file : usedService.2.1 = (smallRequest false).2.2.2.1 := by
  simp only [usedService]

theorem reachable_usedService :
    Reachable smallestBuild 5 0 (smallDigests false) usedService.2.1 := by
  rw [usedService_file]
  exact reachable_smallRequest

/-- A request for retimer 8. -/
theorem run_invalidRequest : Run (methodComputeHash smallestBuild 5 0 initialDigests)
    [⟨.sdBusMessageRead, some 8⟩, ⟨.sdBusReplyInvalidArgument, -22⟩]
    (some (-22, initialDigests)) :=
  .cons (.cons .nil)

theorem getHash_history_free_small :
    ((servedDigests newService initialDigests).property 0
        = (servedDigests usedService (smallDigests false)).property 0
      ∧ (∀ q ≠ 0, servedDigests newService initialDigests q = initialDigests q
        ∧ servedDigests usedService (smallDigests false) q = smallDigests false q)
      ∧ (requestServed newService initialDigests).2.2.2.1.named = false
      ∧ (requestServed usedService (smallDigests false)).2.2.2.1.named = false)
    ∧ initialDigests = initialDigests := by
  have hnew : ((requestServed newService initialDigests).2.1.result.getD none).isSome = true := by
    decide +kernel
  have hused : ((requestServed usedService (smallDigests false)).2.1.result.getD none).isSome
      = true := by
    decide +kernel
  exact ⟨(getHash_history_free smallestBuild (smallModel smallestBuild) smallSha384 5 0 0).1
      initialDigests (smallDigests false) (servedDigests newService initialDigests)
      (servedDigests usedService (smallDigests false)) newService.2.1 usedService.2.1
      (requestServed newService initialDigests).2.2.2.1
      (requestServed usedService (smallDigests false)).2.2.2.1
      (requestServed newService initialDigests).1 (requestServed usedService (smallDigests false)).1
      reachable_newService reachable_usedService
      (served_requestServed newService initialDigests rfl hnew)
      (served_requestServed usedService (smallDigests false) rfl hused) alike_requestServed,
    (getHash_history_free smallestBuild (smallModel smallestBuild) smallSha384 5 0 8).2
      initialDigests initialDigests _ _ (by decide) run_invalidRequest⟩

end Small

end Retimer
