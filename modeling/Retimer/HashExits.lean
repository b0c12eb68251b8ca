import Retimer.PublishedHash

/-!
# The exits of a hash request

Every way out of `readFWImagenComputeHash`: what it leaves in the
digests, in the directory and in its return code. The digest is stored
before the file is deleted, and a file that cannot be deleted makes a
failure of the whole: it is then announced as one, with the digest in
its place.

A hash that was finalised is stored, and behind that nothing can fail
but the deletion (`stored_hashFirmware`, `Stored`); one that was not
leaves the digest cleared. Which of the two a run is can be seen in its
events: everything done with the file open but finalising is `IsInner`,
and a part that makes inner requests only is `Unhashed`. Likewise the
name of the file stays until the end (`KeepsName`), so a deletion that
failed is the one of the exit.

`HashRun.failed_iff` goes through the ways out with these two facts.
`announced_methodComputeHash` cuts a request with a reply into the
clearing and the rest, and `methodComputeHash_failed_iff` is the result:
`HashedUndeleted` is the only failure that leaves a digest.
-/

namespace Retimer

open Interaction Interaction.Prog

/-- What is done with the file open, but for finalising the hash. -/
def IsInner : Call → Prop
  | .openFile _ _ | .unlink _ | .evpDigestFinal => False
  | _ => True

section Inner

variable {b : Build} {fd dummyfd : Int} {fuel r : Nat} {behind : UInt8} {digests digests' : Digests}
  {tr : List SysEvent} {ret ret' : Int32}

theorem IsLoading.isInner {c : Call} (h : IsLoading c) : IsInner c := by
  cases c with
  | openFile p flags => exact h.elim
  | unlink p => exact h.elim
  | evpDigestFinal => exact h.elim
  | _ => trivial

theorem IsFetching.isInner {c : Call} (h : IsFetching c) : IsInner c := by
  cases c with
  | openFile p flags => exact h.elim
  | unlink p => exact h.elim
  | evpDigestFinal => exact h.elim
  | _ => trivial

theorem IsMessage.isInner {c : Call} (h : IsMessage c) : IsInner c := by
  cases c with
  | emitLogMessage m => trivial
  | _ => exact h.elim

theorem inner_readFirmware : Only IsInner (readFirmware b fd dummyfd r) :=
  only_reading (only_loading.mono fun _ => IsLoading.isInner)
    (only_readAttempts (fun _ h => h.isMessage.isInner) (fun _ => trivial) trivial)
    (only_fetching.mono fun _ => IsFetching.isInner) trivial trivial

/-! ## Where the hash is finalised -/

def Unhashed (tr : List SysEvent) : Prop := ∀ hash, ⟨.evpDigestFinal, some hash⟩ ∉ tr

theorem Unhashed.of_inner (h : ∀ ev ∈ tr, IsInner ev.1) : Unhashed tr := fun _ hmem => h _ hmem

theorem Unhashed.nil : Unhashed [] := fun _ => List.not_mem_nil

theorem Unhashed.append {tr' : List SysEvent} (h : Unhashed tr) (h' : Unhashed tr') :
    Unhashed (tr ++ tr') := fun hash hmem => (List.mem_append.mp hmem).elim (h hash) (h' hash)

theorem Unhashed.cons {c : Call} {a : Answer c} (hev : IsInner c) (h : Unhashed tr) :
    Unhashed (⟨c, a⟩ :: tr) := by
  have hone : Unhashed [⟨c, a⟩] := .of_inner fun ev hmem => List.mem_singleton.mp hmem ▸ hev
  exact hone.append h

theorem Unhashed.openFile {path : String} {flags : OpenFlags} {fd : Int} (h : Unhashed tr) :
    Unhashed (⟨.openFile path flags, fd⟩ :: tr) := by
  intro hash hmem
  rcases List.mem_cons.mp hmem with heq | htr
  · cases heq
  · exact h hash htr

/-- The hash that is returned is the one that was finalised. -/
theorem final_computeSha384 {res : Except Int32 (Vector UInt8 48)}
    (h : Run (computeSha384 fuel dummyfd) tr (some res)) :
    (∃ code, res = .error code ∧ Unhashed tr)
      ∨ ∃ hash, res = .ok hash ∧ ⟨.evpDigestFinal, some hash⟩ ∈ tr := by
  obtain ⟨ctx, tr₁, rfl, h₁⟩ := run_perform_bind.mp h
  split at h₁
  · obtain ⟨rfl, heq⟩ := run_ret.mp h₁
    cases heq
    exact Or.inl ⟨_, rfl, .cons trivial .nil⟩
  · obtain ⟨init, tr₂, rfl, h₂⟩ := run_perform_bind.mp h₁
    split at h₂
    · obtain ⟨_, tr₃, rfl, h₃⟩ := run_perform_bind.mp h₂
      obtain ⟨rfl, heq⟩ := run_ret.mp h₃
      cases heq
      exact Or.inl ⟨_, rfl, .cons trivial (.cons trivial (.cons trivial .nil))⟩
    · obtain ⟨tr₃, blocksEnd, tr₄, rfl, hblocks, h₃⟩ := run_bind.mp h₂
      have hinner : Only IsInner (hashBlocks dummyfd fuel) := only_hashBlocks trivial
        fun _ => trivial
      have hread : Unhashed tr₃ := Unhashed.of_inner (hinner.run hblocks)
      rcases blocksEnd with _ | blocksEnd
      · cases (run_ret.mp h₃).2
      · cases blocksEnd with
        | updateFailed =>
            obtain ⟨_, tr₅, rfl, h₄⟩ := run_perform_bind.mp h₃
            obtain ⟨rfl, heq⟩ := run_ret.mp h₄
            cases heq
            exact Or.inl ⟨_, rfl, .cons trivial (.cons trivial (hread.append (.cons trivial .nil)))⟩
        | readFailed =>
            obtain ⟨rfl, heq⟩ := run_ret.mp h₃
            cases heq
            exact Or.inl ⟨_, rfl, .cons trivial (.cons trivial (hread.append .nil))⟩
        | endOfFile =>
            obtain ⟨final, tr₅, rfl, h₄⟩ := run_perform_bind.mp h₃
            rcases final with _ | hash
            · obtain ⟨_, tr₆, rfl, h₅⟩ := run_perform_bind.mp h₄
              obtain ⟨rfl, heq⟩ := run_ret.mp h₅
              cases heq
              have hfailed : Unhashed [⟨.evpDigestFinal, none⟩, ⟨.evpMdCtxFree, ()⟩] := by
                intro hash hmem
                simp at hmem
              exact Or.inl ⟨_, rfl, .cons trivial (.cons trivial (hread.append hfailed))⟩
            · obtain ⟨_, tr₆, rfl, h₅⟩ := run_perform_bind.mp h₄
              obtain ⟨rfl, heq⟩ := run_ret.mp h₅
              cases heq
              exact Or.inr ⟨hash, rfl, by simp⟩

/-- What a request does to the digests until the file is deleted: the digest of
the finalised hash is in its place, or no hash was finalised and they are as
they were. -/
inductive Stored (r : Nat) (digests : Digests) (tr : List SysEvent) : Digests → Prop where
  | kept (hunhashed : Unhashed tr) : Stored r digests tr digests
  | hashed {hash : Vector UInt8 48} (hfinal : ⟨.evpDigestFinal, some hash⟩ ∈ tr) :
      Stored r digests tr (digests.store r (hexText hash ++ [0]))

/-- A hash that was finalised is stored, and then nothing has failed. Only the
deletion of the file comes behind it. -/
theorem stored_hashFirmware
    (h : Run (hashFirmware b fuel behind fd dummyfd r digests) tr (some (ret, digests'))) :
    Stored r digests tr digests' ∧ (ret = 0 ∨ Unhashed tr) := by
  obtain ⟨tr₁, ret₁, tr₂, rfl, hread, h₁⟩ := run_bind.mp h
  have hinner : Unhashed tr₁ := Unhashed.of_inner (inner_readFirmware.run hread)
  split at h₁
  · obtain ⟨rfl, heq⟩ := run_ret.mp h₁
    cases heq
    rw [List.append_nil]
    exact ⟨.kept hinner, Or.inr hinner⟩
  · obtain ⟨tr₃, res, tr₄, rfl, hhash, h₂⟩ := run_bind.mp h₁
    rcases res with _ | res
    · cases (run_ret.mp h₂).2
    · rcases final_computeSha384 hhash with ⟨code, rfl, hunhashed⟩ | ⟨hash, rfl, hfinal⟩
      · obtain ⟨rfl, heq⟩ := run_ret.mp h₂
        cases heq
        rw [List.append_nil]
        exact ⟨.kept (hinner.append hunhashed), Or.inr (hinner.append hunhashed)⟩
      · obtain ⟨rfl, heq⟩ := run_ret.mp h₂
        cases heq
        rw [List.append_nil, encodeHash_initial]
        exact ⟨.hashed (List.mem_append_right _ hfinal), Or.inl rfl⟩

/-! ## The exits -/

theorem inner_hashDirectory : Only IsInner hashDirectory :=
  (only_perform.mpr trivial).bind fun _ => Only.ite trivial (only_perform.mpr trivial)

def KeepsName : Call → Prop
  | .openFile _ _ | .unlink _ => False
  | _ => True

theorem IsInner.keepsName {c : Call} (h : IsInner c) : KeepsName c := by
  cases c with
  | openFile p flags => exact h
  | unlink p => exact h
  | _ => trivial

theorem IsHashing.keepsName {c : Call} (h : IsHashing c) : KeepsName c := by
  cases c with
  | openFile p flags => exact h
  | unlink p => exact h
  | _ => trivial

theorem keepsName_hashFirmware :
    Only KeepsName (hashFirmware b fuel behind fd dummyfd r digests) :=
  only_readAndHash (inner_readFirmware.mono fun _ => IsInner.keepsName)
    (hashing_computeSha384.mono fun _ => IsHashing.keepsName)

/-- A request that is announced. -/
theorem announced_methodComputeHash
    (h : Run (methodComputeHash b fuel behind digests) (tr ++ [⟨.sdBusEmitPropertiesChanged r, ()⟩])
      (some (ret, digests'))) :
    ∃ retimerId : UInt32, ∃ seg, retimerId.toNat = r ∧ r < maxRetimers
      ∧ tr = ⟨.sdBusMessageRead, some retimerId⟩ :: ⟨.sdBusReplyMethodReturn, true⟩ :: seg
      ∧ Run (readFWImagenComputeHash b fuel behind r (digests.store r [])) seg
        (some (ret, digests')) := by
  generalize htr : tr ++ [⟨.sdBusEmitPropertiesChanged r, ()⟩] = tr' at h
  have hlast : tr'.getLast? = some ⟨.sdBusEmitPropertiesChanged r, ()⟩ := by
    rw [← htr, List.getLast?_concat]
  cases requestRun_of_run h with
  | unread => cases hlast
  | invalid => cases hlast
  | unreplied => cases hlast
  | @served retimerId seg ret digests' hvalid hread =>
      rw [← List.cons_append, ← List.cons_append] at htr
      obtain ⟨rfl, hev⟩ := List.append_inj' htr rfl
      cases List.singleton_inj.mp hev
      exact ⟨retimerId, seg, rfl, hvalid, rfl, hread⟩

/-- A hash was finalised, and the file could not be deleted. -/
def HashedUndeleted (tr : List SysEvent) : Prop :=
  (∃ hash, ⟨.evpDigestFinal, some hash⟩ ∈ tr) ∧ ⟨.unlink hashFile, false⟩ ∈ tr

theorem Unhashed.not_undeleted (h : Unhashed tr) : ¬HashedUndeleted tr :=
  fun ⟨⟨hash, hmem⟩, _⟩ => h hash hmem

theorem hexText_ne_nil {hash : Vector UInt8 48} : hexText hash ≠ [] := by
  intro hnil
  have hlen : (hexText hash).length = 2 * hashLength := length_hexText
  rw [hnil] at hlen
  exact absurd hlen (by decide)

theorem unhashed_cleanUp {deleted : Bool} : Unhashed (cleanUp fd dummyfd deleted) := by
  intro hash hmem
  simp [cleanUp] at hmem

theorem unhashed_hashDirectory {found : Bool} (h : Run hashDirectory tr found) : Unhashed tr :=
  .of_inner (inner_hashDirectory.run h)

/-- Until the end the file is not deleted. -/
theorem unlink_notMem_opened {dir seg : List SysEvent} (hdir : Run hashDirectory dir true)
    (hhash : Run (hashFirmware b fuel behind fd dummyfd r digests) seg (some (ret, digests'))) :
    (⟨.unlink hashFile, false⟩ : SysEvent) ∉ openDevice b fd
      :: (dir ++ ⟨.openFile hashFile .rdwrCreat, dummyfd⟩ :: (seg ++ cleanUp fd dummyfd true)) := by
  have hdir' : (⟨.unlink hashFile, false⟩ : SysEvent) ∉ dir :=
    fun h => inner_hashDirectory.run hdir _ h
  have hseg : (⟨.unlink hashFile, false⟩ : SysEvent) ∉ seg :=
    fun h => keepsName_hashFirmware.run hhash _ h
  simp [openDevice, cleanUp, hdir', hseg]

/-- What a failed request leaves of the digest that was cleared for it. -/
theorem HashRun.failed_iff
    (h : HashRun b fuel behind r (digests.store r []) tr ret digests') :
    (ret ≠ 0 → digests'.property r = []) ↔ ¬HashedUndeleted tr := by
  have hcleared : ∀ {tr : List SysEvent} {ret : Int32}, Unhashed tr →
      ((ret ≠ 0 → (digests.store r []).property r = []) ↔ ¬HashedUndeleted tr) :=
    fun h => iff_of_true (fun _ => property_store_nil) h.not_undeleted
  cases h with
  | noDevice hfd => exact hcleared (.openFile (.cons trivial .nil))
  | noDirectory hfd hdir =>
      exact hcleared (.openFile ((unhashed_hashDirectory hdir).append (.cons trivial .nil)))
  | noFile hfd hdir hdummyfd hrest =>
      refine hcleared (.openFile ((unhashed_hashDirectory hdir).append (.openFile ?_)))
      rcases hrest with rfl | ⟨deleted, rfl⟩
      · exact .cons trivial .nil
      · exact unhashed_cleanUp
  | @opened fd dummyfd dir seg ret deleted _ hfd hdir hdummyfd hhash =>
      obtain ⟨hstored, hret⟩ := stored_hashFirmware hhash
      cases hstored with
      | kept hunhashed =>
          exact hcleared (.openFile ((unhashed_hashDirectory hdir).append
            (.openFile (hunhashed.append unhashed_cleanUp))))
      | @hashed hash hfinal =>
          obtain rfl := hret.resolve_right fun hunhashed => hunhashed hash hfinal
          rw [property_store_hexText]
          cases deleted with
          | true =>
              exact iff_of_true (fun hne => absurd rfl hne)
                fun hundeleted => unlink_notMem_opened hdir hhash hundeleted.2
          | false =>
              refine iff_of_false (fun hempty => hexText_ne_nil (hempty (by decide))) ?_
              refine not_not.mpr ⟨⟨hash, ?_⟩, ?_⟩
              · simp [hfinal]
              · simp [cleanUp]

end Inner

/-- **Failed requests.** Where a failure is announced, the digest is empty,
unless a hash was finalised and the file could not be deleted. The hash is
stored before the file is deleted, and nothing takes it back. -/
theorem methodComputeHash_failed_iff (b : Build) (fuel : Nat) (behind : UInt8)
    (digests digests' : Digests) (r : Nat) (tr : List SysEvent) (ret : Int32)
    (h : Run (methodComputeHash b fuel behind digests) (tr ++ [⟨.sdBusEmitPropertiesChanged r, ()⟩])
      (some (ret, digests'))) :
    (ret ≠ 0 → digests'.property r = [])
      ↔ ¬((∃ hash, ⟨.evpDigestFinal, some hash⟩ ∈ tr) ∧ ⟨.unlink hashFile, false⟩ ∈ tr) := by
  obtain ⟨retimerId, seg, -, -, rfl, hread⟩ := announced_methodComputeHash h
  have hiff := (hashRun_of_run hread).failed_iff
  simpa [HashedUndeleted] using hiff

section Small

def undeletedReply (b : Build) (s : ReadEngine × TempFile × List UInt8) :
    (c : Call) → Option (Answer c × ReadEngine × TempFile × List UInt8)
  | .unlink _ => some (false, s)
  | c => serviceReply b false s c

def undeletedRequest : List SysEvent × Sys (Option (Int32 × Digests)) ×
    ReadEngine × TempFile × List UInt8 :=
  play (undeletedReply smallestBuild) 60 smallService
    (methodComputeHash smallestBuild 5 0 initialDigests)

def undeletedResult : Int32 × Digests :=
  ((undeletedRequest.2.1.result).getD none).getD (0, initialDigests)

theorem run_undeletedRequest : Run (methodComputeHash smallestBuild 5 0 initialDigests)
    undeletedRequest.1 (some undeletedResult) := by
  have hdone : ((undeletedRequest.2.1.result).getD none).isSome = true := by decide +kernel
  exact run_play_some hdone

theorem announced_undeletedRequest : undeletedRequest.1
    = undeletedRequest.1.dropLast ++ [⟨.sdBusEmitPropertiesChanged 0, ()⟩] := by
  have hlast : undeletedRequest.1.getLast?.map (·.1) = some (.sdBusEmitPropertiesChanged 0) := by
    decide +kernel
  obtain ⟨⟨c, a⟩, hget, hcall⟩ := Option.map_eq_some_iff.mp hlast
  obtain rfl : c = .sdBusEmitPropertiesChanged 0 := hcall
  exact (List.dropLast_append_getLast? _ hget).symm

theorem run_undeletedRequest_announced : Run (methodComputeHash smallestBuild 5 0 initialDigests)
    (undeletedRequest.1.dropLast ++ [⟨.sdBusEmitPropertiesChanged 0, ()⟩])
    (some (undeletedResult.1, undeletedResult.2)) := by
  have hrun : ∀ (tr tr' : List SysEvent) (res : Int32 × Digests),
      Run (methodComputeHash smallestBuild 5 0 initialDigests) tr (some res) → tr = tr' →
      Run (methodComputeHash smallestBuild 5 0 initialDigests) tr' (some (res.1, res.2)) := by
    rintro tr _ res h rfl
    exact h
  exact hrun _ _ undeletedResult run_undeletedRequest announced_undeletedRequest

theorem methodComputeHash_failed_iff_undeleted :
    (undeletedResult.1 ≠ 0 → undeletedResult.2.property 0 = [])
      ↔ ¬((∃ hash, ⟨.evpDigestFinal, some hash⟩ ∈ undeletedRequest.1.dropLast)
        ∧ ⟨.unlink hashFile, false⟩ ∈ undeletedRequest.1.dropLast) :=
  methodComputeHash_failed_iff smallestBuild 5 0 initialDigests undeletedResult.2 0
    undeletedRequest.1.dropLast undeletedResult.1 run_undeletedRequest_announced

/-- A failure is announced, with the digest of the firmware in its place. -/
theorem methodComputeHash_keeps_digest :
    ¬∀ (b : Build) (fuel : Nat) (behind : UInt8) (digests digests' : Digests) (r : Nat)
      (tr : List SysEvent) (ret : Int32), r < maxRetimers →
      Run (methodComputeHash b fuel behind digests) (tr ++ [⟨.sdBusEmitPropertiesChanged r, ()⟩])
        (some (ret, digests')) → ret ≠ 0 → digests'.property r = [] := by
  intro h
  have hfailed : undeletedResult.1 = exitFailure := by decide +kernel
  have hdigest : undeletedResult.2.property 0 = hexText firmwareHash := by decide +kernel
  have hempty := h smallestBuild 5 0 initialDigests undeletedResult.2 0 undeletedRequest.1.dropLast
    undeletedResult.1 (by decide) run_undeletedRequest_announced (by rw [hfailed]; decide)
  exact hexText_ne_nil (hdigest.symm.trans hempty)

end Small

end Retimer
