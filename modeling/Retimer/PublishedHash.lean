import Retimer.HashService
import Retimer.ReadEngine

/-!
# What the hash service publishes

Every digest is empty or the hash of firmware that the FPGA delivered,
if every hash that is finalised rests on a read that ended without a
NACK and on a file that took all of it. Neither is checked:
`readRetimerfw` returns 0 after two attempts that were refused or not
completed, and a short `write` is taken for a full one. Nor is it looked
at before a trigger whether another read is still under way, so the FPGA
has to take notice of every trigger as well (`obedientEnv`).

The surroundings of a request are three environments side by side: the
FPGA with its reading engine, the file, and the digest context
(`DigestContext.step`, the bytes it was given). `run_readFirmware` has
the firmware in the file where the read returns 0, over
`placed_of_readRetimerfw` and `run_fetch`; `run_computeSha384` has the
hash be that of the file, `ensures_hashBlocks` being the loop over its
blocks; `property_store_hexText` has the stored digest be the text of
it, though the encoding writes one byte too many.

What is said of the last event of a kind, `SoundHashes` is made of such
statements, is said of every part of a run that has none behind it
(`last_of_middle`). So the condition of the whole run comes down to the
request that finalises a hash.

`Published` is the invariant of the service.
`run_readFWImagenComputeHash` is one request, from the digest that was
cleared for it on (`Hashed`); `run_methodComputeHash` is the step, and
`run_serveRequests` the induction over the requests.
-/

namespace Retimer

open Interaction Interaction.Prog

/-! ## The last of the events of a kind -/

section Last

variable {α β : Type} {f : α → Option β} {P : β → Prop} {u v w : List α}

/-- What is said of the last event of a kind is said of the last one of any
part with none behind it. -/
theorem last_of_middle (h : ∀ y ∈ ((u ++ (v ++ w)).filterMap f).getLast?, P y)
    (hw : w.filterMap f = []) : ∀ y ∈ (v.filterMap f).getLast?, P y := by
  intro y hy
  refine h y ?_
  rw [List.filterMap_append, List.filterMap_append, hw, List.append_nil, List.getLast?_append, hy]
  rfl

end Last

/-- The status word of the reading engine that was read last says that the
read has ended without a NACK. -/
def LastReadDone (b : Build) (tr : List SysEvent) : Prop :=
  ∀ word ∈ (readStatuses b tr).getLast?, ReadDone word

theorem LastReadDone.middle {b : Build} {u v w : List SysEvent} (h : LastReadDone b (u ++ (v ++ w)))
    (hw : w.filterMap (readStatusOf b) = []) : LastReadDone b v :=
  last_of_middle h hw

theorem LastWriteFull.middle {u v w : List SysEvent} (h : LastWriteFull (u ++ (v ++ w)))
    (hw : w.filterMap writtenFully = []) : LastWriteFull v :=
  last_of_middle h hw

/-! ## The file -/

/-- Loading an image from the file leaves its contents. -/
theorem TempFile.follows_loading {path : String} {tr : List SysEvent} {f f' : TempFile}
    (h : Follows (TempFile.step path) f tr f') (hloading : ∀ ev ∈ tr, IsLoading ev.1) :
    f'.contents = f.contents ∧ f'.fd = f.fd := by
  refine Follows.invariant (I := fun g => g.contents = f.contents ∧ g.fd = f.fd) ?_ h hloading
    ⟨rfl, rfl⟩
  intro g ev g' hg hev hstep
  cases TempFile.effect_of_step hstep with
  | moved offset => exact hg
  | _ => exact hev.elim

/-! ## Hashing -/

/-- The digest context: the bytes it was given since it was initialised. -/
def DigestContext.step (sha384 : List UInt8 → Vector UInt8 48) : Env Call Answer (List UInt8)
  | _, ⟨.evpDigestInit, true⟩, given => given = []
  | given, ⟨.evpDigestUpdate bs, true⟩, given' => given' = given ++ bs
  | given, ⟨.evpDigestFinal, some hash⟩, given' => hash = sha384 given ∧ given' = given
  | given, _, given' => given' = given

def IsDigest : Call → Prop
  | .evpMdCtxNew | .evpDigestInit | .evpDigestUpdate _ | .evpDigestFinal | .evpMdCtxFree => True
  | _ => False

/-- What hashing the file takes. -/
def IsHashing : Call → Prop
  | .read _ _ | .evpMdCtxNew | .evpDigestInit | .evpDigestUpdate _ | .evpDigestFinal
  | .evpMdCtxFree => True
  | _ => False

section Hashing

variable {sha384 : List UInt8 → Vector UInt8 48} {path : String} {dummyfd : Int} {fuel : Nat}
  {tr : List SysEvent}

section Only

variable {P : Call → Prop} {b : Build} {fd : Int} {r : Nat} {behind : UInt8} {digests : Digests}

theorem only_hashBlocks (hread : P (.read dummyfd blockSize))
    (hupdate : ∀ block, P (.evpDigestUpdate block)) : Only P (hashBlocks dummyfd fuel) := by
  induction fuel with
  | zero => trivial
  | succ fuel ih =>
      unfold hashBlocks
      refine (only_perform.mpr hread).bind fun block => ?_
      cases block with
      | none => trivial
      | some block =>
          refine Only.ite trivial ((only_perform.mpr (hupdate _)).bind fun updated => ?_)
          exact Only.ite trivial ih

theorem only_hashing (hread : P (.read dummyfd blockSize)) (hdigest : ∀ c, IsDigest c → P c) :
    Only P (computeSha384 fuel dummyfd) := by
  have hfree : Only P (Sys.request .evpMdCtxFree) :=
    only_perform.mpr (hdigest .evpMdCtxFree trivial)
  have hupdate : ∀ block, P (.evpDigestUpdate block) := fun block =>
    hdigest (.evpDigestUpdate block) trivial
  unfold computeSha384
  refine (only_perform.mpr (hdigest .evpMdCtxNew trivial)).bind fun ctx => Only.ite trivial ?_
  refine (only_perform.mpr (hdigest .evpDigestInit trivial)).bind fun init => ?_
  refine Only.ite (hfree.bind fun _ => trivial) ?_
  refine (only_hashBlocks hread hupdate).bind fun blocksEnd => ?_
  rcases blocksEnd with _ | blocksEnd
  · trivial
  · cases blocksEnd with
    | updateFailed => exact hfree.bind fun _ => trivial
    | readFailed => trivial
    | endOfFile =>
        refine (only_perform.mpr (hdigest .evpDigestFinal trivial)).bind fun final => ?_
        cases final with
        | none => exact hfree.bind fun _ => trivial
        | some hash => exact hfree.bind fun _ => trivial

theorem only_reading (hload : Only P (copyImageFromFileToFpga b dummyfd fd b.fpgaI2cCntrlAddr))
    (hread : Only P (readRetimerfw b fd (UInt8.ofNat r)))
    (hfetch : Only P (copyImageFromFpga b dummyfd fd b.fpgaI2cCntrlAddr))
    (htruncate : P (.ftruncate dummyfd b.maxFwImageSize)) (hseek : P (.lseek dummyfd 0)) :
    Only P (readFirmware b fd dummyfd r) := by
  unfold readFirmware
  refine (only_perform.mpr htruncate).bind fun truncated => Only.ite trivial ?_
  refine hload.bind fun ret => Only.ite trivial ?_
  refine hread.bind fun ret => Only.ite trivial ?_
  refine (only_perform.mpr hseek).bind fun sought => Only.ite trivial ?_
  refine hfetch.bind fun ret => Only.ite trivial ?_
  exact (only_perform.mpr hseek).bind fun sought => Only.ite trivial trivial

theorem only_readAndHash (hread : Only P (readFirmware b fd dummyfd r))
    (hhash : Only P (computeSha384 fuel dummyfd)) :
    Only P (hashFirmware b fuel behind fd dummyfd r digests) := by
  unfold hashFirmware
  refine hread.bind fun ret => Only.ite trivial (hhash.bind fun res => ?_)
  rcases res with _ | ret | hash <;> trivial

/-- What comes behind the opening of the device. -/
theorem opened_computeHash : ∃ k : Int → Sys (Option (Int32 × Digests)),
    readFWImagenComputeHash b fuel behind r digests
        = Sys.openFile ("/dev/i2c-" ++ toString b.fpgaI2cBus) .rdwrNonblock >>= k
      ∧ ∀ (P : Call → Prop) (fd : Int), (∀ path flags, P (.openFile path flags)) →
        (∀ fd, P (.close fd)) → P (.access "/tmp/hash") → P (.mkdir "/tmp/hash") →
        P (.unlink "/tmp/hash/RetimerFW.dat") →
        (∀ dummyfd, Only P (hashFirmware b fuel behind fd dummyfd r digests)) → Only P (k fd) := by
  refine ⟨_, rfl, fun P fd hopen hclose haccess hmkdir hunlink hhash => ?_⟩
  have hclosed : ∀ {α : Type} (a : α), Only P (Sys.close fd >>= fun _ => Prog.ret a) :=
    fun _ => (only_perform.mpr (hclose fd)).bind fun _ => trivial
  have hdelete : ∀ dummyfd ret, Only P (deleteFile dummyfd ret) := fun dummyfd ret =>
    (only_perform.mpr hunlink).bind fun _ => (only_perform.mpr (hclose dummyfd)).bind fun _ =>
      trivial
  have hfound : Only P hashDirectory :=
    (only_perform.mpr haccess).bind fun _ => Only.ite trivial (only_perform.mpr hmkdir)
  refine Only.ite (hclosed _) (hfound.bind fun directory => Only.ite (hclosed _) ?_)
  refine (only_perform.mpr (hopen _ _)).bind fun dummyfd => Only.ite ?_ ?_
  · exact Only.ite ((hdelete _ _).bind fun ret => hclosed _) (hclosed _)
  · refine (hhash dummyfd).bind fun res => ?_
    cases res with
    | none => trivial
    | some res => exact (hdelete _ _).bind fun ret => hclosed _

end Only

theorem IsDigest.isHashing {c : Call} (h : IsDigest c) : IsHashing c := by
  cases c with
  | read fd n => trivial
  | _ => exact h

theorem hashing_computeSha384 : Only IsHashing (computeSha384 fuel dummyfd) :=
  only_hashing trivial fun _ => IsDigest.isHashing

theorem readStatuses_of_hashing {b : Build} (h : ∀ ev ∈ tr, IsHashing ev.1) :
    tr.filterMap (readStatusOf b) = [] := by
  refine List.filterMap_eq_nil_iff.mpr fun ev hev => ?_
  have hhash := h ev hev
  obtain ⟨c, r⟩ := ev
  cases c with
  | i2cRead fd slaveId writeData n => exact hhash.elim
  | _ => rfl

theorem written_of_hashing (h : ∀ ev ∈ tr, IsHashing ev.1) :
    tr.filterMap writtenFully = [] := by
  refine List.filterMap_eq_nil_iff.mpr fun ev hev => ?_
  have hhash := h ev hev
  obtain ⟨c, r⟩ := ev
  cases c with
  | write fd buf => exact hhash.elim
  | _ => rfl

/-- The blocks read up to the end of the file are what was left of it, however
short the reads were. -/
theorem ensures_hashBlocks (f : TempFile) (given : List UInt8) :
    Ensures ((TempFile.step path).prod (DigestContext.step sha384)) (hashBlocks f.fd fuel)
      (fun res s => res = some .endOfFile → s.2 = given ++ f.contents.drop f.offset)
      (f, given) := by
  induction fuel generalizing f given with
  | zero =>
      intro hres
      cases hres
  | succ fuel ih =>
      unfold hashBlocks
      refine wp_bind.mpr (wp_perform.mpr ?_)
      rintro block ⟨f₁, given₁⟩ ⟨hfile, hdigest⟩
      refine ⟨trivial, ?_⟩
      cases block with
      | none =>
          intro hres
          cases hres
      | some block =>
          obtain ⟨hblock, hend, hf₁⟩ : block.val = slice f.contents f.offset block.val.length
              ∧ (block.val = [] → blockSize = 0 ∨ f.contents.length ≤ f.offset)
              ∧ f₁ = { f with offset := f.offset + block.val.length } := by
            simpa only [TempFile.step, if_pos] using hfile
          obtain rfl : given₁ = given := hdigest
          dsimp only
          split
          · next hempty =>
              intro _
              have hdrop := (hend hempty).resolve_left (by decide)
              rw [List.drop_eq_nil_of_le hdrop, List.append_nil]
          · refine wp_bind.mpr (wp_perform.mpr ?_)
            rintro updated ⟨f₂, given₂⟩ ⟨hfile₂, hdigest₂⟩
            refine ⟨trivial, ?_⟩
            cases updated with
            | false =>
                intro hres
                cases hres
            | true =>
                obtain rfl : f₂ = f₁ := hfile₂
                obtain rfl : given₂ = given₁ ++ block.val := hdigest₂
                subst hf₁
                rw [if_neg Bool.true_eq_false.mp]
                refine wp_mono (ih { f with offset := f.offset + block.val.length }
                  (given₁ ++ block.val)) (fun _ _ h => h) fun res s h hres => ?_
                have hcut : block.val ++ f.contents.drop (f.offset + block.val.length)
                    = f.contents.drop f.offset :=
                  (congrArg (· ++ _) hblock).trans slice_append_drop
                rw [h hres, List.append_assoc, hcut]

/-- A hash that is finalised is that of what the file holds behind the offset. -/
theorem run_computeSha384 {f f' : TempFile} {given given' : List UInt8} {hash : Vector UInt8 48}
    (h : Run (computeSha384 fuel dummyfd) tr (some (.ok hash)))
    (henv : Follows ((TempFile.step path).prod (DigestContext.step sha384)) (f, given) tr
      (f', given')) :
    (dummyfd = f.fd → hash = sha384 (f.contents.drop f.offset)) ∧ ∃ pre post,
      tr = pre ++ ⟨.evpDigestFinal, some hash⟩ :: post ∧ ∀ ev ∈ pre, IsHashing ev.1 := by
  obtain ⟨ctx, tr₁, rfl, h₁⟩ := run_perform_bind.mp h
  obtain ⟨⟨f₁, given₁⟩, ⟨hf₁, hgiven₁⟩, henv₁⟩ := henv
  obtain rfl : f₁ = f := hf₁
  split at h₁
  · cases (run_ret.mp h₁).2
  · obtain ⟨init, tr₂, rfl, h₂⟩ := run_perform_bind.mp h₁
    obtain ⟨⟨f₂, given₂⟩, ⟨hf₂, hgiven₂⟩, henv₂⟩ := henv₁
    obtain rfl : f₂ = f₁ := hf₂
    split at h₂
    · obtain ⟨_, tr₃, -, h₃⟩ := run_perform_bind.mp h₂
      cases (run_ret.mp h₃).2
    · next hinit =>
        obtain rfl := Bool.of_not_eq_false hinit
        obtain rfl : given₂ = [] := hgiven₂
        obtain ⟨tr₃, blocksEnd, tr₄, rfl, hblocks, h₃⟩ := run_bind.mp h₂
        obtain ⟨⟨f₃, given₃⟩, henv₃, henv₄⟩ := follows_append.mp henv₂
        rcases blocksEnd with _ | blocksEnd
        · cases (run_ret.mp h₃).2
        · cases blocksEnd with
          | updateFailed =>
              obtain ⟨_, tr₅, -, h₄⟩ := run_perform_bind.mp h₃
              cases (run_ret.mp h₄).2
          | readFailed => cases (run_ret.mp h₃).2
          | endOfFile =>
              have hgiven : dummyfd = f₂.fd → given₃ = f₂.contents.drop f₂.offset := by
                rintro rfl
                exact wp_run (ensures_hashBlocks f₂ []) hblocks henv₃ rfl
              obtain ⟨final, tr₅, rfl, h₄⟩ := run_perform_bind.mp h₃
              obtain ⟨⟨f₄, given₄⟩, ⟨-, hgiven₄⟩, -⟩ := henv₄
              rcases final with _ | final
              · obtain ⟨_, tr₆, -, h₅⟩ := run_perform_bind.mp h₄
                cases (run_ret.mp h₅).2
              · obtain ⟨_, tr₆, rfl, h₅⟩ := run_perform_bind.mp h₄
                cases (run_ret.mp h₅).2
                obtain ⟨hhash, -⟩ := hgiven₄
                have hhashing : Only IsHashing (hashBlocks dummyfd fuel) :=
                  only_hashBlocks trivial fun _ => trivial
                refine ⟨fun hfd => hhash.trans (by rw [hgiven hfd]),
                  ⟨.evpMdCtxNew, ctx⟩ :: ⟨.evpDigestInit, true⟩ :: tr₃, _, rfl, ?_⟩
                exact List.forall_mem_cons.mpr ⟨trivial, List.forall_mem_cons.mpr ⟨trivial,
                  hhashing.run hblocks⟩⟩

end Hashing

/-! ## The digest as text -/

def hexText (hash : Vector UInt8 48) : List UInt8 := hash.toList.flatMap hexByte

section Text

variable {digests : Digests} {hash : Vector UInt8 48} {r r' : Nat}

/-- The encoding loop: each byte is written over the NUL of the one before. By
induction on the bytes that are left, with those that are done in front. -/
theorem encodeHash_eq {bytes done rest : List UInt8} {i : Nat} (hdone : done.length = 2 * i)
    (hrest : rest.length = 2 * bytes.length) :
    encodeHash bytes i (done ++ 0 :: rest) = done ++ bytes.flatMap hexByte ++ [0] := by
  induction bytes generalizing i done rest with
  | nil =>
      obtain rfl := List.length_eq_zero_iff.mp hrest
      simp [encodeHash]
  | cons c bytes ih =>
      match rest, hrest with
      | x :: y :: rest, hrest =>
        have hbyte : overwrite (done ++ 0 :: x :: y :: rest) (2 * i) (hexByte c ++ [0])
            = (done ++ hexByte c) ++ 0 :: rest := by
          rw [← hdone]
          simp [overwrite, hexByte]
        rw [encodeHash, hbyte, ih]
        · simp
        · simp only [List.length_append, hdone, hexByte, List.length_cons, List.length_nil]
          omega
        · simp only [List.length_cons] at hrest
          omega

theorem encodeHash_initial {behind : UInt8} :
    encodeHash hash.toList 0 (initialHashValue behind) = hexText hash ++ [0] := by
  have hinitial : initialHashValue behind = [] ++ 0 :: (List.replicate 95 0 ++ [behind]) := rfl
  rw [hinitial, encodeHash_eq rfl (by simp)]
  rfl

theorem hexDigit_ne_zero {n : Nat} (h : n < 16) : hexDigit n ≠ 0 := by
  revert n
  decide

theorem mem_hexText {c : UInt8} (h : c ∈ hexText hash) : ∃ n < 16, c = hexDigit n := by
  obtain ⟨x, -, hx⟩ := List.mem_flatMap.mp h
  have hlt := x.toNat_lt
  rcases List.mem_cons.mp hx with rfl | hx
  · exact ⟨x.toNat / 16, by omega, rfl⟩
  · obtain rfl := List.mem_singleton.mp hx
    exact ⟨x.toNat % 16, by omega, rfl⟩

theorem hexText_ne_zero : ∀ c ∈ hexText hash, c ≠ 0 := by
  intro c hc
  obtain ⟨n, hn, rfl⟩ := mem_hexText hc
  exact hexDigit_ne_zero hn

theorem length_hexText : (hexText hash).length = 2 * hashLength := by
  have hbyte : ∀ bytes : List UInt8, (bytes.flatMap hexByte).length = 2 * bytes.length := by
    intro bytes
    induction bytes with
    | nil => rfl
    | cons c bytes ih =>
        rw [List.flatMap_cons, List.length_append, ih, List.length_cons, hexByte]
        simp only [List.length_cons, List.length_nil]
        omega
  rw [hexText, hbyte, Vector.length_toList]
  rfl

theorem property_store_ne (h : r' ≠ r) {src : List UInt8} :
    (digests.store r src).property r' = digests.property r' := by
  rw [Digests.property, Digests.store, if_neg h]
  rfl

theorem property_store_nil : (digests.store r []).property r = [] := by
  rw [Digests.property, Digests.store, if_pos rfl]
  rfl

theorem takeWhile_hexText {rest : List UInt8} :
    (hexText hash ++ 0 :: rest).takeWhile (· ≠ 0) = hexText hash := by
  rw [List.takeWhile_append_of_pos fun c hc => decide_eq_true (hexText_ne_zero c hc)]
  simp

theorem strncpyDigest_hexText : strncpyDigest (hexText hash ++ [0]) = hexText hash ++ [0] := by
  have hshort : (hexText hash).take hashDigestSize = hexText hash :=
    List.take_of_length_le (by rw [length_hexText]; decide)
  rw [strncpyDigest, takeWhile_hexText, hshort, length_hexText]
  rfl

theorem property_store_hexText :
    (digests.store r (hexText hash ++ [0])).property r = hexText hash := by
  rw [Digests.property, Digests.store, if_pos rfl, strncpyDigest_hexText]
  exact takeWhile_hexText

end Text

/-! ## A request -/

/-- The FPGA, the file and the digest context. -/
abbrev serviceEnv (b : Build) (sha384 : List UInt8 → Vector UInt8 48) :
    Env Call Answer (ReadEngine × TempFile × List UInt8) :=
  (ReadEngine.step b).prod ((TempFile.step hashFile).prod (DigestContext.step sha384))

/-- The same in runs in which the FPGA takes notice of every trigger. -/
abbrev obedientEnv (b : Build) (sha384 : List UInt8 → Vector UInt8 48) :
    Env Call Answer (ReadEngine × TempFile × List UInt8) :=
  (ReadEngine.obedient b).prod ((TempFile.step hashFile).prod (DigestContext.step sha384))

theorem serviceEnv_of_obedient {b : Build} {sha384 : List UInt8 → Vector UInt8 48}
    {s s' : ReadEngine × TempFile × List UInt8} {tr : List SysEvent}
    (h : Follows (obedientEnv b sha384) s tr s') : Follows (serviceEnv b sha384) s tr s' :=
  h.map (π := id) fun _ _ _ hstep => ⟨hstep.1.1, hstep.2⟩

section Requests

variable {b : Build} {sha384 : List UInt8 → Vector UInt8 48} {fd : Int} {tr : List SysEvent}
    {r : Nat}

theorem readStatuses_fetch {fd : Int} (h : ∀ ev ∈ tr, IsFetching ev.1) :
    (⟨.lseek fd 0, true⟩ :: (tr ++ [⟨.lseek fd 0, true⟩]) : List SysEvent).filterMap
      (readStatusOf b) = [] := by
  rw [List.filterMap_cons_none rfl, List.filterMap_append, ← readStatuses,
    readStatuses_of_fetching h]
  rfl

theorem run_fetch {path : String} {f f' : TempFile} {g g' : ReadEngine}
    (h : Run (copyImageFromFpga b f.fd fd b.fpgaI2cCntrlAddr) tr 0)
    (hengine : Follows (ReadEngine.step b) g
      (⟨.lseek f.fd 0, true⟩ :: (tr ++ [⟨.lseek f.fd 0, true⟩])) g')
    (hfile : Follows (TempFile.step path) f
      (⟨.lseek f.fd 0, true⟩ :: (tr ++ [⟨.lseek f.fd 0, true⟩])) f')
    (hplaced : g.Placed b r) (hlength : f.contents.length = b.maxFwImageSize)
    (hfull : LastWriteFull tr) :
    (r, f'.contents) ∈ g'.delivered ∧ f'.offset = 0 ∧ f'.fd = f.fd := by
  have hfetching := only_fetching.run h
  have hquiet : ∀ ev ∈ (⟨.lseek f.fd 0, true⟩ :: (tr ++ [⟨.lseek f.fd 0, true⟩]) : List SysEvent),
      ReadEngine.IsQuiet ev.1 := by
    refine List.forall_mem_cons.mpr ⟨trivial, fun ev hev => ?_⟩
    rcases List.mem_append.mp hev with hev | hev
    · exact ReadEngine.isQuiet_of_fetching (hfetching ev hev)
    · obtain rfl := List.mem_singleton.mp hev
      trivial
  obtain ⟨hmem, -, hdelivered⟩ := ReadEngine.follows_idle hengine hplaced.1
    fun ev hev => (hquiet ev hev).startsNoRead
  obtain ⟨m₁, hm₁, hmem₁⟩ := hmem
  obtain ⟨m₂, hmem₂, -⟩ := follows_append.mp hmem₁
  obtain ⟨f₁, hf₁, hfile₁⟩ := hfile
  obtain ⟨f₂, hfile₂, f₃, hf₃, rfl⟩ := follows_append.mp hfile₁
  obtain rfl : f₁ = { f with offset := 0 } := hf₁.trans (if_pos rfl)
  have hsize : f.contents.length ≤ dpramSize := hlength ▸ b.maxFwImageSize_le
  obtain ⟨hcontents, hfd⟩ := run_copyImageFromFpga
    (f := { f with offset := 0 }) h hmem₂ hfile₂ hfull
    (Or.inl rfl) hsize
  have hlast : f' = { f₂ with offset := 0 } := hf₃.trans (if_pos hfd.symm)
  refine ⟨?_, by rw [hlast], by rw [hlast]; exact hfd⟩
  have hload : f'.contents = g.mem.load 0 b.maxFwImageSize := by
    rw [hlast, ← hlength]
    refine hcontents.trans (KeepsStaging.load hm₁ ?_)
    rw [Nat.zero_add]
    exact Nat.le_trans hsize (by decide)
  rw [hload, hdelivered]
  exact hplaced.2

/-- What a return of 0 takes: the clearing, the read and the read-back returned
0 as well. -/
theorem success_readFirmware {dummyfd : Int} (h : Run (readFirmware b fd dummyfd r) tr 0) :
    ∃ load read fetch : List SysEvent,
      tr = ⟨.ftruncate dummyfd b.maxFwImageSize, true⟩ :: (load ++ (read
        ++ ⟨.lseek dummyfd 0, true⟩ :: (fetch ++ [⟨.lseek dummyfd 0, true⟩])))
      ∧ Run (copyImageFromFileToFpga b dummyfd fd b.fpgaI2cCntrlAddr) load 0
      ∧ Run (readRetimerfw b fd (UInt8.ofNat r)) read 0
      ∧ Run (copyImageFromFpga b dummyfd fd b.fpgaI2cCntrlAddr) fetch 0 := by
  have hfailed : ∀ {tr : List SysEvent} {p : Prop}, Run (pure exitFailure) tr 0 → p :=
    fun h => absurd (run_ret.mp h).2 (by decide)
  obtain ⟨truncated, tr₁, rfl, h₁⟩ := run_perform_bind.mp h
  split at h₁
  · exact hfailed h₁
  · next htruncated =>
      obtain rfl := Bool.of_not_eq_false htruncated
      obtain ⟨load, ret, tr₂, rfl, hload, h₂⟩ := run_bind.mp h₁
      split at h₂
      · exact hfailed h₂
      · next hret =>
          obtain rfl := not_not.mp hret
          obtain ⟨read, ret, tr₃, rfl, hread, h₃⟩ := run_bind.mp h₂
          split at h₃
          · exact hfailed h₃
          · next hret =>
              obtain rfl := not_not.mp hret
              obtain ⟨sought, tr₄, rfl, h₄⟩ := run_perform_bind.mp h₃
              split at h₄
              · exact hfailed h₄
              · next hsought =>
                  obtain rfl := Bool.of_not_eq_false hsought
                  obtain ⟨fetch, ret, tr₅, rfl, hfetch, h₅⟩ := run_bind.mp h₄
                  split at h₅
                  · exact hfailed h₅
                  · next hret =>
                      obtain rfl := not_not.mp hret
                      obtain ⟨sought, tr₆, rfl, h₆⟩ := run_perform_bind.mp h₅
                      split at h₆
                      · exact hfailed h₆
                      · next hsought =>
                          obtain rfl := Bool.of_not_eq_false hsought
                          obtain ⟨rfl, -⟩ := run_ret.mp h₆
                          exact ⟨load, read, fetch, rfl, hload, hread, hfetch⟩

/-- A read of the firmware that returns 0 leaves it in the file, if the status
word that ended the read was not busy and had no NACK, and the last write to the
file was in full. The file is then back at its start. -/
theorem run_readFirmware {path : String} {f f' : TempFile} {g g' : ReadEngine}
    (hr : r < maxRetimers)
    (h : Run (readFirmware b fd f.fd r) tr 0) (hengine : Follows (ReadEngine.obedient b) g tr g')
    (hfile : Follows (TempFile.step path) f tr f') (hdone : LastReadDone b tr)
    (hfull : LastWriteFull tr) :
    (r, f'.contents) ∈ g'.delivered ∧ f'.offset = 0 ∧ f'.fd = f.fd := by
  obtain ⟨load, read, fetch, rfl, hload, hread, hfetch⟩ := success_readFirmware h
  obtain ⟨g₁, -, hengine₁⟩ := hengine
  obtain ⟨g₂, -, hengine₂⟩ := follows_append.mp hengine₁
  obtain ⟨g₃, hengine₃, hengine₄⟩ := follows_append.mp hengine₂
  obtain ⟨f₁, hf₁, hfile₁⟩ := hfile
  obtain ⟨f₂, hfile₂, hfile₃⟩ := follows_append.mp hfile₁
  obtain ⟨f₃, hfile₄, hfile₅⟩ := follows_append.mp hfile₃
  have hf₁' : f₁ = f.truncate b.maxFwImageSize := hf₁.trans (if_pos rfl)
  obtain ⟨hcontents₂, hfd₂⟩ := TempFile.follows_loading hfile₂ (only_loading.run hload)
  have hf₃ : f₃ = f₂ := TempFile.follows_bus hfile₄ ((only_readAttempts
    (fun _ h => h.isBus) (fun _ => trivial) trivial).run hread)
  have hfd₃ : f₃.fd = f.fd := by rw [hf₃, hfd₂, hf₁']; rfl
  have hlength : f₃.contents.length = b.maxFwImageSize := by
    rw [hf₃, hcontents₂, hf₁', TempFile.length_truncate]
  obtain ⟨word, hword, hplaced⟩ :=
    placed_of_readRetimerfw (Nat.lt_trans hr (by decide)) hread hengine₃
  -- the status word of the last poll is the last one of all
  have hdone' : LastReadDone b read := LastReadDone.middle
    (u := ⟨.ftruncate f.fd b.maxFwImageSize, true⟩ :: load) hdone
    (readStatuses_fetch (only_fetching.run hfetch))
  have hfull' : LastWriteFull fetch := LastWriteFull.middle
    (u := ⟨.ftruncate f.fd b.maxFwImageSize, true⟩ :: (load ++ (read ++ [⟨.lseek f.fd 0, true⟩])))
    (w := [⟨.lseek f.fd 0, true⟩]) (by simpa using hfull) rfl
  rw [← hfd₃] at hfetch hengine₄ hfile₅ ⊢
  exact run_fetch hfetch (ReadEngine.follows_of_obedient hengine₄) hfile₅
    (hplaced (hdone' word hword)) hlength hfull'

/-- Every hash that is finalised rests on a read that ended without a NACK and
on a file that took all of it: in the events before it, the last status word of
the reading engine says so, and the last write to a file was a full one. -/
def SoundHashes (b : Build) (tr : List SysEvent) : Prop :=
  ∀ pre hash post, tr = pre ++ ⟨.evpDigestFinal, some hash⟩ :: post →
    LastReadDone b pre ∧ LastWriteFull pre

theorem SoundHashes.middle {u v w : List SysEvent} (h : SoundHashes b (u ++ (v ++ w))) :
    SoundHashes b v := by
  rintro pre hash post rfl
  obtain ⟨hdone, hfull⟩ := h (u ++ pre) hash (post ++ w) (by simp)
  have hnil : u ++ pre = u ++ (pre ++ []) := by rw [List.append_nil]
  rw [hnil] at hdone hfull
  exact ⟨hdone.middle rfl, hfull.middle rfl⟩

theorem SoundHashes.parts {u v : List SysEvent} (h : SoundHashes b (u ++ v)) :
    SoundHashes b u ∧ SoundHashes b v :=
  ⟨.middle (u := []) h, .middle (u := u) (w := []) (by rwa [List.append_nil])⟩

theorem SoundHashes.tail {ev : SysEvent} (h : SoundHashes b (ev :: tr)) : SoundHashes b tr :=
  (SoundHashes.parts (u := [ev]) h).2

/-- The digests are as they were, but for the hash of firmware of `r` that was
delivered. -/
def Hashed (sha384 : List UInt8 → Vector UInt8 48) (r : Nat) (delivered : List (Nat × List UInt8))
    (digests digests' : Digests) : Prop :=
  digests' = digests ∨ ∃ fw, (r, fw) ∈ delivered
    ∧ digests' = digests.store r (hexText (sha384 fw) ++ [0])

theorem Hashed.mono {delivered delivered' : List (Nat × List UInt8)} {digests digests' : Digests}
    (h : Hashed sha384 r delivered digests digests') (hsub : delivered ⊆ delivered') :
    Hashed sha384 r delivered' digests digests' := by
  rcases h with rfl | ⟨fw, hfw, rfl⟩
  · exact Or.inl rfl
  · exact Or.inr ⟨fw, hsub hfw, rfl⟩

variable {fuel : Nat} {behind : UInt8} {digests digests' : Digests} {ret : Int32}
  {s s' : ReadEngine × TempFile × List UInt8}

theorem run_hashFirmware (hr : r < maxRetimers)
    (h : Run (hashFirmware b fuel behind fd s.2.1.fd r digests) tr (some (ret, digests')))
    (henv : Follows (obedientEnv b sha384) s tr s') (hsound : SoundHashes b tr) :
    Hashed sha384 r s'.1.delivered digests digests' := by
  obtain ⟨tr₁, ret₁, tr₂, rfl, hread, h₁⟩ := run_bind.mp h
  obtain ⟨s₁, henv₁, henv₂⟩ := follows_append.mp henv
  split at h₁
  · cases (run_ret.mp h₁).2
    exact Or.inl rfl
  · next hret =>
      obtain rfl := not_not.mp hret
      obtain ⟨tr₃, res, tr₄, rfl, hhash, h₂⟩ := run_bind.mp h₁
      obtain ⟨s₂, henv₃, henv₄⟩ := follows_append.mp henv₂
      rcases res with _ | res
      · cases (run_ret.mp h₂).2
      · rcases res with ret₂ | hash
        · cases (run_ret.mp h₂).2
          exact Or.inl rfl
        · cases (run_ret.mp h₂).2
          obtain ⟨hgiven, pre, post, rfl, hhashing⟩ := run_computeSha384 hhash henv₃.right
          obtain ⟨hdone, hfull⟩ := hsound (tr₁ ++ pre) hash (post ++ tr₄) (by simp)
          obtain ⟨hdelivered, hoffset, hfd⟩ := run_readFirmware hr hread henv₁.left henv₁.right.left
            (LastReadDone.middle (u := []) hdone (readStatuses_of_hashing hhashing))
            (LastWriteFull.middle (u := []) hfull (written_of_hashing hhashing))
          refine Or.inr ⟨s₁.2.1.contents, ReadEngine.delivered_subset henv₂.left hdelivered, ?_⟩
          have hhash := hgiven hfd.symm
          rw [hoffset, List.drop_zero] at hhash
          rw [encodeHash_initial, hhash]

/-- One request, from the digests on that it leaves when it cannot read. -/
theorem run_readFWImagenComputeHash (hr : r < maxRetimers)
    (h : Run (readFWImagenComputeHash b fuel behind r digests) tr (some (ret, digests')))
    (henv : Follows (obedientEnv b sha384) s tr s') (hsound : SoundHashes b tr) :
    Hashed sha384 r s'.1.delivered digests digests' := by
  cases hashRun_of_run h with
  | noDevice | noDirectory | noFile => exact Or.inl rfl
  | @opened fd dummyfd dir seg ret' deleted digests'' hfd hdir hdummyfd hhash =>
      obtain ⟨s₁, -, henv₁⟩ := henv
      obtain ⟨s₂, -, s₃, ⟨-, hopen, -⟩, henv₃⟩ := follows_append.mp henv₁
      obtain ⟨s₄, henv₄, henv₅⟩ := follows_append.mp henv₃
      have hfile : s₃.2.1.fd = dummyfd := by
        rw [hopen.trans (if_pos ⟨rfl, Int.not_lt.mp hdummyfd⟩)]
      rw [← hfile] at hhash
      have hsound' : SoundHashes b seg := hsound.tail.parts.2.tail.parts.1
      exact (run_hashFirmware hr hhash henv₄ hsound').mono
        (ReadEngine.delivered_subset henv₅.left)

/-! ## All requests -/

/-- Every digest is empty or the hash of delivered firmware, of the retimer that
the digest is for. -/
def Published (sha384 : List UInt8 → Vector UInt8 48) (delivered : List (Nat × List UInt8))
    (digests : Digests) : Prop :=
  ∀ r, digests.property r = []
    ∨ ∃ fw, (r, fw) ∈ delivered ∧ digests.property r = hexText (sha384 fw)

theorem published_initial : Published sha384 s.1.delivered initialDigests := fun _ => Or.inl rfl

theorem Published.mono {delivered delivered' : List (Nat × List UInt8)}
    (h : Published sha384 delivered digests) (hsub : delivered ⊆ delivered') :
    Published sha384 delivered' digests := by
  intro r
  rcases h r with hempty | ⟨fw, hfw, hhash⟩
  · exact Or.inl hempty
  · exact Or.inr ⟨fw, hsub hfw, hhash⟩

theorem Published.cleared {delivered : List (Nat × List UInt8)}
    (h : Published sha384 delivered digests) (r : Nat) :
    Published sha384 delivered (digests.store r []) := by
  intro r'
  by_cases hr : r' = r
  · subst hr
    exact Or.inl property_store_nil
  · rw [property_store_ne hr]
    exact h r'

theorem Published.hashed {delivered : List (Nat × List UInt8)}
    (h : Published sha384 delivered digests) (hhash : Hashed sha384 r delivered digests digests') :
    Published sha384 delivered digests' := by
  rcases hhash with rfl | ⟨fw, hfw, rfl⟩
  · exact h
  · intro r'
    by_cases hr : r' = r
    · subst hr
      exact Or.inr ⟨fw, hfw, property_store_hexText⟩
    · rw [property_store_ne hr]
      exact h r'

/-- A request keeps to what may be published. Its digest is cleared before the
device is opened, so a request that gets no firmware is no exception. -/
theorem run_methodComputeHash
    (h : Run (methodComputeHash b fuel behind digests) tr (some (ret, digests')))
    (henv : Follows (obedientEnv b sha384) s tr s') (hsound : SoundHashes b tr)
    (hpublished : Published sha384 s.1.delivered digests) :
    Published sha384 s'.1.delivered digests' := by
  have hbefore : Published sha384 s'.1.delivered digests :=
    hpublished.mono (ReadEngine.delivered_subset henv.left)
  cases requestRun_of_run h with
  | unread | invalid | unreplied => exact hbefore
  | @served retimerId seg ret digests' hvalid hread =>
      obtain ⟨s₁, -, s₂, -, henv₁⟩ := henv
      obtain ⟨s₃, henv₂, henv₃⟩ := follows_append.mp henv₁
      have hsound' : SoundHashes b seg := hsound.tail.tail.parts.1
      have hhashed := run_readFWImagenComputeHash hvalid hread henv₂ hsound'
      exact (hbefore.cleared _).hashed (hhashed.mono (ReadEngine.delivered_subset henv₃.left))

theorem run_serveRequests {count : Nat} {digests'' : Digests}
    (h : Run (serveRequests b fuel behind count digests) tr (some digests''))
    (henv : Follows (obedientEnv b sha384) s tr s') (hsound : SoundHashes b tr)
    (hpublished : Published sha384 s.1.delivered digests) :
    Published sha384 s'.1.delivered digests'' := by
  induction count generalizing tr s digests with
  | zero =>
      obtain ⟨rfl, heq⟩ := run_ret.mp h
      cases heq
      obtain rfl := follows_nil.mp henv
      exact hpublished
  | succ count ih =>
      obtain ⟨tr₁, res, tr₂, rfl, hrequest, hrest⟩ := run_bind.mp h
      obtain ⟨s₁, henv₁, henv₂⟩ := follows_append.mp henv
      rcases res with _ | ⟨ret', digests'⟩
      · cases (run_ret.mp hrest).2
      · obtain ⟨hsound₁, hsound₂⟩ := hsound.parts
        exact ih hrest henv₂ hsound₂ (run_methodComputeHash hrequest henv₁ hsound₁ hpublished)

end Requests

/-! ## A machine with a retimer -/

section Small

/-- SHA-384 of 256 zero bytes. -/
def blankHash : Vector UInt8 48 :=
  ⟨#[0x98, 0x39, 0x80, 0x37, 0x32, 0x13, 0x48, 0x2d, 0xd5, 0xc9, 0xa5, 0xa4,
    0x24, 0xdb, 0x89, 0x41, 0x8e, 0x33, 0x44, 0xc4, 0x59, 0xfa, 0x31, 0xa3,
    0x56, 0xe4, 0x2e, 0xaa, 0x28, 0x54, 0x4c, 0xa0, 0x1b, 0x98, 0x39, 0xf6,
    0x59, 0x3c, 0x9e, 0x5d, 0x79, 0xfd, 0x43, 0x9b, 0x5d, 0xa6, 0xeb, 0xef], rfl⟩

/-- SHA-384 of 256 bytes 0xA5. -/
def firmwareHash : Vector UInt8 48 :=
  ⟨#[0x29, 0x78, 0xcc, 0xc2, 0x5f, 0xa5, 0x24, 0x20, 0x9d, 0x18, 0xbf, 0xf5,
    0x69, 0x1f, 0x8f, 0x59, 0x6f, 0xf7, 0x28, 0x5a, 0xcf, 0x59, 0xd8, 0x9b,
    0xcd, 0x39, 0x6d, 0x01, 0x57, 0x8e, 0xa9, 0xfa, 0xa0, 0x12, 0xdc, 0x12,
    0x72, 0xed, 0x11, 0x3a, 0x74, 0x47, 0xd4, 0x15, 0x2d, 0x72, 0x76, 0xc4], rfl⟩

def smallFirmware : List UInt8 := List.replicate 256 0xA5

/-- SHA-384 on the two strings that are hashed here. -/
def smallSha384 (bs : List UInt8) : Vector UInt8 48 :=
  if bs = smallFirmware then firmwareHash else blankHash

/-- A read comes to an end when its status is asked for; `nacks` says how. -/
def endRead (nacks : Bool) (g : ReadEngine) : ReadEngine :=
  match g.reading with
  | none => g
  | some r =>
      if nacks then ⟨g.mem, none, true, g.delivered⟩
      else ⟨g.mem.store 0 smallFirmware, none, false, (r, smallFirmware) :: g.delivered⟩

/-- The FPGA, the file and the digest context, each doing what it is asked. -/
def serviceReply (b : Build) (nacks : Bool) : ReadEngine × TempFile × List UInt8 → (c : Call) →
    Option (Answer c × ReadEngine × TempFile × List UInt8)
  | (g, f, given), .i2cWrite _ slaveId writeData =>
      some (.ok (Vector.replicate 0 0), ⟨if slaveId = b.fpgaI2cCntrlAddr then
          g.mem.store (addressOf writeData) (payloadOf writeData) else g.mem,
        if IsReadTrigger b slaveId writeData then some (triggered writeData) else g.reading,
        g.nacked, g.delivered⟩, f, given)
  | (g, f, given), .i2cRead _ slaveId writeData n =>
      if slaveId = b.fpgaI2cCntrlAddr ∧ addressOf writeData = fpgaReadStatusReg.toNat then
        let g := endRead nacks g
        some (.ok ((Vector.replicate n 0).setIfInBounds 1 (if g.nacked then 1 else 0)), g, f, given)
      else some (.ok ⟨(g.mem.load (addressOf writeData) n).toArray, by simp⟩, g, f, given)
  | (g, f, given), .openFile p _ =>
      some (5, g, if p = hashFile then ⟨true, 5, if f.named then f.contents else [], 0⟩ else f,
        given)
  | (g, f, given), .unlink p =>
      some (true, g, if p = hashFile then { f with named := false } else f, given)
  | (g, f, given), .fstat _ => some (some f.contents.length, g, f, given)
  | (g, f, given), .ftruncate fd length =>
      some (true, g, if fd = f.fd then f.truncate length else f, given)
  | (g, f, given), .lseek fd off =>
      some (true, g, if fd = f.fd then { f with offset := off } else f, given)
  | (g, f, given), .read fd n =>
      if fd = f.fd then
        some (some ⟨slice f.contents f.offset n, List.length_take_le _ _⟩, g,
          { f with offset := f.offset + (slice f.contents f.offset n).length }, given)
      else none
  | (g, f, given), .write fd buf =>
      some (some (Fin.last buf.length), g, if fd = f.fd then f.writeAt buf else f, given)
  | (g, f, given), .malloc n => some (some (Vector.replicate n 0), g, f, given)
  | (g, f, given), .evpDigestInit => some (true, g, f, [])
  | (g, f, given), .evpDigestUpdate bs => some (true, g, f, given ++ bs)
  | (g, f, given), .evpDigestFinal => some (some (smallSha384 given), g, f, given)
  | (g, f, given), .access _ | (g, f, given), .evpMdCtxNew
  | (g, f, given), .sdBusReplyMethodReturn =>
      some (true, g, f, given)
  | (g, f, given), .sdBusMessageRead => some (some 0, g, f, given)
  | (g, f, given), .close _ | (g, f, given), .evpMdCtxFree
  | (g, f, given), .sdBusEmitPropertiesChanged _ => some ((), g, f, given)
  | _, _ => none

def smallService : ReadEngine × TempFile × List UInt8 :=
  (⟨fun _ => 0, none, false, []⟩, ⟨false, -1, [], 0⟩, [])

def smallRequest (nacks : Bool) : List SysEvent × Sys (Option Digests) ×
    ReadEngine × TempFile × List UInt8 :=
  play (serviceReply smallestBuild nacks) 60 smallService
    (serveRequests smallestBuild 5 0 1 initialDigests)

theorem ends_endRead {b : Build} {nacks : Bool} {g : ReadEngine}
    (hmax : b.maxFwImageSize = smallFirmware.length) :
    ReadEngine.Ends b g (endRead nacks g) ∧ (endRead nacks g).reading = none := by
  unfold endRead
  split
  · next hidle => exact ⟨.nothing, hidle⟩
  · next r hreading =>
      cases nacks with
      | true => exact ⟨.nacked hreading, rfl⟩
      | false => exact ⟨.delivered hreading hmax.symm, rfl⟩

theorem status_word {n : Nat} (hn : 2 ≤ n) (x : UInt8) :
    ((Vector.replicate n 0).setIfInBounds 1 x).toList.getD 0 0 = 0
      ∧ ((Vector.replicate n 0).setIfInBounds 1 x).toList.getD 1 0 = x := by
  obtain ⟨k, rfl⟩ : ∃ k, n = k + 2 := ⟨n - 2, by omega⟩
  simp [List.getD]

/-- What is no transaction is nothing to the FPGA. -/
theorem ReadEngine.step_other {b : Build} {g : ReadEngine} {c : Call} {a : Answer c}
    (hother : ¬IsTransaction c) : ReadEngine.step b g ⟨c, a⟩ g := by
  refine ⟨g, .nothing, ?_, ?_, ?_, rfl, rfl⟩
  all_goals
    cases c with
    | i2cWrite fd slaveId writeData => exact absurd trivial hother
    | i2cRead fd slaveId writeData n => exact absurd trivial hother
    | _ => first | exact fun _ _ => rfl | rfl | trivial

/-- Whoever asks for the status learns how the read has ended. -/
theorem ReadEngine.step_status {b : Build} {nacks : Bool} {g : ReadEngine} {fd : Int}
    {slaveId : UInt8} {writeData : List UInt8} {n : Nat}
    (hmax : b.maxFwImageSize = smallFirmware.length)
    (haddress : addressOf writeData = fpgaReadStatusReg.toNat) :
    ReadEngine.step b g ⟨.i2cRead fd slaveId writeData n,
      .ok ((Vector.replicate n 0).setIfInBounds 1 (if (endRead nacks g).nacked then 1 else 0))⟩
      (endRead nacks g) := by
  obtain ⟨hends, hidle⟩ := ends_endRead hmax
  refine ⟨endRead nacks g, hends, ⟨⟨fun _ _ => rfl, ?_⟩, rfl, ?_, rfl, rfl⟩⟩
  · intro _ hin
    rw [haddress] at hin
    exact absurd hin (Nat.not_le.mpr (Nat.lt_of_lt_of_le (by decide) (Nat.le_add_right _ _)))
  · intro _ _ hn
    obtain ⟨hbusy, hnack⟩ := status_word hn (if (endRead nacks g).nacked then 1 else 0)
    refine ⟨iff_of_false (fun h => h ?_) (not_not.mpr hidle), fun _ => ?_⟩
    · rw [hbusy]
      rfl
    · rw [ReadNacked, hnack]
      cases (endRead nacks g).nacked <;> decide

theorem serviceReply_sound {b : Build} {nacks : Bool}
    (hmax : b.maxFwImageSize = smallFirmware.length)
    {s s' : ReadEngine × TempFile × List UInt8} {c : Call} {a : Answer c}
    (h : serviceReply b nacks s c = some (a, s')) : serviceEnv b smallSha384 s ⟨c, a⟩ s' := by
  obtain ⟨g, f, given⟩ := s
  cases c with
  | i2cWrite fd slaveId writeData =>
      cases h
      refine ⟨⟨g, .nothing, ?_, ?_, trivial, rfl, rfl⟩, rfl, rfl⟩
      · simp only [Fpga.step]
        split <;> exact fun _ _ => rfl
      · simp only [ReadEngine.Starts]
        split
        · exact Or.inl rfl
        · rfl
  | i2cRead fd slaveId writeData n =>
      simp only [serviceReply] at h
      split at h
      · next hstatus =>
          cases h
          exact ⟨ReadEngine.step_status hmax hstatus.2, rfl, rfl⟩
      · next hdata =>
          cases h
          exact ⟨⟨g, .nothing, ⟨fun _ _ => rfl, fun _ _ => rfl⟩, rfl,
            fun hslave haddr => absurd ⟨hslave, haddr⟩ hdata, rfl, rfl⟩, rfl, rfl⟩
  | openFile p flags =>
      cases h
      refine ⟨ReadEngine.step_other id, ?_, rfl⟩
      simp [TempFile.step]
  | read fd n =>
      simp only [serviceReply] at h
      split at h
      · next hfd =>
          cases h
          refine ⟨ReadEngine.step_other id, ?_, rfl⟩
          simp only [TempFile.step, if_pos hfd]
          refine ⟨?_, fun hempty => ?_, trivial⟩
          · simp only [slice, List.length_take, List.take_eq_take_iff, List.length_drop]
            omega
          · simp only [slice, List.take_eq_nil_iff, List.drop_eq_nil_iff] at hempty
            exact hempty
      · cases h
  | write fd buf =>
      cases h
      refine ⟨ReadEngine.step_other id, ?_, rfl⟩
      simp only [TempFile.step, Fin.val_last, List.take_length]
  | fstat fd =>
      cases h
      exact ⟨ReadEngine.step_other id, ⟨rfl, fun _ => rfl⟩, rfl⟩
  | evpDigestFinal =>
      cases h
      exact ⟨ReadEngine.step_other id, rfl, rfl, rfl⟩
  | unlink _ | ftruncate _ _ | lseek _ _ | malloc _ | evpDigestInit | evpDigestUpdate _ | access _
  | evpMdCtxNew | sdBusReplyMethodReturn | sdBusMessageRead | close _ | evpMdCtxFree
  | sdBusEmitPropertiesChanged _ =>
      cases h
      exact ⟨ReadEngine.step_other id, rfl, rfl⟩
  | _ => cases h

/-- The engine that is played here takes notice of every trigger, so what is
played is a trace of `obedientEnv`. -/
theorem serviceReply_obedient {b : Build} {nacks : Bool}
    (hmax : b.maxFwImageSize = smallFirmware.length)
    {s s' : ReadEngine × TempFile × List UInt8} {c : Call} {a : Answer c}
    (h : serviceReply b nacks s c = some (a, s')) : obedientEnv b smallSha384 s ⟨c, a⟩ s' := by
  obtain ⟨hengine, hrest⟩ := serviceReply_sound hmax h
  refine ⟨⟨hengine, ?_⟩, hrest⟩
  cases c with
  | i2cWrite fd slaveId writeData =>
      cases h
      exact fun htrigger _ => if_pos htrigger
  | _ => trivial

def smallDigests (nacks : Bool) : Digests :=
  ((smallRequest nacks).2.1.result.getD none).getD initialDigests

theorem follows_smallRequest (nacks : Bool) : Follows (obedientEnv smallestBuild smallSha384)
    smallService (smallRequest nacks).1 (smallRequest nacks).2.2 :=
  follows_play (fun _ _ _ _ => serviceReply_obedient List.length_replicate.symm) 60 smallService _

theorem run_smallRequest (nacks : Bool) : Run (serveRequests smallestBuild 5 0 1 initialDigests)
    (smallRequest nacks).1 (some (smallDigests nacks)) := by
  have hdone : ((smallRequest nacks).2.1.result.getD none).isSome = true := by
    cases nacks <;> decide +kernel
  exact run_play_some hdone

/-- A trace in which one hash is finalised: only one place has to be looked at. -/
theorem SoundHashes.of_get {b : Build} {tr : List SysEvent} {i : Nat}
    (hi : tr[i]?.map (·.1) = some .evpDigestFinal)
    (hbefore : ∀ ev ∈ tr.take i, ev.1 ≠ .evpDigestFinal)
    (hafter : ∀ ev ∈ tr.drop (i + 1), ev.1 ≠ .evpDigestFinal) (hdone : LastReadDone b (tr.take i))
    (hfull : LastWriteFull (tr.take i)) : SoundHashes b tr := by
  intro pre hash post htr
  obtain ⟨hash', hcut⟩ := cut_at hi
  obtain ⟨mid, rfl, hrest⟩ := cut_after (hcut.symm.trans htr) fun hmem => hbefore _ hmem rfl
  cases mid with
  | nil =>
      rw [List.append_nil]
      exact ⟨hdone, hfull⟩
  | cons ev mid =>
      obtain ⟨-, hdrop⟩ := List.cons.inj hrest
      exact absurd rfl (hafter ⟨.evpDigestFinal, some hash⟩ (by rw [hdrop]; simp))

theorem sound_smallRequest : SoundHashes smallestBuild (smallRequest false).1 := by
  refine SoundHashes.of_get (i := 28) ?_ ?_ ?_ ?_ ?_
  · decide +kernel
  · decide +kernel
  · decide +kernel
  · unfold LastReadDone
    decide +kernel
  · unfold LastWriteFull
    decide +kernel

end Small

end Retimer
