import Retimer.CompositeLayout

/-!
# Soundness of the parser on arbitrary files

Whatever the bytes, the parser reads inside the file
(`parseImage_inBounds`), and what it returns describes regions of the
file that lie in order, do not overlap and have the CRCs that the
headers give, for disjoint sets of retimers (`SoundOps`).

The second half is read off the layout, one property after the other and
each by induction over `Laid`: `Laid.inside`, `Laid.chain`,
`Laid.component`, `Laid.crc`, `Laid.bitmap`, `Laid.disjoint`. The
bitmaps are words, and their order and disjointness come from the three
lemmas about `|||` and `&&&` at the top.

The first half is about every file, also those that are rejected in the
end, so it goes through the scan: at each access the checks made before
it are hypotheses. The first loop reads headers that the header's own
bounds test has placed in the file (`verifyComponents_inBounds`); the
second reads the regions that the first one let through
(`verifyComponents_inside`), which is why these have to be in bounds
even where an image later turns out to be damaged. A CRC run is logged
with the `int` it was given, which for files below 2^31 bytes is the
length that was meant.
-/

namespace Retimer

open Interaction

/-! ## Bitmaps -/

theorem bitmap_left_le {x y z : UInt32} (h : x ||| y ≤ z) : x ≤ z := by
  rw [UInt32.le_iff_toNat_le] at h ⊢
  rw [UInt32.toNat_or] at h
  exact Nat.le_trans Nat.left_le_or h

theorem bitmap_right_le {x y z : UInt32} (h : x ||| y ≤ z) : y ≤ z :=
  bitmap_left_le (by rwa [UInt32.or_comm])

theorem bitmap_or_disjoint {x y z : UInt32} (h : (x ||| y) &&& z = 0) :
    x &&& z = 0 ∧ y &&& z = 0 := by
  have hz : (x &&& z) ||| (y &&& z) = 0 := by
    rw [← h, ← UInt32.toBitVec_inj]
    exact BitVec.and_or_distrib_right.symm
  exact UInt32.or_eq_zero_iff.mp hz

/-! ## What laid out components have in common -/

section Laid

variable {image : List UInt8} {fwSize comp next : Nat} {covered : UInt32}
  {ops : List UpdateOperation}

theorem Laid.covered_le (h : Laid image fwSize comp next covered ops) : covered ≤ retimerAll := by
  induction ops generalizing comp next covered with
  | nil => exact h
  | cons op ops ih => exact bitmap_left_le (ih h.2.2.2.2)

/-- Images lie behind `next` and inside the file. -/
theorem Laid.inside (h : Laid image fwSize comp next covered ops) :
    ∀ op ∈ ops, next ≤ op.startOffset ∧ op.startOffset + op.imageLength ≤ fwSize := by
  induction ops generalizing comp next covered with
  | nil => intro op hop; cases hop
  | cons op ops ih =>
      obtain ⟨_, rfl, hend, _, hrest⟩ := h
      intro op' hop'
      rcases List.mem_cons.mp hop' with rfl | hmem
      · exact ⟨Nat.le_refl _, hend⟩
      · have hin := ih hrest op' hmem
        exact ⟨Nat.le_trans (Nat.le_add_right _ _) hin.1, hin.2⟩

theorem Laid.chain (h : Laid image fwSize comp next covered ops) :
    ops.IsChain fun x y => y.startOffset = x.startOffset + x.imageLength := by
  induction ops generalizing comp next covered with
  | nil => exact .nil
  | cons op ops ih =>
      obtain ⟨_, rfl, _, _, hrest⟩ := h
      cases ops with
      | nil => exact .singleton _
      | cons op' ops => exact .cons_cons hrest.2.1 (ih hrest)

theorem Laid.component (h : Laid image fwSize comp next covered ops) :
    ∀ i op, ops[i]? = some op → ComponentOk image (comp + i) op := by
  induction ops generalizing comp next covered with
  | nil => intro i op hi; simp at hi
  | cons op ops ih =>
      obtain ⟨hop, _, _, _, hrest⟩ := h
      intro i op' hi
      cases i with
      | zero =>
          obtain rfl := Option.some.inj hi
          exact hop
      | succ i =>
          have hcomp := ih hrest i op' (by simpa using hi)
          rwa [Nat.add_right_comm, Nat.add_assoc] at hcomp

theorem Laid.crc (h : Laid image fwSize comp next covered ops) :
    ∀ op ∈ ops, crcAt image op.startOffset op.imageLength = op.imageCrc := by
  intro op hop
  obtain ⟨i, hi⟩ := List.mem_iff_getElem?.mp hop
  exact (h.component i op hi).imageCrc_eq

theorem Laid.bitmap (h : Laid image fwSize comp next covered ops) :
    ∀ op ∈ ops, covered &&& op.applyBitmap = 0 ∧ op.applyBitmap ≤ retimerAll := by
  induction ops generalizing comp next covered with
  | nil => intro op hop; cases hop
  | cons op ops ih =>
      obtain ⟨_, _, _, hdisj, hrest⟩ := h
      intro op' hop'
      rcases List.mem_cons.mp hop' with rfl | hmem
      · exact ⟨hdisj, bitmap_right_le hrest.covered_le⟩
      · have hrec := ih hrest op' hmem
        exact ⟨(bitmap_or_disjoint hrec.1).1, hrec.2⟩

theorem Laid.disjoint (h : Laid image fwSize comp next covered ops) :
    ops.Pairwise fun x y => x.applyBitmap &&& y.applyBitmap = 0 := by
  induction ops generalizing comp next covered with
  | nil => exact .nil
  | cons op ops ih =>
      obtain ⟨_, _, _, _, hrest⟩ := h
      exact .cons (fun op' hop' => (bitmap_or_disjoint (hrest.bitmap op' hop').1).2) (ih hrest)

end Laid

/-! ## Reads -/

/-- The read stays inside the first `fwSize` bytes. A call of `crc32` reads as
many bytes as its loop has rounds, which for a negative length are more than
there is memory. -/
def Access.InBounds (fwSize : Nat) : Access → Prop
  | .bytes off len => off + len ≤ fwSize
  | .crc32 off length => off + crcRounds length ≤ fwSize

section Log

variable {α : Type} {image : List UInt8} {off n : Nat} {P : Access → Prop}

@[simp] theorem log_readBytes_bind (f : List UInt8 → Parse α) :
    (readBytes image off n >>= f).log = .bytes off n :: (f (bytesAt image off n)).log := rfl

@[simp] theorem log_readU32_bind (f : UInt32 → Parse α) :
    (readU32 image off >>= f).log = .bytes off 4 :: (f (u32At image off)).log := rfl

@[simp] theorem log_readU8_bind (f : UInt8 → Parse α) :
    (readU8 image off >>= f).log = .bytes off 1 :: (f (u8At image off)).log := rfl

@[simp] theorem log_readCrc32_bind (f : UInt32 → Parse α) :
    (readCrc32 image off n >>= f).log = .crc32 off (toInt32 n) :: (f (crcAt image off n)).log := rfl

@[simp] theorem forall_log_stopIf_bind {bad : Prop} [Decidable bad] {e : ParseExit}
    {f : Unit → Parse α} :
    (∀ r ∈ (Scan.stopIf bad e >>= f).log, P r) ↔ (¬bad → ∀ r ∈ (f ()).log, P r) := by
  rw [Scan.forall_log_bind]
  simp only [Scan.log_stopIf, List.not_mem_nil, false_implies, implies_true, Scan.stopIf_ok,
    true_and]
  exact ⟨fun h => h (), fun h _ => h⟩

end Log

theorem componentHeaderAt_succ (comp : Nat) :
    componentHeaderAt (comp + 1) = componentHeaderAt comp + ComponentHeader.size := by
  simp only [componentHeaderAt, ComponentHeader.size]
  omega

theorem componentHeaderAt_mono {i j : Nat} (h : i ≤ j) :
    componentHeaderAt i ≤ componentHeaderAt j := by
  simp only [componentHeaderAt, ComponentHeader.size]
  omega

theorem verifyComponents_inBounds (b : Build) {image : List UInt8} {fwSize count comp next : Nat}
    {covered : UInt32} (hfit : componentHeaderAt (comp + count) ≤ fwSize) :
    ∀ r ∈ (verifyComponents b image fwSize count comp next covered).log, r.InBounds fwSize := by
  induction count generalizing comp next covered with
  | zero => simp [verifyComponents]
  | succ count ih =>
      have hheader : componentHeaderAt comp + 64 ≤ fwSize := by
        have := componentHeaderAt_mono (show comp + 1 ≤ comp + (count + 1) by omega)
        rw [componentHeaderAt_succ] at this
        exact Nat.le_trans this hfit
      have h60 : crcRounds (toInt32 60) = 60 := crcRounds_toInt32 (by decide)
      simp only [verifyComponents, log_readBytes_bind, log_readU32_bind, log_readCrc32_bind,
        List.forall_mem_cons, forall_log_stopIf_bind, Access.InBounds, h60,
        ComponentHeader.magic, ComponentHeader.componentHeaderCrc, ComponentHeader.imageLength,
        ComponentHeader.applyBitmap, ComponentHeader.versionString]
      refine ⟨by omega, fun _ => ⟨by omega, by omega, fun _ => ⟨by omega, fun _ =>
        ⟨by omega, fun _ => ⟨by omega, ?_⟩⟩⟩⟩⟩
      refine Scan.forall_log_bind.mpr ⟨ih ?_, fun _ _ => by simp⟩
      rwa [Nat.add_right_comm, Nat.add_assoc]

/-- The regions the first loop lets through lie inside the file. `next` never
passes the end of the file, so the difference that the code compares with does
not wrap around. -/
theorem verifyComponents_inside (b : Build) {image : List UInt8} {fwSize count comp next : Nat}
    {covered cov : UInt32} {raw : List UpdateOperation} (hsize : fwSize < 2 ^ b.sizeBits)
    (hnext : next ≤ fwSize)
    (h : (verifyComponents b image fwSize count comp next covered).outcome = .ok (cov, raw)) :
    ∀ op ∈ raw, op.startOffset + op.imageLength ≤ fwSize := by
  induction count generalizing comp next covered raw with
  | zero =>
      obtain ⟨-, rfl⟩ : covered = cov ∧ [] = raw := by simpa [verifyComponents] using h
      intro op hop
      cases hop
  | succ count ih =>
      obtain ⟨-, -, hend, -, rest, rfl, hrest⟩ := (verifyComponents_succ_ok b hsize hnext).mp h
      intro op hop
      rcases List.mem_cons.mp hop with rfl | hmem
      · exact hend
      · exact ih hend hrest op hmem

theorem verifyImages_inBounds {image : List UInt8} {fwSize comp : Nat}
    {raw : List UpdateOperation} (hsize : fwSize < 2 ^ 31)
    (hfit : componentHeaderAt (comp + raw.length) ≤ fwSize)
    (hraw : ∀ op ∈ raw, op.startOffset + op.imageLength ≤ fwSize) :
    ∀ r ∈ (verifyImages image comp raw).log, r.InBounds fwSize := by
  induction raw generalizing comp with
  | nil => simp [verifyImages]
  | cons op raw ih =>
      have hop := hraw op List.mem_cons_self
      have hheader : componentHeaderAt comp + 64 ≤ fwSize := by
        have := componentHeaderAt_mono (show comp + 1 ≤ comp + (op :: raw).length by simp)
        rw [componentHeaderAt_succ] at this
        exact Nat.le_trans this hfit
      have hrounds : crcRounds (toInt32 op.imageLength) = op.imageLength :=
        crcRounds_toInt32 (by omega)
      simp only [verifyImages, log_readU32_bind, log_readCrc32_bind, List.forall_mem_cons,
        forall_log_stopIf_bind, Access.InBounds, hrounds, ComponentHeader.imageCrc]
      refine ⟨hop, by omega, fun _ => ?_⟩
      refine Scan.forall_log_bind.mpr ⟨ih ?_ fun op' hop' => hraw op' (List.mem_cons_of_mem _ hop'),
        fun _ _ => by simp⟩
      rwa [Nat.add_right_comm, Nat.add_assoc]

theorem verifyComponents_length (b : Build) {image : List UInt8} {fwSize count comp next : Nat}
    {covered cov : UInt32} {raw : List UpdateOperation} (hsize : fwSize < 2 ^ b.sizeBits)
    (hnext : next ≤ fwSize)
    (h : (verifyComponents b image fwSize count comp next covered).outcome = .ok (cov, raw)) :
    raw.length = count := by
  induction count generalizing comp next covered raw with
  | zero =>
      obtain ⟨-, rfl⟩ : covered = cov ∧ [] = raw := by simpa [verifyComponents] using h
      rfl
  | succ count ih =>
      obtain ⟨-, -, hend, -, rest, rfl, hrest⟩ := (verifyComponents_succ_ok b hsize hnext).mp h
      rw [List.length_cons, ih hend hrest]

theorem parseComposite_inBounds (b : Build) {image : List UInt8} {fwSize : Nat} {calloc : Bool}
    (hsize : fwSize < 2 ^ 31) (hcomp : IsComposite image fwSize) :
    ∀ r ∈ (parseComposite b image fwSize calloc).log, r.InBounds fwSize := by
  have hheader : 40 ≤ fwSize := hcomp.1
  have h36 : crcRounds (toInt32 36) = 36 := crcRounds_toInt32 (by decide)
  simp only [parseComposite, log_readU32_bind, log_readU8_bind, log_readCrc32_bind,
    List.forall_mem_cons, forall_log_stopIf_bind, Access.InBounds, h36,
    CompositeImageHeader.headerCrc, CompositeImageHeader.majorVersion,
    CompositeImageHeader.platformType, CompositeImageHeader.componentCount,
    CompositeImageHeader.fileLength, CompositeImageHeader.sku]
  refine ⟨by omega, by omega, fun _ => ⟨by omega, fun _ => ⟨by omega, fun _ => ⟨by omega,
    fun _ => ⟨by omega, fun _ => ⟨by omega, fun hfit _ _ => ?_⟩⟩⟩⟩⟩⟩
  have hfit := Nat.not_lt.mp hfit
  refine Scan.forall_log_bind.mpr ⟨verifyComponents_inBounds b (by rwa [Nat.zero_add]), ?_⟩
  rintro ⟨cov, raw⟩ hraw
  refine forall_log_stopIf_bind.mpr fun _ => Scan.forall_log_bind.mpr ⟨?_, fun _ _ => by simp⟩
  refine verifyImages_inBounds hsize ?_ (verifyComponents_inside b (b.fits_size hsize) hfit hraw)
  rwa [Nat.zero_add, verifyComponents_length b (b.fits_size hsize) hfit hraw]

/-- Every byte the parser reads lies inside the file. The log is gone through in
the order of the code: what a check has established of the size is what the next
access needs. -/
theorem parseImage_inBounds (b : Build) {image : List UInt8} {fwSize : Nat}
    {pldmVersionStr : List UInt8} {calloc : Bool} (hsize : fwSize < 2 ^ 31) :
    ∀ r ∈ (parseImage b image fwSize pldmVersionStr calloc).log, r.InBounds fwSize := by
  have hbare : ∀ r ∈ (parseBare image fwSize pldmVersionStr calloc).log, r.InBounds fwSize := by
    simp [parseBare, Access.InBounds, crcRounds_toInt32 hsize]
  unfold parseImage
  split
  · exact hbare
  · next hlen =>
      have hlen : 40 ≤ fwSize := Nat.not_lt.mp hlen
      rw [log_readBytes_bind, List.forall_mem_cons]
      refine ⟨by simp only [Access.InBounds, CompositeImageHeader.uuid]; omega, ?_⟩
      split
      · exact hbare
      · next huuid => exact parseComposite_inBounds b hsize ⟨hlen, not_not.mp huuid⟩

/-! ## The operations -/

/-- A complete and sound list of `count` operations for the file: images in
order, inside the file and without overlap, each with its CRC, for retimers that
exist and no two of them for the same one. -/
structure SoundOps (image : List UInt8) (count : Nat) (ops : List UpdateOperation) : Prop where
  complete : ops.length = count
  count_le : count ≤ 8
  inside : ∀ op ∈ ops, op.startOffset + op.imageLength ≤ image.length
  crc : ∀ op ∈ ops, op.imageCrc
    = crc32 (slice image op.startOffset op.imageLength) (toInt32 op.imageLength)
  bitmap : ∀ op ∈ ops, op.applyBitmap ≤ 0xFF
  disjoint : ops.Pairwise fun x y => x.applyBitmap &&& y.applyBitmap = 0
  behindHeaders : IsComposite image image.length →
    ∀ op ∈ ops, componentHeaderAt count ≤ op.startOffset
  contiguous : ops.IsChain fun x y => y.startOffset = x.startOffset + x.imageLength

theorem crcAt_eq_slice {image : List UInt8} {off len : Nat} (h : len < 2 ^ 31) :
    crcAt image off len = crc32 (slice image off len) (toInt32 len) :=
  (crc32_take h).symm

theorem Parsed.sound (b : Build) {image : List UInt8} {pldmVersionStr : List UInt8}
    {res : Option (List UpdateOperation)} (hsize : image.length < 2 ^ 31)
    (h : Parsed b image image.length pldmVersionStr res) :
    SoundOps image (res.getD []).length (res.getD []) := by
  cases h with
  | bare hbare =>
      refine ⟨rfl, ?_, ?_, ?_, ?_, List.pairwise_singleton _ _, fun hcomp => absurd hcomp hbare,
        .singleton _⟩
      · simp
      · simp
      · simp [crcAt_eq_slice hsize]
      · simp [retimerAll]
  | empty hcomp hhead hzero =>
      refine ⟨rfl, by decide, ?_, ?_, ?_, .nil, ?_, .nil⟩ <;> simp
  | @composite ops hcomp hhead hpos hlen hlaid =>
      refine ⟨rfl, ?_, fun op hop => (hlaid.inside op hop).2, ?_,
        fun op hop => (hlaid.bitmap op hop).2, hlaid.disjoint, fun _ op hop => ?_, hlaid.chain⟩
      · rw [Option.getD_some, hlen]
        exact hhead.componentCount
      · intro op hop
        rw [← hlaid.crc op hop]
        exact crcAt_eq_slice (by have := (hlaid.inside op hop).2; omega)
      · rw [Option.getD_some, hlen]
        exact (hlaid.inside op hop).1

theorem log_parseCompositeImage {b : Build} {image : List UInt8} {fwSize : Nat}
    {pldmVersionStr : List UInt8} {calloc : Bool} :
    (parseCompositeImage b image fwSize pldmVersionStr calloc).accesses
      = (parseImage b image fwSize pldmVersionStr calloc).log := by
  cases hout : (parseImage b image fwSize pldmVersionStr calloc).outcome with
  | ok res => rw [parse_ok b hout]
  | error exit => rw [parse_error b hout]

end Retimer
