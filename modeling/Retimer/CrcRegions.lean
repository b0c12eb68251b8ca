import Retimer.CompositeEncode

/-!
# The regions that are checksummed

`crc32` takes its length as an `int`, and the parser hands it a
`size_t`. The region is read from end to end, and the length counts down
to 0 from above, as long as it is shorter than 2^31 bytes
(`readsExactly_iff`). A longer region takes a file that is longer still,
which nothing excludes before the parser is called.

Which regions come to be summed up at all depends on how far the parser
gets, and `CrcCall` says it without the parser: the header, the
component headers and the images up to the first one that is not valid,
or the whole of a bare file. `crc_mem_iff` identifies these with the CRC
runs in the log of the scan, each with its length made an `int`; the
lemmas `crc_mem_…` before it are one for each reader and loop. The first
loop sums up headers only, which are short. The second loop has the
lengths that the headers give, and `HeadersOk` and `ImageOk` what is
known of them when it comes to one.

So it is the regions of 2^31 bytes or more (`HugeRegion`) that decide,
and `crcCalls_exact_iff` says that they do, in both directions.
`huge_file_shrinks` is such a file.
-/

namespace Retimer

open Interaction

/-! ## One call -/

/-- The bytes that `while (length--)` reads from `off` on. -/
def ReadBy (off : Nat) (length : Int32) (a : Nat) : Prop := ∃ i, i < crcRounds length ∧ a = off + i

/-- A call for `len` bytes at `off` of a file of `fwSize` bytes does what it
should: it reads the region and nothing else, the region lies in the file, and
the count never goes below 0 on its way to 0. -/
structure ReadsExactly (fwSize off len : Nat) : Prop where
  region : ∀ a, ReadBy off (toInt32 len) a ↔ off ≤ a ∧ a < off + len
  inside : off + len ≤ fwSize
  nonnegative : ∀ i, i ≤ crcRounds (toInt32 len) → 0 ≤ (toInt32 len - Int32.ofNat i).toInt
  ends : toInt32 len - Int32.ofNat (crcRounds (toInt32 len)) = 0

section Call

variable {fwSize off len : Nat} {length : Int32}

theorem readBy_iff_region : (∀ a, ReadBy off length a ↔ off ≤ a ∧ a < off + len)
    ↔ crcRounds length = len := by
  constructor
  · intro h
    rcases Nat.lt_trichotomy (crcRounds length) len with hlt | heq | hgt
    · -- the byte behind the last one that is read
      obtain ⟨i, hi, ha⟩ := (h (off + crcRounds length)).mpr ⟨by omega, by omega⟩
      omega
    · exact heq
    · have hread : ReadBy off length (off + len) := ⟨len, hgt, rfl⟩
      have hin := (h (off + len)).mp hread
      omega
  · rintro rfl a
    constructor
    · rintro ⟨i, hi, rfl⟩
      omega
    · rintro ⟨hlo, hhi⟩
      exact ⟨a - off, by omega, by omega⟩

theorem lt_of_nonnegative (hrounds : crcRounds (toInt32 len) = len)
    (h : 0 ≤ (toInt32 len).toInt) : len < 2 ^ 31 := by
  change 0 ≤ (BitVec.ofNat 32 len).toInt at h
  simp only [crcRounds, toInt32, Int32.toUInt32_ofNat', UInt32.toNat_ofNat', Nat.reducePow]
    at hrounds
  simp only [BitVec.toInt, BitVec.toNat_ofNat] at h
  omega

theorem nonnegative_of_lt (hlen : len < 2 ^ 31) {i : Nat} (hi : i ≤ len) :
    0 ≤ (toInt32 len - Int32.ofNat i).toInt := by
  change 0 ≤ (BitVec.ofNat 32 len - BitVec.ofNat 32 i).toInt
  simp only [BitVec.toInt, BitVec.toNat_sub, BitVec.toNat_ofNat]
  omega

theorem readsExactly_iff : ReadsExactly fwSize off len ↔ len < 2 ^ 31 ∧ off + len ≤ fwSize := by
  constructor
  · rintro ⟨hregion, hinside, hnonneg, -⟩
    have hstart : 0 ≤ (toInt32 len - Int32.ofNat 0).toInt := hnonneg 0 (Nat.zero_le _)
    have hzero : toInt32 len - Int32.ofNat 0 = toInt32 len := Int32.sub_zero _
    rw [hzero] at hstart
    exact ⟨lt_of_nonnegative (readBy_iff_region.mp hregion) hstart, hinside⟩
  · rintro ⟨hlen, hinside⟩
    have hrounds := crcRounds_toInt32 hlen
    refine ⟨readBy_iff_region.mpr hrounds, hinside, fun i hi => ?_, ?_⟩
    · rw [hrounds] at hi
      exact nonnegative_of_lt hlen hi
    · rw [hrounds]
      exact Int32.sub_self _

end Call

/-! ## The calls of the parser -/

/-- The headers from number `comp` on are valid and describe `ops`: images in
order from `next` on and inside the file, for retimers not yet covered. -/
def HeadersOk (image : List UInt8) (fwSize : Nat) :
    Nat → Nat → UInt32 → List UpdateOperation → Prop
  | _, _, covered, [] => covered ≤ retimerAll
  | comp, next, covered, op :: ops =>
      bytesAt image (componentHeaderAt comp + ComponentHeader.magic) 4 = componentHeaderMagic
        ∧ crcAt image (componentHeaderAt comp) 60
          = u32At image (componentHeaderAt comp + ComponentHeader.componentHeaderCrc)
        ∧ op = rawOperation image comp next ∧ next + op.imageLength ≤ fwSize
        ∧ covered &&& op.applyBitmap = 0
        ∧ HeadersOk image fwSize (comp + 1) (next + op.imageLength) (covered ||| op.applyBitmap) ops

/-- The image of `op` has the CRC that header `comp` gives. -/
def ImageOk (image : List UInt8) (comp : Nat) (op : UpdateOperation) : Prop :=
  crcAt image op.startOffset op.imageLength
    = u32At image (componentHeaderAt comp + ComponentHeader.imageCrc)

/-- The parser comes to the image of component `comp`, which is `op`: all
headers are valid, and so are the images before this one. -/
structure ImageReached (b : Build) (image : List UInt8) (fwSize : Nat) (calloc : Bool) (comp : Nat)
    (op : UpdateOperation) : Prop where
  composite : IsComposite image fwSize
  header : CompositeHeaderOk b image fwSize
  allocated : calloc = true
  components : ∃ ops, ops.length = componentCountOf image
    ∧ HeadersOk image fwSize 0 (componentHeaderAt (componentCountOf image)) 0 ops
    ∧ ops[comp]? = some op ∧ ∀ i op', i < comp → ops[i]? = some op' → ImageOk image i op'

/-- The parser hands `crc32` the `len` bytes at `off`. -/
inductive CrcCall (b : Build) (image : List UInt8) (fwSize : Nat) (calloc : Bool) :
    Nat → Nat → Prop where
  | bare (hbare : ¬IsComposite image fwSize) (halloc : calloc = true) :
      CrcCall b image fwSize calloc 0 fwSize
  | header (hcomp : IsComposite image fwSize) : CrcCall b image fwSize calloc 0 36
  | component {comp : Nat} (hcomp : IsComposite image fwSize)
      (hhead : CompositeHeaderOk b image fwSize) (halloc : calloc = true)
      (hcount : comp < componentCountOf image)
      (hreached : .crc32 (componentHeaderAt comp) 60 ∈ (verifyComponents b image fwSize
        (componentCountOf image) 0 (componentHeaderAt (componentCountOf image)) 0).log) :
      CrcCall b image fwSize calloc (componentHeaderAt comp) 60
  | image {comp : Nat} {op : UpdateOperation}
      (hreached : ImageReached b image fwSize calloc comp op) :
      CrcCall b image fwSize calloc op.startOffset op.imageLength

section Log

variable {α : Type} {b : Build} {image : List UInt8} {fwSize off o n : Nat} {l : Int32}

theorem crc_mem_readBytes_bind {f : List UInt8 → Parse α} :
    .crc32 off l ∈ (readBytes image o n >>= f).log
      ↔ .crc32 off l ∈ (f (bytesAt image o n)).log := by
  simp

theorem crc_mem_readU32_bind {f : UInt32 → Parse α} :
    .crc32 off l ∈ (readU32 image o >>= f).log ↔ .crc32 off l ∈ (f (u32At image o)).log := by
  simp

theorem crc_mem_readU8_bind {f : UInt8 → Parse α} :
    .crc32 off l ∈ (readU8 image o >>= f).log ↔ .crc32 off l ∈ (f (u8At image o)).log := by
  simp

theorem crc_mem_readCrc32_bind {f : UInt32 → Parse α} :
    .crc32 off l ∈ (readCrc32 image o n >>= f).log
      ↔ (off = o ∧ l = toInt32 n) ∨ .crc32 off l ∈ (f (crcAt image o n)).log := by
  simp

theorem mem_stopIf_bind {r : Access} {bad : Prop} [Decidable bad] {e : ParseExit}
    {f : Unit → Parse α} : r ∈ (Scan.stopIf bad e >>= f).log ↔ ¬bad ∧ r ∈ (f ()).log := by
  rw [Scan.mem_log_bind, Scan.log_stopIf]
  simp only [List.not_mem_nil, false_or, Scan.stopIf_ok]
  exact ⟨fun ⟨_, hbad, hr⟩ => ⟨hbad, hr⟩, fun ⟨hbad, hr⟩ => ⟨(), hbad, hr⟩⟩

theorem mem_bind_pure {β : Type} {r : Access} {x : Parse α} {f : α → β} :
    r ∈ (x >>= fun a => (pure (f a) : Parse β)).log ↔ r ∈ x.log := by
  rw [Scan.mem_log_bind]
  simp

/-- The first loop sums up headers only. -/
theorem crc_mem_verifyComponents {count comp next : Nat} {covered : UInt32}
    (h : .crc32 off l ∈ (verifyComponents b image fwSize count comp next covered).log) :
    ∃ i, i < comp + count ∧ off = componentHeaderAt i ∧ l = 60 := by
  induction count generalizing comp next covered with
  | zero => cases h
  | succ count ih =>
      simp only [verifyComponents, crc_mem_readBytes_bind, crc_mem_readU32_bind,
        crc_mem_readCrc32_bind, mem_stopIf_bind] at h
      rcases h with ⟨-, ⟨rfl, rfl⟩ | ⟨-, -, -, hrest⟩⟩
      · exact ⟨comp, by omega, rfl, rfl⟩
      · have hloop := mem_bind_pure.mp hrest
        obtain ⟨i, hi, hcall⟩ := ih hloop
        exact ⟨i, by omega, hcall⟩

/-- The second loop sums up the images, up to the first that is not valid, each
with its length cut to an `int`. -/
theorem crc_mem_verifyImages {comp : Nat} {ops : List UpdateOperation} :
    .crc32 off l ∈ (verifyImages image comp ops).log
      ↔ ∃ i op, ops[i]? = some op
        ∧ (∀ j op', j < i → ops[j]? = some op' → ImageOk image (comp + j) op')
        ∧ off = op.startOffset ∧ l = toInt32 op.imageLength := by
  induction ops generalizing comp with
  | nil => simp [verifyImages]
  | cons op ops ih =>
      simp only [verifyImages, crc_mem_readCrc32_bind, crc_mem_readU32_bind, mem_stopIf_bind,
        mem_bind_pure, not_not]
      rw [ih]
      constructor
      · rintro (hcall | ⟨himage, i, op', hop', hbefore, hcall⟩)
        · exact ⟨0, op, rfl, fun j _ hj => absurd hj (Nat.not_lt_zero j), hcall⟩
        · refine ⟨i + 1, op', hop', fun j op'' hj hop'' => ?_, hcall⟩
          cases j with
          | zero =>
              obtain rfl := Option.some.inj hop''
              exact himage
          | succ j =>
              have himage' := hbefore j op'' (by omega) hop''
              rwa [Nat.add_assoc, Nat.add_comm 1 j] at himage'
      · rintro ⟨i, op', hop', hbefore, hcall⟩
        cases i with
        | zero =>
            obtain rfl := Option.some.inj hop'
            exact Or.inl hcall
        | succ i =>
            refine Or.inr ⟨hbefore 0 op (Nat.zero_lt_succ i) rfl, i, op', hop', ?_, hcall⟩
            intro j op'' hj hop''
            have himage := hbefore (j + 1) op'' (by omega) hop''
            rwa [Nat.add_comm j 1, ← Nat.add_assoc] at himage

/-- What the first loop returns, and the test behind it, in terms of the
headers. -/
theorem verifyComponents_ok (hsize : fwSize < 2 ^ b.sizeBits) {count comp next : Nat}
    {covered : UInt32} {raw : List UpdateOperation} (hnext : next ≤ fwSize) :
    (∃ cov, (verifyComponents b image fwSize count comp next covered).outcome = .ok (cov, raw)
        ∧ ¬cov > retimerAll)
      ↔ raw.length = count ∧ HeadersOk image fwSize comp next covered raw := by
  induction count generalizing comp next covered raw with
  | zero =>
      simp only [verifyComponents, Scan.outcome_pure, Except.ok.injEq, Prod.mk.injEq,
        List.length_eq_zero_iff]
      constructor
      · rintro ⟨cov, ⟨rfl, rfl⟩, hcov⟩
        exact ⟨rfl, UInt32.not_lt.mp hcov⟩
      · rintro ⟨rfl, hcov⟩
        exact ⟨covered, ⟨rfl, rfl⟩, UInt32.not_lt.mpr hcov⟩
  | succ count ih =>
      simp only [verifyComponents_succ_ok b hsize hnext]
      constructor
      · rintro ⟨cov, ⟨hmagic, hcrc, hend, hdisj, rest, rfl, hrest⟩, hcov⟩
        obtain ⟨hlen, hheaders⟩ := (ih hend).mp ⟨cov, hrest, hcov⟩
        exact ⟨by rw [List.length_cons, hlen], hmagic, hcrc, rfl, hend, hdisj, hheaders⟩
      · rintro ⟨hlen, hheaders⟩
        cases raw with
        | nil => cases hlen
        | cons op raw =>
            obtain ⟨hmagic, hcrc, rfl, hend, hdisj, hheaders⟩ := hheaders
            obtain ⟨cov, hrest, hcov⟩ := (ih hend).mpr ⟨Nat.succ.inj hlen, hheaders⟩
            exact ⟨cov, ⟨hmagic, hcrc, hend, hdisj, raw, rfl, hrest⟩, hcov⟩

theorem HeadersOk.inside {comp next : Nat} {covered : UInt32} {ops : List UpdateOperation}
    (h : HeadersOk image fwSize comp next covered ops) :
    ∀ op ∈ ops, op.startOffset + op.imageLength ≤ fwSize := by
  induction ops generalizing comp next covered with
  | nil =>
      intro op hop
      cases hop
  | cons op ops ih =>
      obtain ⟨-, -, rfl, hend, -, hrest⟩ := h
      intro op' hop'
      rcases List.mem_cons.mp hop' with rfl | hmem
      · exact hend
      · exact ih hrest op' hmem

end Log

section Parser

variable {b : Build} {image : List UInt8} {fwSize off : Nat} {l : Int32} {calloc : Bool}
  {pldmVersionStr : List UInt8}

theorem crc_mem_parseBare : .crc32 off l ∈ (parseBare image fwSize pldmVersionStr calloc).log
    ↔ calloc = true ∧ off = 0 ∧ l = toInt32 fwSize := by
  simp only [parseBare, mem_stopIf_bind, crc_mem_readCrc32_bind, Scan.log_pure, List.not_mem_nil,
    or_false, Bool.not_eq_false]

theorem crc_mem_parseComposite (hsize : fwSize < 2 ^ b.sizeBits)
    (hcomp : IsComposite image fwSize) :
    .crc32 off l ∈ (parseComposite b image fwSize calloc).log
      ↔ ∃ len, CrcCall b image fwSize calloc off len ∧ l = toInt32 len := by
  simp only [parseComposite, crc_mem_readU32_bind, crc_mem_readU8_bind, crc_mem_readCrc32_bind,
    mem_stopIf_bind]
  rw [Scan.mem_log_bind]
  simp only [mem_stopIf_bind, mem_bind_pure, not_not, Nat.not_lt, Bool.not_eq_false]
  constructor
  · rintro (⟨rfl, rfl⟩ | ⟨hcrc, hversion, hplatform, hcount, hlength, hfit, -, halloc, hloops⟩)
    · exact ⟨36, .header hcomp, rfl⟩
    · have hhead : CompositeHeaderOk b image fwSize :=
        ⟨hcrc, hversion, hplatform, hcount, hlength, hfit⟩
      rcases hloops with hmem | ⟨⟨cov, raw⟩, hraw, hcov, hmem⟩
      · obtain ⟨i, hi, rfl, rfl⟩ := crc_mem_verifyComponents hmem
        exact ⟨60, .component hcomp hhead halloc (by rwa [Nat.zero_add] at hi) hmem, rfl⟩
      · obtain ⟨hlen, hheaders⟩ := (verifyComponents_ok hsize hfit).mp ⟨cov, hraw, hcov⟩
        obtain ⟨i, op, hop, hbefore, rfl, rfl⟩ := crc_mem_verifyImages.mp hmem
        have himages : ∀ j op', j < i → raw[j]? = some op' → ImageOk image j op' := by
          intro j op' hj hop'
          have himage := hbefore j op' hj hop'
          rwa [Nat.zero_add] at himage
        exact ⟨op.imageLength, .image ⟨hcomp, hhead, halloc, raw, hlen, hheaders, hop, himages⟩,
          rfl⟩
  · rintro ⟨len, hcall, rfl⟩
    cases hcall with
    | bare hbare halloc => exact absurd hcomp hbare
    | header hcomp => exact Or.inl ⟨rfl, rfl⟩
    | component _ hhead halloc hcount hreached =>
        have hpos := componentCount_ne_zero.mpr (Nat.ne_zero_of_lt hcount)
        exact Or.inr ⟨hhead.headerCrc, hhead.majorVersion, hhead.platformType,
          hhead.componentCount, hhead.fileLength, hhead.headersFit, hpos, halloc,
          Or.inl hreached⟩
    | @image comp op hreached =>
        obtain ⟨-, hhead, halloc, ops, hlen, hheaders, hop, himages⟩ := hreached
        have hlt : comp < componentCountOf image := hlen ▸ (List.getElem?_eq_some_iff.mp hop).1
        have hpos := componentCount_ne_zero.mpr (Nat.ne_zero_of_lt hlt)
        obtain ⟨cov, hraw, hcov⟩ := (verifyComponents_ok hsize hhead.headersFit).mpr
          ⟨hlen, hheaders⟩
        refine Or.inr ⟨hhead.headerCrc, hhead.majorVersion, hhead.platformType,
          hhead.componentCount, hhead.fileLength, hhead.headersFit, hpos, halloc,
          Or.inr ⟨(cov, ops), hraw, hcov, crc_mem_verifyImages.mpr
            ⟨comp, op, hop, fun j op' hj hop' => ?_, rfl, rfl⟩⟩⟩
        rw [Nat.zero_add]
        exact himages j op' hj hop'

/-- The accesses that are CRC runs are the calls, each with its length made an
`int`. -/
theorem crc_mem_iff (hsize : fwSize < 2 ^ b.sizeBits) :
    .crc32 off l ∈ (parseCompositeImage b image fwSize pldmVersionStr calloc).accesses
      ↔ ∃ len, CrcCall b image fwSize calloc off len ∧ l = toInt32 len := by
  have hbare : ¬IsComposite image fwSize →
      (.crc32 off l ∈ (parseBare image fwSize pldmVersionStr calloc).log
        ↔ ∃ len, CrcCall b image fwSize calloc off len ∧ l = toInt32 len) := by
    intro hnot
    rw [crc_mem_parseBare]
    constructor
    · rintro ⟨halloc, rfl, rfl⟩
      exact ⟨fwSize, .bare hnot halloc, rfl⟩
    · rintro ⟨len, hcall, rfl⟩
      cases hcall with
      | bare _ halloc => exact ⟨halloc, rfl, rfl⟩
      | header hcomp => exact absurd hcomp hnot
      | component hcomp hhead halloc hcount hreached => exact absurd hcomp hnot
      | image hreached => exact absurd hreached.composite hnot
  rw [log_parseCompositeImage]
  unfold parseImage
  split
  · next hshort => exact hbare fun hcomp => Nat.not_le.mpr hshort hcomp.1
  · next hlong =>
      rw [crc_mem_readBytes_bind]
      split
      · next huuid => exact hbare fun hcomp => huuid hcomp.2
      · next huuid => exact crc_mem_parseComposite hsize ⟨Nat.not_lt.mp hlong, not_not.mp huuid⟩

/-- A region of 2^31 bytes or more comes to be summed up: the whole of a bare
file, or an image of a composite one. -/
def HugeRegion (b : Build) (image : List UInt8) (fwSize : Nat) (calloc : Bool) : Prop :=
  (¬IsComposite image fwSize ∧ calloc = true ∧ 2 ^ 31 ≤ fwSize)
    ∨ ∃ comp op, ImageReached b image fwSize calloc comp op ∧ 2 ^ 31 ≤ op.imageLength

theorem CrcCall.readsExactly {len : Nat} (hhuge : ¬HugeRegion b image fwSize calloc)
    (h : CrcCall b image fwSize calloc off len) : ReadsExactly fwSize off len := by
  rw [readsExactly_iff]
  cases h with
  | bare hbare halloc =>
      refine ⟨?_, Nat.le_of_eq (Nat.zero_add _)⟩
      by_contra hlarge
      exact hhuge (Or.inl ⟨hbare, halloc, Nat.not_lt.mp hlarge⟩)
  | header hcomp =>
      have hsize : 40 ≤ fwSize := hcomp.1
      exact ⟨by decide, by omega⟩
  | @component comp hcomp hhead halloc hcount hreached =>
      have hfit := Nat.le_trans (componentHeaderAt_mono hcount) hhead.headersFit
      rw [componentHeaderAt_succ] at hfit
      exact ⟨by decide, Nat.le_trans (Nat.add_le_add_left (by decide) _) hfit⟩
  | image hreached =>
      obtain ⟨ops, -, hheaders, hop, -⟩ := hreached.components
      refine ⟨?_, hheaders.inside _ (List.mem_of_getElem? hop)⟩
      by_contra hlarge
      exact hhuge (Or.inr ⟨_, _, hreached, Nat.not_lt.mp hlarge⟩)

end Parser

/-- **The regions that are summed up.** The CRC runs of the parser are the calls
of `CrcCall`, and all of them read their region exactly unless one of 2^31 bytes
or more comes to be summed up. The width of `size_t` is that of the build; with
32 bits there are such files too. -/
theorem crcCalls_exact_iff (b : Build) (image : List UInt8) (hsize : image.length < 2 ^ b.sizeBits)
    (pldmVersionStr : List UInt8) (calloc : Bool) :
    (∀ off l, .crc32 off l ∈ (parseCompositeImage b image image.length pldmVersionStr
          calloc).accesses
        ↔ ∃ len, CrcCall b image image.length calloc off len ∧ l = toInt32 len)
      ∧ ((∀ off len, CrcCall b image image.length calloc off len →
          ReadsExactly image.length off len)
        ↔ ¬HugeRegion b image image.length calloc) := by
  refine ⟨fun _ _ => crc_mem_iff hsize, fun hexact => ?_, fun hhuge _ _ hcall =>
    hcall.readsExactly hhuge⟩
  rintro (⟨hbare, halloc, hlarge⟩ | ⟨comp, op, hreached, hlarge⟩)
  · have hlen := (readsExactly_iff.mp (hexact _ _ (.bare hbare halloc))).1
    exact Nat.not_le.mpr hlen hlarge
  · have hlen := (readsExactly_iff.mp (hexact _ _ (.image hreached))).1
    exact Nat.not_le.mpr hlen hlarge

section Small

theorem crcCalls_exact_iff_pair :
    (∀ off l, .crc32 off l ∈ (parseCompositeImage defaultBuild pairPackage.encode
          pairPackage.encode.length [] true).accesses
        ↔ ∃ len, CrcCall defaultBuild pairPackage.encode pairPackage.encode.length true off len
          ∧ l = toInt32 len)
      ∧ ((∀ off len,
          CrcCall defaultBuild pairPackage.encode pairPackage.encode.length true off len →
            ReadsExactly pairPackage.encode.length off len)
        ↔ ¬HugeRegion defaultBuild pairPackage.encode pairPackage.encode.length true) :=
  crcCalls_exact_iff defaultBuild pairPackage.encode
    ((pairPackage.length_encode.trans_lt pairPackage.size_lt).trans (by decide)) [] true

theorem not_composite_zeros (n : Nat) : ¬IsComposite (List.replicate n 0) n := by
  rintro ⟨-, huuid⟩
  have hzero : (0x8c : UInt8) ∈ bytesAt (List.replicate n 0) CompositeImageHeader.uuid 16 := by
    rw [huuid]
    decide
  have hmem := List.mem_of_mem_drop (List.mem_of_mem_take hzero)
  exact absurd (List.eq_of_mem_replicate hmem) (by decide)

/-- Of a bare file that is one byte longer than 2^32 bytes, one byte is summed
up. -/
theorem huge_file_shrinks :
    ¬∀ (b : Build) (image pldmVersionStr : List UInt8) (calloc : Bool) (off len : Nat),
      image.length < 2 ^ b.sizeBits →
      .crc32 off (toInt32 len) ∈ (parseCompositeImage b image image.length pldmVersionStr
        calloc).accesses →
      CrcCall b image image.length calloc off len → ReadsExactly image.length off len := by
  intro h
  have hlength : (List.replicate (2 ^ 32 + 1) (0 : UInt8)).length = 2 ^ 32 + 1 :=
    List.length_replicate
  have hbits : 2 ^ 32 + 1 < 2 ^ defaultBuild.sizeBits := by
    show 2 ^ 32 + 1 < 2 ^ 64
    decide
  have hcall : CrcCall defaultBuild (List.replicate (2 ^ 32 + 1) 0) (2 ^ 32 + 1) true 0
      (2 ^ 32 + 1) := .bare (not_composite_zeros _) rfl
  have hrun : .crc32 0 (toInt32 (2 ^ 32 + 1)) ∈ (parseCompositeImage defaultBuild
      (List.replicate (2 ^ 32 + 1) 0) (2 ^ 32 + 1) [] true).accesses :=
    (crc_mem_iff hbits).mpr ⟨_, hcall, rfl⟩
  have hexact := h defaultBuild (List.replicate (2 ^ 32 + 1) 0) [] true 0 (2 ^ 32 + 1)
  rw [hlength] at hexact
  have hlen := (readsExactly_iff.mp (hexact hbits hrun hcall)).1
  exact absurd hlen (by decide)

end Small

end Retimer
