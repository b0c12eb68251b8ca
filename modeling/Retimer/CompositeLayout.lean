import Retimer.Composite

/-!
# What an accepted composite image looks like

The two loops of `parseCompositeImage` check headers and images apart.
Here they are one description of the file (`Laid`): a component after
the other, each with a valid header and image (`ComponentOk`), starting
where the one before ends and targeting retimers not yet targeted. It is
a recursion over the operations, and carries what the first loop
carries: the number of the component, the offset its image starts at and
the bitmap covered so far.

`verify_ok` has the two loops together succeed exactly on laid out
components. The induction follows the first loop; the second runs on
what that returned. The bounds test of the source is in `size_t` and may
wrap; `imageEnd_ok` and `imageEnd_eq` show that its last comparison
catches the sums that do.

`parseComposite_ok` states that the composite branch succeeds exactly on
such files, with exactly these operations. `Parsed` adds the bare files
and the composite ones without components, and is the parser's result as
a relation: `parse_accepts` (a zero return leaves one of the three) and
`parse_of_parsed` (with memory, each of the three is what it returns).
What is said about accepted files elsewhere goes through these two, and
what is said about rejected ones through `parse_ret` and
`parse_rejects`.
-/

namespace Retimer

open Interaction

/-! ## Outcomes of single reads -/

section Reads

variable {α : Type} {image : List UInt8} {off n : Nat}

@[simp] theorem readBytes_bind (f : List UInt8 → Parse α) :
    (readBytes image off n >>= f).outcome = (f (bytesAt image off n)).outcome := rfl

@[simp] theorem readU32_bind (f : UInt32 → Parse α) :
    (readU32 image off >>= f).outcome = (f (u32At image off)).outcome := rfl

@[simp] theorem readU8_bind (f : UInt8 → Parse α) :
    (readU8 image off >>= f).outcome = (f (u8At image off)).outcome := rfl

@[simp] theorem readCrc32_bind (f : UInt32 → Parse α) :
    (readCrc32 image off n >>= f).outcome = (f (crcAt image off n)).outcome := rfl

theorem ite_error_ok {ε : Type} {bad : Prop} [Decidable bad] {e : ε} {x : Except ε α} {a : α} :
    (if bad then .error e else x) = .ok a ↔ ¬bad ∧ x = .ok a := by
  split <;> simp [*]

theorem ite_error_error {ε : Type} {bad : Prop} [Decidable bad] {e e' : ε} {x : Except ε α} :
    (if bad then .error e else x) = .error e' ↔ (bad ∧ e = e') ∨ (¬bad ∧ x = .error e') := by
  split <;> simp [*]

end Reads

/-! ## Components -/

/-- Header `comp` of the file and the image it describes are valid, and `op`
is the operation they give. -/
structure ComponentOk (image : List UInt8) (comp : Nat) (op : UpdateOperation) : Prop where
  magic : bytesAt image (componentHeaderAt comp + ComponentHeader.magic) 4
    = componentHeaderMagic
  headerCrc : crcAt image (componentHeaderAt comp) 60
    = u32At image (componentHeaderAt comp + ComponentHeader.componentHeaderCrc)
  imageLength : op.imageLength
    = (u32At image (componentHeaderAt comp + ComponentHeader.imageLength)).toNat
  applyBitmap : op.applyBitmap
    = u32At image (componentHeaderAt comp + ComponentHeader.applyBitmap)
  versionString : op.versionString
    = versionField (bytesAt image (componentHeaderAt comp + ComponentHeader.versionString) 35)
  imageCrc : op.imageCrc = u32At image (componentHeaderAt comp + ComponentHeader.imageCrc)
  imageCrc_eq : crcAt image op.startOffset op.imageLength = op.imageCrc

/-- The components `ops` from number `comp` on: images in order from `next`
on and inside the file, bitmaps disjoint from `covered` and from each other,
and all of them inside `RETIMERALL`. -/
def Laid (image : List UInt8) (fwSize : Nat) :
    Nat → Nat → UInt32 → List UpdateOperation → Prop
  | _, _, covered, [] => covered ≤ retimerAll
  | comp, next, covered, op :: ops =>
      ComponentOk image comp op ∧ op.startOffset = next
        ∧ next + op.imageLength ≤ fwSize ∧ covered &&& op.applyBitmap = 0
        ∧ Laid image fwSize (comp + 1) (next + op.imageLength) (covered ||| op.applyBitmap) ops

theorem Build.fits_size (b : Build) {n : Nat} (h : n < 2 ^ 31) : n < 2 ^ b.sizeBits := by
  rcases b.sizeBits_eq with hb | hb <;> rw [hb] <;> omega

/-- The bounds test in `size_t` arithmetic is the one on integers: a sum that
wraps is caught by its last comparison. -/
theorem imageEnd_ok (b : Build) {fwSize next : Nat} (len : UInt32)
    (hsize : fwSize < 2 ^ b.sizeBits) (hnext : next ≤ fwSize) :
    ¬(next > fwSize ∨ (next + len.toNat) % 2 ^ b.sizeBits > fwSize
        ∨ (next + len.toNat) % 2 ^ b.sizeBits < next)
      ↔ next + len.toNat ≤ fwSize := by
  have hlen : len.toNat < 2 ^ 32 := len.toNat_lt
  rcases b.sizeBits_eq with h | h <;> rw [h] at hsize ⊢ <;> omega

theorem imageEnd_eq (b : Build) {fwSize n : Nat} (hsize : fwSize < 2 ^ b.sizeBits)
    (h : n ≤ fwSize) : n % 2 ^ b.sizeBits = n :=
  Nat.mod_eq_of_lt (Nat.lt_of_le_of_lt h hsize)

/-- The operation the first loop fills in for header `comp`; its CRC field is
still the zero of `calloc`. -/
def rawOperation (image : List UInt8) (comp next : Nat) : UpdateOperation :=
  let header := componentHeaderAt comp
  ⟨next, (u32At image (header + ComponentHeader.imageLength)).toNat,
    u32At image (header + ComponentHeader.applyBitmap), 0,
    versionField (bytesAt image (header + ComponentHeader.versionString) 35)⟩

theorem verifyComponents_succ_ok (b : Build) {image : List UInt8} {fwSize count comp next : Nat}
    {covered cov : UInt32} {raw : List UpdateOperation} (hsize : fwSize < 2 ^ b.sizeBits)
    (hnext : next ≤ fwSize) :
    (verifyComponents b image fwSize (count + 1) comp next covered).outcome = .ok (cov, raw) ↔
      bytesAt image (componentHeaderAt comp + ComponentHeader.magic) 4 = componentHeaderMagic
      ∧ crcAt image (componentHeaderAt comp) 60
          = u32At image (componentHeaderAt comp + ComponentHeader.componentHeaderCrc)
      ∧ next + (rawOperation image comp next).imageLength ≤ fwSize
      ∧ covered &&& (rawOperation image comp next).applyBitmap = 0
      ∧ ∃ rest, raw = rawOperation image comp next :: rest
        ∧ (verifyComponents b image fwSize count (comp + 1)
            (next + (rawOperation image comp next).imageLength)
            (covered ||| (rawOperation image comp next).applyBitmap)).outcome
          = .ok (cov, rest) := by
  simp only [verifyComponents, readBytes_bind, readU32_bind, readCrc32_bind,
    Scan.outcome_stopIf_bind, ite_error_ok, imageEnd_ok b _ hsize hnext, not_not, Scan.bind_ok,
    Scan.outcome_pure, Except.ok.injEq, Prod.exists, Prod.mk.injEq]
  refine and_congr_right fun _ => and_congr_right fun _ => and_congr_right fun hend =>
    and_congr_right fun _ => ?_
  rw [imageEnd_eq b hsize hend]
  constructor
  · rintro ⟨_, rest, hrest, rfl, rfl⟩
    exact ⟨rest, rfl, hrest⟩
  · rintro ⟨rest, rfl, hrest⟩
    exact ⟨cov, rest, hrest, rfl, rfl⟩

theorem verifyImages_cons_ok {image : List UInt8} {comp : Nat} {op : UpdateOperation}
    {raw ops : List UpdateOperation} :
    (verifyImages image comp (op :: raw)).outcome = .ok ops ↔
      crcAt image op.startOffset op.imageLength
          = u32At image (componentHeaderAt comp + ComponentHeader.imageCrc)
      ∧ ∃ rest, (verifyImages image (comp + 1) raw).outcome = .ok rest
        ∧ { op with imageCrc := u32At image (componentHeaderAt comp
            + ComponentHeader.imageCrc) } :: rest = ops := by
  simp only [verifyImages, readCrc32_bind, readU32_bind, Scan.outcome_stopIf_bind, ite_error_ok,
    not_not, Scan.bind_ok, Scan.outcome_pure, Except.ok.injEq]

/-- The two loops together succeed exactly on laid out components. The induction
follows the first loop; the second runs on what that returned. Both directions
are needed: files are accepted only if they are laid out, and those that are
laid out are accepted. -/
theorem verify_ok (b : Build) {image : List UInt8} {fwSize : Nat}
    (hsize : fwSize < 2 ^ b.sizeBits) {count comp next : Nat} {covered : UInt32}
    {ops : List UpdateOperation}
    (hnext : next ≤ fwSize) :
    (∃ cov raw, (verifyComponents b image fwSize count comp next covered).outcome = .ok (cov, raw)
        ∧ ¬cov > retimerAll ∧ (verifyImages image comp raw).outcome = .ok ops)
      ↔ ops.length = count ∧ Laid image fwSize comp next covered ops := by
  induction count generalizing comp next covered ops with
  | zero =>
      simp only [verifyComponents, Scan.outcome_pure, Except.ok.injEq, Prod.mk.injEq,
        List.length_eq_zero_iff]
      constructor
      · rintro ⟨_, _, ⟨rfl, rfl⟩, hcov, himages⟩
        obtain rfl : [] = ops := by simpa [verifyImages] using himages
        exact ⟨rfl, UInt32.not_lt.mp hcov⟩
      · rintro ⟨rfl, hcov⟩
        exact ⟨covered, [], ⟨rfl, rfl⟩, UInt32.not_lt.mpr hcov, rfl⟩
  | succ count ih =>
      constructor
      · rintro ⟨cov, raw, hraw, hcov, himages⟩
        obtain ⟨hmagic, hcrc, hend, hdisj, rest, rfl, hrest⟩ :=
          (verifyComponents_succ_ok b hsize hnext).mp hraw
        obtain ⟨himage, rest', hrest', rfl⟩ := verifyImages_cons_ok.mp himages
        obtain ⟨hlen, hlaid⟩ := (ih hend).mp ⟨cov, rest, hrest, hcov, hrest'⟩
        exact ⟨by rw [List.length_cons, hlen],
          ⟨hmagic, hcrc, rfl, rfl, rfl, rfl, himage⟩, rfl, hend, hdisj, hlaid⟩
      · rintro ⟨hlen, hlaid⟩
        cases ops with
        | nil => simp at hlen
        | cons op ops =>
            obtain ⟨hop, rfl, hend, hdisj, hlaid⟩ := hlaid
            have hraw : { rawOperation image comp op.startOffset with
                imageCrc := op.imageCrc } = op := by
              simp only [rawOperation, ← hop.imageLength, ← hop.applyBitmap, ← hop.versionString]
            have hlength : (rawOperation image comp op.startOffset).imageLength = op.imageLength :=
              hop.imageLength.symm
            have hbitmap : (rawOperation image comp op.startOffset).applyBitmap = op.applyBitmap :=
              hop.applyBitmap.symm
            obtain ⟨cov, rest, hrest, hcov, himages⟩ :=
              (ih hend).mpr ⟨by simpa using hlen, hlaid⟩
            refine ⟨cov, rawOperation image comp op.startOffset :: rest, ?_, hcov, ?_⟩
            · refine (verifyComponents_succ_ok b hsize hnext).mpr ⟨hop.magic, hop.headerCrc,
                by rw [hlength]; exact hend, by rw [hbitmap]; exact hdisj, rest, rfl, ?_⟩
              rw [hlength, hbitmap]
              exact hrest
            · refine verifyImages_cons_ok.mpr ⟨?_, ops, himages, ?_⟩
              · rw [hlength, ← hop.imageCrc]
                exact hop.imageCrc_eq
              · rw [← hop.imageCrc, hraw]

/-! ## The header, and the parser as a whole -/

/-- The file is taken for a composite image. -/
def IsComposite (image : List UInt8) (fwSize : Nat) : Prop :=
  CompositeImageHeader.size ≤ fwSize
    ∧ bytesAt image CompositeImageHeader.uuid 16 = compositeImageHeaderUuid

def componentCountOf (image : List UInt8) : Nat :=
  (u8At image CompositeImageHeader.componentCount).toNat

structure CompositeHeaderOk (b : Build) (image : List UInt8) (fwSize : Nat) : Prop where
  headerCrc : crcAt image 0 36 = u32At image CompositeImageHeader.headerCrc
  majorVersion : u8At image CompositeImageHeader.majorVersion = 1
  platformType : ((u8At image CompositeImageHeader.platformType).toNat : Int) = b.platformType
  componentCount : componentCountOf image ≤ retimerMaxNum
  fileLength : (u32At image CompositeImageHeader.fileLength).toNat = fwSize
  headersFit : componentHeaderAt (componentCountOf image) ≤ fwSize

/-- What a successful parse leaves in `*update_ops`: the operations of a
composite image, no operations for one without components, or the one operation
of a bare image, which is for every retimer. -/
inductive Parsed (b : Build) (image : List UInt8) (fwSize : Nat) (pldmVersionStr : List UInt8) :
    Option (List UpdateOperation) → Prop where
  | bare : ¬IsComposite image fwSize →
      Parsed b image fwSize pldmVersionStr
        (some [⟨0, fwSize, retimerAll, crcAt image 0 fwSize, versionField pldmVersionStr⟩])
  | empty : IsComposite image fwSize → CompositeHeaderOk b image fwSize →
      componentCountOf image = 0 → Parsed b image fwSize pldmVersionStr none
  | composite {ops : List UpdateOperation} : IsComposite image fwSize →
      CompositeHeaderOk b image fwSize → componentCountOf image ≠ 0 →
      ops.length = componentCountOf image →
      Laid image fwSize 0 (componentHeaderAt (componentCountOf image)) 0 ops →
      Parsed b image fwSize pldmVersionStr (some ops)

theorem componentCount_ne_zero {image : List UInt8} :
    u8At image CompositeImageHeader.componentCount ≠ 0 ↔ componentCountOf image ≠ 0 := by
  rw [componentCountOf, Ne, Ne, ← UInt8.toNat_inj]
  rfl

theorem parseComposite_ok (b : Build) {image : List UInt8} {fwSize count : Nat} {calloc : Bool}
    {ops : List UpdateOperation} (hsize : fwSize < 2 ^ b.sizeBits) :
    (parseComposite b image fwSize calloc).outcome = .ok (count, ops) ↔
      CompositeHeaderOk b image fwSize ∧ componentCountOf image ≠ 0 ∧ calloc = true
        ∧ count = componentCountOf image ∧ ops.length = count
        ∧ Laid image fwSize 0 (componentHeaderAt count) 0 ops := by
  simp only [parseComposite, readCrc32_bind, readU32_bind, readU8_bind,
    Scan.outcome_stopIf_bind, ite_error_ok, Scan.bind_ok, Scan.outcome_pure, Except.ok.injEq,
    Prod.exists, Prod.mk.injEq, not_not, Nat.not_lt, Bool.not_eq_false,
    ← Ne.eq_def, componentCount_ne_zero]
  constructor
  · rintro ⟨hcrc, hversion, hplatform, hcount, hlength, hfit, hpos, hcalloc, cov, raw, hraw, hcov,
      ops', himages, rfl, rfl⟩
    obtain ⟨hlen, hlaid⟩ := (verify_ok b hsize hfit).mp ⟨cov, raw, hraw, hcov, himages⟩
    exact ⟨⟨hcrc, hversion, hplatform, hcount, hlength, hfit⟩, hpos, hcalloc, rfl, hlen, hlaid⟩
  · rintro ⟨hhead, hpos, hcalloc, rfl, hlen, hlaid⟩
    obtain ⟨cov, raw, hraw, hcov, himages⟩ := (verify_ok b hsize hhead.headersFit).mpr ⟨hlen, hlaid⟩
    exact ⟨hhead.headerCrc, hhead.majorVersion, hhead.platformType, hhead.componentCount,
      hhead.fileLength, hhead.headersFit, hpos, hcalloc, cov, raw, hraw, hcov, ops, himages, rfl,
        rfl⟩

theorem parseComposite_empty (b : Build) {image : List UInt8} {fwSize : Nat} {calloc : Bool}
    (hhead : CompositeHeaderOk b image fwSize) (hzero : componentCountOf image = 0) :
    (parseComposite b image fwSize calloc).outcome = .error ⟨0, none⟩ := by
  have hcount : u8At image CompositeImageHeader.componentCount = 0 := by
    by_contra hne
    exact componentCount_ne_zero.mp hne hzero
  have hfit : ¬fwSize < componentHeaderAt (UInt8.toNat 0) := by
    rw [← hcount]
    exact Nat.not_lt.mpr hhead.headersFit
  simp only [parseComposite, readCrc32_bind, readU32_bind, readU8_bind,
    Scan.outcome_stopIf_bind, hhead.headerCrc, hhead.majorVersion, hhead.platformType,
    hhead.fileLength, hcount, ne_eq, not_true_eq_false, ↓reduceIte, if_neg hfit]
  rfl

theorem parseComposite_unallocated (b : Build) {image : List UInt8} {fwSize : Nat}
    (hhead : CompositeHeaderOk b image fwSize) (hpos : componentCountOf image ≠ 0) :
    (parseComposite b image fwSize false).outcome = .error allocationFailed := by
  have hcount : ¬(u8At image CompositeImageHeader.componentCount).toNat > retimerMaxNum :=
    Nat.not_lt.mpr hhead.componentCount
  have hfit : ¬fwSize < componentHeaderAt (u8At image CompositeImageHeader.componentCount).toNat :=
    Nat.not_lt.mpr hhead.headersFit
  have hne := componentCount_ne_zero.mpr hpos
  simp only [parseComposite, readCrc32_bind, readU32_bind, readU8_bind,
    Scan.outcome_stopIf_bind, hhead.headerCrc, hhead.majorVersion, hhead.platformType,
    hhead.fileLength, ne_eq, not_true_eq_false, ↓reduceIte, if_neg hcount, if_neg hfit, if_neg hne]

/-! ## Failed parses

Every exit leaves a nonzero `ret`, but for the one of a composite image
without components. -/

/-- The codes of a failed parse. -/
def parseErrors : List Int32 :=
  [-errorMallocFailure, -errorWrongCrc32Chksm, -errorCompositeImageHeaderCorrupt,
    -errorCompositeImageTruncated, -errorCompositeImageTooManyComps,
    -errorCompositeImageTooShortForHeaders, -errorCompositeUnsupportedVersion,
    -errorCompositeRtTargetedMultipleTimes, -errorCompositeImageDataOutOfBounds,
    -errorCompositeUnsupportedPlatformType, -errorCompositeTargetedIndexOutOfRange]

theorem contactSupport_mem {error : Int32} {msg : String} (h : -error ∈ parseErrors) :
    (contactSupport error msg).ret ∈ parseErrors := h

theorem allocationFailed_mem : allocationFailed.ret ∈ parseErrors := by decide

theorem ne_zero_of_parseErrors {ret : Int32} (h : ret ∈ parseErrors) : ret ≠ 0 := by
  rintro rfl
  exact absurd h (by decide)

theorem verifyComponents_exit (b : Build) {image : List UInt8} {fwSize count comp next : Nat}
    {covered : UInt32} {e : ParseExit}
    (h : (verifyComponents b image fwSize count comp next covered).outcome = .error e) :
    e.ret ∈ parseErrors := by
  induction count generalizing comp next covered with
  | zero => simp [verifyComponents] at h
  | succ count ih =>
      simp only [verifyComponents, readBytes_bind, readU32_bind, readCrc32_bind,
        Scan.outcome_stopIf_bind, ite_error_error, Scan.bind_error, Scan.outcome_pure,
        reduceCtorEq, and_false, exists_false, or_false] at h
      rcases h with ⟨_, rfl⟩ | ⟨_, ⟨_, rfl⟩ | ⟨_, ⟨_, rfl⟩ | ⟨_, ⟨_, rfl⟩ | ⟨_, h⟩⟩⟩⟩
      · exact contactSupport_mem (by decide)
      · exact contactSupport_mem (by decide)
      · exact contactSupport_mem (by decide)
      · exact contactSupport_mem (by decide)
      · exact ih h

theorem verifyImages_exit {image : List UInt8} {comp : Nat} {ops : List UpdateOperation}
    {e : ParseExit} (h : (verifyImages image comp ops).outcome = .error e) :
    e.ret ∈ parseErrors := by
  induction ops generalizing comp with
  | nil => simp [verifyImages] at h
  | cons op ops ih =>
      simp only [verifyImages, readU32_bind, readCrc32_bind, Scan.outcome_stopIf_bind,
        ite_error_error, Scan.bind_error, Scan.outcome_pure, reduceCtorEq, and_false,
        exists_false, or_false] at h
      rcases h with ⟨_, rfl⟩ | ⟨_, h⟩
      · exact contactSupport_mem (by decide)
      · exact ih h

theorem parseComposite_exit (b : Build) {image : List UInt8} {fwSize : Nat} {calloc : Bool}
    {e : ParseExit} (h : (parseComposite b image fwSize calloc).outcome = .error e) :
    e.ret ∈ parseErrors
      ∨ (e.ret = 0 ∧ CompositeHeaderOk b image fwSize ∧ componentCountOf image = 0) := by
  simp only [parseComposite, readCrc32_bind, readU32_bind, readU8_bind,
    Scan.outcome_stopIf_bind, ite_error_error, Scan.bind_error, Scan.outcome_pure,
    reduceCtorEq, and_false, exists_false, or_false, not_not, Nat.not_lt] at h
  rcases h with ⟨_, rfl⟩ | ⟨hcrc, ⟨_, rfl⟩ | ⟨hversion, ⟨_, rfl⟩ | ⟨hplatform, ⟨_, rfl⟩ |
    ⟨hcount, ⟨_, rfl⟩ | ⟨hlength, ⟨_, rfl⟩ | ⟨hfit, ⟨hzero, rfl⟩ | ⟨_, ⟨_, rfl⟩ |
    ⟨_, h | ⟨_, _, ⟨_, rfl⟩ | ⟨_, h⟩⟩⟩⟩⟩⟩⟩⟩⟩⟩
  all_goals first
    | exact Or.inl (contactSupport_mem (by decide))
    | exact Or.inl allocationFailed_mem
    | exact Or.inl (verifyComponents_exit b h)
    | exact Or.inl (verifyImages_exit h)
    | exact Or.inr ⟨rfl, ⟨hcrc, hversion, hplatform, hcount, hlength, hfit⟩,
        by rw [componentCountOf, hzero]; rfl⟩

/-! ## The parser as a whole -/

theorem parseImage_bare (b : Build) {image : List UInt8} {fwSize : Nat}
    {pldmVersionStr : List UInt8} {calloc : Bool} (h : ¬IsComposite image fwSize) :
    (parseImage b image fwSize pldmVersionStr calloc).outcome
      = (parseBare image fwSize pldmVersionStr calloc).outcome := by
  unfold parseImage
  split
  · rfl
  · next hlen =>
      rw [readBytes_bind, if_pos (fun huuid => h ⟨Nat.not_lt.mp hlen, huuid⟩)]

theorem parseImage_composite (b : Build) {image : List UInt8} {fwSize : Nat}
    {pldmVersionStr : List UInt8} {calloc : Bool} (h : IsComposite image fwSize) :
    (parseImage b image fwSize pldmVersionStr calloc).outcome
      = (parseComposite b image fwSize calloc).outcome := by
  unfold parseImage
  rw [if_neg (Nat.not_lt.mpr h.1), readBytes_bind, if_neg (not_not.mpr h.2)]

theorem parseBare_outcome {image : List UInt8} {fwSize : Nat} {pldmVersionStr : List UInt8}
    {calloc : Bool} : (parseBare image fwSize pldmVersionStr calloc).outcome =
      if calloc = false then .error allocationFailed
      else .ok (1, [⟨0, fwSize, retimerAll, crcAt image 0 fwSize,
        versionField pldmVersionStr⟩]) := by
  simp only [parseBare, Scan.outcome_stopIf_bind, readCrc32_bind, Scan.outcome_pure]

theorem parse_ok (b : Build) {image : List UInt8} {fwSize count : Nat}
    {pldmVersionStr : List UInt8} {calloc : Bool} {ops : List UpdateOperation}
    (h : (parseImage b image fwSize pldmVersionStr calloc).outcome = .ok (count, ops)) :
    parseCompositeImage b image fwSize pldmVersionStr calloc = ⟨0, some ops, count, none,
      (parseImage b image fwSize pldmVersionStr calloc).log⟩ := by
  simp only [parseCompositeImage, h]

theorem parse_error (b : Build) {image : List UInt8} {fwSize : Nat}
    {pldmVersionStr : List UInt8} {calloc : Bool} {exit : ParseExit}
    (h : (parseImage b image fwSize pldmVersionStr calloc).outcome = .error exit) :
    parseCompositeImage b image fwSize pldmVersionStr calloc = ⟨exit.ret, none, 0, exit.message,
      (parseImage b image fwSize pldmVersionStr calloc).log⟩ := by
  simp only [parseCompositeImage, h]

theorem parse_ret (b : Build) (image : List UInt8) (fwSize : Nat) (pldmVersionStr : List UInt8)
    (calloc : Bool) : (parseCompositeImage b image fwSize pldmVersionStr calloc).ret = 0
      ∨ (parseCompositeImage b image fwSize pldmVersionStr calloc).ret ∈ parseErrors := by
  cases hout : (parseImage b image fwSize pldmVersionStr calloc).outcome with
  | ok res =>
      rw [parse_ok b hout]
      exact Or.inl rfl
  | error exit =>
      rw [parse_error b hout]
      by_cases hcomp : IsComposite image fwSize
      · rw [parseImage_composite b hcomp] at hout
        rcases parseComposite_exit b hout with herror | ⟨hzero, -⟩
        · exact Or.inr herror
        · exact Or.inl hzero
      · rw [parseImage_bare b hcomp, parseBare_outcome, ite_error_error] at hout
        rcases hout with ⟨_, rfl⟩ | ⟨_, hout⟩
        · exact Or.inr allocationFailed_mem
        · cases hout

/-- A nonzero return leaves `*update_ops` `NULL` and `*update_ops_count` 0. -/
theorem parse_rejects (b : Build) {image : List UInt8} {fwSize : Nat}
    {pldmVersionStr : List UInt8} {calloc : Bool}
    (h : (parseCompositeImage b image fwSize pldmVersionStr calloc).ret ≠ 0) :
    (parseCompositeImage b image fwSize pldmVersionStr calloc).updateOps = none
      ∧ (parseCompositeImage b image fwSize pldmVersionStr calloc).updateOpsCount = 0 := by
  cases hout : (parseImage b image fwSize pldmVersionStr calloc).outcome with
  | ok res =>
      rw [parse_ok b hout] at h
      exact absurd rfl h
  | error exit =>
      rw [parse_error b hout]
      exact ⟨rfl, rfl⟩

/-- A zero return leaves one of the three results of `Parsed`, counted. -/
theorem parse_accepts (b : Build) {image : List UInt8} {fwSize : Nat}
    {pldmVersionStr : List UInt8} {calloc : Bool} (hsize : fwSize < 2 ^ 31)
    (h : (parseCompositeImage b image fwSize pldmVersionStr calloc).ret = 0) :
    Parsed b image fwSize pldmVersionStr
        (parseCompositeImage b image fwSize pldmVersionStr calloc).updateOps
      ∧ (parseCompositeImage b image fwSize pldmVersionStr calloc).updateOpsCount
        = ((parseCompositeImage b image fwSize pldmVersionStr
          calloc).updateOps.getD []).length := by
  cases hout : (parseImage b image fwSize pldmVersionStr calloc).outcome with
  | ok res =>
      obtain ⟨count, ops⟩ := res
      rw [parse_ok b hout]
      by_cases hcomp : IsComposite image fwSize
      · rw [parseImage_composite b hcomp] at hout
        obtain ⟨hhead, hpos, _, rfl, hlen, hlaid⟩ :=
          (parseComposite_ok b (b.fits_size hsize)).mp hout
        exact ⟨.composite hcomp hhead hpos hlen hlaid, hlen.symm⟩
      · rw [parseImage_bare b hcomp, parseBare_outcome, ite_error_ok] at hout
        obtain ⟨rfl, rfl⟩ := Prod.mk.inj (Except.ok.inj hout.2)
        exact ⟨.bare hcomp, rfl⟩
  | error exit =>
      rw [parse_error b hout] at h ⊢
      by_cases hcomp : IsComposite image fwSize
      · rw [parseImage_composite b hcomp] at hout
        rcases parseComposite_exit b hout with herror | ⟨-, hhead, hzero⟩
        · exact absurd h (ne_zero_of_parseErrors herror)
        · exact ⟨.empty hcomp hhead hzero, rfl⟩
      · rw [parseImage_bare b hcomp, parseBare_outcome, ite_error_error] at hout
        rcases hout with ⟨_, rfl⟩ | ⟨_, hout⟩
        · exact absurd h (ne_zero_of_parseErrors allocationFailed_mem)
        · cases hout

/-- With memory available, each result of `Parsed` is what the parser gives.
Together with `parse_accepts`, nothing has to be known of the parser but
`Parsed`. -/
theorem parse_of_parsed (b : Build) {image : List UInt8} {fwSize : Nat}
    {pldmVersionStr : List UInt8} {res : Option (List UpdateOperation)}
    (hsize : fwSize < 2 ^ 31) (h : Parsed b image fwSize pldmVersionStr res) :
    (parseCompositeImage b image fwSize pldmVersionStr true).ret = 0
      ∧ (parseCompositeImage b image fwSize pldmVersionStr true).updateOps = res := by
  cases h with
  | bare hbare =>
      rw [parse_ok b ((parseImage_bare b hbare).trans parseBare_outcome)]
      exact ⟨rfl, rfl⟩
  | empty hcomp hhead hzero =>
      rw [parse_error b ((parseImage_composite b hcomp).trans (parseComposite_empty b hhead hzero))]
      exact ⟨rfl, rfl⟩
  | composite hcomp hhead hpos hlen hlaid =>
      rw [parse_ok b ((parseImage_composite b hcomp).trans
        ((parseComposite_ok b (b.fits_size hsize)).mpr ⟨hhead, hpos, rfl, rfl, hlen, hlaid⟩))]
      exact ⟨rfl, rfl⟩

/-- Without memory, neither kind of image gets any further. A composite file
must have a good header and components for it to matter. -/
theorem parse_unallocated (b : Build) {image : List UInt8} {fwSize : Nat}
    {pldmVersionStr : List UInt8}
    (h : IsComposite image fwSize → CompositeHeaderOk b image fwSize ∧ componentCountOf image ≠ 0) :
    (parseCompositeImage b image fwSize pldmVersionStr false).ret = allocationFailed.ret
      ∧ (parseCompositeImage b image fwSize pldmVersionStr false).message
        = allocationFailed.message := by
  by_cases hcomp : IsComposite image fwSize
  · obtain ⟨hhead, hpos⟩ := h hcomp
    rw [parse_error b ((parseImage_composite b hcomp).trans
      (parseComposite_unallocated b hhead hpos))]
    exact ⟨rfl, rfl⟩
  · rw [parse_error b ((parseImage_bare b hcomp).trans parseBare_outcome)]
    exact ⟨rfl, rfl⟩

theorem parse_message (b : Build) {image : List UInt8} {fwSize : Nat} {pldmVersionStr : List UInt8}
    {calloc : Bool} {ops : List UpdateOperation}
    (h : (parseCompositeImage b image fwSize pldmVersionStr calloc).updateOps = some ops) :
    (parseCompositeImage b image fwSize pldmVersionStr calloc).message = none := by
  cases hout : (parseImage b image fwSize pldmVersionStr calloc).outcome with
  | ok res =>
      rw [parse_ok b hout]
  | error exit =>
      rw [parse_error b hout] at h
      cases h

end Retimer
