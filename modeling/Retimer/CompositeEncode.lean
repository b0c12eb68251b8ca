import Retimer.CompositeSound

/-!
# Writing composite images

The format from the other side: a package of one to eight components
(`Package`, whose fields carry what makes it well-formed) and the file
it is laid out as (`Package.encode`). `parse_encode` is the round trip:
the parser accepts every such file and gives back its components, one
operation each.

The proof reads the file at the parser's offsets. The lemmas
`slice_magic`, `slice_imageLength` and so on say what stands at each
field of a header, `Component.componentOk` that a header and an image in
place are a valid component, and `laid_operations`, by induction over
the components, that the whole file is `Laid` out; the rest is
`parseComposite_ok`. A version string is padded by the writer and copied
by the parser up to its NUL; `versionField_padded` is the round trip of
that field.

`Describes` compares an operation with a component, in the file: the
bytes at the operation's offset are the component's image.
-/

namespace Retimer

open Interaction

/-- One component: an image, its targets and its version string. -/
structure Component where
  image : List UInt8
  applyBitmap : UInt32
  version : List UInt8
  reserved : List UInt8
  version_length : version.length ≤ 35
  version_ne_zero : ∀ c ∈ version, c ≠ 0
  reserved_length : reserved.length = 8

def withCrc (body : List UInt8) : List UInt8 :=
  body ++ leBytes 4 (crc32 body (toInt32 body.length)).toNat

namespace Component

def crc (c : Component) : UInt32 := crc32 c.image (toInt32 c.image.length)

def paddedVersion (c : Component) : List UInt8 :=
  c.version ++ List.replicate (36 - c.version.length) 0

def header (c : Component) : List UInt8 :=
  withCrc (componentHeaderMagic ++ leBytes 4 c.image.length ++ leBytes 4 c.applyBitmap.toNat
    ++ c.paddedVersion ++ c.reserved ++ leBytes 4 c.crc.toNat)

end Component

def imagesLength (cs : List Component) : Nat := (cs.map fun c => c.image.length).sum

/-- A package: one to eight components with disjoint targets, whose file is
shorter than 2^31 bytes. A value of this type is well-formed, and `encode` needs
no hypotheses. -/
structure Package where
  reserved0 : UInt8
  platformType : UInt8
  sku : UInt32
  reserved2 : List UInt8
  components : List Component
  reserved2_length : reserved2.length = 8
  components_ne_nil : components ≠ []
  components_le : components.length ≤ 8
  bitmap_le : ∀ c ∈ components, c.applyBitmap ≤ 0xFF
  disjoint : components.Pairwise fun c d => c.applyBitmap &&& d.applyBitmap = 0
  size_lt : componentHeaderAt components.length + imagesLength components < 2 ^ 31

namespace Package

def fileLength (p : Package) : Nat :=
  componentHeaderAt p.components.length + imagesLength p.components

def header (p : Package) : List UInt8 :=
  withCrc (compositeImageHeaderUuid
    ++ [1, p.reserved0, UInt8.ofNat p.components.length, p.platformType]
    ++ leBytes 4 p.fileLength ++ leBytes 4 p.sku.toNat ++ p.reserved2)

def encode (p : Package) : List UInt8 :=
  p.header ++ (p.components.map Component.header).flatten
    ++ (p.components.map Component.image).flatten

end Package

/-! ## Fields of a file from its slices -/

section Fields

variable {f bs : List UInt8} {off n : Nat}

theorem slice_of_split {xs ys zs : List UInt8} (h : bs = xs ++ ys ++ zs) (hoff : xs.length = off)
    (hlen : ys.length = n) : slice bs off n = ys := by
  rw [h, ← hoff, ← hlen]
  exact slice_mid xs ys zs

theorem slice_inside {len k : Nat} (h : slice f off len = bs) (hin : k + n ≤ len) :
    slice f (off + k) n = slice bs k n := by
  rw [← h, slice_slice hin]

theorem u32At_of_slice {x : UInt32} (h : slice f off 4 = leBytes 4 x.toNat) : u32At f off = x := by
  rw [u32At, h, leNat_leBytes]
  apply UInt32.toNat_inj.mp
  have hx := x.toNat_lt
  rw [UInt32.toNat_ofNat', Nat.mod_eq_of_lt (by omega), Nat.mod_eq_of_lt (by omega)]

theorem u32At_toNat_of_slice {m : Nat} (h : slice f off 4 = leBytes 4 m) (hm : m < 2 ^ 32) :
    (u32At f off).toNat = m := by
  rw [u32At, h, leNat_leBytes, UInt32.toNat_ofNat', Nat.mod_eq_of_lt (by omega),
    Nat.mod_eq_of_lt (by omega)]

theorem u8At_of_slice {c : UInt8} (h : slice f off 1 = [c]) : u8At f off = c := by
  have hget : (slice f off 1)[0]? = some c := by rw [h]; rfl
  rw [getElem?_slice, if_pos (by omega), Nat.add_zero] at hget
  rw [u8At, List.getD_eq_getElem?_getD, hget, Option.getD_some]

theorem crcAt_of_slice (h : slice f off n = bs) (hn : n < 2 ^ 31) :
    crcAt f off n = crc32 bs (toInt32 n) := by
  rw [crcAt_eq_slice hn, h]

end Fields

/-! ## Component headers -/

namespace Component

variable (c : Component)

theorem length_paddedVersion : c.paddedVersion.length = 36 := by
  have := c.version_length
  simp only [paddedVersion, List.length_append, List.length_replicate]
  omega

/-- The 60 bytes the header CRC covers. -/
def headerBody : List UInt8 :=
  componentHeaderMagic ++ leBytes 4 c.image.length ++ leBytes 4 c.applyBitmap.toNat
    ++ c.paddedVersion ++ c.reserved ++ leBytes 4 c.crc.toNat

theorem header_eq : c.header = withCrc c.headerBody := rfl

theorem length_headerBody : c.headerBody.length = 60 := by
  simp only [headerBody, List.length_append, length_leBytes, length_paddedVersion,
    c.reserved_length, componentHeaderMagic, List.length_cons, List.length_nil]

theorem length_header : c.header.length = 64 := by
  simp only [header_eq, withCrc, List.length_append, length_headerBody, length_leBytes]

theorem slice_magic : slice c.header ComponentHeader.magic 4 = componentHeaderMagic := by
  have hsplit : c.header = [] ++ componentHeaderMagic ++ c.header.drop 4 := rfl
  exact slice_of_split hsplit rfl rfl

theorem slice_imageLength :
    slice c.header ComponentHeader.imageLength 4 = leBytes 4 c.image.length := by
  have hsplit : c.header
      = componentHeaderMagic ++ leBytes 4 c.image.length ++ c.header.drop 8 := rfl
  exact slice_of_split hsplit rfl rfl

theorem slice_applyBitmap :
    slice c.header ComponentHeader.applyBitmap 4 = leBytes 4 c.applyBitmap.toNat := by
  have hsplit : c.header = (componentHeaderMagic ++ leBytes 4 c.image.length)
      ++ leBytes 4 c.applyBitmap.toNat ++ c.header.drop 12 := rfl
  exact slice_of_split hsplit rfl rfl

theorem slice_versionString :
    slice c.header ComponentHeader.versionString 36 = c.paddedVersion := by
  have hsplit : c.header = (componentHeaderMagic ++ leBytes 4 c.image.length
      ++ leBytes 4 c.applyBitmap.toNat) ++ c.paddedVersion ++ (c.reserved ++ leBytes 4 c.crc.toNat
      ++ leBytes 4 (crc32 c.headerBody (toInt32 c.headerBody.length)).toNat) := by
    simp only [header_eq, withCrc, headerBody, List.append_assoc]
  exact slice_of_split hsplit rfl c.length_paddedVersion

theorem slice_imageCrc : slice c.header ComponentHeader.imageCrc 4 = leBytes 4 c.crc.toNat := by
  have hsplit : c.header = (componentHeaderMagic ++ leBytes 4 c.image.length
      ++ leBytes 4 c.applyBitmap.toNat ++ c.paddedVersion ++ c.reserved) ++ leBytes 4 c.crc.toNat
      ++ leBytes 4 (crc32 c.headerBody (toInt32 c.headerBody.length)).toNat := by
    simp only [header_eq, withCrc, headerBody, List.append_assoc]
  refine slice_of_split hsplit ?_ rfl
  simp only [List.length_append, length_leBytes, length_paddedVersion, c.reserved_length]
  rfl

theorem slice_headerBody : slice c.header 0 60 = c.headerBody := by
  have hsplit : c.header = [] ++ c.headerBody
      ++ leBytes 4 (crc32 c.headerBody (toInt32 c.headerBody.length)).toNat := rfl
  exact slice_of_split hsplit rfl c.length_headerBody

theorem slice_componentHeaderCrc : slice c.header ComponentHeader.componentHeaderCrc 4
    = leBytes 4 (crc32 c.headerBody (toInt32 60)).toNat := by
  have hsplit : c.header = c.headerBody ++ leBytes 4 (crc32 c.headerBody (toInt32 60)).toNat
      ++ [] := by
    rw [header_eq, withCrc, length_headerBody, List.append_nil]
  exact slice_of_split hsplit c.length_headerBody (length_leBytes _ _)

theorem versionField_padded : versionField (slice c.paddedVersion 0 35) = c.paddedVersion := by
  have hlen := c.version_length
  have hslice : slice c.paddedVersion 0 35
      = c.version ++ List.replicate (35 - c.version.length) 0 := by
    rw [slice, List.drop_zero, paddedVersion, List.take_append, List.take_of_length_le hlen,
      List.take_replicate]
    congr 2
    omega
  have hzeros : (List.replicate (35 - c.version.length) (0 : UInt8)).takeWhile (· ≠ 0) = [] := by
    cases 35 - c.version.length with
    | zero => rfl
    | succ n => rfl
  have hwhile : (slice c.paddedVersion 0 35).takeWhile (· ≠ 0) = c.version := by
    rw [hslice, List.takeWhile_append_of_pos (by simpa using c.version_ne_zero), hzeros,
      List.append_nil]
  rw [versionField, hwhile, List.take_of_length_le hlen]
  rfl

/-- The operation for the component, with its image at `next`. -/
def operation (next : Nat) : UpdateOperation :=
  ⟨next, c.image.length, c.applyBitmap, c.crc, c.paddedVersion⟩

/-- A file with the component's header and image in place has a valid
component there. -/
theorem componentOk {f : List UInt8} {comp next : Nat}
    (hheader : slice f (componentHeaderAt comp) 64 = c.header)
    (himage : slice f next c.image.length = c.image) (hlen : c.image.length < 2 ^ 31) :
    ComponentOk f comp (c.operation next) where
  magic := (slice_inside hheader (by decide)).trans c.slice_magic
  headerCrc := by
    have hbody : slice f (componentHeaderAt comp) 60 = c.headerBody :=
      (slice_inside (k := 0) hheader (by decide)).trans c.slice_headerBody
    have hcrc := (slice_inside hheader (by decide)).trans c.slice_componentHeaderCrc
    rw [crcAt_of_slice hbody (by decide), u32At_of_slice hcrc]
  imageLength := (u32At_toNat_of_slice ((slice_inside hheader (by decide)).trans
    c.slice_imageLength) (by omega)).symm
  applyBitmap := (u32At_of_slice ((slice_inside hheader (by decide)).trans
    c.slice_applyBitmap)).symm
  versionString := by
    have hfield : slice f (componentHeaderAt comp + ComponentHeader.versionString) 36
        = c.paddedVersion := (slice_inside hheader (by decide)).trans c.slice_versionString
    have hcut : bytesAt f (componentHeaderAt comp + ComponentHeader.versionString) 35
        = slice c.paddedVersion 0 35 := slice_inside (k := 0) hfield (by decide)
    rw [hcut, versionField_padded]
    rfl
  imageCrc := (u32At_of_slice ((slice_inside hheader (by decide)).trans c.slice_imageCrc)).symm
  imageCrc_eq := crcAt_of_slice himage hlen

end Component

/-! ## Components laid out -/

/-- The operations for `cs`, with the first image at `next`. -/
def operations : Nat → List Component → List UpdateOperation
  | _, [] => []
  | next, c :: cs => c.operation next :: operations (next + c.image.length) cs

@[simp] theorem length_operations (next : Nat) (cs : List Component) :
    (operations next cs).length = cs.length := by
  induction cs generalizing next with
  | nil => rfl
  | cons c cs ih => rw [operations, List.length_cons, ih, List.length_cons]

@[simp] theorem imagesLength_cons (c : Component) (cs : List Component) :
    imagesLength (c :: cs) = c.image.length + imagesLength cs := by
  rw [imagesLength, List.map_cons, List.sum_cons, imagesLength]

theorem length_images (cs : List Component) :
    ((cs.map Component.image).flatten).length = imagesLength cs := by
  simp only [List.length_flatten, List.map_map, imagesLength, Function.comp_def]

theorem length_headers (cs : List Component) :
    ((cs.map Component.header).flatten).length = ComponentHeader.size * cs.length := by
  induction cs with
  | nil => rfl
  | cons c cs ih =>
      simp only [List.map_cons, List.flatten_cons, List.length_append, ih, c.length_header,
        List.length_cons, ComponentHeader.size]
      omega

theorem slice_split {f xs ys : List UInt8} {off m n : Nat} (h : slice f off (m + n) = xs ++ ys)
    (hm : xs.length = m) (hn : ys.length = n) : slice f off m = xs ∧ slice f (off + m) n = ys := by
  have hleft : xs ++ ys = [] ++ xs ++ ys := rfl
  have hright : xs ++ ys = xs ++ ys ++ [] := (List.append_nil _).symm
  exact ⟨(slice_inside (k := 0) h (by omega)).trans (slice_of_split hleft rfl hm),
    (slice_inside h (Nat.le_refl _)).trans (slice_of_split hright hm hn)⟩

theorem bitmap_or_le {x y : UInt32} (hx : x ≤ 0xFF) (hy : y ≤ 0xFF) : x ||| y ≤ 0xFF := by
  have hx : x.toNat < 2 ^ 8 := Nat.lt_succ_of_le (UInt32.le_iff_toNat_le.mp hx)
  have hy : y.toNat < 2 ^ 8 := Nat.lt_succ_of_le (UInt32.le_iff_toNat_le.mp hy)
  have hor := Nat.or_lt_two_pow hx hy
  rw [UInt32.le_iff_toNat_le, UInt32.toNat_or]
  exact Nat.le_of_lt_succ hor

theorem bitmap_disjoint_or {x y z : UInt32} (hx : x &&& z = 0) (hy : y &&& z = 0) :
    (x ||| y) &&& z = 0 := by
  have hor : (x ||| y) &&& z = (x &&& z) ||| (y &&& z) :=
    UInt32.toBitVec_inj.mp BitVec.and_or_distrib_right
  rw [hor, hx, hy]
  rfl

/-- Headers from number `comp` on and images from `next` on, for valid
components, are `Laid` out. -/
theorem laid_operations {f : List UInt8} {fwSize : Nat} (hsize : fwSize < 2 ^ 31)
    {comp next : Nat} {covered : UInt32} {cs : List Component}
    (hheaders : slice f (componentHeaderAt comp) (ComponentHeader.size * cs.length)
      = (cs.map Component.header).flatten)
    (himages : slice f next (imagesLength cs) = (cs.map Component.image).flatten)
    (hend : next + imagesLength cs ≤ fwSize) (hcov : covered ≤ 0xFF)
    (hle : ∀ c ∈ cs, c.applyBitmap ≤ 0xFF) (hfree : ∀ c ∈ cs, covered &&& c.applyBitmap = 0)
    (hdisj : cs.Pairwise fun c d => c.applyBitmap &&& d.applyBitmap = 0) :
    Laid f fwSize comp next covered (operations next cs) := by
  induction cs generalizing comp next covered with
  | nil => exact hcov
  | cons c cs ih =>
      obtain ⟨hc, hrest⟩ := List.pairwise_cons.mp hdisj
      have hlen : ComponentHeader.size * (c :: cs).length
          = 64 + ComponentHeader.size * cs.length := by
        rw [List.length_cons, ComponentHeader.size]
        omega
      rw [hlen] at hheaders
      rw [imagesLength_cons] at himages hend
      obtain ⟨hheader, hheaders⟩ := slice_split hheaders c.length_header (length_headers cs)
      obtain ⟨himage, himages⟩ := slice_split himages rfl (length_images cs)
      refine ⟨c.componentOk hheader himage (by omega), rfl, ?_, hfree c List.mem_cons_self, ?_⟩
      · change next + c.image.length ≤ fwSize
        omega
      · refine ih ?_ himages ?_ (bitmap_or_le hcov (hle c List.mem_cons_self)) ?_ ?_ hrest
        · rw [componentHeaderAt_succ]
          exact hheaders
        · rw [Nat.add_assoc]
          exact hend
        · exact fun d hd => hle d (List.mem_cons_of_mem c hd)
        · exact fun d hd => bitmap_disjoint_or (hfree d (List.mem_cons_of_mem c hd)) (hc d hd)

/-! ## The whole file -/

namespace Package

variable (p : Package)

/-- The 36 bytes `headerCrc` covers. -/
def headerBody : List UInt8 :=
  compositeImageHeaderUuid ++ [1, p.reserved0, UInt8.ofNat p.components.length, p.platformType]
    ++ leBytes 4 p.fileLength ++ leBytes 4 p.sku.toNat ++ p.reserved2

theorem header_eq : p.header = withCrc p.headerBody := rfl

theorem length_headerBody : p.headerBody.length = 36 := by
  simp only [headerBody, List.length_append, length_leBytes, p.reserved2_length,
    compositeImageHeaderUuid, List.length_cons, List.length_nil]

theorem length_header : p.header.length = 40 := by
  simp only [header_eq, withCrc, List.length_append, length_headerBody, length_leBytes]

theorem length_encode : p.encode.length = p.fileLength := by
  simp only [encode, List.length_append, length_header, length_headers, length_images, fileLength,
    componentHeaderAt, CompositeImageHeader.size, Nat.mul_comm]

theorem slice_header : slice p.encode 0 40 = p.header := by
  have hsplit : p.encode = [] ++ p.header ++ ((p.components.map Component.header).flatten
      ++ (p.components.map Component.image).flatten) := by
    rw [encode, List.append_assoc, List.nil_append]
  exact slice_of_split hsplit rfl p.length_header

theorem slice_headers :
    slice p.encode (componentHeaderAt 0) (ComponentHeader.size * p.components.length)
      = (p.components.map Component.header).flatten :=
  slice_of_split rfl p.length_header (length_headers _)

theorem slice_images :
    slice p.encode (componentHeaderAt p.components.length) (imagesLength p.components)
      = (p.components.map Component.image).flatten := by
  have hsplit : p.encode = p.header ++ (p.components.map Component.header).flatten
      ++ (p.components.map Component.image).flatten ++ [] := (List.append_nil _).symm
  refine slice_of_split hsplit ?_ (length_images _)
  simp only [List.length_append, length_header, length_headers, componentHeaderAt,
    CompositeImageHeader.size, Nat.mul_comm]

theorem slice_headerBody : slice p.encode 0 36 = p.headerBody := by
  have hsplit : p.header = [] ++ p.headerBody
      ++ leBytes 4 (crc32 p.headerBody (toInt32 p.headerBody.length)).toNat := rfl
  exact (slice_inside (k := 0) p.slice_header (by decide)).trans
    (slice_of_split hsplit rfl p.length_headerBody)

theorem slice_uuid : slice p.encode CompositeImageHeader.uuid 16 = compositeImageHeaderUuid :=
  (slice_inside (k := 0) p.slice_headerBody (by decide)).trans rfl

theorem slice_headerCrc : slice p.encode CompositeImageHeader.headerCrc 4
    = leBytes 4 (crc32 p.headerBody (toInt32 36)).toNat := by
  have hsplit : p.header = p.headerBody ++ leBytes 4 (crc32 p.headerBody (toInt32 36)).toNat
      ++ [] := by
    rw [header_eq, withCrc, length_headerBody, List.append_nil]
  exact (slice_inside (k := 36) p.slice_header (by decide)).trans
    (slice_of_split hsplit p.length_headerBody (length_leBytes _ _))

theorem slice_fileLength :
    slice p.encode CompositeImageHeader.fileLength 4 = leBytes 4 p.fileLength :=
  (slice_inside (k := 20) p.slice_headerBody (by decide)).trans rfl

theorem componentCountOf_encode : componentCountOf p.encode = p.components.length := by
  have hbyte : slice p.encode CompositeImageHeader.componentCount 1
      = [UInt8.ofNat p.components.length] :=
    (slice_inside (k := 18) p.slice_headerBody (by decide)).trans rfl
  have hle := p.components_le
  rw [componentCountOf, u8At_of_slice hbyte, UInt8.toNat_ofNat', Nat.mod_eq_of_lt (by omega)]

theorem isComposite_encode : IsComposite p.encode p.fileLength :=
  ⟨Nat.le_trans (Nat.le_add_right _ _) (Nat.le_add_right _ _), p.slice_uuid⟩

theorem compositeHeaderOk_encode (b : Build) (hplatform : (p.platformType.toNat : Int)
    = b.platformType) : CompositeHeaderOk b p.encode p.fileLength where
  headerCrc := by
    rw [crcAt_of_slice p.slice_headerBody (by decide), u32At_of_slice p.slice_headerCrc]
  majorVersion := by
    have hbyte : slice p.encode CompositeImageHeader.majorVersion 1 = [1] :=
      (slice_inside (k := 16) p.slice_headerBody (by decide)).trans rfl
    exact u8At_of_slice hbyte
  platformType := by
    have hbyte : slice p.encode CompositeImageHeader.platformType 1 = [p.platformType] :=
      (slice_inside (k := 19) p.slice_headerBody (by decide)).trans rfl
    rw [u8At_of_slice hbyte, hplatform]
  componentCount := by
    rw [componentCountOf_encode]
    exact p.components_le
  fileLength := u32At_toNat_of_slice p.slice_fileLength (by
    have := p.size_lt
    rw [fileLength]
    omega)
  headersFit := by
    rw [componentCountOf_encode]
    exact Nat.le_add_right _ _

/-- What the parser makes of the file. Each field is read back from its place,
and `verifyComponents` finds the components one by one. -/
theorem parsed_encode (b : Build) (hplatform : (p.platformType.toNat : Int) = b.platformType)
    (pldmVersionStr : List UInt8) :
    Parsed b p.encode p.fileLength pldmVersionStr
      (some (operations (componentHeaderAt p.components.length) p.components)) := by
  refine .composite p.isComposite_encode (p.compositeHeaderOk_encode b hplatform) ?_ ?_ ?_
  · rw [componentCountOf_encode]
    exact fun h => p.components_ne_nil (List.length_eq_zero_iff.mp h)
  · rw [componentCountOf_encode, length_operations]
  · rw [componentCountOf_encode]
    exact laid_operations p.size_lt p.slice_headers p.slice_images (Nat.le_refl _) (by decide)
      p.bitmap_le (fun _ _ => UInt32.zero_and) p.disjoint

end Package

/-- `op` describes `c`, as stored in the file `f`. -/
structure Describes (f : List UInt8) (c : Component) (op : UpdateOperation) : Prop where
  applyBitmap : op.applyBitmap = c.applyBitmap
  versionString : op.versionString = c.paddedVersion
  imageCrc : op.imageCrc = c.crc
  image : slice f op.startOffset op.imageLength = c.image

theorem describes_operations {f : List UInt8} {next : Nat} {cs : List Component}
    (himages : slice f next (imagesLength cs) = (cs.map Component.image).flatten) :
    List.Forall₂ (Describes f) cs (operations next cs) := by
  induction cs generalizing next with
  | nil => exact .nil
  | cons c cs ih =>
      rw [imagesLength_cons] at himages
      obtain ⟨himage, himages⟩ := slice_split himages rfl (length_images cs)
      exact .cons ⟨rfl, rfl, rfl, himage⟩ (ih himages)

/-- **Parsing undoes encoding.** Every package for the platform is accepted,
with one operation for each component, in order, and each operation describes
its component: the offset of its image in the file, its length, its CRC, its
targets and its version (`Describes`). `Package` bounds the number of components
and the size of the file, so there is nothing else to assume. -/
theorem parse_encode (b : Build) (p : Package)
    (hplatform : (p.platformType.toNat : Int) = b.platformType) (pldmVersionStr : List UInt8) :
    ∃ ops, (parseCompositeImage b p.encode p.encode.length pldmVersionStr true).ret = 0
      ∧ (parseCompositeImage b p.encode p.encode.length pldmVersionStr true).updateOps = some ops
      ∧ (parseCompositeImage b p.encode p.encode.length pldmVersionStr true).updateOpsCount
        = p.components.length
      ∧ List.Forall₂ (Describes p.encode) p.components ops := by
  have hsize : p.encode.length < 2 ^ 31 := p.length_encode.trans_lt p.size_lt
  have hparsed := p.parsed_encode b hplatform pldmVersionStr
  rw [← p.length_encode] at hparsed
  obtain ⟨hret, hops⟩ := parse_of_parsed b hsize hparsed
  have hcount := (parse_accepts b hsize hret).2
  rw [hops, Option.getD_some, length_operations] at hcount
  exact ⟨_, hret, hops, hcount, describes_operations p.slice_images⟩

section Small

/-- The image 01 02 03 for retimers 0 and 1, and 04 05 for retimer 2. -/
def pairPackage : Package where
  reserved0 := 0
  platformType := 0
  sku := 0
  reserved2 := List.replicate 8 0xFF
  components := [{
    image := [1, 2, 3]
    applyBitmap := 3
    version := [0x33]
    reserved := List.replicate 8 0xFE
    version_length := by decide
    version_ne_zero := List.forall_mem_singleton.mpr (by decide)
    reserved_length := rfl }, {
    image := [4, 5]
    applyBitmap := 4
    version := [0x34]
    reserved := List.replicate 8 0xFE
    version_length := by decide
    version_ne_zero := List.forall_mem_singleton.mpr (by decide)
    reserved_length := rfl }]
  reserved2_length := rfl
  components_ne_nil := by decide
  components_le := by decide
  bitmap_le := List.forall_mem_cons.mpr ⟨by decide, List.forall_mem_singleton.mpr (by decide)⟩
  disjoint := List.pairwise_pair.mpr (by decide)
  size_lt := by decide

def pairOperations : List UpdateOperation :=
  operations (componentHeaderAt 2) pairPackage.components

theorem parse_pairPackage (pldmVersionStr : List UInt8) :
    (parseCompositeImage defaultBuild pairPackage.encode pairPackage.encode.length pldmVersionStr
      true).ret = 0
    ∧ (parseCompositeImage defaultBuild pairPackage.encode pairPackage.encode.length
      pldmVersionStr true).updateOps = some pairOperations := by
  have hparsed := pairPackage.parsed_encode defaultBuild rfl pldmVersionStr
  rw [← pairPackage.length_encode] at hparsed
  exact parse_of_parsed defaultBuild (pairPackage.length_encode.trans_lt pairPackage.size_lt)
    hparsed

theorem parse_encode_pair :
    ∃ ops, (parseCompositeImage defaultBuild pairPackage.encode pairPackage.encode.length []
          true).ret = 0
      ∧ (parseCompositeImage defaultBuild pairPackage.encode pairPackage.encode.length []
          true).updateOps = some ops
      ∧ (parseCompositeImage defaultBuild pairPackage.encode pairPackage.encode.length []
          true).updateOpsCount = pairPackage.components.length
      ∧ List.Forall₂ (Describes pairPackage.encode) pairPackage.components ops :=
  parse_encode defaultBuild pairPackage rfl []

end Small

end Retimer
