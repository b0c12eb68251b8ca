import Retimer.CompositeCorrupt
import Retimer.Fields

/-!
# The language of the composite format

Which files are composite images, not only that those laid out well are.
A `StoredPackage` has everything such a file can hold, with what the
parser does not look at: the reserved fields, the SKU, the version field
behind its terminator and the bytes behind the last image. The files
that the composite branch accepts are those of the packages for the
platform, each of one package.

A package is written as a list of fields (`StoredPackage.fields`), and
`Fields` of the library turns the list into what stands at each offset.
Both directions then go component by component.
`StoredComponent.componentOk` and `StoredAt.laid` read a stored package
as the parser does; `StoredComponent.exists_of_componentOk` and
`exists_storedAt` build one out of what the parser has checked, taking
the free fields as they stand in the file. `StoredAt.unique` has the
headers determine the components, since the lengths stand in them, and
`unique_bytes` the file determine the package.

`parse_iff_stored` puts the two together: acceptance is the existence of
one package, and the operations are those of its components. Packages
that are laid out well (`Package`) are stored ones with nothing behind
the last image (`Package.bytes_stored`), so the two ways to write a
package make one file.
-/

namespace Retimer

open Interaction

/-! ## Packages as they are stored -/

/-- A component with the fields of its header that are free. -/
@[ext] structure StoredComponent where
  image : List UInt8
  applyBitmap : UInt32
  versionString : List UInt8
  reserved : List UInt8
  versionString_length : versionString.length = 36
  reserved_length : reserved.length = 8

namespace StoredComponent

def crc (c : StoredComponent) : UInt32 := crc32 c.image (toInt32 c.image.length)

/-- The fields in front of `componentHeaderCrc`. -/
def body (c : StoredComponent) : List (List UInt8) :=
  [componentHeaderMagic, leBytes 4 c.image.length, leBytes 4 c.applyBitmap.toNat,
    c.versionString, c.reserved, leBytes 4 c.crc.toNat]

def header (c : StoredComponent) : List (List UInt8) :=
  c.body ++ [leBytes 4 (crc32 c.body.flatten (toInt32 60)).toNat]

/-- The operation for the component, with its image at `next`. -/
def operation (c : StoredComponent) (next : Nat) : UpdateOperation :=
  ⟨next, c.image.length, c.applyBitmap, c.crc, versionField (c.versionString.take 35)⟩

end StoredComponent

def storedLength (cs : List StoredComponent) : Nat := (cs.map fun c => c.image.length).sum

/-- The operations for `cs`, with the first image at `next`. -/
def storedOperations : Nat → List StoredComponent → List UpdateOperation
  | _, [] => []
  | next, c :: cs => c.operation next :: storedOperations (next + c.image.length) cs

/-- What a composite file can hold, with `slack` behind the last image. The
fields that the parser checks are not there: they follow from the ones that are. -/
@[ext] structure StoredPackage where
  reserved0 : UInt8
  platformType : UInt8
  sku : UInt32
  reserved2 : List UInt8
  components : List StoredComponent
  slack : List UInt8
  reserved2_length : reserved2.length = 8
  components_le : components.length ≤ 8
  bitmap_le : ∀ c ∈ components, c.applyBitmap ≤ 0xFF
  disjoint : components.Pairwise fun c d => c.applyBitmap &&& d.applyBitmap = 0

namespace StoredPackage

def fileLength (p : StoredPackage) : Nat :=
  componentHeaderAt p.components.length + storedLength p.components + p.slack.length

/-- The fields in front of `headerCrc`. -/
def body (p : StoredPackage) : List (List UInt8) :=
  [compositeImageHeaderUuid, [1], [p.reserved0], [UInt8.ofNat p.components.length],
    [p.platformType], leBytes 4 p.fileLength, leBytes 4 p.sku.toNat, p.reserved2]

def header (p : StoredPackage) : List (List UInt8) :=
  p.body ++ [leBytes 4 (crc32 p.body.flatten (toInt32 36)).toNat]

def fields (p : StoredPackage) : List (List UInt8) :=
  p.header ++ (p.components.flatMap StoredComponent.header
    ++ (p.components.map StoredComponent.image ++ [p.slack]))

def bytes (p : StoredPackage) : List UInt8 := p.fields.flatten

/-- What the parser leaves in `*update_ops`. -/
def updateOps (p : StoredPackage) : Option (List UpdateOperation) :=
  if p.components = [] then none
  else some (storedOperations (componentHeaderAt p.components.length) p.components)

end StoredPackage

/-! ## Words and bytes of a file -/

section Words

variable {f : List UInt8} {off : Nat}

theorem slice_u32At (hin : off + 4 ≤ f.length) :
    slice f off 4 = leBytes 4 (u32At f off).toNat := by
  have hlen := length_slice hin
  have hlt := leNat_lt (slice f off 4)
  have hback := leBytes_leNat (slice f off 4)
  rw [hlen] at hlt hback
  rw [u32At, UInt32.toNat_ofNat', Nat.mod_eq_of_lt (by omega), hback]

theorem slice_u8At (hin : off + 1 ≤ f.length) : slice f off 1 = [u8At f off] := by
  rw [slice, u8At, List.drop_eq_getElem_cons (by omega), List.getD_eq_getElem _ _ (by omega)]
  rfl

end Words

/-! ## Components -/

namespace StoredComponent

variable (c : StoredComponent) {f : List UInt8} {comp next : Nat}

@[simp] theorem length_body : c.body.flatten.length = 60 := by
  simp [body, c.versionString_length, c.reserved_length, componentHeaderMagic]

@[simp] theorem length_header : c.header.flatten.length = 64 := by
  rw [header, List.flatten_append, List.length_append, length_body]
  simp

theorem componentOk {c : StoredComponent} (h : Fields f (componentHeaderAt comp) c.header)
    (himage : slice f next c.image.length = c.image) (hlen : c.image.length < 2 ^ 31) :
    ComponentOk f comp (c.operation next) := by
  obtain ⟨hbody, hcrc⟩ := fields_append.mp h
  have hbytes := slice_flatten_iff.mpr hbody
  rw [c.length_body] at hcrc hbytes
  simp only [body, fields_cons, fields_nil, length_leBytes, c.versionString_length,
    c.reserved_length, Nat.add_assoc, componentHeaderMagic, List.length_cons, List.length_nil,
    Nat.reduceAdd, and_true] at hbody hcrc
  obtain ⟨hmagic, hlength, hbitmap, hversion, -, himageCrc⟩ := hbody
  constructor
  · exact hmagic
  · rw [crcAt_of_slice hbytes (by decide)]
    exact (u32At_of_slice hcrc).symm
  · exact (u32At_toNat_of_slice hlength (by omega)).symm
  · exact (u32At_of_slice hbitmap).symm
  · have hcut : slice f (componentHeaderAt comp + ComponentHeader.versionString) 35
        = c.versionString.take 35 := by
      rw [← hversion]
      exact (slice_slice (show 0 + 35 ≤ 36 by decide)).symm
    rw [bytesAt, hcut]
    rfl
  · exact (u32At_of_slice himageCrc).symm
  · exact crcAt_of_slice himage hlen

theorem exists_of_componentOk {op : UpdateOperation} (h : ComponentOk f comp op)
    (hin : componentHeaderAt comp + 64 ≤ f.length)
    (hinside : op.startOffset + op.imageLength ≤ f.length) (hsize : f.length < 2 ^ 31) :
    ∃ c : StoredComponent, Fields f (componentHeaderAt comp) c.header
      ∧ slice f op.startOffset c.image.length = c.image ∧ c.operation op.startOffset = op := by
  have himage := length_slice hinside
  have hversion : (slice f (componentHeaderAt comp + 12) 36).length = 36 := length_slice (by omega)
  have hreserved : (slice f (componentHeaderAt comp + 48) 8).length = 8 := length_slice (by omega)
  obtain ⟨c, hcimage, hcbitmap, hcversion, hcreserved⟩ : ∃ c : StoredComponent,
      c.image = slice f op.startOffset op.imageLength ∧ c.applyBitmap = op.applyBitmap
        ∧ c.versionString = slice f (componentHeaderAt comp + 12) 36
        ∧ c.reserved = slice f (componentHeaderAt comp + 48) 8 :=
    ⟨⟨_, _, _, _, hversion, hreserved⟩, rfl, rfl, rfl, rfl⟩
  have hlength : c.image.length = op.imageLength := by rw [hcimage, himage]
  have hcrc : c.crc = op.imageCrc := by
    rw [crc, hcimage, himage, ← crcAt_eq_slice (by omega), h.imageCrc_eq]
  have hbody : Fields f (componentHeaderAt comp) c.body := by
    simp only [body, fields_cons, fields_nil, length_leBytes, c.versionString_length,
      c.reserved_length, Nat.add_assoc, componentHeaderMagic, List.length_cons, List.length_nil,
      Nat.reduceAdd, and_true]
    refine ⟨h.magic, ?_, ?_, hcversion.symm, hcreserved.symm, ?_⟩
    · rw [hlength, h.imageLength]
      exact slice_u32At (by omega)
    · rw [hcbitmap, h.applyBitmap]
      exact slice_u32At (by omega)
    · rw [hcrc, h.imageCrc]
      exact slice_u32At (by omega)
  have hbytes := slice_flatten_iff.mpr hbody
  rw [c.length_body] at hbytes
  refine ⟨c, fields_append.mpr ⟨hbody, ?_⟩, ?_, ?_⟩
  · rw [c.length_body, fields_cons, length_leBytes, ← hbytes, ← crcAt_eq_slice (by decide),
      h.headerCrc]
    exact ⟨slice_u32At (by omega), trivial⟩
  · rw [hlength, hcimage]
  · have hcut : c.versionString.take 35
        = bytesAt f (componentHeaderAt comp + ComponentHeader.versionString) 35 := by
      rw [hcversion]
      exact slice_slice (show 0 + 35 ≤ 36 by decide)
    refine UpdateOperation.ext rfl hlength hcbitmap hcrc ?_
    rw [h.versionString, ← hcut]
    rfl

end StoredComponent

/-! ## Components laid out -/

/-- The headers from number `comp` on, and the images from `next` on. -/
def StoredAt (f : List UInt8) (comp next : Nat) (cs : List StoredComponent) : Prop :=
  Fields f (componentHeaderAt comp) (cs.flatMap StoredComponent.header)
    ∧ Fields f next (cs.map StoredComponent.image)

section Components

variable {f : List UInt8} {fwSize comp next : Nat} {covered : UInt32}
  {c : StoredComponent} {cs cs' : List StoredComponent} {ops : List UpdateOperation}

@[simp] theorem storedLength_cons :
    storedLength (c :: cs) = c.image.length + storedLength cs := by
  rw [storedLength, List.map_cons, List.sum_cons, storedLength]

theorem length_storedImages :
    ((cs.map StoredComponent.image).flatten).length = storedLength cs := by
  simp only [List.length_flatten, List.map_map, storedLength, Function.comp_def]

theorem length_storedHeaders :
    ((cs.flatMap StoredComponent.header).flatten).length = ComponentHeader.size * cs.length := by
  induction cs with
  | nil => rfl
  | cons c cs ih =>
      rw [List.flatMap_cons, List.flatten_append, List.length_append, ih, c.length_header,
        List.length_cons, ComponentHeader.size]
      omega

@[simp] theorem length_storedOperations : (storedOperations next cs).length = cs.length := by
  induction cs generalizing next with
  | nil => rfl
  | cons c cs ih => rw [storedOperations, List.length_cons, ih, List.length_cons]

theorem storedAt_cons : StoredAt f comp next (c :: cs) ↔
    Fields f (componentHeaderAt comp) c.header ∧ slice f next c.image.length = c.image
      ∧ StoredAt f (comp + 1) (next + c.image.length) cs := by
  rw [StoredAt, StoredAt, List.flatMap_cons, List.map_cons, fields_append, fields_cons,
    c.length_header, componentHeaderAt_succ]
  exact ⟨fun ⟨⟨h₁, h₂⟩, h₃, h₄⟩ => ⟨h₁, h₃, h₂, h₄⟩, fun ⟨h₁, h₃, h₂, h₄⟩ => ⟨⟨h₁, h₂⟩, h₃, h₄⟩⟩

/-- Stored components are laid out as the parser wants them: `covered` is the
union of the targets so far, and no component has a retimer in it. -/
theorem StoredAt.laid (h : StoredAt f comp next cs) (hend : next + storedLength cs ≤ fwSize)
    (hsize : fwSize < 2 ^ 31) (hcov : covered ≤ 0xFF) (hle : ∀ c ∈ cs, c.applyBitmap ≤ 0xFF)
    (hfree : ∀ c ∈ cs, covered &&& c.applyBitmap = 0)
    (hdisj : cs.Pairwise fun c d => c.applyBitmap &&& d.applyBitmap = 0) :
    Laid f fwSize comp next covered (storedOperations next cs) := by
  induction cs generalizing comp next covered with
  | nil => exact hcov
  | cons c cs ih =>
      obtain ⟨hc, hrest⟩ := List.pairwise_cons.mp hdisj
      obtain ⟨hheader, himage, h⟩ := storedAt_cons.mp h
      rw [storedLength_cons] at hend
      have hinside : next + c.image.length ≤ fwSize := by omega
      refine ⟨StoredComponent.componentOk hheader himage (by omega), rfl, hinside,
        hfree c List.mem_cons_self, ?_⟩
      · have hrestEnd : next + c.image.length + storedLength cs ≤ fwSize := by omega
        refine ih h hrestEnd (bitmap_or_le hcov (hle c List.mem_cons_self)) ?_ ?_ hrest
        · exact fun d hd => hle d (List.mem_cons_of_mem c hd)
        · exact fun d hd => bitmap_disjoint_or (hfree d (List.mem_cons_of_mem c hd)) (hc d hd)

/-- What the parser takes is made of stored components. By induction on the
layout, a component is cut out of the file at each header, with the image that
the header tells the length of. -/
theorem exists_storedAt (h : Laid f f.length comp next covered ops) (hsize : f.length < 2 ^ 31)
    (hin : componentHeaderAt (comp + ops.length) ≤ f.length) :
    ∃ cs, StoredAt f comp next cs ∧ storedOperations next cs = ops := by
  induction ops generalizing comp next covered with
  | nil => exact ⟨[], ⟨trivial, trivial⟩, rfl⟩
  | cons op ops ih =>
      obtain ⟨hop, hstart, hend, -, hrest⟩ := h
      have hnext := componentHeaderAt_mono (show comp + 1 ≤ comp + (op :: ops).length by simp)
      rw [componentHeaderAt_succ] at hnext
      obtain ⟨c, hheader, himage, hc⟩ := StoredComponent.exists_of_componentOk hop
        (Nat.le_trans hnext hin) (hstart ▸ hend) hsize
      rw [hstart] at himage hc
      have hlength : c.image.length = op.imageLength := congrArg UpdateOperation.imageLength hc
      rw [← hlength] at hrest
      rw [List.length_cons, ← Nat.add_assoc, Nat.add_right_comm] at hin
      obtain ⟨cs, hcs, hops⟩ := ih hrest hin
      refine ⟨c :: cs, storedAt_cons.mpr ⟨hheader, himage, hcs⟩, ?_⟩
      rw [storedOperations, hc, hops]

theorem storedEnd_le (h : Laid f fwSize comp next covered (storedOperations next cs))
    (hnext : next ≤ fwSize) : next + storedLength cs ≤ fwSize := by
  induction cs generalizing comp next covered with
  | nil => exact hnext
  | cons c cs ih =>
      have hrest := ih h.2.2.2.2 h.2.2.1
      rwa [storedLength_cons, ← Nat.add_assoc]

theorem u32_of_leBytes {x y : UInt32} (h : leBytes 4 x.toNat = leBytes 4 y.toNat) : x = y :=
  UInt32.toNat_inj.mp (leBytes_injective x.toNat_lt y.toNat_lt h)

/-- The header and the place of the image determine a component. The fields have
fixed lengths, so two headers with the same bytes agree field by field, and the
length they agree on is that of the image. -/
theorem StoredComponent.unique {d : StoredComponent} (hlen : next + c.image.length ≤ f.length)
    (hlen' : next + d.image.length ≤ f.length) (hsize : f.length < 2 ^ 31)
    (hc : Fields f (componentHeaderAt comp) c.header)
    (hd : Fields f (componentHeaderAt comp) d.header)
    (hcimage : slice f next c.image.length = c.image)
    (hdimage : slice f next d.image.length = d.image) : c = d := by
  have hsame : c.header = d.header := hc.unique hd (by
    simp [StoredComponent.header, StoredComponent.body, c.versionString_length,
      d.versionString_length, c.reserved_length, d.reserved_length])
  simp only [StoredComponent.header, StoredComponent.body, List.cons_append, List.nil_append,
    List.cons.injEq, true_and] at hsame
  obtain ⟨hlength, hbitmap, hversion, hreserved, -⟩ := hsame
  have himage : c.image.length = d.image.length :=
    leBytes_injective (by omega) (by omega) hlength
  refine StoredComponent.ext ?_ (u32_of_leBytes hbitmap) hversion hreserved
  rw [← hcimage, ← hdimage, himage]

theorem StoredAt.unique (h : StoredAt f comp next cs) (h' : StoredAt f comp next cs')
    (hlen : cs.length = cs'.length) (hend : next + storedLength cs ≤ f.length)
    (hend' : next + storedLength cs' ≤ f.length) (hsize : f.length < 2 ^ 31) : cs = cs' := by
  induction cs generalizing comp next cs' with
  | nil => exact (List.length_eq_zero_iff.mp hlen.symm).symm
  | cons c cs ih =>
      cases cs' with
      | nil => cases hlen
      | cons d cs' =>
          obtain ⟨hheader, himage, h⟩ := storedAt_cons.mp h
          obtain ⟨hheader', himage', h'⟩ := storedAt_cons.mp h'
          rw [storedLength_cons] at hend hend'
          obtain rfl := StoredComponent.unique (by omega) (by omega) hsize hheader hheader' himage
            himage'
          rw [ih h h' (Nat.succ.inj hlen) (by omega) (by omega)]

end Components

/-! ## Packages -/

namespace StoredPackage

variable {b : Build} {f : List UInt8} (p : StoredPackage)

@[simp] theorem length_body : p.body.flatten.length = 36 := by
  simp [body, p.reserved2_length, compositeImageHeaderUuid]

@[simp] theorem length_header : p.header.flatten.length = 40 := by
  rw [header, List.flatten_append, List.length_append, length_body]
  simp

theorem length_bytes : p.bytes.length = p.fileLength := by
  simp only [bytes, fields, List.flatten_append, List.length_append, length_header,
    length_storedHeaders, length_storedImages, List.flatten_cons, List.flatten_nil,
    List.length_nil, fileLength, componentHeaderAt, CompositeImageHeader.size]
  rw [Nat.mul_comm]
  omega

theorem fields_iff : Fields f 0 p.fields ↔
    Fields f 0 p.body
      ∧ slice f 36 4 = leBytes 4 (crc32 p.body.flatten (toInt32 36)).toNat
      ∧ StoredAt f 0 (componentHeaderAt p.components.length) p.components
      ∧ slice f (componentHeaderAt p.components.length + storedLength p.components) p.slack.length
        = p.slack := by
  have hheaders : 0 + 40 + ComponentHeader.size * p.components.length
      = componentHeaderAt p.components.length := by
    rw [componentHeaderAt, CompositeImageHeader.size, Nat.mul_comm, Nat.zero_add]
  rw [fields, fields_append, fields_append, fields_append, header, fields_append, length_body,
    ← header, length_header, length_storedHeaders, length_storedImages, hheaders, StoredAt]
  simp only [fields_cons, fields_nil, and_true, length_leBytes, Nat.zero_add]
  exact ⟨fun ⟨⟨h₁, h₂⟩, h₃, h₄, h₅⟩ => ⟨h₁, h₂, ⟨h₃, h₄⟩, h₅⟩,
    fun ⟨h₁, h₂, ⟨h₃, h₄⟩, h₅⟩ => ⟨⟨h₁, h₂⟩, h₃, h₄, h₅⟩⟩

/-- The fields in front of `headerCrc`, with what they say. -/
theorem fields_body_iff (hin : 40 ≤ f.length) : Fields f 0 p.body ↔
    slice f 0 16 = compositeImageHeaderUuid ∧ u8At f 16 = 1 ∧ u8At f 17 = p.reserved0
      ∧ u8At f 18 = UInt8.ofNat p.components.length ∧ u8At f 19 = p.platformType
      ∧ slice f 20 4 = leBytes 4 p.fileLength ∧ u32At f 24 = p.sku
      ∧ slice f 28 8 = p.reserved2 := by
  have hbyte : ∀ {off : Nat} {c : UInt8}, off < 40 → (slice f off 1 = [c] ↔ u8At f off = c) := by
    intro off c hoff
    rw [slice_u8At (by omega), List.cons.injEq, and_iff_left rfl]
  have hword : slice f 24 4 = leBytes 4 p.sku.toNat ↔ u32At f 24 = p.sku := by
    refine ⟨u32At_of_slice, ?_⟩
    rintro h
    rw [← h]
    exact slice_u32At (by omega)
  simp only [body, fields_cons, fields_nil, compositeImageHeaderUuid, List.length_cons,
    List.length_nil, length_leBytes, p.reserved2_length, Nat.reduceAdd, and_true]
  rw [hbyte (by decide), hbyte (by decide), hbyte (by decide), hbyte (by decide), hword]

theorem headerEnd_le : 40 ≤ p.fileLength := by
  rw [fileLength, componentHeaderAt, CompositeImageHeader.size]
  omega

theorem ofNat_count_toNat : (UInt8.ofNat p.components.length).toNat = p.components.length := by
  have hle := p.components_le
  rw [UInt8.toNat_ofNat', Nat.mod_eq_of_lt (by omega)]

theorem parsed_bytes {p : StoredPackage} (hplatform : (p.platformType.toNat : Int) = b.platformType)
    (hsize : p.bytes.length < 2 ^ 31) (pldmVersionStr : List UInt8) :
    IsComposite p.bytes p.bytes.length
      ∧ Parsed b p.bytes p.bytes.length pldmVersionStr p.updateOps := by
  obtain ⟨-, hfields⟩ := eq_flatten_iff.mp (show p.bytes = p.fields.flatten from rfl)
  have hlen := p.length_bytes
  generalize p.bytes = f at hsize hfields hlen ⊢
  have hin : 40 ≤ f.length := hlen ▸ p.headerEnd_le
  obtain ⟨hbody, hcrc, hstored, -⟩ := p.fields_iff.mp hfields
  have hbytes := slice_flatten_iff.mpr hbody
  obtain ⟨huuid, hversion, -, hcount, hplatform', hlength, -, -⟩ := (p.fields_body_iff hin).mp hbody
  have hcount' : componentCountOf f = p.components.length := by
    rw [componentCountOf, CompositeImageHeader.componentCount, hcount, ofNat_count_toNat]
  have hcomp : IsComposite f f.length := ⟨hin, huuid⟩
  have hhead : CompositeHeaderOk b f f.length := by
    constructor
    · rw [p.length_body] at hbytes
      rw [crcAt_of_slice hbytes (by decide)]
      exact (u32At_of_slice hcrc).symm
    · exact hversion
    · rw [CompositeImageHeader.platformType, hplatform', hplatform]
    · exact hcount' ▸ p.components_le
    · rw [CompositeImageHeader.fileLength, u32At_toNat_of_slice hlength (by omega), hlen]
    · rw [hcount', hlen, fileLength]
      omega
  refine ⟨hcomp, ?_⟩
  by_cases hnil : p.components = []
  · rw [updateOps, if_pos hnil]
    exact .empty hcomp hhead (by rw [hcount', hnil]; rfl)
  · rw [updateOps, if_neg hnil]
    have hend : componentHeaderAt p.components.length + storedLength p.components ≤ f.length := by
      rw [hlen, fileLength]
      omega
    refine .composite hcomp hhead ?_ ?_ ?_
    · rw [hcount']
      exact fun h => hnil (List.length_eq_zero_iff.mp h)
    · rw [hcount', length_storedOperations]
    · rw [hcount']
      exact hstored.laid hend hsize (by decide) p.bitmap_le (fun _ _ => UInt32.zero_and) p.disjoint

theorem applyBitmaps_operations (next : Nat) (cs : List StoredComponent) :
    (storedOperations next cs).map UpdateOperation.applyBitmap
      = cs.map StoredComponent.applyBitmap := by
  induction cs generalizing next with
  | nil => rfl
  | cons c cs ih => rw [storedOperations, List.map_cons, List.map_cons, ih]; rfl

/-- What the parser takes is the file of a package. -/
theorem exists_bytes (hsize : f.length < 2 ^ 31) (hcomp : IsComposite f f.length)
    (hhead : CompositeHeaderOk b f f.length) {ops : List UpdateOperation}
    (hlen : ops.length = componentCountOf f)
    (hlaid : Laid f f.length 0 (componentHeaderAt (componentCountOf f)) 0 ops) :
    ∃ p : StoredPackage, (p.platformType.toNat : Int) = b.platformType ∧ p.bytes = f := by
  have hcount := hhead.componentCount
  obtain ⟨cs, hcs, rfl⟩ := exists_storedAt hlaid hsize (by
    rw [hlen, Nat.zero_add]
    exact hhead.headersFit)
  rw [length_storedOperations] at hlen
  have hbitmap : ∀ c ∈ cs, c.applyBitmap ≤ 0xFF := by
    have hall : ∀ x ∈ cs.map StoredComponent.applyBitmap, x ≤ 0xFF := by
      rw [← applyBitmaps_operations (componentHeaderAt (componentCountOf f)),
        List.forall_mem_map]
      exact fun op hop => (hlaid.bitmap op hop).2
    exact List.forall_mem_map.mp hall
  have hdisjoint : cs.Pairwise fun c d => c.applyBitmap &&& d.applyBitmap = 0 := by
    have hall : (cs.map StoredComponent.applyBitmap).Pairwise fun x y => x &&& y = 0 := by
      rw [← applyBitmaps_operations (componentHeaderAt (componentCountOf f)),
        List.pairwise_map]
      exact hlaid.disjoint
    exact List.pairwise_map.mp hall
  have hin : 40 ≤ f.length := hcomp.1
  have hend := storedEnd_le hlaid hhead.headersFit
  have hreserved : (slice f 28 8).length = 8 := length_slice (by omega)
  obtain ⟨p, hreserved0, hplatform, hsku, hreserved2, hcomponents, hslack⟩ : ∃ p : StoredPackage,
      p.reserved0 = u8At f 17 ∧ p.platformType = u8At f 19 ∧ p.sku = u32At f 24
        ∧ p.reserved2 = slice f 28 8 ∧ p.components = cs
        ∧ p.slack = f.drop (componentHeaderAt (componentCountOf f) + storedLength cs) :=
    ⟨⟨_, _, _, _, cs, _, hreserved, hlen ▸ hcount, hbitmap, hdisjoint⟩, rfl, rfl, rfl, rfl, rfl,
      rfl⟩
  have hslackLength : componentHeaderAt (componentCountOf f) + storedLength cs + p.slack.length
      = f.length := by
    rw [hslack, List.length_drop]
    omega
  have hlength : p.fileLength = f.length := by
    rw [fileLength, hcomponents, hlen, hslackLength]
  have hbody : Fields f 0 p.body := by
    refine (p.fields_body_iff hin).mpr ⟨hcomp.2, hhead.majorVersion, hreserved0.symm, ?_,
      hplatform.symm, ?_, hsku.symm, hreserved2.symm⟩
    · rw [hcomponents, hlen, componentCountOf, UInt8.ofNat_toNat]
      rfl
    · rw [hlength, ← hhead.fileLength]
      exact slice_u32At (by omega)
  have hbytes := slice_flatten_iff.mpr hbody
  rw [p.length_body] at hbytes
  refine ⟨p, hplatform ▸ hhead.platformType, (eq_flatten_iff.mpr ⟨?_, ?_⟩).symm⟩
  · rw [← bytes, p.length_bytes, hlength]
  · refine p.fields_iff.mpr ⟨hbody, ?_, ?_, ?_⟩
    · rw [← hbytes, ← crcAt_eq_slice (by decide), hhead.headerCrc]
      exact slice_u32At (by omega)
    · rw [hcomponents, hlen]
      exact hcs
    · rw [hcomponents, hlen, slice, ← hslack]
      exact List.take_length

theorem unique_bytes {p q : StoredPackage} (h : p.bytes = f) (h' : q.bytes = f)
    (hsize : f.length < 2 ^ 31) : p = q := by
  have hlen := h ▸ p.length_bytes
  have hlen' := h' ▸ q.length_bytes
  have hin : 40 ≤ f.length := hlen ▸ p.headerEnd_le
  obtain ⟨hbody, -, hstored, hslack⟩ := p.fields_iff.mp (eq_flatten_iff.mp h.symm).2
  obtain ⟨hbody', -, hstored', hslack'⟩ := q.fields_iff.mp (eq_flatten_iff.mp h'.symm).2
  obtain ⟨-, -, hreserved0, hcount, hplatform, -, hsku, hreserved2⟩ :=
    (p.fields_body_iff hin).mp hbody
  obtain ⟨-, -, hreserved0', hcount', hplatform', -, hsku', hreserved2'⟩ :=
    (q.fields_body_iff hin).mp hbody'
  have hcomponents : p.components.length = q.components.length := by
    rw [← ofNat_count_toNat, ← hcount, hcount', ofNat_count_toNat]
  rw [fileLength] at hlen hlen'
  have hsame : p.components = q.components := by
    rw [← hcomponents] at hstored' hlen'
    exact hstored.unique hstored' hcomponents (by omega) (by omega) hsize
  have hslackLength : p.slack.length = q.slack.length := by
    rw [hsame] at hlen
    omega
  refine StoredPackage.ext (hreserved0.symm.trans hreserved0') (hplatform.symm.trans hplatform')
    (hsku.symm.trans hsku') (hreserved2.symm.trans hreserved2') hsame ?_
  rw [← hslack, ← hslack', hsame, hslackLength]

end StoredPackage

/-- **The language of the format.** With memory for the operations, the
composite branch accepts exactly the files of packages for the platform. Each
such file is the file of one package only, so nothing in it can be read in two
ways, and the operations are those of its components. -/
theorem parse_iff_stored (b : Build) (f : List UInt8) (hsize : f.length < 2 ^ 31)
    (pldmVersionStr : List UInt8) :
    (IsComposite f f.length ∧ (parseCompositeImage b f f.length pldmVersionStr true).ret = 0
        ↔ ∃! p : StoredPackage, (p.platformType.toNat : Int) = b.platformType ∧ p.bytes = f)
      ∧ ∀ p : StoredPackage, (p.platformType.toNat : Int) = b.platformType → p.bytes = f →
        (parseCompositeImage b f f.length pldmVersionStr true).updateOps = p.updateOps := by
  refine ⟨⟨?_, ?_⟩, ?_⟩
  · rintro ⟨hcomp, hret⟩
    obtain ⟨hhead, ops, -, hlen, hlaid⟩ := composite_accepts b hsize hcomp hret
    obtain ⟨p, hplatform, hp⟩ := StoredPackage.exists_bytes hsize hcomp hhead hlen hlaid
    exact ⟨p, ⟨hplatform, hp⟩, fun q ⟨_, hq⟩ => StoredPackage.unique_bytes hq hp hsize⟩
  · rintro ⟨p, ⟨hplatform, rfl⟩, -⟩
    obtain ⟨hcomp, hparsed⟩ := StoredPackage.parsed_bytes hplatform hsize pldmVersionStr
    exact ⟨hcomp, (parse_of_parsed b hsize hparsed).1⟩
  · rintro p hplatform rfl
    obtain ⟨-, hparsed⟩ := StoredPackage.parsed_bytes hplatform hsize pldmVersionStr
    exact (parse_of_parsed b hsize hparsed).2

/-! ## Packages that are laid out well -/

namespace Component

variable (c : Component)

/-- The component as it is stored, with its version padded. -/
def stored : StoredComponent :=
  ⟨c.image, c.applyBitmap, c.paddedVersion, c.reserved, c.length_paddedVersion, c.reserved_length⟩

theorem flatten_header : c.stored.header.flatten = c.header := by
  have hbody : c.stored.body.flatten = c.headerBody := by
    simp [StoredComponent.body, stored, headerBody, crc, StoredComponent.crc]
  rw [StoredComponent.header, List.flatten_append, hbody, header_eq, withCrc, length_headerBody,
    List.flatten_cons, List.flatten_nil, List.append_nil]

end Component

/-- The package as it is stored, with nothing behind the last image. -/
def Package.stored (p : Package) : StoredPackage where
  reserved0 := p.reserved0
  platformType := p.platformType
  sku := p.sku
  reserved2 := p.reserved2
  components := p.components.map Component.stored
  slack := []
  reserved2_length := p.reserved2_length
  components_le := (List.length_map _).trans_le p.components_le
  bitmap_le := List.forall_mem_map.mpr p.bitmap_le
  disjoint := List.pairwise_map.mpr p.disjoint

/-- The two ways to write a package give one file. -/
theorem Package.bytes_stored (p : Package) : p.stored.bytes = p.encode := by
  have hheaders : ∀ cs : List Component, ((cs.map Component.stored).flatMap
      StoredComponent.header).flatten = (cs.map Component.header).flatten := by
    intro cs
    induction cs with
    | nil => rfl
    | cons c cs ih =>
        rw [List.map_cons, List.flatMap_cons, List.flatten_append, c.flatten_header, ih,
          List.map_cons, List.flatten_cons]
  have himages : (p.components.map Component.stored).map StoredComponent.image
      = p.components.map Component.image := by
    rw [List.map_map]
    rfl
  have hlength : p.stored.fileLength = p.fileLength := by
    simp [StoredPackage.fileLength, fileLength, stored, storedLength, imagesLength,
      Function.comp_def, Component.stored]
  have hbody : p.stored.body.flatten = p.headerBody := by
    rw [StoredPackage.body, hlength]
    simp [headerBody, stored]
  rw [StoredPackage.bytes, StoredPackage.fields, StoredPackage.header, List.flatten_append,
    List.flatten_append, List.flatten_append, List.flatten_append, hbody, encode, header_eq,
    withCrc, length_headerBody]
  simp [stored, hheaders, himages]

/-- The file of two components is that of one package only, and gives its operations. -/
theorem parse_iff_stored_pair :
    (∃! p : StoredPackage, (p.platformType.toNat : Int) = defaultBuild.platformType
        ∧ p.bytes = pairPackage.encode)
      ∧ (parseCompositeImage defaultBuild pairPackage.encode pairPackage.encode.length []
        true).updateOps = pairPackage.stored.updateOps := by
  have hcomp : IsComposite pairPackage.encode pairPackage.encode.length := by
    rw [pairPackage.length_encode]
    exact pairPackage.isComposite_encode
  obtain ⟨hiff, hops⟩ := parse_iff_stored defaultBuild pairPackage.encode
    (pairPackage.length_encode.trans_lt pairPackage.size_lt) []
  exact ⟨hiff.mp ⟨hcomp, (parse_pairPackage []).1⟩,
    hops pairPackage.stored rfl pairPackage.bytes_stored⟩

end Retimer
