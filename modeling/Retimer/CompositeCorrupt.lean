import Retimer.CompositeEncode

/-!
# Corrupted composite images

A file damaged in up to four consecutive bytes of a region that a CRC
covers (`Burst`, `Protected`) is rejected. The CRC of the region changes
(`Burst.crcAt_ne`, from the register of `crc32`); what is left to see is
that the parser still compares it with the value it was compared with
before. That is not for granted: the damage may be in the length of a
component, or in a field that decides where the next one is looked for.

Damage inside one region leaves every other field of the headers alone
(`Burst.slice_eq`, `Burst.u32At_eq`), so a parse of the damaged file
that succeeded would be a parse into the same operations: `Laid.unique`
says that the headers alone determine them. Header by header
`parse_burst` then comes to the one whose CRC covers the damage.

A file cut behind its header, or extended, keeps a header whose
`fileLength` does not fit any more (`parse_same_header`). One that is
cut inside the header itself is too short for one, and is taken for a
bare image (`parse_short`); `parse_cut_header` is such a file.
-/

namespace Retimer

open Interaction

/-- `g` is `f` damaged inside a window of four bytes, and only in the `len`
bytes from `off`. -/
structure Burst (f g : List UInt8) (off len : Nat) : Prop where
  length_eq : g.length = f.length
  ne : g ≠ f
  window : ∃ w, ∀ i, g[i]? ≠ f[i]? → (w ≤ i ∧ i < w + 4) ∧ off ≤ i ∧ i < off + len

/-- The regions of a composite file under a CRC, for a file with the operations
`ops`: the header behind its UUID, every component header up to its own CRC, and
every image. -/
inductive Protected (f : List UInt8) (ops : List UpdateOperation) : Nat → Nat → Prop where
  | header : Protected f ops 16 20
  | componentHeader {comp : Nat} : comp < componentCountOf f →
      Protected f ops (componentHeaderAt comp) 60
  | image {op : UpdateOperation} : op ∈ ops → Protected f ops op.startOffset op.imageLength

namespace Burst

variable {f g : List UInt8} {off len a n : Nat}

theorem slice_eq (h : Burst f g off len) (hout : a + n ≤ off ∨ off + len ≤ a) :
    slice g a n = slice f a n := by
  apply List.ext_getElem?
  intro i
  rw [getElem?_slice, getElem?_slice]
  split
  · next hi =>
      obtain ⟨w, hw⟩ := h.window
      by_contra hne
      have hin := (hw _ hne).2
      omega
  · rfl

theorem u32At_eq (h : Burst f g off len) (hout : a + 4 ≤ off ∨ off + len ≤ a) :
    u32At g a = u32At f a := by
  rw [u32At, u32At, h.slice_eq hout]

/-- The CRC over any part of the file that contains the region changes. That a
table CRC sees a burst is `burst_detected`; here it is put into the places of
the file. -/
theorem crcAt_ne (h : Burst f g off len) (hlo : a ≤ off) (hhi : off + len ≤ a + n)
    (hlen : n < 2 ^ 31) : crcAt g a n ≠ crcAt f a n := by
  obtain ⟨w, hw⟩ := h.window
  -- the window, moved up to the start of what the CRC covers
  obtain ⟨k, hk⟩ : ∃ k, k = w - a := ⟨_, rfl⟩
  have hsame : ∀ i, i < k ∨ k + 4 ≤ i → (g.drop a)[i]? = (f.drop a)[i]? := by
    intro i hi
    rw [List.getElem?_drop, List.getElem?_drop]
    by_contra hne
    have hin := hw _ hne
    omega
  have hcut : ∀ bs : List UInt8, bs = bs.take k ++ slice bs k 4 ++ bs.drop (k + 4) := by
    intro bs
    rw [List.append_assoc, slice, ← List.drop_drop, List.take_append_drop, List.take_append_drop]
  have hpre : ((g.drop a).take n).take k = ((f.drop a).take n).take k := by
    apply List.ext_getElem?
    intro i
    simp only [List.getElem?_take]
    split
    · next hi => rw [hsame i (Or.inl hi)]
    · rfl
  have hpost : ((g.drop a).take n).drop (k + 4) = ((f.drop a).take n).drop (k + 4) := by
    apply List.ext_getElem?
    intro i
    simp only [List.getElem?_drop, List.getElem?_take]
    split
    · have hi := hsame (k + 4 + i) (Or.inr (Nat.le_add_right _ _))
      simpa only [List.getElem?_drop] using hi
    · rfl
  have hburst : slice ((g.drop a).take n) k 4 ≠ slice ((f.drop a).take n) k 4 := by
    intro heq
    refine h.ne (List.ext_getElem? fun i => ?_)
    by_contra hne
    have hin := (hw i hne).2
    have hwhole : (g.drop a).take n = (f.drop a).take n := by
      rw [hcut ((g.drop a).take n), hcut ((f.drop a).take n), hpre, heq, hpost]
    have hbyte := congrArg (·[i - a]?) hwhole
    simp only [List.getElem?_take, List.getElem?_drop] at hbyte
    rw [if_pos (by omega), if_pos (by omega), Nat.add_sub_cancel' (by omega)] at hbyte
    exact hne hbyte
  rw [crcAt, crcAt, crc32_eq_foldl hlen, crc32_eq_foldl hlen, hcut ((g.drop a).take n),
    hcut ((f.drop a).take n), hpre, hpost]
  refine crcFold_ne_of_burst ?_ ?_ hburst
  · simp only [slice, List.length_take, List.length_drop, h.length_eq]
  · simp only [slice, List.length_take]
    omega

end Burst

/-! ## The same headers, the same operations -/

/-- Operations laid out under the same headers are the same. The induction goes
along the first layout: the header decides the length, the targets and the CRC
of each operation, and the length decides where the next image starts. -/
theorem Laid.unique {f g : List UInt8} {fwSize comp next : Nat} {covered : UInt32}
    {ops ops' : List UpdateOperation} (hf : Laid f fwSize comp next covered ops)
    (hg : Laid g fwSize comp next covered ops') (hlen : ops'.length = ops.length)
    (heq : ∀ off len, componentHeaderAt comp ≤ off →
      off + len ≤ componentHeaderAt (comp + ops.length) → slice g off len = slice f off len) :
    ops' = ops := by
  induction ops generalizing comp next covered ops' with
  | nil => exact List.length_eq_zero_iff.mp hlen
  | cons op ops ih =>
      cases ops' with
      | nil => simp at hlen
      | cons op' ops' =>
          obtain ⟨hop, hstart, -, -, hrest⟩ := hf
          obtain ⟨hop', hstart', -, -, hrest'⟩ := hg
          have hfield : ∀ k n, k + n ≤ ComponentHeader.size →
              slice g (componentHeaderAt comp + k) n = slice f (componentHeaderAt comp + k) n := by
            intro k n hkn
            have hnext := componentHeaderAt_mono (show comp + 1 ≤ comp + (op :: ops).length by simp)
            rw [componentHeaderAt_succ] at hnext
            exact heq _ _ (Nat.le_add_right _ _) (by omega)
          have hword : ∀ k, k + 4 ≤ ComponentHeader.size →
              u32At g (componentHeaderAt comp + k) = u32At f (componentHeaderAt comp + k) := by
            intro k hk
            rw [u32At, u32At, hfield k 4 hk]
          obtain rfl : op' = op := by
            refine UpdateOperation.ext (hstart'.trans hstart.symm) ?_ ?_ ?_ ?_
            · rw [hop.imageLength, hop'.imageLength, hword _ (by decide)]
            · rw [hop.applyBitmap, hop'.applyBitmap, hword _ (by decide)]
            · rw [hop.imageCrc, hop'.imageCrc, hword _ (by decide)]
            · rw [hop.versionString, hop'.versionString, bytesAt, bytesAt, hfield _ _ (by decide)]
          rw [ih hrest hrest' (by simpa using hlen) fun off len hlo hhi =>
            heq off len (Nat.le_trans (componentHeaderAt_mono (Nat.le_succ comp)) hlo)
              (by rwa [List.length_cons, ← Nat.add_assoc, Nat.add_right_comm])]

theorem composite_accepts (b : Build) {f : List UInt8} {fwSize : Nat} {pldmVersionStr : List UInt8}
    {calloc : Bool} (hsize : fwSize < 2 ^ 31) (hcomp : IsComposite f fwSize)
    (h : (parseCompositeImage b f fwSize pldmVersionStr calloc).ret = 0) :
    CompositeHeaderOk b f fwSize ∧
      ∃ ops, (parseCompositeImage b f fwSize pldmVersionStr calloc).updateOps.getD [] = ops
        ∧ ops.length = componentCountOf f
        ∧ Laid f fwSize 0 (componentHeaderAt (componentCountOf f)) 0 ops := by
  obtain ⟨hparsed, -⟩ := parse_accepts b hsize h
  generalize (parseCompositeImage b f fwSize pldmVersionStr calloc).updateOps = res at hparsed ⊢
  cases hparsed with
  | bare hbare => exact absurd hcomp hbare
  | empty _ hhead hzero => exact ⟨hhead, [], rfl, hzero.symm, UInt32.zero_le⟩
  | composite _ hhead _ hlen hlaid => exact ⟨hhead, _, rfl, hlen, hlaid⟩

/-! ## Rejection -/

section Rejection

variable {f g : List UInt8} {off len : Nat}

theorem Burst.isComposite (h : Burst f g off len) (hoff : 16 ≤ off)
    (hcomp : IsComposite f f.length) : IsComposite g g.length := by
  refine ⟨h.length_eq ▸ hcomp.1, ?_⟩
  rw [bytesAt, h.slice_eq (Or.inl hoff)]
  exact hcomp.2

theorem Burst.componentCountOf_eq (h : Burst f g off len) (hoff : 40 ≤ off) :
    componentCountOf g = componentCountOf f := by
  have hbyte : slice g 18 1 = slice f 18 1 := h.slice_eq (Or.inl (by omega))
  have hget := congrArg (·[0]?) hbyte
  simp only [getElem?_slice, Nat.lt_add_one, ↓reduceIte, Nat.add_zero] at hget
  simp only [componentCountOf, u8At, List.getD_eq_getElem?_getD,
    CompositeImageHeader.componentCount,
    hget]

/-- One component of three bytes for retimers 0 and 1. -/
def smallPackage : Package where
  reserved0 := 0
  platformType := 0
  sku := 0
  reserved2 := List.replicate 8 0
  components := [{
    image := [1, 2, 3]
    applyBitmap := 3
    version := [0x31]
    reserved := List.replicate 8 0
    version_length := by decide
    version_ne_zero := by simp
    reserved_length := by decide }]
  reserved2_length := by decide
  components_ne_nil := by decide
  components_le := by decide
  bitmap_le := by decide
  disjoint := List.pairwise_singleton _ _
  size_lt := by decide

theorem length_small : smallPackage.encode.length = 107 := smallPackage.length_encode

theorem accepted_small : smallPackage.encode.length < 2 ^ 31
    ∧ IsComposite smallPackage.encode smallPackage.encode.length
    ∧ (parseCompositeImage defaultBuild smallPackage.encode smallPackage.encode.length []
      true).ret = 0 := by
  have hsize : smallPackage.encode.length < 2 ^ 31 :=
    smallPackage.length_encode.trans_lt smallPackage.size_lt
  have hcomp : IsComposite smallPackage.encode smallPackage.encode.length := by
    rw [smallPackage.length_encode]
    exact smallPackage.isComposite_encode
  have hparsed := smallPackage.parsed_encode defaultBuild rfl []
  rw [← smallPackage.length_encode] at hparsed
  exact ⟨hsize, hcomp, (parse_of_parsed defaultBuild hsize hparsed).1⟩

/-- **Short bursts are caught**: damage of at most four consecutive bytes in a
protected region of an accepted composite file makes the parser fail. The
damaged file has the same length; nothing else is assumed of it, and the damage
need not be to whole fields. -/
theorem parse_burst (b : Build) (f g : List UInt8) (hsize : f.length < 2 ^ 31)
    (pldmVersionStr pldmVersionStr' : List UInt8) (calloc calloc' : Bool)
    (hcomp : IsComposite f f.length)
    (hacc : (parseCompositeImage b f f.length pldmVersionStr calloc).ret = 0)
    (hregion : Protected f ((parseCompositeImage b f f.length pldmVersionStr
      calloc).updateOps.getD []) off len)
    (hburst : Burst f g off len) :
    (parseCompositeImage b g g.length pldmVersionStr' calloc').ret ≠ 0 := by
  intro hacc'
  have hsize' : g.length < 2 ^ 31 := hburst.length_eq ▸ hsize
  obtain ⟨hhead, ops, hops, hlen, hlaid⟩ := composite_accepts b hsize hcomp hacc
  rw [hops] at hregion
  cases hregion with
  | header =>
      have hcomp' := hburst.isComposite (Nat.le_refl _) hcomp
      obtain ⟨hhead', -⟩ := composite_accepts b hsize' hcomp' hacc'
      refine hburst.crcAt_ne (a := 0) (n := 36) (Nat.zero_le _) (Nat.le_refl _) (by decide) ?_
      rw [hhead'.headerCrc, hhead.headerCrc]
      exact hburst.u32At_eq (Or.inr (Nat.le_refl _))
  | @componentHeader comp hlt =>
      have hoff : 40 ≤ componentHeaderAt comp := Nat.le_add_right _ _
      have hcomp' := hburst.isComposite (by omega) hcomp
      obtain ⟨-, ops', -, hlen', hlaid'⟩ := composite_accepts b hsize' hcomp' hacc'
      rw [hburst.componentCountOf_eq hoff] at hlen'
      obtain ⟨op, hop⟩ : ∃ op, ops[comp]? = some op :=
        ⟨_, List.getElem?_eq_getElem (hlen ▸ hlt)⟩
      obtain ⟨op', hop'⟩ : ∃ op, ops'[comp]? = some op :=
        ⟨_, List.getElem?_eq_getElem (hlen' ▸ hlt)⟩
      have hok := hlaid.component comp op hop
      have hok' := hlaid'.component comp op' hop'
      rw [Nat.zero_add] at hok hok'
      refine hburst.crcAt_ne (Nat.le_refl _) (Nat.le_refl _) (by decide) ?_
      rw [hok'.headerCrc, hok.headerCrc]
      exact hburst.u32At_eq (Or.inr (Nat.le_refl _))
  | @image op hop =>
      obtain ⟨hlo, hhi⟩ := hlaid.inside op hop
      have hoff : 40 ≤ op.startOffset := Nat.le_trans (Nat.le_add_right _ _) hlo
      have hcomp' := hburst.isComposite (by omega) hcomp
      obtain ⟨-, ops', -, hlen', hlaid'⟩ := composite_accepts b hsize' hcomp' hacc'
      rw [hburst.componentCountOf_eq hoff] at hlen' hlaid'
      rw [hburst.length_eq] at hlaid'
      obtain rfl : ops' = ops := by
        refine hlaid.unique hlaid' (hlen'.trans hlen.symm) fun off' len' _ hend => ?_
        rw [Nat.zero_add, hlen] at hend
        exact hburst.slice_eq (Or.inl (Nat.le_trans hend hlo))
      refine hburst.crcAt_ne (Nat.le_refl _) (Nat.le_refl _) (by omega) ?_
      rw [hlaid'.crc op hop, hlaid.crc op hop]

/-- `reserved0` of the small package is not under any check but the CRC. -/
theorem parse_burst_small :
    (parseCompositeImage defaultBuild (smallPackage.encode.set 17 1)
      (smallPackage.encode.set 17 1).length [] true).ret ≠ 0 := by
  obtain ⟨hsize, hcomp, hacc⟩ := accepted_small
  refine parse_burst defaultBuild smallPackage.encode (smallPackage.encode.set 17 1) hsize [] []
    true true hcomp hacc .header ⟨?_, ?_, 16, ?_⟩
  · exact List.length_set
  · intro heq
    have hbyte : smallPackage.encode[17]? = some 0 := rfl
    have hset := congrArg (·[17]?) heq
    rw [List.getElem?_set_self (by rw [smallPackage.length_encode]; decide), hbyte] at hset
    exact absurd hset (by decide)
  · intro i hi
    have : i = 17 := by
      by_contra hne
      exact hi (List.getElem?_set_ne (Ne.symm hne))
    omega

end Rejection

/-! ## Cut and extended files -/

section Length

variable {f g : List UInt8}

/-- A file with the header of an accepted composite file but of another
length: `fileLength` no longer fits. -/
theorem parse_same_header (b : Build) (hsize : f.length < 2 ^ 31) (hsize' : g.length < 2 ^ 31)
    {pldmVersionStr : List UInt8} {calloc : Bool} (hcomp : IsComposite f f.length)
    (hacc : (parseCompositeImage b f f.length pldmVersionStr calloc).ret = 0)
    (hheader : g.take CompositeImageHeader.size = f.take CompositeImageHeader.size)
    (hlong : CompositeImageHeader.size ≤ g.length) (hlen : g.length ≠ f.length)
    (pldmVersionStr' : List UInt8) (calloc' : Bool) :
    (parseCompositeImage b g g.length pldmVersionStr' calloc').ret ≠ 0 := by
  intro hacc'
  have hfield : ∀ off n, off + n ≤ CompositeImageHeader.size → slice g off n = slice f off n := by
    intro off n hn
    rw [slice, slice, List.take_drop, List.take_drop, ← Nat.min_eq_left hn, ← List.take_take,
      ← List.take_take, hheader]
  have hcomp' : IsComposite g g.length := by
    refine ⟨hlong, ?_⟩
    rw [bytesAt, hfield _ _ (by decide)]
    exact hcomp.2
  obtain ⟨hhead, -⟩ := composite_accepts b hsize hcomp hacc
  obtain ⟨hhead', -⟩ := composite_accepts b hsize' hcomp' hacc'
  apply hlen
  rw [← hhead.fileLength, ← hhead'.fileLength, u32At, u32At, hfield _ _ (by decide)]

/-- A file too short for a `CompositeImageHeader` is a bare image, whatever its
first bytes are. -/
theorem parse_short (b : Build) (hshort : g.length < CompositeImageHeader.size)
    (pldmVersionStr : List UInt8) :
    (parseCompositeImage b g g.length pldmVersionStr true).ret = 0
      ∧ (parseCompositeImage b g g.length pldmVersionStr true).updateOps
        = some [⟨0, g.length, retimerAll, crcAt g 0 g.length, versionField pldmVersionStr⟩] :=
  parse_of_parsed b (hshort.trans (by decide)) (.bare fun h => Nat.not_lt.mpr h.1 hshort)

/-- **A cut or extended composite file** is rejected, because `fileLength` is
under the header CRC and must be the size of the file. A cut through the
`CompositeImageHeader` itself is another matter: what is left is too short for a
header and is taken for a bare image, meant for every retimer. -/
theorem parse_cut (b : Build) (f : List UInt8) (hsize : f.length < 2 ^ 31)
    (pldmVersionStr pldmVersionStr' : List UInt8) (calloc calloc' : Bool)
    (hcomp : IsComposite f f.length)
    (hacc : (parseCompositeImage b f f.length pldmVersionStr calloc).ret = 0) :
    (∀ g, g <+: f → g ≠ f → CompositeImageHeader.size ≤ g.length →
        (parseCompositeImage b g g.length pldmVersionStr' calloc').ret ≠ 0
          ∧ (parseCompositeImage b g g.length pldmVersionStr' calloc').updateOps = none)
      ∧ (∀ g, f <+: g → g ≠ f → g.length < 2 ^ 31 →
        (parseCompositeImage b g g.length pldmVersionStr' calloc').ret ≠ 0
          ∧ (parseCompositeImage b g g.length pldmVersionStr' calloc').updateOps = none)
      ∧ ∀ g, g <+: f → g.length < CompositeImageHeader.size →
        (parseCompositeImage b g g.length pldmVersionStr' true).ret = 0
          ∧ (parseCompositeImage b g g.length pldmVersionStr' true).updateOps
            = some [⟨0, g.length, retimerAll, crcAt g 0 g.length,
                versionField pldmVersionStr'⟩] := by
  refine ⟨?_, ?_, ?_⟩
  · intro g hpre hne hlong
    have hlen : g.length ≠ f.length := fun h => hne (hpre.eq_of_length h)
    have hheader : g.take CompositeImageHeader.size = f.take CompositeImageHeader.size := by
      obtain ⟨rest, rfl⟩ := hpre
      rw [List.take_append_of_le_length hlong]
    have hret := parse_same_header b hsize (hpre.length_le.trans_lt hsize) hcomp hacc hheader hlong
      hlen pldmVersionStr' calloc'
    exact ⟨hret, (parse_rejects b hret).1⟩
  · intro g hpre hne hsize'
    have hlen : g.length ≠ f.length := fun h => hne (hpre.eq_of_length h.symm).symm
    have hheader : g.take CompositeImageHeader.size = f.take CompositeImageHeader.size := by
      obtain ⟨rest, rfl⟩ := hpre
      rw [List.take_append_of_le_length hcomp.1]
    have hret := parse_same_header b hsize hsize' hcomp hacc hheader
      (hcomp.1.trans hpre.length_le) hlen pldmVersionStr' calloc'
    exact ⟨hret, (parse_rejects b hret).1⟩
  · intro g _ hshort
    exact parse_short b hshort pldmVersionStr'

theorem parse_cut_small :
    (parseCompositeImage defaultBuild (smallPackage.encode.take 40)
        (smallPackage.encode.take 40).length [] true).ret ≠ 0
      ∧ (parseCompositeImage defaultBuild (smallPackage.encode ++ [0])
        (smallPackage.encode ++ [0]).length [] true).ret ≠ 0 := by
  obtain ⟨hsize, hcomp, hacc⟩ := accepted_small
  have hlength := length_small
  obtain ⟨hcut, hextended, -⟩ :=
    parse_cut defaultBuild smallPackage.encode hsize [] [] true true hcomp hacc
  refine ⟨(hcut _ (List.take_prefix _ _) ?_ ?_).1,
    (hextended _ (List.prefix_append _ _) ?_ ?_).1⟩
  · intro heq
    have := congrArg List.length heq
    rw [List.length_take, hlength] at this
    omega
  · rw [List.length_take, hlength]
    decide
  · intro heq
    have := congrArg List.length heq
    rw [List.length_append, hlength] at this
    exact absurd this (by decide)
  · rw [List.length_append, hlength]
    decide

/-- A cut through the header: the 39 bytes left are accepted, for all
retimers. -/
theorem parse_cut_header :
    IsComposite smallPackage.encode smallPackage.encode.length
      ∧ (parseCompositeImage defaultBuild smallPackage.encode smallPackage.encode.length []
        true).ret = 0
      ∧ smallPackage.encode.take 39 <+: smallPackage.encode
      ∧ smallPackage.encode.take 39 ≠ smallPackage.encode
      ∧ (parseCompositeImage defaultBuild (smallPackage.encode.take 39)
        (smallPackage.encode.take 39).length [] true).ret = 0
      ∧ (parseCompositeImage defaultBuild (smallPackage.encode.take 39)
        (smallPackage.encode.take 39).length [] true).updateOpsCount = 1 := by
  obtain ⟨-, hcomp, hacc⟩ := accepted_small
  have hlength := length_small
  have hshort : (smallPackage.encode.take 39).length < CompositeImageHeader.size := by
    rw [List.length_take, hlength]
    decide
  obtain ⟨hret, hops⟩ := parse_short defaultBuild hshort []
  refine ⟨hcomp, hacc, List.take_prefix _ _, ?_, hret, ?_⟩
  · intro heq
    rw [heq, hlength] at hshort
    exact absurd hshort (by decide)
  · rw [(parse_accepts defaultBuild (hshort.trans (by decide)) hret).2, hops]
    rfl

end Length

end Retimer
