import Retimer.RetimerApp

/-!
# The format of the SKU

The SKU is the device id and the vendor id, four digits each, if both
strings have two characters in front that can be dropped and at most
four digits behind them (`PlainId`). `getSKUId` only checks that neither
is empty: a string of one character ends in an exception, a string
without `0x` loses two digits, and one with more than four moves the
place where the vendor id starts, so that different ids can have the
same SKU.

What a string means is defined apart from what the function does with
it. `Denotes` reads it as a hexadecimal number of 16 bits, with a prefix
or without; `skuOf` is the SKU of two such numbers, which determines
them (`skuOf_injective`). A string `Formats` an id when it contributes
that id's four digits to the result. A plain string formats what it
denotes (`PlainId.formats`), and one that formats what it denotes is
plain (`plainId_of_formats`): without a prefix the two digits that are
dropped are zeros, so that there are still four behind them.

`run_getSKUId_iff` lists the ways through the function (`SkuRun`). On
each of them `SkuRun.isSku_iff` compares the result with the ids that
were read; `SkuRun.eq_skuOf` is the part of it that makes equal SKUs
come from equal ids.
-/

namespace Retimer

open Interaction Interaction.Prog

/-! ## Ids and SKUs -/

def HasPrefix (s : List UInt8) : Prop := s.take 2 = [0x30, 0x78] ∨ s.take 2 = [0x30, 0x58]

instance : DecidablePred HasPrefix := fun _ => inferInstanceAs (Decidable (_ ∨ _))

def idDigits (s : List UInt8) : List UInt8 := if HasPrefix s then s.drop 2 else s

/-- The string is a hexadecimal number of 16 bits, of either case and with
leading zeros or not. -/
structure Denotes (s : List UInt8) (id : Nat) : Prop where
  ne_nil : idDigits s ≠ []
  number : hexNumber (idDigits s) = some id
  lt : id < 16 ^ 4

/-- The SKU of a device and a vendor. -/
def skuOf (device vendor : Nat) : List UInt8 :=
  0x30 :: 0x78 :: (hexDigits 4 device ++ hexDigits 4 vendor)

/-- Two characters that can go, and at most four digits behind them. -/
structure PlainId (s : List UInt8) : Prop where
  front : HasPrefix s ∧ s.drop 2 ≠ [] ∨ s.take 2 = [0x30, 0x30]
  width : (s.drop 2).length ≤ 4
  digits : ∀ c ∈ s.drop 2, (hexValue c).isSome

/-! ## The digits -/

section Digits

variable {c : UInt8} {text : List UInt8} {x n : Nat}

theorem toNat_toupper : (toupper c).toNat
    = if 0x61 ≤ c.toNat ∧ c.toNat ≤ 0x7A then c.toNat - 0x20 else c.toNat := by
  simp only [toupper, UInt8.le_iff_toNat_le, UInt8.reduceToNat]
  split
  · next h =>
      have hle : (0x20 : UInt8) ≤ c :=
        UInt8.le_iff_toNat_le.mpr (Nat.le_trans (show 0x20 ≤ 0x61 by decide) h.1)
      exact UInt8.toNat_sub_of_le c 0x20 hle
  · rfl

theorem toupper_of_hexValue (h : hexValue c = some x) : toupper c = upperDigit x := by
  rw [hexValue_eq_toNat] at h
  rw [← UInt8.toNat_inj, toNat_toupper, upperDigit, UInt8.toNat_ofNat']
  grind

theorem hexValue_toupper : hexValue (toupper c) = hexValue c := by
  rw [hexValue_eq_toNat, hexValue_eq_toNat, toNat_toupper]
  grind

theorem hexNumber_map_toupper : hexNumber (text.map toupper) = hexNumber text := by
  induction text with
  | nil => rfl
  | cons c text ih =>
      rw [List.map_cons, hexNumber, hexNumber, hexValue_toupper, ih, List.length_map]

/-- In upper case, the digits of a number are determined by it. -/
theorem map_toupper_of_hexNumber (h : hexNumber text = some x) :
    text.map toupper = hexDigits text.length x := by
  induction text generalizing x with
  | nil => rfl
  | cons c text ih =>
      obtain ⟨y, z, hy, hz, rfl⟩ := hexNumber_cons_iff.mp h
      have hlt := hexNumber_lt hz
      have hdiv : (y * 16 ^ text.length + z) / 16 ^ text.length = y := by
        rw [Nat.mul_comm, Nat.mul_add_div (Nat.pow_pos (by decide)), Nat.div_eq_of_lt hlt,
          Nat.add_zero]
      have hmod : (y * 16 ^ text.length + z) % 16 ^ text.length = z :=
        Nat.mul_add_mod_of_lt hlt
      rw [List.map_cons, List.length_cons, hexDigits, hdiv, hmod, toupper_of_hexValue hy, ih hz]

/-- The padded digits are those of `x` if they did not have to be cut for it.
`setw` pads and never cuts, so a longer text is not the digits of any `x`. -/
theorem setw_toupper_iff (hx : x < 16 ^ n) :
    (setw n text).map toupper = hexDigits n x ↔ text.length ≤ n ∧ hexNumber text = some x := by
  have hnumber : hexNumber (setw n text) = hexNumber text := hexNumber_zeros
  constructor
  · intro h
    constructor
    · have hlen := congrArg List.length h
      rw [List.length_map, setw, List.length_leftpad, length_hexDigits] at hlen
      omega
    · rw [← hnumber, ← hexNumber_map_toupper, h, hexNumber_hexDigits hx]
  · rintro ⟨hwidth, h⟩
    have hlen : (setw n text).length = n := by
      rw [setw, List.length_leftpad]
      omega
    rw [map_toupper_of_hexNumber (hnumber.trans h), hlen]

end Digits

/-! ## One id -/

/-- What `getSKUId` needs of a string to put `id` into the SKU. -/
structure Formats (s : List UInt8) (id : Nat) : Prop where
  cut : 2 ≤ s.length
  width : (s.drop 2).length ≤ 4
  number : hexNumber (s.drop 2) = some id

section Id

variable {s : List UInt8} {id : Nat}

theorem Denotes.unique {id' : Nat} (h : Denotes s id) (h' : Denotes s id') : id = id' :=
  Option.some.inj (h.number.symm.trans h'.number)

theorem not_denotes_nil : ¬Denotes [] id := fun h => h.ne_nil rfl

theorem PlainId.ne_nil (h : PlainId s) : s ≠ [] := by
  rintro rfl
  rcases h.front with ⟨hmark, -⟩ | hzeros
  · rcases hmark with h | h <;> cases h
  · cases hzeros

/-- A plain id says what is put into the SKU for it. -/
theorem PlainId.formats (h : PlainId s) : ∃ id, Denotes s id ∧ Formats s id := by
  obtain ⟨id, hid⟩ := Option.isSome_iff_exists.mp (hexNumber_isSome_iff.mpr h.digits)
  have hlt : id < 16 ^ 4 :=
    Nat.lt_of_lt_of_le (hexNumber_lt hid) (Nat.pow_le_pow_right (by decide) h.width)
  have hsplit := List.take_append_drop 2 s
  have hcut : (s.take 2).length = 2 → 2 ≤ s.length := by
    rw [List.length_take]
    omega
  rcases h.front with ⟨hmark, hne⟩ | hzeros
  · have hdigits : idDigits s = s.drop 2 := if_pos hmark
    have htwo : (s.take 2).length = 2 := by
      rcases hmark with h | h <;> rw [h] <;> rfl
    exact ⟨id, ⟨hdigits ▸ hne, hdigits ▸ hid, hlt⟩, hcut htwo, h.width, hid⟩
  · have hmark : ¬HasPrefix s := by
      rw [HasPrefix, hzeros]
      decide
    have hdigits : idDigits s = s := if_neg hmark
    have hnumber : hexNumber s = some id := by
      rw [← hsplit, hzeros, ← hid]
      exact show hexNumber (List.replicate 2 0x30 ++ s.drop 2) = hexNumber (s.drop 2) from
        hexNumber_zeros
    have htwo : (s.take 2).length = 2 := by
      rw [hzeros]
      rfl
    refine ⟨id, ⟨?_, ?_, hlt⟩, hcut htwo, h.width, hid⟩
    · rw [hdigits]
      exact h.ne_nil
    · rw [hdigits]
      exact hnumber

/-- Without a prefix, the two digits that go are zeros, or the number would be
another one. -/
theorem plainId_of_formats (hd : Denotes s id) (hf : Formats s id) : PlainId s := by
  have hsome : ∀ c ∈ s.drop 2, (hexValue c).isSome :=
    hexNumber_isSome_iff.mp (Option.isSome_iff_exists.mpr ⟨id, hf.number⟩)
  refine ⟨?_, hf.width, hsome⟩
  by_cases hmark : HasPrefix s
  · have hdigits : idDigits s = s.drop 2 := if_pos hmark
    exact Or.inl ⟨hmark, hdigits ▸ hd.ne_nil⟩
  · have hdigits : idDigits s = s := if_neg hmark
    have hnumber := hd.number
    have hcut := hf.cut
    have hrest := hf.number
    rw [hdigits] at hnumber
    rcases s with _ | ⟨c, _ | ⟨e, rest⟩⟩
    · cases hcut
    · exact absurd hcut (Nat.not_succ_le_self 1)
    · rw [List.drop_succ_cons, List.drop_succ_cons, List.drop_zero] at hrest
      obtain ⟨x, y, hx, hy, hsum⟩ := hexNumber_cons_iff.mp hnumber
      obtain ⟨x', y', hx', hy', rfl⟩ := hexNumber_cons_iff.mp hy
      obtain rfl := Option.some.inj (hrest.symm.trans hy')
      have hzeros : x * 16 ^ (e :: rest).length = 0 ∧ x' * 16 ^ rest.length = 0 := by omega
      have hpow : ∀ {k : Nat}, ¬16 ^ k = 0 := (Nat.pow_pos (show 0 < 16 by decide)).ne'
      obtain rfl : x = 0 := (Nat.mul_eq_zero.mp hzeros.1).resolve_right hpow
      obtain rfl : x' = 0 := (Nat.mul_eq_zero.mp hzeros.2).resolve_right hpow
      rw [eq_zero_of_hexValue hx, eq_zero_of_hexValue hx']
      exact Or.inr rfl

end Id

/-! ## Both ids -/

section Both

variable {deviceId vendorId skuId : List UInt8} {device vendor : Nat}

/-- Two ids, four characters each. -/
theorem formatSKUId_ok : formatSKUId deviceId vendorId = .ok skuId ↔
    2 ≤ deviceId.length ∧ 2 ≤ vendorId.length ∧ skuId = 0x30 :: 0x78 ::
      ((setw 4 (deviceId.drop 2)).map toupper ++ (setw 4 (vendorId.drop 2)).map toupper) := by
  simp only [formatSKUId, substr]
  by_cases hd : deviceId.length < 2
  · simp only [if_pos hd, bind, Except.bind, reduceCtorEq, false_iff]
    omega
  by_cases hv : vendorId.length < 2
  · simp only [if_neg hd, if_pos hv, bind, Except.bind, reduceCtorEq, false_iff]
    omega
  · simp only [if_neg hd, if_neg hv, bind, Except.bind, pure, Except.pure, Except.ok.injEq,
      List.map_append, Nat.le_of_not_lt hd, Nat.le_of_not_lt hv, true_and, eq_comm]

theorem formatSKUId_skuOf_iff (hd : device < 16 ^ 4) (hv : vendor < 16 ^ 4) :
    formatSKUId deviceId vendorId = .ok (skuOf device vendor) ↔
      Formats deviceId device ∧ Formats vendorId vendor := by
  rw [formatSKUId_ok, skuOf, List.cons.injEq, List.cons.injEq]
  constructor
  · rintro ⟨hdcut, hvcut, -, -, h⟩
    -- neither field is shorter than four, so the text is cut where the fields meet
    have hlen := congrArg List.length h
    simp only [List.length_append, length_hexDigits, List.length_map, setw,
      List.length_leftpad] at hlen
    obtain ⟨hdevice, hvendor⟩ := List.append_inj h (by
      simp only [length_hexDigits, List.length_map, setw, List.length_leftpad]
      omega)
    obtain ⟨hdwidth, hdnumber⟩ := (setw_toupper_iff hd).mp hdevice.symm
    obtain ⟨hvwidth, hvnumber⟩ := (setw_toupper_iff hv).mp hvendor.symm
    exact ⟨⟨hdcut, hdwidth, hdnumber⟩, hvcut, hvwidth, hvnumber⟩
  · rintro ⟨hdevice, hvendor⟩
    refine ⟨hdevice.cut, hvendor.cut, rfl, rfl, ?_⟩
    rw [(setw_toupper_iff hd).mpr ⟨hdevice.width, hdevice.number⟩,
      (setw_toupper_iff hv).mpr ⟨hvendor.width, hvendor.number⟩]

theorem skuOf_injective {device' vendor' : Nat} (hd : device < 16 ^ 4) (hd' : device' < 16 ^ 4)
    (hv : vendor < 16 ^ 4) (hv' : vendor' < 16 ^ 4)
    (h : skuOf device vendor = skuOf device' vendor') : device = device' ∧ vendor = vendor' := by
  rw [skuOf, skuOf, List.cons.injEq, List.cons.injEq] at h
  obtain ⟨hdevice, hvendor⟩ := List.append_inj h.2.2 (by rw [length_hexDigits, length_hexDigits])
  exact ⟨hexDigits_injective hd hd' hdevice, hexDigits_injective hv hv' hvendor⟩

theorem formatSKUId_of_plain (hd : PlainId deviceId) (hv : PlainId vendorId)
    (hdevice : Denotes deviceId device) (hvendor : Denotes vendorId vendor) :
    formatSKUId deviceId vendorId = .ok (skuOf device vendor) := by
  obtain ⟨device', hdevice', hdformats⟩ := hd.formats
  obtain ⟨vendor', hvendor', hvformats⟩ := hv.formats
  obtain rfl := hdevice.unique hdevice'
  obtain rfl := hvendor.unique hvendor'
  exact (formatSKUId_skuOf_iff hdevice.lt hvendor.lt).mpr ⟨hdformats, hvformats⟩

end Both

/-! ## A call of `getSKUId` -/

def propertyRead (objPath propertyName : String) (value : Option (List UInt8)) : DBusEvent :=
  ⟨.getDBusProperty ⟨objPath, switchInterface, propertyName⟩, value⟩

def idsRead (objPath : String) (deviceId : List UInt8) (vendorId : Option (List UInt8)) :
    List DBusEvent :=
  [propertyRead objPath "DeviceId" (some deviceId), propertyRead objPath "VendorId" vendorId]

/-- The string that the object publishes as `propertyName`, as it was read. -/
def PublishedAs (objPath propertyName : String) (tr : List DBusEvent) (s : List UInt8) : Prop :=
  propertyRead objPath propertyName (some s) ∈ tr

/-- The ids that the object publishes. -/
def PublishedIds (objPath : String) (tr : List DBusEvent) (device vendor : Nat) : Prop :=
  ∃ deviceId vendorId, PublishedAs objPath "DeviceId" tr deviceId
    ∧ PublishedAs objPath "VendorId" tr vendorId
    ∧ Denotes deviceId device ∧ Denotes vendorId vendor

/-- No SKU, or the one of the ids that were published. -/
def IsSku (objPath : String) (tr : List DBusEvent) (skuId : List UInt8) : Prop :=
  skuId = [] ∨ ∃ device vendor, PublishedIds objPath tr device vendor ∧ skuId = skuOf device vendor

/-- If both strings are published and neither is empty, both are plain. -/
def PlainIds (objPath : String) (tr : List DBusEvent) : Prop :=
  ∀ deviceId vendorId, PublishedAs objPath "DeviceId" tr deviceId →
    PublishedAs objPath "VendorId" tr vendorId →
    deviceId = [] ∨ vendorId = [] ∨ PlainId deviceId ∧ PlainId vendorId

/-- The ways through `getSKUId`. -/
inductive SkuRun (objPath : String) :
    List DBusEvent → Except StdException (List UInt8) → Prop where
  | noDevice : SkuRun objPath [propertyRead objPath "DeviceId" none] (.ok [])
  | noVendor (deviceId : List UInt8) :
      SkuRun objPath (idsRead objPath deviceId none) (.ok [])
  | empty (deviceId vendorId : List UInt8) (h : deviceId = [] ∨ vendorId = []) :
      SkuRun objPath (idsRead objPath deviceId (some vendorId)) (.ok [])
  | formatted (deviceId vendorId : List UInt8) (hd : deviceId ≠ []) (hv : vendorId ≠ []) :
      SkuRun objPath (idsRead objPath deviceId (some vendorId)) (formatSKUId deviceId vendorId)

section Call

variable {objPath : String} {tr : List DBusEvent} {res : Except StdException (List UInt8)}
  {deviceId vendorId s : List UInt8} {answer : Option (List UInt8)} {device vendor : Nat}

theorem run_getSKUId_iff : Run (getSKUId objPath) tr res ↔ SkuRun objPath tr res := by
  unfold getSKUId DBus.getDBusProperty
  constructor
  · intro h
    obtain ⟨r, tr₁, rfl, hdevice⟩ := run_perform_bind.mp h
    rcases r with _ | deviceId
    · obtain ⟨rfl, rfl⟩ := run_ret.mp hdevice
      exact .noDevice
    obtain ⟨r, tr₂, rfl, hvendor⟩ := run_perform_bind.mp hdevice
    rcases r with _ | vendorId
    · obtain ⟨rfl, rfl⟩ := run_ret.mp hvendor
      exact .noVendor deviceId
    simp only [List.isEmpty_iff, Bool.or_eq_true] at hvendor
    by_cases hempty : deviceId = [] ∨ vendorId = []
    · rw [if_pos hempty] at hvendor
      obtain ⟨rfl, rfl⟩ := run_ret.mp hvendor
      exact .empty deviceId vendorId hempty
    · rw [if_neg hempty] at hvendor
      obtain ⟨rfl, rfl⟩ := run_ret.mp hvendor
      obtain ⟨hd, hv⟩ := not_or.mp hempty
      exact .formatted deviceId vendorId hd hv
  · intro h
    simp only [List.isEmpty_iff, Bool.or_eq_true]
    cases h with
    | noDevice => exact run_perform_bind.mpr ⟨_, _, rfl, run_ret.mpr ⟨rfl, rfl⟩⟩
    | noVendor deviceId =>
        refine run_perform_bind.mpr ⟨_, _, rfl, ?_⟩
        exact run_perform_bind.mpr ⟨_, _, rfl, run_ret.mpr ⟨rfl, rfl⟩⟩
    | empty deviceId vendorId hempty =>
        refine run_perform_bind.mpr ⟨_, _, rfl, run_perform_bind.mpr ⟨_, _, rfl, ?_⟩⟩
        show Run (if deviceId = [] ∨ vendorId = [] then _ else _) _ _
        rw [if_pos hempty]
        exact run_ret.mpr ⟨rfl, rfl⟩
    | formatted deviceId vendorId hd hv =>
        refine run_perform_bind.mpr ⟨_, _, rfl, run_perform_bind.mpr ⟨_, _, rfl, ?_⟩⟩
        show Run (if deviceId = [] ∨ vendorId = [] then _ else _) _ _
        rw [if_neg (not_or.mpr ⟨hd, hv⟩)]
        exact run_ret.mpr ⟨rfl, rfl⟩

theorem published_device_iff :
    PublishedAs objPath "DeviceId" (idsRead objPath deviceId answer) s ↔ s = deviceId := by
  simp [PublishedAs, idsRead, propertyRead]

theorem published_vendor_iff :
    PublishedAs objPath "VendorId" (idsRead objPath deviceId answer) s ↔ answer = some s := by
  simp [PublishedAs, idsRead, propertyRead, eq_comm]

theorem not_published_alone : ¬PublishedAs objPath "DeviceId"
    [propertyRead objPath "DeviceId" none] s := by
  simp [PublishedAs, propertyRead]

theorem plainIds_iff (hd : deviceId ≠ []) (hv : vendorId ≠ []) : 
    PlainIds objPath (idsRead objPath deviceId (some vendorId)) ↔
      PlainId deviceId ∧ PlainId vendorId := by
  simp only [PlainIds, published_device_iff, published_vendor_iff, Option.some.injEq]
  constructor
  · intro h
    exact ((h deviceId vendorId rfl rfl).resolve_left hd).resolve_left hv
  · rintro h _ _ rfl rfl
    exact Or.inr (Or.inr h)

theorem publishedIds_iff :
    PublishedIds objPath (idsRead objPath deviceId (some vendorId)) device vendor ↔
      Denotes deviceId device ∧ Denotes vendorId vendor := by
  simp only [PublishedIds, published_device_iff, published_vendor_iff, Option.some.injEq]
  constructor
  · rintro ⟨_, _, rfl, rfl, h⟩
    exact h
  · intro h
    exact ⟨_, _, rfl, rfl, h⟩

theorem SkuRun.eq_skuOf (h : SkuRun objPath tr res) (hplain : PlainIds objPath tr)
    (hids : PublishedIds objPath tr device vendor) : res = .ok (skuOf device vendor) := by
  cases h with
  | noDevice =>
      obtain ⟨_, _, hdevice, -⟩ := hids
      exact absurd hdevice not_published_alone
  | noVendor deviceId =>
      obtain ⟨_, _, -, hvendor, -⟩ := hids
      cases published_vendor_iff.mp hvendor
  | empty deviceId vendorId hempty =>
      obtain ⟨hdevice, hvendor⟩ := publishedIds_iff.mp hids
      rcases hempty with rfl | rfl
      · exact absurd hdevice not_denotes_nil
      · exact absurd hvendor not_denotes_nil
  | formatted deviceId vendorId hd hv =>
      obtain ⟨hdevice, hvendor⟩ := publishedIds_iff.mp hids
      obtain ⟨hdplain, hvplain⟩ := (plainIds_iff hd hv).mp hplain
      exact formatSKUId_of_plain hdplain hvplain hdevice hvendor

theorem SkuRun.isSku_iff (h : SkuRun objPath tr res) :
    (∃ skuId, res = .ok skuId ∧ IsSku objPath tr skuId) ↔ PlainIds objPath tr := by
  have hnone : ∃ skuId, (.ok [] : Except StdException (List UInt8)) = .ok skuId
      ∧ IsSku objPath tr skuId := ⟨[], rfl, Or.inl rfl⟩
  cases h with
  | noDevice =>
      refine iff_of_true hnone fun _ _ hdevice => ?_
      exact absurd hdevice not_published_alone
  | noVendor deviceId =>
      refine iff_of_true hnone fun _ _ _ hvendor => ?_
      cases published_vendor_iff.mp hvendor
  | empty deviceId vendorId hempty =>
      refine iff_of_true hnone fun d v hdevice hvendor => ?_
      obtain rfl := published_device_iff.mp hdevice
      obtain rfl := Option.some.inj (published_vendor_iff.mp hvendor)
      rcases hempty with h | h
      · exact Or.inl h
      · exact Or.inr (Or.inl h)
  | formatted deviceId vendorId hd hv =>
      rw [plainIds_iff hd hv]
      constructor
      · rintro ⟨skuId, hres, rfl | ⟨device, vendor, hids, rfl⟩⟩
        · obtain ⟨-, -, h⟩ := formatSKUId_ok.mp hres
          cases h
        · obtain ⟨hdevice, hvendor⟩ := publishedIds_iff.mp hids
          obtain ⟨hdformats, hvformats⟩ :=
            (formatSKUId_skuOf_iff hdevice.lt hvendor.lt).mp hres
          exact ⟨plainId_of_formats hdevice hdformats, plainId_of_formats hvendor hvformats⟩
      · rintro ⟨hdplain, hvplain⟩
        obtain ⟨device, hdevice, -⟩ := hdplain.formats
        obtain ⟨vendor, hvendor, -⟩ := hvplain.formats
        exact ⟨_, formatSKUId_of_plain hdplain hvplain hdevice hvendor,
          Or.inr ⟨device, vendor, publishedIds_iff.mpr ⟨hdevice, hvendor⟩, rfl⟩⟩

end Call

/-- **The SKU.** `getSKUId` does not throw, and gives no SKU or the one of the
ids that were published, exactly if the ids are plain; and plain ids that have
the same SKU are the same. The condition is on the strings that were read, and
on both at once: an empty one of them makes the other one irrelevant. -/
theorem getSKUId_isSku_iff {objPath : String} {tr : List DBusEvent}
    {res : Except StdException (List UInt8)} (h : Run (getSKUId objPath) tr res) :
    ((∃ skuId, res = .ok skuId ∧ IsSku objPath tr skuId) ↔ PlainIds objPath tr)
    ∧ ∀ {objPath' : String} {tr' : List DBusEvent} {device vendor device' vendor' : Nat},
      PlainIds objPath tr → PublishedIds objPath tr device vendor →
      Run (getSKUId objPath') tr' res → PlainIds objPath' tr' →
      PublishedIds objPath' tr' device' vendor' → device = device' ∧ vendor = vendor' := by
  have hrun := run_getSKUId_iff.mp h
  refine ⟨hrun.isSku_iff, ?_⟩
  intro objPath' tr' device vendor device' vendor' hplain hids h' hplain' hids'
  have hsame : (.ok (skuOf device vendor) : Except StdException (List UInt8))
      = .ok (skuOf device' vendor') := by
    rw [← hrun.eq_skuOf hplain hids, (run_getSKUId_iff.mp h').eq_skuOf hplain' hids']
  obtain ⟨_, _, -, -, hdevice, hvendor⟩ := hids
  obtain ⟨_, _, -, -, hdevice', hvendor'⟩ := hids'
  exact skuOf_injective hdevice.lt hdevice'.lt hvendor.lt hvendor'.lt (Except.ok.inj hsame)

/-- `0x19` and `0xab`, `0X0019` and `0000AB` -/
theorem getSKUId_isSku_iff_spellings :
    let tr := idsRead retimerSwitchesBasePath [0x30, 0x78, 0x31, 0x39]
      (some [0x30, 0x78, 0x61, 0x62])
    let tr' := idsRead retimerSwitchesBasePath [0x30, 0x58, 0x30, 0x30, 0x31, 0x39]
      (some [0x30, 0x30, 0x30, 0x30, 0x41, 0x42])
    (∃ skuId, formatSKUId [0x30, 0x78, 0x31, 0x39] [0x30, 0x78, 0x61, 0x62] = .ok skuId
      ∧ IsSku retimerSwitchesBasePath tr skuId)
    ∧ ∀ device vendor, PublishedIds retimerSwitchesBasePath tr' device vendor →
      0x19 = device ∧ 0xAB = vendor := by
  intro tr tr'
  have hrun : Run (getSKUId retimerSwitchesBasePath) tr _ :=
    run_getSKUId_iff.mpr (.formatted _ _ (by simp) (by simp))
  have hrun' : Run (getSKUId retimerSwitchesBasePath) tr' _ :=
    run_getSKUId_iff.mpr (.formatted _ _ (by simp) (by simp))
  have hplain : PlainIds retimerSwitchesBasePath tr :=
    (plainIds_iff (by simp) (by simp)).mpr
      ⟨⟨Or.inl ⟨Or.inl rfl, by simp⟩, by simp, hexNumber_isSome_iff.mp rfl⟩,
        ⟨Or.inl ⟨Or.inl rfl, by simp⟩, by simp, hexNumber_isSome_iff.mp rfl⟩⟩
  have hplain' : PlainIds retimerSwitchesBasePath tr' :=
    (plainIds_iff (by simp) (by simp)).mpr
      ⟨⟨Or.inl ⟨Or.inr rfl, by simp⟩, by simp, hexNumber_isSome_iff.mp rfl⟩,
        ⟨Or.inr rfl, by simp, hexNumber_isSome_iff.mp rfl⟩⟩
  have hids : PublishedIds retimerSwitchesBasePath tr 0x19 0xAB :=
    publishedIds_iff.mpr ⟨⟨by decide, rfl, by decide⟩, ⟨by decide, rfl, by decide⟩⟩
  obtain ⟨hsku, hsame⟩ := getSKUId_isSku_iff hrun
  exact ⟨hsku.mpr hplain, fun device vendor => hsame hplain hids hrun' hplain'⟩

/-- An id of one digit ends in an exception, and the SKU of `0x01230` and `0x001`
is also the one of `0x0123` and `0x00001`, with nine digits. -/
theorem skus_coincide :
    Run (getSKUId retimerSwitchesBasePath)
      (idsRead retimerSwitchesBasePath [0x31] (some [0x30, 0x78, 0x31])) (.error .outOfRange)
    ∧ ∃ tr tr' skuId, Run (getSKUId retimerSwitchesBasePath) tr (.ok skuId)
      ∧ Run (getSKUId retimerSwitchesBasePath) tr' (.ok skuId)
      ∧ PublishedIds retimerSwitchesBasePath tr 0x1230 0x1
      ∧ PublishedIds retimerSwitchesBasePath tr' 0x123 0x1
      ∧ ¬IsSku retimerSwitchesBasePath tr skuId := by
  refine ⟨run_getSKUId_iff.mpr (.formatted _ _ (by simp) (by simp)),
    idsRead _ [0x30, 0x78, 0x30, 0x31, 0x32, 0x33, 0x30] (some [0x30, 0x78, 0x30, 0x30, 0x31]),
    idsRead _ [0x30, 0x78, 0x30, 0x31, 0x32, 0x33]
      (some [0x30, 0x78, 0x30, 0x30, 0x30, 0x30, 0x31]),
    [0x30, 0x78, 0x30, 0x31, 0x32, 0x33, 0x30, 0x30, 0x30, 0x30, 0x31],
    run_getSKUId_iff.mpr (.formatted _ _ (by simp) (by simp)),
    run_getSKUId_iff.mpr (.formatted _ _ (by simp) (by simp)),
    publishedIds_iff.mpr ⟨⟨by decide, rfl, by decide⟩, ⟨by decide, rfl, by decide⟩⟩,
    publishedIds_iff.mpr ⟨⟨by decide, rfl, by decide⟩, ⟨by decide, rfl, by decide⟩⟩, ?_⟩
  rintro (h | ⟨device, vendor, -, h⟩)
  · cases h
  · have hlen := congrArg List.length h
    simp [skuOf] at hlen

end Retimer
