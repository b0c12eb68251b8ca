import Mathlib.Data.List.TakeWhile
import Retimer.UpdateMain

/-!
# The checks of the command line

`checkDigit_i2c` and `checkDigit_retimer` test the value that `atoi`
gives and then look for a character that is no digit. The second part
counts the characters in a `uint8_t`, takes the empty string for a
number, and has no way to tell that a number was too large for `atoi`.

What a string writes is defined apart from what the code makes of it
(`Writes`), and of `atoi` only what the C standard promises is used
(`AtoiSpec`): it gives the number where that fits an `int`. A check
`Validates` a string if it comes to an end and accepts just the numbers
of its range.

The loop is an induction on its fuel, with the counter modulo 256. It
ends for some fuel exactly if it does not go round for ever (`Endless`:
at least 256 characters, the first 256 of them digits;
`digitLoop_endless`, `digitLoop_ends`), and where it ends it has looked
at each character (`digitLoop_zero_iff`). `validates_iff` is the result
for a range test in front of the loop, and both checks are instances of
it. `Misreads` is the condition: what passes the range test without
being a number in the range. `used_numbers_iff` has the same condition
decide whether `main` uses the numbers that were written.
-/

namespace Retimer

/-! ## Numbers and the strings that write them -/

def decimalValue (str : List UInt8) : Nat :=
  str.foldl (fun n c => 10 * n + (c.toNat - 0x30)) 0

/-- The string is this number in decimal digits. -/
def Writes (str : List UInt8) (n : Int) : Prop :=
  str ≠ [] ∧ (∀ c ∈ str, isDigit c = true) ∧ decimalValue str = n

/-- `atoi` gives the number that is written, if it fits an `int`. -/
def AtoiSpec (b : Build) : Prop :=
  ∀ str n, Writes str n → n < 2 ^ 31 → (b.atoi str).toInt = n

theorem atoiSpec_default : AtoiSpec defaultBuild := by
  rintro str n ⟨-, hdigits, rfl⟩ hn
  have hall : (str.takeWhile fun c => 0x30 ≤ c && c ≤ 0x39) = str :=
    List.takeWhile_eq_self_iff.mpr hdigits
  have hvalue : decimal str = Int32.ofNat (decimalValue str) := by
    rw [decimal, hall]
    rfl
  show (decimal str).toInt = decimalValue str
  rw [hvalue]
  exact Int32.toInt_ofNat_of_lt (by omega)

/-- The check comes to an end, and accepts just the numbers from `lo` to `hi`. -/
def Validates (check : Nat → Option Int32) (str : List UInt8) (lo hi : Int) : Prop :=
  (∃ fuel r, check fuel = some r)
    ∧ ∀ fuel r, check fuel = some r → (r = 0 ↔ ∃ n, lo ≤ n ∧ n ≤ hi ∧ Writes str n)

/-! ## The loop over the characters -/

section Loop

variable {str : List UInt8} {fuel : Nat} {i : UInt8} {r : Int32}

/-- The index wraps around before it is beyond the string. -/
def Endless (str : List UInt8) : Prop := 256 ≤ str.length ∧ ∀ c ∈ str.take 256, isDigit c = true

theorem getD_mem {j : Nat} (h : j < str.length) : str.getD j 0 ∈ str := by
  rw [List.getD_eq_getElem _ _ h]
  exact List.getElem_mem h

theorem Endless.getD {j : Nat} (h : Endless str) (hj : j < 256) :
    isDigit (str.getD j 0) = true := by
  obtain ⟨hlong, hdigits⟩ := h
  have hlt : j < str.length := by omega
  refine hdigits _ ?_
  rw [List.getD_eq_getElem _ _ hlt, List.mem_take_iff_getElem]
  exact ⟨j, by omega, rfl⟩

theorem digitLoop_endless (h : Endless str) : digitLoop str fuel i = none := by
  induction fuel generalizing i with
  | zero => rfl
  | succ fuel ih =>
      have hi : i.toNat < 256 := i.toNat_lt
      have hlt : i.toNat < str.length := Nat.lt_of_lt_of_le hi h.1
      rw [digitLoop, if_pos hlt, if_pos (h.getD hi)]
      exact ih

/-- What the loop found from index `i` on, or before it if it went around. -/
theorem digitLoop_some (h : digitLoop str fuel i = some r) :
    (r = 0 ∧ ∀ j, i.toNat ≤ j → j < str.length → isDigit (str.getD j 0) = true)
      ∨ (r = 1 ∧ ∃ c ∈ str, isDigit c = false) := by
  induction fuel generalizing i with
  | zero => cases h
  | succ fuel ih =>
      unfold digitLoop at h
      split at h
      · next hlt =>
          split at h
          · next hdigit =>
              rcases ih h with ⟨hret, hrest⟩ | hother
              · refine Or.inl ⟨hret, fun j hj hjlen => ?_⟩
                rcases Nat.eq_or_lt_of_le hj with rfl | hgt
                · exact hdigit
                · refine hrest j ?_ hjlen
                  have hsucc : (i + 1).toNat = (i.toNat + 1) % 256 := UInt8.toNat_add i 1
                  rw [hsucc]
                  exact Nat.le_trans (Nat.mod_le _ _) hgt
              · exact Or.inr hother
          · next hother =>
              refine Or.inr ⟨(Option.some.inj h).symm, str.getD i.toNat 0, getD_mem hlt, ?_⟩
              exact Bool.not_eq_true _ ▸ hother
      · next hend =>
          refine Or.inl ⟨(Option.some.inj h).symm, fun j hj hjlen => ?_⟩
          omega

theorem digitLoop_zero_iff (h : digitLoop str fuel 0 = some r) :
    r = 0 ↔ ∀ c ∈ str, isDigit c = true := by
  rcases digitLoop_some h with ⟨rfl, hdigits⟩ | ⟨rfl, c, hc, hother⟩
  · refine iff_of_true rfl fun c hc => ?_
    obtain ⟨j, hj, rfl⟩ := List.mem_iff_getElem.mp hc
    rw [← List.getD_eq_getElem _ 0 hj]
    exact hdigits j (Nat.zero_le _) hj
  · refine iff_of_false (by decide) fun hdigits => ?_
    rw [hdigits c hc] at hother
    cases hother

/-- The loop ends at `k`, or before, if it ends there. -/
theorem digitLoop_stops {k : Nat} (hk : k < 256)
    (hstop : str.length ≤ k ∨ isDigit (str.getD k 0) = false) {n i : Nat} (hi : i + n = k) :
    ∃ fuel r, digitLoop str fuel (UInt8.ofNat i) = some r := by
  have hindex : (UInt8.ofNat i).toNat = i := by
    rw [UInt8.toNat_ofNat']
    omega
  induction n generalizing i with
  | zero =>
      obtain rfl : i = k := hi
      by_cases hlt : i < str.length
      · have hother := hstop.resolve_left (Nat.not_le.mpr hlt)
        refine ⟨1, 1, ?_⟩
        rw [digitLoop, hindex, if_pos hlt, hother]
        rfl
      · refine ⟨1, 0, ?_⟩
        rw [digitLoop, hindex, if_neg hlt]
  | succ n ih =>
      have hsucc : UInt8.ofNat i + 1 = UInt8.ofNat (i + 1) := (UInt8.ofNat_add i 1).symm
      have hnext : (UInt8.ofNat (i + 1)).toNat = i + 1 := by
        rw [UInt8.toNat_ofNat']
        omega
      obtain ⟨fuel, r, hrest⟩ := ih (by omega) hnext
      by_cases hlt : i < str.length
      · by_cases hdigit : isDigit (str.getD i 0) = true
        · refine ⟨fuel + 1, r, ?_⟩
          rw [digitLoop, hindex, if_pos hlt, if_pos hdigit, hsucc]
          exact hrest
        · refine ⟨1, 1, ?_⟩
          rw [digitLoop, hindex, if_pos hlt, if_neg hdigit]
      · refine ⟨1, 0, ?_⟩
        rw [digitLoop, hindex, if_neg hlt]

theorem digitLoop_ends (h : ¬Endless str) : ∃ fuel r, digitLoop str fuel 0 = some r := by
  rcases Nat.lt_or_ge str.length 256 with hshort | hlong
  · exact digitLoop_stops hshort (Or.inl (Nat.le_refl _)) (Nat.zero_add _)
  · have hother : ∃ c ∈ str.take 256, isDigit c = false := by
      by_contra hall
      refine h ⟨hlong, fun c hc => ?_⟩
      by_contra hc'
      exact hall ⟨c, hc, Bool.not_eq_true _ ▸ hc'⟩
    obtain ⟨c, hc, hdigit⟩ := hother
    obtain ⟨k, hk, rfl⟩ := List.mem_take_iff_getElem.mp hc
    have hlt : k < str.length := by omega
    rw [← List.getD_eq_getElem _ 0 hlt] at hdigit
    exact digitLoop_stops (by omega) (Or.inr hdigit) (Nat.zero_add k)

end Loop

/-! ## Range and digits together -/

/-- What passes the range test and then keeps the loop going for ever, or ends
it without being a number in the range: no digits at all, or too many for
`atoi` to make something of them. -/
def Misreads (inRange : Prop) (str : List UInt8) : Prop :=
  inRange ∧ (Endless str
    ∨ ((∀ c ∈ str, isDigit c = true) ∧ (str = [] ∨ 2 ^ 31 ≤ decimalValue str)))

def MisreadsI2c (b : Build) (str : List UInt8) : Prop :=
  Misreads (b.atoi str ≥ 1 ∧ b.atoi str ≤ 12) str

def MisreadsRetimer (b : Build) (str : List UInt8) : Prop := Misreads (¬b.atoi str > 255) str

section Checks

variable {b : Build} {str : List UInt8} {inRange : Prop} {check : Nat → Option Int32} {lo hi : Int}

theorem validates_iff (hin : inRange → ∀ fuel, check fuel = digitLoop str fuel 0)
    (hout : ¬inRange → ∀ fuel, check fuel = some 1) (hhi : hi < 2 ^ 31)
    (hrange : ∀ n, Writes str n → n < 2 ^ 31 → (inRange ↔ lo ≤ n ∧ n ≤ hi)) :
    Validates check str lo hi ↔ ¬Misreads inRange str := by
  by_cases htest : inRange
  · have hcheck := hin htest
    by_cases hendless : Endless str
    · refine iff_of_false ?_ (not_not.mpr ⟨htest, Or.inl hendless⟩)
      rintro ⟨⟨fuel, r, hr⟩, -⟩
      rw [hcheck, digitLoop_endless hendless] at hr
      cases hr
    · obtain ⟨fuel, r, hr⟩ := digitLoop_ends hendless
      have hends : ∃ fuel r, check fuel = some r := ⟨fuel, r, (hcheck fuel).trans hr⟩
      by_cases hdigits : ∀ c ∈ str, isDigit c = true
      · by_cases hodd : str = [] ∨ 2 ^ 31 ≤ decimalValue str
        · refine iff_of_false ?_ (not_not.mpr ⟨htest, Or.inr ⟨hdigits, hodd⟩⟩)
          rintro ⟨-, hresult⟩
          have hzero := (digitLoop_zero_iff hr).mpr hdigits
          obtain ⟨n, -, hn, hne, -, hvalue⟩ := (hresult fuel r ((hcheck fuel).trans hr)).mp hzero
          rcases hodd with hempty | hlarge
          · exact hne hempty
          · omega
        · obtain ⟨hne, hsmall⟩ := not_or.mp hodd
          have hwrites : Writes str (decimalValue str) := ⟨hne, hdigits, rfl⟩
          have hbounds := (hrange _ hwrites (by omega)).mp htest
          refine iff_of_true ⟨hends, fun fuel r hr => ?_⟩ ?_
          · rw [hcheck] at hr
            exact iff_of_true ((digitLoop_zero_iff hr).mpr hdigits)
              ⟨_, hbounds.1, hbounds.2, hwrites⟩
          · rintro ⟨-, hloop | ⟨-, hbad⟩⟩
            · exact hendless hloop
            · exact hodd hbad
      · refine iff_of_true ⟨hends, fun fuel r hr => ?_⟩ ?_
        · rw [hcheck] at hr
          refine iff_of_false (fun hzero => hdigits ((digitLoop_zero_iff hr).mp hzero)) ?_
          rintro ⟨n, -, -, -, hall, -⟩
          exact hdigits hall
        · rintro ⟨-, hloop | ⟨hall, -⟩⟩
          · exact hendless hloop
          · exact hdigits hall
  · have hcheck := hout htest
    refine iff_of_true ⟨⟨0, 1, hcheck 0⟩, fun fuel r hr => ?_⟩ fun h => htest h.1
    rw [hcheck] at hr
    cases hr
    refine iff_of_false (by decide) ?_
    rintro ⟨n, hlo, hle, hwrites⟩
    exact htest ((hrange n hwrites (by omega)).mpr ⟨hlo, hle⟩)

theorem validates_i2c_iff (hatoi : AtoiSpec b) :
    Validates (fun fuel => checkDigitI2c b fuel str) str 1 12 ↔ ¬MisreadsI2c b str := by
  refine validates_iff (fun hin fuel => if_pos hin) (fun hout fuel => if_neg hout) (by decide) ?_
  intro n hwrites hn
  rw [ge_iff_le, Int32.le_iff_toInt_le, Int32.le_iff_toInt_le, hatoi str n hwrites hn]
  rfl

theorem validates_retimer_iff (hatoi : AtoiSpec b) :
    Validates (fun fuel => checkDigitRetimer b fuel str) str 0 255 ↔ ¬MisreadsRetimer b str := by
  refine validates_iff (fun hin fuel => if_neg hin) (fun hout fuel => if_pos (not_not.mp hout))
    (by decide) ?_
  intro n hwrites hn
  obtain ⟨-, -, rfl⟩ := id hwrites
  rw [gt_iff_lt, Int32.not_lt, Int32.le_iff_toInt_le, hatoi str _ hwrites hn]
  show decimalValue str ≤ (255 : Int) ↔ _
  omega

/-- A string that was accepted is the number that is used for it, unless it was
misread. -/
theorem writes_used_iff (hatoi : AtoiSpec b) {fuel : Nat} {used : Int} (htest : inRange)
    (hloop : digitLoop str fuel 0 = some 0) (hsmall : used < 2 ^ 31)
    (hused : (b.atoi str).toInt = decimalValue str → used = decimalValue str) :
    Writes str used ↔ ¬Misreads inRange str := by
  have hdigits := (digitLoop_zero_iff hloop).mp rfl
  constructor
  · rintro ⟨hne, -, hvalue⟩ ⟨-, hendless | ⟨-, hempty | hlarge⟩⟩
    · rw [digitLoop_endless hendless] at hloop
      cases hloop
    · exact hne hempty
    · omega
  · intro h
    have hodd : ¬(str = [] ∨ 2 ^ 31 ≤ decimalValue str) :=
      fun hodd => h ⟨htest, Or.inr ⟨hdigits, hodd⟩⟩
    obtain ⟨hne, hfits⟩ := not_or.mp hodd
    have hvalue := hatoi str _ ⟨hne, hdigits, rfl⟩ (by omega)
    exact ⟨hne, hdigits, (hused hvalue).symm⟩

/-- What `main` goes on with once the arguments are accepted. -/
theorem checkArguments_ok {fuel : Nat} {argv : List (List UInt8)} {args : Arguments}
    (h : checkArguments b fuel argv = some (.ok args)) :
    checkDigitI2c b fuel (argv.getD 1 []) = some 0
      ∧ checkDigitRetimer b fuel (argv.getD 2 []) = some 0
      ∧ args.bus = b.atoi (argv.getD 1 []) ∧ args.retimerBitmap = toUint8 (b.atoi (argv.getD 2 []))
      := by
  unfold checkArguments at h
  split at h
  · cases h
  · obtain ⟨i2c, hi2c, h₁⟩ := Option.bind_eq_some_iff.mp h
    split at h₁
    · cases h₁
    · next hzero =>
        obtain ⟨retimer, hretimer, h₂⟩ := Option.bind_eq_some_iff.mp h₁
        split at h₂
        · cases h₂
        · next hzero' =>
            split at h₂
            · cases h₂
            · cases h₂
              exact ⟨not_not.mp hzero ▸ hi2c, not_not.mp hzero' ▸ hretimer, rfl, rfl⟩

theorem used_numbers_iff (hatoi : AtoiSpec b) {fuel : Nat} {argv : List (List UInt8)}
    {args : Arguments} (h : checkArguments b fuel argv = some (.ok args)) :
    (Writes (argv.getD 1 []) args.bus.toInt ∧ Writes (argv.getD 2 []) args.retimerBitmap.toNat)
      ↔ ¬MisreadsI2c b (argv.getD 1 []) ∧ ¬MisreadsRetimer b (argv.getD 2 []) := by
  obtain ⟨hi2c, hretimer, hbus, hbitmap⟩ := checkArguments_ok h
  rw [hbus, hbitmap]
  refine and_congr ?_ ?_
  · unfold checkDigitI2c at hi2c
    split at hi2c
    · next htest =>
        have hlt := (b.atoi (argv.getD 1 [])).toInt_lt
        exact writes_used_iff hatoi htest hi2c hlt id
    · cases hi2c
  · unfold checkDigitRetimer at hretimer
    split at hretimer
    · cases hretimer
    · next htest =>
        have hlt : ((toUint8 (b.atoi (argv.getD 2 []))).toNat : Int) < 2 ^ 31 := by
          have := (toUint8 (b.atoi (argv.getD 2 []))).toNat_lt
          omega
        refine writes_used_iff hatoi htest hretimer hlt fun hvalue => ?_
        have hle : (b.atoi (argv.getD 2 [])).toInt ≤ 255 := by
          rw [gt_iff_lt, Int32.not_lt, Int32.le_iff_toInt_le] at htest
          exact htest
        exact congrArg Nat.cast (toUint8_toNat (by omega) hvalue)

end Checks

/-- **The argument checks.** Either check comes to an end and accepts just the
numbers it should, and the two numbers are used as they were written, unless a
string is misread. The condition is on the strings alone, and exact for each of
them. -/
theorem argumentChecks_iff (b : Build) (hatoi : AtoiSpec b) :
    (∀ str, Validates (fun fuel => checkDigitI2c b fuel str) str 1 12 ↔ ¬MisreadsI2c b str)
      ∧ (∀ str, Validates (fun fuel => checkDigitRetimer b fuel str) str 0 255
        ↔ ¬MisreadsRetimer b str)
      ∧ ∀ fuel argv args, checkArguments b fuel argv = some (.ok args) →
        ((Writes (argv.getD 1 []) args.bus.toInt
            ∧ Writes (argv.getD 2 []) args.retimerBitmap.toNat)
          ↔ ¬MisreadsI2c b (argv.getD 1 []) ∧ ¬MisreadsRetimer b (argv.getD 2 [])) :=
  ⟨fun _ => validates_i2c_iff hatoi, fun _ => validates_retimer_iff hatoi,
    fun _ _ _ => used_numbers_iff hatoi⟩

section Small

/-- `12`, in as many characters as the index can count, and one more. -/
def paddedTwelve : List UInt8 := List.replicate 254 0x30 ++ [0x31, 0x32]

def argvSeven : List (List UInt8) := [[], [0x37], [0x32, 0x35, 0x35], [0x66], [0x30]]

theorem not_misreads_seven : ¬MisreadsI2c defaultBuild [0x37] := by
  rintro ⟨-, ⟨hlong, -⟩ | ⟨-, hempty | hlarge⟩⟩
  · exact absurd hlong (by decide)
  · cases hempty
  · exact absurd hlarge (by decide)

theorem not_misreads_all : ¬MisreadsRetimer defaultBuild [0x32, 0x35, 0x35] := by
  rintro ⟨-, ⟨hlong, -⟩ | ⟨-, hempty | hlarge⟩⟩
  · exact absurd hlong (by decide)
  · cases hempty
  · exact absurd hlarge (by decide)

theorem argumentChecks_iff_small :
    Validates (fun fuel => checkDigitI2c defaultBuild fuel [0x37]) [0x37] 1 12
      ∧ Validates (fun fuel => checkDigitRetimer defaultBuild fuel [0x32, 0x35, 0x35])
        [0x32, 0x35, 0x35] 0 255
      ∧ Writes [0x37] 7 ∧ Writes [0x32, 0x35, 0x35] 255 := by
  obtain ⟨hi2c, hretimer, hused⟩ := argumentChecks_iff defaultBuild atoiSpec_default
  exact ⟨(hi2c [0x37]).mpr not_misreads_seven, (hretimer _).mpr not_misreads_all,
    (hused 5 argvSeven ⟨7, 0xFF, [0x66], 0, defaultVersion⟩ rfl).mpr
      ⟨not_misreads_seven, not_misreads_all⟩⟩

theorem endless_paddedTwelve : Endless paddedTwelve := by
  refine ⟨by decide +kernel, fun c hc => ?_⟩
  have hdigits : paddedTwelve.all isDigit = true := by decide +kernel
  exact List.all_eq_true.mp hdigits c (List.mem_of_mem_take hc)

/-- The padded number keeps one check going for ever, and the other one takes
the empty string for a number. -/
theorem checks_misread :
    (¬∀ (b : Build) (str : List UInt8), AtoiSpec b →
        Validates (fun fuel => checkDigitI2c b fuel str) str 1 12)
      ∧ ¬∀ (b : Build) (str : List UInt8), AtoiSpec b →
        Validates (fun fuel => checkDigitRetimer b fuel str) str 0 255 := by
  constructor
  · intro h
    obtain ⟨⟨fuel, r, hr⟩, -⟩ := h defaultBuild paddedTwelve atoiSpec_default
    have hin : defaultBuild.atoi paddedTwelve ≥ 1 ∧ defaultBuild.atoi paddedTwelve ≤ 12 := by
      decide +kernel
    have hnone : checkDigitI2c defaultBuild fuel paddedTwelve = none :=
      (if_pos hin).trans (digitLoop_endless endless_paddedTwelve)
    exact Option.some_ne_none r (hr.symm.trans hnone)
  · intro h
    obtain ⟨-, hresult⟩ := h defaultBuild [] atoiSpec_default
    have haccepted : checkDigitRetimer defaultBuild 1 [] = some 0 := by decide
    obtain ⟨n, -, -, hne, -⟩ := (hresult 1 0 haccepted).mp rfl
    exact hne rfl

end Small

end Retimer
