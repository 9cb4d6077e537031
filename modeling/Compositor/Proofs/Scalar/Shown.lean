import Compositor.Panel.Form
import Compositor.Proofs.Scalar.Order
import Compositor.Proofs.Text.Spelling

/-!
# Numbers that are shown and read again

A form shows a number as the nearest whole one, and what it shows is read as a number again.  So
what is read is the whole number, made into a scalar, unless no finite scalar is near to it, and
then it is a default.  It equals the number that was shown exactly if that number is whole
(`exists_read_shown`).  A limit that the read number is raised to makes no difference to this, but
that a number below the limit is not read again either (`larger_beq_iff`).

Of a scalar it is needed that the digits of a whole number near to a finite number are read as the
scalar nearest to it, and that equal numbers round and compare alike (`Scalar.Legible`).  For
doubles the first is a matter of size: no double is so large that its digits are not read one by
one.
-/

namespace Compositor

/-- The whole numbers that stand in the place of what cannot be read, and the limits of what is. -/
def Defaults.wholes : List Int := [0, 12, 48, 50]

/-- What showing a number and reading it again needs of a scalar. -/
class Scalar.Legible (α : Type) [Scalar α] : Prop where
  /-- The digits of a whole number near to a scalar are read as the scalar nearest to it. -/
  ofNumeral_of_roundEven {v : α} {n : Int} : Scalar.roundEven v = .ok n →
    Scalar.ofNumeral (.decimal (decide (n < 0)) n.natAbs 0) = .ok (Scalar.ofInt n : α)
  /-- What has a whole number near to it is finite. -/
  isFinite_of_roundEven {v : α} {n : Int} : Scalar.roundEven v = .ok n → Scalar.isFinite v = true
  /-- A finite number equals itself. -/
  beq_self_of_isFinite {v : α} : Scalar.isFinite v = true → (v == v) = true
  /-- Equal numbers are finite together. -/
  isFinite_congr {a b : α} : (a == b) = true → Scalar.isFinite a = Scalar.isFinite b
  /-- Equal numbers round to one whole number. -/
  roundEven_congr {a b : α} : (a == b) = true → Scalar.roundEven a = Scalar.roundEven b
  /-- Equal numbers compare alike. -/
  lt_congr {a b c : α} : (a == b) = true → (c < a ↔ c < b)
  /-- To be at most is to be less or equal. -/
  le_iff {a b : α} : a ≤ b ↔ a < b ∨ (a == b) = true
  /-- The defaults and the limits are whole numbers, and finite. -/
  wholes : ∀ n ∈ Defaults.wholes, Scalar.roundEven (Scalar.ofInt n : α) = .ok n ∧
    Scalar.isFinite (Scalar.ofInt n : α) = true
  /-- There is no other number that equals one that is not below the limits. -/
  eq_of_beq {a b : α} : Defaults.minSide ≤ b → (a == b) = true → a = b

/-! ## 1. Rational numbers -/

instance : Scalar.Legible Rat where
  ofNumeral_of_roundEven {v n} _ := by
    refine congrArg Except.ok ?_
    have hnatAbs : mkRat ((n.natAbs * Nat.pow 10 (0 : Int).toNat : Nat) : Int)
        (Nat.pow 10 (-(0 : Int)).toNat) = n.natAbs := by
      simp [Rat.mkRat_one]
    rw [Exact.ofDecimal, hnatAbs, Exact.ofInt_eq]
    cases n with
    | ofNat n => simp
    | negSucc n => simp
  isFinite_of_roundEven _ := rfl
  beq_self_of_isFinite _ := beq_self_eq_true _
  isFinite_congr _ := rfl
  roundEven_congr h := congrArg Scalar.roundEven (beq_iff_eq.mp h)
  lt_congr h := by rw [beq_iff_eq.mp h]
  le_iff := le_iff_lt_or_eq.trans (or_congr_right beq_iff_eq.symm)
  wholes := by decide +kernel
  eq_of_beq _ h := beq_iff_eq.mp h

/-! ## 2. Doubles -/

namespace Binary

open Float.Model

/-- The exponent of a double as its bits have it. -/
theorem toNat_unpackExponent (x : Float) :
    (@UnpackedFloat.unpackExponent Format.binary64 x.toModel.toBits.toBitVec).toNat
      = (x.toBits.toNat >>> 52) % 2048 := by
  rw [UnpackedFloat.unpackExponent_def]
  simp only [BitVec.extractLsb'_toNat]
  rfl

/-- A double whose exponent is not the largest is finite. -/
theorem isFinite_of_exponent_ne {x : Float} (h : (x.toBits.toNat >>> 52) % 2048 ≠ 2047) :
    x.isFinite = true := by
  have hexponent :
      @UnpackedFloat.unpackExponent Format.binary64 x.toModel.toBits.toBitVec ≠ -1#_ := by
    intro hones
    rw [← toNat_unpackExponent, hones] at h
    exact h (by decide)
  change (UnpackedFloat.unpack Format.binary64 x.toModel.toBits.toBitVec).isFinite = true
  unfold UnpackedFloat.unpack
  simp only [if_neg hexponent]
  split
  · split <;> rfl
  · rfl

/-- The mantissa and the exponent of a double are bounded, and if it has them it is finite. -/
theorem bounds_of_ofFloat {x : Float} {s : Bool} {m : Nat} {e : Int}
    (h : ofFloat x = .finite s m e) : m < 2 ^ 53 ∧ e ≤ 971 ∧ x.isFinite = true := by
  have htrailing : x.toBits.toNat % (1 <<< 52) < 2 ^ 52 := Nat.mod_lt _ (by decide)
  have hleading : (1 : Nat) <<< 52 = 2 ^ 52 := rfl
  unfold ofFloat at h
  dsimp only at h
  split at h
  · split at h <;> exact nomatch h
  · rename_i hexponent
    have hfinite := isFinite_of_exponent_ne hexponent
    split at h
    · obtain ⟨-, rfl, rfl⟩ := Binary.finite.inj h
      exact ⟨by omega, by omega, hfinite⟩
    · obtain ⟨-, rfl, rfl⟩ := Binary.finite.inj h
      exact ⟨by omega, by omega, hfinite⟩

/-- What has a whole number near to it has a mantissa and an exponent. -/
theorem exists_ofFloat_of_roundEven {v : Float} {n : Int} (h : Scalar.roundEven v = .ok n) :
    ∃ s m e, ofFloat v = .finite s m e ∧
      n = Fraction.nearestEven (numerator s m e) (denominator e) := by
  change (ofFloat v).toWhole Fraction.nearestEven = .ok n at h
  cases hv : ofFloat v with
  | finite s m e =>
    rw [hv] at h
    exact ⟨s, m, e, rfl, (Except.ok.inj h).symm⟩
  | infinite s =>
    rw [hv] at h
    exact nomatch h
  | undefined =>
    rw [hv] at h
    exact nomatch h

/-- Rounding a fraction goes hardly beyond its numerator. -/
theorem natAbs_nearestEven_le (n : Int) (d : Nat) :
    (Fraction.nearestEven n d).natAbs ≤ n.natAbs + 1 := by
  have hfloor : (Fraction.floor n d).natAbs ≤ n.natAbs := Int.natAbs_ediv_le_natAbs n d
  rcases Fraction.nearestEven_eq_or n d with h | h <;> omega

/-- How large a numerator is that has so many binary digits and such an exponent. -/
theorem natAbs_numerator_lt {s : Bool} {m k : Nat} {e : Int} (hm : m < 2 ^ 53) (he : e.toNat ≤ k) :
    (numerator s m e).natAbs < 2 ^ (53 + k) := by
  have habs : (numerator s m e).natAbs = m * 2 ^ e.toNat := by
    unfold numerator
    cases s <;> simp [Nat.shiftLeft_eq, Int.natAbs_mul, Int.natAbs_pow]
  calc (numerator s m e).natAbs
      = m * 2 ^ e.toNat := habs
    _ < 2 ^ 53 * 2 ^ e.toNat := Nat.mul_lt_mul_of_pos_right hm (Nat.two_pow_pos _)
    _ ≤ 2 ^ 53 * 2 ^ k := Nat.mul_le_mul_left _ (Nat.pow_le_pow_right (by decide) he)
    _ = 2 ^ (53 + k) := (Nat.pow_add 2 53 k).symm

/-- Three binary digits are no more than a decimal one. -/
theorem digitCount_le {n k : Nat} (h : n ≤ 2 ^ (3 * k)) : Numeral.digitCount n ≤ k + 1 := by
  refine (Nat.length_toDigits_le_iff (by decide) k.succ_pos).mpr ?_
  calc n ≤ 2 ^ (3 * k) := h
    _ = 8 ^ k := Nat.pow_mul 2 3 k
    _ ≤ 10 ^ k := Nat.pow_le_pow_left (by decide) k
    _ < 10 ^ (k + 1) := Nat.pow_lt_pow_right (by decide) k.lt_succ_self

/-- **A whole number near to a double has few enough digits to be read.** -/
theorem digitCount_of_roundEven {v : Float} {n : Int} (h : Scalar.roundEven v = .ok n) :
    Numeral.digitCount n.natAbs ≤ 343 := by
  obtain ⟨s, m, e, hv, rfl⟩ := exists_ofFloat_of_roundEven h
  obtain ⟨hm, he, -⟩ := bounds_of_ofFloat hv
  have hnumerator := natAbs_numerator_lt (s := s) (e := e) (k := 973) hm (by omega)
  rw [show 53 + 973 = 3 * 342 from rfl] at hnumerator
  exact digitCount_le ((natAbs_nearestEven_le _ _).trans hnumerator)

/-- A decimal without a fraction and with so few digits is the double nearest to it. -/
theorem ofDecimal_whole {n : Int} (h : Numeral.digitCount n.natAbs ≤ 343) :
    ofDecimal (decide (n < 0)) n.natAbs 0 = ofInt n := by
  have hmagnitude : (if n.natAbs = 0 then 0.0
      else
        let top := 0 + (Numeral.digitCount n.natAbs : Int)
        if decimalRange < top then 1.0 / 0.0
        else if top < -decimalRange then 0.0
        else Float.ofScientific n.natAbs ((0 : Int) < 0) (0 : Int).natAbs)
      = Float.ofScientific n.natAbs false 0 := by
    by_cases hzero : n.natAbs = 0
    · rw [if_pos hzero, hzero]
      rfl
    · have hbelow : ¬ decimalRange < 0 + (Numeral.digitCount n.natAbs : Int) := by
        simp only [decimalRange]
        omega
      have habove : ¬ 0 + (Numeral.digitCount n.natAbs : Int) < -decimalRange := by
        simp only [decimalRange]
        omega
      rw [if_neg hzero]
      dsimp only
      rw [if_neg hbelow, if_neg habove]
      rfl
  unfold ofDecimal ofInt
  dsimp only at hmagnitude ⊢
  rw [hmagnitude]
  simp

/-- Equal doubles are the same, but for the two zeros. -/
theorem congr_of_beq {β : Sort*} (f : Float → β) (hzeros : f 0.0 = f (-0.0)) {a b : Float}
    (h : (a == b) = true) : f a = f b := by
  obtain ⟨-, -, rfl | ⟨rfl, rfl⟩ | ⟨rfl, rfl⟩⟩ := Float.beq_iff_ne_nan_and_eq.mp h
  · rfl
  · exact hzeros
  · exact hzeros.symm

/-- A double is at most another one if it is less or equal. -/
theorem le_iff_lt_or_beq {a b : Float} : a ≤ b ↔ a < b ∨ (a == b) = true := by
  have hbeq : (a == b) = true ↔ a.toModel.unpack.compare b.toModel.unpack = some .eq :=
    @beq_iff_eq _ _ _ (a.toModel.unpack.compare b.toModel.unpack) (some .eq)
  rw [le_iff, lt_iff, hbeq]
  cases a.toModel.unpack.compare b.toModel.unpack with
  | none => simp
  | some o => cases o <;> simp

/-- The two zeros compare alike. -/
theorem lt_zeros (c : Float) : (c < 0.0) = (c < -0.0) := by
  refine propext ?_
  rw [lt_iff, lt_iff]
  have hzero : (0.0 : Float).toModel.unpack = .zero .positive := rfl
  have hminus : (-0.0 : Float).toModel.unpack = .zero .negative := rfl
  rw [hzero, hminus]
  cases c.toModel.unpack with
  | infinity s => cases s <;> rfl
  | finite s => cases s <;> rfl
  | _ => rfl

end Binary

instance : Scalar.Legible Float where
  ofNumeral_of_roundEven h :=
    congrArg Except.ok (Binary.ofDecimal_whole (Binary.digitCount_of_roundEven h))
  isFinite_of_roundEven h := by
    obtain ⟨s, m, e, hv, -⟩ := Binary.exists_ofFloat_of_roundEven h
    exact (Binary.bounds_of_ofFloat hv).2.2
  beq_self_of_isFinite {v} h := by
    rw [Float.beq_self_iff]
    rintro rfl
    exact absurd h (by decide)
  isFinite_congr := Binary.congr_of_beq _ rfl
  roundEven_congr := Binary.congr_of_beq _ rfl
  lt_congr {a b c} h := iff_of_eq (Binary.congr_of_beq (c < ·) (Binary.lt_zeros c) h)
  le_iff := Binary.le_iff_lt_or_beq
  wholes := by decide +kernel
  eq_of_beq {a b} hle h := by
    obtain ⟨-, -, rfl | ⟨-, rfl⟩ | ⟨-, rfl⟩⟩ := Float.beq_iff_ne_nan_and_eq.mp h
    · rfl
    · exact absurd hle (by decide)
    · exact absurd hle (by decide)

/-! ## 3. What is shown and read again -/

section

variable {α : Type} [Scalar α]

/-- The number equals the whole one as which it is shown. -/
def Scalar.Whole (v : α) : Prop :=
  ∃ n, Scalar.roundEven v = .ok n ∧ (Scalar.ofInt n == v) = true

instance (v : α) : Decidable (Scalar.Whole v) :=
  decidable_of_iff ((Scalar.roundEven v).toOption.any (Scalar.ofInt · == v) = true) <| by
    cases h : Scalar.roundEven v <;> simp [Scalar.Whole, h, Except.toOption]

/-- What is shown of a number are the digits of the nearest whole one. -/
theorem Panel.exists_of_shownNumber {v : α} {text : String} (h : shownNumber v = .ok text) :
    ∃ n, Scalar.roundEven v = .ok n ∧ text = toString n := by
  obtain ⟨n, hn, htext⟩ := Fault.of_bind_eq_ok h
  exact ⟨n, hn, (Except.ok.inj htext).symm⟩

/-- To raise a number to a limit twice is to do it once. -/
theorem Scalar.larger_larger (a b : α) : larger a (larger a b) = larger a b := by
  by_cases h : a < b
  · simp [larger, h]
  · simp [larger, h]

variable [Scalar.Legible α]

/-- What can be shown is the same as another number only if it equals it. -/
theorem Scalar.same_iff_beq {v : α} (hv : isFinite v = true) (w : α) :
    same w v = true ↔ (w == v) = true := by
  simp [same, isUndefined, Legible.beq_self_of_isFinite hv]

/-- What equals a default or a limit is whole. -/
theorem Scalar.whole_of_beq {k : Int} (hk : k ∈ Defaults.wholes) {v : α}
    (h : (ofInt k == v) = true) : Whole v := by
  have hround := (Legible.wholes k hk : _ ∧ isFinite (ofInt k : α) = true).1
  exact ⟨k, (Legible.roundEven_congr h).symm.trans hround, h⟩

/-- **What is shown of a number is read as a number equal to it exactly if it is whole.** -/
theorem Raw.exists_read_shown {v : α} {text : String} (h : Panel.shownNumber v = .ok text)
    {k : Int} (hk : k ∈ Defaults.wholes) :
    ∃ w, (Raw.text text).finiteOr (Scalar.ofInt k) = .ok w ∧
      ((w == v) = true ↔ Scalar.Whole v) := by
  obtain ⟨n, hn, rfl⟩ := Panel.exists_of_shownNumber h
  have hnumber : (Raw.text (toString n)).number = .ok (Scalar.ofInt n : α) := by
    simp only [Raw.number, Text.numeral?_toString]
    exact Scalar.Legible.ofNumeral_of_roundEven hn
  have hwhole : Scalar.Whole v ↔ (Scalar.ofInt n == v) = true := by
    refine ⟨fun ⟨m, hm, hv⟩ => ?_, fun hv => ⟨n, hn, hv⟩⟩
    rwa [Except.ok.inj (hn.symm.trans hm)]
  refine ⟨if Scalar.isFinite (Scalar.ofInt n : α) then Scalar.ofInt n else Scalar.ofInt k,
    by rw [Raw.finiteOr, hnumber], ?_⟩
  split
  · exact hwhole.symm
  · -- the default is read, so the number is whole only if it equals the default
    rename_i hinfinite
    refine ⟨Scalar.whole_of_beq hk, fun hv => absurd ?_ hinfinite⟩
    rw [Scalar.Legible.isFinite_congr (hwhole.mp hv)]
    exact Scalar.Legible.isFinite_of_roundEven hn

/-- **A limit to which the read number is raised lets it be read if it is not below the limit.** -/
theorem Scalar.larger_beq_iff {k : Int} (hk : k ∈ Defaults.wholes) {v w : α}
    (hw : (w == v) = true ↔ Whole v) :
    (larger (ofInt k) w == v) = true ↔ Whole v ∧ ofInt k ≤ v := by
  rw [larger, Legible.le_iff]
  split
  · rename_i hlt
    exact ⟨fun h => ⟨hw.mp h, .inl ((Legible.lt_congr h).mp hlt)⟩, fun h => hw.mpr h.1⟩
  · rename_i hnot
    refine ⟨fun h => ⟨whole_of_beq hk h, .inr h⟩, fun ⟨hwhole, hle⟩ => ?_⟩
    have hv := hw.mpr hwhole
    exact hle.resolve_left fun hlt => hnot ((Legible.lt_congr hv).mpr hlt)

end

end Compositor
