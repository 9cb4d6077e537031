import Compositor.Text.Reading
import Mathlib.Data.List.TakeWhile

/-!
# Whole numbers as they are written

A whole number is written with the ten digits of ASCII, and a minus before them if it is negative.
Nothing of this is changed when a text is made ready for reading (`prepared_eq_some`), and the
digits are all that is read, so the number that the text spells is the one that was written
(`numeral?_toString`).
-/

namespace Compositor.Text

/-! ## 1. Texts that are ready for reading -/

/-- A character that stays as it is when a text is made ready for reading. -/
structure Bare (c : Char) : Prop where
  ascii : c.toNat < 128
  visible : isWhiteSpace c = false
  not_underscore : c ≠ '_'

/-- Digits stay as they are. -/
theorem Bare.of_isDigit {c : Char} (h : c.isDigit = true) : Bare c := by
  have hrange : 48 ≤ c.toNat ∧ c.toNat ≤ 57 := Char.isDigit_iff_toNat.mp h
  refine ⟨by omega, ?_, ?_⟩
  · simp only [isWhiteSpace]
    simp
    omega
  · rintro rfl
    exact absurd h (by decide)

/-- Where there is no underscore, none is taken out. -/
theorem dropUnderscores_eq_some {s : List Char} (h : ∀ c ∈ s, c ≠ '_') {previous : Char}
    (hprevious : previous ≠ '_') : dropUnderscores previous s = some s := by
  induction s generalizing previous with
  | nil => simp [dropUnderscores, hprevious]
  | cons c rest ih =>
    obtain ⟨hc, hrest⟩ := List.forall_mem_cons.mp h
    simp [dropUnderscores, hc, hprevious, ih hrest hc]

/-- Where nothing is to be trimmed, nothing is. -/
theorem trim_eq_self {p : Char → Bool} {s : List Char} (h : ∀ c ∈ s, p c = false) :
    trim p s = s := by
  have hdrop : ∀ t : List Char, (∀ c ∈ t, p c = false) → t.dropWhile p = t := by
    intro t ht
    cases t with
    | nil => rfl
    | cons c rest => simp [ht c List.mem_cons_self]
  rw [trim, hdrop s h, hdrop s.reverse fun c hc => h c (List.mem_reverse.mp hc),
    List.reverse_reverse]

/-- **A text of such characters is ready for reading.** -/
theorem prepared_eq_some {s : String} (h : ∀ c ∈ s.toList, Bare c) :
    prepared s = some s.toList := by
  have hplain : s.toList.map plain = s.toList :=
    (List.map_congr_left fun c hc => if_pos (h c hc).ascii).trans (List.map_id s.toList)
  rw [prepared, hplain, trim_eq_self fun c hc => (h c hc).visible]
  exact dropUnderscores_eq_some (fun c hc => (h c hc).not_underscore) (by decide)

/-! ## 2. Digits -/

/-- Where there are only digits, all of them are taken. -/
theorem digits_eq {s : List Char} (h : ∀ c ∈ s, c.isDigit = true) : digits s = (s, []) := by
  rw [digits, List.takeWhile_eq_self_iff.mpr h, List.dropWhile_eq_nil_iff.mpr h]

/-- The digits of a number have its value. -/
theorem digitsValue_toDigits (n : Nat) : digitsValue (Nat.toDigits 10 n) = n :=
  Nat.ofDigitChars_eq_foldl.symm.trans Nat.ofDigitChars_ten_toDigits

/-- The digits of a number are digits. -/
theorem isDigit_of_mem_toDigits {n : Nat} {c : Char} (h : c ∈ Nat.toDigits 10 n) :
    c.isDigit = true :=
  Nat.isDigit_of_mem_toDigits (by decide) (by decide) h

/-- The digits of a number are read as the number. -/
theorem unsigned_toDigits (negative : Bool) (n : Nat) :
    unsigned negative (Nat.toDigits 10 n) = some (.decimal negative n 0) := by
  have hne : (Nat.toDigits 10 n).isEmpty = false :=
    List.isEmpty_eq_false_iff.mpr Nat.toDigits_ne_nil
  simp [unsigned, digits_eq fun _ => isDigit_of_mem_toDigits, hne, powerOfTen,
    digitsValue_toDigits]

/-- A number without a sign has none. -/
theorem sign_toDigits (n : Nat) : sign (Nat.toDigits 10 n) = (false, Nat.toDigits 10 n) := by
  unfold sign
  split
  case h_1 h => exact absurd (isDigit_of_mem_toDigits (h ▸ List.mem_cons_self)) (by decide)
  case h_2 h => exact absurd (isDigit_of_mem_toDigits (h ▸ List.mem_cons_self)) (by decide)
  case h_3 => rfl

/-- **A whole number that is written is read as itself.** -/
theorem numeral?_toString (n : Int) :
    numeral? (toString n) = some (.decimal (decide (n < 0)) n.natAbs 0) := by
  cases n with
  | ofNat n =>
    have hchars : (toString (Int.ofNat n)).toList = Nat.toDigits 10 n := by
      rw [show toString (Int.ofNat n) = toString n from rfl]
      simp
    have hready : prepared (toString (Int.ofNat n)) = some (Nat.toDigits 10 n) := by
      rw [prepared_eq_some, hchars]
      exact fun c hc => .of_isDigit (isDigit_of_mem_toDigits (hchars ▸ hc))
    rw [numeral?, hready]
    simp [sign_toDigits, unsigned_toDigits]
  | negSucc n =>
    have hchars : (toString (Int.negSucc n)).toList = '-' :: Nat.toDigits 10 (n + 1) := by
      rw [show toString (Int.negSucc n) = "-" ++ toString (n + 1) from rfl, String.toList_append]
      simp
    have hready : prepared (toString (Int.negSucc n)) = some ('-' :: Nat.toDigits 10 (n + 1)) := by
      rw [prepared_eq_some, hchars]
      intro c hc
      rcases List.mem_cons.mp (hchars ▸ hc) with rfl | hdigit
      · exact ⟨by decide, by decide, by decide⟩
      · exact .of_isDigit (isDigit_of_mem_toDigits hdigit)
    rw [numeral?, hready]
    simp [sign, unsigned_toDigits]

end Compositor.Text
