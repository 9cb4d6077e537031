import Compositor.Document.Canvas
import Compositor.Document.Change
import Compositor.Proofs.Settings.Limits

/-!
# Numbers that are entered

A coordinate, a side, a size of letters, the distance of the grid lines and the template's opacity
can be set to anything.  What is a finite number counts as this number, what is none, or an infinite
or undefined one, counts as a default, and the result is then brought within limits.  So nothing
that is entered should fail, and what comes of it should be finite.

For doubles there is one kind of value of which this is not true.  A text, whatever it spells, is
read as some double, an infinite one if it spells too much; but a whole number is not read, it is
made into a double, and that fails beyond the range of doubles (`Raw.TooLarge`).  It is neither of
the two faults for which there is a default, and it goes through to all who take a number.  So a
value is taken by all of them (`Raw.Taken`), or refused by all (`Raw.Refused`), and which of the two
is told by the value alone (`taken_iff`).
-/

namespace Compositor

/-! ## 1. The number that a value is -/

namespace Raw

/-- A whole number beyond the range of the scalars. -/
def TooLarge {α : Type} [Scalar α] (raw : Raw α) : Prop :=
  ∃ n, raw = .whole n ∧ Scalar.isFinite (Scalar.ofInt n : α) = false

/-- The finite number that a value is, if it is one. -/
def finite? {α : Type} [Scalar α] (raw : Raw α) : Option α :=
  raw.number.toOption.filter Scalar.isFinite

variable {raw : Raw Float} {fallback : Float}

/-- A value that is not too large is a number, or has a fault for which there is a fallback. -/
theorem number_of_not_tooLarge (h : ¬ raw.TooLarge) :
    (∃ v, raw.number = .ok v) ∨ raw.number = .error .notANumber ∨
      raw.number = .error .wrongKind := by
  cases raw with
  | null => exact .inr (.inr rfl)
  | list items => exact .inr (.inr rfl)
  | object fields => exact .inr (.inr rfl)
  | bool b => exact .inl ⟨_, rfl⟩
  | real v => exact .inl ⟨v, rfl⟩
  | text s =>
    simp only [number]
    cases Text.numeral? s with
    | none => exact .inr (.inl rfl)
    | some numeral => exact .inl ⟨_, rfl⟩
  | whole n =>
    have hfinite : Scalar.isFinite (Scalar.ofInt n : Float) = true :=
      Bool.not_eq_false _ ▸ fun hn => h ⟨n, rfl, hn⟩
    exact .inl ⟨Scalar.ofInt n, by simp [number, Scalar.ofWhole, hfinite]⟩

/-- **What is not too large counts as the finite number that it is, or as the fallback.** -/
theorem finiteOr_of_not_tooLarge (h : ¬ raw.TooLarge) (fallback : Float) :
    raw.finiteOr fallback = .ok (raw.finite?.getD fallback) := by
  unfold finiteOr finite?
  rcases number_of_not_tooLarge h with ⟨v, hv⟩ | hv | hv <;> rw [hv]
  · cases hfinite : Scalar.isFinite v <;> simp [Except.toOption, Option.filter, hfinite]
  · rfl
  · rfl

/-- What is too large has no fallback. -/
theorem finiteOr_of_tooLarge (h : raw.TooLarge) (fallback : Float) :
    raw.finiteOr fallback = .error .overflow := by
  obtain ⟨n, rfl, hn⟩ := h
  simp [finiteOr, number, Scalar.ofWhole, hn]

/-- The number that a value counts as is finite. -/
theorem isFinite_getD_finite? (hfallback : fallback.isFinite = true) :
    (raw.finite?.getD fallback).isFinite = true := by
  cases h : raw.finite? with
  | none => exact hfallback
  | some v => exact (Option.filter_eq_some_iff.mp h).2

end Raw

/-! ## 2. Who takes a number -/

/-- All who take a number take this value, and what they make of it is finite and within limits. -/
structure Raw.Taken (raw : Raw Float) : Prop where
  number (fallback : Float) : fallback.isFinite = true →
    raw.finiteOr fallback = .ok (raw.finite?.getD fallback) ∧
      (raw.finite?.getD fallback).isFinite = true
  side {field : String} : field ∈ ["width", "height"] →
    ∃ v, enteredValue field raw = .ok (.real v) ∧ v.isFinite = true ∧ Scalar.ofInt 50 ≤ v
  letters : ∃ v, enteredValue "font_size" raw = .ok (.real v) ∧ v.isFinite = true ∧
    Scalar.ofInt 12 ≤ v
  coordinate {field : String} : field ∈ ["x", "y"] →
    ∃ v, enteredValue field raw = .ok (.real v) ∧ v.isFinite = true
  gridSize (d : Document Float) :
    ∃ v, d.setGridSize raw = .ok { d with gridSize := v } ∧ v.isFinite = true ∧
      Scalar.ofInt 5 ≤ v
  opacity (d : Document Float) :
    ∃ v, d.setTemplateOpacity raw = .ok { d with templateOpacity := v } ∧ v.isFinite = true ∧
      Scalar.ofInt 0 ≤ v ∧ v ≤ Scalar.ofInt 1

/-- All who take a number fail on this value. -/
structure Raw.Refused (raw : Raw Float) : Prop where
  number (fallback : Float) : raw.finiteOr fallback = .error .overflow
  field {field : String} : field ∈ ["width", "height", "font_size", "x", "y"] →
    enteredValue field raw = .error .overflow
  gridSize (d : Document Float) : d.setGridSize raw = .error .overflow
  opacity (d : Document Float) : d.setTemplateOpacity raw = .error .overflow

/-- The larger one of two finite numbers is finite. -/
theorem Scalar.isFinite_larger {α : Type} [Scalar α] {a b : α} (ha : isFinite a = true)
    (hb : isFinite b = true) : isFinite (larger a b) = true := by
  unfold larger
  split
  · exact hb
  · exact ha

/-- A number that is raised to a limit is finite, and no smaller than the limit. -/
theorem Raw.raised (raw : Raw Float) {limit : Float} (fallback : Float)
    (hlimit : limit.isFinite = true) (hself : limit ≤ limit)
    (hfallback : fallback.isFinite = true) :
    (Scalar.larger limit (raw.finite?.getD fallback)).isFinite = true ∧
      limit ≤ Scalar.larger limit (raw.finite?.getD fallback) :=
  ⟨Scalar.isFinite_larger (α := Float) hlimit (isFinite_getD_finite? hfallback),
    Scalar.le_larger hself _⟩

/-- **What is not too large is taken.** -/
theorem Raw.taken_of_not_tooLarge {raw : Raw Float} (h : ¬ raw.TooLarge) : raw.Taken where
  number _ hfallback := ⟨finiteOr_of_not_tooLarge h _, isFinite_getD_finite? hfallback⟩
  side {field} hfield := by
    have hentered : enteredValue field raw =
        .ok (.real (Scalar.larger Defaults.minSide (raw.finite?.getD Defaults.minSide))) := by
      simp only [List.mem_cons, List.not_mem_nil, or_false] at hfield
      rcases hfield with rfl | rfl <;>
        simp only [enteredValue, finiteOr_of_not_tooLarge h] <;> rfl
    exact ⟨_, hentered, raw.raised _ (by decide) (by decide) (by decide)⟩
  letters := by
    refine ⟨_, ?_, raw.raised Defaults.fontSize (by decide) (by decide) (by decide)⟩
    simp only [enteredValue, finiteOr_of_not_tooLarge h]
    rfl
  coordinate {field} hfield := by
    have hentered : enteredValue field raw = .ok (.real (raw.finite?.getD (Scalar.ofInt 0))) := by
      simp only [List.mem_cons, List.not_mem_nil, or_false] at hfield
      rcases hfield with rfl | rfl <;>
        simp only [enteredValue, finiteOr_of_not_tooLarge h] <;> rfl
    exact ⟨_, hentered, isFinite_getD_finite? (by decide)⟩
  gridSize d := by
    refine ⟨_, ?_, raw.raised Defaults.gridSize (by decide) (by decide) (by decide)⟩
    simp only [Document.setGridSize, finiteOr_of_not_tooLarge h]
    rfl
  opacity d := by
    have hopacity := Scalar.opacity_clamp (raw.finite?.getD Defaults.templateOpacity)
    refine ⟨_, ?_, Scalar.Lawful.isFinite_of_opacity hopacity.1 hopacity.2, hopacity⟩
    simp only [Document.setTemplateOpacity, finiteOr_of_not_tooLarge h]
    rfl

/-- **What is too large is refused.** -/
theorem Raw.refused_of_tooLarge {raw : Raw Float} (h : raw.TooLarge) : raw.Refused where
  number := finiteOr_of_tooLarge h
  field hfield := by
    simp only [List.mem_cons, List.not_mem_nil, or_false] at hfield
    rcases hfield with rfl | rfl | rfl | rfl | rfl <;>
      simp only [enteredValue, finiteOr_of_tooLarge h] <;> rfl
  gridSize d := by
    simp only [Document.setGridSize, finiteOr_of_tooLarge h]
    rfl
  opacity d := by
    simp only [Document.setTemplateOpacity, finiteOr_of_tooLarge h]
    rfl

/-- Nothing is both taken and refused. -/
theorem Raw.Refused.not_taken {raw : Raw Float} (h : raw.Refused) : ¬ raw.Taken := fun htaken => by
  have hok := (htaken.number Defaults.minSide (by decide)).1
  rw [h.number] at hok
  exact nomatch hok

/-- **What is entered is taken, unless it is a whole number beyond the range of doubles, and then it
is refused**, whoever takes the number. -/
theorem taken_iff (raw : Raw Float) :
    (raw.Taken ↔ ¬ raw.TooLarge) ∧ (raw.Refused ↔ raw.TooLarge) := by
  have hrefused : raw.Refused → raw.TooLarge := fun h =>
    Classical.byContradiction fun hlarge => h.not_taken (Raw.taken_of_not_tooLarge hlarge)
  exact ⟨⟨fun h hlarge => (Raw.refused_of_tooLarge hlarge).not_taken h, Raw.taken_of_not_tooLarge⟩,
    hrefused, Raw.refused_of_tooLarge⟩

/-- A one with four hundred zeros is refused, while the same number in a text is taken for the
default. -/
theorem refused_whole :
    (Raw.whole (10 ^ 400) : Raw Float).finiteOr (Scalar.ofInt 5) = .error .overflow ∧
      (Raw.text "1e400" : Raw Float).finiteOr (Scalar.ofInt 5) = .ok (Scalar.ofInt 5) := by
  constructor
  · decide +kernel
  · decide +kernel

end Compositor
