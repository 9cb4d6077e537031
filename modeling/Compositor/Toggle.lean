import Compositor.Raw

/-!
# Toggles

Whether a layer is visible, whether a video is locked, whether letters are bold or italic: each of
these is a *toggle*.  A toggle holds the value that it was given, as it was given, and it is on when
that value counts as true.  Nearly always the value is a truth value; any other is kept, because it
is shown again to whoever asks for the layer.
-/

namespace Compositor

/-- A field that is on or off. -/
structure Toggle (α : Type) where
  value : Raw α
deriving Repr

namespace Toggle

variable {α : Type}

/-- The toggle of a truth value. -/
def ofBool (b : Bool) : Toggle α := ⟨.bool b⟩

instance : Coe Bool (Toggle α) := ⟨ofBool⟩

/-- Whether the toggle was given the truth value true, and not just a value that counts as true. -/
def isTrue (t : Toggle α) : Bool :=
  match t.value with
  | .bool b => b
  | _ => false

variable [Scalar α]

/-- Whether the toggle is on. -/
def isOn (t : Toggle α) : Bool := t.value.truthy

/-- Two toggles with the same value. -/
def same (s t : Toggle α) : Bool := s.value.same t.value

/-- The toggle of a truth value is on when the value is true. -/
@[simp] theorem isOn_ofBool (b : Bool) : (ofBool b : Toggle α).isOn = b := rfl

/-- A toggle that was given true is on. -/
theorem isOn_of_isTrue {t : Toggle α} (h : t.isTrue = true) : t.isOn = true := by
  obtain ⟨v⟩ := t
  cases v with
  | bool b => exact h
  | _ => exact absurd h (by simp [isTrue])

end Toggle

end Compositor
