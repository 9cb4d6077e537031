import Compositor.Raw

/-!
# The acknowledgement of a copy

After the command was copied the program shows for a while that it was.  `CopyFlag` is the memory of
that: the time of the last copy, in seconds.  Reading it after the while has passed clears it, so
that no timer is needed for the flag itself.
-/

namespace Compositor

/-- The memory of the last copy. -/
structure CopyFlag (α : Type) where
  /-- How long a copy is acknowledged, in milliseconds. -/
  resetMs : Int
  /-- When the last copy was, in seconds. -/
  markedAt : Option α

namespace CopyFlag

variable {α : Type}

/-- How long a copy is acknowledged unless something else is said. -/
def standardMs : Int := 2000

/-- A flag that acknowledges for some milliseconds, a fraction of one being cut off. -/
def lasting [Scalar α] (ms : Raw α) : Except Fault (CopyFlag α) := do
  let n ← ms.toWhole
  return ⟨n, none⟩

/-- There was a copy just now. -/
def mark (f : CopyFlag α) (clock : α) : CopyFlag α := { f with markedAt := some clock }

/-- The copy is forgotten. -/
def clear (f : CopyFlag α) : CopyFlag α := { f with markedAt := none }

/-- Whether the while since a copy has passed. -/
def expired [Scalar α] (f : CopyFlag α) (clock marked : α) : Bool :=
  Scalar.atLeast ((clock - marked) * Scalar.ofInt 1000) f.resetMs

/-- Whether a copy is acknowledged now, and the flag after it was asked. -/
def read [Scalar α] (f : CopyFlag α) (clock : α) : Bool × CopyFlag α :=
  match f.markedAt with
  | none => (false, f)
  | some marked => if f.expired clock marked then (false, f.clear) else (true, f)

/-- Reading tells whether the flag was set and the while has not passed. -/
theorem fst_read [Scalar α] (f : CopyFlag α) (clock : α) :
    (f.read clock).1 = f.markedAt.any fun marked => !f.expired clock marked := by
  unfold read
  cases f.markedAt with
  | none => rfl
  | some marked => cases h : f.expired clock marked <;> simp [h]

/-! ## Asking again and again -/

/-- What is done to the flag. -/
inductive Use where
  | mark
  | clear
  | read
deriving DecidableEq, Repr

/-- The flag after it was used at a time, and what was read. -/
def use [Scalar α] (f : CopyFlag α) (clock : α) : Use → CopyFlag α × List Bool
  | .mark => (f.mark clock, [])
  | .clear => (f.clear, [])
  | .read =>
    let (yes, f) := f.read clock
    (f, [yes])

/-- What is read when the flag is used at several times, one after the other. -/
def readings [Scalar α] (f : CopyFlag α) : List (α × Use) → List Bool
  | [] => []
  | (clock, u) :: rest =>
    let (f, answers) := f.use clock u
    answers ++ readings f rest

end CopyFlag

end Compositor
