import Compositor.Scalar
import Compositor.Text.Reading

/-!
# Values as they come from outside

A value that a user typed, or that a preference file holds, has no type yet: it may be a number, a
text, a truth value, nothing at all, or a whole list.  `Raw` is such a value, and this module says
what becomes of it where a number or a truth value is wanted.
-/

namespace Compositor

/-- A value from outside, before it has a type. -/
inductive Raw (α : Type) where
  | null
  | bool (b : Bool)
  | whole (n : Int)
  | real (v : α)
  | text (s : String)
  | list (items : List (Raw α))
  | object (fields : List (String × Raw α))
deriving Repr, Inhabited

namespace Raw

variable {α : Type} [Scalar α]

/-- The value as a number.  Truth values count as one and zero, a text is read; nothing, a list and
an object are no numbers. -/
def number : Raw α → Except Fault α
  | .bool b => .ok (Scalar.ofInt (if b then 1 else 0))
  | .whole n => Scalar.ofWhole n
  | .real v => .ok v
  | .text s =>
    match Text.numeral? s with
    | some t => Scalar.ofNumeral t
    | none => .error .notANumber
  | .null | .list _ | .object _ => .error .wrongKind

/-- The value as a finite number, or `fallback` where it is none.  A whole number too large for any
scalar is the one value that fails. -/
def finiteOr (fallback : α) (raw : Raw α) : Except Fault α :=
  match raw.number with
  | .ok v => .ok (if Scalar.isFinite v then v else fallback)
  | .error .notANumber | .error .wrongKind => .ok fallback
  | .error fault => .error fault

/-- The value as a truth value: nothing, zero and whatever is empty count as false. -/
def truthy : Raw α → Bool
  | .null => false
  | .bool b => b
  | .whole n => n != 0
  | .real v => !(v == Scalar.ofInt 0)
  | .text s => !s.isEmpty
  | .list items => !items.isEmpty
  | .object fields => !fields.isEmpty

/-- The value as a whole number, a fraction being cut off.  A text has to spell a whole number. -/
def toWhole : Raw α → Except Fault Int
  | .bool b => .ok (if b then 1 else 0)
  | .whole n => .ok n
  | .real v => Scalar.truncate v
  | .text s =>
    match Text.whole? s with
    | some n => .ok n
    | none => .error .notANumber
  | .null | .list _ | .object _ => .error .wrongKind

/-- The value as an exact number, if it is one: a whole number, or a scalar that is not whole. -/
def numericValue? : Raw α → Option (Int ⊕ α)
  | .bool b => some (.inl (if b then 1 else 0))
  | .whole n => some (.inl n)
  | .real v =>
    match Scalar.floor v with
    | .ok n => some (if Scalar.ofInt n == v then .inl n else .inr v)
    | .error _ => some (.inr v)
  | .null | .text _ | .list _ | .object _ => none

/-- Whether two values are numbers, and the same one. -/
def sameNumber (a b : Raw α) : Bool :=
  match a.numericValue?, b.numericValue? with
  | some (.inl m), some (.inl n) => m == n
  | some (.inr v), some (.inr w) => Scalar.same v w
  | _, _ => false

mutual

/-- The same value.  Numbers are the same when they are equal, however they are written, and a truth
value is one or zero. -/
def same : Raw α → Raw α → Bool
  | .null, .null => true
  | .text s, .text t => s == t
  | .list xs, .list ys => sameItems xs ys
  | .object xs, .object ys => sameFields xs ys
  | a, b => a.sameNumber b

/-- The same values in the same order. -/
def sameItems : List (Raw α) → List (Raw α) → Bool
  | [], [] => true
  | x :: xs, y :: ys => x.same y && sameItems xs ys
  | _, _ => false

/-- The same values under the same names, in the same order. -/
def sameFields : List (String × Raw α) → List (String × Raw α) → Bool
  | [], [] => true
  | (k, x) :: xs, (l, y) :: ys => k == l && x.same y && sameFields xs ys
  | _, _ => false

end

end Raw

end Compositor
