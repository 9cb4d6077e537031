import Compositor.Layer

/-!
# The box of a layer

A video's box is its own.  A text's box follows from its letters: as wide as they are, measured,
with a padding, and as high as one line.  It is measured anew each time and stored nowhere, so a
change of the text or of its font shows at once.

How wide letters are is not known here; a `Measurer` is asked.  `estimated` needs no font at all,
`advance10` gives every letter the same width, and `fontMetrics` takes half a font's pixel size.
-/

namespace Compositor

/-- The width of a text in a font. -/
abbrev Measurer (α : Type) := String → Font α → Except Fault α

namespace Measurer

variable {α : Type} [Scalar α]

/-- The width of an average letter, as a part of the font's size. -/
def averageAdvance (family : String) : α :=
  if family = "Courier New" then Scalar.ofDecimal 6 1
  else if family = "Impact" then Scalar.ofDecimal 5 1
  else if family = "Verdana" then Scalar.ofDecimal 62 2
  else Scalar.ofDecimal 55 2

/-- The estimate: every letter is an average one, and bold ones are a little wider. -/
def estimate (text : String) (font : Font α) : α :=
  let width := Scalar.ofInt text.length * font.size * averageAdvance font.family
  if font.bold.isOn then width * Scalar.ofDecimal 108 2 else width

/-- The measurer that estimates. -/
def estimated : Measurer α := fun text font => .ok (estimate text font)

/-- The measurer for which every letter is ten wide. -/
def advance10 : Measurer α := fun text _ => .ok (Scalar.ofInt (10 * text.length))

/-- The size of a font in whole pixels, at least one. -/
def pixelSize (size : α) : Except Fault Int := do
  let n ← Scalar.roundEven size
  return if n < 1 then 1 else n

/-- The measurer for which every letter is half as wide as the font's pixel size. -/
def fontMetrics : Measurer α := fun text font => do
  let pixels ← pixelSize font.size
  let twice ← Scalar.ofWhole (text.length * pixels)
  return Scalar.half twice

end Measurer

namespace Caption

variable {α : Type} [Scalar α]

/-- The padding around a text, both sides together. -/
def padding : α := Scalar.ofInt 20

/-- The height of a line, as a multiple of the font's size. -/
def lineHeight : α := Scalar.ofDecimal 14 1

/-- Width and height of a text, padding included. -/
def extent (measure : Measurer α) (c : Caption α) : Except Fault (Extent α) := do
  let advance ← measure c.shown c.font
  return ⟨advance + padding, c.font.size * lineHeight⟩

end Caption

namespace Layer

variable {α : Type} [Scalar α]

/-- Width and height of a layer. -/
def extent (measure : Measurer α) (l : Layer α) : Except Fault (Extent α) :=
  match l.content with
  | .video c => .ok ⟨c.width, c.height⟩
  | .text c => c.extent measure

/-- The box of a layer. -/
def box (measure : Measurer α) (l : Layer α) : Except Fault (Rect α) := do
  let e ← l.extent measure
  return ⟨l.x, l.y, e.width, e.height⟩

/-- Whether a point lies in the layer's box. -/
def containsPoint (measure : Measurer α) (l : Layer α) (p : Point α) : Except Fault Bool := do
  let r ← l.box measure
  return r.contains p

/-- A hidden layer covers nothing; a visible one covers the points of its box. -/
def covers (measure : Measurer α) (l : Layer α) (p : Point α) : Except Fault Bool :=
  if l.visible.isOn then l.containsPoint measure p else .ok false

/-- The first layer of a list that covers a point. -/
def firstCovering (measure : Measurer α) (p : Point α) :
    List (Layer α) → Except Fault (Option (Layer α))
  | [] => .ok none
  | l :: rest => do
    if ← l.covers measure p then return some l else firstCovering measure p rest

end Layer

/-! ## Things that are no layers

A query about a box can be handed something that is no layer; it has no box. -/

namespace Layer

variable {α : Type} [Scalar α]

/-- The box of what is a layer. -/
def boxOf? (measure : Measurer α) : Option (Layer α) → Except Fault (Rect α)
  | some l => l.box measure
  | none => .error .foreignLayer

/-- Whether a point lies in the box of what is a layer. -/
def containsPointOf? (measure : Measurer α) (l? : Option (Layer α)) (p : Point α) :
    Except Fault Bool := do
  let r ← boxOf? measure l?
  return r.contains p

end Layer

end Compositor
