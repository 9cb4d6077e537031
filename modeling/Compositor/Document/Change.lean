import Compositor.Document
import Compositor.Raw

/-!
# Changes of a layer's fields

A change names some fields of a layer and their new values.  A field that the layer's kind does not
have is passed over, and a change that names no field of the layer at all leaves everything as it
was.  The id and the kind of a layer are no fields in this sense: no change reaches them.

A name that is no field's at all is passed over too, unless it is one of the few that say what is
changed (`Document.reservedNames`): a change that gives one of these is refused.

Two rules tie the fields of a video together.  While the lock is on, a new width alone brings its
height along, and a new height its width, rounded to whole pixels.  And turning the lock on takes
the ratio over from the size that the video had before the change.
-/

namespace Compositor

/-- New values for some fields of a layer. -/
structure Changes (α : Type) where
  name : Option String := none
  x : Option α := none
  y : Option α := none
  visible : Option (Toggle α) := none
  zIndex : Option Int := none
  width : Option (Raw α) := none
  height : Option (Raw α) := none
  aspectLocked : Option (Toggle α) := none
  aspectRatio : Option α := none
  text : Option String := none
  fontSize : Option (Raw α) := none
  fontFamily : Option (Raw α) := none
  color : Option String := none
  bold : Option (Toggle α) := none
  italic : Option (Toggle α) := none
  /-- The names that are no field's. -/
  otherNames : List String := []

variable {α : Type} [Scalar α]

namespace Raw

/-- The value as a coordinate, if it is a number. -/
def scalar? : Raw α → Option α
  | .whole n => some (Scalar.ofInt n)
  | .real v => some v
  | _ => none

/-- The value as a text, if it is one. -/
def text? {α : Type} : Raw α → Option String
  | .text s => some s
  | _ => none

/-- The value as a whole number, if it is one. -/
def whole? : Raw α → Option Int
  | .whole n => some n
  | .real v => (Scalar.floor v).toOption.filter fun n => Scalar.ofInt n == v
  | _ => none

end Raw

namespace Changes

/-- The change together with a new value for the field of this name.  A value that is not of the
field's type changes nothing. -/
def set (c : Changes α) (field : String) (raw : Raw α) : Changes α :=
  match field with
  | "name" => { c with name := raw.text? <|> c.name }
  | "x" => { c with x := raw.scalar? <|> c.x }
  | "y" => { c with y := raw.scalar? <|> c.y }
  | "visible" => { c with visible := some ⟨raw⟩ }
  | "z_index" => { c with zIndex := raw.whole? <|> c.zIndex }
  | "width" => { c with width := some raw }
  | "height" => { c with height := some raw }
  | "aspect_locked" => { c with aspectLocked := some ⟨raw⟩ }
  | "aspect_ratio" => { c with aspectRatio := raw.scalar? <|> c.aspectRatio }
  | "text" => { c with text := raw.text? <|> c.text }
  | "font_size" => { c with fontSize := some raw }
  | "font_family" => { c with fontFamily := some raw }
  | "color" => { c with color := raw.text? <|> c.color }
  | "bold" => { c with bold := some ⟨raw⟩ }
  | "italic" => { c with italic := some ⟨raw⟩ }
  | _ => { c with otherNames := c.otherNames ++ [field] }

/-- The change that a list of named values describes. -/
def ofList (fields : List (String × Raw α)) : Changes α :=
  fields.foldl (fun c f => c.set f.1 f.2) {}

/-- Whether the change names a field that layers of both kinds have. -/
def touchesAny {α : Type} (c : Changes α) : Bool :=
  c.name.isSome || c.x.isSome || c.y.isSome || c.visible.isSome || c.zIndex.isSome

/-- Whether the change names a field that only videos have. -/
def touchesVideo {α : Type} (c : Changes α) : Bool :=
  c.width.isSome || c.height.isSome || c.aspectLocked.isSome || c.aspectRatio.isSome

/-- Whether the change names a field that only texts have. -/
def touchesText {α : Type} (c : Changes α) : Bool :=
  c.text.isSome || c.fontSize.isSome || c.fontFamily.isSome || c.color.isSome || c.bold.isSome
    || c.italic.isSome

/-- Whether the change names a field that layers of this kind have. -/
def touches {α : Type} (c : Changes α) : LayerKind → Bool
  | .video => c.touchesAny || c.touchesVideo
  | .text => c.touchesAny || c.touchesText

end Changes

/-! ## Values for fields -/

/-- A side of a video: at least the smallest one. -/
def sideOf (raw : Raw α) : Except Fault α := do
  let v ← raw.number
  return Scalar.larger Defaults.minSide v

/-- The side that goes with a changed one while the lock is on, in whole pixels. -/
def followingSide (v : α) : Except Fault α := do
  let n ← Scalar.roundHalfUp v
  return Scalar.larger Defaults.minSide (Scalar.ofInt n)

/-- The size of letters: at least the smallest one.  A text is no size, whatever it spells. -/
def fontSizeOf : Raw α → Except Fault α
  | .bool b => .ok (Scalar.larger Defaults.minFontSize (Scalar.ofInt (if b then 1 else 0)))
  | .whole n => .ok (Scalar.larger Defaults.minFontSize (Scalar.ofInt n))
  | .real v => .ok (Scalar.larger Defaults.minFontSize v)
  | .null | .text _ | .list _ | .object _ => .error .wrongKind

/-- The family of letters: the usual one where the value names no known family. -/
def fontFamilyOf {α : Type} : Raw α → String
  | .text s => Defaults.knownFamily s
  | _ => Defaults.fontFamily

/-- What a field becomes when `raw` is typed for it: the numeric fields become numbers within their
limits, with a fallback for what is no number, and every other field takes the value as it is. -/
def enteredValue (field : String) (raw : Raw α) : Except Fault (Raw α) :=
  match field with
  | "width" | "height" => do
    let v ← raw.finiteOr Defaults.minSide
    return .real (Scalar.larger Defaults.minSide v)
  | "font_size" => do
    let v ← raw.finiteOr Defaults.fontSize
    return .real (Scalar.larger Defaults.minFontSize v)
  | "x" | "y" => do
    let v ← raw.finiteOr (Scalar.ofInt 0)
    return .real v
  | _ => .ok raw

/-! ## Applying a change -/

namespace Clip

/-- The two sides of a video after a change. -/
def changedSides (clip : Clip α) (width height : Option α) : Except Fault (Extent α) :=
  if clip.aspectLocked.isOn && decide (Scalar.ofInt 0 < clip.aspectRatio) then
    match width, height with
    | some w, none => do
      let q ← Scalar.quotient w clip.aspectRatio
      let h ← followingSide q
      return ⟨w, h⟩
    | none, some h => do
      let w ← followingSide (h * clip.aspectRatio)
      return ⟨w, h⟩
    | w, h => .ok ⟨w.getD clip.width, h.getD clip.height⟩
  else .ok ⟨width.getD clip.width, height.getD clip.height⟩

/-- A clip after a change. -/
def changed (clip : Clip α) (c : Changes α) : Except Fault (Clip α) := do
  let width ← c.width.mapM sideOf
  let height ← c.height.mapM sideOf
  let sides ← clip.changedSides width height
  let ratio ←
    if c.aspectLocked.any (·.isTrue) then Scalar.quotient clip.width clip.height
    else .ok (c.aspectRatio.getD clip.aspectRatio)
  return {
    width := sides.width
    height := sides.height
    aspectLocked := c.aspectLocked.getD clip.aspectLocked
    aspectRatio := ratio }

end Clip

namespace Caption

/-- A caption after a change. -/
def changed (caption : Caption α) (c : Changes α) : Except Fault (Caption α) := do
  let size ← c.fontSize.mapM fontSizeOf
  return {
    text := c.text.getD caption.text
    color := c.color.getD caption.color
    font := {
      family := (c.fontFamily.map fontFamilyOf).getD caption.font.family
      size := size.getD caption.font.size
      bold := c.bold.getD caption.font.bold
      italic := c.italic.getD caption.font.italic } }

end Caption

namespace Layer

/-- What a layer shows after a change. -/
def changedContent (l : Layer α) (c : Changes α) : Except Fault (Content α) :=
  match l.content with
  | .video clip => do
    let clip ← clip.changed c
    return .video clip
  | .text caption => do
    let caption ← caption.changed c
    return .text caption

/-- A layer after a change. -/
def changed (l : Layer α) (c : Changes α) : Except Fault (Layer α) := do
  let content ← l.changedContent c
  return {
    id := l.id
    name := c.name.getD l.name
    x := c.x.getD l.x
    y := c.y.getD l.y
    visible := c.visible.getD l.visible
    zIndex := c.zIndex.getD l.zIndex
    content := content }

end Layer

/-! ## Undefined numbers

An undefined number differs from every number, itself included.  So a change that gives a layer such
a number is a change each time, even when the layer had an undefined one in the same field. -/

namespace Toggle

/-- Whether the toggle was given the undefined number. -/
def isUndefined (t : Toggle α) : Bool :=
  match t.value with
  | .real v => Scalar.isUndefined v
  | _ => false

end Toggle

namespace Changes

/-- Whether the change gives a layer an undefined number, when `l` is the layer after it. -/
def givesUndefined (c : Changes α) (l : Layer α) : Bool :=
  c.x.any Scalar.isUndefined || c.y.any Scalar.isUndefined || c.visible.any (·.isUndefined)
    || match l.content with
      | .video clip =>
        c.aspectLocked.any (·.isUndefined)
          || (c.aspectRatio.isSome || c.aspectLocked.any (·.isTrue))
            && Scalar.isUndefined clip.aspectRatio
      | .text _ => c.bold.any (·.isUndefined) || c.italic.any (·.isUndefined)

end Changes

end Compositor
