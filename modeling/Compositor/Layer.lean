import Compositor.Defaults
import Compositor.Geometry
import Compositor.Toggle

/-!
# Layers

A layout is a pile of layers.  A layer has a name, a place, a height in the pile (its *z-index*) and
may be hidden; what it shows is either a video, which has a size of its own, or a text, whose size
follows from its letters.

A video can be *locked*: its width and height then keep the ratio `aspectRatio`, which means nothing
while the lock is off.

Layers are addressed by id.  Nothing here requires ids to be different; where two layers share an id
the first one in the collection answers to it.
-/

namespace Compositor

/-- The look of letters. -/
structure Font (α : Type) where
  family : String
  size : α
  bold : Toggle α
  italic : Toggle α
deriving Repr

/-- What a video layer shows: a clip scaled into a box of this size. -/
structure Clip (α : Type) where
  width : α
  height : α
  aspectLocked : Toggle α
  aspectRatio : α
deriving Repr

/-- What a text layer shows. -/
structure Caption (α : Type) where
  text : String
  font : Font α
  color : String
deriving Repr

/-- What a layer shows. -/
inductive Content (α : Type) where
  | video (clip : Clip α)
  | text (caption : Caption α)
deriving Repr

/-- One layer of a layout. -/
structure Layer (α : Type) where
  id : String
  name : String
  x : α
  y : α
  visible : Toggle α
  zIndex : Int
  content : Content α
deriving Repr

/-- The two kinds of layers. -/
inductive LayerKind where
  | video
  | text
deriving DecidableEq, Repr

namespace LayerKind

/-- The kind as ids spell it. -/
def word : LayerKind → String
  | .video => "video"
  | .text => "text"

end LayerKind

namespace Clip

variable {α : Type} [Scalar α]

/-- The clip of a new video. -/
def initial : Clip α where
  width := Defaults.videoSide
  height := Defaults.videoSide
  aspectLocked := false
  aspectRatio := Scalar.ofInt 1

end Clip

namespace Caption

variable {α : Type} [Scalar α]

/-- The caption of a new text. -/
def initial : Caption α where
  text := Defaults.sampleText
  font := ⟨Defaults.fontFamily, Defaults.fontSize, false, false⟩
  color := Defaults.textColor

/-- The letters that are drawn and measured: an empty text shows its placeholder. -/
def shown {α : Type} (c : Caption α) : String :=
  if c.text.isEmpty then Defaults.textPlaceholder else c.text

end Caption

namespace Layer

variable {α : Type}

/-- The kind of a layer. -/
def kind (l : Layer α) : LayerKind :=
  match l.content with
  | .video _ => .video
  | .text _ => .text

/-- Whether the layer is a video. -/
def isVideo (l : Layer α) : Bool := l.kind == .video

/-- Whether the layer is a text. -/
def isText (l : Layer α) : Bool := l.kind == .text

/-- The clip of a video. -/
def clip? (l : Layer α) : Option (Clip α) :=
  match l.content with
  | .video c => some c
  | .text _ => none

/-- The caption of a text. -/
def caption? (l : Layer α) : Option (Caption α) :=
  match l.content with
  | .video _ => none
  | .text c => some c

/-- A layer is a video or a text, never both. -/
theorem isText_eq_not_isVideo (l : Layer α) : l.isText = !l.isVideo := by
  unfold isText isVideo kind
  cases l.content <;> rfl

/-- The first layer with an id. -/
def find? (layers : List (Layer α)) (id : Option String) : Option (Layer α) :=
  match id with
  | none => none
  | some id => layers.find? (·.id == id)

/-- What is found has the id that was asked for and is one of the layers. -/
theorem find?_some {layers : List (Layer α)} {id : Option String} {l : Layer α}
    (h : find? layers id = some l) : id = some l.id ∧ l ∈ layers := by
  cases id with
  | none => simp [find?] at h
  | some i =>
    have hp := List.find?_some h
    have hm := List.mem_of_find?_eq_some h
    simp only [beq_iff_eq] at hp
    exact ⟨by rw [hp], hm⟩

/-- Puts `layer` in the place of every layer with its id. -/
def replaceIn (layers : List (Layer α)) (layer : Layer α) : List (Layer α) :=
  layers.map fun l => if l.id == layer.id then layer else l

end Layer

/-! ## The same layer, as values

Two layers are the same when every field is; numbers are compared as values, so that an undefined
coordinate does not make a layer differ from itself. -/

section

variable {α : Type} [Scalar α]

/-- The same font. -/
def Font.same (a b : Font α) : Bool :=
  a.family == b.family && Scalar.same a.size b.size && a.bold.same b.bold
    && a.italic.same b.italic

/-- The same content. -/
def Content.same : Content α → Content α → Bool
  | .video a, .video b =>
    Scalar.same a.width b.width && Scalar.same a.height b.height
      && a.aspectLocked.same b.aspectLocked && Scalar.same a.aspectRatio b.aspectRatio
  | .text a, .text b => a.text == b.text && a.font.same b.font && a.color == b.color
  | _, _ => false

/-- The same layer. -/
def Layer.same (a b : Layer α) : Bool :=
  a.id == b.id && a.name == b.name && Scalar.same a.x b.x && Scalar.same a.y b.y
    && a.visible.same b.visible && a.zIndex == b.zIndex && a.content.same b.content

/-- The same layers in the same order. -/
def Layer.sameAll : List (Layer α) → List (Layer α) → Bool
  | [], [] => true
  | a :: as, b :: bs => a.same b && Layer.sameAll as bs
  | _, _ => false

end

end Compositor
