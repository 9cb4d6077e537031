import Compositor.Document.Change
import Compositor.Stacking

/-!
# Adding, changing and removing layers

New layers are put on top of the pile, are selected, and get an id that no layer of the session has
had before: the kind and the next number of the document's counter.

A copy is put a little to the right of and below its source, but never so far that less than a fixed
room is left to the right and bottom edge of the canvas; the copy's own size plays no part in it.
-/

namespace Compositor.Document

variable {α : Type}

/-- The id of the layer that is created next. -/
def nextId (d : Document α) (kind : LayerKind) : String :=
  kind.word ++ "-" ++ toString (d.idCounter + 1)

/-- The document with one more layer, which is selected and takes the next id's number. -/
def append (d : Document α) (l : Layer α) : Document α :=
  { d with layers := d.layers ++ [l], selectedId := some l.id, idCounter := d.idCounter + 1 }

/-- The document with `l` in the place of the layer with its id. -/
def replace (d : Document α) (l : Layer α) : Document α :=
  { d with layers := Layer.replaceIn d.layers l }

/-- How many layers of a kind there are. -/
def countOf (d : Document α) (kind : LayerKind) : Nat :=
  d.layers.countP fun l => l.kind == kind

variable [Scalar α]

/-- Adds a video.  Up to three videos in a row are put beside each other. -/
def addVideo (d : Document α) : Except Fault (Document α) := do
  let stagger : Int := (d.layers.length % 3 : Nat) * Defaults.videoStagger
  let x ← d.grid.snap (Scalar.ofInt (Defaults.videoOrigin + stagger))
  let y ← d.grid.snap (Scalar.ofInt (Defaults.videoOrigin + stagger))
  return d.append {
    id := d.nextId .video
    name := "Video " ++ toString (d.countOf .video + 1)
    x := x
    y := y
    visible := true
    zIndex := Stacking.nextZ d.layers
    content := .video .initial }

/-- Adds a text, below the texts that are there. -/
def addText (d : Document α) : Except Fault (Document α) := do
  let row : Int := d.countOf .text
  let x ← d.grid.snap (Scalar.ofInt Defaults.textOrigin)
  let y ← d.grid.snap (Scalar.ofInt (Defaults.textOrigin + row * Defaults.textRowSpacing))
  return d.append {
    id := d.nextId .text
    name := "Text " ++ toString (d.countOf .text + 1)
    x := x
    y := y
    visible := true
    zIndex := Stacking.nextZ d.layers
    content := .text .initial }

/-- The names that say which layer of which document is changed, so that no field has one. -/
def reservedNames : List String := ["state", "layer_id"]

/-- Changes fields of a layer. -/
def update (d : Document α) (id : String) (c : Changes α) : Except Fault (Document α) :=
  if c.otherNames.any reservedNames.contains then .error .wrongKind
  else match d.layer? id with
  | none => .ok d
  | some l =>
    if c.touches l.kind then do
      let l ← l.changed c
      return d.replace l
    else .ok d

/-- Changes one field of a layer to what was typed for it. -/
def enter (d : Document α) (id : String) (field : String) (raw : Raw α) :
    Except Fault (Document α) := do
  let value ← enteredValue field raw
  d.update id (Changes.ofList [(field, value)])

/-- Where the copy of a coordinate goes, before it snaps. -/
def copyCoordinate (v side : α) : α :=
  Scalar.larger (Scalar.ofInt 0)
    (Scalar.smaller (v + Defaults.duplicateOffset) (side - Defaults.duplicateBound))

/-- Adds a copy of a layer. -/
def duplicate (d : Document α) (id : String) : Except Fault (Document α) :=
  match d.layer? id with
  | none => .ok d
  | some l => do
    let x ← d.grid.snap (copyCoordinate l.x d.canvas.width)
    let y ← d.grid.snap (copyCoordinate l.y d.canvas.height)
    return d.append { l with
      id := d.nextId l.kind
      name := l.name ++ " (copy)"
      x := x
      y := y
      zIndex := Stacking.nextZ d.layers }

/-- Removes a layer; a selection of it and a gesture on it end. -/
def remove {α : Type} (d : Document α) (id : String) : Document α :=
  match d.layer? id with
  | none => d
  | some _ =>
    { d with
      layers := d.layers.filter fun l => l.id != id
      selectedId := if d.selectedId == some id then none else d.selectedId
      interaction := if d.interaction.layerId? == some id then .idle else d.interaction }

/-- A layer with the geometry of a new one; its lock, or its bold and italic, are taken off. -/
def resetLayer (l : Layer α) : Layer α :=
  match l.content with
  | .video _ =>
    { l with
      x := Scalar.ofInt Defaults.videoOrigin
      y := Scalar.ofInt Defaults.videoOrigin
      content := .video .initial }
  | .text caption =>
    { l with
      x := Scalar.ofInt Defaults.textOrigin
      y := Scalar.ofInt Defaults.textOrigin
      content := .text { caption with
        font := { caption.font with size := Defaults.fontSize, bold := false, italic := false } } }

/-- Gives a layer the geometry of a new one. -/
def reset (d : Document α) (id : String) : Document α :=
  match d.layer? id with
  | none => d
  | some l => d.replace (resetLayer l)

/-- Moves a layer one up in the pile. -/
def raise {α : Type} (d : Document α) (id : String) : Document α :=
  { d with layers := Stacking.raise d.layers id }

/-- Moves a layer one down in the pile. -/
def lower {α : Type} (d : Document α) (id : String) : Document α :=
  { d with layers := Stacking.lower d.layers id }

/-- Selects a layer, or none; an unknown id selects none. -/
def select {α : Type} (d : Document α) (id : Option String) : Document α :=
  { d with selectedId := (Layer.find? d.layers id).bind fun _ => id }

end Compositor.Document
