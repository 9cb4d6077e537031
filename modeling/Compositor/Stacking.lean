import Compositor.Layer.Box

/-!
# The pile of layers

The z-index orders the layers: what has the larger one lies above.  Two readings of the pile are
used, from the bottom up for drawing and from the top down for picking and for lists.  Both sort
stably, so layers of one z-index keep the order of the collection in *both* readings; on different
z-indices the two readings are each other's reverse.

Raising a layer exchanges its z-index with the next one above, and lowering with the next one below;
at the top or at the bottom, or for an unknown id, nothing changes.  The order of the collection is
never touched.
-/

namespace Compositor.Stacking

variable {α : Type}

/-- The layers, what lies lowest first. -/
def bottomUp (layers : List (Layer α)) : List (Layer α) :=
  layers.mergeSort fun a b => a.zIndex ≤ b.zIndex

/-- The layers, what lies highest first. -/
def topDown (layers : List (Layer α)) : List (Layer α) :=
  layers.mergeSort fun a b => b.zIndex ≤ a.zIndex

/-- No layer is lost or gained from the bottom up. -/
theorem bottomUp_perm (layers : List (Layer α)) : (bottomUp layers).Perm layers :=
  List.mergeSort_perm ..

/-- No layer is lost or gained from the top down. -/
theorem topDown_perm (layers : List (Layer α)) : (topDown layers).Perm layers :=
  List.mergeSort_perm ..

/-- The larger of two z-indices. -/
def higher (a b : Int) : Int := if a < b then b else a

/-- A z-index above every layer: one more than the largest, and one where there is no layer. -/
def nextZ : List (Layer α) → Int
  | [] => 1
  | l :: rest => rest.foldl (fun z m => higher z m.zIndex) l.zIndex + 1

/-- The first layer whose z-index is least, by the measure `key`. -/
def leastBy (key : Layer α → Int) : List (Layer α) → Option (Layer α)
  | [] => none
  | l :: rest => some (rest.foldl (fun best m => if key m < key best then m else best) l)

/-- The layer next above. -/
def above? (layers : List (Layer α)) (l : Layer α) : Option (Layer α) :=
  leastBy (·.zIndex) (layers.filter fun m => l.zIndex < m.zIndex)

/-- The layer next below. -/
def below? (layers : List (Layer α)) (l : Layer α) : Option (Layer α) :=
  leastBy (fun m => -m.zIndex) (layers.filter fun m => m.zIndex < l.zIndex)

/-- The z-indices of two layers, exchanged; every layer keeps its place in the collection. -/
def exchange (layers : List (Layer α)) (a b : Layer α) : List (Layer α) :=
  layers.map fun l =>
    if l.id == a.id then { l with zIndex := b.zIndex }
    else if l.id == b.id then { l with zIndex := a.zIndex }
    else l

/-- Exchanges a layer with its neighbour, if the layer and the neighbour are there. -/
def exchangeWith (neighbour? : List (Layer α) → Layer α → Option (Layer α))
    (layers : List (Layer α)) (id : String) : List (Layer α) :=
  match Layer.find? layers (some id) with
  | none => layers
  | some l =>
    match neighbour? layers l with
    | none => layers
    | some m => exchange layers l m

/-- Exchanges a layer with the one next above. -/
def raise (layers : List (Layer α)) (id : String) : List (Layer α) :=
  exchangeWith above? layers id

/-- Exchanges a layer with the one next below. -/
def lower (layers : List (Layer α)) (id : String) : List (Layer α) :=
  exchangeWith below? layers id

/-- An exchange keeps the ids and their order. -/
@[simp] theorem map_id_exchange (layers : List (Layer α)) (a b : Layer α) :
    (exchange layers a b).map Layer.id = layers.map Layer.id := by
  unfold exchange
  rw [List.map_map]
  apply List.map_congr_left
  intro l _
  simp only [Function.comp_apply]
  split
  · rfl
  · split <;> rfl

/-- The topmost visible layer whose box contains a point. -/
def layerAt [Scalar α] (measure : Measurer α) (layers : List (Layer α)) (p : Point α) :
    Except Fault (Option (Layer α)) :=
  Layer.firstCovering measure p (topDown layers)

end Compositor.Stacking
