import Compositor.Proofs.Document.Outcome
import Compositor.Scalar.Exact

/-!
# A gesture has no memory of its path

A move writes into the very layer that the next move reads.  That the path leaves no trace is
therefore a matter of what a move reads: of the layer it takes the lock, the ratio and the letters,
which no move writes; of the document the canvas and the grid; and everything else it takes from
what was noted at the press.  So a move that follows another one does what it would have done in its
place (`move_move`), whatever numbers are computed with: no law of arithmetic is used.

A move changes one layer, if any, and `movedLayer?` says which.  No uniqueness of ids is asked for.
Where layers share an id, the first one is read and all of them are overwritten, the first as well.
-/

namespace Compositor.Document

variable {α : Type} [Scalar α]

/-! ## 1. Which layer a move changes, and to what -/

/-- The layer that a move changes: the one that is dragged, or the video that is resized. -/
def movedLayer? {α : Type} (d : Document α) : Option (Layer α) :=
  match d.interaction with
  | .idle => none
  | .dragging id _ => d.layer? id
  | .resizing id _ _ _ => (d.layer? id).filter (·.isVideo)

/-- The layer that a move changes is the one that the gesture names. -/
theorem layerId?_of_movedLayer? {α : Type} {d : Document α} {l : Layer α}
    (h : d.movedLayer? = some l) : d.interaction.layerId? = some l.id ∧ l ∈ d.layers := by
  unfold movedLayer? at h
  cases hg : d.interaction with
  | idle =>
    rw [hg] at h
    exact nomatch h
  | dragging id grab =>
    rw [hg] at h
    obtain ⟨hmem, rfl⟩ := mem_of_layer? h
    exact ⟨rfl, hmem⟩
  | resizing id handle start from_ =>
    rw [hg] at h
    obtain ⟨hmem, rfl⟩ := mem_of_layer? (Option.filter_eq_some_iff.mp h).1
    exact ⟨rfl, hmem⟩

/-- What a move makes of a layer. -/
def movedTo (measure : Measurer α) (d : Document α) (l : Layer α) (p : Point α) :
    Except Fault (Layer α) :=
  match d.interaction with
  | .idle => .ok l
  | .dragging _ grab => d.draggedLayer measure l grab p
  | .resizing _ h start from_ => d.resizedLayer l h start from_ p

/-- Without a layer to change, a move changes nothing. -/
theorem move_of_none {d : Document α} (h : d.movedLayer? = none) (measure : Measurer α)
    (p : Point α) : d.move measure p = .ok d := by
  unfold movedLayer? at h
  unfold Document.move
  cases hg : d.interaction with
  | idle => rfl
  | dragging id grab =>
    rw [hg] at h
    dsimp only at h ⊢
    rw [h]
  | resizing id handle start from_ =>
    rw [hg] at h
    dsimp only at h ⊢
    cases hl : d.layer? id with
    | none => rfl
    | some l =>
      rw [hl, Option.filter_eq_none_iff] at h
      exact if_neg (h l rfl)

/-- A move puts what it makes of its layer in the layer's place. -/
theorem move_of_some {d : Document α} {l : Layer α} (h : d.movedLayer? = some l)
    (measure : Measurer α) (p : Point α) :
    d.move measure p = (d.movedTo measure l p).map d.replace := by
  unfold movedLayer? at h
  unfold Document.move movedTo
  cases hg : d.interaction with
  | idle =>
    rw [hg] at h
    exact nomatch h
  | dragging id grab =>
    rw [hg] at h
    dsimp only at h ⊢
    rw [h]
    rfl
  | resizing id handle start from_ =>
    rw [hg] at h
    dsimp only at h ⊢
    obtain ⟨hl, hvideo⟩ := Option.filter_eq_some_iff.mp h
    rw [hl]
    dsimp only
    rw [if_pos hvideo]
    rfl

/-- A move keeps the id and the kind of its layer. -/
theorem movedTo_keeps {measure : Measurer α} {d : Document α} {l l' : Layer α} {p : Point α}
    (h : d.movedTo measure l p = .ok l') : l'.id = l.id ∧ l'.kind = l.kind := by
  unfold movedTo at h
  split at h
  · cases h
    exact ⟨rfl, rfl⟩
  · exact ⟨(draggedLayer_keeps h).1, (draggedLayer_keeps h).2.1⟩
  · exact ⟨(resizedLayer_keeps h).1, (resizedLayer_keeps h).2.1⟩

/-! ## 2. What a move reads -/

/-- A drag reads the size of a layer, which no drag changes. -/
theorem draggedLayer_draggedLayer {measure : Measurer α} {d : Document α} {l l' : Layer α}
    {grab p : Point α} (h : d.draggedLayer measure l grab p = .ok l') (q : Point α) :
    d.draggedLayer measure l' grab q = d.draggedLayer measure l grab q := by
  obtain ⟨size, -, h⟩ := Fault.of_bind_eq_ok h
  obtain ⟨place, -, h⟩ := Fault.of_bind_eq_ok h
  cases h
  rfl

/-- A resize reads the lock and the ratio of a video, which no resize changes. -/
theorem resizedLayer_resizedLayer {d : Document α} {l l' : Layer α} {handle : Handle}
    {start : Rect α} {from_ p : Point α} (h : d.resizedLayer l handle start from_ p = .ok l')
    (q : Point α) :
    d.resizedLayer l' handle start from_ q = d.resizedLayer l handle start from_ q := by
  unfold Document.resizedLayer at h
  split at h
  · cases h
    rfl
  · rename_i clip hclip
    obtain ⟨r, -, h⟩ := Fault.of_bind_eq_ok h
    cases h
    simp only [Document.resizedLayer, hclip]

/-- **What a move makes of a layer that was moved, it makes of the layer as it was.** -/
theorem movedTo_movedTo {measure : Measurer α} {d : Document α} {l l' : Layer α} {p : Point α}
    (h : d.movedTo measure l p = .ok l') (q : Point α) :
    (d.replace l').movedTo measure l' q = d.movedTo measure l q := by
  unfold movedTo at h
  split at h
  · rename_i hg
    cases h
    rfl
  · rename_i id grab hg
    have hdrag := draggedLayer_draggedLayer h q
    simp only [movedTo, Document.replace, hg]
    exact hdrag
  · rename_i id handle start from_ hg
    have hresize := resizedLayer_resizedLayer h q
    simp only [movedTo, Document.replace, hg]
    exact hresize

/-- A layer that was put in the place of another is found there. -/
theorem layer?_replace {α : Type} {d : Document α} {id : String} {l l' : Layer α}
    (hl : d.layer? id = some l) (hid : l'.id = l.id) : (d.replace l').layer? id = some l' :=
  Layer.find?_replaceIn hl (hid.trans (mem_of_layer? hl).2)

/-- A layer that was moved is the one that is moved next. -/
theorem movedLayer?_replace {α : Type} {d : Document α} {l l' : Layer α}
    (hl : d.movedLayer? = some l) (hid : l'.id = l.id) (hkind : l'.kind = l.kind) :
    (d.replace l').movedLayer? = some l' := by
  unfold movedLayer? at hl ⊢
  have hg' : (d.replace l').interaction = d.interaction := rfl
  rw [hg']
  cases hg : d.interaction with
  | idle =>
    rw [hg] at hl
    exact nomatch hl
  | dragging id grab =>
    rw [hg] at hl
    exact layer?_replace hl hid
  | resizing id handle start from_ =>
    rw [hg] at hl
    obtain ⟨hl, hvideo⟩ := Option.filter_eq_some_iff.mp hl
    have hvideo' : l'.isVideo = true := by rwa [Layer.isVideo, hkind]
    dsimp only
    rw [layer?_replace hl hid, Option.filter_some, if_pos hvideo']

/-! ## 3. One move after another, and many -/

/-- **A move after a move does what it would have done in its place.** -/
theorem move_move {measure : Measurer α} {d d' : Document α} {p : Point α}
    (h : d.move measure p = .ok d') (q : Point α) : d'.move measure q = d.move measure q := by
  cases hl : d.movedLayer? with
  | none =>
    rw [move_of_none hl] at h
    cases h
    rfl
  | some l =>
    rw [move_of_some hl] at h
    obtain ⟨l', hp, rfl⟩ := Fault.of_map_eq_ok h
    obtain ⟨hid, hkind⟩ := movedTo_keeps hp
    rw [move_of_some hl, move_of_some (movedLayer?_replace hl hid hkind), movedTo_movedTo hp]
    cases hq : d.movedTo measure l q with
    | error e => rfl
    | ok l'' =>
      have hid' : l''.id = l'.id := (movedTo_keeps hq).1.trans hid.symm
      have hlayers := Layer.replaceIn_replaceIn d.layers hid'
      simp only [Except.map, Document.replace, hlayers]

/-- The document after the pointer has gone through some points. -/
def moves (measure : Measurer α) (d : Document α) (path : List (Point α)) :
    Except Fault (Document α) :=
  path.foldlM (move measure) d

/-- A move after a path does what it would have done without the path. -/
theorem move_of_moves {measure : Measurer α} {path : List (Point α)} {d d' : Document α}
    (h : d.moves measure path = .ok d') (p : Point α) : d'.move measure p = d.move measure p := by
  induction path generalizing d with
  | nil =>
    cases h
    rfl
  | cons q rest ih =>
    rw [moves, List.foldlM_cons] at h
    obtain ⟨e, he, hrest⟩ := Fault.of_bind_eq_ok h
    rw [ih hrest, move_move he]

/-- The same when some moves on the way fail, and leave the document as it was. -/
theorem move_of_after (measure : Measurer α) (d : Document α) (path : List (Point α))
    (p : Point α) : (d.after measure (path.map .move)).move measure p = d.move measure p := by
  refine after_induction (P := fun e => ∀ q, e.move measure q = d.move measure q)
    (fun _ => rfl) (fun e a ha he q => ?_) p
  obtain ⟨place, -, rfl⟩ := List.mem_map.mp ha
  have hstep : e.step measure (.move place) = (e.move measure place).toOption.getD e := rfl
  rw [hstep]
  cases hmove : e.move measure place with
  | error f => exact he q
  | ok e' => exact (move_move hmove q).trans (he q)

/-- **A gesture depends only on where the pointer is now.**  After a path on which no move fails, a
move gives what it gives without the path, the same document or the same fault.  In a session the
moves on the way may even fail. -/
theorem moves_forget_path (measure : Measurer α) (d : Document α) (path : List (Point α))
    (p : Point α) :
    ((∃ d', d.moves measure path = .ok d') →
      d.moves measure (path ++ [p]) = d.move measure p) ∧
    (d.after measure (path.map .move)).move measure p = d.move measure p := by
  refine ⟨fun ⟨d', hpath⟩ => ?_, move_of_after measure d path p⟩
  have happend : d.moves measure (path ++ [p])
      = (d.moves measure path >>= fun e => e.move measure p) := by simp [moves]
  rw [happend, hpath, ← move_of_moves hpath p]
  rfl

/-- A locked video is resized at its lower right corner, out of the canvas and back, on a grid. -/
theorem moves_forget_path_resize :
    let video : Layer Rat := ⟨"video-1", "Clip", 40, 30, true, 1, .video ⟨100, 50, true, 2⟩⟩
    let d : Document Rat := { (empty : Document Rat) with
      layers := [video]
      interaction := .resizing "video-1" .se ⟨40, 30, 100, 50⟩ ⟨140, 80⟩
      snapToGrid := true }
    let path : List (Point Rat) := [⟨900, 40⟩, ⟨-3, 2000⟩]
    (∃ d', d.moves .advance10 path = .ok d') ∧
      d.moves .advance10 (path ++ [⟨201, 99⟩]) = d.move .advance10 ⟨201, 99⟩ := by
  intro video d path
  have hok : (d.moves .advance10 path).isOk = true := by decide +kernel
  have hpath : ∃ d', d.moves .advance10 path = .ok d' := by
    cases h : d.moves .advance10 path with
    | ok d' => exact ⟨d', rfl⟩
    | error e =>
      rw [h] at hok
      exact absurd hok Bool.false_ne_true
  exact ⟨hpath, (moves_forget_path .advance10 d path ⟨201, 99⟩).1 hpath⟩

end Compositor.Document
