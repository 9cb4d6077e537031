import Compositor.Panel.SidePanel
import Compositor.Proofs.Document.Ids
import Compositor.Proofs.Session.Run

/-!
# Rows that are kept

The list of layers keeps its rows while what it remembers of the document stays the same: which
layer is selected, and the id, the name, the visibility and the height of each.  A row also shows
the kind of its layer, and its place in the list is not remembered but comes from sorting the pile.
So two things carry the proof that no one can see rows being kept.  What is remembered tells the
heights, and a pile is sorted by these alone (`map_topDown`); and it tells the ids, which tell the
kinds as long as an id always stands for one kind (`OneKind`), as it does in every session
(`oneKind_told`).

The invariant is that rows which are there were made for one of the documents that were shown
(`RowList.MadeFrom`), and for that very one the list remembers.
-/

namespace Compositor

variable {α : Type}

/-- In these documents an id stands for one kind of layer. -/
def OneKind (documents : List (Document α)) : Prop :=
  ∀ d ∈ documents, ∀ d' ∈ documents, ∀ l ∈ d.layers, ∀ l' ∈ d'.layers,
    l.id = l'.id → l.kind = l'.kind

namespace Panel

variable [Scalar α]

/-! ## 1. What rows depend on -/

/-- What is remembered of a layer: its id, its name, whether it is visible, and its height. -/
def remembered (l : Layer α) : String × String × Bool × Int :=
  (l.id, l.name, l.visible.isOn, l.zIndex)

/-- What the list of rows depends on in a layer. -/
def listed (l : Layer α) : LayerKind × String × String × Bool × Int := (l.kind, remembered l)

/-- The row for what was taken from a layer. -/
def Row.ofListed (selected : Option String) : LayerKind × String × String × Bool × Int → Row
  | (kind, id, name, visible, _) => ⟨id, kind, name, visible, selected == some id, visible, true⟩

/-- Sorting the pile looks at the heights alone. -/
theorem map_topDown (layers : List (Layer α)) :
    (Stacking.topDown layers).map listed
      = (layers.map listed).mergeSort fun a b => b.2.2.2.2 ≤ a.2.2.2.2 :=
  List.map_mergeSort fun _ _ _ _ => rfl

/-- The rows depend on nothing in the layers but what is listed. -/
theorem freshRows_eq (selected : Option String) (layers : List (Layer α)) :
    freshRows selected layers
      = ((layers.map listed).mergeSort fun a b => b.2.2.2.2 ≤ a.2.2.2.2).map
          (Row.ofListed selected) := by
  rw [← map_topDown, List.map_map]
  rfl

/-- Where an id stands for one kind, what is remembered of layers tells their kinds. -/
theorem map_listed_eq {layers layers' : List (Layer α)}
    (hsame : layers.map remembered = layers'.map remembered)
    (hkind : ∀ l ∈ layers, ∀ l' ∈ layers', l.id = l'.id → l.kind = l'.kind) :
    layers.map listed = layers'.map listed := by
  induction layers generalizing layers' with
  | nil =>
    cases layers' with
    | nil => rfl
    | cons l' rest' => exact nomatch hsame
  | cons l rest ih =>
    cases layers' with
    | nil => exact nomatch hsame
    | cons l' rest' =>
      rw [List.map_cons, List.map_cons, List.cons.injEq] at hsame
      obtain ⟨hhead, htail⟩ := hsame
      have hid : l.id = l'.id := congrArg Prod.fst hhead
      have hrest := ih htail fun m hm m' hm' =>
        hkind m (List.mem_cons_of_mem l hm) m' (List.mem_cons_of_mem l' hm')
      have hlisted : listed l = listed l' := by
        rw [listed, listed, hhead, hkind l List.mem_cons_self l' List.mem_cons_self hid]
      rw [List.map_cons, List.map_cons, hlisted, hrest]

/-- **Documents that are remembered alike have the same rows**, where an id stands for one kind. -/
theorem freshRows_congr {documents : List (Document α)} (hkind : OneKind documents)
    {d d' : Document α} (hd : d ∈ documents) (hd' : d' ∈ documents)
    (hkey : RowKey.of d.selectedId d.layers = RowKey.of d'.selectedId d'.layers) :
    freshRows d.selectedId d.layers = freshRows d'.selectedId d'.layers := by
  have hselected : d.selectedId = d'.selectedId := congrArg RowKey.selected hkey
  have hlayers : d.layers.map listed = d'.layers.map listed :=
    map_listed_eq (congrArg RowKey.layers hkey) (hkind d hd d' hd')
  rw [freshRows_eq, freshRows_eq, hselected, hlayers]

/-! ## 2. What the list remembers -/

/-- The list has shown nothing, or its rows were made for one of the documents, which it
remembers. -/
def RowList.MadeFrom (list : RowList) (documents : List (Document α)) : Prop :=
  list.madeFor = none ∨ ∃ d ∈ documents,
    list.madeFor = some (.of d.selectedId d.layers) ∧ list.rows = freshRows d.selectedId d.layers

namespace RowList

variable {list : RowList} {documents : List (Document α)} {d : Document α}

/-- The list goes on remembering for what its rows were made. -/
theorem MadeFrom.refresh (h : list.MadeFrom documents) (hd : d ∈ documents) :
    (list.refresh d.selectedId d.layers).1.MadeFrom documents := by
  unfold RowList.refresh
  dsimp only
  split
  · exact h
  · refine .inr ⟨d, hd, rfl, ?_⟩
    rw [makeRows_eq]

/-- **The rows after a document was shown are its rows**, also if they were kept. -/
theorem MadeFrom.rows_refresh (h : list.MadeFrom documents) (hkind : OneKind documents)
    (hd : d ∈ documents) :
    (list.refresh d.selectedId d.layers).1.rows = freshRows d.selectedId d.layers := by
  unfold RowList.refresh
  dsimp only
  split
  · rename_i hkept
    rcases h with hnone | ⟨d', hd', hfor, hrows⟩
    · exact nomatch hkept.symm.trans hnone
    · have hkey := Option.some.inj (hfor.symm.trans hkept)
      rw [hrows]
      exact freshRows_congr hkind hd' hd hkey
  · rw [makeRows_eq]

end RowList

/-! ## 3. The panel -/

namespace SidePanel

/-- The panel after documents were shown, one after the other, each while the user was typing in
some line or in none. -/
def shown (p : SidePanel) (deliveries : List ((String → Bool) × Document α)) : SidePanel :=
  deliveries.foldl (fun p delivery => (p.present delivery.1 delivery.2).form) p

/-- The rows are brought up to date unless the form of the canvas cannot show the document. -/
theorem rows_present (p : SidePanel) (focused : String → Bool) (d : Document α) :
    (p.present focused d).form.rows
      = match fault? (canvasFilling focused d) with
        | some _ => p.rows
        | none => (p.rows.refresh d.selectedId d.layers).1 := by
  unfold present
  dsimp only
  rw [CanvasForm.fault_present]
  cases fault? (canvasFilling focused d) <;> rfl

/-- What the form of the canvas cannot show, the panel cannot show. -/
theorem fault_present_of_canvas (p : SidePanel) {focused : String → Bool} {d : Document α}
    {fault : Fault} (h : fault? (canvasFilling focused d) = some fault) :
    (p.present focused d).fault = some fault := by
  unfold present
  dsimp only
  rw [CanvasForm.fault_present, h]

/-- One document that is shown. -/
theorem madeFrom_present {p : SidePanel} {documents : List (Document α)}
    (h : p.rows.MadeFrom documents) (focused : String → Bool) {d : Document α}
    (hd : d ∈ documents) : (p.present focused d).form.rows.MadeFrom documents := by
  rw [rows_present]
  split
  · exact h
  · exact h.refresh hd

/-- All documents that are shown. -/
theorem madeFrom_shown {p : SidePanel} {documents : List (Document α)}
    {deliveries : List ((String → Bool) × Document α)} (h : p.rows.MadeFrom documents)
    (hsub : ∀ delivery ∈ deliveries, delivery.2 ∈ documents) :
    (p.shown deliveries).rows.MadeFrom documents := by
  induction deliveries generalizing p with
  | nil => exact h
  | cons delivery rest ih =>
    have hfirst := madeFrom_present h delivery.1 (hsub delivery List.mem_cons_self)
    exact ih hfirst fun later hlater => hsub later (List.mem_cons_of_mem delivery hlater)

end SidePanel

end Panel

/-! ## 4. Sessions -/

/-- Where ids are spelled with the kind of their layer, an id stands for one kind. -/
theorem oneKind_of_numbered {documents : List (Document α)}
    (h : ∀ d ∈ documents, d.Numbered) : OneKind documents := by
  intro d hd d' hd' l hl l' hl' hid
  obtain ⟨m, -, -, hm⟩ := (h d hd).spelled l.tag (List.mem_map_of_mem hl)
  obtain ⟨n, -, -, hn⟩ := (h d' hd').spelled l'.tag (List.mem_map_of_mem hl')
  have hspelled : l.kind.idFor m = l'.kind.idFor n := hm.symm.trans (hid.trans hn)
  exact (LayerKind.idFor_inj.mp hspelled).1

/-- In a session an id stands for one kind, in the first document and in all that are told. -/
theorem Session.oneKind_told [Scalar α] {measure : Measurer α} {s : Session α}
    (hs : s.document.Numbered) (requests : List (Request α)) :
    OneKind (s.document :: (s.told measure requests).filterMap Event.document?) := by
  have hall : ∀ d ∈ s.documents measure requests, d.Numbered :=
    documents_induction hs fun _ _ _ happly hd => (Document.outcome_apply happly).numbered hd
  refine oneKind_of_numbered fun d hd => ?_
  rcases List.mem_cons.mp hd with rfl | htold
  · exact hs
  · exact hall d (document_mem_of_told htold)

/-! ## 5. What the panel holds -/

namespace Panel

/-- **No one can see that rows are kept.**  Whatever documents a panel has shown, if an id stands
for one kind of layer in them, then after each one the panel holds the rows that a new panel makes
for it: one for each layer, topmost first, each as the layer is.  Only what the form of the canvas
cannot show never comes to the rows, and then a new panel cannot show it either.  The documents that
a panel is given in a session are of that sort. -/
theorem rows_never_stale [Scalar α] :
    (∀ (deliveries : List ((String → Bool) × Document α)) (focused : String → Bool)
      (d : Document α), OneKind (d :: deliveries.map Prod.snd) →
      let held := (SidePanel.fresh.shown deliveries).present focused d
      let anew := SidePanel.fresh.present focused d
      match fault? (canvasFilling focused d) with
      | none => held.form.rows.rows = anew.form.rows.rows ∧
          anew.form.rows.rows = (Stacking.topDown d.layers).map (Row.ofLayer d.selectedId)
      | some fault => held.fault = some fault ∧ anew.fault = some fault) ∧
    (∀ (measure : Measurer α) (s : Session α) (requests : List (Request α)), s.document.Numbered →
      OneKind (s.document :: (s.told measure requests).filterMap Event.document?)) := by
  refine ⟨?_, fun measure s requests hs => s.oneKind_told hs requests⟩
  intro deliveries focused d hkind held anew
  have hfresh : SidePanel.fresh.rows.MadeFrom (d :: deliveries.map Prod.snd) := .inl rfl
  have hshown : (SidePanel.fresh.shown deliveries).rows.MadeFrom (d :: deliveries.map Prod.snd) :=
    SidePanel.madeFrom_shown hfresh fun delivery h =>
      List.mem_cons_of_mem d (List.mem_map_of_mem h)
  split
  · rename_i hcanvas
    have hheld : held.form.rows.rows = freshRows d.selectedId d.layers := by
      rw [SidePanel.rows_present, hcanvas]
      exact hshown.rows_refresh hkind List.mem_cons_self
    have hanew : anew.form.rows.rows = freshRows d.selectedId d.layers := by
      rw [SidePanel.rows_present, hcanvas]
      exact hfresh.rows_refresh hkind List.mem_cons_self
    exact ⟨hheld.trans hanew.symm, hanew⟩
  · rename_i fault hcanvas
    exact ⟨SidePanel.fault_present_of_canvas _ hcanvas,
      SidePanel.fault_present_of_canvas _ hcanvas⟩

/-- A video is selected, and above it lies a text. -/
def titledVideo : Document Rat :=
  Document.empty.after .advance10 [.addVideo, .addText, .select (some "video-1")]

/-- The video is grabbed at its lower right corner. -/
def grabbedVideo : Document Rat := titledVideo.after .advance10 [.press ⟨360, 360⟩]

/-- The corner is pulled. -/
def pulledVideo : Document Rat := grabbedVideo.after .advance10 [.move ⟨220, 220⟩]

/-- While the corner of a video is pulled the rows are kept that were made when it was selected. -/
theorem rows_never_stale_pull :
    let shown := SidePanel.fresh.shown
      [(fun _ => false, titledVideo), (fun _ => false, grabbedVideo)]
    let held := shown.present (fun _ => false) pulledVideo
    OneKind [pulledVideo, titledVideo, grabbedVideo] ∧
    (pulledVideo.layers.filterMap Layer.clip?).map Clip.width = [200] ∧
    held.form.rows.generation = 1 ∧
    held.form.rows.rows =
      (SidePanel.fresh.present (fun _ => false) pulledVideo).form.rows.rows := by
  have htitled : titledVideo.Numbered := Document.numbered_after _ _ Document.numbered_empty
  have hgrabbed : grabbedVideo.Numbered := Document.numbered_after _ _ htitled
  have hpulled : pulledVideo.Numbered := Document.numbered_after _ _ hgrabbed
  have hkind : OneKind [pulledVideo, titledVideo, grabbedVideo] :=
    oneKind_of_numbered (by simp [htitled, hgrabbed, hpulled])
  have hcanvas : fault? (canvasFilling (fun _ => false) pulledVideo) = none := by decide +kernel
  have hrows := rows_never_stale.1
    [(fun _ => false, titledVideo), (fun _ => false, grabbedVideo)] (fun _ => false) pulledVideo
    hkind
  rw [hcanvas] at hrows
  exact ⟨hkind, by decide +kernel, by decide +kernel, hrows.1⟩

end Panel

end Compositor
