import Compositor.Proofs.Document.References
import Compositor.Proofs.Session.Run
import Compositor.Window

/-!
# A window follows its session

Showing a document sets widgets, and widgets are what the user changes a document with.  So it has
to be seen that showing one document does not change it into another.  No widget tells anything
while a document is shown (`SidePanel.signals_present`), so following a session leaves the session
alone, and a window is brought up to date once for each action that changes the document.

`Progress.Single` says this of whatever goes on in a window.  Either it is quiet: nothing is told of
a document, and the document and the layer that the form shows stay.  Or one action has changed the
document, that one was told, and the form shows its selected layer.  The form of the layer comes
last in the side panel, so it is behind if the form of the canvas cannot show the document
(`Document.Showable`); nothing else holds it back, not even a layer that cannot be shown.
-/

namespace Compositor

open Panel

variable {α : Type}

/-! ## 1. The side panel -/

section

variable [Scalar α]

/-- The form of the canvas can show the document. -/
def Document.Showable (d : Document α) : Prop :=
  fault? (canvasFilling (fun _ => false) d) = none

/-- What can be shown can be shown while the user is typing in a line. -/
theorem Document.Showable.canvas {d : Document α} (h : d.Showable) (focused : String → Bool) :
    fault? (canvasFilling focused d) = none := by
  unfold Showable fault? at h
  unfold fault?
  rw [List.findSome?_eq_none_iff] at h ⊢
  intro entry hentry
  refine h entry ?_
  unfold canvasFilling at hentry ⊢
  rcases List.mem_append.mp hentry with hall | hgrid
  · exact List.mem_append_left _ hall
  · split at hgrid
    · exact nomatch hgrid
    · exact List.mem_append_right _ hgrid

/-- In exact arithmetic every document can be shown. -/
theorem Document.showable_exact (d : Document Rat) : d.Showable := by
  unfold Showable canvasFilling fault?
  rfl

/-- The form of the layer is brought up to date last. -/
theorem Panel.SidePanel.shownId_present (p : SidePanel) (focused : String → Bool) {d : Document α}
    (h : d.Showable) :
    (p.present focused d).form.layer.shownId = d.selected?.map Layer.id := by
  unfold SidePanel.present
  dsimp only
  rw [CanvasForm.fault_present, h.canvas focused]
  exact LayerForm.shownId_present ..

end

/-! ## 2. What goes on in a window -/

namespace Progress

/-- Nothing is told of a document, and the document and the layer that the form shows stay. -/
structure Quiet (w : Window α) (p : Progress α) : Prop where
  untold : p.told.filterMap Event.document? = []
  document_eq : p.window.document = w.document
  shownId_eq : p.window.side.layer.shownId = w.side.layer.shownId

variable {w v : Window α} {p : Progress α} {f : Window α → Progress α}

/-- A progress that goes on after a fault is the fault's, and else both. -/
theorem andThen_cases (p : Progress α) (f : Window α → Progress α) :
    p.andThen f = p ∨ (p.andThen f).window = (f p.window).window ∧
      (p.andThen f).told = p.told ++ (f p.window).told := by
  unfold andThen
  split
  · exact .inl rfl
  · exact .inr ⟨rfl, rfl⟩

/-- Quiet after quiet is quiet. -/
theorem Quiet.andThen (h : Quiet w p) (hnext : Quiet p.window (f p.window)) :
    Quiet w (p.andThen f) := by
  rcases andThen_cases p f with heq | ⟨hwindow, htold⟩
  · rwa [heq]
  · refine ⟨?_, ?_, ?_⟩
    · rw [htold, List.filterMap_append, h.untold, hnext.untold, List.nil_append]
    · rw [hwindow, hnext.document_eq, h.document_eq]
    · rw [hwindow, hnext.shownId_eq, h.shownId_eq]

variable [Scalar α]

/-- It is quiet, or one action has changed the document, and that one was told and is shown. -/
inductive Single (w : Window α) (p : Progress α) : Prop
  | quiet (h : Quiet w p)
  | changed (a : Action α) (d : Document α) (apply_ok : a.apply .fontMetrics w.document = .ok d)
      (told_eq : p.told.filterMap Event.document? = [d]) (document_eq : p.window.document = d)
      (shown : d.Showable → p.window.side.layer.shownId = d.selected?.map Layer.id)

/-- A change after quiet is one change. -/
theorem Quiet.andThen_single (h : Quiet w p) (hnext : Single p.window (f p.window)) :
    Single w (p.andThen f) := by
  cases hnext with
  | quiet hnext => exact .quiet (h.andThen hnext)
  | changed a d apply_ok told_eq document_eq shown =>
    rcases andThen_cases p f with heq | ⟨hwindow, htold⟩
    · exact .quiet (by rwa [heq])
    · refine .changed a d ?_ ?_ ?_ ?_
      · rw [← h.document_eq, apply_ok]
      · rw [htold, List.filterMap_append, h.untold, told_eq, List.nil_append]
      · rw [hwindow, document_eq]
      · rwa [hwindow]

/-- Quiet after a change is one change. -/
theorem Single.andThen_quiet (h : Single w p) (hnext : Quiet p.window (f p.window)) :
    Single w (p.andThen f) := by
  cases h with
  | quiet h => exact .quiet (h.andThen hnext)
  | changed a d apply_ok told_eq document_eq shown =>
    rcases andThen_cases p f with heq | ⟨hwindow, htold⟩
    · rw [heq]
      exact .changed a d apply_ok told_eq document_eq shown
    · refine .changed a d apply_ok ?_ ?_ ?_
      · rw [htold, List.filterMap_append, told_eq, hnext.untold, List.append_nil]
      · rw [hwindow, hnext.document_eq, document_eq]
      · rwa [hwindow, hnext.shownId_eq]

/-- What is not the document or the layer that the form shows may have been another one before. -/
theorem Single.of_eq (h : Single v p) (hdocument : v.document = w.document)
    (hshown : v.side.layer.shownId = w.side.layer.shownId) : Single w p := by
  cases h with
  | quiet h => exact .quiet ⟨h.untold, h.document_eq.trans hdocument, h.shownId_eq.trans hshown⟩
  | changed a d apply_ok told_eq document_eq shown =>
    exact .changed a d (by rw [← hdocument, apply_ok]) told_eq document_eq shown

/-- At most one document is told. -/
theorem Single.length_told_le (h : Single w p) :
    (p.told.filterMap Event.document?).length ≤ 1 := by
  cases h with
  | quiet h => simp [h.untold]
  | changed a d apply_ok told_eq => simp [told_eq]

/-- The document is the last one that was told, or the one before. -/
theorem Single.getLastD_told (h : Single w p) :
    (p.told.filterMap Event.document?).getLastD w.document = p.window.document := by
  cases h with
  | quiet h => simp [h.untold, h.document_eq]
  | changed a d apply_ok told_eq document_eq => simp [told_eq, document_eq]

end Progress

/-! ## 3. Following events -/

namespace Window

open Progress

/-- What reaches beyond the window is quiet. -/
theorem quiet_of_effects (w : Window α) (effects : List (Effect α)) (fault : Option Fault) :
    Quiet w ⟨w, effects, fault, []⟩ := ⟨rfl, rfl, rfl⟩

/-- Storing a value is quiet. -/
theorem quiet_store (w : Window α) (key : String) (value : Raw α) : Quiet w (w.store key value) :=
  ⟨rfl, rfl, rfl⟩

/-- One thing that reaches beyond the window is quiet. -/
theorem quiet_tell (w : Window α) (e : Effect α) : Quiet w (w.tell e) := ⟨rfl, rfl, rfl⟩

/-- Taking the place and size that were stored is quiet. -/
theorem quiet_restore (w : Window α) : Quiet w w.restore := by
  unfold restore
  split <;> exact ⟨rfl, rfl, rfl⟩

variable [Scalar α]

/-- An event that tells of no document is quiet. -/
theorem quiet_deliver (w : Window α) {e : Event α} (he : e.document? = none) :
    Quiet w (w.deliver e) := by
  cases e with
  | state d => exact nomatch he
  | _ => exact ⟨rfl, rfl, rfl⟩

/-- **Showing a document leaves the session alone**, and so does storing its preferences. -/
theorem session_heed (w : Window α) (e : Event α) :
    (w.heed e).window.session = w.session ∧ (w.heed e).told = [] := by
  cases e with
  | state d =>
    rcases andThen_cases (w.present d) (·.keep d) with heq | ⟨hwindow, htold⟩
    · rw [heed, heq]
      exact ⟨rfl, rfl⟩
    · rw [heed, hwindow, htold]
      exact ⟨rfl, rfl⟩
  | _ => exact ⟨rfl, rfl⟩

/-- A window to which a document is told shows its selected layer. -/
theorem shownId_deliver (w : Window α) {d : Document α} (h : d.Showable) :
    (w.deliver (.state d)).window.side.layer.shownId = d.selected?.map Layer.id := by
  have hpresent := w.side.shownId_present w.focused h
  rcases andThen_cases (w.present d) (·.keep d) with heq | ⟨hwindow, -⟩
  · rw [deliver, heed, heq]
    exact hpresent
  · rw [deliver, heed, hwindow]
    exact hpresent

/-- Following an action's document. -/
theorem single_deliver {w v : Window α} {a : Action α} {d : Document α}
    (apply_ok : a.apply .fontMetrics w.document = .ok d) (hv : v.document = d) :
    Single w (v.deliver (.state d)) := by
  obtain ⟨hsession, htold⟩ := v.session_heed (.state d)
  refine .changed a d apply_ok ?_ ?_ (v.shownId_deliver)
  · rw [deliver, htold]
    rfl
  · rw [deliver, document, hsession]
    exact hv

/-- Events that tell of no document are quiet, all of them. -/
theorem single_foldl_deliver {w : Window α} {p : Progress α} (h : Single w p)
    {events : List (Event α)} (huntold : events.filterMap Event.document? = []) :
    Single w (events.foldl (fun p e => p.andThen (·.deliver e)) p) := by
  induction events generalizing p with
  | nil => exact h
  | cons e rest ih =>
    rw [List.filterMap_eq_nil_iff] at huntold
    have hfirst : Single w (p.andThen (·.deliver e)) :=
      h.andThen_quiet (p.window.quiet_deliver (huntold e List.mem_cons_self))
    exact ih hfirst (List.filterMap_eq_nil_iff.mpr fun e' he' =>
      huntold e' (List.mem_cons_of_mem e he'))

/-- A session that has kept its document is followed quietly. -/
theorem single_follow {w : Window α} {s : Session α} {events : List (Event α)}
    (hdocument : s.document = w.document) (huntold : events.filterMap Event.document? = []) :
    Single w (w.follow s events) := by
  have hsession : Quiet w { w with session := s }.quiet := ⟨rfl, hdocument, rfl⟩
  exact single_foldl_deliver (.quiet hsession) huntold

/-- A session that has another document by an action is followed by one change. -/
theorem single_follow_eventsOf {w : Window α} {s : Session α} {a : Action α} {d : Document α}
    (apply_ok : a.apply .fontMetrics w.document = .ok d) (hs : s.document = d) :
    Single w (w.follow s (Session.eventsOf w.document d)) := by
  unfold follow Session.eventsOf
  rw [List.foldl_cons]
  refine single_foldl_deliver ?_ ?_
  · exact single_deliver (v := { w with session := s }) apply_ok hs
  · split <;> rfl

/-- **An action changes a window once**, or not at all. -/
theorem single_perform (w : Window α) (a : Action α) : Single w (w.perform a) := by
  unfold perform
  split
  · exact .quiet (quiet_of_effects ..)
  · rename_i s events h
    have hnote : Quiet w (w.note (a.notices .fontMetrics w.document)) := quiet_of_effects ..
    refine hnote.andThen_single ?_
    have hserved := Session.served_of_perform h
    cases hserved with
    | quiet _ _ document_eq untold => exact single_follow document_eq untold
    | changed _ request_eq d apply_ok =>
      cases request_eq
      exact single_follow_eventsOf apply_ok rfl

end Window

end Compositor
