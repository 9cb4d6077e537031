import Compositor.Proofs.Window.Refresh
import Compositor.Window.Deed

/-!
# What the user does, and what becomes of it

A deed sets a widget, a widget tells of at most one change, and what it tells is one action; or a
deed is an action outright.  What else a deed does (a dialog, a stored folder, a written file) comes
before or after that action and is quiet.  So **no deed changes the document twice**
(`Window.single_does`), and by induction every window that a user can bring about shows the selected
layer in its form (`Window.Faithful`).

That the form has the selected layer's id and not just the id of what it found under the selection
needs the references of the document to be right, so these are carried along.
-/

namespace Compositor

open Panel

variable {α : Type}

/-! ## 1. What widgets tell -/

namespace Panel

/-- A text tells nothing when it is put into a line of the canvas form; leaving the line does. -/
theorem CanvasForm.signal?_text (f : CanvasForm) (key text : String) :
    f.signal? key (.text text) = none := by
  unfold signal?
  split <;> first | rfl | contradiction

/-- A text tells nothing when it is put into a line of the layer form; leaving the line does. -/
theorem LayerForm.signal?_text (f : LayerForm) (key text : String) :
    f.signal? key (.text text) = none := by
  unfold signal?
  split <;> first | rfl | contradiction

/-- The button for visibility tells of one change. -/
theorem Row.length_setEye_le (r : Row) (b : Bool) : (r.setEye b).2.length ≤ 1 := by
  unfold setEye
  dsimp only
  split <;> simp

end Panel

namespace Window

open Progress

/-! ## 2. Forms and rows -/

/-- Nothing at all is quiet. -/
theorem quiet_quiet (w : Window α) : Quiet w w.quiet := ⟨rfl, rfl, rfl⟩

variable [Scalar α]

/-- An action, if there is one. -/
theorem single_performSome (w : Window α) (a : Option (Action α)) : Single w (w.performSome a) := by
  cases a with
  | none => exact .quiet w.quiet_quiet
  | some a => exact w.single_perform a

/-- What a widget tells is one action. -/
theorem single_react (w : Window α) (s : Signal) : Single w (w.react s) := by
  cases s with
  | aspectLocked b => exact w.single_performSome _
  | bold b => exact w.single_performSome _
  | italic b => exact w.single_performSome _
  | fontFamily family => exact w.single_performSome _
  | opacity n => exact w.single_perform (.setTemplateOpacity (.real (opacityOf n)))
  | showGrid b => exact w.single_perform (.setShowGrid (.bool b))
  | snapToGrid b => exact w.single_perform (.setSnapToGrid (.bool b))
  | visible id b => exact w.single_perform (.update id { visible := some b })
  | entered key text =>
    unfold react
    dsimp only
    split
    · exact w.single_perform _
    · exact w.single_performSome _

/-- At most one thing that widgets tell. -/
theorem single_reactAll (w : Window α) {signals : List Signal} (h : signals.length ≤ 1) :
    Single w (w.reactAll signals) := by
  match signals, h with
  | [], _ => exact .quiet w.quiet_quiet
  | [s], _ => exact w.quiet_quiet.andThen_single (f := (·.react s)) (w.single_react s)

/-- A value in a widget of the layer form. -/
theorem single_putLayer (w : Window α) (key : String) (s : Setting) :
    Single w (w.putLayer key s) := by
  refine (single_reactAll _ (length_heardOf_le ..)).of_eq rfl ?_
  exact LayerForm.shownId_receive ..

/-- A value in a widget of the canvas form. -/
theorem single_putCanvas (w : Window α) (key : String) (s : Setting) :
    Single w (w.putCanvas key s) :=
  (single_reactAll _ (length_heardOf_le ..)).of_eq rfl rfl

/-- A text in a line of the layer form. -/
theorem quiet_putLayer_text (w : Window α) (key text : String) :
    Quiet w (w.putLayer key (.text text)) := by
  have hnothing : (w.side.layer.put key (.text text)).2 = [] := by
    simp [LayerForm.put, LayerForm.signal?_text]
  unfold putLayer
  dsimp only
  rw [hnothing]
  exact ⟨rfl, rfl, LayerForm.shownId_receive ..⟩

/-- A text in a line of the canvas form. -/
theorem quiet_putCanvas_text (w : Window α) (key text : String) :
    Quiet w (w.putCanvas key (.text text)) := by
  have hnothing : (w.side.canvas.put key (.text text)).2 = [] := by
    simp [CanvasForm.put, CanvasForm.signal?_text]
  unfold putCanvas
  dsimp only
  rw [hnothing]
  exact ⟨rfl, rfl, rfl⟩

/-- A text that is typed into a line: it is put there, and the line is left. -/
theorem single_typeText (w : Window α) (key text : String) : Single w (w.typeText key text) := by
  unfold typeText
  split
  · exact (w.quiet_putCanvas_text _ text).andThen_single
      (single_reactAll _ (length_heardOf_le ..))
  · exact (w.quiet_putLayer_text key text).andThen_single
      (single_reactAll _ (length_heardOf_le ..))

/-- A switch of either form. -/
theorem single_putSwitch (w : Window α) (key : String) (b : Bool) :
    Single w (w.putSwitch key b) := by
  unfold putSwitch
  split
  · exact w.single_putCanvas ..
  · exact w.single_putLayer ..

/-- The colour of the selected text. -/
theorem single_pickColor (w : Window α) (answers : Answers) : Single w (w.pickColor answers) := by
  unfold pickColor
  split
  · exact .quiet w.quiet_quiet
  · refine (quiet_of_effects ..).andThen_single ?_
    split
    · exact single_performSome ..
    · exact .quiet (quiet_quiet _)

/-- A button of a row. -/
theorem single_pressRow (w : Window α) (r : Row) (b : RowButton) : Single w (w.pressRow r b) := by
  cases b with
  | visibility => exact (single_reactAll _ (r.length_setEye_le _)).of_eq rfl rfl
  | forward => exact w.single_perform (.raise r.id)
  | backward => exact w.single_perform (.lower r.id)
  | duplicate => exact w.single_perform (.duplicate r.id)
  | reset => exact w.single_perform (.reset r.id)
  | delete => exact w.single_perform (.remove r.id)

/-- Whatever is done in a row. -/
theorem single_inRow (w : Window α) (id : String) {f : Row → Progress α}
    (hf : ∀ r, Single w (f r)) : Single w (w.inRow id f) := by
  unfold inRow
  split
  · exact hf _
  · exact .quiet w.quiet_quiet

/-! ## 3. Files and the mouse -/

/-- Loading a template. -/
theorem single_useTemplate (desk : Desktop α) (path : String) (w : Window α) :
    Single w (w.useTemplate desk path) := by
  unfold useTemplate
  split
  · exact .quiet (quiet_of_effects ..)
  · exact (single_perform _ _).of_eq rfl rfl

/-- Asking for a template. -/
theorem single_openTemplate (desk : Desktop α) (answers : Answers) (w : Window α) :
    Single w (w.openTemplate desk answers) := by
  unfold openTemplate
  refine Quiet.andThen_single (quiet_tell ..) ?_
  split
  · exact .quiet (quiet_quiet _)
  · exact (quiet_store ..).andThen_single (single_useTemplate ..)

/-- Writing the command. -/
theorem single_generate (w : Window α) : Single w w.generate := by
  unfold generate
  split
  · exact .quiet (quiet_of_effects ..)
  · rename_i s events h
    obtain ⟨text, -, hout⟩ := Fault.of_bind_eq_ok h
    cases hout
    have hnote : Quiet w (w.note w.document.commandNotices) := quiet_of_effects ..
    exact hnote.andThen_single (single_follow rfl rfl)

/-- Writing the command to a file. -/
theorem quiet_writeCommand {α : Type} (answers : Answers) (path : String) (w : Window α) :
    Quiet w (w.writeCommand answers path) := by
  unfold writeCommand
  split <;> exact quiet_of_effects ..

/-- Asking where to save the command. -/
theorem quiet_askToSave {α : Type} (desk : Desktop α) (answers : Answers) (w : Window α) :
    Quiet w (w.askToSave desk answers) := by
  unfold askToSave
  refine Quiet.andThen (quiet_tell ..) ?_
  split
  · exact quiet_quiet _
  · exact (quiet_store ..).andThen (quiet_writeCommand ..)

/-- Saving the command. -/
theorem single_saveCommand (desk : Desktop α) (answers : Answers) (w : Window α) :
    Single w (w.saveCommand desk answers) := by
  have hfirst : Single w (if w.session.command.isEmpty then w.generate else w.quiet) := by
    split
    · exact w.single_generate
    · exact .quiet w.quiet_quiet
  exact hfirst.andThen_quiet (quiet_askToSave ..)

/-- Copying the command. -/
theorem single_copyCommand (answers : Answers) (w : Window α) :
    Single w (w.copyCommand answers) := by
  unfold copyCommand
  split
  · exact (quiet_of_effects ..).andThen_single (single_follow rfl rfl)
  · exact .quiet (quiet_of_effects ..)

/-- Closing the window. -/
theorem single_close (w : Window α) : Single w w.close :=
  .quiet ((quiet_store ..).andThen (quiet_of_effects ..))

/-- The mouse over the canvas. -/
theorem single_followMouse (desk : Desktop α) (e : MouseEvent α) (w : Window α) :
    Single w (w.followMouse desk e) := by
  unfold followMouse
  split
  · exact .quiet (quiet_of_effects ..)
  · refine (w.single_performSome _).andThen_quiet ?_
    split
    · exact quiet_of_effects ..
    · exact quiet_quiet _

/-! ## 4. Deeds -/

/-- Pressing a button. -/
theorem single_press (desk : Desktop α) (answers : Answers) (w : Window α) (b : Button) :
    Single w (w.press desk answers b) := by
  cases b with
  | openTemplate => exact single_openTemplate desk answers w
  | generate => exact w.single_generate
  | copy => exact single_copyCommand answers w
  | download => exact single_saveCommand desk answers w
  | clearTemplate => exact w.single_perform .clearTemplate
  | addVideo => exact w.single_perform .addVideo
  | addText => exact w.single_perform .addText

/-- Choosing from a menu. -/
theorem single_choose (desk : Desktop α) (answers : Answers) (w : Window α) (m : MenuEntry) :
    Single w (w.choose desk answers m) := by
  cases m with
  | openTemplate => exact single_openTemplate desk answers w
  | saveCommand => exact single_saveCommand desk answers w
  | exit => exact w.single_close
  | resetCanvas => exact w.single_perform .resetCanvas
  | addVideo => exact w.single_perform .addVideo
  | addText => exact w.single_perform .addText
  | duplicate => exact w.single_performSome _
  | delete => exact w.single_performSome _

/-- **A deed changes a window once**, or not at all. -/
theorem single_does (desk : Desktop α) (answers : Answers) (w : Window α) (deed : Deed α) :
    Single w (w.does desk answers deed) := by
  cases deed with
  | click b =>
    unfold does
    dsimp only
    split
    · exact single_press desk answers w b
    · exact .quiet (quiet_of_effects ..)
  | choose m => exact single_choose desk answers w m
  | clickRow id b => exact w.single_inRow id fun r => w.single_pressRow r b
  | clickTitle id left =>
    refine w.single_inRow id fun r => ?_
    split
    · exact w.single_perform _
    · exact .quiet w.quiet_quiet
  | type key text stay => exact (single_typeText _ key text).of_eq rfl rfl
  | check key b => exact w.single_putSwitch key b
  | slide n => exact w.single_putCanvas ..
  | chooseFont family => exact w.single_putLayer ..
  | pickColor => exact w.single_pickColor answers
  | timerFires => exact single_follow rfl rfl
  | close => exact w.single_close
  | select id => exact w.single_perform (.select id)
  | mouse e => exact single_followMouse desk e w

/-! ## 5. Windows that a user can bring about -/

/-- The ids of a window's document are right, so are its references, and the form of the layer shows
the selected layer, if the form of the canvas can show the document. -/
structure Faithful (w : Window α) : Prop where
  numbered : w.document.Numbered
  referring : w.document.Referring
  shown : w.document.Showable → w.side.layer.shownId = w.document.selectedId

/-- **One change keeps a window faithful.** -/
theorem Faithful.single {w : Window α} {p : Progress α} (hw : w.Faithful) (h : Single w p) :
    p.window.Faithful := by
  cases h with
  | quiet h =>
    refine ⟨?_, ?_, ?_⟩
    · rw [h.document_eq]
      exact hw.numbered
    · rw [h.document_eq]
      exact hw.referring
    · rw [h.document_eq, h.shownId_eq]
      exact hw.shown
  | changed a d apply_ok told_eq document_eq shown =>
    have houtcome := Document.outcome_apply apply_ok
    have hnumbered := houtcome.numbered hw.numbered
    have hreferring := houtcome.referring hw.numbered.ids_nodup hw.referring
    subst document_eq
    refine ⟨hnumbered, hreferring, fun hshowable => ?_⟩
    rw [shown hshowable, hreferring.map_selected? hnumbered.ids_nodup]

/-- A window that shows its own document is faithful. -/
theorem faithful_present {w : Window α} (hnumbered : w.document.Numbered)
    (hreferring : w.document.Referring) : (w.present w.document).window.Faithful := by
  refine ⟨hnumbered, hreferring, fun hshowable => ?_⟩
  exact (w.side.shownId_present w.focused hshowable).trans
    (hreferring.map_selected? hnumbered.ids_nodup)

/-- Going on from a faithful window by one change. -/
theorem Faithful.andThen {p : Progress α} {f : Window α → Progress α} (hp : p.window.Faithful)
    (h : Single p.window (f p.window)) : (p.andThen f).window.Faithful := by
  rcases andThen_cases p f with heq | ⟨hwindow, -⟩
  · rwa [heq]
  · rw [hwindow]
    exact hp.single h

/-- Actions, one after the other, keep a window faithful. -/
theorem Faithful.performAll {w : Window α} (hw : w.Faithful)
    (choices : List (Document α → Action α)) : (w.performAll choices).window.Faithful := by
  suffices h : ∀ p : Progress α, p.window.Faithful →
      (choices.foldl (fun p choose => p.andThen fun w => w.perform (choose w.document))
        p).window.Faithful
    from h w.quiet hw
  induction choices with
  | nil => exact fun p hp => hp
  | cons choose rest ih => exact fun p hp => ih _ (hp.andThen (single_perform _ _))

/-- The document that is read from a store has no layers, and refers to none. -/
theorem numbered_of_initialDocument? {s : Store α} {d : Document α}
    (h : s.initialDocument? = .ok d) : d.Numbered ∧ d.Referring := by
  obtain ⟨size, -, h⟩ := Fault.of_bind_eq_ok h
  obtain ⟨opacity, -, h⟩ := Fault.of_bind_eq_ok h
  cases h
  have hempty : (Document.empty : Document α).Numbered := Document.numbered_empty
  exact ⟨⟨hempty.counted, hempty.spelled, hempty.distinct⟩,
    ⟨Document.referring_empty.selected, trivial⟩⟩

/-- A window that is opened is faithful. -/
theorem faithful_start {s : Store α} {seeds : Option (List (Seed α))} {w : Window α}
    {effects : List (Effect α)} (h : Window.start s seeds = .ok (w, effects)) : w.Faithful := by
  obtain ⟨d, hd, h⟩ := Fault.of_bind_eq_ok h
  obtain ⟨hnumbered, hreferring⟩ := numbered_of_initialDocument? hd
  have hshown : ((blank s ⟨CopyFlag.standardMs, none⟩ d).present d).window.Faithful :=
    faithful_present hnumbered hreferring
  have hrestored := hshown.andThen (f := restore) (.quiet (quiet_restore _))
  dsimp only at h
  split at h
  · exact nomatch h
  · cases h
    rcases andThen_cases (((blank s ⟨CopyFlag.standardMs, none⟩ d).present d).andThen restore)
      (·.performAll ((seeds.map Seed.plantingAll).getD [])) with heq | ⟨hwindow, -⟩
    · rwa [heq]
    · rw [hwindow]
      exact hrestored.performAll _

/-- What the user does, with what surrounds the window and what is answered meanwhile. -/
structure Doing (α : Type) where
  desk : Desktop α
  answers : Answers
  deed : Deed α

/-- The window after what the user does, one deed after the other. -/
def after (w : Window α) (doings : List (Doing α)) : Window α :=
  doings.foldl (fun w doing => (w.does doing.desk doing.answers doing.deed).window) w

/-- **A window stays faithful whatever the user does.** -/
theorem Faithful.after {w : Window α} (hw : w.Faithful) (doings : List (Doing α)) :
    (w.after doings).Faithful := by
  induction doings generalizing w with
  | nil => exact hw
  | cons doing rest ih => exact ih (hw.single (w.single_does ..))

/-- **Bringing a window up to date never edits the document.**  Whatever the widgets hold and
wherever the user is typing, no widget tells anything while a document is shown, so that nothing is
to be done about it, and the session stays.  So one deed tells of at most one document, which is then
the window's.  And in a window that was opened, whatever was done in it since, the form addresses
exactly the selected layer, as long as the form of the canvas can show the document; in exact
arithmetic it always can. -/
theorem refresh_never_edits :
    (∀ (w : Window α) (d : Document α),
      (w.side.present w.focused d).signals = [] ∧
      (w.present d).window.reactAll (w.side.present w.focused d).signals
        = (w.present d).window.quiet ∧
      (w.heed (.state d)).window.session = w.session) ∧
    (∀ (desk : Desktop α) (answers : Answers) (w : Window α) (deed : Deed α),
      let p := w.does desk answers deed
      (p.told.filterMap Event.document?).length ≤ 1 ∧
      (p.told.filterMap Event.document?).getLastD w.document = p.window.document) ∧
    (∀ (s : Store α) (seeds : Option (List (Seed α))) (w : Window α) (effects : List (Effect α)),
      Window.start s seeds = .ok (w, effects) → ∀ doings : List (Doing α),
      (w.after doings).document.Showable →
      (w.after doings).side.layer.shownId = (w.after doings).document.selectedId) ∧
    (∀ d : Document Rat, d.Showable) := by
  refine ⟨fun w d => ?_, fun desk answers w deed => ?_, fun s seeds w effects hw doings => ?_,
    Document.showable_exact⟩
  · have hsilent := w.side.signals_present w.focused d
    refine ⟨hsilent, ?_, (w.session_heed (.state d)).1⟩
    rw [hsilent]
    rfl
  · have hsingle := single_does desk answers w deed
    exact ⟨hsingle.length_told_le, hsingle.getLastD_told⟩
  · exact ((faithful_start hw).after doings).shown

/-- A deed to which nothing is answered, at a desk without files. -/
def Doing.plain (deed : Deed Rat) : Doing Rat where
  desk := ⟨⟨600, 900⟩, 10, "/home", fun _ => none⟩
  answers := ⟨none, none, none, false⟩
  deed := deed

/-- A video and a text are added, the text is written, and then the template's opacity is moved,
while the user is still typing in the text's line. -/
def titling : List (Doing Rat) := [.plain (.click .addVideo), .plain (.click .addText),
  .plain (.type "text.text" "Title" true), .plain (.slide 40)]

/-- The form shows the text afterwards. -/
theorem refresh_never_edits_titling :
    ∃ w effects, Window.start (Store.empty : Store Rat) none = .ok (w, effects) ∧
      (w.after titling).document.selectedId = some "text-2" ∧
      (w.after titling).document.templateOpacity = 2 / 5 ∧
      (w.after titling).side.layer.shownId = (w.after titling).document.selectedId := by
  refine ⟨_, _, rfl, by decide +kernel, by decide +kernel, ?_⟩
  exact refresh_never_edits.2.2.1 .empty none _ _ rfl titling (Document.showable_exact _)

end Window

end Compositor
