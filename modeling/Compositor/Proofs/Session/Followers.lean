import Compositor.Proofs.Document.Same
import Compositor.Proofs.Session.Run
import Compositor.Scalar.Binary
import Mathlib

/-!
# Who follows a session is up to date

Those who show a session never ask it for its document; they follow what it tells.  That they have
the right document after any run needs two things of each request: it tells of the document when
the document is another one in value, and of nothing when it is not (`told_of_answer`).

The first half is the easy one.  For the second, a request that tells nothing must leave a document
that does not differ from the one before, and this is the same document: so the comparison has to
find a document the same as itself, and must not see in it the undefined numbers of an action that
gave none.  Both are in `Compositor.Proofs.Document.Same`.
-/

namespace Compositor

variable {α : Type}

/-! ## 1. What one request tells -/

namespace Event

/-- The selection of which an event tells, if it tells of one. -/
def selection? : Event α → Option (Option String)
  | .selection id => some id
  | _ => none

/-- Whether an event is about the document, and not about the command or a copy. -/
def isOfDocument : Event α → Bool
  | .state _ | .selection _ => true
  | .command _ | .copied _ => false

/-- An event that is not about the document tells of no selection. -/
theorem selection?_eq_none {e : Event α} (h : e.isOfDocument = false) : e.selection? = none := by
  cases e with
  | selection id => exact absurd h Bool.noConfusion
  | _ => rfl

end Event

variable [Scalar α]

namespace Request

/-- Whether a request gives a layer an undefined number, when `after` is the document after it. -/
def givesUndefined (after : Document α) : Request α → Bool
  | .act a => a.givesUndefined after
  | _ => false

/-- Whether the document after a request differs in value from the one before it.  An undefined
number that a layer was given differs from every number, so from the one that was there. -/
def alters (r : Request α) (before after : Document α) : Bool :=
  !after.same before || r.givesUndefined after

end Request

namespace Session

variable {measure : Measurer α} {s : Session α}

omit [Scalar α] in
/-- What tells of a new document is about the document. -/
theorem filter_isOfDocument_eventsOf (before after : Document α) :
    (eventsOf before after).filter Event.isOfDocument = eventsOf before after := by
  unfold eventsOf
  split <;> rfl

/-- A request that leaves the document, and is no action, does not alter it. -/
theorem alters_eq_false {r : Request α} {d : Document α}
    (h : r.givesUndefined d = false) : r.alters d d = false := by
  rw [Request.alters, Document.same_self, h]
  rfl

/-- **A request that succeeds tells of the document exactly when it alters it**, and else leaves the
document that there was. -/
theorem told_of_answer [PartialEquivBEq α] {r : Request α} {s' : Session α}
    {events : List (Event α)} (h : s.answer measure r = .ok (s', events)) :
    (r.alters s.document s'.document = true ∧ events = eventsOf s.document s'.document) ∨
    (r.alters s.document s'.document = false ∧ s'.document = s.document ∧
      ∀ e ∈ events, e.isOfDocument = false) := by
  cases r with
  | act a =>
    obtain ⟨d, -, ⟨hkeeps, hout⟩ | ⟨hkeeps, hout⟩⟩ := perform_cases h
    · cases hout
      obtain ⟨hsame, hdefined⟩ := Bool.and_eq_true_iff.mp hkeeps
      rw [Bool.not_eq_true'] at hdefined
      refine .inr ⟨alters_eq_false ?_, rfl, List.forall_mem_nil _⟩
      -- The document that the action gave is gone; the one kept in its place is the same in value.
      exact (a.givesUndefined_eq_of_same hsame).symm.trans hdefined
    · cases hout
      refine .inl ⟨?_, rfl⟩
      rw [keeps, Bool.and_eq_false_iff, Bool.not_eq_false'] at hkeeps
      rw [Request.alters, Bool.or_eq_true, Bool.not_eq_true']
      exact hkeeps
  | generate =>
    obtain ⟨text, -, hout⟩ := Fault.of_bind_eq_ok h
    cases hout
    exact .inr ⟨alters_eq_false rfl, rfl, List.forall_mem_singleton.mpr rfl⟩
  | markCopied =>
    cases h
    exact .inr ⟨alters_eq_false rfl, rfl, List.forall_mem_singleton.mpr rfl⟩
  | timerFires =>
    cases h
    exact .inr ⟨alters_eq_false rfl, rfl, List.forall_mem_singleton.mpr rfl⟩
  | readCopied =>
    cases h
    exact .inr ⟨alters_eq_false rfl, rfl, List.forall_mem_nil _⟩
  | advance seconds =>
    cases h
    exact .inr ⟨alters_eq_false rfl, rfl, List.forall_mem_nil _⟩

/-! ## 2. What followers have -/

omit [Scalar α] in
/-- What tells of a new document tells of its selection, if that is another one. -/
theorem getLastD_selection_eventsOf (before after : Document α) :
    ((eventsOf before after).filterMap Event.selection?).getLastD before.selectedId
      = after.selectedId := by
  unfold eventsOf
  split
  · rename_i hsame
    exact (beq_iff_eq.mp hsame).symm
  · rfl

/-- After a request the selection is the last one that it told, or the one before. -/
theorem getLastD_selection_serve [PartialEquivBEq α] (measure : Measurer α) (s : Session α)
    (r : Request α) :
    ((s.serve measure r).2.filterMap Event.selection?).getLastD s.document.selectedId
      = (s.serve measure r).1.document.selectedId := by
  unfold serve
  cases h : s.answer measure r with
  | error fault => rfl
  | ok out =>
    obtain ⟨s', events⟩ := out
    obtain ⟨-, rfl⟩ | ⟨-, hdocument, huntold⟩ := told_of_answer h
    · exact getLastD_selection_eventsOf s.document s'.document
    · have hnone : events.filterMap Event.selection? = [] :=
        List.filterMap_eq_nil_iff.mpr fun e he => Event.selection?_eq_none (huntold e he)
      change (events.filterMap Event.selection?).getLastD _ = s'.document.selectedId
      rw [hnone, hdocument]
      rfl

/-- **Who follows a session is up to date.**  A request that fails changes and tells nothing.  One
that succeeds tells of the document if it alters it, and then of the selection if that is another
one; if it does not alter the document, it tells of neither.  So who starts with the selection, or
with the document, and follows what is told of it has the session's after every run. -/
theorem followers_up_to_date [PartialEquivBEq α] (measure : Measurer α) (s : Session α) :
    (∀ r fault, s.answer measure r = .error fault → s.serve measure r = (s, [])) ∧
    (∀ r s' events, s.answer measure r = .ok (s', events) →
      s.serve measure r = (s', events) ∧
      events.filter Event.isOfDocument =
        if r.alters s.document s'.document then
          .state s'.document ::
            if s'.document.selectedId = s.document.selectedId then []
            else [.selection s'.document.selectedId]
        else []) ∧
    ∀ requests,
      ((s.told measure requests).filterMap Event.selection?).getLastD s.document.selectedId
        = (s.after measure requests).document.selectedId ∧
      ((s.told measure requests).filterMap Event.document?).getLastD s.document
        = (s.after measure requests).document := by
  refine ⟨fun r fault h => ?_, fun r s' events h => ?_, fun requests => ⟨?_, ?_⟩⟩
  · rw [serve, h]
    rfl
  · refine ⟨by rw [serve, h]; rfl, ?_⟩
    obtain ⟨halters, rfl⟩ | ⟨halters, -, huntold⟩ := told_of_answer h
    · rw [if_pos halters, filter_isOfDocument_eventsOf, eventsOf]
      simp only [beq_iff_eq]
    · rw [if_neg (Bool.eq_false_iff.mp halters), List.filter_eq_nil_iff]
      exact fun e he => Bool.eq_false_iff.mp (huntold e he)
  · exact getLastD_filterMap_told Document.selectedId (getLastD_selection_serve measure) s requests
  · exact getLastD_told measure s requests

/-- A video that has an undefined coordinate is given one again: the document is told, although it
is the same in every field.  The change that is refused after it does nothing. -/
theorem followers_up_to_date_undefined :
    let start : Session Float := .start .empty ⟨CopyFlag.standardMs, none⟩
    let nowhere : Request Float := .act (.update "video-1" { x := some (0.0 / 0.0) })
    let refused : Request Float := .act (.update "video-1" { otherNames := ["self"] })
    let s := start.after .estimated [.act .addVideo, nowhere]
    let t := s.serve .estimated nowhere
    (s.answer .estimated refused = .error .wrongKind ∧ s.serve .estimated refused = (s, [])) ∧
    (s.answer .estimated nowhere = .ok t ∧ t.1.document.same s.document = true ∧
      t.2.filter Event.isOfDocument = [.state t.1.document]) ∧
    ((start.told .estimated [.act .addVideo, nowhere, nowhere]).filterMap
      Event.selection?).getLastD none = some "video-1" := by
  intro start nowhere refused s t
  obtain ⟨hfails, hsucceeds, -⟩ := followers_up_to_date .estimated s
  obtain ⟨-, -, hfollow⟩ := followers_up_to_date .estimated start
  have hrefused : s.answer .estimated refused = .error .wrongKind := rfl
  have hanswer : s.answer .estimated nowhere = .ok t := by
    have hok : (s.answer .estimated nowhere).isOk = true := by decide +kernel
    cases h : s.answer .estimated nowhere with
    | error fault =>
      rw [h] at hok
      exact absurd hok Bool.false_ne_true
    | ok out => simp only [t, serve, h, Except.toOption, Option.getD_some]
  have halters : nowhere.alters s.document t.1.document = true := by decide +kernel
  have hselected : t.1.document.selectedId = s.document.selectedId := by decide +kernel
  obtain ⟨-, htold⟩ := hsucceeds nowhere t.1 t.2 hanswer
  rw [if_pos halters, if_pos hselected] at htold
  refine ⟨⟨hrefused, hfails refused _ hrefused⟩, ⟨hanswer, by decide +kernel, htold⟩, ?_⟩
  refine (hfollow [.act .addVideo, nowhere, nowhere]).1.trans ?_
  decide +kernel

end Session

end Compositor
