import Compositor.Session

/-!
# Runs of a session

Whoever uses a session asks it for one thing after the other: to carry an action out, to write the
command, to begin or end the acknowledgement of a copy (`Request`).  A request that fails leaves the
session as it was and tells nothing, so a run is a list of requests, whatever becomes of each of
them (`serveAll`).

Lists of actions on a document, for which `Document.after` stands, are not enough for what is said
of sessions.  A session keeps its document when an action gives one that is the same by value, and
only a document that is not the same is told to those who follow.  `served` says what a request can
do to the document and to its followers; an invariant of documents that actions keep is then one of
runs (`after_induction`).
-/

namespace Compositor

variable {α : Type}

/-- What can be asked of a session. -/
inductive Request (α : Type) where
  | act (a : Action α)
  | generate
  | markCopied
  | timerFires
  | readCopied
  | advance (seconds : α)

/-- The document of which an event tells, if it tells of one. -/
def Event.document? : Event α → Option (Document α)
  | .state d => some d
  | _ => none

/-- Only the first event of a new document tells of a document. -/
theorem Session.document?_eventsOf (before after : Document α) :
    (Session.eventsOf before after).filterMap Event.document? = [after] := by
  unfold Session.eventsOf
  split <;> rfl

namespace Session

variable [Scalar α]

/-- The session after a request, and what it told. -/
def answer (measure : Measurer α) (s : Session α) :
    Request α → Except Fault (Session α × List (Event α))
  | .act a => s.perform measure a
  | .generate => s.generate
  | .markCopied => .ok s.markCopied
  | .timerFires => .ok s.timerFires
  | .readCopied => .ok (s.readCopied.2, [])
  | .advance seconds => .ok (s.advance seconds, [])

/-- The session after a request, and what it told; a request that fails does and tells nothing. -/
def serve (measure : Measurer α) (s : Session α) (r : Request α) : Session α × List (Event α) :=
  (s.answer measure r).toOption.getD (s, [])

/-- The session after a run, and what it told. -/
def serveAll (measure : Measurer α) (s : Session α) :
    List (Request α) → Session α × List (Event α)
  | [] => (s, [])
  | r :: rest =>
    let (s, events) := s.serve measure r
    let (s, later) := serveAll measure s rest
    (s, events ++ later)

/-- The session after a run. -/
def after (measure : Measurer α) (s : Session α) (requests : List (Request α)) : Session α :=
  (s.serveAll measure requests).1

/-- The documents through which a run leads, from the first to the last. -/
def documents (measure : Measurer α) (s : Session α) : List (Request α) → List (Document α)
  | [] => [s.document]
  | r :: rest => s.document :: documents measure (s.serve measure r).1 rest

/-- What a run told. -/
def told (measure : Measurer α) (s : Session α) (requests : List (Request α)) : List (Event α) :=
  (s.serveAll measure requests).2

@[simp] theorem after_nil (measure : Measurer α) (s : Session α) : s.after measure [] = s := rfl

@[simp] theorem after_cons (measure : Measurer α) (s : Session α) (r : Request α)
    (rest : List (Request α)) :
    s.after measure (r :: rest) = (s.serve measure r).1.after measure rest := rfl

@[simp] theorem told_nil (measure : Measurer α) (s : Session α) : s.told measure [] = [] := rfl

@[simp] theorem told_cons (measure : Measurer α) (s : Session α) (r : Request α)
    (rest : List (Request α)) :
    s.told measure (r :: rest)
      = (s.serve measure r).2 ++ (s.serve measure r).1.told measure rest := rfl

/-! ## 1. One request -/

/-- What a request can do to the document and to those who follow it. -/
inductive Served (measure : Measurer α) (s : Session α) (r : Request α) :
    Session α × List (Event α) → Prop
  /-- The document stays, and no one is told of a document. -/
  | quiet (s' : Session α) (events : List (Event α)) (document_eq : s'.document = s.document)
      (untold : events.filterMap Event.document? = []) : Served measure s r (s', events)
  /-- An action gives another document, and that one is told. -/
  | changed (a : Action α) (request_eq : r = .act a) (d : Document α)
      (apply_ok : a.apply measure s.document = .ok d) :
      Served measure s r ({ s with document := d }, eventsOf s.document d)

/-- An action that is carried out gives a document, which the session keeps out or takes over. -/
theorem perform_cases {measure : Measurer α} {s : Session α} {a : Action α}
    {out : Session α × List (Event α)} (h : s.perform measure a = .ok out) :
    ∃ d, a.apply measure s.document = .ok d ∧
      ((s.keeps a d = true ∧ out = (s, [])) ∨
        (s.keeps a d = false ∧ out = ({ s with document := d }, eventsOf s.document d))) := by
  unfold perform at h
  split at h
  · exact nomatch h
  · obtain ⟨d, hd, hout⟩ := Fault.of_bind_eq_ok h
    cases hout
    refine ⟨d, hd, ?_⟩
    cases hkeeps : s.keeps a d with
    | true => exact .inl ⟨rfl, if_pos rfl⟩
    | false => exact .inr ⟨rfl, if_neg Bool.false_ne_true⟩

/-- An action that is carried out changes the document or not. -/
theorem served_of_perform {measure : Measurer α} {s : Session α} {a : Action α}
    {out : Session α × List (Event α)} (h : s.perform measure a = .ok out) :
    Served measure s (.act a) out := by
  obtain ⟨d, hd, ⟨-, rfl⟩ | ⟨-, rfl⟩⟩ := perform_cases h
  · exact .quiet s [] rfl rfl
  · exact .changed a rfl d hd

/-- **Every request is quiet, or changes the document to what an action gives**, also a request that
fails. -/
theorem served (measure : Measurer α) (s : Session α) (r : Request α) :
    Served measure s r (s.serve measure r) := by
  unfold serve
  cases h : s.answer measure r with
  | error e => exact .quiet s [] rfl rfl
  | ok out =>
    cases r with
    | act a => exact served_of_perform h
    | generate =>
      obtain ⟨text, -, hout⟩ := Fault.of_bind_eq_ok h
      cases hout
      exact .quiet _ _ rfl rfl
    | markCopied => cases h; exact .quiet _ _ rfl rfl
    | timerFires => cases h; exact .quiet _ _ rfl rfl
    | readCopied => cases h; exact .quiet _ _ rfl rfl
    | advance seconds => cases h; exact .quiet _ _ rfl rfl

/-- The document after a request is the one before, or what an action gives. -/
theorem document_serve (measure : Measurer α) (s : Session α) (r : Request α) :
    (s.serve measure r).1.document = s.document ∨
      ∃ a, r = .act a ∧ a.apply measure s.document = .ok (s.serve measure r).1.document := by
  have hserved := served measure s r
  generalize s.serve measure r = out at hserved
  cases hserved with
  | quiet s' events document_eq untold => exact .inl document_eq
  | changed a request_eq d apply_ok => exact .inr ⟨a, request_eq, apply_ok⟩

/-- After a request the document is the last one that it told, or the one before. -/
theorem getLastD_serve (measure : Measurer α) (s : Session α) (r : Request α) :
    ((s.serve measure r).2.filterMap Event.document?).getLastD s.document
      = (s.serve measure r).1.document := by
  have hserved := served measure s r
  generalize s.serve measure r = out at hserved
  cases hserved with
  | quiet s' events document_eq untold => rw [untold, document_eq]; rfl
  | changed a request_eq d apply_ok => rw [document?_eventsOf]; rfl

/-! ## 2. Runs -/

/-- A run leads through the document with which it starts. -/
theorem document_mem_documents (measure : Measurer α) (s : Session α)
    (requests : List (Request α)) : s.document ∈ s.documents measure requests := by
  cases requests <;> exact List.mem_cons_self

/-- **What the first document has, and every action of a run keeps, the last document has.**  Of an
action it may be used that the run leads through the documents before and after it. -/
theorem after_induction {measure : Measurer α} {P : Document α → Prop}
    {requests : List (Request α)} {s : Session α} (start : P s.document)
    (step : ∀ d ∈ s.documents measure requests, ∀ d' ∈ s.documents measure requests, ∀ a,
      .act a ∈ requests → a.apply measure d = .ok d' → P d → P d') :
    P (s.after measure requests).document := by
  induction requests generalizing s with
  | nil => exact start
  | cons r rest ih =>
    have hmem := document_mem_documents measure (s.serve measure r).1 rest
    have hrest : ∀ d ∈ (s.serve measure r).1.documents measure rest,
        ∀ d' ∈ (s.serve measure r).1.documents measure rest, ∀ a,
        .act a ∈ rest → a.apply measure d = .ok d' → P d → P d' := fun d hd d' hd' a ha =>
      step d (List.mem_cons_of_mem _ hd) d' (List.mem_cons_of_mem _ hd') a
        (List.mem_cons_of_mem r ha)
    rw [after_cons]
    refine ih ?_ hrest
    rcases document_serve measure s r with hsame | ⟨a, rfl, happly⟩
    · rwa [hsame]
    · exact step s.document List.mem_cons_self _ (List.mem_cons_of_mem _ hmem) a
        List.mem_cons_self happly start

/-- **What the first document has, and every action keeps, all documents of a run have.** -/
theorem documents_induction {measure : Measurer α} {P : Document α → Prop}
    {requests : List (Request α)} {s : Session α} (start : P s.document)
    (step : ∀ d d' (a : Action α), a.apply measure d = .ok d' → P d → P d') :
    ∀ d ∈ s.documents measure requests, P d := by
  induction requests generalizing s with
  | nil =>
    intro d hd
    rwa [List.mem_singleton.mp hd]
  | cons r rest ih =>
    intro d hd
    rcases List.mem_cons.mp hd with rfl | hd
    · exact start
    · refine ih ?_ d hd
      rcases document_serve measure s r with hsame | ⟨a, -, happly⟩
      · rwa [hsame]
      · exact step s.document _ a happly start

/-- A run tells of documents through which it leads. -/
theorem document_mem_of_told {measure : Measurer α} {requests : List (Request α)} {s : Session α}
    {d : Document α} (hd : d ∈ (s.told measure requests).filterMap Event.document?) :
    d ∈ s.documents measure requests := by
  induction requests generalizing s with
  | nil => exact nomatch hd
  | cons r rest ih =>
    rw [told_cons, List.filterMap_append, List.mem_append] at hd
    refine List.mem_cons_of_mem _ ?_
    rcases hd with hnow | hlater
    · have hfirst := document_mem_documents measure (s.serve measure r).1 rest
      have hserved := served measure s r
      generalize s.serve measure r = out at hserved hnow hfirst
      cases hserved with
      | quiet s' events document_eq untold =>
        rw [untold] at hnow
        exact nomatch hnow
      | changed a request_eq d' apply_ok =>
        rw [document?_eventsOf] at hnow
        rwa [List.mem_singleton.mp hnow]
    · exact ih hlater

/-- **Who follows one kind of events has what these tell of the document**, if every request tells
it whenever it changes. -/
theorem getLastD_filterMap_told {β : Type} {measure : Measurer α} {told? : Event α → Option β}
    (view : Document α → β)
    (step : ∀ (s : Session α) (r : Request α),
      ((s.serve measure r).2.filterMap told?).getLastD (view s.document)
        = view (s.serve measure r).1.document)
    (s : Session α) (requests : List (Request α)) :
    ((s.told measure requests).filterMap told?).getLastD (view s.document)
      = view (s.after measure requests).document := by
  induction requests generalizing s with
  | nil => rfl
  | cons r rest ih =>
    rw [told_cons, List.filterMap_append, List.getLastD_eq_getLast?, List.getLast?_append,
      Option.getD_or, ← List.getLastD_eq_getLast?, ← List.getLastD_eq_getLast?, step, ih,
      after_cons]

/-- **Who follows the documents that a session tells has its document**, if there was one. -/
theorem getLastD_told (measure : Measurer α) (s : Session α) (requests : List (Request α)) :
    ((s.told measure requests).filterMap Event.document?).getLastD s.document
      = (s.after measure requests).document :=
  getLastD_filterMap_told id (getLastD_serve measure) s requests

end Session

end Compositor
