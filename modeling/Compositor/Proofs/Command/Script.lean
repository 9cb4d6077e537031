import Compositor.Proofs.Command.Shell
import Mathlib.Data.List.Chain

/-!
# Scripts

A script is one command as it is written: the first word bare, each other one bare or between double
quotes, behind a blank or on a line of its own.  It is read as the words that are meant if each
quoted word means itself (`Quotable`), and only then (`read_script_iff`).

That it is read so is shown by reading it.  The other direction cannot be had word by word: a quote
within a word ends it, a quote within a later word may turn this around again, and what is read in
between as a word need not be one that was quoted.  But the words say how many characters of each
kind the reader has dropped.  No apostrophe is among them, and of the backslashes only as many as
lines go on, each of which costs one in whatever state it is read (`one_le_lost_gap`).  So none is
left to keep a quote, the words have no quotes in them, and each is read between its own two
(`right_of_run_parts`).
-/

namespace Compositor.Shell

/-! ## 1. Words that mean themselves -/

/-- The characters that mean something outside of quotes. -/
def meaningful : List Char := '\\' :: '"' :: '\'' :: ending ++ active ++ activeFirst

/-- A word that needs no quotes. -/
def Plain (w : List Char) : Prop := w ≠ [] ∧ ∀ c ∈ w, c ∉ meaningful

/-- A backslash before a character between double quotes stays one, and the character stays too. -/
def Apart (a b : Char) : Prop := a = '\\' → b ∉ '\n' :: escapable

instance : DecidableRel Apart := fun a b => inferInstanceAs (Decidable (a = '\\' → b ∉ _))

/-- Characters that mean themselves between double quotes. -/
structure Literal (u : List Char) : Prop where
  inert : ∀ c ∈ u, c ∉ '"' :: expanding
  apart : u.IsChain Apart

/-- Characters that mean themselves from one double quote to the next. -/
structure Quotable (u : List Char) : Prop extends Literal u where
  closed : u.getLast? ≠ some '\\'

-- The characters of a word are gone through, not all characters.
instance (w : List Char) : Decidable (Plain w) :=
  have := List.decidableBAll (· ∉ meaningful) w
  inferInstanceAs (Decidable (_ ∧ _))

instance (u : List Char) : Decidable (Literal u) :=
  have := List.decidableBAll (· ∉ '"' :: expanding) u
  decidable_of_iff (_ ∧ _) ⟨fun h => ⟨h.1, h.2⟩, fun h => ⟨h.inert, h.apart⟩⟩

instance (u : List Char) : Decidable (Quotable u) :=
  decidable_of_iff (_ ∧ _) ⟨fun h => ⟨h.1, h.2⟩, fun h => ⟨h.toLiteral, h.closed⟩⟩

/-- The quote at the end is one more character that a backslash must not stand before. -/
theorem quotable_iff {u : List Char} :
    Quotable u ↔ (∀ c ∈ u, c ∉ '"' :: expanding) ∧ (u ++ ['"']).IsChain Apart := by
  have hlast : (∀ x ∈ u.getLast?, ∀ y ∈ ['"'].head?, Apart x y) ↔ u.getLast? ≠ some '\\' := by
    cases u.getLast? <;> simp [Apart, escapable]
  rw [List.isChain_append, hlast]
  exact ⟨fun h => ⟨h.inert, h.apart, .singleton _, h.closed⟩, fun h => ⟨⟨h.1, h.2.1⟩, h.2.2.2⟩⟩

/-- Characters without a meaning are kept outside of quotes. -/
theorem step_of_not_meaningful {s : State} {c : Char} (hs : s.mode = .bare)
    (hc : c ∉ meaningful) : step s c = some (s.keep [c]) := by
  simp only [meaningful, ending, List.mem_cons, List.mem_append, not_or] at hc
  simp [step, hs, hc]

/-- A word that needs no quotes is read as it is. -/
theorem run_plain {s : State} {w : List Char} (hs : s.mode = .bare) (hplain : Plain w) :
    run s w = some (s.keep w) := by
  obtain ⟨hne, hw⟩ := hplain
  induction w generalizing s with
  | nil => exact absurd rfl hne
  | cons c w ih =>
    rw [run_cons, step_of_not_meaningful hs (hw c List.mem_cons_self), Option.bind_some]
    cases w with
    | nil => rfl
    | cons d w =>
      rw [ih (s := s.keep [c]) hs (List.cons_ne_nil d w) fun x hx =>
        hw x (List.mem_cons_of_mem c hx), State.keep_keep, List.singleton_append]

/-- The rest of a quotable word is read as it is, also behind a backslash that is still pending. -/
theorem run_double {s : State} {p q : List Char} (hinert : ∀ c ∈ q, c ∉ '"' :: expanding) :
    ((q ++ ['"']).IsChain Apart →
      run ((s.keep p).enter .double) (q ++ ['"']) = some ((s.keep (p ++ q)).enter .bare)) ∧
    (('\\' :: q ++ ['"']).IsChain Apart →
      run ((s.keep p).enter .doubleEscape) (q ++ ['"'])
        = some ((s.keep (p ++ '\\' :: q)).enter .bare)) := by
  induction q generalizing p with
  | nil =>
    refine ⟨fun _ => by simp [step], fun hapart => ?_⟩
    exact absurd hapart (by decide)
  | cons c q ih =>
    obtain ⟨hc, hq⟩ := List.forall_mem_cons.mp hinert
    rw [List.mem_cons, not_or] at hc
    simp only [List.cons_append, List.isChain_cons_cons, run_cons] at ih ⊢
    constructor
    case left =>
      intro hapart
      by_cases hslash : c = '\\'
      · subst hslash
        exact (ih hq).2 hapart
      · have hstep : step ((s.keep p).enter .double) c
            = some ((s.keep (p ++ [c])).enter .double) := by
          simp [step, hslash, hc]
        rw [hstep, Option.bind_some, (ih hq).1 hapart.tail, List.append_assoc]
        rfl
    case right =>
      rintro ⟨hfirst, hapart⟩
      have hplain := hfirst rfl
      rw [List.mem_cons, not_or] at hplain
      have hstep : step ((s.keep p).enter .doubleEscape) c
          = some ((s.keep (p ++ ['\\', c])).enter .double) := by
        simp [step, hplain]
      rw [hstep, Option.bind_some, (ih hq).1 hapart.tail, List.append_assoc]
      rfl

/-- A quotable word between double quotes is read as it is. -/
theorem run_quoted {s : State} {q : List Char} (hs : s.mode = .bare) (hq : Quotable q) :
    run s ('"' :: q ++ ['"']) = some (s.keep q) := by
  obtain ⟨hinert, hapart⟩ := quotable_iff.mp hq
  have hopen : step s '"' = some ((s.keep []).enter .double) := by simp [step, hs]
  rw [List.cons_append, run_cons, hopen, Option.bind_some, (run_double hinert).1 hapart,
    List.nil_append, State.enter_eq_self (s := s.keep q) hs]

/-- Only a backslash has to stand apart from what follows it. -/
theorem isChain_cons_of_ne {c : Char} {u : List Char} (hc : c ≠ '\\') (hu : u.IsChain Apart) :
    (c :: u).IsChain Apart :=
  List.isChain_cons.mpr ⟨fun _ _ hslash => absurd hslash hc, hu⟩

/-- **Without a quote in a word, only a quotable word is read up to its closing quote with no
backslash dropped**, also behind a backslash that is still pending. -/
theorem isChain_of_run_double {s s' : State} {q : List Char} (hno : '"' ∉ q)
    (hrun : run s (q ++ ['"']) = some s') (hlost : lost '\\' s (q ++ ['"']) s' = 0) :
    (s.mode = .double → (∀ c ∈ q, c ∉ '"' :: expanding) ∧ (q ++ ['"']).IsChain Apart) ∧
    (s.mode = .doubleEscape →
      (∀ c ∈ q, c ∉ '"' :: expanding) ∧ ('\\' :: q ++ ['"']).IsChain Apart) := by
  induction q generalizing s with
  | nil =>
    refine ⟨fun _ => ⟨nofun, .singleton _⟩, fun hs => ?_⟩
    obtain ⟨t, added, -, hreads, -, hspared⟩ := exists_of_run_cons hrun
    obtain ⟨-, hcount⟩ := hspared _ hlost
    rw [hs] at hreads hcount
    generalize t.mode = m at hreads hcount
    cases hreads with
    | escapedDouble h => exact absurd hcount (by decide)
    | unescaped hline h => exact absurd List.mem_cons_self h
  | cons c q ih =>
    obtain ⟨hc, hq⟩ := not_or.mp (mt List.mem_cons.mpr hno)
    obtain ⟨t, added, hrest, hreads, -, hspared⟩ := exists_of_run_cons hrun
    obtain ⟨hlost, hcount⟩ := hspared _ hlost
    have ih := ih hq hrest hlost
    generalize t.mode = m at hreads hcount ih
    constructor
    case left =>
      intro hs
      rw [hs] at hreads
      cases hreads with
      | double h =>
        rw [escapable, List.mem_cons, List.mem_cons, not_or, not_or] at h
        obtain ⟨hinert, hapart⟩ := ih.1 rfl
        exact ⟨List.forall_mem_cons.mpr ⟨by simp [h], hinert⟩, isChain_cons_of_ne h.2.1 hapart⟩
      | closeDouble => exact absurd rfl hc
      | escapeDouble =>
        obtain ⟨hinert, hapart⟩ := ih.2 rfl
        exact ⟨List.forall_mem_cons.mpr ⟨by decide, hinert⟩, hapart⟩
    case right =>
      intro hs
      rw [hs] at hreads hcount
      cases hreads with
      | escapedDouble h => simp [Mode.pending] at hcount
      | joinedDouble => exact absurd hcount (by decide)
      | unescaped hline h =>
        have hbefore : Apart '\\' c := fun _ => mt List.mem_cons.mp (not_or.mpr ⟨hline, h⟩)
        rw [escapable, List.mem_cons, List.mem_cons, not_or, not_or] at h
        obtain ⟨hinert, hapart⟩ := ih.1 rfl
        exact ⟨List.forall_mem_cons.mpr ⟨by simp [h], hinert⟩,
          List.isChain_cons_cons.mpr ⟨hbefore, isChain_cons_of_ne h.2.1 hapart⟩⟩

/-! ## 2. Scripts -/

/-- A word as it is written. -/
inductive Written where
  /-- Without quotes. -/
  | bare (word : List Char) (plain : Plain word)
  /-- Between double quotes. -/
  | quoted (word : List Char)

namespace Written

/-- The word that is meant. -/
def word : Written → List Char
  | .bare w _ | .quoted w => w

/-- The text of the word. -/
def text : Written → List Char
  | .bare w _ => w
  | .quoted w => '"' :: w ++ ['"']

/-- The text of the word is read as the word that is meant. -/
def MeansItself : Written → Prop
  | .bare _ _ => True
  | .quoted w => Quotable w

end Written

/-- What stands between two words: a blank, or the end of a line that goes on. -/
def gap (newLine : Bool) : List Char := if newLine then [' ', '\\', '\n', ' ', ' '] else [' ']

/-- A word behind another one. -/
structure Part where
  newLine : Bool
  written : Written

/-- The text of a word and of what stands before it. -/
def Part.text (p : Part) : List Char := gap p.newLine ++ p.written.text

/-- The text of some words. -/
def script (first : List Char) (parts : List Part) : List Char := first ++ parts.flatMap Part.text

/-- The words so far, with the one that has begun. -/
def State.line (s : State) : List (List Char) := s.words ++ s.word.toList

/-- The state after one more word. -/
def State.next (s : State) (p : Part) : State := s.endWord.keep p.written.word

/-- A gap ends a word. -/
theorem run_gap {s : State} (hs : s.mode = .bare) (newLine : Bool) :
    run s (gap newLine) = some s.endWord := by
  cases newLine <;> simp [gap, step, hs, State.enter_eq_self]

/-- **A word that means itself is read as what it means.** -/
theorem run_written {s : State} {a : Written} (hs : s.mode = .bare) (ha : a.MeansItself) :
    run s a.text = some (s.keep a.word) := by
  cases a with
  | bare w plain => exact run_plain hs plain
  | quoted q => exact run_quoted hs ha

/-- A word that means itself comes behind the others. -/
theorem run_part {s : State} {p : Part} (hs : s.mode = .bare) (hp : p.written.MeansItself) :
    run s p.text = some (s.next p) := by
  rw [Part.text, run_append, run_gap hs, Option.bind_some]
  exact run_written hs hp

/-- Words that mean themselves are read as what they mean. -/
theorem run_parts {s : State} {parts : List Part} (hs : s.mode = .bare)
    (hparts : ∀ p ∈ parts, p.written.MeansItself) :
    run s (parts.flatMap Part.text) = some (parts.foldl State.next s) := by
  induction parts generalizing s with
  | nil => rfl
  | cons p parts ih =>
    obtain ⟨hp, hparts⟩ := List.forall_mem_cons.mp hparts
    rw [List.flatMap_cons, run_append, run_part hs hp, Option.bind_some,
      ih (s := s.next p) hs hparts, List.foldl_cons]

/-- Words behind others only make the line longer. -/
theorem foldl_next (parts : List Part) (s : State) :
    (parts.foldl State.next s).mode = s.mode ∧
      (parts.foldl State.next s).commands = s.commands ∧
      (parts.foldl State.next s).line = s.line ++ parts.map fun p => p.written.word := by
  induction parts generalizing s with
  | nil => simp
  | cons p parts ih =>
    obtain ⟨hmode, hcommands, hline⟩ := ih (s.next p)
    refine ⟨hmode, hcommands, hline.trans ?_⟩
    simp [State.line, State.next, State.keep, State.endWord]

/-- The words at the end of a text are its last command. -/
theorem finish_eq {s : State} (hs : s.mode = .bare) (hline : s.line ≠ []) :
    s.finish = some (s.commands ++ [s.line]) := by
  have hwords : s.endWord.words = s.line := rfl
  simp [State.finish, State.endCommand, hs, hwords, hline]

/-! ## 3. Back from the words -/

/-- A line that goes on goes on as it was. -/
theorem run_continuation {s : State} (hs : s.mode = .bare ∨ s.mode = .double) :
    run s ['\\', '\n'] = some s := by
  rcases hs with hs | hs <;> simp [step, hs, State.enter_eq_self]

/-- The backslash at the end of a line is dropped, in quotes or not. -/
theorem one_le_lost_gap {s s' : State} (hs : s.mode ≠ .single)
    (h : run s (gap true) = some s') : 1 ≤ lost '\\' s (gap true) s' := by
  have hgap : gap true = [' '] ++ (['\\', '\n'] ++ [' ', ' ']) := rfl
  rw [hgap, run_append] at h
  obtain ⟨t, hblank, h⟩ := Option.bind_eq_some_iff.mp h
  have ht : t.mode = .bare ∨ t.mode = .double := by
    obtain ⟨u, added, hu, hreads, -, -⟩ := exists_of_run_cons hblank
    cases hu
    generalize s.mode = m at hs hreads
    generalize t.mode = m' at hreads ⊢
    cases hreads <;> simp_all
  have hsame := run_continuation ht
  have hdropped := count_held_add_lost hsame '\\'
  rw [run_append, hsame, Option.bind_some] at h
  rw [hgap, lost_append hblank (by rw [run_append, hsame, Option.bind_some, h]) '\\',
    lost_append hsame h '\\']
  have htwo : ['\\', '\n'].count '\\' = 1 := by decide
  omega

/-- A quoted word without a quote means itself if no backslash is dropped on reading it. -/
theorem quotable_of_run {s s' : State} {q : List Char} (hs : s.mode = .bare) (hno : '"' ∉ q)
    (h : run s (Written.quoted q).text = some s')
    (hlost : lost '\\' s (Written.quoted q).text s' = 0) : Quotable q := by
  obtain ⟨t, added, hrun, hreads, -, hspared⟩ := exists_of_run_cons h
  have ht : t.mode = .double := by
    rw [hs] at hreads
    generalize t.mode = m at hreads ⊢
    cases hreads with
    | openDouble => rfl
    | ended h => exact absurd h (by decide)
    | bare h => exact absurd h (by decide)
  exact quotable_iff.mpr ((isChain_of_run_double hno hrun (hspared _ hlost).1).1 ht)

/-- The lines that go on among some words. -/
def newLines (parts : List Part) : Nat := parts.countP Part.newLine

/-- **Words that are read with no apostrophe and no more backslashes dropped than lines go on.**  At
least so many are dropped.  If no more are, all quotes are dropped; and if there are no quotes
within the words, the words mean themselves. -/
theorem right_of_run_parts {s s' : State} {parts : List Part}
    (hs : s.mode ≠ .single) (hrun : run s (parts.flatMap Part.text) = some s')
    (hsingle : lost '\'' s (parts.flatMap Part.text) s' = 0) :
    newLines parts ≤ lost '\\' s (parts.flatMap Part.text) s' ∧
    (lost '\\' s (parts.flatMap Part.text) s' ≤ newLines parts →
      s'.kept.count '"' = s.kept.count '"' ∧
      (s.mode = .bare → (∀ p ∈ parts, '"' ∉ p.written.word) →
        ∀ p ∈ parts, p.written.MeansItself)) := by
  induction parts generalizing s with
  | nil =>
    cases hrun
    exact ⟨Nat.zero_le _, fun _ => ⟨rfl, fun _ _ => nofun⟩⟩
  | cons p parts ih =>
    rw [List.flatMap_cons, Part.text, List.append_assoc] at hrun hsingle ⊢
    rw [run_append] at hrun
    obtain ⟨t, hgap, hrest⟩ := Option.bind_eq_some_iff.mp hrun
    have hgaps := lost_append hgap hrest
    rw [run_append] at hrest
    obtain ⟨u, hword, hrest⟩ := Option.bind_eq_some_iff.mp hrest
    have hwords := lost_append hword hrest
    rw [hgaps, hwords] at hsingle ⊢
    obtain ⟨hquotes, -⟩ := count_of_not_mem hgap (c := '"') (by decide)
      (by cases p.newLine <;> decide)
    have ht : t.mode ≠ .single := ne_single_of_run hgap hs (by omega)
    have hu : u.mode ≠ .single := ne_single_of_run hword ht (by omega)
    obtain ⟨hle, hright⟩ := ih hu hrest (by omega)
    -- Every line that goes on has its price, so the word in question pays for nothing.
    have hline : (if p.newLine then 1 else 0) ≤ lost '\\' s (gap p.newLine) t := by
      cases hnew : p.newLine with
      | false => exact Nat.zero_le _
      | true =>
        rw [hnew] at hgap
        exact one_le_lost_gap hs hgap
    have hcount : newLines (p :: parts) = newLines parts + if p.newLine then 1 else 0 :=
      List.countP_cons
    refine ⟨by omega, fun hlost => ?_⟩
    obtain ⟨hquotes', hright⟩ := hright (by omega)
    have hslash : lost '\\' t p.written.text u = 0 := by omega
    refine ⟨?quotes, fun hmode hno => ?right⟩
    case quotes => rw [hquotes', count_quote_of_run hword ht (by omega) hslash, hquotes]
    case right =>
      obtain ⟨hnop, hno⟩ := List.forall_mem_cons.mp hno
      have htmode : t.mode = .bare := by
        rw [run_gap hmode] at hgap
        cases hgap
        exact hmode
      have hself : p.written.MeansItself := by
        cases hw : p.written with
        | bare w plain => trivial
        | quoted q =>
          rw [hw] at hnop hword hslash
          exact quotable_of_run htmode hnop hword hslash
      have humode : u.mode = .bare := by
        rw [run_written htmode hself] at hword
        cases hword
        exact htmode
      exact List.forall_mem_cons.mpr ⟨hself, hright humode hno⟩

/-- A text has as many apostrophes as its words, and more backslashes only where a line goes on. -/
theorem count_parts (parts : List Part) :
    (parts.flatMap Part.text).count '\''
        = ((parts.map fun p => p.written.word).flatten).count '\'' ∧
      (parts.flatMap Part.text).count '\\'
        = ((parts.map fun p => p.written.word).flatten).count '\\' + newLines parts := by
  induction parts with
  | nil => exact ⟨rfl, rfl⟩
  | cons p parts ih =>
    obtain ⟨hsingle, hslash⟩ := ih
    have hgap : (gap p.newLine).count '\'' = 0 ∧
        (gap p.newLine).count '\\' = if p.newLine then 1 else 0 := by
      cases p.newLine <;> decide
    have hword : p.written.text.count '\'' = p.written.word.count '\'' ∧
        p.written.text.count '\\' = p.written.word.count '\\' := by
      cases p.written <;> simp [Written.text, Written.word]
    have hlines : newLines (p :: parts) = newLines parts + if p.newLine then 1 else 0 :=
      List.countP_cons
    simp only [List.flatMap_cons, Part.text, List.map_cons, List.flatten_cons, List.count_append]
    omega

/-- The words that have been read are all that has been kept. -/
theorem kept_of_finish {s : State} {commands : List (List (List Char))}
    (h : s.finish = some commands) : s.mode = .bare ∧ s.kept = commands.flatten.flatten := by
  unfold State.finish at h
  split at h
  case isTrue hmode =>
    cases h
    refine ⟨hmode, ?_⟩
    rw [← s.kept_endCommand, State.kept, s.endCommand_words, s.endCommand_word]
    simp
  case isFalse => cases h

/-- **A script is read as one command of the words that are meant, if and only if each quoted word
means itself.** -/
theorem read_script_iff {first : List Char} {parts : List Part}
    (hfirst : Plain first) :
    read (script first parts) = some [first :: parts.map fun p => p.written.word] ↔
      ∀ p ∈ parts, p.written.MeansItself := by
  have hstart : run .start first = some (State.start.keep first) := run_plain rfl hfirst
  have hrun : run .start (script first parts)
      = run (State.start.keep first) (parts.flatMap Part.text) := by
    rw [script, run_append, hstart, Option.bind_some]
  constructor
  case mpr =>
    intro hparts
    obtain ⟨hmode, hcommands, hline⟩ := foldl_next parts (State.start.keep first)
    rw [read, hrun, run_parts rfl hparts, Option.bind_some,
      finish_eq hmode (by rw [hline]; exact List.cons_ne_nil _ _), hcommands, hline]
    rfl
  case mp =>
    intro hread
    obtain ⟨s, hs, hfinish⟩ := Option.bind_eq_some_iff.mp hread
    rw [hrun] at hs
    obtain ⟨hmode, hkept⟩ := kept_of_finish hfinish
    rw [List.flatten_singleton, List.flatten_cons] at hkept
    have hheld : s.held = s.kept := by rw [State.held, hmode]; exact List.append_nil _
    have hfirst' : (State.start.keep first).kept = first := State.kept_keep _ _
    have hheld' : (State.start.keep first).held = (State.start.keep first).kept :=
      List.append_nil _
    have hcount : ∀ c, s.kept.count c
        = first.count c + ((parts.map fun p => p.written.word).flatten).count c := fun c => by
      rw [hkept, List.count_append]
    have hlost := count_held_add_lost hs
    simp only [hheld, hheld', hfirst', hcount] at hlost
    obtain ⟨hsingle, hslash⟩ := count_parts parts
    have hsingle' := hlost '\''
    have hslash' := hlost '\\'
    have hstart' : (State.start.keep first).mode ≠ .single := Mode.noConfusion
    obtain ⟨-, hright⟩ := right_of_run_parts hstart' hs (by omega)
    obtain ⟨hquotes, hright⟩ := hright (by omega)
    refine hright rfl fun p hp hmem => ?_
    have hnone : ((parts.map fun p => p.written.word).flatten).count '"' = 0 := by
      rw [hcount, hfirst'] at hquotes
      omega
    exact List.count_eq_zero.mp hnone
      (List.mem_flatten_of_mem (List.mem_map_of_mem hp) hmem)

end Compositor.Shell
