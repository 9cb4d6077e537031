import Mathlib.Data.List.Basic

/-!
# Words as a shell reads them

A shell takes a text apart into commands and a command into words.  Here is the part of it that is
about words: blanks set them apart, the end of a line or a semicolon ends a command, and a backslash
or quotes take the meaning of a character away.  Between double quotes a backslash does so for four
characters only, and a line goes on behind a backslash at its end.  Where a shell would do more than
that, because it would expand a variable, say, or open a file, the reader gives nothing (`read`).

A quote in the wrong place changes how all is read that follows, so what a reader makes of a text
cannot be followed through the text without knowing each quote in it.  Something is true of every
reading all the same: it keeps the characters in their order and drops some of them (`run_sublist`),
and how many of each it drops (`lost`) adds up.  If no apostrophe is dropped, no single quotes are
entered; if no backslash is dropped either, every quote is dropped, for only a backslash that goes
could have kept one (`count_quote_of_run`).
-/

namespace Compositor.Shell

/-! ## 1. The reader -/

/-- How the next character is to be read. -/
inductive Mode where
  /-- Outside of quotes. -/
  | bare
  /-- Behind a backslash outside of quotes. -/
  | escape
  /-- Between single quotes. -/
  | single
  /-- Between double quotes. -/
  | double
  /-- Behind a backslash between double quotes. -/
  | doubleEscape
deriving DecidableEq

/-- What has been read: the commands so far, the words of this one, and the word that has begun. -/
structure State where
  mode : Mode
  commands : List (List (List Char))
  words : List (List Char)
  word : Option (List Char)

/-- The characters that stand for an expansion, also between double quotes. -/
def expanding : List Char := ['$', '\x60']

/-- The characters that a backslash takes the meaning from between double quotes. -/
def escapable : List Char := '"' :: '\\' :: expanding

/-- The characters that mean more to a shell than words, outside of quotes. -/
def active : List Char := expanding ++ ['&', '|', '<', '>', '(', ')', '*', '?', '[']

/-- The characters that do so at the beginning of a word. -/
def activeFirst : List Char := ['#', '~']

namespace State

/-- Nothing has been read. -/
def start : State := ⟨.bare, [], [], none⟩

/-- The next character is to be read in a mode. -/
def enter (s : State) (m : Mode) : State := { s with mode := m }

/-- Characters are put at the end of the word, which begins with them if none has begun. -/
def keep (s : State) (cs : List Char) : State := { s with word := some (s.word.getD [] ++ cs) }

/-- The word has ended, if one has begun. -/
def endWord (s : State) : State := { s with words := s.words ++ s.word.toList, word := none }

/-- The command has ended, if it has a word. -/
def endCommand (s : State) : State :=
  if s.endWord.words = [] then s.endWord
  else { s.endWord with commands := s.commands ++ [s.endWord.words], words := [] }

end State

/-- One character. -/
def step (s : State) (c : Char) : Option State :=
  match s.mode with
  | .bare =>
    if c = '\\' then some (s.enter .escape)
    else if c = '"' then some ((s.keep []).enter .double)
    else if c = '\'' then some ((s.keep []).enter .single)
    else if c = ' ' ∨ c = '\t' then some s.endWord
    else if c = '\n' then some s.endCommand
    else if c = ';' then if s.endWord.words = [] then none else some s.endCommand
    else if c ∈ active ∨ s.word = none ∧ c ∈ activeFirst then none
    else some (s.keep [c])
  | .escape => some ((if c = '\n' then s else s.keep [c]).enter .bare)
  | .single => some (if c = '\'' then s.enter .bare else s.keep [c])
  | .double =>
    if c = '\\' then some (s.enter .doubleEscape)
    else if c = '"' then some (s.enter .bare)
    else if c ∈ expanding then none
    else some (s.keep [c])
  | .doubleEscape =>
    some ((if c = '\n' then s else if c ∈ escapable then s.keep [c] else s.keep ['\\', c]).enter
      .double)

/-- Some characters, one after the other. -/
def run (s : State) (text : List Char) : Option State := text.foldlM step s

/-- The commands of a whole text: quotes have been closed, and no backslash is left over. -/
def State.finish (s : State) : Option (List (List (List Char))) :=
  if s.mode = .bare then some s.endCommand.commands else none

/-- The commands of a text, each as its words; nothing if there is more to a text than words. -/
def read (text : List Char) : Option (List (List (List Char))) :=
  (run .start text).bind State.finish

@[simp] theorem run_nil (s : State) : run s [] = some s := rfl

@[simp] theorem run_cons (s : State) (c : Char) (text : List Char) :
    run s (c :: text) = (step s c).bind (run · text) := rfl

theorem run_append (s : State) (u v : List Char) :
    run s (u ++ v) = (run s u).bind (run · v) := by
  unfold run
  rw [List.foldlM_append]
  rfl

namespace State

@[simp] theorem enter_mode (s : State) (m : Mode) : (s.enter m).mode = m := rfl

@[simp] theorem enter_enter (s : State) (m n : Mode) : (s.enter m).enter n = s.enter n := rfl

@[simp] theorem enter_keep (s : State) (m : Mode) (cs : List Char) :
    (s.enter m).keep cs = (s.keep cs).enter m := rfl

theorem enter_eq_self {s : State} {m : Mode} (h : s.mode = m) : s.enter m = s := by
  rw [← h]
  rfl

@[simp] theorem keep_mode (s : State) (cs : List Char) : (s.keep cs).mode = s.mode := rfl

@[simp] theorem keep_keep (s : State) (cs ds : List Char) :
    (s.keep cs).keep ds = s.keep (cs ++ ds) := by
  simp [keep, List.append_assoc]

@[simp] theorem endWord_mode (s : State) : s.endWord.mode = s.mode := rfl

@[simp] theorem endWord_endWord (s : State) : s.endWord.endWord = s.endWord := by
  simp [endWord]

@[simp] theorem endCommand_mode (s : State) : s.endCommand.mode = s.mode := by
  unfold endCommand
  split <;> rfl

@[simp] theorem endCommand_words (s : State) : s.endCommand.words = [] := by
  unfold endCommand
  split
  · assumption
  · rfl

@[simp] theorem endCommand_word (s : State) : s.endCommand.word = none := by
  unfold endCommand
  split <;> rfl

end State

/-! ## 2. What one character can do -/

/-- The characters that end a word. -/
def ending : List Char := [' ', '\t', '\n', ';']

/-- The ways of reading a character, with the characters that are put to the word for it. -/
inductive Reads : Mode → Char → Mode → List Char → Prop
  | ended {c : Char} (h : c ∈ ending) : Reads .bare c .bare []
  | bare {c : Char} (h : c ∉ ['\\', '"', '\'']) : Reads .bare c .bare [c]
  | openSingle : Reads .bare '\'' .single []
  | single {c : Char} (h : c ≠ '\'') : Reads .single c .single [c]
  | closeSingle : Reads .single '\'' .bare []
  | openDouble : Reads .bare '"' .double []
  | double {c : Char} (h : c ∉ escapable) : Reads .double c .double [c]
  | closeDouble : Reads .double '"' .bare []
  | escape : Reads .bare '\\' .escape []
  | escaped {c : Char} (h : c ≠ '\n') : Reads .escape c .bare [c]
  | joined : Reads .escape '\n' .bare []
  | escapeDouble : Reads .double '\\' .doubleEscape []
  | escapedDouble {c : Char} (h : c ∈ escapable) : Reads .doubleEscape c .double [c]
  | joinedDouble : Reads .doubleEscape '\n' .double []
  | unescaped {c : Char} (hline : c ≠ '\n') (h : c ∉ escapable) :
      Reads .doubleEscape c .double ['\\', c]

/-- The characters of all words. -/
def State.kept (s : State) : List Char :=
  s.commands.flatten.flatten ++ s.words.flatten ++ s.word.getD []

namespace State

@[simp] theorem kept_enter (s : State) (m : Mode) : (s.enter m).kept = s.kept := rfl

@[simp] theorem kept_keep (s : State) (cs : List Char) : (s.keep cs).kept = s.kept ++ cs := by
  simp [kept, keep]

@[simp] theorem kept_endWord (s : State) : s.endWord.kept = s.kept := by
  cases h : s.word <;> simp [kept, endWord, h]

@[simp] theorem kept_endCommand (s : State) : s.endCommand.kept = s.kept := by
  unfold endCommand
  split
  · exact s.kept_endWord
  · rw [← s.kept_endWord]
    simp [kept, endWord]

end State

/-- **A step reads its character in one of the ways**, and puts to the words what that way says. -/
theorem reads_of_step {s s' : State} {c : Char} (h : step s c = some s') :
    ∃ added, Reads s.mode c s'.mode added ∧ s'.kept = s.kept ++ added := by
  unfold step at h
  cases hm : s.mode with
  | bare =>
    simp only [hm] at h
    split_ifs at h with hslash hdouble hsingle hblank hline hsemi <;> cases h
    · exact ⟨[], hslash ▸ .escape, by simp⟩
    · exact ⟨[], hdouble ▸ .openDouble, by simp⟩
    · exact ⟨[], hsingle ▸ .openSingle, by simp⟩
    · refine ⟨[], ?_, by simp⟩
      rw [State.endWord_mode, hm]
      exact .ended (by rcases hblank with rfl | rfl <;> decide)
    · refine ⟨[], ?_, by simp⟩
      rw [State.endCommand_mode, hm]
      exact .ended (by rw [hline]; decide)
    · refine ⟨[], ?_, by simp⟩
      rw [State.endCommand_mode, hm]
      exact .ended (by rw [hsemi]; decide)
    · refine ⟨[c], ?_, by simp⟩
      rw [State.keep_mode, hm]
      exact .bare (by simp [hslash, hdouble, hsingle])
  | escape =>
    simp only [hm] at h
    split_ifs at h with hc <;> cases h
    · exact ⟨[], hc ▸ .joined, by simp⟩
    · exact ⟨[c], .escaped hc, by simp⟩
  | single =>
    simp only [hm] at h
    split_ifs at h with hc <;> cases h
    · exact ⟨[], hc ▸ .closeSingle, by simp⟩
    · exact ⟨[c], by rw [State.keep_mode, hm]; exact .single hc, by simp⟩
  | double =>
    simp only [hm] at h
    split_ifs at h with hb hq he <;> cases h
    · exact ⟨[], hb ▸ .escapeDouble, by simp⟩
    · exact ⟨[], hq ▸ .closeDouble, by simp⟩
    · exact ⟨[c], by rw [State.keep_mode, hm]; exact .double (by simp [escapable, *]), by simp⟩
  | doubleEscape =>
    simp only [hm] at h
    split_ifs at h with hn he <;> cases h
    · exact ⟨[], hn ▸ .joinedDouble, by simp⟩
    · exact ⟨[c], .escapedDouble he, by simp⟩
    · exact ⟨['\\', c], .unescaped hn he, by simp⟩

/-! ## 3. What the reader drops -/

/-- The backslash of which it is not settled yet what it does. -/
def Mode.pending : Mode → List Char
  | .escape | .doubleEscape => ['\\']
  | _ => []

/-- The characters that have not been dropped. -/
def State.held (s : State) : List Char := s.kept ++ s.mode.pending

/-- A way of reading keeps characters in their order. -/
theorem Reads.sublist {m m' : Mode} {c : Char} {added : List Char} (h : Reads m c m' added) :
    (added ++ m'.pending).Sublist (m.pending ++ [c]) := by
  cases h <;> simp [Mode.pending]

/-- **A reader keeps characters in their order.** -/
theorem run_sublist {s s' : State} {u : List Char} (h : run s u = some s') :
    s'.held.Sublist (s.held ++ u) := by
  induction u generalizing s with
  | nil =>
    cases h
    simp
  | cons c u ih =>
    obtain ⟨t, hstep, hrun⟩ := Option.bind_eq_some_iff.mp h
    obtain ⟨added, hreads, hkept⟩ := reads_of_step hstep
    have hone : t.held.Sublist (s.held ++ [c]) := by
      rw [State.held, hkept, List.append_assoc, State.held, List.append_assoc]
      exact hreads.sublist.append_left s.kept
    have hboth := (ih hrun).trans (hone.append_right u)
    rwa [List.append_assoc] at hboth

/-- How many of a character are dropped on the way from a state to another. -/
def lost (c : Char) (s : State) (u : List Char) (s' : State) : Nat :=
  (s.held ++ u).count c - s'.held.count c

/-- What is not dropped is kept. -/
theorem count_held_add_lost {s s' : State} {u : List Char} (h : run s u = some s') (c : Char) :
    s'.held.count c + lost c s u s' = s.held.count c + u.count c := by
  have hle := (run_sublist h).count_le c
  rw [List.count_append] at hle
  rw [lost, List.count_append]
  omega

/-- What is dropped in two parts is dropped in the whole. -/
theorem lost_append {s t s' : State} {u v : List Char} (hu : run s u = some t)
    (hv : run t v = some s') (c : Char) : lost c s (u ++ v) s' = lost c s u t + lost c t v s' := by
  have huv : run s (u ++ v) = some s' := by rw [run_append, hu, Option.bind_some, hv]
  have hwhole := count_held_add_lost huv c
  have hleft := count_held_add_lost hu c
  have hright := count_held_add_lost hv c
  rw [List.count_append] at hwhole
  omega

/-- A run begins with a step.  If no character of a kind is dropped in all, none is dropped by the
step, and none by the rest. -/
theorem exists_of_run_cons {s s' : State} {c : Char} {u : List Char}
    (h : run s (c :: u) = some s') :
    ∃ t added, run t u = some s' ∧ Reads s.mode c t.mode added ∧ t.kept = s.kept ++ added ∧
      ∀ x, lost x s (c :: u) s' = 0 → lost x t u s' = 0 ∧
        (added ++ t.mode.pending).count x = (s.mode.pending ++ [c]).count x := by
  obtain ⟨t, hstep, hrun⟩ := Option.bind_eq_some_iff.mp h
  obtain ⟨added, hreads, hkept⟩ := reads_of_step hstep
  refine ⟨t, added, hrun, hreads, hkept, fun x hlost => ?_⟩
  have hone : run s [c] = some t := by rw [run_cons, hstep]; rfl
  have hsplit := lost_append hone hrun x
  rw [List.singleton_append, hlost, eq_comm, Nat.add_eq_zero_iff] at hsplit
  have hcount := count_held_add_lost hone x
  rw [hsplit.1, State.held, State.held, hkept] at hcount
  simp only [List.count_append] at hcount ⊢
  exact ⟨hsplit.2, by omega⟩

/-- What has been kept stays. -/
theorem exists_kept_of_run {s s' : State} {u : List Char} (h : run s u = some s') :
    ∃ added, s'.kept = s.kept ++ added := by
  induction u generalizing s with
  | nil =>
    cases h
    exact ⟨[], (List.append_nil _).symm⟩
  | cons c u ih =>
    obtain ⟨t, added, hrun, -, hkept, -⟩ := exists_of_run_cons h
    obtain ⟨rest, hrest⟩ := ih hrun
    exact ⟨added ++ rest, by rw [hrest, hkept, List.append_assoc]⟩

/-- A character that does not occur is neither kept nor dropped. -/
theorem count_of_not_mem {s s' : State} {u : List Char} (h : run s u = some s') {c : Char}
    (hc : c ≠ '\\') (hu : c ∉ u) : s'.kept.count c = s.kept.count c ∧ lost c s u s' = 0 := by
  have hpending : ∀ m : Mode, m.pending.count c = 0 := by
    intro m
    cases m <;> simp [Mode.pending, hc.symm]
  obtain ⟨added, hkept⟩ := exists_kept_of_run h
  have hcount := count_held_add_lost h c
  rw [State.held, State.held, List.count_append, List.count_append, hpending, hpending,
    List.count_eq_zero.mpr hu] at hcount
  have hmore : s.kept.count c ≤ s'.kept.count c := by
    rw [hkept, List.count_append]
    exact Nat.le_add_right _ _
  omega

/-- Single quotes are not entered but by an apostrophe that is dropped. -/
theorem Reads.ne_single {m m' : Mode} {c : Char} {added : List Char} (h : Reads m c m' added)
    (hm : m ≠ .single)
    (hcount : (added ++ m'.pending).count '\'' = (m.pending ++ [c]).count '\'') :
    m' ≠ .single := by
  cases h with
  | openSingle => exact absurd hcount (by decide)
  | single => exact absurd rfl hm
  | _ => exact nofun

/-- Outside of single quotes, a quote is not kept but by a backslash that is dropped. -/
theorem Reads.count_quote {m m' : Mode} {c : Char} {added : List Char} (h : Reads m c m' added)
    (hm : m ≠ .single)
    (hcount : (added ++ m'.pending).count '\\' = (m.pending ++ [c]).count '\\') :
    added.count '"' = 0 := by
  cases h with
  | single => exact absurd rfl hm
  | bare h => exact List.count_eq_zero.mpr fun hmem => h (by simp [← List.mem_singleton.mp hmem])
  | double h =>
    exact List.count_eq_zero.mpr fun hmem => h (List.mem_singleton.mp hmem ▸ List.mem_cons_self)
  | escaped | escapedDouble => simp [Mode.pending] at hcount
  | unescaped hline h =>
    refine List.count_eq_zero.mpr fun hmem => h ?_
    have hc : c = '"' := by simpa [eq_comm] using hmem
    exact hc ▸ List.mem_cons_self
  | _ => rfl

/-- A reader outside of single quotes stays there if it drops no apostrophe. -/
theorem ne_single_of_run {s s' : State} {u : List Char} (h : run s u = some s')
    (hs : s.mode ≠ .single) (hlost : lost '\'' s u s' = 0) : s'.mode ≠ .single := by
  induction u generalizing s with
  | nil =>
    cases h
    exact hs
  | cons c u ih =>
    obtain ⟨t, added, hrun, hreads, -, hspared⟩ := exists_of_run_cons h
    obtain ⟨hrest, hcount⟩ := hspared _ hlost
    exact ih hrun (hreads.ne_single hs hcount) hrest

/-- **A reader that drops neither apostrophe nor backslash keeps no quote**: each opens or closes
something. -/
theorem count_quote_of_run {s s' : State} {u : List Char} (h : run s u = some s')
    (hs : s.mode ≠ .single) (hsingle : lost '\'' s u s' = 0) (hslash : lost '\\' s u s' = 0) :
    s'.kept.count '"' = s.kept.count '"' := by
  induction u generalizing s with
  | nil =>
    cases h
    rfl
  | cons c u ih =>
    obtain ⟨t, added, hrun, hreads, hkept, hspared⟩ := exists_of_run_cons h
    obtain ⟨hsingle, hcount⟩ := hspared _ hsingle
    obtain ⟨hslash, hcount'⟩ := hspared _ hslash
    rw [ih hrun (hreads.ne_single hs hcount) hsingle hslash, hkept, List.count_append,
      hreads.count_quote hs hcount', Nat.add_zero]

end Compositor.Shell
