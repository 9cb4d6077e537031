import Compositor.Command.Text
import Mathlib.Algebra.Ring.Parity
import Mathlib.Data.List.DropRight

/-!
# A text between its quotes

What is said in a text stands in the command between two apostrophes, in a list whose items are
divided by colons.  A backslash takes the meaning from the character behind it, a second backslash
included, so it is the length of the run of backslashes before an apostrophe or a colon that says
whether this is text or the end of an item: odd means text.  At the end of the text it is the
apostrophe that closes it which stands behind the run, and odd means that it closes nothing
(`Guarded`).

One backslash is put before each apostrophe and colon, and none before a backslash.  So each run
that a text has of its own before one of these grows by one (`delimitersAfter_escaped`), and the run
at its end stays as it is (`slashes_escaped`).  A text is therefore guarded if its own runs there
are all even, and only then (`guarded_escapeText_iff`): texts without a backslash are, while a text
with one backslash before an apostrophe loses the apostrophe, and one that ends in a backslash the
closing one.

Guarded or not, no text is lost.  Whoever takes one backslash off before each delimiter has the text
again, its own backslashes included (`unescaped_escaped`), and what is written so are exactly the
texts in which each delimiter stands behind a backslash (`exists_escaped_eq_iff`).
-/

namespace Compositor.Command

/-! ## 1. Runs of backslashes -/

/-- The characters that end what stands between quotes, or an item. -/
def delimiters : List Char := ['\'', ':']

/-- How many backslashes a text ends in. -/
def slashes (s : List Char) : Nat := (s.rtakeWhile (· == '\\')).length

/-- How many backslashes stand right before a delimiter of the text: `P` for each delimiter. -/
def DelimitersAfter (P : Nat → Prop) (s : List Char) : Prop :=
  ∀ pre c post, s = pre ++ c :: post → c ∈ delimiters → P (slashes pre)

/-- Between quotes the text neither ends nor is divided. -/
structure Guarded (s : List Char) : Prop where
  /-- Each delimiter has lost its meaning. -/
  delimiters : DelimitersAfter Odd s
  /-- What follows the text keeps its own. -/
  last : ¬ Odd (slashes s)

/-- The backslashes of a text before its delimiters and at its end go in pairs. -/
structure Paired (s : List Char) : Prop where
  delimiters : DelimitersAfter Even s
  last : Even (slashes s)

@[simp]
theorem slashes_concat_slash (s : List Char) : slashes (s ++ ['\\']) = slashes s + 1 := by
  simp [slashes]

theorem slashes_concat_of_ne (s : List Char) {c : Char} (hc : c ≠ '\\') :
    slashes (s ++ [c]) = 0 := by
  simp [slashes, hc]

theorem ne_slash_of_mem_delimiters {c : Char} (hc : c ∈ delimiters) : c ≠ '\\' := by
  rintro rfl
  exact absurd hc (by decide)

/-- Without a backslash there is no run. -/
theorem slashes_eq_zero {s : List Char} (h : '\\' ∉ s) : slashes s = 0 := by
  refine List.length_eq_zero_iff.mpr (List.eq_nil_iff_forall_not_mem.mpr fun c hc => h ?_)
  have hslash : c = '\\' := by simpa using List.mem_rtakeWhile_imp hc
  exact hslash ▸ (List.rtakeWhile_suffix _ _).mem hc

/-- A text without a backslash has none to pair. -/
theorem Paired.of_not_mem {s : List Char} (h : '\\' ∉ s) : Paired s where
  delimiters := by
    rintro pre c post rfl -
    have hpre : '\\' ∉ pre := fun hmem => h (List.mem_append_left _ hmem)
    exact slashes_eq_zero hpre ▸ Even.zero
  last := slashes_eq_zero h ▸ Even.zero

/-! ## 2. What is put before the delimiters -/

theorem escaped_append (s t : List Char) : escaped (s ++ t) = escaped s ++ escaped t :=
  List.flatMap_append

theorem escaped_cons_of_mem {c : Char} (hc : c ∈ delimiters) (s : List Char) :
    escaped (c :: s) = '\\' :: c :: escaped s := by
  have hc' : c = '\'' ∨ c = ':' := by simpa [delimiters] using hc
  simp [escaped, hc']

theorem escaped_cons_of_not_mem {c : Char} (hc : c ∉ delimiters) (s : List Char) :
    escaped (c :: s) = c :: escaped s := by
  have hc' : ¬ (c = '\'' ∨ c = ':') := by simpa [delimiters] using hc
  simp [escaped, hc']

/-- The run at the end is the text's own. -/
theorem slashes_escaped (s : List Char) : slashes (escaped s) = slashes s := by
  induction s using List.reverseRecOn with
  | nil => rfl
  | append_singleton s c ih =>
    rw [escaped_append]
    by_cases hc : c ∈ delimiters
    · have hne := ne_slash_of_mem_delimiters hc
      have hlast : escaped s ++ escaped [c] = (escaped s ++ ['\\']) ++ [c] := by
        rw [escaped_cons_of_mem hc, List.append_assoc]
        rfl
      rw [hlast, slashes_concat_of_ne _ hne, slashes_concat_of_ne _ hne]
    · have hlast : escaped [c] = [c] := escaped_cons_of_not_mem hc []
      rw [hlast]
      by_cases hslash : c = '\\'
      · subst hslash
        rw [slashes_concat_slash, slashes_concat_slash, ih]
      · rw [slashes_concat_of_ne _ hslash, slashes_concat_of_ne _ hslash]

/-- A delimiter of the written text is one of the text itself, and has got its backslash. -/
theorem exists_of_escaped_eq {s pre post : List Char} {c : Char}
    (h : escaped s = pre ++ c :: post) (hc : c ∈ delimiters) :
    ∃ own rest, s = own ++ c :: rest ∧ pre = escaped own ++ ['\\'] := by
  induction s generalizing pre with
  | nil => simp [escaped] at h
  | cons x s ih =>
    by_cases hx : x ∈ delimiters
    · rw [escaped_cons_of_mem hx] at h
      -- the delimiter is not the backslash that was put there: it is behind it, or further on
      match pre with
      | [] => exact absurd (List.cons.inj h).1.symm (ne_slash_of_mem_delimiters hc)
      | [y] =>
        obtain ⟨hy, hrest⟩ := List.cons.inj h
        obtain ⟨hxc, -⟩ := List.cons.inj hrest
        exact ⟨[], s, by rw [hxc]; rfl, by rw [← hy]; rfl⟩
      | y :: z :: pre =>
        obtain ⟨hy, hrest⟩ := List.cons.inj h
        obtain ⟨hz, hrest⟩ := List.cons.inj hrest
        obtain ⟨own, rest, hs, hpre⟩ := ih hrest
        refine ⟨x :: own, rest, by rw [hs]; rfl, ?_⟩
        rw [escaped_cons_of_mem hx, ← hy, ← hz, hpre]
        rfl
    · rw [escaped_cons_of_not_mem hx] at h
      match pre with
      | [] => exact absurd ((List.cons.inj h).1 ▸ hc) hx
      | y :: pre =>
        obtain ⟨hy, hrest⟩ := List.cons.inj h
        obtain ⟨own, rest, hs, hpre⟩ := ih hrest
        refine ⟨x :: own, rest, by rw [hs]; rfl, ?_⟩
        rw [escaped_cons_of_not_mem hx, ← hy, hpre]
        rfl

/-- Each run before a delimiter grows by one. -/
theorem delimitersAfter_escaped (P : Nat → Prop) (s : List Char) :
    DelimitersAfter P (escaped s) ↔ DelimitersAfter (fun n => P (n + 1)) s := by
  constructor
  · rintro h pre c post rfl hc
    have hsplit : escaped (pre ++ c :: post) = (escaped pre ++ ['\\']) ++ c :: escaped post := by
      rw [escaped_append, escaped_cons_of_mem hc, List.append_assoc]
      rfl
    have hrun := h _ c _ hsplit hc
    rwa [slashes_concat_slash, slashes_escaped] at hrun
  · rintro h pre c post hsplit hc
    obtain ⟨own, rest, rfl, rfl⟩ := exists_of_escaped_eq hsplit hc
    rw [slashes_concat_slash, slashes_escaped]
    exact h own c rest rfl hc

/-- Backslashes in pairs are what escaping leaves guarded. -/
theorem guarded_escaped_iff (s : List Char) : Guarded (escaped s) ↔ Paired s := by
  have hruns : DelimitersAfter Odd (escaped s) ↔ DelimitersAfter Even s := by
    simp only [delimitersAfter_escaped, Nat.odd_add_one, Nat.not_odd_iff_even]
  have hend : ¬ Odd (slashes (escaped s)) ↔ Even (slashes s) := by
    rw [slashes_escaped, Nat.not_odd_iff_even]
  exact ⟨fun h => ⟨hruns.mp h.delimiters, hend.mp h.last⟩,
    fun h => ⟨hruns.mpr h.delimiters, hend.mpr h.last⟩⟩

/-- **A text is guarded between its quotes if its own backslashes, before an apostrophe or a colon
and at its end, go in pairs, and only then; without a backslash it always is.** -/
theorem guarded_escapeText_iff (s : String) :
    (Guarded (escapeText s).toList ↔ Paired s.toList) ∧
    ('\\' ∉ s.toList → Guarded (escapeText s).toList) := by
  have hiff : Guarded (escapeText s).toList ↔ Paired s.toList := by
    rw [escapeText, String.toList_ofList]
    exact guarded_escaped_iff s.toList
  exact ⟨hiff, fun h => hiff.mpr (Paired.of_not_mem h)⟩

/-- A text with both delimiters and no backslash. -/
theorem guarded_escapeText_plain :
    '\\' ∉ "At: 5 o'clock".toList ∧ Guarded (escapeText "At: 5 o'clock").toList :=
  ⟨by decide, (guarded_escapeText_iff _).2 (by decide)⟩

/-- A backslash before an apostrophe, or at the end, is not guarded: with the one that is put there
the first makes a pair, and the second stands before the apostrophe that closes the text. -/
theorem not_guarded_escapeText :
    ¬ Guarded (escapeText "\\'").toList ∧ ¬ Guarded (escapeText "\\").toList := by
  constructor
  · intro h
    have hrun : Odd (slashes ['\\', '\\']) := h.delimiters _ '\'' [] rfl (by decide)
    exact absurd hrun (by decide)
  · intro h
    exact h.last (by decide)

/-! ## 3. Taking the backslashes off again -/

/-- A text with a backslash before each place of one character. -/
def marked (d : Char) (s : List Char) : List Char :=
  s.flatMap fun c => if c == d then ['\\', c] else [c]

/-- A text without the one backslash right before each delimiter. -/
def unescaped : List Char → List Char
  | [] => []
  | c :: s =>
    if c == '\\' && s.head?.any (· ∈ delimiters) then unescaped s else c :: unescaped s

@[inherit_doc unescaped]
def unescapeText (s : String) : String := String.ofList (unescaped s.toList)

/-- The apostrophes may be marked first and the colons after them: what was put before the
apostrophes is no colon. -/
theorem escaped_eq_marked (s : List Char) : escaped s = marked ':' (marked '\'' s) := by
  rw [escaped, marked, marked, List.flatMap_assoc]
  congr 1
  funext c
  by_cases hquote : c = '\''
  · subst hquote
    rfl
  · simp [hquote]

theorem unescaped_slash_cons {c : Char} (hc : c ∈ delimiters) (s : List Char) :
    unescaped ('\\' :: c :: s) = c :: unescaped s := by
  simp [unescaped, hc, ne_slash_of_mem_delimiters hc]

/-- An escaped text does not begin with a delimiter. -/
theorem any_head?_escaped (s : List Char) :
    (escaped s).head?.any (· ∈ delimiters) = false := by
  cases s with
  | nil => rfl
  | cons c s =>
    by_cases hc : c ∈ delimiters
    · rw [escaped_cons_of_mem hc]
      rfl
    · simp [escaped_cons_of_not_mem hc, hc]

/-- **What was put before the delimiters is what is taken off again.** -/
theorem unescaped_escaped (s : List Char) : unescaped (escaped s) = s := by
  induction s with
  | nil => rfl
  | cons c s ih =>
    by_cases hc : c ∈ delimiters
    · rw [escaped_cons_of_mem hc, unescaped_slash_cons hc, ih]
    · -- a backslash of the text's own stays: what is written behind it begins with no delimiter
      rw [escaped_cons_of_not_mem hc, unescaped, any_head?_escaped, Bool.and_false, if_neg nofun,
        ih]

/-- A run at the end ends in a backslash. -/
theorem exists_of_slashes_pos {s : List Char} (h : 0 < slashes s) : ∃ own, s = own ++ ['\\'] := by
  rcases List.eq_nil_or_concat s with rfl | ⟨own, c, rfl⟩
  · exact absurd h (by decide)
  · by_cases hc : c = '\\'
    · exact ⟨own, by rw [hc, List.concat_eq_append]⟩
    · rw [List.concat_eq_append, slashes_concat_of_ne own hc] at h
      exact absurd h (lt_irrefl 0)

/-- **What escaping gives are the texts in which each delimiter stands behind a backslash.**  The
induction is from the end of the text, where it is seen what stands before a delimiter. -/
theorem exists_escaped_eq_iff (t : List Char) :
    (∃ s, escaped s = t) ↔ DelimitersAfter (0 < ·) t := by
  constructor
  · rintro ⟨s, rfl⟩
    exact (delimitersAfter_escaped _ s).mpr fun pre _ _ _ _ => Nat.succ_pos (slashes pre)
  · intro h
    induction t using List.reverseRecOn with
    | nil => exact ⟨[], rfl⟩
    | append_singleton t c ih =>
      have hbefore : DelimitersAfter (0 < ·) t := fun pre d post hsplit hd =>
        h pre d (post ++ [c]) (by rw [hsplit, List.append_assoc, List.cons_append]) hd
      obtain ⟨s, rfl⟩ := ih hbefore
      by_cases hc : c ∈ delimiters
      · have hrun : 0 < slashes s := slashes_escaped s ▸ h _ c [] rfl hc
        obtain ⟨own, rfl⟩ := exists_of_slashes_pos hrun
        refine ⟨own ++ [c], ?_⟩
        rw [escaped_append, escaped_append, escaped_cons_of_mem hc, List.append_assoc]
        rfl
      · refine ⟨s ++ [c], ?_⟩
        rw [escaped_append, escaped_cons_of_not_mem hc]
        rfl

/-- A text is written in one way, and that way is read off the written text. -/
theorem escaped_eq_iff (s t : List Char) :
    escaped s = t ↔ unescaped t = s ∧ DelimitersAfter (0 < ·) t := by
  constructor
  · rintro rfl
    exact ⟨unescaped_escaped s, (exists_escaped_eq_iff _).mp ⟨s, rfl⟩⟩
  · rintro ⟨rfl, h⟩
    obtain ⟨s, rfl⟩ := (exists_escaped_eq_iff t).mpr h
    rw [unescaped_escaped]

/-- **No text is lost when it is escaped.**  Taking off the one backslash before each delimiter
gives the text back, so that no two texts are written alike; and a text is written as `t` exactly if
it is what is left of `t`, and each delimiter of `t` stands behind a backslash.  It makes no
difference whether a text is escaped as a whole or in parts, or one delimiter after the other. -/
theorem escapeText_reversible (s t : String) :
    unescapeText (escapeText s) = s ∧
    (escapeText s = escapeText t ↔ s = t) ∧
    (escapeText s = t ↔ unescapeText t = s ∧ DelimitersAfter (0 < ·) t.toList) ∧
    escapeText (s ++ t) = escapeText s ++ escapeText t ∧
    escapeText s = String.ofList (marked ':' (marked '\'' s.toList)) := by
  have hback : ∀ u, unescapeText (escapeText u) = u := fun u => by
    rw [unescapeText, escapeText, String.toList_ofList, unescaped_escaped, String.ofList_toList]
  refine ⟨hback s, ⟨fun h => ?_, congrArg escapeText⟩, ?_, ?_, ?_⟩
  · rw [← hback s, h, hback t]
  · rw [← String.toList_inj, ← String.toList_inj, escapeText, unescapeText, String.toList_ofList,
      String.toList_ofList]
    exact escaped_eq_iff s.toList t.toList
  · rw [escapeText, String.toList_append, escaped_append, String.ofList_append]
    rfl
  · rw [escapeText, escaped_eq_marked]

end Compositor.Command
