import LintBridge.Text.Basic
import Mathlib.Data.List.TakeWhile

set_option autoImplicit false

/-! # Blanks at the ends, and lines

A text is cut where a property of its characters ends (`takeWhile_dropWhile_iff`). Blanks at
either end of a text do not count when it is trimmed (`trim_append_blank`, `trim_blank_append`),
and a text is trimmed around a character that is not blank part by part (`trim_append_cons`).

A text is cut into pieces at a separator, and the pieces of two texts with a separator between
them are those of the one and those of the other (`splitAt_append_sep`). The pieces at line feeds
are the lines. `LineAt` says where one line lies in the text; every line of `lines` lies there
(`lineAt_of_getElem?`). The pieces of a text that is put together at line ends are the pieces of
its parts (`lines_append_lineFeed`, `lines_started`, `lines_line_append`).
-/

namespace LintBridge.Text

/-! ## Starts of texts

Texts are cut as characters and as bytes. -/

section

variable {α : Type}

/-- There is one place to cut a text where a property of its characters ends. -/
theorem takeWhile_dropWhile_iff {p : α → Bool} {cs front rest : List α} :
    cs.takeWhile p = front ∧ cs.dropWhile p = rest ↔
      cs = front ++ rest ∧ (∀ c ∈ front, p c = true) ∧ ∀ c ∈ rest.head?, p c = false := by
  constructor
  · rintro ⟨rfl, rfl⟩
    refine ⟨List.takeWhile_append_dropWhile.symm, fun c hc =>
      List.all_eq_true.mp List.all_takeWhile c hc, fun c hc => ?_⟩
    have hhead := List.head?_dropWhile_not p cs
    rw [show (cs.dropWhile p).head? = some c from hc] at hhead
    simpa using hhead
  · rintro ⟨rfl, hfront, hrest⟩
    rw [List.takeWhile_append_of_pos hfront, List.dropWhile_append_of_pos hfront]
    cases rest with
    | nil => exact ⟨List.append_nil _, rfl⟩
    | cons c rest =>
        have hc : ¬ p c = true := by simp [hrest c rfl]
        rw [List.takeWhile_cons_of_neg hc, List.dropWhile_cons_of_neg hc, List.append_nil]
        exact ⟨rfl, rfl⟩

variable [DecidableEq α] {sep : α}

/-- Up to a separator that it does not hold, a text is passed as a whole. -/
theorem forall_ne_of_notMem {cs : List α} (h : sep ∉ cs) :
    ∀ c ∈ cs, decide (c ≠ sep) = true := by
  intro c hc
  rw [decide_eq_true_iff]
  rintro rfl
  exact h hc

/-- A text is cut at the first separator. -/
theorem takeWhile_dropWhile_sep {front : List α} (h : sep ∉ front)
    (rest : List α) : (front ++ sep :: rest).takeWhile (· ≠ sep) = front ∧
      (front ++ sep :: rest).dropWhile (· ≠ sep) = sep :: rest :=
  takeWhile_dropWhile_iff.mpr ⟨rfl, forall_ne_of_notMem h, by simp⟩

/-- A text has one first separator. -/
theorem front_eq_of_append_sep {front front' rest rest' : List α} (h : sep ∉ front)
    (h' : sep ∉ front') (heq : front ++ sep :: rest = front' ++ sep :: rest') : front = front' := by
  have htake := (takeWhile_dropWhile_sep h rest).1
  rw [heq, (takeWhile_dropWhile_sep h' rest').1] at htake
  exact htake.symm

end

/-! ## Blanks -/

theorem isBlank_of_isDigit {c : Char} (h : c.isDigit = true) : isBlank c = false := by
  have hbounds : 48 ≤ c.toNat ∧ c.toNat ≤ 57 := by
    simpa [Char.isDigit, Char.le_def, UInt32.le_iff_toNat_le] using h
  simp only [isBlank, Bool.or_eq_false_iff, Bool.and_eq_false_iff, beq_eq_false_iff_ne,
    decide_eq_false_iff_not]
  omega

section

variable {cs bs : List Char}

/-- The indentation of a text is its longest start of blanks. -/
theorem indentation_maximal (cs : List Char) :
    (∀ c ∈ indentation cs, isBlank c = true) ∧ ∀ c ∈ (trimStart cs).head?, isBlank c = false :=
  (takeWhile_dropWhile_iff.mp ⟨rfl, rfl⟩).2

theorem trim_eq_nil_iff (cs : List Char) : trim cs = [] ↔ ∀ c ∈ cs, isBlank c = true := by
  have hstart : trimStart cs = [] ↔ ∀ c ∈ cs, isBlank c = true := List.dropWhile_eq_nil_iff
  rw [← hstart]
  constructor
  · intro h
    have hall : ∀ c ∈ (trimStart cs).reverse, isBlank c = true := by
      rw [← List.dropWhile_eq_nil_iff]
      simpa [trim, trimEnd] using h
    cases hcs : trimStart cs with
    | nil => rfl
    | cons c rest =>
        -- What is left after trimming at the start does not begin with a blank.
        have hblank : isBlank c = true := hall c (by simp [hcs])
        have hstarts : isBlank c = false := (indentation_maximal cs).2 c (by simp [hcs])
        cases hblank.symm.trans hstarts
  · intro h
    rw [trim, h]
    rfl

theorem trim_blank_append (h : ∀ b ∈ bs, isBlank b = true) : trim (bs ++ cs) = trim cs := by
  rw [trim, trimStart, List.dropWhile_append_of_pos h]
  rfl

theorem trimEnd_append_blank (h : ∀ b ∈ bs, isBlank b = true) :
    trimEnd (cs ++ bs) = trimEnd cs := by
  have hrev : ∀ b ∈ bs.reverse, isBlank b = true := fun b hb => h b (List.mem_reverse.mp hb)
  rw [trimEnd, List.reverse_append, List.dropWhile_append_of_pos hrev]
  rfl

theorem trim_append_blank (h : ∀ b ∈ bs, isBlank b = true) : trim (cs ++ bs) = trim cs := by
  by_cases hcs : ∀ c ∈ cs, isBlank c = true
  · have hall : ∀ c ∈ cs ++ bs, isBlank c = true := by
      intro c hc
      exact (List.mem_append.mp hc).elim (hcs c) (h c)
    rw [(trim_eq_nil_iff _).mpr hall, (trim_eq_nil_iff _).mpr hcs]
  · have hne : trimStart cs ≠ [] := fun hnil => hcs (List.dropWhile_eq_nil_iff.mp hnil)
    have hstart : trimStart (cs ++ bs) = trimStart cs ++ bs := by
      rw [trimStart, List.dropWhile_append, if_neg (by simpa [trimStart] using hne)]
      rfl
    rw [trim, hstart, trimEnd_append_blank h]
    rfl

theorem trim_trimStart (cs : List Char) : trim (trimStart cs) = trim cs := by
  calc trim (trimStart cs)
      = trim (indentation cs ++ trimStart cs) :=
        (trim_blank_append (indentation_maximal cs).1).symm
    _ = trim cs := by rw [indentation_append_trimStart]

/-- Only blanks are trimmed. -/
theorem trimEnd_append (cs : List Char) :
    ∃ bs, trimEnd cs ++ bs = cs ∧ ∀ b ∈ bs, isBlank b = true := by
  refine ⟨(indentation cs.reverse).reverse, ?_, fun b hb =>
    (indentation_maximal cs.reverse).1 b (List.mem_reverse.mp hb)⟩
  rw [trimEnd, indentation, ← List.reverse_append, List.takeWhile_append_dropWhile,
    List.reverse_reverse]

theorem trim_trimEnd (cs : List Char) : trim (trimEnd cs) = trim cs := by
  obtain ⟨bs, hcs, hblank⟩ := trimEnd_append cs
  calc trim (trimEnd cs)
      = trim (trimEnd cs ++ bs) := (trim_append_blank hblank).symm
    _ = trim cs := by rw [hcs]

/-- The first character behind blanks. -/
theorem trimStart_eq_cons_iff {c : Char} {rest : List Char} (hc : isBlank c = false) :
    trimStart cs = c :: rest ↔ ∃ bs, cs = bs ++ c :: rest ∧ ∀ b ∈ bs, isBlank b = true := by
  constructor
  · intro h
    obtain ⟨hcs, hbs, -⟩ := takeWhile_dropWhile_iff.mp ⟨rfl, h⟩
    exact ⟨_, hcs, hbs⟩
  · rintro ⟨bs, rfl, hbs⟩
    exact (takeWhile_dropWhile_iff.mpr ⟨rfl, hbs, by simpa using hc⟩).2

/-- A trimmed text does not start with a blank. -/
theorem isBlank_of_head?_trim {c : Char} (h : (trim cs).head? = some c) : isBlank c = false := by
  obtain ⟨bs, hstart, -⟩ := trimEnd_append (trimStart cs)
  have hhead : (trimStart cs).head? = some c := by
    rw [← hstart, List.head?_append, show (trimEnd (trimStart cs)).head? = some c from h]
    rfl
  exact (indentation_maximal cs).2 c hhead

/-- Without blanks there is nothing to trim. -/
theorem trim_eq_self (h : ∀ c ∈ cs, isBlank c = false) : trim cs = cs := by
  have hkept : ∀ xs : List Char, (∀ c ∈ xs, isBlank c = false) → xs.dropWhile isBlank = xs := by
    intro xs hxs
    cases xs with
    | nil => rfl
    | cons c xs => exact List.dropWhile_cons_of_neg (by simp [hxs c List.mem_cons_self])
  have hrev : ∀ c ∈ cs.reverse, isBlank c = false := fun c hc => h c (List.mem_reverse.mp hc)
  rw [trim, trimStart, hkept cs h, trimEnd, hkept cs.reverse hrev, List.reverse_reverse]

theorem dropWhile_isBlank_append_cons {c : Char} (hc : isBlank c = false) (cs cs' : List Char) :
    (cs ++ c :: cs').dropWhile isBlank = cs.dropWhile isBlank ++ c :: cs' := by
  rw [List.dropWhile_append]
  split
  · rename_i h
    rw [List.isEmpty_iff.mp h, List.dropWhile_cons_of_neg (by simp [hc])]
    rfl
  · rfl

/-- At the end, a text is trimmed up to a character that is not blank. -/
theorem trimEnd_append_cons {c : Char} (hc : isBlank c = false) (cs cs' : List Char) :
    trimEnd (cs ++ c :: cs') = cs ++ c :: trimEnd cs' := by
  rw [trimEnd, List.reverse_append, List.reverse_cons, List.append_assoc,
    List.singleton_append, dropWhile_isBlank_append_cons hc, trimEnd]
  simp

/-- Around a character that is not blank only the far ends are trimmed. -/
theorem trim_append_cons {c : Char} (hc : isBlank c = false) (cs cs' : List Char) :
    trim (cs ++ c :: cs') = trimStart cs ++ c :: trimEnd cs' := by
  rw [trim, trimStart, dropWhile_isBlank_append_cons hc, trimEnd_append_cons hc]
  rfl

theorem count_eq_zero_of_blank {c : Char} (hc : isBlank c = false)
    (h : ∀ b ∈ bs, isBlank b = true) : bs.count c = 0 := by
  rw [List.count_eq_zero]
  intro hmem
  rw [h c hmem] at hc
  cases hc

theorem count_trimEnd {c : Char} (hc : isBlank c = false) (cs : List Char) :
    (trimEnd cs).count c = cs.count c := by
  obtain ⟨bs, hcs, hbs⟩ := trimEnd_append cs
  have happend := congrArg (List.count c) hcs
  rwa [List.count_append, count_eq_zero_of_blank hc hbs] at happend

/-- Trimming takes away no character that is not blank. -/
theorem count_trim {c : Char} (hc : isBlank c = false) (cs : List Char) :
    (trim cs).count c = cs.count c := by
  have hindent := count_eq_zero_of_blank hc (indentation_maximal cs).1
  have happend := congrArg (List.count c) (indentation_append_trimStart cs)
  rw [List.count_append, hindent, Nat.zero_add] at happend
  rw [trim, count_trimEnd hc, happend]

end

/-! ## Pieces -/

section

variable {sep : Char}

/-- The pieces of a text hold nothing but its characters. -/
theorem subset_of_mem_splitAt {cs piece : List Char} (h : piece ∈ splitAt sep cs) :
    piece ⊆ cs := by
  induction cs generalizing piece with
  | nil =>
      rw [splitAt_nil] at h
      rw [List.mem_singleton.mp h]
      exact List.Subset.refl _
  | cons c cs ih =>
      rw [splitAt_cons] at h
      split at h
      · rcases List.mem_cons.mp h with rfl | h
        · exact List.nil_subset _
        · exact List.subset_cons_of_subset _ (ih h)
      · split at h
        · rw [List.mem_singleton.mp h]
          exact List.cons_subset_cons _ (List.nil_subset _)
        · rename_i first rest hcs
          rcases List.mem_cons.mp h with rfl | h
          · exact List.cons_subset_cons _ (ih (hcs ▸ List.mem_cons_self))
          · exact List.subset_cons_of_subset _ (ih (hcs ▸ List.mem_cons_of_mem _ h))

theorem splitAt_ne_nil (sep : Char) (cs : List Char) : splitAt sep cs ≠ [] := by
  cases cs with
  | nil => exact List.cons_ne_nil _ _
  | cons c cs =>
      rw [splitAt_cons]
      split
      · exact List.cons_ne_nil _ _
      · split <;> exact List.cons_ne_nil _ _

/-- A character other than the separator belongs to the first piece. -/
theorem splitAt_cons_of_ne {c : Char} (hc : c ≠ sep) (cs : List Char) :
    ∃ piece rest, splitAt sep cs = piece :: rest ∧ splitAt sep (c :: cs) = (c :: piece) :: rest := by
  obtain ⟨piece, rest, h⟩ := List.exists_cons_of_ne_nil (splitAt_ne_nil sep cs)
  exact ⟨piece, rest, h, by rw [splitAt_cons, if_neg hc, h]⟩

theorem splitAt_of_notMem {cs : List Char} (h : sep ∉ cs) : splitAt sep cs = [cs] := by
  induction cs with
  | nil => rfl
  | cons c cs ih =>
      have hc : c ≠ sep := fun heq => h (heq ▸ List.mem_cons_self)
      rw [splitAt_cons, if_neg hc, ih fun hmem => h (List.mem_cons_of_mem _ hmem)]

/-- A separator ends a piece and starts one. -/
theorem splitAt_append_sep (cs cs' : List Char) :
    splitAt sep (cs ++ sep :: cs') = splitAt sep cs ++ splitAt sep cs' := by
  induction cs with
  | nil => rw [List.nil_append, splitAt_cons, if_pos rfl]; rfl
  | cons c cs ih =>
      by_cases hc : c = sep
      · rw [List.cons_append, splitAt_cons, splitAt_cons, if_pos hc, if_pos hc, ih]
        rfl
      · obtain ⟨piece, rest, hcs, hcons⟩ := splitAt_cons_of_ne hc cs
        rw [List.cons_append, splitAt_cons, if_neg hc, ih, hcs, hcons]
        rfl

/-- No piece holds the separator. -/
theorem notMem_of_mem_splitAt {cs piece : List Char} (h : piece ∈ splitAt sep cs) :
    sep ∉ piece := by
  induction cs generalizing piece with
  | nil =>
      rw [splitAt_nil] at h
      rw [List.mem_singleton.mp h]
      exact List.not_mem_nil
  | cons c cs ih =>
      by_cases hc : c = sep
      · rw [splitAt_cons, if_pos hc] at h
        rcases List.mem_cons.mp h with rfl | h
        · exact List.not_mem_nil
        · exact ih h
      · obtain ⟨first, rest, hcs, hcons⟩ := splitAt_cons_of_ne hc cs
        rw [hcs] at ih
        rw [hcons] at h
        rcases List.mem_cons.mp h with rfl | h
        · exact List.not_mem_cons_of_ne_of_not_mem (Ne.symm hc) (ih List.mem_cons_self)
        · exact ih (List.mem_cons_of_mem _ h)

end

/-! ## Lines -/

theorem lines_cons (c : Char) (cs : List Char) :
    lines (c :: cs) = if c = '\n' then [] :: lines cs
      else match lines cs with
        | [] => [[c]]
        | piece :: rest => (c :: piece) :: rest := splitAt_cons '\n' c cs

/-- A character other than the line feed belongs to the first line. -/
theorem lines_cons_of_ne {c : Char} (hc : c ≠ '\n') (cs : List Char) :
    ∃ piece rest, lines cs = piece :: rest ∧ lines (c :: cs) = (c :: piece) :: rest :=
  splitAt_cons_of_ne hc cs

/-- `line` is line number `i` of the text `cs`; `before` and `after` are what stands around
it. -/
structure LineAt (cs : List Char) (i : Nat) (before line after : List Char) : Prop where
  text : cs = before ++ line ++ after
  number : before.count '\n' = i
  started : before = [] ∨ ∃ earlier, before = earlier ++ ['\n']
  whole : '\n' ∉ line
  ended : after = [] ∨ ∃ later, after = '\n' :: later

/-- What starts a line and has no line feed is empty. -/
theorem LineAt.before_eq_nil {cs before line after : List Char}
    (h : LineAt cs 0 before line after) : before = [] := by
  rcases h.started with hnil | ⟨earlier, hbefore⟩
  · exact hnil
  · have hcount := h.number
    simp [hbefore] at hcount

theorem LineAt.cons {cs before line after : List Char} {i : Nat} {c : Char}
    (h : LineAt cs i before line after) (hc : c = '\n' ∨ before ≠ []) :
    LineAt (c :: cs) (if c = '\n' then i + 1 else i) (c :: before) line after where
  text := by rw [h.text]; rfl
  number := by
    rw [List.count_cons, h.number]
    by_cases hlf : c = '\n' <;> simp [hlf]
  started := by
    right
    rcases h.started with hnil | ⟨earlier, hbefore⟩
    · have hlf : c = '\n' := hc.resolve_right (absurd hnil)
      exact ⟨[], by rw [hnil, hlf]; rfl⟩
    · exact ⟨c :: earlier, by rw [hbefore]; rfl⟩
  whole := h.whole
  ended := h.ended

/-- Every line of a text lies somewhere in it. -/
theorem lineAt_of_getElem? {cs line : List Char} {i : Nat} (h : (lines cs)[i]? = some line) :
    ∃ before after, LineAt cs i before line after := by
  induction cs generalizing i line with
  | nil =>
      cases i with
      | zero =>
          obtain rfl : line = [] := by simpa [lines, splitAt_nil] using h.symm
          exact ⟨[], [], rfl, rfl, .inl rfl, List.not_mem_nil, .inl rfl⟩
      | succ i => simp [lines, splitAt_nil] at h
  | cons c cs ih =>
      by_cases hc : c = '\n'
      · rw [lines_cons, if_pos hc] at h
        cases i with
        | zero =>
            obtain rfl : line = [] := by simpa using h.symm
            exact ⟨[], c :: cs, rfl, rfl, .inl rfl, List.not_mem_nil, .inr ⟨cs, by rw [hc]⟩⟩
        | succ i =>
            obtain ⟨before, after, hline⟩ := ih (by simpa using h)
            have hcons := hline.cons (.inl hc)
            rw [if_pos hc] at hcons
            exact ⟨c :: before, after, hcons⟩
      · obtain ⟨piece, rest, hcs, hcons⟩ := lines_cons_of_ne hc cs
        rw [hcons] at h
        cases i with
        | zero =>
            obtain rfl : line = c :: piece := by simpa using h.symm
            have hpiece : (lines cs)[0]? = some piece := by simp [hcs]
            obtain ⟨before, after, hline⟩ := ih hpiece
            have hnil := hline.before_eq_nil
            subst hnil
            refine ⟨[], after, by rw [hline.text]; rfl, rfl, .inl rfl, ?_, hline.ended⟩
            intro hmem
            rcases List.mem_cons.mp hmem with heq | hmem
            · exact hc heq.symm
            · exact hline.whole hmem
        | succ i =>
            have hlater : (lines cs)[i + 1]? = some line := by simpa [hcs] using h
            obtain ⟨before, after, hline⟩ := ih hlater
            have hne : before ≠ [] := by
              rintro rfl
              exact absurd hline.number (by simp)
            have hcons := hline.cons (c := c) (.inr hne)
            rw [if_neg hc] at hcons
            exact ⟨c :: before, after, hcons⟩

/-! ## Lines of parts -/

theorem lines_of_notMem {cs : List Char} (h : '\n' ∉ cs) : lines cs = [cs] := splitAt_of_notMem h

/-- There is one line more than line feeds. -/
theorem length_lines (cs : List Char) : (lines cs).length = cs.count '\n' + 1 := by
  induction cs with
  | nil => rfl
  | cons c cs ih =>
      by_cases hc : c = '\n'
      · rw [lines_cons, if_pos hc, List.length_cons, ih, hc, List.count_cons_self]
      · obtain ⟨piece, rest, hcs, hcons⟩ := lines_cons_of_ne hc cs
        rw [hcons, List.count_cons_of_ne hc, ← ih, hcs]
        rfl

/-- A line feed ends a line and starts one. -/
theorem lines_append_lineFeed (cs cs' : List Char) :
    lines (cs ++ '\n' :: cs') = lines cs ++ lines cs' := splitAt_append_sep cs cs'

/-- The lines of a text that starts with whole lines. -/
theorem lines_started {before : List Char}
    (h : before = [] ∨ ∃ earlier, before = earlier ++ ['\n']) (cs : List Char) :
    lines (before ++ cs) = (lines before).dropLast ++ lines cs := by
  rcases h with rfl | ⟨earlier, rfl⟩
  · rfl
  · rw [List.append_assoc, List.singleton_append, lines_append_lineFeed,
      lines_append_lineFeed]
    congr 1
    exact List.dropLast_concat.symm

/-- The lines of a text that starts with the rest of a line. -/
theorem lines_line_append {line after : List Char} (hline : '\n' ∉ line)
    (h : after = [] ∨ ∃ later, after = '\n' :: later) :
    lines (line ++ after) = line :: (lines after).tail := by
  rcases h with rfl | ⟨later, rfl⟩
  · rw [List.append_nil, lines_of_notMem hline]
    rfl
  · rw [lines_append_lineFeed, lines_of_notMem hline, lines_cons, if_pos rfl]
    rfl

end LintBridge.Text
