import LintBridge.Proofs.Text.Lines
import LintBridge.Url.Reader

set_option autoImplicit false

/-! # The characters of paths

A text is drawn from another one if its characters are those of the other, without control
characters, or signs that a path is put together with (`Drawn`). Every step from a URL to its path
keeps to this. The main statement is `drawn_of_path`: a path is drawn from its URL.
-/

namespace LintBridge.Url

/-- The signs that paths are put together with: the separator of segments, the colon behind the
letter of a drive, and those of percent-encoding. -/
def pathSigns : List Char := "/:%0123456789ABCDEF".toList

/-- The characters of `p` are characters of `cs`, but not control characters, or signs of
paths. -/
def Drawn (cs p : List Char) : Prop := ∀ c ∈ p, c ∈ cs ∧ isControl c = false ∨ c ∈ pathSigns

namespace Drawn

variable {cs cs' p q : List Char}

theorem nil (cs : List Char) : Drawn cs [] := fun _ => nofun

theorem append (hp : Drawn cs p) (hq : Drawn cs q) : Drawn cs (p ++ q) := by
  intro c hc
  exact (List.mem_append.mp hc).elim (hp c) (hq c)

theorem cons_sign {c : Char} (hc : c ∈ pathSigns) (hp : Drawn cs p) : Drawn cs (c :: p) := by
  intro d hd
  rcases List.mem_cons.mp hd with rfl | hd
  · exact .inr hc
  · exact hp d hd

theorem mono (h : Drawn cs p) (hsub : cs ⊆ cs') : Drawn cs' p := by
  intro c hc
  exact (h c hc).imp_left fun hmem => ⟨hsub hmem.1, hmem.2⟩

/-- Signs of paths may be left out of a text to draw from. -/
theorem of_cons_sign {c : Char} (hc : c ∈ pathSigns) (h : Drawn (c :: cs) p) : Drawn cs p := by
  intro d hd
  rcases h d hd with ⟨hmem, hcontrol⟩ | hsign
  · rcases List.mem_cons.mp hmem with rfl | hmem
    · exact .inr hc
    · exact .inl ⟨hmem, hcontrol⟩
  · exact .inr hsign

end Drawn

/-! ## Percent-encoding -/

theorem hexDigit_mem_pathSigns {n : Nat} (h : n < 16) : hexDigit n ∈ pathSigns := by
  have hall : ∀ n < 16, hexDigit n ∈ pathSigns := by decide
  exact hall n h

theorem encodeByte_subset (b : UInt8) : encodeByte b ⊆ pathSigns := by
  have hb : b.toNat < 256 := UInt8.toNat_lt_size b
  have hhigh : hexDigit (b.toNat / 16) ∈ pathSigns := hexDigit_mem_pathSigns (by omega)
  have hlow : hexDigit (b.toNat % 16) ∈ pathSigns := hexDigit_mem_pathSigns (by omega)
  intro c hc
  simp only [encodeByte, List.mem_cons, List.not_mem_nil, or_false] at hc
  rcases hc with rfl | rfl | rfl
  · decide
  · exact hhigh
  · exact hlow

/-- Percent-encoding adds signs of paths only, and leaves no control characters. -/
theorem drawn_encode {isReserved : Char → Bool} (h : ∀ c, isControl c = true → isReserved c = true)
    (cs : List Char) : Drawn cs (encode isReserved cs) := by
  intro c hc
  obtain ⟨d, hd, hc⟩ := List.mem_flatMap.mp hc
  rw [encodeChar] at hc
  split at hc
  · obtain ⟨b, -, hc⟩ := List.mem_flatMap.mp hc
    exact .inr (encodeByte_subset b hc)
  · rename_i hplain
    obtain rfl := List.mem_singleton.mp hc
    refine .inl ⟨hd, ?_⟩
    by_contra hcontrol
    rw [Bool.not_eq_false] at hcontrol
    exact hplain (by rw [h c hcontrol]; rfl)

theorem isPathReserved_of_isControl (c : Char) (h : isControl c = true) :
    isPathReserved c = true := by
  simp [isPathReserved, h]

/-! ## Segments -/

theorem drawn_parent {cs : List Char} {segments : List (List Char)}
    (h : ∀ s ∈ segments, Drawn cs s) : ∀ s ∈ parent segments, Drawn cs s := by
  intro s hs
  unfold parent at hs
  split at hs
  · exact h s hs
  · split at hs
    · exact h s hs
    · exact h s (List.dropLast_subset _ hs)

theorem drawn_written {cs segment : List Char} (h : Drawn cs segment) (k : SchemeKind)
    (before : List (List Char)) : Drawn cs (written k before segment) := by
  unfold written
  split
  · split
    · rename_i c d _
      have hc : Drawn cs [c] := fun x hx => h x (List.mem_singleton.mp hx ▸ List.mem_cons_self)
      exact hc.append ((Drawn.nil cs).cons_sign (by decide))
    · exact h
  · exact h

theorem drawn_addSegments {cs : List Char} (k : SchemeKind) {before segments : List (List Char)}
    (hbefore : ∀ s ∈ before, Drawn cs s) (h : ∀ s ∈ segments, Drawn cs s) :
    ∀ s ∈ addSegments k before segments, Drawn cs s := by
  induction segments generalizing before with
  | nil => exact hbefore
  | cons segment rest ih =>
      obtain ⟨hsegment, hrest⟩ := List.forall_mem_cons.mp h
      have hafter : ∀ s ∈ (if isDoubleDot segment then parent before
          else if isSingleDot segment then before else before ++ [written k before segment]),
          Drawn cs s := by
        split
        · exact drawn_parent hbefore
        · split
          · exact hbefore
          · exact List.forall_mem_append.mpr
              ⟨hbefore, List.forall_mem_singleton.mpr (drawn_written hsegment k before)⟩
      unfold addSegments
      dsimp only
      split
      · exact List.forall_mem_append.mpr
          ⟨hafter, List.forall_mem_singleton.mpr (Drawn.nil cs)⟩
      · exact ih hafter hrest

theorem drawn_joinSegments {cs : List Char} {segments : List (List Char)}
    (h : ∀ s ∈ segments, Drawn cs s) : Drawn cs (joinSegments segments) := by
  induction segments with
  | nil => exact Drawn.nil cs
  | cons segment rest ih =>
      obtain ⟨hsegment, hrest⟩ := List.forall_mem_cons.mp h
      cases rest with
      | nil => simpa [joinSegments, List.intercalate] using hsegment
      | cons next rest =>
          have hjoin : joinSegments (segment :: next :: rest) =
              segment ++ '/' :: joinSegments (next :: rest) := by
            simp [joinSegments, List.intercalate]
          rw [hjoin]
          exact hsegment.append ((ih hrest).cons_sign (by decide))

theorem subset_of_mem_splitSegments {k : SchemeKind} {cs segment : List Char}
    (h : segment ∈ splitSegments k cs) : segment ⊆ '/' :: cs := by
  intro c hc
  have hmem := Text.subset_of_mem_splitAt h hc
  obtain ⟨d, hd, rfl⟩ := List.mem_map.mp hmem
  split
  · exact List.mem_cons_self
  · exact List.mem_cons_of_mem _ hd

/-- The path that a text stands for is drawn from the text. -/
theorem drawn_readPath (k : SchemeKind) (rooted : Bool) (cs : List Char) :
    Drawn cs (readPath k rooted cs) := by
  have hpieces : ∀ s ∈ (splitSegments k cs).map (encode isPathReserved), Drawn cs s := by
    intro s hs
    obtain ⟨segment, hsegment, rfl⟩ := List.mem_map.mp hs
    have hdrawn := drawn_encode isPathReserved_of_isControl segment
    exact (hdrawn.mono (subset_of_mem_splitSegments hsegment)).of_cons_sign (by decide)
  have hbefore : ∀ s ∈ (if rooted then [[]] else []), Drawn cs s := by
    intro s hs
    split at hs
    · rw [List.mem_singleton.mp hs]
      exact Drawn.nil cs
    · cases hs
  have hsegments := drawn_addSegments k hbefore hpieces
  unfold readPath
  dsimp only
  split
  · exact (drawn_joinSegments fun s hs =>
      hsegments s (List.dropWhile_subset _ hs)).cons_sign (by decide)
  · exact drawn_joinSegments hsegments

/-! ## Authorities -/

theorem skipPort_subset {n : Nat} {cs rest : List Char} (h : skipPort n cs = some rest) :
    rest ⊆ cs := by
  induction cs generalizing n with
  | nil =>
      cases h
      exact List.Subset.refl _
  | cons c cs ih =>
      rw [skipPort] at h
      dsimp only at h
      split at h
      · split at h
        · exact List.subset_cons_of_subset _ (ih h)
        · cases h
      · split at h
        · cases h
          exact List.Subset.refl _
        · cases h

theorem splitPort_subset (inBrackets : Bool) (cs : List Char) :
    (splitPort inBrackets cs).2 ⊆ cs := by
  induction cs generalizing inBrackets with
  | nil => exact List.Subset.refl _
  | cons c cs ih =>
      rw [splitPort]
      split
      · exact List.Subset.refl _
      · exact List.subset_cons_of_subset _ (ih _)

theorem splitLast_subset (c : Char) (cs : List Char) : (splitLast c cs).2 ⊆ cs := by
  unfold splitLast
  split
  · exact List.Subset.refl _
  · intro d hd
    exact List.mem_reverse.mp (List.takeWhile_subset _ (List.mem_reverse.mp hd))

/-- What an authority leaves to the path is a part of it. -/
theorem readAuthority_subset {k : SchemeKind} {ends : Bool} {cs rest : List Char}
    (h : readAuthority k ends cs = some rest) : rest ⊆ cs := by
  have hport : (splitPort false (splitLast '@' cs).2).2 ⊆ cs :=
    List.Subset.trans (splitPort_subset false _) (splitLast_subset '@' cs)
  unfold readAuthority at h
  dsimp only at h
  generalize (splitPort false (splitLast '@' cs).2).2 = port at h hport
  -- The checks of user and host refuse the authority or let all of it pass.
  cases port with
  | nil =>
      dsimp only at h
      have hrest : some [] = some rest := by
        repeat' split at h
        all_goals first | exact h | cases h
      cases hrest
      exact List.nil_subset cs
  | cons colon port =>
      dsimp only at h
      have hskip : skipPort 0 port = some rest := by
        repeat' split at h
        all_goals first | exact h | cases h
      exact List.Subset.trans (skipPort_subset hskip)
        (List.Subset.trans (List.subset_cons_self colon port) hport)

/-! ## URLs -/

theorem beforeQuery_subset (cs : List Char) : beforeQuery cs ⊆ cs := List.takeWhile_subset _

theorem drawn_pathBehind (k : SchemeKind) (cs : List Char) : Drawn cs (pathBehind k cs) := by
  unfold pathBehind
  split
  · cases cs with
    | nil => exact drawn_readPath k true []
    | cons c rest =>
        dsimp only
        split
        · exact (drawn_readPath k true rest).mono (List.subset_cons_self c rest)
        · exact drawn_readPath k true (c :: rest)
  · cases cs with
    | nil => exact Drawn.nil []
    | cons c rest =>
        dsimp only
        split
        · exact drawn_readPath k false (c :: rest)
        · exact drawn_readPath k true (c :: rest)

theorem drawn_of_readAfterSlashes {k : SchemeKind} {cs p : List Char}
    (h : readAfterSlashes k cs = some p) : Drawn cs p := by
  simp only [readAfterSlashes, Option.bind_eq_bind, Option.bind_eq_some_iff] at h
  obtain ⟨overrun, hauthority, h⟩ := h
  cases h
  have hoverrun : overrun ⊆ cs :=
    List.Subset.trans (readAuthority_subset hauthority) (List.takeWhile_subset _)
  have hrest : overrun ++ cs.dropWhile (fun c => !(k.isSlash c || endsPath c)) ⊆ cs :=
    List.append_subset.mpr ⟨hoverrun, List.dropWhile_subset _⟩
  exact (drawn_pathBehind k _).mono (List.Subset.trans (beforeQuery_subset _) hrest)

theorem drawn_of_readFile {cs p : List Char} (h : readFile cs = some p) : Drawn cs p := by
  have hquery : ∀ rooted, Drawn cs (readPath .file rooted (beforeQuery cs)) := fun rooted =>
    (drawn_readPath .file rooted _).mono (beforeQuery_subset cs)
  unfold readFile at h
  dsimp only at h
  split at h
  · rename_i c d rest
    have hrest : rest ⊆ c :: d :: rest :=
      List.Subset.trans (List.subset_cons_self d rest) (List.subset_cons_self c _)
    split at h
    · split at h
      · cases h
        exact (drawn_readPath .file true _).mono
          (List.Subset.trans (beforeQuery_subset rest) hrest)
      · split at h
        · cases h
          refine Drawn.mono ?_ hrest
          exact ((drawn_pathBehind .file _).mono (beforeQuery_subset _)).mono
            (List.dropWhile_subset _)
        · cases h
    · cases h
      exact hquery _
  · cases h
    exact hquery _

theorem drawn_of_readOther {cs p : List Char} (h : readOther cs = some p) : Drawn cs p := by
  unfold readOther at h
  split at h
  · rename_i rest
    have hrest : rest ⊆ '/' :: '/' :: rest :=
      List.Subset.trans (List.subset_cons_self _ _) (List.subset_cons_self _ _)
    exact (drawn_of_readAfterSlashes h).mono hrest
  · rename_i rest _
    cases h
    have hdrawn := (drawn_readPath .other true _).mono (beforeQuery_subset rest)
    exact hdrawn.mono (List.subset_cons_self _ _)
  · cases h
    exact (drawn_encode (fun _ h => h) _).mono (beforeQuery_subset cs)

theorem splitScheme_subset {cs scheme rest : List Char}
    (h : splitScheme cs = some (scheme, rest)) : rest ⊆ cs := by
  unfold splitScheme at h
  split at h
  · rename_i hcs
    split at h
    · cases h
      have hsub : ':' :: rest ⊆ cs := hcs ▸ List.dropWhile_subset _
      exact List.Subset.trans (List.subset_cons_self _ _) hsub
    · cases h
  · cases h

theorem clean_subset (cs : List Char) : clean cs ⊆ cs := by
  intro c hc
  have htrimmed := (List.mem_filter.mp hc).1
  have hrev := List.dropWhile_subset _ (List.mem_reverse.mp htrimmed)
  exact List.dropWhile_subset _ (List.mem_reverse.mp hrev)

/-- A path is drawn from its URL. -/
theorem drawn_of_path {uri p : List Char} (h : path? uri = some p) : Drawn uri p := by
  simp only [path?, Option.bind_eq_bind, Option.bind_eq_some_iff, Prod.exists] at h
  obtain ⟨scheme, rest, hscheme, h⟩ := h
  have hrest : rest ⊆ uri := List.Subset.trans (splitScheme_subset hscheme) (clean_subset uri)
  refine Drawn.mono ?_ hrest
  split at h
  · exact drawn_of_readFile h
  · exact (drawn_of_readAfterSlashes h).mono (List.dropWhile_subset _)
  · exact drawn_of_readOther h

end LintBridge.Url
