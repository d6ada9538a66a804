import LintBridge.Url.Reader

set_option autoImplicit false

/-! # What a path does not depend on

A question mark starts the query of a URL and a number sign its fragment. Neither the path nor
whether there is one depends on what follows the first such sign (`path?_ignoresQuery`). Every
step from a URL to its path keeps to this (`IgnoresQuery`), since it stops at the sign or carries
what follows it along.
-/

namespace LintBridge.Url

/-- What is read off a text does not depend on what follows a sign that ends the path, nor on
which sign it is. -/
def IgnoresQuery {α : Type} (read : List Char → α) : Prop :=
  ∀ (cs : List Char) {d d' : Char} (query query' : List Char), endsPath d = true →
    endsPath d' = true → read (cs ++ d :: query) = read (cs ++ d' :: query')

section

variable {p : Char → Bool} {d : Char} (hd : p d = false) (cs query : List Char)
include hd

theorem takeWhile_append_end : (cs ++ d :: query).takeWhile p = cs.takeWhile p := by
  induction cs with
  | nil => simp [hd]
  | cons c cs ih => simp only [List.cons_append, List.takeWhile_cons, ih]

theorem dropWhile_append_end : (cs ++ d :: query).dropWhile p = cs.dropWhile p ++ d :: query := by
  induction cs with
  | nil => simp [hd]
  | cons c cs ih =>
      simp only [List.cons_append, List.dropWhile_cons, ih]
      split <;> rfl

end

section

variable {d : Char} (hd : endsPath d = true)
include hd

theorem eq_of_endsPath : d = '?' ∨ d = '#' := by
  simpa [endsPath] using hd

theorem isSlash_of_endsPath (k : SchemeKind) : k.isSlash d = false := by
  rcases eq_of_endsPath hd with rfl | rfl <;> rfl

theorem beforeQuery_append (cs query : List Char) :
    beforeQuery (cs ++ d :: query) = beforeQuery cs :=
  takeWhile_append_end (by simp [hd]) cs query

/-- Cleaning leaves the sign where it is, and what stands before it does not depend on what
follows. -/
theorem clean_append (cs query : List Char) : ∃ query', clean (cs ++ d :: query) =
    (cs.dropWhile (· ≤ ' ')).filter (fun c => c ≠ '\t' ∧ c ≠ '\n' ∧ c ≠ '\r') ++ d :: query' := by
  have hblank : decide (d ≤ ' ') = false := by
    rcases eq_of_endsPath hd with rfl | rfl <;> rfl
  have hkeep : d ≠ '\t' ∧ d ≠ '\n' ∧ d ≠ '\r' := by
    rcases eq_of_endsPath hd with rfl | rfl <;> decide
  unfold clean
  dsimp only
  rw [dropWhile_append_end hblank, List.reverse_append, List.reverse_cons, List.append_assoc,
    List.singleton_append, dropWhile_append_end hblank, List.reverse_append, List.reverse_cons,
    List.reverse_reverse, List.append_assoc, List.singleton_append, List.filter_append,
    List.filter_cons_of_pos (by simpa using hkeep)]
  exact ⟨_, rfl⟩

theorem splitScheme_append (cs query : List Char) :
    splitScheme (cs ++ d :: query) =
      (splitScheme cs).map fun (scheme, rest) => (scheme, rest ++ d :: query) := by
  have hscheme : isSchemeChar d = false := by
    rcases eq_of_endsPath hd with rfl | rfl <;> rfl
  have hcolon : d ≠ ':' := by
    rcases eq_of_endsPath hd with rfl | rfl <;> decide
  unfold splitScheme
  rw [dropWhile_append_end hscheme, takeWhile_append_end hscheme]
  cases hrest : cs.dropWhile isSchemeChar with
  | nil =>
      rw [List.nil_append]
      split
      · rename_i heq
        exact absurd (List.cons.inj heq).1 hcolon
      · rfl
  | cons c rest =>
      have hhead : (cs ++ d :: query).head? = cs.head? := by
        cases cs with
        | nil => cases hrest
        | cons c cs => rfl
      rw [List.cons_append, hhead]
      by_cases hc : c = ':'
      · subst hc
        show (if cs.head?.any Char.isAlpha then
            some ((cs.takeWhile isSchemeChar).map Char.toLower, rest ++ d :: query) else none) =
          Option.map _ (if cs.head?.any Char.isAlpha then
            some ((cs.takeWhile isSchemeChar).map Char.toLower, rest) else none)
        split <;> rfl
      · split
        · rename_i heq
          exact absurd (List.cons.inj heq).1 hc
        · split
          · rename_i heq
            exact absurd (List.cons.inj heq).1 hc
          · rfl

end

/-! ## Readers -/

theorem readAfterSlashes_ignoresQuery (k : SchemeKind) : IgnoresQuery (readAfterSlashes k) := by
  have key : ∀ (cs : List Char) {d : Char} (query : List Char), endsPath d = true →
      readAfterSlashes k (cs ++ d :: query) =
        (readAuthority k false (cs.takeWhile fun c => !(k.isSlash c || endsPath c))).map
          fun overrun => pathBehind k (beforeQuery
            (overrun ++ cs.dropWhile fun c => !(k.isSlash c || endsPath c))) := by
    intro cs d query hd
    have hend : (!(k.isSlash d || endsPath d)) = false := by simp [hd]
    have hgoesOn : ∀ rest : List Char, (rest ++ d :: query).isEmpty = false := by simp
    unfold readAfterSlashes
    dsimp only
    rw [takeWhile_append_end hend, dropWhile_append_end hend, hgoesOn]
    simp only [← List.append_assoc, beforeQuery_append hd]
    cases readAuthority k false (cs.takeWhile fun c => !(k.isSlash c || endsPath c)) <;> rfl
  intro cs d d' query query' hd hd'
  rw [key cs query hd, key cs query' hd']

theorem readFile_ignoresQuery : IgnoresQuery readFile := by
  intro cs d d' query query' hd hd'
  match cs with
  | [] =>
      have key : ∀ {d : Char} (query : List Char), endsPath d = true →
          readFile (d :: query) = some (readPath .file true []) := by
        intro d query hd
        have hslash := isSlash_of_endsPath hd .file
        have hquery : beforeQuery (d :: query) = [] := beforeQuery_append hd [] query
        cases query with
        | nil => simp [readFile, hslash, hquery]
        | cons c query => simp [readFile, hslash, hquery]
      rw [List.nil_append, List.nil_append, key query hd, key query' hd']
  | [c] =>
      have key : ∀ {d : Char} (query : List Char), endsPath d = true →
          readFile (c :: d :: query) =
            some (readPath .file (!SchemeKind.file.isSlash c) (beforeQuery [c])) := by
        intro d query hd
        have hquery : beforeQuery (c :: d :: query) = beforeQuery [c] :=
          beforeQuery_append hd [c] query
        simp [readFile, isSlash_of_endsPath hd, hquery]
      exact (key query hd).trans (key query' hd').symm
  | c :: e :: rest =>
      have key : ∀ {d : Char} (query : List Char), endsPath d = true →
          (rest ++ d :: query).takeWhile (fun c => !(SchemeKind.file.isSlash c || endsPath c)) =
              rest.takeWhile (fun c => !(SchemeKind.file.isSlash c || endsPath c)) ∧
            beforeQuery ((rest ++ d :: query).dropWhile
                fun c => !(SchemeKind.file.isSlash c || endsPath c)) =
              beforeQuery (rest.dropWhile
                fun c => !(SchemeKind.file.isSlash c || endsPath c)) := by
        intro d query hd
        have hend : (!(SchemeKind.file.isSlash d || endsPath d)) = false := by simp [hd]
        refine ⟨takeWhile_append_end hend rest query, ?_⟩
        rw [dropWhile_append_end hend, beforeQuery_append hd]
      have hwhole : beforeQuery (c :: e :: (rest ++ d :: query)) =
          beforeQuery (c :: e :: (rest ++ d' :: query')) :=
        (beforeQuery_append hd (c :: e :: rest) query).trans
          (beforeQuery_append hd' (c :: e :: rest) query').symm
      simp only [List.cons_append, readFile, hwhole, (key query hd).1, (key query hd).2,
        (key query' hd').1, (key query' hd').2, beforeQuery_append hd, beforeQuery_append hd']

/-- What follows the scheme is read by the slashes at its front. -/
theorem readOther_of_ne {c : Char} (hc : c ≠ '/') (cs : List Char) :
    readOther (c :: cs) = some (encode isControl (beforeQuery (c :: cs))) := by
  unfold readOther
  split
  · exact absurd (List.cons.inj ‹_›).1 hc
  · exact absurd (List.cons.inj ‹_›).1 hc
  · rfl

theorem readOther_slash_of_ne {c : Char} (hc : c ≠ '/') (cs : List Char) :
    readOther ('/' :: c :: cs) = some (readPath .other true (beforeQuery (c :: cs))) := by
  unfold readOther
  split
  · exact absurd (List.cons.inj (List.cons.inj ‹_›).2).1 hc
  · obtain ⟨-, rfl⟩ := List.cons.inj ‹_›
    rfl
  · rename_i hnone
    exact (hnone (c :: cs) rfl).elim

theorem readOther_ignoresQuery : IgnoresQuery readOther := by
  intro cs d d' query query' hd hd'
  have hslash : ∀ {d : Char}, endsPath d = true → d ≠ '/' := by
    intro d hd
    rcases eq_of_endsPath hd with rfl | rfl <;> decide
  have hplain : ∀ cs : List Char, beforeQuery (cs ++ d :: query) =
      beforeQuery (cs ++ d' :: query') := by
    intro cs
    rw [beforeQuery_append hd, beforeQuery_append hd']
  match cs with
  | [] =>
      rw [List.nil_append, List.nil_append, readOther_of_ne (hslash hd),
        readOther_of_ne (hslash hd')]
      exact congrArg (fun path => some (encode isControl path)) (hplain [])
  | [c] =>
      by_cases hc : c = '/'
      · subst hc
        show readOther ('/' :: d :: query) = readOther ('/' :: d' :: query')
        rw [readOther_slash_of_ne (hslash hd), readOther_slash_of_ne (hslash hd')]
        exact congrArg (fun path => some (readPath .other true path)) (hplain [])
      · show readOther (c :: d :: query) = readOther (c :: d' :: query')
        rw [readOther_of_ne hc, readOther_of_ne hc]
        exact congrArg (fun path => some (encode isControl path)) (hplain [c])
  | c :: e :: rest =>
      rw [List.cons_append, List.cons_append, List.cons_append, List.cons_append]
      by_cases hc : c = '/'
      · subst hc
        by_cases he : e = '/'
        · subst he
          exact readAfterSlashes_ignoresQuery .other rest query query' hd hd'
        · rw [readOther_slash_of_ne he, readOther_slash_of_ne he]
          exact congrArg (fun path => some (readPath .other true path)) (hplain (e :: rest))
      · rw [readOther_of_ne hc, readOther_of_ne hc]
        exact congrArg (fun path => some (encode isControl path)) (hplain (c :: e :: rest))

/-- Behind every scheme, what is read of a URL does not depend on the query. -/
theorem readScheme_ignoresQuery (k : SchemeKind) : IgnoresQuery fun rest => match k with
    | .file => readFile rest
    | .web => readAfterSlashes .web (rest.dropWhile SchemeKind.web.isSlash)
    | .other => readOther rest := by
  cases k with
  | file => exact readFile_ignoresQuery
  | web =>
      intro cs d d' query query' hd hd'
      dsimp only
      rw [dropWhile_append_end (isSlash_of_endsPath hd .web),
        dropWhile_append_end (isSlash_of_endsPath hd' .web)]
      exact readAfterSlashes_ignoresQuery .web _ query query' hd hd'
  | other => exact readOther_ignoresQuery

/-- **The path of a URL does not depend on its query and fragment**, nor does it depend on them
whether there is one. -/
theorem path?_ignoresQuery : IgnoresQuery path? := by
  intro cs d d' query query' hd hd'
  obtain ⟨rest, hrest⟩ := clean_append hd cs query
  obtain ⟨rest', hrest'⟩ := clean_append hd' cs query'
  unfold path?
  rw [hrest, hrest', splitScheme_append hd, splitScheme_append hd']
  generalize splitScheme _ = split
  cases split with
  | none => rfl
  | some split =>
      obtain ⟨scheme, before⟩ := split
      exact readScheme_ignoresQuery (SchemeKind.of scheme) before rest rest' hd hd'

end LintBridge.Url
