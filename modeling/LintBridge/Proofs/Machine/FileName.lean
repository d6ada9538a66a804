import LintBridge.Machine.FileTree
import LintBridge.Proofs.Text.Lines

set_option autoImplicit false

/-! # Names of files

The name of a file is the part of its path behind the last slash that counts
(`Path.mem_splitAt_of_fileName?`), and its extension is what stands behind the last period of the
name (`Path.extensionOf_eq_some_iff`). Conversely a name without slashes, other than the names of
directories that are there anyway (`Path.IsName`), adds one part to the path of a directory
(`Path.parts_join`). In every file tree the path then leads to that name in the directory or to
nothing (`FileTree.locate_join`).
-/

namespace LintBridge

namespace Path

/-! ## From a path to a name -/

theorem mem_parts {path part : List Char} :
    part ∈ parts path ↔ part ∈ Text.splitAt '/' path ∧ part ≠ [] ∧ part ≠ ['.'] := by
  simp [parts]

theorem fileName?_eq_some_iff {path name : List Char} :
    fileName? path = some name ↔ (parts path).getLast? = some name ∧ name ≠ ['.', '.'] := by
  unfold fileName?
  cases (parts path).getLast? with
  | none => simp
  | some last =>
      by_cases h : last = ['.', '.']
      · simp only [h, if_true, Option.some.injEq, reduceCtorEq, false_iff, not_and, not_not]
        exact Eq.symm
      · simp only [h, if_false, Option.some.injEq]
        exact ⟨fun heq => ⟨heq, heq ▸ h⟩, fun heq => heq.1⟩

theorem mem_splitAt_of_fileName? {path name : List Char} (h : fileName? path = some name) :
    name ∈ Text.splitAt '/' path :=
  (mem_parts.mp (List.mem_of_getLast? (fileName?_eq_some_iff.mp h).1)).1

theorem extensionOf_append {front extension : List Char} (h : '.' ∉ extension) :
    extensionOf (front ++ '.' :: extension) = if front = [] then none else some extension := by
  have hreverse : (front ++ '.' :: extension).reverse =
      extension.reverse ++ '.' :: front.reverse := by
    simp
  obtain ⟨htake, hdrop⟩ := Text.takeWhile_dropWhile_sep (mt List.mem_reverse.mp h) front.reverse
  rw [extensionOf, hreverse, htake, hdrop, List.reverse_reverse]
  cases hfront : front.reverse with
  | nil => rw [if_pos (List.reverse_eq_nil_iff.mp hfront)]
  | cons c rest =>
      have hne : front ≠ [] := by
        rintro rfl
        cases hfront
      rw [if_neg hne]

theorem extensionOf_of_notMem {name : List Char} (h : '.' ∉ name) : extensionOf name = none := by
  have hdrop : name.reverse.dropWhile (· ≠ '.') = [] := by
    rw [List.dropWhile_eq_nil_iff]
    exact Text.forall_ne_of_notMem (mt List.mem_reverse.mp h)
  rw [extensionOf, hdrop]

/-- An extension stands behind the last period of a name, with something in front of it. -/
theorem extensionOf_eq_some_iff {name extension : List Char} :
    extensionOf name = some extension ↔
      ∃ front, front ≠ [] ∧ name = front ++ '.' :: extension ∧ '.' ∉ extension := by
  constructor
  · intro h
    by_cases hperiod : '.' ∈ name.reverse
    · obtain ⟨behind, before, hcut, hbehind⟩ := List.eq_append_cons_of_mem hperiod
      obtain rfl : name = before.reverse ++ '.' :: behind.reverse := by
        rw [← List.reverse_reverse name, hcut]
        simp
      rw [extensionOf_append (mt List.mem_reverse.mp hbehind)] at h
      split at h
      · cases h
      · cases h
        exact ⟨before.reverse, ‹_›, rfl, mt List.mem_reverse.mp hbehind⟩
    · rw [extensionOf_of_notMem (mt List.mem_reverse.mpr hperiod)] at h
      cases h
  · rintro ⟨front, hfront, rfl, hextension⟩
    rw [extensionOf_append hextension, if_neg hfront]

/-! ## From a name to a path -/

/-- A name that a file can be given in any directory. -/
structure IsName (name : List Char) : Prop where
  whole : '/' ∉ name
  notEmpty : name ≠ []
  notHere : name ≠ ['.']
  notAbove : name ≠ ['.', '.']

namespace IsName

variable {name : List Char}

theorem splitAt_eq (h : IsName name) : Text.splitAt '/' name = [name] :=
  Text.splitAt_of_notMem h.whole

theorem isAbsolute_eq (h : IsName name) : isAbsolute name = false := by
  rw [isAbsolute, decide_eq_false_iff_not]
  intro hhead
  exact h.whole (List.mem_of_head? hhead)

/-- Behind a directory, a name is the last piece of the path. An empty piece at the end of the
directory is lost. -/
theorem splitAt_join (h : IsName name) (dir : List Char) :
    ∃ pieces, Text.splitAt '/' (join dir name) = pieces ++ [name] ∧
      (Text.splitAt '/' dir = pieces ∨ Text.splitAt '/' dir = pieces ++ [[]]) := by
  rw [join, h.isAbsolute_eq, if_neg Bool.false_ne_true]
  split
  · rename_i hend
    rcases hend with rfl | hlast
    · exact ⟨[], h.splitAt_eq, .inr (Text.splitAt_nil '/')⟩
    · obtain ⟨front, rfl⟩ := List.getLast?_eq_some_iff.mp hlast
      refine ⟨Text.splitAt '/' front, ?_, .inr (Text.splitAt_append_sep front [])⟩
      rw [List.append_assoc, List.singleton_append, Text.splitAt_append_sep, h.splitAt_eq]
  · refine ⟨Text.splitAt '/' dir, ?_, .inl rfl⟩
    rw [Text.splitAt_append_sep, h.splitAt_eq]

/-- A name adds one part to the path of a directory. -/
theorem parts_join (h : IsName name) (dir : List Char) :
    parts (join dir name) = parts dir ++ [name] := by
  have hname : [name].filter (fun part => part ≠ [] ∧ part ≠ ['.']) = [name] := by
    simp [h.notEmpty, h.notHere]
  obtain ⟨pieces, hjoin, hdir⟩ := h.splitAt_join dir
  rw [parts, parts, hjoin, List.filter_append, hname]
  rcases hdir with hdir | hdir
  · rw [hdir]
  · rw [hdir, List.filter_append, List.append_assoc]
    rfl

theorem fileName?_join (h : IsName name) (dir : List Char) :
    fileName? (join dir name) = some name := by
  rw [fileName?_eq_some_iff, h.parts_join, List.getLast?_concat]
  exact ⟨rfl, h.notAbove⟩

/-- A name leads from a directory to that name in it. -/
theorem enter_eq (h : IsName name) (place : List (List Char)) :
    FileTree.enter place name = place ++ [name] := by
  rw [FileTree.enter, if_neg (by simp [h.notEmpty, h.notHere]), if_neg h.notAbove]

end IsName

end Path

namespace FileTree

variable {t : FileTree}

theorem follow_append (t : FileTree) (place : List (List Char)) (pieces : List (List Char))
    (piece : List Char) (rest : List (List Char)) :
    t.follow place (pieces ++ piece :: rest) =
      (t.follow place pieces).bind fun place => t.follow place (piece :: rest) := by
  induction pieces generalizing place with
  | nil =>
      rw [List.nil_append, follow.eq_1]
      cases hnode : t.nodeAt place with
      | none => simp [follow, isDirectory, hnode]
      | some node => simp
  | cons first pieces ih =>
      rw [List.cons_append, follow, follow]
      split
      · exact ih _
      · rfl

theorem follow_single {place last : List (List Char)} {piece : List Char}
    (h : t.follow place [piece] = some last) : last = enter place piece := by
  rw [follow] at h
  split at h
  · rw [follow] at h
    split at h
    · exact (Option.some.inj h).symm
    · cases h
  · cases h

theorem follow_of_locate {here place : List (List Char)} {path : List Char}
    (h : t.locate here path = some place) :
    isPath path = true ∧ t.follow (startOf here path) (Text.splitAt '/' path) = some place := by
  unfold locate at h
  split at h
  · exact ⟨‹_›, h⟩
  · cases h

theorem startOf_join {name : List Char} (hname : Path.IsName name) {dir : List Char}
    (hne : dir ≠ []) (here : List (List Char)) :
    startOf here (Path.join dir name) = startOf here dir := by
  obtain ⟨c, rest, rfl⟩ := List.exists_cons_of_ne_nil hne
  have hhead : (Path.join (c :: rest) name).head? = some c := by
    rw [Path.join, hname.isAbsolute_eq, if_neg Bool.false_ne_true]
    split <;> rfl
  rw [startOf, startOf, Path.isAbsolute, Path.isAbsolute, hhead]
  rfl

/-- **The path of a name in a directory leads there or to nothing**, whatever the file tree. -/
theorem locate_join {name : List Char} (hname : Path.IsName name) {dir : List Char}
    {here place last : List (List Char)} (hdir : t.locate here dir = some place)
    (h : t.locate here (Path.join dir name) = some last) : last = place ++ [name] := by
  obtain ⟨hpath, hdir⟩ := follow_of_locate hdir
  obtain ⟨-, h⟩ := follow_of_locate h
  obtain ⟨pieces, hjoin, hpieces⟩ := hname.splitAt_join dir
  have hne : dir ≠ [] := by
    rintro rfl
    cases hpath
  rw [startOf_join hname hne, hjoin, follow_append] at h
  obtain ⟨middle, hmiddle, hlast⟩ := Option.bind_eq_some_iff.mp h
  have hplace : place = middle := by
    rcases hpieces with hpieces | hpieces
    · rw [hpieces, hmiddle] at hdir
      exact (Option.some.inj hdir).symm
    · rw [hpieces, follow_append, hmiddle, Option.bind_some] at hdir
      exact follow_single hdir
  rw [follow_single hlast, hname.enter_eq, hplace]

end FileTree

end LintBridge
