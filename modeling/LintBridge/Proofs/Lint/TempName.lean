import LintBridge.Lint.Linter
import LintBridge.Proofs.Machine.FileName
import LintBridge.Proofs.Url.Characters
import LintBridge.Proofs.Url.Query

set_option autoImplicit false

/-! # Where temporary files are

The name of a temporary file ends in an extension that the URI of a document may choose. What it
chooses is the part of a file name behind its last period, or it is left to the default
(`extensionChars_cases`). So the name stays a name (`isName_name`), and the path of the file leads
nowhere but into the directory for temporary files. The main statement is
`extension_stays_in_directory`.
-/

namespace LintBridge.TempFile

/-- An extension is that of the file at the end of the URI's path, or the default. -/
theorem extensionChars_cases (uri fallback : List Char) :
    (extensionChars uri fallback ≠ [] ∧ '.' ∉ extensionChars uri fallback ∧
        ∃ path name front, Url.path? uri = some path ∧ Path.fileName? path = some name ∧
          front ≠ [] ∧ name = front ++ '.' :: extensionChars uri fallback) ∨
      extensionChars uri fallback = fallback.dropWhile (· = '.') := by
  unfold extensionChars
  split
  · rename_i extension h
    obtain ⟨h, hne⟩ := Option.filter_eq_some_iff.mp h
    obtain ⟨path, hpath, h⟩ := Option.bind_eq_some_iff.mp h
    obtain ⟨name, hname, h⟩ := Option.bind_eq_some_iff.mp h
    obtain ⟨front, hfront, hcut, hperiod⟩ := Path.extensionOf_eq_some_iff.mp h
    exact .inl ⟨of_decide_eq_true hne, hperiod, path, name, front, hpath, hname, hfront, hcut⟩
  · exact .inr rfl

/-- What an extension holds stands in a piece of the URI's path, or in the default. -/
theorem piece_of_mem_extensionChars {uri fallback : List Char} {c : Char}
    (hc : c ∈ extensionChars uri fallback) :
    (∃ path piece, Url.path? uri = some path ∧ piece ∈ Text.splitAt '/' path ∧ c ∈ piece) ∨
      c ∈ fallback := by
  rcases extensionChars_cases uri fallback with
    ⟨-, -, path, name, front, hpath, hname, -, hcut⟩ | hdefault
  · refine .inl ⟨path, name, hpath, Path.mem_splitAt_of_fileName? hname, ?_⟩
    rw [hcut]
    exact List.mem_append_right _ (List.mem_cons_of_mem _ hc)
  · rw [hdefault] at hc
    exact .inr (List.dropWhile_subset _ hc)

/-- An extension holds no slash and no zero character, unless the default does. -/
theorem notMem_extensionChars {uri fallback : List Char} {c : Char} (hc : c = '/' ∨ c = '\x00')
    (hfallback : c ∉ fallback) : c ∉ extensionChars uri fallback := by
  intro hmem
  rcases piece_of_mem_extensionChars hmem with ⟨path, piece, hpath, hpiece, hmem⟩ | hmem
  · rcases hc with rfl | rfl
    · exact Text.notMem_of_mem_splitAt hpiece hmem
    · -- A path is percent-encoded, so that it holds no control characters.
      rcases Url.drawn_of_path hpath _ (Text.subset_of_mem_splitAt hpiece hmem) with
        ⟨-, hcontrol⟩ | hsign
      · cases hcontrol
      · exact absurd hsign (by decide)
  · exact hfallback hmem

theorem extensionChars_ignoresQuery (fallback : List Char) :
    Url.IgnoresQuery fun uri => extensionChars uri fallback := by
  intro cs d d' query query' hd hd'
  dsimp only
  rw [extensionChars, extensionChars, Url.path?_ignoresQuery cs query query' hd hd']

section

variable {unique extension : List Char} {c : Char}

theorem mem_name_iff (hstart : c ∉ "tsqllint-".toList) (hperiod : c ≠ '.')
    (hunique : c ∉ unique) : c ∈ name unique extension ↔ c ∈ extension := by
  unfold name
  simp only [List.mem_append, List.mem_cons, hstart, hunique, hperiod, false_or]

theorem name_eq_cons (unique extension : List Char) :
    ∃ rest, name unique extension = 't' :: rest :=
  ⟨"sqllint-".toList ++ unique ++ '.' :: extension, rfl⟩

/-- The name of a temporary file is one part of a path. -/
theorem isName_name (hunique : '/' ∉ unique) (hextension : '/' ∉ extension) :
    Path.IsName (name unique extension) := by
  have hwhole : '/' ∉ name unique extension :=
    mt (mem_name_iff (by decide) (by decide) hunique).mp hextension
  obtain ⟨rest, hname⟩ := name_eq_cons unique extension
  rw [hname] at hwhole ⊢
  exact ⟨hwhole, by simp, by simp, by simp⟩

end

/-- **A URI cannot move the temporary file of its document out of the directory for such files.**
Let the default extension and the unique part of the name be without slashes and zero characters.
The extension for a document is, too, and if it is not the default without the periods at its
front, it is not empty, holds no period, and stands behind the last period in the name of the file
at the end of the URI's path, which the query and the fragment of the URI have no part in. The
name of the temporary file is then a name, except that it may be too long: its path has the parts
of the directory's path and the name, and in every file tree it leads to this name in the
directory or to nothing. -/
theorem extension_stays_in_directory {fallback : List Char} (hslash : '/' ∉ fallback)
    (hzero : '\x00' ∉ fallback) (uri : List Char) :
    '/' ∉ extensionChars uri fallback ∧ '\x00' ∉ extensionChars uri fallback ∧
      (extensionChars uri fallback ≠ fallback.dropWhile (· = '.') →
        extensionChars uri fallback ≠ [] ∧ '.' ∉ extensionChars uri fallback ∧
          ∃ path name front, Url.path? uri = some path ∧ Path.fileName? path = some name ∧
            front ≠ [] ∧ name = front ++ '.' :: extensionChars uri fallback) ∧
      Url.IgnoresQuery (fun uri => extensionChars uri fallback) ∧
      ∀ unique file : List Char, '/' ∉ unique → '\x00' ∉ unique →
        file = name unique (extensionChars uri fallback) →
          (Linter.isFileName file = true ↔ FileTree.byteLength file ≤ FileTree.maxNameBytes) ∧
            ∀ dir : List Char, Path.fileName? (Path.join dir file) = some file ∧
              Path.parts (Path.join dir file) = Path.parts dir ++ [file] ∧
              ∀ (t : FileTree) (here place last : List (List Char)),
                t.locate here dir = some place →
                  t.locate here (Path.join dir file) = some last → last = place ++ [file] := by
  have hslash' : '/' ∉ extensionChars uri fallback := notMem_extensionChars (.inl rfl) hslash
  have hzero' : '\x00' ∉ extensionChars uri fallback := notMem_extensionChars (.inr rfl) hzero
  refine ⟨hslash', hzero', fun hne => (extensionChars_cases uri fallback).resolve_right hne,
    extensionChars_ignoresQuery fallback, ?_⟩
  rintro unique file huniqueSlash huniqueZero rfl
  have hname := isName_name huniqueSlash hslash'
  have hnameZero := mt (mem_name_iff (by decide) (by decide) huniqueZero).mp hzero'
  refine ⟨?_, fun dir => ⟨hname.fileName?_join dir, hname.parts_join dir, ?_⟩⟩
  · simp [Linter.isFileName, hname.whole, hnameZero]
  · intro t here place last hdir hlast
    exact FileTree.locate_join hname hdir hlast

/-- A URI with segments that lead upwards, encoded slashes and a query. -/
def climbingUri : List Char := "file:///w/../../etc/x.y%2f..%2fpasswd?z.w".toList

/-- The name of a temporary file for `climbingUri`. -/
def climbingName : List Char := "tsqllint-u.%2fpasswd".toList

/-- A file tree with that file in a directory. -/
def climbingTree : FileTree :=
  (FileTree.empty.put ["tmp".toList] .directory).put ["tmp".toList, climbingName] (.file [] false)

theorem extension_stays_in_directory_climbing :
    '/' ∉ "sql".toList ∧ '\x00' ∉ "sql".toList ∧
      extensionChars climbingUri "sql".toList ≠ "sql".toList.dropWhile (· = '.') ∧
      (∃ path name front, Url.path? climbingUri = some path ∧ Path.fileName? path = some name ∧
        front ≠ [] ∧ name = front ++ '.' :: extensionChars climbingUri "sql".toList) ∧
      extensionChars ("file:///w/a".toList ++ '?' :: "x.y".toList) "sql".toList =
        extensionChars ("file:///w/a".toList ++ '#' :: "/b.z".toList) "sql".toList ∧
      '/' ∉ ['u'] ∧ '\x00' ∉ ['u'] ∧
      climbingName = name ['u'] (extensionChars climbingUri "sql".toList) ∧
      climbingTree.locate [] "/tmp/".toList = some ["tmp".toList] ∧
      climbingTree.locate [] (Path.join "/tmp/".toList climbingName) =
        some ["tmp".toList, climbingName] ∧
      ["tmp".toList, climbingName] = ["tmp".toList] ++ [climbingName] := by
  have hslash : '/' ∉ "sql".toList := by decide
  have hzero : '\x00' ∉ "sql".toList := by decide
  have hchosen : extensionChars climbingUri "sql".toList ≠ "sql".toList.dropWhile (· = '.') := by
    decide +kernel
  have huniqueSlash : '/' ∉ ['u'] := by decide
  have huniqueZero : '\x00' ∉ ['u'] := by decide
  have hname : climbingName = name ['u'] (extensionChars climbingUri "sql".toList) := by
    decide +kernel
  have hdir : climbingTree.locate [] "/tmp/".toList = some ["tmp".toList] := by decide +kernel
  have hfile : climbingTree.locate [] (Path.join "/tmp/".toList climbingName) =
      some ["tmp".toList, climbingName] := by
    decide +kernel
  obtain ⟨-, -, hchoice, hquery, hstays⟩ := extension_stays_in_directory hslash hzero climbingUri
  obtain ⟨-, hleads⟩ := hstays ['u'] climbingName huniqueSlash huniqueZero hname
  exact ⟨hslash, hzero, hchosen, (hchoice hchosen).2.2,
    hquery "file:///w/a".toList "x.y".toList "/b.z".toList rfl rfl, huniqueSlash, huniqueZero,
    hname, hdir, hfile, (hleads "/tmp/".toList).2.2 climbingTree [] _ _ hdir hfile⟩

end LintBridge.TempFile
