import LintBridge.Document.Edit
import LintBridge.Proofs.Text.Lines

set_option autoImplicit false

/-! # Edits of whole lines

A position cuts a document in two, and where it cuts is said by `LineAt.cut`: behind so many
code units of its line. An edit whose range goes from the start of a line to the number of code
units that the line has replaces exactly this line (`LineAt.replaces`).
-/

namespace LintBridge

/-! ## Columns of a line -/

namespace Text

theorem one_le_units (c : Char) : 1 ≤ units c := by
  unfold units
  split <;> omega

theorem utf16Length_cons (c : Char) (cs : List Char) :
    utf16Length (c :: cs) = units c + utf16Length cs := by
  have hfrom : ∀ (cs : List Char) (n : Nat),
      cs.foldl (fun n c => n + units c) n = n + cs.foldl (fun n c => n + units c) 0 := by
    intro cs
    induction cs with
    | nil => intro n; rfl
    | cons c cs ih =>
        intro n
        rw [List.foldl_cons, List.foldl_cons, ih (n + units c), ih (0 + units c)]
        omega
  rw [utf16Length, List.foldl_cons, hfrom, Nat.zero_add]
  rfl

theorem takeUnits_zero (cs : List Char) : takeUnits 0 cs = [] := by
  cases cs <;> rfl

/-- All code units of a line are the line. -/
theorem takeUnits_utf16Length (cs : List Char) : takeUnits (utf16Length cs) cs = cs := by
  induction cs with
  | nil => rfl
  | cons c cs ih =>
      have hpos := one_le_units c
      have hcons := utf16Length_cons c cs
      obtain ⟨n, hn⟩ : ∃ n, utf16Length (c :: cs) = n + 1 :=
        Nat.exists_eq_add_one.mpr (by omega)
      have hrest : n + 1 - units c = utf16Length cs := by omega
      rw [hn, takeUnits, hrest, ih]

/-- The line that a text starts with. -/
theorem takeWhile_line {line after : List Char} (hline : '\n' ∉ line)
    (h : after = [] ∨ ∃ later, after = '\n' :: later) :
    (line ++ after).takeWhile (· ≠ '\n') = line := by
  rw [List.takeWhile_append_of_pos (forall_ne_of_notMem hline)]
  rcases h with rfl | ⟨later, rfl⟩ <;> simp

end Text

/-! ## Cutting at a line -/

/-- Before a position stand the lines before its own and the code units before its column. -/
theorem Position.textBefore_append {before line after : List Char}
    (hstarted : before = [] ∨ ∃ earlier, before = earlier ++ ['\n']) (hline : '\n' ∉ line)
    (hended : after = [] ∨ ∃ later, after = '\n' :: later) (units : Nat) :
    textBefore (before.count '\n') units (before ++ (line ++ after)) =
      before ++ Text.takeUnits units line := by
  induction before with
  | nil =>
      rw [List.count_nil, List.nil_append, List.nil_append, textBefore,
        Text.takeWhile_line hline hended]
  | cons c before ih =>
      obtain ⟨earlier, hearlier⟩ := hstarted.resolve_left (List.cons_ne_nil _ _)
      cases earlier with
      | nil =>
          obtain ⟨rfl, rfl⟩ := List.cons.inj hearlier
          rw [List.count_cons_self, List.cons_append, textBefore, if_pos rfl,
            ih (.inl rfl)]
          rfl
      | cons d earlier =>
          obtain ⟨rfl, hbefore⟩ := List.cons.inj hearlier
          have ih := ih (.inr ⟨earlier, hbefore⟩)
          by_cases hc : c = '\n'
          · rw [hc, List.count_cons_self, List.cons_append, textBefore, if_pos rfl, ih]
            rfl
          · -- The line feed at the end of `before` is still to come.
            obtain ⟨n, hn⟩ : ∃ n, before.count '\n' = n + 1 :=
              ⟨earlier.count '\n', by rw [hbefore]; simp⟩
            rw [List.count_cons_of_ne hc, hn, List.cons_append, textBefore, if_neg hc, ← hn, ih]
            rfl

/-- Where a position in a line cuts the text. -/
theorem Text.LineAt.cut {cs before line after : List Char} {i : Nat}
    (h : LineAt cs i before line after) {p : Position} (hp : p.line.toNat = i) :
    p.cut cs = (before ++ takeUnits p.character.toNat line,
      dropUnits p.character.toNat line ++ after) := by
  have hbefore : Position.textBefore p.line.toNat p.character.toNat cs =
      before ++ takeUnits p.character.toNat line := by
    rw [hp, ← h.number, h.text, List.append_assoc,
      Position.textBefore_append h.started h.whole h.ended]
  have hcs : cs = (before ++ takeUnits p.character.toNat line) ++
      (dropUnits p.character.toNat line ++ after) := by
    rw [List.append_assoc, ← List.append_assoc (takeUnits _ _), takeUnits_append_dropUnits,
      ← List.append_assoc]
    exact h.text
  have hafter : cs.drop (before ++ takeUnits p.character.toNat line).length =
      dropUnits p.character.toNat line ++ after := by
    conv => lhs; rw [hcs]
    exact List.drop_left
  rw [Position.cut, hbefore, hafter]

/-! ## Replacing a line -/

/-- The edit replaces the text `old` that stands between `before` and `after` in the document
`cs`. -/
def TextEdit.Replaces (e : TextEdit) (cs before old after : List Char) : Prop :=
  e.range.start.cut cs = (before, old ++ after) ∧ e.range.stop.cut cs = (before ++ old, after)

theorem TextEdit.Replaces.apply_eq {e : TextEdit} {cs before old after : List Char}
    (h : e.Replaces cs before old after) :
    e.apply cs = before ++ e.newText.toList ++ after := by
  rw [TextEdit.apply, h.1, h.2]

/-- An edit from the start of a line to as many code units as the line has replaces the line. -/
theorem Text.LineAt.replaces {cs before line after : List Char} {n length : UInt32}
    (h : LineAt cs n.toNat before line after) (hlength : length.toNat = utf16Length line)
    {e : TextEdit} (hrange : e.range = ⟨⟨n, 0⟩, ⟨n, length⟩⟩) :
    e.Replaces cs before line after := by
  have hnone : takeUnits 0 line = [] ∧ dropUnits 0 line = line := by
    have hline := takeUnits_append_dropUnits 0 line
    rw [takeUnits_zero] at hline
    exact ⟨takeUnits_zero line, hline⟩
  have hall : takeUnits (utf16Length line) line = line ∧
      dropUnits (utf16Length line) line = [] := by
    have hline := takeUnits_append_dropUnits (utf16Length line) line
    rw [takeUnits_utf16Length] at hline
    exact ⟨takeUnits_utf16Length line, List.append_right_eq_self.mp hline⟩
  rw [TextEdit.Replaces, hrange]
  constructor
  · have hstart : Position.cut ⟨n, 0⟩ cs =
        (before ++ takeUnits 0 line, dropUnits 0 line ++ after) := h.cut rfl
    rw [hstart, hnone.1, hnone.2, List.append_nil]
  · have hstop : Position.cut ⟨n, length⟩ cs =
        (before ++ takeUnits length.toNat line, dropUnits length.toNat line ++ after) := h.cut rfl
    rw [hstop, hlength, hall.1, hall.2, List.nil_append]

end LintBridge
