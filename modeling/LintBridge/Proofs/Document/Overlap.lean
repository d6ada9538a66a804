import LintBridge.Document.Position
import Mathlib.Logic.Basic

set_option autoImplicit false

/-! # Positions that ranges share

Positions are ordered by their lines and then by their characters. A range covers what lies
between its ends, both of them included, and two ranges meet if they cover a position together.
Whether they overlap is found out by comparing ends only; `overlaps_iff_meets` says that for ranges
whose ends are in order this is the same.
-/

namespace LintBridge

/-! ## The order of positions -/

namespace Position

theorem lt_iff {p q : Position} :
    p < q ↔ p.line < q.line ∨ (p.line = q.line ∧ p.character < q.character) :=
  Iff.rfl

theorem not_lt {p q : Position} : ¬ p < q ↔ q ≤ p := Iff.rfl

theorem le_iff {p q : Position} :
    p ≤ q ↔ p.line < q.line ∨ (p.line = q.line ∧ p.character ≤ q.character) := by
  rw [← not_lt, lt_iff]
  simp only [UInt32.lt_iff_toNat_lt, UInt32.le_iff_toNat_le, ← UInt32.toNat_inj]
  omega

theorem le_refl (p : Position) : p ≤ p := le_iff.mpr (.inr ⟨rfl, UInt32.le_refl _⟩)

theorem le_total (p q : Position) : p ≤ q ∨ q ≤ p := by
  rw [le_iff, le_iff]
  simp only [UInt32.lt_iff_toNat_lt, UInt32.le_iff_toNat_le, ← UInt32.toNat_inj]
  omega

theorem le_trans {p q r : Position} (hpq : p ≤ q) (hqr : q ≤ r) : p ≤ r := by
  rw [le_iff] at hpq hqr ⊢
  simp only [UInt32.lt_iff_toNat_lt, UInt32.le_iff_toNat_le, ← UInt32.toNat_inj] at hpq hqr ⊢
  omega

end Position

/-! ## Ranges that meet -/

namespace Range

/-- A range covers the positions between its ends, both of them included. -/
structure Covers (r : Range) (p : Position) : Prop where
  start_le : r.start ≤ p
  le_stop : p ≤ r.stop

/-- There is a position that both ranges cover. -/
def Meets (r s : Range) : Prop := ∃ p, r.Covers p ∧ s.Covers p

variable {r s : Range}

theorem overlaps_iff : r.overlaps s = true ↔ s.start ≤ r.stop ∧ r.start ≤ s.stop := by
  unfold overlaps
  rw [Bool.not_eq_true', Bool.or_eq_false_iff, decide_eq_false_iff_not, decide_eq_false_iff_not,
    Position.not_lt, Position.not_lt]

/-- What ranges cover together starts where the later one starts. -/
theorem meets_iff : r.Meets s ↔
    (r.start ≤ r.stop ∧ s.start ≤ s.stop) ∧ s.start ≤ r.stop ∧ r.start ≤ s.stop := by
  constructor
  · rintro ⟨p, hr, hs⟩
    exact ⟨⟨Position.le_trans hr.start_le hr.le_stop, Position.le_trans hs.start_le hs.le_stop⟩,
      Position.le_trans hs.start_le hr.le_stop, Position.le_trans hr.start_le hs.le_stop⟩
  · rintro ⟨⟨hr, hs⟩, hsr, hrs⟩
    rcases Position.le_total r.start s.start with hle | hle
    · exact ⟨s.start, ⟨hle, hsr⟩, ⟨Position.le_refl _, hs⟩⟩
    · exact ⟨r.start, ⟨Position.le_refl _, hr⟩, ⟨hle, hrs⟩⟩

instance (r s : Range) : Decidable (r.Meets s) := decidable_of_iff _ meets_iff.symm

/-- Ranges whose ends are in order overlap exactly if they meet. -/
theorem overlaps_iff_meets (hr : r.start ≤ r.stop) (hs : s.start ≤ s.stop) :
    r.overlaps s = true ↔ r.Meets s := by
  have hordered : r.start ≤ r.stop ∧ s.start ≤ s.stop := ⟨hr, hs⟩
  rw [overlaps_iff, meets_iff]
  exact (and_iff_right hordered).symm

end Range

end LintBridge
