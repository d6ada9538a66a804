import LintBridge.Text.Combining

set_option autoImplicit false

/-! # The normal form of a text

Several texts may spell the same: a letter with a mark is one character or two, and marks that do
not disturb each other may come in any order. `normalize` yields the spelling in which marks come
in the order of their classes and characters are composed wherever they can be. It is meant for
texts without characters that no normal form has.
-/

namespace LintBridge.Text

/-! ## Syllables of the Korean script -/

/-- The syllable that a consonant and a vowel make, or a syllable without a final consonant and
such a consonant. -/
def syllable? (c d : Char) : Option Char :=
  let m := c.toNat
  let n := d.toNat
  if 0x1100 ≤ m ∧ m < 0x1113 ∧ 0x1161 ≤ n ∧ n < 0x1176 then
    some (Char.ofNat (0xAC00 + ((m - 0x1100) * 21 + (n - 0x1161)) * 28))
  else if 0xAC00 ≤ m ∧ m < 0xD7A4 ∧ (m - 0xAC00) % 28 = 0 ∧ 0x11A7 < n ∧ n < 0x11C3 then
    some (Char.ofNat (m + (n - 0x11A7)))
  else none

/-- What makes a syllable. -/
def syllableParts? (c : Char) : Option (Char × Char) :=
  if 0xAC00 ≤ c.toNat ∧ c.toNat < 0xD7A4 then
    let n := c.toNat - 0xAC00
    if n % 28 = 0 then
      some (Char.ofNat (0x1100 + n / 588), Char.ofNat (0x1161 + n / 28 % 21))
    else some (Char.ofNat (c.toNat - n % 28), Char.ofNat (0x11A7 + n % 28))
  else none

/-! ## Taking apart -/

/-- The two characters that a character stands for. -/
def parts? (c : Char) : Option (Char × Char) := (syllableParts? c).or (decomposition? c)

/-- A character taken apart so many times. -/
def takeApart : Nat → Char → List Char
  | 0, c => [c]
  | times + 1, c => match parts? c with
    | none => [c]
    | some (first, mark) => takeApart times first ++ [mark]

/-- The most marks that a character stands for. -/
def maxMarks : Nat := 3

/-- Puts a character in front of others, or behind those marks at their front that have a lower
class. -/
def insertMark (c : Char) : List Char → List Char
  | [] => [c]
  | d :: ds =>
    if 0 < combiningClass d ∧ combiningClass d < combiningClass c then d :: insertMark c ds
    else c :: d :: ds

/-- A text with the marks in the order of their classes. -/
def sortMarks (cs : List Char) : List Char := cs.foldr insertMark []

/-! ## Composing -/

/-- The character that stands for two characters. -/
def whole? (c d : Char) : Option Char := (syllable? c d).or (composition? c d)

/-- Composes a text behind the character `base` of class zero, if there is one, and the marks
behind it that did not combine with it, in reverse order. A mark of the same or a higher class
keeps what follows from combining. -/
def composeBehind : Option Char → List Char → List Char → List Char
  | base, marks, [] => base.toList ++ marks.reverse
  | base, marks, c :: cs =>
    let isFree := marks.head?.all fun mark => combiningClass mark < combiningClass c
    match if isFree then base.bind (whole? · c) else none with
    | some composed => composeBehind (some composed) marks cs
    | none =>
      if combiningClass c = 0 then base.toList ++ marks.reverse ++ composeBehind (some c) [] cs
      else composeBehind base (c :: marks) cs

/-- The normal form of a text. -/
def normalize (cs : List Char) : List Char :=
  composeBehind none [] (sortMarks (cs.flatMap (takeApart maxMarks)))

end LintBridge.Text
