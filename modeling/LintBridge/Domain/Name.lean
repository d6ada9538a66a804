import LintBridge.Domain.Fold
import LintBridge.Domain.Punycode
import LintBridge.Text.Direction
import LintBridge.Text.Joining
import LintBridge.Text.Normal

set_option autoImplicit false

/-! # Domain names

A domain name consists of labels between full stops. `labels?` yields the labels that a text
stands for: its characters are folded and composed, and labels in Punycode are decoded. A label
may not start with a mark, joiners in it (U+200C, which keeps letters from joining, and U+200D,
which makes them join) have to stand where they change something, and if a name holds letters
that are written to the left, each of its labels has to read in one direction.
-/

namespace LintBridge.Domain

/-! ## Joiners -/

/-- Whether the first character of a text joins others, as `joins` says, not counting characters
that do not keep others from joining. -/
def startsJoining (joins : Char → Bool) (cs : List Char) : Bool :=
  (cs.find? fun c => !Text.isTransparent c).any joins

/-- The combining class of the marks that take the vowel off a letter. -/
def vowelKillerClass : Nat := 9

/-- Whether a joiner may stand between two texts, of which the first is given in reverse order:
behind a mark that takes the vowel off a letter, or, if it keeps letters from joining, between two
that would join. -/
def mayStandBetween (joiner : Char) (before behind : List Char) : Bool :=
  before.head?.any (Text.combiningClass · = vowelKillerClass) ||
    (joiner = '\u200c' && startsJoining Text.joinsBehind before &&
      startsJoining Text.joinsBefore behind)

/-- Whether all joiners stand where they may, behind a text in reverse order. -/
def joinersFit (before : List Char) : List Char → Bool
  | [] => true
  | c :: cs =>
    (!(c = '\u200c' || c = '\u200d') || mayStandBetween c before cs) && joinersFit (c :: before) cs

/-! ## Labels -/

/-- What stands at the front of a label in Punycode. -/
def codePrefix : List Char := "xn--".toList

/-- The most characters that a label may have unless it is ASCII. -/
def maxSize : Nat := 1000

/-- The most characters that Punycode may have. -/
def maxCodeSize : Nat := 2000

/-- Whether all characters of a text are ASCII. -/
def isAscii (cs : List Char) : Bool := cs.all (·.toNat < 0x80)

/-- Whether a text may be a label. -/
def isLabel (cs : List Char) : Bool :=
  !cs.head?.any Text.isMark && joinersFit [] cs && (isAscii cs || cs.length ≤ maxSize)

/-- The label that Punycode stands for. It is not ASCII, and folding and composing do not change
it. -/
def ofCode? (cs : List Char) : Option (List Char) :=
  if isAscii cs ∧ cs.length ≤ maxCodeSize ∧ cs.getLast?.any (· ≠ '-') then
    (Punycode.decode? cs).filter fun label =>
      label.all (fun c => fold? c = some [c]) && Text.normalize label = label &&
        !codePrefix.isPrefixOf label
  else none

/-- The label that a text stands for when its characters are folded and composed. -/
def label? (cs : List Char) : Option (List Char) :=
  (if codePrefix.isPrefixOf cs then ofCode? (cs.drop codePrefix.length) else some cs).filter isLabel

/-! ## Directions -/

/-- Whether a direction makes a name one of mixed directions. -/
def isLeftward (d : Text.Direction) : Bool := d = .left || d = .arabicNumber

/-- Whether a label may stand in a name of mixed directions. It starts with a letter and reads in
the direction of that: there are no letters of the other direction in it, it ends, but for marks,
in a letter or digit, and one written to the left has digits of one kind only. -/
def readsOneWay (label : List Char) : Bool :=
  let ds := label.map Text.direction
  let last := (ds.reverse.find? (· ≠ .mark)).getD .mark
  match ds.head? with
  | none => true
  | some .right => ds.all (fun d => !isLeftward d) && (last = .right || last = .number)
  | some .left =>
    ds.all (· ≠ .right) && last ≠ .neutral && !(.number ∈ ds && .arabicNumber ∈ ds)
  | some _ => false

/-! ## Names -/

/-- The labels of the name that a text stands for, if it stands for one. -/
def labels? (cs : List Char) : Option (List (List Char)) := do
  let name := Text.normalize (← cs.mapM fold?).flatten
  let labels ← (Text.splitAt '.' name).mapM label?
  let isMixed := labels.any fun label => label.any fun c => isLeftward (Text.direction c)
  if isMixed ∧ !labels.all readsOneWay then none else some labels

end LintBridge.Domain
