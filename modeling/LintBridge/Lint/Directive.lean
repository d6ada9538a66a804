set_option autoImplicit false

/-! # Suppression directives

The linter is told to leave out a rule by comments in the linted text: one that disables the
rule from there on and one that enables it again.
-/

namespace LintBridge

/-- How suppression comments are spelled. -/
structure DirectiveSyntax where
  commentOpen : String := "/*"
  commentClose : String := "*/"
  disable : String := "tsqllint-disable"
  enable : String := "tsqllint-enable"
  deriving DecidableEq

namespace DirectiveSyntax

/-- A comment with a keyword and a rule. -/
def marker (s : DirectiveSyntax) (keyword rule : String) : String :=
  s.commentOpen ++ " " ++ keyword ++ " " ++ rule ++ " " ++ s.commentClose

/-- The comment that disables a rule. -/
def disableMarker (s : DirectiveSyntax) (rule : String) : String := s.marker s.disable rule

/-- The comment that enables a rule. -/
def enableMarker (s : DirectiveSyntax) (rule : String) : String := s.marker s.enable rule

end DirectiveSyntax

end LintBridge
