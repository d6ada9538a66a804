import LintBridge.Main
import LintBridge.Proofs.Document.History
import LintBridge.Proofs.Frame.CleanEnd
import LintBridge.Proofs.Lint.Anchoring
import LintBridge.Proofs.Lint.LineFix
import LintBridge.Proofs.Lint.PathPrefix
import LintBridge.Proofs.Lint.Registrations
import LintBridge.Proofs.Lint.ReportLine
import LintBridge.Proofs.Server.Heeded
import LintBridge.Proofs.Session.Commands
import LintBridge.Proofs.Session.Isolation
import LintBridge.Proofs.Session.Replies
import LintBridge.Proofs.Session.Settled
import LintBridge.Proofs.Session.Shown
import LintBridge.Proofs.Session.Shutdown
import LintBridge.Proofs.Url.Characters
import LintBridge.Proofs.Machine.References
import LintBridge.Proofs.Machine.FileName
import LintBridge.Proofs.Url.Query
import LintBridge.Proofs.Lint.TempName
import LintBridge.Proofs.Protocol.Tolerance
