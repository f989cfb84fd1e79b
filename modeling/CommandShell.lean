import CommandShell.Completion.Line
import CommandShell.Main
import CommandShell.Proofs.Session.Containment
import CommandShell.Proofs.Session.Waiting
import CommandShell.Proofs.CommandNames
import CommandShell.Proofs.Completion.CommandWord
import CommandShell.Proofs.Completion.AcceptedCommand
import CommandShell.Proofs.Completion.AcceptedFile
import CommandShell.Proofs.Session.Inquiry
import CommandShell.Proofs.Session.Fates
import CommandShell.Proofs.Session.Flushing
import CommandShell.Proofs.Session.Provenance
import CommandShell.Proofs.Session.Overflow
import CommandShell.Proofs.Session.Attended
import CommandShell.Proofs.Piped
import CommandShell.Proofs.Session.Idling
import CommandShell.Proofs.Tokens
import CommandShell.Proofs.SearchPath.Order
import CommandShell.Proofs.SearchPath.Entries
import CommandShell.Proofs.Completion.Span
import CommandShell.Proofs.OfferedNames
import CommandShell.Proofs.Session.Blame
import CommandShell.Proofs.WaitStatus
import CommandShell.Proofs.Options.Given
import CommandShell.Proofs.Session.Logged
