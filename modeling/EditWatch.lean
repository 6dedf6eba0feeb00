import EditWatch.Broadcast
import EditWatch.Command.Run
import EditWatch.Main
import EditWatch.Proofs.Session.Binding
import EditWatch.Proofs.Session.Refinement
import EditWatch.Proofs.Document.Shedding
import EditWatch.Proofs.Session.Splitting
import EditWatch.Proofs.Labelling.Standing
import EditWatch.Proofs.Session.Ignoring
import EditWatch.Proofs.Session.Judging
import EditWatch.Proofs.Labelling.Marking
import EditWatch.Proofs.Session.Loading
import EditWatch.Proofs.Session.Accounting
import EditWatch.Proofs.Capture.Rebinding
import EditWatch.Proofs.Session.Trace
import EditWatch.Proofs.Document.Verdict
import EditWatch.Proofs.Document.Commuting
import EditWatch.Proofs.Emission
import EditWatch.Proofs.Broadcast.Delivery
import EditWatch.Proofs.Document.Decomposition
import EditWatch.Proofs.Document.Insertion
import EditWatch.Proofs.Document.Attachment
import EditWatch.Proofs.Document.Rendering
import EditWatch.Proofs.Document.Search
import EditWatch.Proofs.Labelling.Deciding
import EditWatch.Proofs.Document.Extraction
import EditWatch.Proofs.Capture.Acceptance
import EditWatch.Proofs.Capture.Forwarding
import EditWatch.Proofs.Labelling.RuleWire
import EditWatch.Proofs.Session.Faults
import EditWatch.Proofs.Url.Page
import EditWatch.Proofs.Labelling.Firing
import EditWatch.Proofs.Config.Layering
import EditWatch.Proofs.Document.Class
