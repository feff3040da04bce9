import Errand.Main
import Errand.Outcome.Fields
import Errand.Metrics.Exposition
import Errand.Settings.Making
import Errand.Handler.History
import Errand.Handler.Publication
import Errand.Words.Grammar
import Errand.Execution.Child
import Errand.Execution.Interleaving
import Errand.Host.Patience
import Errand.Proofs.Execution.Performance
import Errand.Proofs.Execution.Conclusion
import Errand.Proofs.Execution.Aftermath
import Errand.Proofs.Execution.Consistency
import Errand.Proofs.Execution.Agreement
import Errand.Proofs.Execution.Background
import Errand.Proofs.Execution.Bookkeeping
import Errand.Proofs.Execution.Accounting
import Errand.Proofs.Execution.Notification
import Errand.Proofs.Execution.Decoding
import Errand.Proofs.CommandLine.Modes
import Errand.Proofs.Handler.Publication
import Errand.Proofs.Handler.Polling
import Errand.Proofs.CommandLine.Separator
import Errand.Proofs.Settings.Resolution
import Errand.Proofs.Execution.Watch
import Errand.Proofs.Decimal.Double
import Errand.Proofs.Handler.Deadline
import Errand.Proofs.Handler.Memory
import Errand.Proofs.Words.Reading
import Errand.Proofs.Words.Recognition
import Errand.Proofs.Words.Quoting
import Errand.Proofs.Execution.Refusal
import Errand.Proofs.Status.Walk
import Errand.Proofs.Execution.Captured
import Errand.Proofs.Host.Launching
import Errand.Proofs.Execution.Hosts
import Errand.Proofs.CommandLine.FirstWord
import Errand.Proofs.Metrics.Buckets
import Errand.Proofs.Metrics.Samples
import Errand.Proofs.Metrics.Step
import Errand.Proofs.Settings.Snapshot
