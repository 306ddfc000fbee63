import OptOut.Main
import OptOut.Proofs.Admission
import OptOut.Proofs.Books
import OptOut.Proofs.Classification
import OptOut.Proofs.Drain
import OptOut.Proofs.Drift
import OptOut.Proofs.Epoch
import OptOut.Proofs.Framing
import OptOut.Proofs.Journal
import OptOut.Proofs.LineEnds
import OptOut.Proofs.LoadOutcome
import OptOut.Proofs.Metering
import OptOut.Proofs.Record
import OptOut.Proofs.Refinement
import OptOut.Proofs.Selection
import OptOut.Proofs.Series
import OptOut.Proofs.Session
import OptOut.Proofs.SetCalls
import OptOut.Proofs.Settings
import OptOut.Proofs.Submission
import OptOut.Proofs.Tenure
import OptOut.Proofs.Trials
import OptOut.Proofs.Window
import OptOut.Proofs.Wire
