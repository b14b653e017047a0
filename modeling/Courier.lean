import Courier.Main
import Courier.Text.Utf8.Lemmas
import Courier.Proofs.ExitCode
import Courier.Proofs.Requests
import Courier.Proofs.Refusals
import Courier.Proofs.Stages
import Courier.Proofs.Alike
import Courier.Proofs.CommandLine.Reading
import Courier.Proofs.Verbosity
import Courier.Proofs.Sessions
import Courier.Proofs.Envelopes
import Courier.Proofs.Json.Nesting
import Courier.Proofs.Budgets
import Courier.Proofs.Checksums
import Courier.Proofs.Signatures
import Courier.Proofs.Submissions
import Courier.Proofs.Receipts
import Courier.Proofs.Quantities
import Courier.Proofs.PollLog
import Courier.Proofs.Fields
import Courier.Proofs.Diagnostics
