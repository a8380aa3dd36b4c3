import Reattempt.Json.Reader
import Reattempt.Log.Correlation
import Reattempt.Log.Structured
import Reattempt.Proofs.Agreement
import Reattempt.Proofs.Alike
import Reattempt.Proofs.Aloof
import Reattempt.Proofs.Arrangement
import Reattempt.Proofs.Audience
import Reattempt.Proofs.Breakdown
import Reattempt.Proofs.Cancellation
import Reattempt.Proofs.Cancelled
import Reattempt.Proofs.Causes
import Reattempt.Proofs.Chronology
import Reattempt.Proofs.Classification
import Reattempt.Proofs.Closing
import Reattempt.Proofs.Conduct
import Reattempt.Proofs.Consistency
import Reattempt.Proofs.Course
import Reattempt.Proofs.Dates
import Reattempt.Proofs.Decoding
import Reattempt.Proofs.Discipline
import Reattempt.Proofs.Discreet
import Reattempt.Proofs.Double
import Reattempt.Proofs.Effect
import Reattempt.Proofs.Ending
import Reattempt.Proofs.Enlistment
import Reattempt.Proofs.Escapes
import Reattempt.Proofs.Exit
import Reattempt.Proofs.Exponential
import Reattempt.Proofs.Fate
import Reattempt.Proofs.Fibonacci
import Reattempt.Proofs.Grammar
import Reattempt.Proofs.Hearing
import Reattempt.Proofs.Incident
import Reattempt.Proofs.Indifference
import Reattempt.Proofs.Interleaving
import Reattempt.Proofs.Interruption
import Reattempt.Proofs.Isolation
import Reattempt.Proofs.Jitter
import Reattempt.Proofs.Ledger
import Reattempt.Proofs.Limit
import Reattempt.Proofs.Lingering
import Reattempt.Proofs.Lockstep
import Reattempt.Proofs.Magnitude
import Reattempt.Proofs.Merging
import Reattempt.Proofs.Mirror
import Reattempt.Proofs.Obtaining
import Reattempt.Proofs.OneLine
import Reattempt.Proofs.Outside
import Reattempt.Proofs.Overflow
import Reattempt.Proofs.Overwriting
import Reattempt.Proofs.Passage
import Reattempt.Proofs.Past
import Reattempt.Proofs.Purity
import Reattempt.Proofs.Quotient
import Reattempt.Proofs.Recovery
import Reattempt.Proofs.Reference
import Reattempt.Proofs.ReferenceRun
import Reattempt.Proofs.Registration
import Reattempt.Proofs.Report
import Reattempt.Proofs.Reserved
import Reattempt.Proofs.Roster
import Reattempt.Proofs.Round
import Reattempt.Proofs.Settings
import Reattempt.Proofs.Speech
import Reattempt.Proofs.Tenure
import Reattempt.Proofs.Trace
import Reattempt.Proofs.Unnumbered
import Reattempt.Proofs.Untouched
import Reattempt.Proofs.Wait
import Reattempt.Proofs.Word
import Reattempt.Scenario.Environment
