import RetryTrial.Experiment.Caches
import RetryTrial.Gate.Run
import RetryTrial.Gate.OutcomesRun
import RetryTrial.Session
import RetryTrial.Settings
import RetryTrial.Proofs.Gate.Conservation
import RetryTrial.Proofs.Gate.Reordering
import RetryTrial.Proofs.Gate.Raising
import RetryTrial.Proofs.Gate.Scoring
import RetryTrial.Proofs.Service.FailOpen
import RetryTrial.Proofs.Service.Suppression
import RetryTrial.Proofs.Decline.Registration
import RetryTrial.Proofs.Decline.Classification
import RetryTrial.Proofs.Decline.LastRegistration
import RetryTrial.Proofs.Billing.Join
import RetryTrial.Proofs.Billing.AccountPayments
import RetryTrial.Proofs.Experiment.Step
import RetryTrial.Proofs.Experiment.History
import RetryTrial.Proofs.Experiment.Refinement
import RetryTrial.Proofs.Experiment.Outage
import RetryTrial.Proofs.Gate.Enforcement
import RetryTrial.Proofs.Service.Probe
import RetryTrial.Proofs.Http.Requests
import RetryTrial.Proofs.Http.Errors
import RetryTrial.Proofs.Http.Keys
import RetryTrial.Proofs.Service.Mirror
import RetryTrial.Proofs.Session.MirroredRow
import RetryTrial.Proofs.Session.ConfiguredShare
import RetryTrial.Proofs.Billing.LastPayment
import RetryTrial.Proofs.Binary64.Rounding
import RetryTrial.Proofs.Binary64.Percent
import RetryTrial.Proofs.Gate.Percentages
import RetryTrial.Proofs.Decline.Keywords
import RetryTrial.Proofs.Gate.Provenance
import RetryTrial.Proofs.Session.KnownDeclines
import RetryTrial.Proofs.Experiment.DefaultShare
import RetryTrial.Proofs.Decline.VerbatimKeywords
import RetryTrial.Proofs.Decline.Views
import RetryTrial.Proofs.Http.PublishedCodes
import RetryTrial.Proofs.Json.Denotation
import RetryTrial.Proofs.Json.Spelling
import RetryTrial.Proofs.Json.Reading
import RetryTrial.Proofs.Json.Edit
import RetryTrial.Proofs.Wire
import RetryTrial.Proofs.Text.ByteOrder
import RetryTrial.Proofs.Gate.Listing
import RetryTrial.Proofs.Gate.Counting
