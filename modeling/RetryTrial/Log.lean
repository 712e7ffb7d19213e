import RetryTrial.Binary64
import RetryTrial.Decline.Basic
import RetryTrial.Experiment.Group
import RetryTrial.Failure
import RetryTrial.Outcome
import RetryTrial.Uuid

/-!
# Log entries

A `LogEntry` is an event that is reported, with the data that its line shows. `level` and `text`
make up the line. Shares in percent are shown as `floorPercent` has them.
-/

namespace RetryTrial

inductive Level
  | info
  | warn
  | error
deriving DecidableEq

def Level.name : Level → String
  | info => "INFO"
  | warn => "WARN"
  | error => "ERROR"

/-- Whose key a request needs. -/
inductive Guard
  | admin
  | internal
deriving DecidableEq

def Guard.name : Guard → String
  | admin => "admin"
  | internal => "internal"

inductive LogEntry
  | routeDropped (plugin processor : String)
  | pluginUnrouted (plugin : String)
  | codeUnlisted (plugin : String) (code : Int32) (message : String)
  | codeUnreadable (code message : String)
  | messageUnmatched (plugin message : String)
  | pendingReplaced (attempt : Uuid)
  | retryPrevented (attempt : Uuid) (aborted attempted : Nat) (decline : Decline)
  | retryAllowed (attempt : Uuid) (group : Group) (attempted : Nat) (decline : Decline)
  | outcomeScored (outcome : Outcome) (attempt : Uuid) (tally : Tally) (decline : Decline)
  | allowedUnclassified (attempt account paymentMethod : Uuid) (failure : Failure)
  | allowedWithoutShare (attempt tenant : Uuid) (failure : Failure)
  | paymentMethodUnknown (paymentMethod : Uuid)
  | transactionClassified (transaction : Uuid) (externalKey gatewayCode gatewayMessage : String)
      (decline : Decline)
  | transactionSkipped (transaction : Uuid) (type : String)
  | shareLoaded (tenant : Uuid) (share : Nat)
  | shareUnavailable (tenant : Uuid) (failure : Failure)
  | shareUpdated (tenant : Uuid) (share : Int32)
  | shareNotUpdated (tenant : Uuid) (failure : Failure)
  | checkFailed (externalKey : String) (tenant : Uuid) (failure : Failure)
  | keyRejected (guard : Guard) (path : String)
deriving DecidableEq

namespace LogEntry

def level : LogEntry → Level
  | routeDropped .. | pendingReplaced .. | allowedUnclassified .. | allowedWithoutShare ..
  | paymentMethodUnknown .. | transactionSkipped .. | keyRejected .. => .warn
  | shareUnavailable .. | shareNotUpdated .. | checkFailed .. => .error
  | _ => .info

def verdictText (d : Decline) : String :=
  let code := d.code.toInt
  s!"processorMessage='{d.message}' processorCode='{code}' isRetryable='{d.retryable}'"

def text : LogEntry → String
  | routeDropped plugin processor =>
    s!"dropping route plugin='{plugin}': no decline codes registered for processor='{processor}'"
  | pluginUnrouted plugin => s!"payment retries not configured for plugin='{plugin}'"
  | codeUnlisted plugin code message =>
    let code := code.toInt
    s!"no decline code plugin='{plugin}' processorCode='{code}', " ++
      s!"trying fuzzy match on errorMessage='{message}'"
  | codeUnreadable code message =>
    s!"unable to extract an integer processorResponseCode from processorResponse='{code}', " ++
      s!"trying fuzzy match on errorMessage='{message}'"
  | messageUnmatched plugin message =>
    s!"unable to fuzzy match an error category plugin='{plugin}' errorMessage='{message}'"
  | pendingReplaced attempt =>
    s!"replaced pending control-group entry attemptPaymentId='{attempt}'"
  | retryPrevented attempt aborted attempted decline =>
    let percent := floorPercent aborted attempted
    s!"prevented retry attemptPaymentId='{attempt}' totalAborted='{aborted}' " ++
      s!"nbOfAttemptedRetries='{attempted}' totalAbortedPct='{percent}' " ++ verdictText decline
  | retryAllowed attempt group attempted decline =>
    s!"allowed retry attemptPaymentId='{attempt}' group='{group.label}' " ++
      s!"nbOfAttemptedRetries='{attempted}' " ++ verdictText decline
  | outcomeScored outcome attempt tally decline =>
    let bucket := tally.count outcome
    let percent := floorPercent bucket tally.total
    s!"{outcome.adjective} retry attemptPaymentId='{attempt}' nbOfRetries='{tally.total}' " ++
      s!"inBucket='{bucket}' bucketPct='{percent}' processor='{decline.processor}' " ++
      verdictText decline
  | allowedUnclassified attempt account paymentMethod failure =>
    s!"allowing retry attemptPaymentId='{attempt}': unable to classify last authorization " ++
      s!"accountId='{account}' paymentMethodId='{paymentMethod}': {failure.chain}"
  | allowedWithoutShare attempt tenant failure =>
    s!"allowing retry attemptPaymentId='{attempt}': unable to load experiment config " ++
      s!"tenantId='{tenant}': {failure.chain}"
  | paymentMethodUnknown paymentMethod =>
    s!"payment method not found paymentMethodId='{paymentMethod}'"
  | transactionClassified transaction externalKey gatewayCode gatewayMessage decline =>
    s!"classified paymentTransactionId='{transaction}' " ++
      s!"paymentTransactionExternalKey='{externalKey}' gatewayErrorCode='{gatewayCode}' " ++
      s!"gatewayErrorMsg='{gatewayMessage}' " ++ verdictText decline
  | transactionSkipped transaction type =>
    s!"skipping transaction transactionId='{transaction}' with unknown type='{type}'"
  | shareLoaded tenant share =>
    s!"loaded experiment config tenantId='{tenant}' experimentTrafficPct='{share}'"
  | shareUnavailable tenant failure =>
    s!"unable to load experiment config tenantId='{tenant}': {failure.chain}"
  | shareUpdated tenant share =>
    let share := share.toInt
    s!"updated experiment config tenantId='{tenant}' experimentTrafficPct='{share}'"
  | shareNotUpdated tenant failure =>
    s!"unable to update experiment config tenantId='{tenant}': {failure.chain}"
  | checkFailed externalKey tenant failure =>
    s!"payment method check failed paymentExternalKey='{externalKey}' tenantId='{tenant}': " ++
      failure.chain
  | keyRejected guard path => s!"rejected {guard.name} request path='{path}'"

def line (e : LogEntry) : String := s!"{e.level.name} {e.text}"

end LogEntry

end RetryTrial
