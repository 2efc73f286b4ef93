import StockoutOps.Alerting.DeliverySettings
import StockoutOps.Alerting.Evaluation

/-!
Contract: the bridge from an evaluation to a delivery intent, `alerting/enqueue.py`.

Owns: `WebhookOutboxEnqueuer`, how it is built from settings, and the intent it
asks for.

Does not own: the statement that inserts the intent.
-/

namespace StockoutOps.Alerting

/-- Its attributes; `WebhookOutboxEnqueuer.create` is the constructor. -/
structure WebhookOutboxEnqueuer where
  settings : AlertDeliverySettings
  destinationHost : String
  maxAttempts : Int

namespace WebhookOutboxEnqueuer

/-- `WebhookOutboxEnqueuer.__init__` -/
def create (urlparse : UrlParser) (settings : AlertDeliverySettings) (maxAttempts : Int) :
    Except Failure WebhookOutboxEnqueuer := do
  settings.validate urlparse
  match settings.enabled, settings.webhookUrl with
  | true, some url => do
      let host ← StockoutOps.Alerting.destinationHost urlparse url
      .ok ⟨settings, host, maxAttempts⟩
  | _, _ => .error (.valueError "WebhookOutboxEnqueuer requires enabled delivery settings")

/-- The intent that reports an evaluation. -/
def intent (platform : EvaluationPlatform) (enqueuer : WebhookOutboxEnqueuer)
    (evaluation : AlertEvaluation) (enqueuedAt : Timestamp) : EnqueueRequest where
  tenantId := evaluation.tenantId
  evaluationId := evaluation.alertEvaluationId
  alertFingerprint := evaluation.alertFingerprint
  transition := evaluation.transition
  destinationHost := enqueuer.destinationHost
  payload := webhookPayload platform evaluation
  payloadHash := platform.canonicalHash (webhookPayload platform evaluation)
  enqueuedAt := enqueuedAt
  maxAttempts := enqueuer.maxAttempts

/-- `WebhookOutboxEnqueuer.enqueue`, over the statement that inserts an intent. -/
def enqueue {m : Type → Type _} [Monad m] (platform : EvaluationPlatform)
    (insertIntent : EnqueueRequest → m (Option Int)) (enqueuer : WebhookOutboxEnqueuer)
    (evaluation : AlertEvaluation) (enqueuedAt : Timestamp) : m (Option Int) :=
  if shouldNotify evaluation then
    insertIntent (enqueuer.intent platform evaluation enqueuedAt)
  else pure none

end WebhookOutboxEnqueuer

/-- None while delivery is disabled, which is the default. -/
def buildDeliveryEnqueuer (urlparse : UrlParser) (settings : AlertDeliverySettings)
    (maxAttempts : Int := defaultMaxAttempts) : Except Failure (Option WebhookOutboxEnqueuer) :=
  if !settings.enabled then .ok none
  else some <$> WebhookOutboxEnqueuer.create urlparse settings maxAttempts

end StockoutOps.Alerting
