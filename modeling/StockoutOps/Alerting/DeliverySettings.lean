import StockoutOps.Errors
import StockoutOps.Json

/-!
Contract: the webhook delivery settings, `alerting/delivery_settings.py`.

Owns: `AlertDeliverySettings` with its validation, and the host of a webhook URL.

Does not own: the environment the settings are read from, nor `urlparse`, which
is a parameter: it splits a text into the parts of a URL, or raises.
`ConfigurationError` is a `RuntimeError`.
-/

namespace StockoutOps.Alerting

/-- `urllib.parse.ParseResult`; reading the port may raise. -/
structure ParsedUrl where
  scheme : String
  username : Option String
  password : Option String
  hostname : Option String
  port : Except String (Option Int)

/-- `urllib.parse.urlparse` -/
abbrev UrlParser := String → Except String ParsedUrl

def UrlParser.parse (urlparse : UrlParser) (url : String) : Except Failure ParsedUrl :=
  match urlparse url with
  | .ok parsed => .ok parsed
  | .error message => .error (.valueError message)

def loopbackHosts : List String := ["127.0.0.1", "localhost", "::1"]

def urlRequiresHost : Failure :=
  .runtimeError "Alert webhook URL requires a host"

/-- The host a parsed URL names; an empty one is none. -/
def ParsedUrl.host (parsed : ParsedUrl) : Except Failure String :=
  match parsed.hostname with
  | none => .error urlRequiresHost
  | some host => if host = "" then .error urlRequiresHost else .ok host

def destinationHost (urlparse : UrlParser) (url : String) : Except Failure String := do
  let parsed ← urlparse.parse url
  parsed.host

def validateWebhookUrl (urlparse : UrlParser) (url : String) : Except Failure String := do
  let parsed ← urlparse.parse url
  if parsed.username.isSome ∨ parsed.password.isSome then
    throw (.runtimeError "Alert webhook URL must not contain credentials")
  if parsed.scheme ∉ ["http", "https"] then
    throw (.runtimeError "Alert webhook URL must use http or https")
  let host ← parsed.host
  if parsed.scheme = "http" ∧ host.toLower ∉ loopbackHosts then
    throw (.runtimeError "Alert webhook URL must use HTTPS except for loopback proof receivers")
  match parsed.port with
  | .error message => throw (.valueError message)
  | .ok port => if port = some 0 then throw (.runtimeError "Alert webhook URL port is invalid")
  return url

def maxTimeoutSeconds : ℚ := 5
def maxSettingsAttempts : Int := 10

/-- `timeout <= 0 or timeout > MAX_TIMEOUT_SECONDS`; both are false of a NaN. -/
def timeoutOutsideBound : PyFloat → Bool
  | .finite value => value ≤ 0 || maxTimeoutSeconds < value
  | .posInf | .negInf => true
  | .nan => false

structure AlertDeliverySettings where
  enabled : Bool
  webhookUrl : Option String
  timeoutSeconds : PyFloat
  maxAttempts : Int
  token : Option String
deriving DecidableEq

def AlertDeliverySettings.validate (urlparse : UrlParser) (settings : AlertDeliverySettings) :
    Except Failure Unit := do
  if settings.enabled then
    match settings.webhookUrl with
    | none => throw (.runtimeError
        "STOCKOUTOPS_ALERT_WEBHOOK_URL is required when webhook delivery is enabled")
    | some url => do
        let _ ← validateWebhookUrl urlparse url
        if timeoutOutsideBound settings.timeoutSeconds then
          throw (.runtimeError "Webhook timeout is outside the allowed bound")
        if settings.maxAttempts < 1 ∨ maxSettingsAttempts < settings.maxAttempts then
          throw (.runtimeError "Webhook max attempts are outside the allowed bound")

end StockoutOps.Alerting
