import Mathlib.Algebra.Order.Ring.Rat
import StockoutOps.Alerting.DeliverySettings
import StockoutOps.Sql

/-!
Contract: the webhook delivery settings that are read from the environment,
`AlertDeliverySettings.from_env` of `alerting/delivery_settings.py`.

Owns: the readers of the flag, the timeout and the number of attempts with their
messages, `from_env`, what it means that it fails closed, and when it does.

Does not own: `float`, `int` and `urlparse`, which are parameters.
-/

namespace StockoutOps.Alerting

open StockoutOps.Sql

/-! ## The environment -/

/-- The variables `STOCKOUTOPS_ALERT_WEBHOOK_…`; `none` is a variable that is not set. -/
structure Environment where
  enabled : Option String
  url : Option String
  token : Option String
  timeoutSeconds : Option String
  maxAttempts : Option String

/-- What Python parses the variables with. A port that can be read is a port, and an
error of `float` or `int` is a `ValueError`. -/
structure EnvironmentParsers where
  float : String → Except String PyFloat
  int : String → Except String Int
  urlparse : UrlParser
  port_range : ∀ url parsed port, urlparse url = .ok parsed → parsed.port = .ok (some port) →
    0 ≤ port ∧ port ≤ 65535

/-- `str.isspace` on one character. -/
def isSpace (char : Char) : Bool :=
  let code := char.toNat
  (9 ≤ code && code ≤ 13) || (0x1c ≤ code && code ≤ 0x20) || code == 0x85 || code == 0xa0 ||
    code == 0x1680 || (0x2000 ≤ code && code ≤ 0x200a) || code == 0x2028 || code == 0x2029 ||
    code == 0x202f || code == 0x205f || code == 0x3000

/-- `str.strip` -/
def strip (text : String) : String :=
  String.ofList ((text.toList.dropWhile isSpace).reverse.dropWhile isSpace).reverse

/-- `value.lower()` has these values only where every letter is ASCII. -/
def parseEnabledFlag : Option String → Bool
  | none => false
  | some value => (strip value).toLower ∈ ["1", "true", "yes", "on"]

def defaultTimeoutSeconds : PyFloat := .finite 2

def defaultSettingsAttempts : Int := 5

/-- A variable that has a default: it is parsed unless it is blank, and refused outside
its bounds. -/
def readSetting {α : Type} (parse : String → Except String α) (outside : α → Bool) (default : α)
    (malformed outOfBounds : String) : Option String → Except Failure α
  | none => .ok default
  | some raw =>
      if strip raw = "" then .ok default
      else
        match parse raw with
        | .error _ => .error (.runtimeError malformed)
        | .ok value =>
            if outside value then .error (.runtimeError outOfBounds) else .ok value

def attemptsOutsideBound (attempts : Int) : Bool :=
  attempts < 1 || maxSettingsAttempts < attempts

section Readers

variable (python : EnvironmentParsers)

/-- `_parse_timeout` -/
def parseTimeout : Option String → Except Failure PyFloat :=
  readSetting python.float timeoutOutsideBound defaultTimeoutSeconds
    "STOCKOUTOPS_ALERT_WEBHOOK_TIMEOUT_SECONDS must be a number"
    "STOCKOUTOPS_ALERT_WEBHOOK_TIMEOUT_SECONDS must be > 0 and <= 5"

/-- `_parse_max_attempts` -/
def parseMaxAttempts : Option String → Except Failure Int :=
  readSetting python.int attemptsOutsideBound defaultSettingsAttempts
    "STOCKOUTOPS_ALERT_WEBHOOK_MAX_ATTEMPTS must be an integer"
    "STOCKOUTOPS_ALERT_WEBHOOK_MAX_ATTEMPTS must be between 1 and 10"

/-- `raw_url.strip() if raw_url and raw_url.strip() else None` -/
def Environment.webhookUrl (environment : Environment) : Option String :=
  match environment.url with
  | none => none
  | some raw => if strip raw = "" then none else some (strip raw)

/-- `token if token else None` -/
def Environment.webhookToken (environment : Environment) : Option String :=
  match environment.token with
  | none => none
  | some token => if token = "" then none else some token

/-- `AlertDeliverySettings.from_env` -/
def fromEnv (environment : Environment) : Except Failure AlertDeliverySettings := do
  let timeoutSeconds ← parseTimeout python environment.timeoutSeconds
  let maxAttempts ← parseMaxAttempts python environment.maxAttempts
  let settings : AlertDeliverySettings :=
    { enabled := parseEnabledFlag environment.enabled
      webhookUrl := environment.webhookUrl
      timeoutSeconds := timeoutSeconds
      maxAttempts := maxAttempts
      token := environment.webhookToken }
  settings.validate python.urlparse
  pure settings

end Readers

/-! ## Failing closed -/

/-- The parts of a URL that alerts may be sent to, but for the port. -/
structure GoodUpToPort (parsed : ParsedUrl) (host : String) : Prop where
  username : parsed.username = none
  password : parsed.password = none
  scheme : parsed.scheme = "https" ∨ parsed.scheme = "http" ∧ host.toLower ∈ loopbackHosts
  hostname : parsed.hostname = some host
  nonempty : host ≠ ""

/-- There is no port, or a port that can be connected to. -/
def GoodPort (parsed : ParsedUrl) : Prop :=
  parsed.port = .ok none ∨ ∃ port, parsed.port = .ok (some port) ∧ 1 ≤ port ∧ port ≤ 65535

def SafeUrl (urlparse : UrlParser) (url : String) : Prop :=
  ∃ parsed host, urlparse url = .ok parsed ∧ GoodUpToPort parsed host ∧ GoodPort parsed

/-- The settings that `from_env` may return. -/
structure SafeSettings (python : EnvironmentParsers) (settings : AlertDeliverySettings) : Prop where
  timeout : ∃ value, settings.timeoutSeconds = .finite value ∧ 0 < value ∧ value ≤ 5
  attempts : 1 ≤ settings.maxAttempts ∧ settings.maxAttempts ≤ 10
  url : settings.enabled = true → ∃ url, settings.webhookUrl = some url ∧
    SafeUrl python.urlparse url ∧ ∃ host, destinationHost python.urlparse url = .ok host

/-- `from_env` returns safe settings, or raises a `ConfigurationError`. -/
def FailsClosed (python : EnvironmentParsers) (environment : Environment) : Prop :=
  match fromEnv python environment with
  | .ok settings => SafeSettings python settings
  | .error exception => ∃ message, exception = .runtimeError message

/-! ## Where it does not -/

/-- The variable is not set, or blank. -/
def Blank (raw : Option String) : Prop := ∀ text, raw = some text → strip text = ""

/-- The text is not blank and reads as this value. -/
def ReadsAs {α : Type} (parse : String → Except String α) (raw : Option String) (value : α) :
    Prop :=
  ∃ text, raw = some text ∧ strip text ≠ "" ∧ parse text = .ok value

/-- The variable is blank, or reads as a value that is not outside the bounds. -/
def Passes {α : Type} (parse : String → Except String α) (outside : α → Bool)
    (raw : Option String) : Prop :=
  Blank raw ∨ ∃ value, ReadsAs parse raw value ∧ outside value = false

/-- `urlparse` raises on the URL, or nothing is wrong with it up to its port, and
reading the port raises. -/
def UnreadableUrl (urlparse : UrlParser) (url : String) : Prop :=
  (∃ message, urlparse url = .error message) ∨
    ∃ parsed host message, urlparse url = .ok parsed ∧ GoodUpToPort parsed host ∧
      parsed.port = .error message

/-- A NaN gets through: it is read, and nothing else is refused. -/
structure NanPasses (python : EnvironmentParsers) (environment : Environment) : Prop where
  timeout : ReadsAs python.float environment.timeoutSeconds .nan
  attempts : Passes python.int attemptsOutsideBound environment.maxAttempts
  url : parseEnabledFlag environment.enabled = true →
    ∃ url, environment.webhookUrl = some url ∧ SafeUrl python.urlparse url

/-- A `ValueError` escapes: the URL is looked at and cannot be read. -/
structure UrlEscapes (python : EnvironmentParsers) (environment : Environment) : Prop where
  enabled : parseEnabledFlag environment.enabled = true
  timeout : Passes python.float timeoutOutsideBound environment.timeoutSeconds
  attempts : Passes python.int attemptsOutsideBound environment.maxAttempts
  url : ∃ url, environment.webhookUrl = some url ∧ UnreadableUrl python.urlparse url

/-! ## The readers -/

theorem timeoutOutsideBound_eq_false {timeout : PyFloat} : timeoutOutsideBound timeout = false ↔
    timeout = .nan ∨ ∃ value, timeout = .finite value ∧ 0 < value ∧ value ≤ 5 := by
  cases timeout with
  | finite value =>
      simp only [timeoutOutsideBound, Bool.or_eq_false_iff, decide_eq_false_iff_not, not_le, not_lt,
        reduceCtorEq, false_or, PyFloat.finite.injEq, exists_eq_left']
      rfl
  | posInf => simp [timeoutOutsideBound]
  | negInf => simp [timeoutOutsideBound]
  | nan => simp [timeoutOutsideBound]

theorem attemptsOutsideBound_eq_false {attempts : Int} :
    attemptsOutsideBound attempts = false ↔ 1 ≤ attempts ∧ attempts ≤ 10 := by
  simp only [attemptsOutsideBound, Bool.or_eq_false_iff, decide_eq_false_iff_not, not_lt]
  rfl

section Reading

variable {α : Type} {parse : String → Except String α} {outside : α → Bool} {default value : α}
  {malformed outOfBounds : String} {raw : Option String} {exception : Failure}

theorem readSetting_error
    (refused : readSetting parse outside default malformed outOfBounds raw = .error exception) :
    ∃ message, exception = .runtimeError message := by
  unfold readSetting at refused
  split at refused
  case h_1 => cases refused
  case h_2 text =>
    split at refused
    case isTrue => cases refused
    case isFalse =>
      split at refused
      case h_1 => exact ⟨_, (Except.error.inj refused).symm⟩
      case h_2 =>
        split at refused
        case isTrue => exact ⟨_, (Except.error.inj refused).symm⟩
        case isFalse => cases refused

theorem readSetting_eq_ok :
    readSetting parse outside default malformed outOfBounds raw = .ok value ↔
      Blank raw ∧ value = default ∨ ReadsAs parse raw value ∧ outside value = false := by
  constructor
  · intro returned
    unfold readSetting at returned
    split at returned
    case h_1 => exact .inl ⟨nofun, (Except.ok.inj returned).symm⟩
    case h_2 text =>
      split at returned
      case isTrue blank =>
        exact .inl ⟨fun other same => Option.some.inj same ▸ blank, (Except.ok.inj returned).symm⟩
      case isFalse filled =>
        split at returned
        case h_1 => cases returned
        case h_2 other read =>
          split at returned
          case isTrue => cases returned
          case isFalse within =>
            obtain rfl := Except.ok.inj returned
            exact .inr ⟨⟨text, rfl, filled, read⟩, Bool.eq_false_of_not_eq_true within⟩
  · rintro (⟨blank, rfl⟩ | ⟨⟨text, rfl, filled, read⟩, within⟩)
    · cases raw with
      | none => rfl
      | some text => rw [readSetting, if_pos (blank text rfl)]
    · simp only [readSetting, if_neg filled, read, within, Bool.false_eq_true, if_false]

theorem passes_iff : Passes parse outside raw ↔
    ∃ value, readSetting parse outside default malformed outOfBounds raw = .ok value := by
  simp only [readSetting_eq_ok]
  constructor
  · rintro (blank | ⟨value, reads, within⟩)
    · exact ⟨default, .inl ⟨blank, rfl⟩⟩
    · exact ⟨value, .inr ⟨reads, within⟩⟩
  · rintro ⟨value, ⟨blank, -⟩ | reads⟩
    · exact .inl blank
    · exact .inr ⟨value, reads⟩

end Reading

/-! ## URLs -/

section Urls

variable {urlparse : UrlParser} {url : String} {parsed : ParsedUrl} {host : String}

theorem host_eq_ok : parsed.host = .ok host ↔ parsed.hostname = some host ∧ host ≠ "" := by
  unfold ParsedUrl.host
  cases parsed.hostname with
  | none => simp
  | some other =>
      simp only [Option.some.injEq]
      constructor
      · intro returned
        split at returned
        case isTrue => cases returned
        case isFalse filled =>
          obtain rfl := Except.ok.inj returned
          exact ⟨rfl, filled⟩
      · rintro ⟨rfl, filled⟩
        rw [if_neg filled]

/-- What is done once the parts of the URL are good. -/
def checkPort (url : String) (parsed : ParsedUrl) : Except Failure String :=
  match parsed.port with
  | .error message => .error (.valueError message)
  | .ok port =>
      if port = some 0 then .error (.runtimeError "Alert webhook URL port is invalid") else .ok url

/-- The checks of `validate_webhook_url` as one decision. -/
theorem validateWebhookUrl_eq (parse : urlparse url = .ok parsed) :
    validateWebhookUrl urlparse url =
      if parsed.username.isSome ∨ parsed.password.isSome then
        .error (.runtimeError "Alert webhook URL must not contain credentials")
      else if parsed.scheme ∉ ["http", "https"] then
        .error (.runtimeError "Alert webhook URL must use http or https")
      else
        match parsed.host with
        | .error exception => .error exception
        | .ok host =>
            if parsed.scheme = "http" ∧ host.toLower ∉ loopbackHosts then
              .error (.runtimeError
                "Alert webhook URL must use HTTPS except for loopback proof receivers")
            else checkPort url parsed := by
  simp only [validateWebhookUrl, UrlParser.parse, parse, bind, Except.bind, throw, throwThe,
    MonadExceptOf.throw, pure, Except.pure, checkPort]
  cases parsed.host <;> rfl

theorem host_error {exception : Failure} (refused : parsed.host = .error exception) :
    ∃ message, exception = .runtimeError message := by
  unfold ParsedUrl.host at refused
  split at refused
  case h_1 => exact ⟨_, (Except.error.inj refused).symm⟩
  case h_2 =>
    split at refused
    case isTrue => exact ⟨_, (Except.error.inj refused).symm⟩
    case isFalse => cases refused

/-- Everything about the URL but its port decides whether the port is looked at. -/
theorem validateWebhookUrl_cases (parse : urlparse url = .ok parsed) :
    (∃ message, validateWebhookUrl urlparse url = .error (.runtimeError message)) ∧
        (∀ host, ¬ GoodUpToPort parsed host) ∨
      ∃ host, GoodUpToPort parsed host ∧
        validateWebhookUrl urlparse url = checkPort url parsed := by
  rw [validateWebhookUrl_eq parse]
  split
  case isTrue credentials =>
    refine .inl ⟨⟨_, rfl⟩, fun host good => ?_⟩
    rw [good.username, good.password] at credentials
    exact credentials.elim nofun nofun
  case isFalse anonymous =>
    split
    case isTrue scheme =>
      refine .inl ⟨⟨_, rfl⟩, fun host good => scheme ?_⟩
      rcases good.scheme with https | ⟨http, -⟩
      · simp [https]
      · simp [http]
    case isFalse scheme =>
      split
      case h_1 exception named =>
        obtain ⟨message, rfl⟩ := host_error named
        refine .inl ⟨⟨message, rfl⟩, fun host good => ?_⟩
        rw [host_eq_ok.mpr ⟨good.hostname, good.nonempty⟩] at named
        cases named
      case h_2 host named =>
        obtain ⟨hostname, nonempty⟩ := host_eq_ok.mp named
        split
        case isTrue plain =>
          refine .inl ⟨⟨_, rfl⟩, fun other good => ?_⟩
          obtain rfl : host = other := Option.some.inj (hostname.symm.trans good.hostname)
          rcases good.scheme with https | ⟨-, loopback⟩
          · exact absurd (https.symm.trans plain.1) (by decide)
          · exact plain.2 loopback
        case isFalse covered =>
          simp only [not_or, Bool.not_eq_true, Option.isSome_eq_false_iff,
            Option.isNone_iff_eq_none] at anonymous
          refine .inr ⟨host, ⟨anonymous.1, anonymous.2, ?_, hostname, nonempty⟩, rfl⟩
          simp only [List.mem_cons, List.not_mem_nil, or_false, not_not] at scheme
          rcases scheme with http | https
          · exact .inr ⟨http, by_contra fun outside => covered ⟨http, outside⟩⟩
          · exact .inl https

/-- The three things that happen to a URL. -/
inductive UrlVerdict (urlparse : UrlParser) (url : String) : Prop where
  | accepted (valid : validateWebhookUrl urlparse url = .ok url) (safe : SafeUrl urlparse url)
      (readable : ¬ UnreadableUrl urlparse url)
  | refused (message : String)
      (invalid : validateWebhookUrl urlparse url = .error (.runtimeError message))
      (unsafe_ : ¬ SafeUrl urlparse url) (readable : ¬ UnreadableUrl urlparse url)
  | escaped (message : String)
      (raised : validateWebhookUrl urlparse url = .error (.valueError message))
      (unsafe_ : ¬ SafeUrl urlparse url) (unreadable : UnreadableUrl urlparse url)

theorem safeUrl_iff (parse : urlparse url = .ok parsed) :
    SafeUrl urlparse url ↔ ∃ host, GoodUpToPort parsed host ∧ GoodPort parsed := by
  simp only [SafeUrl, parse, Except.ok.injEq, exists_and_left, exists_eq_left']

theorem unreadableUrl_iff (parse : urlparse url = .ok parsed) : UnreadableUrl urlparse url ↔
    ∃ host, GoodUpToPort parsed host ∧ ∃ message, parsed.port = .error message := by
  simp only [UnreadableUrl, parse, Except.ok.injEq, reduceCtorEq, exists_false, false_or,
    exists_and_left, exists_eq_left']

theorem urlVerdict (python : EnvironmentParsers) (url : String) :
    UrlVerdict python.urlparse url := by
  cases parse : python.urlparse url with
  | error message =>
      refine .escaped message ?_ (fun safe => ?_) (.inl ⟨message, parse⟩)
      · simp only [validateWebhookUrl, UrlParser.parse, parse]
        rfl
      · obtain ⟨parsed, host, same, -⟩ := safe
        rw [parse] at same
        cases same
  | ok parsed =>
      rcases validateWebhookUrl_cases parse with ⟨⟨message, invalid⟩, bad⟩ | ⟨host, good, checked⟩
      · refine .refused message invalid (fun safe => ?_) (fun unreadable => ?_)
        · obtain ⟨host, good, -⟩ := (safeUrl_iff parse).mp safe
          exact bad host good
        · obtain ⟨host, good, -⟩ := (unreadableUrl_iff parse).mp unreadable
          exact bad host good
      · unfold checkPort at checked
        cases port : parsed.port with
        | error message =>
            rw [port] at checked
            refine .escaped message checked (fun safe => ?_)
              ((unreadableUrl_iff parse).mpr ⟨host, good, message, port⟩)
            obtain ⟨-, -, none_ | ⟨number, some_, -⟩⟩ := (safeUrl_iff parse).mp safe
            · exact absurd (port.symm.trans none_) nofun
            · exact absurd (port.symm.trans some_) nofun
        | ok number =>
            have readable : ¬ UnreadableUrl python.urlparse url := fun unreadable => by
              obtain ⟨-, -, message, other⟩ := (unreadableUrl_iff parse).mp unreadable
              exact absurd (port.symm.trans other) nofun
            rw [port] at checked
            simp only at checked
            split at checked
            case isTrue zero =>
              refine .refused _ checked (fun safe => ?_) readable
              obtain ⟨-, -, none_ | ⟨other, some_, least, -⟩⟩ := (safeUrl_iff parse).mp safe
              · rw [port, zero] at none_
                cases none_
              · rw [port, zero] at some_
                cases some_
                exact absurd least (by decide)
            case isFalse nonzero =>
              refine .accepted checked ((safeUrl_iff parse).mpr ⟨host, good, ?_⟩) readable
              cases number with
              | none => exact .inl port
              | some number =>
                  obtain ⟨least, most⟩ := python.port_range url parsed number parse port
                  have other : number ≠ 0 := fun same => nonzero (congrArg some same)
                  exact .inr ⟨number, port, by omega, most⟩

/-- The host of an accepted URL is found again. -/
theorem destinationHost_of_safe (safe : SafeUrl urlparse url) :
    ∃ host, destinationHost urlparse url = .ok host := by
  obtain ⟨parsed, host, parse, good, -⟩ := safe
  refine ⟨host, ?_⟩
  simp only [destinationHost, UrlParser.parse, parse]
  exact host_eq_ok.mpr ⟨good.hostname, good.nonempty⟩

end Urls

/-! ## Reading the environment -/

section FromEnv

variable {python : EnvironmentParsers} {environment : Environment} {timeout : PyFloat}
  {attempts : Int}

/-- The settings before they are validated. -/
def Environment.settings (environment : Environment) (timeout : PyFloat) (attempts : Int) :
    AlertDeliverySettings :=
  ⟨parseEnabledFlag environment.enabled, environment.webhookUrl, timeout, attempts,
    environment.webhookToken⟩

/-- Once the timeout and the attempts are read, only the URL is left to refuse. -/
theorem fromEnv_eq (timeoutRead : parseTimeout python environment.timeoutSeconds = .ok timeout)
    (attemptsRead : parseMaxAttempts python environment.maxAttempts = .ok attempts)
    (timeoutWithin : timeoutOutsideBound timeout = false)
    (attemptsWithin : attemptsOutsideBound attempts = false) :
    fromEnv python environment =
      if parseEnabledFlag environment.enabled = true then
        match environment.webhookUrl with
        | none => .error (.runtimeError
            "STOCKOUTOPS_ALERT_WEBHOOK_URL is required when webhook delivery is enabled")
        | some url =>
            match validateWebhookUrl python.urlparse url with
            | .error exception => .error exception
            | .ok _ => .ok (environment.settings timeout attempts)
      else .ok (environment.settings timeout attempts) := by
  have bounds : ¬ (attempts < 1 ∨ maxSettingsAttempts < attempts) := by
    obtain ⟨least, most⟩ := attemptsOutsideBound_eq_false.mp attemptsWithin
    unfold maxSettingsAttempts
    omega
  simp only [fromEnv, timeoutRead, attemptsRead, bind, Except.bind, AlertDeliverySettings.validate,
    pure, Except.pure, throw, throwThe, MonadExceptOf.throw, timeoutWithin, if_neg bounds,
    Bool.false_eq_true, if_false, Environment.settings]
  cases parseEnabledFlag environment.enabled with
  | false => rfl
  | true =>
      simp only [if_true]
      cases environment.webhookUrl with
      | none => rfl
      | some url =>
          cases checked : validateWebhookUrl python.urlparse url with
          | error exception => simp only [checked]
          | ok _ => simp only [checked]

/-- A variable that is refused is refused with a `ConfigurationError`. -/
theorem failsClosed_of_refused
    (refused : (∃ exception, parseTimeout python environment.timeoutSeconds = .error exception) ∨
      ∃ timeout exception, parseTimeout python environment.timeoutSeconds = .ok timeout ∧
        parseMaxAttempts python environment.maxAttempts = .error exception) :
    FailsClosed python environment := by
  obtain ⟨exception, raised⟩ | ⟨timeout, exception, read, raised⟩ := refused
  · obtain ⟨message, rfl⟩ := readSetting_error raised
    simp only [FailsClosed, fromEnv, raised]
    exact ⟨message, rfl⟩
  · obtain ⟨message, rfl⟩ := readSetting_error raised
    simp only [FailsClosed, fromEnv, read, raised]
    exact ⟨message, rfl⟩

/-- The settings that are returned are safe when their timeout is no NaN. -/
theorem safeSettings_iff (timeoutWithin : timeoutOutsideBound timeout = false)
    (attemptsWithin : attemptsOutsideBound attempts = false)
    (url : parseEnabledFlag environment.enabled = true →
      ∃ url, environment.webhookUrl = some url ∧ SafeUrl python.urlparse url) :
    SafeSettings python (environment.settings timeout attempts) ↔ timeout ≠ .nan := by
  constructor
  · rintro ⟨⟨value, finite, -⟩, -, -⟩ rfl
    cases finite
  · intro number
    refine ⟨?_, attemptsOutsideBound_eq_false.mp attemptsWithin, fun enabled => ?_⟩
    · exact (timeoutOutsideBound_eq_false.mp timeoutWithin).resolve_left number
    · obtain ⟨url, given, safe⟩ := url enabled
      exact ⟨url, given, safe, destinationHost_of_safe safe⟩

/-- Once the timeout and the attempts are read, the URL decides. -/
theorem failsClosed_of_read
    (timeoutRead : parseTimeout python environment.timeoutSeconds = .ok timeout)
    (attemptsRead : parseMaxAttempts python environment.maxAttempts = .ok attempts)
    (timeoutWithin : timeoutOutsideBound timeout = false)
    (attemptsWithin : attemptsOutsideBound attempts = false) :
    FailsClosed python environment ↔
      ¬ (timeout = .nan ∧ (parseEnabledFlag environment.enabled = true →
        ∃ url, environment.webhookUrl = some url ∧ SafeUrl python.urlparse url)) ∧
      ¬ (parseEnabledFlag environment.enabled = true ∧
        ∃ url, environment.webhookUrl = some url ∧ UnreadableUrl python.urlparse url) := by
  rw [FailsClosed, fromEnv_eq timeoutRead attemptsRead timeoutWithin attemptsWithin]
  cases flag : parseEnabledFlag environment.enabled with
  | false =>
      have safe := @safeSettings_iff python environment timeout attempts timeoutWithin
        attemptsWithin (fun enabled => absurd (flag.symm.trans enabled) nofun)
      simp only [Bool.false_eq_true, if_false, safe, false_imp_iff, and_true, false_and,
        not_false_eq_true]
  | true =>
      simp only [if_true, true_imp_iff, true_and]
      cases given : environment.webhookUrl with
      | none => simp
      | some url =>
          simp only [Option.some.injEq, exists_eq_left']
          cases urlVerdict python url with
          | accepted valid safe readable =>
              have settings := @safeSettings_iff python environment timeout attempts timeoutWithin
                attemptsWithin (fun _ => ⟨url, given, safe⟩)
              simp only [valid, settings, safe, readable, and_true, not_false_eq_true]
          | refused message invalid unsafe_ readable =>
              simp [invalid, unsafe_, readable]
          | escaped message raised unsafe_ unreadable =>
              simp [raised, unreadable]

/-- `from_env` fails closed unless a NaN passes or a URL cannot be read. -/
theorem failsClosed_iff (python : EnvironmentParsers) (environment : Environment) :
    FailsClosed python environment ↔
      ¬ NanPasses python environment ∧ ¬ UrlEscapes python environment := by
  have timeoutPasses : Passes python.float timeoutOutsideBound environment.timeoutSeconds ↔
      ∃ timeout, parseTimeout python environment.timeoutSeconds = .ok timeout := passes_iff
  have attemptsPass : Passes python.int attemptsOutsideBound environment.maxAttempts ↔
      ∃ attempts, parseMaxAttempts python environment.maxAttempts = .ok attempts := passes_iff
  have timeoutNan : ReadsAs python.float environment.timeoutSeconds .nan ↔
      parseTimeout python environment.timeoutSeconds = .ok .nan := by
    rw [parseTimeout, readSetting_eq_ok]
    simp [defaultTimeoutSeconds, timeoutOutsideBound]
  have nan : NanPasses python environment ↔
      parseTimeout python environment.timeoutSeconds = .ok .nan ∧
        (∃ attempts, parseMaxAttempts python environment.maxAttempts = .ok attempts) ∧
        (parseEnabledFlag environment.enabled = true →
          ∃ url, environment.webhookUrl = some url ∧ SafeUrl python.urlparse url) := by
    rw [← timeoutNan, ← attemptsPass]
    exact ⟨fun passes => ⟨passes.timeout, passes.attempts, passes.url⟩,
      fun ⟨timeout, attempts, url⟩ => ⟨timeout, attempts, url⟩⟩
  have escapes : UrlEscapes python environment ↔
      (∃ timeout, parseTimeout python environment.timeoutSeconds = .ok timeout) ∧
        (∃ attempts, parseMaxAttempts python environment.maxAttempts = .ok attempts) ∧
        parseEnabledFlag environment.enabled = true ∧
          ∃ url, environment.webhookUrl = some url ∧ UnreadableUrl python.urlparse url := by
    rw [← timeoutPasses, ← attemptsPass]
    exact ⟨fun raised => ⟨raised.timeout, raised.attempts, raised.enabled, raised.url⟩,
      fun ⟨timeout, attempts, enabled, url⟩ => ⟨enabled, timeout, attempts, url⟩⟩
  rw [nan, escapes]
  cases timeoutRead : parseTimeout python environment.timeoutSeconds with
  | error exception =>
      exact iff_of_true (failsClosed_of_refused (.inl ⟨exception, timeoutRead⟩)) (by simp)
  | ok timeout =>
      cases attemptsRead : parseMaxAttempts python environment.maxAttempts with
      | error exception =>
          exact iff_of_true
            (failsClosed_of_refused (.inr ⟨timeout, exception, timeoutRead, attemptsRead⟩))
            (by simp)
      | ok attempts =>
          have timeoutWithin : timeoutOutsideBound timeout = false := by
            rcases readSetting_eq_ok.mp timeoutRead with ⟨-, rfl⟩ | ⟨-, within⟩
            · decide
            · exact within
          have attemptsWithin : attemptsOutsideBound attempts = false := by
            rcases readSetting_eq_ok.mp attemptsRead with ⟨-, rfl⟩ | ⟨-, within⟩
            · decide
            · exact within
          rw [failsClosed_of_read timeoutRead attemptsRead timeoutWithin attemptsWithin]
          simp

end FromEnv

/-! ### A timeout that is no number, and a port that is none -/

/-- What Python makes of the texts of the two environments. -/
def exampleParsers : EnvironmentParsers where
  float := fun text =>
    if text = "nan" then .ok .nan else .error "could not convert string to float"
  int := fun _ => .error "invalid literal for int() with base 10"
  urlparse := fun _ =>
    .ok ⟨"https", none, none, some "alerts.example", .error "Port out of range 0-65535"⟩
  port_range := by
    intro url parsed port parse number
    obtain rfl := Except.ok.inj parse
    cases number

def nanTimeout : Environment := ⟨none, none, none, some "nan", none⟩

def highPort : Environment :=
  ⟨some "true", some "https://alerts.example:99999/hook", none, none, none⟩

/-- The one is returned with a NaN, and the other raises a `ValueError`. -/
theorem nan_returned_and_valueError_raised :
    fromEnv exampleParsers nanTimeout = .ok ⟨false, none, .nan, 5, none⟩ ∧
      ¬ FailsClosed exampleParsers nanTimeout ∧
      fromEnv exampleParsers highPort = .error (.valueError "Port out of range 0-65535") ∧
      ¬ FailsClosed exampleParsers highPort := by
  have returned : fromEnv exampleParsers nanTimeout = .ok ⟨false, none, .nan, 5, none⟩ := rfl
  have raised : fromEnv exampleParsers highPort =
      .error (.valueError "Port out of range 0-65535") := by
    have enabled : parseEnabledFlag highPort.enabled = true := by decide +kernel
    have given : highPort.webhookUrl = some "https://alerts.example:99999/hook" := by
      decide +kernel
    have unreadable : validateWebhookUrl exampleParsers.urlparse
        "https://alerts.example:99999/hook" =
          .error (.valueError "Port out of range 0-65535") := rfl
    rw [@fromEnv_eq exampleParsers highPort (.finite 2) 5 rfl rfl (by decide) (by decide),
      if_pos enabled, given]
    simp only [unreadable]
  refine ⟨returned, ?_, raised, ?_⟩
  · rw [FailsClosed, returned]
    rintro ⟨⟨value, finite, -⟩, -, -⟩
    cases finite
  · rw [FailsClosed, raised]
    rintro ⟨message, same⟩
    cases same

end StockoutOps.Alerting
