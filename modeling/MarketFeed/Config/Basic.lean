import MarketFeed.Session.Backoff
import MarketFeed.Url.Reader
import MarketFeed.Text.Quoted

/-!
The configuration of a client: where the server is, how the token for it is found, and how long the
client waits for what. A configuration is checked before a client is made from it.
-/

namespace MarketFeed

/-- How attempts to connect follow one another. Without a limit they never end. -/
structure ReconnectPolicy where
  backoff : BackoffPolicy
  maxAttempts : Option Nat
  maintenanceDelay : Duration
deriving DecidableEq, Repr

/-- A configuration. The token itself is no part of it, only whether there is a source of tokens, which
is asked anew for every attempt to connect. -/
structure Config where
  url : String
  hasTokenSource : Bool
  reconnect : ReconnectPolicy
  heartbeat : Duration
  idle : Duration
  connectTimeout : Duration
  maxDecodeFailures : Nat
deriving DecidableEq, Repr

/-- Why an address is no endpoint. -/
inductive EndpointFault where
  | unreadable (url : String) (fault : Url.Fault)
  | unsupportedScheme (scheme : String)
deriving DecidableEq, Repr

/-- Why a configuration cannot drive a client. -/
inductive ConfigFault where
  | endpoint (fault : EndpointFault)
  | zeroLength (setting : String)
  | noDecodeFailures
  | multiplier (value : Double)
  | initialExceedsGreatest
deriving DecidableEq, Repr

def EndpointFault.message : EndpointFault → String
  | unreadable url fault => "invalid api url: " ++ url ++ ": " ++ fault.message
  | unsupportedScheme scheme => "invalid api url: unsupported scheme `" ++ scheme ++ "`"

def ConfigFault.message : ConfigFault → String
  | endpoint fault => fault.message
  | zeroLength setting => "invalid configuration: " ++ setting ++ " must be non-zero"
  | noDecodeFailures =>
    "invalid configuration: max_consecutive_decode_failures must be at least 1"
  | multiplier value =>
    "invalid configuration: backoff multiplier must be finite and >= 1.0, got "
      ++ value.text .sentence
  | initialExceedsGreatest => "invalid configuration: backoff initial_delay exceeds max_delay"

namespace BackoffPolicy

/-- From a quarter of a second, doubling up to five seconds, with jitter. -/
protected def default : BackoffPolicy :=
  .exponential (.ofMillis 250) (.ofSeconds 5) (.ofNat 2) true

/-- Checks that the delays of a policy do not shrink and start within their bound. -/
def fault? : BackoffPolicy → Option ConfigFault
  | fixed _ => none
  | exponential initial greatest multiplier _ =>
    if ¬multiplier.isFinite ∨ ¬multiplier.atLeastOne then some (.multiplier multiplier)
    else if initial.exceeds greatest then some .initialExceedsGreatest
    else none

end BackoffPolicy

namespace Config

def defaultUrl : String := "https://api.funkybit.fun"

/-- The settings for a server when nothing else is asked for. -/
def ofUrl (url : String) : Config where
  url
  hasTokenSource := false
  reconnect := ⟨.default, none, .ofSeconds 1⟩
  heartbeat := .ofSeconds 30
  idle := .ofSeconds 90
  connectTimeout := .ofSeconds 10
  maxDecodeFailures := 5

/-- The scheme of a feed for that of a server: secure if the server's is. -/
def feedScheme : Url.Scheme → Url.Scheme
  | .http | .ws => .ws
  | .https | .wss => .wss

/-- The address of the feed without a token: the path is carried on by `connect`, and the query is
dropped. -/
def baseEndpoint (c : Config) : Except EndpointFault Url :=
  match Url.read c.url.toList with
  | .error fault => .error (.unreadable c.url fault)
  | .ok (.foreign scheme) => .error (.unsupportedScheme (String.ofList scheme))
  | .ok (.web u) =>
    .ok { u.withScheme (feedScheme u.scheme) with
      path := Url.trimSegments u.path ++ ["connect".toList]
      query := none }

/-- The address of the feed with the answer of the token source. -/
def endpoint (c : Config) (token : Option String) : Except EndpointFault String :=
  match c.baseEndpoint with
  | .error fault => .error fault
  | .ok u =>
    let query := token.map fun t => "auth=".toList ++ Url.formEncode t.toList
    .ok (String.ofList { u with query }.text)

/-- The first of the lengths of time that must not be nothing but is. -/
def zeroSetting? (c : Config) : Option String :=
  ([("heartbeat_interval", c.heartbeat), ("idle_timeout", c.idle),
    ("connect_timeout", c.connectTimeout)].find? (·.2.isZero)).map (·.1)

/-- Checks every setting; the token source is not asked. -/
def fault? (c : Config) : Option ConfigFault :=
  match c.baseEndpoint with
  | .error fault => some (.endpoint fault)
  | .ok _ =>
    match c.zeroSetting? with
    | some setting => some (.zeroLength setting)
    | none =>
      if c.maxDecodeFailures = 0 then some .noDecodeFailures else c.reconnect.backoff.fault?

def isValid (c : Config) : Bool := c.fault?.isNone

theorem exists_base_of_isValid {c : Config} (h : c.isValid = true) :
    ∃ base, c.baseEndpoint = .ok base := by
  unfold isValid fault? at h
  cases hb : c.baseEndpoint with
  | error fault =>
    rw [hb] at h
    cases h
  | ok base => exact ⟨base, rfl⟩

theorem backoff_of_isValid {c : Config} (h : c.isValid = true) :
    c.reconnect.backoff.fault? = none := by
  unfold isValid fault? at h
  split at h
  · cases h
  · split at h
    · cases h
    · split at h
      · cases h
      · exact Option.isNone_iff_eq_none.mp h

/-- Named values in a dump. -/
def dumpFields (name : String) (fields : List (String × String)) : String :=
  name ++ " \x7b " ++ ", ".intercalate (fields.map fun f => f.1 ++ ": " ++ f.2) ++ " \x7d"

def dumpBool (b : Bool) : String := if b then "true" else "false"

def dumpOption : Option String → String
  | some s => "Some(" ++ s ++ ")"
  | none => "None"

def dumpPolicy : BackoffPolicy → String
  | .fixed d => "Fixed(" ++ d.text ++ ")"
  | .exponential initial greatest multiplier jitter =>
    dumpFields "Exponential"
      [("initial_delay", initial.text), ("max_delay", greatest.text),
        ("multiplier", multiplier.text .dump), ("jitter", dumpBool jitter)]

/-- The settings in a dump. What the token source knows is not shown. -/
def dump (c : Config) : String :=
  dumpFields "ClientConfig"
    [("api_url", Text.quoted c.url),
      ("auth", dumpOption (if c.hasTokenSource then some (Text.quoted "<redacted>") else none)),
      ("reconnect", dumpFields "ReconnectConfig"
        [("policy", dumpPolicy c.reconnect.backoff),
          ("max_attempts", dumpOption (c.reconnect.maxAttempts.map toString)),
          ("maintenance_delay", c.reconnect.maintenanceDelay.text)]),
      ("heartbeat_interval", c.heartbeat.text),
      ("idle_timeout", c.idle.text),
      ("connect_timeout", c.connectTimeout.text),
      ("max_consecutive_decode_failures", toString c.maxDecodeFailures)]

end Config

end MarketFeed
