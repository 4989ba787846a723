import WebhookAuth.Config
import WebhookAuth.LogEntry
import WebhookAuth.Time.IsoText

/-!
# The remote nonce store

Nonces as keys on a server that several receivers share. A reservation is one command that sets a
key unless it is there, with a time to live; it goes through a blocking client or through one that
is awaited. A server that does not answer in time makes the store unavailable. Clients may do
anything with a command (`Conduct`); those of the server do as it replies (`Server.reply`).
-/

namespace WebhookAuth

/-- How the caller of a reservation waits for it. -/
inductive Caller where
  /-- It blocks until the answer is there. -/
  | blocking
  /-- It awaits the answer. -/
  | awaiting
  /-- It awaits the answer, and is cancelled as soon as it has to wait. A limited wait is one even
  if the answer comes at once; then the answer counts, and nothing comes of the cancellation. -/
  | cancelled
  deriving DecidableEq, Repr

/-- Why a reservation has no answer. -/
inductive StoreError where
  /-- The server refused, or did not answer in time. -/
  | unavailable
  | noBlockingClient
  | noAwaitingClient
  | blankNonce
  | time (e : TimeError)
  /-- The system gave up waiting for the server. -/
  | timedOut
  /-- The connection failed below the client. -/
  | connection (text : String)
  /-- The caller was cancelled while it waited. -/
  | cancelled
  /-- The server never answers. -/
  | unanswered
  deriving DecidableEq, Repr

/-- The text of the refusal. -/
def StoreError.message : StoreError → String
  | .unavailable => "Nonce store unavailable"
  | .noBlockingClient => "RedisNonceStore has no synchronous client"
  | .noAwaitingClient => "RedisNonceStore has no async client"
  | .blankNonce => "Nonce cannot be empty"
  | .time e => e.message
  | .timedOut => "slow"
  | .connection text => text
  | .cancelled => ""
  | .unanswered => ""

/-- The command that sets a key unless it is there. -/
structure SetCommand where
  key : String
  value : String
  /-- Milliseconds to live. -/
  ttlMillis : Int
  deriving DecidableEq, Repr

/-- What a client does with a command. -/
inductive Reply where
  /-- The key was not there and is set. -/
  | stored
  /-- The key was there. -/
  | present
  /-- The client raises one of its own errors. -/
  | refused
  /-- The system gives up waiting. -/
  | timedOut
  /-- The connection fails below the client. -/
  | failed (text : String)
  /-- No answer ever comes. -/
  | silent
  deriving DecidableEq, Repr

/-- How the server behaves. -/
inductive ServerMode where
  | answering
  | refusingConnections
  | answeringLate
  | answeringErrors
  | timingOut
  | breakingPipes
  /-- Awaited commands never finish; blocking ones do. -/
  | silent
  deriving DecidableEq, Repr

/-- The server behind the clients of a remote store. Its keys do not expire. -/
structure Server where
  mode : ServerMode := .answering
  entries : Fields := []
  deriving DecidableEq, Repr

/-- Sets a key unless it is there. -/
def Server.setIfAbsent (s : Server) (c : SetCommand) : Reply × Server :=
  if (s.entries.get? c.key).isSome then (.present, s)
  else (.stored, { s with entries := s.entries.set c.key c.value })

/-- What a client gets for a command, and the server afterwards. A server that does not answer has
not stored the key. -/
def Server.reply (s : Server) (caller : Caller) (c : SetCommand) : Reply × Server :=
  match s.mode with
  | .answering => s.setIfAbsent c
  | .refusingConnections | .answeringLate | .answeringErrors => (.refused, s)
  | .timingOut => (.timedOut, s)
  | .breakingPipes => (.failed "broken pipe", s)
  | .silent => if caller = .blocking then s.setIfAbsent c else (.silent, s)

/-- What a client does with a command of a caller, and the server that it leaves. -/
abbrev Conduct := Server → Caller → SetCommand → Reply × Server

/-- What a client is asked to connect to. -/
structure Target where
  url : String
  /-- How long an answer may take. -/
  socketWait : Option Duration
  /-- How long a connection may take. -/
  connectWait : Option Duration
  deriving DecidableEq, Repr

/-- A client of the server. -/
structure Client where
  /-- What it was made for, unless it was handed in. -/
  target : Option Target := none
  closed : Bool := false
  deriving DecidableEq, Repr

/-- How clients of both kinds are made; a target may be refused. -/
structure Connector (Refusal : Type) where
  blocking : Target → Except Refusal Client
  awaiting : Target → Except Refusal Client

/-- A nonce store behind a server. -/
structure RemoteStore where
  blockingClient : Option Client
  awaitingClient : Option Client
  /-- What the key of a nonce starts with. -/
  keyStart : String
  /-- The longest time that a nonce is remembered. -/
  maxTtl : Duration
  /-- How long an awaited reservation may take. -/
  timeout : Option Duration
  server : Server
  maxTtl_pos : 0 < maxTtl.micros
  deriving DecidableEq, Repr

/-- What came of a reservation. -/
structure Reservation (Store : Type) where
  answer : Except StoreError Bool
  store : Store
  /-- The commands that reached the server, in order. -/
  commands : List SetCommand
  log : List LogEntry

namespace RemoteStore

/-- What keys start with unless something else is set. -/
def defaultKeyStart : String := "swish:nonce:"

/-- The longest time that a nonce is remembered unless something else is set: seven days. -/
def defaultMaxTtl : Duration := .seconds 604800

/-- Sets up a store; a blank start of keys is replaced by the usual one. -/
def make (blockingClient awaitingClient : Option Client) (keyStart : String) (maxTtl : Duration)
    (timeout : Option Duration) (server : Server) : Except ConfigError RemoteStore :=
  if blockingClient.isNone ∧ awaitingClient.isNone then .error .noClient
  else if h : 0 < maxTtl.micros then .ok
    { blockingClient
      awaitingClient
      keyStart := if Text.isBlankText keyStart then defaultKeyStart else keyStart
      maxTtl
      timeout
      server
      maxTtl_pos := h }
  else .error .nonPositiveMaxTtl

/-- The client that a caller uses. -/
def clientOf (s : RemoteStore) : Caller → Option Client
  | .blocking => s.blockingClient
  | .awaiting | .cancelled => s.awaitingClient

/-- The refusal when a caller's client is missing. -/
def missingClient : Caller → StoreError
  | .blocking => .noBlockingClient
  | .awaiting | .cancelled => .noAwaitingClient

/-- The key of a nonce. -/
def key (s : RemoteStore) (nonce : String) : String := s.keyStart ++ nonce

/-- A span of microseconds in whole milliseconds, through two roundings to binary64. -/
def millisOf (micros : Int) : Int := ((Duration.toSeconds micros).scale 1000).nearest.truncate

/-- Milliseconds from a reference time until a time, at least one and at most the longest time to
remember a nonce. -/
def ttlMillis (s : RemoteStore) (expires now : DateTime) : Except TimeError Int := do
  let left ← expires.microsSince now
  return max (millisOf (min left s.maxTtl.micros)) 1

/-- The command that reserves a nonce. -/
def command (s : RemoteStore) (nonce : String) (expires now : DateTime) :
    Except StoreError SetCommand :=
  if Text.isBlankText nonce then .error .blankNonce
  else match s.ttlMillis expires now with
    | .error e => .error (.time e)
    | .ok ttl => .ok ⟨s.key nonce, now.iso, ttl⟩

/-- Why a nonce cannot be reserved without a time until when. -/
def undatedError (s : RemoteStore) (caller : Caller) (nonce : String) : StoreError :=
  if (s.clientOf caller).isNone then missingClient caller
  else if Text.isBlankText nonce then .blankNonce
  else .time (.absentSubtraction .absent .given)

/-- What a reply says of the reservation. An awaited command that runs out of time makes the store
unavailable; a caller that is cancelled first has no answer. -/
def settle (caller : Caller) (timeout : Option Duration) : Reply → Except StoreError Bool
  | .stored => .ok true
  | .present => .ok false
  | .refused => .error .unavailable
  | .timedOut => .error (if caller = .blocking then .timedOut else .unavailable)
  | .failed text => .error (.connection text)
  | .silent =>
    .error (if caller = .cancelled then .cancelled
      else if caller = .awaiting ∧ timeout.isSome then .unavailable
      else .unanswered)

/-- The log of a reservation with this answer. -/
def logOf (answer : Except StoreError Bool) : List LogEntry :=
  match answer with
  | .error .unavailable => [.storeUnavailable]
  | _ => []

/-- Is there no time at all for the caller to wait? -/
def givesNoTime (s : RemoteStore) (caller : Caller) : Bool :=
  caller != .blocking && s.timeout.any (·.micros ≤ 0)

/-- The answer for a caller without any time: the command is given up before it is sent, and whoever
is cancelled meanwhile learns nothing of it. -/
def giveUp : Caller → Except StoreError Bool
  | .cancelled => .error .cancelled
  | .blocking | .awaiting => .error .unavailable

/-- Reserves a nonce until a time through clients that behave in a given way. The answer is whether
it was free. -/
def reserveVia (conduct : Conduct) (s : RemoteStore) (caller : Caller) (nonce : String)
    (expires now : DateTime) : Reservation RemoteStore :=
  if (s.clientOf caller).isNone then ⟨.error (missingClient caller), s, [], []⟩
  else match s.command nonce expires now with
    | .error e => ⟨.error e, s, [], []⟩
    | .ok c =>
      if s.givesNoTime caller then ⟨giveUp caller, s, [], logOf (giveUp caller)⟩
      else
        let (reply, server) := conduct s.server caller c
        let answer := settle caller s.timeout reply
        let commands := if reply = .silent then [] else [c]
        ⟨answer, { s with server }, commands, logOf answer⟩

/-- Reserves a nonce until a time. The answer is whether it was free. -/
def reserve (s : RemoteStore) (caller : Caller) (nonce : String) (expires now : DateTime) :
    Reservation RemoteStore :=
  reserveVia Server.reply s caller nonce expires now

/-- Closes the client of a kind of caller. -/
def close (s : RemoteStore) : Caller → RemoteStore
  | .blocking =>
    { s with blockingClient := s.blockingClient.map fun c => { c with closed := true } }
  | .awaiting | .cancelled =>
    { s with awaitingClient := s.awaitingClient.map fun c => { c with closed := true } }

/-- How long everything may take unless something else is set: two seconds. -/
def defaultTimeout : Duration := .seconds 2

/-- What both clients for a URL are asked to connect to. -/
def targetOf (url : String) : Target := ⟨url, some defaultTimeout, some defaultTimeout⟩

/-- A store with both clients for a URL, the blocking one made first. -/
def ofUrl {Refusal : Type} (connector : Connector Refusal) (url keyStart : String) :
    Except (Refusal ⊕ ConfigError) RemoteStore := do
  let blocking ← (connector.blocking (targetOf url)).mapError .inl
  let awaiting ← (connector.awaiting (targetOf url)).mapError .inl
  (make (some blocking) (some awaiting) keyStart defaultMaxTtl (some defaultTimeout) {}).mapError
    .inr

end RemoteStore

end WebhookAuth
