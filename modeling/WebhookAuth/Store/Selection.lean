import WebhookAuth.Store.Endpoint
import WebhookAuth.Store.NonceStore

/-!
# Choosing a nonce store

The environment decides: the first variable with a connection string that is not blank makes the
store remote; without one it is local. How clients are made for a URL is given (`Connector`).
-/

namespace WebhookAuth

/-- What came of choosing a store. -/
structure Selection (Refusal : Type) where
  store : Except (Refusal ⊕ ConfigError) NonceStore
  log : List LogEntry

namespace Selection

/-- The variables that may hold a connection string, the first to be looked at first. -/
def sources : List String := ["SWISH_REDIS", "REDIS_URL", "SWISH_REDIS_CONN"]

/-- The first variable with a value that is not blank, and the value. -/
def connection? (env : Fields) : Option (String × String) :=
  sources.findSome? fun name =>
    ((env.get? name).filter fun value => !Text.isBlankText value).map (name, ·)

/-- The store that an environment asks for. -/
def ofEnvironment {Refusal : Type} (connector : Connector Refusal) (env : Fields)
    (keyStart : String) : Selection Refusal :=
  match connection? env with
  | none => ⟨.ok (.memory .empty), [.localChosen]⟩
  | some (name, value) =>
    ⟨(RemoteStore.ofUrl connector (Endpoint.urlOfConnectionString value) keyStart).map .remote,
      [.remoteChosen name]⟩

end Selection

end WebhookAuth
