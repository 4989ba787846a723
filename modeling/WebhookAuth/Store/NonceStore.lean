import WebhookAuth.Store.Memory
import WebhookAuth.Store.Remote

/-!
# Nonce stores

A nonce store is local or remote. Reserving a nonce is the one replay check: the first reservation
is granted, and every later one is refused while it lasts.
-/

namespace WebhookAuth

/-- A registry of consumed nonces. -/
inductive NonceStore where
  | memory (s : MemoryStore)
  | remote (s : RemoteStore)

namespace NonceStore

/-- Reserves a nonce until a time. The answer is whether it was free. -/
def reserve (s : NonceStore) (caller : Caller) (nonce : String) (expires now : DateTime) :
    Reservation NonceStore :=
  match s with
  | memory m =>
    let (answer, m) := m.reserve nonce expires now
    ⟨answer.mapError .time, memory m, [], []⟩
  | remote r =>
    let reservation := r.reserve caller nonce expires now
    { reservation with store := remote reservation.store }

/-- Tries to reserve a nonce without a time until when, which no store does. -/
def reserveUndated (s : NonceStore) (caller : Caller) (nonce : String) (now : DateTime) :
    Reservation NonceStore :=
  match s with
  | memory m =>
    let (answer, m) := m.reserveUndated now
    ⟨answer.mapError .time, memory m, [], []⟩
  | remote r => ⟨.error (r.undatedError caller nonce), remote r, [], []⟩

end NonceStore

end WebhookAuth
