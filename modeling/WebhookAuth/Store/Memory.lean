import WebhookAuth.Time.DateTime

/-!
# The local nonce store

A table of consumed nonces. Every access first sweeps out the records that are over at the reference
time; a nonce is reserved if its reservation is not over already and no record of it is left.
-/

namespace WebhookAuth

/-- A consumed nonce, and when it may be used again. -/
structure NonceRecord where
  nonce : String
  expires : DateTime
  deriving DecidableEq, Repr

namespace NonceRecord

/-- Is the reservation over at a time? It is from its expiry on. -/
def isExpired (r : NonceRecord) (now : DateTime) : Except TimeError Bool :=
  r.expires.notAfter now

end NonceRecord

/-- Records of consumed nonces in the order of their reservation, one for each nonce. -/
structure MemoryStore where
  records : List NonceRecord
  nodup : (records.map (·.nonce)).Nodup
  deriving Repr

namespace MemoryStore

/-- The store without records. -/
def empty : MemoryStore := ⟨[], .nil⟩

instance : Inhabited MemoryStore := ⟨empty⟩

/-- The records that satisfy a test. -/
def filter (s : MemoryStore) (p : NonceRecord → Bool) : MemoryStore where
  records := s.records.filter p
  nodup := s.nodup.sublist (List.filter_sublist.map _)

/-- Adds a record for a nonce that has none. -/
def insert (s : MemoryStore) (r : NonceRecord) (h : r.nonce ∉ s.records.map (·.nonce)) :
    MemoryStore where
  records := s.records ++ [r]
  nodup := by
    rw [List.map_append, List.nodup_append]
    exact ⟨s.nodup, by simp, by intro a ha b hb; simp at hb; subst hb; exact fun e => h (e ▸ ha)⟩

/-- Removes the records that are over, unless one of them cannot be compared. -/
def sweep (s : MemoryStore) (now : DateTime) : Except TimeError MemoryStore := do
  if s.records.all fun r => r.expires.isAware == now.isAware then
    return s.filter fun r => now.instant < r.expires.instant
  else throw .mixedComparison

/-- Tries to reserve a nonce without a time until when: the records are swept, and that is all. -/
def reserveUndated (s : MemoryStore) (now : DateTime) : Except TimeError Bool × MemoryStore :=
  match s.sweep now with
  | .error e => (.error e, s)
  | .ok live => (DateTime.inOrder none (some now), live)

/-- Reserves a nonce until a time. The answer is whether it was free. -/
def reserve (s : MemoryStore) (nonce : String) (expires now : DateTime) :
    Except TimeError Bool × MemoryStore :=
  match s.sweep now with
  | .error e => (.error e, s)
  | .ok live =>
    match expires.notAfter now with
    | .error e => (.error e, live)
    | .ok true => (.ok false, live)
    | .ok false =>
      if h : nonce ∈ live.records.map (·.nonce) then (.ok false, live)
      else (.ok true, live.insert ⟨nonce, expires⟩ h)

/-- The number of reservations that are not over. -/
def size (s : MemoryStore) (now : DateTime) : Except TimeError Nat × MemoryStore :=
  match s.sweep now with
  | .error e => (.error e, s)
  | .ok live => (.ok live.records.length, live)

@[simp] theorem records_empty : empty.records = [] := rfl

@[simp] theorem records_filter (s : MemoryStore) (p : NonceRecord → Bool) :
    (s.filter p).records = s.records.filter p := rfl

@[simp] theorem records_insert (s : MemoryStore) (r : NonceRecord)
    (h : r.nonce ∉ s.records.map (·.nonce)) : (s.insert r h).records = s.records ++ [r] := rfl

end MemoryStore

end WebhookAuth
