import WebhookAuth.Proofs.HeaderLookup
import WebhookAuth.Proofs.History

/-!
# What stores keep of nonces

A local and a remote store are told by one list of entries, each with the key of a nonce. A nonce is
held at a time if an entry with its key is not over by then (`NonceStore.Holds`). A reservation that
is granted or refused leaves the entries that are not over, with the new one if it is granted; a
reservation without an answer leaves all entries (`NonceStore.entries_reserve`). A store whose
server works and that gives the caller time has an answer (`NonceStore.exists_answer`).
-/

namespace WebhookAuth

theorem Fields.set_of_get?_eq_none {fields : Fields} {name : String} (value : String)
    (h : fields.get? name = none) : fields.set name value = fields ++ [(name, value)] := by
  induction fields with
  | nil => rfl
  | cons field rest ih =>
    obtain ⟨n, v⟩ := field
    rw [get?_cons] at h
    split_ifs at h with hname
    rw [set, if_neg (Ne.symm hname), ih h, List.cons_append]

theorem Fields.get?_eq_none_iff {fields : Fields} {name : String} :
    fields.get? name = none ↔ ∀ field ∈ fields, field.1 ≠ name := by
  induction fields with
  | nil => simp
  | cons field rest ih =>
    obtain ⟨n, v⟩ := field
    rw [get?_cons, List.forall_mem_cons]
    by_cases hname : name = n
    · simp [hname]
    · simp [hname, Ne.symm hname, ih]

/-- What a store keeps of a nonce: its key, with the expiry if the store is local and with the text
of the reservation time if it is remote. -/
structure StoreEntry where
  key : String
  content : DateTime ⊕ String

/-- Is the entry not over at a time? A remote store leaves that to its server. -/
def StoreEntry.isLive (e : StoreEntry) (now : DateTime) : Bool :=
  e.content.elim (fun expires => now.instant < expires.instant) fun _ => true

variable {nonce nonce' : String} {expires now : DateTime} {caller caller' : Caller}

namespace RemoteStore

/-- The server answers this caller, who is given time to wait. -/
def Answers (s : RemoteStore) (caller : Caller) : Prop :=
  (s.clientOf caller).isSome ∧ s.givesNoTime caller = false ∧
    (s.server.mode = .answering ∨ s.server.mode = .silent ∧ caller = .blocking)

/-- The store with other entries on its server. -/
def withEntries (s : RemoteStore) (entries : Fields) : RemoteStore :=
  { s with server := { s.server with entries } }

variable {s : RemoteStore}

theorem key_inj : s.key nonce = s.key nonce' ↔ nonce = nonce' := by
  refine ⟨fun h => ?_, fun h => h ▸ rfl⟩
  unfold key at h
  rw [← String.toList_inj, String.toList_append, String.toList_append] at h
  exact String.toList_inj.1 (List.append_cancel_left h)

theorem command_eq (hblank : Text.isBlankText nonce = false)
    (haware : expires.isAware = now.isAware) :
    ∃ ttl, s.command nonce expires now = .ok ⟨s.key nonce, now.iso, ttl⟩ := by
  unfold command ttlMillis DateTime.microsSince
  rw [hblank, if_pos haware]
  exact ⟨_, rfl⟩

theorem key_value_of_command {c : SetCommand} (h : s.command nonce expires now = .ok c) :
    c.key = s.key nonce ∧ c.value = now.iso := by
  unfold command at h
  split_ifs at h
  split at h
  · cases h
  · cases h
    exact ⟨rfl, rfl⟩

/-- A server sets the key of a command unless it is there, or gives no answer and stores nothing. -/
theorem reply_cases (timeout : Option Duration) (server : Server) (caller : Caller)
    (c : SetCommand) :
    server.reply caller c = server.setIfAbsent c ∨
      (server.reply caller c).2 = server ∧
        ∃ e, settle caller timeout (server.reply caller c).1 = .error e := by
  unfold Server.reply
  cases server.mode with
  | answering => exact .inl rfl
  | silent =>
    by_cases hcaller : caller = .blocking
    · exact .inl (if_pos hcaller)
    · refine .inr ⟨?_, ?_⟩
      · rw [if_neg hcaller]
      · rw [if_neg hcaller]
        exact ⟨_, rfl⟩
  | refusingConnections | answeringLate | answeringErrors | timingOut | breakingPipes =>
    exact .inr ⟨rfl, _, rfl⟩

theorem setIfAbsent_cases (server : Server) (c : SetCommand) :
    (server.setIfAbsent c =
        (.stored, { server with entries := server.entries ++ [(c.key, c.value)] }) ∧
        server.entries.get? c.key = none) ∨
      (server.setIfAbsent c = (.present, server) ∧ server.entries.get? c.key ≠ none) := by
  unfold Server.setIfAbsent
  cases hkey : server.entries.get? c.key with
  | none => exact .inl ⟨by rw [Fields.set_of_get?_eq_none _ hkey]; rfl, rfl⟩
  | some value => exact .inr ⟨rfl, Option.some_ne_none _⟩

/-- Whoever has no time to wait has no answer. -/
theorem exists_giveUp_eq (caller : Caller) : ∃ e, giveUp caller = .error e := by
  cases caller with
  | blocking | awaiting | cancelled => exact ⟨_, rfl⟩

/-- A reservation is granted and adds the key of the nonce, or is refused because the key is there,
or has no answer; only the first changes the store. -/
theorem reserve_cases (s : RemoteStore) (caller : Caller) (nonce : String)
    (expires now : DateTime) :
    ((s.reserve caller nonce expires now).answer = .ok true ∧
        s.server.entries.get? (s.key nonce) = none ∧
        (s.reserve caller nonce expires now).store =
          s.withEntries (s.server.entries ++ [(s.key nonce, now.iso)])) ∨
      ((s.reserve caller nonce expires now).answer = .ok false ∧
        s.server.entries.get? (s.key nonce) ≠ none ∧
        (s.reserve caller nonce expires now).store = s) ∨
      (∃ e, (s.reserve caller nonce expires now).answer = .error e) ∧
        (s.reserve caller nonce expires now).store = s := by
  unfold reserve reserveVia
  by_cases hclient : (s.clientOf caller).isNone
  · rw [if_pos hclient]
    exact .inr (.inr ⟨⟨_, rfl⟩, rfl⟩)
  rw [if_neg hclient]
  cases hcommand : s.command nonce expires now with
  | error e => exact .inr (.inr ⟨⟨e, rfl⟩, rfl⟩)
  | ok c =>
    obtain ⟨hkey, hvalue⟩ := key_value_of_command hcommand
    rw [← hkey, ← hvalue]
    dsimp only
    by_cases htime : s.givesNoTime caller = true
    · rw [if_pos htime]
      exact .inr (.inr ⟨exists_giveUp_eq caller, rfl⟩)
    rw [if_neg htime]
    dsimp only
    rcases reply_cases s.timeout s.server caller c with hreply | ⟨hserver, herror⟩
    · rw [hreply]
      rcases setIfAbsent_cases s.server c with ⟨hset, hfree⟩ | ⟨hset, hthere⟩
      · rw [hset]
        exact .inl ⟨rfl, hfree, rfl⟩
      · rw [hset]
        exact .inr (.inl ⟨rfl, hthere, rfl⟩)
    · rw [hserver]
      exact .inr (.inr ⟨herror, rfl⟩)

theorem exists_store_reserve (s : RemoteStore) (caller : Caller) (nonce : String)
    (expires now : DateTime) :
    ∃ entries, (s.reserve caller nonce expires now).store = s.withEntries entries := by
  rcases s.reserve_cases caller nonce expires now with ⟨-, -, hstore⟩ | ⟨-, -, hstore⟩ |
    ⟨-, hstore⟩
  · exact ⟨_, hstore⟩
  · exact ⟨s.server.entries, hstore⟩
  · exact ⟨s.server.entries, hstore⟩

theorem exists_answer (h : s.Answers caller) (hblank : Text.isBlankText nonce = false)
    (haware : expires.isAware = now.isAware) :
    ∃ granted, (s.reserve caller nonce expires now).answer = .ok granted := by
  obtain ⟨hclient, htime, hmode⟩ := h
  obtain ⟨ttl, hcommand⟩ := command_eq (s := s) hblank haware
  have hthere : ¬(s.clientOf caller).isNone = true := by
    rw [Option.isNone_iff_eq_none, ← ne_eq, ← Option.isSome_iff_ne_none]
    exact hclient
  have hworks : ∀ c, s.server.reply caller c = s.server.setIfAbsent c := by
    intro c
    unfold Server.reply
    rcases hmode with hmode | ⟨hmode, rfl⟩
    · rw [hmode]
    · rw [hmode]
      rfl
  unfold reserve reserveVia
  rw [if_neg hthere, hcommand]
  dsimp only
  rw [htime, hworks]
  rcases setIfAbsent_cases s.server ⟨s.key nonce, now.iso, ttl⟩ with ⟨hset, -⟩ | ⟨hset, -⟩
  · rw [hset]
    exact ⟨true, rfl⟩
  · rw [hset]
    exact ⟨false, rfl⟩

end RemoteStore

namespace NonceStore

/-- The key of a nonce. -/
def keyOf : NonceStore → String → String
  | memory _, nonce => nonce
  | remote s, nonce => s.key nonce

/-- All that a store keeps of nonces. -/
def entries : NonceStore → List StoreEntry
  | memory s => s.records.map fun r => ⟨r.nonce, .inl r.expires⟩
  | remote s => s.server.entries.map fun field => ⟨field.1, .inr field.2⟩

/-- What is kept of a nonce that is reserved at a time until an expiry. -/
def entryFor : NonceStore → String → DateTime → DateTime → StoreEntry
  | memory _, nonce, expires, _ => ⟨nonce, .inl expires⟩
  | remote s, nonce, _, now => ⟨s.key nonce, .inr now.iso⟩

/-- An entry of the nonce is not over at the time. -/
def Holds (s : NonceStore) (nonce : String) (now : DateTime) : Prop :=
  ∃ e ∈ s.entries, e.key = s.keyOf nonce ∧ e.isLive now = true

/-- The entries that are not over at a time. -/
def liveEntries (s : NonceStore) (now : DateTime) : List StoreEntry :=
  s.entries.filter (·.isLive now)

/-- All expiries of a local store state their offset. -/
def Comparable : NonceStore → Prop
  | memory s => s.AllAware
  | remote _ => True

/-- A reservation of this caller is answered: a local store can compare its expiries, and the server
of a remote one works and is given time. -/
def Answers : NonceStore → Caller → Prop
  | memory s, _ => s.AllAware
  | remote s, caller => s.Answers caller

variable {s : NonceStore}

instance : Decidable (s.Holds nonce now) := inferInstanceAs (Decidable (∃ e ∈ s.entries, _))

theorem Answers.comparable (h : s.Answers caller) : s.Comparable := by
  cases s with
  | memory s => exact h
  | remote s => trivial

theorem keyOf_inj : s.keyOf nonce = s.keyOf nonce' ↔ nonce = nonce' := by
  cases s with
  | memory s => rfl
  | remote s => exact RemoteStore.key_inj

@[simp] theorem key_entryFor : (s.entryFor nonce expires now).key = s.keyOf nonce := by
  cases s with
  | memory s => rfl
  | remote s => rfl

/-- What is kept of a nonce is not over before its expiry. -/
theorem isLive_entryFor {later : DateTime} (h : later.instant < expires.instant) :
    (s.entryFor nonce expires now).isLive later = true := by
  cases s with
  | memory s => exact decide_eq_true h
  | remote s => rfl

theorem holds_memory {s : MemoryStore} : (memory s).Holds nonce now ↔ s.Holds nonce now := by
  simp [Holds, entries, keyOf, StoreEntry.isLive, MemoryStore.Holds]

theorem holds_remote {s : RemoteStore} :
    (remote s).Holds nonce now ↔ s.server.entries.get? (s.key nonce) ≠ none := by
  rw [ne_eq, Fields.get?_eq_none_iff]
  simp [Holds, entries, keyOf, StoreEntry.isLive]

theorem liveEntries_remote (s : RemoteStore) : (remote s).liveEntries now = (remote s).entries := by
  refine List.filter_eq_self.2 fun e he => ?_
  obtain ⟨field, -, rfl⟩ := List.mem_map.1 he
  rfl

theorem entries_live (s : MemoryStore) :
    (memory (s.live now)).entries = (memory s).liveEntries now := by
  unfold liveEntries entries MemoryStore.live
  rw [List.filter_map]
  rfl

/-- A reservation in the future that is granted leaves the entries that are not over and the new
one; one that is refused leaves the entries that are not over; one without an answer leaves all. -/
theorem entries_reserve (hs : s.Comparable) (haware : expires.isAware = true)
    (hnow : now.isAware = true) (hlt : now.instant < expires.instant) :
    ((s.reserve caller nonce expires now).answer = .ok true ∧ ¬s.Holds nonce now ∧
        (s.reserve caller nonce expires now).store.entries =
          s.liveEntries now ++ [s.entryFor nonce expires now]) ∨
      ((s.reserve caller nonce expires now).answer = .ok false ∧ s.Holds nonce now ∧
        (s.reserve caller nonce expires now).store.entries = s.liveEntries now) ∨
      (∃ e, (s.reserve caller nonce expires now).answer = .error e) ∧
        (s.reserve caller nonce expires now).store = s := by
  cases s with
  | memory s =>
    unfold reserve
    dsimp only
    rw [MemoryStore.reserve_of_allAware hs haware hnow, holds_memory, ← entries_live,
      ← MemoryStore.mem_nonces_live_iff]
    by_cases hheld : nonce ∈ (s.live now).records.map (·.nonce)
    · rw [dif_neg fun h => h.2 hheld]
      exact .inr (.inl ⟨rfl, hheld, rfl⟩)
    · rw [dif_pos ⟨hlt, hheld⟩]
      exact .inl ⟨rfl, hheld, List.map_append⟩
  | remote s =>
    rw [holds_remote, liveEntries_remote]
    rcases s.reserve_cases caller nonce expires now with ⟨hanswer, hfree, hstore⟩ |
      ⟨hanswer, hthere, hstore⟩ | ⟨herror, hstore⟩
    · refine .inl ⟨hanswer, not_not.2 hfree, ?_⟩
      unfold reserve
      dsimp only
      rw [hstore]
      exact List.map_append
    · refine .inr (.inl ⟨hanswer, hthere, ?_⟩)
      unfold reserve
      dsimp only
      rw [hstore]
    · refine .inr (.inr ⟨herror, ?_⟩)
      unfold reserve
      dsimp only
      rw [hstore]

/-- A store that answers the caller grants a nonce or refuses it. -/
theorem exists_answer (hs : s.Answers caller) (hblank : Text.isBlankText nonce = false)
    (haware : expires.isAware = true) (hnow : now.isAware = true) :
    ∃ granted, (s.reserve caller nonce expires now).answer = .ok granted := by
  cases s with
  | memory s =>
    unfold reserve
    dsimp only
    rw [MemoryStore.reserve_fst hs haware hnow]
    exact ⟨_, rfl⟩
  | remote s => exact RemoteStore.exists_answer hs hblank (haware.trans hnow.symm)

/-! ### What stays -/

/-- A store of the same kind with the same keys, whatever its entries are. -/
structure Resembles (s s' : NonceStore) : Prop where
  keyOf_eq : s'.keyOf = s.keyOf
  entryFor_eq : s'.entryFor = s.entryFor
  comparable : s.Comparable → s'.Comparable

theorem Resembles.refl (s : NonceStore) : s.Resembles s := ⟨rfl, rfl, id⟩

theorem Resembles.trans {s' s'' : NonceStore} (h : s.Resembles s') (h' : s'.Resembles s'') :
    s.Resembles s'' where
  keyOf_eq := h'.keyOf_eq.trans h.keyOf_eq
  entryFor_eq := h'.entryFor_eq.trans h.entryFor_eq
  comparable hs := h'.comparable (h.comparable hs)

/-- A reservation between times that state their offset changes nothing but the entries. -/
theorem resembles_reserve (haware : expires.isAware = true) (hnow : now.isAware = true) :
    s.Resembles (s.reserve caller nonce expires now).store := by
  cases s with
  | memory s => exact ⟨rfl, rfl, fun hs => MemoryStore.allAware_reserve hs haware hnow⟩
  | remote s =>
    obtain ⟨entries, hstore⟩ := s.exists_store_reserve caller nonce expires now
    unfold reserve
    dsimp only
    rw [hstore]
    exact ⟨rfl, rfl, fun _ => trivial⟩

theorem Answers.reserve (h : s.Answers caller') (haware : expires.isAware = true)
    (hnow : now.isAware = true) : (s.reserve caller nonce expires now).store.Answers caller' := by
  cases s with
  | memory s => exact MemoryStore.allAware_reserve h haware hnow
  | remote s =>
    obtain ⟨entries, hstore⟩ := s.exists_store_reserve caller nonce expires now
    unfold NonceStore.reserve
    dsimp only
    rw [hstore]
    exact h

end NonceStore

/-! ### A call over a store -/

namespace Verifier

variable {config : Config} {call : Call} {s : NonceStore}

theorem nonceOf_eq_some_iff {d : Delivery} :
    nonceOf config d = some nonce ↔ config.policy ≠ .disabled ∧ d.nonce = some nonce := by
  unfold nonceOf
  split_ifs with hpolicy <;> simp [hpolicy]

/-- The delivery is rejected as a replay. -/
def IsReplay (result : Except Fault Verdict) : Prop :=
  ∃ detail, result = .ok (.rejected .replayDetected detail)

section Reservations

variable {Store : Type} {r : Reservation Store}

theorem store_ofReservation (nonce : String) (r : Reservation Store) :
    (ofReservation nonce r).store = r.store := by
  unfold ofReservation
  split <;> rfl

theorem result_ofReservation_granted (nonce : String) (h : r.answer = .ok true) :
    (ofReservation nonce r).result = .ok .verified := by
  unfold ofReservation
  rw [h]

theorem result_ofReservation_refused (nonce : String) (h : r.answer = .ok false) :
    (ofReservation nonce r).result = .ok (.rejected .replayDetected none) := by
  unfold ofReservation
  rw [h]
  rfl

theorem result_ofReservation_error (nonce : String) {e : StoreError} (h : r.answer = .error e) :
    (ofReservation nonce r).result ≠ .ok .verified ∧ ¬IsReplay (ofReservation nonce r).result := by
  unfold ofReservation
  rw [h]
  cases e <;> simp [rejected, IsReplay]

/-- A reservation leaves a call without a verdict just if it fails otherwise than by the store being
unavailable. -/
theorem result_ofReservation_eq_error_iff {nonce : String} {fault : Fault} :
    (ofReservation nonce r).result = .error fault ↔
      ∃ e, r.answer = .error e ∧ e ≠ .unavailable ∧ fault = .store e := by
  unfold ofReservation
  cases r.answer with
  | error e => cases e <;> simp [rejected, eq_comm]
  | ok granted => cases granted <;> simp [rejected]

end Reservations

theorem Call.Asks.verify_eq (h : call.Asks config nonce expires) (s : NonceStore) :
    verify config s call = ofReservation nonce (s.reserve call.caller nonce expires call.now) := by
  unfold verify verifyOver
  dsimp only
  rw [h]
  rfl

/-- A call that asks for a nonce is verified, and leaves the entries that are not over and the new
one; or it is a replay, and leaves the entries that are not over; or the store gives no answer. -/
theorem Call.Asks.verify_cases (h : call.Asks config nonce expires) (hs : s.Comparable) :
    ((verify config s call).result = .ok .verified ∧ ¬s.Holds nonce call.now ∧
        (verify config s call).store.entries =
          s.liveEntries call.now ++ [s.entryFor nonce expires call.now]) ∨
      ((verify config s call).result = .ok (.rejected .replayDetected none) ∧
        s.Holds nonce call.now ∧
        (verify config s call).store.entries = s.liveEntries call.now) ∨
      ((∃ e, (s.reserve call.caller nonce expires call.now).answer = .error e) ∧
        (verify config s call).result ≠ .ok .verified ∧
        ¬IsReplay (verify config s call).result ∧ (verify config s call).store = s) := by
  rw [h.verify_eq, store_ofReservation]
  rcases NonceStore.entries_reserve hs h.isAware_expires h.isAware_now h.now_lt_expires with
    ⟨hanswer, hfree, hentries⟩ | ⟨hanswer, hheld, hentries⟩ | ⟨⟨e, hanswer⟩, hstore⟩
  · exact .inl ⟨result_ofReservation_granted nonce hanswer, hfree, hentries⟩
  · exact .inr (.inl ⟨result_ofReservation_refused nonce hanswer, hheld, hentries⟩)
  · obtain ⟨hverified, hreplay⟩ := result_ofReservation_error nonce hanswer
    exact .inr (.inr ⟨⟨e, hanswer⟩, hverified, hreplay, hstore⟩)

/-- A nonce that is asked for is not blank. -/
theorem Call.Asks.isBlankText_nonce (h : call.Asks config nonce expires) :
    Text.isBlankText nonce = false := by
  have hnonce : (call.delivery config).nonce = some nonce := (nonceOf_eq_some_iff.1 h.nonceOf_eq).2
  rw [Call.delivery, Delivery.ofFields_eq] at hnonce
  obtain ⟨-, -, -, -, -, hblank, -⟩ := header?_eq_some_iff.1 hnonce
  exact hblank

/-- What comes of a call that asks for a nonce, if the store answers its caller. -/
theorem Call.Asks.verify_of_answers (h : call.Asks config nonce expires)
    (hs : s.Answers call.caller) :
    (verify config s call).result =
        .ok (if s.Holds nonce call.now then .rejected .replayDetected none else .verified) ∧
      (verify config s call).store.entries =
        s.liveEntries call.now ++
          if s.Holds nonce call.now then [] else [s.entryFor nonce expires call.now] := by
  obtain ⟨granted, hanswer⟩ :=
    NonceStore.exists_answer hs h.isBlankText_nonce h.isAware_expires h.isAware_now
  rcases h.verify_cases hs.comparable with ⟨hresult, hfree, hentries⟩ |
    ⟨hresult, hheld, hentries⟩ | ⟨⟨e, herror⟩, -⟩
  · rw [if_neg hfree, if_neg hfree]
    exact ⟨hresult, hentries⟩
  · rw [if_pos hheld, if_pos hheld, List.append_nil]
    exact ⟨hresult, hentries⟩
  · rw [hanswer] at herror
    cases herror

/-- A call that asks for no nonce leaves the store as it is. -/
theorem store_verify_of_not_asks (h : ∀ nonce expires, ¬call.Asks config nonce expires) :
    (verify config s call).store = s := by
  unfold verify verifyOver
  dsimp only
  cases hplan : plan config (call.delivery config) call.now with
  | error fault => rfl
  | ok p =>
    cases p with
    | reject reason detail => rfl
    | accept => rfl
    | reserve nonce expires => exact absurd hplan (h nonce expires)

/-- A call changes nothing of a store but its entries. -/
theorem resembles_verify (config : Config) (s : NonceStore) (call : Call) :
    s.Resembles (verify config s call).store := by
  by_cases hask : ∃ nonce expires, call.Asks config nonce expires
  · obtain ⟨nonce, expires, hask⟩ := hask
    rw [hask.verify_eq, store_ofReservation]
    exact NonceStore.resembles_reserve hask.isAware_expires hask.isAware_now
  · push Not at hask
    rw [store_verify_of_not_asks hask]
    exact .refl s

theorem answers_verify {caller : Caller} (h : s.Answers caller) (config : Config) (call : Call) :
    (verify config s call).store.Answers caller := by
  by_cases hask : ∃ nonce expires, call.Asks config nonce expires
  · obtain ⟨nonce, expires, hask⟩ := hask
    rw [hask.verify_eq, store_ofReservation]
    exact h.reserve hask.isAware_expires hask.isAware_now
  · push Not at hask
    rw [store_verify_of_not_asks hask]
    exact h

end Verifier

end WebhookAuth
