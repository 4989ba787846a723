import WebhookAuth.Proofs.Trimming
import WebhookAuth.Store.Selection

/-!
# Connection strings

An endpoint with options becomes the URL of the endpoint
(`Endpoint.urlOfConnectionString_of_options`), unless the options have the mark of a URL somewhere:
then the whole string goes out as the URL (`Endpoint.urlOfConnectionString_ne_of_options`).
Converting twice is converting once (`Endpoint.urlOfConnectionString_idem`). The first variable that
is not blank decides about the clients of a store, whatever the later ones say
(`Selection.isFor_ofEnvironment`).
-/

namespace WebhookAuth

open WebhookAuth.Text

namespace Endpoint

variable {front endpoint options back value : String}

/-- What marks a text as a URL. -/
def urlMark : List Char := [':', '/', '/']

/-- The text is that of an endpoint: no mark of a URL, no comma and nothing blank around. -/
structure IsEndpoint (endpoint : String) : Prop where
  not_marked : contains urlMark endpoint.toList = false
  comma_not_mem : ',' ∉ endpoint.toList
  strip_eq : strip endpoint.toList = endpoint.toList

/-! ### One value -/

theorem isBlank_of_mem_urlMark : ∀ c ∈ urlMark, isBlank c = false :=
  forall_of_all (by decide)

/-- Blank space at the ends does not count. -/
theorem contains_between {front back : List Char} (text : List Char)
    (hfront : ∀ c ∈ front, isBlank c = true) (hback : ∀ c ∈ back, isBlank c = true) :
    contains urlMark (front ++ text ++ back) = contains urlMark text := by
  rw [Bool.eq_iff_iff, contains_eq_true_iff, contains_eq_true_iff]
  exact infix_between_iff (by decide) isBlank_of_mem_urlMark hfront hback

theorem contains_strip (text : List Char) :
    contains urlMark (strip text) = contains urlMark text := by
  rw [Bool.eq_iff_iff, contains_eq_true_iff, contains_eq_true_iff]
  exact infix_trimBy_iff (by decide) isBlank_of_mem_urlMark

theorem urlOfConnectionString_of_marked (h : contains urlMark value.toList = true) :
    urlOfConnectionString value = String.ofList (strip value.toList) :=
  if_pos ((contains_strip _).trans h)

theorem urlOfConnectionString_of_not_marked (h : contains urlMark value.toList = false) :
    urlOfConnectionString value =
      String.ofList ("redis://".toList ++ strip (cut ',' (strip value.toList)).1) :=
  if_neg (Bool.not_eq_true _ ▸ (contains_strip _).trans h)

theorem contains_scheme_append (text : List Char) :
    contains urlMark ("redis://".toList ++ text) = true :=
  contains_eq_true_iff.2 ⟨"redis".toList, text, rfl⟩

/-- The result has nothing blank around. -/
theorem isTrimmed_urlOfConnectionString (value : String) :
    IsTrimmed isBlank (urlOfConnectionString value).toList := by
  cases hmark : contains urlMark value.toList with
  | true =>
    rw [urlOfConnectionString_of_marked hmark, String.toList_ofList]
    exact isTrimmed_trimBy isBlank _
  | false =>
    have hscheme : IsTrimmed isBlank "redis://".toList :=
      isTrimmed_of_forall (forall_of_all (by decide +kernel))
    rw [urlOfConnectionString_of_not_marked hmark, String.toList_ofList]
    exact hscheme.append (isTrimmed_trimBy isBlank _)

/-- The result is marked as a URL. -/
theorem contains_urlOfConnectionString (value : String) :
    contains urlMark (urlOfConnectionString value).toList = true := by
  cases hmark : contains urlMark value.toList with
  | true => rw [urlOfConnectionString_of_marked hmark, String.toList_ofList, contains_strip, hmark]
  | false =>
    rw [urlOfConnectionString_of_not_marked hmark, String.toList_ofList]
    exact contains_scheme_append _

/-- A URL that a connection string stands for stands for itself. -/
theorem urlOfConnectionString_idem (value : String) :
    urlOfConnectionString (urlOfConnectionString value) = urlOfConnectionString value := by
  rw [urlOfConnectionString_of_marked (contains_urlOfConnectionString value), strip,
    (isTrimmed_urlOfConnectionString value).trimBy_eq, String.ofList_toList]

/-! ### An endpoint with options -/

/-- An endpoint with options behind a comma, and other text around. -/
def connectionString (front endpoint options back : String) : String :=
  front ++ endpoint ++ "," ++ options ++ back

theorem toList_connectionString (front endpoint options back : String) :
    (connectionString front endpoint options back).toList =
      (front.toList ++ endpoint.toList) ++ ',' :: (options.toList ++ back.toList) := by
  simp [connectionString]

/-- The mark of a URL stands in the endpoint or in the options, never across the comma. -/
theorem contains_connectionString (h : IsEndpoint endpoint) (hfront : isBlankText front = true)
    (hback : isBlankText back = true) (options : String) :
    contains urlMark (connectionString front endpoint options back).toList =
      contains urlMark options.toList := by
  have hnone : ∀ c ∈ [], isBlank c = true := fun c hc => absurd hc List.not_mem_nil
  have hbefore : contains urlMark (front.toList ++ endpoint.toList) = false := by
    have hbetween := contains_between endpoint.toList (List.all_eq_true.1 hfront) hnone
    rw [List.append_nil, h.not_marked] at hbetween
    exact hbetween
  have hbehind : contains urlMark (options.toList ++ back.toList) =
      contains urlMark options.toList :=
    contains_between options.toList hnone (List.all_eq_true.1 hback)
  rw [← hbehind, Bool.eq_iff_iff, toList_connectionString, contains_eq_true_iff,
    infix_append_cons_iff (by decide), ← contains_eq_true_iff, ← contains_eq_true_iff, hbefore,
    or_iff_right Bool.false_ne_true]

theorem IsEndpoint.isTrimmed (h : IsEndpoint endpoint) : IsTrimmed isBlank endpoint.toList := by
  rw [← h.strip_eq]
  exact isTrimmed_trimBy isBlank _

/-- The endpoint is what stands before the first comma of the trimmed string. -/
theorem exists_strip_connectionString (h : IsEndpoint endpoint) (hfront : isBlankText front = true)
    (options back : String) :
    ∃ rest, strip (connectionString front endpoint options back).toList =
      endpoint.toList ++ ',' :: rest := by
  have hcomma : isBlank ',' = false := by decide
  obtain ⟨kept, blanks, htrim, hrest, hblanks⟩ :=
    exists_trimBy_cons_eq hcomma (options.toList ++ back.toList)
  have hkept : IsTrimmed isBlank (',' :: kept) := htrim ▸ isTrimmed_trimBy isBlank _
  refine ⟨kept, ?_⟩
  have htext : (connectionString front endpoint options back).toList =
      front.toList ++ (endpoint.toList ++ ',' :: kept) ++ blanks := by
    rw [toList_connectionString, hrest]
    simp
  rw [htext]
  exact (h.isTrimmed.append hkept).trimBy_append (List.all_eq_true.1 hfront) hblanks

/-- Options without the mark of a URL do not count, whatever else they are. -/
theorem urlOfConnectionString_of_options (h : IsEndpoint endpoint)
    (hfront : isBlankText front = true) (hback : isBlankText back = true)
    (hoptions : contains urlMark options.toList = false) :
    urlOfConnectionString (connectionString front endpoint options back) =
      "redis://" ++ endpoint := by
  have hmark := (contains_connectionString h hfront hback options).trans hoptions
  obtain ⟨rest, hstrip⟩ := exists_strip_connectionString h hfront options back
  rw [urlOfConnectionString_of_not_marked hmark, hstrip, cut_append_cons h.comma_not_mem,
    h.strip_eq, String.ofList_append, String.ofList_toList, String.ofList_toList]

/-- Options with the mark of a URL make the whole string the URL, its comma included. -/
theorem urlOfConnectionString_ne_of_options (h : IsEndpoint endpoint)
    (hfront : isBlankText front = true) (hback : isBlankText back = true)
    (hoptions : contains urlMark options.toList = true) :
    urlOfConnectionString (connectionString front endpoint options back) =
        String.ofList (strip (connectionString front endpoint options back).toList) ∧
      urlOfConnectionString (connectionString front endpoint options back) ≠
        "redis://" ++ endpoint := by
  have hurl := urlOfConnectionString_of_marked
    ((contains_connectionString h hfront hback options).trans hoptions)
  refine ⟨hurl, fun heq => ?_⟩
  obtain ⟨rest, hstrip⟩ := exists_strip_connectionString h hfront options back
  rw [hurl, hstrip] at heq
  have hmem : ',' ∈ ("redis://" ++ endpoint).toList := by
    rw [← heq, String.toList_ofList]
    exact List.mem_append_right _ List.mem_cons_self
  rw [String.toList_append, List.mem_append] at hmem
  rcases hmem with hscheme | hendpoint
  · exact absurd hscheme (by decide)
  · exact h.comma_not_mem hendpoint

end Endpoint

/-! ### The clients of a store -/

namespace Selection

variable {Refusal : Type} {env : Fields} {earlier later : List String} {source value : String}

/-- The selection is for a URL: it logs the variable that names it, and both clients are those that
the connector makes for the URL, or there is no store if it refuses one of them. -/
structure IsFor (selection : Selection Refusal) (connector : Connector Refusal)
    (source url : String) : Prop where
  log_eq : selection.log = [.remoteChosen source]
  refused_blocking : ∀ refusal, connector.blocking (RemoteStore.targetOf url) = .error refusal →
    selection.store = .error (.inl refusal)
  refused_awaiting : ∀ client refusal,
    connector.blocking (RemoteStore.targetOf url) = .ok client →
    connector.awaiting (RemoteStore.targetOf url) = .error refusal →
    selection.store = .error (.inl refusal)
  connected : ∀ blocking awaiting,
    connector.blocking (RemoteStore.targetOf url) = .ok blocking →
    connector.awaiting (RemoteStore.targetOf url) = .ok awaiting →
    ∃ s, selection.store = .ok (.remote s) ∧ s.blockingClient = some blocking ∧
      s.awaitingClient = some awaiting

/-- The first variable that is not blank is found. -/
theorem connection?_eq_some (hsources : sources = earlier ++ source :: later)
    (hearlier : ∀ name ∈ earlier, ∀ v ∈ env.get? name, isBlankText v = true)
    (hvalue : env.get? source = some value) (hblank : isBlankText value = false) :
    connection? env = some (source, value) := by
  have hnone : earlier.findSome? (fun name =>
      ((env.get? name).filter fun v => !isBlankText v).map (name, ·)) = none := by
    rw [List.findSome?_eq_none_iff]
    intro name hname
    simpa using hearlier name hname
  unfold connection?
  rw [hsources, List.findSome?_append, hnone, Option.none_or, List.findSome?_cons, hvalue]
  simp [Option.filter, hblank]

/-- The first variable that is not blank decides, whatever the later ones say. -/
theorem isFor_ofEnvironment (hsources : sources = earlier ++ source :: later)
    (hearlier : ∀ name ∈ earlier, ∀ v ∈ env.get? name, isBlankText v = true)
    (hvalue : env.get? source = some value) (hblank : isBlankText value = false)
    (connector : Connector Refusal) (keyStart : String) :
    (ofEnvironment connector env keyStart).IsFor connector source
      (Endpoint.urlOfConnectionString value) := by
  unfold ofEnvironment RemoteStore.ofUrl
  rw [connection?_eq_some hsources hearlier hvalue hblank]
  dsimp only
  refine ⟨rfl, fun refusal hrefused => ?_, fun client refusal hclient hrefused => ?_,
    fun blocking awaiting hblocking hawaiting => ?_⟩
  · rw [hrefused]
    rfl
  · rw [hclient, hrefused]
    rfl
  · rw [hblocking, hawaiting]
    exact ⟨_, rfl, rfl, rfl⟩

end Selection

namespace Endpoint

/-- What connection strings are converted to. An endpoint with options becomes the URL of the
endpoint just if the options have no mark of a URL; if they have one, the whole string goes out as
the URL. Whatever the value, converting it twice is converting it once; and however clients are
made, both of a store are for the URL of the first variable that is not blank. -/
theorem urlOfConnectionString_tells {Refusal : Type} (connector : Connector Refusal)
    (front endpoint options back value : String) (env : Fields) (keyStart : String) :
    (IsEndpoint endpoint → isBlankText front = true → isBlankText back = true →
      let whole := connectionString front endpoint options back
      (urlOfConnectionString whole = "redis://" ++ endpoint ↔
          contains urlMark options.toList = false) ∧
        (contains urlMark options.toList = true →
          urlOfConnectionString whole = String.ofList (strip whole.toList))) ∧
      urlOfConnectionString (urlOfConnectionString value) = urlOfConnectionString value ∧
      ∀ (earlier later : List String) (source : String),
        Selection.sources = earlier ++ source :: later →
        (∀ name ∈ earlier, ∀ v ∈ env.get? name, isBlankText v = true) →
        env.get? source = some value → isBlankText value = false →
        (Selection.ofEnvironment connector env keyStart).IsFor connector source
          (urlOfConnectionString value) := by
  refine ⟨fun h hfront hback => ⟨⟨fun hurl => ?_, ?_⟩, fun hmark => ?_⟩,
    urlOfConnectionString_idem value, fun earlier later source hsources hearlier hvalue hblank =>
      Selection.isFor_ofEnvironment hsources hearlier hvalue hblank connector keyStart⟩
  · rw [← Bool.not_eq_true]
    exact fun hmark => (urlOfConnectionString_ne_of_options h hfront hback hmark).2 hurl
  · exact urlOfConnectionString_of_options h hfront hback
  · exact (urlOfConnectionString_ne_of_options h hfront hback hmark).1

/-- An endpoint of a name and a port. -/
def sampleEndpoint : String := "cache:6379"

theorem isEndpoint_sampleEndpoint : IsEndpoint sampleEndpoint := by
  refine ⟨?_, ?_, ?_⟩ <;> decide +kernel

/-- An environment whose second variable is the first that is not blank. -/
def sampleVariables : Fields :=
  [("SWISH_REDIS_CONN", "other"), ("SWISH_REDIS", " "), ("REDIS_URL", "cache:6379,ssl=a:/b ")]

/-- Clients for URLs with a known scheme; other URLs are refused. -/
def sampleConnector : Connector String :=
  let connect (target : Target) : Except String Client :=
    if ["redis://", "rediss://", "unix://"].any (·.toList.isPrefixOf target.url.toList) then
      .ok { target := some target }
    else .error target.url
  ⟨connect, connect⟩

theorem sampleVariables_tell :
    urlOfConnectionString (connectionString " " sampleEndpoint "password=a:/b" "\n") =
        "redis://cache:6379" ∧
      ∃ s client, (Selection.ofEnvironment sampleConnector sampleVariables "").store =
          .ok (.remote s) ∧
        s.blockingClient = some client ∧ s.awaitingClient = some client ∧
        client.target = some (RemoteStore.targetOf "redis://cache:6379") := by
  obtain ⟨hoptions, -, hvariables⟩ := urlOfConnectionString_tells sampleConnector " "
    sampleEndpoint "password=a:/b" "\n" "cache:6379,ssl=a:/b " sampleVariables ""
  have hurl : urlOfConnectionString "cache:6379,ssl=a:/b " = "redis://cache:6379" := by
    decide +kernel
  have hfor := hvariables ["SWISH_REDIS"] ["SWISH_REDIS_CONN"] "REDIS_URL" rfl (by decide +kernel)
    (by decide +kernel) (by decide +kernel)
  rw [hurl] at hfor
  have hknown : sampleConnector.blocking (RemoteStore.targetOf "redis://cache:6379") =
      .ok { target := some (RemoteStore.targetOf "redis://cache:6379") } := by
    decide +kernel
  obtain ⟨s, hstore, hblocking, hawaiting⟩ := hfor.connected _ _ hknown hknown
  refine ⟨?_, s, _, hstore, hblocking, hawaiting, rfl⟩
  exact (hoptions isEndpoint_sampleEndpoint (by decide +kernel) (by decide +kernel)).1.2
    (by decide +kernel)

/-- Options with the mark of a URL in a password: the string is not converted at all. -/
theorem sampleEndpoint_not_converted :
    IsEndpoint sampleEndpoint ∧
      urlOfConnectionString (connectionString "" sampleEndpoint "password=a://b" "") =
        "cache:6379,password=a://b" ∧
      urlOfConnectionString (connectionString "" sampleEndpoint "password=a://b" "") ≠
        "redis://" ++ sampleEndpoint := by
  refine ⟨isEndpoint_sampleEndpoint, ?_, ?_⟩ <;> decide +kernel

end Endpoint

end WebhookAuth
