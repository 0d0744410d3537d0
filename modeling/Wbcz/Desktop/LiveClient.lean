import Wbcz.Desktop.Checks
import Wbcz.Lib.Execution
import Wbcz.WindowsAgent.Job

/-!
# Live checks

`LiveTrueApiClient` of `live_true_api.py` under `check_import`: the client keeps what it has learnt
about a KIZ, a state or an exception, and asks only about the KIZ of which it knows nothing. It
forgets when it is authenticated again.

The clock, the answers of the endpoint and the adapter that reads them are not fixed. The requests
that were sent are a history variable.
-/

namespace Wbcz.Desktop

open Program (Executes)
open Transition (Run)

/-! ## The client -/

/-- `TrueApiProtocolError`. -/
def protocolError (message : String) : PyError := ⟨.other "TrueApiProtocolError", message⟩

/-- `LiveAuthorizationRequired`. -/
def authorizationRequired (message : String) : PyError :=
  ⟨.other "LiveAuthorizationRequired", message⟩

/-- The settings of a client: how an item is read, how many codes a request has, and whether the
transport is that of the production, which asks for codes of 18 to 74 characters. -/
structure ClientConfig where
  adapter : String → Json → Except PyError KiState
  batchLimit : ℕ
  strict : Bool
  batchLimit_valid : 1 ≤ batchLimit ∧ batchLimit ≤ 1000

/-- A request that was sent, with its answer. -/
structure Request where
  batch : List String
  answer : Except PyError Json

/-- `LiveTrueApiClient`; a session comes with the moment at which it expires. -/
structure LiveTrueApiClient where
  session : Option ℕ
  preflightOk : Bool
  memo : String → Option (Except PyError KiState)
  calls : List String
  /-- The requests that were sent. -/
  requests : List Request

/-- The items of an answer. -/
def itemsOf : Json → Except PyError (List Json)
  | .arr items => .ok items
  | payload =>
    match payload.get "results" with
    | .arr items => .ok items
    | _ => .error (protocolError "cises/info returned an unexpected top-level payload")

/-- The code for which an item was given. -/
def requestedBy (item : Json) : Option String :=
  let info := (item.get? "cisInfo").getD item
  let requested := info.get "requestedCis"
  (if requested.truthy then requested else info.get "cis").str?

/-- What is kept of an answer for a code: the last item counts. -/
def entryOf (adapter : String → Json → Except PyError KiState) (answer : Except PyError Json)
    (kiz : String) : Except PyError KiState := do
  let items ← answer >>= itemsOf
  match items.reverse.find? fun item => requestedBy item = some kiz with
  | none => .error (protocolError "cises/info omitted requested KI")
  | some item => adapter kiz item

namespace LiveTrueApiClient

variable (config : ClientConfig) (client : LiveTrueApiClient)

/-- `authenticated` at a moment. -/
def authenticated (now : ℕ) : Bool := client.session.any fun expireDate => now < expireDate

/-- A request was sent, and its answer is kept. -/
def fetched (batch : List String) (answer : Except PyError Json) : LiveTrueApiClient :=
  { client with
    memo := fun kiz => if kiz ∈ batch then some (entryOf config.adapter answer kiz)
      else client.memo kiz
    requests := client.requests ++ [⟨batch, answer⟩] }

/-- The slices of a list, as many as there may be. -/
def slices (limit : ℕ) : ℕ → List String → List (List String)
  | 0, _ => []
  | n + 1, kizs => if kizs = [] then [] else kizs.take limit :: slices limit n (kizs.drop limit)

/-- The codes for which the transport is asked. -/
def requestedCises (kizs : List String) : Except PyError (List String) :=
  if config.strict then normalizeCises kizs else .ok kizs

/-- `prime` at a moment, with what the endpoint answers to each batch. -/
def prime (now : ℕ) (respond : List String → Except PyError Json) (kizs : List String) :
    Except PyError Unit × LiveTrueApiClient :=
  if client.authenticated now then
    match requestedCises config kizs with
    | .error e => (.error e, client)
    | .ok requested =>
      let missing := requested.eraseDups.filter fun kiz => (client.memo kiz).isNone
      (.ok (), (slices config.batchLimit missing.length missing).foldl
        (fun client batch => client.fetched config batch (respond batch)) client)
  else
    (.error (authorizationRequired "LIVE READ-ONLY authorization is required or has expired"),
      { client with session := none })

/-- `get_ki_state`. -/
def getKiState (now : ℕ) (respond : List String → Except PyError Json) (kiz : String) :
    Except PyError KiState × LiveTrueApiClient :=
  let client := { client with calls := client.calls ++ [kiz] }
  match client.memo kiz with
  | some value => (value, client)
  | none =>
    match client.prime config now respond [kiz] with
    | (.error e, client) => (.error e, client)
    | (.ok (), client) => ((client.memo kiz).getD (.error ⟨.keyError, ""⟩), client)

/-- The look at `authenticated` of `check_import`, and `prime`. -/
def primeChecked (now now' : ℕ) (respond : List String → Except PyError Json)
    (kizs : List String) : Except PyError Unit × LiveTrueApiClient :=
  if client.authenticated now then client.prime config now' respond kizs
  else (.error (authorizationRequired
    "Complete LIVE READ-ONLY authorization before checking KIZ"), client)

/-- `authenticate`, with what the authenticator gives. -/
def authenticate (session : Except PyError ℕ) : Except PyError Unit × LiveTrueApiClient :=
  if client.preflightOk then
    match session with
    | .error e => (.error e, client)
    | .ok expireDate => (.ok (), { client with session := some expireDate, memo := fun _ => none })
  else (.error (authorizationRequired
    "Run the CryptoPro TLS preflight before authentication"), client)

end LiveTrueApiClient

/-! ## The system -/

/-- The store and the client. -/
structure LiveState where
  store : EventStore
  client : LiveTrueApiClient

/-- The calls that the client answers. -/
def StoreCall.asksClient : StoreCall → Bool
  | .prime _ | .getKiState _ => true
  | _ => false

/-- What a call of a live check is answered: the client answers its calls, the store the others. -/
inductive LiveAnswers (config : ClientConfig) (s : LiveState) :
    (c : StoreCall) → StoreAnswer c → LiveState → Prop
  | store {c answer store'} : c.asksClient = false → StoreAnswers s.store c answer store' →
      LiveAnswers config s c answer { s with store := store' }
  | prime {kizs} (now now' : ℕ) (respond : List String → Except PyError Json) :
      LiveAnswers config s (.prime kizs) (s.client.primeChecked config now now' respond kizs).1
        { s with client := (s.client.primeChecked config now now' respond kizs).2 }
  | getKiState {kiz} (now : ℕ) (respond : List String → Except PyError Json) :
      LiveAnswers config s (.getKiState kiz) (s.client.getKiState config now respond kiz).1
        { s with client := (s.client.getKiState config now respond kiz).2 }

/-- The steps of the desktop. -/
inductive LiveLabel where
  | check (ownInn source : String)
  | preflight
  | authenticate
  | stored

/-- A live client with a source of its checks. -/
def liveClient (ownInn source : String) : Client := ⟨true, ownInn, source⟩

/-- One step: a whole check, a preflight, an authentication, or any change of the store. -/
inductive LiveStep (config : ClientConfig) : LiveState → LiveLabel → LiveState → Prop
  | check {s s' ownInn source fingerprint requested r} :
      Executes (LiveAnswers config) s
        (checkImport (liveClient ownInn source) fingerprint requested).run r s' →
      LiveStep config s (.check ownInn source) s'
  | preflight {s} :
      LiveStep config s .preflight { s with client := { s.client with preflightOk := true } }
  | authenticate {s} (session : Except PyError ℕ) :
      LiveStep config s .authenticate { s with client := (s.client.authenticate session).2 }
  | stored {s store'} : LiveStep config s .stored { s with store := store' }

/-! ## Fresh decisions -/

/-- What `check_event` stores for the answer of the client. -/
def decided (ownInn : String) (row : EventRecord) :
    Except PyError KiState → Option KiState × Outcome
  | .error e => (none, lookupFailed e)
  | .ok state =>
    match ControlEngine.decide row.event state ownInn with
    | .ok outcome => (some state, outcome)
    | .error e => (some state, lookupFailed e)

/-- The requests of a step. -/
def newRequests (s s' : LiveState) : List Request :=
  s'.client.requests.drop s.client.requests.length

/-- The checks that a step has stored. -/
def newChecks (s s' : LiveState) : List CheckRecord :=
  s'.store.checks.drop s.store.checks.length

/-- A decision is computed from the answer of a request. -/
def ComputedFrom (config : ClientConfig) (ownInn : String) (s : LiveState) (check : CheckRecord)
    (request : Request) : Prop :=
  ∃ row ∈ s.store.events, row.eventId = check.eventId ∧ row.event.kiz ∈ request.batch ∧
    (check.snapshot, check.outcome) =
      decided ownInn row (entryOf config.adapter request.answer row.event.kiz)

/-- Every decision of a check is computed from a request of that check. A check that replaces a
decision because of the history has another source, and needs no state. -/
def Fresh (config : ClientConfig) (s : LiveState) : LiveLabel → LiveState → Prop
  | .check ownInn source, s' => ∀ check ∈ newChecks s s', check.source = source →
    ∃ request ∈ newRequests s s', ComputedFrom config ownInn s check request
  | _, _ => True

/-- At the start of a check the client knows nothing about the KIZ of its decisions, and they are
written as the transport asks for them. -/
def Unknown (config : ClientConfig) (s : LiveState) : LiveLabel → LiveState → Prop
  | .check _ source, s' => ∀ check ∈ newChecks s s', check.source = source →
    ∀ row ∈ s.store.events, row.eventId = check.eventId →
      s.client.memo row.event.kiz = none ∧
        (config.strict = true → Text.strip row.event.kiz = row.event.kiz)
  | _, _ => True

/-! ## What a client keeps -/

/-- A code as the transport asks for it. -/
def ClientConfig.written (config : ClientConfig) (kiz : String) : String :=
  if config.strict then Text.strip kiz else kiz

namespace LiveTrueApiClient

variable {config : ClientConfig} {client client' : LiveTrueApiClient} {kiz : String}

theorem mem_slices {limit : ℕ} (hlimit : 1 ≤ limit) {n : ℕ} {kizs : List String}
    (hn : kizs.length ≤ n) : (∃ batch ∈ slices limit n kizs, kiz ∈ batch) ↔ kiz ∈ kizs := by
  induction n generalizing kizs with
  | zero =>
    rw [List.length_eq_zero_iff.mp (Nat.le_zero.mp hn)]
    simp [slices]
  | succ n ih =>
    by_cases hnil : kizs = []
    · rw [hnil]
      simp [slices]
    · have hlength := List.length_pos_iff.mpr hnil
      have hrest : (kizs.drop limit).length ≤ n := by
        rw [List.length_drop]
        omega
      rw [slices, if_neg hnil, List.exists_mem_cons_iff, ih hrest, ← List.mem_append,
        List.take_append_drop]

theorem memo_fetched (config : ClientConfig) (client : LiveTrueApiClient) (batch : List String)
    (answer : Except PyError Json) (kiz : String) :
    (client.fetched config batch answer).memo kiz =
      if kiz ∈ batch then some (entryOf config.adapter answer kiz) else client.memo kiz := rfl

/-- After the batches of a fetch: what was asked for is kept as it was answered, and the rest as it
was. -/
theorem foldl_fetched (config : ClientConfig) (respond : List String → Except PyError Json)
    (batches : List (List String)) (client : LiveTrueApiClient) :
    (batches.foldl (fun client batch => client.fetched config batch (respond batch)) client).requests
      = client.requests ++ batches.map (fun batch => ⟨batch, respond batch⟩) ∧
    ∀ kiz, (∃ batch ∈ batches, kiz ∈ batch ∧
      (batches.foldl (fun client batch => client.fetched config batch (respond batch)) client).memo
        kiz = some (entryOf config.adapter (respond batch) kiz)) ∨
      ((∀ batch ∈ batches, kiz ∉ batch) ∧
        (batches.foldl (fun client batch => client.fetched config batch (respond batch))
          client).memo kiz = client.memo kiz) := by
  induction batches using List.reverseRecOn with
  | nil => exact ⟨by simp, fun kiz => .inr ⟨fun _ h => absurd h List.not_mem_nil, rfl⟩⟩
  | append_singleton batches last ih =>
    obtain ⟨hrequests, hmemo⟩ := ih
    rw [List.foldl_append, List.foldl_cons, List.foldl_nil]
    constructor
    · rw [fetched, hrequests, List.map_append, List.append_assoc]
      rfl
    · intro kiz
      rw [memo_fetched]
      by_cases hlast : kiz ∈ last
      · rw [if_pos hlast]
        exact .inl ⟨last, List.mem_append_right _ (List.mem_singleton_self _), hlast, rfl⟩
      · rw [if_neg hlast]
        rcases hmemo kiz with ⟨batch, hbatch, hkiz, heq⟩ | ⟨hnone, heq⟩
        · exact .inl ⟨batch, List.mem_append_left _ hbatch, hkiz, heq⟩
        · refine .inr ⟨fun batch hbatch => ?_, heq⟩
          rcases List.mem_append.mp hbatch with hbatch | hbatch
          · exact hnone batch hbatch
          · rw [List.mem_singleton.mp hbatch]
            exact hlast

/-- What the transport is asked for are the codes as it asks for them. -/
theorem mem_requestedCises {kizs requested : List String}
    (h : requestedCises config kizs = .ok requested) :
    (∀ kiz ∈ kizs, config.written kiz ∈ requested) ∧
      ∀ kiz ∈ requested, config.written kiz = kiz ∧ ∃ other ∈ kizs, kiz = config.written other := by
  unfold requestedCises at h
  unfold ClientConfig.written
  by_cases hstrict : config.strict = true
  · simp only [if_pos hstrict] at h ⊢
    have hvalue : ∀ {text kept}, normalizeCis text = .ok kept → kept = Text.strip text := by
      intro text kept hkept
      unfold normalizeCis at hkept
      dsimp only at hkept
      split at hkept
      · exact (Except.ok.inj hkept).symm
      · cases hkept
    unfold normalizeCises at h
    split at h
    · cases h
    · rename_i normalized hmap
      split at h
      · cases h
        constructor
        · intro kiz hkiz
          obtain ⟨kept, hmem, hkept⟩ := Fallible.mapM_value hmap kiz hkiz
          rw [← hvalue hkept]
          exact hmem
        · intro kiz hkiz
          obtain ⟨text, htext, hkept⟩ := Fallible.mapM_mem hmap kiz hkiz
          refine ⟨?_, text, htext, hvalue hkept⟩
          rw [hvalue hkept, Text.strip_strip]
      · cases h
  · simp only [if_neg hstrict] at h ⊢
    cases h
    exact ⟨fun kiz hkiz => hkiz, fun kiz hkiz => ⟨trivial, kiz, hkiz, rfl⟩⟩

/-- What a client has learnt by requests. -/
structure Learnt (config : ClientConfig) (client client' : LiveTrueApiClient)
    (new : List Request) : Prop where
  requests : client'.requests = client.requests ++ new
  /-- It asked for what it did not know. -/
  asked : ∀ request ∈ new, ∀ kiz ∈ request.batch,
    client.memo kiz = none ∧ config.written kiz = kiz
  /-- It keeps what it was answered, and otherwise what it knew. -/
  memo : ∀ kiz, (∃ request ∈ new, kiz ∈ request.batch ∧
    client'.memo kiz = some (entryOf config.adapter request.answer kiz)) ∨
      client'.memo kiz = client.memo kiz

/-- A client that was primed has learnt what it did not know. -/
theorem prime_learnt {now : ℕ} {respond : List String → Except PyError Json}
    {kizs : List String} (h : client.prime config now respond kizs = (.ok (), client')) :
    (∃ new, Learnt config client client' new) ∧
      ∀ kiz ∈ kizs, client'.memo (config.written kiz) ≠ none := by
  unfold prime at h
  split at h
  · split at h
    · cases h
    · rename_i requested hrequested
      obtain ⟨hwritten, hkept⟩ := mem_requestedCises hrequested
      generalize hmissing : (requested.eraseDups.filter fun kiz => (client.memo kiz).isNone) =
        missing at h
      have hmem : ∀ kiz, kiz ∈ missing ↔ kiz ∈ requested ∧ client.memo kiz = none := by
        intro kiz
        rw [← hmissing, List.mem_filter, List.mem_eraseDups, Option.isNone_iff_eq_none]
      have hslices : ∀ kiz, (∃ batch ∈ slices config.batchLimit missing.length missing,
          kiz ∈ batch) ↔ kiz ∈ missing := fun kiz =>
        mem_slices config.batchLimit_valid.1 le_rfl
      obtain ⟨hrequests, hmemo⟩ := foldl_fetched config respond
        (slices config.batchLimit missing.length missing) client
      have hclient := (Prod.mk.inj h).2
      rw [hclient] at hrequests hmemo
      constructor
      · refine ⟨_, hrequests, ?_, fun kiz => ?_⟩
        · intro request hrequest kiz hkiz
          obtain ⟨batch, hbatch, rfl⟩ := List.mem_map.mp hrequest
          obtain ⟨hasked, hnone⟩ := (hmem kiz).mp ((hslices kiz).mp ⟨batch, hbatch, hkiz⟩)
          exact ⟨hnone, (hkept kiz hasked).1⟩
        · rcases hmemo kiz with ⟨batch, hbatch, hkiz, heq⟩ | ⟨-, heq⟩
          · exact .inl ⟨_, List.mem_map_of_mem hbatch, hkiz, heq⟩
          · exact .inr heq
      · intro kiz hkiz hnone
        rcases hmemo (config.written kiz) with ⟨batch, -, -, heq⟩ | ⟨hno, heq⟩
        · rw [heq] at hnone
          cases hnone
        · rw [heq] at hnone
          have hthere := (hmem _).mpr ⟨hwritten kiz hkiz, hnone⟩
          obtain ⟨batch, hbatch, hin⟩ := (hslices _).mpr hthere
          exact hno batch hbatch hin
  · cases h

/-- A client asks for nothing that it knows. -/
theorem prime_known {now : ℕ} {respond : List String → Except PyError Json} {kizs : List String}
    (h : ∀ kiz ∈ kizs, client.memo (config.written kiz) ≠ none) :
    (client.prime config now respond kizs).2.memo = client.memo ∧
      (client.prime config now respond kizs).2.requests = client.requests := by
  unfold prime
  split
  · split
    · exact ⟨rfl, rfl⟩
    · rename_i requested hrequested
      have hmissing : (requested.eraseDups.filter fun kiz => (client.memo kiz).isNone) = [] := by
        rw [List.filter_eq_nil_iff]
        intro kiz hkiz
        obtain ⟨-, other, hother, rfl⟩ :=
          (mem_requestedCises hrequested).2 kiz (List.mem_eraseDups.mp hkiz)
        rw [Option.isNone_iff_eq_none]
        exact h other hother
      rw [hmissing]
      exact ⟨rfl, rfl⟩
  · exact ⟨rfl, rfl⟩

/-- A client that was primed keeps what it knows; what it says of a code is what it knows, or it
fails on a code that is not written as the transport asks for it. -/
theorem getKiState_primed {now : ℕ} {respond : List String → Except PyError Json}
    (hprimed : client.memo (config.written kiz) ≠ none) :
    (client.getKiState config now respond kiz).2.memo = client.memo ∧
      (client.getKiState config now respond kiz).2.requests = client.requests ∧
      (client.memo kiz = some (client.getKiState config now respond kiz).1 ∨
        config.written kiz ≠ kiz) := by
  unfold getKiState
  cases hmemo : client.memo kiz with
  | some value =>
    simp only [hmemo]
    exact ⟨trivial, trivial, .inl trivial⟩
  | none =>
    have hne : config.written kiz ≠ kiz := fun heq => hprimed (by rw [heq, hmemo])
    have hknown := @prime_known config { client with calls := client.calls ++ [kiz] } now respond
      [kiz] (by simpa using hprimed)
    simp only [hmemo]
    split
    · rename_i hprime
      rw [hprime] at hknown
      exact ⟨hknown.1, hknown.2, .inr hne⟩
    · rename_i hprime
      rw [hprime] at hknown
      exact ⟨hknown.1, hknown.2, .inr hne⟩

end LiveTrueApiClient

/-! ## The calls of a check -/

section Calls

variable {config : ClientConfig} {s s' : LiveState}

theorem executes_call {σ : Type} {handles : σ → (c : StoreCall) → StoreAnswer c → σ → Prop}
    {s s' : σ} {c : StoreCall} {r : Except PyError c.Value}
    (h : Executes handles s (call c).run r s') : handles s c r s' :=
  Program.executes_perform.mp h

/-- The calls that only read leave everything as it was. -/
theorem LiveAnswers.eventIdsForImport {fingerprint : String} {r : Except PyError (List String)}
    (h : LiveAnswers config s (.eventIdsForImport fingerprint) r s') : s' = s := by
  cases h with
  | store _ hstore => cases hstore <;> rfl

theorem LiveAnswers.historyOrderAmbiguous {kiz : String} {r : Except PyError Bool}
    (h : LiveAnswers config s (.historyOrderAmbiguous kiz) r s') : s' = s := by
  cases h with
  | store _ hstore => cases hstore <;> rfl

theorem LiveAnswers.getEvent {eventId : String} {r : Except PyError EventRecord}
    (h : LiveAnswers config s (.getEvent eventId) r s') :
    s' = s ∧ ∀ row, r = .ok row → row ∈ s.store.events ∧ row.eventId = eventId := by
  cases h with
  | store _ hstore =>
    cases hstore with
    | getEvent =>
      refine ⟨rfl, fun row hrow => ?_⟩
      have hfound := Fallible.found_eq_ok.mp hrow
      exact ⟨Table.mem_of_find? hfound, Table.key_of_find? hfound⟩
    | raised => exact ⟨rfl, fun _ hrow => nomatch hrow⟩

theorem LiveAnswers.prime_call {kizs : List String} {r : Except PyError Unit}
    (h : LiveAnswers config s (.prime kizs) r s') : ∃ now now' respond,
    r = (s.client.primeChecked config now now' respond kizs).1 ∧
      s' = { s with client := (s.client.primeChecked config now now' respond kizs).2 } := by
  cases h with
  | store hasks _ => cases hasks
  | prime now now' respond => exact ⟨now, now', respond, rfl, rfl⟩

theorem LiveAnswers.getKiState_call {kiz : String} {r : Except PyError KiState}
    (h : LiveAnswers config s (.getKiState kiz) r s') : ∃ now respond,
    r = (s.client.getKiState config now respond kiz).1 ∧
      s' = { s with client := (s.client.getKiState config now respond kiz).2 } := by
  cases h with
  | store hasks _ => cases hasks
  | getKiState now respond => exact ⟨now, respond, rfl, rfl⟩

/-- A check that is stored comes after the others. -/
theorem LiveAnswers.saveCheck {eventId source : String} {snapshot : Option KiState}
    {outcome : Outcome} {r : Except PyError CheckResult}
    (h : LiveAnswers config s (.saveCheck eventId snapshot outcome source) r s') :
    s' = s ∨ ∃ check : CheckRecord, s'.store.checks = s.store.checks ++ [check] ∧
      s'.store.events = s.store.events ∧ s'.client = s.client ∧ check.eventId = eventId ∧
      check.source = source ∧ check.snapshot = snapshot ∧ check.outcome = outcome := by
  cases h with
  | store _ hstore =>
    cases hstore with
    | saveCheck h =>
      rw [EventStore.saveCheck] at h
      obtain ⟨-, -, h⟩ := Fallible.bind_eq_ok.mp h
      cases h
      exact .inr ⟨_, rfl, rfl, rfl, rfl, rfl, rfl, rfl⟩
    | raised => exact .inl rfl

end Calls

/-! ## A check -/

/-- What holds in a check once the client was primed: it asks for nothing more, and what is decided
is decided from what it knows. -/
structure Checking (config : ClientConfig) (ownInn source : String) (start : LiveState)
    (client : LiveTrueApiClient) (s : LiveState) : Prop where
  memo : s.client.memo = client.memo
  requests : s.client.requests = client.requests
  events : s.store.events = start.store.events
  checks : ∃ new, s.store.checks = start.store.checks ++ new ∧
    ∀ check ∈ new, check.source = source → ∃ row ∈ start.store.events,
      row.eventId = check.eventId ∧ ∃ value,
        (client.memo row.event.kiz = some value ∨ config.written row.event.kiz ≠ row.event.kiz) ∧
        (check.snapshot, check.outcome) = decided ownInn row value

section Checks

variable {config : ClientConfig} {ownInn source : String} {start s s' : LiveState}
  {client : LiveTrueApiClient}

/-- A check is stored. -/
theorem Checking.saveCheck {eventId source' : String} {snapshot : Option KiState}
    {outcome : Outcome} {r : Except PyError CheckResult}
    (h : Checking config ownInn source start client s)
    (hsave : LiveAnswers config s (.saveCheck eventId snapshot outcome source') r s')
    (hdecided : source' = source → ∃ row ∈ start.store.events, row.eventId = eventId ∧ ∃ value,
      (client.memo row.event.kiz = some value ∨ config.written row.event.kiz ≠ row.event.kiz) ∧
      (snapshot, outcome) = decided ownInn row value) :
    Checking config ownInn source start client s' := by
  rcases hsave.saveCheck with rfl | ⟨check, hchecks, hevents, hclient, rfl, rfl, rfl, rfl⟩
  · exact h
  obtain ⟨new, hnew, hall⟩ := h.checks
  refine ⟨by rw [hclient, h.memo], by rw [hclient, h.requests], by rw [hevents, h.events],
    new ++ [check], ?_, ?_⟩
  · rw [hchecks, hnew, List.append_assoc]
  · intro other hother
    rcases List.mem_append.mp hother with hother | hother
    · exact hall other hother
    · rw [List.mem_singleton.mp hother]
      exact hdecided

theorem checkEvent_checking {row : EventRecord} {r : Except PyError CheckResult}
    (hrow : row ∈ start.store.events)
    (hprimed : client.memo (config.written row.event.kiz) ≠ none)
    (h : Checking config ownInn source start client s)
    (hrun : Executes (LiveAnswers config) s
      (checkEvent (liveClient ownInn source) row.eventId).run r s') :
    Checking config ownInn source start client s' := by
  unfold checkEvent at hrun
  rcases Program.executes_except hrun with ⟨e, hget, -⟩ | ⟨found, s₁, hget, hrest⟩
  · rw [(executes_call hget).getEvent.1]
    exact h
  clear hrun
  obtain ⟨rfl, hfound⟩ := (executes_call hget).getEvent
  obtain ⟨hmem, hid⟩ := hfound found rfl
  rw [h.events] at hmem
  -- the id is a key: it is the event that was read for the priming
  rw [Table.eq_of_key_eq hmem hrow hid] at hrest
  obtain ⟨answer, s₂, hask, hsave⟩ := Program.executes_lift hrest
  obtain ⟨now, respond, rfl, rfl⟩ := (executes_call hask).getKiState_call
  rw [← h.memo] at hprimed
  have hcall : (s₁.client.getKiState config now respond row.event.kiz).2.memo = s₁.client.memo ∧
      (s₁.client.getKiState config now respond row.event.kiz).2.requests = s₁.client.requests ∧
      (s₁.client.memo row.event.kiz =
          some (s₁.client.getKiState config now respond row.event.kiz).1 ∨
        config.written row.event.kiz ≠ row.event.kiz) :=
    LiveTrueApiClient.getKiState_primed hprimed
  obtain ⟨hmemo, hrequests, hvalue⟩ := hcall
  have hasked : Checking config ownInn source start client
      { s₁ with client := (s₁.client.getKiState config now respond row.event.kiz).2 } :=
    ⟨hmemo.trans h.memo, hrequests.trans h.requests, h.events, h.checks⟩
  rw [h.memo] at hvalue
  refine hasked.saveCheck (executes_call hsave) fun _ => ⟨row, hrow, rfl, _, hvalue, ?_⟩
  rcases (s₁.client.getKiState config now respond row.event.kiz).1 with e | state
  · rfl
  · unfold decided liveClient
    cases ControlEngine.decide row.event state ownInn <;> rfl

/-- A check that replaces one because of the history has another source. -/
theorem guard_source : (liveClient ownInn source).source ++ "-history-guard" ≠ source := by
  intro heq
  have hlength := congrArg String.length heq
  rw [String.length_append] at hlength
  have hguard : "-history-guard".length = 14 := rfl
  rw [hguard] at hlength
  exact absurd hlength (by simp [liveClient])

theorem checkGuarded_checking {row : EventRecord} {r : Except PyError CheckResult}
    (hrow : row ∈ start.store.events)
    (hprimed : client.memo (config.written row.event.kiz) ≠ none)
    (h : Checking config ownInn source start client s)
    (hrun : Executes (LiveAnswers config) s (checkGuarded (liveClient ownInn source) row).run r s') :
    Checking config ownInn source start client s' := by
  unfold checkGuarded at hrun
  rcases Program.executes_except hrun with ⟨e, hcheck, -⟩ | ⟨result, s₁, hcheck, hrest⟩
  · exact checkEvent_checking hrow hprimed h hcheck
  have hchecked := checkEvent_checking hrow hprimed h hcheck
  rcases Program.executes_except hrest with ⟨e, hlook, -⟩ | ⟨ambiguous, s₂, hlook, hlast⟩
  · rw [(executes_call hlook).historyOrderAmbiguous]
    exact hchecked
  obtain rfl := (executes_call hlook).historyOrderAmbiguous
  cases ambiguous with
  | true => exact hchecked.saveCheck (executes_call hlast) fun heq => absurd heq guard_source
  | false =>
    rw [(Program.executes_ret.mp hlast).2]
    exact hchecked

/-- The loop that reads the events. -/
theorem readEvents_executes {ids : List String} {r : Except PyError (List EventRecord)}
    (hrun : Executes (LiveAnswers config) s
      (ids.mapM fun eventId => call (.getEvent eventId)).run r s') :
    s' = s ∧ ∀ rows, r = .ok rows → ∀ row ∈ rows, row ∈ s.store.events := by
  refine Program.executes_mapM (I := fun s' => s' = s) (fun eventId _ s₁ r s₂ hs hcall => ?_) rfl
    hrun
  obtain ⟨heq, hfound⟩ := (executes_call hcall).getEvent
  rw [heq, ← hs]
  exact ⟨rfl, fun row hrow => (hfound row hrow).1⟩

/-- The priming of a client that is authenticated, or is found not to be. -/
theorem primeChecked_learnt {client client' : LiveTrueApiClient} {now now' : ℕ}
    {respond : List String → Except PyError Json} {kizs : List String}
    (h : client.primeChecked config now now' respond kizs = (.ok (), client')) :
    (∃ new, LiveTrueApiClient.Learnt config client client' new) ∧
      ∀ kiz ∈ kizs, client'.memo (config.written kiz) ≠ none := by
  unfold LiveTrueApiClient.primeChecked at h
  split at h
  · exact LiveTrueApiClient.prime_learnt h
  · cases h

/-- A whole check leaves the checks as they were, or it has primed the client and then decided from
what the client knew. -/
theorem checkImport_checking {fingerprint : String} {requested : Option (List String)}
    {r : Except PyError (List CheckResult)}
    (hrun : Executes (LiveAnswers config) start
      (checkImport (liveClient ownInn source) fingerprint requested).run r s') :
    s'.store.checks = start.store.checks ∨ ∃ client new,
      LiveTrueApiClient.Learnt config start.client client new ∧
        Checking config ownInn source start client s' := by
  unfold checkImport at hrun
  rcases Program.executes_except hrun with ⟨e, hids, -⟩ | ⟨ids, s₁, hids, hselected⟩
  · rw [(executes_call hids).eventIdsForImport]
    exact .inl rfl
  clear hrun
  obtain rfl := (executes_call hids).eventIdsForImport
  rcases Program.executes_except hselected with ⟨e, hselect, -⟩ | ⟨selected, s₂, hselect, hread⟩
  · rw [(Program.executes_mk hselect).2]
    exact .inl rfl
  clear hselected
  obtain ⟨-, rfl⟩ := Program.executes_mk hselect
  rcases Program.executes_except hread with ⟨e, hloop, -⟩ | ⟨rows, s₃, hloop, hprime⟩
  · rw [(readEvents_executes hloop).1]
    exact .inl rfl
  clear hread
  obtain ⟨rfl, hrows⟩ := readEvents_executes hloop
  have hrows := hrows rows rfl
  rw [if_pos (show (liveClient ownInn source).live = true from rfl)] at hprime
  rcases Program.executes_except hprime with ⟨e, hasked, -⟩ | ⟨⟨⟩, s₄, hasked, howner⟩
  · obtain ⟨now, now', respond, -, rfl⟩ := (executes_call hasked).prime_call
    exact .inl rfl
  clear hprime
  obtain ⟨now, now', respond, hanswer, rfl⟩ := (executes_call hasked).prime_call
  obtain ⟨⟨new, hlearnt⟩, hknown⟩ := primeChecked_learnt (Prod.ext hanswer.symm rfl)
  rcases Program.executes_except howner with ⟨e, hvalid, -⟩ | ⟨_, s₅, hvalid, hchecks⟩
  · rw [(Program.executes_mk hvalid).2]
    exact .inl rfl
  clear howner
  obtain ⟨-, rfl⟩ := Program.executes_mk hvalid
  refine .inr ⟨_, new, hlearnt, ?_⟩
  have hstart : Checking config ownInn source s₃
      (s₃.client.primeChecked config now now' respond (rows.map fun row => row.event.kiz)).2
      { s₃ with client := (s₃.client.primeChecked config now now' respond
          (rows.map fun row => row.event.kiz)).2 } :=
    ⟨rfl, rfl, rfl, [], by simp, by simp⟩
  refine (Program.executes_mapM (Q := fun _ => True) (fun row hrow s r s' hs hcheck => ?_) hstart
    hchecks).1
  have hprimed := hknown row.event.kiz (List.mem_map_of_mem hrow)
  exact ⟨checkGuarded_checking (hrows row hrow) hprimed hs hcheck, fun _ _ => trivial⟩

/-! ## Runs -/

/-- A check is fresh if and only if the client knew nothing about what it decides. -/
theorem check_fresh_iff {label : LiveLabel} (step : LiveStep config s label s') :
    Fresh config s label s' ↔ Unknown config s label s' := by
  cases step with
  | preflight | authenticate | stored => exact Iff.rfl
  | @check _ ownInn source _ _ _ hrun =>
    rcases checkImport_checking hrun with hnone | ⟨client, new, hlearnt, hchecking⟩
    · -- nothing was stored
      have hchecks : newChecks s s' = [] := by
        rw [newChecks, hnone, List.drop_length]
      simp only [Fresh, Unknown, hchecks, List.not_mem_nil, false_imp_iff, implies_true]
    · have hrequests : newRequests s s' = new := by
        rw [newRequests, hchecking.requests, hlearnt.requests, List.drop_left]
      obtain ⟨stored, hstored, hdecided⟩ := hchecking.checks
      have hchecks : newChecks s s' = stored := by
        rw [newChecks, hstored, List.drop_left]
      simp only [Fresh, Unknown, hchecks, hrequests]
      refine forall₃_congr fun check hcheck hsource => ?_
      have hwritten : ∀ kiz, config.written kiz = kiz ↔
          (config.strict = true → Text.strip kiz = kiz) := by
        intro kiz
        unfold ClientConfig.written
        split <;> simp [*]
      constructor
      · -- what was asked for was not known
        rintro ⟨request, hrequest, row, hrow, hid, hkiz, -⟩ other hother hotherId
        rw [Table.eq_of_key_eq hother hrow (hotherId.trans hid.symm)]
        obtain ⟨hunknown, hsame⟩ := hlearnt.asked request hrequest _ hkiz
        exact ⟨hunknown, (hwritten _).mp hsame⟩
      · intro hunknown
        obtain ⟨row, hrow, hid, value, hvalue, houtcome⟩ := hdecided check hcheck hsource
        obtain ⟨hnone, hsame⟩ := hunknown row hrow hid
        have hvalue := hvalue.resolve_right (absurd ((hwritten _).mpr hsame))
        -- what is known now and was not known before was fetched in between
        rcases hlearnt.memo row.event.kiz with ⟨request, hrequest, hkiz, hfetched⟩ | hold
        · rw [hfetched] at hvalue
          rw [← Option.some.inj hvalue] at houtcome
          exact ⟨request, hrequest, row, hrow, hid, hkiz, houtcome⟩
        · rw [hold, hnone] at hvalue
          cases hvalue

end Checks

/-- A step whose decisions are fresh. -/
def StepFresh (config : ClientConfig) (s : LiveState) (label : LiveLabel) (s' : LiveState) : Prop :=
  LiveStep config s label s' ∧ Fresh config s label s'

/-- A step whose checks decide about what the client knew nothing of. -/
def StepUnknown (config : ClientConfig) (s : LiveState) (label : LiveLabel) (s' : LiveState) :
    Prop :=
  LiveStep config s label s' ∧ Unknown config s label s'

/-- All decisions of a run are fresh exactly where every check knew nothing about their KIZ when it
began. -/
theorem fresh_run_iff {config : ClientConfig} {labels : List LiveLabel} {s s' : LiveState} :
    Run (StepFresh config) s labels s' ↔ Run (StepUnknown config) s labels s' :=
  Run.congr (fun _ => True) trivial
    (fun _ _ _ _ => and_congr_right fun step => check_fresh_iff step) fun _ _ _ _ _ => trivial

/-! ## A second check -/

/-- The settings of the production; the adapter is not reached below. -/
def sampleConfig : ClientConfig where
  adapter := fun _ _ => .error (protocolError "")
  batchLimit := 100
  strict := true
  batchLimit_valid := by decide

/-- Nothing was imported, and the client is new. -/
def newState : LiveState := ⟨.empty, ⟨none, false, fun _ => none, [], []⟩⟩

/-- A workbook with one sale. -/
def saleWorkbook : ParsedWorkbook where
  rows := [(2, ⟨"sale", ⟨"0104601234567890215abc", .sale, some "2025-01-01", some "1",
    some false⟩⟩)]
  issues := []

/-- The workbook was imported, and the client was authenticated. -/
def authenticatedState : LiveState where
  store := (written (EventStore.empty.importWorkbook "fingerprint" "sales.xlsx" saleWorkbook)
    .empty).2
  client := ⟨some 100, true, fun _ => none, [], []⟩

/-- The answers where the transport fails. -/
def transportFails (s : LiveState) (c : StoreCall) : StoreAnswer c × LiveState :=
  let respond : List String → Except PyError Json := fun _ => .error ⟨.other "TimeoutError", ""⟩
  match c with
  | .prime kizs =>
    let primed := s.client.primeChecked sampleConfig 0 0 respond kizs
    (primed.1, { s with client := primed.2 })
  | .getKiState kiz =>
    let asked := s.client.getKiState sampleConfig 0 respond kiz
    (asked.1, { s with client := asked.2 })
  | c => ((answered s.store c).1, { s with store := (answered s.store c).2 })

theorem transportFails_answers (s : LiveState) (c : StoreCall) :
    LiveAnswers sampleConfig s c (transportFails s c).1 (transportFails s c).2 := by
  cases c with
  | prime => exact .prime _ _ _
  | getKiState => exact .getKiState _ _
  | _ => exact .store rfl (answered_answers s.store _)

/-- A check of the import. -/
def saleCheck : Program StoreCall StoreAnswer (Except PyError (List CheckResult)) :=
  (checkImport (liveClient "1234567890" "true-api") "fingerprint" none).run

/-- The transport has failed in one check. -/
def checkedState : LiveState := (saleCheck.eval transportFails authenticatedState).2

/-- And a second check was made. -/
def recheckedState : LiveState := (saleCheck.eval transportFails checkedState).2

/-- A second check decides from the failure of the first, and asks for nothing. -/
theorem second_check_not_fresh :
    ∃ config labels s label s', Run (LiveStep config) newState labels s ∧
      LiveStep config s label s' ∧ ¬ Fresh config s label s' := by
  have himported : LiveStep sampleConfig newState .stored
      { newState with store := authenticatedState.store } := .stored
  have hchecked := Program.executes_eval transportFails_answers saleCheck authenticatedState
  have hrechecked := Program.executes_eval transportFails_answers saleCheck checkedState
  have hrun := (((Run.single himported).snoc .preflight).snoc (.authenticate (.ok 100))).snoc
    (.check hchecked)
  refine ⟨sampleConfig, _, checkedState, .check "1234567890" "true-api", recheckedState, hrun,
    .check hrechecked, fun hfresh => ?_⟩
  have hrequests : (newRequests checkedState recheckedState).isEmpty = true := by decide +kernel
  have hchecks : ((newChecks checkedState recheckedState).map CheckRecord.source) = ["true-api"] := by
    decide +kernel
  obtain ⟨check, hcheck, hsource⟩ := List.mem_map.mp
    (hchecks ▸ List.mem_singleton_self _ : "true-api" ∈ (newChecks _ _).map CheckRecord.source)
  obtain ⟨request, hrequest, -⟩ := hfresh check hcheck hsource
  rw [List.isEmpty_iff.mp hrequests] at hrequest
  cases hrequest

end Wbcz.Desktop
