import ChainHistory.Proofs.IndexerCall
import ChainHistory.Proofs.IndexerMessage
import ChainHistory.Proofs.IndexerPath
import ChainHistory.Proofs.ServiceDecision
import ChainHistory.Proofs.Startup

namespace ChainHistory.Indexer

open Text Service

/-- The requests that use a capability of a coin for the identifier `x`. -/
inductive Uses (coin x : String) : Capability → List String → List (String × String) → Prop
  | tx : Uses coin x .tx [coin, "transactions", x] []
  | token (t : String) : Uses coin x .token [coin, "transactions", x] [("token", t)]
  | account (limit : String) :
      Uses coin x .account [coin, "transactions", "account", x] [("limit", limit)]
  | accountToken (limit t : String) :
      Uses coin x .account [coin, "transactions", "account", x] [("limit", limit), ("token", t)]
  | xpub : Uses coin x .xpub [coin, "transactions", "xpub", x] []

/-- The words that stand between the coin and the identifier. -/
def wordsFor : Capability → List String
  | .tx => ["transactions"]
  | .token => ["transactions"]
  | .account => ["transactions", "account"]
  | .xpub => ["transactions", "xpub"]

/-- Where the words are the same, a token tells one capability from the other. -/
theorem eq_of_wordsFor_eq {c c' : Capability} (hwords : wordsFor c = wordsFor c')
    (hbare : c = .tx ∨ c = .xpub ↔ c' = .tx ∨ c' = .xpub) : c = c' := by
  revert hwords hbare
  cases c <;> cases c' <;> decide

section

variable {coin x : String} {c : Capability} {segments : List String}
  {params : List (String × String)}

theorem Uses.segments_eq (h : Uses coin x c segments params) :
    segments = coin :: (wordsFor c ++ [x]) := by
  cases h <;> rfl

theorem Uses.params_eq_nil_iff (h : Uses coin x c segments params) :
    params = [] ↔ c = .tx ∨ c = .xpub := by
  cases h with
  | tx => decide
  | xpub => decide
  | token t => exact iff_of_false (List.cons_ne_nil _ _) (by decide)
  | account limit => exact iff_of_false (List.cons_ne_nil _ _) (by decide)
  | accountToken limit t => exact iff_of_false (List.cons_ne_nil _ _) (by decide)

theorem Uses.groupFields_params (h : Uses coin x c segments params) :
    groupFields params = params := by
  cases h <;> rfl

/-- A request uses one capability of one coin for one identifier, whatever the texts are. -/
theorem Uses.unique {coin' x' : String} {c' : Capability} (h : Uses coin x c segments params)
    (h' : Uses coin' x' c' segments params) : coin' = coin ∧ x' = x ∧ c' = c := by
  -- The coin stands first and the identifier last, so that the words are what is left.
  have hsegments : coin' :: (wordsFor c' ++ [x']) = coin :: (wordsFor c ++ [x]) :=
    h'.segments_eq.symm.trans h.segments_eq
  obtain ⟨hcoin, hrest⟩ := List.cons.inj hsegments
  obtain ⟨hwords, hx⟩ := List.append_inj' hrest rfl
  have hbare : c' = .tx ∨ c' = .xpub ↔ c = .tx ∨ c = .xpub :=
    h'.params_eq_nil_iff.symm.trans h.params_eq_nil_iff
  exact ⟨hcoin, List.singleton_inj.mp hx, eq_of_wordsFor_eq hwords hbare⟩

end

/-- Every call uses the capability that is its own, for what it asks about. -/
theorem uses_call (coin : String) (call : Call) :
    Uses coin (identifier call) call.capability (segments coin call) (params call) := by
  cases call with
  | tx x => exact .tx
  | token x t => exact .token t
  | account x token limit =>
    simp only [identifier, Call.capability, segments, params]
    cases nonEmpty? token with
    | none => exact .account (toString limit)
    | some t => exact .accountToken (toString limit) t
  | xpub x => exact .xpub

theorem uses_callFor (coin x : String) (pageSize : Int) (kind : IdentifierKind)
    (token : Option String) :
    Uses coin x (needed kind token) (segments coin (callFor pageSize x kind token))
      (params (callFor pageSize x kind token)) := by
  have hx : identifier (callFor pageSize x kind token) = x := by
    cases kind <;> cases token <;> rfl
  have huses := uses_call coin (callFor pageSize x kind token)
  rwa [hx, capability_callFor] at huses

theorem eq_of_request_eq_ok {client : Client} {coin : String} {call : Call} {r : Request}
    (h : request client coin call = .ok r) :
    client.baseUrl = some r.baseUrl ∧ path? (segments coin call) = some r.path ∧
      r.params = params call := by
  unfold request at h
  cases hbase : client.baseUrl with
  | none => simp only [hbase, reduceCtorEq] at h
  | some base =>
    cases hpath : path? (segments coin call) with
    | none => simp only [hbase, hpath, reduceCtorEq] at h
    | some path =>
      simp only [hbase, hpath, Except.ok.injEq] at h
      rw [← h]
      exact ⟨rfl, rfl, rfl⟩

/-- A call sends the message of its own request, or nothing. -/
theorem sent_fetch (indexer : Behaviour) (client : Client) (p : Platform Unit) (call : Call)
    (c : Conversation) : (fetch indexer client p call c).2.sent = c.sent ∨
      ∃ r m, request client p.coin call = .ok r ∧ Message.ofRequest r = .ok m ∧
        (fetch indexer client p call c).2.sent = c.sent ++ [m] := by
  cases hr : request client p.coin call with
  | error e =>
    left
    rw [fetch_of_refused c hr]
  | ok r =>
    cases hm : Message.ofRequest r with
    | error e =>
      left
      simp only [fetch, hr, hm, sent_connect]
    | ok m => exact Or.inr ⟨r, m, rfl, hm, (fetch_of_sent indexer c hr hm).2⟩

section

variable (s : Service Unit) (indexer : Behaviour) (client : Client)

/-- The conversation after an inquiry was served. -/
def serve (c : Conversation) (i : Inquiry) : Conversation :=
  (s.answer (fetch indexer client) i c).2

/-- The messages that inquiries bring about one after the other, each with its inquiry. -/
def dispatched : Conversation → List Inquiry → List (Inquiry × Message)
  | _, [] => []
  | c, i :: is =>
    ((serve s indexer client c i).sent.drop c.sent.length).map (i, ·) ++
      dispatched (serve s indexer client c i) is

/-- What one inquiry adds to the messages is the message of the call that was planned for it. -/
theorem sent_serve (c : Conversation) (i : Inquiry) :
    (serve s indexer client c i).sent = c.sent ∨
      ∃ p r m, s.plan i = .ok p ∧ request client p.platform.coin p.call = .ok r ∧
        Message.ofRequest r = .ok m ∧ (serve s indexer client c i).sent = c.sent ++ [m] := by
  unfold serve answer
  cases hplan : s.plan i with
  | error e => exact Or.inl rfl
  | ok p =>
    show (fetch indexer client p.platform p.call c).2.sent = c.sent ∨ ∃ p' r m, _ ∧ _ ∧ _ ∧
      (fetch indexer client p.platform p.call c).2.sent = c.sent ++ [m]
    rcases sent_fetch indexer client p.platform p.call c with h | ⟨r, m, hr, hm, h⟩
    · exact Or.inl h
    · exact Or.inr ⟨p, r, m, rfl, hr, hm, h⟩

/-- Nothing reaches the indexer but what was dispatched for an inquiry. -/
theorem sent_foldl_serve (c : Conversation) (is : List Inquiry) :
    (is.foldl (serve s indexer client) c).sent =
      c.sent ++ (dispatched s indexer client c is).map (·.2) := by
  induction is generalizing c with
  | nil => exact (List.append_nil c.sent).symm
  | cons i is ih =>
    -- An inquiry only adds to the messages, so what it adds is what follows those before it.
    have hstep : (serve s indexer client c i).sent =
        c.sent ++ (serve s indexer client c i).sent.drop c.sent.length := by
      rcases sent_serve s indexer client c i with h | ⟨_, _, m, -, -, -, h⟩
      · rw [h, List.drop_length, List.append_nil]
      · rw [h, List.drop_left]
    rw [List.foldl_cons, ih, dispatched, List.map_append, List.map_map]
    conv_lhs => rw [hstep]
    rw [List.append_assoc]
    congr 2
    exact (List.map_id' _).symm

/-- Every message that was dispatched comes of the call that was planned for its inquiry. -/
theorem exists_plan_of_mem_dispatched {c : Conversation} {is : List Inquiry} {i : Inquiry}
    {m : Message} (h : (i, m) ∈ dispatched s indexer client c is) :
    ∃ p r, s.plan i = .ok p ∧ request client p.platform.coin p.call = .ok r ∧
      Message.ofRequest r = .ok m := by
  induction is generalizing c with
  | nil => exact absurd h List.not_mem_nil
  | cons j is ih =>
    rw [dispatched, List.mem_append] at h
    rcases h with h | h
    · obtain ⟨m', hm', heq⟩ := List.mem_map.mp h
      obtain ⟨rfl, rfl⟩ := Prod.mk.inj heq
      rcases sent_serve s indexer client c j with hsent | ⟨p, r, n, hplan, hr, hn, hsent⟩
      · rw [hsent, List.drop_length] at hm'
        exact absurd hm' List.not_mem_nil
      · rw [hsent, List.drop_left, List.mem_singleton] at hm'
        exact ⟨p, r, hplan, hr, hm' ▸ hn⟩
    · exact ih h

end

/-- A message that serves an inquiry within what is configured. Its request stands below the base
URL and uses, for the identifier as it was given, one capability of the coin of the inquiry; the
chain has that capability; and the request can be read in no other way. The indexer sees it so
wherever the base URL leaves the path and the query to the request. -/
structure Confined (specs : List ChainSpec) (base front : String) (i : Inquiry) (m : Message)
    (spec : ChainSpec) (capability : Capability) : Prop where
  listed : spec ∈ specs
  coin : spec.coin = lower i.coin
  configured : spec.capabilities.has capability = true
  url : m.request.url = s!"{base}/{m.request.path}"
  path : path? (segmentsOf m.request.path) = some m.request.path
  uses : ∃ x ∈ i.identifier,
    Uses spec.coin x capability (segmentsOf m.request.path) m.request.params
  only : ∀ coin x other, Uses coin x other (segmentsOf m.request.path) m.request.params →
    coin = spec.coin ∧ other = capability
  seen : '?' ∉ base.toList → '#' ∉ base.toList →
    m.target = front ++ "/" ++ m.request.path ∧ m.params = m.request.params

theorem baseUrl_make (d : Client.Defaults) (baseUrl token : Option String)
    (timeout : Option Number.Binary64) : (Client.make d baseUrl token timeout).baseUrl =
      nonEmpty? (some (String.ofList (trimEnd (· = '/')
        ((nonEmpty? baseUrl <|> nonEmpty? d.baseUrl).getD "").toList))) := by
  simp only [Client.make]

theorem base_of_make {d : Client.Defaults} {baseUrl token : Option String}
    {timeout : Option Number.Binary64} {base : String}
    (h : (Client.make d baseUrl token timeout).baseUrl = some base)
    (hquery : '?' ∉ base.toList) (hfragment : '#' ∉ base.toList) : Url.Base base.toList := by
  refine ⟨hquery, hfragment, ?_⟩
  rw [baseUrl_make] at h
  have hbase := eq_of_nonEmpty?_eq_some h
  rw [← Option.some.inj hbase, String.toList_ofList]
  exact getLast?_trimEnd_ne (by decide) _

/-- The chain and the call behind a plan on the chains of a list. -/
theorem exists_spec_of_plan {specs : List ChainSpec} {pageSize memoLength : Int} {i : Inquiry}
    {p : Plan Unit} (hlower : ∀ spec ∈ specs, lower spec.coin = spec.coin)
    (h : (onCalls (registrations specs) pageSize memoLength).plan i = .ok p) :
    ∃ spec ∈ specs, ∃ x, p.platform.coin = spec.coin ∧ spec.coin = lower i.coin ∧
      spec.capabilities.has (needed i.kind (spoken i.token)) = true ∧ i.identifier = some x ∧
      p.call = callFor pageSize x i.kind (spoken i.token) := by
  obtain ⟨x, enabled, hx, hcoin, hoffers, hcall⟩ := asked_of_plan _ pageSize memoLength h
  obtain ⟨before, after, hcalls, -⟩ := hcoin.first
  have hmem : (p.platform, enabled) ∈ registrations specs := by
    rw [hcalls]
    exact List.mem_append_right before List.mem_cons_self
  obtain ⟨spec, hspec, heq⟩ := List.mem_map.mp hmem
  obtain ⟨hplatform, henabled⟩ := Prod.mk.inj heq
  have hnamed := hcoin.named
  rw [← hplatform] at hnamed
  refine ⟨spec, hspec, x, by rw [← hplatform]; rfl, ?_, ?_, hx, hcall⟩
  · rw [← hlower spec hspec]
    exact hnamed
  · exact hoffers.2 spec.capabilities henabled.symm

theorem segments_cons (coin : String) (call : Call) :
    ∃ rest, segments coin call = coin :: rest := by
  cases call <;> exact ⟨_, rfl⟩

/-- What the indexer sees before the path of a request is the same for all requests of a client. -/
theorem exists_front_of_make (d : Client.Defaults) (baseUrl token : Option String)
    (timeout : Option Number.Binary64) :
    ∃ front : String, ∀ r m, (Client.make d baseUrl token timeout).baseUrl = some r.baseUrl →
      '?' ∉ r.baseUrl.toList → '#' ∉ r.baseUrl.toList → Url.Below r.path.toList →
      Message.ofRequest r = .ok m →
      m.target = front ++ "/" ++ r.path ∧ m.params = groupFields r.params := by
  cases hbase : (Client.make d baseUrl token timeout).baseUrl with
  | none =>
    refine ⟨"", fun r m h => ?_⟩
    simp only [reduceCtorEq] at h
  | some base =>
    by_cases hmarks : '?' ∉ base.toList ∧ '#' ∉ base.toList
    · obtain ⟨front, hfront⟩ := Message.exists_front (base_of_make hbase hmarks.1 hmarks.2)
      refine ⟨front, fun r m h _ _ hpath hm => ?_⟩
      exact hfront r m (Option.some.inj h).symm hpath hm
    · refine ⟨"", fun r m h hquery hfragment => ?_⟩
      rw [Option.some.inj h] at hmarks
      exact absurd ⟨hquery, hfragment⟩ hmarks

/-- From the text that lists the chains to the wire: whatever is asked, in whatever order and with
whatever texts, the indexer receives only messages that stay within the capabilities listed for the
coin that was asked about. -/
theorem requests_confined (text : String) (d : Client.Defaults) (baseUrl token : Option String)
    (timeout : Option Number.Binary64) (pageSize memoLength : Int) :
    ∃ registry lines front,
      registryOf (ChainSpec.parseList text).1 = .ok (registry, lines) ∧
      ∀ indexer c is,
        (is.foldl (serve ⟨registry, pageSize, memoLength⟩ indexer
            (.make d baseUrl token timeout)) c).sent =
          c.sent ++ (dispatched ⟨registry, pageSize, memoLength⟩ indexer
            (.make d baseUrl token timeout) c is).map (·.2) ∧
        ∀ i m, (i, m) ∈ dispatched ⟨registry, pageSize, memoLength⟩ indexer
            (.make d baseUrl token timeout) c is →
          ∃ base spec capability,
            (Client.make d baseUrl token timeout).baseUrl = some base ∧
            Confined (ChainSpec.parseList text).1 base front i m spec capability := by
  obtain ⟨lines, hregistry⟩ := registryOf_parseList text
  obtain ⟨front, hfront⟩ := exists_front_of_make d baseUrl token timeout
  refine ⟨_, lines, front, hregistry, fun indexer c is => ⟨sent_foldl_serve _ _ _ c is, ?_⟩⟩
  intro i m hm
  obtain ⟨p, r, hplan, hr, hmessage⟩ := exists_plan_of_mem_dispatched _ _ _ hm
  obtain ⟨spec, hspec, x, hplatform, hcoin, hhas, hx, hcall⟩ :=
    exists_spec_of_plan (fun _ h => ChainSpec.lower_coin_of_mem_parseList h) hplan
  obtain ⟨hbase, hpath, hparams⟩ := eq_of_request_eq_ok hr
  obtain ⟨hrequest, -, -⟩ := Message.eq_of_ofRequest_eq_ok hmessage
  rw [hplatform] at hpath
  -- The path reads as the segments it was made of, so the request uses what the call asks for.
  obtain ⟨rest, hsegments⟩ := segments_cons spec.coin p.call
  have hread : segmentsOf r.path = segments spec.coin p.call :=
    segmentsOf_path hpath (by rw [hsegments]; exact List.cons_ne_nil _ rest)
  have hbelow : Url.Below r.path.toList := by
    rw [hsegments] at hpath
    exact below_path hpath (ChainSpec.coin_ne_of_mem_parseList hspec)
  have huses : Uses spec.coin x (needed i.kind (spoken i.token)) (segmentsOf r.path) r.params := by
    rw [hread, hparams, hcall]
    exact uses_callFor spec.coin x pageSize i.kind (spoken i.token)
  refine ⟨r.baseUrl, spec, needed i.kind (spoken i.token), hbase, ?_⟩
  exact {
    listed := hspec
    coin := hcoin
    configured := hhas
    url := by rw [hrequest]; rfl
    path := by rw [hrequest, hread]; exact hpath
    uses := ⟨x, hx, by rw [hrequest]; exact huses⟩
    only := by
      intro coin y other hother
      rw [hrequest] at hother
      obtain ⟨hcoin, -, hother⟩ := huses.unique hother
      exact ⟨hcoin, hother⟩
    seen := by
      intro hquery hfragment
      obtain ⟨htarget, hfields⟩ := hfront r m hbase hquery hfragment hbelow hmessage
      rw [hrequest]
      exact ⟨htarget, by rw [hfields, huses.groupFields_params]⟩ }

-- A chain with addresses alone: the crafted address stays one segment, and neither the token nor
-- the account is asked about.
example : (dispatched ⟨.afterCalls (registrations (ChainSpec.parseList "btc=0:tx").1), 25, 10⟩
    (fun _ _ => .unreachable "") (.make ⟨none, none, .nan⟩ (some "http://indexer/v1/") none none) {}
    [⟨.address, "BTC", some "account/x?token=t", none⟩, ⟨.address, "btc", some "x", some "t"⟩,
      ⟨.account, "btc", some "x", none⟩]).map (fun p => (p.2.target, p.2.params)) =
    [("/v1/btc/transactions/account%2Fx%3Ftoken%3Dt", [])] := by
  decide +kernel

end ChainHistory.Indexer
