import ChainHistory.Indexer.Remote
import ChainHistory.Proofs.IndexerPath
import ChainHistory.Proofs.RecordFields

/-! What a call to the indexer comes to. The cases exclude one another, and the first thing that is
wrong decides: the base URL, a segment of dots, the exchange, the status, the body, a document. -/

namespace ChainHistory.Indexer

open Text

/-- The text of a call that names what is asked about. -/
def identifier : Call → String
  | .tx x => x
  | .token x _ => x
  | .account x _ _ => x
  | .xpub x => x

/-- A URL would resolve the coin or the identifier away. -/
def HasDots (coin : String) (call : Call) : Prop :=
  ∃ s ∈ [coin, identifier call], s = "." ∨ s = ".."

/-- A bad request is put down to what was asked about: an extended key, or else an address. -/
def blamed (call : Call) : FailureKind :=
  if call.capability = .xpub then .invalidKey else .invalidAddress

/-- A body that is an array, or an object with an array under `docs`, holds documents. -/
inductive HoldsDocuments : Json → List Json → Prop
  | array (docs : List Json) : HoldsDocuments (.arr docs) docs
  | object {fields : List (String × Json)} {docs : List Json}
      (h : fields.lookup "docs" = some (.arr docs)) : HoldsDocuments (.obj fields) docs

def Succeeds (status : Int) : Prop := 200 ≤ status ∧ status ≤ 299

/-- What a reply comes to, by the first thing that is wrong with it. -/
inductive Ends (coin : String) (coinId : Int) (call : Call) (path : String) :
    Reply → Except Failure (List Record) → Prop
  | unreachable (words : String) : Ends coin coinId call path (.unreachable words)
      (.error (.reported .sourceUnavailable none))
  | unavailable {status : Int} (body : List UInt8) (h : status = 429 ∨ 500 ≤ status) :
      Ends coin coinId call path (.response status body)
        (.error (.reported .sourceUnavailable none))
  | rejected {status : Int} (body : List UInt8) (h : status = 400 ∨ status = 422) :
      Ends coin coinId call path (.response status body) (.error (.reported (blamed call) none))
  | notFound (body : List UInt8) : Ends coin coinId call path (.response 404 body)
      (.error (.reported .notFound none))
  | unexpected {status : Int} (body : List UInt8) (hfails : ¬ Succeeds status)
      (hother : status ∉ [400, 404, 422, 429]) (hlow : status < 500) :
      Ends coin coinId call path (.response status body)
        (.error (.internal (.unexpectedStatus status)))
  | notJson {status : Int} {body : List UInt8} (hstatus : Succeeds status)
      (hbody : Json.ofBytes body = .error .malformed) :
      Ends coin coinId call path (.response status body) (.error (.internal (.invalidJson path)))
  | noDocuments {status : Int} {body : List UInt8} {v : Json} (hstatus : Succeeds status)
      (hbody : Json.ofBytes body = .ok v) (hnone : ∀ docs, ¬ HoldsDocuments v docs) :
      Ends coin coinId call path (.response status body)
        (.error (.internal (.unexpectedPayload path)))
  | badDocument {status : Int} {body : List UInt8} {v doc : Json} {front back : List Json}
      {fault : Record.DocumentFault} (hstatus : Succeeds status)
      (hbody : Json.ofBytes body = .ok v) (hdocs : HoldsDocuments v (front ++ doc :: back))
      (hfront : ∀ d ∈ front, ∃ r, Record.IsRecord coinId d r)
      (hdoc : ∀ r, ¬ Record.IsRecord coinId doc r)
      (hfault : Record.ofDocument coinId doc = .error fault) :
      Ends coin coinId call path (.response status body)
        (.error (.internal (.malformedRecord coin fault)))
  | records {status : Int} {body : List UInt8} {v : Json} {docs : List Json} {rs : List Record}
      (hstatus : Succeeds status) (hbody : Json.ofBytes body = .ok v)
      (hdocs : HoldsDocuments v docs) (hrecords : List.Forall₂ (Record.IsRecord coinId) docs rs) :
      Ends coin coinId call path (.response status body) (.ok rs)

theorem invalidKind_eq_blamed (call : Call) : invalidKind call = blamed call := by
  cases call <;> rfl

theorem ofStatus_of_unavailable {invalid : FailureKind} {status : Int}
    (h : status = 429 ∨ 500 ≤ status) :
    ofStatus invalid status = .reported .sourceUnavailable none := by
  have hbad : ¬ (status = 400 ∨ status = 422) := by omega
  have hfound : status ≠ 404 := by omega
  rw [ofStatus, if_neg hbad, if_neg hfound, if_pos h.symm]

theorem ofStatus_of_other {invalid : FailureKind} {status : Int}
    (hother : status ∉ [400, 404, 422, 429]) (hlow : status < 500) :
    ofStatus invalid status = .internal (.unexpectedStatus status) := by
  simp only [List.mem_cons, List.not_mem_nil, or_false, not_or] at hother
  have hbad : ¬ (status = 400 ∨ status = 422) := by omega
  have hbusy : ¬ (500 ≤ status ∨ status = 429) := by omega
  rw [ofStatus, if_neg hbad, if_neg hother.2.1, if_neg hbusy]

theorem interpret_of_not_succeeds {coin : String} {coinId : Int} {call : Call} {path : String}
    {status : Int} {body : List UInt8} (h : ¬ Succeeds status) :
    interpret coin coinId call path (.response status body) =
      .error (ofStatus (blamed call) status) := by
  rw [Succeeds] at h
  rw [interpret, if_neg h, invalidKind_eq_blamed]

theorem interpret_of_succeeds {coin : String} {coinId : Int} {call : Call} {path : String}
    {status : Int} {body : List UInt8} (h : Succeeds status) :
    interpret coin coinId call path (.response status body) =
      (documents path body).bind fun docs => recordsOf coin coinId (.arr docs) := by
  rw [Succeeds] at h
  rw [interpret, if_pos h]

theorem documents_of_holds {path : String} {body : List UInt8} {v : Json} {docs : List Json}
    (hbody : Json.ofBytes body = .ok v) (hdocs : HoldsDocuments v docs) :
    documents path body = .ok docs := by
  cases hdocs with
  | array => simp only [documents, hbody]
  | object h => simp only [documents, hbody, h]

theorem documents_of_holds_none {path : String} {body : List UInt8} {v : Json}
    (hbody : Json.ofBytes body = .ok v) (hnone : ∀ docs, ¬ HoldsDocuments v docs) :
    documents path body = .error (.internal (.unexpectedPayload path)) := by
  cases v with
  | arr docs => exact absurd (.array docs) (hnone docs)
  | obj fields =>
    simp only [documents, hbody]
    split
    · rename_i docs h
      exact absurd (.object h) (hnone docs)
    · rfl
  | _ => simp only [documents, hbody]

theorem recordsOf_arr (coin : String) (coinId : Int) (docs : List Json) :
    recordsOf coin coinId (.arr docs) = (docs.mapM (Record.ofDocument coinId)).mapError
      fun e => .internal (.malformedRecord coin e) := rfl

theorem recordsOf_eq_ok_of_isRecord {coin : String} {coinId : Int} {docs : List Json}
    {rs : List Record} (h : List.Forall₂ (Record.IsRecord coinId) docs rs) :
    recordsOf coin coinId (.arr docs) = .ok rs := by
  have hread : docs.mapM (Record.ofDocument coinId) = .ok rs :=
    Outcome.mapM_eq_ok_iff.mpr (h.imp fun _ _ hr => Record.ofDocument_eq_ok_iff.mpr hr)
  rw [recordsOf_arr, hread]
  rfl

theorem recordsOf_eq_error_of_first {coin : String} {coinId : Int} {front back : List Json}
    {doc : Json} {fault : Record.DocumentFault}
    (hfront : ∀ d ∈ front, ∃ r, Record.IsRecord coinId d r)
    (hfault : Record.ofDocument coinId doc = .error fault) :
    recordsOf coin coinId (.arr (front ++ doc :: back)) =
      .error (.internal (.malformedRecord coin fault)) := by
  have hread : (front ++ doc :: back).mapM (Record.ofDocument coinId) = .error fault := by
    apply Outcome.mapM_eq_error_of_first _ hfault
    intro d hd
    obtain ⟨r, hr⟩ := hfront d hd
    exact ⟨r, Record.ofDocument_eq_ok_iff.mpr hr⟩
  rw [recordsOf_arr, hread]
  rfl

section

variable {coin : String} {coinId : Int} {call : Call} {path : String} {reply : Reply}
  {o : Except Failure (List Record)}

theorem interpret_of_ends (h : Ends coin coinId call path reply o) :
    interpret coin coinId call path reply = o := by
  cases h with
  | unreachable words => rfl
  | unavailable body h =>
    rw [interpret_of_not_succeeds (by unfold Succeeds; omega), ofStatus_of_unavailable h]
  | rejected body h =>
    rw [interpret_of_not_succeeds (by unfold Succeeds; omega), ofStatus, if_pos h]
  | notFound body => rw [interpret_of_not_succeeds (by unfold Succeeds; omega)]; rfl
  | unexpected body hfails hother hlow =>
    rw [interpret_of_not_succeeds hfails, ofStatus_of_other hother hlow]
  | notJson hstatus hbody =>
    rw [interpret_of_succeeds hstatus, documents, hbody]
    rfl
  | noDocuments hstatus hbody hnone =>
    rw [interpret_of_succeeds hstatus, documents_of_holds_none hbody hnone]
    rfl
  | badDocument hstatus hbody hdocs hfront hdoc hfault =>
    rw [interpret_of_succeeds hstatus, documents_of_holds hbody hdocs]
    exact recordsOf_eq_error_of_first hfront hfault
  | records hstatus hbody hdocs hrecords =>
    rw [interpret_of_succeeds hstatus, documents_of_holds hbody hdocs]
    exact recordsOf_eq_ok_of_isRecord hrecords

/-- Nothing goes wrong in an exchange but that the indexer is not reached or that a body is
malformed. -/
structure Regular (reply : Reply) : Prop where
  regular : ∀ e, reply ≠ .failed e
  readable : ∀ status body kind, reply = .response status body → Succeeds status →
    Json.ofBytes body ≠ .error (.tooDeep kind)

theorem exists_ends_of_body {status : Int} {body : List UInt8} (hstatus : Succeeds status)
    (hreadable : ∀ kind, Json.ofBytes body ≠ .error (.tooDeep kind)) :
    ∃ o, Ends coin coinId call path (.response status body) o := by
  cases hbody : Json.ofBytes body with
  | error e =>
    cases e with
    | malformed => exact ⟨_, .notJson hstatus hbody⟩
    | tooDeep kind => exact absurd hbody (hreadable kind)
  | ok v =>
    by_cases hdocs : ∃ docs, HoldsDocuments v docs
    · obtain ⟨docs, hdocs⟩ := hdocs
      cases hread : docs.mapM (Record.ofDocument coinId) with
      | ok rs =>
        have hrecords := (Outcome.mapM_eq_ok_iff.mp hread).imp
          fun _ _ hr => Record.ofDocument_eq_ok_iff.mp hr
        exact ⟨_, .records hstatus hbody hdocs hrecords⟩
      | error fault =>
        -- The documents before the first bad one are records, and it alone says what is wrong.
        obtain ⟨front, doc, back, rfl, hfront, hfault⟩ :=
          Outcome.exists_first_of_mapM_eq_error hread
        refine ⟨_, .badDocument hstatus hbody hdocs ?_ ?_ hfault⟩
        · intro d hd
          obtain ⟨r, hr⟩ := hfront d hd
          exact ⟨r, Record.ofDocument_eq_ok_iff.mp hr⟩
        · intro r hr
          rw [Record.ofDocument_eq_ok_iff.mpr hr] at hfault
          cases hfault
    · rw [not_exists] at hdocs
      exact ⟨_, .noDocuments hstatus hbody hdocs⟩

theorem exists_ends (h : Regular reply) : ∃ o, Ends coin coinId call path reply o := by
  cases reply with
  | unreachable words => exact ⟨_, .unreachable words⟩
  | failed e => exact absurd rfl (h.regular e)
  | response status body =>
    -- The ranges of statuses in the order in which they are looked at.
    by_cases hstatus : Succeeds status
    · exact exists_ends_of_body hstatus fun kind => h.readable status body kind rfl hstatus
    · by_cases hbusy : status = 429 ∨ 500 ≤ status
      · exact ⟨_, .unavailable body hbusy⟩
      · by_cases hbad : status = 400 ∨ status = 422
        · exact ⟨_, .rejected body hbad⟩
        · by_cases hfound : status = 404
          · subst hfound
            exact ⟨_, .notFound body⟩
          · refine ⟨_, .unexpected body hstatus ?_ (by omega)⟩
            simp only [List.mem_cons, List.not_mem_nil, or_false]
            omega

theorem regular_of_interpret_eq_ok {rs : List Record}
    (h : interpret coin coinId call path reply = .ok rs) : Regular reply := by
  refine ⟨?_, ?_⟩
  · rintro e rfl
    cases h
  · rintro status body kind rfl hstatus hdeep
    rw [interpret_of_succeeds hstatus, documents, hdeep] at h
    cases h

theorem ends_of_interpret_eq_ok {rs : List Record}
    (h : interpret coin coinId call path reply = .ok rs) :
    Ends coin coinId call path reply (.ok rs) := by
  obtain ⟨o, ho⟩ := exists_ends (regular_of_interpret_eq_ok h)
  rw [← h, interpret_of_ends ho]
  exact ho

end

/-- What a call comes to after `earlier` messages, and which messages it sends. -/
inductive Settles (indexer : Behaviour) (client : Client) (p : Platform Unit) (call : Call)
    (earlier : Nat) : Except Failure (List Record) → List Message → Prop
  | noBaseUrl (hbase : client.baseUrl = none) :
      Settles indexer client p call earlier (.error (.internal .noBaseUrl)) []
  | dots {base : String} (hbase : client.baseUrl = some base) (hdots : HasDots p.coin call) :
      Settles indexer client p call earlier (.error (.reported (blamed call) none)) []
  | asked {base : String} {r : Request} {m : Message} {o : Except Failure (List Record)}
      (hbase : client.baseUrl = some base) (hdots : ¬ HasDots p.coin call)
      (hrequest : request client p.coin call = .ok r) (hmessage : Message.ofRequest r = .ok m)
      (hends : Ends p.coin p.coinId call r.path (indexer earlier r) o) :
      Settles indexer client p call earlier o [m]

/-- A request makes a message, and the exchange of the message goes wrong in no way but those that
are foreseen. -/
structure Orderly (indexer : Behaviour) (earlier : Nat) (r : Request) : Prop where
  exists_message : ∃ m, Message.ofRequest r = .ok m ∧ Regular (m.receive (indexer earlier r))

theorem path?_segments_eq_none_iff {coin : String} {call : Call} :
    path? (segments coin call) = none ↔ HasDots coin call := by
  have htransactions : isDots "transactions" = false := by decide
  have haccount : isDots "account" = false := by decide
  have hxpub : isDots "xpub" = false := by decide
  rw [path?_eq_none_iff]
  simp only [← isDots_iff, HasDots]
  cases call <;> simp [segments, identifier, htransactions, haccount, hxpub]

theorem request_of_no_base {client : Client} {coin : String} {call : Call}
    (hbase : client.baseUrl = none) :
    request client coin call = .error (.internal .noBaseUrl) := by
  simp only [request, hbase]

theorem request_of_no_path {client : Client} {coin base : String} {call : Call}
    (hbase : client.baseUrl = some base) (hpath : path? (segments coin call) = none) :
    request client coin call = .error (.reported (invalidKind call) none) := by
  simp only [request, hbase, hpath]

theorem request_of_dots {client : Client} {coin base : String} {call : Call}
    (hbase : client.baseUrl = some base) (hdots : HasDots coin call) :
    request client coin call = .error (.reported (blamed call) none) := by
  rw [request_of_no_path hbase (path?_segments_eq_none_iff.mpr hdots), invalidKind_eq_blamed]

theorem exists_request_of_not_dots {client : Client} {coin base : String} {call : Call}
    (hbase : client.baseUrl = some base) (hdots : ¬ HasDots coin call) :
    ∃ r, request client coin call = .ok r := by
  cases hpath : path? (segments coin call) with
  | none => exact absurd (path?_segments_eq_none_iff.mp hpath) hdots
  | some path => simp only [request, hbase, hpath, Except.ok.injEq, exists_eq']

theorem receive_eq_of_regular {m : Message} {reply : Reply} (h : Regular (m.receive reply)) :
    m.receive reply = reply := by
  cases reply with
  | response status body =>
    by_cases habsolute : m.url.isAbsolute = true
    · simp only [Message.receive, habsolute, if_true]
    · simp only [Message.receive, habsolute] at h
      exact absurd rfl (h.regular _)
  | _ => rfl

theorem sent_connect (c : Conversation) : c.connect.sent = c.sent := by
  unfold Conversation.connect
  split <;> rfl

section

variable {indexer : Behaviour} {client : Client} {p : Platform Unit} {call : Call}

theorem fetch_of_refused (c : Conversation) {e : Failure}
    (h : request client p.coin call = .error e) :
    fetch indexer client p call c = (.error e, c) := by
  simp only [fetch, h]

theorem fetch_of_sent (indexer : Behaviour) (c : Conversation) {r : Request} {m : Message}
    (hrequest : request client p.coin call = .ok r) (hmessage : Message.ofRequest r = .ok m) :
    (fetch indexer client p call c).1 =
        interpret p.coin p.coinId call r.path (m.receive (indexer c.sent.length r)) ∧
      (fetch indexer client p call c).2.sent = c.sent ++ [m] := by
  simp only [fetch, hrequest, hmessage, Conversation.log, Conversation.send, sent_connect,
    and_self]

theorem fetch_of_settles {c : Conversation} {o : Except Failure (List Record)}
    {sent : List Message}
    (horderly : ∀ r, request client p.coin call = .ok r → Orderly indexer c.sent.length r)
    (h : Settles indexer client p call c.sent.length o sent) :
    (fetch indexer client p call c).1 = o ∧
      (fetch indexer client p call c).2.sent = c.sent ++ sent := by
  cases h with
  | noBaseUrl hbase =>
    rw [fetch_of_refused c (request_of_no_base hbase), List.append_nil]
    exact ⟨rfl, rfl⟩
  | dots hbase hdots =>
    rw [fetch_of_refused c (request_of_dots hbase hdots), List.append_nil]
    exact ⟨rfl, rfl⟩
  | asked hbase hdots hrequest hmessage hends =>
    obtain ⟨m, hm, hregular⟩ := (horderly _ hrequest).exists_message
    obtain rfl := Except.ok.inj (hm.symm.trans hmessage)
    obtain ⟨hresult, hsent⟩ := fetch_of_sent indexer c hrequest hmessage
    rw [receive_eq_of_regular hregular] at hresult
    exact ⟨hresult.trans (interpret_of_ends hends), hsent⟩

theorem exists_settles (c : Conversation)
    (horderly : ∀ r, request client p.coin call = .ok r → Orderly indexer c.sent.length r) :
    ∃ o sent, Settles indexer client p call c.sent.length o sent := by
  cases hbase : client.baseUrl with
  | none => exact ⟨_, _, .noBaseUrl hbase⟩
  | some base =>
    by_cases hdots : HasDots p.coin call
    · exact ⟨_, _, .dots hbase hdots⟩
    · obtain ⟨r, hrequest⟩ := exists_request_of_not_dots hbase hdots
      obtain ⟨m, hmessage, hregular⟩ := (horderly r hrequest).exists_message
      rw [receive_eq_of_regular hregular] at hregular
      obtain ⟨o, hends⟩ := exists_ends hregular
      exact ⟨o, [m], .asked hbase hdots hrequest hmessage hends⟩

/-- Records come only of a reply that holds them. -/
theorem ends_of_fetch_eq_ok {c : Conversation} {rs : List Record}
    (h : (fetch indexer client p call c).1 = .ok rs) :
    ∃ r, request client p.coin call = .ok r ∧
      Ends p.coin p.coinId call r.path (indexer c.sent.length r) (.ok rs) := by
  cases hrequest : request client p.coin call with
  | error e =>
    rw [fetch_of_refused c hrequest] at h
    cases h
  | ok r =>
    cases hmessage : Message.ofRequest r with
    | error e =>
      simp only [fetch, hrequest, hmessage, reduceCtorEq] at h
    | ok m =>
      rw [(fetch_of_sent indexer c hrequest hmessage).1] at h
      rw [receive_eq_of_regular (regular_of_interpret_eq_ok h)] at h
      exact ⟨r, rfl, ends_of_interpret_eq_ok h⟩

/-- A call comes to what is settled for it and to nothing else: what it returns and the messages it
sends are decided by the first thing that is wrong. -/
theorem call_settles_iff (c : Conversation) (o : Except Failure (List Record))
    (sent : List Message)
    (horderly : ∀ r, request client p.coin call = .ok r → Orderly indexer c.sent.length r) :
    Settles indexer client p call c.sent.length o sent ↔
      (fetch indexer client p call c).1 = o ∧
        (fetch indexer client p call c).2.sent = c.sent ++ sent := by
  refine ⟨fetch_of_settles horderly, ?_⟩
  rintro ⟨rfl, hsent⟩
  -- Something is settled for every call, and a call comes to one thing only.
  obtain ⟨o, sent', h⟩ := exists_settles c horderly
  obtain ⟨hresult, hsent'⟩ := fetch_of_settles horderly h
  rw [hsent', List.append_cancel_left_eq] at hsent
  rw [hresult, ← hsent]
  exact h

end

/-- Two documents, of which the second has no timestamp. -/
def secondUntimed : List UInt8 :=
  "[\x7b\"id\":\"a\",\"timestamp\":1\x7d,\x7b\"id\":\"b\"\x7d]".toUTF8.toList

/-- One request is sent, and the second document decides. -/
theorem call_settles_on_bad_document : ∃ m,
    Settles (fun _ _ => .response 200 secondUntimed) ⟨some "http://indexer/v1", none, .nan⟩
      ⟨"bitcoin", 0, .every, ()⟩ (.xpub "k/1") 0
      (.error (.internal (.malformedRecord "bitcoin"
        (.invalid [⟨"timestamp", none, .missing⟩])))) [m] := by
  have hrequest : request ⟨some "http://indexer/v1", none, .nan⟩ "bitcoin" (.xpub "k/1") = .ok
      ⟨"http://indexer/v1", "bitcoin/transactions/xpub/k%2F1", [], none⟩ := by decide +kernel
  have hmessage : (Message.ofRequest
      ⟨"http://indexer/v1", "bitcoin/transactions/xpub/k%2F1", [], none⟩).map
        (·.url.isAbsolute) = .ok true := by decide +kernel
  have hbody : (Json.ofBytes secondUntimed).isOk = true := by decide +kernel
  have horderly : ∀ r,
      request ⟨some "http://indexer/v1", none, .nan⟩ "bitcoin" (.xpub "k/1") = .ok r →
        Orderly (fun _ _ => .response 200 secondUntimed) 0 r := by
    intro r hr
    obtain rfl := Except.ok.inj (hrequest.symm.trans hr)
    obtain ⟨m, hm, habsolute⟩ := Outcome.exists_of_map hmessage
    refine ⟨m, hm, ?_⟩
    rw [Message.receive, if_pos habsolute]
    refine ⟨fun e => Reply.noConfusion, ?_⟩
    intro status body kind hreply hstatus hdeep
    obtain ⟨rfl, rfl⟩ := Reply.response.inj hreply
    rw [hdeep] at hbody
    cases hbody
  have hsent : ((fetch (fun _ _ => .response 200 secondUntimed)
      ⟨some "http://indexer/v1", none, .nan⟩ ⟨"bitcoin", 0, .every, ()⟩ (.xpub "k/1")
        {}).2.sent).length = 1 := by decide +kernel
  obtain ⟨m, hm⟩ := List.length_eq_one_iff.mp hsent
  exact ⟨m, (call_settles_iff {} _ [m] horderly).mpr ⟨by decide +kernel, hm⟩⟩

end ChainHistory.Indexer
