import ChainHistory.Proofs.Confinement
import ChainHistory.Proofs.IntegerText
import Mathlib.Data.String.Basic

namespace ChainHistory.Indexer

open Text

/-- Calls that ask the same. An account call may ask for no token by an empty one. -/
inductive Alike : Call → Call → Prop
  | tx (x : String) : Alike (.tx x) (.tx x)
  | token (x t : String) : Alike (.token x t) (.token x t)
  | account (x : String) (limit : Int) {token token' : Option String}
      (h : nonEmpty? token = nonEmpty? token') :
      Alike (.account x token limit) (.account x token' limit)
  | xpub (x : String) : Alike (.xpub x) (.xpub x)

theorem Alike.segments_eq {call call' : Call} (h : Alike call call') (coin : String) :
    segments coin call = segments coin call' := by
  cases h <;> rfl

theorem Alike.params_eq {call call' : Call} (h : Alike call call') :
    params call = params call' := by
  cases h with
  | account x limit h => simp only [params, h]
  | _ => rfl

theorem params_pairwise (call : Call) : (params call).Pairwise fun f g => f.1 < g.1 := by
  have hnames : "limit" < "token" := by decide
  cases call with
  | account x token limit =>
    simp only [params]
    cases nonEmpty? token with
    | none => exact List.pairwise_singleton _ _
    | some t => exact List.pairwise_pair.mpr hnames
  | _ => simp only [params, List.Pairwise.nil, List.pairwise_singleton]

/-- The names of the parameters stand in order, so that their order tells nothing. -/
theorem params_eq_of_perm {call call' : Call} (h : (params call).Perm (params call')) :
    params call = params call' := by
  apply h.eq_of_pairwise _ (params_pairwise call) (params_pairwise call')
  intro f g _ _ hfg hgf
  exact absurd (lt_trans hfg hgf) (lt_irrefl f.1)

theorem lookup_limit_params (x : String) (token : Option String) (limit : Int) :
    (params (.account x token limit)).lookup "limit" = some (toString limit) :=
  List.lookup_cons_self

theorem lookup_token_params (x : String) (token : Option String) (limit : Int) :
    (params (.account x token limit)).lookup "token" = nonEmpty? token := by
  simp only [params]
  cases nonEmpty? token <;> rfl

theorem alike_of_account {x : String} {token token' : Option String} {limit limit' : Int}
    (h : params (.account x token limit) = params (.account x token' limit')) :
    Alike (.account x token limit) (.account x token' limit') := by
  have hlimit : toString limit = toString limit' := by
    have hlookup := congrArg (List.lookup "limit") h
    rw [lookup_limit_params, lookup_limit_params] at hlookup
    exact Option.some.inj hlookup
  have htoken : nonEmpty? token = nonEmpty? token' := by
    have hlookup := congrArg (List.lookup "token") h
    rwa [lookup_token_params, lookup_token_params] at hlookup
  obtain rfl := Number.toString_int_injective hlimit
  exact .account x limit htoken

theorem alike_of_params_eq {call call' : Call} (hidentifier : identifier call = identifier call')
    (hcapability : call.capability = call'.capability) (hparams : params call = params call') :
    Alike call call' := by
  -- Calls of different capabilities are no case; of one capability, the parameters decide.
  cases call with
  | tx x =>
    cases call' with
    | tx x' =>
      obtain rfl : x = x' := hidentifier
      exact .tx x
    | _ => cases hcapability
  | token x t =>
    cases call' with
    | token x' t' =>
      obtain rfl : x = x' := hidentifier
      obtain rfl : t = t' := by simpa [params] using hparams
      exact .token x t
    | _ => cases hcapability
  | account x token limit =>
    cases call' with
    | account x' token' limit' =>
      obtain rfl : x = x' := hidentifier
      exact alike_of_account hparams
    | _ => cases hcapability
  | xpub x =>
    cases call' with
    | xpub x' =>
      obtain rfl : x = x' := hidentifier
      exact .xpub x
    | _ => cases hcapability

theorem alike_of_segments_eq {coin coin' : String} {call call' : Call}
    (hsegments : segments coin call = segments coin' call')
    (hparams : (params call).Perm (params call')) : coin = coin' ∧ Alike call call' := by
  have hsame := params_eq_of_perm hparams
  have huses := uses_call coin call
  rw [hsegments, hsame] at huses
  obtain ⟨hcoin, hidentifier, hcapability⟩ := (uses_call coin' call').unique huses
  exact ⟨hcoin, alike_of_params_eq hidentifier hcapability hsame⟩

theorem segments_ne_nil (coin : String) (call : Call) : segments coin call ≠ [] := by
  obtain ⟨rest, h⟩ := segments_cons coin call
  rw [h]
  exact List.cons_ne_nil coin rest

/-- A path is read as the segments that it was made of, whatever texts they are. -/
theorem same_path_iff_alike {coin coin' : String} {call call' : Call} {path path' : String}
    (h : path? (segments coin call) = some path)
    (h' : path? (segments coin' call') = some path') :
    path = path' ∧ (params call).Perm (params call') ↔ coin = coin' ∧ Alike call call' := by
  constructor
  · rintro ⟨rfl, hparams⟩
    have hread := segmentsOf_path h (segments_ne_nil coin call)
    have hread' := segmentsOf_path h' (segments_ne_nil coin' call')
    exact alike_of_segments_eq (hread.symm.trans hread') hparams
  · rintro ⟨rfl, halike⟩
    rw [halike.segments_eq, h'] at h
    exact ⟨(Option.some.inj h).symm, halike.params_eq ▸ List.Perm.refl _⟩

section

variable {indexer indexer' : Behaviour} {client client' : Client} {p p' : Platform Unit}
  {call call' : Call} {c c' : Conversation} {m m' : Message}

theorem request_of_sent (h : (fetch indexer client p call c).2.sent = c.sent ++ [m]) :
    request client p.coin call = .ok m.request ∧ Message.ofRequest m.request = .ok m := by
  rcases sent_fetch indexer client p call c with hnone | ⟨r, n, hr, hn, hsent⟩
  · rw [hnone, List.self_eq_append_right] at h
    exact absurd h (List.cons_ne_nil m [])
  · rw [hsent, List.append_cancel_left_eq] at h
    obtain rfl : n = m := List.singleton_inj.mp h
    obtain ⟨hrequest, -, -⟩ := Message.eq_of_ofRequest_eq_ok hn
    rw [hrequest]
    exact ⟨hr, hn⟩

/-- Below one base, what the indexer sees of a message tells the path and the parameters of its
request. -/
theorem exists_front_of_sent {base : String} (hbase : Url.Base base.toList) :
    ∃ front : String, ∀ {indexer client p call c m},
      (fetch indexer client p call c).2.sent = c.sent ++ [m] → client.baseUrl = some base →
      p.coin ≠ "" →
        m.target = front ++ "/" ++ m.request.path ∧ m.params = m.request.params := by
  obtain ⟨front, hfront⟩ := Message.exists_front hbase
  refine ⟨front, fun {indexer client p call c m} hsent hclient hcoin => ?_⟩
  obtain ⟨hrequest, hmessage⟩ := request_of_sent hsent
  obtain ⟨hrbase, hpath, hparams⟩ := eq_of_request_eq_ok hrequest
  have hsame : m.request.baseUrl = base := Option.some.inj (hrbase.symm.trans hclient)
  have hbelow : Url.Below m.request.path.toList := by
    obtain ⟨rest, hsegments⟩ := segments_cons p.coin call
    rw [hsegments] at hpath
    exact below_path hpath hcoin
  obtain ⟨htarget, hseen⟩ := hfront m.request m hsame hbelow hmessage
  -- No name stands twice among the parameters of a call, so grouping them changes nothing.
  have hgroup : groupFields m.request.params = m.request.params := by
    rw [hparams]
    exact (uses_call p.coin call).groupFields_params
  exact ⟨htarget, hseen.trans hgroup⟩

/-- Two messages have the same path below their bases and the same parameters exactly if their
calls ask the same of the same coin. Below one base that ends no path, that is also when the indexer
sees the same. -/
theorem same_message_iff_alike (hsent : (fetch indexer client p call c).2.sent = c.sent ++ [m])
    (hsent' : (fetch indexer' client' p' call' c').2.sent = c'.sent ++ [m']) :
    (m.request.path = m'.request.path ∧ m.request.params.Perm m'.request.params ↔
        p.coin = p'.coin ∧ Alike call call') ∧
      ∀ base, client.baseUrl = some base → client'.baseUrl = some base →
        Url.Base base.toList → p.coin ≠ "" → p'.coin ≠ "" →
        (m.target = m'.target ∧ m.params.Perm m'.params ↔ p.coin = p'.coin ∧ Alike call call') := by
  obtain ⟨-, hpath, hparams⟩ := eq_of_request_eq_ok (request_of_sent hsent).1
  obtain ⟨-, hpath', hparams'⟩ := eq_of_request_eq_ok (request_of_sent hsent').1
  have hrequests : m.request.path = m'.request.path ∧
      m.request.params.Perm m'.request.params ↔ p.coin = p'.coin ∧ Alike call call' := by
    rw [hparams, hparams']
    exact same_path_iff_alike hpath hpath'
  refine ⟨hrequests, fun base hclient hclient' hbase hcoin hcoin' => ?_⟩
  obtain ⟨front, hfront⟩ := exists_front_of_sent hbase
  obtain ⟨htarget, hseen⟩ := hfront hsent hclient hcoin
  obtain ⟨htarget', hseen'⟩ := hfront hsent' hclient' hcoin'
  have htargets : m.target = m'.target ↔ m.request.path = m'.request.path := by
    rw [htarget, htarget']
    exact String.append_right_inj _
  rw [htargets, hseen, hseen']
  exact hrequests

end

/-- The messages that a call about bitcoin sends to an indexer that is down. -/
def sentAlone (call : Call) : List Message :=
  (fetch (fun _ _ => .unreachable "") ⟨some "http://indexer/v1", none, .nan⟩
    ⟨"bitcoin", 0, .every, ()⟩ call {}).2.sent

/-- Without escapes the path of the address would be the path of the extended key. -/
theorem crafted_address_message_ne : ∃ m m', sentAlone (.tx "xpub/k") = [m] ∧
    sentAlone (.xpub "k") = [m'] ∧
    ¬ (m.request.path = m'.request.path ∧ m.request.params.Perm m'.request.params) := by
  have hlength : (sentAlone (.tx "xpub/k")).length = 1 := by decide +kernel
  have hlength' : (sentAlone (.xpub "k")).length = 1 := by decide +kernel
  obtain ⟨m, hm⟩ := List.length_eq_one_iff.mp hlength
  obtain ⟨m', hm'⟩ := List.length_eq_one_iff.mp hlength'
  refine ⟨m, m', hm, hm', fun hsame => ?_⟩
  obtain ⟨-, halike⟩ := (same_message_iff_alike hm hm').1.mp hsame
  cases halike

end ChainHistory.Indexer
