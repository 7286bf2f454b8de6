import ChainHistory.Proofs.IndexerCall
import ChainHistory.Proofs.PageStages
import ChainHistory.Proofs.ServiceDecision

/-! The token of a query. It is cleaned where the query is made and again where the call is picked,
and the page looks at it a third time; all three take it for the same text or for none. -/

namespace ChainHistory.Service

open Text

variable {H : Type}

/-- The records that may be shown of an address: the first of each id with a memo that is shown,
newest first. No token is looked at. -/
def showable (memoLength : Int) (rs : List Record) : List Record :=
  Page.keepMemos (Record.memoValid memoLength) (Page.newestFirst (Page.firstOfEachId rs))

/-- The call asks about an address, and for the token if it says something. -/
structure AsksFor (x : String) (token : Option String) (c : Call) : Prop where
  identifier : Indexer.identifier c = x
  capability : c.capability = needed .address (spoken token)
  sent : ∀ t, ("token", t) ∈ Indexer.params c ↔ spoken token = some t

/-- The page shows the records of a reply by the token that the call sends: without one, all that
may be shown, and with one, those that have this very text. -/
structure ShowsBy (pageSize memoLength : Int) (x : String) (c : Call) (rs : List Record)
    (page : Page) : Prop where
  whole : c.capability = .tx →
    page.docs = Page.annotate x (Page.truncate pageSize (showable memoLength rs))
  filtered : ∀ t, ("token", t) ∈ Indexer.params c →
    page.docs = Page.annotate x (Page.truncate pageSize
      ((showable memoLength rs).filter fun r => r.tokenId = some t))
  tokens : ∀ t, ("token", t) ∈ Indexer.params c → ∀ d ∈ page.docs, d.tokenId = some t

/-- An address is given, and the chain is known and can be asked as the token wants it. -/
def CanAsk (s : Service H) (coin : String) (identifier token : Option String) : Prop :=
  ∃ x ∈ identifier, strip x ≠ "" ∧ ∃ r, s.registry.registration coin = .ok r ∧
    r.capabilities.supported.has (needed .address (spoken token)) = true

/-- What becomes of a query about an address, and which calls platforms have received then. -/
inductive AddressRun (s : Service H)
    (reply : Received H → Platform H → Call → Except Failure (List Record)) (log : Received H)
    (coin : String) (identifier token : Option String) : Except Failure Page → Received H → Prop
  | refused (e : Failure) (h : ¬ CanAsk s coin identifier token) :
      AddressRun s reply log coin identifier token (.error e) log
  | failed {x : String} {p : Platform H} {c : Call} {e : Failure} (hx : identifier = some x)
      (hc : AsksFor x token c) (hreply : reply log p c = .error e) :
      AddressRun s reply log coin identifier token (.error e) (log ++ [(p, c)])
  | answered {x : String} {p : Platform H} {c : Call} {rs : List Record} {page : Page}
      (hx : identifier = some x) (hc : AsksFor x token c) (hreply : reply log p c = .ok rs)
      (hpage : ShowsBy s.pageSize s.memoLength x c rs page) :
      AddressRun s reply log coin identifier token (.ok page) (log ++ [(p, c)])

theorem ne_of_spoken_eq_some {token : Option String} {t : String} (h : spoken token = some t) :
    t ≠ "" := by
  have hkept := (Option.filter_eq_some_iff.mp h).2
  simpa using hkept

theorem asksFor_callFor (pageSize : Int) (x : String) (token : Option String) :
    AsksFor x token (callFor pageSize x .address (spoken token)) := by
  cases h : spoken token with
  | none =>
    refine ⟨rfl, by rw [h]; rfl, fun t => ?_⟩
    simp only [callFor, Indexer.params, List.not_mem_nil, h, reduceCtorEq]
  | some t =>
    refine ⟨rfl, by rw [h]; rfl, fun t' => ?_⟩
    simp only [callFor, Indexer.params, List.mem_singleton, Prod.mk.injEq, true_and, h,
      Option.some.injEq, eq_comm]

theorem tokenId_of_mem_docs {limit : Int} {x t : String} {rs : List Record} {d : Record}
    (h : d ∈ Page.annotate x (Page.truncate limit (Page.keepToken t rs))) :
    d.tokenId = some t := by
  obtain ⟨r, hr, rfl⟩ := List.mem_map.mp h
  have hkept : r ∈ Page.keepToken t rs := (Page.truncate_sublist limit _).subset hr
  exact of_decide_eq_true (List.mem_filter.mp hkept).2

/-- A token filter looks for the text that the call sends, and there is none where no text is
sent. -/
theorem showsBy_callFor (pageSize memoLength : Int) (x : String) (token : Option String)
    (rs : List Record) : ShowsBy pageSize memoLength x
      (callFor pageSize x .address (spoken token)) rs
      (pageFor pageSize memoLength x .address (spoken token) rs) := by
  cases h : spoken token with
  | none =>
    refine ⟨fun _ => rfl, fun t ht => ?_, fun t ht => ?_⟩ <;> exact absurd ht List.not_mem_nil
  | some t =>
    have hdocs : (pageFor pageSize memoLength x .address (some t) rs).docs =
        Page.annotate x (Page.truncate pageSize (Page.keepToken t (showable memoLength rs))) := by
      simp only [pageFor, Page.ofAddress, Page.keepActiveToken,
        nonEmpty?_of_ne (ne_of_spoken_eq_some h), showable]
    have hsent {t' : String} (ht : ("token", t') ∈ Indexer.params (.token x t)) : t' = t :=
      (Prod.mk.inj (List.mem_singleton.mp ht)).2
    refine ⟨fun hc => ?_, fun t' ht => ?_, fun t' ht d hd => ?_⟩
    · cases hc
    · rw [hsent ht]
      exact hdocs
    · rw [hsent ht]
      rw [hdocs] at hd
      exact tokenId_of_mem_docs hd

theorem exists_plan_of_canAsk {s : Service H} {coin : String} {identifier token : Option String}
    (h : CanAsk s coin identifier token) :
    ∃ p, s.plan ⟨.address, coin, identifier, token⟩ = .ok p := by
  obtain ⟨x, hx, hne, r, hr, hhas⟩ := h
  have hquery : (Inquiry.mk .address coin identifier token).query =
      .ok (queryFor x .address (spoken token)) := query_of_ne hx hne
  have hresolve : (queryFor x .address (spoken token)).resolve s.pageSize r.capabilities =
      .ok (callFor s.pageSize x .address (spoken token)) := by
    rw [Query.resolve, call_queryFor, capability_callFor, if_pos hhas]
  simp only [plan, hquery, hr, hresolve, bind, Except.bind, pure, Except.pure, Except.ok.injEq,
    exists_eq']

theorem addressRun_answer (s : Service H) (coin : String) (identifier token : Option String)
    (reply : Received H → Platform H → Call → Except Failure (List Record)) (log : Received H) :
    AddressRun s reply log coin identifier token
      (s.answer (noting reply) ⟨.address, coin, identifier, token⟩ log).1
      (s.answer (noting reply) ⟨.address, coin, identifier, token⟩ log).2 := by
  -- A query without a plan reaches no platform; with one, the platform receives its call and the
  -- reply decides.
  unfold answer
  cases hplan : s.plan ⟨.address, coin, identifier, token⟩ with
  | error e =>
    refine .refused e fun h => ?_
    obtain ⟨p, hp⟩ := exists_plan_of_canAsk h
    rw [hplan] at hp
    cases hp
  | ok p =>
    obtain ⟨x, hx, hquery, hcall⟩ := exists_of_plan_eq_ok hplan
    have hasks : AsksFor x token p.call := by
      rw [hcall]
      exact asksFor_callFor s.pageSize x token
    show AddressRun s reply log coin identifier token
      ((reply log p.platform p.call).map (s.page p.query)) (log ++ [(p.platform, p.call)])
    cases hreply : reply log p.platform p.call with
    | error e => exact .failed hx hasks hreply
    | ok rs =>
      refine .answered hx hasks hreply ?_
      rw [hquery, hcall]
      exact showsBy_callFor s.pageSize s.memoLength x token rs

/-- Queries whose tokens are the same once they are clean are answered alike. -/
theorem answer_of_clean_eq (s : Service H) {m : Type → Type} [Monad m]
    (fetch : Platform H → Call → m (Except Failure (List Record))) (kind : IdentifierKind)
    (coin : String) (identifier : Option String) {token token' : Option String}
    (h : clean token = clean token') :
    s.answer fetch ⟨kind, coin, identifier, token⟩ =
      s.answer fetch ⟨kind, coin, identifier, token'⟩ := by
  -- The token is cleaned before anything looks at it, and the plan is all that the run needs.
  have hplan : s.plan ⟨kind, coin, identifier, token⟩ =
      s.plan ⟨kind, coin, identifier, token'⟩ := by
    simp only [plan, Inquiry.query, h]
  rw [answer, answer, hplan]

/-- The three places agree on the token. A query about an address calls for the token, and shows by
it, or does neither; and to no query does it matter what blanks stand around its token, or whether a
blank token is there. -/
theorem token_is_one_text (s : Service H) (coin : String) (identifier token : Option String)
    {front back : String} (hfront : isBlankText front = true) (hback : isBlankText back = true) :
    (∀ reply log, AddressRun s reply log coin identifier token
        (s.answer (noting reply) ⟨.address, coin, identifier, token⟩ log).1
        (s.answer (noting reply) ⟨.address, coin, identifier, token⟩ log).2) ∧
      ∀ {m : Type → Type} [Monad m]
        (fetch : Platform H → Call → m (Except Failure (List Record))) (kind : IdentifierKind),
        (∀ t, s.answer fetch ⟨kind, coin, identifier, some (front ++ t ++ back)⟩ =
            s.answer fetch ⟨kind, coin, identifier, some t⟩) ∧
          s.answer fetch ⟨kind, coin, identifier, some front⟩ =
            s.answer fetch ⟨kind, coin, identifier, none⟩ := by
  refine ⟨addressRun_answer s coin identifier token, fun fetch kind => ⟨fun t => ?_, ?_⟩⟩
  · exact answer_of_clean_eq s fetch kind coin identifier (clean_append hfront hback t)
  · exact answer_of_clean_eq s fetch kind coin identifier (clean_of_blank hfront)

/-- A chain that can be asked with and without a token. -/
def withTokens : Service Unit :=
  ⟨.afterCalls [(⟨"tron", 195, .every, ()⟩, none)], 25, 256⟩

/-- A platform that answers every call with one transfer of a token. -/
def transfers (_ : Received Unit) (_ : Platform Unit) (_ : Call) : Except Failure (List Record) :=
  .ok [{ id := "1", coin := 195, timestamp := 1, tokenId := some "t" }]

/-- A token between an em space and a line feed. -/
theorem token_is_one_text_of_padded :
    isBlankText "\u2003" = true ∧ isBlankText "\n" = true ∧
      withTokens.answer (noting transfers)
          ⟨.address, "TRON", some "a", some ("\u2003" ++ "t" ++ "\n")⟩ =
        withTokens.answer (noting transfers) ⟨.address, "TRON", some "a", some "t"⟩ ∧
      ((withTokens.answer (noting transfers) ⟨.address, "TRON", some "a", some "t"⟩ []).1.map
        fun page => page.docs.map (·.id)) = .ok ["1"] := by
  have hfront : isBlankText "\u2003" = true := by decide
  have hback : isBlankText "\n" = true := by decide
  have hpadded := ((token_is_one_text withTokens "TRON" (some "a") none hfront hback).2
    (noting transfers) .address).1 "t"
  exact ⟨hfront, hback, hpadded, by decide +kernel⟩

-- A space without width is no blank, and such a token is looked for as it is.
example : spoken (some "\u200b") = some "\u200b" := by decide

end ChainHistory.Service
