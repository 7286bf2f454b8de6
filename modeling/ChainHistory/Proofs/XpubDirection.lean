import ChainHistory.Proofs.IndexerCall
import ChainHistory.Proofs.PageStages
import ChainHistory.Proofs.ServiceDecision
import ChainHistory.Proofs.Startup

namespace ChainHistory

namespace Page

/-- No record is changed on its way to the page of an extended key. -/
theorem mem_of_mem_ofXpub {limit : Int} {valid : Record → Bool} {rs : List Record} {r : Record}
    (h : r ∈ (ofXpub limit valid rs).docs) : r ∈ rs := by
  rw [ofXpub_eq] at h
  have hranked : r ∈ ranking valid rs := (truncate_sublist limit _).subset h
  exact (firstOfEachId_sublist rs).subset (mem_ranking.mp hranked).1

end Page

namespace Record

/-- A document that says nothing of a direction, or that there is none. -/
def Undirected (doc : Json) : Prop :=
  ∀ fs, doc = .obj fs → fs.lookup "direction" = none ∨ fs.lookup "direction" = some .null

theorem IsRecord.direction_eq_none_iff {coinId : Int} {doc : Json} {r : Record}
    (h : IsRecord coinId doc r) : r.direction = none ↔ Undirected doc := by
  obtain ⟨fs, rfl, hsays⟩ := h
  have hdirection := hsays.direction
  simp only [Undirected, Json.obj.injEq, forall_eq']
  constructor
  · intro hnone
    rw [hnone] at hdirection
    rcases hdirection with ⟨habsent, -⟩ | ⟨v, hv, rfl⟩
    · exact Or.inl habsent
    · exact Or.inr hv
  · rintro (habsent | hnull)
    · rcases hdirection with ⟨-, hnone⟩ | ⟨v, hv, -⟩
      · exact hnone
      · rw [habsent] at hv
        cases hv
    · rcases hdirection with ⟨habsent, -⟩ | ⟨v, hv, hmeans⟩
      · rw [habsent] at hnull
        cases hnull
      · obtain rfl := Option.some.inj (hnull.symm.trans hv)
        cases hd : r.direction with
        | none => rfl
        | some d =>
          rw [hd] at hmeans
          cases hmeans

end Record

namespace Service

open Indexer

variable {i : Inquiry}

theorem exists_xpub_of_query_eq_ok (hkind : i.kind = .xpub) {q : Query} (h : i.query = .ok q) :
    ∃ x, i.identifier = some x ∧ q = .xpub x := by
  obtain ⟨x, hx, hq⟩ := exists_of_query_eq_ok h
  rw [hkind] at hq
  exact ⟨x, hx, hq⟩

end Service

namespace Indexer

theorem exists_of_answer_eq_ok {s : Service Unit} {indexer : Behaviour} {client : Client}
    {c : Conversation} {i : Inquiry} {page : Page}
    (h : (s.answer (fetch indexer client) i c).1 = .ok page) :
    ∃ p rs, s.plan i = .ok p ∧ (fetch indexer client p.platform p.call c).1 = .ok rs ∧
      s.page p.query rs = page := by
  unfold Service.answer at h
  cases hplan : s.plan i with
  | error e =>
    rw [hplan] at h
    cases h
  | ok p =>
    rw [hplan] at h
    obtain ⟨rs, hrs, hpage⟩ := Outcome.exists_of_map h
    exact ⟨p, rs, rfl, hrs, hpage⟩

/-- The page of an extended key shows no direction exactly if no document behind it names one: the
records of the reply are sorted and sieved, and their directions are left as they came. -/
theorem xpub_page_undirected_iff (s : Service Unit) (indexer : Behaviour) (client : Client)
    (c : Conversation) {i : Inquiry} {page : Page} (hkind : i.kind = .xpub)
    (hpage : (s.answer (fetch indexer client) i c).1 = .ok page) :
    ∃ x p r status body v docs rs,
      i.identifier = some x ∧ s.registry.get i.coin = .ok p ∧
      request client p.coin (.xpub x) = .ok r ∧
      indexer c.sent.length r = .response status body ∧ Succeeds status ∧
      Json.ofBytes body = .ok v ∧ HoldsDocuments v docs ∧
      List.Forall₂ (Record.IsRecord p.coinId) docs rs ∧
      page = .ofXpub s.pageSize (Record.memoValid s.memoLength) rs ∧
      ((∀ shown ∈ page.docs, shown.direction = none) ↔
        ∀ doc shown, (doc, shown) ∈ docs.zip rs → shown ∈ page.docs → Record.Undirected doc) := by
  obtain ⟨p, rs, hplan, hfetch, rfl⟩ := exists_of_answer_eq_ok hpage
  obtain ⟨hquery, hget, hcall⟩ := Service.eq_of_plan_eq_ok hplan
  obtain ⟨x, hx, hxpub⟩ := Service.exists_xpub_of_query_eq_ok hkind hquery
  rw [hcall, hxpub] at hfetch
  obtain ⟨r, hrequest, hends⟩ := ends_of_fetch_eq_ok hfetch
  generalize hreply : indexer c.sent.length r = reply at hends
  cases hends with
  | @records status body v docs _ hstatus hbody hdocs hrecords =>
    refine ⟨x, p.platform, r, status, body, v, docs, rs, hx, hget, hrequest, hreply, hstatus, hbody,
      hdocs, hrecords, ?_, ?_⟩
    · rw [hxpub]
      rfl
    · rw [hxpub]
      obtain ⟨hlength, hzip⟩ := List.forall₂_iff_zip.mp hrecords
      -- A shown record is one of those that were read, so there is a document it was read from.
      constructor
      · intro hnone doc shown hmem hshown
        exact (hzip hmem).direction_eq_none_iff.mp (hnone shown hshown)
      · intro hundirected shown hshown
        have hread : shown ∈ (docs.zip rs).map Prod.snd := by
          rw [List.map_snd_zip hlength.ge]
          exact Page.mem_of_mem_ofXpub hshown
        obtain ⟨⟨doc, shown⟩, hmem, rfl⟩ := List.mem_map.mp hread
        exact (hzip hmem).direction_eq_none_iff.mpr (hundirected doc shown hmem hshown)

/-- One chain, which serves extended keys. -/
def bitcoinKeys : Service Unit :=
  ⟨.afterCalls (registrations [⟨"bitcoin", 0, { xpub := true }⟩]), 25, 256⟩

def askBitcoin (body : String) : Except Failure Page :=
  (bitcoinKeys.answer (fetch (fun _ _ => .response 200 body.toUTF8.toList)
    ⟨some "http://indexer.test", none, .nan⟩) ⟨.xpub, "bitcoin", some "k", none⟩ {}).1

/-- Two documents of one transaction, and the second names a direction. -/
def repeatedBody : String :=
  "[\x7b\"id\":\"x\",\"timestamp\":5\x7d," ++
    "\x7b\"id\":\"x\",\"timestamp\":7,\"direction\":\"outgoing\"\x7d]"

def undirectedPage : Page := ⟨[{ id := "x", coin := 0, timestamp := 5 }]⟩

/-- Only the documents that are shown count. -/
theorem xpub_page_of_repeated_body : askBitcoin repeatedBody = .ok undirectedPage ∧
    ∃ v docs rs, Json.ofBytes repeatedBody.toUTF8.toList = .ok v ∧ HoldsDocuments v docs ∧
      undirectedPage = .ofXpub 25 (Record.memoValid 256) rs ∧
      ∀ doc shown, (doc, shown) ∈ docs.zip rs → shown ∈ undirectedPage.docs →
        Record.Undirected doc := by
  have hpage : askBitcoin repeatedBody = .ok undirectedPage := by decide +kernel
  refine ⟨hpage, ?_⟩
  obtain ⟨x, p, r, status, body, v, docs, rs, -, -, -, hreply, -, hbody, hdocs, -, hshown, hiff⟩ :=
    xpub_page_undirected_iff bitcoinKeys _ _ {} rfl hpage
  obtain ⟨-, rfl⟩ := Reply.response.inj hreply
  exact ⟨v, docs, rs, hbody, hdocs, hshown, hiff.mp (by decide)⟩

/-- A direction that a document names is shown for an extended key. -/
theorem xpub_page_of_outgoing_document :
    (askBitcoin "[\x7b\"id\":\"x\",\"timestamp\":5,\"direction\":\"outgoing\"\x7d]").map
      (fun page => page.docs.map (·.direction)) = .ok [some .outgoing] := by
  decide +kernel

end Indexer

end ChainHistory
