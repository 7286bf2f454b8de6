import ChainHistory.Proofs.PageStages

namespace ChainHistory.Page

/-- What is agreed on the answer to an account call: each id once, newest first, and no more records
than asked for. -/
structure Delivered (limit : Int) (rs : List Record) : Prop where
  ids : (rs.map (·.id)).Nodup
  times : rs.Pairwise fun a b => b.timestamp ≤ a.timestamp
  size : rs.length ≤ limit

theorem Delivered.keepMemos {limit : Int} {rs : List Record} (h : Delivered limit rs)
    (valid : Record → Bool) : Delivered limit (keepMemos valid rs) := by
  have hsub : (Page.keepMemos valid rs).Sublist rs := List.filter_sublist
  refine ⟨h.ids.sublist (hsub.map _), h.times.sublist hsub, ?_⟩
  have hlength := hsub.length_le
  have hsize := h.size
  omega

theorem Delivered.annotate {limit : Int} {rs : List Record} (h : Delivered limit rs)
    (address : String) : Delivered limit (annotate address rs) := by
  refine ⟨?_, ?_, ?_⟩
  · rw [Page.annotate, List.map_map]
    exact h.ids
  · rw [Page.annotate, List.pairwise_map]
    exact h.times
  · rw [Page.annotate, List.length_map]
    exact h.size

/-- From an answer that keeps to what is agreed, an account is shown the page that an address would
be shown, and the page keeps to it too. -/
theorem account_page_of_delivered {limit : Int} {rs : List Record} (h : Delivered limit rs)
    (valid : Record → Bool) (account : String) :
    (∀ token : Option String, (∀ t ∈ token, ∀ r ∈ rs, r.tokenId = some t) →
        ofAccount valid account rs = ofAddress limit valid token account rs) ∧
      Delivered limit (ofAccount valid account rs).docs := by
  have hkept := h.keepMemos valid
  refine ⟨fun token htoken => ?_, hkept.annotate account⟩
  -- Each stage that the account leaves out finds nothing to do.
  have hall : ∀ t ∈ token, ∀ r ∈ keepMemos valid rs, r.tokenId = some t :=
    fun t ht r hr => htoken t ht r (List.mem_filter.mp hr).1
  calc ofAccount valid account rs
      = ⟨annotate account (keepMemos valid rs)⟩ := rfl
    _ = ⟨annotate account (truncate limit (keepActiveToken token (keepMemos valid rs)))⟩ := by
        rw [keepActiveToken_of_forall hall, truncate_of_length_le hkept.size]
    _ = ofAddress limit valid token account rs := by
        rw [ofAddress, firstOfEachId_of_nodup h.ids, newestFirst_of_pairwise h.times]

/-- Two transfers of one token at one time, the first with a memo that is too long, and an older
one. -/
def delivered : List Record := [
  { id := "b", coin := 0, timestamp := 7, senders := ["x"], memo := some "long",
    tokenId := some "t" },
  { id := "a", coin := 0, timestamp := 7, receivers := ["x"], tokenId := some "t" },
  { id := "c", coin := 0, timestamp := 5, senders := ["x"], memo := some "ok", tokenId := some "t" }]

/-- A full answer with a tie, of which a memo hides the first record. -/
theorem account_page_of_tie : Delivered 3 delivered ∧
    ofAccount (Record.memoValid 3) "x" delivered =
      ofAddress 3 (Record.memoValid 3) (some "t") "x" delivered ∧
    (ofAccount (Record.memoValid 3) "x" delivered).docs.map (·.id) = ["a", "c"] := by
  have h : Delivered 3 delivered := ⟨by decide, by decide, by decide⟩
  have htoken : ∀ t ∈ some "t", ∀ r ∈ delivered, r.tokenId = some t := by decide
  exact ⟨h, (account_page_of_delivered h (Record.memoValid 3) "x").1 (some "t") htoken, by decide⟩

end ChainHistory.Page
