import ChainHistory.Proofs.AccountPage

namespace ChainHistory.Page

/-- Records that can be shown as they are: each id once, newest first, as many as fit, and none that
a filter would take out. -/
structure Settled (limit : Int) (keep : Record → Bool) (rs : List Record) : Prop
    extends Delivered limit rs where
  kept : ∀ r ∈ rs, keep r = true

theorem settled_take_ranking (keep : Record → Bool) (n : ℕ) (rs : List Record) :
    Settled n keep ((ranking keep rs).take n) := by
  have hsub : ((ranking keep rs).take n).Sublist (ranking keep rs) := List.take_sublist n _
  refine ⟨⟨?_, ?_, ?_⟩, ?_⟩
  · exact (nodup_ids_ranking keep rs).sublist (hsub.map _)
  · exact (ranking_descending keep rs).sublist hsub
  · exact Int.ofNat_le.mpr (List.length_take_le n _)
  · intro r hr
    exact (mem_ranking.mp (hsub.subset hr)).2

section

variable {limit : Int} {keep valid : Record → Bool} {rs : List Record}

theorem Settled.annotate (h : Settled limit keep rs) {address : String}
    (hkeep : ∀ r, keep (r.seenFrom address) = keep r) :
    Settled limit keep (annotate address rs) := by
  refine ⟨h.toDelivered.annotate address, ?_⟩
  intro s hs
  obtain ⟨r, hr, rfl⟩ := List.mem_map.mp hs
  rw [hkeep, h.kept r hr]

theorem annotate_annotate (address : String) (rs : List Record) :
    annotate address (annotate address rs) = annotate address rs := by
  rw [annotate, annotate, List.map_map]
  exact List.map_congr_left fun r _ => seenFrom_seenFrom address r

theorem ranking_of_settled (h : Settled limit keep rs) : ranking keep rs = rs := by
  rw [ranking, firstOfEachId_of_nodup h.ids, List.filter_eq_self.mpr h.kept,
    newestFirst_of_pairwise h.times]

theorem ofXpub_of_settled (h : Settled limit valid rs) : ofXpub limit valid rs = ⟨rs⟩ := by
  rw [ofXpub_eq, ranking_of_settled h, truncate_of_length_le h.size]

theorem ofAddress_of_settled {token : Option String} {address : String}
    (h : Settled limit (passes valid token) rs) :
    ofAddress limit valid token address rs = ⟨annotate address rs⟩ := by
  rw [ofAddress_eq, ranking_of_settled h, truncate_of_length_le h.size]

end

/-- A page that is made again in the same way stays as it is. For an address, the memo rule must not
read the direction, which the page has set. -/
theorem page_of_page (n : ℕ) (valid : Record → Bool) (rs : List Record) :
    ofXpub n valid (ofXpub n valid rs).docs = ofXpub n valid rs ∧
      ((∀ r d, valid { r with direction := d } = valid r) → ∀ token address,
        ofAddress n valid token address (ofAddress n valid token address rs).docs =
          ofAddress n valid token address rs) := by
  constructor
  · have hsettled : Settled n valid (ofXpub n valid rs).docs := by
      rw [docs_ofXpub]
      exact settled_take_ranking valid n rs
    exact ofXpub_of_settled hsettled
  · intro hvalid token address
    have hdocs : (ofAddress n valid token address rs).docs =
        annotate address ((ranking (passes valid token) rs).take n) :=
      docs_ofAddress n valid token address rs
    have hsettled : Settled n (passes valid token) (ofAddress n valid token address rs).docs := by
      rw [hdocs]
      exact (settled_take_ranking (passes valid token) n rs).annotate
        (passes_seenFrom hvalid token address)
    -- The stages leave the docs alone, and the directions come out as they are.
    rw [ofAddress_of_settled hsettled]
    apply eq_of_docs_eq
    rw [hdocs, annotate_annotate]

/-- Two records of one id that differ in time and memo, a tie, and one record too many. -/
def repeated : List Record := [
  { id := "a", coin := 0, timestamp := 7, senders := ["x"], memo := some "ok" },
  { id := "b", coin := 0, timestamp := 7, receivers := ["x"] },
  { id := "a", coin := 0, timestamp := 9, memo := some "long", direction := some .incoming },
  { id := "c", coin := 0, timestamp := 5 }]

theorem page_of_page_of_repeated :
    ofXpub 2 (Record.memoValid 3) (ofXpub 2 (Record.memoValid 3) repeated).docs =
        ofXpub 2 (Record.memoValid 3) repeated ∧
      ofAddress 2 (Record.memoValid 3) none "x"
          (ofAddress 2 (Record.memoValid 3) none "x" repeated).docs =
        ofAddress 2 (Record.memoValid 3) none "x" repeated := by
  have hpages := page_of_page 2 (Record.memoValid 3) repeated
  exact ⟨hpages.1, hpages.2 (fun _ _ => rfl) none "x"⟩

end ChainHistory.Page
