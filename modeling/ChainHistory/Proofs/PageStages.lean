import ChainHistory.Proofs.BlankText
import ChainHistory.Proofs.LatestFirst

namespace ChainHistory.Page

theorem eq_of_docs_eq {p q : Page} (h : p.docs = q.docs) : p = q := by
  cases p
  cases q
  exact congrArg Page.mk h

/-- How many records a cut leaves of so many. -/
def kept (limit : Int) (length : ℕ) : ℕ :=
  if 0 ≤ limit then limit.toNat else length - limit.natAbs

theorem truncate_eq_take (limit : Int) (rs : List Record) :
    truncate limit rs = rs.take (kept limit rs.length) := by
  unfold truncate kept
  split <;> rfl

theorem kept_natCast (n length : ℕ) : kept n length = n := by
  rw [kept, if_pos (Int.natCast_nonneg n), Int.toNat_natCast]

theorem truncate_natCast (n : ℕ) (rs : List Record) : truncate n rs = rs.take n := by
  rw [truncate_eq_take, kept_natCast]

theorem truncate_sublist (limit : Int) (rs : List Record) : (truncate limit rs).Sublist rs := by
  rw [truncate_eq_take]
  exact List.take_sublist _ rs

theorem mem_newestFirst {r : Record} {rs : List Record} : r ∈ newestFirst rs ↔ r ∈ rs :=
  (List.mergeSort_perm rs _).mem_iff

/-- The records that a memo rule and a token leave. -/
def passes (valid : Record → Bool) (token : Option String) (r : Record) : Bool :=
  valid r && (token.all fun t => t = "" || r.tokenId = some t)

theorem passes_none (valid : Record → Bool) : passes valid none = valid := by
  funext r
  simp only [passes, Option.all_none, Bool.and_true]

theorem keepActiveToken_keepMemos (valid : Record → Bool) (token : Option String)
    (rs : List Record) :
    keepActiveToken token (keepMemos valid rs) = rs.filter (passes valid token) := by
  cases token with
  | none =>
    change rs.filter valid = _
    apply List.filter_congr
    intro r _
    simp only [passes, Option.all_none, Bool.and_true]
  | some t =>
    by_cases ht : t = ""
    · subst ht
      change rs.filter valid = _
      apply List.filter_congr
      intro r _
      simp only [passes, Option.all_some, decide_true, Bool.true_or, Bool.and_true]
    · simp only [keepActiveToken, Text.nonEmpty?_of_ne ht, keepMemos, keepToken,
        List.filter_filter]
      apply List.filter_congr
      intro r _
      simp only [passes, Option.all_some, ht, decide_false, Bool.false_or, Bool.and_comm]

/-- The one list that both kinds of page cut and show. -/
def ranking (keep : Record → Bool) (rs : List Record) : List Record :=
  newestFirst ((firstOfEachId rs).filter keep)

theorem ofAddress_eq (limit : Int) (valid : Record → Bool) (token : Option String)
    (address : String) (rs : List Record) : ofAddress limit valid token address rs =
      ⟨annotate address (truncate limit (ranking (passes valid token) rs))⟩ := by
  simp only [ofAddress, keepActiveToken_keepMemos, ranking, newestFirst_eq_latestFirst,
    latestFirst_filter]

theorem ofXpub_eq (limit : Int) (valid : Record → Bool) (rs : List Record) :
    ofXpub limit valid rs = ⟨truncate limit (ranking valid rs)⟩ := by
  simp only [ofXpub, keepMemos, ranking, newestFirst_eq_latestFirst, latestFirst_filter]

theorem docs_ofAddress (n : ℕ) (valid : Record → Bool) (token : Option String) (address : String)
    (rs : List Record) : (ofAddress n valid token address rs).docs =
      ((ranking (passes valid token) rs).take n).map (·.seenFrom address) := by
  rw [ofAddress_eq, truncate_natCast, annotate]

theorem docs_ofXpub (n : ℕ) (valid : Record → Bool) (rs : List Record) :
    (ofXpub n valid rs).docs = (ranking valid rs).take n := by
  rw [ofXpub_eq, truncate_natCast]

theorem firstOfEachId_sublist (rs : List Record) : (firstOfEachId rs).Sublist rs := by
  induction rs with
  | nil => exact List.Sublist.slnil
  | cons r rs ih => exact (List.filter_sublist.trans ih).cons_cons r

theorem nodup_ids_firstOfEachId (rs : List Record) : ((firstOfEachId rs).map (·.id)).Nodup := by
  induction rs with
  | nil => exact List.nodup_nil
  | cons r rs ih =>
    rw [firstOfEachId, List.map_cons, List.nodup_cons]
    constructor
    · intro hmem
      obtain ⟨s, hs, hid⟩ := List.mem_map.mp hmem
      have hne : s.id ≠ r.id := by simpa using (List.mem_filter.mp hs).2
      exact hne hid
    · exact ih.sublist (List.filter_sublist.map _)

theorem nodup_firstOfEachId (rs : List Record) : (firstOfEachId rs).Nodup :=
  (nodup_ids_firstOfEachId rs).of_map _

theorem exists_firstOfEachId (rs : List Record) {r : Record} (hr : r ∈ rs) :
    ∃ s ∈ firstOfEachId rs, s.id = r.id := by
  induction rs with
  | nil => exact absurd hr List.not_mem_nil
  | cons q rs ih =>
    by_cases hq : q.id = r.id
    · exact ⟨q, List.mem_cons_self, hq⟩
    · have hmem : r ∈ rs := (List.mem_cons.mp hr).resolve_left fun h => hq (congrArg _ h.symm)
      obtain ⟨s, hs, hid⟩ := ih hmem
      refine ⟨s, List.mem_cons_of_mem q (List.mem_filter.mpr ⟨hs, ?_⟩), hid⟩
      rw [hid]
      exact decide_eq_true (Ne.symm hq)

theorem firstOfEachId_append (xs ys : List Record) : firstOfEachId (xs ++ ys) =
    firstOfEachId xs ++ (firstOfEachId ys).filter fun r => r.id ∉ xs.map (·.id) := by
  induction xs with
  | nil => simp [firstOfEachId]
  | cons x xs ih =>
    simp only [List.cons_append, firstOfEachId, ih, List.filter_append, List.filter_filter,
      List.map_cons, List.mem_cons, not_or, Bool.decide_and]

theorem firstOfEachId_of_nodup {rs : List Record} (h : (rs.map (·.id)).Nodup) :
    firstOfEachId rs = rs := by
  induction rs with
  | nil => rfl
  | cons r rs ih =>
    rw [List.map_cons, List.nodup_cons] at h
    rw [firstOfEachId, ih h.2, List.filter_eq_self.mpr]
    intro s hs
    have hne : s.id ≠ r.id := fun he => h.1 (he ▸ List.mem_map_of_mem hs)
    exact decide_eq_true hne

/-- A change that leaves ids alone may come before or after. -/
theorem firstOfEachId_map {f : Record → Record} (hf : ∀ r, (f r).id = r.id) (rs : List Record) :
    firstOfEachId (rs.map f) = (firstOfEachId rs).map f := by
  induction rs with
  | nil => rfl
  | cons r rs ih =>
    simp only [List.map_cons, firstOfEachId, ih, List.filter_map, hf, Function.comp_def]

theorem newestFirst_map {f : Record → Record} (hf : ∀ r, (f r).timestamp = r.timestamp)
    (rs : List Record) : newestFirst (rs.map f) = (newestFirst rs).map f := by
  rw [newestFirst_eq_latestFirst, newestFirst_eq_latestFirst, ← latestFirst_map]
  simp only [hf]

theorem nodup_ids_ranking (keep : Record → Bool) (rs : List Record) :
    ((ranking keep rs).map (·.id)).Nodup := by
  have hids : (((firstOfEachId rs).filter keep).map (·.id)).Nodup :=
    (nodup_ids_firstOfEachId rs).sublist (List.filter_sublist.map _)
  have hperm := (latestFirst_perm (·.timestamp) ((firstOfEachId rs).filter keep)).map (·.id)
  exact hperm.nodup_iff.mpr hids

theorem ranking_descending (keep : Record → Bool) (rs : List Record) :
    (ranking keep rs).Pairwise fun a b => b.timestamp ≤ a.timestamp :=
  latestFirst_descending (·.timestamp) ((firstOfEachId rs).filter keep)

theorem mem_ranking {keep : Record → Bool} {rs : List Record} {r : Record} :
    r ∈ ranking keep rs ↔ r ∈ firstOfEachId rs ∧ keep r = true := by
  rw [ranking, mem_newestFirst, List.mem_filter]

theorem newestFirst_of_pairwise {rs : List Record}
    (h : rs.Pairwise fun a b => b.timestamp ≤ a.timestamp) : newestFirst rs = rs := by
  apply List.mergeSort_of_pairwise
  simpa only [decide_eq_true_eq] using h

/-- To show a record from an address changes nothing by which it is filtered. -/
theorem passes_seenFrom {valid : Record → Bool}
    (hvalid : ∀ r d, valid { r with direction := d } = valid r) (token : Option String)
    (address : String) (r : Record) :
    passes valid token (r.seenFrom address) = passes valid token r := by
  have h : valid (r.seenFrom address) = valid r := hvalid r _
  rw [passes, h]
  rfl

theorem seenFrom_seenFrom (address : String) (r : Record) :
    (r.seenFrom address).seenFrom address = r.seenFrom address := rfl

theorem truncate_of_length_le {limit : Int} {rs : List Record} (h : rs.length ≤ limit) :
    truncate limit rs = rs := by
  have hnonneg : 0 ≤ limit := by omega
  rw [truncate, if_pos hnonneg, List.take_of_length_le (by omega)]

theorem keepActiveToken_of_forall {token : Option String} {rs : List Record}
    (h : ∀ t ∈ token, ∀ r ∈ rs, r.tokenId = some t) : keepActiveToken token rs = rs := by
  unfold keepActiveToken
  cases htoken : Text.nonEmpty? token with
  | none => rfl
  | some t =>
    have hall := h t (Text.eq_of_nonEmpty?_eq_some htoken)
    exact List.filter_eq_self.mpr fun r hr => decide_eq_true (hall r hr)

section FilterOrder

variable (valid : Record → Bool) (rs : List Record)

theorem newestFirst_filter (p : Record → Bool) :
    newestFirst (rs.filter p) = (newestFirst rs).filter p :=
  (latestFirst_filter Record.timestamp p rs).symm

theorem newestFirst_keepMemos :
    newestFirst (keepMemos valid rs) = keepMemos valid (newestFirst rs) :=
  newestFirst_filter rs valid

theorem newestFirst_keepToken (token : String) :
    newestFirst (keepToken token rs) = keepToken token (newestFirst rs) :=
  newestFirst_filter rs _

theorem newestFirst_keepActiveToken (token : Option String) :
    newestFirst (keepActiveToken token rs) = keepActiveToken token (newestFirst rs) := by
  unfold keepActiveToken
  cases Text.nonEmpty? token with
  | none => rfl
  | some t => exact newestFirst_keepToken rs t

theorem keepMemos_keepActiveToken (token : Option String) :
    keepMemos valid (keepActiveToken token rs) = keepActiveToken token (keepMemos valid rs) := by
  unfold keepActiveToken
  cases Text.nonEmpty? token with
  | none => rfl
  | some t => exact List.filter_comm valid _ rs

end FilterOrder

/-- The sort passes each filter, ties included. So the filters may run right behind the removal of
repetitions, in either order, and fewer records be sorted, however the page is cut. -/
theorem filters_pass_sort (limit : Int) (valid : Record → Bool) (token : Option String)
    (address : String) (rs : List Record) :
    (∀ ss, newestFirst (keepMemos valid ss) = keepMemos valid (newestFirst ss)) ∧
      (∀ t ss, newestFirst (keepToken t ss) = keepToken t (newestFirst ss)) ∧
      ofAddress limit valid token address rs = ⟨annotate address (truncate limit (newestFirst
        (keepActiveToken token (keepMemos valid (firstOfEachId rs)))))⟩ ∧
      ofAddress limit valid token address rs = ⟨annotate address (truncate limit (newestFirst
        (keepMemos valid (keepActiveToken token (firstOfEachId rs)))))⟩ := by
  have hmemos : ofAddress limit valid token address rs = ⟨annotate address (truncate limit
      (newestFirst (keepActiveToken token (keepMemos valid (firstOfEachId rs)))))⟩ := by
    rw [newestFirst_keepActiveToken, newestFirst_keepMemos, ofAddress]
  refine ⟨newestFirst_keepMemos valid, fun t ss => newestFirst_keepToken ss t, hmemos, ?_⟩
  rw [hmemos, keepMemos_keepActiveToken]

end ChainHistory.Page
