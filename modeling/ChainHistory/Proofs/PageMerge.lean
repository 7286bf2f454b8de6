import ChainHistory.Proofs.PageNormalForm
import ChainHistory.Proofs.PageRank
import Mathlib.Data.List.Perm.Basic

/-! The head of two heads is the head of both lists. An entry that both lists hold counts as coming
from the first, also where the first head has cut it off. -/

namespace ChainHistory.Page

section Heads

variable {α : Type} [DecidableEq α] (time : α → Int)

/-- `a` stands before `b`, each taken where it first stands. -/
def Earlier (l : List α) (a b : α) : Prop := l.idxOf a < l.idxOf b

theorem earlier_asymm (l : List α) (a b : α) (hab : Earlier l a b) : ¬ Earlier l b a := by
  unfold Earlier at hab ⊢
  omega

theorem pairwise_earlier {l : List α} (hl : l.Nodup) : l.Pairwise (Earlier l) := by
  rw [List.pairwise_iff_getElem]
  intro i j hi hj hij
  rw [Earlier, hl.idxOf_getElem i hi, hl.idxOf_getElem j hj]
  exact hij

theorem rel_of_earlier {R : α → α → Prop} {l : List α} (hl : l.Pairwise R) {a b : α}
    (hb : b ∈ l) (hab : Earlier l a b) : R a b := by
  have hbl := List.idxOf_lt_length_of_mem hb
  have h := List.pairwise_iff_getElem.mp hl (l.idxOf a) (l.idxOf b) (hab.trans hbl) hbl hab
  rwa [List.getElem_idxOf, List.getElem_idxOf] at h

theorem earlier_append_left {l l' : List α} {a b : α} (ha : a ∈ l) (hb : b ∈ l) :
    Earlier (l ++ l') a b ↔ Earlier l a b := by
  rw [Earlier, List.idxOf_append_of_mem ha, List.idxOf_append_of_mem hb, Earlier]

theorem earlier_append_right {l l' : List α} {a b : α} (ha : a ∉ l) (hb : b ∉ l) :
    Earlier (l ++ l') a b ↔ Earlier l' a b := by
  rw [Earlier, List.idxOf_append_of_notMem ha, List.idxOf_append_of_notMem hb, Earlier]
  omega

theorem earlier_append_cross {l l' : List α} {a b : α} (ha : a ∈ l) (hb : b ∉ l) :
    Earlier (l ++ l') a b := by
  have h := List.idxOf_lt_length_of_mem ha
  rw [Earlier, List.idxOf_append_of_mem ha, List.idxOf_append_of_notMem hb]
  omega

/-- The entries of two lists; one that both hold comes from the first. -/
def joined (l l' : List α) : List α := l ++ l'.filter (· ∉ l)

theorem mem_joined (l l' : List α) (a : α) : a ∈ joined l l' ↔ a ∈ l ∨ a ∈ l' := by
  rw [joined, List.mem_append, List.mem_filter, decide_eq_true_eq]
  by_cases ha : a ∈ l <;> simp [ha]

theorem pairwise_joined {l l' : List α} (hl : l.Nodup) (hl' : l'.Nodup) :
    (joined l l').Pairwise (Earlier (l ++ l')) := by
  rw [joined, List.pairwise_append]
  have hnot {b : α} (hb : b ∈ l'.filter (· ∉ l)) : b ∉ l := by
    simpa using (List.mem_filter.mp hb).2
  refine ⟨?_, ?_, ?_⟩
  · apply (pairwise_earlier hl).imp_of_mem
    intro a b ha hb hab
    exact (earlier_append_left ha hb).mpr hab
  · apply ((pairwise_earlier hl').filter _).imp_of_mem
    intro a b ha hb hab
    exact (earlier_append_right (hnot ha) (hnot hb)).mpr hab
  · intro a ha b hb
    exact earlier_append_cross ha (hnot hb)

theorem nodup_joined {l l' : List α} (hl : l.Nodup) (hl' : l'.Nodup) : (joined l l').Nodup := by
  apply (pairwise_joined hl hl').imp
  rintro a _ hab rfl
  exact earlier_asymm _ a a hab hab

/-- A head keeps the order of entries of one time. -/
theorem earlier_head {n : ℕ} {l : List α} (hl : l.Nodup) {a b : α} (ha : a ∈ head time n l)
    (ht : time a = time b) (hab : Earlier l a b) : Earlier (head time n l) a b := by
  have hpair := pairwise_head time n (pairwise_earlier hl)
  by_contra hnot
  rcases Nat.lt_or_eq_of_le (Nat.le_of_not_lt hnot) with hba | heq
  · -- The other way round in the head, `b` would outrank `a`.
    have h := rel_of_earlier hpair ha hba
    exact outranks_asymm time (earlier_asymm l) h (Or.inr ⟨ht, hab⟩)
  · have h : a = b := (List.idxOf_inj ha).mp heq.symm
    exact earlier_asymm l a b hab (h ▸ hab)

/-- What is in the head of a list is in the head of every part whose entries rank no higher in
the part than in the list. -/
theorem mem_head_of_subset {l m : List α} (hm : m.Nodup) (hsub : m ⊆ l) {n : ℕ}
    {before before' : α → α → Prop} (hb : ∀ a b, before a b → ¬ before b a)
    (hbefore : l.Pairwise before) (hbefore' : m.Pairwise before') {a : α}
    (ha : a ∈ head time n l) (ham : a ∈ m)
    (hrank : ∀ b ∈ m, Outranks time before' b a → Outranks time before b a) :
    a ∈ head time n m := by
  by_contra hnot
  -- The head of the part is full, and all of it outranks `a`.
  have hin : a :: head time n m ⊆ head time n l := by
    rw [List.cons_subset]
    refine ⟨ha, ?_⟩
    intro b hbm
    by_contra hbl
    have hba := hrank b (head_subset time n m hbm) (outranks_of_mem_head time hbefore' hbm ham hnot)
    exact outranks_asymm time hb hba
      (outranks_of_mem_head time hbefore ha (hsub (head_subset time n m hbm)) hbl)
  have hnodup : (a :: head time n m).Nodup := List.nodup_cons.mpr ⟨hnot, nodup_head time n hm⟩
  have hle := (List.subperm_of_subset hnodup hin).length_le
  rw [List.length_cons, length_head, length_head] at hle
  have hlt : (head time n m).length < m.length := by
    have h := (List.subperm_of_subset hnodup
      (List.cons_subset.mpr ⟨ham, head_subset time n m⟩)).length_le
    rwa [List.length_cons] at h
  rw [length_head] at hlt
  omega

section

variable {n : ℕ} {l l' : List α} (hl : l.Nodup) (hl' : l'.Nodup)

include hl hl'

theorem mem_head_left {a : α} (ha : a ∈ head time n (joined l l')) (hal : a ∈ l) :
    a ∈ head time n l := by
  apply mem_head_of_subset time hl _ (earlier_asymm _) (pairwise_joined hl hl')
    (pairwise_earlier hl) ha hal
  · rintro b hb (h | ⟨ht, h⟩)
    · exact Or.inl h
    · exact Or.inr ⟨ht, (earlier_append_left hb hal).mpr h⟩
  · exact fun b hb => (mem_joined l l' b).mpr (Or.inl hb)

theorem mem_head_right {a : α} (ha : a ∈ head time n (joined l l')) (hal : a ∉ l) :
    a ∈ head time n l' := by
  have hal' : a ∈ l' := ((mem_joined l l' a).mp (head_subset time n _ ha)).resolve_left hal
  apply mem_head_of_subset time hl' _ (earlier_asymm _) (pairwise_joined hl hl')
    (pairwise_earlier hl') ha hal'
  · rintro b hb (h | ⟨ht, h⟩)
    · exact Or.inl h
    · by_cases hbl : b ∈ l
      · exact Or.inr ⟨ht, earlier_append_cross hbl hal⟩
      · exact Or.inr ⟨ht, (earlier_append_right hbl hal).mpr h⟩
  · exact fun b hb => (mem_joined l l' b).mpr (Or.inr hb)

/-- What is outranked in both lists by an entry of their head is outranked by it in the heads. -/
theorem outranks_in_heads {a b : α} (ha : a ∈ head time n (joined l l'))
    (h : Outranks time (Earlier (l ++ l')) a b) :
    Outranks time (Earlier (head time n l ++ head time n l')) a b := by
  rcases h with h | ⟨ht, h⟩
  · exact Or.inl h
  refine Or.inr ⟨ht, ?_⟩
  -- An entry of the first list comes before all that only the second has, cut or not.
  by_cases hal : a ∈ l
  · have hah := mem_head_left time hl hl' ha hal
    by_cases hbh : b ∈ head time n l
    · have hbl := head_subset time n l hbh
      rw [earlier_append_left hah hbh]
      exact earlier_head time hl hah ht ((earlier_append_left hal hbl).mp h)
    · exact earlier_append_cross hah hbh
  · have hbl : b ∉ l := fun hbl => earlier_asymm _ _ _ h (earlier_append_cross hbl hal)
    have hah : a ∉ head time n l := fun hah => hal (head_subset time n l hah)
    have hbh : b ∉ head time n l := fun hbh => hbl (head_subset time n l hbh)
    rw [earlier_append_right hah hbh]
    exact earlier_head time hl' (mem_head_right time hl hl' ha hal) ht
      ((earlier_append_right hal hbl).mp h)

/-- The head of two heads is the head of both lists. -/
theorem head_joined_head : head time n (joined (head time n l) (head time n l')) =
    head time n (joined l l') := by
  have hheads := pairwise_joined (nodup_head time n hl) (nodup_head time n hl')
  have hnodup := nodup_joined (nodup_head time n hl) (nodup_head time n hl')
  -- Whatever reaches the head of both lists was not cut off the list that it comes from.
  have hsub : head time n (joined l l') ⊆ joined (head time n l) (head time n l') := by
    intro a ha
    by_cases hal : a ∈ l
    · exact (mem_joined _ _ a).mpr (Or.inl (mem_head_left time hl hl' ha hal))
    · exact (mem_joined _ _ a).mpr (Or.inr (mem_head_right time hl hl' ha hal))
  have hsub' : joined (head time n l) (head time n l') ⊆ joined l l' := by
    intro a ha
    rcases (mem_joined _ _ a).mp ha with h | h
    · exact (mem_joined l l' a).mpr (Or.inl (head_subset time n l h))
    · exact (mem_joined l l' a).mpr (Or.inr (head_subset time n l' h))
  have hlen : (head time n (joined l l')).length =
      min n (joined (head time n l) (head time n l')).length := by
    have h₁ := (List.subperm_of_subset hnodup hsub').length_le
    have h₂ := (List.subperm_of_subset (nodup_head time n (nodup_joined hl hl')) hsub).length_le
    rw [length_head] at h₂ ⊢
    omega
  symm
  apply eq_head time (earlier_asymm _) hheads _ hsub hlen
  · intro a ha b hb hnot
    exact outranks_in_heads time hl hl' ha
      (outranks_of_mem_head time (pairwise_joined hl hl') ha (hsub' hb) hnot)
  · apply (pairwise_head time n (pairwise_joined hl hl')).imp_of_mem
    intro a b ha hb h
    exact outranks_in_heads time hl hl' ha h

end

end Heads

/-- Records of one id are equal. -/
def Agree (rs : List Record) : Prop := ∀ r ∈ rs, ∀ s ∈ rs, r.id = s.id → r = s

theorem Agree.mono {rs ss : List Record} (h : Agree rs) (hsub : ss ⊆ rs) : Agree ss :=
  fun r hr s hs => h r (hsub hr) s (hsub hs)

/-- Where records of one id are equal, no record is lost with the repetitions. -/
theorem mem_firstOfEachId {rs : List Record} (h : Agree rs) {r : Record} :
    r ∈ firstOfEachId rs ↔ r ∈ rs := by
  refine ⟨fun hr => (firstOfEachId_sublist rs).subset hr, fun hr => ?_⟩
  obtain ⟨s, hs, hid⟩ := exists_firstOfEachId rs hr
  rwa [h r hr s ((firstOfEachId_sublist rs).subset hs) hid.symm]

/-- Where records of one id are equal, a filter takes all of them or none. -/
theorem filter_firstOfEachId {rs : List Record} (h : Agree rs) (keep : Record → Bool) :
    (firstOfEachId rs).filter keep = firstOfEachId (rs.filter keep) := by
  induction rs with
  | nil => rfl
  | cons r rs ih =>
    have htail := ih (h.mono (List.subset_cons_self r rs))
    by_cases hr : keep r = true
    · rw [List.filter_cons_of_pos hr, firstOfEachId, firstOfEachId, List.filter_cons_of_pos hr,
        ← htail, List.filter_filter, List.filter_filter]
      simp only [Bool.and_comm]
    · rw [List.filter_cons_of_neg hr, firstOfEachId, List.filter_cons_of_neg hr, ← htail,
        List.filter_filter]
      apply List.filter_congr
      intro s hs
      by_cases hid : s.id = r.id
      · have hsr : s = r := h s (List.mem_cons_of_mem r ((firstOfEachId_sublist rs).subset hs)) r
          List.mem_cons_self hid
        simp only [hsr, Bool.not_eq_true] at hr ⊢
        simp only [hr, Bool.false_and]
      · simp only [ne_eq, hid, not_false_eq_true, decide_true, Bool.and_true]

theorem firstOfEachId_append_of_agree {xs ys : List Record} (h : Agree (xs ++ ys)) :
    firstOfEachId (xs ++ ys) = joined (firstOfEachId xs) (firstOfEachId ys) := by
  rw [firstOfEachId_append, joined]
  refine congrArg (firstOfEachId xs ++ ·) (List.filter_congr fun r hr => decide_eq_decide.mpr ?_)
  have hry : r ∈ xs ++ ys := List.mem_append_right xs ((firstOfEachId_sublist ys).subset hr)
  rw [not_iff_not, mem_firstOfEachId (h.mono (List.subset_append_left xs ys))]
  -- To be new by id and to be new as a record is the same where one id means one record.
  constructor
  · intro hmem
    obtain ⟨s, hs, hid⟩ := List.mem_map.mp hmem
    rwa [h r hry s (List.mem_append_left ys hs) hid.symm]
  · intro hmem
    exact List.mem_map_of_mem hmem

theorem agree_of_pages {keep : Record → Bool} {n : ℕ} {rs ss : List Record} (h : Agree (rs ++ ss)) :
    Agree ((ranking keep rs).take n ++ (ranking keep ss).take n) := by
  apply h.mono
  rw [List.append_subset]
  have hsub (ts : List Record) : (ranking keep ts).take n ⊆ ts := fun r hr =>
    (firstOfEachId_sublist ts).subset (mem_ranking.mp (List.mem_of_mem_take hr)).1
  exact ⟨fun r hr => List.mem_append_left ss (hsub rs hr),
    fun r hr => List.mem_append_right rs (hsub ss hr)⟩

theorem firstOfEachId_take_ranking (keep : Record → Bool) (n : ℕ) (rs : List Record) :
    firstOfEachId ((ranking keep rs).take n) = (ranking keep rs).take n :=
  firstOfEachId_of_nodup (settled_take_ranking keep n rs).ids

theorem filter_take_ranking (keep : Record → Bool) (n : ℕ) (rs : List Record) :
    ((ranking keep rs).take n).filter keep = (ranking keep rs).take n :=
  List.filter_eq_self.mpr (settled_take_ranking keep n rs).kept

/-- The law of merging before records are shown. -/
theorem take_ranking_append (keep : Record → Bool) (n : ℕ) {xs ys : List Record}
    (h : Agree (xs ++ ys)) :
    (ranking keep ((ranking keep xs).take n ++ (ranking keep ys).take n)).take n =
      (ranking keep (xs ++ ys)).take n := by
  have hx : Agree xs := h.mono (List.subset_append_left xs ys)
  have hy : Agree ys := h.mono (List.subset_append_right xs ys)
  have hkept : Agree (xs.filter keep ++ ys.filter keep) := by
    rw [← List.filter_append]
    exact h.mono (List.filter_subset_self _)
  calc
    _ = head (·.timestamp) n (joined ((ranking keep xs).take n) ((ranking keep ys).take n)) := by
      rw [ranking, filter_firstOfEachId (agree_of_pages h), List.filter_append,
        filter_take_ranking, filter_take_ranking, firstOfEachId_append_of_agree (agree_of_pages h),
        firstOfEachId_take_ranking, firstOfEachId_take_ranking]
      rfl
    _ = head (·.timestamp) n
        (joined ((firstOfEachId xs).filter keep) ((firstOfEachId ys).filter keep)) :=
      head_joined_head _ ((nodup_firstOfEachId xs).filter _) ((nodup_firstOfEachId ys).filter _)
    _ = _ := by
      rw [filter_firstOfEachId hx, filter_firstOfEachId hy, ← firstOfEachId_append_of_agree hkept,
        ← List.filter_append, ← filter_firstOfEachId h]
      rfl

/-- To show a record from an address changes nothing by which it is ranked. -/
theorem ranking_map_seenFrom {keep : Record → Bool} (address : String)
    (hkeep : ∀ r, keep (r.seenFrom address) = keep r) (rs : List Record) :
    ranking keep (rs.map (·.seenFrom address)) = (ranking keep rs).map (·.seenFrom address) := by
  have hid (r : Record) : (r.seenFrom address).id = r.id := rfl
  have htime (r : Record) : (r.seenFrom address).timestamp = r.timestamp := rfl
  rw [ranking, firstOfEachId_map hid, List.filter_map, newestFirst_map htime, ranking]
  simp only [Function.comp_def, hkeep]

/-- Pages of lists that overlap but do not contradict each other merge into the page of both
lists, also where a page was cut. -/
theorem merged_pages (n : ℕ) (valid : Record → Bool) (xs ys : List Record)
    (h : Agree (xs ++ ys)) :
    ofXpub n valid ((ofXpub n valid xs).docs ++ (ofXpub n valid ys).docs) =
        ofXpub n valid (xs ++ ys) ∧
      ((∀ r d, valid { r with direction := d } = valid r) → ∀ token address,
        ofAddress n valid token address
            ((ofAddress n valid token address xs).docs ++
              (ofAddress n valid token address ys).docs) =
          ofAddress n valid token address (xs ++ ys)) := by
  constructor
  · apply eq_of_docs_eq
    simp only [docs_ofXpub]
    exact take_ranking_append valid n h
  · intro hvalid token address
    apply eq_of_docs_eq
    have hkeep := passes_seenFrom hvalid token address
    simp only [docs_ofAddress]
    rw [← List.map_append, ranking_map_seenFrom address hkeep, ← List.map_take, List.map_map,
      take_ranking_append (passes valid token) n h]
    apply List.map_congr_left
    intro r _
    exact seenFrom_seenFrom address r

/-- Records of one time that differ in their ids alone. -/
def tied (id : String) : Record := { id, coin := 0, timestamp := 5, receivers := ["x"] }

/-- The second record of the first list is cut off there and heads the page of the second. -/
theorem merged_pages_of_cut_record :
    Agree ([tied "a", tied "b"] ++ [tied "b", tied "c"]) ∧
      ofXpub 1 (Record.memoValid 256)
          ((ofXpub 1 (Record.memoValid 256) [tied "a", tied "b"]).docs ++
            (ofXpub 1 (Record.memoValid 256) [tied "b", tied "c"]).docs) =
        ofXpub 1 (Record.memoValid 256) ([tied "a", tied "b"] ++ [tied "b", tied "c"]) ∧
      ofAddress 1 (Record.memoValid 256) none "x"
          ((ofAddress 1 (Record.memoValid 256) none "x" [tied "a", tied "b"]).docs ++
            (ofAddress 1 (Record.memoValid 256) none "x" [tied "b", tied "c"]).docs) =
        ofAddress 1 (Record.memoValid 256) none "x"
          ([tied "a", tied "b"] ++ [tied "b", tied "c"]) := by
  have h : Agree ([tied "a", tied "b"] ++ [tied "b", tied "c"]) := by
    unfold Agree
    decide
  have hpages := merged_pages 1 (Record.memoValid 256) _ _ h
  exact ⟨h, hpages.1, hpages.2 (fun _ _ => rfl) none "x"⟩

section SameRecords

variable {xs ys : List Record}

theorem firstOfEachId_perm (hsame : ∀ r, r ∈ xs ↔ r ∈ ys) (h : Agree xs) :
    (firstOfEachId xs).Perm (firstOfEachId ys) := by
  have hys : Agree ys := h.mono fun r hr => (hsame r).mpr hr
  rw [List.perm_ext_iff_of_nodup (nodup_firstOfEachId xs) (nodup_firstOfEachId ys)]
  intro r
  rw [mem_firstOfEachId h, mem_firstOfEachId hys, hsame]

theorem ranking_eq_of_same_records (keep : Record → Bool) (hsame : ∀ r, r ∈ xs ↔ r ∈ ys)
    (h : Agree xs) (htimes : ∀ r ∈ xs, ∀ s ∈ xs, r.id ≠ s.id → r.timestamp ≠ s.timestamp) :
    ranking keep xs = ranking keep ys := by
  apply latestFirst_eq_of_perm (·.timestamp) ((firstOfEachId_perm hsame h).filter keep)
  intro r hr s hs htime
  have hrx : r ∈ xs := (mem_firstOfEachId h).mp (List.mem_filter.mp hr).1
  have hsx : s ∈ xs := (mem_firstOfEachId h).mp (List.mem_filter.mp hs).1
  -- Different records would have different ids, and so different times.
  by_contra hne
  have hid : r.id ≠ s.id := fun hid => hne (h r hrx s hsx hid)
  exact htimes r hrx s hsx hid htime

/-- Lists of the same records give the same pages, in whatever order and how often the records come,
as long as no two different ones have one id or one time. -/
theorem same_pages_of_same_records (limit : Int) (valid : Record → Bool)
    (token : Option String) (address : String) (hsame : ∀ r, r ∈ xs ↔ r ∈ ys) (h : Agree xs)
    (htimes : ∀ r ∈ xs, ∀ s ∈ xs, r.id ≠ s.id → r.timestamp ≠ s.timestamp) :
    ofAddress limit valid token address xs = ofAddress limit valid token address ys ∧
      ofXpub limit valid xs = ofXpub limit valid ys := by
  constructor
  · rw [ofAddress_eq, ofAddress_eq, ranking_eq_of_same_records _ hsame h htimes]
  · rw [ofXpub_eq, ofXpub_eq, ranking_eq_of_same_records _ hsame h htimes]

/-- A transfer to one receiver, told by its id and its time. -/
def dated (id : String) (timestamp : Int) : Record :=
  { id, coin := 0, timestamp, receivers := ["x"], tokenId := some "t" }

/-- Pages of two records from three, which come in another order and repeat others. -/
theorem same_pages_of_shuffled :
    ofAddress 2 (Record.memoValid 256) (some "t") "x"
        [dated "a" 9, dated "b" 5, dated "a" 9, dated "c" 7] =
      ofAddress 2 (Record.memoValid 256) (some "t") "x"
        [dated "c" 7, dated "b" 5, dated "b" 5, dated "a" 9] ∧
    ofXpub 2 (Record.memoValid 256) [dated "a" 9, dated "b" 5, dated "a" 9, dated "c" 7] =
      ofXpub 2 (Record.memoValid 256) [dated "c" 7, dated "b" 5, dated "b" 5, dated "a" 9] := by
  apply same_pages_of_same_records
  · intro r
    simp only [List.mem_cons, List.not_mem_nil]
    tauto
  · unfold Agree
    decide
  · decide

end SameRecords

end ChainHistory.Page
