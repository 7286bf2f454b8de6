import ChainHistory.Proofs.LatestFirst

/-! Rank in a page: by time, and for one time by what came before. The head of the sorted list is
characterised by rank alone, so that pages that come from different lists can be compared. -/

namespace ChainHistory.Page

variable {α : Type} (time : α → Int)

/-- A later entry outranks an earlier one; of two entries of one time the first to come does. -/
def Outranks (before : α → α → Prop) (a b : α) : Prop :=
  time b < time a ∨ time a = time b ∧ before a b

theorem time_le_of_outranks {before : α → α → Prop} {a b : α}
    (hab : Outranks time before a b) : time b ≤ time a := by
  rcases hab with h | ⟨h, -⟩
  · exact Int.le_of_lt h
  · exact Int.le_of_eq h.symm

theorem outranks_asymm {before : α → α → Prop} (hb : ∀ a b, before a b → ¬ before b a)
    {a b : α} (hab : Outranks time before a b) : ¬ Outranks time before b a := by
  intro hba
  rcases hab with h | ⟨h, hbefore⟩ <;> rcases hba with h' | ⟨h', hbefore'⟩
  · omega
  · omega
  · omega
  · exact hb a b hbefore hbefore'

theorem latestFirst_pairwise {before : α → α → Prop} {l : List α} (hl : l.Pairwise before) :
    (latestFirst time l).Pairwise (Outranks time before) := by
  rw [List.pairwise_iff_forall_sublist]
  intro a b hab
  have hle : time b ≤ time a :=
    List.pairwise_iff_forall_sublist.mp (latestFirst_descending time l) hab
  by_cases ht : time b = time a
  · -- Entries of one time are a sublist of the unsorted list.
    have hsub : [a, b].Sublist l := by
      have h := hab.filter (time · = time a)
      rw [latestFirst_filter_time] at h
      simp only [List.filter_cons, ht, decide_true, if_true, List.filter_nil] at h
      exact h.trans List.filter_sublist
    exact Or.inr ⟨ht.symm, List.pairwise_iff_forall_sublist.mp hl hsub⟩
  · exact Or.inl (by omega)

/-- The latest entries, `n` at most. -/
def head (n : ℕ) (l : List α) : List α := (latestFirst time l).take n

theorem head_subset (n : ℕ) (l : List α) : head time n l ⊆ l := by
  intro a ha
  exact (mem_latestFirst time l a).mp (List.mem_of_mem_take ha)

theorem length_head (n : ℕ) (l : List α) : (head time n l).length = min n l.length := by
  rw [head, List.length_take, length_latestFirst]

theorem nodup_head (n : ℕ) {l : List α} (hl : l.Nodup) : (head time n l).Nodup :=
  ((latestFirst_perm time l).nodup_iff.mpr hl).sublist (List.take_sublist n _)

theorem pairwise_head {before : α → α → Prop} (n : ℕ) {l : List α} (hl : l.Pairwise before) :
    (head time n l).Pairwise (Outranks time before) :=
  (latestFirst_pairwise time hl).sublist (List.take_sublist n _)

/-- The head of the sorted list is the only list in rank order that holds as many entries as fit
and leaves out none that outranks an entry in it. -/
theorem eq_head {before : α → α → Prop} (hb : ∀ a b, before a b → ¬ before b a)
    {l p : List α} {n : ℕ} (hl : l.Pairwise before) (hp : p.Pairwise (Outranks time before))
    (hsub : p ⊆ l) (hlen : p.length = min n l.length)
    (hrest : ∀ a ∈ p, ∀ b ∈ l, b ∉ p → Outranks time before a b) :
    p = head time n l := by
  classical
  have hirrefl (a : α) : ¬ before a a := fun h => hb a a h h
  have hnodup {R : α → α → Prop} (hR : ∀ a, ¬ R a a) {s : List α} (hs : s.Pairwise R) :
      s.Nodup := by
    apply hs.imp
    rintro a _ hab rfl
    exact hR a hab
  have hpn : p.Nodup := hnodup (fun a h => outranks_asymm time hb h h) hp
  have hln : l.Nodup := hnodup hirrefl hl
  -- What `p` leaves out is put in order behind it; the whole is then the sorted list.
  let rest := latestFirst time (l.filter (· ∉ p))
  have hperm : (p ++ rest).Perm (latestFirst time l) := by
    have hin : (l.filter (· ∈ p)).Perm p := by
      rw [List.perm_ext_iff_of_nodup (hln.filter _) hpn]
      intro a
      simp only [List.mem_filter, decide_eq_true_eq, and_iff_right_iff_imp]
      exact fun ha => hsub ha
    have hsplit := List.filter_append_perm (fun a => decide (a ∈ p)) l
    have hnot : l.filter (fun a => !decide (a ∈ p)) = l.filter (· ∉ p) := by
      simp only [decide_not]
    rw [hnot] at hsplit
    exact ((hin.symm.append (latestFirst_perm time _)).trans hsplit).trans
      (latestFirst_perm time l).symm
  have hpair : (p ++ rest).Pairwise (Outranks time before) := by
    rw [List.pairwise_append]
    refine ⟨hp, latestFirst_pairwise time (hl.filter _), ?_⟩
    intro a ha b hbr
    have hbl : b ∈ l ∧ b ∉ p := by
      simpa only [rest, mem_latestFirst, List.mem_filter, decide_eq_true_eq] using hbr
    exact hrest a ha b hbl.1 hbl.2
  have heq : p ++ rest = latestFirst time l := by
    apply hperm.eq_of_pairwise _ hpair (latestFirst_pairwise time hl)
    intro a b _ _ hab hba
    exact absurd hba (outranks_asymm time hb hab)
  rw [head, ← heq]
  rcases Nat.le_total n l.length with hn | hn
  · rw [List.take_left' (by omega)]
  · have hrestlen : rest.length = 0 := by
      have h : p.length + rest.length = l.length := by
        rw [← List.length_append, heq, length_latestFirst]
      omega
    rw [List.length_eq_zero_iff.mp hrestlen, List.append_nil, List.take_of_length_le (by omega)]

theorem outranks_of_mem_head {before : α → α → Prop} {l : List α} (hl : l.Pairwise before)
    {n : ℕ} {a b : α} (ha : a ∈ head time n l) (hb : b ∈ l) (hnot : b ∉ head time n l) :
    Outranks time before a b := by
  have hdrop : b ∈ (latestFirst time l).drop n := by
    have hmem : b ∈ head time n l ++ (latestFirst time l).drop n := by
      rw [head, List.take_append_drop, mem_latestFirst]
      exact hb
    exact (List.mem_append.mp hmem).resolve_left hnot
  have hpair := latestFirst_pairwise time hl
  rw [← List.take_append_drop n (latestFirst time l), List.pairwise_append] at hpair
  exact hpair.2.2 a ha b hdrop

end ChainHistory.Page
