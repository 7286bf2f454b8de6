import ChainHistory.Page
import Mathlib.Data.List.Nodup

/-! The order of a page, for entries with any clock. A stable sort is known by two facts: what it
gives is in order, and the entries of each single time stand in it as they stood before. -/

namespace ChainHistory.Page

variable {α β : Type} (time : α → Int)

def mayPrecede (a b : α) : Bool := time b ≤ time a

theorem mayPrecede_trans (a b c : α) (hab : mayPrecede time a b = true)
    (hbc : mayPrecede time b c = true) : mayPrecede time a c = true := by
  simp only [mayPrecede, decide_eq_true_eq] at hab hbc ⊢
  omega

theorem mayPrecede_total (a b : α) : (mayPrecede time a b || mayPrecede time b a) = true := by
  simp only [mayPrecede, Bool.or_eq_true, decide_eq_true_eq]
  omega

/-- Latest first by a clock; entries of one time stay in the order they came in. -/
def latestFirst (l : List α) : List α := l.mergeSort (mayPrecede time)

theorem newestFirst_eq_latestFirst (rs : List Record) :
    newestFirst rs = latestFirst (·.timestamp) rs := rfl

theorem latestFirst_perm (l : List α) : (latestFirst time l).Perm l :=
  List.mergeSort_perm l _

@[simp] theorem mem_latestFirst (l : List α) (a : α) : a ∈ latestFirst time l ↔ a ∈ l :=
  (latestFirst_perm time l).mem_iff

@[simp] theorem length_latestFirst (l : List α) : (latestFirst time l).length = l.length :=
  (latestFirst_perm time l).length_eq

theorem latestFirst_descending (l : List α) :
    (latestFirst time l).Pairwise fun a b => time b ≤ time a := by
  have h := List.pairwise_mergeSort (mayPrecede_trans time) (mayPrecede_total time) l
  apply h.imp
  intro a b hab
  simpa only [mayPrecede, decide_eq_true_eq] using hab

/-- Sorting moves no entry past another one of its time. -/
theorem latestFirst_filter_time (l : List α) (t : Int) :
    (latestFirst time l).filter (time · = t) = l.filter (time · = t) := by
  have hflat : (l.filter (time · = t)).Pairwise fun a b => mayPrecede time a b = true := by
    apply List.pairwise_of_forall_mem_list
    intro a ha b hb
    have hat : time a = t := by simpa using (List.mem_filter.mp ha).2
    have hbt : time b = t := by simpa using (List.mem_filter.mp hb).2
    simp only [mayPrecede, decide_eq_true_eq]
    omega
  have hsub : (l.filter (time · = t)).Sublist (latestFirst time l) :=
    List.sublist_mergeSort (mayPrecede_trans time) (mayPrecede_total time) hflat
      List.filter_sublist
  have hkept : (l.filter (time · = t)).Sublist ((latestFirst time l).filter (time · = t)) := by
    have h := hsub.filter (time · = t)
    rwa [List.filter_filter, funext fun a => Bool.and_self (decide (time a = t))] at h
  exact (hkept.eq_of_length ((latestFirst_perm time l).filter _).length_eq.symm).symm

theorem mem_iff_of_filter_time {s s' : List α}
    (hf : ∀ t, s.filter (time · = t) = s'.filter (time · = t)) (a : α) : a ∈ s ↔ a ∈ s' := by
  have h := congrArg (fun l => a ∈ l) (hf (time a))
  simpa only [List.mem_filter, decide_true, and_true, eq_iff_iff] using h

/-- Two lists in order that agree on the entries of each time are equal. -/
theorem eq_of_descending_of_filter_time {s s' : List α}
    (hs : s.Pairwise fun a b => time b ≤ time a) (hs' : s'.Pairwise fun a b => time b ≤ time a)
    (hf : ∀ t, s.filter (time · = t) = s'.filter (time · = t)) : s = s' := by
  have hmem := mem_iff_of_filter_time time hf
  -- Induction on one list. Both hold the same entries, so neither ends before the other.
  induction s generalizing s' with
  | nil =>
    cases s' with
    | nil => rfl
    | cons b s' => exact absurd ((hmem b).mpr List.mem_cons_self) List.not_mem_nil
  | cons a s ih =>
    cases s' with
    | nil => exact absurd ((hmem a).mp List.mem_cons_self) List.not_mem_nil
    | cons b s' =>
      have hba : time b ≤ time a := by
        rcases List.mem_cons.mp ((hmem b).mpr List.mem_cons_self) with h | h
        · exact Int.le_of_eq (congrArg time h)
        · exact (List.pairwise_cons.mp hs).1 b h
      have hab : time a ≤ time b := by
        rcases List.mem_cons.mp ((hmem a).mp List.mem_cons_self) with h | h
        · exact Int.le_of_eq (congrArg time h)
        · exact (List.pairwise_cons.mp hs').1 a h
      have htime : time b = time a := by omega
      -- Both heads are the first entry of the latest time.
      have hhead := hf (time a)
      simp only [List.filter_cons, htime, decide_true, if_true, List.cons.injEq] at hhead
      obtain ⟨rfl, htail⟩ := hhead
      have hrest (t : Int) : s.filter (time · = t) = s'.filter (time · = t) := by
        have h := hf t
        by_cases ht : time a = t
        · rw [← ht]
          exact htail
        · simpa only [List.filter_cons, ht, decide_false, Bool.false_eq_true, if_false] using h
      rw [ih (List.pairwise_cons.mp hs).2 (List.pairwise_cons.mp hs').2 hrest
        (mem_iff_of_filter_time time hrest)]

theorem eq_latestFirst {s l : List α} (hs : s.Pairwise fun a b => time b ≤ time a)
    (hf : ∀ t, s.filter (time · = t) = l.filter (time · = t)) : s = latestFirst time l := by
  apply eq_of_descending_of_filter_time time hs (latestFirst_descending time l)
  intro t
  rw [hf t, latestFirst_filter_time]

/-- It makes no difference whether a filter runs before or after the sort. -/
theorem latestFirst_filter (p : α → Bool) (l : List α) :
    (latestFirst time l).filter p = latestFirst time (l.filter p) := by
  apply eq_latestFirst time ((latestFirst_descending time l).filter p)
  intro t
  rw [List.filter_filter, List.filter_filter]
  simp only [Bool.and_comm _ (p _)]
  rw [← List.filter_filter, ← List.filter_filter, latestFirst_filter_time]

/-- Where no two entries have one time, the order they came in tells nothing. -/
theorem latestFirst_eq_of_perm {l l' : List α} (h : l.Perm l')
    (htime : ∀ a ∈ l, ∀ b ∈ l, time a = time b → a = b) :
    latestFirst time l = latestFirst time l' := by
  have hperm : (latestFirst time l).Perm (latestFirst time l') :=
    (latestFirst_perm time l).trans (h.trans (latestFirst_perm time l').symm)
  apply hperm.eq_of_pairwise _ (latestFirst_descending time l) (latestFirst_descending time l')
  intro a b ha hb hba hab
  have hal : a ∈ l := (mem_latestFirst time l a).mp ha
  have hbl : b ∈ l := h.mem_iff.mpr ((mem_latestFirst time l' b).mp hb)
  exact htime a hal b hbl (Int.le_antisymm hab hba)

theorem latestFirst_map (f : β → α) (l : List β) :
    (latestFirst (fun b => time (f b)) l).map f = latestFirst time (l.map f) :=
  List.map_mergeSort fun _ _ _ _ => rfl

end ChainHistory.Page
