import ChainHistory.Text.Split
import Mathlib.Data.List.Basic

namespace ChainHistory.Text

variable {sep : Char}

theorem splitOn_ne_nil (sep : Char) (cs : List Char) : splitOn sep cs ≠ [] := by
  cases cs with
  | nil => exact List.cons_ne_nil [] []
  | cons c cs =>
    rw [splitOn]
    split
    · exact List.cons_ne_nil _ _
    · split <;> exact List.cons_ne_nil _ _

theorem splitOn_of_notMem {p : List Char} (h : sep ∉ p) : splitOn sep p = [p] := by
  induction p with
  | nil => rfl
  | cons c p ih =>
    rw [List.mem_cons, not_or] at h
    rw [splitOn, if_neg (Ne.symm h.1), ih h.2]

theorem splitOn_append_sep (p rest : List Char) :
    splitOn sep (p ++ sep :: rest) = splitOn sep p ++ splitOn sep rest := by
  induction p with
  | nil => simp only [List.nil_append, splitOn, if_true, List.singleton_append]
  | cons c p ih =>
    rw [List.cons_append, splitOn, splitOn, ih]
    by_cases hc : c = sep
    · rw [if_pos hc, if_pos hc, List.cons_append]
    · rw [if_neg hc, if_neg hc]
      cases hsplit : splitOn sep p with
      | nil => exact absurd hsplit (splitOn_ne_nil sep p)
      | cons q qs => rfl

theorem joinWith_cons {p : List Char} {ps : List (List Char)} (h : ps ≠ []) :
    joinWith sep (p :: ps) = p ++ sep :: joinWith sep ps := by
  cases ps with
  | nil => exact absurd rfl h
  | cons q qs => rfl

theorem joinWith_append {ps qs : List (List Char)} (hps : ps ≠ []) (hqs : qs ≠ []) :
    joinWith sep (ps ++ qs) = joinWith sep ps ++ sep :: joinWith sep qs := by
  induction ps with
  | nil => exact absurd rfl hps
  | cons p ps ih =>
    by_cases h : ps = []
    · subst h
      rw [List.singleton_append, joinWith_cons hqs, joinWith]
    · rw [List.cons_append, joinWith_cons (List.append_ne_nil_of_left_ne_nil h qs), ih h,
        joinWith_cons h, List.append_assoc, List.cons_append]

theorem mem_joinWith {ps : List (List Char)} {c : Char} (h : c ∈ joinWith sep ps) :
    c = sep ∨ ∃ p ∈ ps, c ∈ p := by
  induction ps with
  | nil => exact absurd h List.not_mem_nil
  | cons p ps ih =>
    by_cases hps : ps = []
    · subst hps
      exact Or.inr ⟨p, List.mem_cons_self, h⟩
    · rw [joinWith_cons hps, List.mem_append, List.mem_cons] at h
      rcases h with h | h | h
      · exact Or.inr ⟨p, List.mem_cons_self, h⟩
      · exact Or.inl h
      · rcases ih h with h | ⟨q, hq, h⟩
        · exact Or.inl h
        · exact Or.inr ⟨q, List.mem_cons_of_mem p hq, h⟩

theorem mem_joinWith_of_mem {ps : List (List Char)} {p : List Char} (hp : p ∈ ps) {c : Char}
    (hc : c ∈ p) : c ∈ joinWith sep ps := by
  induction ps with
  | nil => exact absurd hp List.not_mem_nil
  | cons q ps ih =>
    by_cases hps : ps = []
    · subst hps
      rw [List.mem_singleton] at hp
      exact hp ▸ hc
    · rw [joinWith_cons hps, List.mem_append, List.mem_cons]
      rcases List.mem_cons.mp hp with rfl | hp
      · exact Or.inl hc
      · exact Or.inr (Or.inr (ih hp))

theorem splitOn_joinWith {ps : List (List Char)} (hne : ps ≠ []) (h : ∀ p ∈ ps, sep ∉ p) :
    splitOn sep (joinWith sep ps) = ps := by
  induction ps with
  | nil => exact absurd rfl hne
  | cons p ps ih =>
    have hp := h p List.mem_cons_self
    by_cases hps : ps = []
    · subst hps
      exact splitOn_of_notMem hp
    · rw [joinWith_cons hps, splitOn_append_sep, splitOn_of_notMem hp,
        ih hps (fun q hq => h q (List.mem_cons_of_mem p hq)), List.singleton_append]

theorem joinWith_splitOn (sep : Char) (cs : List Char) : joinWith sep (splitOn sep cs) = cs := by
  induction cs with
  | nil => rfl
  | cons c cs ih =>
    rw [splitOn]
    by_cases hc : c = sep
    · rw [if_pos hc, joinWith_cons (splitOn_ne_nil sep cs), ih, hc, List.nil_append]
    · rw [if_neg hc]
      cases hsplit : splitOn sep cs with
      | nil => exact absurd hsplit (splitOn_ne_nil sep cs)
      | cons q qs =>
        rw [hsplit] at ih
        rw [← ih]
        cases qs <;> rfl

theorem notMem_of_mem_splitOn {cs p : List Char} (h : p ∈ splitOn sep cs) : sep ∉ p := by
  induction cs generalizing p with
  | nil =>
    rw [splitOn, List.mem_singleton] at h
    exact h ▸ List.not_mem_nil
  | cons c cs ih =>
    rw [splitOn] at h
    by_cases hc : c = sep
    · rw [if_pos hc, List.mem_cons] at h
      rcases h with rfl | h
      · exact List.not_mem_nil
      · exact ih h
    · rw [if_neg hc] at h
      cases hsplit : splitOn sep cs with
      | nil => exact absurd hsplit (splitOn_ne_nil sep cs)
      | cons q qs =>
        rw [hsplit] at h ih
        rcases List.mem_cons.mp h with rfl | h
        · rw [List.mem_cons, not_or]
          exact ⟨Ne.symm hc, ih List.mem_cons_self⟩
        · exact ih (List.mem_cons_of_mem q h)

/-- What follows a text and holds no separator goes to the last of its parts. -/
theorem exists_splitOn_append {back : List Char} (h : sep ∉ back) (cs : List Char) :
    ∃ ps q, splitOn sep cs = ps ++ [q] ∧ splitOn sep (cs ++ back) = ps ++ [q ++ back] := by
  induction cs with
  | nil => exact ⟨[], [], rfl, splitOn_of_notMem h⟩
  | cons c cs ih =>
    obtain ⟨ps, q, hcs, hback⟩ := ih
    by_cases hc : c = sep
    · refine ⟨[] :: ps, q, ?_, ?_⟩
      · rw [splitOn, if_pos hc, hcs, List.cons_append]
      · rw [List.cons_append, splitOn, if_pos hc, hback, List.cons_append]
    · rw [List.cons_append, splitOn, splitOn, if_neg hc, if_neg hc, hcs, hback]
      cases ps with
      | nil => exact ⟨[], c :: q, rfl, rfl⟩
      | cons p ps => exact ⟨(c :: p) :: ps, q, rfl, rfl⟩

/-- There is one part more than there are separators. -/
theorem length_splitOn (sep : Char) (cs : List Char) :
    (splitOn sep cs).length = cs.count sep + 1 := by
  induction cs with
  | nil => rfl
  | cons c cs ih =>
    rw [splitOn, List.count_cons]
    by_cases hc : c = sep
    · rw [if_pos hc, List.length_cons, ih, if_pos (beq_iff_eq.mpr hc)]
    · rw [if_neg hc, if_neg (by simpa using hc), ← ih]
      cases hsplit : splitOn sep cs with
      | nil => exact absurd hsplit (splitOn_ne_nil sep cs)
      | cons p ps => rfl

theorem two_le_length_splitOn {cs : List Char} (h : sep ∈ cs) :
    2 ≤ (splitOn sep cs).length := by
  have hcount := List.count_pos_iff.mpr h
  rw [length_splitOn]
  omega

theorem cut_append {p : List Char} (h : sep ∉ p) (rest : List Char) :
    cut sep (p ++ sep :: rest) = some (p, rest) := by
  induction p with
  | nil => rw [List.nil_append, cut, if_pos rfl]
  | cons c p ih =>
    rw [List.mem_cons, not_or] at h
    rw [List.cons_append, cut, if_neg (Ne.symm h.1), ih h.2]
    rfl

theorem cut_eq_none_iff (cs : List Char) : cut sep cs = none ↔ sep ∉ cs := by
  induction cs with
  | nil => exact iff_of_true rfl List.not_mem_nil
  | cons c cs ih =>
    rw [cut, List.mem_cons, not_or]
    by_cases hc : c = sep
    · rw [if_pos hc]
      exact iff_of_false (Option.some_ne_none _) fun h => h.1 hc.symm
    · rw [if_neg hc, Option.map_eq_none_iff, ih]
      exact ⟨fun h => ⟨Ne.symm hc, h⟩, And.right⟩

theorem eq_of_cut_eq_some {cs p rest : List Char} (h : cut sep cs = some (p, rest)) :
    cs = p ++ sep :: rest ∧ sep ∉ p := by
  induction cs generalizing p with
  | nil => exact absurd h.symm (Option.some_ne_none _)
  | cons c cs ih =>
    rw [cut] at h
    by_cases hc : c = sep
    · rw [if_pos hc, Option.some.injEq, Prod.mk.injEq] at h
      rw [← h.1, ← h.2, hc]
      exact ⟨rfl, List.not_mem_nil⟩
    · rw [if_neg hc, Option.map_eq_some_iff] at h
      obtain ⟨⟨q, rest'⟩, hcut, heq⟩ := h
      rw [Prod.mk.injEq] at heq
      obtain ⟨rfl, rfl⟩ := heq
      obtain ⟨rfl, hq⟩ := ih hcut
      refine ⟨rfl, ?_⟩
      rw [List.mem_cons, not_or]
      exact ⟨Ne.symm hc, hq⟩

section

variable {α : Type} (p : α → Bool) {x : α}

theorem takeWhile_append_stop (hx : p x = false) (l r : List α) :
    (l ++ x :: r).takeWhile p = l.takeWhile p := by
  induction l with
  | nil => rw [List.nil_append, List.takeWhile_cons, hx, List.takeWhile_nil]; rfl
  | cons a l ih => rw [List.cons_append, List.takeWhile_cons, List.takeWhile_cons, ih]

theorem dropWhile_append_stop (hx : p x = false) (l r : List α) :
    (l ++ x :: r).dropWhile p = l.dropWhile p ++ x :: r := by
  induction l with
  | nil => rw [List.nil_append, List.dropWhile_cons, hx, List.dropWhile_nil]; rfl
  | cons a l ih =>
    rw [List.cons_append, List.dropWhile_cons, List.dropWhile_cons, ih]
    split <;> rfl

end

end ChainHistory.Text
