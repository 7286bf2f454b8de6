import ChainHistory.Proofs.Separators
import ChainHistory.Text.Blank
import Mathlib.Data.List.DropRight

namespace ChainHistory.Text

theorem trimEnd_eq_rdropWhile (p : Char → Bool) (cs : List Char) :
    trimEnd p cs = cs.rdropWhile p := rfl

theorem getLast?_trimEnd_ne {p : Char → Bool} {c : Char} (h : p c = true) (cs : List Char) :
    (trimEnd p cs).getLast? ≠ some c := by
  intro hlast
  have hhead := List.head?_dropWhile_not p cs.reverse
  rw [trimEnd, List.getLast?_reverse] at hlast
  rw [hlast] at hhead
  exact absurd h (by rw [hhead]; exact Bool.false_ne_true)

theorem trim_eq_nil_iff (p : Char → Bool) (cs : List Char) :
    trim p cs = [] ↔ cs.all p = true := by
  rw [trim, trimEnd_eq_rdropWhile, List.rdropWhile_eq_nil_iff, List.all_eq_true]
  constructor
  · intro h c hc
    -- A character before the first kept one is dropped, and all others are dropped from the end.
    rw [← List.takeWhile_append_dropWhile (p := p) (l := cs)] at hc
    rcases List.mem_append.mp hc with hc | hc
    · exact List.mem_takeWhile_imp hc
    · exact h c hc
  · intro h c hc
    exact h c ((List.dropWhile_suffix p).subset hc)

theorem dropWhile_trim (p : Char → Bool) (cs : List Char) :
    (trim p cs).dropWhile p = trim p cs := by
  rw [trim, trimEnd_eq_rdropWhile]
  obtain ⟨rest, hrest⟩ := List.rdropWhile_prefix p (cs.dropWhile p)
  cases hkept : (cs.dropWhile p).rdropWhile p with
  | nil => rfl
  | cons c kept =>
    have hhead : (cs.dropWhile p).head? = some c := by
      rw [← hrest, hkept]
      rfl
    have hc : ¬ p c = true := by
      have h := List.head?_dropWhile_not p cs
      rw [hhead] at h
      simpa using h
    rw [List.dropWhile_cons_of_neg hc]

theorem trim_subset (p : Char → Bool) (cs : List Char) : trim p cs ⊆ cs := by
  rw [trim, trimEnd_eq_rdropWhile]
  exact List.Subset.trans (List.rdropWhile_prefix p _).subset (List.dropWhile_suffix p).subset

theorem trim_trim (p : Char → Bool) (cs : List Char) : trim p (trim p cs) = trim p cs := by
  rw [trim, dropWhile_trim, trim, trimEnd_eq_rdropWhile, trimEnd_eq_rdropWhile,
    List.rdropWhile_idempotent]

theorem trimEnd_append {p : Char → Bool} {back : List Char} (h : ∀ c ∈ back, p c = true)
    (cs : List Char) : trimEnd p (cs ++ back) = trimEnd p cs := by
  rw [trimEnd, List.reverse_append, List.dropWhile_append_of_pos, ← trimEnd]
  intro c hc
  exact h c (List.mem_reverse.mp hc)

theorem trim_append {p : Char → Bool} {front back : List Char} (hfront : ∀ c ∈ front, p c = true)
    (hback : ∀ c ∈ back, p c = true) (cs : List Char) :
    trim p (front ++ cs ++ back) = trim p cs := by
  rw [trim, List.append_assoc, List.dropWhile_append_of_pos hfront, List.dropWhile_append]
  split
  · rename_i hempty
    -- Nothing of the text itself is kept, and the blanks behind it are dropped as well.
    have hcs : cs.dropWhile p = [] := List.isEmpty_iff.mp hempty
    have hnone : back.dropWhile p = [] := List.dropWhile_eq_nil_iff.mpr hback
    rw [hnone, trim, hcs]
  · rw [trimEnd_append hback, trim]

theorem trim_append_right {p : Char → Bool} {back : List Char} (hback : ∀ c ∈ back, p c = true)
    (cs : List Char) : trim p (cs ++ back) = trim p cs := by
  have hfront : ∀ c ∈ ([] : List Char), p c = true := fun _ hc => absurd hc List.not_mem_nil
  exact trim_append hfront hback cs

theorem trimEnd_append_stop {p : Char → Bool} {x : Char} (hx : p x = false) (l r : List Char) :
    trimEnd p (l ++ x :: r) = l ++ x :: trimEnd p r := by
  have hreverse : (l ++ x :: r).reverse = r.reverse ++ x :: l.reverse := by
    rw [List.reverse_append, List.reverse_cons, List.append_assoc, List.singleton_append]
  rw [trimEnd, hreverse, dropWhile_append_stop p hx, List.reverse_append, List.reverse_cons,
    List.reverse_reverse, List.append_assoc, List.singleton_append, trimEnd]

/-- Around a character that is kept, what is before it loses its start and what is behind it its
end. -/
theorem trim_append_stop {p : Char → Bool} {x : Char} (hx : p x = false) (l r : List Char) :
    trim p (l ++ x :: r) = l.dropWhile p ++ x :: trimEnd p r := by
  rw [trim, dropWhile_append_stop p hx, trimEnd_append_stop hx]

theorem trim_dropWhile (p : Char → Bool) (cs : List Char) :
    trim p (cs.dropWhile p) = trim p cs := by
  rw [trim, List.dropWhile_idempotent, ← trim]

theorem dropWhile_of_head? {p : Char → Bool} {cs : List Char}
    (h : ∀ c ∈ cs.head?, p c = false) : cs.dropWhile p = cs := by
  cases cs with
  | nil => rfl
  | cons c cs => exact List.dropWhile_cons_of_neg (by rw [h c rfl]; exact Bool.false_ne_true)

/-- A text is kept whole if it neither starts nor ends with a character that is dropped. -/
theorem trim_eq_self_iff {p : Char → Bool} {cs : List Char} : trim p cs = cs ↔
    (∀ c ∈ cs.head?, p c = false) ∧ ∀ c ∈ cs.getLast?, p c = false := by
  constructor
  · intro h
    refine ⟨?_, ?_⟩
    · intro c hc
      have hhead := List.head?_dropWhile_not p cs
      rw [← h, dropWhile_trim, h, hc] at hhead
      exact hhead
    · intro c hc
      rw [← h] at hc
      by_contra hdropped
      exact getLast?_trimEnd_ne (Bool.of_not_eq_false hdropped) _ hc
  · rintro ⟨hhead, hlast⟩
    rw [trim, dropWhile_of_head? hhead, trimEnd, dropWhile_of_head?, List.reverse_reverse]
    rwa [List.head?_reverse]

theorem trim_of_forall {p : Char → Bool} {cs : List Char} (h : ∀ c ∈ cs, p c = false) :
    trim p cs = cs :=
  trim_eq_self_iff.mpr
    ⟨fun c hc => h c (List.mem_of_mem_head? hc), fun c hc => h c (List.mem_of_getLast? hc)⟩

theorem exists_dropped_end (p : Char → Bool) (cs : List Char) :
    ∃ back, (∀ c ∈ back, p c = true) ∧ cs = trimEnd p cs ++ back := by
  refine ⟨(cs.reverse.takeWhile p).reverse, ?_, ?_⟩
  · intro c hc
    exact List.mem_takeWhile_imp (List.mem_reverse.mp hc)
  · rw [trimEnd, ← List.reverse_append, List.takeWhile_append_dropWhile, List.reverse_reverse]

/-- What is dropped at the end of a text is dropped from the last of its parts. -/
theorem map_trim_splitOn_trimEnd {p : Char → Bool} {sep : Char} (hsep : p sep = false)
    (cs : List Char) :
    (splitOn sep (trimEnd p cs)).map (trim p) = (splitOn sep cs).map (trim p) := by
  obtain ⟨back, hback, hcs⟩ := exists_dropped_end p cs
  have hnot : sep ∉ back := by
    intro hmem
    rw [hback sep hmem] at hsep
    exact Bool.noConfusion hsep
  obtain ⟨ps, q, hkept, hall⟩ := exists_splitOn_append hnot (trimEnd p cs)
  have htrim : trim p ([] ++ q ++ back) = trim p q :=
    trim_append (fun _ h => absurd h List.not_mem_nil) hback q
  rw [List.nil_append] at htrim
  rw [← hcs] at hall
  rw [hkept, hall, List.map_append, List.map_append, List.map_singleton, List.map_singleton, htrim]

theorem strip_strip (s : String) : strip (strip s) = strip s := by
  simp only [strip, String.toList_ofList, trim_trim]

theorem strip_append {front back : String} (hfront : isBlankText front = true)
    (hback : isBlankText back = true) (s : String) : strip (front ++ s ++ back) = strip s := by
  rw [isBlankText, List.all_eq_true] at hfront hback
  rw [strip, String.toList_append, String.toList_append, trim_append hfront hback, strip]

theorem isBlankText_iff (s : String) : isBlankText s = true ↔ strip s = "" := by
  rw [isBlankText, ← trim_eq_nil_iff, strip]
  constructor
  · intro h
    rw [h, String.ofList_nil]
  · intro h
    have hl := congrArg String.toList h
    rwa [String.toList_ofList, String.toList_empty] at hl

theorem clean_some (s : String) :
    clean (some s) = if strip s = "" then none else some (strip s) := by
  simp only [clean, isBlankText_iff]

theorem clean_eq_some_iff (token : Option String) (t : String) :
    clean token = some t ↔ t ≠ "" ∧ ∃ s, token = some s ∧ strip s = t := by
  cases token with
  | none => simp [clean]
  | some s =>
    rw [clean_some]
    by_cases hs : strip s = ""
    · simp only [hs, if_true, reduceCtorEq, Option.some.injEq, exists_eq_left', false_iff, not_and]
      exact fun ht h => ht h.symm
    · simp only [hs, if_false, Option.some.injEq, exists_eq_left']
      exact ⟨fun h => ⟨h ▸ hs, h⟩, And.right⟩

theorem clean_clean (token : Option String) : clean (clean token) = clean token := by
  cases h : clean token with
  | none => rfl
  | some t =>
    obtain ⟨ht, s, -, hs⟩ := (clean_eq_some_iff token t).mp h
    rw [clean_eq_some_iff]
    exact ⟨ht, t, rfl, by rw [← hs, strip_strip]⟩

/-- Outer blanks make no difference to what a text says. -/
theorem clean_append {front back : String} (hfront : isBlankText front = true)
    (hback : isBlankText back = true) (s : String) :
    clean (some (front ++ s ++ back)) = clean (some s) := by
  rw [clean_some, clean_some, strip_append hfront hback]

theorem clean_of_blank {s : String} (h : isBlankText s = true) : clean (some s) = none := by
  rw [clean, if_pos h]

theorem eq_of_nonEmpty?_eq_some {s : Option String} {x : String} (h : nonEmpty? s = some x) :
    s = some x :=
  (Option.filter_eq_some_iff.mp h).1

theorem nonEmpty?_of_ne {s : String} (hs : s ≠ "") : nonEmpty? (some s) = some s := by
  simp only [nonEmpty?, Option.filter_some, ne_eq, hs, not_false_eq_true, decide_true, if_true]

end ChainHistory.Text
