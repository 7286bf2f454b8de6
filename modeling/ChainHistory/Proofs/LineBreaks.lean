import ChainHistory.Proofs.Separators

namespace ChainHistory.Text

/-- The ways in which a line ends. -/
inductive LineEnd
  | feed
  | carriage
  | carriageFeed

def LineEnd.chars : LineEnd → List Char
  | feed => ['\n']
  | carriage => ['\r']
  | carriageFeed => ['\r', '\n']

/-- A text on one line. -/
def Unbroken (cs : List Char) : Prop := '\n' ∉ cs ∧ '\r' ∉ cs

instance : DecidablePred Unbroken := fun cs =>
  inferInstanceAs (Decidable ('\n' ∉ cs ∧ '\r' ∉ cs))

theorem Unbroken.of_subset {as bs : List Char} (h : Unbroken bs) (hsub : as ⊆ bs) : Unbroken as :=
  ⟨fun hmem => h.1 (hsub hmem), fun hmem => h.2 (hsub hmem)⟩

theorem unbroken_append {as bs : List Char} : Unbroken (as ++ bs) ↔ Unbroken as ∧ Unbroken bs := by
  simp only [Unbroken, List.mem_append, not_or]
  exact and_and_and_comm

theorem unbroken_cons {c : Char} {cs : List Char} :
    Unbroken (c :: cs) ↔ (c ≠ '\n' ∧ c ≠ '\r') ∧ Unbroken cs := by
  have hne (d : Char) : ¬ d = c ↔ c ≠ d := ne_comm
  simp only [Unbroken, List.mem_cons, not_or, hne]
  exact and_and_and_comm

theorem unifyBreaks_cons_of_ne {c : Char} (h : c ≠ '\r') (cs : List Char) :
    unifyBreaks (c :: cs) = c :: unifyBreaks cs := by
  rw [unifyBreaks, if_neg h]
  rintro _ rfl
  exact absurd rfl h

theorem unifyBreaks_carriage_feed (cs : List Char) :
    unifyBreaks ('\r' :: '\n' :: cs) = '\n' :: unifyBreaks cs := by
  rw [unifyBreaks]

theorem unifyBreaks_carriage {cs : List Char} (h : cs.head? ≠ some '\n') :
    unifyBreaks ('\r' :: cs) = '\n' :: unifyBreaks cs := by
  rw [unifyBreaks, if_pos rfl]
  rintro cs' - rfl
  exact h rfl

theorem unifyBreaks_of_unbroken {cs : List Char} (h : Unbroken cs) : unifyBreaks cs = cs := by
  induction cs with
  | nil => rfl
  | cons c cs ih =>
    obtain ⟨hc, hcs⟩ := unbroken_cons.mp h
    rw [unifyBreaks_cons_of_ne hc.2, ih hcs]

/-- Breaks are the same in a text as in its parts, unless a pair is cut apart. -/
theorem unifyBreaks_append {a b : List Char}
    (h : a.getLast? = some '\r' → b.head? ≠ some '\n') :
    unifyBreaks (a ++ b) = unifyBreaks a ++ unifyBreaks b := by
  have hlast {c : Char} {cs : List Char} (hcs : cs.getLast? = some '\r') :
      (c :: cs).getLast? = some '\r' := by
    rw [List.getLast?_cons, hcs]
    rfl
  fun_induction unifyBreaks a with
  | case1 => rfl
  | case2 cs ih =>
    rw [List.cons_append, List.cons_append, unifyBreaks_carriage_feed,
      ih fun hcs => h (hlast (hlast hcs)), List.cons_append]
  | case3 c cs hpair ih =>
    have hrest := ih fun hcs => h (hlast hcs)
    by_cases hc : c = '\r'
    · subst hc
      have hhead : (cs ++ b).head? ≠ some '\n' := by
        cases cs with
        | nil => exact h rfl
        | cons d cs =>
          intro hd
          exact hpair cs rfl (by rw [Option.some.inj hd])
      rw [List.cons_append, unifyBreaks_carriage hhead, hrest, if_pos rfl, List.cons_append]
    · rw [List.cons_append, unifyBreaks_cons_of_ne hc, hrest, if_neg hc, List.cons_append]

theorem lines_of_unbroken {cs : List Char} (h : Unbroken cs) : lines cs = [cs] := by
  rw [lines, unifyBreaks_of_unbroken h, splitOn_of_notMem h.1]

section Seam

variable {α : Type} {f : List Char → Option α}

theorem lines_append_carriage_feed (a b : List Char) :
    lines (a ++ '\r' :: '\n' :: b) = lines a ++ lines b := by
  have hseam : a.getLast? = some '\r' → ('\r' :: '\n' :: b).head? ≠ some '\n' := by
    intro _ h
    exact absurd (Option.some.inj h) (by decide)
  rw [lines, unifyBreaks_append hseam, unifyBreaks_carriage_feed, splitOn_append_sep, lines, lines]

/-- A line feed that begins a text ends an empty line, which gives nothing. -/
theorem filterMap_lines_feed (hf : f [] = none) (cs : List Char) :
    (lines ('\n' :: cs)).filterMap f = (lines cs).filterMap f := by
  rw [lines, unifyBreaks_cons_of_ne (by decide), splitOn, if_pos rfl, List.filterMap_cons, hf,
    lines]

theorem filterMap_lines_append_carriage (hf : f [] = none) (a b : List Char) :
    (lines (a ++ '\r' :: b)).filterMap f = (lines a).filterMap f ++ (lines b).filterMap f := by
  by_cases hb : b.head? = some '\n'
  · -- The feed that the second text begins with belongs to the seam.
    obtain ⟨b, rfl⟩ := List.head?_eq_some_iff.mp hb
    rw [lines_append_carriage_feed, List.filterMap_append, filterMap_lines_feed hf]
  · have hseam : a.getLast? = some '\r' → ('\r' :: b).head? ≠ some '\n' := by
      intro _ h
      exact absurd (Option.some.inj h) (by decide)
    rw [lines, unifyBreaks_append hseam, unifyBreaks_carriage hb, splitOn_append_sep,
      List.filterMap_append, lines, lines]

theorem filterMap_lines_append_feed (hf : f [] = none) (a b : List Char) :
    (lines (a ++ '\n' :: b)).filterMap f = (lines a).filterMap f ++ (lines b).filterMap f := by
  by_cases ha : a.getLast? = some '\r'
  · -- The return that the first text ends with belongs to the seam.
    obtain ⟨a, rfl⟩ := List.getLast?_eq_some_iff.mp ha
    have hempty : (lines []).filterMap f = [] := by
      rw [lines_of_unbroken (by decide), List.filterMap_cons, hf, List.filterMap_nil]
    rw [List.append_assoc, List.singleton_append, lines_append_carriage_feed,
      filterMap_lines_append_carriage hf a [], hempty, List.append_nil, List.filterMap_append]
  · rw [lines, unifyBreaks_append fun h => absurd h ha, unifyBreaks_cons_of_ne (by decide),
      splitOn_append_sep, List.filterMap_append, lines, lines]

/-- Lines of joined texts give what the lines of either give, one after the other. -/
theorem filterMap_lines_append (hf : f [] = none) (a : List Char) (e : LineEnd) (b : List Char) :
    (lines (a ++ e.chars ++ b)).filterMap f =
      (lines a).filterMap f ++ (lines b).filterMap f := by
  rw [List.append_assoc]
  cases e with
  | feed => exact filterMap_lines_append_feed hf a b
  | carriage => exact filterMap_lines_append_carriage hf a b
  | carriageFeed =>
    rw [← List.filterMap_append]
    exact congrArg (List.filterMap f) (lines_append_carriage_feed a b)

end Seam

end ChainHistory.Text
