import ChainHistory.Proofs.BlankText
import ChainHistory.Proofs.LowerCase

namespace ChainHistory.Text

/-- Whether all targets lie in one range of letters with case. -/
def CaseRun.isCasing (r : CaseRun) : Bool :=
  casedRanges.any fun s => Nat.ble s.1 (r.target r.first) && Nat.ble (r.target r.last) s.2

theorem lowerRuns_casing : lowerRuns.all CaseRun.isCasing = true := by
  decide +kernel

/-- Neither a letter with case nor the dot that the dotted capital leaves. -/
def IsCaseless (c : Char) : Prop := isCased c = false ∧ c ≠ '\u0307'

instance : DecidablePred IsCaseless := fun c =>
  inferInstanceAs (Decidable (isCased c = false ∧ c ≠ '\u0307'))

theorem isCased_of_target {r : CaseRun} (hr : r ∈ lowerRuns) {c : Char}
    (hc : r.contains c.toNat = true) : isCased (Char.ofNat (r.target c.toNat)) = true := by
  have hsound := (sound_of_mem hr).1
  obtain ⟨s, hs, hrange⟩ := List.any_eq_true.mp (List.all_eq_true.mp lowerRuns_casing r hr)
  obtain ⟨hfirst, hlast, -⟩ := mem_of_contains hc
  have hc' := target_eq hsound hfirst
  have hf := target_eq hsound (Nat.le_refl r.first)
  have hl := target_eq hsound (Nat.le_trans hfirst hlast)
  rw [Bool.and_eq_true, Nat.ble_eq, Nat.ble_eq] at hrange
  rw [isCased, toNat_ofNat_target hsound hc, Ranges.contains, List.any_eq_true]
  refine ⟨s, hs, ?_⟩
  rw [Bool.and_eq_true, decide_eq_true_eq, decide_eq_true_eq]
  omega

/-- No character but itself has a caseless one in its lower case. -/
theorem eq_of_mem_lowerChar {c d : Char} (hd : d ∈ lowerChar c) (h : IsCaseless d) : d = c := by
  by_cases hdot : c = 'İ'
  · have hi : ¬ IsCaseless 'i' := by decide +kernel
    rw [lowerChar, if_pos hdot, List.mem_cons, List.mem_singleton] at hd
    rcases hd with rfl | rfl
    · exact absurd h hi
    · exact absurd rfl h.2
  · rw [lowerChar, if_neg hdot, List.mem_singleton, mapByRuns] at hd
    cases hfind : lowerRuns.find? (·.contains c.toNat) with
    | none => rwa [hfind] at hd
    | some r =>
      rw [hfind] at hd
      have hn := List.find?_some hfind
      have hcased := isCased_of_target (List.mem_of_find?_eq_some hfind) hn
      have htarget : d = Char.ofNat (r.target c.toNat) := hd
      rw [← htarget, h.1] at hcased
      exact absurd hcased Bool.false_ne_true

/-- What a character becomes between the text before it, read backwards, and the text behind. -/
def lowerAt (before : List Char) (c : Char) (cs : List Char) : List Char :=
  if c = 'Σ' then (if startsCased before && !startsCased cs then ['ς'] else ['σ'])
  else lowerChar c

theorem lowerFrom_cons (before : List Char) (c : Char) (cs : List Char) :
    lowerFrom before (c :: cs) = lowerAt before c cs ++ lowerFrom (c :: before) cs := rfl

theorem lowerAt_ne_nil (before : List Char) (c : Char) (cs : List Char) :
    lowerAt before c cs ≠ [] := by
  unfold lowerAt lowerChar
  split_ifs <;> exact List.cons_ne_nil _ _

theorem eq_of_mem_lowerAt {before cs : List Char} {c d : Char} (hd : d ∈ lowerAt before c cs)
    (h : IsCaseless d) : d = c := by
  have hsigma : ¬ IsCaseless 'σ' := by decide +kernel
  have hfinal : ¬ IsCaseless 'ς' := by decide +kernel
  unfold lowerAt at hd
  split_ifs at hd
  · exact absurd (List.mem_singleton.mp hd ▸ h) hfinal
  · exact absurd (List.mem_singleton.mp hd ▸ h) hsigma
  · exact eq_of_mem_lowerChar hd h

theorem mem_of_mem_lowerFrom {before cs : List Char} {d : Char} (hd : d ∈ lowerFrom before cs)
    (h : IsCaseless d) : d ∈ cs := by
  induction cs generalizing before with
  | nil => exact hd
  | cons c cs ih =>
    rw [lowerFrom_cons, List.mem_append] at hd
    rcases hd with hd | hd
    · exact eq_of_mem_lowerAt hd h ▸ List.mem_cons_self
    · exact List.mem_cons_of_mem c (ih hd)

theorem head?_of_head?_lowerFrom {before cs : List Char} {d : Char}
    (hd : d ∈ (lowerFrom before cs).head?) (h : IsCaseless d) : d ∈ cs.head? := by
  cases cs with
  | nil => exact hd
  | cons c cs =>
    rw [lowerFrom_cons, List.head?_append_of_ne_nil _ (lowerAt_ne_nil before c cs)] at hd
    exact congrArg some (eq_of_mem_lowerAt (List.mem_of_mem_head? hd) h).symm

theorem getLast?_of_getLast?_lowerFrom {before cs : List Char} {d : Char}
    (hd : d ∈ (lowerFrom before cs).getLast?) (h : IsCaseless d) : d ∈ cs.getLast? := by
  induction cs generalizing before with
  | nil => exact hd
  | cons c cs ih =>
    rw [lowerFrom_cons] at hd
    cases cs with
    | nil =>
      rw [lowerFrom, List.append_nil] at hd
      exact congrArg some (eq_of_mem_lowerAt (List.mem_of_getLast? hd) h).symm
    | cons c' cs =>
      have hne : lowerFrom (c :: before) (c' :: cs) ≠ [] := by
        rw [lowerFrom_cons]
        exact List.append_ne_nil_of_left_ne_nil (lowerAt_ne_nil _ _ _) _
      rw [List.getLast?_append_of_ne_nil _ hne] at hd
      rw [List.getLast?_cons_cons]
      exact ih hd

theorem Ranges.contains_iff {rs : Ranges} {n : Nat} :
    rs.contains n = true ↔ ∃ r ∈ rs, r.1 ≤ n ∧ n ≤ r.2 := by
  simp only [Ranges.contains, List.any_eq_true, Bool.and_eq_true, decide_eq_true_eq]

/-- The blanks as ranges. -/
def blankRanges : Ranges := [
  (0x09, 0x0d), (0x1c, 0x20), (0x85, 0x85), (0xa0, 0xa0), (0x1680, 0x1680), (0x2000, 0x200a),
  (0x2028, 0x2029), (0x202f, 0x202f), (0x205f, 0x205f), (0x3000, 0x3000)]

theorem isBlank_eq (c : Char) : isBlank c = blankRanges.contains c.toNat := by
  rw [Bool.eq_iff_iff, Ranges.contains_iff]
  simp only [isBlank, isWhite, blankRanges, Bool.or_eq_true, Bool.and_eq_true, decide_eq_true_eq,
    beq_iff_eq, List.mem_cons, List.not_mem_nil, or_false, exists_eq_or_imp, exists_eq_left]
  omega

theorem isCaseless_of_isBlank {c : Char} (h : isBlank c = true) : IsCaseless c := by
  have happart : ∀ r ∈ blankRanges, ∀ s ∈ casedRanges, r.2 < s.1 ∨ s.2 < r.1 := by
    decide +kernel
  constructor
  · rw [← Bool.not_eq_true]
    intro hcased
    rw [isBlank_eq] at h
    obtain ⟨r, hr, hrange⟩ := Ranges.contains_iff.mp h
    obtain ⟨s, hs, hrange'⟩ := Ranges.contains_iff.mp hcased
    have hapart := happart r hr s hs
    omega
  · rintro rfl
    exact absurd h (by decide)

theorem strip_lower_strip (s : String) : strip (lower (strip s)) = lower (strip s) := by
  have hkept : trim isBlank (strip s).toList = (strip s).toList := by
    rw [strip, String.toList_ofList, trim_trim]
  obtain ⟨hhead, hlast⟩ := trim_eq_self_iff.mp hkept
  rw [strip, lower, String.toList_ofList]
  refine congrArg String.ofList (trim_eq_self_iff.mpr ⟨?_, ?_⟩)
  · intro c hc
    by_contra hblank
    rw [Bool.not_eq_false] at hblank
    have hc' := head?_of_head?_lowerFrom hc (isCaseless_of_isBlank hblank)
    rw [hhead c hc'] at hblank
    exact Bool.false_ne_true hblank
  · intro c hc
    by_contra hblank
    rw [Bool.not_eq_false] at hblank
    have hc' := getLast?_of_getLast?_lowerFrom hc (isCaseless_of_isBlank hblank)
    rw [hlast c hc'] at hblank
    exact Bool.false_ne_true hblank

end ChainHistory.Text
