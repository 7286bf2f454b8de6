import ChainHistory.Text.Case

/-! Lower case of lower case. No character that the table of lower cases sends somewhere is the
lower case of another one, so that a text in lower case stays as it is. -/

namespace ChainHistory.Text

/-- Where a run sends a member. -/
def CaseRun.target (r : CaseRun) (n : Nat) : Nat := ((n : Int) + r.shift).toNat

/-- Whether the members of `s` lie outside the targets of `r`: before or after all of them, or
between them. -/
def CaseRun.misses (r s : CaseRun) : Bool :=
  Nat.blt (r.target r.last) s.first || Nat.blt s.last (r.target r.first) ||
    (Nat.beq s.step 2 && (Nat.beq r.first r.last || Nat.beq r.step 2) &&
      Nat.beq ((r.target r.first + s.first) % 2) 1)

/-- Whether all targets are characters. -/
def CaseRun.isSound (r : CaseRun) : Bool :=
  Nat.ble 1 r.step && (0 ≤ (r.first : Int) + r.shift) &&
    (Nat.blt (r.target r.last) 0xd800 ||
      (Nat.blt 0xdfff (r.target r.first) && Nat.blt (r.target r.last) 0x110000))

/-- The capital letter with a dot, which has two characters as its lower case. -/
def dottedRun : CaseRun := ⟨0x130, 0x130, 1, 0⟩

theorem lowerRuns_sound : (lowerRuns.all fun r =>
    r.isSound && (dottedRun :: lowerRuns).all r.misses) = true := by
  decide +kernel

theorem mem_of_contains {r : CaseRun} {n : Nat} (h : r.contains n = true) :
    r.first ≤ n ∧ n ≤ r.last ∧ (n - r.first) % r.step = 0 := by
  simpa only [CaseRun.contains, Bool.and_eq_true, decide_eq_true_eq, beq_iff_eq, and_assoc] using h

theorem target_eq {r : CaseRun} (hr : r.isSound = true) {n : Nat} (hn : r.first ≤ n) :
    (r.target n : Int) = n + r.shift := by
  simp only [CaseRun.isSound, Bool.and_eq_true, decide_eq_true_eq] at hr
  rw [CaseRun.target, Int.toNat_of_nonneg]
  omega

/-- A run that `r` misses holds no target of `r`. -/
theorem not_contains_target {r s : CaseRun} (hr : r.isSound = true) (h : r.misses s = true)
    {n : Nat} (hn : r.contains n = true) : s.contains (r.target n) = false := by
  obtain ⟨hfirst, hlast, hstep⟩ := mem_of_contains hn
  have hn' := target_eq hr hfirst
  have hf := target_eq hr (Nat.le_refl r.first)
  have hl := target_eq hr (Nat.le_trans hfirst hlast)
  rw [← Bool.not_eq_true]
  intro hs
  obtain ⟨hsfirst, hslast, hsstep⟩ := mem_of_contains hs
  simp only [CaseRun.misses, Bool.or_eq_true, Bool.and_eq_true, Nat.blt_eq, Nat.beq_eq] at h
  rcases h with (h | h) | ⟨⟨hs2, hr2⟩, hodd⟩
  · omega
  · omega
  · -- The members of `s` are two apart, and the targets of `r` have the other parity.
    rw [hs2] at hsstep
    rcases hr2 with hr1 | hr2
    · omega
    · rw [hr2] at hstep
      omega

/-- Whether the table sends a character nowhere. -/
def isSettled (c : Char) : Bool :=
  (dottedRun :: lowerRuns).all fun r => !r.contains c.toNat

theorem sound_of_mem {r : CaseRun} (hr : r ∈ lowerRuns) :
    r.isSound = true ∧ ∀ s ∈ dottedRun :: lowerRuns, r.misses s = true := by
  have h := List.all_eq_true.mp lowerRuns_sound r hr
  rw [Bool.and_eq_true, List.all_eq_true] at h
  exact h

theorem toNat_ofNat_target {r : CaseRun} (hr : r.isSound = true) {n : Nat}
    (hn : r.contains n = true) : (Char.ofNat (r.target n)).toNat = r.target n := by
  obtain ⟨hfirst, hlast, -⟩ := mem_of_contains hn
  have hn' := target_eq hr hfirst
  have hf := target_eq hr (Nat.le_refl r.first)
  have hl := target_eq hr (Nat.le_trans hfirst hlast)
  simp only [CaseRun.isSound, Bool.and_eq_true, Bool.or_eq_true, Nat.blt_eq, Nat.ble_eq,
    decide_eq_true_eq] at hr
  have hvalid : (r.target n).isValidChar := by
    rcases hr.2 with h | ⟨h, h'⟩
    · exact Or.inl (by omega)
    · exact Or.inr ⟨by omega, by omega⟩
  rw [Char.ofNat, dif_pos hvalid]
  rfl

theorem isSettled_mapByRuns {c : Char} (hc : c ≠ 'İ') :
    isSettled (mapByRuns lowerRuns c) = true := by
  rw [isSettled, List.all_eq_true]
  intro s hs
  rw [Bool.not_eq_true', mapByRuns]
  -- A character that no run holds stays where it is, and a target is in no run either.
  cases hfind : lowerRuns.find? (·.contains c.toNat) with
  | none =>
    rcases List.mem_cons.mp hs with rfl | hs
    · rw [← Bool.not_eq_true]
      intro h
      obtain ⟨h₁, h₂, -⟩ := mem_of_contains h
      have hdot : c.toNat = 'İ'.toNat := Nat.le_antisymm h₂ h₁
      exact hc (Char.toNat_inj.mp hdot)
    · simpa using List.find?_eq_none.mp hfind s hs
  | some r =>
    have hr := sound_of_mem (List.mem_of_find?_eq_some hfind)
    have hn := List.find?_some hfind
    have htarget := toNat_ofNat_target hr.1 hn
    rw [CaseRun.target] at htarget
    simp only [htarget]
    exact not_contains_target hr.1 (hr.2 s hs) hn

theorem lowerChar_of_isSettled {c : Char} (h : isSettled c = true) : lowerChar c = [c] := by
  rw [isSettled, List.all_cons, Bool.and_eq_true, List.all_eq_true] at h
  have hdot : c ≠ 'İ' := by
    rintro rfl
    exact absurd h.1 (by decide)
  have hnone : lowerRuns.find? (·.contains c.toNat) = none := by
    rw [List.find?_eq_none]
    intro r hr
    simpa using h.2 r hr
  rw [lowerChar, if_neg hdot, mapByRuns, hnone]

theorem ne_sigma_of_isSettled {c : Char} (h : isSettled c = true) : c ≠ 'Σ' := by
  rintro rfl
  exact absurd h (by decide +kernel)

theorem isSettled_of_mem_lowerChar {c d : Char} (hd : d ∈ lowerChar c) : isSettled d = true := by
  by_cases hc : c = 'İ'
  · have hi : isSettled 'i' = true := by decide +kernel
    have hdot : isSettled '\u0307' = true := by decide +kernel
    rw [lowerChar, if_pos hc, List.mem_cons, List.mem_singleton] at hd
    rcases hd with rfl | rfl
    · exact hi
    · exact hdot
  · rw [lowerChar, if_neg hc, List.mem_singleton] at hd
    exact hd ▸ isSettled_mapByRuns hc

theorem isSettled_of_mem_lowerFrom {before cs : List Char} {d : Char}
    (hd : d ∈ lowerFrom before cs) : isSettled d = true := by
  induction cs generalizing before with
  | nil => exact absurd hd List.not_mem_nil
  | cons c cs ih =>
    rw [lowerFrom, List.mem_append] at hd
    rcases hd with hd | hd
    · have hfinal : isSettled 'ς' = true := by decide +kernel
      have hsigma : isSettled 'σ' = true := by decide +kernel
      split at hd
      · split at hd
        · exact List.mem_singleton.mp hd ▸ hfinal
        · exact List.mem_singleton.mp hd ▸ hsigma
      · exact isSettled_of_mem_lowerChar hd
    · exact ih hd

/-- The sigma at the end of a word is settled by the first reading: only capitals look around. -/
theorem lowerFrom_of_isSettled {cs : List Char} (h : ∀ c ∈ cs, isSettled c = true)
    (before : List Char) : lowerFrom before cs = cs := by
  induction cs generalizing before with
  | nil => rfl
  | cons c cs ih =>
    have hc := h c List.mem_cons_self
    rw [lowerFrom, if_neg (ne_sigma_of_isSettled hc), lowerChar_of_isSettled hc,
      ih (fun d hd => h d (List.mem_cons_of_mem c hd))]
    rfl

theorem toNat_lt_of_toLower {c : Char} (h : c.toLower.toNat < 128) : c.toNat < 128 := by
  unfold Char.toLower at h
  split at h
  · rename_i hcapital
    have hle : c.toNat ≤ 'Z'.toNat := hcapital.2
    exact Nat.lt_of_le_of_lt hle (by decide)
  · exact h

theorem lowerChar_of_lt {c : Char} (h : c.toNat < 128) : lowerChar c = [c.toLower] := by
  have hall : ∀ n < 128, lowerChar (Char.ofNat n) = [(Char.ofNat n).toLower] := by
    decide +kernel
  have hc := hall c.toNat h
  rwa [Char.ofNat_toNat] at hc

/-- In ASCII the lower case of a text is that of its letters. -/
theorem lowerFrom_of_lt {cs : List Char} (h : ∀ c ∈ cs, c.toNat < 128) (before : List Char) :
    lowerFrom before cs = cs.map Char.toLower := by
  induction cs generalizing before with
  | nil => rfl
  | cons c cs ih =>
    obtain ⟨hc, hcs⟩ := List.forall_mem_cons.mp h
    have hsigma : c ≠ 'Σ' := by
      rintro rfl
      exact absurd hc (by decide)
    rw [lowerFrom, if_neg hsigma, lowerChar_of_lt hc, ih hcs]
    rfl

theorem lower_lower (s : String) : lower (lower s) = lower s := by
  have h : lowerFrom [] (lower s).toList = (lower s).toList := by
    apply lowerFrom_of_isSettled
    intro c hc
    rw [lower, String.toList_ofList] at hc
    exact isSettled_of_mem_lowerFrom hc
  rw [lower, h, String.ofList_toList]

end ChainHistory.Text
