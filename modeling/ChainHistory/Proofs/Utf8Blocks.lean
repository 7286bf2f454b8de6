import ChainHistory.Proofs.Utf8RoundTrip

/-! Text that is read in blocks. The end of a block may cut a character; the bytes that are left of
it go before the next block, so that blocks of every size give the text that their bytes spell. -/

namespace ChainHistory.Text.Utf8

/-- The lead byte of a character and the bytes that belong to it. -/
inductive IsCharacter : UInt8 → List UInt8 → Prop
  | one {b : UInt8} (hb : b < 0x80) : IsCharacter b []
  | two {b c : UInt8} (hb : 0xc2 ≤ b) (hb' : b < 0xe0) (hc : isContinuation c = true) :
      IsCharacter b [c]
  | three {b c d : UInt8} (hb : 0xe0 ≤ b) (hb' : b < 0xf0) (hc : secondAllowed b c = true)
      (hd : isContinuation d = true) : IsCharacter b [c, d]
  | four {b c d e : UInt8} (hb : 0xf0 ≤ b) (hb' : b < 0xf5) (hc : secondAllowed b c = true)
      (hd : isContinuation d = true) (he : isContinuation e = true) : IsCharacter b [c, d, e]

section Cut

variable {b c d : UInt8} {rest : List UInt8}

/-- What a step reads without a fault is a character. -/
theorem isCharacter_of_step {more n : ℕ} (h : step b rest = ⟨more, .ok n⟩) :
    IsCharacter b (rest.take more) := by
  unfold step at h
  by_cases h₁ : b < 0x80
  · rw [if_pos h₁] at h
    cases h
    exact .one h₁
  by_cases h₂ : b < 0xc2
  · rw [if_neg h₁, if_pos h₂] at h
    cases h
  by_cases h₃ : b < 0xe0
  · rw [if_neg h₁, if_neg h₂, if_pos h₃] at h
    split at h
    · cases h
    · split at h <;> cases h
      rename_i hc
      exact .two (UInt8.not_lt.mp h₂) h₃ hc
  by_cases h₄ : b < 0xf0
  · rw [if_neg h₁, if_neg h₂, if_neg h₃, if_pos h₄] at h
    split at h
    · cases h
    · split at h
      · cases h
      · split at h
        · cases h
        · split at h <;> cases h
          rename_i hc _ _ _ hd
          exact .three (UInt8.not_lt.mp h₃) h₄ (by simpa using hc) hd
  by_cases h₅ : b < 0xf5
  · rw [if_neg h₁, if_neg h₂, if_neg h₃, if_neg h₄, if_pos h₅] at h
    split at h
    · cases h
    · split at h
      · cases h
      · split at h
        · cases h
        · split at h
          · cases h
          · split at h
            · cases h
            · split at h <;> cases h
              rename_i hc _ _ hd _ _ _ he
              exact .four (UInt8.not_lt.mp h₄) h₅ (by simpa using hc) (by simpa using hd) he
  · rw [if_neg h₁, if_neg h₂, if_neg h₃, if_neg h₄, if_neg h₅] at h
    cases h

theorem step_lead (hb : 0xc2 ≤ b) (hb' : b < 0xf5) : step b [] = ⟨0, .error .endOfData⟩ := by
  have h₁ : ¬ b < 0x80 := UInt8.not_lt.mpr (UInt8.le_trans (by decide) hb)
  simp only [step, if_neg h₁, if_neg (UInt8.not_lt.mpr hb), if_pos hb', ite_self]

theorem step_lead_second (hb : 0xe0 ≤ b) (hb' : b < 0xf5) (hc : secondAllowed b c = true) :
    step b [c] = ⟨1, .error .endOfData⟩ := by
  have h₁ : ¬ b < 0x80 := UInt8.not_lt.mpr (UInt8.le_trans (by decide) hb)
  have h₂ : ¬ b < 0xc2 := UInt8.not_lt.mpr (UInt8.le_trans (by decide) hb)
  simp only [step, if_neg h₁, if_neg h₂, if_neg (UInt8.not_lt.mpr hb), if_pos hb', hc,
    Bool.not_true, Bool.false_eq_true, if_false, ite_self]

theorem step_lead_second_third (hb : 0xf0 ≤ b) (hb' : b < 0xf5) (hc : secondAllowed b c = true)
    (hd : isContinuation d = true) : step b [c, d] = ⟨2, .error .endOfData⟩ := by
  have h₁ : ¬ b < 0x80 := UInt8.not_lt.mpr (UInt8.le_trans (by decide) hb)
  have h₂ : ¬ b < 0xc2 := UInt8.not_lt.mpr (UInt8.le_trans (by decide) hb)
  have h₃ : ¬ b < 0xe0 := UInt8.not_lt.mpr (UInt8.le_trans (by decide) hb)
  simp only [step, if_neg h₁, if_neg h₂, if_neg h₃, if_neg (UInt8.not_lt.mpr hb), if_pos hb', hc,
    hd, Bool.not_true, Bool.false_eq_true, if_false]

/-- A character that is cut is waited for, wherever it is cut behind its lead byte. -/
theorem IsCharacter.step_take {tail : List UInt8} (h : IsCharacter b tail) {k : ℕ}
    (hk : k < tail.length) : ∃ more, step b (tail.take k) = ⟨more, .error .endOfData⟩ := by
  cases h with
  | one hb => exact absurd hk (Nat.not_lt_zero k)
  | two hb hb' hc =>
    obtain rfl : k = 0 := by simpa using hk
    exact ⟨0, step_lead hb (UInt8.lt_of_lt_of_le hb' (by decide))⟩
  | three hb hb' hc hd =>
    have hb₅ : b < 0xf5 := UInt8.lt_of_lt_of_le hb' (by decide)
    obtain rfl | rfl : k = 0 ∨ k = 1 := by rw [List.length_cons, List.length_singleton] at hk; omega
    · exact ⟨0, step_lead (UInt8.le_trans (by decide) hb) hb₅⟩
    · exact ⟨1, step_lead_second hb hb₅ hc⟩
  | four hb hb' hc hd he =>
    have hb₃ : 0xe0 ≤ b := UInt8.le_trans (by decide) hb
    obtain rfl | rfl | rfl : k = 0 ∨ k = 1 ∨ k = 2 := by
      rw [List.length_cons, List.length_cons, List.length_singleton] at hk
      omega
    · exact ⟨0, step_lead (UInt8.le_trans (by decide) hb) hb'⟩
    · exact ⟨1, step_lead_second hb₃ hb' hc⟩
    · exact ⟨2, step_lead_second_third hb hb' hc hd⟩

end Cut

/-- Some bytes of a character, the lead byte among them, but not all. -/
def IsCutOff (left : List UInt8) : Prop :=
  ∃ b tail more, left = b :: tail ∧ step b tail = ⟨more, .error .endOfData⟩

/-- Bytes that begin a text are whole characters and what is left of one that is cut. -/
theorem exists_cut {cs : List Char} {bs rest : List UInt8} (h : bs ++ rest = encode cs) :
    ∃ front back left, cs = front ++ back ∧ bs = encode front ++ left ∧
      left ++ rest = encode back ∧ (left = [] ∨ IsCutOff left) := by
  induction cs generalizing bs with
  | nil =>
    obtain ⟨rfl, rfl⟩ := List.append_eq_nil_iff.mp h
    exact ⟨[], [], [], rfl, rfl, rfl, Or.inl rfl⟩
  | cons c cs ih =>
    have h' := h
    rw [encode, List.flatMap_cons, ← encode, List.append_eq_append_iff] at h'
    rcases h' with ⟨more, hc, hrest⟩ | ⟨bs', rfl, hcs⟩
    · -- The bytes end in the first character or right behind it.
      obtain ⟨b, tail, henc, hstep⟩ := step_encodeChar c []
      rw [List.append_nil] at hstep
      rcases bs with _ | ⟨b', bs⟩
      · exact ⟨[], c :: cs, [], rfl, rfl, h, Or.inl rfl⟩
      · rw [henc, List.cons_append, List.cons.injEq] at hc
        obtain ⟨rfl, rfl⟩ := hc
        rcases more with _ | ⟨m, more⟩
        · refine ⟨[c], cs, [], rfl, ?_, hrest, Or.inl rfl⟩
          simp only [encode, List.flatMap_cons, List.flatMap_nil, henc, List.append_nil]
        · refine ⟨[], c :: cs, b :: bs, rfl, rfl, h, Or.inr ?_⟩
          have hchar := isCharacter_of_step hstep
          rw [List.take_length] at hchar
          obtain ⟨n, hn⟩ := hchar.step_take (k := bs.length) (by
            rw [List.length_append, List.length_cons]
            omega)
          rw [List.take_left] at hn
          exact ⟨b, bs, n, rfl, hn⟩
    · obtain ⟨front, back, left, rfl, rfl, hback, hleft⟩ := ih hcs.symm
      refine ⟨c :: front, back, left, rfl, ?_, hback, hleft⟩
      rw [encode, encode, List.flatMap_cons, List.append_assoc]

theorem decodeFrom_encode_append {b : UInt8} {tail : List UInt8} {more : ℕ} {f : Fault}
    (h : step b tail = ⟨more, .error f⟩) (start : ℕ) (cs : List Char) :
    decodeFrom start (encode cs ++ b :: tail) =
      .error ⟨b, start + (encode cs).length, more + 1, f⟩ := by
  induction cs generalizing start with
  | nil =>
    rw [encode, List.flatMap_nil, List.nil_append, decodeFrom, h]
    rfl
  | cons c cs ih =>
    obtain ⟨b', tail', henc, hstep⟩ := step_encodeChar c (encode cs ++ b :: tail)
    rw [encode, List.flatMap_cons, ← encode, henc, List.append_assoc, List.cons_append, decodeFrom,
      hstep]
    simp only [List.drop_left, ih, Except.map, List.length_append, List.length_cons]
    congr 2
    omega

/-- A block gives the characters that end in it and the bytes of the one that its end cuts. -/
theorem decodeBlock_encode_append (cs : List Char) {left : List UInt8}
    (h : left = [] ∨ IsCutOff left) : decodeBlock (encode cs ++ left) = .ok (cs, left) := by
  rcases h with rfl | ⟨b, tail, more, rfl, hstep⟩
  · rw [List.append_nil, decodeBlock, decode_encode]
  · rw [decodeBlock, decode, decodeFrom_encode_append hstep]
    simp only [Error.isCutOff, decide_true, Bool.true_or, if_true, Nat.zero_add, List.take_left,
      List.drop_left, decode_encode]
    rfl

/-- Whatever was left before them, blocks give the text that all of the bytes spell. -/
theorem decodeBlocks_of_encode {left : List UInt8} {bss : List (List UInt8)} {cs : List Char}
    (h : left ++ bss.flatten = encode cs) : decodeBlocks left bss = .ok cs := by
  induction bss generalizing left cs with
  | nil =>
    rw [List.flatten_nil, List.append_nil] at h
    rw [decodeBlocks, h, decode_encode]
  | cons bs bss ih =>
    rw [List.flatten_cons, ← List.append_assoc] at h
    obtain ⟨front, back, left', rfl, hbs, hback, hleft⟩ := exists_cut h
    rw [decodeBlocks, hbs, decodeBlock_encode_append front hleft]
    simp only [bind, Except.bind, ih hback]
    rfl

theorem flatten_blocks (size : ℕ) (bs : List UInt8) : (blocks size bs).flatten = bs := by
  fun_induction blocks size bs with
  | case1 => rfl
  | case2 b rest ih => rw [List.flatten_cons, ih, List.cons_append, List.take_append_drop]

theorem decodeBlocks_blocks_encode (size : ℕ) (cs : List Char) :
    decodeBlocks [] (blocks size (encode cs)) = .ok cs :=
  decodeBlocks_of_encode (by rw [List.nil_append, flatten_blocks])

end ChainHistory.Text.Utf8
