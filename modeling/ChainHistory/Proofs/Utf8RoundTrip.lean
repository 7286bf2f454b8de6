import ChainHistory.Text.Utf8
import Mathlib.Data.Nat.Notation

namespace ChainHistory.Text.Utf8

theorem toNat_toUInt8 {n : ℕ} (h : n < 256) : n.toUInt8.toNat = n := by
  rw [Nat.toUInt8, UInt8.toNat_ofNat', Nat.mod_eq_of_lt h]

theorem not_lt_of_toNat_le {b k : UInt8} (h : k.toNat ≤ b.toNat) : ¬ b < k := by
  rw [UInt8.lt_iff_toNat_lt]
  omega

theorem isContinuation_iff (b : UInt8) :
    isContinuation b = true ↔ 0x80 ≤ b.toNat ∧ b.toNat ≤ 0xbf := by
  simp only [isContinuation, Bool.and_eq_true, decide_eq_true_eq, UInt8.le_iff_toNat_le]
  rfl

theorem secondAllowed_of {b c : UInt8} (hc : isContinuation c = true)
    (he0 : b.toNat = 0xe0 → 0xa0 ≤ c.toNat) (hed : b.toNat = 0xed → c.toNat ≤ 0x9f)
    (hf0 : b.toNat = 0xf0 → 0x90 ≤ c.toNat) (hf4 : b.toNat = 0xf4 → c.toNat ≤ 0x8f) :
    secondAllowed b c = true := by
  rw [secondAllowed, hc, Bool.true_and]
  split
  · rename_i h
    exact decide_eq_true (UInt8.le_iff_toNat_le.mpr (he0 (congrArg UInt8.toNat h)))
  · split
    · rename_i h
      exact decide_eq_true (UInt8.le_iff_toNat_le.mpr (hed (congrArg UInt8.toNat h)))
    · split
      · rename_i h
        exact decide_eq_true (UInt8.le_iff_toNat_le.mpr (hf0 (congrArg UInt8.toNat h)))
      · split
        · rename_i h
          exact decide_eq_true (UInt8.le_iff_toNat_le.mpr (hf4 (congrArg UInt8.toNat h)))
        · rfl

theorem step_of_one {b : UInt8} (hb : b.toNat < 0x80) (rest : List UInt8) :
    step b rest = ⟨0, .ok b.toNat⟩ := by
  have hlt : b < 0x80 := UInt8.lt_iff_toNat_lt.mpr hb
  unfold step
  rw [if_pos hlt]

theorem step_of_two {b c : UInt8} (hb : 0xc2 ≤ b.toNat) (hb' : b.toNat < 0xe0)
    (hc : isContinuation c = true) (rest : List UInt8) :
    step b (c :: rest) = ⟨1, .ok (b.toNat % 0x20 * 0x40 + low6 c)⟩ := by
  have h₁ : ¬ b < 0x80 := not_lt_of_toNat_le (Nat.le_trans (by decide) hb)
  have h₂ : ¬ b < 0xc2 := not_lt_of_toNat_le hb
  have h₃ : b < 0xe0 := UInt8.lt_iff_toNat_lt.mpr hb'
  unfold step
  rw [if_neg h₁, if_neg h₂, if_pos h₃]
  simp only [hc, if_true]

theorem step_of_three {b c d : UInt8} (hb : 0xe0 ≤ b.toNat) (hb' : b.toNat < 0xf0)
    (hc : secondAllowed b c = true) (hd : isContinuation d = true) (rest : List UInt8) :
    step b (c :: d :: rest) =
      ⟨2, .ok (b.toNat % 0x10 * 0x1000 + low6 c * 0x40 + low6 d)⟩ := by
  have h₁ : ¬ b < 0x80 := not_lt_of_toNat_le (Nat.le_trans (by decide) hb)
  have h₂ : ¬ b < 0xc2 := not_lt_of_toNat_le (Nat.le_trans (by decide) hb)
  have h₃ : ¬ b < 0xe0 := not_lt_of_toNat_le hb
  have h₄ : b < 0xf0 := UInt8.lt_iff_toNat_lt.mpr hb'
  unfold step
  rw [if_neg h₁, if_neg h₂, if_neg h₃, if_pos h₄]
  simp only [hc, hd, Bool.not_true, Bool.false_eq_true, if_false, if_true]

theorem step_of_four {b c d e : UInt8} (hb : 0xf0 ≤ b.toNat) (hb' : b.toNat < 0xf5)
    (hc : secondAllowed b c = true) (hd : isContinuation d = true) (he : isContinuation e = true)
    (rest : List UInt8) : step b (c :: d :: e :: rest) =
      ⟨3, .ok (b.toNat % 8 * 0x40000 + low6 c * 0x1000 + low6 d * 0x40 + low6 e)⟩ := by
  have h₁ : ¬ b < 0x80 := not_lt_of_toNat_le (Nat.le_trans (by decide) hb)
  have h₂ : ¬ b < 0xc2 := not_lt_of_toNat_le (Nat.le_trans (by decide) hb)
  have h₃ : ¬ b < 0xe0 := not_lt_of_toNat_le (Nat.le_trans (by decide) hb)
  have h₄ : ¬ b < 0xf0 := not_lt_of_toNat_le hb
  have h₅ : b < 0xf5 := UInt8.lt_iff_toNat_lt.mpr hb'
  unfold step
  rw [if_neg h₁, if_neg h₂, if_neg h₃, if_neg h₄, if_pos h₅]
  simp only [hc, hd, he, Bool.not_true, Bool.false_eq_true, if_false, if_true]

/-- One step reads the bytes of one character and no more. -/
theorem step_encodeChar (c : Char) (rest : List UInt8) :
    ∃ b tail, encodeChar c = b :: tail ∧ step b (tail ++ rest) = ⟨tail.length, .ok c.toNat⟩ := by
  have hvalid : c.toNat < 0xd800 ∨ 0xdfff < c.toNat ∧ c.toNat < 0x110000 := c.valid
  simp only [encodeChar]
  generalize c.toNat = n at hvalid
  by_cases h₁ : n < 0x80
  · rw [if_pos h₁]
    have hn : n.toUInt8.toNat = n := toNat_toUInt8 (by omega)
    refine ⟨_, [], rfl, ?_⟩
    rw [List.nil_append, step_of_one (by omega), hn]
    rfl
  rw [if_neg h₁]
  -- The last byte of a longer form is always the low six bits.
  have hlow : (0x80 + n % 0x40).toUInt8.toNat = 0x80 + n % 0x40 := toNat_toUInt8 (by omega)
  have hlow' : isContinuation (0x80 + n % 0x40).toUInt8 = true := by
    rw [isContinuation_iff]
    omega
  by_cases h₂ : n < 0x800
  · rw [if_pos h₂]
    have hb : (0xc0 + n / 0x40).toUInt8.toNat = 0xc0 + n / 0x40 := toNat_toUInt8 (by omega)
    refine ⟨_, [_], rfl, ?_⟩
    rw [List.singleton_append, step_of_two (by omega) (by omega) hlow', hb, low6, hlow]
    congr 2
    omega
  rw [if_neg h₂]
  have hmid : (0x80 + n / 0x40 % 0x40).toUInt8.toNat = 0x80 + n / 0x40 % 0x40 :=
    toNat_toUInt8 (by omega)
  have hmid' : isContinuation (0x80 + n / 0x40 % 0x40).toUInt8 = true := by
    rw [isContinuation_iff]
    omega
  by_cases h₃ : n < 0x10000
  · rw [if_pos h₃]
    have hb : (0xe0 + n / 0x1000).toUInt8.toNat = 0xe0 + n / 0x1000 := toNat_toUInt8 (by omega)
    have hsecond := secondAllowed_of (b := (0xe0 + n / 0x1000).toUInt8) hmid' (by omega) (by omega)
      (by omega) (by omega)
    refine ⟨_, [_, _], rfl, ?_⟩
    rw [List.cons_append, List.singleton_append,
      step_of_three (by omega) (by omega) hsecond hlow', hb, low6, low6, hmid, hlow]
    congr 2
    omega
  rw [if_neg h₃]
  have hhigh : (0x80 + n / 0x1000 % 0x40).toUInt8.toNat = 0x80 + n / 0x1000 % 0x40 :=
    toNat_toUInt8 (by omega)
  have hhigh' : isContinuation (0x80 + n / 0x1000 % 0x40).toUInt8 = true := by
    rw [isContinuation_iff]
    omega
  have hb : (0xf0 + n / 0x40000).toUInt8.toNat = 0xf0 + n / 0x40000 := toNat_toUInt8 (by omega)
  have hsecond := secondAllowed_of (b := (0xf0 + n / 0x40000).toUInt8) hhigh' (by omega) (by omega)
    (by omega) (by omega)
  refine ⟨_, [_, _, _], rfl, ?_⟩
  rw [List.cons_append, List.cons_append, List.singleton_append,
    step_of_four (by omega) (by omega) hsecond hmid' hlow', hb, low6, low6, low6, hhigh, hmid, hlow]
  congr 2
  omega

theorem encodeChar_ne_nil (c : Char) : encodeChar c ≠ [] := by
  obtain ⟨b, tail, hbytes, -⟩ := step_encodeChar c []
  rw [hbytes]
  exact List.cons_ne_nil b tail

/-- Bytes that begin with those of a character are read as it and the rest. -/
theorem decodeReplacing_encodeChar (c : Char) (rest : List UInt8) :
    decodeReplacing (encodeChar c ++ rest) = c :: decodeReplacing rest := by
  obtain ⟨b, tail, henc, hstep⟩ := step_encodeChar c rest
  rw [henc, List.cons_append, decodeReplacing, hstep]
  simp only [List.drop_left, Char.ofNat_toNat]

theorem decodeReplacing_encode_append (cs : List Char) (rest : List UInt8) :
    decodeReplacing (encode cs ++ rest) = cs ++ decodeReplacing rest := by
  induction cs with
  | nil => rfl
  | cons c cs ih =>
    rw [encode, List.flatMap_cons, List.append_assoc, decodeReplacing_encodeChar, ← encode, ih,
      List.cons_append]

theorem decodeReplacing_encode (cs : List Char) : decodeReplacing (encode cs) = cs := by
  have h := decodeReplacing_encode_append cs []
  rwa [List.append_nil, decodeReplacing, List.append_nil] at h

theorem decodeFrom_encode (start : ℕ) (cs : List Char) : decodeFrom start (encode cs) = .ok cs := by
  induction cs generalizing start with
  | nil => rw [encode, List.flatMap_nil, decodeFrom]
  | cons c cs ih =>
    obtain ⟨b, tail, henc, hstep⟩ := step_encodeChar c (encode cs)
    rw [encode, List.flatMap_cons, ← encode, henc, List.cons_append, decodeFrom, hstep]
    simp only [List.drop_left, ih, Except.map, Char.ofNat_toNat]

theorem decode_encode (cs : List Char) : decode (encode cs) = .ok cs := decodeFrom_encode 0 cs

end ChainHistory.Text.Utf8
