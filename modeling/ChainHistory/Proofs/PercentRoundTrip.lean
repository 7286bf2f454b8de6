import ChainHistory.Proofs.Separators
import ChainHistory.Proofs.Utf8RoundTrip
import ChainHistory.Text.Form

namespace ChainHistory.Text.Percent

theorem bytes_cons_of_ne {c : Char} (h : c ≠ '%') (cs : List Char) :
    bytes (c :: cs) = Utf8.encodeChar c ++ bytes cs := by
  rw [bytes.eq_def]
  simp only [h, if_false]

theorem hexValue?_hexUpper {n : ℕ} (h : n < 16) : hexValue? (hexUpper n) = some n := by
  have hall : ∀ m < 16, hexValue? (hexUpper m) = some m := by decide
  exact hall n h

theorem bytes_escapeByte (b : UInt8) (rest : List Char) :
    bytes (escapeByte b ++ rest) = b :: bytes rest := by
  have hb : b.toNat < 256 := b.toNat_lt
  have hhigh : hexValue? (hexUpper (b.toNat / 16)) = some (b.toNat / 16) :=
    hexValue?_hexUpper (by omega)
  have hlow : hexValue? (hexUpper (b.toNat % 16)) = some (b.toNat % 16) :=
    hexValue?_hexUpper (by omega)
  have hvalue : (16 * (b.toNat / 16) + b.toNat % 16).toUInt8 = b := by
    rw [Nat.div_add_mod, ← UInt8.toNat_inj, Utf8.toNat_toUInt8 hb]
  simp only [escapeByte, List.cons_append, List.nil_append]
  rw [bytes.eq_def]
  simp only [if_true, hhigh, hlow, hvalue]

theorem bytes_escapeBytes (bs : List UInt8) (rest : List Char) :
    bytes (bs.flatMap escapeByte ++ rest) = bs ++ bytes rest := by
  induction bs with
  | nil => rfl
  | cons b bs ih =>
    rw [List.flatMap_cons, List.append_assoc, bytes_escapeByte, ih, List.cons_append]

/-- Whatever else is kept, a percent sign must not be. -/
theorem bytes_encodeUnless_append {keeps : Char → Bool} (h : keeps '%' = false)
    (cs rest : List Char) :
    bytes (encodeUnless keeps cs ++ rest) = Utf8.encode cs ++ bytes rest := by
  induction cs with
  | nil => rfl
  | cons c cs ih =>
    rw [encodeUnless, List.flatMap_cons, ← encodeUnless, Utf8.encode, List.flatMap_cons,
      ← Utf8.encode, List.append_assoc, List.append_assoc, ← ih]
    by_cases hc : keeps c = true
    · -- A kept character begins no escape, so that its own bytes are read.
      have hne : c ≠ '%' := by
        rintro rfl
        exact absurd hc (by rw [h]; decide)
      rw [if_pos hc, List.singleton_append, bytes_cons_of_ne hne]
    · rw [if_neg hc, bytes_escapeBytes]

theorem bytes_encodeUnless {keeps : Char → Bool} (h : keeps '%' = false) (cs : List Char) :
    bytes (encodeUnless keeps cs) = Utf8.encode cs := by
  have happend := bytes_encodeUnless_append h cs []
  rwa [List.append_nil, bytes, List.append_nil] at happend

theorem decode_encodeUnless {keeps : Char → Bool} (h : keeps '%' = false) (cs : List Char) :
    decode (encodeUnless keeps cs) = cs := by
  rw [decode, bytes_encodeUnless h, Utf8.decodeReplacing_encode]

theorem decode_encode (cs : List Char) : decode (encode cs) = cs :=
  decode_encodeUnless (by decide) cs

theorem toNat_lt_of_isUnreserved {c : Char} (h : isUnreserved c = true) : c.toNat < 128 := by
  have hle {d : Char} (hd : d.toNat < 128) (hc : c ≤ d) : c.toNat < 128 :=
    Nat.lt_of_le_of_lt hc hd
  simp only [isUnreserved, Bool.or_eq_true, Bool.and_eq_true, decide_eq_true_eq] at h
  rcases h with (((((h | h) | h) | rfl) | rfl) | rfl) | rfl
  · exact hle (by decide) h.2
  · exact hle (by decide) h.2
  · exact hle (by decide) h.2
  all_goals decide

/-- What holds of the unreserved characters is checked on ASCII. -/
theorem of_isUnreserved {keeps : Char → Bool}
    (hall : ∀ n < 128, isUnreserved (Char.ofNat n) = true → keeps (Char.ofNat n) = true)
    {c : Char} (h : isUnreserved c = true) : keeps c = true := by
  have hc : Char.ofNat c.toNat = c := Char.ofNat_toNat c
  rw [← hc] at h ⊢
  exact hall c.toNat (toNat_lt_of_isUnreserved (hc ▸ h)) h

theorem isUnreserved_hexUpper {n : ℕ} (h : n < 16) : isUnreserved (hexUpper n) = true := by
  have hall : ∀ m < 16, isUnreserved (hexUpper m) = true := by decide
  exact hall n h

theorem mem_escapeBytes {bs : List UInt8} {c : Char} (h : c ∈ bs.flatMap escapeByte) :
    c = '%' ∨ isUnreserved c = true := by
  obtain ⟨b, -, hb⟩ := List.mem_flatMap.mp h
  have hlt : b.toNat < 256 := b.toNat_lt
  simp only [escapeByte, List.mem_cons, List.not_mem_nil, or_false] at hb
  rcases hb with rfl | rfl | rfl
  · exact Or.inl rfl
  · exact Or.inr (isUnreserved_hexUpper (by omega))
  · exact Or.inr (isUnreserved_hexUpper (by omega))

/-- A character of an escaped text was kept, or belongs to an escape. -/
theorem mem_encodeUnless {keeps : Char → Bool} {cs : List Char} {c : Char}
    (h : c ∈ encodeUnless keeps cs) : keeps c = true ∨ c = '%' ∨ isUnreserved c = true := by
  rw [encodeUnless, List.mem_flatMap] at h
  obtain ⟨d, -, hd⟩ := h
  by_cases hkeep : keeps d = true
  · rw [if_pos hkeep, List.mem_singleton] at hd
    exact Or.inl (hd ▸ hkeep)
  · rw [if_neg hkeep] at hd
    exact Or.inr (mem_escapeBytes hd)

theorem mem_encode {cs : List Char} {c : Char} (h : c ∈ encode cs) :
    c = '%' ∨ isUnreserved c = true := by
  rcases mem_encodeUnless h with hc | hc | hc
  · exact Or.inr (by simpa using hc)
  · exact Or.inl hc
  · exact Or.inr hc

theorem notMem_encode {d : Char} (h : d ≠ '%') (h' : isUnreserved d = false) (cs : List Char) :
    d ∉ encode cs := by
  intro hd
  rcases mem_encode hd with rfl | hu
  · exact h rfl
  · exact absurd hu (by rw [h']; decide)

/-- What is kept already needs no escape. -/
theorem encodeUnless_of_forall {keeps : Char → Bool} {cs : List Char}
    (h : ∀ c ∈ cs, keeps c = true) : encodeUnless keeps cs = cs := by
  induction cs with
  | nil => rfl
  | cons c cs ih =>
    rw [encodeUnless, List.flatMap_cons, if_pos (h c List.mem_cons_self), ← encodeUnless,
      ih (fun d hd => h d (List.mem_cons_of_mem c hd)), List.singleton_append]

theorem encodeUnless_cons_of_keeps {keeps : Char → Bool} {c : Char} (h : keeps c = true)
    (cs : List Char) : encodeUnless keeps (c :: cs) = c :: encodeUnless keeps cs := by
  rw [encodeUnless, List.flatMap_cons, if_pos h, ← encodeUnless, List.singleton_append]

/-- An escaped text is read back inside of others that hold no escape. -/
theorem decode_between {front back : List Char} (hfront : '%' ∉ front) (hback : '%' ∉ back)
    (cs : List Char) : decode (front ++ (encode cs ++ back)) = front ++ (cs ++ back) := by
  have hplain {ds : List Char} (h : '%' ∉ ds) (rest : List Char) :
      bytes (ds ++ rest) = Utf8.encode ds ++ bytes rest := by
    have hkept : encodeUnless (fun c => decide (c ≠ '%')) ds = ds := by
      apply encodeUnless_of_forall
      rintro c hc
      exact decide_eq_true fun heq => h (heq ▸ hc)
    have happend : bytes (encodeUnless (fun c => decide (c ≠ '%')) ds ++ rest) =
        Utf8.encode ds ++ bytes rest := bytes_encodeUnless_append (by decide) ds rest
    rwa [hkept] at happend
  have hcs : bytes (encode cs ++ back) = Utf8.encode cs ++ bytes back :=
    bytes_encodeUnless_append (by decide) cs back
  have hend : bytes back = Utf8.encode back := by
    have happend := hplain hback []
    rwa [List.append_nil, bytes, List.append_nil] at happend
  have hbytes : bytes (front ++ (encode cs ++ back)) = Utf8.encode (front ++ (cs ++ back)) := by
    rw [hplain hfront, hcs, hend, Utf8.encode, Utf8.encode, Utf8.encode, Utf8.encode,
      List.flatMap_append, List.flatMap_append]
  rw [decode, hbytes, Utf8.decodeReplacing_encode]

theorem encodeUnless_append (keeps : Char → Bool) (cs ds : List Char) :
    encodeUnless keeps (cs ++ ds) = encodeUnless keeps cs ++ encodeUnless keeps ds :=
  List.flatMap_append

theorem encode_append (cs ds : List Char) : encode (cs ++ ds) = encode cs ++ encode ds :=
  List.flatMap_append

/-- Only an escape brings a percent sign in. -/
theorem encodeUnless_of_notMem {keeps : Char → Bool} {cs : List Char}
    (h : '%' ∉ encodeUnless keeps cs) : encodeUnless keeps cs = cs := by
  apply encodeUnless_of_forall
  intro c hc
  by_contra hkeep
  apply h
  rw [encodeUnless, List.mem_flatMap]
  refine ⟨c, hc, ?_⟩
  rw [if_neg hkeep, List.mem_flatMap]
  obtain ⟨b, bs, hbytes⟩ := List.exists_cons_of_ne_nil (Utf8.encodeChar_ne_nil c)
  exact ⟨b, hbytes ▸ List.mem_cons_self, List.mem_cons_self⟩

/-- A separator that is kept stays between the same parts. -/
theorem encodeUnless_joinWith {keeps : Char → Bool} {sep : Char} (h : keeps sep = true)
    (ps : List (List Char)) :
    encodeUnless keeps (joinWith sep ps) = joinWith sep (ps.map (encodeUnless keeps)) := by
  induction ps with
  | nil => rfl
  | cons p ps ih =>
    cases ps with
    | nil => rfl
    | cons q qs =>
      have hne : (q :: qs).map (encodeUnless keeps) ≠ [] := List.cons_ne_nil _ _
      calc encodeUnless keeps (joinWith sep (p :: q :: qs))
          = encodeUnless keeps p ++ sep :: encodeUnless keeps (joinWith sep (q :: qs)) := by
            rw [joinWith_cons (List.cons_ne_nil q qs), encodeUnless_append,
              encodeUnless_cons_of_keeps h]
        _ = encodeUnless keeps p ++ sep :: joinWith sep ((q :: qs).map (encodeUnless keeps)) := by
            rw [ih]
        _ = joinWith sep ((p :: q :: qs).map (encodeUnless keeps)) :=
            (joinWith_cons hne).symm

theorem splitOn_encodeUnless {keeps : Char → Bool} {sep : Char} (h : keeps sep = true)
    (hpercent : sep ≠ '%') (hescape : isUnreserved sep = false) (cs : List Char) :
    splitOn sep (encodeUnless keeps cs) = (splitOn sep cs).map (encodeUnless keeps) := by
  have hparts : ∀ p ∈ (splitOn sep cs).map (encodeUnless keeps), sep ∉ p := by
    intro p hp hsep
    obtain ⟨q, hq, rfl⟩ := List.mem_map.mp hp
    -- A separator in an escaped part would have stood in the part before.
    rw [encodeUnless, List.mem_flatMap] at hsep
    obtain ⟨c, hc, hsep⟩ := hsep
    by_cases hkeep : keeps c = true
    · rw [if_pos hkeep, List.mem_singleton] at hsep
      exact notMem_of_mem_splitOn hq (hsep ▸ hc)
    · rw [if_neg hkeep] at hsep
      rcases mem_escapeBytes hsep with hsep | hsep
      · exact hpercent hsep
      · exact absurd hsep (by rw [hescape]; decide)
  have hne : (splitOn sep cs).map (encodeUnless keeps) ≠ [] := by
    rw [ne_eq, List.map_eq_nil_iff]
    exact splitOn_ne_nil sep cs
  conv_lhs => rw [← joinWith_splitOn sep cs, encodeUnless_joinWith h]
  exact splitOn_joinWith hne hparts

end Percent

section Form

theorem mem_encodeFormText {s : String} {c : Char} (h : c ∈ encodeFormText s) :
    c = '+' ∨ c = '%' ∨ Percent.isUnreserved c = true := by
  rw [encodeFormText, List.mem_flatMap] at h
  obtain ⟨d, -, hd⟩ := h
  by_cases hspace : d = ' '
  · rw [if_pos hspace, List.mem_singleton] at hd
    exact Or.inl hd
  · rw [if_neg hspace] at hd
    exact Or.inr (Percent.mem_encode hd)

/-- Read back, a plus sign is the space that was written as one. -/
theorem map_plus_encodeFormText (s : String) :
    (encodeFormText s).map (fun c => if c = '+' then ' ' else c) =
      Percent.encodeUnless (fun c => Percent.isUnreserved c || c ∈ [' ']) s.toList := by
  rw [encodeFormText, List.map_flatMap, Percent.encodeUnless]
  refine congrArg (s.toList.flatMap ·) (funext fun c => ?_)
  by_cases hspace : c = ' '
  · subst hspace
    rfl
  · have hplus : '+' ∉ Percent.encode [c] := Percent.notMem_encode (by decide) (by decide) [c]
    have hmap : (Percent.encode [c]).map (fun d => if d = '+' then ' ' else d) =
        Percent.encode [c] := by
      conv_rhs => rw [← List.map_id (Percent.encode [c])]
      apply List.map_congr_left
      intro d hd
      have hd' : d ≠ '+' := by
        rintro rfl
        exact hplus hd
      exact if_neg hd'
    rw [if_neg hspace, hmap]
    simp only [Percent.encode, Percent.encodeKeeping, Percent.encodeUnless, List.flatMap_cons,
      List.flatMap_nil, List.append_nil, List.not_mem_nil, List.mem_singleton, hspace]

theorem decodeFormText_encodeFormText (s : String) :
    decodeFormText (encodeFormText s) = s := by
  rw [decodeFormText, map_plus_encodeFormText, Percent.decode_encodeUnless (by decide),
    String.ofList_toList]

theorem notMem_encodeFormText {d : Char} (hplus : d ≠ '+') (hpercent : d ≠ '%')
    (h : Percent.isUnreserved d = false) (s : String) : d ∉ encodeFormText s := by
  intro hd
  rcases mem_encodeFormText hd with hc | hc | hc
  · exact hplus hc
  · exact hpercent hc
  · exact absurd hc (by rw [h]; decide)

/-- A field of a query as it is written. -/
def fieldText (f : String × String) : List Char :=
  encodeFormText f.1 ++ '=' :: encodeFormText f.2

theorem formField_fieldText (f : String × String) : formField (fieldText f) = f := by
  have hname : '=' ∉ encodeFormText f.1 :=
    notMem_encodeFormText (by decide) (by decide) (by decide) f.1
  rw [formField, fieldText, cut_append hname]
  simp only [decodeFormText_encodeFormText]

theorem notMem_fieldText {d : Char} (heq : d ≠ '=') (hplus : d ≠ '+') (hpercent : d ≠ '%')
    (h : Percent.isUnreserved d = false) (f : String × String) : d ∉ fieldText f := by
  rw [fieldText, List.mem_append, List.mem_cons, not_or, not_or]
  exact ⟨notMem_encodeFormText hplus hpercent h f.1, heq,
    notMem_encodeFormText hplus hpercent h f.2⟩

/-- A query is read as the fields that were written. -/
theorem formFields_formText (fields : List (String × String)) :
    formFields (formText fields) = fields := by
  by_cases hne : fields = []
  · subst hne
    rfl
  have hparts : splitOn '&' (formText fields) = fields.map fieldText := by
    apply splitOn_joinWith (by simpa using hne)
    intro p hp
    obtain ⟨f, -, rfl⟩ := List.mem_map.mp hp
    exact notMem_fieldText (by decide) (by decide) (by decide) (by decide) f
  have hkept : (fields.map fieldText).filter (!·.isEmpty) = fields.map fieldText := by
    rw [List.filter_eq_self]
    intro p hp
    obtain ⟨f, -, rfl⟩ := List.mem_map.mp hp
    rw [fieldText]
    cases encodeFormText f.1 <;> rfl
  rw [formFields, hparts, hkept, List.map_map]
  apply List.map_id''
  intro f
  exact formField_fieldText f

end Form

end ChainHistory.Text
