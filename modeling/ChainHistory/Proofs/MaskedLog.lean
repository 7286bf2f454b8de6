import ChainHistory.Proofs.LineBreaks
import ChainHistory.Settings.Mask
import Mathlib.Data.Bool.AllAny
import Mathlib.Data.List.DropRight
import Mathlib.Data.List.Infix

namespace ChainHistory

namespace Text

theorem toList_upper (s : String) : (upper s).toList = s.toList.flatMap upperChar := by
  rw [upper, String.toList_ofList]

theorem upperChar_of_lt {c : Char} (h : c.toNat < 128) : upperChar c = [c.toUpper] := by
  have hall : ∀ n < 128, upperChar (Char.ofNat n) = [(Char.ofNat n).toUpper] := by decide +kernel
  have hc := hall c.toNat h
  rwa [Char.ofNat_toNat] at hc

theorem toNat_lt_of_toUpper {c : Char} (h : c.toUpper.toNat < 128) : c.toNat < 128 := by
  unfold Char.toUpper at h
  split at h
  · rename_i hsmall
    have hle : c.toNat ≤ 'z'.toNat := hsmall.2
    exact Nat.lt_of_le_of_lt hle (by decide)
  · exact h

theorem flatMap_upperChar_of_map {cs word : List Char} (hword : ∀ c ∈ word, c.toNat < 128)
    (h : cs.map Char.toUpper = word) : cs.flatMap upperChar = word := by
  subst h
  have hone : ∀ c ∈ cs, upperChar c = [c.toUpper] := fun c hc =>
    upperChar_of_lt (toNat_lt_of_toUpper (hword _ (List.mem_map_of_mem hc)))
  rw [List.flatMap_congr hone, List.map_eq_flatMap]

end Text

namespace Settings

open Text

theorem holdsWord_iff {word cs : List Char} : holdsWord word cs = true ↔ word <:+: cs := by
  induction cs with
  | nil => rw [holdsWord, List.isEmpty_iff, List.infix_nil]
  | cons c cs ih =>
    rw [holdsWord, Bool.or_eq_true, ih, List.isPrefixOf_iff_prefix, List.infix_cons_iff]

/-- Characters that are a word but for the case of its letters, be it the case of ASCII or that of
all scripts. -/
def InSomeCase (cs : List Char) (word : String) : Prop :=
  cs.map Char.toUpper = word.toList ∨ upper (String.ofList cs) = word

theorem isSensitive_iff (name : String) : isSensitive name = true ↔
    ∃ marker ∈ sensitiveMarkers, marker.toList <:+: name.toList.flatMap upperChar := by
  simp only [isSensitive, List.any_eq_true, holdsWord_iff, toList_upper]

theorem isSensitive_of_inSomeCase {name marker : String} {cs : List Char}
    (hmarker : marker ∈ sensitiveMarkers) (hcs : cs <:+: name.toList) (h : InSomeCase cs marker) :
    isSensitive name = true := by
  have hascii : ∀ m ∈ sensitiveMarkers, m.toList.all (·.toNat < 128) = true := by decide
  have hletters : ∀ c ∈ marker.toList, c.toNat < 128 :=
    List.all_iff_forall_prop.mp (hascii marker hmarker)
  have hupper : cs.flatMap upperChar = marker.toList := by
    rcases h with h | h
    · exact flatMap_upperChar_of_map hletters h
    · rw [← h, toList_upper, String.toList_ofList]
  exact (isSensitive_iff name).mpr ⟨marker, hmarker, hupper ▸ hcs.flatMap upperChar⟩

theorem unbroken_escapeBreaks (cs : List Char) : Unbroken (escapeBreaks cs) := by
  induction cs with
  | nil => decide
  | cons c cs ih =>
    rw [escapeBreaks, List.flatMap_cons, ← escapeBreaks, unbroken_append]
    refine ⟨?_, ih⟩
    split_ifs with hr hn
    · decide
    · decide
    · exact unbroken_cons.mpr ⟨⟨hn, hr⟩, by decide⟩

/-- What is shown of a sensitive value. -/
def outline (cs : List Char) : List Char :=
  if cs.length ≤ 4 then "****".toList else cs.take 2 ++ "...".toList ++ cs.rtake 2

/-- Values that show the same: both short, or the same two characters at either end. -/
inductive SameOutline (cs cs' : List Char) : Prop
  | short (h : cs.length ≤ 4) (h' : cs'.length ≤ 4)
  | long (h : 4 < cs.length) (h' : 4 < cs'.length) (hfront : cs.take 2 = cs'.take 2)
      (hback : cs.rtake 2 = cs'.rtake 2)

theorem mask_eq (name value : String) : mask name value = String.ofList
    (if isSensitive name then outline (escapeBreaks value.toList)
    else escapeBreaks value.toList) := by
  unfold mask outline
  cases isSensitive name with
  | false => rfl
  | true => exact (apply_ite String.ofList _ _ _).symm

theorem length_outline {cs : List Char} (h : 4 < cs.length) : (outline cs).length = 7 := by
  have hdots : "...".toList.length = 3 := rfl
  rw [outline, if_neg (Nat.not_le.mpr h), List.length_append, List.length_append, hdots,
    List.length_take, List.rtake.eq_1, List.length_drop]
  omega

theorem outline_eq_iff (cs cs' : List Char) : outline cs = outline cs' ↔ SameOutline cs cs' := by
  constructor
  · intro heq
    -- The lengths of what is shown, four and seven, tell a short value from a long one.
    by_cases h : cs.length ≤ 4 <;> by_cases h' : cs'.length ≤ 4
    · exact .short h h'
    · have hlength := length_outline (Nat.not_le.mp h')
      rw [← heq, outline, if_pos h] at hlength
      exact absurd hlength (by decide)
    · have hlength := length_outline (Nat.not_le.mp h)
      rw [heq, outline, if_pos h'] at hlength
      exact absurd hlength (by decide)
    · rw [outline, if_neg h, outline, if_neg h', List.append_assoc, List.append_assoc] at heq
      have hlength : (cs.take 2).length = (cs'.take 2).length := by
        rw [List.length_take, List.length_take]
        omega
      obtain ⟨hfront, hrest⟩ := List.append_inj heq hlength
      exact .long (Nat.not_le.mp h) (Nat.not_le.mp h') hfront (List.append_cancel_left hrest)
  · intro h
    cases h with
    | short h h' => rw [outline, if_pos h, outline, if_pos h']
    | long h h' hfront hback =>
      rw [outline, if_neg (Nat.not_le.mpr h), outline, if_neg (Nat.not_le.mpr h'), hfront, hback]

theorem unbroken_outline {cs : List Char} (h : Unbroken cs) : Unbroken (outline cs) := by
  unfold outline
  split
  · decide
  · rw [unbroken_append, unbroken_append]
    exact ⟨⟨h.of_subset (List.take_subset 2 cs), by decide⟩,
      h.of_subset (List.drop_subset _ cs)⟩

theorem unbroken_mask (name value : String) : Unbroken (mask name value).toList := by
  have hvalue := unbroken_escapeBreaks value.toList
  rw [mask_eq, String.toList_ofList]
  split
  · exact unbroken_outline hvalue
  · exact hvalue

/-- What stands behind the name of a variable. -/
def shown (env : Variables) (key : String) : String :=
  match env.lookup key with
  | none => "<unset>"
  | some v => mask key v

theorem environmentLines_eq (env : Variables) :
    environmentLines env =
      .info "[ENV] Logging configured environment variables (masked where needed)." ::
        configKeys.map fun key => .info s!"[ENV] {key}={shown env key}" := rfl

theorem environmentLines_eq_iff (env env' : Variables) :
    environmentLines env = environmentLines env' ↔
      ∀ key ∈ configKeys, shown env key = shown env' key := by
  rw [environmentLines_eq, environmentLines_eq, List.cons_inj_right, List.map_inj_left]
  refine forall₂_congr fun key _ => ?_
  rw [LogLine.info, LogLine.info, LogLine.mk.injEq, and_iff_right rfl, String.append_right_inj]
  rfl

theorem unbroken_shown (env : Variables) (key : String) : Unbroken (shown env key).toList := by
  unfold shown
  split
  · decide
  · exact unbroken_mask _ _

theorem length_mask {name value : String} (hname : isSensitive name = true)
    (hvalue : 4 < (escapeBreaks value.toList).length) : (mask name value).length = 7 := by
  rw [mask_eq, if_pos hname, String.length_ofList, length_outline hvalue]

theorem mask_eq_iff {name value value' : String} (hname : isSensitive name = true) :
    mask name value = mask name value' ↔
      SameOutline (escapeBreaks value.toList) (escapeBreaks value'.toList) := by
  rw [mask_eq, mask_eq, if_pos hname, if_pos hname, String.ofList_inj, outline_eq_iff]

/-- Environments that differ in the token alone. -/
structure DifferInToken (env env' : Variables) (token token' : String) : Prop where
  left : env.lookup "UPSTREAM_TOKEN" = some token
  right : env'.lookup "UPSTREAM_TOKEN" = some token'
  same : ∀ key, key ≠ "UPSTREAM_TOKEN" → env.lookup key = env'.lookup key

theorem environmentLines_eq_iff_sameOutline {env env' : Variables} {token token' : String}
    (h : DifferInToken env env' token token') :
    environmentLines env = environmentLines env' ↔
      SameOutline (escapeBreaks token.toList) (escapeBreaks token'.toList) := by
  have htoken : "UPSTREAM_TOKEN" ∈ configKeys := by decide
  have hsensitive : isSensitive "UPSTREAM_TOKEN" = true := by decide +kernel
  have hshown : shown env "UPSTREAM_TOKEN" = shown env' "UPSTREAM_TOKEN" ↔
      mask "UPSTREAM_TOKEN" token = mask "UPSTREAM_TOKEN" token' := by
    rw [shown, shown, h.left, h.right]
  -- The other lines show variables that are the same.
  rw [environmentLines_eq_iff, ← mask_eq_iff hsensitive, ← hshown]
  constructor
  · exact fun hall => hall "UPSTREAM_TOKEN" htoken
  · intro heq key _
    by_cases hkey : key = "UPSTREAM_TOKEN"
    · rwa [hkey]
    · rw [shown, shown, h.same key hkey]

theorem unbroken_of_mem_environmentLines {env : Variables} {line : LogLine}
    (h : line ∈ environmentLines env) : Unbroken line.text.toList := by
  have hkeys : ∀ key ∈ configKeys, Unbroken key.toList := by decide
  rw [environmentLines_eq, List.mem_cons, List.mem_map] at h
  rcases h with rfl | ⟨key, hkey, rfl⟩
  · decide
  · simp only [LogLine.info, String.toList_append, unbroken_append]
    exact ⟨⟨⟨by decide, hkeys key hkey⟩, by decide⟩, unbroken_shown env key⟩

/-- The log of the environment tells two tokens apart exactly by their outlines, shows no line break
whatever the variables hold, and shows seven characters of a long value whose variable has a
sensitive word in its name. -/
theorem environment_log_hides :
    (∀ (env env' : Variables) (token token' : String), DifferInToken env env' token token' →
      (environmentLines env = environmentLines env' ↔
        SameOutline (escapeBreaks token.toList) (escapeBreaks token'.toList))) ∧
    (∀ env : Variables, ∀ line ∈ environmentLines env, Unbroken line.text.toList) ∧
    ∀ (name value marker : String) (cs : List Char), marker ∈ sensitiveMarkers →
      cs <:+: name.toList → InSomeCase cs marker → 4 < (escapeBreaks value.toList).length →
        (mask name value).length = 7 := by
  refine ⟨fun _ _ _ _ h => environmentLines_eq_iff_sameOutline h,
    fun _ _ h => unbroken_of_mem_environmentLines h, ?_⟩
  intro name value marker cs hmarker hcs hcase hvalue
  exact length_mask (isSensitive_of_inSomeCase hmarker hcs hcase) hvalue

/-- A line feed counts as two characters, and the name may be in any case. -/
theorem environment_log_hides_inside :
    environmentLines [("CHAINS", "a\nb"), ("UPSTREAM_TOKEN", "ab\nyz")] =
        environmentLines [("UPSTREAM_TOKEN", "ab1yz"), ("CHAINS", "a\nb")] ∧
      (∀ line ∈ environmentLines [("CHAINS", "a\nb")], Unbroken line.text.toList) ∧
      (mask "my_Token" "\r\n1").length = 7 := by
  obtain ⟨hsame, hlines, hlength⟩ := environment_log_hides
  refine ⟨?_, hlines _, ?_⟩
  · have hdiffer : DifferInToken [("CHAINS", "a\nb"), ("UPSTREAM_TOKEN", "ab\nyz")]
        [("UPSTREAM_TOKEN", "ab1yz"), ("CHAINS", "a\nb")] "ab\nyz" "ab1yz" := by
      refine ⟨rfl, rfl, fun key hkey => ?_⟩
      simp only [List.lookup_cons, beq_false_of_ne hkey, List.lookup_nil]
    exact (hsame _ _ _ _ hdiffer).mpr (.long (by decide) (by decide) (by decide) (by decide))
  · exact hlength "my_Token" "\r\n1" "TOKEN" "Token".toList (by decide) (by decide)
      (Or.inl (by decide)) (by decide)

end Settings

end ChainHistory
