import ChainHistory.Number.Notation
import ChainHistory.Number.Numeral
import ChainHistory.Proofs.Separators
import Mathlib.Data.List.Forall2
import Mathlib.Data.List.Induction
import Mathlib.Data.List.TakeWhile
import Mathlib.Data.Nat.Digits.Defs

namespace ChainHistory.Number

open Text

/-- What may stand before the digits, and whether it makes the number negative. -/
inductive Sign : List Char → Bool → Prop
  | absent : Sign [] false
  | plus : Sign ['+'] false
  | minus : Sign ['-'] true

/-- Groups of digits of any script, with the values of the digits. -/
structure Groups (groups : List (List Char)) (values : List Nat) : Prop where
  nonempty : groups ≠ []
  full : ∀ g ∈ groups, g ≠ []
  digits : List.Forall₂ (fun c d => digitValue? c = some d) groups.flatten values

/-- The text of an integer: groups of digits with single underscores between them, a sign before
them, and white space around. -/
inductive Spells : List Char → Int → Prop
  | intro {front sign back : List Char} {negative : Bool} {groups : List (List Char)}
      {values : List Nat} (hfront : ∀ c ∈ front, isWhite c = true)
      (hsign : Sign sign negative) (hgroups : Groups groups values)
      (hsize : values.length ≤ maxDigits) (hback : ∀ c ∈ back, isWhite c = true) :
      Spells (front ++ (sign ++ (joinWith '_' groups ++ back))) (signed negative (ofDigits values))

section Digits

theorem digitValue?_of_isDigit {c : Char} (h : c.isDigit = true) :
    digitValue? c = some (c.toNat - 48) := by
  have hrange : 48 ≤ c.toNat ∧ c.toNat ≤ 57 := by
    simpa [Char.isDigit, UInt32.le_iff_toNat_le] using h
  have hfirst : (0x30 ≤ c.toNat && c.toNat ≤ 0x30 + 9) = true := by
    rw [Bool.and_eq_true, decide_eq_true_eq, decide_eq_true_eq]
    omega
  rw [digitValue?, digitZeros, List.find?_cons, hfirst]
  rfl

theorem digitValue?_lt {c : Char} {d : Nat} (h : digitValue? c = some d) : d < 10 := by
  obtain ⟨z, hz, rfl⟩ := Option.map_eq_some_iff.mp h
  have hrange := List.find?_some hz
  rw [Bool.and_eq_true, decide_eq_true_eq, decide_eq_true_eq] at hrange
  omega

theorem isBlank_eq_false_of_digit {c : Char} {d : Nat} (h : digitValue? c = some d) :
    isBlank c = false := by
  have hall : ∀ z ∈ digitZeros, ∀ k < 10, isBlank (Char.ofNat (z + k)) = false := by
    decide +kernel
  obtain ⟨z, hz, -⟩ := Option.map_eq_some_iff.mp h
  have hmem := List.mem_of_find?_eq_some hz
  have hrange := List.find?_some hz
  rw [Bool.and_eq_true, decide_eq_true_eq, decide_eq_true_eq] at hrange
  have hc := hall z hmem (c.toNat - z) (by omega)
  rwa [Nat.add_sub_cancel' hrange.1, Char.ofNat_toNat] at hc

theorem isWhite_eq_false_of_digit {c : Char} {d : Nat} (h : digitValue? c = some d) :
    isWhite c = false :=
  (Bool.or_eq_false_iff.mp (isBlank_eq_false_of_digit h)).1

theorem ne_of_digit {c e : Char} {d : Nat} (he : digitValue? e = none)
    (h : digitValue? c = some d) : c ≠ e := by
  rintro rfl
  rw [he] at h
  exact absurd h.symm (Option.some_ne_none d)

/-- Whether a character goes on with a run of digits. -/
def inRun (c : Char) : Bool := (digitValue? c).isSome || c = '_'

theorem inRun_of_digit {c : Char} {d : Nat} (h : digitValue? c = some d) : inRun c = true := by
  rw [inRun, h]
  rfl

theorem inRun_eq_false_of_isWhite {c : Char} (h : isWhite c = true) : inRun c = false := by
  have hdigit : digitValue? c = none := by
    cases hc : digitValue? c with
    | none => rfl
    | some d =>
      rw [isWhite_eq_false_of_digit hc] at h
      exact absurd h Bool.false_ne_true
  have hmark : c ≠ '_' := by
    rintro rfl
    exact absurd h (by decide)
  rw [inRun, hdigit, Option.isSome_none, Bool.false_or, decide_eq_false hmark]

end Digits

section Groups

variable {groups : List (List Char)} {values : List Nat}

theorem Groups.exists_digit (h : Groups groups values) {g : List Char} (hg : g ∈ groups) {c : Char}
    (hc : c ∈ g) : ∃ d, digitValue? c = some d := by
  have hmem : c ∈ groups.flatten := List.mem_flatten.mpr ⟨g, hg, hc⟩
  obtain ⟨hlength, hzip⟩ := List.forall₂_iff_zip.mp h.digits
  have hfst : c ∈ (groups.flatten.zip values).map Prod.fst := by
    rw [List.map_fst_zip (Nat.le_of_eq hlength)]
    exact hmem
  obtain ⟨⟨c', d⟩, hpair, rfl⟩ := List.mem_map.mp hfst
  exact ⟨d, hzip hpair⟩

theorem Groups.value_lt (h : Groups groups values) {d : Nat} (hd : d ∈ values) : d < 10 := by
  obtain ⟨hlength, hzip⟩ := List.forall₂_iff_zip.mp h.digits
  have hsnd : d ∈ (groups.flatten.zip values).map Prod.snd := by
    rw [List.map_snd_zip (Nat.le_of_eq hlength.symm)]
    exact hd
  obtain ⟨⟨c, d'⟩, hpair, rfl⟩ := List.mem_map.mp hsnd
  exact digitValue?_lt (hzip hpair)

theorem Groups.notMem_underscore (h : Groups groups values) {g : List Char} (hg : g ∈ groups) :
    '_' ∉ g := by
  intro hmark
  obtain ⟨d, hd⟩ := h.exists_digit hg hmark
  exact ne_of_digit (by decide +kernel) hd rfl

theorem Groups.inRun_of_mem (h : Groups groups values) {c : Char}
    (hc : c ∈ joinWith '_' groups) : inRun c = true := by
  rcases mem_joinWith hc with rfl | ⟨g, hg, hcg⟩
  · decide +kernel
  · obtain ⟨d, hd⟩ := h.exists_digit hg hcg
    exact inRun_of_digit hd

/-- The text of the groups begins with a digit. -/
theorem Groups.exists_head (h : Groups groups values) :
    ∃ c rest d, joinWith '_' groups = c :: rest ∧ digitValue? c = some d := by
  obtain ⟨g, gs, rfl⟩ := List.exists_cons_of_ne_nil h.nonempty
  have hg : g ∈ g :: gs := List.mem_cons_self
  obtain ⟨c, rest, rfl⟩ := List.exists_cons_of_ne_nil (h.full g hg)
  obtain ⟨d, hd⟩ := h.exists_digit hg List.mem_cons_self
  cases gs with
  | nil => exact ⟨c, rest, d, rfl, hd⟩
  | cons g' gs => exact ⟨c, _, d, rfl, hd⟩

theorem filterMap_joinWith {sep : Char} {f : Char → Option Nat} (h : f sep = none)
    (ps : List (List Char)) : (joinWith sep ps).filterMap f = ps.flatten.filterMap f := by
  induction ps with
  | nil => rfl
  | cons p ps ih =>
    by_cases hps : ps = []
    · subst hps
      rw [joinWith, List.flatten_cons, List.flatten_nil, List.append_nil]
    · rw [joinWith_cons hps, List.filterMap_append, List.filterMap_cons_none h, ih,
        List.flatten_cons, List.filterMap_append]

theorem forall₂_filterMap {f : Char → Option Nat} {cs : List Char}
    (h : ∀ c ∈ cs, (f c).isSome = true) :
    List.Forall₂ (fun c d => f c = some d) cs (cs.filterMap f) := by
  induction cs with
  | nil => exact .nil
  | cons c cs ih =>
    obtain ⟨hc, hcs⟩ := List.forall_mem_cons.mp h
    obtain ⟨d, hd⟩ := Option.isSome_iff_exists.mp hc
    rw [List.filterMap_cons_some hd]
    exact .cons hd (ih hcs)

theorem filterMap_of_forall₂ {f : Char → Option Nat} {cs : List Char} {ds : List Nat}
    (h : List.Forall₂ (fun c d => f c = some d) cs ds) : cs.filterMap f = ds := by
  induction h with
  | nil => rfl
  | cons hd _ ih => rw [List.filterMap_cons_some hd, ih]

theorem takeDigits_eq (cs : List Char) : takeDigits digitValue? cs =
    if (splitOn '_' (cs.takeWhile inRun)).any (·.isEmpty) then none
    else some ((cs.takeWhile inRun).filterMap digitValue?, cs.dropWhile inRun) := rfl

/-- A run of digits is taken up to where it ends. -/
theorem takeDigits_joinWith (h : Groups groups values) {back : List Char}
    (hback : ∀ c ∈ back.head?, inRun c = false) :
    takeDigits digitValue? (joinWith '_' groups ++ back) = some (values, back) := by
  have hrun : ∀ c ∈ joinWith '_' groups, inRun c = true := fun c hc => h.inRun_of_mem hc
  have hstop : back.takeWhile inRun = [] ∧ back.dropWhile inRun = back := by
    cases back with
    | nil => exact ⟨rfl, rfl⟩
    | cons c back =>
      have hc := hback c rfl
      rw [List.takeWhile_cons, List.dropWhile_cons, hc]
      exact ⟨rfl, rfl⟩
  have htake : (joinWith '_' groups ++ back).takeWhile inRun = joinWith '_' groups := by
    rw [List.takeWhile_append_of_pos hrun, hstop.1, List.append_nil]
  have hdrop : (joinWith '_' groups ++ back).dropWhile inRun = back := by
    rw [List.dropWhile_append_of_pos hrun, hstop.2]
  have hsplit : splitOn '_' (joinWith '_' groups) = groups :=
    splitOn_joinWith h.nonempty fun g hg => h.notMem_underscore hg
  have hfull : ¬ groups.any (·.isEmpty) = true := by
    rw [List.any_eq_true]
    rintro ⟨g, hg, hempty⟩
    exact h.full g hg (List.isEmpty_iff.mp hempty)
  have hvalues : (joinWith '_' groups).filterMap digitValue? = values := by
    rw [filterMap_joinWith (by decide +kernel), filterMap_of_forall₂ h.digits]
  rw [takeDigits_eq, htake, hdrop, hsplit, if_neg hfull, hvalues]

/-- What was taken as digits is a run of them. -/
theorem exists_groups_of_takeDigits {cs rest : List Char}
    (h : takeDigits digitValue? cs = some (values, rest)) :
    ∃ groups, Groups groups values ∧ cs = joinWith '_' groups ++ rest := by
  rw [takeDigits_eq] at h
  split at h
  · exact absurd h.symm (Option.some_ne_none _)
  · rename_i hfull
    rw [Option.some.injEq, Prod.mk.injEq] at h
    obtain ⟨hvalues, hrest⟩ := h
    have hjoin : joinWith '_' (splitOn '_' (cs.takeWhile inRun)) = cs.takeWhile inRun :=
      joinWith_splitOn '_' _
    refine ⟨splitOn '_' (cs.takeWhile inRun), ⟨splitOn_ne_nil '_' _, ?_, ?_⟩, ?_⟩
    · intro g hg hempty
      exact hfull (List.any_eq_true.mpr ⟨g, hg, List.isEmpty_iff.mpr hempty⟩)
    · -- A character of the run that is no underscore is a digit.
      have hdigit : ∀ c ∈ (splitOn '_' (cs.takeWhile inRun)).flatten,
          (digitValue? c).isSome = true := by
        intro c hc
        obtain ⟨g, hg, hcg⟩ := List.mem_flatten.mp hc
        have hne : c ≠ '_' := by
          rintro rfl
          exact notMem_of_mem_splitOn hg hcg
        have hrun : inRun c = true := by
          apply List.mem_takeWhile_imp (l := cs)
          rw [← hjoin]
          exact mem_joinWith_of_mem hg hcg
        rwa [inRun, decide_eq_false hne, Bool.or_false] at hrun
      rw [← hvalues, ← hjoin, filterMap_joinWith (by decide +kernel), hjoin]
      exact forall₂_filterMap hdigit
    · rw [hjoin, ← hrest, List.takeWhile_append_dropWhile]

end Groups

theorem takeSign_append {sign rest : List Char} {negative : Bool} (h : Sign sign negative)
    (hrest : ∀ c ∈ rest.head?, c ≠ '-' ∧ c ≠ '+') :
    takeSign (sign ++ rest) = (negative, rest) := by
  cases h with
  | plus => rfl
  | minus => rfl
  | absent =>
    rw [List.nil_append]
    unfold takeSign
    split
    · exact absurd rfl (hrest '-' rfl).1
    · exact absurd rfl (hrest '+' rfl).2
    · rfl

theorem exists_sign_of_takeSign (cs : List Char) :
    ∃ sign, Sign sign (takeSign cs).1 ∧ cs = sign ++ (takeSign cs).2 := by
  unfold takeSign
  split
  · exact ⟨['-'], .minus, rfl⟩
  · exact ⟨['+'], .plus, rfl⟩
  · exact ⟨[], .absent, rfl⟩

theorem Spells.parseInt_eq_ok {text : String} {n : Int} (h : Spells text.toList n) :
    parseInt text = .ok n := by
  generalize hcs : text.toList = cs at h
  cases h with
  | @intro front sign back negative groups values hfront hsign hgroups hsize hback =>
    obtain ⟨c, rest, d, hhead, hd⟩ := hgroups.exists_head
    have hminus : c ≠ '-' := ne_of_digit (by decide +kernel) hd
    have hplus : c ≠ '+' := ne_of_digit (by decide +kernel) hd
    -- Neither a sign nor a digit is white space, so that only what stands before them is dropped.
    have hkept : (sign ++ (joinWith '_' groups ++ back)).dropWhile isWhite =
        sign ++ (joinWith '_' groups ++ back) := by
      rw [hhead]
      cases hsign with
      | absent => exact List.dropWhile_cons_of_neg (by simp [isWhite_eq_false_of_digit hd])
      | plus => exact List.dropWhile_cons_of_neg (by decide)
      | minus => exact List.dropWhile_cons_of_neg (by decide)
    have hdrop : text.toList.dropWhile isWhite = sign ++ (joinWith '_' groups ++ back) := by
      rw [hcs, List.dropWhile_append_of_pos hfront, hkept]
    have htake : takeSign (sign ++ (joinWith '_' groups ++ back)) =
        (negative, joinWith '_' groups ++ back) := by
      apply takeSign_append hsign
      rw [hhead]
      rintro _ ⟨⟩
      exact ⟨hminus, hplus⟩
    have hrun : takeDigits digitValue? (joinWith '_' groups ++ back) = some (values, back) := by
      apply takeDigits_joinWith hgroups
      intro b hb
      exact inRun_eq_false_of_isWhite (hback b (List.mem_of_mem_head? hb))
    have hlong : ¬ values.length > maxDigits := by omega
    have hblank : back.all isWhite = true := List.all_eq_true.mpr hback
    simp only [parseInt, hdrop, htake, hrun, if_neg hlong, if_pos hblank]

theorem spells_of_parseInt {text : String} {n : Int} (h : parseInt text = .ok n) :
    Spells text.toList n := by
  obtain ⟨sign, hsign, hrest⟩ := exists_sign_of_takeSign (text.toList.dropWhile isWhite)
  simp only [parseInt] at h
  split at h
  · exact absurd h (by simp)
  · rename_i ds rest hdigits
    obtain ⟨groups, hgroups, hjoin⟩ := exists_groups_of_takeDigits hdigits
    split at h
    · exact absurd h (by simp)
    · rename_i hlong
      split at h
      · rename_i hblank
        have hn := Except.ok.inj h
        have hsize : ds.length ≤ maxDigits := by omega
        have hfront : ∀ c ∈ text.toList.takeWhile isWhite, isWhite c = true :=
          fun c hc => List.mem_takeWhile_imp hc
        have htext : text.toList =
            text.toList.takeWhile isWhite ++ (sign ++ (joinWith '_' groups ++ rest)) := by
          rw [← hjoin, ← hrest, List.takeWhile_append_dropWhile]
        rw [htext, ← hn]
        exact .intro hfront hsign hgroups hsize (List.all_eq_true.mp hblank)
      · exact absurd h (by simp)

/-- A text is read as an integer exactly if it spells one. -/
theorem parseInt_eq_ok_iff {text : String} {n : Int} :
    parseInt text = .ok n ↔ Spells text.toList n :=
  ⟨spells_of_parseInt, Spells.parseInt_eq_ok⟩

theorem Spells.isBlankText_eq_false {text : String} {n : Int} (h : Spells text.toList n) :
    isBlankText text = false := by
  rw [← Bool.not_eq_true, isBlankText, List.all_eq_true]
  intro hblank
  generalize text.toList = cs at h hblank
  cases h with
  | intro _ _ hgroups _ _ =>
    obtain ⟨c, rest, d, hhead, hd⟩ := hgroups.exists_head
    have hc := hblank c (by simp [hhead])
    rw [isBlank_eq_false_of_digit hd] at hc
    exact Bool.false_ne_true hc

section Decimal

theorem ofDigits_eq_ofDigitChars (cs : List Char) :
    ofDigits (cs.map fun c => c.toNat - 48) = Nat.ofDigitChars 10 cs 0 := by
  rw [ofDigits, List.foldl_map]
  rfl

theorem groups_digits (n : Nat) : Groups [digits n] ((digits n).map fun c => c.toNat - 48) := by
  refine ⟨List.cons_ne_nil _ _, ?_, ?_⟩
  · intro g hg
    rw [List.mem_singleton] at hg
    rw [hg]
    exact Nat.toDigits_ne_nil
  · rw [List.flatten_singleton, List.forall₂_map_right_iff, List.forall₂_same]
    intro c hc
    exact digitValue?_of_isDigit (Nat.isDigit_of_mem_toDigits (by decide) (by decide) hc)

theorem ofDigits_digits (n : Nat) : ofDigits ((digits n).map fun c => c.toNat - 48) = n := by
  rw [ofDigits_eq_ofDigitChars, digits, Nat.ofDigitChars_ten_toDigits]

theorem toList_toString_int (n : Int) : (toString n).toList = digits n.natAbs ∧ 0 ≤ n ∨
    (toString n).toList = '-' :: digits n.natAbs ∧ n < 0 := by
  cases n with
  | ofNat m => exact Or.inl ⟨Nat.toList_repr, Int.natCast_nonneg m⟩
  | negSucc m =>
    right
    refine ⟨?_, Int.negSucc_lt_zero m⟩
    show ("-" ++ (m + 1).repr).toList = _
    rw [String.toList_append, Nat.toList_repr]
    rfl

theorem digits_injective : Function.Injective digits := by
  intro m n h
  rw [← ofDigits_digits m, h, ofDigits_digits]

theorem digits_ne_minus (m n : ℕ) : digits m ≠ '-' :: digits n := by
  intro h
  have hmem : '-' ∈ digits m := h ▸ List.mem_cons_self
  have hdigit : '-'.isDigit = true := Nat.isDigit_of_mem_toDigits (by decide) (by decide) hmem
  exact absurd hdigit (by decide)

/-- The decimal form of an integer tells which one it is. -/
theorem toString_int_injective : Function.Injective (toString : ℤ → String) := by
  intro m n h
  have htext := congrArg String.toList h
  rcases toList_toString_int m with ⟨hm, hsign⟩ | ⟨hm, hsign⟩ <;>
    rcases toList_toString_int n with ⟨hn, hsign'⟩ | ⟨hn, hsign'⟩ <;> rw [hm, hn] at htext
  · have habs := digits_injective htext
    omega
  · exact absurd htext (digits_ne_minus _ _)
  · exact absurd htext.symm (digits_ne_minus _ _)
  · have habs := digits_injective (List.cons.inj htext).2
    omega

/-- An integer is spelled by its decimal form. -/
theorem spells_toString {n : Int} (hsize : (digits n.natAbs).length ≤ maxDigits)
    {front back : List Char} (hfront : ∀ c ∈ front, isWhite c = true)
    (hback : ∀ c ∈ back, isWhite c = true) :
    Spells (front ++ (toString n).toList ++ back) n := by
  have hlength : ((digits n.natAbs).map fun c => c.toNat - 48).length ≤ maxDigits := by
    rwa [List.length_map]
  have hspells {sign : List Char} {negative : Bool} (hsign : Sign sign negative) :
      Spells (front ++ (sign ++ (digits n.natAbs ++ back))) (signed negative n.natAbs) := by
    have h := Spells.intro hfront hsign (groups_digits n.natAbs) hlength hback
    rwa [ofDigits_digits] at h
  rw [List.append_assoc]
  rcases toList_toString_int n with ⟨htext, hn⟩ | ⟨htext, hn⟩
  · have hvalue : signed false n.natAbs = n := Int.natAbs_of_nonneg hn
    have h := hspells .absent
    rwa [hvalue, List.nil_append, ← htext] at h
  · have hvalue : signed true n.natAbs = n := by
      show -(n.natAbs : Int) = n
      omega
    have h := hspells .minus
    rwa [hvalue, List.singleton_append, ← List.cons_append, ← htext] at h

theorem ofDigits_lt {ds : List Nat} (h : ∀ d ∈ ds, d < 10) : ofDigits ds < 10 ^ ds.length := by
  induction ds using List.reverseRecOn with
  | nil => exact Nat.one_pos
  | append_singleton ds d ih =>
    obtain ⟨hds, hd⟩ := List.forall_mem_append.mp h
    have hlt := ih hds
    have hd := hd d List.mem_cons_self
    have hsnoc : ofDigits (ds ++ [d]) = 10 * ofDigits ds + d := by
      rw [ofDigits, List.foldl_append]
      rfl
    rw [hsnoc, List.length_append, List.length_singleton, Nat.pow_succ]
    omega

theorem natAbs_signed (negative : Bool) (n : Nat) : (signed negative n).natAbs = n := by
  cases negative
  · exact Int.natAbs_natCast n
  · exact (Int.natAbs_neg n).trans (Int.natAbs_natCast n)

/-- A number has no more digits than its text. -/
theorem Spells.length_digits_le {cs : List Char} {n : Int} (h : Spells cs n) :
    (digits n.natAbs).length ≤ maxDigits := by
  cases h with
  | @intro front sign back negative groups values _ _ hgroups hsize _ =>
    have hlt : ofDigits values < 10 ^ maxDigits :=
      Nat.lt_of_lt_of_le (ofDigits_lt fun d hd => hgroups.value_lt hd)
        (Nat.pow_le_pow_right (by decide) hsize)
    rw [natAbs_signed]
    exact Nat.toDigits_length 10 _ maxDigits (by decide) hlt

end Decimal

end ChainHistory.Number
