import ChainHistory.Proofs.CaselessText
import ChainHistory.Proofs.ChainListText
import Mathlib.Data.List.FinRange

/-! What becomes of the entries of a list. Each of them is judged by itself and by the coins that
the entries before it name, so that a list is told position by position, and two lists make one. -/

namespace ChainHistory.ChainSpec

open Text Number

section Outcomes

/-- The coin of an entry that can be read. -/
def coinOf? (entry : String) : Option String :=
  (parseEntry entry).toOption.map (·.coin)

/-- The coins that entries name, taken or not. -/
def named (es : List String) : List String := es.filterMap coinOf?

theorem coinOf?_eq_some_iff {entry coin : String} :
    coinOf? entry = some coin ↔ ∃ spec, parseEntry entry = .ok spec ∧ spec.coin = coin := by
  rw [coinOf?, Option.map_eq_some_iff]
  cases parseEntry entry <;> simp [Except.toOption]

theorem mem_named_iff {es : List String} {coin : String} : coin ∈ named es ↔
    ∃ entry ∈ es, ∃ spec, parseEntry entry = .ok spec ∧ spec.coin = coin := by
  simp only [named, List.mem_filterMap, coinOf?_eq_some_iff]

theorem named_of_error {entry : String} {e : EntryError} (h : parseEntry entry = .error e) :
    named [entry] = [] := by
  simp [named, coinOf?, h, Except.toOption]

theorem named_of_ok {entry : String} {spec : ChainSpec} (h : parseEntry entry = .ok spec) :
    named [entry] = [spec.coin] := by
  simp [named, coinOf?, h, Except.toOption]

theorem judge_of_error {entry : String} {e : EntryError} (h : parseEntry entry = .error e)
    (seen : List String) : judge seen entry = .rejected entry e := by
  rw [judge, h]

theorem judge_of_ok {entry : String} {spec : ChainSpec} (h : parseEntry entry = .ok spec)
    (seen : List String) :
    judge seen entry = if spec.coin ∈ seen then .repeated spec.coin else .taken spec := by
  rw [judge, h]

/-- Of the coins that were seen it counts only which they are. -/
theorem judge_congr {seen seen' : List String} (h : ∀ coin, coin ∈ seen ↔ coin ∈ seen')
    (entry : String) : judge seen entry = judge seen' entry := by
  cases hread : parseEntry entry with
  | error e => rw [judge_of_error hread, judge_of_error hread]
  | ok spec => simp only [judge_of_ok hread, h]

theorem outcomes_congr {seen seen' : List String} (h : ∀ coin, coin ∈ seen ↔ coin ∈ seen')
    (es : List String) : outcomes seen es = outcomes seen' es := by
  induction es generalizing seen seen' with
  | nil => rfl
  | cons entry es ih =>
    rw [outcomes, outcomes, judge_congr h entry]
    cases judge seen' entry with
    | taken spec =>
      exact congrArg _ (ih fun coin => by rw [List.mem_cons, List.mem_cons, h])
    | rejected entry e => exact congrArg _ (ih h)
    | repeated coin => exact congrArg _ (ih h)

/-- The coin that an entry names counts as seen behind it, whatever became of the entry. -/
theorem outcomes_cons (seen : List String) (entry : String) (es : List String) :
    outcomes seen (entry :: es) = judge seen entry :: outcomes (seen ++ named [entry]) es := by
  cases hread : parseEntry entry with
  | error e => rw [outcomes, judge_of_error hread, named_of_error hread, List.append_nil]
  | ok spec =>
    rw [outcomes, judge_of_ok hread, named_of_ok hread]
    by_cases hseen : spec.coin ∈ seen
    · -- To count a coin again that was seen makes no difference.
      rw [if_pos hseen]
      refine congrArg _ (outcomes_congr (fun coin => ?_) es)
      rw [List.mem_append, List.mem_singleton]
      exact ⟨Or.inl, fun h => h.elim id fun h => h ▸ hseen⟩
    · rw [if_neg hseen]
      refine congrArg _ (outcomes_congr (fun coin => ?_) es)
      rw [List.mem_append, List.mem_singleton, List.mem_cons, or_comm]

theorem named_cons (entry : String) (es : List String) :
    named (entry :: es) = named [entry] ++ named es :=
  List.filterMap_append (l := [entry])

theorem outcomes_append (seen xs ys : List String) :
    outcomes seen (xs ++ ys) = outcomes seen xs ++ outcomes (seen ++ named xs) ys := by
  induction xs generalizing seen with
  | nil => rw [List.nil_append, outcomes, List.nil_append, named, List.filterMap_nil,
      List.append_nil]
  | cons entry xs ih =>
    rw [List.cons_append, outcomes_cons, ih, outcomes_cons, named_cons entry xs,
      List.append_assoc, List.cons_append]

/-- An entry is judged by the coins that the entries before it name. -/
theorem outcomes_eq_map (seen es : List String) : outcomes seen es =
    (List.finRange es.length).map fun i : Fin es.length =>
      judge (seen ++ named (es.take i)) es[i] := by
  -- The coins that were seen grow by those of each entry that the induction passes.
  induction es generalizing seen with
  | nil => rfl
  | cons entry es ih =>
    have hrange : List.finRange (entry :: es).length =
        (0 : Fin (es.length + 1)) :: (List.finRange es.length).map Fin.succ :=
      List.finRange_succ
    have hzero : judge (seen ++ named ((entry :: es).take 0)) entry = judge seen entry := by
      rw [List.take_zero, named, List.filterMap_nil, List.append_nil]
    rw [outcomes_cons, ih, hrange, List.map_cons, List.map_map]
    refine congrArg₂ List.cons hzero.symm (List.map_congr_left fun i _ => ?_)
    have htake : (entry :: es).take (i + 1) = entry :: es.take i := List.take_succ_cons
    change _ = judge (seen ++ named ((entry :: es).take (i + 1))) es[i]
    rw [htake, named_cons entry (es.take i), List.append_assoc]

/-- What an outcome is where some coins were seen before. -/
def EntryOutcome.after (seen : List String) : EntryOutcome → EntryOutcome
  | .taken spec => if spec.coin ∈ seen then .repeated spec.coin else .taken spec
  | .rejected entry e => .rejected entry e
  | .repeated coin => .repeated coin

theorem judge_append (seen seen' : List String) (entry : String) :
    judge (seen ++ seen') entry = (judge seen' entry).after seen := by
  cases hread : parseEntry entry with
  | error e => rw [judge_of_error hread, judge_of_error hread, EntryOutcome.after]
  | ok spec =>
    rw [judge_of_ok hread, judge_of_ok hread]
    by_cases hseen' : spec.coin ∈ seen'
    · rw [if_pos hseen', if_pos (List.mem_append_right seen hseen'), EntryOutcome.after]
    · rw [if_neg hseen', EntryOutcome.after]
      simp only [List.mem_append, hseen', or_false]

/-- Coins that were seen before a list change what becomes of its entries one by one. -/
theorem outcomes_after (seen seen' es : List String) :
    outcomes (seen ++ seen') es = (outcomes seen' es).map (·.after seen) := by
  induction es generalizing seen' with
  | nil => rfl
  | cons entry es ih =>
    rw [outcomes_cons, outcomes_cons, judge_append, List.append_assoc, ih, List.map_cons]

theorem spec?_eq_some_iff {o : EntryOutcome} {spec : ChainSpec} :
    o.spec? = some spec ↔ o = .taken spec := by
  cases o <;> simp [EntryOutcome.spec?]

/-- An outcome is a chain or a warning, and not both. -/
theorem isSome_warning? (o : EntryOutcome) : o.warning?.isSome = !o.spec?.isSome := by
  cases o <;> rfl

theorem spec?_after (seen : List String) (o : EntryOutcome) :
    (o.after seen).spec? = o.spec?.filter (·.coin ∉ seen) := by
  cases o with
  | taken spec =>
    by_cases h : spec.coin ∈ seen <;>
      simp [EntryOutcome.after, EntryOutcome.spec?, Option.filter_some, h]
  | _ => rfl

theorem filterMap_spec?_after (seen : List String) (os : List EntryOutcome) :
    (os.map (·.after seen)).filterMap (·.spec?) =
      (os.filterMap (·.spec?)).filter (·.coin ∉ seen) := by
  rw [List.filterMap_map, List.filter_filterMap]
  simp only [Function.comp_def, spec?_after]

/-- Nothing that is warned of goes unsaid for the coins that were seen before. -/
theorem filterMap_warning?_after (seen : List String) (os : List EntryOutcome) :
    (os.filterMap (·.warning?)).Sublist
      ((os.map (·.after seen)).filterMap (·.warning?)) := by
  induction os with
  | nil => exact List.Sublist.slnil
  | cons o os ih =>
    rw [List.map_cons]
    cases o with
    | taken spec =>
      rw [List.filterMap_cons_none rfl]
      cases hline : ((EntryOutcome.taken spec).after seen).warning? with
      | none => rwa [List.filterMap_cons_none hline]
      | some line =>
        rw [List.filterMap_cons_some hline]
        exact ih.cons line
    | rejected entry e => exact ih.cons_cons _
    | repeated coin => exact ih.cons_cons _

theorem taken_eq_append (seen : List String) (entry : String) (es : List String) :
    taken seen (entry :: es) =
      (judge seen entry).spec?.toList ++ taken (seen ++ named [entry]) es := by
  rw [taken, taken, outcomes_cons]
  cases hspec : (judge seen entry).spec? with
  | none => rw [List.filterMap_cons_none hspec, Option.toList_none, List.nil_append]
  | some spec => rw [List.filterMap_cons_some hspec, Option.toList_some, List.singleton_append]

/-- Apart from the coins that were seen, those are taken that entries name. -/
theorem mem_coins_taken_iff (seen es : List String) (coin : String) :
    coin ∈ seen ∨ coin ∈ (taken seen es).map (·.coin) ↔ coin ∈ seen ∨ coin ∈ named es := by
  induction es generalizing seen with
  | nil => rfl
  | cons entry es ih =>
    have hhead : coin ∈ seen ∨ coin ∈ (judge seen entry).spec?.toList.map (·.coin) ↔
        coin ∈ seen ∨ coin ∈ named [entry] := by
      cases hread : parseEntry entry with
      | error e =>
        rw [judge_of_error hread, named_of_error hread]
        rfl
      | ok spec =>
        rw [judge_of_ok hread, named_of_ok hread]
        by_cases hseen : spec.coin ∈ seen
        · rw [if_pos hseen]
          simpa [EntryOutcome.spec?] using fun h : coin = spec.coin => h ▸ hseen
        · rw [if_neg hseen]
          rfl
    have htail := ih (seen ++ named [entry])
    rw [taken_eq_append, named_cons entry es]
    simp only [List.map_append, List.mem_append] at htail ⊢
    rw [← or_assoc, hhead, htail, or_assoc]

/-- Every coin that an entry names is listed, whatever stands before that entry. -/
theorem mem_coins_parseList_iff (text coin : String) :
    coin ∈ (parseList text).1.map (·.coin) ↔ coin ∈ named (entries text) := by
  have h := mem_coins_taken_iff [] (entries text) coin
  simp only [List.not_mem_nil, false_or] at h
  exact h

end Outcomes

section Accounts

/-- The entry at `i` is the first of the list that is read as a chain of its coin. -/
structure Introduces (es : List String) (i : Fin es.length) (spec : ChainSpec) : Prop where
  read : parseEntry es[i] = .ok spec
  first : ∀ j < i, ∀ earlier, parseEntry es[j] = .ok earlier → earlier.coin ≠ spec.coin

/-- What is said of an entry that introduces no chain: that it cannot be read and why, or that an
entry before it is read as a chain of its coin. -/
inductive WarnedOf (es : List String) (i : Fin es.length) : LogLine → Prop
  | rejected {e : EntryError} (h : parseEntry es[i] = .error e) : WarnedOf es i
      (.warning s!"[REGISTRY] Skipping chain entry '{es[i]}': {e.message}")
  | repeated {spec earlier : ChainSpec} {j : Fin es.length} (h : parseEntry es[i] = .ok spec)
      (hj : j < i) (hearlier : parseEntry es[j] = .ok earlier)
      (hcoin : earlier.coin = spec.coin) : WarnedOf es i
        (.warning s!"[REGISTRY] Duplicate chain '{spec.coin}', keeping the first entry.")

/-- Each position of a list gives one of the chains or one of the warnings, both in order. -/
structure PartedInto (es : List String) (specs : List ChainSpec) (lines : List LogLine)
    (taken refused : List (Fin es.length)) : Prop where
  takenOrder : taken.Pairwise (· < ·)
  refusedOrder : refused.Pairwise (· < ·)
  introduced : ∀ i, i ∈ taken ↔ ∃ spec, Introduces es i spec
  others : ∀ i, i ∈ refused ↔ i ∉ taken
  chains : List.Forall₂ (Introduces es) taken specs
  warnings : List.Forall₂ (WarnedOf es) refused lines

/-- Chains and warnings that account for a list of entries. They part its positions between them,
a coin that an entry names is never lost, and each chain is in the form in which a list would name
it. -/
structure AccountFor (es : List String) (specs : List ChainSpec) (lines : List LogLine) :
    Prop where
  positions : ∃ taken refused, PartedInto es specs lines taken refused
  size : es.length = specs.length + lines.length
  coins : (specs.map (·.coin)).Nodup
  named : ∀ entry ∈ es, ∀ spec, parseEntry entry = .ok spec → spec.coin ∈ specs.map (·.coin)
  listable : ∀ spec ∈ specs, Listable spec

/-- What becomes of the entry at a position. -/
def outcomeAt (es : List String) (i : Fin es.length) : EntryOutcome :=
  judge (named (es.take i)) es[i]

theorem mem_named_take_iff {es : List String} {i : Fin es.length} {coin : String} :
    coin ∈ named (es.take i) ↔
      ∃ j < i, ∃ earlier, parseEntry es[j] = .ok earlier ∧ earlier.coin = coin := by
  rw [mem_named_iff]
  constructor
  · rintro ⟨entry, hentry, hearlier⟩
    obtain ⟨j, hj, rfl⟩ := List.mem_take_iff_getElem.mp hentry
    exact ⟨⟨j, by omega⟩, Fin.mk_lt_of_lt_val (by omega), hearlier⟩
  · rintro ⟨j, hj, hearlier⟩
    exact ⟨es[j], List.mem_take_iff_getElem.mpr ⟨j, by omega, rfl⟩, hearlier⟩

theorem outcomeAt_eq_taken_iff {es : List String} {i : Fin es.length} {spec : ChainSpec} :
    outcomeAt es i = .taken spec ↔ Introduces es i spec := by
  constructor
  · intro h
    cases hread : parseEntry es[i] with
    | error e => rw [outcomeAt, judge_of_error hread] at h; cases h
    | ok spec' =>
      rw [outcomeAt, judge_of_ok hread] at h
      split_ifs at h with hseen
      obtain rfl := EntryOutcome.taken.inj h
      refine ⟨hread, fun j hj earlier hearlier hcoin => hseen ?_⟩
      exact mem_named_take_iff.mpr ⟨j, hj, earlier, hearlier, hcoin⟩
  · intro h
    rw [outcomeAt, judge_of_ok h.read, if_neg]
    intro hseen
    obtain ⟨j, hj, earlier, hearlier, hcoin⟩ := mem_named_take_iff.mp hseen
    exact h.first j hj earlier hearlier hcoin

theorem warnedOf_of_outcomeAt {es : List String} {i : Fin es.length} {line : LogLine}
    (h : (outcomeAt es i).warning? = some line) : WarnedOf es i line := by
  cases hread : parseEntry es[i] with
  | error e =>
    rw [outcomeAt, judge_of_error hread] at h
    obtain rfl := Option.some.inj h
    exact .rejected hread
  | ok spec =>
    rw [outcomeAt, judge_of_ok hread] at h
    split_ifs at h with hseen
    · obtain ⟨j, hj, earlier, hearlier, hcoin⟩ := mem_named_take_iff.mp hseen
      obtain rfl := Option.some.inj h
      exact .repeated hread hj hearlier hcoin
    · cases h

theorem forall₂_filter_filterMap {α β : Type} (f : α → Option β) (l : List α) :
    List.Forall₂ (fun a b => f a = some b) (l.filter fun a => (f a).isSome) (l.filterMap f) := by
  induction l with
  | nil => exact .nil
  | cons a l ih =>
    cases hf : f a with
    | none => rwa [List.filterMap_cons_none hf, List.filter_cons_of_neg (by simp [hf])]
    | some b =>
      rw [List.filterMap_cons_some hf, List.filter_cons_of_pos (by simp [hf])]
      exact .cons hf ih

theorem filterMap_outcomes {β : Type} (f : EntryOutcome → Option β) (es : List String) :
    (outcomes [] es).filterMap f =
      (List.finRange es.length).filterMap fun i => f (outcomeAt es i) := by
  have houtcomes : outcomes [] es = (List.finRange es.length).map (outcomeAt es) :=
    outcomes_eq_map [] es
  rw [houtcomes, List.filterMap_map]
  rfl

theorem partedInto_outcomes (es : List String) :
    PartedInto es ((outcomes [] es).filterMap (·.spec?)) ((outcomes [] es).filterMap (·.warning?))
      ((List.finRange es.length).filter fun i => (outcomeAt es i).spec?.isSome)
      ((List.finRange es.length).filter fun i => (outcomeAt es i).warning?.isSome) where
  takenOrder := (List.pairwise_lt_finRange es.length).filter _
  refusedOrder := (List.pairwise_lt_finRange es.length).filter _
  introduced := by
    intro i
    simp only [List.mem_filter, List.mem_finRange, true_and, Option.isSome_iff_exists,
      spec?_eq_some_iff, outcomeAt_eq_taken_iff]
  others := by
    intro i
    simp only [List.mem_filter, List.mem_finRange, true_and, isSome_warning?, Bool.not_eq_true',
      Bool.not_eq_true]
  chains := by
    rw [filterMap_outcomes]
    apply (forall₂_filter_filterMap _ _).imp
    intro i spec h
    exact outcomeAt_eq_taken_iff.mp (spec?_eq_some_iff.mp h)
  warnings := by
    rw [filterMap_outcomes]
    apply (forall₂_filter_filterMap _ _).imp
    intro i line h
    exact warnedOf_of_outcomeAt h

theorem length_filterMap_outcomes (os : List EntryOutcome) :
    os.length =
      (os.filterMap EntryOutcome.spec?).length + (os.filterMap EntryOutcome.warning?).length := by
  induction os with
  | nil => rfl
  | cons o os ih =>
    have hone := isSome_warning? o
    cases hspec : o.spec? with
    | none =>
      rw [hspec] at hone
      obtain ⟨line, hline⟩ := Option.isSome_iff_exists.mp hone
      rw [List.filterMap_cons_none hspec, List.filterMap_cons_some hline, List.length_cons,
        List.length_cons]
      omega
    | some spec =>
      rw [hspec] at hone
      have hline : o.warning? = none := by simpa using hone
      rw [List.filterMap_cons_some hspec, List.filterMap_cons_none hline, List.length_cons,
        List.length_cons]
      omega

theorem notMem_comma_of_mem_entries {text entry : String} (h : entry ∈ entries text) :
    ',' ∉ entry.toList := by
  obtain ⟨part, hpart, rfl⟩ := List.mem_map.mp (List.mem_filter.mp h).1
  rw [strip, String.toList_ofList, String.toList_ofList]
  exact fun hcomma => notMem_of_mem_splitOn hpart (trim_subset isBlank part hcomma)

theorem cutNumber_fst (head : List Char) :
    (cutNumber head).1 ⊆ head ∧ '=' ∉ (cutNumber head).1 := by
  rw [cutNumber]
  cases hcut : cut '=' head with
  | none => exact ⟨List.Subset.refl head, (cut_eq_none_iff head).mp hcut⟩
  | some parts =>
    obtain ⟨hhead, hequals⟩ := eq_of_cut_eq_some hcut
    refine ⟨?_, hequals⟩
    rw [hhead]
    exact List.subset_append_left _ _

theorem mem_of_mem_stripLower {cs : List Char} {c : Char} (hc : c ∈ (stripLower cs).toList)
    (h : IsCaseless c) : c ∈ cs := by
  rw [stripLower_eq, String.toList_ofList] at hc
  exact trim_subset isBlank cs (mem_of_mem_lowerFrom hc h)

theorem length_digits_of_readCoinId {coin : String} {number : Option (List Char)} {n : Int}
    (h : readCoinId coin number = .ok n) : (digits n.natAbs).length ≤ maxDigits := by
  have hknown : ∀ p ∈ knownCoinIds, (digits p.2.natAbs).length ≤ maxDigits := by decide +kernel
  simp only [readCoinId] at h
  split at h
  · exact (spells_of_parseInt (Outcome.eq_of_mapError h)).length_digits_le
  · split at h
    · rename_i m hlookup
      obtain rfl := Except.ok.inj h
      obtain ⟨front, back, hmem, -⟩ := List.lookup_eq_some_iff.mp hlookup
      exact hknown (coin, m) (hmem ▸ List.mem_append_right front List.mem_cons_self)
    · cases h

/-- An entry of a list that can be read gives a chain that a list can name. -/
theorem listable_of_parseEntry {entry : String} {spec : ChainSpec}
    (h : parseEntry entry = .ok spec) (hcomma : ',' ∉ entry.toList) : Listable spec := by
  obtain ⟨head, names, hcut, hcoin, hne, hid, -, hsome⟩ := eq_of_parseEntry_eq_ok h
  obtain ⟨hentry, hcolon⟩ := eq_of_cut_eq_some hcut
  obtain ⟨hsub, hequals⟩ := cutNumber_fst head
  rw [hentry, List.mem_append, not_or] at hcomma
  refine ⟨hne, ?_, lower_coin_of_parseEntry h, ?_, length_digits_of_readCoinId hid, hsome⟩
  · rw [hcoin, stripLower, strip_lower_strip]
  · -- A mark has no case, so that it would have stood in the entry before the equals sign.
    intro mark hmark hmem
    have hcaseless : ∀ m ∈ [',', ':', '='], IsCaseless m :=
      List.all_iff_forall_prop.mp (by decide +kernel)
    rw [hcoin] at hmem
    have hin := mem_of_mem_stripLower hmem (hcaseless mark hmark)
    simp only [List.mem_cons, List.not_mem_nil, or_false] at hmark
    rcases hmark with rfl | rfl | rfl
    · exact hcomma.1 (hsub hin)
    · exact hcolon (hsub hin)
    · exact hequals hin

theorem accountFor_entries (text : String) :
    AccountFor (entries text) (parseList text).1 (parseList text).2 where
  positions := ⟨_, _, partedInto_outcomes (entries text)⟩
  size := by
    have hlength : (outcomes [] (entries text)).length = (entries text).length := by
      rw [outcomes_eq_map, List.length_map, List.length_finRange]
    rw [← hlength]
    exact length_filterMap_outcomes _
  coins := nodup_coins_parseList text
  named := by
    intro entry hentry spec hread
    rw [mem_coins_parseList_iff]
    exact mem_named_iff.mpr ⟨entry, hentry, spec, hread, rfl⟩
  listable := by
    intro spec hspec
    obtain ⟨entry, hentry, hread⟩ := exists_entry_of_mem_taken hspec
    exact listable_of_parseEntry hread (notMem_comma_of_mem_entries hentry)

/-- No part between the commas of a text is passed over in silence, unless it is blank. The chains
are those that the parts introduce, in order, and of every other part it is said, in order, why it
introduces none. -/
theorem every_entry_accounted_for (text : String) : ∃ parts : List (List Char),
    joinWith ',' parts = text.toList ∧ (∀ part ∈ parts, ',' ∉ part) ∧
      AccountFor (stripped parts) (parseList text).1 (parseList text).2 := by
  have hentries : entries text = stripped (splitOn ',' text.toList) := rfl
  refine ⟨splitOn ',' text.toList, joinWith_splitOn ',' _, ?_, ?_⟩
  · exact fun part hpart => notMem_of_mem_splitOn hpart
  · rw [← hentries]
    exact accountFor_entries text

/-- An entry that cannot be read, a blank one, and a coin in other letters. -/
example : parseList "a:tx,a=1:tx, ,\tA =2:xpub" =
    ([⟨"a", 1, { tx := true }⟩],
      [.warning "[REGISTRY] Skipping chain entry 'a:tx': unknown coin 'a' needs an explicit id",
        .warning "[REGISTRY] Duplicate chain 'a', keeping the first entry."]) := by
  decide +kernel

end Accounts

section Joined

theorem entries_append_comma (a b : String) :
    entries (a ++ "," ++ b) = entries a ++ entries b := by
  have htext : (a ++ "," ++ b).toList = a.toList ++ ',' :: b.toList := by
    rw [String.toList_append, String.toList_append, List.append_assoc]
    rfl
  rw [entries, htext, splitOn_append_sep, List.map_append, List.filter_append, entries, entries]

/-- A list behind another one adds those of its chains, in order, whose coins are new. All that was
warned of in either list is warned of again, in order. -/
theorem parseList_append_comma (a b : String) :
    (parseList (a ++ "," ++ b)).1 =
        (parseList a).1 ++ (parseList b).1.filter (·.coin ∉ (parseList a).1.map (·.coin)) ∧
      ((parseList a).2 ++ (parseList b).2).Sublist (parseList (a ++ "," ++ b)).2 := by
  have houtcomes : outcomes [] (entries (a ++ "," ++ b)) = outcomes [] (entries a) ++
      (outcomes [] (entries b)).map (·.after (named (entries a))) := by
    rw [entries_append_comma, outcomes_append, List.nil_append, ← outcomes_after, List.append_nil]
  constructor
  · simp only [mem_coins_parseList_iff]
    rw [parseList, houtcomes, List.filterMap_append, filterMap_spec?_after]
    rfl
  · simp only [parseList, houtcomes, List.filterMap_append]
    exact (List.Sublist.refl _).append (filterMap_warning?_after _ _)

end Joined

end ChainHistory.ChainSpec
