import ChainHistory.ChainSpec
import ChainHistory.Proofs.LowerCase
import ChainHistory.Proofs.Outcome
import Mathlib.Data.List.Nodup

namespace ChainHistory

namespace Capabilities

theorem has_insert (c d : Capability) (s : Capabilities) :
    (s.insert c).has d = true ↔ d = c ∨ s.has d = true := by
  cases c <;> cases d <;> simp [insert, has]

theorem has_ofList (cs : List Capability) (d : Capability) :
    (ofList cs).has d = true ↔ d ∈ cs := by
  induction cs with
  | nil => cases d <;> simp [ofList, none, has]
  | cons c cs ih =>
    have hcons : ofList (c :: cs) = (ofList cs).insert c := rfl
    rw [hcons, has_insert, ih, List.mem_cons]

/-- A set is known by its members. -/
theorem eq_of_has_iff {s t : Capabilities} (h : ∀ c, s.has c = true ↔ t.has c = true) : s = t := by
  have htx := h .tx
  have htoken := h .token
  have haccount := h .account
  have hxpub := h .xpub
  simp only [has, ← Bool.eq_iff_iff] at htx htoken haccount hxpub
  cases s
  cases t
  exact mk.injEq .. ▸ ⟨htx, htoken, haccount, hxpub⟩

theorem mem_toList_iff {s : Capabilities} {c : Capability} : c ∈ s.toList ↔ s.has c = true := by
  have hall : c ∈ Capability.all := by cases c <;> decide
  rw [toList, List.mem_filter, and_iff_right hall]

end Capabilities

namespace Capability

theorem ofName_name (c : Capability) : ofName c.name = .ok c := by
  cases c <;> rfl

theorem name_ne (c : Capability) : c.name ≠ "" := by
  cases c <;> decide

end Capability

namespace ChainSpec

open Text

/-- What stands in an entry that can be read. -/
theorem eq_of_parseEntry_eq_ok {entry : String} {spec : ChainSpec}
    (h : parseEntry entry = .ok spec) :
    ∃ head names, cut ':' entry.toList = some (head, names) ∧
      spec.coin = stripLower (cutNumber head).1 ∧ spec.coin ≠ "" ∧
      readCoinId spec.coin (cutNumber head).2 = .ok spec.coinId ∧
      readCapabilities names = .ok spec.capabilities ∧ spec.capabilities ≠ .none := by
  simp only [parseEntry, bind, Except.bind, throw, throwThe, MonadExceptOf.throw, pure,
    Except.pure] at h
  cases hcut : cut ':' entry.toList with
  | none => simp only [hcut, reduceCtorEq] at h
  | some parts =>
    obtain ⟨head, names⟩ := parts
    simp only [hcut] at h
    split at h
    · simp only [reduceCtorEq] at h
    · rename_i hcoin
      cases hid : readCoinId (stripLower (cutNumber head).1) (cutNumber head).2 with
      | error e => simp only [hid, reduceCtorEq] at h
      | ok coinId =>
        cases hcaps : (readCapabilities names).mapError EntryError.unknownCapability with
        | error e => simp only [hid, hcaps, reduceCtorEq] at h
        | ok capabilities =>
          simp only [hid, hcaps] at h
          split at h
          · simp only [reduceCtorEq] at h
          · rename_i hnone
            simp only [Except.ok.injEq] at h
            subst h
            exact ⟨head, names, rfl, rfl, hcoin, hid, Outcome.eq_of_mapError hcaps, hnone⟩

theorem parseEntry_eq_ok {entry : String} {head names : List Char} {spec : ChainSpec}
    (hcut : cut ':' entry.toList = some (head, names))
    (hcoin : stripLower (cutNumber head).1 = spec.coin) (hne : spec.coin ≠ "")
    (hid : readCoinId spec.coin (cutNumber head).2 = .ok spec.coinId)
    (hcaps : readCapabilities names = .ok spec.capabilities) (hsome : spec.capabilities ≠ .none) :
    parseEntry entry = .ok spec := by
  simp only [parseEntry, bind, Except.bind, throw, throwThe, MonadExceptOf.throw, pure,
    Except.pure, hcut, hcoin, hne, hid, hcaps, hsome, Except.mapError, if_false]

theorem lower_coin_of_parseEntry {entry : String} {spec : ChainSpec}
    (h : parseEntry entry = .ok spec) : lower spec.coin = spec.coin := by
  obtain ⟨head, names, -, hcoin, -⟩ := eq_of_parseEntry_eq_ok h
  rw [hcoin, stripLower, lower_lower]

/-- The chains that entries give after the coins in `seen`. -/
def taken (seen : List String) (es : List String) : List ChainSpec :=
  (outcomes seen es).filterMap (·.spec?)

theorem taken_cons (seen : List String) (entry : String) (es : List String) :
    (∃ spec, parseEntry entry = .ok spec ∧ spec.coin ∉ seen ∧
      taken seen (entry :: es) = spec :: taken (spec.coin :: seen) es) ∨
    taken seen (entry :: es) = taken seen es := by
  cases hparse : parseEntry entry with
  | error e =>
    right
    simp only [taken, outcomes, judge, hparse, List.filterMap_cons, EntryOutcome.spec?]
  | ok spec =>
    by_cases hseen : spec.coin ∈ seen
    · right
      simp only [taken, outcomes, judge, hparse, hseen, if_true, List.filterMap_cons,
        EntryOutcome.spec?]
    · left
      refine ⟨spec, rfl, hseen, ?_⟩
      simp only [taken, outcomes, judge, hparse, hseen, if_false, List.filterMap_cons,
        EntryOutcome.spec?]

theorem exists_entry_of_mem_taken {seen es : List String} {spec : ChainSpec}
    (h : spec ∈ taken seen es) : ∃ entry ∈ es, parseEntry entry = .ok spec := by
  induction es generalizing seen with
  | nil => exact absurd h List.not_mem_nil
  | cons entry es ih =>
    have htail {seen : List String} (h : spec ∈ taken seen es) :
        ∃ e ∈ entry :: es, parseEntry e = .ok spec := by
      obtain ⟨e, he, hparse⟩ := ih h
      exact ⟨e, List.mem_cons_of_mem entry he, hparse⟩
    rcases taken_cons seen entry es with ⟨first, hparse, -, htaken⟩ | htaken
    · rw [htaken, List.mem_cons] at h
      rcases h with rfl | h
      · exact ⟨entry, List.mem_cons_self, hparse⟩
      · exact htail h
    · rw [htaken] at h
      exact htail h

/-- No coin is taken that was seen before, and none is taken twice. -/
theorem coins_taken (seen es : List String) :
    ((taken seen es).map (·.coin)).Nodup ∧ ∀ spec ∈ taken seen es, spec.coin ∉ seen := by
  induction es generalizing seen with
  | nil => exact ⟨List.nodup_nil, fun spec h => absurd h List.not_mem_nil⟩
  | cons entry es ih =>
    rcases taken_cons seen entry es with ⟨first, -, hfirst, htaken⟩ | htaken
    · -- The coin that was taken counts as seen from here on.
      obtain ⟨hnodup, hnew⟩ := ih (first.coin :: seen)
      rw [htaken, List.map_cons, List.nodup_cons]
      refine ⟨⟨?_, hnodup⟩, ?_⟩
      · intro hmem
        obtain ⟨spec, hspec, hcoin⟩ := List.mem_map.mp hmem
        exact hnew spec hspec (hcoin ▸ List.mem_cons_self)
      · intro spec hspec
        rcases List.mem_cons.mp hspec with rfl | hspec
        · exact hfirst
        · exact fun h => hnew spec hspec (List.mem_cons_of_mem first.coin h)
    · rw [htaken]
      exact ih seen

theorem nodup_coins_parseList (text : String) : ((parseList text).1.map (·.coin)).Nodup :=
  (coins_taken [] (entries text)).1

theorem lower_coin_of_mem_parseList {text : String} {spec : ChainSpec}
    (h : spec ∈ (parseList text).1) : lower spec.coin = spec.coin := by
  obtain ⟨entry, -, hparse⟩ := exists_entry_of_mem_taken h
  exact lower_coin_of_parseEntry hparse

theorem coin_ne_of_mem_parseList {text : String} {spec : ChainSpec}
    (h : spec ∈ (parseList text).1) : spec.coin ≠ "" := by
  obtain ⟨entry, -, hparse⟩ := exists_entry_of_mem_taken h
  obtain ⟨head, names, -, -, hne, -⟩ := eq_of_parseEntry_eq_ok hparse
  exact hne

end ChainSpec

end ChainHistory
