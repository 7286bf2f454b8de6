import ChainHistory.Proofs.BlankText
import ChainHistory.Proofs.ChainList
import ChainHistory.Proofs.IntegerText
import Mathlib.Data.Bool.AllAny
import Mathlib.Data.List.ReduceOption

namespace ChainHistory

namespace ChainSpec

open Text Number

/-- A text between spaces and tabs. -/
inductive Padded (core : List Char) : List Char → Prop
  | intro (front back : List Char) (hfront : ∀ c ∈ front, c = ' ' ∨ c = '\t')
      (hback : ∀ c ∈ back, c = ' ' ∨ c = '\t') : Padded core (front ++ core ++ back)

/-- What stands between two plus signs: nothing, or a name in letters of either case. -/
inductive WritesName : Option Capability → List Char → Prop
  | nothing {cs : List Char} (h : Padded [] cs) : WritesName none cs
  | name {c : Capability} {word cs : List Char} (hword : word.map Char.toLower = c.name.toList)
      (h : Padded word cs) : WritesName (some c) cs

/-- Each member of the set is named, once or more, and nothing else is. -/
inductive WritesSet (s : Capabilities) : List Char → Prop
  | intro {parts : List (Option Capability × List Char)} (hparts : ∀ p ∈ parts, WritesName p.1 p.2)
      (hmembers : ∀ c, some c ∈ parts.map (·.1) ↔ s.has c = true) :
      WritesSet s (joinWith '+' (parts.map (·.2)))

/-- The entry of a chain. What pads it is the padding of its first part or of its last one. -/
inductive WritesEntry (spec : ChainSpec) : List Char → Prop
  | intro {coin number names : List Char} (hcoin : Padded spec.coin.toList coin)
      (hnumber : Padded (toString spec.coinId).toList number)
      (hnames : WritesSet spec.capabilities names) :
      WritesEntry spec (coin ++ '=' :: number ++ ':' :: names)

/-- The parts of a list between its commas: the entries of the chains in order, with blank parts
before, between and after them. -/
inductive WritesList : List ChainSpec → List (List Char) → Prop
  | nil : WritesList [] []
  | blank {cs : List Char} {specs : List ChainSpec} {parts : List (List Char)}
      (h : Padded [] cs) (hrest : WritesList specs parts) : WritesList specs (cs :: parts)
  | entry {spec : ChainSpec} {cs : List Char} {specs : List ChainSpec} {parts : List (List Char)}
      (h : WritesEntry spec cs) (hrest : WritesList specs parts) :
      WritesList (spec :: specs) (cs :: parts)

/-- A text lists chains. -/
def Lists (text : String) (specs : List ChainSpec) : Prop :=
  ∃ parts, WritesList specs parts ∧ text = String.ofList (joinWith ',' parts)

/-- A chain that an entry can name: its coin stays as it is when it is read, its number is not too
long, and it offers something. -/
structure Listable (spec : ChainSpec) : Prop where
  named : spec.coin ≠ ""
  stripped : strip spec.coin = spec.coin
  lower : lower spec.coin = spec.coin
  marks : ∀ mark ∈ [',', ':', '='], mark ∉ spec.coin.toList
  size : (digits spec.coinId.natAbs).length ≤ maxDigits
  offers : spec.capabilities ≠ .none

section Padding

variable {core cs : List Char}

theorem isBlank_of_pad {c : Char} (h : c = ' ' ∨ c = '\t') : isBlank c = true := by
  rcases h with rfl | rfl <;> decide

theorem isWhite_of_pad {c : Char} (h : c = ' ' ∨ c = '\t') : isWhite c = true := by
  rcases h with rfl | rfl <;> decide

theorem Padded.trim_eq (h : Padded core cs) : trim isBlank cs = trim isBlank core := by
  obtain ⟨front, back, hfront, hback⟩ := h
  apply trim_append
  · intro c hc
    exact isBlank_of_pad (hfront c hc)
  · intro c hc
    exact isBlank_of_pad (hback c hc)

theorem Padded.strip_eq_empty (h : Padded [] cs) : strip (String.ofList cs) = "" := by
  rw [strip, String.toList_ofList, h.trim_eq]
  rfl

theorem Padded.notMem (h : Padded core cs) {mark : Char} (hspace : mark ≠ ' ')
    (htab : mark ≠ '\t') (hcore : mark ∉ core) : mark ∉ cs := by
  obtain ⟨front, back, hfront, hback⟩ := h
  have hpad : ¬ (mark = ' ' ∨ mark = '\t') := not_or.mpr ⟨hspace, htab⟩
  rw [List.mem_append, List.mem_append, not_or, not_or]
  exact ⟨⟨fun h => hpad (hfront mark h), hcore⟩, fun h => hpad (hback mark h)⟩

end Padding

section Names

/-- The characters that part a list and its entries. None of them is a letter of a name, padding or
a part of a number. -/
def marks : List Char := [',', ':', '=', '+']

theorem pad_ne_of_mark {mark : Char} (h : mark ∈ marks) : mark ≠ ' ' ∧ mark ≠ '\t' := by
  have hall : ∀ m ∈ marks, m ≠ ' ' ∧ m ≠ '\t' := List.all_iff_forall_prop.mp (by decide)
  exact hall mark h

theorem letters_of_name {word : List Char} {c : Capability}
    (hword : word.map Char.toLower = c.name.toList) :
    ∀ d ∈ word, d.toNat < 128 ∧ isBlank d = false ∧ d ∉ marks := by
  intro d hd
  have hname : d.toLower ∈ c.name.toList := hword ▸ List.mem_map_of_mem hd
  have hletters : ∀ e ∈ c.name.toList, e.toNat < 128 ∧ isBlank e = false :=
    List.all_iff_forall_prop.mp (by cases c <;> decide)
  have hmarks : ∀ m ∈ marks, m.toLower ∉ c.name.toList :=
    List.all_iff_forall_prop.mp (by cases c <;> decide)
  have hkept : ∀ n < 128, isBlank (Char.ofNat n) = true →
      isBlank (Char.ofNat n).toLower = true := by
    decide +kernel
  have hascii : d.toNat < 128 := toNat_lt_of_toLower (hletters _ hname).1
  refine ⟨hascii, ?_, fun hmark => hmarks d hmark hname⟩
  rw [← Bool.not_eq_true]
  intro hblank
  have hlower := hkept d.toNat hascii
  rw [Char.ofNat_toNat] at hlower
  rw [(hletters _ hname).2] at hlower
  exact Bool.false_ne_true (hlower hblank)

theorem stripLower_eq (cs : List Char) :
    stripLower cs = String.ofList (lowerFrom [] (trim isBlank cs)) := by
  rw [stripLower, Text.lower, strip, String.toList_ofList, String.toList_ofList]

theorem WritesName.stripLower_eq {name : Option Capability} {cs : List Char}
    (h : WritesName name cs) : stripLower cs = (name.map (·.name)).getD "" := by
  cases h with
  | nothing h =>
    rw [ChainSpec.stripLower_eq, h.trim_eq]
    rfl
  | @name c word _ hword h =>
    have hletters := letters_of_name hword
    have hlower (before : List Char) : lowerFrom before word = c.name.toList := by
      rw [lowerFrom_of_lt fun d hd => (hletters d hd).1, hword]
    -- No letter is a blank, so that only the padding is taken off.
    have htrim : trim isBlank word = word := trim_of_forall fun d hd => (hletters d hd).2.1
    rw [ChainSpec.stripLower_eq, h.trim_eq, htrim, hlower, String.ofList_toList]
    rfl

theorem WritesName.notMem {name : Option Capability} {cs : List Char} (h : WritesName name cs)
    {mark : Char} (hmark : mark ∈ marks) : mark ∉ cs := by
  obtain ⟨hspace, htab⟩ := pad_ne_of_mark hmark
  cases h with
  | nothing h => exact h.notMem hspace htab List.not_mem_nil
  | name hword h =>
    exact h.notMem hspace htab fun hmem => (letters_of_name hword mark hmem).2.2 hmark

theorem WritesSet.notMem {s : Capabilities} {cs : List Char} (h : WritesSet s cs) {mark : Char}
    (hmark : mark ∈ marks) (hplus : mark ≠ '+') : mark ∉ cs := by
  cases h with
  | intro hparts _ =>
    intro hmem
    rcases mem_joinWith hmem with h | ⟨cs, hcs, hmem⟩
    · exact hplus h
    · obtain ⟨p, hp, rfl⟩ := List.mem_map.mp hcs
      exact (hparts p hp).notMem hmark hmem

theorem map_stripLower_splitOn_trimEnd {sep : Char} (hsep : isBlank sep = false) (cs : List Char) :
    (splitOn sep (trimEnd isBlank cs)).map stripLower = (splitOn sep cs).map stripLower := by
  have hcomp : stripLower = (fun cs => String.ofList (lowerFrom [] cs)) ∘ trim isBlank :=
    funext stripLower_eq
  rw [hcomp, ← List.map_map, ← List.map_map, map_trim_splitOn_trimEnd hsep]

theorem mapM_ofName (cs : List Capability) : (cs.map (·.name)).mapM Capability.ofName = .ok cs := by
  rw [Outcome.mapM_eq_ok_iff, List.forall₂_map_left_iff, List.forall₂_same]
  exact fun c _ => Capability.ofName_name c

/-- Blank names are passed over. -/
theorem filter_names (names : List (Option Capability)) :
    (names.map fun name => (name.map (·.name)).getD "").filter (· ≠ "") =
      names.reduceOption.map (·.name) := by
  induction names with
  | nil => rfl
  | cons name names ih =>
    rw [List.map_cons, List.filter_cons, ih]
    cases name with
    | none => rfl
    | some c =>
      have hne : decide (((some c).map (·.name)).getD "" ≠ "") = true :=
        decide_eq_true (Capability.name_ne c)
      rw [if_pos hne, List.reduceOption_cons_of_some]
      rfl

/-- The names of a set are read as the set, also without the blanks at their end. -/
theorem WritesSet.readCapabilities_eq {s : Capabilities} {cs : List Char} (h : WritesSet s cs)
    (hsome : s ≠ .none) : readCapabilities (trimEnd isBlank cs) = .ok s := by
  cases h with
  | @intro parts hparts hmembers =>
    have hne : parts.map (·.2) ≠ [] := by
      intro hnil
      apply hsome
      apply Capabilities.eq_of_has_iff
      intro c
      rw [← hmembers, List.map_eq_nil_iff.mp hnil]
      cases c <;> simp [Capabilities.none, Capabilities.has]
    have hsplit : splitOn '+' (joinWith '+' (parts.map (·.2))) = parts.map (·.2) := by
      apply splitOn_joinWith hne
      intro cs hcs
      obtain ⟨p, hp, rfl⟩ := List.mem_map.mp hcs
      exact (hparts p hp).notMem (by decide)
    have hread : (splitOn '+' (trimEnd isBlank (joinWith '+' (parts.map (·.2))))).map stripLower =
        (parts.map (·.1)).map fun name => (name.map (·.name)).getD "" := by
      rw [map_stripLower_splitOn_trimEnd (by decide), hsplit, List.map_map, List.map_map]
      exact List.map_congr_left fun p hp => (hparts p hp).stripLower_eq
    have hset : Capabilities.ofList (parts.map (·.1)).reduceOption = s := by
      apply Capabilities.eq_of_has_iff
      intro c
      rw [Capabilities.has_ofList, List.reduceOption_mem_iff, hmembers]
    rw [readCapabilities, hread, filter_names, mapM_ofName, ← hset]
    rfl

end Names

section Entries

variable {spec : ChainSpec} {cs : List Char}

theorem mem_toString_int {n : Int} {c : Char} (h : c ∈ (toString n).toList) :
    c = '-' ∨ c.isDigit = true := by
  have hdigit {m : Nat} (hm : c ∈ digits m) : c.isDigit = true :=
    Nat.isDigit_of_mem_toDigits (by decide) (by decide) hm
  rcases toList_toString_int n with ⟨hn, -⟩ | ⟨hn, -⟩ <;> rw [hn] at h
  · exact Or.inr (hdigit h)
  · exact (List.mem_cons.mp h).imp_right hdigit

theorem notMem_toString_int {mark : Char} (h : mark ∈ marks) (n : Int) :
    mark ∉ (toString n).toList := by
  have hall : ∀ m ∈ marks, m ≠ '-' ∧ m.isDigit = false :=
    List.all_iff_forall_prop.mp (by decide)
  intro hmem
  rcases mem_toString_int hmem with hminus | hdigit
  · exact (hall mark h).1 hminus
  · rw [(hall mark h).2] at hdigit
    exact Bool.false_ne_true hdigit

theorem readCoinId_padded {coin : String} {n : Int} (hsize : (digits n.natAbs).length ≤ maxDigits)
    {number : List Char} (h : Padded (toString n).toList number) :
    readCoinId coin (some number) = .ok n := by
  have hspells : Spells (String.ofList number).toList n := by
    rw [String.toList_ofList]
    obtain ⟨front, back, hfront, hback⟩ := h
    apply spells_toString hsize
    · intro c hc
      exact isWhite_of_pad (hfront c hc)
    · intro c hc
      exact isWhite_of_pad (hback c hc)
  simp only [readCoinId, Option.getD_some, hspells.isBlankText_eq_false, hspells.parseInt_eq_ok,
    Bool.not_false, if_true, Except.mapError]

theorem Listable.trim_coin (h : Listable spec) :
    trim isBlank spec.coin.toList = spec.coin.toList := by
  have hstrip := congrArg String.toList h.stripped
  rwa [strip, String.toList_ofList] at hstrip

theorem Listable.stripLower_coin (hspec : Listable spec) {coin : List Char}
    (h : Padded spec.coin.toList coin) : stripLower (coin.dropWhile isBlank) = spec.coin := by
  have htrim : trim isBlank (coin.dropWhile isBlank) = spec.coin.toList := by
    rw [trim_dropWhile, h.trim_eq, hspec.trim_coin]
  rw [stripLower_eq, htrim]
  exact hspec.lower

theorem WritesEntry.notMem_comma (h : WritesEntry spec cs) (hspec : Listable spec) : ',' ∉ cs := by
  cases h with
  | @intro coin number names hcoin hnumber hnames =>
    have hcoin' : ',' ∉ coin := hcoin.notMem (by decide) (by decide) (hspec.marks ',' (by decide))
    have hnumber' : ',' ∉ number :=
      hnumber.notMem (by decide) (by decide) (notMem_toString_int (by decide) _)
    have hnames' : ',' ∉ names := hnames.notMem (by decide) (by decide)
    simp only [List.mem_append, List.mem_cons, not_or]
    exact ⟨⟨hcoin', by decide, hnumber'⟩, by decide, hnames'⟩

/-- However the entry of a chain is laid out, it is read as the chain. -/
theorem WritesEntry.parseEntry_strip (h : WritesEntry spec cs) (hspec : Listable spec) :
    parseEntry (strip (String.ofList cs)) = .ok spec := by
  cases h with
  | @intro coin number names hcoin hnumber hnames =>
    have hcolon : ':' ∉ coin.dropWhile isBlank ++ '=' :: number := by
      have hcoin' : ':' ∉ coin :=
        hcoin.notMem (by decide) (by decide) (hspec.marks ':' (by decide))
      have hnumber' : ':' ∉ number :=
        hnumber.notMem (by decide) (by decide) (notMem_toString_int (by decide) _)
      rw [List.mem_append, List.mem_cons, not_or, not_or]
      exact ⟨fun h => hcoin' ((List.dropWhile_suffix _).subset h), by decide, hnumber'⟩
    have hequals : '=' ∉ coin.dropWhile isBlank := fun h =>
      hcoin.notMem (by decide) (by decide) (hspec.marks '=' (by decide))
        ((List.dropWhile_suffix _).subset h)
    -- The colon and the equals sign stay, so that the entry loses blanks at its two ends only.
    have hstrip : (strip (String.ofList (coin ++ '=' :: number ++ ':' :: names))).toList =
        (coin.dropWhile isBlank ++ '=' :: number) ++ ':' :: trimEnd isBlank names := by
      rw [strip, String.toList_ofList, String.toList_ofList, trim_append_stop (by decide),
        dropWhile_append_stop _ (by decide)]
    have hcut : cut ':' (strip (String.ofList (coin ++ '=' :: number ++ ':' :: names))).toList =
        some (coin.dropWhile isBlank ++ '=' :: number, trimEnd isBlank names) := by
      rw [hstrip, cut_append hcolon]
    have hnumberCut : cutNumber (coin.dropWhile isBlank ++ '=' :: number) =
        (coin.dropWhile isBlank, some number) := by
      rw [cutNumber, cut_append hequals]
    refine parseEntry_eq_ok hcut ?_ hspec.named ?_ ?_ hspec.offers
    · rw [hnumberCut]
      exact hspec.stripLower_coin hcoin
    · rw [hnumberCut]
      exact readCoinId_padded hspec.size hnumber
    · exact hnames.readCapabilities_eq hspec.offers

end Entries

section Lists

variable {specs : List ChainSpec} {parts : List (List Char)}

theorem WritesList.notMem_comma (h : WritesList specs parts)
    (hspecs : ∀ spec ∈ specs, Listable spec) : ∀ part ∈ parts, ',' ∉ part := by
  induction h with
  | nil => exact fun part hpart => absurd hpart List.not_mem_nil
  | blank h _ ih =>
    rw [List.forall_mem_cons]
    exact ⟨h.notMem (by decide) (by decide) List.not_mem_nil, ih hspecs⟩
  | entry h _ ih =>
    obtain ⟨hspec, hrest⟩ := List.forall_mem_cons.mp hspecs
    rw [List.forall_mem_cons]
    exact ⟨h.notMem_comma hspec, ih hrest⟩

/-- The parts of a list that are left when the blanks around them and the blank ones are gone. -/
def stripped (parts : List (List Char)) : List String :=
  (parts.map fun cs => strip (String.ofList cs)).filter (· ≠ "")

theorem stripped_cons_of_blank {cs : List Char} (h : strip (String.ofList cs) = "")
    (parts : List (List Char)) : stripped (cs :: parts) = stripped parts := by
  simp only [stripped, List.map_cons, h, List.filter_cons, ne_eq, not_true_eq_false, decide_false,
    Bool.false_eq_true, if_false]

theorem stripped_cons_of_ne {cs : List Char} (h : strip (String.ofList cs) ≠ "")
    (parts : List (List Char)) :
    stripped (cs :: parts) = strip (String.ofList cs) :: stripped parts := by
  simp only [stripped, List.map_cons, List.filter_cons, ne_eq, h, not_false_eq_true, decide_true,
    if_true]

theorem entries_joinWith (h : ∀ part ∈ parts, ',' ∉ part) :
    entries (String.ofList (joinWith ',' parts)) = stripped parts := by
  by_cases hne : parts = []
  · subst hne
    rfl
  · rw [entries, String.toList_ofList, splitOn_joinWith hne h, stripped]

/-- Every entry that is written gives its chain, as long as its coin is new. -/
theorem WritesList.outcomes_eq (h : WritesList specs parts)
    (hspecs : ∀ spec ∈ specs, Listable spec) (hnodup : (specs.map (·.coin)).Nodup)
    {seen : List String} (hseen : ∀ spec ∈ specs, spec.coin ∉ seen) :
    outcomes seen (stripped parts) = specs.map .taken := by
  -- The invariant: no coin that is still to come was seen.
  induction h generalizing seen with
  | nil => rfl
  | blank h _ ih =>
    rw [stripped_cons_of_blank h.strip_eq_empty]
    exact ih hspecs hnodup hseen
  | @entry spec cs specs parts h _ ih =>
    obtain ⟨hspec, hrest⟩ := List.forall_mem_cons.mp hspecs
    obtain ⟨hnew, hlater⟩ := List.forall_mem_cons.mp hseen
    rw [List.map_cons, List.nodup_cons] at hnodup
    have hparse := h.parseEntry_strip hspec
    have hne : strip (String.ofList cs) ≠ "" := by
      intro hempty
      rw [hempty] at hparse
      cases hparse
    have hjudge : judge seen (strip (String.ofList cs)) = .taken spec := by
      simp only [judge, hparse, if_neg hnew]
    have hseen' : ∀ later ∈ specs, later.coin ∉ spec.coin :: seen := by
      intro later hmem hcoin
      rcases List.mem_cons.mp hcoin with hcoin | hcoin
      · exact hnodup.1 (hcoin ▸ List.mem_map_of_mem hmem)
      · exact hlater later hmem hcoin
    rw [stripped_cons_of_ne hne, outcomes, hjudge, List.map_cons]
    exact congrArg (EntryOutcome.taken spec :: ·) (ih hrest hnodup.2 hseen')

/-- The entry of a chain without blanks, in which each member of the set is named once. -/
def plainEntry (spec : ChainSpec) : List Char :=
  spec.coin.toList ++ '=' :: (toString spec.coinId).toList ++ ':' ::
    joinWith '+' (spec.capabilities.toList.map (·.name.toList))

theorem padded_self (core : List Char) : Padded core core := by
  have hnone : ∀ c ∈ ([] : List Char), c = ' ' ∨ c = '\t' := fun _ h => absurd h List.not_mem_nil
  have h : Padded core ([] ++ core ++ []) := .intro [] [] hnone hnone
  rwa [List.nil_append, List.append_nil] at h

theorem writesSet_plain (s : Capabilities) :
    WritesSet s (joinWith '+' (s.toList.map (·.name.toList))) := by
  have hparts : ∀ p ∈ s.toList.map fun c => (some c, c.name.toList), WritesName p.1 p.2 := by
    intro p hp
    obtain ⟨c, -, rfl⟩ := List.mem_map.mp hp
    exact .name (by cases c <;> decide) (padded_self _)
  have hmembers : ∀ c, some c ∈ (s.toList.map fun c => (some c, c.name.toList)).map (·.1) ↔
      s.has c = true := by
    intro c
    simp [Capabilities.mem_toList_iff]
  have h := WritesSet.intro hparts hmembers
  rwa [List.map_map] at h

theorem writesList_plain (specs : List ChainSpec) : WritesList specs (specs.map plainEntry) := by
  induction specs with
  | nil => exact .nil
  | cons spec specs ih =>
    exact .entry (.intro (padded_self _) (padded_self _) (writesSet_plain _)) ih

/-- Chains with different coins are read back from every text that lists them, without a warning;
the plain text is one of these. -/
theorem listed_chains_read_back {specs : List ChainSpec} (hspecs : ∀ spec ∈ specs, Listable spec)
    (hnodup : (specs.map (·.coin)).Nodup) :
    Lists (String.ofList (joinWith ',' (specs.map plainEntry))) specs ∧
      ∀ text, Lists text specs → parseList text = (specs, []) := by
  refine ⟨⟨_, writesList_plain specs, rfl⟩, ?_⟩
  rintro _ ⟨parts, hparts, rfl⟩
  have hentries := entries_joinWith (hparts.notMem_comma hspecs)
  have houtcomes : outcomes [] (stripped parts) = specs.map .taken :=
    hparts.outcomes_eq hspecs hnodup fun spec _ => List.not_mem_nil
  have hspecs' : (specs.map EntryOutcome.taken).filterMap (·.spec?) = specs := by
    rw [List.filterMap_map]
    exact List.filterMap_some
  have hwarnings : (specs.map EntryOutcome.taken).filterMap (·.warning?) = [] := by
    rw [List.filterMap_map, List.filterMap_eq_nil_iff]
    exact fun spec _ => rfl
  simp only [parseList, hentries, houtcomes, hspecs', hwarnings]

def bigChain : ChainSpec := ⟨"big chain", -7, { tx := true, xpub := true }⟩

def tokenChain : ChainSpec := ⟨"b", 60, { token := true }⟩

def paddedText : String := " ,\tbig chain =-7: XPUB++tx+tX\t,b=60:token"

theorem lists_paddedText : Lists paddedText [bigChain, tokenChain] := by
  have hpad {front : List Char} (h : front.all (fun c => c = ' ' ∨ c = '\t') = true) :
      ∀ c ∈ front, c = ' ' ∨ c = '\t' := List.all_iff_forall_prop.mp h
  have hblank : Padded [] " ".toList := .intro [' '] [] (hpad rfl) (hpad rfl)
  have hcoin : Padded "big chain".toList "\tbig chain ".toList :=
    .intro ['\t'] [' '] (hpad rfl) (hpad rfl)
  have hupper : "XPUB".toList.map Char.toLower = Capability.xpub.name.toList := by decide
  have hxpub : WritesName (some .xpub) " XPUB".toList :=
    .name hupper (.intro [' '] [] (hpad rfl) (hpad rfl))
  have htx : WritesName (some .tx) "tx".toList := .name (by decide) (padded_self _)
  have hmixed : "tX".toList.map Char.toLower = Capability.tx.name.toList := by decide
  have htx' : WritesName (some .tx) "tX\t".toList :=
    .name hmixed (.intro [] ['\t'] (hpad rfl) (hpad rfl))
  have hnames : WritesSet bigChain.capabilities " XPUB++tx+tX\t".toList := by
    have hparts : ∀ p ∈ [(some .xpub, " XPUB".toList), (none, []), (some .tx, "tx".toList),
        (some .tx, "tX\t".toList)], WritesName p.1 p.2 := by
      simp only [List.forall_mem_cons]
      exact ⟨hxpub, .nothing (padded_self _), htx, htx', fun _ h => absurd h List.not_mem_nil⟩
    exact WritesSet.intro hparts fun c => by cases c <;> decide
  have hbig : WritesEntry bigChain "\tbig chain =-7: XPUB++tx+tX\t".toList :=
    .intro hcoin (padded_self _) hnames
  have htoken : WritesEntry tokenChain "b=60:token".toList :=
    .intro (padded_self _) (padded_self _) (writesSet_plain tokenChain.capabilities)
  exact ⟨_, .blank hblank (.entry hbig (.entry htoken .nil)), by decide⟩

/-- A blank part and an empty name, a blank inside a coin, letters of either case, a name that is
there twice, a number below zero. -/
theorem listed_chains_read_back_of_padded :
    Lists paddedText [bigChain, tokenChain] ∧
      parseList paddedText = ([bigChain, tokenChain], []) := by
  have hmarks {coin : String} (h : [',', ':', '='].all (fun m => m ∉ coin.toList) = true) :
      ∀ mark ∈ [',', ':', '='], mark ∉ coin.toList := List.all_iff_forall_prop.mp h
  have hbig : Listable bigChain :=
    ⟨by decide, by decide, by decide, hmarks (by decide), by decide, by decide⟩
  have htoken : Listable tokenChain :=
    ⟨by decide, by decide, by decide, hmarks (by decide), by decide, by decide⟩
  have hspecs : ∀ spec ∈ [bigChain, tokenChain], Listable spec := by
    simp only [List.forall_mem_cons]
    exact ⟨hbig, htoken, fun _ h => absurd h List.not_mem_nil⟩
  exact ⟨lists_paddedText, (listed_chains_read_back hspecs (by decide)).2 _ lists_paddedText⟩

end Lists

end ChainSpec

end ChainHistory
