import ChainHistory.Proofs.AssocLookup
import ChainHistory.Proofs.BlankText
import ChainHistory.Proofs.LineBreaks
import ChainHistory.Proofs.Utf8Blocks
import ChainHistory.Settings.ConfigFile

namespace ChainHistory

namespace Text

theorem before_prefix (mark cs : List Char) : before mark cs <+: cs := by
  induction cs with
  | nil => exact List.prefix_rfl
  | cons c cs ih =>
    rw [before]
    split
    · exact List.nil_prefix
    · exact List.cons_prefix_cons.mpr ⟨rfl, ih⟩

/-- The mark is not in what stands before the first one. -/
theorem not_infix_before {mark : List Char} (hmark : mark ≠ []) (cs : List Char) :
    ¬ mark <:+: before mark cs := by
  induction cs with
  | nil => exact fun h => hmark (List.infix_nil.mp h)
  | cons c cs ih =>
    rw [before]
    split
    · exact fun h => hmark (List.infix_nil.mp h)
    · rename_i hprefix
      rw [List.infix_cons_iff, not_or]
      refine ⟨fun h => hprefix ?_, ih⟩
      have hcs : c :: before mark cs <+: c :: cs :=
        List.cons_prefix_cons.mpr ⟨rfl, before_prefix mark cs⟩
      exact List.isPrefixOf_iff_prefix.mpr (h.trans hcs)

theorem before_eq_self {mark cs : List Char} (h : ¬ mark <:+: cs) : before mark cs = cs := by
  induction cs with
  | nil => rfl
  | cons c cs ih =>
    rw [List.infix_cons_iff, not_or] at h
    have hprefix : ¬ mark.isPrefixOf (c :: cs) = true := by
      rw [List.isPrefixOf_iff_prefix]
      exact h.1
    rw [before, if_neg hprefix, ih h.2]

theorem exists_eq_before {mark cs : List Char} (h : mark <:+: cs) :
    ∃ rest, cs = before mark cs ++ mark ++ rest := by
  induction cs with
  | nil =>
    rw [List.infix_nil] at h
    subst h
    exact ⟨[], rfl⟩
  | cons c cs ih =>
    rw [before]
    split
    · rename_i hprefix
      obtain ⟨rest, hrest⟩ := List.isPrefixOf_iff_prefix.mp hprefix
      exact ⟨rest, by rw [List.nil_append, hrest]⟩
    · rename_i hprefix
      rw [List.isPrefixOf_iff_prefix] at hprefix
      rcases List.infix_cons_iff.mp h with h | h
      · exact absurd h hprefix
      · obtain ⟨rest, hrest⟩ := ih h
        exact ⟨rest, by rw [List.cons_append, List.cons_append, ← hrest]⟩

end Text

namespace Settings.ConfigFile

open Text

/-- What begins a comment behind a value. -/
def commentMark : List Char := [' ', '#']

theorem before_append_commentMark {cs : List Char} (h : ¬ commentMark <:+: cs)
    (rest : List Char) : before commentMark (cs ++ commentMark ++ rest) = cs := by
  induction cs with
  | nil => rfl
  | cons c cs ih =>
    rw [List.infix_cons_iff, not_or] at h
    have hprefix : ¬ commentMark.isPrefixOf (c :: cs ++ commentMark ++ rest) = true := by
      rw [List.isPrefixOf_iff_prefix]
      intro hmark
      apply h.1
      -- The two characters of the mark would be the first ones, of which a blank begins the mark
      -- itself and is no number sign.
      cases cs with
      | nil => exact absurd hmark (by simp [commentMark])
      | cons d cs => simpa [commentMark] using hmark
    rw [List.cons_append, List.cons_append] at hprefix ⊢
    rw [before, if_neg hprefix, ih h.2]

/-- What holds no number sign begins no comment behind a text. -/
theorem not_infix_append {cs back : List Char} (h : ¬ commentMark <:+: cs) (hback : '#' ∉ back) :
    ¬ commentMark <:+: cs ++ back := by
  induction cs with
  | nil => exact fun hmark => hback (hmark.subset (by decide))
  | cons c cs ih =>
    rw [List.infix_cons_iff, not_or] at h
    rw [List.cons_append, List.infix_cons_iff, not_or]
    refine ⟨fun hmark => ?_, ih h.2⟩
    cases cs with
    | nil => exact hback ((List.cons_prefix_cons.mp hmark).2.subset (by decide))
    | cons d cs => exact h.1 (by simpa [commentMark] using hmark)

theorem not_infix_of_blank {cs : List Char} (h : ∀ c ∈ cs, isBlank c = true) :
    ¬ commentMark <:+: cs := fun hmark =>
  absurd (h '#' (hmark.subset (by decide))) (by decide)

/-- What stands as a value behind a colon: neither a comment nor outer blanks. -/
def valuePart (cs : List Char) : List Char := trim isBlank (before commentMark cs)

theorem valuePart_eq_trim {cs : List Char} (h : ¬ commentMark <:+: cs) :
    valuePart cs = trim isBlank cs := by
  rw [valuePart, before_eq_self h]

theorem valuePart_append_comment {cs : List Char} (h : ¬ commentMark <:+: cs)
    (rest : List Char) : valuePart (cs ++ commentMark ++ rest) = trim isBlank cs := by
  rw [valuePart, before_append_commentMark h]

/-- The first comment, and what stands before it. -/
theorem exists_first_comment {cs : List Char} (h : commentMark <:+: cs) :
    ∃ front rest, cs = front ++ commentMark ++ rest ∧ ¬ commentMark <:+: front := by
  obtain ⟨rest, hrest⟩ := exists_eq_before h
  exact ⟨_, rest, hrest, not_infix_before (by decide) cs⟩

theorem valuePart_trimEnd (cs : List Char) : valuePart (trimEnd isBlank cs) = valuePart cs := by
  obtain ⟨back, hback, hcs⟩ := exists_dropped_end isBlank cs
  by_cases h : commentMark <:+: trimEnd isBlank cs
  · -- A comment begins before the blanks that are dropped.
    obtain ⟨front, rest, hfirst, hfront⟩ := exists_first_comment h
    have hall : cs = front ++ commentMark ++ (rest ++ back) := by
      rw [← List.append_assoc, ← hfirst, ← hcs]
    rw [hfirst, valuePart_append_comment hfront, hall, valuePart_append_comment hfront]
  · have hall : ¬ commentMark <:+: cs := by
      rw [hcs]
      exact not_infix_append h fun hmem => absurd (hback '#' hmem) (by decide)
    have htrim := trim_append_right hback (trimEnd isBlank cs)
    rw [← hcs] at htrim
    rw [valuePart_eq_trim h, valuePart_eq_trim hall, htrim]

/-- What a line with a colon sets, by what stands on either side of its first one. -/
theorem setting?_of_colon {key : List Char} (hkey : ':' ∉ key) (value : List Char) :
    setting? (key ++ ':' :: value) =
      if (key.dropWhile isBlank).head? = some '#' ∨ trim isBlank key = [] ∨
        valuePart value = [] then none
      else some (String.ofList (trim isBlank key), String.ofList (unquote (valuePart value))) := by
  have hcolon : isBlank ':' = false := by decide
  have hkey' : ':' ∉ key.dropWhile isBlank := fun h =>
    hkey ((List.dropWhile_suffix isBlank).subset h)
  have hhead : (key.dropWhile isBlank ++ ':' :: trimEnd isBlank value).head? = some '#' ↔
      (key.dropWhile isBlank).head? = some '#' := by
    cases key.dropWhile isBlank with
    | nil => exact iff_of_false (by simp) (by simp)
    | cons c cs => rfl
  have hvalue : trim isBlank (before [' ', '#'] (trimEnd isBlank value)) = valuePart value :=
    valuePart_trimEnd value
  simp only [setting?, trim_append_stop hcolon, cut_append hkey', hhead, trim_dropWhile, hvalue,
    Bool.or_eq_true, List.isEmpty_iff]
  by_cases hcomment : (key.dropWhile isBlank).head? = some '#'
  · rw [if_pos hcomment, if_pos (Or.inl hcomment)]
  · rw [if_neg hcomment]
    simp only [hcomment, false_or]

theorem setting?_of_comment {front : List Char} (hfront : ∀ c ∈ front, isBlank c = true)
    (rest : List Char) : setting? (front ++ '#' :: rest) = none := by
  have hhash : isBlank '#' = false := by decide
  have hnone : front.dropWhile isBlank = [] := List.dropWhile_eq_nil_iff.mpr hfront
  simp only [setting?, trim_append_stop hhash, hnone, List.nil_append, List.head?_cons, if_true]

theorem setting?_of_notMem {line : List Char} (h : ':' ∉ line) : setting? line = none := by
  have hcut : cut ':' (trim isBlank line) = none := by
    rw [cut_eq_none_iff]
    exact fun hmem => h (trim_subset isBlank line hmem)
  simp only [setting?, hcut, ite_self]

/-- A line that sets nothing: a comment, or a line that is short of a colon, of a key or of a value.
A blank line has no colon. -/
inductive SetsNothing : List Char → Prop
  | comment {front : List Char} (hfront : ∀ c ∈ front, isBlank c = true) (rest : List Char) :
      SetsNothing (front ++ '#' :: rest)
  | noColon {line : List Char} (h : ':' ∉ line) : SetsNothing line
  | noKey {key : List Char} (hkey : ∀ c ∈ key, isBlank c = true) (value : List Char) :
      SetsNothing (key ++ ':' :: value)
  | noValue {key value : List Char} (hkey : ':' ∉ key) (hvalue : ∀ c ∈ value, isBlank c = true) :
      SetsNothing (key ++ ':' :: value)
  | onlyComment {key blanks : List Char} (hkey : ':' ∉ key)
      (hblanks : ∀ c ∈ blanks, isBlank c = true) (rest : List Char) :
      SetsNothing (key ++ ':' :: (blanks ++ commentMark ++ rest))

theorem exists_cut_of_mem {line : List Char} (h : ':' ∈ line) :
    ∃ key value, ':' ∉ key ∧ line = key ++ ':' :: value := by
  cases hcut : cut ':' line with
  | none => exact absurd h ((cut_eq_none_iff line).mp hcut)
  | some parts =>
    obtain ⟨hline, hkey⟩ := eq_of_cut_eq_some hcut
    exact ⟨parts.1, parts.2, hkey, hline⟩

theorem setsNothing_of_short {key value : List Char} (hkey : ':' ∉ key)
    (h : (key.dropWhile isBlank).head? = some '#' ∨ trim isBlank key = [] ∨ valuePart value = []) :
    SetsNothing (key ++ ':' :: value) := by
  rcases h with h | h | h
  · obtain ⟨rest, hrest⟩ := List.head?_eq_some_iff.mp h
    rw [← List.takeWhile_append_dropWhile (p := isBlank) (l := key), hrest, List.append_assoc]
    exact .comment (fun c hc => List.mem_takeWhile_imp hc) _
  · rw [trim_eq_nil_iff, List.all_eq_true] at h
    exact .noKey h value
  · by_cases hmark : commentMark <:+: value
    · obtain ⟨front, rest, rfl, hfront⟩ := exists_first_comment hmark
      rw [valuePart_append_comment hfront, trim_eq_nil_iff, List.all_eq_true] at h
      exact .onlyComment hkey h rest
    · rw [valuePart_eq_trim hmark, trim_eq_nil_iff, List.all_eq_true] at h
      exact .noValue hkey h

theorem setting?_of_short {key value : List Char} (hkey : ':' ∉ key)
    (h : trim isBlank key = [] ∨ valuePart value = []) : setting? (key ++ ':' :: value) = none := by
  rw [setting?_of_colon hkey, if_pos (Or.inr h)]

/-- A line sets a key unless it is a comment or something is missing in it. -/
theorem setting?_eq_none_iff (line : List Char) : setting? line = none ↔ SetsNothing line := by
  constructor
  · intro hnone
    by_cases hcolon : ':' ∈ line
    · obtain ⟨key, value, hkey, rfl⟩ := exists_cut_of_mem hcolon
      rw [setting?_of_colon hkey] at hnone
      split at hnone
      · exact setsNothing_of_short hkey ‹_›
      · cases hnone
    · exact .noColon hcolon
  · intro h
    have hnil {cs : List Char} (hcs : ∀ c ∈ cs, isBlank c = true) : trim isBlank cs = [] := by
      rw [trim_eq_nil_iff, List.all_eq_true]
      exact hcs
    cases h with
    | comment hfront rest => exact setting?_of_comment hfront rest
    | noColon h => exact setting?_of_notMem h
    | noKey hkey value =>
      have hcolon : ':' ∉ _ := fun hmem => absurd (hkey ':' hmem) (by decide)
      exact setting?_of_short hcolon (Or.inl (hnil hkey))
    | noValue hkey hvalue =>
      have hshort := valuePart_eq_trim (not_infix_of_blank hvalue)
      exact setting?_of_short hkey (Or.inr (hshort.trans (hnil hvalue)))
    | onlyComment hkey hblanks rest =>
      have hshort := valuePart_append_comment (not_infix_of_blank hblanks) rest
      exact setting?_of_short hkey (Or.inr (hshort.trans (hnil hblanks)))

/-- What the lines of a text set, in order. -/
def settings (cs : List Char) : Variables := (lines cs).filterMap setting?

theorem settings_append (a : List Char) (e : LineEnd) (b : List Char) :
    settings (a ++ e.chars ++ b) = settings a ++ settings b :=
  filterMap_lines_append rfl a e b

theorem settings_eq_nil_iff {cs : List Char} :
    settings cs = [] ↔ ∀ line ∈ lines cs, SetsNothing line := by
  rw [settings, List.filterMap_eq_nil_iff]
  exact forall₂_congr fun line _ => setting?_eq_none_iff line

theorem ofText_eq (cs : List Char) : ofText cs = Assoc.ofList (settings cs) := rfl

theorem ofBytes_encode (cs : List Char) : ofBytes (Utf8.encode cs) = .ok (ofText cs) := by
  rw [ofBytes, Utf8.decodeBlocks_blocks_encode]
  rfl

/-- Of two files joined by a line end, whichever end it is and whatever else ends their lines, the
second overrides the first. Lines that are comments or that something is missing in override
nothing, and a file of such lines alone is the one that holds nothing. -/
theorem later_file_overrides (a b : List Char) (e : LineEnd) : ∃ first second joined,
    ofBytes (Utf8.encode a) = .ok first ∧ ofBytes (Utf8.encode b) = .ok second ∧
      ofBytes (Utf8.encode (a ++ e.chars ++ b)) = .ok joined ∧
      (joined.map (·.1)).Nodup ∧
      (∀ key, joined.lookup key = (second.lookup key).or (first.lookup key)) ∧
      (second = [] ↔ ∀ line ∈ lines b, SetsNothing line) ∧
      ((∀ line ∈ lines b, SetsNothing line) → joined = first) := by
  refine ⟨_, _, _, ofBytes_encode a, ofBytes_encode b, ofBytes_encode _,
    Assoc.nodup_keys_ofList _, ?_, ?_, ?_⟩
  · intro key
    rw [ofText_eq, settings_append, Assoc.lookup_ofList_append, ofText_eq, ofText_eq]
  · rw [ofText_eq, Assoc.ofList_eq_nil_iff, settings_eq_nil_iff]
  · intro hb
    rw [ofText_eq, settings_append, settings_eq_nil_iff.mpr hb, List.append_nil, ofText_eq]

-- The return that ends the first file and the feed between the two are one line end.
example : ofText "A: 1\rB: 2\r\nA: # none\r\nB:\u00a03 #".toList = [("A", "1"), ("B", "3")] := by
  decide +kernel

end Settings.ConfigFile

end ChainHistory
