import ChainHistory.Proofs.SettingLines

namespace ChainHistory.Settings.ConfigFile

open Text

/-- A key that can be written as it is. -/
structure IsKey (key : String) : Prop where
  ne : key ≠ ""
  stripped : strip key = key
  notMem : ':' ∉ key.toList
  unbroken : Unbroken key.toList
  head : key.toList.head? ≠ some '#'

/-- A value that fits on a line. -/
structure IsValue (value : String) : Prop where
  ne : value ≠ ""
  unbroken : Unbroken value.toList

def IsQuote (mark : Char) : Prop := mark = '"' ∨ mark = '\''

/-- Blanks, or a comment behind blanks. -/
inductive Trails : List Char → Prop
  | blanks (blanks : List Char) (hblank : ∀ c ∈ blanks, isBlank c = true)
      (hline : Unbroken blanks) : Trails blanks
  | comment (blanks text : List Char) (hblank : ∀ c ∈ blanks, isBlank c = true)
      (hline : Unbroken (blanks ++ commentMark ++ text)) : Trails (blanks ++ commentMark ++ text)

/-- A key and its value in quotes, and what stands behind them. -/
def quotedLine (key value : String) (mark : Char) (trail : List Char) : List Char :=
  key.toList ++ ':' :: ' ' :: mark :: (value.toList ++ mark :: trail)

/-- Lines that write settings in their order, each in quotes on a line of its own, with blank lines
and comments anywhere between them. -/
inductive Writes : Variables → List (List Char) → Prop
  | nil : Writes [] []
  | blank {es : Variables} {ls : List (List Char)} (line : List Char)
      (hblank : ∀ c ∈ line, isBlank c = true) (hline : Unbroken line) (h : Writes es ls) :
      Writes es (line :: ls)
  | comment {es : Variables} {ls : List (List Char)} (front text : List Char)
      (hfront : ∀ c ∈ front, isBlank c = true) (hline : Unbroken (front ++ '#' :: text))
      (h : Writes es ls) : Writes es ((front ++ '#' :: text) :: ls)
  | entry {es : Variables} {ls : List (List Char)} {key value : String} {mark : Char}
      {trail : List Char} (hkey : IsKey key) (hvalue : IsValue value) (hmark : IsQuote mark)
      (htrail : Trails trail) (h : Writes es ls) :
      Writes ((key, value) :: es) (quotedLine key value mark trail :: ls)

/-- A text of lines, with any line end behind each but the last. -/
inductive Lays : List (List Char) → List Char → Prop
  | last (line : List Char) : Lays [line] line
  | more {ls : List (List Char)} {cs : List Char} (line : List Char) (e : LineEnd)
      (h : Lays ls cs) : Lays (line :: ls) (line ++ e.chars ++ cs)

section Value

variable {mark : Char} (hmark : IsQuote mark)
include hmark

theorem IsQuote.isBlank_eq_false : isBlank mark = false := by
  rcases hmark with rfl | rfl <;> decide

theorem IsQuote.ne_hash : mark ≠ '#' := by
  rcases hmark with rfl | rfl <;> decide

theorem IsQuote.unbroken : Unbroken [mark] := by
  rcases hmark with rfl | rfl <;> decide

theorem unquote_quoted (cs : List Char) : unquote (mark :: (cs ++ [mark])) = cs := by
  have hlast : (cs ++ [mark]).getLast? = some mark := List.getLast?_concat
  rw [unquote, if_pos ⟨hmark, hlast⟩, List.dropLast_concat]

/-- An opening quote begins no comment. -/
theorem not_infix_quote {cs : List Char} (h : ¬ commentMark <:+: cs) :
    ¬ commentMark <:+: ' ' :: mark :: cs := by
  have hblank : ' ' ≠ mark := by
    rcases hmark with rfl | rfl <;> decide
  have hhash : '#' ≠ mark := Ne.symm hmark.ne_hash
  rw [List.infix_cons_iff, List.infix_cons_iff, not_or, not_or]
  refine ⟨fun hprefix => ?_, fun hprefix => ?_, h⟩
  · exact hhash (List.cons_prefix_cons.mp (List.cons_prefix_cons.mp hprefix).2).1
  · exact hblank (List.cons_prefix_cons.mp hprefix).1

end Value

theorem length_unquote_le (cs : List Char) : (unquote cs).length ≤ cs.length := by
  unfold unquote
  split
  · exact Nat.le_refl _
  · split
    · rw [List.length_dropLast, List.length_cons]
      omega
    · exact Nat.le_refl _

theorem Trails.unbroken {trail : List Char} (h : Trails trail) : Unbroken trail := by
  cases h with
  | blanks _ _ hline => exact hline
  | comment _ _ _ hline => exact hline

theorem valuePart_trailing {cs trail : List Char} (h : ¬ commentMark <:+: cs)
    (htrail : Trails trail) : valuePart (cs ++ trail) = trim isBlank cs := by
  have hdrop {blanks : List Char} (hblank : ∀ c ∈ blanks, isBlank c = true) :
      trim isBlank (cs ++ blanks) = trim isBlank cs := trim_append_right hblank cs
  have hnone {blanks : List Char} (hblank : ∀ c ∈ blanks, isBlank c = true) :
      ¬ commentMark <:+: cs ++ blanks :=
    not_infix_append h fun hmem => absurd (hblank '#' hmem) (by decide)
  cases htrail with
  | blanks _ hblank _ => rw [valuePart_eq_trim (hnone hblank), hdrop hblank]
  | comment _ _ hblank _ =>
    rw [← List.append_assoc, ← List.append_assoc, valuePart_append_comment (hnone hblank),
      hdrop hblank]

/-- A value in quotes is read as it is unless it holds what looks like a comment; then it is cut,
and its opening quote is part of what is read. -/
theorem setting?_quotedLine {key : String} {mark : Char} {trail : List Char} (hkey : IsKey key)
    (value : String) (hmark : IsQuote mark) (htrail : Trails trail) :
    ∃ read, setting? (quotedLine key value mark trail) = some (key, read) ∧
      (read = value ↔ ¬ commentMark <:+: value.toList) := by
  have hquote := hmark.isBlank_eq_false
  have htrim : trim isBlank key.toList = key.toList := by
    have h := congrArg String.toList hkey.stripped
    rwa [strip, String.toList_ofList] at h
  have hhead : (key.toList.dropWhile isBlank).head? ≠ some '#' := by
    rw [← htrim, dropWhile_trim, htrim]
    exact hkey.head
  have hne : key.toList ≠ [] := fun h => hkey.ne (String.toList_eq_nil_iff.mp h)
  -- The line sets the key to what its quotes are taken off from.
  have hset {part : List Char} (hpart : part ≠ [])
      (h : valuePart (' ' :: mark :: (value.toList ++ mark :: trail)) = part) :
      setting? (quotedLine key value mark trail) = some (key, String.ofList (unquote part)) := by
    rw [quotedLine, setting?_of_colon hkey.notMem, h, htrim, String.ofList_toList, if_neg]
    exact not_or.mpr ⟨hhead, not_or.mpr ⟨hne, hpart⟩⟩
  by_cases hcomment : commentMark <:+: value.toList
  · obtain ⟨front, rest, hfirst, hfront⟩ := exists_first_comment hcomment
    have hpart : valuePart (' ' :: mark :: (value.toList ++ mark :: trail)) =
        mark :: trimEnd isBlank front := by
      have hcut := valuePart_append_comment (not_infix_quote hmark hfront) (rest ++ mark :: trail)
      have hrest : ' ' :: mark :: (value.toList ++ mark :: trail) =
          ' ' :: mark :: front ++ commentMark ++ (rest ++ mark :: trail) := by
        simp only [hfirst, List.cons_append, List.append_assoc]
      rw [hrest, hcut]
      exact trim_append_stop hquote [' '] front
    refine ⟨_, hset (List.cons_ne_nil _ _) hpart, iff_of_false ?_ (not_not.mpr hcomment)⟩
    intro hread
    have hlength := congrArg (fun s : String => s.toList.length) hread
    have hunquote := length_unquote_le (mark :: trimEnd isBlank front)
    have hkept : (trimEnd isBlank front).length ≤ front.length :=
      (List.rdropWhile_prefix isBlank front).length_le
    simp only [String.toList_ofList, hfirst, List.length_append, List.length_cons, commentMark,
      List.length_nil] at hlength hunquote
    omega
  · have hpart : valuePart (' ' :: mark :: (value.toList ++ mark :: trail)) =
        mark :: (value.toList ++ [mark]) := by
      have hhash : '#' ∉ [mark] := fun h => hmark.ne_hash (List.mem_singleton.mp h).symm
      have hcut := valuePart_trailing
        (not_infix_quote hmark (not_infix_append hcomment hhash)) htrail
      have hrest : ' ' :: mark :: (value.toList ++ mark :: trail) =
          ' ' :: mark :: (value.toList ++ [mark]) ++ trail := by
        simp only [List.cons_append, List.append_assoc, List.nil_append]
      rw [hrest, hcut]
      have hlast : trimEnd isBlank (value.toList ++ [mark]) = value.toList ++ [mark] :=
        trimEnd_append_stop hquote value.toList []
      exact (trim_append_stop hquote [' '] _).trans (congrArg (mark :: ·) hlast)
    refine ⟨_, hset (List.cons_ne_nil _ _) hpart, iff_of_true ?_ hcomment⟩
    rw [unquote_quoted hmark, String.ofList_toList]

theorem unbroken_quotedLine {key value : String} {mark : Char} {trail : List Char}
    (hkey : IsKey key) (hvalue : IsValue value) (hmark : IsQuote mark) (htrail : Trails trail) :
    Unbroken (quotedLine key value mark trail) := by
  have hmark := unbroken_cons.mp hmark.unbroken
  have hcolon : Unbroken [':', ' '] := by decide
  rw [unbroken_cons, unbroken_cons] at hcolon
  rw [quotedLine, unbroken_append, unbroken_cons, unbroken_cons, unbroken_cons, unbroken_append,
    unbroken_cons]
  exact ⟨hkey.unbroken, hcolon.1, hcolon.2.1, hmark.1, hvalue.unbroken, hmark.1, htrail.unbroken⟩

theorem Writes.unbroken {es : Variables} {ls : List (List Char)} (h : Writes es ls) :
    ∀ line ∈ ls, Unbroken line := by
  induction h with
  | nil => exact fun _ h => absurd h List.not_mem_nil
  | blank _ _ hline _ ih => exact List.forall_mem_cons.mpr ⟨hline, ih⟩
  | comment _ _ _ hline _ ih => exact List.forall_mem_cons.mpr ⟨hline, ih⟩
  | entry hkey hvalue hmark htrail _ ih =>
    exact List.forall_mem_cons.mpr ⟨unbroken_quotedLine hkey hvalue hmark htrail, ih⟩

theorem settings_of_lays {ls : List (List Char)} {cs : List Char} (h : Lays ls cs)
    (hline : ∀ line ∈ ls, Unbroken line) : settings cs = ls.filterMap setting? := by
  induction h with
  | last line => rw [settings, lines_of_unbroken (hline line List.mem_cons_self)]
  | more line e _ ih =>
    obtain ⟨hfirst, hrest⟩ := List.forall_mem_cons.mp hline
    rw [settings_append, ih hrest, settings, lines_of_unbroken hfirst, ← List.filterMap_append,
      List.singleton_append]

/-- An entry and what is read for it. -/
def ReadFor (e r : String × String) : Prop :=
  r.1 = e.1 ∧ (r.2 = e.2 ↔ ¬ commentMark <:+: e.2.toList)

theorem Writes.readFor {es : Variables} {ls : List (List Char)} (h : Writes es ls) :
    List.Forall₂ ReadFor es (ls.filterMap setting?) := by
  -- Blank lines and comments set nothing; every other line sets the key of its entry.
  induction h with
  | nil => exact .nil
  | blank line hblank _ _ ih =>
    have hcolon : ':' ∉ line := fun hmem => absurd (hblank ':' hmem) (by decide)
    rwa [List.filterMap_cons_none (setting?_of_notMem hcolon)]
  | comment _ _ hfront _ _ ih => rwa [List.filterMap_cons_none (setting?_of_comment hfront _)]
  | @entry _ _ _ value _ _ hkey _ hmark htrail _ ih =>
    obtain ⟨read, hset, hread⟩ := setting?_quotedLine hkey value hmark htrail
    rw [List.filterMap_cons_some hset]
    exact .cons ⟨rfl, hread⟩ ih

section Read

variable {es rs : Variables} (h : List.Forall₂ ReadFor es rs)
include h

theorem keys_of_readFor : rs.map (·.1) = es.map (·.1) := by
  induction h with
  | nil => rfl
  | cons h _ ih => rw [List.map_cons, List.map_cons, h.1, ih]

theorem eq_iff_of_readFor : rs = es ↔ ∀ e ∈ es, ¬ commentMark <:+: e.2.toList := by
  induction h with
  | nil => exact iff_of_true rfl fun _ h => absurd h List.not_mem_nil
  | cons h _ ih =>
    rw [List.cons.injEq, Prod.ext_iff, List.forall_mem_cons, ih]
    exact and_congr_left' ((and_iff_right h.1).trans h.2)

theorem exists_readFor {e : String × String} (he : e ∈ es) : ∃ r ∈ rs, ReadFor e r := by
  induction h with
  | nil => exact absurd he List.not_mem_nil
  | cons h _ ih =>
    rcases List.mem_cons.mp he with rfl | he
    · exact ⟨_, List.mem_cons_self, h⟩
    · obtain ⟨r, hr, hread⟩ := ih he
      exact ⟨r, List.mem_cons_of_mem _ hr, hread⟩

theorem lookup_iff_of_readFor (hkeys : (es.map (·.1)).Nodup) {e : String × String} (he : e ∈ es) :
    rs.lookup e.1 = some e.2 ↔ ¬ commentMark <:+: e.2.toList := by
  obtain ⟨r, hr, hkey, hvalue⟩ := exists_readFor h he
  have hlookup : rs.lookup r.1 = some r.2 :=
    Assoc.lookup_of_mem (by rwa [keys_of_readFor h]) hr
  rw [← hkey, hlookup, Option.some_inj, hvalue]

end Read

/-- A file that writes settings in quotes is read as those settings, key by key and with nothing
else, but for the values that hold what looks like a comment; none of these is read as it is. -/
theorem quoted_settings_read_iff {es : Variables} {ls : List (List Char)} {cs : List Char}
    (hkeys : (es.map (·.1)).Nodup) (hwrites : Writes es ls) (hlays : Lays ls cs) :
    ∃ values, ofBytes (Utf8.encode cs) = .ok values ∧ values.map (·.1) = es.map (·.1) ∧
      (∀ e ∈ es, values.lookup e.1 = some e.2 ↔ ¬ commentMark <:+: e.2.toList) ∧
      (values = es ↔ ∀ e ∈ es, ¬ commentMark <:+: e.2.toList) := by
  have hread := hwrites.readFor
  have hsame := keys_of_readFor hread
  have htext : ofText cs = ls.filterMap setting? := by
    rw [ofText_eq, settings_of_lays hlays hwrites.unbroken]
    exact Assoc.ofList_of_nodup (by rwa [hsame])
  refine ⟨ls.filterMap setting?, ?_, hsame, ?_, eq_iff_of_readFor hread⟩
  · rw [ofBytes_encode, htext]
  · exact fun e he => lookup_iff_of_readFor hread hkeys he

/-- A number sign behind anything but a blank, a colon, quotes and outer blanks are all kept. -/
theorem quoted_address_and_token_read :
    ofBytes (Utf8.encode
      "# local\r\nUPSTREAM_URL: \"http://a:9/#b\"  # c\n\nUPSTREAM_TOKEN: ' it's \"#1\" '".toList) =
      .ok [("UPSTREAM_URL", "http://a:9/#b"), ("UPSTREAM_TOKEN", " it's \"#1\" ")] := by
  have hurl : IsKey "UPSTREAM_URL" :=
    ⟨by decide, by decide +kernel, by decide, by decide, by decide⟩
  have htoken : IsKey "UPSTREAM_TOKEN" :=
    ⟨by decide, by decide +kernel, by decide, by decide, by decide⟩
  have hnone : Trails [] := .blanks [] (List.forall_mem_nil _) (by decide)
  have htrail : Trails [' ', ' ', '#', ' ', 'c'] :=
    .comment [' '] [' ', 'c'] (List.forall_mem_singleton.mpr (by decide)) (by decide)
  have hlast : Writes [("UPSTREAM_TOKEN", " it's \"#1\" ")] _ :=
    .entry htoken ⟨by decide, by decide⟩ (Or.inr rfl) hnone .nil
  have hfirst : Writes (("UPSTREAM_URL", "http://a:9/#b") :: _) _ :=
    .entry hurl ⟨by decide, by decide⟩ (Or.inl rfl) htrail
      (.blank [] (List.forall_mem_nil _) (by decide) hlast)
  have hwrites := Writes.comment [] " local".toList (List.forall_mem_nil _) (by decide) hfirst
  have hlays := Lays.more ('#' :: " local".toList) .carriageFeed (.more
    (quotedLine "UPSTREAM_URL" "http://a:9/#b" '"' [' ', ' ', '#', ' ', 'c']) .feed (.more [] .feed
      (.last (quotedLine "UPSTREAM_TOKEN" " it's \"#1\" " '\'' []))))
  obtain ⟨values, hvalues, -, -, hall⟩ := quoted_settings_read_iff (by decide) hwrites hlays
  rw [hall.mpr (by decide +kernel)] at hvalues
  exact hvalues

/-- A comment is cut off before the quotes are taken off, so the value in these is `"x`. -/
theorem quoted_comment_cut :
    IsKey "A" ∧ IsValue "x # y" ∧ Writes [("A", "x # y")] [quotedLine "A" "x # y" '"' []] ∧
      Lays [quotedLine "A" "x # y" '"' []] "A: \"x # y\"".toList ∧
      ofBytes (Utf8.encode "A: \"x # y\"".toList) = .ok [("A", "\"x")] ∧
      [("A", "\"x")] ≠ [("A", "x # y")] := by
  have hkey : IsKey "A" := ⟨by decide, by decide +kernel, by decide, by decide, by decide⟩
  have hvalue : IsValue "x # y" := ⟨by decide, by decide⟩
  refine ⟨hkey, hvalue, ?_, ?_, ?_, by decide⟩
  · exact .entry hkey hvalue (Or.inl rfl) (.blanks [] (List.forall_mem_nil _) (by decide)) .nil
  · exact .last _
  · rw [ofBytes_encode]
    exact congrArg Except.ok (by decide +kernel)

end ChainHistory.Settings.ConfigFile
