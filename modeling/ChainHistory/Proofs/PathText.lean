import ChainHistory.Proofs.IndexerCall

namespace ChainHistory.Indexer

open Text

/-- Letters, digits and four marks stand for themselves. -/
def isPlain (c : Char) : Bool := c.isAlphanum || c ∈ ['_', '.', '-', '~']

def isUpperHex (c : Char) : Bool := c.isDigit || ('A' ≤ c && c ≤ 'F')

/-- What a path is written with: plain characters, slashes, and escapes of one byte. -/
inductive Escaped : List Char → Prop
  | nil : Escaped []
  | plain {c : Char} {cs : List Char} (hc : isPlain c = true) (hcs : Escaped cs) :
      Escaped (c :: cs)
  | slash {cs : List Char} (hcs : Escaped cs) : Escaped ('/' :: cs)
  | escape {a b : Char} {cs : List Char} (ha : isUpperHex a = true) (hb : isUpperHex b = true)
      (hcs : Escaped cs) : Escaped ('%' :: a :: b :: cs)

namespace Escaped

theorem append {p q : List Char} (hp : Escaped p) (hq : Escaped q) : Escaped (p ++ q) := by
  induction hp with
  | nil => exact hq
  | plain hc _ ih => exact .plain hc ih
  | slash _ ih => exact .slash ih
  | escape ha hb _ ih => exact .escape ha hb ih

theorem escapeByte (b : UInt8) : Escaped (Percent.escapeByte b) := by
  have hall : ∀ m < 16, isUpperHex (hexUpper m) = true := by decide
  have hb : b.toNat < 256 := b.toNat_lt
  exact .escape (hall _ (by omega)) (hall _ (by omega)) .nil

theorem escapeBytes (bs : List UInt8) : Escaped (bs.flatMap Percent.escapeByte) := by
  induction bs with
  | nil => exact .nil
  | cons b bs ih => exact (escapeByte b).append ih

/-- A character is kept as it is or written as the escapes of its bytes. -/
theorem encodeChar (c : Char) : Escaped (Percent.encode [c]) := by
  by_cases hc : Percent.isUnreserved c = true
  · have hplain : isPlain c = true := Percent.of_isUnreserved (by decide) hc
    have hkept : Percent.encode [c] = [c] := by
      apply Percent.encodeUnless_of_forall
      simpa using hc
    rw [hkept]
    exact .plain hplain .nil
  · have hbytes : Percent.encode [c] = (Utf8.encodeChar c).flatMap Percent.escapeByte := by
      simp [Percent.encode, Percent.encodeKeeping, Percent.encodeUnless, hc]
    rw [hbytes]
    exact escapeBytes _

theorem encode (cs : List Char) : Escaped (Percent.encode cs) := by
  induction cs with
  | nil => exact .nil
  | cons c cs ih =>
    rw [← List.singleton_append, Percent.encode_append]
    exact (encodeChar c).append ih

theorem joinWith {ps : List (List Char)} (h : ∀ p ∈ ps, Escaped p) :
    Escaped (joinWith '/' ps) := by
  induction ps with
  | nil => exact .nil
  | cons p ps ih =>
    have hp := h p List.mem_cons_self
    by_cases hps : ps = []
    · subst hps
      exact hp
    · rw [joinWith_cons hps]
      exact hp.append (.slash (ih fun q hq => h q (List.mem_cons_of_mem p hq)))

end Escaped

/-- A path that can be read as the texts alone: cut at its slashes, of which none is in a part, it
gives back the bytes of each text in turn, and no part is one that a URL would resolve away. -/
structure Spells (path : String) (texts : List String) : Prop where
  escaped : Escaped path.toList
  slashes : path.toList.count '/' + 1 = texts.length
  parts : (splitOn '/' path.toList).map (fun p => Utf8.decode (Percent.bytes p)) =
    texts.map fun s => .ok s.toList
  segments : segmentsOf path = texts
  noDots : ∀ p ∈ splitOn '/' path.toList, p ≠ ['.'] ∧ p ≠ ['.', '.']

theorem spells_of_path {texts : List String} {path : String} (h : path? texts = some path)
    (hne : texts ≠ []) : Spells path texts := by
  have hsplit := splitOn_path h hne
  obtain ⟨hpath, hdots⟩ := eq_of_path?_eq_some h
  refine ⟨?_, ?_, ?_, segmentsOf_path h hne, ?_⟩
  · rw [hpath]
    apply Escaped.joinWith
    intro p hp
    obtain ⟨s, -, rfl⟩ := List.mem_map.mp hp
    exact Escaped.encode s.toList
  · rw [← length_splitOn, hsplit, List.length_map]
  · rw [hsplit, List.map_map]
    apply List.map_congr_left
    intro s _
    show Utf8.decode (Percent.bytes (Percent.encode s.toList)) = .ok s.toList
    rw [Percent.encode, Percent.encodeKeeping, Percent.bytes_encodeUnless (by decide),
      Utf8.decode_encode]
  · intro p hp
    rw [hsplit] at hp
    obtain ⟨s, hs, rfl⟩ := List.mem_map.mp hp
    exact not_or.mp (not_isDots_encode (hdots s hs))

/-- Texts make a path that spells them, whatever they are, unless one of them is dots; then there is
no path, and a call with that text is refused as the kind of call says. -/
theorem path_of_texts (texts : List String) :
    (texts ≠ [] → (∀ s ∈ texts, s ≠ "." ∧ s ≠ "..") →
        ∃ path, path? texts = some path ∧ Spells path texts) ∧
      ((∃ s ∈ texts, s = "." ∨ s = "..") → path? texts = none ∧
        ∀ client coin call base, client.baseUrl = some base → segments coin call = texts →
          request client coin call = .error (.reported (invalidKind call) none)) := by
  constructor
  · intro hne hdots
    cases hpath : path? texts with
    | none =>
      obtain ⟨s, hs, h⟩ := path?_eq_none_iff.mp hpath
      rcases h with h | h
      · exact absurd h (hdots s hs).1
      · exact absurd h (hdots s hs).2
    | some path => exact ⟨path, rfl, spells_of_path hpath hne⟩
  · intro hdots
    have hpath := path?_eq_none_iff.mpr hdots
    refine ⟨hpath, ?_⟩
    rintro client coin call base hbase rfl
    exact request_of_no_path hbase hpath

/-- Texts that would be other parts of the path if they were not escaped: an escape, a slash, dots
behind a slash, nothing at all, and characters of two, three and four bytes. -/
def crafted : List String := ["%2E", "xpub/k", "../..", "", "é…😀"]

theorem path_of_crafted :
    (∃ path, path? crafted = some path ∧ Spells path crafted) ∧
      path? ["bitcoin", "transactions", "xpub", ".."] = none ∧
      request ⟨some "http://indexer/v1", none, .nan⟩ "bitcoin" (.xpub "..") =
        .error (.reported .invalidKey none) := by
  have hdots : ∃ s ∈ ["bitcoin", "transactions", "xpub", ".."], s = "." ∨ s = ".." := by decide
  obtain ⟨hpath, hrequest⟩ := (path_of_texts _).2 hdots
  exact ⟨(path_of_texts crafted).1 (by decide) (by decide), hpath,
    hrequest _ "bitcoin" (.xpub "..") "http://indexer/v1" rfl rfl⟩

end ChainHistory.Indexer
