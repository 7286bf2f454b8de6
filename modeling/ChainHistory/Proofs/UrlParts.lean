import ChainHistory.Proofs.UrlPath
import Mathlib.Data.List.TakeWhile

namespace ChainHistory.Url

open Text

/-- The base of a path, without the marks that would take the path in and without a slash at its
end. -/
structure Base (base : List Char) : Prop where
  noQuery : '?' ∉ base
  noFragment : '#' ∉ base
  noSlash : base.getLast? ≠ some '/'

/-- The authority, which two slashes announce, and what follows it. -/
def takeAuthority (cs : List Char) : List Char × List Char :=
  match cs with
  | '/' :: '/' :: rest =>
    (rest.takeWhile (· ∉ ['/', '?', '#']), rest.dropWhile (· ∉ ['/', '?', '#']))
  | cs => ([], cs)

theorem takeAuthority_of_ne {cs : List Char} (h : ∀ rest, cs ≠ '/' :: '/' :: rest) :
    takeAuthority cs = ([], cs) := by
  unfold takeAuthority
  split
  · rename_i rest
    exact absurd rfl (h rest)
  · rfl

theorem snd_takeScheme_suffix (cs : List Char) : (takeScheme cs).2 <:+ cs := by
  unfold takeScheme
  split
  · exact List.suffix_refl cs
  · rename_i scheme rest hcut
    split
    · obtain ⟨hcs, -⟩ := eq_of_cut_eq_some hcut
      exact ⟨scheme ++ [':'], by rw [hcs, List.append_assoc, List.singleton_append]⟩
    · exact List.suffix_refl cs

theorem snd_takeAuthority_suffix (cs : List Char) : (takeAuthority cs).2 <:+ cs := by
  unfold takeAuthority
  split
  · rename_i rest
    exact (List.dropWhile_suffix _).trans ⟨['/', '/'], rfl⟩
  · exact List.suffix_refl _

/-- Without a mark for a query or a fragment, all that follows the authority is the path. -/
theorem ofText_of_unmarked {cs : List Char} (hquery : '?' ∉ cs) (hfragment : '#' ∉ cs) :
    Parts.ofText cs = {
      scheme := (takeScheme cs).1
      authority := (takeAuthority (takeScheme cs).2).1
      path := (takeAuthority (takeScheme cs).2).2 } := by
  have hsuffix := (snd_takeAuthority_suffix (takeScheme cs).2).trans (snd_takeScheme_suffix cs)
  have hkept : ∀ c ∈ (takeAuthority (takeScheme cs).2).2,
      decide (c ∉ ['/', '?', '#'].drop 1) = true := by
    intro c hc
    have hmem : c ∈ cs := hsuffix.subset hc
    have hq : c ≠ '?' := fun h => hquery (h ▸ hmem)
    have hf : c ≠ '#' := fun h => hfragment (h ▸ hmem)
    simp [hq, hf]
  have htake := List.takeWhile_eq_self_iff.mpr hkept
  have hdrop := List.dropWhile_eq_nil_iff.mpr hkept
  show Parts.mk (takeScheme cs).1 (takeAuthority (takeScheme cs).2).1
    ((takeAuthority (takeScheme cs).2).2.takeWhile (· ∉ ['/', '?', '#'].drop 1))
    (takeMarked '?' ['#']
      ((takeAuthority (takeScheme cs).2).2.dropWhile (· ∉ ['/', '?', '#'].drop 1))).1
    (takeMarked '#' [] (takeMarked '?' ['#']
      ((takeAuthority (takeScheme cs).2).2.dropWhile (· ∉ ['/', '?', '#'].drop 1))).2).1 = _
  rw [htake, hdrop]
  rfl

theorem takeScheme_append {tail : List Char} (h : ':' ∉ tail) (base : List Char) :
    takeScheme (base ++ tail) = ((takeScheme base).1, (takeScheme base).2 ++ tail) := by
  unfold takeScheme
  cases hcut : cut ':' base with
  | none =>
    have hbase : ':' ∉ base := (cut_eq_none_iff base).mp hcut
    have hall : cut ':' (base ++ tail) = none := by
      rw [cut_eq_none_iff, List.mem_append, not_or]
      exact ⟨hbase, h⟩
    rw [hall]
  | some parts =>
    obtain ⟨scheme, rest⟩ := parts
    obtain ⟨hbase, hscheme⟩ := eq_of_cut_eq_some hcut
    have hall : cut ':' (base ++ tail) = some (scheme, rest ++ tail) := by
      rw [hbase, List.append_assoc, List.cons_append, cut_append hscheme]
    rw [hall]
    dsimp only
    split <;> rfl

theorem takeAuthority_append {cs path : List Char} (hcs : cs.getLast? ≠ some '/')
    (hpath : Below path) : takeAuthority (cs ++ '/' :: path) =
      ((takeAuthority cs).1, (takeAuthority cs).2 ++ '/' :: path) := by
  by_cases hslashes : ∃ rest, cs = '/' :: '/' :: rest
  · obtain ⟨rest, rfl⟩ := hslashes
    show (List.takeWhile _ (rest ++ '/' :: path), List.dropWhile _ (rest ++ '/' :: path)) = _
    rw [takeWhile_append_stop _ (by decide), dropWhile_append_stop _ (by decide)]
    rfl
  · rw [not_exists] at hslashes
    have hall : ∀ rest, cs ++ '/' :: path ≠ '/' :: '/' :: rest := by
      obtain ⟨c, tail, rfl, hc⟩ := hpath.head
      intro rest heq
      -- The two slashes would be the base's own, or its last one before the one that follows it.
      match cs, hcs, hslashes, heq with
      | [], _, _, heq =>
        simp only [List.nil_append, List.cons.injEq, true_and] at heq
        exact hc heq.1
      | [a], hcs, _, heq =>
        simp only [List.cons_append, List.cons.injEq] at heq
        exact hcs (by rw [heq.1]; rfl)
      | a :: b :: cs, _, hslashes, heq =>
        simp only [List.cons_append, List.cons.injEq] at heq
        exact hslashes cs (by rw [heq.1, heq.2.1])
    rw [takeAuthority_of_ne hslashes, takeAuthority_of_ne hall]

theorem getLast?_of_suffix {cs ds : List Char} (h : ds <:+ cs) (hcs : cs.getLast? ≠ some '/') :
    ds.getLast? ≠ some '/' := by
  obtain ⟨front, rfl⟩ := h
  intro hlast
  apply hcs
  rw [List.getLast?_append, hlast, Option.some_or]

theorem Below.notMem {path : List Char} (h : Below path) {c : Char} (hslash : c ≠ '/')
    (hpercent : c ≠ '%') (hreserved : Percent.isUnreserved c = false) : c ∉ path := by
  intro hc
  rcases h.chars c hc with h | h | h
  · exact hslash h
  · exact hpercent h
  · exact absurd h (by rw [hreserved]; decide)

theorem Below.notMem_cons {path : List Char} (h : Below path) {c : Char} (hslash : c ≠ '/')
    (hpercent : c ≠ '%') (hreserved : Percent.isUnreserved c = false) : c ∉ '/' :: path := by
  rw [List.mem_cons, not_or]
  exact ⟨hslash, h.notMem hslash hpercent hreserved⟩

/-- A path below a base changes nothing but the path. -/
theorem ofText_append {base path : List Char} (hbase : Base base) (hpath : Below path) :
    Parts.ofText (base ++ '/' :: path) =
      { Parts.ofText base with path := (Parts.ofText base).path ++ '/' :: path } := by
  have hquery : '?' ∉ base ++ '/' :: path := by
    rw [List.mem_append, not_or]
    exact ⟨hbase.noQuery, hpath.notMem_cons (by decide) (by decide) (by decide)⟩
  have hfragment : '#' ∉ base ++ '/' :: path := by
    rw [List.mem_append, not_or]
    exact ⟨hbase.noFragment, hpath.notMem_cons (by decide) (by decide) (by decide)⟩
  have hlast := getLast?_of_suffix (snd_takeScheme_suffix base) hbase.noSlash
  rw [ofText_of_unmarked hquery hfragment, ofText_of_unmarked hbase.noQuery hbase.noFragment,
    takeScheme_append (hpath.notMem_cons (by decide) (by decide) (by decide)),
    takeAuthority_append hlast hpath]

/-- Where there is an authority, the path is empty or starts at the root. -/
theorem path_of_authority {base : List Char} (hbase : Base base)
    (h : (Parts.ofText base).authority ≠ []) :
    (Parts.ofText base).path = [] ∨ ∃ rest, (Parts.ofText base).path = '/' :: rest := by
  have hsuffix := (snd_takeAuthority_suffix (takeScheme base).2).trans (snd_takeScheme_suffix base)
  rw [ofText_of_unmarked hbase.noQuery hbase.noFragment] at h ⊢
  dsimp only at h ⊢
  unfold takeAuthority at h hsuffix ⊢
  split at h
  · rename_i rest heq
    simp only [heq] at hsuffix ⊢
    cases hdrop : rest.dropWhile (· ∉ ['/', '?', '#']) with
    | nil => exact Or.inl rfl
    | cons c cs =>
      rw [hdrop] at hsuffix
      have hstop := List.head?_dropWhile_not (fun c : Char => decide (c ∉ ['/', '?', '#'])) rest
      rw [hdrop, List.head?_cons] at hstop
      have hmem : c ∈ base := hsuffix.subset List.mem_cons_self
      have hq : c ≠ '?' := fun h => hbase.noQuery (h ▸ hmem)
      have hf : c ≠ '#' := fun h => hbase.noFragment (h ▸ hmem)
      have hc : c = '/' := by simpa [hq, hf] using hstop
      exact Or.inr ⟨cs, by rw [hc]⟩
  · exact absurd rfl h

end ChainHistory.Url
