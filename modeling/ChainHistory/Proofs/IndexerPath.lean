import ChainHistory.Indexer.Path
import ChainHistory.Proofs.UrlPath

namespace ChainHistory.Indexer

open Text

theorem isDots_iff {s : String} : isDots s = true ↔ s = "." ∨ s = ".." := by
  rw [isDots, Bool.or_eq_true, decide_eq_true_eq, decide_eq_true_eq]

theorem path?_eq_none_iff {segments : List String} :
    path? segments = none ↔ ∃ s ∈ segments, s = "." ∨ s = ".." := by
  have hany : segments.any isDots = true ↔ ∃ s ∈ segments, s = "." ∨ s = ".." := by
    simp only [List.any_eq_true, isDots_iff]
  rw [← hany, path?]
  split
  · exact iff_of_true rfl ‹_›
  · exact iff_of_false (Option.some_ne_none _) ‹_›

theorem eq_of_path?_eq_some {segments : List String} {path : String}
    (h : path? segments = some path) :
    path.toList = joinWith '/' (segments.map fun s => Percent.encode s.toList) ∧
      ∀ s ∈ segments, isDots s = false := by
  unfold path? at h
  split at h
  · exact absurd h.symm (Option.some_ne_none path)
  · rename_i hdots
    rw [Option.some.injEq] at h
    rw [← h, String.toList_ofList]
    refine ⟨rfl, ?_⟩
    simpa using hdots

theorem splitOn_path {segments : List String} {path : String} (h : path? segments = some path)
    (hne : segments ≠ []) :
    splitOn '/' path.toList = segments.map fun s => Percent.encode s.toList := by
  rw [(eq_of_path?_eq_some h).1]
  apply splitOn_joinWith
  · rwa [ne_eq, List.map_eq_nil_iff]
  · intro p hp
    obtain ⟨s, -, rfl⟩ := List.mem_map.mp hp
    exact Percent.notMem_encode (by decide) (by decide) s.toList

/-- No text that stands as a segment makes the path read as other segments. -/
theorem segmentsOf_path {segments : List String} {path : String} (h : path? segments = some path)
    (hne : segments ≠ []) : segmentsOf path = segments := by
  rw [segmentsOf, splitOn_path h hne, List.map_map]
  apply List.map_id''
  intro s
  show String.ofList (Percent.decode (Percent.encode s.toList)) = s
  rw [Percent.decode_encode, String.ofList_toList]

/-- A text that comes out of the escape without a percent sign went in as it is. -/
theorem toList_eq_of_encode_eq {s : String} {cs : List Char} (h : Percent.encode s.toList = cs)
    (hpercent : '%' ∉ cs) : s.toList = cs := by
  rw [← h] at hpercent
  rw [← h]
  exact (Percent.encodeUnless_of_notMem hpercent).symm

theorem not_isDots_encode {s : String} (h : isDots s = false) :
    ¬ Url.IsDots (Percent.encode s.toList) := by
  rw [isDots, Bool.or_eq_false_iff, decide_eq_false_iff_not, decide_eq_false_iff_not] at h
  rintro (hdot | hdots)
  · exact h.1 (String.toList_inj.mp (toList_eq_of_encode_eq hdot (by decide)))
  · exact h.2 (String.toList_inj.mp (toList_eq_of_encode_eq hdots (by decide)))

theorem below_path {first : String} {rest : List String} {path : String}
    (h : path? (first :: rest) = some path) (hfirst : first ≠ "") : Url.Below path.toList := by
  have hne : first :: rest ≠ [] := List.cons_ne_nil first rest
  have hpath := (eq_of_path?_eq_some h).1
  constructor
  · intro c hc
    rw [hpath] at hc
    rcases mem_joinWith hc with hc | ⟨p, hp, hc⟩
    · exact Or.inl hc
    · obtain ⟨s, -, rfl⟩ := List.mem_map.mp hp
      exact Or.inr (Percent.mem_encode hc)
  · intro p hp
    rw [splitOn_path h hne] at hp
    obtain ⟨s, hs, rfl⟩ := List.mem_map.mp hp
    exact not_isDots_encode ((eq_of_path?_eq_some h).2 s hs)
  · -- The first segment is not empty, so its first character begins the path.
    cases hcs : Percent.encode first.toList with
    | nil =>
      have hempty : first.toList = [] := toList_eq_of_encode_eq hcs List.not_mem_nil
      exact absurd (String.toList_inj.mp hempty) hfirst
    | cons c cs =>
      have hslash : c ≠ '/' := by
        rintro rfl
        exact Percent.notMem_encode (by decide) (by decide) first.toList
          (hcs ▸ List.mem_cons_self)
      rw [hpath, List.map_cons, hcs]
      cases rest with
      | nil => exact ⟨c, cs, rfl, hslash⟩
      | cons second rest => exact ⟨c, _, rfl, hslash⟩

end ChainHistory.Indexer
