import ChainHistory.Http.Route
import ChainHistory.Proofs.Separators

namespace ChainHistory.Http

open Text

/-- The path of some segments, each behind a slash. -/
def pathOf (segments : List (List Char)) : List Char :=
  segments.flatMap ('/' :: ·)

theorem pathOf_cons (s : List Char) (ss : List (List Char)) :
    pathOf (s :: ss) = '/' :: (s ++ pathOf ss) :=
  List.flatMap_cons

theorem pathOf_eq {segments : List (List Char)} (h : segments ≠ []) :
    pathOf segments = '/' :: joinWith '/' segments := by
  induction segments with
  | nil => exact absurd rfl h
  | cons s ss ih =>
    rw [pathOf_cons]
    by_cases hss : ss = []
    · subst hss
      rw [pathOf, List.flatMap_nil, List.append_nil, joinWith]
    · rw [ih hss, joinWith_cons hss]

theorem pathSegments_eq_some_iff {path : List Char} {segments : List (List Char)} :
    pathSegments path = some segments ↔
      segments ≠ [] ∧ (∀ s ∈ segments, '/' ∉ s) ∧ path = pathOf segments := by
  constructor
  · intro h
    rw [pathSegments.eq_def] at h
    split at h
    · rename_i cs
      obtain rfl := Option.some.inj h
      have hne := splitOn_ne_nil '/' cs
      refine ⟨hne, fun s hs => notMem_of_mem_splitOn hs, ?_⟩
      rw [pathOf_eq hne, joinWith_splitOn]
    · cases h
  · rintro ⟨hne, hslash, rfl⟩
    rw [pathOf_eq hne, pathSegments, splitOn_joinWith hne hslash]

/-- How segments fit the pieces of a route, and the parameters that they are read to. A line feed
may follow a word that ends the path. -/
inductive Fit : List Piece → List (List Char) → List String → Prop
  | done : Fit [] [] []
  | word (w : String) {ps : List Piece} {ss : List (List Char)} {params : List String}
      (rest : Fit ps ss params) : Fit (.word w :: ps) (w.toList :: ss) params
  | fedWord (w : String) : Fit [.word w] [w.toList ++ ['\n']] []
  | parameter {s : String} (hs : s ≠ "") {ps : List Piece} {ss : List (List Char)}
      {params : List String} (rest : Fit ps ss params) :
      Fit (.parameter :: ps) (s.toList :: ss) (s :: params)

theorem fit_of_matchPieces {ps : List Piece} {ss : List (List Char)} {params : List String}
    (h : matchPieces ps ss = some params) : Fit ps ss params := by
  -- Each piece takes the segment at its own place, or refuses the path.
  induction ps generalizing ss params with
  | nil =>
    cases ss with
    | nil =>
      obtain rfl := Option.some.inj h
      exact .done
    | cons s ss => simp only [matchPieces, reduceCtorEq] at h
  | cons piece ps ih =>
    cases ss with
    | nil => cases piece <;> simp only [matchPieces, reduceCtorEq] at h
    | cons s ss =>
      cases piece with
      | word w =>
        simp only [matchPieces] at h
        split at h
        · rename_i hword
          rcases hword with rfl | ⟨hlast, rfl⟩
          · exact .word w (ih h)
          · -- Nothing is left of the pieces, and so nothing may be left of the segments.
            obtain rfl := List.isEmpty_iff.mp hlast
            cases ih h
            exact .fedWord w
        · cases h
      | parameter =>
        simp only [matchPieces] at h
        split at h
        · cases h
        · rename_i hs
          obtain ⟨rest, hrest, rfl⟩ := Option.map_eq_some_iff.mp h
          have hne : String.ofList s ≠ "" := by
            rw [ne_eq, ← String.toList_eq_nil_iff, String.toList_ofList, ← List.isEmpty_iff]
            exact hs
          have hfit := Fit.parameter hne (ih hrest)
          rwa [String.toList_ofList] at hfit

theorem Fit.matchPieces_eq {ps : List Piece} {ss : List (List Char)} {params : List String}
    (h : Fit ps ss params) : matchPieces ps ss = some params := by
  induction h with
  | done => rfl
  | word w _ ih => simp only [matchPieces, true_or, if_true, ih]
  | fedWord w => simp only [matchPieces, List.isEmpty_nil, and_self, or_true, if_true]
  | @parameter s hs _ _ _ _ ih =>
    have hsome : s.toList.isEmpty = false := by
      rw [List.isEmpty_eq_false_iff, ne_eq, String.toList_eq_nil_iff]
      exact hs
    simp only [matchPieces, hsome, Bool.false_eq_true, if_false, ih, Option.map_some,
      String.ofList_toList]

theorem matchPieces_eq_some_iff {ps : List Piece} {ss : List (List Char)} {params : List String} :
    matchPieces ps ss = some params ↔ Fit ps ss params :=
  ⟨fit_of_matchPieces, Fit.matchPieces_eq⟩

theorem Fit.length_eq {ps : List Piece} {ss : List (List Char)} {params : List String}
    (h : Fit ps ss params) : ps.length = ss.length := by
  induction h with
  | done => rfl
  | word w _ ih => rw [List.length_cons, List.length_cons, ih]
  | fedWord w => rfl
  | parameter hs _ ih => rw [List.length_cons, List.length_cons, ih]

/-- A path fits a route when its segments do. -/
def Route.Fits (r : Route) (path : List Char) (params : List String) : Prop :=
  ∃ segments, segments ≠ [] ∧ (∀ s ∈ segments, '/' ∉ s) ∧ path = pathOf segments ∧
    Fit r.pieces segments params

theorem Route.match?_eq_some_iff {r : Route} {path : List Char} {params : List String} :
    r.match? path = some params ↔ r.Fits path params := by
  simp only [Route.match?, Option.bind_eq_some_iff, pathSegments_eq_some_iff,
    matchPieces_eq_some_iff, Route.Fits, and_assoc]

theorem Route.Fits.isSome_match? {r : Route} {path : List Char} {params : List String}
    (h : r.Fits path params) : (r.match? path).isSome :=
  Option.isSome_iff_exists.mpr ⟨params, Route.match?_eq_some_iff.mpr h⟩

theorem Route.Fits.params_eq {r : Route} {path : List Char} {params others : List String}
    (h : r.Fits path params) (hother : r.Fits path others) : params = others := by
  rw [← Route.match?_eq_some_iff] at h hother
  exact Option.some.inj (h.symm.trans hother)

section Filled

/-- What may be filled in for a parameter. -/
structure IsSegment (s : String) : Prop where
  ne : s ≠ ""
  slash : '/' ∉ s.toList

/-- What a piece brings to a path of its own accord. -/
def Piece.letters : Piece → List Char
  | .word w => w.toList
  | .parameter => []

/-- What is filled in for the parameters is read back, and what is too much is left out. -/
theorem exists_fit_fill {ps : List Piece} {params : List String}
    (hps : ∀ piece ∈ ps, '/' ∉ piece.letters) (hparams : ∀ s ∈ params, IsSegment s)
    (hcount : ps.count .parameter ≤ params.length) :
    ∃ segments, (∀ s ∈ segments, '/' ∉ s) ∧ Route.fill.go ps params = pathOf segments ∧
      Fit ps segments (params.take (ps.count .parameter)) := by
  -- A word takes no parameter, and so leaves the parameters as they are for the rest.
  induction ps generalizing params with
  | nil => exact ⟨[], fun s hs => absurd hs List.not_mem_nil, rfl, .done⟩
  | cons piece ps ih =>
    have hps' : ∀ piece ∈ ps, '/' ∉ piece.letters :=
      fun p hp => hps p (List.mem_cons_of_mem piece hp)
    cases piece with
    | word w =>
      have hne : Piece.word w ≠ .parameter := nofun
      have hsame : (Piece.word w :: ps).count .parameter = ps.count .parameter :=
        List.count_cons_of_ne hne
      rw [hsame] at hcount ⊢
      obtain ⟨segments, hslash, hgo, hfit⟩ := ih hps' hparams hcount
      refine ⟨w.toList :: segments, ?_, ?_, .word w hfit⟩
      · exact List.forall_mem_cons.mpr ⟨hps _ List.mem_cons_self, hslash⟩
      · rw [Route.fill.go, hgo, pathOf_cons, List.cons_append]
    | parameter =>
      have hmore : (Piece.parameter :: ps).count .parameter = ps.count .parameter + 1 :=
        List.count_cons_self
      rw [hmore] at hcount ⊢
      cases params with
      | nil => exact absurd hcount (Nat.not_succ_le_zero _)
      | cons s params =>
        obtain ⟨hs, hparams'⟩ := List.forall_mem_cons.mp hparams
        obtain ⟨segments, hslash, hgo, hfit⟩ :=
          ih hps' hparams' (Nat.le_of_succ_le_succ hcount)
        refine ⟨s.toList :: segments, ?_, ?_, ?_⟩
        · exact List.forall_mem_cons.mpr ⟨hs.slash, hslash⟩
        · rw [Route.fill.go, hgo, pathOf_cons, List.cons_append]
        · rw [List.take_succ_cons]
          exact .parameter hs.ne hfit

theorem Route.fits_fill {r : Route} {params : List String} (hne : r.pieces ≠ [])
    (hps : ∀ piece ∈ r.pieces, '/' ∉ piece.letters) (hparams : ∀ s ∈ params, IsSegment s)
    (hcount : r.pieces.count .parameter ≤ params.length) :
    r.Fits (r.fill params) (params.take (r.pieces.count .parameter)) := by
  obtain ⟨segments, hslash, hgo, hfit⟩ := exists_fit_fill hps hparams hcount
  refine ⟨segments, ?_, hslash, hgo, hfit⟩
  rintro rfl
  exact hne (List.length_eq_zero_iff.mp hfit.length_eq)

end Filled

end ChainHistory.Http
