import ChainHistory.Proofs.RequestHandling
import ChainHistory.Proofs.RouteFit
import Mathlib.Data.List.Pairwise

namespace ChainHistory.Http

open Indexer

section Apart

/-- Words of which no segment is both, with a line feed behind it or without. -/
def Piece.Clashes : Piece → Piece → Prop
  | .word w, .word v =>
    w ≠ v ∧ w.toList ++ ['\n'] ≠ v.toList ∧ v.toList ++ ['\n'] ≠ w.toList
  | _, _ => False

instance Piece.decidableClashes : (p q : Piece) → Decidable (p.Clashes q)
  | .word _, .word _ => inferInstanceAs (Decidable (_ ∧ _))
  | .word _, .parameter => inferInstanceAs (Decidable False)
  | .parameter, _ => inferInstanceAs (Decidable False)

/-- Pieces that no segments fit together: they differ in number, or in words at the same place. -/
def Apart : List Piece → List Piece → Prop
  | [], [] => False
  | p :: ps, q :: qs => p.Clashes q ∨ Apart ps qs
  | _, _ => True

instance decidableApart : (ps qs : List Piece) → Decidable (Apart ps qs)
  | [], [] => inferInstanceAs (Decidable False)
  | p :: ps, q :: qs =>
    have := decidableApart ps qs
    inferInstanceAs (Decidable (p.Clashes q ∨ Apart ps qs))
  | [], _ :: _ => inferInstanceAs (Decidable True)
  | _ :: _, [] => inferInstanceAs (Decidable True)

/-- The segments that a piece can stand for, in whatever place. -/
def Piece.Takes (s : List Char) : Piece → Prop
  | .word w => s = w.toList ∨ s = w.toList ++ ['\n']
  | .parameter => s ≠ []

theorem Fit.exists_cons {ps : List Piece} {s : List Char} {ss : List (List Char)}
    {params : List String} (h : Fit ps (s :: ss) params) :
    ∃ p ps' rest, ps = p :: ps' ∧ p.Takes s ∧ Fit ps' ss rest := by
  cases h with
  | word w rest => exact ⟨_, _, _, rfl, Or.inl rfl, rest⟩
  | fedWord w => exact ⟨_, _, _, rfl, Or.inr rfl, .done⟩
  | parameter hs rest =>
    refine ⟨_, _, _, rfl, ?_, rest⟩
    rw [Piece.Takes, ne_eq, String.toList_eq_nil_iff]
    exact hs

theorem Piece.Takes.not_clashes {s : List Char} {p q : Piece} (hp : p.Takes s)
    (hq : q.Takes s) : ¬ p.Clashes q := by
  cases p with
  | parameter => exact id
  | word w =>
    cases q with
    | parameter => exact id
    | word v =>
      rintro ⟨hne, hfed, hfed'⟩
      have hne' : w.toList ≠ v.toList := fun h => hne (String.toList_inj.mp h)
      -- The segment is either word, each with its line feed or without.
      rcases hp with rfl | rfl <;> rcases hq with hq | hq
      · exact hne' hq
      · exact hfed' hq.symm
      · exact hfed hq
      · exact hne' (List.append_cancel_right hq)

theorem Fit.not_apart {ps qs : List Piece} {ss : List (List Char)} {params others : List String}
    (hp : Fit ps ss params) (hq : Fit qs ss others) : ¬ Apart ps qs := by
  -- Segment by segment, each is taken by a piece of either side.
  induction ss generalizing ps qs params others with
  | nil =>
    cases hp
    cases hq
    exact id
  | cons s ss ih =>
    obtain ⟨p, ps', _, rfl, htakes, hrest⟩ := hp.exists_cons
    obtain ⟨q, qs', _, rfl, htakes', hrest'⟩ := hq.exists_cons
    rintro (hclash | hapart)
    · exact htakes.not_clashes htakes' hclash
    · exact ih hrest hrest' hapart

theorem Route.not_apart_of_match? {r s : Route} {path : List Char}
    (hr : (r.match? path).isSome) (hs : (s.match? path).isSome) :
    ¬ Apart r.pieces s.pieces := by
  obtain ⟨params, hr⟩ := Option.isSome_iff_exists.mp hr
  obtain ⟨others, hs⟩ := Option.isSome_iff_exists.mp hs
  obtain ⟨segments, hpath, hfit⟩ := Option.bind_eq_some_iff.mp hr
  obtain ⟨segments', hpath', hfit'⟩ := Option.bind_eq_some_iff.mp hs
  -- A path has its segments before it has a route.
  obtain rfl := Option.some.inj (hpath.symm.trans hpath')
  exact (fit_of_matchPieces hfit).not_apart (fit_of_matchPieces hfit')

end Apart

section Table

/-- Every path matches one route of the table at most. -/
def Unambiguous (table : List Route) : Prop :=
  ∀ path, ∀ r ∈ table, ∀ s ∈ table, (r.match? path).isSome → (s.match? path).isSome → r = s

theorem unambiguous_of_apart {table : List Route}
    (h : table.Pairwise fun r s => Apart r.pieces s.pieces) : Unambiguous table := by
  intro path r hr s hs
  -- The table is checked in its own order, but which of the two comes first is not known here.
  have hself : ∀ r ∈ table, (r.match? path).isSome → (r.match? path).isSome → r = r :=
    fun _ _ _ _ => rfl
  have hbefore : table.Pairwise fun r s =>
      (r.match? path).isSome → (s.match? path).isSome → r = s :=
    h.imp fun hapart hr hs => absurd hapart (Route.not_apart_of_match? hr hs)
  have hafter : table.Pairwise fun r s =>
      (s.match? path).isSome → (r.match? path).isSome → s = r :=
    h.imp fun hapart hs hr => absurd hapart (Route.not_apart_of_match? hr hs)
  exact List.Pairwise.forall_of_forall_of_flip hself hbefore hafter hr hs

theorem unambiguous_routes : Unambiguous routes :=
  unambiguous_of_apart (by decide)

/-- The first route of a table that a path fits, and its parameters. -/
def firstRoute? (table : List Route) (path : List Char) : Option (Operation × List String) :=
  table.findSome? fun r => (r.match? path).map (r.operation, ·)

/-- What is found in an unambiguous table is told by its members, and not by their order. -/
theorem firstRoute?_eq_some_iff {table : List Route} (h : Unambiguous table) {path : List Char}
    {operation : Operation} {params : List String} :
    firstRoute? table path = some (operation, params) ↔
      ∃ r ∈ table, r.operation = operation ∧ r.Fits path params := by
  have hsound {operation : Operation} {params : List String}
      (hfound : firstRoute? table path = some (operation, params)) :
      ∃ r ∈ table, r.operation = operation ∧ r.Fits path params := by
    obtain ⟨r, hr, hmatch⟩ := List.exists_of_findSome?_eq_some hfound
    obtain ⟨params', hparams, hpair⟩ := Option.map_eq_some_iff.mp hmatch
    obtain ⟨hoperation, rfl⟩ := Prod.mk.inj hpair
    exact ⟨r, hr, hoperation, Route.match?_eq_some_iff.mp hparams⟩
  refine ⟨hsound, ?_⟩
  rintro ⟨r, hr, rfl, hfits⟩
  -- Some route is found, and no other than this one can be.
  have hsome : (firstRoute? table path).isSome := by
    rw [firstRoute?, List.findSome?_isSome_iff]
    refine ⟨r, hr, ?_⟩
    rw [Option.isSome_map]
    exact hfits.isSome_match?
  obtain ⟨⟨operation, others⟩, hfound⟩ := Option.isSome_iff_exists.mp hsome
  obtain ⟨s, hs, rfl, hfits'⟩ := hsound hfound
  obtain rfl := h path r hr s hs (hfits.isSome_match?) (hfits'.isSome_match?)
  rw [hfound, hfits.params_eq hfits']

theorem findRoute?_eq_some_iff {path : List Char} {operation : Operation}
    {params : List String} : findRoute? path = some (operation, params) ↔
      ∃ r ∈ routes, r.operation = operation ∧ r.Fits path params :=
  firstRoute?_eq_some_iff unambiguous_routes

theorem firstRoute?_perm {table table' : List Route} (h : Unambiguous table)
    (hperm : table'.Perm table) : firstRoute? table' = firstRoute? table := by
  have h' : Unambiguous table' :=
    fun path r hr s hs => h path r (hperm.mem_iff.mp hr) s (hperm.mem_iff.mp hs)
  funext path
  ext ⟨operation, params⟩
  simp only [firstRoute?_eq_some_iff h, firstRoute?_eq_some_iff h', hperm.mem_iff]

end Table

/-- How many parameters an operation has. -/
def Operation.arity : Operation → ℕ
  | .health => 0
  | .chains => 0
  | .capabilities => 1
  | .query _ => 2

theorem fits_fill_of_mem_routes {r : Route} (hr : r ∈ routes) {coin identifier : String}
    (hcoin : IsSegment coin) (hidentifier : IsSegment identifier) :
    r.Fits (r.fill [coin, identifier]) ([coin, identifier].take r.operation.arity) := by
  -- All that depends on the table is checked on it once, route by route.
  have hroutes : ∀ r ∈ routes, r.pieces ≠ [] ∧ (∀ piece ∈ r.pieces, '/' ∉ piece.letters) ∧
      r.pieces.count .parameter = r.operation.arity ∧ r.operation.arity ≤ 2 := by
    decide
  obtain ⟨hne, hps, hcount, harity⟩ := hroutes r hr
  have hparams : ∀ s ∈ [coin, identifier], IsSegment s :=
    List.forall_mem_cons.mpr ⟨hcoin, List.forall_mem_singleton.mpr hidentifier⟩
  have hfits := Route.fits_fill hne hps hparams (hcount ▸ harity)
  rwa [hcount] at hfits

/-- Filled in with the names of what they ask for, the routes read as they are documented. -/
example : routes.map (fun r => String.ofList (r.fill ["{coin}", "{identifier}"])) = [
    "/health", "/v2/chains", "/v2/{coin}/capabilities", "/v2/{coin}/transactions/{identifier}",
    "/v1/{coin}/{identifier}", "/v2/{coin}/transactions/account/{identifier}",
    "/v2/{coin}/transactions/xpub/{identifier}"] := by
  decide

namespace App

/-- Answers a request by the routes of a table. -/
def handleBy (table : List Route) (indexer : Behaviour) (app : Option App) (r : Request) :
    StateM Conversation Response :=
  match firstRoute? table r.path with
  | some (operation, parameters) =>
    if r.method ≠ "GET" then pure .methodNotAllowed
    else match app with
      | none => pure .notInitialized
      | some app => serve indexer app r.token? operation parameters
  | none =>
    if r.path ≠ ['/'] && (firstRoute? table (otherSlash r.path)).isSome then
      pure (.redirect r (otherSlash r.path))
    else pure .notFound

theorem handleBy_routes : handleBy routes = handle :=
  rfl

/-- Runs an operation for a coin and an identifier, as far as it asks for them. -/
def serveFor (indexer : Behaviour) (app : App) (token : Option String) (coin identifier : String) :
    Operation → StateM Conversation Response
  | .capabilities => serveCapabilities app coin
  | .query kind => serveQuery indexer app ⟨kind, coin, some identifier, token⟩
  | operation => serve indexer app token operation []

theorem serve_take (indexer : Behaviour) (app : App) (token : Option String)
    (operation : Operation) (coin identifier : String) :
    serve indexer app token operation ([coin, identifier].take operation.arity) =
      serveFor indexer app token coin identifier operation := by
  cases operation <;> rfl

/-- No path fits two routes: what is found is the route that the path fits, in whatever order the
routes are asked. A route that is filled in with a coin and an identifier leads to its operation
with that coin and that identifier. -/
theorem routes_never_compete :
    Unambiguous routes ∧
    (∀ path operation params, findRoute? path = some (operation, params) ↔
      ∃ r ∈ routes, r.operation = operation ∧ r.Fits path params) ∧
    (∀ table : List Route, table.Perm routes → handleBy table = handle) ∧
    ∀ route ∈ routes, ∀ coin identifier, IsSegment coin → IsSegment identifier →
      findRoute? (route.fill [coin, identifier]) =
        some (route.operation, [coin, identifier].take route.operation.arity) ∧
      ∀ indexer app r, r.method = "GET" → r.path = route.fill [coin, identifier] →
        handle indexer (some app) r =
          serveFor indexer app r.token? coin identifier route.operation := by
  refine ⟨unambiguous_routes, fun path operation params => findRoute?_eq_some_iff, ?_, ?_⟩
  · intro table hperm
    funext indexer app r
    rw [← handleBy_routes, handleBy, handleBy, firstRoute?_perm unambiguous_routes hperm]
  · intro route hroute coin identifier hcoin hidentifier
    have hfits := fits_fill_of_mem_routes hroute hcoin hidentifier
    have hfill := findRoute?_eq_some_iff.mpr ⟨route, hroute, rfl, hfits⟩
    refine ⟨hfill, ?_⟩
    intro indexer app r hget hpath
    rw [handle_of_findRoute? hget (hpath ▸ hfill), serve_take]

/-- A request for the transactions of an account, whose names are words of the routes. -/
def borrowing : Request :=
  ⟨"GET", "http://service", "/v2/xpub/transactions/acc%6Funt/transactions?token=t"⟩

theorem borrowing_never_competes :
    (routes.reverse.Perm routes ∧ IsSegment "xpub" ∧ IsSegment "transactions" ∧
      borrowing.method = "GET" ∧
      borrowing.path = "/v2/xpub/transactions/account/transactions".toList) ∧
    handleBy routes.reverse (fun _ _ => .unreachable "") (some bitcoinAlone) borrowing =
      serveQuery (fun _ _ => .unreachable "") bitcoinAlone
        ⟨.account, "xpub", some "transactions", some "t"⟩ := by
  have hcoin : IsSegment "xpub" := ⟨by decide, by decide⟩
  have hidentifier : IsSegment "transactions" := ⟨by decide, by decide⟩
  have hpath : borrowing.path = "/v2/xpub/transactions/account/transactions".toList := by
    decide +kernel
  have htoken : borrowing.token? = some "t" := by decide +kernel
  have hperm := List.reverse_perm routes
  obtain ⟨-, -, horder, hfilled⟩ := routes_never_compete
  have hroute : routes[5] ∈ routes := List.getElem_mem (by decide)
  obtain ⟨-, hserved⟩ := hfilled _ hroute "xpub" "transactions" hcoin hidentifier
  refine ⟨⟨hperm, hcoin, hidentifier, rfl, hpath⟩, ?_⟩
  rw [horder _ hperm, hserved _ bitcoinAlone borrowing rfl hpath, htoken]
  rfl

end App

end ChainHistory.Http
