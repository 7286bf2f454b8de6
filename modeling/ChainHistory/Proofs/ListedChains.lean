import ChainHistory.Proofs.PercentRoundTrip
import ChainHistory.Proofs.RouteTable
import ChainHistory.Proofs.Startup
import Mathlib.Data.List.TakeWhile

namespace ChainHistory

namespace Http

open Text Indexer

/-- The route that was found has a piece for each segment. -/
theorem exists_route_of_findRoute? {path : List Char} {segments : List (List Char)}
    {operation : Operation} {params : List String} (hpath : pathSegments path = some segments)
    (h : findRoute? path = some (operation, params)) :
    ∃ route ∈ routes, route.operation = operation ∧ route.pieces.length = segments.length := by
  obtain ⟨route, hroute, hoperation, hfits⟩ := findRoute?_eq_some_iff.mp h
  have hmatch := Route.match?_eq_some_iff.mpr hfits
  rw [Route.match?, hpath, Option.bind_some] at hmatch
  exact ⟨route, hroute, hoperation, (fit_of_matchPieces hmatch).length_eq⟩

/-- Only queries have long paths. -/
theorem exists_kind_of_findRoute? {path : List Char} {segments : List (List Char)}
    {operation : Operation} {params : List String} (hpath : pathSegments path = some segments)
    (hlong : 4 ≤ segments.length) (h : findRoute? path = some (operation, params)) :
    ∃ kind, operation = .query kind := by
  obtain ⟨route, hroute, rfl, hlength⟩ := exists_route_of_findRoute? hpath h
  have hshort : ∀ route ∈ routes, 4 ≤ route.pieces.length →
      route.operation ∉ [.health, .chains, .capabilities] := by
    decide
  have hother := hshort route hroute (by omega)
  cases hoperation : route.operation with
  | query kind => exact ⟨kind, rfl⟩
  | _ => exact absurd (by rw [hoperation]; decide) hother

/-- The request for the list of chains. -/
def listing (origin : String) : Request := ⟨"GET", origin, "/v2/chains"⟩

/-- The request for the capabilities of a chain, whose coin is escaped. -/
def asking (origin coin : String) : Request :=
  ⟨"GET", origin,
    String.ofList ("/v2/".toList ++ (Percent.encode coin.toList ++ "/capabilities".toList))⟩

theorem path_asking (origin coin : String) :
    (asking origin coin).path = "/v2/".toList ++ (coin.toList ++ "/capabilities".toList) := by
  have hmark : ∀ c ∈ "/v2/".toList ++ (Percent.encode coin.toList ++ "/capabilities".toList),
      decide (c ≠ '?') = true := by
    intro c hc
    have hencoded : '?' ∉ Percent.encode coin.toList :=
      Percent.notMem_encode (by decide) (by decide) _
    rw [List.mem_append, List.mem_append] at hc
    apply decide_eq_true
    rintro rfl
    rcases hc with hc | hc | hc
    · exact absurd hc (by decide)
    · exact hencoded hc
    · exact absurd hc (by decide)
  rw [Request.path, asking, String.toList_ofList, List.takeWhile_eq_self_iff.mpr hmark,
    Percent.decode_between (by decide) (by decide)]

theorem pathSegments_asking (origin coin : String) :
    pathSegments (asking origin coin).path =
      some ("v2".toList :: (splitOn '/' coin.toList ++ ["capabilities".toList])) := by
  have hfront : "/v2/".toList = '/' :: ("v2".toList ++ ['/']) := by decide
  have hback : "/capabilities".toList = '/' :: "capabilities".toList := by decide
  rw [path_asking, hfront, hback, List.cons_append, pathSegments, List.append_assoc,
    List.singleton_append, splitOn_append_sep, splitOn_append_sep,
    splitOn_of_notMem (by decide : '/' ∉ "v2".toList),
    splitOn_of_notMem (by decide : '/' ∉ "capabilities".toList), List.singleton_append]

theorem findRoute?_asking {coin : String} (hne : coin ≠ "") (hslash : '/' ∉ coin.toList)
    (origin : String) : findRoute? (asking origin coin).path = some (.capabilities, [coin]) := by
  have hsegments := pathSegments_asking origin coin
  rw [splitOn_of_notMem hslash, List.singleton_append] at hsegments
  have hfit : Fit [.word "v2", .parameter, .word "capabilities"]
      ["v2".toList, coin.toList, "capabilities".toList] [coin] :=
    .word "v2" (.parameter hne (.word "capabilities" .done))
  have hmatch : Route.match? (asking origin coin).path
      ⟨.capabilities, [.word "v2", .parameter, .word "capabilities"]⟩ = some [coin] := by
    rw [Route.match?, hsegments, Option.bind_some]
    exact hfit.matchPieces_eq
  exact findRoute?_eq_some_iff.mpr
    ⟨_, List.getElem_mem (show 2 < routes.length by decide), rfl,
      Route.match?_eq_some_iff.mp hmatch⟩

namespace App

/-- What a listed chain is said to offer. -/
def offers (spec : ChainSpec) : Json :=
  .obj [
    ("coin", .str spec.coin),
    ("coin_id", .int spec.coinId),
    ("capabilities", .arr (spec.capabilities.toList.map fun c => .str c.name))]

theorem toJson_ne_offers (page : Page) (spec : ChainSpec) : page.toJson ≠ offers spec := by
  intro h
  have hfirst := (List.cons.inj (Json.obj.inj h)).1
  exact absurd (Prod.mk.inj hfirst).1 (by decide)

/-- A slash inside a coin parts it, and so leads elsewhere. -/
theorem handle_asking_of_slash {coin : String} (hslash : '/' ∈ coin.toList) (indexer : Behaviour)
    (app : App) (origin : String) (c : Conversation) (spec : ChainSpec) :
    (handle indexer (some app) (asking origin coin) c).1 ≠ .ok (offers spec) := by
  have hsegments := pathSegments_asking origin coin
  have hlong :
      4 ≤ ("v2".toList :: (splitOn '/' coin.toList ++ ["capabilities".toList])).length := by
    have hparts := two_le_length_splitOn hslash
    rw [List.length_cons, List.length_append, List.length_singleton]
    omega
  intro h
  -- Such a path has no route, or that of a query, which is answered with a page.
  cases hroute : findRoute? (asking origin coin).path with
  | none =>
    simp only [handle, hroute] at h
    split at h
    · exact redirect_ne_ok _ _ _ h
    · exact notFound_ne_ok _ h
  | some found =>
    obtain ⟨operation, params⟩ := found
    obtain ⟨kind, rfl⟩ := exists_kind_of_findRoute? hsegments hlong hroute
    rw [handle_of_findRoute? rfl hroute] at h
    obtain ⟨page, hpage⟩ := exists_page_of_serve_query h
    exact toJson_ne_offers page spec hpage

theorem handle_asking {coin : String} (hne : coin ≠ "") (hslash : '/' ∉ coin.toList)
    (indexer : Behaviour) (app : App) (origin : String) :
    handle indexer (some app) (asking origin coin) = serveCapabilities app coin := by
  rw [handle_of_findRoute? rfl (findRoute?_asking hne hslash origin)]
  rfl

theorem handle_listing (indexer : Behaviour) (app : App) (origin : String) (c : Conversation) :
    handle indexer (some app) (listing origin) c =
      (.ok (.arr (app.service.registry.coins.map .str)), c) := by
  have hroute : findRoute? (listing origin).path = some (.chains, []) := by
    show findRoute? (Percent.decode ("/v2/chains".toList.takeWhile (· ≠ '?'))) = _
    decide +kernel
  rw [handle_of_findRoute? rfl hroute]
  rfl

theorem serveCapabilities_of_find? {app : App} {coin : String} {e : Registration Unit}
    (h : app.service.registry.find? coin = some e) (c : Conversation) :
    serveCapabilities app coin c = (.ok (capabilitiesJson e.platform e.capabilities), c) := by
  have hget : app.service.registry.get coin = .ok e.platform := by
    rw [Registry.get, Registry.registration, h]
    rfl
  have hcapabilities : app.service.registry.capabilities coin = .ok e.capabilities := by
    rw [Registry.capabilities, Registry.registration, h]
    rfl
  simp only [serveCapabilities, hget, hcapabilities]
  rfl

theorem capabilitiesJson_entryOf (spec : ChainSpec) :
    capabilitiesJson (entryOf spec).2.platform (entryOf spec).2.capabilities = offers spec := by
  have hall : Capabilities.every.inter spec.capabilities = spec.capabilities := by
    simp only [Capabilities.every, Capabilities.inter, Bool.true_and]
  have hoffered : (entryOf spec).2.capabilities.supported = spec.capabilities := hall
  rw [capabilitiesJson, hoffered]
  rfl

theorem serveCapabilities_listed {app : App} {text : String} {spec : ChainSpec}
    (happ : app.service.registry = .afterCalls (registrations (ChainSpec.parseList text).1))
    (hspec : spec ∈ (ChainSpec.parseList text).1) (c : Conversation) :
    serveCapabilities app spec.coin c = (.ok (offers spec), c) := by
  have hfind : app.service.registry.find? spec.coin = some (entryOf spec).2 := by
    rw [happ]
    exact find?_parseList hspec (ChainSpec.lower_coin_of_mem_parseList hspec)
  rw [serveCapabilities_of_find? hfind, capabilitiesJson_entryOf]

/-- The chains that a text lists are listed to a reader, and the request for one of them reaches it
unless its coin holds a slash. -/
theorem listed_chain_reached_iff (env : Settings.Variables) (s : Settings) :
    ∃ app lines, ∃ coins : List String, start env s = .ok (app, lines) ∧
      coins.Perm ((ChainSpec.parseList s.chains).1.map (·.coin)) ∧
      ∀ indexer origin c,
        handle indexer (some app) (listing origin) c = (.ok (.arr (coins.map .str)), c) ∧
        ∀ coin ∈ coins, ∃ spec ∈ (ChainSpec.parseList s.chains).1, spec.coin = coin ∧
          (handle indexer (some app) (asking origin coin) c = (.ok (offers spec), c) ↔
            '/' ∉ coin.toList) := by
  obtain ⟨client, lines, hstart⟩ := exists_start env s
  have hserves := servesList_parseList s.chains
  refine ⟨_, _, _, hstart, hserves.coins, ?_⟩
  intro indexer origin c
  refine ⟨handle_listing indexer _ origin c, ?_⟩
  intro coin hcoin
  obtain ⟨spec, hspec, rfl⟩ := List.mem_map.mp (hserves.coins.subset hcoin)
  refine ⟨spec, hspec, rfl, ?_⟩
  constructor
  · intro hreached hslash
    exact handle_asking_of_slash hslash indexer _ origin c spec (congrArg Prod.fst hreached)
  · intro hslash
    rw [handle_asking (ChainSpec.coin_ne_of_mem_parseList hspec) hslash]
    exact serveCapabilities_listed rfl hspec c

/-- A chain that is listed, but whose coin holds a slash. -/
theorem slashed_chain_not_reached : ∃ app lines,
    start [] { chains := "a/b=1:tx" } = .ok (app, lines) ∧
      (handle (fun _ _ => .unreachable "") (some app) (listing "http://service") {}).1 =
        .ok (.arr [.str "a/b"]) ∧
      (handle (fun _ _ => .unreachable "") (some app) (asking "http://service" "a/b") {}).1 =
        .notFound := by
  obtain ⟨client, lines, hstart⟩ := exists_start [] { chains := "a/b=1:tx" }
  refine ⟨_, lines, hstart, ?_, ?_⟩
  · have hparse : (ChainSpec.parseList "a/b=1:tx").1.map (·.coin) = ["a/b"] := by decide +kernel
    have hcoins := (servesList_parseList "a/b=1:tx").coins
    rw [hparse, List.perm_singleton] at hcoins
    rw [handle_listing, hcoins]
    rfl
  · have hroute : findRoute? (asking "http://service" "a/b").path = none := by decide +kernel
    have hother :
        (findRoute? (otherSlash (asking "http://service" "a/b").path)).isSome = false := by
      decide +kernel
    simp only [handle, hroute, hother, Bool.and_false, Bool.false_eq_true, if_false]
    rfl

end App

end Http

end ChainHistory
