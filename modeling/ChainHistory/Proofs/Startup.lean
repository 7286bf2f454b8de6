import ChainHistory.Http.App
import ChainHistory.Proofs.ChainList
import ChainHistory.Proofs.RegistryKeys

namespace ChainHistory.Indexer

open Text

/-- The calls by which the chains of a list are registered. -/
def registrations (specs : List ChainSpec) : List (Platform Unit × Option Capabilities) :=
  specs.map fun spec => (platformOf spec, some spec.capabilities)

theorem registryOf_eq (specs : List ChainSpec) :
    registryOf specs = Registry.registerAll {} (registrations specs) := rfl

theorem coins_registrations {specs : List ChainSpec}
    (hlower : ∀ spec ∈ specs, lower spec.coin = spec.coin) :
    ((registrations specs).map fun c => lower c.1.coin) = specs.map (·.coin) := by
  rw [registrations, List.map_map]
  exact List.map_congr_left hlower

theorem nodup_coins_registrations (text : String) :
    ((registrations (ChainSpec.parseList text).1).map fun c => lower c.1.coin).Nodup := by
  rw [coins_registrations fun spec hspec => ChainSpec.lower_coin_of_mem_parseList hspec]
  exact ChainSpec.nodup_coins_parseList text

/-- The chains that a text lists can all be registered. -/
theorem registryOf_parseList (text : String) :
    ∃ lines, registryOf (ChainSpec.parseList text).1 =
      .ok (Registry.afterCalls (registrations (ChainSpec.parseList text).1), lines) := by
  rw [registryOf_eq]
  exact Registry.registerAll_of_fresh _ {} (nodup_coins_registrations text) fun _ _ => rfl

/-- What is kept of a listed chain. -/
def entryOf (spec : ChainSpec) : String × Registration Unit :=
  (spec.coin, Registry.registrationOf (platformOf spec, some spec.capabilities))

theorem entries_parseList (text : String) :
    (Registry.afterCalls (registrations (ChainSpec.parseList text).1)).entries =
      (ChainSpec.parseList text).1.map entryOf := by
  rw [Registry.afterCalls, Registry.entries_foldl_attempt_of_fresh _ _
    (nodup_coins_registrations text) fun _ _ => rfl, List.nil_append, registrations, List.map_map]
  apply List.map_congr_left
  intro spec hspec
  have hcoin : lower (platformOf spec).coin = spec.coin :=
    ChainSpec.lower_coin_of_mem_parseList hspec
  rw [Function.comp_apply, hcoin]
  rfl

/-- A listed chain is found by every spelling of its coin. -/
theorem find?_parseList {text : String} {spec : ChainSpec}
    (hspec : spec ∈ (ChainSpec.parseList text).1) {s : String} (hs : lower s = spec.coin) :
    (Registry.afterCalls (registrations (ChainSpec.parseList text).1)).find? s =
      some (entryOf spec).2 := by
  have hmem : entryOf spec ∈
      (Registry.afterCalls (registrations (ChainSpec.parseList text).1)).entries := by
    rw [entries_parseList]
    exact List.mem_map_of_mem hspec
  rw [Registry.find?, hs]
  exact Assoc.lookup_of_mem (Registry.keyed_afterCalls _).nodup hmem

/-- A remote platform can serve whatever is enabled for it. -/
theorem has_capabilities_platformOf (spec : ChainSpec) (c : Capability) :
    ((platformOf spec).capabilities (some spec.capabilities)).supported.has c =
      spec.capabilities.has c := by
  cases c <;> rfl

/-- A registry serves the chains of a list: these and no others, each in every spelling of its coin
and with the capabilities that the list gives it, in the order in which they are shown. -/
structure ServesList (specs : List ChainSpec) (registry : Registry Unit) : Prop where
  size : registry.size = specs.length
  coins : registry.coins.Perm (specs.map (·.coin))
  ascending : registry.coins.Pairwise (· < ·)
  chain : ∀ spec ∈ specs, ∀ s, lower s = spec.coin → ∃ p offered,
    registry.get s = .ok p ∧ p.coin = spec.coin ∧ p.coinId = spec.coinId ∧
      registry.capabilities s = .ok offered ∧
      offered.supported.toList.Sublist [.tx, .token, .account, .xpub] ∧
      ∀ c, c ∈ offered.supported.toList ↔ spec.capabilities.has c = true

theorem servesList_parseList (text : String) : ServesList (ChainSpec.parseList text).1
    (Registry.afterCalls (registrations (ChainSpec.parseList text).1)) := by
  have hentries := entries_parseList text
  have hkeyed := Registry.keyed_afterCalls (registrations (ChainSpec.parseList text).1)
  refine ⟨?_, ?_, hkeyed.coins_pairwise_lt, ?_⟩
  · rw [Registry.size, hentries, List.length_map]
  · have hkeys : (Registry.afterCalls (registrations (ChainSpec.parseList text).1)).entries.map
        (·.1) = (ChainSpec.parseList text).1.map (·.coin) := by
      rw [hentries, List.map_map]
      rfl
    rw [← hkeys]
    exact List.mergeSort_perm _ _
  · intro spec hspec s hs
    have hfind := find?_parseList hspec hs
    refine ⟨platformOf spec, (platformOf spec).capabilities (some spec.capabilities), ?_, rfl, rfl,
      ?_, ?_, ?_⟩
    · rw [Registry.get, Registry.registration, hfind]
      rfl
    · rw [Registry.capabilities, Registry.registration, hfind]
      rfl
    · exact List.filter_sublist
    · intro c
      rw [Capabilities.mem_toList_iff, has_capabilities_platformOf]

/-- The service that starts has the limits of its settings. -/
theorem exists_start (env : Settings.Variables) (s : Settings) : ∃ client lines,
    Http.App.start env s = .ok (⟨client, .afterCalls (registrations
      (ChainSpec.parseList s.chains).1), s.pageSize, s.memoLength⟩, lines) := by
  obtain ⟨lines, hregistry⟩ := registryOf_parseList s.chains
  simp only [Http.App.start, hregistry, bind, Except.bind, pure, Except.pure]
  exact ⟨_, _, rfl⟩

/-- Whatever the text that lists the chains says, the service starts, and it serves the chains that
were read from the text. -/
theorem every_chain_list_starts (text : String) : ∃ registry lines,
    registryOf (ChainSpec.parseList text).1 = .ok (registry, lines) ∧
      ServesList (ChainSpec.parseList text).1 registry ∧
      ∀ env settings, settings.chains = text → ∃ client started,
        Http.App.start env settings =
          .ok (⟨client, registry, settings.pageSize, settings.memoLength⟩, started) := by
  obtain ⟨lines, hregistry⟩ := registryOf_parseList text
  refine ⟨_, lines, hregistry, servesList_parseList text, ?_⟩
  intro env settings htext
  simp only [Http.App.start, htext, hregistry, bind, Except.bind, pure, Except.pure]
  exact ⟨_, _, rfl⟩

end ChainHistory.Indexer
