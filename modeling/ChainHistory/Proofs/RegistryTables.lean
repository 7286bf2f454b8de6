import ChainHistory.Proofs.RegistryKeys
import ChainHistory.Proofs.ServiceDecision

/-! A registry as two tables by coin, one of the platforms and one of what can be asked of them,
which are written one after the other. -/

namespace ChainHistory.Registry

open Text Service

variable {H : Type}

/-- The platforms and what can be asked of them, by coin, and what was logged. -/
structure Tables (H : Type) where
  platforms : List (String × Platform H) := []
  capabilities : List (String × CapabilitySet) := []
  logged : List LogLine := []

namespace Tables

/-- Registers a platform by single writes. The table of platforms alone decides whether it may be
written, and an error keeps what was written before it. -/
def register (p : Platform H) (enabled : Option Capabilities) :
    StateM (Tables H) (Except AlreadyRegistered Unit) := do
  let coin := lower p.coin
  if ((← getThe (Tables H)).platforms.lookup coin).isSome then
    return .error ⟨coin⟩
  let offered := p.capabilities enabled
  modify fun t => { t with platforms := Assoc.put coin p t.platforms }
  modify fun t => { t with capabilities := Assoc.put coin offered t.capabilities }
  modify fun t =>
    { t with logged := t.logged ++ [registrationLine coin p.coinId offered.supported] }
  return .ok ()

/-- Registers platforms in order, whatever becomes of each. -/
def run (calls : List (Platform H × Option Capabilities)) :
    StateM (Tables H) (List (Except AlreadyRegistered Unit)) :=
  calls.mapM fun c => register c.1 c.2

def keys (t : Tables H) : List String := t.platforms.map (·.1)

end Tables

/-- The tables hold what the registry holds. -/
structure Holds (t : Tables H) (r : Registry H) : Prop where
  platforms : t.platforms = r.entries.map fun e => (e.1, e.2.platform)
  capabilities : t.capabilities = r.entries.map fun e => (e.1, e.2.capabilities)

theorem Holds.keys_eq {t : Tables H} {r : Registry H} (h : Holds t r) :
    t.keys = r.entries.map (·.1) := by
  rw [Tables.keys, h.platforms, List.map_map]
  rfl

theorem Holds.keys_capabilities {t : Tables H} {r : Registry H} (h : Holds t r) :
    t.capabilities.map (·.1) = r.entries.map (·.1) := by
  rw [h.capabilities, List.map_map]
  rfl

theorem Holds.lookup_platforms {t : Tables H} {r : Registry H} (h : Holds t r) (k : String) :
    t.platforms.lookup k = (r.entries.lookup k).map (·.platform) := by
  rw [h.platforms, Assoc.lookup_map_snd Registration.platform]

theorem Holds.lookup_capabilities {t : Tables H} {r : Registry H} (h : Holds t r) (k : String) :
    t.capabilities.lookup k = (r.entries.lookup k).map (·.capabilities) := by
  rw [h.capabilities, Assoc.lookup_map_snd Registration.capabilities]

theorem Holds.contains_iff {t : Tables H} {r : Registry H} (h : Holds t r) {coin : String} :
    r.contains coin = true ↔ lower coin ∈ t.keys := by
  rw [h.keys_eq, Registry.contains_iff]

/-- A coin that is known is refused before anything is written. -/
theorem Tables.register_of_mem {t : Tables H} {p : Platform H} {enabled : Option Capabilities}
    (h : lower p.coin ∈ t.keys) : register p enabled t = (.error ⟨lower p.coin⟩, t) := by
  have hsome : (t.platforms.lookup (lower p.coin)).isSome = true := Assoc.isSome_lookup_iff.mpr h
  change (ite ((t.platforms.lookup (lower p.coin)).isSome = true) _ _ : StateM (Tables H) _) t = _
  rw [if_pos hsome]
  rfl

/-- A new coin is written to both tables and logged. -/
theorem Tables.register_of_notMem {t : Tables H} {p : Platform H} {enabled : Option Capabilities}
    (h : lower p.coin ∉ t.keys) : register p enabled t = (.ok (), {
      platforms := Assoc.put (lower p.coin) p t.platforms
      capabilities := Assoc.put (lower p.coin) (p.capabilities enabled) t.capabilities
      logged := t.logged ++
        [registrationLine (lower p.coin) p.coinId (p.capabilities enabled).supported] }) := by
  have hnone : ¬ (t.platforms.lookup (lower p.coin)).isSome = true := by
    rw [Assoc.isSome_lookup_iff]
    exact h
  change (ite ((t.platforms.lookup (lower p.coin)).isSome = true) _ _ : StateM (Tables H) _) t = _
  rw [if_neg hnone]
  rfl

/-- One registration does the same to the registry and to its tables. -/
theorem Holds.register {t : Tables H} {r : Registry H} (h : Holds t r) (p : Platform H)
    (enabled : Option Capabilities) :
    Holds (Tables.register p enabled t).2 (r.attempt (p, enabled)) ∧
      ((Tables.register p enabled t).1.isOk = true ↔ r.contains p.coin = false) := by
  by_cases hc : r.contains p.coin = true
  · have hkey := h.contains_iff.mp hc
    rw [Tables.register_of_mem hkey, attempt_of_contains (c := (p, enabled)) hc]
    exact ⟨h, by simp only [Except.isOk, Except.toBool, Bool.false_eq_true, hc, Bool.true_eq_false]⟩
  · have hkey : lower p.coin ∉ t.keys := fun hmem => hc (h.contains_iff.mpr hmem)
    rw [Bool.not_eq_true] at hc
    have hentries := entries_attempt (c := (p, enabled)) hc
    have hplatforms : lower p.coin ∉ t.platforms.map (·.1) := hkey
    -- Only the platforms were looked at; that the coin is new to the other table as well follows
    -- from the registry that both of them hold.
    have hcapabilities : lower p.coin ∉ t.capabilities.map (·.1) := by
      rw [h.keys_capabilities, ← h.keys_eq]
      exact hkey
    rw [Tables.register_of_notMem hkey]
    refine ⟨⟨?_, ?_⟩, ?_⟩
    · rw [Assoc.put_of_notMem hplatforms, hentries, List.map_append, h.platforms]
      rfl
    · rw [Assoc.put_of_notMem hcapabilities, hentries, List.map_append, h.capabilities]
      rfl
    · simp only [Except.isOk, Except.toBool, hc]

theorem Tables.run_cons (c : Platform H × Option Capabilities)
    (calls : List (Platform H × Option Capabilities)) (t : Tables H) :
    run (c :: calls) t = ((register c.1 c.2 t).1 :: (run calls (register c.1 c.2 t).2).1,
      (run calls (register c.1 c.2 t).2).2) := by
  rw [run, List.mapM_cons]
  rfl

theorem size_attempt (r : Registry H) (c : Platform H × Option Capabilities) :
    (r.attempt c).size = r.size + if r.contains c.1.coin then 0 else 1 := by
  by_cases hc : r.contains c.1.coin = true
  · rw [attempt_of_contains hc, hc, if_pos rfl, Nat.add_zero]
  · rw [if_neg hc, size, entries_attempt (by simpa using hc), List.length_append,
      List.length_singleton, size]

/-- A run does the same to the registry and to its tables, which grow by what was not refused. -/
theorem Holds.run {t : Tables H} {r : Registry H} (h : Holds t r)
    (calls : List (Platform H × Option Capabilities)) :
    Holds (Tables.run calls t).2 (calls.foldl attempt r) ∧
      (calls.foldl attempt r).size = r.size + (Tables.run calls t).1.countP (·.isOk) := by
  induction calls generalizing t r with
  | nil => exact ⟨h, rfl⟩
  | cons c calls ih =>
    obtain ⟨hstep, hok⟩ := h.register c.1 c.2
    obtain ⟨hrest, hsize⟩ := ih hstep
    rw [Tables.run_cons, List.foldl_cons]
    refine ⟨hrest, ?_⟩
    -- The registry grows by the calls that were not refused, one step at a time.
    have hgrown : (r.attempt c).size =
        r.size + if (Tables.register c.1 c.2 t).1.isOk = true then 1 else 0 := by
      rw [size_attempt]
      cases hc : r.contains c.1.coin with
      | true =>
        have hrefused : (Tables.register c.1 c.2 t).1.isOk ≠ true := by
          intro hy
          rw [hok.mp hy] at hc
          exact Bool.false_ne_true hc
        rw [if_neg hrefused, if_pos rfl]
      | false => rw [if_pos (hok.mpr hc), if_neg Bool.false_ne_true]
    rw [hsize, hgrown, List.countP_cons]
    omega

/-- What holds between the calls of a run, how each of them ended, the tables they left, and the
registry. -/
structure InStep (calls : List (Platform H × Option Capabilities))
    (outcomes : List (Except AlreadyRegistered Unit)) (t : Tables H) (r : Registry H) : Prop where
  sameKeys : t.keys = t.capabilities.map (·.1)
  /-- A platform stands under the lower case of its coin beside what was found in it by the first
  call that named the coin. -/
  stored : ∀ k p, t.platforms.lookup k = some p → k = lower p.coin ∧
    ∃ enabled s, Registers calls p.coin p enabled ∧ t.capabilities.lookup k = some s ∧
      s = p.capabilities enabled ∧ ∀ c, s.supported.has c = true ↔ Offers p enabled c
  refused : ∀ p enabled, lower p.coin ∈ t.keys →
    Tables.register p enabled t = (.error ⟨lower p.coin⟩, t) ∧
      r.register p enabled = .error ⟨lower p.coin⟩
  accepted : ∀ p enabled, lower p.coin ∉ t.keys →
    ∃ t' r' line, Tables.register p enabled t = (.ok (), t') ∧
      r.register p enabled = .ok (r', line) ∧ t'.logged = t.logged ++ [line] ∧ Holds t' r'
  kept : ∀ later k, k ∈ t.keys →
    (Tables.run later t).2.platforms.lookup k = t.platforms.lookup k ∧
      (Tables.run later t).2.capabilities.lookup k = t.capabilities.lookup k
  known : ∀ coin, lower coin ∈ t.keys → r.contains coin = true ∧
    ∃ p s, t.platforms.lookup (lower coin) = some p ∧ r.get coin = .ok p ∧
      t.capabilities.lookup (lower coin) = some s ∧ r.capabilities coin = .ok s
  unknown : ∀ coin, lower coin ∉ t.keys → r.contains coin = false ∧
    r.get coin = .error (.unknownCoin coin) ∧ r.capabilities coin = .error (.unknownCoin coin)
  ascending : r.coins.Pairwise (· < ·)
  coins : ∀ k, k ∈ r.coins ↔ k ∈ t.keys
  size : r.size = outcomes.countP (·.isOk)

theorem Holds.kept {t : Tables H} {r : Registry H} (h : Holds t r)
    (later : List (Platform H × Option Capabilities)) {k : String} (hk : k ∈ t.keys) :
    (Tables.run later t).2.platforms.lookup k = t.platforms.lookup k ∧
      (Tables.run later t).2.capabilities.lookup k = t.capabilities.lookup k := by
  have hlater := (h.run later).1
  obtain ⟨new, hnew⟩ := exists_entries_foldl_attempt r later
  have hsome : (r.entries.lookup k).isSome = true :=
    Assoc.isSome_lookup_iff.mpr (h.keys_eq ▸ hk)
  have hsame : (later.foldl attempt r).entries.lookup k = r.entries.lookup k := by
    rw [hnew, List.lookup_append, Option.or_of_isSome hsome]
  refine ⟨?_, ?_⟩
  · rw [hlater.lookup_platforms, h.lookup_platforms, hsame]
  · rw [hlater.lookup_capabilities, h.lookup_capabilities, hsame]

theorem Holds.accepted {t : Tables H} {r : Registry H} (h : Holds t r) (p : Platform H)
    (enabled : Option Capabilities) (hk : lower p.coin ∉ t.keys) :
    ∃ t' r' line, Tables.register p enabled t = (.ok (), t') ∧
      r.register p enabled = .ok (r', line) ∧ t'.logged = t.logged ++ [line] ∧ Holds t' r' := by
  have hc : r.contains p.coin = false := by
    rw [← Bool.not_eq_true, h.contains_iff]
    exact hk
  have hstep := (h.register p enabled).1
  rw [Tables.register_of_notMem hk] at hstep ⊢
  refine ⟨_, r.attempt (p, enabled), _, rfl, ?_, rfl, hstep⟩
  simp only [Registry.register, attempt, hc, Bool.false_eq_true, if_false]

theorem Holds.known {t : Tables H} {r : Registry H} (h : Holds t r) (coin : String)
    (hk : lower coin ∈ t.keys) : r.contains coin = true ∧
    ∃ p s, t.platforms.lookup (lower coin) = some p ∧ r.get coin = .ok p ∧
      t.capabilities.lookup (lower coin) = some s ∧ r.capabilities coin = .ok s := by
  have hc := h.contains_iff.mpr hk
  obtain ⟨e, he⟩ := Option.isSome_iff_exists.mp hc
  have hlookup : r.entries.lookup (lower coin) = some e := he
  refine ⟨hc, e.platform, e.capabilities, ?_, ?_, ?_, ?_⟩
  · rw [h.lookup_platforms, hlookup, Option.map_some]
  · rw [Registry.get, registration, he]
    rfl
  · rw [h.lookup_capabilities, hlookup, Option.map_some]
  · rw [Registry.capabilities, registration, he]
    rfl

theorem Holds.unknown {t : Tables H} {r : Registry H} (h : Holds t r) (coin : String)
    (hk : lower coin ∉ t.keys) : r.contains coin = false ∧
    r.get coin = .error (.unknownCoin coin) ∧
      r.capabilities coin = .error (.unknownCoin coin) := by
  have hc : r.contains coin = false := by
    rw [← Bool.not_eq_true, h.contains_iff]
    exact hk
  have hnone : r.find? coin = none := by
    rw [← Option.isNone_iff_eq_none, ← Option.isSome_eq_false_iff]
    exact hc
  refine ⟨hc, ?_, ?_⟩
  · rw [Registry.get, registration, hnone]
    rfl
  · rw [Registry.capabilities, registration, hnone]
    rfl

/-- What stands in the tables after a run was put there by the first call that named its coin. -/
theorem stored_afterCalls {calls : List (Platform H × Option Capabilities)} {t : Tables H}
    (h : Holds t (afterCalls calls)) {k : String} {p : Platform H}
    (hp : t.platforms.lookup k = some p) : k = lower p.coin ∧
    ∃ enabled s, Registers calls p.coin p enabled ∧ t.capabilities.lookup k = some s ∧
      s = p.capabilities enabled ∧ ∀ c, s.supported.has c = true ↔ Offers p enabled c := by
  rw [h.lookup_platforms, Option.map_eq_some_iff] at hp
  obtain ⟨e, he, rfl⟩ := hp
  have hk : k = lower e.platform.coin := (keyed_afterCalls calls).named _ (Assoc.mem_of_lookup he)
  have hfind : (afterCalls calls).find? e.platform.coin = some e := by
    rw [find?, ← hk, he]
  have hnamed : ¬ ∀ c ∈ calls, lower c.1.coin ≠ lower e.platform.coin := by
    intro hall
    rw [find?_of_unnamed hall] at hfind
    exact absurd hfind (Option.some_ne_none e).symm
  obtain ⟨p, enabled, hregisters⟩ := exists_registers hnamed
  rw [find?_of_registers hregisters, Option.some.injEq] at hfind
  subst hfind
  refine ⟨hk, enabled, p.capabilities enabled, hregisters, ?_, rfl, ?_⟩
  · rw [h.lookup_capabilities, he, Option.map_some]
  · exact has_capabilities_iff p enabled

/-- However registrations follow one another, and whichever of them are refused, the two tables
keep the same coins, nothing that was stored is replaced, and every question to the registry is
answered from what was stored. -/
theorem runs_keep_tables_in_step (calls : List (Platform H × Option Capabilities)) :
    InStep calls (Tables.run calls {}).1 (Tables.run calls {}).2 (afterCalls calls) := by
  have hempty : Holds (H := H) {} {} := ⟨rfl, rfl⟩
  obtain ⟨hholds, hsize⟩ : Holds (Tables.run calls {}).2 (afterCalls calls) ∧
      (afterCalls calls).size = 0 + (Tables.run calls {}).1.countP (·.isOk) := hempty.run calls
  have hkeyed := keyed_afterCalls calls
  exact {
    sameKeys := by rw [hholds.keys_eq, hholds.keys_capabilities]
    stored := fun k p => stored_afterCalls hholds
    refused := fun p enabled hk =>
      ⟨Tables.register_of_mem hk, by
        simp only [Registry.register, hholds.contains_iff.mpr hk, if_true]⟩
    accepted := hholds.accepted
    kept := fun later k => hholds.kept later
    known := hholds.known
    unknown := hholds.unknown
    ascending := hkeyed.coins_pairwise_lt
    coins := fun k => by rw [mem_coins_iff, hholds.keys_eq]
    size := by rw [hsize, Nat.zero_add] }

-- In lower case a Σ is a ς at the end of a word, so both spell one coin.
example : (Tables.run [(⟨"ΑΣ", 1, .every, ()⟩, none), (⟨"ας", 2, .every, ()⟩, none)] {}).1 =
    [.ok (), .error ⟨"ας"⟩] := by
  decide +kernel

end ChainHistory.Registry
