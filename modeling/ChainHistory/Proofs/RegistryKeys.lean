import ChainHistory.Proofs.AssocLookup
import ChainHistory.Proofs.RegistryRun

namespace ChainHistory.Registry

open Text

variable {H : Type}

theorem contains_iff {r : Registry H} {coin : String} :
    r.contains coin = true ↔ lower coin ∈ r.entries.map (·.1) :=
  Assoc.isSome_lookup_iff

theorem contains_eq_false_iff {r : Registry H} {coin : String} :
    r.contains coin = false ↔ lower coin ∉ r.entries.map (·.1) := by
  rw [← contains_iff, Bool.not_eq_true]

/-- Each entry stands under the lower case of its own coin, and no two under the same. -/
structure Keyed (r : Registry H) : Prop where
  nodup : (r.entries.map (·.1)).Nodup
  named : ∀ e ∈ r.entries, e.1 = lower e.2.platform.coin

theorem Keyed.attempt {r : Registry H} (h : r.Keyed) (c : Platform H × Option Capabilities) :
    (r.attempt c).Keyed := by
  by_cases hc : r.contains c.1.coin = true
  · rw [attempt_of_contains hc]
    exact h
  · rw [Bool.not_eq_true] at hc
    have hentries := entries_attempt hc
    have hnew := contains_eq_false_iff.mp hc
    refine ⟨?_, ?_⟩
    · rw [hentries, List.map_append, List.map_singleton]
      exact List.Nodup.append h.nodup (List.nodup_singleton _)
        (List.disjoint_singleton.mpr hnew)
    · intro e he
      rw [hentries, List.mem_append, List.mem_singleton] at he
      rcases he with he | rfl
      · exact h.named e he
      · rfl

theorem keyed_foldl_attempt {r : Registry H} (h : r.Keyed)
    (calls : List (Platform H × Option Capabilities)) : (calls.foldl attempt r).Keyed := by
  induction calls generalizing r with
  | nil => exact h
  | cons c calls ih => exact ih (h.attempt c)

theorem keyed_afterCalls (calls : List (Platform H × Option Capabilities)) :
    (afterCalls calls).Keyed :=
  keyed_foldl_attempt (r := {}) ⟨List.nodup_nil, fun _ he => absurd he List.not_mem_nil⟩ calls

theorem exists_entries_foldl_attempt (r : Registry H)
    (calls : List (Platform H × Option Capabilities)) :
    ∃ later, (calls.foldl attempt r).entries = r.entries ++ later := by
  induction calls generalizing r with
  | nil => exact ⟨[], (List.append_nil r.entries).symm⟩
  | cons c calls ih =>
    obtain ⟨later, hlater⟩ := ih (r.attempt c)
    rw [List.foldl_cons, hlater]
    by_cases hc : r.contains c.1.coin = true
    · exact ⟨later, by rw [attempt_of_contains hc]⟩
    · rw [entries_attempt (by simpa using hc), List.append_assoc]
      exact ⟨_, rfl⟩

theorem mem_coins_iff {r : Registry H} {k : String} : k ∈ r.coins ↔ k ∈ r.entries.map (·.1) := by
  rw [coins]
  exact (List.mergeSort_perm _ _).mem_iff

theorem Keyed.coins_pairwise_lt {r : Registry H} (h : r.Keyed) : r.coins.Pairwise (· < ·) := by
  have htrans (a b c : String) (hab : decide (a ≤ b) = true) (hbc : decide (b ≤ c) = true) :
      decide (a ≤ c) = true := by
    rw [decide_eq_true_eq] at hab hbc ⊢
    exact String.le_trans hab hbc
  have htotal (a b : String) : (decide (a ≤ b) || decide (b ≤ a)) = true := by
    rw [Bool.or_eq_true, decide_eq_true_eq, decide_eq_true_eq]
    exact String.le_total a b
  have hle : r.coins.Pairwise (· ≤ ·) :=
    (List.pairwise_mergeSort htrans htotal _).imp of_decide_eq_true
  have hne : r.coins.Nodup := (List.mergeSort_perm _ _).nodup_iff.mpr h.nodup
  exact (hle.and hne).imp fun hab => lt_of_le_of_ne hab.1 hab.2

end ChainHistory.Registry
