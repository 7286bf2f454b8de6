import ChainHistory.Registry

namespace ChainHistory.Registry

open Text

variable {H : Type}

/-- The registry after a call, which changes nothing if it is refused. -/
def attempt (r : Registry H) (c : Platform H × Option Capabilities) : Registry H :=
  match r.register c.1 c.2 with
  | .ok (r, _) => r
  | .error _ => r

/-- The registry after calls in order. -/
def afterCalls (calls : List (Platform H × Option Capabilities)) : Registry H :=
  calls.foldl attempt {}

/-- What a call stores when it is not refused. -/
def registrationOf (c : Platform H × Option Capabilities) : Registration H :=
  ⟨c.1, c.1.capabilities c.2⟩

def names (coin : String) (c : Platform H × Option Capabilities) : Bool :=
  lower c.1.coin = lower coin

theorem attempt_of_contains {r : Registry H} {c : Platform H × Option Capabilities}
    (h : r.contains c.1.coin = true) : r.attempt c = r := by
  simp only [attempt, register, h, if_true]

theorem entries_attempt {r : Registry H} {c : Platform H × Option Capabilities}
    (h : r.contains c.1.coin = false) :
    (r.attempt c).entries = r.entries ++ [(lower c.1.coin, registrationOf c)] := by
  simp only [attempt, register, h, Bool.false_eq_true, if_false]
  rfl

/-- A call adds the coin that it names, unless it is there, and leaves all others alone. -/
theorem find?_attempt (r : Registry H) (c : Platform H × Option Capabilities) (coin : String) :
    (r.attempt c).find? coin =
      (r.find? coin).or (if names coin c then some (registrationOf c) else none) := by
  by_cases hnew : r.contains c.1.coin = true
  · -- A call that is refused names a coin that is known, so nothing is left to decide.
    rw [attempt_of_contains hnew]
    by_cases hname : names coin c = true
    · have hcoin : lower c.1.coin = lower coin := by simpa [names] using hname
      have hsome : (r.find? coin).isSome = true := by
        rw [contains, find?, hcoin] at hnew
        exact hnew
      rw [Option.or_of_isSome hsome]
    · rw [if_neg hname, Option.or_none]
  · rw [find?, entries_attempt (by simpa using hnew), List.lookup_append, ← find?]
    congr 1
    rw [List.lookup_cons, names]
    by_cases hname : lower c.1.coin = lower coin
    · simp [hname]
    · have hne : (lower coin == lower c.1.coin) = false := by simpa using Ne.symm hname
      simp [hne, hname]

theorem find?_foldl_attempt (calls : List (Platform H × Option Capabilities)) (r : Registry H)
    (coin : String) : (calls.foldl attempt r).find? coin =
      (r.find? coin).or ((calls.find? (names coin)).map registrationOf) := by
  induction calls generalizing r with
  | nil => rw [List.foldl_nil, List.find?_nil, Option.map_none, Option.or_none]
  | cons c calls ih =>
    rw [List.foldl_cons, ih, find?_attempt, Option.or_assoc, List.find?_cons]
    cases names coin c <;> rfl

/-- After a run a coin is known by the first call that names it. -/
theorem find?_afterCalls (calls : List (Platform H × Option Capabilities)) (coin : String) :
    (afterCalls calls).find? coin = (calls.find? (names coin)).map registrationOf := by
  rw [afterCalls, find?_foldl_attempt]
  rfl

theorem register_of_fresh {r : Registry H} {c : Platform H × Option Capabilities}
    (h : r.contains c.1.coin = false) : ∃ line, r.register c.1 c.2 = .ok (r.attempt c, line) := by
  simp only [attempt, register, h, Bool.false_eq_true, if_false, Except.ok.injEq, Prod.mk.injEq,
    true_and, exists_eq']

theorem contains_attempt_of_ne {r : Registry H} {c : Platform H × Option Capabilities}
    {coin : String} (hr : r.contains coin = false) (hne : lower c.1.coin ≠ lower coin) :
    (r.attempt c).contains coin = false := by
  have hname : names coin c = false := by simpa [names] using hne
  rw [contains, Option.isSome_eq_false_iff] at hr ⊢
  rw [find?_attempt, hname]
  simpa using hr

/-- A call that none of the next ones repeats leaves them all new. -/
theorem contains_attempt_of_fresh {r : Registry H} {c : Platform H × Option Capabilities}
    {calls : List (Platform H × Option Capabilities)}
    (hnew : lower c.1.coin ∉ calls.map fun d => lower d.1.coin)
    (hfresh : ∀ d ∈ calls, r.contains d.1.coin = false) :
    ∀ d ∈ calls, (r.attempt c).contains d.1.coin = false := by
  intro d hd
  apply contains_attempt_of_ne (hfresh d hd)
  intro he
  exact hnew (he ▸ List.mem_map_of_mem hd)

/-- Calls that name different coins, none of them known, are all accepted. -/
theorem registerAll_of_fresh (calls : List (Platform H × Option Capabilities)) (r : Registry H)
    (hnodup : (calls.map fun c => lower c.1.coin).Nodup)
    (hfresh : ∀ c ∈ calls, r.contains c.1.coin = false) :
    ∃ lines, r.registerAll calls = .ok (calls.foldl attempt r, lines) := by
  -- The invariant: none of the coins that are still to come is known.
  induction calls generalizing r with
  | nil => exact ⟨[], rfl⟩
  | cons c calls ih =>
    rw [List.map_cons, List.nodup_cons] at hnodup
    obtain ⟨hc, hcalls⟩ := List.forall_mem_cons.mp hfresh
    obtain ⟨line, hline⟩ := register_of_fresh hc
    obtain ⟨lines, hlines⟩ := ih (r.attempt c) hnodup.2 (contains_attempt_of_fresh hnodup.1 hcalls)
    refine ⟨line :: lines, ?_⟩
    obtain ⟨p, enabled⟩ := c
    simp only [registerAll, bind, Except.bind, pure, Except.pure, hline, hlines, List.foldl_cons]

/-- What is accepted call after call stands in the order of the calls. -/
theorem entries_foldl_attempt_of_fresh (calls : List (Platform H × Option Capabilities))
    (r : Registry H) (hnodup : (calls.map fun c => lower c.1.coin).Nodup)
    (hfresh : ∀ c ∈ calls, r.contains c.1.coin = false) :
    (calls.foldl attempt r).entries =
      r.entries ++ calls.map fun c => (lower c.1.coin, registrationOf c) := by
  induction calls generalizing r with
  | nil => exact (List.append_nil r.entries).symm
  | cons c calls ih =>
    rw [List.map_cons, List.nodup_cons] at hnodup
    obtain ⟨hc, hcalls⟩ := List.forall_mem_cons.mp hfresh
    rw [List.foldl_cons, ih _ hnodup.2 (contains_attempt_of_fresh hnodup.1 hcalls),
      entries_attempt hc, List.append_assoc, List.singleton_append, List.map_cons]

end ChainHistory.Registry
