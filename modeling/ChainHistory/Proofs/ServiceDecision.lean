import ChainHistory.Proofs.BlankText
import ChainHistory.Proofs.Outcome
import ChainHistory.Proofs.RegistryRun
import ChainHistory.Service

namespace ChainHistory.Service

open Text Registry

variable {H : Type}

/-- The calls that platforms have received, each with the platform it went to. -/
abbrev Received (H : Type) := List (Platform H × Call)

/-- Platforms that answer as they like, also by what was asked before; every call is noted. -/
def noting (reply : Received H → Platform H → Call → Except Failure (List Record))
    (p : Platform H) (c : Call) : StateM (Received H) (Except Failure (List Record)) :=
  fun log => (reply log p c, log ++ [(p, c)])

/-- A token that says something, without its outer blanks. -/
def spoken (token : Option String) : Option String :=
  (token.map strip).filter (· ≠ "")

def needed : IdentifierKind → Option String → Capability
  | .address, some _ => .token
  | .address, none => .tx
  | .account, _ => .account
  | .xpub, _ => .xpub

def callFor (pageSize : Int) (x : String) : IdentifierKind → Option String → Call
  | .address, some t => .token x t
  | .address, none => .tx x
  | .account, t => .account x t pageSize
  | .xpub, _ => .xpub x

def pageFor (pageSize memoLength : Int) (x : String) :
    IdentifierKind → Option String → List Record → Page
  | .address, t => .ofAddress pageSize (Record.memoValid memoLength) t x
  | .account, _ => .ofAccount (Record.memoValid memoLength) x
  | .xpub, _ => .ofXpub pageSize (Record.memoValid memoLength)

/-- The first of the calls that names the coin, in any spelling. -/
structure Registers (calls : List (Platform H × Option Capabilities)) (coin : String)
    (p : Platform H) (enabled : Option Capabilities) : Prop where
  named : lower p.coin = lower coin
  first : ∃ before after, calls = before ++ (p, enabled) :: after ∧
    ∀ c ∈ before, lower c.1.coin ≠ lower coin

/-- Implemented, and enabled where there is a choice. -/
def Offers (p : Platform H) (enabled : Option Capabilities) (c : Capability) : Prop :=
  p.implemented.has c = true ∧ ∀ s ∈ enabled, s.has c = true

/-- What becomes of an inquiry: a refusal, or one call and a page of the records that come back. -/
inductive Verdict (H : Type)
  | refused (e : Failure)
  | asked (p : Platform H) (c : Call) (page : List Record → Page)

def Verdict.run (reply : Received H → Platform H → Call → Except Failure (List Record)) :
    Verdict H → StateM (Received H) (Except Failure Page)
  | refused e => fun log => (.error e, log)
  | asked p c page => fun log => ((reply log p c).map page, log ++ [(p, c)])

/-- The order of decisions, over the calls by which chains were registered. -/
inductive Decided (calls : List (Platform H × Option Capabilities)) (pageSize memoLength : Int)
    (i : Inquiry) : Verdict H → Prop
  | blank (hblank : ∀ x ∈ i.identifier, strip x = "") :
      Decided calls pageSize memoLength i
        (.refused (.reported (if i.kind = .xpub then .invalidKey else .invalidAddress) none))
  | unknown {x : String} (hx : i.identifier = some x) (hne : strip x ≠ "")
      (hcoin : ∀ c ∈ calls, lower c.1.coin ≠ lower i.coin) :
      Decided calls pageSize memoLength i (.refused (.unknownCoin i.coin))
  | incapable {x : String} {p : Platform H} {enabled : Option Capabilities}
      (hx : i.identifier = some x) (hne : strip x ≠ "") (hcoin : Registers calls i.coin p enabled)
      (hoffers : ¬ Offers p enabled (needed i.kind (spoken i.token))) :
      Decided calls pageSize memoLength i
        (.refused (.noCapability p.coin (needed i.kind (spoken i.token)).name))
  | asked {x : String} {p : Platform H} {enabled : Option Capabilities}
      (hx : i.identifier = some x) (hne : strip x ≠ "") (hcoin : Registers calls i.coin p enabled)
      (hoffers : Offers p enabled (needed i.kind (spoken i.token))) :
      Decided calls pageSize memoLength i
        (.asked p (callFor pageSize x i.kind (spoken i.token))
          (pageFor pageSize memoLength x i.kind (spoken i.token)))

theorem clean_eq_spoken (token : Option String) : clean token = spoken token := by
  cases token with
  | none => rfl
  | some s =>
    rw [clean_some, spoken, Option.map_some, Option.filter_some]
    by_cases hs : strip s = "" <;> simp [hs]

theorem has_capabilities_iff (p : Platform H) (enabled : Option Capabilities) (c : Capability) :
    (p.capabilities enabled).supported.has c = true ↔ Offers p enabled c := by
  cases enabled with
  | none => simp only [Platform.capabilities, Offers, Option.mem_def, reduceCtorEq, false_imp_iff,
      implies_true, and_true]
  | some s =>
    simp only [Platform.capabilities, Offers, Option.mem_def, Option.some.injEq, forall_eq']
    cases c <;> simp only [Capabilities.inter, Capabilities.has, Bool.and_eq_true]

theorem find?_of_registers {calls : List (Platform H × Option Capabilities)} {coin : String}
    {p : Platform H} {enabled : Option Capabilities} (h : Registers calls coin p enabled) :
    (afterCalls calls).find? coin = some ⟨p, p.capabilities enabled⟩ := by
  obtain ⟨before, after, hcalls, hbefore⟩ := h.first
  have hfirst : calls.find? (names coin) = some (p, enabled) := by
    rw [List.find?_eq_some_iff_append]
    refine ⟨decide_eq_true h.named, before, after, hcalls, ?_⟩
    intro c hc
    simp only [names, hbefore c hc, decide_false, Bool.not_false]
  rw [find?_afterCalls, hfirst]
  rfl

theorem find?_of_unnamed {calls : List (Platform H × Option Capabilities)} {coin : String}
    (h : ∀ c ∈ calls, lower c.1.coin ≠ lower coin) : (afterCalls calls).find? coin = none := by
  have hnone : calls.find? (names coin) = none := by
    rw [List.find?_eq_none]
    intro c hc
    simpa only [names, decide_eq_true_eq] using h c hc
  rw [find?_afterCalls, hnone, Option.map_none]

theorem exists_registers {calls : List (Platform H × Option Capabilities)} {coin : String}
    (h : ¬ ∀ c ∈ calls, lower c.1.coin ≠ lower coin) :
    ∃ p enabled, Registers calls coin p enabled := by
  have hsome : (calls.find? (names coin)).isSome = true := by
    rw [List.find?_isSome]
    simp only [not_forall, not_not] at h
    obtain ⟨c, hc, hname⟩ := h
    exact ⟨c, hc, decide_eq_true hname⟩
  obtain ⟨⟨p, enabled⟩, hfirst⟩ := Option.isSome_iff_exists.mp hsome
  obtain ⟨hname, before, after, hcalls, hbefore⟩ := List.find?_eq_some_iff_append.mp hfirst
  refine ⟨p, enabled, of_decide_eq_true hname, before, after, hcalls, ?_⟩
  intro c hc
  simpa only [names, Bool.not_eq_true', decide_eq_false_iff_not] using hbefore c hc

theorem query_of_blank {i : Inquiry} (hblank : ∀ x ∈ i.identifier, strip x = "") :
    i.query =
      .error (.reported (if i.kind = .xpub then .invalidKey else .invalidAddress) none) := by
  have hkind : i.kind.invalid = if i.kind = .xpub then .invalidKey else .invalidAddress := by
    cases i.kind <;> rfl
  rw [← hkind, Inquiry.query]
  cases hx : i.identifier with
  | none => rfl
  | some x =>
    have hb : isBlankText x = true := (isBlankText_iff x).mpr (hblank x hx)
    simp only [hb, if_true]

/-- The query that is made of an identifier which is not blank. -/
def queryFor (x : String) : IdentifierKind → Option String → Query
  | .address, t => .address x t
  | .account, t => .account x t
  | .xpub, _ => .xpub x

theorem query_of_ne {i : Inquiry} {x : String} (hx : i.identifier = some x) (hne : strip x ≠ "") :
    i.query = .ok (queryFor x i.kind (spoken i.token)) := by
  have hb : isBlankText x = false := by
    rw [← Bool.not_eq_true, isBlankText_iff]
    exact hne
  rw [Inquiry.query, hx, ← clean_eq_spoken]
  simp only [hb, Bool.false_eq_true, if_false]
  cases i.kind <;> rfl

theorem exists_of_query_eq_ok {i : Inquiry} {q : Query} (h : i.query = .ok q) :
    ∃ x, i.identifier = some x ∧ q = queryFor x i.kind (spoken i.token) := by
  by_cases hblank : ∀ x ∈ i.identifier, strip x = ""
  · rw [query_of_blank hblank] at h
    cases h
  · simp only [not_forall] at hblank
    obtain ⟨x, hx, hne⟩ := hblank
    rw [query_of_ne hx hne] at h
    exact ⟨x, hx, (Except.ok.inj h).symm⟩

/-- Cleaning a spoken token again changes nothing, so that the call carries the token as it is. -/
theorem call_queryFor (pageSize : Int) (x : String) (kind : IdentifierKind)
    (token : Option String) :
    (queryFor x kind (spoken token)).call pageSize = callFor pageSize x kind (spoken token) := by
  have hclean : clean (spoken token) = spoken token := by rw [← clean_eq_spoken, clean_clean]
  cases kind with
  | address =>
    rw [queryFor, Query.call, hclean]
    cases spoken token <;> rfl
  | account => rw [queryFor, Query.call, hclean, callFor]
  | xpub => rfl

theorem eq_of_plan_eq_ok {s : Service H} {i : Inquiry} {p : Plan H} (h : s.plan i = .ok p) :
    i.query = .ok p.query ∧ s.registry.get i.coin = .ok p.platform ∧
      p.call = p.query.call s.pageSize := by
  obtain ⟨q, hq, h⟩ := Outcome.exists_of_bind h
  obtain ⟨e, he, h⟩ := Outcome.exists_of_bind h
  obtain ⟨call, hcall, h⟩ := Outcome.exists_of_bind h
  obtain rfl := Except.ok.inj h
  refine ⟨hq, ?_, ?_⟩
  · rw [Registry.get, he]
    rfl
  · simp only [Query.resolve] at hcall
    split at hcall
    · exact (Except.ok.inj hcall).symm
    · cases hcall

/-- The query and the call of a plan, whatever chains there are. -/
theorem exists_of_plan_eq_ok {s : Service H} {i : Inquiry} {p : Plan H} (h : s.plan i = .ok p) :
    ∃ x, i.identifier = some x ∧ p.query = queryFor x i.kind (spoken i.token) ∧
      p.call = callFor s.pageSize x i.kind (spoken i.token) := by
  obtain ⟨hquery, -, hcall⟩ := eq_of_plan_eq_ok h
  obtain ⟨x, hx, hq⟩ := exists_of_query_eq_ok hquery
  rw [hq, call_queryFor] at hcall
  exact ⟨x, hx, hq, hcall⟩

theorem capability_callFor (pageSize : Int) (x : String) (kind : IdentifierKind)
    (token : Option String) : (callFor pageSize x kind token).capability = needed kind token := by
  cases kind <;> cases token <;> rfl

theorem page_queryFor (r : Registry H) (pageSize memoLength : Int) (x : String)
    (kind : IdentifierKind) (token : Option String) :
    (Service.mk r pageSize memoLength).page (queryFor x kind token) =
      pageFor pageSize memoLength x kind token := by
  cases kind <;> rfl

section

variable (calls : List (Platform H × Option Capabilities)) (pageSize memoLength : Int)

/-- The service on the chains of a run of registrations. -/
def onCalls : Service H := ⟨afterCalls calls, pageSize, memoLength⟩

/-- The verdict that a plan comes to. -/
def verdictOf (i : Inquiry) : Verdict H :=
  match (onCalls calls pageSize memoLength).plan i with
  | .error e => .refused e
  | .ok p => .asked p.platform p.call ((onCalls calls pageSize memoLength).page p.query)

theorem answer_eq_run (reply : Received H → Platform H → Call → Except Failure (List Record))
    (i : Inquiry) : (onCalls calls pageSize memoLength).answer (noting reply) i =
      (verdictOf calls pageSize memoLength i).run reply := by
  rw [answer, verdictOf]
  cases (onCalls calls pageSize memoLength).plan i with
  | error e => rfl
  | ok p => rfl

theorem plan_of_registers {i : Inquiry} {x : String} {p : Platform H}
    {enabled : Option Capabilities} (hx : i.identifier = some x) (hne : strip x ≠ "")
    (hcoin : Registers calls i.coin p enabled) :
    (onCalls calls pageSize memoLength).plan i =
      ((queryFor x i.kind (spoken i.token)).resolve pageSize (p.capabilities enabled)).map
        (⟨queryFor x i.kind (spoken i.token), p, ·⟩) := by
  have hreg : (afterCalls calls).registration i.coin = .ok ⟨p, p.capabilities enabled⟩ := by
    rw [registration, find?_of_registers hcoin]
  simp only [plan, onCalls, query_of_ne hx hne, hreg, bind, Except.bind]
  cases (queryFor x i.kind (spoken i.token)).resolve pageSize (p.capabilities enabled) <;> rfl

theorem resolve_queryFor (x : String) (kind : IdentifierKind) (token : Option String)
    (p : Platform H) (enabled : Option Capabilities) :
    (Offers p enabled (needed kind (spoken token)) →
      (queryFor x kind (spoken token)).resolve pageSize (p.capabilities enabled) =
        .ok (callFor pageSize x kind (spoken token))) ∧
    (¬ Offers p enabled (needed kind (spoken token)) →
      (queryFor x kind (spoken token)).resolve pageSize (p.capabilities enabled) =
        .error (.noCapability p.coin (needed kind (spoken token)).name)) := by
  rw [← has_capabilities_iff, Query.resolve, call_queryFor, capability_callFor]
  constructor
  · intro h
    simp only [h, if_true]
  · intro h
    simp only [h, Bool.false_eq_true, if_false]
    rfl

theorem eq_verdictOf {i : Inquiry} {v : Verdict H} (h : Decided calls pageSize memoLength i v) :
    v = verdictOf calls pageSize memoLength i := by
  cases h with
  | blank hblank =>
    simp only [verdictOf, plan, query_of_blank hblank, bind, Except.bind]
  | unknown hx hne hcoin =>
    have hreg : (afterCalls calls).registration i.coin = .error (.unknownCoin i.coin) := by
      rw [registration, find?_of_unnamed hcoin]
    simp only [verdictOf, plan, onCalls, query_of_ne hx hne, hreg, bind, Except.bind]
  | @incapable x p enabled hx hne hcoin hoffers =>
    rw [verdictOf, plan_of_registers calls pageSize memoLength hx hne hcoin,
      (resolve_queryFor pageSize x i.kind i.token p enabled).2 hoffers]
    rfl
  | @asked x p enabled hx hne hcoin hoffers =>
    rw [verdictOf, plan_of_registers calls pageSize memoLength hx hne hcoin,
      (resolve_queryFor pageSize x i.kind i.token p enabled).1 hoffers]
    simp only [Except.map, onCalls, page_queryFor]

theorem exists_decided (i : Inquiry) :
    ∃ v : Verdict H, Decided calls pageSize memoLength i v := by
  -- The questions in the order of the cases; where each is settled the next one is asked.
  by_cases hblank : ∀ x ∈ i.identifier, strip x = ""
  · exact ⟨_, .blank hblank⟩
  · simp only [not_forall] at hblank
    obtain ⟨x, hx, hne⟩ := hblank
    by_cases hcoin : ∀ c ∈ calls, lower c.1.coin ≠ lower i.coin
    · exact ⟨_, .unknown hx hne hcoin⟩
    · obtain ⟨p, enabled, hreg⟩ := exists_registers hcoin
      by_cases hoffers : Offers p enabled (needed i.kind (spoken i.token))
      · exact ⟨_, .asked hx hne hreg hoffers⟩
      · exact ⟨_, .incapable hx hne hreg hoffers⟩

/-- What is planned is what the order of decisions asks for. -/
theorem asked_of_plan {i : Inquiry} {p : Plan H}
    (h : (onCalls calls pageSize memoLength).plan i = .ok p) :
    ∃ x enabled, i.identifier = some x ∧ Registers calls i.coin p.platform enabled ∧
      Offers p.platform enabled (needed i.kind (spoken i.token)) ∧
      p.call = callFor pageSize x i.kind (spoken i.token) := by
  obtain ⟨v, hv⟩ := exists_decided calls pageSize memoLength i
  have heq := eq_verdictOf calls pageSize memoLength hv
  rw [verdictOf, h] at heq
  cases hv with
  | blank _ => simp only [reduceCtorEq] at heq
  | unknown _ _ _ => simp only [reduceCtorEq] at heq
  | incapable _ _ _ _ => simp only [reduceCtorEq] at heq
  | @asked x platform enabled hx _ hcoin hoffers =>
    simp only [Verdict.asked.injEq] at heq
    obtain ⟨rfl, hcall, -⟩ := heq
    exact ⟨x, enabled, hx, hcoin, hoffers, hcall.symm⟩

/-- Every inquiry has exactly one verdict by the order of decisions, and the service gives it: a
refusal reaches no platform, and otherwise one platform gets one call. -/
theorem answer_follows_decision (i : Inquiry) :
    ∃ v : Verdict H, Decided calls pageSize memoLength i v ∧
      (∀ w, Decided calls pageSize memoLength i w → w = v) ∧
      ∀ reply log, (Service.mk (afterCalls calls) pageSize memoLength).answer (noting reply) i log =
        v.run reply log := by
  obtain ⟨v, hv⟩ := exists_decided calls pageSize memoLength i
  refine ⟨v, hv, ?_, ?_⟩
  · intro w hw
    rw [eq_verdictOf calls pageSize memoLength hw, eq_verdictOf calls pageSize memoLength hv]
  · intro reply log
    rw [eq_verdictOf calls pageSize memoLength hv, ← answer_eq_run]
    rfl

end

end ChainHistory.Service
