import ChainHistory.Proofs.PageRank
import ChainHistory.Proofs.PageStages
import Mathlib.Data.List.FinRange

namespace ChainHistory.Page

/-- No earlier record has the id of the one at `i`. -/
def IsFirst (rs : List Record) (i : Fin rs.length) : Prop :=
  ∀ j < i, rs[j].id ≠ rs[i].id

/-- A record that may be shown: the first of its id, with a valid memo and with the token, if one
is asked for. -/
structure Eligible (valid : Record → Bool) (token : Option String) (rs : List Record)
    (i : Fin rs.length) : Prop where
  first : IsFirst rs i
  memo : valid rs[i] = true
  token : ∀ t ∈ token, t ≠ "" → rs[i].tokenId = some t

instance (rs : List Record) : DecidablePred (IsFirst rs) :=
  fun i => inferInstanceAs (Decidable (∀ j < i, rs[j].id ≠ rs[i].id))

instance (valid : Record → Bool) (token : Option String) (rs : List Record) :
    DecidablePred (Eligible valid token rs) := fun i =>
  decidable_of_iff
    (IsFirst rs i ∧ valid rs[i] = true ∧ ∀ t ∈ token, t ≠ "" → rs[i].tokenId = some t)
    ⟨fun h => ⟨h.1, h.2.1, h.2.2⟩, fun h => ⟨h.first, h.memo, h.token⟩⟩

/-- Newer, or of the same time and earlier in the list. -/
abbrev Leads (rs : List Record) : Fin rs.length → Fin rs.length → Prop :=
  Outranks (fun i => rs[i].timestamp) (· < ·)

/-- The positions of a page of at most `n` records: as many as fit, all of them eligible, in order,
and with none left out that leads one of them. -/
structure Selects (rs : List Record) (eligible : Fin rs.length → Prop) [DecidablePred eligible]
    (n : ℕ) (ps : List (Fin rs.length)) : Prop where
  size : ps.length = min n ((List.finRange rs.length).countP eligible)
  allowed : ∀ i ∈ ps, eligible i
  ordered : ps.Pairwise (Leads rs)
  complete : ∀ i ∈ ps, ∀ j, eligible j → j ∉ ps → Leads rs i j

theorem selects_head (rs : List Record) (eligible : Fin rs.length → Prop)
    [DecidablePred eligible] (n : ℕ) :
    Selects rs eligible n (head (fun i : Fin rs.length => rs[i].timestamp) n
      ((List.finRange rs.length).filter eligible)) := by
  have hsorted : ((List.finRange rs.length).filter eligible).Pairwise (· < ·) :=
    (List.pairwise_lt_finRange rs.length).filter _
  refine ⟨?_, ?_, ?_, ?_⟩
  · rw [length_head, List.countP_eq_length_filter]
  · intro i hi
    have hmem := head_subset _ n _ hi
    simpa using (List.mem_filter.mp hmem).2
  · exact pairwise_head _ n hsorted
  · intro i hi j hj hnot
    have hmem : j ∈ (List.finRange rs.length).filter eligible :=
      List.mem_filter.mpr ⟨List.mem_finRange j, decide_eq_true hj⟩
    exact outranks_of_mem_head _ hsorted hi hmem hnot

theorem isFirst_cons_succ (r : Record) (rs : List Record) (i : Fin rs.length) :
    IsFirst (r :: rs) i.succ ↔ r.id ≠ rs[i].id ∧ IsFirst rs i := by
  constructor
  · intro h
    exact ⟨h 0 (Fin.succ_pos i), fun j hj => h j.succ (Fin.succ_lt_succ_iff.mpr hj)⟩
  · rintro ⟨hr, hrs⟩ j hj
    cases j using Fin.cases with
    | zero => exact hr
    | succ j => exact hrs j (Fin.succ_lt_succ_iff.mp hj)

/-- The first records of the ids are the records at the first positions. -/
theorem firstOfEachId_eq_map (rs : List Record) : firstOfEachId rs =
    ((List.finRange rs.length).filter (IsFirst rs)).map (rs[·]) := by
  induction rs with
  | nil => rfl
  | cons r rs ih =>
    have hzero : IsFirst (r :: rs) (0 : Fin (rs.length + 1)) :=
      fun j hj => absurd hj (Fin.not_lt_zero j)
    have hrange : List.finRange (r :: rs).length =
        (0 : Fin (rs.length + 1)) :: (List.finRange rs.length).map Fin.succ :=
      List.finRange_succ
    -- The positions of the rest are shifted by one, and those with the id of `r` drop out.
    rw [hrange, List.filter_cons, if_pos (decide_eq_true hzero), List.map_cons, List.filter_map,
      List.map_map, firstOfEachId, ih, List.filter_map]
    refine congrArg (r :: ·) ?_
    rw [List.filter_filter]
    have hkeep (i : Fin rs.length) : (decide (rs[i].id ≠ r.id) && decide (IsFirst rs i)) =
        decide (IsFirst (r :: rs) i.succ) := by
      rw [← Bool.decide_and]
      exact decide_eq_decide.mpr (by rw [isFirst_cons_succ, ne_comm])
    exact congrArg (List.map _) (List.filter_congr fun i _ => hkeep i)

theorem eligible_iff (valid : Record → Bool) (token : Option String) (rs : List Record)
    (i : Fin rs.length) :
    Eligible valid token rs i ↔ IsFirst rs i ∧ passes valid token rs[i] = true := by
  have hpasses : passes valid token rs[i] = true ↔
      valid rs[i] = true ∧ ∀ t ∈ token, t ≠ "" → rs[i].tokenId = some t := by
    rw [passes, Bool.and_eq_true, Option.all_eq_true]
    simp only [Bool.or_eq_true, decide_eq_true_eq, or_iff_not_imp_left, Option.mem_def, ne_eq]
  rw [hpasses]
  exact ⟨fun h => ⟨h.first, h.memo, h.token⟩, fun h => ⟨h.1, h.2.1, h.2.2⟩⟩

/-- The positions of the records that may be shown, in the order of a page. -/
def rankedAt (valid : Record → Bool) (token : Option String) (rs : List Record) :
    List (Fin rs.length) :=
  latestFirst (fun i : Fin rs.length => rs[i].timestamp)
    ((List.finRange rs.length).filter (Eligible valid token rs))

theorem nodup_rankedAt (valid : Record → Bool) (token : Option String) (rs : List Record) :
    (rankedAt valid token rs).Nodup :=
  (latestFirst_perm _ _).nodup_iff.mpr ((List.nodup_finRange rs.length).filter _)

theorem ranking_eq_map (valid : Record → Bool) (token : Option String) (rs : List Record) :
    ranking (passes valid token) rs = (rankedAt valid token rs).map (rs[·]) := by
  rw [ranking, rankedAt, firstOfEachId_eq_map, List.filter_map, List.filter_filter,
    newestFirst_eq_latestFirst, ← latestFirst_map]
  refine congrArg (fun l => (latestFirst _ l).map _) (List.filter_congr fun i _ => ?_)
  rw [decide_eq_decide.mpr (eligible_iff valid token rs i), Bool.decide_and, Bool.and_comm,
    Bool.decide_eq_true]
  rfl

/-- The positions that a page shows. -/
def shown (n : ℕ) (valid : Record → Bool) (token : Option String) (rs : List Record) :
    List (Fin rs.length) :=
  head (fun i : Fin rs.length => rs[i].timestamp) n
    ((List.finRange rs.length).filter (Eligible valid token rs))

theorem docs_ofAddress_eq_take (limit : Int) (valid : Record → Bool) (token : Option String)
    (address : String) (rs : List Record) :
    (ofAddress limit valid token address rs).docs =
      ((rankedAt valid token rs).take (kept limit (rankedAt valid token rs).length)).map
        fun i => rs[i].seenFrom address := by
  rw [ofAddress_eq, annotate, ranking_eq_map, truncate_eq_take, List.length_map, ← List.map_take,
    List.map_map]
  rfl

theorem docs_ofAddress_eq_map (n : ℕ) (valid : Record → Bool) (token : Option String)
    (address : String) (rs : List Record) : (ofAddress n valid token address rs).docs =
      (shown n valid token rs).map fun i => rs[i].seenFrom address := by
  rw [docs_ofAddress_eq_take, kept_natCast]
  rfl

theorem docs_ofXpub_eq_map (n : ℕ) (valid : Record → Bool) (rs : List Record) :
    (ofXpub n valid rs).docs = (shown n valid none rs).map (rs[·]) := by
  have h := ranking_eq_map valid none rs
  rw [passes_none] at h
  rw [docs_ofXpub, h, ← List.map_take]
  rfl

theorem IsFirst.eq_of_id_eq {rs : List Record} {i j : Fin rs.length} (hi : IsFirst rs i)
    (hj : IsFirst rs j) (h : rs[i].id = rs[j].id) : i = j := by
  rcases lt_trichotomy i j with hlt | heq | hgt
  · exact absurd h (hj i hlt)
  · exact heq
  · exact absurd h.symm (hi j hgt)

/-- A page of at most `n` of the eligible records, each shown by `look`: their ids differ, the
newest come first, and an id whose first record is not eligible is not on it. -/
structure IsPage (rs : List Record) (eligible : Fin rs.length → Prop) [DecidablePred eligible]
    (n : ℕ) (look : Record → Record) (docs : List Record) : Prop where
  selected : ∃ ps, Selects rs eligible n ps ∧ docs = ps.map fun i => look rs[i]
  ids : (docs.map (·.id)).Nodup
  times : docs.Pairwise fun a b => b.timestamp ≤ a.timestamp
  hidden : ∀ i, IsFirst rs i → ¬ eligible i → rs[i].id ∉ docs.map (·.id)

theorem isPage_of_selects {rs : List Record} {eligible : Fin rs.length → Prop}
    [DecidablePred eligible] {n : ℕ} {look : Record → Record} {ps : List (Fin rs.length)}
    (hps : Selects rs eligible n ps) (hfirst : ∀ i, eligible i → IsFirst rs i)
    (hid : ∀ r, (look r).id = r.id) (htime : ∀ r, (look r).timestamp = r.timestamp) :
    IsPage rs eligible n look (ps.map fun i => look rs[i]) := by
  have hids : (ps.map fun i => look rs[i]).map (·.id) = ps.map fun i => rs[i].id := by
    rw [List.map_map]
    exact List.map_congr_left fun i _ => hid rs[i]
  have hnodup : ps.Nodup := by
    apply hps.ordered.imp
    rintro i _ hlead rfl
    exact outranks_asymm _ (fun a b h => not_lt_of_gt h) hlead hlead
  refine ⟨⟨ps, hps, rfl⟩, ?_, ?_, ?_⟩
  · rw [hids]
    apply hnodup.map_on
    intro i hi j hj h
    exact (hfirst i (hps.allowed i hi)).eq_of_id_eq (hfirst j (hps.allowed j hj)) h
  · rw [List.pairwise_map]
    apply hps.ordered.imp
    intro i j hlead
    rw [htime, htime]
    exact time_le_of_outranks (fun i : Fin rs.length => rs[i].timestamp) hlead
  · intro i hi hnot hmem
    rw [hids] at hmem
    obtain ⟨j, hj, h⟩ := List.mem_map.mp hmem
    have hji : j = i := (hfirst j (hps.allowed j hj)).eq_of_id_eq hi h
    exact hnot (hji ▸ hps.allowed j hj)

/-- A page shows the newest eligible records, as many as fit. The page of an address sets only the
direction of a record; the page of an extended key asks for no token and sets nothing. -/
theorem pages_show_newest_eligible (n : ℕ) (valid : Record → Bool) (token : Option String)
    (address : String) (rs : List Record) :
    IsPage rs (Eligible valid token rs) n
        (fun r => { r with direction := some (r.directionFor address) })
        (ofAddress n valid token address rs).docs ∧
      IsPage rs (Eligible valid none rs) n id (ofXpub n valid rs).docs := by
  constructor
  · rw [docs_ofAddress_eq_map]
    exact isPage_of_selects (selects_head rs _ n) (fun _ h => h.first)
      (fun _ => rfl) (fun _ => rfl)
  · rw [docs_ofXpub_eq_map]
    exact isPage_of_selects (selects_head rs _ n) (fun _ h => h.first)
      (fun _ => rfl) (fun _ => rfl)

/-- Records that no page tells apart when it chooses which to show: of one id and of one time, and
alike to the memo rule and to the token that is asked for. -/
structure Interchangeable (valid : Record → Bool) (token : Option String) (r s : Record) :
    Prop where
  id : r.id = s.id
  time : r.timestamp = s.timestamp
  memo : valid r = valid s
  token : ∀ t ∈ token, t ≠ "" → (r.tokenId = some t ↔ s.tokenId = some t)

instance (valid : Record → Bool) (token : Option String) (r s : Record) :
    Decidable (Interchangeable valid token r s) :=
  decidable_of_iff (r.id = s.id ∧ r.timestamp = s.timestamp ∧ valid r = valid s ∧
      ∀ t ∈ token, t ≠ "" → (r.tokenId = some t ↔ s.tokenId = some t))
    ⟨fun h => ⟨h.1, h.2.1, h.2.2.1, h.2.2.2⟩, fun h => ⟨h.id, h.time, h.memo, h.token⟩⟩

theorem Interchangeable.passes_eq {valid : Record → Bool} {token : Option String} {r s : Record}
    (h : Interchangeable valid token r s) : passes valid token r = passes valid token s := by
  rw [passes, passes, h.memo]
  cases token with
  | none => rfl
  | some t =>
    by_cases ht : t = ""
    · simp only [Option.all_some, ht, decide_true, Bool.true_or]
    · simp only [Option.all_some, h.token t rfl ht]

theorem map_cast_finRange {m n : ℕ} (h : m = n) :
    (List.finRange m).map (Fin.cast h) = List.finRange n := by
  subst h
  exact List.map_id _

/-- Lists of one length with interchangeable records at the same positions. -/
structure Counterparts (valid : Record → Bool) (token : Option String) (rs ss : List Record) :
    Prop where
  length : rs.length = ss.length
  records : ∀ i : Fin rs.length, Interchangeable valid token rs[i] ss[i.cast length]

namespace Counterparts

variable {valid : Record → Bool} {token : Option String} {rs ss : List Record}
  (h : Counterparts valid token rs ss)

include h

theorem isFirst_iff (i : Fin rs.length) : IsFirst ss (i.cast h.length) ↔ IsFirst rs i := by
  constructor
  · intro hfirst j hj
    rw [(h.records j).id, (h.records i).id]
    exact hfirst (j.cast h.length) hj
  · -- A position of the second list is one of the first, cast back.
    intro hfirst j hj
    have hji : j.cast h.length.symm < i := hj
    have hne := hfirst (j.cast h.length.symm) hji
    rwa [(h.records _).id, (h.records i).id] at hne

theorem eligible_iff (i : Fin rs.length) :
    Eligible valid token ss (i.cast h.length) ↔ Eligible valid token rs i := by
  rw [Page.eligible_iff, Page.eligible_iff, h.isFirst_iff, ← (h.records i).passes_eq]

/-- The clock and the filters agree at each position, so the same positions are ranked. -/
theorem rankedAt_eq :
    rankedAt valid token ss = (rankedAt valid token rs).map (Fin.cast h.length) := by
  have htime : (fun i : Fin rs.length => rs[i].timestamp) =
      fun i : Fin rs.length => ss[i.cast h.length].timestamp :=
    funext fun i => (h.records i).time
  have helig : (List.finRange ss.length).filter (Eligible valid token ss) =
      ((List.finRange rs.length).filter (Eligible valid token rs)).map (Fin.cast h.length) := by
    rw [← map_cast_finRange h.length, List.filter_map]
    refine congrArg (List.map _) (List.filter_congr fun i _ => ?_)
    exact decide_eq_decide.mpr (h.eligible_iff i)
  rw [rankedAt, rankedAt, helig, htime]
  exact (latestFirst_map (fun i : Fin ss.length => ss[i].timestamp) (Fin.cast h.length) _).symm

end Counterparts

/-- Counterparts are shown at the same positions, in the same order, whatever address each list is
seen from and however it is cut: nothing else about a record has a say in it. -/
theorem same_positions_shown {valid : Record → Bool} {token : Option String} {rs ss : List Record}
    (h : Counterparts valid token rs ss) (limit : Int) (x y : String) :
    ∃ ps : List (Fin rs.length), ps.Nodup ∧
      (ofAddress limit valid token x rs).docs = ps.map (fun i => rs[i].seenFrom x) ∧
      (ofAddress limit valid token y ss).docs =
        ps.map fun i => ss[i.cast h.length].seenFrom y := by
  refine ⟨(rankedAt valid token rs).take (kept limit (rankedAt valid token rs).length), ?_, ?_, ?_⟩
  · exact (nodup_rankedAt valid token rs).sublist (List.take_sublist _ _)
  · exact docs_ofAddress_eq_take limit valid token x rs
  · rw [docs_ofAddress_eq_take, h.rankedAt_eq, List.length_map, ← List.map_take, List.map_map]
    rfl

/-- A tie and a repetition, among transfers of two tokens. -/
def plain : List Record := [
  { id := "a", coin := 0, timestamp := 7, senders := ["x"], memo := some "hi",
    tokenId := some "t" },
  { id := "b", coin := 0, timestamp := 9, tokenId := some "u" },
  { id := "c", coin := 0, timestamp := 7, receivers := ["x"], tokenId := some "t" },
  { id := "a", coin := 0, timestamp := 8, tokenId := some "t" }]

/-- The same list in all that a page of the token `t` looks at, and in little else. -/
def disguised : List Record := [
  { id := "a", coin := 60, timestamp := 7, receivers := ["y"], memo := some "hello",
    tokenId := some "t", block := some 3, status := .pending },
  { id := "b", coin := 60, timestamp := 9, fee := some "1" },
  { id := "c", coin := 60, timestamp := 7, tokenId := some "t", kind := "swap",
    direction := some .yourself },
  { id := "a", coin := 60, timestamp := 8, senders := ["y"], tokenId := some "t" }]

theorem same_positions_of_disguised :
    Counterparts (Record.memoValid 256) (some "t") plain disguised ∧
    ∃ ps : List (Fin plain.length), ps.Nodup ∧
      (ofAddress (-1) (Record.memoValid 256) (some "t") "x" plain).docs =
        ps.map (fun i => plain[i].seenFrom "x") ∧
      (ofAddress (-1) (Record.memoValid 256) (some "t") "y" disguised).docs =
        ps.map fun i => disguised[i.cast rfl].seenFrom "y" := by
  have h : Counterparts (Record.memoValid 256) (some "t") plain disguised := ⟨rfl, by decide⟩
  exact ⟨h, same_positions_shown h (-1) "x" "y"⟩

end ChainHistory.Page
