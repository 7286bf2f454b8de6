import ChainHistory.Assoc
import Mathlib.Data.List.Nodup
import Mathlib.Data.String.Basic

namespace ChainHistory.Assoc

variable {α β : Type}

theorem put_of_notMem {key : String} {value : α} {es : List (String × α)}
    (h : key ∉ es.map (·.1)) : put key value es = es ++ [(key, value)] := by
  induction es with
  | nil => rfl
  | cons e es ih =>
    rw [List.map_cons, List.mem_cons, not_or] at h
    rw [put, if_neg (Ne.symm h.1), ih h.2, List.cons_append]

theorem lookup_map_snd (f : α → β) (es : List (String × α)) (key : String) :
    (es.map fun e => (e.1, f e.2)).lookup key = (es.lookup key).map f := by
  induction es with
  | nil => rfl
  | cons e es ih =>
    rw [List.map_cons, List.lookup_cons, List.lookup_cons, ih]
    cases key == e.1 <;> rfl

theorem isSome_lookup_iff {key : String} {es : List (String × α)} :
    (es.lookup key).isSome = true ↔ key ∈ es.map (·.1) := by
  rw [List.lookup_isSome_iff, List.mem_map]
  constructor
  · rintro ⟨e, he, hkey⟩
    exact ⟨e, he, (beq_iff_eq.mp hkey).symm⟩
  · rintro ⟨e, he, rfl⟩
    exact ⟨e, he, beq_self_eq_true e.1⟩

theorem mem_of_lookup {key : String} {value : α} {es : List (String × α)}
    (h : es.lookup key = some value) : (key, value) ∈ es := by
  obtain ⟨front, back, rfl, -⟩ := List.lookup_eq_some_iff.mp h
  exact List.mem_append_right front List.mem_cons_self

theorem lookup_of_mem {key : String} {value : α} {es : List (String × α)}
    (hnodup : (es.map (·.1)).Nodup) (h : (key, value) ∈ es) : es.lookup key = some value := by
  obtain ⟨front, back, rfl⟩ := List.append_of_mem h
  refine List.lookup_eq_some_iff.mpr ⟨front, back, rfl, ?_⟩
  intro e he
  rw [List.map_append, List.map_cons, List.nodup_append] at hnodup
  have hne := hnodup.2.2 e.1 (List.mem_map_of_mem he) key List.mem_cons_self
  exact bne_iff_ne.mpr (Ne.symm hne)

theorem lookup_pair (k key : String) (value : α) :
    [(key, value)].lookup k = if k = key then some value else none := by
  rw [List.lookup_cons]
  by_cases h : k = key
  · rw [if_pos h, beq_iff_eq.mpr h]
  · rw [if_neg h, beq_false_of_ne h]
    rfl

theorem lookup_put (k key : String) (value : α) (es : List (String × α)) :
    (put key value es).lookup k = if k = key then some value else es.lookup k := by
  induction es with
  | nil => exact lookup_pair k key value
  | cons e es ih =>
    rw [put]
    by_cases he : e.1 = key
    · rw [if_pos he, List.lookup_cons, List.lookup_cons, he]
      by_cases h : k = key
      · rw [if_pos h, beq_iff_eq.mpr h]
      · rw [if_neg h, beq_false_of_ne h]
    · rw [if_neg he, List.lookup_cons, List.lookup_cons, ih]
      by_cases hk : k = e.1
      · have hne : k ≠ key := fun h => he (hk.symm.trans h)
        simp only [beq_iff_eq.mpr hk, if_neg hne]
      · rw [beq_false_of_ne hk]

/-- A write that does not replace anything counts behind what was there. -/
theorem lookup_putNew (k key : String) (value : α) (es : List (String × α)) :
    (putNew key value es).lookup k = (es.lookup k).or ([(key, value)].lookup k) := by
  rw [putNew]
  by_cases h : (es.lookup key).isSome = true
  · rw [if_pos h, lookup_pair]
    by_cases hk : k = key
    · rw [hk, Option.or_of_isSome h]
    · rw [if_neg hk, Option.or_none]
  · rw [if_neg h, List.lookup_append]

/-- Of many writes the last one under a key counts, and all of them before what was there. -/
theorem lookup_foldl_put (k : String) (pairs es : List (String × α)) :
    (pairs.foldl (fun es p => put p.1 p.2 es) es).lookup k =
      (pairs.reverse.lookup k).or (es.lookup k) := by
  induction pairs generalizing es with
  | nil => rfl
  | cons p pairs ih =>
    rw [List.foldl_cons, ih, lookup_put, List.reverse_cons, List.lookup_append, lookup_pair,
      Option.or_assoc]
    by_cases hk : k = p.1
    · rw [if_pos hk, if_pos hk, Option.some_or]
    · rw [if_neg hk, if_neg hk, Option.none_or]

theorem lookup_ofList (k : String) (pairs : List (String × α)) :
    (ofList pairs).lookup k = pairs.reverse.lookup k := by
  rw [ofList, lookup_foldl_put, List.lookup_nil, Option.or_none]

theorem ofList_eq_nil_iff {pairs : List (String × α)} : ofList pairs = [] ↔ pairs = [] := by
  refine ⟨fun hnil => ?_, fun h => by rw [h]; rfl⟩
  cases pairs with
  | nil => rfl
  | cons p pairs =>
    -- What the first write puts somewhere is found under its key.
    have hmem : p.1 ∈ (p :: pairs).reverse.map (·.1) :=
      List.mem_map_of_mem (List.mem_reverse.mpr List.mem_cons_self)
    have hfound := isSome_lookup_iff.mpr hmem
    rw [← lookup_ofList, hnil] at hfound
    cases hfound

theorem lookup_ofList_append (k : String) (pairs later : List (String × α)) :
    (ofList (pairs ++ later)).lookup k =
      ((ofList later).lookup k).or ((ofList pairs).lookup k) := by
  rw [lookup_ofList, lookup_ofList, lookup_ofList, List.reverse_append, List.lookup_append]

theorem keys_put (key : String) (value : α) (es : List (String × α)) :
    (put key value es).map (·.1) =
      if key ∈ es.map (·.1) then es.map (·.1) else es.map (·.1) ++ [key] := by
  induction es with
  | nil => rfl
  | cons e es ih =>
    rw [put, List.map_cons]
    by_cases he : e.1 = key
    · rw [if_pos he, if_pos (List.mem_cons.mpr (Or.inl he.symm)), List.map_cons, he]
    · rw [if_neg he, List.map_cons, ih]
      by_cases hmem : key ∈ es.map (·.1)
      · rw [if_pos hmem, if_pos (List.mem_cons_of_mem e.1 hmem)]
      · have hnew : key ∉ e.1 :: es.map (·.1) := List.not_mem_cons_of_ne_of_not_mem (Ne.symm he) hmem
        rw [if_neg hmem, if_neg hnew, List.cons_append]

theorem nodup_keys_put {es : List (String × α)} (h : (es.map (·.1)).Nodup) (key : String)
    (value : α) : ((put key value es).map (·.1)).Nodup := by
  rw [keys_put]
  split
  · exact h
  · rename_i hnew
    exact List.Nodup.append h (List.nodup_singleton key) (List.disjoint_singleton.mpr hnew)

theorem nodup_keys_ofList (pairs : List (String × α)) : ((ofList pairs).map (·.1)).Nodup := by
  suffices h : ∀ es : List (String × α), (es.map (·.1)).Nodup →
      ((pairs.foldl (fun es p => put p.1 p.2 es) es).map (·.1)).Nodup from h [] List.nodup_nil
  induction pairs with
  | nil => exact fun _ h => h
  | cons p pairs ih => exact fun es h => ih (put p.1 p.2 es) (nodup_keys_put h p.1 p.2)

/-- Writes under different keys are listed as they came. -/
theorem ofList_of_nodup {pairs : List (String × α)} (h : (pairs.map (·.1)).Nodup) :
    ofList pairs = pairs := by
  suffices hall : ∀ es : List (String × α), ((es ++ pairs).map (·.1)).Nodup →
      pairs.foldl (fun es p => put p.1 p.2 es) es = es ++ pairs from hall [] h
  clear h
  induction pairs with
  | nil => exact fun es _ => (List.append_nil es).symm
  | cons p pairs ih =>
    intro es hnodup
    have hnew : p.1 ∉ es.map (·.1) := by
      rw [List.map_append, List.map_cons, List.nodup_append] at hnodup
      exact fun hmem => hnodup.2.2 p.1 hmem p.1 List.mem_cons_self rfl
    rw [List.foldl_cons, put_of_notMem hnew, ih _ (by rwa [List.append_assoc]), List.append_assoc]
    rfl

end ChainHistory.Assoc
