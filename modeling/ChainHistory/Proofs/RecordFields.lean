import ChainHistory.Proofs.Outcome
import ChainHistory.Record.Reader

namespace ChainHistory.Checked

variable {α β : Type}

/-- A function applies only if nothing is wrong on either side. -/
theorem apply_eq_valid_iff {f : Checked (α → β)} {c : Checked α} {b : β} :
    f.apply c = .valid b ↔ ∃ g a, f = .valid g ∧ c = .valid a ∧ g a = b := by
  constructor
  · intro h
    cases f with
    | invalid e => cases c <;> simp only [apply, reduceCtorEq] at h
    | valid g =>
      cases c with
      | invalid e => simp only [apply, reduceCtorEq] at h
      | valid a => exact ⟨g, a, rfl, rfl, Checked.valid.inj h⟩
  · rintro ⟨g, a, rfl, rfl, rfl⟩
    rfl

theorem sequence_cons_eq_valid_iff {c : Checked α} {cs : List (Checked α)} {as : List α} :
    sequence (c :: cs) = .valid as ↔
      ∃ a rest, c = .valid a ∧ sequence cs = .valid rest ∧ a :: rest = as := by
  simp only [sequence, apply_eq_valid_iff, Checked.valid.injEq]
  constructor
  · rintro ⟨g, rest, ⟨_, a, rfl, hc, rfl⟩, hcs, has⟩
    exact ⟨a, rest, hc, hcs, has⟩
  · rintro ⟨a, rest, hc, hcs, has⟩
    exact ⟨List.cons a, rest, ⟨List.cons, a, rfl, hc, rfl⟩, hcs, has⟩

end ChainHistory.Checked

namespace ChainHistory.Record

open Text Number

variable {α : Type}

theorem find?_name_eq_some_iff {all : List α} {name : α → String} (hall : ∀ x, x ∈ all)
    (hname : ∀ x y, name x = name y → x = y) {s : String} {x : α} :
    (all.find? fun y => name y = s) = some x ↔ s = name x := by
  constructor
  · intro h
    have hx := List.find?_some h
    exact (of_decide_eq_true hx).symm
  · rintro rfl
    have hsome : (all.find? fun y => decide (name y = name x)).isSome = true :=
      List.find?_isSome.mpr ⟨x, hall x, decide_eq_true rfl⟩
    obtain ⟨y, hy⟩ := Option.isSome_iff_exists.mp hsome
    have hfound := List.find?_some hy
    rw [hy, hname y x (of_decide_eq_true hfound)]

theorem status_ofName?_iff {s : String} {x : Status} : Status.ofName? s = some x ↔ s = x.name :=
  find?_name_eq_some_iff (fun x => by cases x <;> decide)
    (fun x y => by cases x <;> cases y <;> decide)

theorem direction_ofName?_iff {s : String} {x : Direction} :
    Direction.ofName? s = some x ↔ s = x.name :=
  find?_name_eq_some_iff (fun x => by cases x <;> decide)
    (fun x y => by cases x <;> cases y <;> decide)

/-! What a value means to a field. -/

def IsText (v : Json) (s : String) : Prop := v = .str s

def AreTexts (v : Json) (ss : List String) : Prop := v = .arr (ss.map .str)

def IsInteger (v : Json) (n : Int) : Prop := integerOf v = .ok n

def IsStatus (v : Json) (x : Status) : Prop := v = .str x.name

def IsDirection (v : Json) (d : Direction) : Prop := v = .str d.name

/-- Null means that there is none. -/
def OrNull (means : Json → α → Prop) (v : Json) : Option α → Prop
  | none => v = .null
  | some a => means v a

/-- The field is there and means `a`. -/
def Given (fs : List (String × Json)) (field : String) (means : Json → α → Prop) (a : α) : Prop :=
  ∃ v, fs.lookup field = some v ∧ means v a

/-- The field means `a`, or it is not there and `a` is the default. -/
def GivenOr (fs : List (String × Json)) (field : String) (default : α)
    (means : Json → α → Prop) (a : α) : Prop :=
  (fs.lookup field = none ∧ a = default) ∨ Given fs field means a

/-- The fields of a document say what the record holds. Any other fields do not count. -/
structure Says (coinId : Int) (fs : List (String × Json)) (r : Record) : Prop where
  id : Given fs "id" IsText r.id
  coin : GivenOr fs "coin" coinId IsInteger r.coin
  timestamp : Given fs "timestamp" IsInteger r.timestamp
  senders : GivenOr fs "senders" [] AreTexts r.senders
  receivers : GivenOr fs "receivers" [] AreTexts r.receivers
  memo : GivenOr fs "memo" none (OrNull IsText) r.memo
  tokenId : GivenOr fs "token_id" none (OrNull IsText) r.tokenId
  block : GivenOr fs "block" none (OrNull IsInteger) r.block
  fee : GivenOr fs "fee" none (OrNull IsText) r.fee
  status : GivenOr fs "status" .completed IsStatus r.status
  kind : GivenOr fs "type" "transfer" IsText r.kind
  direction : GivenOr fs "direction" none (OrNull IsDirection) r.direction

theorem textOf_eq_ok_iff {v : Json} {s : String} : textOf v = .ok s ↔ IsText v s := by
  cases v <;> simp [textOf, IsText]

theorem statusOf_eq_ok_iff {v : Json} {x : Status} : statusOf v = .ok x ↔ IsStatus v x := by
  cases v with
  | str s =>
    rw [IsStatus, Json.str.injEq, ← status_ofName?_iff, statusOf]
    cases Status.ofName? s <;> simp
  | _ => simp [statusOf, IsStatus]

theorem directionOf_eq_ok_iff {v : Json} {d : Direction} :
    directionOf v = .ok d ↔ IsDirection v d := by
  cases v with
  | str s =>
    rw [IsDirection, Json.str.injEq, ← direction_ofName?_iff, directionOf]
    cases Direction.ofName? s <;> simp
  | _ => simp [directionOf, IsDirection]

theorem orNull_eq_ok_iff {read : Json → Except FaultKind α} {means : Json → α → Prop}
    (hread : ∀ {v a}, read v = .ok a ↔ means v a) (hnull : ∀ a, ¬ means .null a) {v : Json}
    {o : Option α} : orNull read v = .ok o ↔ OrNull means v o := by
  by_cases hv : v = .null
  · subst hv
    cases o with
    | none => simp [orNull, OrNull]
    | some a => simp [orNull, OrNull, hnull a]
  · have hsome : orNull read v = (read v).map some := by
      cases v <;> first | rfl | exact absurd rfl hv
    rw [hsome]
    cases o with
    | none => cases read v <;> simp [Except.map, OrNull, hv]
    | some a =>
      rw [OrNull, ← hread]
      cases read v <;> simp [Except.map]

theorem integerOf_eq_ok_iff {v : Json} {n : Int} : integerOf v = .ok n ↔ IsInteger v n := Iff.rfl

theorem nullableText_eq_ok_iff {v : Json} {o : Option String} :
    orNull textOf v = .ok o ↔ OrNull IsText v o :=
  orNull_eq_ok_iff textOf_eq_ok_iff fun s h => by cases h

theorem nullableInteger_eq_ok_iff {v : Json} {o : Option Int} :
    orNull integerOf v = .ok o ↔ OrNull IsInteger v o :=
  orNull_eq_ok_iff integerOf_eq_ok_iff fun n h => by cases h

theorem nullableDirection_eq_ok_iff {v : Json} {o : Option Direction} :
    orNull directionOf v = .ok o ↔ OrNull IsDirection v o :=
  orNull_eq_ok_iff directionOf_eq_ok_iff fun d h => by cases h

section

variable {fs : List (String × Json)} {field : String} {read : Json → Except FaultKind α}
  {means : Json → α → Prop} {a : α}

theorem atField_eq_valid_iff {x : Except FaultKind α} :
    atField field x = .valid a ↔ x = .ok a := by
  cases x <;> simp [atField]

theorem required_eq_valid_iff (hread : ∀ {v a}, read v = .ok a ↔ means v a) :
    required fs field read = .valid a ↔ Given fs field means a := by
  rw [required, Given]
  cases fs.lookup field with
  | none => simp
  | some v => simp only [atField_eq_valid_iff, hread, Option.some.injEq, exists_eq_left']

theorem defaulted_eq_valid_iff {default : α} (hread : ∀ {v a}, read v = .ok a ↔ means v a) :
    defaulted fs field default read = .valid a ↔ GivenOr fs field default means a := by
  rw [defaulted, GivenOr, Given]
  cases fs.lookup field with
  | none => simp [eq_comm]
  | some v => simp only [atField_eq_valid_iff, hread, Option.some.injEq, exists_eq_left',
      reduceCtorEq, false_and, false_or]

theorem textItem_eq_valid_iff {i : Nat} {v : Json} {s : String} :
    textItem field i v = .valid s ↔ v = .str s := by
  rw [← IsText, ← textOf_eq_ok_iff, textItem]
  cases textOf v <;> simp

/-- The items count from any index on. -/
theorem sequence_textItems_eq_valid_iff (items : List Json) (index : Nat → Nat)
    (ss : List String) :
    Checked.sequence (items.mapIdx fun i v => textItem field (index i) v) = .valid ss ↔
      items = ss.map .str := by
  induction items generalizing index ss with
  | nil =>
    rw [List.mapIdx_nil, Checked.sequence, Checked.valid.injEq, eq_comm (a := []),
      eq_comm (a := []), List.map_eq_nil_iff]
  | cons v items ih =>
    rw [List.mapIdx_cons, Checked.sequence_cons_eq_valid_iff]
    simp only [textItem_eq_valid_iff, ih (fun i => index (i + 1))]
    constructor
    · rintro ⟨s, rest, rfl, rfl, rfl⟩
      rfl
    · intro h
      cases ss with
      | nil => simp only [List.map_nil, reduceCtorEq] at h
      | cons s rest =>
        obtain ⟨hv, hitems⟩ := List.cons.inj h
        exact ⟨s, rest, hv, hitems, rfl⟩

theorem texts_eq_valid_iff {ss : List String} :
    texts fs field = .valid ss ↔ GivenOr fs field [] AreTexts ss := by
  rw [texts, GivenOr, Given]
  cases fs.lookup field with
  | none => simp [eq_comm]
  | some v =>
    simp only [Option.some.injEq, exists_eq_left', reduceCtorEq, false_and, false_or, AreTexts]
    cases v with
    | arr items => simpa using sequence_textItems_eq_valid_iff items (fun i => i) ss
    | _ => simp

end

/-- The reader takes a document's fields for a record exactly if they say what it holds. -/
theorem ofFields_eq_valid_iff {coinId : Int} {fs : List (String × Json)} {r : Record} :
    ofFields coinId fs = .valid r ↔ Says coinId fs r := by
  constructor
  · intro h
    -- The fields were applied one after the other, so they come off from the last to the first.
    rw [ofFields] at h
    obtain ⟨_, direction, h₁₁, hdirection, rfl⟩ := Checked.apply_eq_valid_iff.mp h
    obtain ⟨_, kind, h₁₀, hkind, rfl⟩ := Checked.apply_eq_valid_iff.mp h₁₁
    obtain ⟨_, status, h₉, hstatus, rfl⟩ := Checked.apply_eq_valid_iff.mp h₁₀
    obtain ⟨_, fee, h₈, hfee, rfl⟩ := Checked.apply_eq_valid_iff.mp h₉
    obtain ⟨_, block, h₇, hblock, rfl⟩ := Checked.apply_eq_valid_iff.mp h₈
    obtain ⟨_, tokenId, h₆, htokenId, rfl⟩ := Checked.apply_eq_valid_iff.mp h₇
    obtain ⟨_, memo, h₅, hmemo, rfl⟩ := Checked.apply_eq_valid_iff.mp h₆
    obtain ⟨_, receivers, h₄, hreceivers, rfl⟩ := Checked.apply_eq_valid_iff.mp h₅
    obtain ⟨_, senders, h₃, hsenders, rfl⟩ := Checked.apply_eq_valid_iff.mp h₄
    obtain ⟨_, timestamp, h₂, htimestamp, rfl⟩ := Checked.apply_eq_valid_iff.mp h₃
    obtain ⟨_, coin, h₁, hcoin, rfl⟩ := Checked.apply_eq_valid_iff.mp h₂
    obtain ⟨_, id, h₀, hid, rfl⟩ := Checked.apply_eq_valid_iff.mp h₁
    obtain rfl := Checked.valid.inj h₀
    exact {
      id := (required_eq_valid_iff textOf_eq_ok_iff).mp hid
      coin := (defaulted_eq_valid_iff integerOf_eq_ok_iff).mp hcoin
      timestamp := (required_eq_valid_iff integerOf_eq_ok_iff).mp htimestamp
      senders := texts_eq_valid_iff.mp hsenders
      receivers := texts_eq_valid_iff.mp hreceivers
      memo := (defaulted_eq_valid_iff nullableText_eq_ok_iff).mp hmemo
      tokenId := (defaulted_eq_valid_iff nullableText_eq_ok_iff).mp htokenId
      block := (defaulted_eq_valid_iff nullableInteger_eq_ok_iff).mp hblock
      fee := (defaulted_eq_valid_iff nullableText_eq_ok_iff).mp hfee
      status := (defaulted_eq_valid_iff statusOf_eq_ok_iff).mp hstatus
      kind := (defaulted_eq_valid_iff textOf_eq_ok_iff).mp hkind
      direction := (defaulted_eq_valid_iff nullableDirection_eq_ok_iff).mp hdirection }
  · intro h
    rw [ofFields, (required_eq_valid_iff textOf_eq_ok_iff).mpr h.id,
      (defaulted_eq_valid_iff integerOf_eq_ok_iff).mpr h.coin,
      (required_eq_valid_iff integerOf_eq_ok_iff).mpr h.timestamp,
      texts_eq_valid_iff.mpr h.senders, texts_eq_valid_iff.mpr h.receivers,
      (defaulted_eq_valid_iff nullableText_eq_ok_iff).mpr h.memo,
      (defaulted_eq_valid_iff nullableText_eq_ok_iff).mpr h.tokenId,
      (defaulted_eq_valid_iff nullableInteger_eq_ok_iff).mpr h.block,
      (defaulted_eq_valid_iff nullableText_eq_ok_iff).mpr h.fee,
      (defaulted_eq_valid_iff statusOf_eq_ok_iff).mpr h.status,
      (defaulted_eq_valid_iff textOf_eq_ok_iff).mpr h.kind,
      (defaulted_eq_valid_iff nullableDirection_eq_ok_iff).mpr h.direction]
    rfl

/-- A document that is read as a record. -/
def IsRecord (coinId : Int) (doc : Json) (r : Record) : Prop :=
  ∃ fs, doc = .obj fs ∧ Says coinId fs r

theorem ofDocument_eq_ok_iff {coinId : Int} {doc : Json} {r : Record} :
    ofDocument coinId doc = .ok r ↔ IsRecord coinId doc r := by
  cases doc with
  | obj fs =>
    simp only [IsRecord, Json.obj.injEq, exists_eq_left', ← ofFields_eq_valid_iff]
    delta ofDocument
    cases hfields : ofFields coinId fs with
    | valid r' => simp only [hfields, Except.ok.injEq, Checked.valid.injEq]
    | invalid faults => simp only [hfields, reduceCtorEq]
  | _ =>
    delta ofDocument
    simp [IsRecord]

end ChainHistory.Record
