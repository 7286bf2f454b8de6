import ChainHistory.Page
import ChainHistory.Proofs.IndexerCall

namespace ChainHistory

namespace Record

/-- The fields of a document in the order in which they are written. -/
def fieldNames : List String := [
  "id", "coin", "timestamp", "senders", "receivers", "memo", "token_id", "block", "fee", "status",
  "type", "direction"]

section

variable {α : Type} {fs : List (String × Json)} {field : String} {means : Json → α → Prop} {a : α}

theorem isText_str (s : String) : IsText (.str s) s := rfl

theorem isInteger_int (n : Int) : IsInteger (.int n) n := rfl

theorem isDirection_name (d : Direction) : IsDirection (.str d.name) d := rfl

theorem orNull_optional {write : α → Json} (h : ∀ a, means (write a) a) (o : Option α) :
    OrNull means (optional write o) o := by
  cases o with
  | none => exact rfl
  | some a => exact h a

theorem given_of_lookup {v : Json} (hlookup : fs.lookup field = some v) (h : means v a) :
    Given fs field means a :=
  ⟨v, hlookup, h⟩

theorem givenOr_of_lookup {default : α} {v : Json} (hlookup : fs.lookup field = some v)
    (h : means v a) : GivenOr fs field default means a :=
  Or.inr (given_of_lookup hlookup h)

end

/-- The document of a record has all fields, and says what the record holds whichever coin is the
default. -/
theorem exists_fields (r : Record) : ∃ fs, r.toJson = .obj fs ∧ fs.map (·.1) = fieldNames ∧
    ∀ coinId, Says coinId fs r := by
  refine ⟨_, rfl, rfl, ?_⟩
  intro coinId
  -- Each name is looked up by evaluation, and what stands there is the form of its kind.
  exact {
    id := given_of_lookup rfl (isText_str r.id)
    coin := givenOr_of_lookup rfl (isInteger_int r.coin)
    timestamp := given_of_lookup rfl (isInteger_int r.timestamp)
    senders := givenOr_of_lookup rfl rfl
    receivers := givenOr_of_lookup rfl rfl
    memo := givenOr_of_lookup rfl (orNull_optional isText_str r.memo)
    tokenId := givenOr_of_lookup rfl (orNull_optional isText_str r.tokenId)
    block := givenOr_of_lookup rfl (orNull_optional isInteger_int r.block)
    fee := givenOr_of_lookup rfl (orNull_optional isText_str r.fee)
    status := givenOr_of_lookup rfl rfl
    kind := givenOr_of_lookup rfl (isText_str r.kind)
    direction := givenOr_of_lookup rfl (orNull_optional isDirection_name r.direction) }

theorem isRecord_toJson (coinId : Int) (r : Record) : IsRecord coinId r.toJson r := by
  obtain ⟨fs, hfs, -, hsays⟩ := r.exists_fields
  exact ⟨fs, hfs, hsays coinId⟩

theorem forall₂_isRecord_toJson (coinId : Int) (rs : List Record) :
    List.Forall₂ (IsRecord coinId) (rs.map (·.toJson)) rs := by
  rw [List.forall₂_map_left_iff, List.forall₂_same]
  exact fun r _ => r.isRecord_toJson coinId

end Record

namespace Indexer

/-- A document that was taken is a record's, and the records are those of the documents. -/
theorem forall₂_isRecord_of_recordsOf {coin : String} {coinId : Int} {docs : List Json}
    {rs : List Record} (h : recordsOf coin coinId (.arr docs) = .ok rs) :
    List.Forall₂ (Record.IsRecord coinId) docs rs := by
  rw [recordsOf_arr] at h
  have hread : docs.mapM (Record.ofDocument coinId) = .ok rs := Outcome.eq_of_mapError h
  exact (Outcome.mapM_eq_ok_iff.mp hread).imp fun _ _ hr => Record.ofDocument_eq_ok_iff.mp hr

theorem recordsOf_toJson (coin : String) (coinId : Int) (rs : List Record) :
    recordsOf coin coinId (.arr (rs.map (·.toJson))) = .ok rs :=
  recordsOf_eq_ok_of_isRecord (Record.forall₂_isRecord_toJson coinId rs)

/-- A record that is written, alone or in a page, is read back as it was by every chain. What a
chain takes from documents, however these spell it, is taken again from what is then written. -/
theorem written_records_read_back :
    (∀ (r : Record) (coin : String) (coinId : Int), ∃ fs, r.toJson = .obj fs ∧
      fs.map (·.1) = Record.fieldNames ∧ recordsOf coin coinId (.arr [.obj fs]) = .ok [r]) ∧
    (∀ (page : Page) (coin : String) (coinId : Int), ∃ fs docs, page.toJson = .obj fs ∧
      fs.lookup "docs" = some docs ∧ recordsOf coin coinId docs = .ok page.docs) ∧
    ∀ (coin : String) (coinId : Int) (docs : List Json) (rs : List Record),
      recordsOf coin coinId (.arr docs) = .ok rs →
        List.Forall₂ (Record.IsRecord coinId) docs rs ∧
          ∀ coin' coinId', recordsOf coin' coinId' (.arr (rs.map (·.toJson))) = .ok rs := by
  refine ⟨?_, ?_, ?_⟩
  · intro r coin coinId
    obtain ⟨fs, hfs, hnames, -⟩ := r.exists_fields
    have hread := recordsOf_toJson coin coinId [r]
    rw [List.map_singleton, hfs] at hread
    exact ⟨fs, hfs, hnames, hread⟩
  · intro page coin coinId
    exact ⟨_, _, rfl, rfl, recordsOf_toJson coin coinId page.docs⟩
  · intro coin coinId docs rs h
    exact ⟨forall₂_isRecord_of_recordsOf h, fun coin' coinId' => recordsOf_toJson coin' coinId' rs⟩

/-- A truth value, a number in a text, a number with a fraction of zeros, an unknown field and
absent ones. -/
def lenientDocument : Json :=
  .obj [
    ("extra", .arr [.null]),
    ("timestamp", .str " +10 "),
    ("coin", .bool true),
    ("id", .str "a"),
    ("memo", .null),
    ("block", .real (.finite false 7881299347898368 (-50)))]

def lenientRecord : Record := { id := "a", coin := 1, timestamp := 10, block := some 7 }

theorem written_records_read_back_of_lenient :
    recordsOf "x" 7 (.arr [lenientDocument]) = .ok [lenientRecord] ∧
      recordsOf "y" 8 (.arr [lenientRecord.toJson]) = .ok [lenientRecord] := by
  have hread : recordsOf "x" 7 (.arr [lenientDocument]) = .ok [lenientRecord] := rfl
  exact ⟨hread, (written_records_read_back.2.2 "x" 7 _ _ hread).2 "y" 8⟩

end Indexer

end ChainHistory
