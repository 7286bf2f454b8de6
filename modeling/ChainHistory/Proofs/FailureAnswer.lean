import ChainHistory.Proofs.BlankText
import ChainHistory.Proofs.RequestHandling

namespace ChainHistory

namespace Failure

/-- A failure of the indexer's side, and its kind; where none is given it is internal. -/
inductive Reports : Failure → FailureKind → Prop
  | reported (kind : FailureKind) (words : Option String) : Reports (.reported kind words) kind
  | unclassified (words : Option String) : Reports (.unclassified words) .internal
  | internal (cause : InternalCause) : Reports (.internal cause) .internal
  | noCapability (coin capability : String) : Reports (.noCapability coin capability) .internal

/-- The text that a failure is raised with, empty where it is raised without one. -/
def said : Failure → String
  | reported _ words => words.getD ""
  | unclassified words => words.getD ""
  | e => e.message

/-- The message of a failure: its text, or else what is usual for its kind, or else the name of its
class. -/
inductive Tells : Failure → String → Prop
  | said {e : Failure} (h : e.said ≠ "") : Tells e e.said
  | usual {e : Failure} {kind : FailureKind} (h : e.said = "") (hkind : Reports e kind) :
      Tells e kind.defaultMessage
  | general : Tells (.general "") "TxAtlasError"
  | foreign (name : String) : Tells (.foreign name "") name

/-- What a status says about a failure. -/
structure Means (e : Failure) (status : Nat) : Prop where
  badRequest : status = 400 ↔ Reports e .invalidAddress ∨ Reports e .invalidKey
  notFound : status = 404 ↔ Reports e .notFound ∨ ∃ coin, e = .unknownCoin coin
  unavailable : status = 503 ↔ Reports e .sourceUnavailable
  otherwise : status = 500 ↔ status ≠ 400 ∧ status ≠ 404 ∧ status ≠ 503

theorem reports_iff {e : Failure} {kind : FailureKind} : Reports e kind ↔ e.kind? = some kind := by
  constructor
  · rintro (_ | _ | _ | _) <;> rfl
  · intro h
    cases e with
    | reported kind' words =>
      obtain rfl : kind' = kind := Option.some.inj h
      exact .reported kind' words
    | unclassified words =>
      cases h
      exact .unclassified words
    | internal cause =>
      cases h
      exact .internal cause
    | noCapability coin capability =>
      cases h
      exact .noCapability coin capability
    | _ => cases h

theorem Reports.iff_eq {e : Failure} {kind : FailureKind} (h : Reports e kind)
    (kind' : FailureKind) : Reports e kind' ↔ kind' = kind := by
  rw [reports_iff, reports_iff.mp h, Option.some.injEq, eq_comm]

theorem append_ne_of_left {s : String} (h : s ≠ "") (t : String) : s ++ t ≠ "" :=
  fun happend => h (String.append_eq_empty_iff.mp happend).1

theorem internalCause_message_ne (cause : InternalCause) : cause.message ≠ "" := by
  cases cause with
  | noBaseUrl => decide
  | malformedRecord coin fault =>
    exact append_ne_of_left (append_ne_of_left (append_ne_of_left (by decide) _) _) _
  | _ => exact append_ne_of_left (by decide) _

theorem wordsOr_eq (kind : FailureKind) (words : Option String) :
    wordsOr kind words = if words.getD "" = "" then kind.defaultMessage else words.getD "" := by
  cases words with
  | none => rfl
  | some w =>
    by_cases hw : w = ""
    · subst hw
      rfl
    · rw [wordsOr, Text.nonEmpty?_of_ne hw, Option.getD_some, if_neg hw]

theorem tells_wordsOr {e : Failure} {kind : FailureKind} {words : Option String}
    (hkind : Reports e kind) (hsaid : e.said = words.getD "") : Tells e (wordsOr kind words) := by
  rw [wordsOr_eq, ← hsaid]
  split
  · rename_i hempty
    exact .usual hempty hkind
  · rename_i hne
    exact .said hne

theorem tells_label {e : Failure} (hsaid : e.said = e.message)
    (hlabel : e.message = "" → Tells e e.label) :
    Tells e (if e.message = "" then e.label else e.message) := by
  split
  · rename_i hempty
    exact hlabel hempty
  · rename_i hne
    rw [← hsaid] at hne ⊢
    exact .said hne

theorem tells_ofFailure (e : Failure) : Tells e (MappedFailure.ofFailure e).message := by
  -- What the program words itself is never empty. The words of a platform may be, and then the
  -- kind speaks; those of any other failure may be, and then the class does.
  cases e with
  | reported kind words => exact tells_wordsOr (.reported kind words) rfl
  | unclassified words => exact tells_wordsOr (.unclassified words) rfl
  | internal cause => exact .said (internalCause_message_ne cause)
  | noCapability coin capability =>
    exact .said (append_ne_of_left (append_ne_of_left (append_ne_of_left (by decide) _) _) _)
  | unknownCoin coin => exact .said (append_ne_of_left (by decide) _)
  | general words =>
    refine tells_label rfl ?_
    rintro (rfl : words = "")
    exact .general
  | unsupportedQuery kind =>
    have hne : (unsupportedQuery kind).message ≠ "" := append_ne_of_left (by decide) _
    exact tells_label rfl fun hempty => absurd hempty hne
  | foreign name words =>
    refine tells_label rfl ?_
    rintro (rfl : words = "")
    exact .foreign name

theorem Tells.ne {e : Failure} {m : String} (h : Tells e m) (hnamed : e ≠ .foreign "" "") :
    m ≠ "" := by
  cases h with
  | said h => exact h
  | @usual _ kind _ _ => cases kind <;> decide
  | general => decide
  | foreign =>
    rintro rfl
    exact hnamed rfl

theorem ofFailure_of_reports {e : Failure} {kind : FailureKind} (h : Reports e kind) :
    MappedFailure.ofFailure e = ⟨kind.responseClass, e.message, some kind⟩ := by
  cases h <;> rfl

theorem kind_ofFailure_eq_none_iff (e : Failure) :
    (MappedFailure.ofFailure e).kind = none ↔ ¬ ∃ kind, Reports e kind := by
  have hkind : (MappedFailure.ofFailure e).kind = e.kind? := by cases e <;> rfl
  simp only [hkind, reports_iff, Option.eq_none_iff_forall_ne_some, not_exists, ne_eq]

theorem means_of_reports {e : Failure} {kind : FailureKind} (h : Reports e kind) :
    Means e kind.responseClass.statusCode := by
  have hcoin : ¬ ∃ coin, e = .unknownCoin coin := by
    rintro ⟨coin, rfl⟩
    cases h
  constructor
  · rw [h.iff_eq, h.iff_eq]
    cases kind <;> decide
  · rw [h.iff_eq, or_iff_left hcoin]
    cases kind <;> decide
  · rw [h.iff_eq]
    cases kind <;> decide
  · cases kind <;> decide

theorem means_of_unknownCoin (coin : String) : Means (.unknownCoin coin) 404 := by
  have hnone (kind : FailureKind) : ¬ Reports (.unknownCoin coin) kind := nofun
  constructor <;> simp [hnone]

theorem means_of_other {e : Failure} (hnone : ¬ ∃ kind, Reports e kind)
    (hcoin : ¬ ∃ coin, e = .unknownCoin coin) : Means e 500 := by
  rw [not_exists] at hnone
  constructor <;> simp [hnone, hcoin]

theorem means_ofFailure (e : Failure) : Means e (MappedFailure.ofFailure e).statusCode := by
  -- The kind decides the status, and without one an unknown chain is told from all the rest.
  by_cases hkind : ∃ kind, Reports e kind
  · obtain ⟨kind, h⟩ := hkind
    rw [ofFailure_of_reports h]
    exact means_of_reports h
  · by_cases hcoin : ∃ coin, e = .unknownCoin coin
    · obtain ⟨coin, rfl⟩ := hcoin
      exact means_of_unknownCoin coin
    · have hstatus : (MappedFailure.ofFailure e).statusCode = 500 := by
        rw [not_exists] at hkind hcoin
        cases e with
        | unknownCoin coin => exact absurd rfl (hcoin coin)
        | general words => rfl
        | unsupportedQuery kind => rfl
        | foreign name words => rfl
        | _ => exact absurd (reports_iff.mpr rfl) (hkind _)
      rw [hstatus]
      exact means_of_other hkind hcoin

end Failure

namespace Http.App

open Indexer

/-- What is answered for a failed query, and the line that is logged for it. -/
structure Refusal (e : Failure) (m : String) (response : Response) (line : LogLine) : Prop where
  tells : e.Tells m
  notEmpty : m ≠ ""
  means : e.Means response.status
  body : response = { status := response.status, body := some (.obj [("error", .str m)]) }
  level : line.level =
    if response.status = 400 ∨ response.status = 404 then .warning else .error
  text : ∃ front, line.text = front ++ m
  message : (MappedFailure.ofFailure e).message = m
  statusCode : (MappedFailure.ofFailure e).statusCode = response.status
  noKind : (MappedFailure.ofFailure e).kind = none ↔ ¬ ∃ kind, e.Reports kind
  retryable : (MappedFailure.ofFailure e).retryable = true ↔ response.status = 503

theorem level_failureLine (context : String) (m : MappedFailure) :
    (failureLine context m).level =
      if m.statusCode = 400 ∨ m.statusCode = 404 then .warning else .error := by
  obtain ⟨classification, message, kind⟩ := m
  cases classification <;> rfl

theorem exists_front_failureLine (context : String) (m : MappedFailure) :
    ∃ front, (failureLine context m).text = front ++ m.message := by
  obtain ⟨classification, message, kind⟩ := m
  cases classification <;> exact ⟨_, rfl⟩

theorem retryable_iff (m : MappedFailure) : m.retryable = true ↔ m.statusCode = 503 := by
  rw [MappedFailure.retryable, MappedFailure.statusCode, decide_eq_true_eq]
  cases m.classification <;> decide

theorem refusal_refuse (context : String) {e : Failure} (hnamed : e ≠ .foreign "" "") :
    Refusal e (MappedFailure.ofFailure e).message (refuse context e).1 (refuse context e).2 := by
  have htells := Failure.tells_ofFailure e
  exact {
    tells := htells
    notEmpty := htells.ne hnamed
    means := Failure.means_ofFailure e
    body := rfl
    level := level_failureLine context (MappedFailure.ofFailure e)
    text := exists_front_failureLine context (MappedFailure.ofFailure e)
    message := rfl
    statusCode := rfl
    noKind := Failure.kind_ofFailure_eq_none_iff e
    retryable := retryable_iff (MappedFailure.ofFailure e) }

theorem handle_of_failed {indexer : Behaviour} {app : App} {c : Conversation} {r : Request}
    {kind : IdentifierKind} {coin x : String} {e : Failure} (hget : r.method = "GET")
    (hroute : findRoute? r.path = some (.query kind, [coin, x]))
    (hfail : (app.service.answer (fetch indexer app.client)
      ⟨kind, coin, some x, r.token?⟩ c).1 = .error e) :
    handle indexer (some app) r c = ((refuse s!"{coin} {kindWord kind} query" e).1,
      (app.service.answer (fetch indexer app.client) ⟨kind, coin, some x, r.token?⟩ c).2.log
        [(refuse s!"{coin} {kindWord kind} query" e).2]) := by
  generalize hrun : app.service.answer (fetch indexer app.client)
    ⟨kind, coin, some x, r.token?⟩ c = run at hfail ⊢
  obtain ⟨result, c'⟩ := run
  obtain rfl : result = .error e := hfail
  rw [handle_of_findRoute? hget hroute]
  -- The records of the page are encoded after the run, which fails before there are any.
  show respond _ (Except.map _ (app.service.answer (fetch indexer app.client)
    ⟨kind, coin, some x, r.token?⟩ c).1) (app.service.answer (fetch indexer app.client)
    ⟨kind, coin, some x, r.token?⟩ c).2 = _
  rw [hrun]
  rfl

/-- A failure that comes up while a transaction route serves a request is answered with its message
and with a status that says whose fault it is, and one line is logged that ends with the same
message. The class of a foreign failure is taken to have a name, which stands in for its text. -/
theorem failed_query_answered (indexer : Behaviour) (app : App) (c : Conversation) {r : Request}
    {kind : IdentifierKind} {coin x : String} {e : Failure} (hget : r.method = "GET")
    (hroute : findRoute? r.path = some (.query kind, [coin, x]))
    (hfail : (app.service.answer (fetch indexer app.client)
      ⟨kind, coin, some x, r.token?⟩ c).1 = .error e)
    (hnamed : e ≠ .foreign "" "") :
    ∃ m line, Refusal e m (handle indexer (some app) r c).1 line ∧
      (handle indexer (some app) r c).2 =
        (app.service.answer (fetch indexer app.client)
          ⟨kind, coin, some x, r.token?⟩ c).2.log [line] := by
  rw [handle_of_failed hget hroute hfail]
  exact ⟨_, _, refusal_refuse _ hnamed, rfl⟩

def askForAddress : Request := ⟨"GET", "http://service", "/v2/bitcoin/transactions/x"⟩

/-- A failure of the exchange that says nothing is told by the name of its class. -/
theorem wordless_failure_answered : ∃ response line,
    (handle (fun _ _ => .failed (.foreign "DecodingError" "")) (some bitcoinAlone) askForAddress
      {}).1 = response ∧ Refusal (.foreign "DecodingError" "") "DecodingError" response line := by
  have hroute : findRoute? askForAddress.path = some (.query .address, ["bitcoin", "x"]) := by
    decide +kernel
  have hfail : (bitcoinAlone.service.answer
      (fetch (fun _ _ => .failed (.foreign "DecodingError" "")) bitcoinAlone.client)
      ⟨.address, "bitcoin", some "x", askForAddress.token?⟩ {}).1 =
        .error (.foreign "DecodingError" "") := by
    decide +kernel
  obtain ⟨m, line, h, -⟩ := failed_query_answered _ bitcoinAlone {} rfl hroute hfail
    (fun hname => absurd (Failure.foreign.inj hname).1 (by decide))
  have hm : m = "DecodingError" := by
    cases h.tells with
    | said hsaid => exact absurd rfl hsaid
    | usual _ hkind => cases hkind
    | foreign => rfl
  exact ⟨_, line, rfl, hm ▸ h⟩

end Http.App

end ChainHistory
