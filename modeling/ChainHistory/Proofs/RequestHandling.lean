import ChainHistory.Http.App
import ChainHistory.Proofs.Outcome

namespace ChainHistory.Http.App

open Indexer

theorem handle_of_findRoute? {r : Request} {operation : Operation} {params : List String}
    (hget : r.method = "GET") (hroute : findRoute? r.path = some (operation, params))
    (indexer : Behaviour) (app : App) :
    handle indexer (some app) r = serve indexer app r.token? operation params := by
  simp only [handle, hroute, hget, ne_eq, not_true_eq_false, if_false]

theorem statusCode_ne_ok (m : MappedFailure) : m.statusCode ≠ 200 := by
  rw [MappedFailure.statusCode]
  cases m.classification <;> decide

theorem ok_inj {b body : Json} (h : Response.ok b = .ok body) : b = body :=
  Option.some.inj (congrArg Response.body h)

theorem ne_ok_of_status {response : Response} (h : response.status ≠ 200) (body : Json) :
    response ≠ .ok body := by
  rintro rfl
  exact h rfl

theorem notFound_ne_ok (body : Json) : Response.notFound ≠ .ok body :=
  ne_ok_of_status (by decide) body

theorem redirect_ne_ok (r : Request) (path : List Char) (body : Json) :
    Response.redirect r path ≠ .ok body :=
  ne_ok_of_status (show 307 ≠ 200 by decide) body

/-- Only what was found is answered as a success. -/
theorem eq_of_respond_eq_ok {context : String} {result : Except Failure Json} {c : Conversation}
    {body : Json} (h : (respond context result c).1 = .ok body) : result = .ok body := by
  cases result with
  | ok b => rw [ok_inj h]
  | error e => exact absurd h (ne_ok_of_status (statusCode_ne_ok _) body)

theorem exists_page_of_serve_query {indexer : Behaviour} {app : App} {token : Option String}
    {kind : IdentifierKind} {params : List String} {c : Conversation} {body : Json}
    (h : (serve indexer app token (.query kind) params c).1 = .ok body) :
    ∃ page : Page, page.toJson = body := by
  match params with
  | [] => exact absurd h (notFound_ne_ok body)
  | [_] => exact absurd h (notFound_ne_ok body)
  | coin :: identifier :: _ =>
    have hresult := eq_of_respond_eq_ok h
    obtain ⟨page, -, hpage⟩ := Outcome.exists_of_map hresult
    exact ⟨page, hpage⟩

/-- One chain that can be asked about addresses. -/
def bitcoinAlone : App :=
  ⟨⟨some "http://indexer", none, .nan⟩, ⟨⟨[("bitcoin", ⟨platformOf ⟨"bitcoin", 0, { tx := true }⟩,
    ⟨"bitcoin", { tx := true }⟩⟩)]⟩, 25, 256⟩⟩

end ChainHistory.Http.App
