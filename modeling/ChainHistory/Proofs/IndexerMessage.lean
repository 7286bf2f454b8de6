import ChainHistory.Indexer.Message
import ChainHistory.Proofs.Outcome
import ChainHistory.Proofs.UrlParts

namespace ChainHistory.Url

open Text

/-- Whether dots in the path of the URL are resolved. -/
def isPlaced (u : Url) : Bool :=
  !u.user.isEmpty || !u.host.isEmpty || u.port.isSome || !u.scheme.isEmpty

/-- A path in the form that it takes in a URL. -/
def formed (placed : Bool) (path : List Char) : List Char :=
  Percent.encodeUnless keepsInPath (if placed then dropDots path else path)

/-- The URL of the parts without their path. -/
def site (p : Parts) : Except Error Url :=
  (encodeHost (splitAuthority p.authority).2.1).bind fun host =>
    (readPort p.scheme (splitAuthority p.authority).2.2).map fun port => {
      scheme := p.scheme.map Char.toLower
      user := Percent.encodeUnless keepsInUser (splitAuthority p.authority).1
      host, port
      path := []
      query := p.query.map (Percent.encodeUnless keepsInQuery)
      fragment := p.fragment.map (Percent.encodeUnless keepsInFragment) }

/-- All but the path of a URL comes from the other parts. -/
theorem eq_of_ofParts_eq_ok {p : Parts} {u : Url} (h : ofParts p = .ok u) :
    ∃ b, site p = .ok b ∧ u = { b with path := formed b.isPlaced p.path } := by
  simp only [ofParts, bind, Except.bind, pure, Except.pure, throw, throwThe,
    MonadExceptOf.throw] at h
  simp only [site, Except.bind]
  cases hhost : encodeHost (splitAuthority p.authority).2.1 with
  | error e => simp only [hhost, reduceCtorEq] at h
  | ok host =>
    cases hport : readPort p.scheme (splitAuthority p.authority).2.2 with
    | error e => simp only [hhost, hport, reduceCtorEq] at h
    | ok port =>
      simp only [hhost, hport] at h
      refine ⟨_, rfl, ?_⟩
      split at h
      · rename_i hplaced
        rw [← Except.ok.inj h]
        simp only [isPlaced, List.isEmpty_map, hplaced, formed, if_true]
      · rename_i hplaced
        split at h
        · simp only [reduceCtorEq] at h
        · simp only [reduceCtorEq] at h
        · rw [← Except.ok.inj h]
          simp only [isPlaced, List.isEmpty_map, hplaced, formed, if_false, Bool.false_eq_true]

theorem eq_of_site_eq_ok {p : Parts} {b : Url} (h : site p = .ok b) :
    ∃ host port, encodeHost (splitAuthority p.authority).2.1 = .ok host ∧
      readPort p.scheme (splitAuthority p.authority).2.2 = .ok port ∧
      b = {
        scheme := p.scheme.map Char.toLower
        user := Percent.encodeUnless keepsInUser (splitAuthority p.authority).1
        host, port
        path := []
        query := p.query.map (Percent.encodeUnless keepsInQuery)
        fragment := p.fragment.map (Percent.encodeUnless keepsInFragment) } := by
  obtain ⟨host, hhost, h⟩ := Outcome.exists_of_bind h
  obtain ⟨port, hport, h⟩ := Outcome.exists_of_map h
  exact ⟨host, port, hhost, hport, h.symm⟩

theorem query_of_site {p : Parts} {b : Url} (h : site p = .ok b) :
    b.query = p.query.map (Percent.encodeUnless keepsInQuery) := by
  obtain ⟨host, port, -, -, rfl⟩ := eq_of_site_eq_ok h
  rfl

theorem encodeHost_nil : encodeHost [] = .ok [] := by
  simp only [encodeHost, List.isEmpty_nil, if_true]

theorem splitAuthority_nil : splitAuthority [] = ([], [], []) := rfl

theorem host_of_site {p : Parts} {b : Url} (h : site p = .ok b) (hauthority : p.authority = []) :
    b.host = [] := by
  obtain ⟨host, port, hhost, -, rfl⟩ := eq_of_site_eq_ok h
  rw [hauthority, splitAuthority_nil, encodeHost_nil] at hhost
  exact (Except.ok.inj hhost).symm

/-- Parts that say nothing of where the URL leads. -/
theorem site_of_nowhere {p : Parts} {b : Url} (h : site p = .ok b) (hscheme : p.scheme = [])
    (hauthority : p.authority = []) : b.scheme = [] ∧ b.authority = [] ∧ b.isPlaced = false := by
  have hhost := host_of_site h hauthority
  obtain ⟨host, port, -, hport, rfl⟩ := eq_of_site_eq_ok h
  rw [hauthority, hscheme, splitAuthority_nil] at hport
  have hport : none = port := Except.ok.inj hport
  rw [hscheme, hauthority, splitAuthority_nil, ← hport]
  -- The host is empty too, and nothing is left that would stand in the authority.
  show [] = [] ∧ authority ⟨[], [], host, none, [], _, _⟩ = [] ∧
    isPlaced ⟨[], [], host, none, [], _, _⟩ = false
  have hhost : host = [] := hhost
  rw [hhost]
  exact ⟨rfl, rfl, rfl⟩

theorem keeps_of_mem_formed {placed : Bool} {path : List Char} {c : Char}
    (h : c ∈ formed placed path) : keepsInPath c = true :=
  keepsInPath_of_mem_encode h

theorem formed_false_of_keeps {path : List Char} (h : ∀ c ∈ path, keepsInPath c = true) :
    formed false path = path :=
  Percent.encodeUnless_of_forall h

/-- Formed once with its dots resolved, a path stays as it is. -/
theorem formed_formed_true (placed : Bool) (path : List Char) :
    formed placed (formed true path) = formed true path := by
  have hdots : dropDots (formed true path) = formed true path := dropDots_normal path
  have hescape := encode_encode_path (dropDots path)
  cases placed with
  | true => rw [formed, if_pos rfl, hdots]; exact hescape
  | false => exact hescape

/-- What stands before a path that is below another. -/
def stem (placed : Bool) (path : List Char) : List Char :=
  Percent.encodeUnless keepsInPath (if placed then lead path else path ++ ['/'])

theorem formed_append {path : List Char} (hpath : Below path) (placed : Bool) (q : List Char) :
    formed placed (q ++ '/' :: path) = stem placed q ++ path := by
  cases placed with
  | true =>
    show Percent.encodeUnless keepsInPath (dropDots (q ++ '/' :: path)) = _
    rw [dropDots_append hpath.parts, Percent.encodeUnless_append, encode_of_below hpath]
    rfl
  | false =>
    show Percent.encodeUnless keepsInPath (q ++ '/' :: path) = _
    rw [List.append_cons, Percent.encodeUnless_append, encode_of_below hpath]
    rfl

theorem encode_append_slash (front : List Char) :
    Percent.encodeUnless keepsInPath (front ++ ['/']) =
      Percent.encodeUnless keepsInPath front ++ ['/'] := by
  rw [Percent.encodeUnless_append]
  rfl

theorem isPlaced_of_isAbsolute {u : Url} (h : u.isAbsolute = true) : u.isPlaced = true := by
  simp only [isAbsolute, Bool.and_eq_true] at h
  simp only [isPlaced, h.1, Bool.or_true]

/-- The path of a URL that leads to a host starts at the root, and so does all below it. -/
theorem exists_front_of_absolute {base : List Char} {b : Url} (hbase : Base base)
    (hb : site (Parts.ofText base) = .ok b) (habsolute : b.isAbsolute = true) :
    ∃ front, stem b.isPlaced (Parts.ofText base).path = front ++ ['/'] := by
  have hhost : b.host ≠ [] := by
    simp only [isAbsolute, Bool.and_eq_true, Bool.not_eq_true', List.isEmpty_eq_false_iff]
      at habsolute
    exact habsolute.2
  have hauthority : (Parts.ofText base).authority ≠ [] := fun h => hhost (host_of_site hb h)
  obtain ⟨front, hfront⟩ := lead_of_rooted (path_of_authority hbase hauthority)
  refine ⟨Percent.encodeUnless keepsInPath front, ?_⟩
  rw [isPlaced_of_isAbsolute habsolute, stem, if_pos rfl, hfront, encode_append_slash]

theorem stem_eq (placed : Bool) (q : List Char) :
    stem placed q = [] ∨ ∃ front, stem placed q = front ++ ['/'] := by
  cases placed with
  | true =>
    rw [stem, if_pos rfl]
    rcases lead_eq q with h | ⟨front, h⟩
    · rw [h]
      exact Or.inl rfl
    · rw [h, encode_append_slash]
      exact Or.inr ⟨_, rfl⟩
  | false => exact Or.inr ⟨_, encode_append_slash q⟩

/-- Of several slashes at the root one is left. -/
theorem exists_front_of_rooted (placed : Bool) (q : List Char) :
    ∃ front, '/' :: (stem placed q).dropWhile (· = '/') = front ++ ['/'] := by
  rcases stem_eq placed q with h | ⟨front, h⟩
  · rw [h]
    exact ⟨[], rfl⟩
  · rw [h, List.dropWhile_append]
    split
    · exact ⟨[], rfl⟩
    · exact ⟨'/' :: front.dropWhile (· = '/'), rfl⟩

theorem ofParts_of_ofText {text : String} {u : Url} (h : ofText text = .ok u) :
    ofParts (.ofText text.toList) = .ok u := by
  unfold ofText at h
  dsimp only at h
  split at h
  · simp only [reduceCtorEq] at h
  · split at h
    · simp only [reduceCtorEq] at h
    · exact h

theorem ofParts_of_rebuild {p : Parts} {u : Url} (h : rebuild p = .ok u) : ofParts p = .ok u := by
  unfold rebuild at h
  split at h
  · simp only [reduceCtorEq] at h
  · exact h

/-- A URL whose path stays as it is when the URL is put together again. -/
def Settled (u : Url) : Prop :=
  (∀ placed, formed placed u.path = u.path) ∨
    (formed false u.path = u.path ∧ u.scheme = [] ∧ u.authority = [])

theorem eq_of_withQuery {u v : Url} {query : List Char} (h : u.withQuery query = .ok v)
    (hsettled : Settled u) :
    v.path = u.path ∧ v.query = some (Percent.encodeUnless keepsInQuery query) := by
  obtain ⟨b, hb, hv⟩ := eq_of_ofParts_eq_ok (ofParts_of_rebuild h)
  have hquery : v.query = some (Percent.encodeUnless keepsInQuery query) := by
    rw [hv]
    exact query_of_site hb
  refine ⟨?_, hquery⟩
  rw [hv]
  show formed b.isPlaced u.path = u.path
  rcases hsettled with hpath | ⟨hpath, hscheme, hauthority⟩
  · exact hpath b.isPlaced
  · rw [(site_of_nowhere hb hscheme hauthority).2.2]
    exact hpath

/-- The path from the root of a URL that does not say where it leads. -/
theorem eq_of_rooted {u v : Url} (h : u.rooted = .ok v) (hrelative : u.isAbsolute = false)
    (hquery : u.query = none) (hpath : u.path ≠ [])
    (hkeeps : ∀ c ∈ u.path, keepsInPath c = true) :
    v.path = '/' :: u.path.dropWhile (· = '/') ∧ v.query = none ∧ Settled v := by
  have htarget : u.target = u.path := by
    rw [target, List.isEmpty_eq_false_iff.mpr hpath]
    rfl
  have hall : ∀ c ∈ '/' :: u.path.dropWhile (· = '/'), keepsInPath c = true := by
    intro c hc
    rcases List.mem_cons.mp hc with rfl | hc
    · decide
    · exact hkeeps c ((List.dropWhile_suffix _).subset hc)
  have hmark : ∀ c ∈ '/' :: u.path.dropWhile (· = '/'), decide (c ≠ '?') = true := by
    intro c hc
    have hne : c ≠ '?' := by
      rintro rfl
      exact absurd (hall _ hc) (by decide)
    exact decide_eq_true hne
  -- No mark is left to part the path from a query, so the whole is the path.
  have hwhole : rebuild { path := '/' :: u.path.dropWhile (· = '/') } = .ok v := by
    rw [rooted, hrelative, if_neg Bool.false_ne_true, hquery, htarget, marked,
      List.append_nil] at h
    dsimp only at h
    rw [List.takeWhile_eq_self_iff.mpr hmark, List.dropWhile_eq_nil_iff.mpr hmark] at h
    exact h
  obtain ⟨b, hb, hv⟩ := eq_of_ofParts_eq_ok (ofParts_of_rebuild hwhole)
  obtain ⟨hscheme, hauthority, hplaced⟩ := site_of_nowhere hb rfl rfl
  have hformed := formed_false_of_keeps hall
  have hvpath : v.path = '/' :: u.path.dropWhile (· = '/') := by
    rw [hv, hplaced]
    exact hformed
  refine ⟨hvpath, ?_, Or.inr ⟨?_, ?_, ?_⟩⟩
  · rw [hv]
    exact query_of_site hb
  · rw [hvpath]
    exact hformed
  · rw [hv]
    exact hscheme
  · rw [hv]
    exact hauthority

/-- A URL with a path below its own. -/
def under (b : Url) (q path : List Char) : Url := { b with path := stem b.isPlaced q ++ path }

theorem eq_under {base path : List Char} {b u : Url} (hbase : Base base) (hpath : Below path)
    (hsite : site (Parts.ofText base) = .ok b)
    (h : ofParts (.ofText (base ++ '/' :: path)) = .ok u) :
    u = b.under (Parts.ofText base).path path := by
  rw [ofText_append hbase hpath] at h
  obtain ⟨b', hb', hu⟩ := eq_of_ofParts_eq_ok h
  have hsame : b' = b := Except.ok.inj (hb'.symm.trans hsite)
  rw [hu, hsame]
  exact congrArg (fun p => { b with path := p }) (formed_append hpath b.isPlaced _)

section

variable {b v : Url} {q front path : List Char}

theorem keeps_of_mem_under (hpath : Below path) {c : Char} (h : c ∈ (b.under q path).path) :
    keepsInPath c = true := by
  have hformed : (b.under q path).path = formed b.isPlaced (q ++ '/' :: path) :=
    (formed_append hpath b.isPlaced q).symm
  rw [hformed] at h
  exact keeps_of_mem_formed h

theorem rooted_under_of_absolute (hpath : Below path) (habsolute : b.isAbsolute = true)
    (hquery : b.query = none) (hfront : stem b.isPlaced q = front ++ ['/'])
    (h : (b.under q path).rooted = .ok v) :
    v.path = front ++ '/' :: path ∧ v.query = none ∧ Settled v := by
  have hv : b.under q path = v := by
    have hunder : (b.under q path).isAbsolute = true := habsolute
    rw [rooted, hunder, if_pos rfl] at h
    exact Except.ok.inj h
  rw [← hv]
  refine ⟨?_, hquery, Or.inl ?_⟩
  · rw [under, hfront, List.append_assoc, List.singleton_append]
  · intro placed
    show formed placed (stem b.isPlaced q ++ path) = stem b.isPlaced q ++ path
    rw [← formed_append hpath, isPlaced_of_isAbsolute habsolute, formed_formed_true]

theorem rooted_under_of_relative (hpath : Below path) (hrelative : b.isAbsolute = false)
    (hquery : b.query = none)
    (hfront : '/' :: (stem b.isPlaced q).dropWhile (· = '/') = front ++ ['/'])
    (h : (b.under q path).rooted = .ok v) :
    v.path = front ++ '/' :: path ∧ v.query = none ∧ Settled v := by
  obtain ⟨c, rest, hhead, hc⟩ := hpath.head
  have hdrop : (stem b.isPlaced q ++ c :: rest).dropWhile (· = '/') =
      (stem b.isPlaced q).dropWhile (· = '/') ++ c :: rest :=
    dropWhile_append_stop (fun d => decide (d = '/')) (decide_eq_false hc) _ rest
  have hne : (b.under q path).path ≠ [] := by
    rw [under, hhead]
    exact List.append_ne_nil_of_right_ne_nil _ (List.cons_ne_nil c rest)
  obtain ⟨hvpath, hvquery, hsettled⟩ :=
    eq_of_rooted h hrelative hquery hne fun c hc => keeps_of_mem_under hpath hc
  refine ⟨?_, hvquery, hsettled⟩
  -- The slashes at the root end where the path below the base begins.
  calc v.path = '/' :: (stem b.isPlaced q ++ path).dropWhile (· = '/') := hvpath
    _ = ('/' :: (stem b.isPlaced q).dropWhile (· = '/')) ++ path := by
        rw [hhead, hdrop, List.cons_append]
    _ = front ++ '/' :: path := by
        rw [hfront, List.append_assoc, List.singleton_append]

end

/-- The path below a base is seen below one front, which the base alone determines. -/
theorem exists_front {base : List Char} (hbase : Base base) :
    ∃ front, ∀ path u v, Below path → ofParts (.ofText (base ++ '/' :: path)) = .ok u →
      u.rooted = .ok v → v.path = front ++ '/' :: path ∧ v.query = none ∧ Settled v := by
  cases hsite : site (Parts.ofText base) with
  | error e =>
    -- Where the base is no URL, nothing below it is one.
    refine ⟨[], fun path u v hpath hu _ => ?_⟩
    rw [ofText_append hbase hpath] at hu
    obtain ⟨b, hb, -⟩ := eq_of_ofParts_eq_ok hu
    have hnone : site (Parts.ofText base) = .ok b := hb
    rw [hsite] at hnone
    simp only [reduceCtorEq] at hnone
  | ok b =>
    have hquery : b.query = none := by
      rw [query_of_site hsite, ofText_of_unmarked hbase.noQuery hbase.noFragment]
      rfl
    cases habsolute : b.isAbsolute with
    | true =>
      obtain ⟨front, hfront⟩ := exists_front_of_absolute hbase hsite habsolute
      refine ⟨front, fun path u v hpath hu hv => ?_⟩
      rw [eq_under hbase hpath hsite hu] at hv
      exact rooted_under_of_absolute hpath habsolute hquery hfront hv
    | false =>
      obtain ⟨front, hfront⟩ := exists_front_of_rooted b.isPlaced (Parts.ofText base).path
      refine ⟨front, fun path u v hpath hu hv => ?_⟩
      rw [eq_under hbase hpath hsite hu] at hv
      exact rooted_under_of_relative hpath habsolute hquery hfront hv

end ChainHistory.Url

namespace ChainHistory.Indexer.Message

open Text

theorem keepsInQuery_of_mem_formText {fields : List (String × String)} {c : Char}
    (h : c ∈ formText fields) : Url.keepsInQuery c = true := by
  rcases mem_joinWith h with rfl | ⟨p, hp, hc⟩
  · decide
  · obtain ⟨f, -, rfl⟩ := List.mem_map.mp hp
    have htext {s : String} (hc : c ∈ encodeFormText s) : Url.keepsInQuery c = true := by
      rcases mem_encodeFormText hc with rfl | rfl | hc
      · decide
      · decide
      · exact Url.keepsInQuery_of_isUnreserved hc
    rcases List.mem_append.mp hc with hc | hc
    · exact htext hc
    · rcases List.mem_cons.mp hc with rfl | hc
      · decide
      · exact htext hc

/-- The parameters of a request, if it has any, are the query that is seen. -/
theorem eq_of_addParams {r : Request} {u v : Url} (h : addParams r u = .ok v)
    (hquery : u.query = none) (hsettled : Url.Settled u) :
    v.path = u.path ∧ v.query.getD [] = formText r.params := by
  unfold addParams at h
  split at h
  · rename_i hempty
    rw [← Except.ok.inj h, hquery, List.isEmpty_iff.mp hempty]
    exact ⟨rfl, rfl⟩
  · obtain ⟨hpath, hvquery⟩ := Url.eq_of_withQuery h hsettled
    refine ⟨hpath, ?_⟩
    rw [hvquery, Option.getD_some]
    exact Percent.encodeUnless_of_forall fun c hc => keepsInQuery_of_mem_formText hc

/-- How a message comes of its request. -/
theorem eq_of_ofRequest_eq_ok {r : Request} {m : Message} (h : ofRequest r = .ok m) :
    m.request = r ∧ (∃ u, locate r = .ok u ∧ addParams r u = .ok m.url) ∧
      m.params = groupFields (formFields (m.url.query.getD [])) := by
  unfold ofRequest at h
  obtain ⟨u, hu, h⟩ := Outcome.exists_of_bind h
  obtain ⟨-, -, h⟩ := Outcome.exists_of_bind h
  obtain ⟨v, hv, h⟩ := Outcome.exists_of_bind h
  obtain ⟨host, -, h⟩ := Outcome.exists_of_bind h
  obtain ⟨-, -, h⟩ := Outcome.exists_of_bind h
  rw [← Except.ok.inj h]
  exact ⟨rfl, ⟨u, Outcome.eq_of_mapError hu, Outcome.eq_of_mapError hv⟩, rfl⟩

theorem toList_url (r : Request) : r.url.toList = r.baseUrl.toList ++ '/' :: r.path.toList := by
  show (r.baseUrl ++ "/" ++ r.path).toList = _
  rw [String.toList_append, String.toList_append, List.append_assoc]
  rfl

/-- Below a base that ends no path, the indexer sees the path and the parameters of a request as
they are; what it sees before the path is the same for all requests. -/
theorem exists_front {base : String} (hbase : Url.Base base.toList) :
    ∃ front : String, ∀ r m, r.baseUrl = base → Url.Below r.path.toList → ofRequest r = .ok m →
      m.target = front ++ "/" ++ r.path ∧ m.params = groupFields r.params := by
  obtain ⟨front, hfront⟩ := Url.exists_front hbase
  refine ⟨String.ofList front, fun r m hr hpath hm => ?_⟩
  obtain ⟨-, ⟨u, hu, hadd⟩, hparams⟩ := eq_of_ofRequest_eq_ok hm
  obtain ⟨w, htext, hrooted⟩ := Outcome.exists_of_bind hu
  have hparts := Url.ofParts_of_ofText htext
  rw [toList_url, hr] at hparts
  obtain ⟨hpathu, hqueryu, hsettled⟩ := hfront r.path.toList w u hpath hparts hrooted
  obtain ⟨hpathm, hquerym⟩ := eq_of_addParams hadd hqueryu hsettled
  constructor
  · have hne : m.url.path.isEmpty = false := by
      rw [hpathm, hpathu, List.isEmpty_eq_false_iff]
      exact List.append_ne_nil_of_right_ne_nil front (List.cons_ne_nil '/' _)
    apply String.toList_inj.mp
    rw [target, Url.target, hne, if_neg Bool.false_ne_true, String.toList_ofList, hpathm, hpathu,
      String.toList_append, String.toList_append, String.toList_ofList, List.append_assoc]
    rfl
  · rw [hparams, hquerym, formFields_formText]

end ChainHistory.Indexer.Message
