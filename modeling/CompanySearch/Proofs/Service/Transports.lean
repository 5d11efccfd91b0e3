-- The two ways to send a search. Whether its parts are named in a query string or in a body, the
-- service makes the same search of the cache.
import CompanySearch.Proofs.Search.Parts
import CompanySearch.Proofs.Text.Form
import CompanySearch.Service.Task

namespace CompanySearch

open Search Text

/-! ## Targets -/

namespace Web

/-- A target is cut at its first question mark, if there is no number sign in it. -/
theorem splitTarget_query {path query : String} (hpath : ∀ c ∈ path.toList, c ≠ '?' ∧ c ≠ '#')
    (hquery : ∀ c ∈ query.toList, c ≠ '#') :
    splitTarget (path ++ "?" ++ query) = (path, query) := by
  have hsent : ∀ c ∈ path.toList ++ '?' :: query.toList, (c != '#') = true := by
    intro c hc
    rw [bne_iff_ne]
    rcases List.mem_append.mp hc with hc | hc
    · exact (hpath c hc).2
    · rcases List.mem_cons.mp hc with rfl | hc
      · decide
      · exact hquery c hc
  have hrun : ∀ c ∈ path.toList, (c != '?') = true :=
    fun c hc => bne_iff_ne.mpr (hpath c hc).1
  have hstop : Stops (· != '?') ('?' :: query.toList) := stops_cons.mpr (by decide)
  have htarget : (path ++ "?" ++ query).toList = path.toList ++ '?' :: query.toList := by
    simp
  have hwhole := takeWhile_run hsent (show Stops (· != '#') [] by simp [Stops])
  rw [List.append_nil] at hwhole
  unfold splitTarget
  rw [htarget]
  simp only [hwhole, takeWhile_run hrun hstop, dropWhile_run hrun hstop, List.drop_succ_cons,
    List.drop_zero, String.ofList_toList]

/-! ## Requests for a search -/

/-- The request for a search in a query string. -/
def Request.forQuery (query : String) (headers : Headers) (body : List UInt8) : Request :=
  .make "GET" ("/api/companies" ++ "?" ++ query) headers body

/-- The request for a search in a body. -/
def Request.forBody (body : String) (headers : Headers) : Request :=
  .make "POST" "/api/companies/_search" headers (Utf8.encode body.toList)

@[simp]
theorem Request.forQuery_method (query : String) (headers : Headers) (body : List UInt8) :
    (Request.forQuery query headers body).method = "GET" := rfl

@[simp]
theorem Request.forBody_method (body : String) (headers : Headers) :
    (Request.forBody body headers).method = "POST" := rfl

/-- The body of a request is read: it is said to be in the data format, and it is not too large. -/
structure TakesBody (limit : Nat) (request : Request) : Prop where
  typed : (request.headers.first? "content-type").any
    (fun t => isVisible t && isJsonType t) = true
  fits : request.body.length ≤ limit

theorem demand_forQuery {ps : List (String × String)} {query : String}
    (h : Form.WritesPairs ps query.toList) (limit : Nat) (headers : Headers)
    (body : List UInt8) :
    demand limit (.forQuery query headers body) = ofSearch (readQuery query) := by
  have hsplit : splitTarget ("/api/companies" ++ "?" ++ query) = ("/api/companies", query) :=
    splitTarget_query (by decide) fun c hc => (h.visible c hc).2
  unfold Request.forQuery Request.make
  rw [hsplit]
  rfl

theorem demand_forBody {limit : Nat} {body : String} {headers : Headers} {r : Search.Request}
    (taken : TakesBody limit (.forBody body headers)) {rest : List Char}
    (hread : Search.readRequest body.toList = .ok (r, rest)) :
    demand limit (.forBody body headers) = .search r := by
  have hpath : (Request.forBody body headers).path = "/api/companies/_search" := by
    change (splitTarget "/api/companies/_search").1 = _
    decide
  have hlimit := Nat.not_lt.mpr taken.fits
  have hchars : bodyChars (Request.forBody body headers).body = body.toList := by
    have hsound : Utf8.decodeSound (Request.forBody body headers).body = (body.toList, false) :=
      Utf8.decodeSound_encode body.toList
    unfold bodyChars
    rw [hsound]
  have hbody : readBody limit (.forBody body headers) = .ok r := by
    unfold readBody
    simp only [taken.typed, hchars, hread, if_neg hlimit]
    rfl
  unfold demand
  rw [hpath]
  change ofSearch (readBody limit (.forBody body headers)) = _
  rw [hbody]
  rfl

end Web

/-! ## The law -/

/-- Whoever sends the request has this search made: all that the exchange comes to is a call for
it, and nothing has happened to the cache before. -/
def Service.Board.Searches (b : Board) (request : Web.Request) (r : Search.Request) : Prop :=
  ∀ i id, ∃ b' : Board, b.exchange i request id = b'.call i (.exchange request id) (.search r) ∧
    b'.service.cache = b.service.cache ∧ b'.tasks = b.tasks

theorem Service.Board.searches_of_demand {b : Board} {request : Web.Request} {r : Search.Request}
    (hmethod : request.method ≠ "OPTIONS")
    (hdemand : Web.demand b.service.bodyLimit request = .search r) : b.Searches request r := by
  intro i id
  unfold exchange
  rw [if_neg hmethod]
  simp only [Service.log, hdemand]
  exact ⟨_, rfl, rfl, rfl⟩

/-- Each search can be sent in a query string and in a body, with its parts under any of their
names and in any order. From every such query string and every such body it is read back, and the
service makes it. -/
theorem both_transports_make_the_same_search (r : Search.Request) :
    (∃ ps, r.GivenBy ps) ∧ ∀ ps, r.GivenBy ps →
      ((∃ query : String, Form.WritesPairs ps query.toList) ∧
        ∀ query : String, Form.WritesPairs ps query.toList → ofQueryString? query = some r ∧
          ∀ (b : Service.Board) headers body, b.Searches (.forQuery query headers body) r) ∧
      ((∃ body : String, WritesBody ps body.toList) ∧
        ∀ body : String, WritesBody ps body.toList → ofJson body = .ok r ∧
          ∀ (b : Service.Board) headers, Web.TakesBody b.service.bodyLimit
            (.forBody body headers) → b.Searches (.forBody body headers) r) := by
  refine ⟨⟨_, r.givenBy_named⟩, fun ps given => ⟨⟨?_, ?_⟩, ?_, ?_⟩⟩
  · obtain ⟨s, hs⟩ := Form.exists_writesPairs ps
    exact ⟨String.ofList s, by rw [String.toList_ofList]; exact hs⟩
  · intro query hquery
    have hread : ofQueryString? query = some r := by
      unfold ofQueryString?
      rw [← String.ofList_toList (s := query), hquery.decode, given.ofPairs?]
    refine ⟨hread, fun b headers body => Service.Board.searches_of_demand (by simp) ?_⟩
    rw [Web.demand_forQuery hquery, Web.readQuery, hread]
    rfl
  · obtain ⟨s, hs⟩ := exists_writesBody ps
    exact ⟨String.ofList s, by rw [String.toList_ofList]; exact hs⟩
  · intro body hbody
    obtain ⟨w, -, hread⟩ := hbody.readRequest
    rw [given.ofPairs?] at hread
    refine ⟨by rw [hbody.ofJson, given.ofPairs?]; rfl, fun b headers taken => ?_⟩
    exact Service.Board.searches_of_demand (by simp) (Web.demand_forBody taken hread)

/-- Neither escapes, nor reserved signs, nor the names and their order make a difference. -/
theorem a_search_for_reserved_signs_is_sent_both_ways :
    ∃ (r : Search.Request) (query body : String) (b : Service.Board) (headers : Web.Headers),
      r = ⟨"a>=\"ß\"", some "R&D", none, none⟩ ∧
      query = "sort_by=R%26D&search=a%3e%3D%22%C3%9f%22" ∧
      body = " \x7b\"search_text\" :\"a>=\\\"\\u00DF\\\"\",\n\"sort_field\": \"R\\u0026D\"\x7d" ∧
      ofQueryString? query = some r ∧ ofJson body = .ok r ∧
      b.Searches (.forQuery query [] []) r ∧ b.Searches (.forBody body headers) r := by
  let r : Search.Request := ⟨"a>=\"ß\"", some "R&D", none, none⟩
  let query := "sort_by=R%26D&search=a%3e%3D%22%C3%9f%22"
  let body := " \x7b\"search_text\" :\"a>=\\\"\\u00DF\\\"\",\n\"sort_field\": \"R\\u0026D\"\x7d"
  let b : Service.Board := ⟨.ofStore (.inMemory []) 300000 fun _ => "", [], [], []⟩
  let headers : Web.Headers := [("Content-Type", "application/json")]
  have hquery : Form.WritesPairs [("sort_by", "R&D"), ("search", "a>=\"ß\"")] query.toList := by
    have hfield : Form.Spells (Utf8.encode "R&D".toList) "R%26D".toList :=
      .plain (show Form.Plain 'R' by decide) (.percent (show _ = some 2 from rfl)
        (show _ = some 6 from rfl) (.plain (show Form.Plain 'D' by decide) .nil))
    have htext : Form.Spells (Utf8.encode "a>=\"ß\"".toList) "a%3e%3D%22%C3%9f%22".toList :=
      .plain (show Form.Plain 'a' by decide) (.percent (show _ = some 3 from rfl)
        (show _ = some 14 from rfl) (.percent (show _ = some 3 from rfl)
        (show _ = some 13 from rfl) (.percent (show _ = some 2 from rfl)
        (show _ = some 2 from rfl) (.percent (show _ = some 12 from rfl)
        (show _ = some 3 from rfl) (.percent (show _ = some 9 from rfl)
        (show _ = some 15 from rfl) (.percent (show _ = some 2 from rfl)
        (show _ = some 2 from rfl) .nil))))))
    have hlayout : query.toList = "sort_by".toList ++ '=' :: "R%26D".toList ++
        '&' :: ("search".toList ++ '=' :: "a%3e%3D%22%C3%9f%22".toList) := by decide
    rw [hlayout]
    exact .cons ⟨"sort_by".toList, _, .of_plain (by decide), hfield, rfl⟩
      (.last ⟨"search".toList, _, .of_plain (by decide), htext, rfl⟩)
  have hbody : WritesBody [("search_text", "a>=\"ß\""), ("sort_field", "R&D")] body.toList := by
    have htext : Json.Spells "a>=\"ß\"".toList "a>=\\\"\\u00DF\\\"".toList :=
      .raw (by decide) (.raw (by decide) (.raw (by decide) (.short rfl
        (.code (show _ = some 0xDF from rfl) rfl rfl (.short rfl .nil)))))
    have hfield : Json.Spells "R&D".toList "R\\u0026D".toList :=
      .raw (by decide) (.code (show _ = some 0x26 from rfl) rfl rfl (.raw (by decide) .nil))
    exact ⟨[' '], _, [], by decide, .full spaces_nil
      (.cons ⟨"search_text".toList, [' '], [], _, .of_raw (by decide), by decide, spaces_nil,
        htext, rfl⟩ spaces_nil (show Spaces ['\n'] by decide)
        (.last ⟨"sort_field".toList, [], [' '], _, .of_raw (by decide), spaces_nil, by decide,
          hfield, rfl⟩ spaces_nil)), spaces_nil, by decide⟩
  have given : r.GivenBy [("sort_by", "R&D"), ("search", "a>=\"ß\"")] := by decide
  have given' : r.GivenBy [("search_text", "a>=\"ß\""), ("sort_field", "R&D")] := by decide
  have taken : Web.TakesBody b.service.bodyLimit (.forBody body headers) :=
    ⟨by decide +kernel, by decide +kernel⟩
  obtain ⟨hread, hsearches⟩ :=
    ((both_transports_make_the_same_search r).2 _ given).1.2 query hquery
  obtain ⟨hread', hsearches'⟩ :=
    ((both_transports_make_the_same_search r).2 _ given').2.2 body hbody
  exact ⟨r, query, body, b, headers, rfl, rfl, rfl, hread, hread', hsearches b [] [],
    hsearches' b headers taken⟩

end CompanySearch
