import YasinMcp.Adapters.GitHubRoutes
import YasinMcp.Foundation.DecimalText
import YasinMcp.Foundation.UriQuery

/-!
# The search of the GitHub adapter

The query of a search is any text, and goes into the URL with its bytes escaped.  A search
that is accepted makes one request, whose parameters are read as the stripped query and the
limit: no query ends its parameter, adds another one, or leaves the endpoint.
-/

namespace YasinMcp

open Foundation GitHub

namespace GitHub

/-- The digits of the escapes in a query. -/
def upperDigits : Uri.EscapeDigits where
  digit := upperHex
  value := by decide

theorem toList_quoteQuery (query : String) :
    (quoteQuery query).toList = upperDigits.writeBytes (encodeUtf8 query) := by
  rw [quoteQuery, String.toList_ofList]
  rfl

end GitHub

namespace GitHubAdapter

/-- The parameters that a search is meant to have. -/
def searchParameters (query : String) (limit : Int) : List Uri.Parameter :=
  [(encodeUtf8 "q", encodeUtf8 (Text.strip query)),
    (encodeUtf8 "per_page", encodeUtf8 (toString limit))]

structure SearchAccepted (query : String) (limit : Int) : Prop where
  said : Text.strip query ≠ ""
  bounded : 1 ≤ limit ∧ limit ≤ maxSearchResults

/-- The URL is read as one of a search for this query with this limit. -/
def SearchesFor (query : String) (limit : Int) (url : String) : Prop :=
  Uri.Asks url "api.github.com" ["search".toList, "code".toList] (searchParameters query limit)

section

variable {query : String} {limit : Int}

def searchPath (query : String) (limit : Int) : Except PyException String := do
  if Text.strip query = "" then .error (validationError "search query must be non-empty")
  else do
    validateLimit limit
    .ok ("/search/code?q=" ++ quoteQuery (Text.strip query) ++ "&per_page=" ++ toString limit)

theorem searchPath_of_accepted (h : SearchAccepted query limit) :
    searchPath query limit =
      .ok ("/search/code?q=" ++ quoteQuery (Text.strip query) ++ "&per_page=" ++
        toString limit) := by
  rw [searchPath, if_neg h.said, validateLimit, if_pos h.bounded]
  rfl

theorem searchPath_of_refused (h : ¬SearchAccepted query limit) :
    exists message, searchPath query limit = .error (validationError message) := by
  rw [searchPath]
  by_cases hsaid : Text.strip query = ""
  · rw [if_pos hsaid]
    exact ⟨_, rfl⟩
  · rw [if_neg hsaid, validateLimit, if_neg fun hbounded => h ⟨hsaid, hbounded⟩]
    exact ⟨_, rfl⟩

theorem written_searchParameters (hlimit : 0 ≤ limit) :
    upperDigits.writeParameters (searchParameters query limit) =
      "q=".toList ++ (quoteQuery (Text.strip query)).toList ++ "&per_page=".toList ++
        (toString limit).toList := by
  have hname : upperDigits.writeBytes (encodeUtf8 "q") = "q".toList :=
    upperDigits.writeBytes_utf8 (List.all_eq_true.mp (by decide))
  have hother : upperDigits.writeBytes (encodeUtf8 "per_page") = "per_page".toList :=
    upperDigits.writeBytes_utf8 (List.all_eq_true.mp (by decide))
  have hdigits : upperDigits.writeBytes (encodeUtf8 (toString limit)) =
      (toString limit).toList := by
    apply upperDigits.writeBytes_utf8
    intro c hc
    exact Uri.isUnreserved_of_isDigit (Uri.isDigit_of_mem_toString hlimit hc)
  rw [searchParameters, upperDigits.writeParameters_cons_cons,
    Uri.EscapeDigits.writeParameters, List.map_singleton, List.intercalate_singleton,
    Uri.EscapeDigits.writeParameter, Uri.EscapeDigits.writeParameter, hname, hother, hdigits,
    toList_quoteQuery]
  simp

theorem route_of_search (adapter : GitHubAdapter) (hlimit : 0 ≤ limit) :
    (adapter.request ("/search/code?q=" ++ quoteQuery (Text.strip query) ++ "&per_page=" ++
        toString limit)).url =
      site.route ["search".toList, "code".toList]
        (some (upperDigits.writeParameters (searchParameters query limit))) := by
  have hfront : (githubApi ++ "/search/code?q=").toList =
      site.scheme ++ ':' :: '/' :: '/' :: site.authority ++ '/' ::
        ['/'].intercalate ["search".toList, "code".toList] ++ '?' :: "q=".toList := by
    decide
  apply String.toList_injective
  rw [Uri.Site.route, String.toList_ofList, Uri.queryPart, written_searchParameters hlimit]
  show (githubApi ++ _).toList = _
  rw [← String.append_assoc, ← String.append_assoc, ← String.append_assoc, String.toList_append,
    String.toList_append, String.toList_append, hfront]
  simp only [List.append_assoc, List.cons_append]

theorem searchesFor_of_accepted (adapter : GitHubAdapter) (h : SearchAccepted query limit) :
    SearchesFor query limit (adapter.request ("/search/code?q=" ++
      quoteQuery (Text.strip query) ++ "&per_page=" ++ toString limit)).url := by
  have hlimit : 0 ≤ limit := Int.le_trans (by decide) h.bounded.1
  rw [route_of_search adapter hlimit]
  exact upperDigits.asks_route site (by decide) (by decide) (List.cons_ne_nil _ _)

theorem eq_of_toString_eq {limit' : Int} (hlimit : 0 ≤ limit) (hlimit' : 0 ≤ limit')
    (h : toString limit = toString limit') : limit = limit' := by
  rcases Int.eq_ofNat_of_zero_le hlimit with ⟨n, hn⟩
  rcases Int.eq_ofNat_of_zero_le hlimit' with ⟨n', hn'⟩
  rw [hn, hn'] at h
  have hrepr : n.repr = n'.repr := h
  have hvalue := digitsValue_repr n
  rw [hrepr, digitsValue_repr] at hvalue
  rw [hn, hn', hvalue]

theorem SearchesFor.unique {query' : String} {limit' : Int} {url : String}
    (haccepted : SearchAccepted query limit) (haccepted' : SearchAccepted query' limit')
    (h : SearchesFor query limit url) (h' : SearchesFor query' limit' url) :
    Text.strip query = Text.strip query' ∧ limit = limit' := by
  have hparameters := (Uri.Asks.unique h h').2.2
  simp only [searchParameters, List.cons.injEq, Prod.mk.injEq, and_true, true_and] at hparameters
  have htext := fun (s t : String) (h : encodeUtf8 s = encodeUtf8 t) =>
    String.toList_injective (Uri.utf8_injective h)
  exact ⟨htext _ _ hparameters.1, eq_of_toString_eq
    (Int.le_trans (by decide) haccepted.bounded.1)
    (Int.le_trans (by decide) haccepted'.bounded.1) (htext _ _ hparameters.2)⟩

/--
A search whose query is not blank and whose limit is allowed can make one request, which is
read as one for the stripped query with the limit; any other search raises a validation
error and requests nothing.
-/
theorem searchCode_asks (py : Builtins) (adapter : GitHubAdapter) (query : String) (limit : Int) :
    (forall trace rest, Program.Emits (adapter.searchCode py query limit) trace rest ->
      trace = [] ∨ exists event, trace = [event] ∧ SearchAccepted query limit ∧
        SearchesFor query limit event.1.url) ∧
      (SearchAccepted query limit -> forall answer, exists event rest,
        Program.Emits (adapter.searchCode py query limit) [event] rest ∧ event.2 = answer) ∧
      (¬SearchAccepted query limit ->
        exists message, adapter.searchCode py query limit = .raise (validationError message)) := by
  have hsearch : adapter.searchCode py query limit =
      adapter.fetch (searchPath query limit) (readSearchResults py limit) := rfl
  rw [hsearch]
  refine ⟨?_, ?_, ?_⟩
  · intro trace rest hemits
    rcases emits_fetch hemits with ⟨htrace, _⟩ | ⟨text, answer, htext, htrace, _⟩
    · exact Or.inl htrace
    · by_cases haccepted : SearchAccepted query limit
      · rw [searchPath_of_accepted haccepted] at htext
        cases htext
        exact Or.inr ⟨_, htrace, haccepted, searchesFor_of_accepted adapter haccepted⟩
      · rcases searchPath_of_refused haccepted with ⟨message, hmessage⟩
        rw [hmessage] at htext
        cases htext
  · intro haccepted answer
    rw [fetch_of_ok (searchPath_of_accepted haccepted)]
    exact ⟨⟨_, answer⟩, _, Program.Emits.perform (Program.Emits.refl _), rfl⟩
  · intro hrefused
    rcases searchPath_of_refused hrefused with ⟨message, hmessage⟩
    exact ⟨message, fetch_of_error hmessage _⟩

end

end GitHubAdapter

end YasinMcp
