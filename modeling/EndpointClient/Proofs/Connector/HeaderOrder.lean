import EndpointClient.Proofs.Connector.Asked
import EndpointClient.Proofs.Http.Header
import EndpointClient.Proofs.Http.HeaderOrder
import EndpointClient.Proofs.Request.Settings

/-!
# EndpointClient.Proofs.Connector.HeaderOrder

Header fields on their way to an engine and back.

* `ClientRequest.headers_mapHeaders`: fields that are appended in place come after those that the
  request was made with.
* `headers_keep_order`: an engine gets the fields of a request grouped by name and otherwise as they
  were given, and a caller gets those of a response as they are.
-/

namespace EndpointClient

open Http (HeaderMap HeaderName HeaderValue)
open RequestSetting (fieldsOf)

namespace ClientRequest

/-- A request with header fields, and with more of them appended in place. -/
def makeWith (method : Http.Method) (uri : Http.Uri) (settings : List RequestSetting)
    (more : List (HeaderName × HeaderValue)) : ClientRequest :=
  (make method uri settings).mapHeaders fun h => more.foldl (fun h f => h.append f.1 f.2) h

theorem headers_makeWith (method : Http.Method) (uri : Http.Uri) (settings : List RequestSetting)
    (more : List (HeaderName × HeaderValue)) :
    (makeWith method uri settings more).headers = HeaderMap.ofList (fieldsOf settings ++ more) := by
  simp only [makeWith, mapHeaders, headers_make, HeaderMap.ofList, List.foldl_append]

end ClientRequest

/-- **The order of header fields.** Let a request be made with any settings, with an entity or without
one, let more fields be appended to it in place, and let it be sent to be waited for or in the
background. The engine gets, and sends over the wire, the names in the order in which they first
came, each with all its values in the order in which they came; these are the fields that were
given, each as often as it was given. Whatever the engine answers, the caller is handed the same
sequence of fields and the same values for each name: a map is made anew by its own fields. Names
are the same if they are the same in lower case. -/
theorem headers_keep_order (c : Connector) (breaks : SendOutcome → Option String)
    (method : Http.Method) (uri : Http.Uri) (settings : List RequestSetting)
    (more : List (HeaderName × HeaderValue)) :
    let fields := fieldsOf settings ++ more
    let r := ClientRequest.makeWith method uri settings more
    let q := r.engineRequest
    c.AsksFor (.awaited r) q ∧ c.AsksFor (.background r breaks) q ∧
      q.split.1.headers = q.headers ∧
      q.headers.toList = (fields.map (·.1)).eraseDups.flatMap (fun n => fields.filter (·.1 = n)) ∧
      (∀ n, q.headers.valuesOf n = (fields.filter (·.1 = n)).map (·.2)) ∧
      q.headers.toList.Perm fields ∧
      (∀ resp : Http.Response, (CallEnd.returned (.ok resp)).outcome = .ok resp.readdressed ∧
        resp.readdressed.headers.toList = resp.headers.toList ∧
        ∀ n, resp.readdressed.headers.valuesOf n = resp.headers.valuesOf n) ∧
      (∀ h : HeaderMap, HeaderMap.ofList h.toList = h) ∧
      (∀ cs cs' : List Char, HeaderName.ofChars? cs = HeaderName.ofChars? cs' ↔
        HeaderName.ofChars? cs = none ∧ HeaderName.ofChars? cs' = none ∨
          cs.map Char.toLower = cs'.map Char.toLower) := by
  intro fields r q
  have hq : q.headers = HeaderMap.ofList fields :=
    ClientRequest.headers_makeWith method uri settings more
  refine ⟨c.asksFor (.awaited r), c.asksFor (.background r breaks), rfl, ?_, ?_, ?_, ?_, ?_, ?_⟩
  · rw [hq, HeaderMap.toList_ofList]
  · intro n
    rw [hq, HeaderMap.valuesOf_ofList]
  · rw [hq]
    exact HeaderMap.toList_ofList_perm fields
  · intro resp
    rw [resp.readdressed_eq]
    exact ⟨by rw [CallEnd.outcome, resp.readdressed_eq], rfl, fun n => rfl⟩
  · exact HeaderMap.ofList_toList
  · exact HeaderName.ofChars?_eq_iff

end EndpointClient
