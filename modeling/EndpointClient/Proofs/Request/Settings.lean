import EndpointClient.Request

/-!
# EndpointClient.Proofs.Request.Settings

What becomes of the settings that a request is made with.

* `lastValue? key settings` is the value that a property was given last. `get?_make`: that is the
  value it has.
* `fieldsOf settings` are the header fields in the order in which they were given. `headers_make`:
  the request has those, appended one after another.
-/

namespace EndpointClient

variable {key k : String} {value : Json} {settings : List RequestSetting}

namespace Properties

theorem find?_insertEntry (key k : String) (value : Json) (entries : List (String × Json)) :
    (insertEntry key value entries).find? (·.1 = k) =
      if key = k then some (key, value) else entries.find? (·.1 = k) := by
  induction entries with
  | nil =>
    by_cases h : key = k
    · simp [insertEntry, h]
    · simp [insertEntry, h]
  | cons entry entries ih =>
    obtain ⟨key', value'⟩ := entry
    unfold insertEntry
    by_cases hsame : key = key'
    · subst hsame
      by_cases h : key = k
      · simp [h]
      · simp [h]
    · rw [if_neg hsame]
      split
      · by_cases h : key = k
        · simp [h]
        · simp [h]
      · by_cases h' : key' = k
        · -- the entry in front is the one that is looked for, and not the new one
          have h : ¬ key = k := fun e => hsame (e.trans h'.symm)
          simp [h', h]
        · simp [h', ih]

theorem get?_insert (p : Properties) (key k : String) (value : Json) :
    (p.insert key value).get? k = if key = k then some value else p.get? k := by
  unfold get? insert
  rw [find?_insertEntry]
  split <;> rfl

end Properties

namespace RequestSetting

def field? : RequestSetting → Option (Http.HeaderName × Http.HeaderValue)
  | .header n v => some (n, v)
  | .property _ _ => none
  | .entity _ => none

/-- The value that a property is given, if it is given one. -/
def value? (key : String) : RequestSetting → Option Json
  | .header _ _ => none
  | .property k v => if k = key then some v else none
  | .entity _ => none

def fieldsOf (settings : List RequestSetting) : List (Http.HeaderName × Http.HeaderValue) :=
  settings.filterMap field?

/-- The value that a property is given last. -/
def lastValue? (key : String) (settings : List RequestSetting) : Option Json :=
  settings.reverse.findSome? (value? key)

theorem lastValue?_cons (key : String) (s : RequestSetting) (settings : List RequestSetting) :
    lastValue? key (s :: settings) = (lastValue? key settings).or (s.value? key) := by
  rw [lastValue?, List.reverse_cons, List.findSome?_append, lastValue?]
  cases h : s.value? key <;> simp [h]

end RequestSetting

namespace ClientRequest

open RequestSetting

theorem get?_foldl_set (r : ClientRequest) (key : String) (settings : List RequestSetting) :
    (settings.foldl set r).properties.get? key =
      (lastValue? key settings).or (r.properties.get? key) := by
  induction settings generalizing r with
  | nil => rfl
  | cons s settings ih =>
    rw [List.foldl_cons, ih, lastValue?_cons, Option.or_assoc]
    congr 1
    cases s with
    | header n v => rfl
    | entity e => rfl
    | property k v =>
      simp only [set, property, Properties.get?_insert, value?]
      by_cases h : k = key
      · simp [h]
      · simp [h]

theorem get?_make (method : Http.Method) (uri : Http.Uri) (key : String)
    (settings : List RequestSetting) :
    (make method uri settings).properties.get? key = lastValue? key settings := by
  rw [make, get?_foldl_set]
  exact Option.or_none

theorem headers_foldl_set (r : ClientRequest) (settings : List RequestSetting) :
    (settings.foldl set r).headers =
      (fieldsOf settings).foldl (fun h f => h.append f.1 f.2) r.headers := by
  induction settings generalizing r with
  | nil => rfl
  | cons s settings ih =>
    rw [List.foldl_cons, ih]
    cases s <;> rfl

theorem headers_make (method : Http.Method) (uri : Http.Uri) (settings : List RequestSetting) :
    (make method uri settings).headers = Http.HeaderMap.ofList (fieldsOf settings) :=
  headers_foldl_set (new method uri) settings

end ClientRequest
end EndpointClient
