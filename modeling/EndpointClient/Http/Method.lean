import EndpointClient.Http.Token

/-!
# EndpointClient.Http.Method

Request methods: any token, with the case it is written in.
-/

namespace EndpointClient.Http

structure Method where
  text : String
  isToken : isToken text.toList = true

namespace Method

instance : DecidableEq Method := fun a b =>
  if h : a.text = b.text then isTrue (by cases a; cases b; simp_all)
  else isFalse (fun e => h (congrArg Method.text e))

def ofString? (s : String) : Option Method :=
  if h : Http.isToken s.toList = true then some ⟨s, h⟩ else none

def get : Method := ⟨"GET", by decide⟩

instance : Inhabited Method := ⟨get⟩

end Method

end EndpointClient.Http
