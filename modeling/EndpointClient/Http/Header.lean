import EndpointClient.Http.Token
import EndpointClient.Text.Utf8

/-!
# EndpointClient.Http.Header

Header fields.

* `HeaderName` is a token in lower case, `HeaderValue` a sequence of bytes without controls.
* `HeaderMap` keeps each name at the place where it was first appended, with all its values in
  the order in which they were appended; only what is erased leaves its place to the last name.
  `HeaderMap.toList` is the sequence of fields, `HeaderMap.valuesOf` the values of one name.
-/

namespace EndpointClient.Http

def maxNameLength : Nat := 65535

/-- The name of a header field: a token in lower case. -/
structure HeaderName where
  text : String
  isToken : isToken text.toList = true
  isLower : text.toList.map Char.toLower = text.toList

namespace HeaderName

instance : DecidableEq HeaderName := fun a b =>
  if h : a.text = b.text then isTrue (by cases a; cases b; simp_all)
  else isFalse (fun e => h (congrArg HeaderName.text e))

def ofChars? (cs : List Char) : Option HeaderName :=
  if h : Http.isToken cs = true ∧ cs.length ≤ maxNameLength then
    some ⟨String.ofList (cs.map Char.toLower), by simpa using isToken_map_toLower h.1,
      by rw [String.toList_ofList, Text.map_toLower_toLower]⟩
  else none

def ofString? (s : String) : Option HeaderName := ofChars? s.toList

def invalidText : String := "invalid HTTP header name"

end HeaderName

/-- A byte that a header value may hold: a tab, or no control. -/
def isValueByte (b : UInt8) : Bool := b == 9 || (0x20 ≤ b && b != 0x7F)

structure HeaderValue where
  bytes : Bytes
  isValue : bytes.all isValueByte = true
  deriving DecidableEq

namespace HeaderValue

def ofBytes? (bs : Bytes) : Option HeaderValue :=
  if h : bs.all isValueByte = true then some ⟨bs, h⟩ else none

def invalidText : String := "failed to parse header value"

/-- A byte that shows: a tab, or ASCII without the controls. -/
def isVisibleByte (b : UInt8) : Bool := b == 9 || (0x20 ≤ b && b < 0x7F)

def visibleText? (v : HeaderValue) : Option String :=
  if v.bytes.all isVisibleByte then
    some (String.ofList (v.bytes.map fun b => Char.ofNat b.toNat))
  else none

end HeaderValue

abbrev HeaderGroup := HeaderName × List HeaderValue

/-- Changes the values of a name. Without any it has no group, and gets one at the end. -/
def updateGroups (n : HeaderName) (f : List HeaderValue → List HeaderValue) :
    List HeaderGroup → List HeaderGroup
  | [] => [(n, f [])]
  | (m, vs) :: r => if m = n then (m, f vs) :: r else (m, vs) :: updateGroups n f r

theorem names_updateGroups (n : HeaderName) (f : List HeaderValue → List HeaderValue)
    (gs : List HeaderGroup) : (updateGroups n f gs).map (·.1) =
      if n ∈ gs.map (·.1) then gs.map (·.1) else gs.map (·.1) ++ [n] := by
  induction gs with
  | nil => simp [updateGroups]
  | cons g r ih =>
    obtain ⟨m, vs⟩ := g
    by_cases h : m = n
    · simp [updateGroups, h]
    · have h' : ¬ n = m := fun e => h e.symm
      simp only [updateGroups, h, if_false, List.map_cons, ih, List.mem_cons, h', false_or]
      split <;> simp

theorem mem_updateGroups {n : HeaderName} {f : List HeaderValue → List HeaderValue}
    {gs : List HeaderGroup} {g : HeaderGroup} (hg : g ∈ updateGroups n f gs) :
    g ∈ gs ∨ ∃ vs, g.2 = f vs := by
  induction gs with
  | nil => exact .inr ⟨[], congrArg Prod.snd (List.mem_singleton.1 hg)⟩
  | cons a r ih =>
    obtain ⟨m, vs⟩ := a
    unfold updateGroups at hg
    split at hg
    · rcases List.mem_cons.1 hg with rfl | hg
      · exact .inr ⟨vs, rfl⟩
      · exact .inl (List.mem_cons_of_mem _ hg)
    · rcases List.mem_cons.1 hg with rfl | hg
      · exact .inl List.mem_cons_self
      · exact (ih hg).imp_left (List.mem_cons_of_mem _)

/-- Takes the group of a name away. The last group moves into its place. -/
def removeGroup (n : HeaderName) : List HeaderGroup → List HeaderGroup
  | [] => []
  | g :: r => if g.1 = n then r.rotateRight else g :: removeGroup n r

theorem rotateRight_perm {α : Type} (xs : List α) : xs.rotateRight.Perm xs := by
  simp only [List.rotateRight]
  split
  · exact .refl _
  · exact List.perm_append_comm.trans (.of_eq (List.take_append_drop _ _))

/-- But for their order, the groups that remain are those of the other names. -/
theorem removeGroup_perm (n : HeaderName) (gs : List HeaderGroup) :
    (removeGroup n gs).Perm (gs.eraseP (·.1 = n)) := by
  induction gs with
  | nil => exact .refl _
  | cons g r ih =>
    by_cases h : g.1 = n
    · simpa [removeGroup, h] using rotateRight_perm r
    · simpa [removeGroup, h] using ih

/-- A sequence of header fields, grouped by name. -/
structure HeaderMap where
  groups : List HeaderGroup
  nodup : (groups.map (·.1)).Nodup
  nonempty : ∀ g ∈ groups, g.2 ≠ []
  deriving DecidableEq

namespace HeaderMap

def empty : HeaderMap := ⟨[], by simp, by simp⟩

instance : Inhabited HeaderMap := ⟨empty⟩

/-- Changes the values of a name at their place, or gives it some at the end. -/
def update (h : HeaderMap) (n : HeaderName) (f : List HeaderValue → List HeaderValue)
    (hf : ∀ vs, f vs ≠ []) : HeaderMap where
  groups := updateGroups n f h.groups
  nodup := by
    rw [names_updateGroups]
    split
    · exact h.nodup
    · rename_i hn
      exact List.nodup_append.2 ⟨h.nodup, by simp, by
        intro a ha b hb e
        simp only [List.mem_singleton] at hb
        exact hn (hb ▸ e ▸ ha)⟩
  nonempty := by
    intro g hg
    rcases mem_updateGroups hg with hg | ⟨vs, hvs⟩
    · exact h.nonempty g hg
    · exact hvs ▸ hf vs

/-- Adds a field after those of its name, or at the end if it is the first of its name. -/
def append (h : HeaderMap) (n : HeaderName) (v : HeaderValue) : HeaderMap :=
  h.update n (· ++ [v]) (by simp)

/-- The fields in order: the names where they first came, each with all its values. -/
def toList (h : HeaderMap) : List (HeaderName × HeaderValue) :=
  h.groups.flatMap fun g => g.2.map fun v => (g.1, v)

def ofList (fs : List (HeaderName × HeaderValue)) : HeaderMap :=
  fs.foldl (fun h f => h.append f.1 f.2) empty

/-- The values of a name, in order. -/
def valuesOf (h : HeaderMap) (n : HeaderName) : List HeaderValue :=
  (h.groups.find? (·.1 = n)).elim [] (·.2)

def contains (h : HeaderMap) (n : HeaderName) : Bool := h.groups.any (·.1 = n)

/-- Takes the fields of a name away. The last name takes its place. -/
def erase (h : HeaderMap) (n : HeaderName) : HeaderMap where
  groups := removeGroup n h.groups
  nodup :=
    ((removeGroup_perm n h.groups).map (·.1)).nodup_iff.2
      (h.nodup.sublist (List.eraseP_sublist.map _))
  nonempty := fun g hg =>
    h.nonempty g (List.mem_of_mem_eraseP ((removeGroup_perm n h.groups).mem_iff.1 hg))

/-- Gives a name one value in the place of those it has. -/
def set (h : HeaderMap) (n : HeaderName) (v : HeaderValue) : HeaderMap :=
  h.update n (fun _ => [v]) (by simp)

def setDefault (h : HeaderMap) (n : HeaderName) (v : HeaderValue) : HeaderMap :=
  if h.contains n then h else h.append n v

end HeaderMap

end EndpointClient.Http
