import Mathlib.Data.List.Basic
import Mathlib.Data.List.Induction
import EndpointClient.Proofs.Http.HeaderField

/-!
# EndpointClient.Proofs.Http.HeaderOrder

What a map is that was made by one append after another.

* `HeaderMap.names_append`, `HeaderMap.valuesOf_append`, `HeaderMap.toList_append_perm`: what one
  append does to the names, to the values of each name, and to the fields.
* `HeaderMap.toList_ofList`: the names stand in the order in which they first came, each with all
  its fields in the order in which they came. `HeaderMap.toList_ofList_perm`: no field is lost, and
  none is there twice.
-/

namespace EndpointClient.Http

variable {n m : HeaderName} {v : HeaderValue} {gs : List HeaderGroup}

def valuesIn (n : HeaderName) (gs : List HeaderGroup) : List HeaderValue :=
  (gs.find? (·.1 = n)).elim [] (·.2)

/-- The fields that groups stand for. -/
def fieldsIn (gs : List HeaderGroup) : List (HeaderName × HeaderValue) :=
  gs.flatMap fun g => g.2.map fun v => (g.1, v)

theorem valuesIn_cons (n : HeaderName) (g : HeaderGroup) (gs : List HeaderGroup) :
    valuesIn n (g :: gs) = if g.1 = n then g.2 else valuesIn n gs := by
  by_cases h : g.1 = n <;> simp [valuesIn, h]

theorem valuesIn_updateGroups (n m : HeaderName) (f : List HeaderValue → List HeaderValue)
    (gs : List HeaderGroup) : valuesIn m (updateGroups n f gs) =
      if n = m then f (valuesIn m gs) else valuesIn m gs := by
  induction gs with
  | nil => by_cases h : n = m <;> simp [updateGroups, valuesIn, h]
  | cons g gs ih =>
    obtain ⟨k, vs⟩ := g
    by_cases hk : k = n
    · subst hk
      by_cases h : k = m <;> simp [updateGroups, valuesIn_cons, h]
    · simp only [updateGroups, if_neg hk, valuesIn_cons]
      by_cases hkm : k = m
      · have h : ¬ n = m := fun e => hk (hkm.trans e.symm)
        simp [hkm, h]
      · simp [hkm, ih]

/-- A field comes after those of its name, and moves no other. -/
theorem fieldsIn_updateGroups (n : HeaderName) (v : HeaderValue) (gs : List HeaderGroup) :
    (fieldsIn (updateGroups n (· ++ [v]) gs)).Perm (fieldsIn gs ++ [(n, v)]) := by
  induction gs with
  | nil => exact .refl _
  | cons g gs ih =>
    obtain ⟨k, vs⟩ := g
    by_cases hk : k = n
    · subst hk
      simp only [updateGroups, if_true, fieldsIn, List.flatMap_cons, List.map_append,
        List.map_cons, List.map_nil, List.append_assoc]
      exact List.perm_append_comm.append_left _
    · simp only [updateGroups, if_neg hk, fieldsIn, List.flatMap_cons, List.append_assoc]
      exact ih.append_left _

/-- Where each name has one group, that group has the values of the name. -/
theorem valuesIn_of_mem {g : HeaderGroup} (hn : (gs.map (·.1)).Nodup) (hg : g ∈ gs) :
    valuesIn g.1 gs = g.2 := by
  induction gs with
  | nil => cases hg
  | cons g' gs ih =>
    rw [List.map_cons, List.nodup_cons] at hn
    rw [valuesIn_cons]
    rcases List.mem_cons.1 hg with rfl | hg
    · rw [if_pos rfl]
    · have hne : g'.1 ≠ g.1 := by
        intro e
        exact hn.1 (e ▸ List.mem_map_of_mem hg)
      rw [if_neg hne, ih hn.2 hg]

namespace HeaderMap

variable {fs : List (HeaderName × HeaderValue)}

/-- The names in order, each once. -/
def names (h : HeaderMap) : List HeaderName := h.groups.map (·.1)

theorem names_append (h : HeaderMap) (n : HeaderName) (v : HeaderValue) :
    (h.append n v).names = if n ∈ h.names then h.names else h.names ++ [n] :=
  names_updateGroups n _ h.groups

theorem valuesOf_append (h : HeaderMap) (n m : HeaderName) (v : HeaderValue) :
    (h.append n v).valuesOf m = if n = m then h.valuesOf m ++ [v] else h.valuesOf m :=
  valuesIn_updateGroups n m _ h.groups

theorem toList_append_perm (h : HeaderMap) (n : HeaderName) (v : HeaderValue) :
    (h.append n v).toList.Perm (h.toList ++ [(n, v)]) :=
  fieldsIn_updateGroups n v h.groups

theorem toList_eq (h : HeaderMap) :
    h.toList = h.names.flatMap fun n => (h.valuesOf n).map fun v => (n, v) := by
  rw [toList, names, List.flatMap_map]
  refine List.flatMap_congr fun g hg => ?_
  have hvalues : h.valuesOf g.1 = g.2 := valuesIn_of_mem h.nodup hg
  rw [hvalues]

theorem ofList_concat (fs : List (HeaderName × HeaderValue)) (f : HeaderName × HeaderValue) :
    ofList (fs ++ [f]) = (ofList fs).append f.1 f.2 :=
  List.foldl_concat _ _ _ _

/-- The names are those of the fields, in the order in which they first came. -/
theorem names_ofList (fs : List (HeaderName × HeaderValue)) :
    (ofList fs).names = (fs.map (·.1)).eraseDups := by
  induction fs using List.reverseRecOn with
  | nil => rfl
  | append_singleton fs f ih =>
    rw [ofList_concat, names_append, ih, List.map_append, List.map_singleton,
      List.eraseDups_append]
    simp only [List.mem_eraseDups]
    -- the last name adds to them if it has not come before
    by_cases hf : f.1 ∈ fs.map (·.1)
    · simp only [if_pos hf, List.removeAll]
      simp [hf]
    · simp only [if_neg hf, List.removeAll]
      simp [hf, List.eraseDups_cons]

/-- The values of a name are those of its fields, in the order in which they came. -/
theorem valuesOf_ofList (fs : List (HeaderName × HeaderValue)) (n : HeaderName) :
    (ofList fs).valuesOf n = (fs.filter (·.1 = n)).map (·.2) := by
  induction fs using List.reverseRecOn with
  | nil => rfl
  | append_singleton fs f ih =>
    rw [ofList_concat, valuesOf_append, ih]
    by_cases hf : f.1 = n <;> simp [hf]

/-- The names stand in the order in which they first came, each with all its fields in the order
in which they came. -/
theorem toList_ofList (fs : List (HeaderName × HeaderValue)) :
    (ofList fs).toList = (fs.map (·.1)).eraseDups.flatMap fun n => fs.filter (·.1 = n) := by
  rw [toList_eq, names_ofList]
  refine List.flatMap_congr fun n _ => ?_
  rw [valuesOf_ofList, List.map_map]
  have hsame : ∀ f ∈ fs.filter (·.1 = n), (n, f.2) = f := by
    intro f hf
    have hname : f.1 = n := by simpa using (List.mem_filter.1 hf).2
    rw [← hname]
  exact (List.map_congr_left hsame).trans (List.map_id _)

/-- No field is lost, and none is there twice. -/
theorem toList_ofList_perm (fs : List (HeaderName × HeaderValue)) : (ofList fs).toList.Perm fs := by
  induction fs using List.reverseRecOn with
  | nil => exact .refl _
  | append_singleton fs f ih =>
    rw [ofList_concat]
    exact (toList_append_perm _ _ _).trans (ih.append_right [f])

end HeaderMap

end EndpointClient.Http
