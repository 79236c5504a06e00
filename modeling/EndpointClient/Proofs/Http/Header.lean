import EndpointClient.Http.Response

/-!
# EndpointClient.Proofs.Http.Header

Header maps and the sequences of fields that they stand for.

* `HeaderMap.ofList_toList`: a map is made anew by its own fields, appended one by one in order.
* `Response.readdressed_eq`: what a caller is handed is therefore the response of the engine.
-/

namespace EndpointClient.Http

variable {n : HeaderName} {gs : List HeaderGroup}

def appendFields (gs : List HeaderGroup) (fs : List (HeaderName × HeaderValue)) :
    List HeaderGroup :=
  fs.foldl (fun gs f => updateGroups f.1 (· ++ [f.2]) gs) gs

theorem appendFields_append (gs : List HeaderGroup) (fs fs' : List (HeaderName × HeaderValue)) :
    appendFields gs (fs ++ fs') = appendFields (appendFields gs fs) fs' :=
  List.foldl_append

theorem updateGroups_new (hn : n ∉ gs.map (·.1)) (v : HeaderValue) :
    updateGroups n (· ++ [v]) gs = gs ++ [(n, [v])] := by
  induction gs with
  | nil => rfl
  | cons g gs ih =>
    rw [List.map_cons, List.mem_cons, not_or] at hn
    simp [updateGroups, Ne.symm hn.1, ih hn.2]

theorem updateGroups_last (hn : n ∉ gs.map (·.1)) (vs : List HeaderValue) (v : HeaderValue) :
    updateGroups n (· ++ [v]) (gs ++ [(n, vs)]) = gs ++ [(n, vs ++ [v])] := by
  induction gs with
  | nil => simp [updateGroups]
  | cons g gs ih =>
    rw [List.map_cons, List.mem_cons, not_or] at hn
    simp [updateGroups, Ne.symm hn.1, ih hn.2]

theorem appendFields_last (hn : n ∉ gs.map (·.1)) (vs more : List HeaderValue) :
    appendFields (gs ++ [(n, vs)]) (more.map fun v => (n, v)) = gs ++ [(n, vs ++ more)] := by
  induction more generalizing vs with
  | nil => simp [appendFields]
  | cons v more ih =>
    have hv := ih (vs ++ [v])
    rw [← updateGroups_last hn vs v, List.append_assoc] at hv
    exact hv

theorem appendFields_group (hn : n ∉ gs.map (·.1)) {vs : List HeaderValue} (hv : vs ≠ []) :
    appendFields gs (vs.map fun v => (n, v)) = gs ++ [(n, vs)] := by
  cases vs with
  | nil => exact absurd rfl hv
  | cons v vs =>
    have hlast := appendFields_last hn [v] vs
    rw [← updateGroups_new hn v] at hlast
    exact hlast

/-- The fields of groups with names of their own make those groups. -/
theorem appendFields_groups {more : List HeaderGroup} (hn : ((gs ++ more).map (·.1)).Nodup)
    (hne : ∀ g ∈ more, g.2 ≠ []) :
    appendFields gs (more.flatMap fun g => g.2.map fun v => (g.1, v)) = gs ++ more := by
  induction more generalizing gs with
  | nil => simp [appendFields]
  | cons g more ih =>
    have hg : g.1 ∉ gs.map (·.1) := by
      rw [List.map_append, List.map_cons] at hn
      exact fun hmem => (List.nodup_append.1 hn).2.2 _ hmem _ List.mem_cons_self rfl
    rw [List.flatMap_cons, appendFields_append, appendFields_group hg (hne g List.mem_cons_self)]
    rw [List.append_cons gs g more] at hn ⊢
    exact ih hn fun g' hg' => hne g' (List.mem_cons_of_mem g hg')

namespace HeaderMap

theorem groups_foldl_append (h : HeaderMap) (fs : List (HeaderName × HeaderValue)) :
    (fs.foldl (fun h f => h.append f.1 f.2) h).groups = appendFields h.groups fs := by
  induction fs generalizing h with
  | nil => rfl
  | cons f fs ih => exact ih (h.append f.1 f.2)

theorem eq_of_groups {h h' : HeaderMap} (hg : h.groups = h'.groups) : h = h' := by
  cases h
  cases h'
  simpa using hg

theorem ofList_toList (h : HeaderMap) : ofList h.toList = h := by
  apply eq_of_groups
  rw [ofList, groups_foldl_append, toList]
  exact @appendFields_groups empty.groups _ h.nodup h.nonempty

end HeaderMap

/-- A caller is handed the response of the engine: the same status, fields and body. -/
theorem Response.readdressed_eq (r : Response) : r.readdressed = r := by
  rw [readdressed, HeaderMap.ofList_toList]

end EndpointClient.Http
