/-!
# EndpointClient.Proofs.Text.Parts

Texts that are cut into parts, read part by part, and put together again.

* `cut_eq_splitOnP`: to cut from the back is the library's `List.splitOnP`.
* `mem_intercalate_of_mem`, `mem_intercalate_singleton`: what is in a text put together of parts.
* `map_eq_of_mapM_eq_some`, `mapM_eq_some`: reading all parts is reading each of them.
  `eq_ok_of_bind`: reading in two steps is taking both of them.
-/

namespace EndpointClient.Text

theorem cut_eq_splitOnP (p : Char → Bool) (cs : List Char) :
    (match cs.foldr (fun c (acc : List Char × List (List Char)) =>
      if p c then ([], acc.1 :: acc.2) else (c :: acc.1, acc.2)) ([], []) with
    | (last, rest) => last :: rest) = cs.splitOnP p := by
  induction cs with
  | nil => rfl
  | cons c cs ih =>
    rw [List.splitOnP_cons_eq_if_modifyHead, ← ih, List.foldr_cons]
    cases p c <;> rfl

theorem mem_intercalate_of_mem {α : Type} (sep : List α) {x : α} {l : List α} {ls : List (List α)}
    (hl : l ∈ ls) (hx : x ∈ l) : x ∈ sep.intercalate ls := by
  induction ls with
  | nil => cases hl
  | cons m ls ih =>
    by_cases hls : ls = []
    · subst hls
      cases List.mem_singleton.1 hl
      rwa [List.intercalate_singleton]
    · rw [List.intercalate_cons_of_ne_nil hls]
      rcases List.mem_cons.1 hl with rfl | hl
      · exact List.mem_append_left _ (List.mem_append_left _ hx)
      · exact List.mem_append_right _ (ih hl)

theorem mem_intercalate_singleton {α : Type} {a x : α} {ls : List (List α)}
    (h : x ∈ [a].intercalate ls) : x = a ∨ ∃ l ∈ ls, x ∈ l := by
  induction ls with
  | nil => cases h
  | cons l ls ih =>
    by_cases hls : ls = []
    · subst hls
      rw [List.intercalate_singleton] at h
      exact .inr ⟨l, List.mem_cons_self, h⟩
    · rw [List.intercalate_cons_of_ne_nil hls] at h
      simp only [List.mem_append, List.mem_singleton] at h
      rcases h with (hl | ha) | hls
      · exact .inr ⟨l, List.mem_cons_self, hl⟩
      · exact .inl ha
      · exact (ih hls).imp_right fun ⟨m, hm, hx⟩ => ⟨m, List.mem_cons_of_mem l hm, hx⟩

theorem map_eq_of_mapM_eq_some {α β : Type} {f : α → Option β} {l : List α} {ys : List β}
    (h : l.mapM f = some ys) : l.map f = ys.map some := by
  induction l generalizing ys with
  | nil =>
    cases h
    rfl
  | cons x l ih =>
    rw [List.mapM_cons] at h
    obtain ⟨y, hy, h⟩ := Option.bind_eq_some_iff.1 h
    obtain ⟨ys', hys, h⟩ := Option.bind_eq_some_iff.1 h
    cases h
    rw [List.map_cons, List.map_cons, hy, ih hys]

theorem mapM_eq_some {α β : Type} {f : α → Option β} {g : α → β} {l : List α}
    (h : ∀ x ∈ l, f x = some (g x)) : l.mapM f = some (l.map g) := by
  induction l with
  | nil => rfl
  | cons x l ih =>
    rw [List.mapM_cons, h x List.mem_cons_self, ih fun y hy => h y (List.mem_cons_of_mem x hy)]
    rfl

theorem eq_ok_of_bind {ε α β : Type} {x : Except ε α} {f : α → Except ε β} {b : β}
    (h : (x >>= f) = .ok b) : ∃ a, x = .ok a ∧ f a = .ok b := by
  cases x with
  | error e => cases h
  | ok a => exact ⟨a, rfl, h⟩

end EndpointClient.Text
