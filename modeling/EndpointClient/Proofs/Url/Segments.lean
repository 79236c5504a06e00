import EndpointClient.Proofs.Text.Parts
import EndpointClient.Url.Parser
import Mathlib.Data.Bool.AllAny

/-!
# EndpointClient.Proofs.Url.Segments

The segments of a path.

* `Percent.mem_encode`, `Percent.encode_of_kept`: what a text is made of when characters are written
  out, and what is left as it is.
* `Url.walk_of_isDown`, `Url.walk_append_cons`: what the dot segments take away stood before them.
* `Url.isSettled_pathOf`: the segments of a path are settled, they would be read as they are.
* `Url.flatMap_pathOf_append_ne`: what is longer by a segment with a colon is never read as the path
  behind that segment.
-/

namespace EndpointClient

namespace Percent

variable {set cs : List Char} {c : Char}

/-- A character that is not written out in a part of a URL. -/
def IsKept (set : List Char) (c : Char) : Prop := isControl c = false ∧ set.contains c = false

instance (set : List Char) (c : Char) : Decidable (IsKept set c) :=
  inferInstanceAs (Decidable (_ ∧ _))

/-- What a character is written out with. -/
def signs : List Char := "%0123456789ABCDEF".toList

theorem encode_cons (set : List Char) (c : Char) (cs : List Char) : encode set (c :: cs) =
    (if isControl c || set.contains c then (Utf8.encodeChar c).flatMap encodeByte else [c]) ++
      encode set cs := List.flatMap_cons

theorem encode_cons_of_kept (h : IsKept set c) (cs : List Char) :
    encode set (c :: cs) = c :: encode set cs := by
  rw [encode_cons, h.1, h.2]
  rfl

theorem encode_of_kept (h : ∀ c ∈ cs, IsKept set c) : encode set cs = cs := by
  induction cs with
  | nil => rfl
  | cons c cs ih =>
    rw [encode_cons_of_kept (h c List.mem_cons_self), ih fun d hd => h d (List.mem_cons_of_mem c hd)]

theorem length_le_encode (set cs : List Char) : cs.length ≤ (encode set cs).length := by
  induction cs with
  | nil => exact Nat.zero_le _
  | cons c cs ih =>
    have hone : 1 ≤ (if isControl c || set.contains c then (Utf8.encodeChar c).flatMap encodeByte
        else [c]).length := by
      split
      · unfold Utf8.encodeChar
        dsimp only
        split
        · simp [encodeByte]
        · split
          · simp [encodeByte]
          · split <;> simp [encodeByte]
      · simp
    rw [encode_cons, List.length_append, List.length_cons]
    omega

theorem mem_encodeByte {b : UInt8} (h : c ∈ encodeByte b) : c ∈ signs := by
  have hdigit : ∀ n < 16, Char.ofNat (if n < 10 then 48 + n else 55 + n) ∈ signs := by decide
  have hlt : b.toNat < 256 := b.toNat_lt
  simp only [encodeByte, List.mem_cons, List.not_mem_nil, or_false] at h
  rcases h with rfl | rfl | rfl
  · decide
  · exact hdigit _ (by omega)
  · exact hdigit _ (by omega)

theorem mem_encode (h : c ∈ encode set cs) : c ∈ cs ∧ IsKept set c ∨ c ∈ signs := by
  obtain ⟨d, hd, hc⟩ := List.mem_flatMap.1 h
  split at hc
  · obtain ⟨b, -, hb⟩ := List.mem_flatMap.1 hc
    exact .inr (mem_encodeByte hb)
  · rename_i hkept
    cases List.mem_singleton.1 hc
    simp only [Bool.or_eq_true, not_or, Bool.not_eq_true] at hkept
    exact .inl ⟨hd, hkept⟩

theorem mem_encode_of_kept (hc : c ∈ cs) (h : IsKept set c) : c ∈ encode set cs := by
  refine List.mem_flatMap.2 ⟨c, hc, ?_⟩
  rw [h.1, h.2]
  exact List.mem_singleton.2 rfl

theorem isKept_of_mem_encode (hset : ∀ c ∈ signs, IsKept set c) (h : c ∈ encode set cs) :
    IsKept set c := by
  rcases mem_encode h with ⟨-, hkept⟩ | hsign
  · exact hkept
  · exact hset c hsign

theorem isKept_sign : ∀ c ∈ signs, IsKept pathSet c := List.all_iff_forall_prop.1 (by decide)

end Percent

namespace Url

variable {kind : SchemeKind} {s : List Char} {ss acc : List (List Char)}

/-! ## Segments -/

theorem isSlash_slash (kind : SchemeKind) : isSlash kind '/' = true := rfl

theorem splitSegments_eq (kind : SchemeKind) (cs : List Char) :
    splitSegments kind cs = cs.splitOnP (isSlash kind) := Text.cut_eq_splitOnP _ cs

theorem splitOnP_append_last {p : Char → Bool} {w : List Char} (hw : ∀ c ∈ w, p c = false)
    (z : List Char) : ∃ front last, (z ++ w).splitOnP p = front ++ [last ++ w] := by
  induction z with
  | nil => exact ⟨[], [], List.splitOnP_eq_singleton hw⟩
  | cons c z ih =>
    obtain ⟨front, last, h⟩ := ih
    rw [List.cons_append, List.splitOnP_cons_eq_if_modifyHead, h]
    split
    · exact ⟨[] :: front, last, rfl⟩
    · cases front with
      | nil => exact ⟨[], c :: last, rfl⟩
      | cons f front => exact ⟨(c :: f) :: front, last, rfl⟩

theorem splitOnP_flatMap {p : Char → Bool} {sep : Char} (hsep : p sep = true)
    (hs : ∀ c ∈ s, p c = false) (hss : ∀ s ∈ ss, ∀ c ∈ s, p c = false) :
    (s ++ ss.flatMap (sep :: ·)).splitOnP p = s :: ss := by
  induction ss generalizing s with
  | nil => rw [List.flatMap_nil, List.append_nil, List.splitOnP_eq_singleton hs]
  | cons t ss ih =>
    rw [List.flatMap_cons, List.cons_append, List.splitOnP_append_cons_of_forall_mem hs sep hsep,
      ih (hss t List.mem_cons_self) fun u hu => hss u (List.mem_cons_of_mem t hu)]

theorem of_mem_splitOnP {p : Char → Bool} {cs : List Char} (hs : s ∈ cs.splitOnP p) :
    ∀ c ∈ s, p c = false := by
  induction cs generalizing s with
  | nil =>
    cases List.mem_singleton.1 hs
    intro c hc
    cases hc
  | cons d cs ih =>
    rw [List.splitOnP_cons_eq_if_modifyHead] at hs
    split at hs
    · rcases List.mem_cons.1 hs with rfl | hs
      · intro c hc
        cases hc
      · exact ih hs
    · rename_i hd
      cases hsplit : cs.splitOnP p with
      | nil => exact absurd hsplit (List.splitOnP_ne_nil p cs)
      | cons f front =>
        rw [hsplit, List.modifyHead_cons] at hs
        rw [hsplit] at ih
        rcases List.mem_cons.1 hs with rfl | hs
        · intro c hc
          rcases List.mem_cons.1 hc with rfl | hc
          · simpa using hd
          · exact ih List.mem_cons_self c hc
        · exact ih (List.mem_cons_of_mem f hs)

/-! ## Dot segments -/

/-- A segment that is none of the dot segments. -/
def IsDown (s : List Char) : Prop := segmentStep s = .down s

theorem isDown_of_colon (h : ':' ∈ s) : IsDown s := by
  have hlow : ':' ∈ s.map Char.toLower := List.mem_map_of_mem (f := Char.toLower) h
  unfold IsDown segmentStep
  split
  all_goals first
    | rfl
    | rename_i heq
      rw [heq] at hlow
      exact absurd hlow (by decide)

theorem segmentStep_eq_down {t : List Char} (h : segmentStep s = .down t) : t = s := by
  unfold segmentStep at h
  split at h <;> cases h
  rfl

theorem walk_cons_of_isDown (hk : kind ≠ .file) (h : IsDown s) (acc rest : List (List Char)) :
    walk kind acc (s :: rest) = walk kind (s :: acc) rest := by
  rw [walk, h]
  simp only [hk, decide_false, Bool.false_and]
  split <;> rfl

theorem walk_of_isDown (hk : kind ≠ .file) (h : ∀ s ∈ ss, IsDown s) (acc : List (List Char)) :
    walk kind acc ss = ss.reverse ++ acc := by
  induction ss generalizing acc with
  | nil => rfl
  | cons s ss ih =>
    rw [walk_cons_of_isDown hk (h s List.mem_cons_self),
      ih fun t ht => h t (List.mem_cons_of_mem s ht), List.reverse_cons, List.append_assoc]
    rfl

/-- What comes before a segment decides only over what stands when it is met. -/
theorem walk_append_cons (kind : SchemeKind) (acc front : List (List Char)) :
    ∃ acc', ∀ s back, walk kind acc (front ++ s :: back) = walk kind acc' (s :: back) := by
  induction front generalizing acc with
  | nil => exact ⟨acc, fun _ _ => rfl⟩
  | cons t front ih =>
    have hrest : ∀ (s : List Char) back, (front ++ s :: back).isEmpty = false := by simp
    simp only [List.cons_append, walk, hrest]
    cases segmentStep t with
    | back => exact ih _
    | stay => exact ih _
    | down => exact ih _

theorem mem_goBack (h : s ∈ goBack kind acc) : s ∈ acc := by
  unfold goBack at h
  split at h
  · exact h
  · split at h
    · exact h
    · cases h
  · exact List.mem_cons_of_mem _ h

theorem mem_walk (hk : kind ≠ .file) (h : s ∈ walk kind acc ss) :
    s ∈ acc ∨ s = [] ∨ s ∈ ss ∧ IsDown s := by
  induction ss generalizing acc with
  | nil => exact .inl h
  | cons t rest ih =>
    rw [walk] at h
    split at h
    · rcases ih h with hacc | hnil | hrest
      · split at hacc
        · exact (List.mem_cons.1 hacc).symm.imp mem_goBack .inl
        · exact .inl (mem_goBack hacc)
      · exact .inr (.inl hnil)
      · exact .inr (.inr ⟨List.mem_cons_of_mem t hrest.1, hrest.2⟩)
    · rcases ih h with hacc | hnil | hrest
      · split at hacc
        · exact (List.mem_cons.1 hacc).symm.imp_right .inl
        · exact .inl hacc
      · exact .inr (.inl hnil)
      · exact .inr (.inr ⟨List.mem_cons_of_mem t hrest.1, hrest.2⟩)
    · rename_i u hstep
      obtain rfl := segmentStep_eq_down hstep
      rcases ih h with hacc | hnil | hrest
      · rcases List.mem_cons.1 hacc with rfl | hacc
        · refine .inr (.inr ?_)
          simp only [hk, decide_false, Bool.false_and]
          split <;> exact ⟨List.mem_cons_self, hstep⟩
        · exact .inl hacc
      · exact .inr (.inl hnil)
      · exact .inr (.inr ⟨List.mem_cons_of_mem _ hrest.1, hrest.2⟩)

/-! ## Paths -/

/-- A segment that a URL keeps as it is. -/
structure IsSettled (kind : SchemeKind) (s : List Char) : Prop where
  down : IsDown s
  kept : ∀ c ∈ s, Percent.IsKept Percent.pathSet c
  notSlash : ∀ c ∈ s, isSlash kind c = false

theorem notSlash_sign (kind : SchemeKind) : ∀ c ∈ Percent.signs, isSlash kind c = false := by
  cases kind <;> exact List.all_iff_forall_prop.1 (by decide)

theorem pathOf_eq (hk : kind ≠ .file) (cs : List Char) : pathOf kind cs =
    (walk kind [] ((cs.splitOnP (isSlash kind)).map (Percent.encode Percent.pathSet))).reverse := by
  rw [pathOf, splitSegments_eq]
  exact if_neg hk

theorem isSettled_pathOf (hk : kind ≠ .file) {cs : List Char} (h : s ∈ pathOf kind cs) :
    IsSettled kind s := by
  rw [pathOf_eq hk, List.mem_reverse] at h
  rcases mem_walk hk h with hnil | rfl | ⟨hmem, hdown⟩
  · cases hnil
  · exact ⟨rfl, by simp, by simp⟩
  · obtain ⟨t, ht, rfl⟩ := List.mem_map.1 hmem
    refine ⟨hdown, fun c hc => Percent.isKept_of_mem_encode Percent.isKept_sign hc, fun c hc => ?_⟩
    rcases Percent.mem_encode hc with ⟨hc, -⟩ | hsign
    · exact of_mem_splitOnP ht c hc
    · exact notSlash_sign kind c hsign

variable {z w : List Char}

/-- A piece without slashes that has a colon keeps a segment of its own. -/
theorem walk_splitOnP_append (hk : kind ≠ .file) (hw : ∀ c ∈ w, isSlash kind c = false)
    (hcolon : ':' ∈ w) (z : List Char) : ∃ acc last, ':' ∈ last ∧ ∀ back,
      walk kind [] (((z ++ w).splitOnP (isSlash kind)).map (Percent.encode Percent.pathSet) ++ back) =
        walk kind (last :: acc) back := by
  obtain ⟨front, last, hsplit⟩ := splitOnP_append_last hw z
  have hmem : ':' ∈ Percent.encode Percent.pathSet (last ++ w) :=
    Percent.mem_encode_of_kept (List.mem_append_right last hcolon) (by decide)
  obtain ⟨acc, hwalk⟩ := walk_append_cons kind [] (front.map (Percent.encode Percent.pathSet))
  refine ⟨acc, _, hmem, fun back => ?_⟩
  rw [hsplit, List.map_append, List.map_singleton, List.append_assoc, List.singleton_append, hwalk,
    walk_cons_of_isDown hk (isDown_of_colon hmem)]

theorem colon_mem_pathOf_append (hk : kind ≠ .file) (hw : ∀ c ∈ w, isSlash kind c = false)
    (hcolon : ':' ∈ w) (z : List Char) : ':' ∈ (pathOf kind (z ++ w)).flatMap ('/' :: ·) := by
  obtain ⟨acc, last, hlast, hwalk⟩ := walk_splitOnP_append hk hw hcolon z
  have hpath := hwalk []
  rw [List.append_nil, walk] at hpath
  refine List.mem_flatMap.2 ⟨last, ?_, List.mem_cons_of_mem _ hlast⟩
  rw [pathOf_eq hk, hpath]
  exact List.mem_reverse.2 List.mem_cons_self

theorem flatMap_pathOf_append_ne (hk : kind ≠ .file) (hw : ∀ c ∈ w, isSlash kind c = false)
    (hcolon : ':' ∈ w) (z q : List Char) :
    (pathOf kind (z ++ w ++ '/' :: q)).flatMap ('/' :: ·) ≠ '/' :: q := by
  intro h
  have hsettled : ∀ s ∈ pathOf kind (z ++ w ++ '/' :: q), IsSettled kind s :=
    fun s hs => isSettled_pathOf hk hs
  generalize hout : pathOf kind (z ++ w ++ '/' :: q) = out at h hsettled
  -- the rest of the path is the path itself, so its segments are met after those of `z ++ w`
  have hq : q.splitOnP (isSlash kind) = out := by
    cases out with
    | nil => cases h
    | cons s ss =>
      rw [List.flatMap_cons, List.cons_append, List.cons.injEq] at h
      rw [← h.2]
      exact splitOnP_flatMap (isSlash_slash kind) (hsettled s List.mem_cons_self).notSlash
        fun t ht => (hsettled t (List.mem_cons_of_mem s ht)).notSlash
  have hencode : out.map (Percent.encode Percent.pathSet) = out := by
    rw [List.map_congr_left fun s hs => Percent.encode_of_kept (hsettled s hs).kept, List.map_id']
  obtain ⟨acc, last, -, hwalk⟩ := walk_splitOnP_append hk hw hcolon z
  rw [pathOf_eq hk, List.splitOnP_append_cons _ _ (isSlash_slash kind), hq, List.map_append, hencode,
    hwalk, walk_of_isDown hk fun s hs => (hsettled s hs).down] at hout
  have hlen := congrArg List.length hout
  simp only [List.length_reverse, List.length_append, List.length_cons] at hlen
  omega

end Url

end EndpointClient
