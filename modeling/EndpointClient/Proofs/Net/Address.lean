import EndpointClient.Proofs.Url.Host
import Mathlib.Data.List.TakeWhile

/-!
# EndpointClient.Proofs.Net.Address

The text of an address tells which address it is.

* `quadText_inj`, `groupText_inj`: bytes and groups are read off their digits.
* `longestZeroRun_zero`: nothing but zeros is left out. `eq_rebuilt`: so groups are what is written
  on both sides of the gap, with zeros between them. `sides_of_text`: the first empty part from
  either end is where a side ends.
* `text_inj`: no two addresses have the same text.
-/

namespace EndpointClient

theorem Text.natText_inj {n k : Nat} (h : natText n = natText k) : n = k := by
  rw [← digitsNumber_natText n, h, digitsNumber_natText]

namespace IpAddress

/-! ## Numbers and groups -/

theorem quadText_eq (a b c d : UInt8) :
    quadText (a, b, c, d) = ['.'].intercalate ([a, b, c, d].map fun x => Text.natText x.toNat) := by
  simp [quadText, List.intercalate]

theorem quadText_inj {p q : Quad} (h : quadText p = quadText q) : p = q := by
  have hsplit (q : Quad) : (quadText q).splitOn '.' =
      [q.1, q.2.1, q.2.2.1, q.2.2.2].map fun x => Text.natText x.toNat := by
    rw [show q = (q.1, q.2.1, q.2.2.1, q.2.2.2) from rfl, quadText_eq]
    refine List.splitOn_intercalate _ (fun l hl hdot => ?_) (by simp)
    obtain ⟨x, -, rfl⟩ := List.mem_map.1 hl
    exact absurd (Text.isDigit_of_mem_natText hdot) (by decide)
  have hparts := hsplit p
  rw [h, hsplit q] at hparts
  simp only [List.map_cons, List.map_nil, List.cons.injEq, and_true] at hparts
  obtain ⟨ha, hb, hc, hd⟩ := hparts
  have hbyte {x y : UInt8} (hxy : Text.natText x.toNat = Text.natText y.toNat) : x = y :=
    UInt8.toNat_inj.1 (Text.natText_inj hxy)
  exact Prod.ext (hbyte ha.symm) (Prod.ext (hbyte hb.symm)
    (Prod.ext (hbyte hc.symm) (hbyte hd.symm)))

def groupText (g : UInt16) : List Char := Nat.toDigits 16 g.toNat

/-- The number that hexadecimal digits stand for. -/
def hexNumber (ds : List Char) : Nat := ds.foldl (fun n c => n * 16 + hexValue c) 0

theorem hexNumber_toDigits (n : Nat) : hexNumber (Nat.toDigits 16 n) = n := by
  have hdigit : ∀ d < 16, hexValue d.digitChar = d := by decide
  induction n using Nat.strongRecOn with
  | ind n ih =>
    by_cases hn : n < 16
    · rw [Nat.toDigits_of_lt_base hn]
      simp [hexNumber, hdigit n hn]
    · have hfront : hexNumber (Nat.toDigits 16 (n / 16)) = n / 16 := ih (n / 16) (by omega)
      rw [hexNumber] at hfront
      rw [Nat.toDigits_of_base_le (by omega) (by omega), hexNumber, List.foldl_append, hfront]
      simp only [List.foldl_cons, List.foldl_nil, hdigit _ (Nat.mod_lt n (by omega))]
      omega

theorem groupText_inj {g g' : UInt16} (h : groupText g = groupText g') : g = g' := by
  refine UInt16.toNat_inj.1 ?_
  rw [← hexNumber_toDigits g.toNat, ← hexNumber_toDigits g'.toNat]
  exact congrArg hexNumber h

theorem groupText_ne_nil (g : UInt16) : groupText g ≠ [] := Nat.toDigits_ne_nil

theorem colon_not_mem_groupText (g : UInt16) : ':' ∉ groupText g := fun h =>
  absurd (isHexDigit_of_mem_toDigits h) (by decide)

/-! ## What is left out -/

/-- The run that is left out lies within the groups, and holds nothing but zeros. -/
theorem longestZeroRun_zero (gs : List UInt16) :
    (longestZeroRun gs).1 + (longestZeroRun gs).2 ≤ gs.length ∧
      (gs.drop (longestZeroRun gs).1).take (longestZeroRun gs).2 =
        List.replicate (longestZeroRun gs).2 0 := by
  refine List.foldlRecOn (motive := fun best : Nat × Nat => best.1 + best.2 ≤ gs.length ∧
    (gs.drop best.1).take best.2 = List.replicate best.2 0) _ _ (by simp) fun best h i hi => ?_
  dsimp only
  split
  · have hprefix := List.takeWhile_prefix (l := gs.drop i) (· == (0 : UInt16))
    have hi : i < gs.length := List.mem_range.1 hi
    have hlength := hprefix.length_le
    rw [List.length_drop] at hlength
    refine ⟨by simp only [zeroRun]; omega, ?_⟩
    rw [zeroRun, ← List.prefix_iff_eq_take.1 hprefix]
    exact List.eq_replicate_iff.2 ⟨rfl, fun g hg => by
      simpa using List.all_eq_true.1 List.all_takeWhile g hg⟩
  · exact h

/-- What is written before the gap, and what is written after it. -/
def sides (gs : List UInt16) : List UInt16 × List UInt16 :=
  let (start, len) := longestZeroRun gs
  if 1 < len then (gs.take start, gs.drop (start + len)) else (gs, gs)

/-- So many groups with given ones on both sides of a gap. -/
def rebuilt (n : Nat) (front back : List UInt16) : List UInt16 :=
  if front.length = n then front
  else front ++ List.replicate (n - front.length - back.length) 0 ++ back

theorem eq_rebuilt (gs : List UInt16) : gs = rebuilt gs.length (sides gs).1 (sides gs).2 := by
  obtain ⟨hle, hzero⟩ := longestZeroRun_zero gs
  unfold sides
  generalize longestZeroRun gs = run at hle hzero
  obtain ⟨start, len⟩ := run
  dsimp only at hle hzero ⊢
  split
  · rename_i hlen
    have hstart : (gs.take start).length = start := by
      rw [List.length_take]
      omega
    have hgap : gs.length - start - (gs.drop (start + len)).length = len := by
      rw [List.length_drop]
      omega
    show gs = rebuilt gs.length (gs.take start) (gs.drop (start + len))
    rw [rebuilt, if_neg (by omega), hstart, hgap, ← hzero, List.append_assoc, ← List.drop_drop,
      List.take_append_drop, List.take_append_drop]
  · rw [rebuilt, if_pos rfl]

/-! ## Back from the text -/

/-- Without groups there is still an empty text. -/
def partsOf (ls : List (List Char)) : List (List Char) := if ls = [] then [[]] else ls

theorem reverse_partsOf (ls : List (List Char)) : (partsOf ls).reverse = partsOf ls.reverse := by
  unfold partsOf
  by_cases h : ls = [] <;> simp [h]

/-- The first empty part ends what is written on one side. -/
theorem takeWhile_partsOf {ls : List (List Char)} (h : ∀ l ∈ ls, l ≠ []) (rest : List (List Char)) :
    (partsOf ls ++ [] :: rest).takeWhile (· ≠ []) = ls := by
  unfold partsOf
  by_cases hls : ls = []
  · simp [hls]
  · rw [if_neg hls, List.takeWhile_append_of_pos (by simpa using h)]
    simp

theorem splitOn_groupsText (gs : List UInt16) :
    (groupsText gs).splitOn ':' = partsOf (gs.map groupText) := by
  cases gs with
  | nil => rfl
  | cons g gs =>
    refine List.splitOn_intercalate _ (fun l hl => ?_) (by simp)
    obtain ⟨x, -, rfl⟩ := List.mem_map.1 hl
    exact colon_not_mem_groupText x

theorem splitOn_gap (front back : List UInt16) :
    (groupsText front ++ ':' :: ':' :: groupsText back).splitOn ':' =
      partsOf (front.map groupText) ++ [] :: partsOf (back.map groupText) := by
  rw [← splitOn_groupsText, ← splitOn_groupsText]
  unfold List.splitOn
  rw [List.splitOnP_append_cons _ _ (by rfl)]
  exact congrArg _ (List.splitOnP_append_cons [] _ (by rfl))

/-- What is written on both sides of the gap is read off the text. -/
theorem sides_of_text {gs : List UInt16} (hne : gs ≠ []) :
    ((compressedText gs).splitOn ':').takeWhile (· ≠ []) = (sides gs).1.map groupText ∧
    ((compressedText gs).splitOn ':').reverse.takeWhile (· ≠ []) =
      ((sides gs).2.map groupText).reverse := by
  have hparts (gs : List UInt16) : ∀ l ∈ gs.map groupText, l ≠ [] := fun l hl => by
    obtain ⟨g, -, rfl⟩ := List.mem_map.1 hl
    exact groupText_ne_nil g
  unfold compressedText sides
  generalize longestZeroRun gs = run
  obtain ⟨start, len⟩ := run
  dsimp only
  split
  · rw [splitOn_gap]
    refine ⟨takeWhile_partsOf (hparts _) _, ?_⟩
    rw [List.reverse_append, List.reverse_cons, List.append_assoc, reverse_partsOf]
    exact takeWhile_partsOf (fun l hl => hparts _ l (List.mem_reverse.1 hl)) _
  · have hwhole : partsOf (gs.map groupText) = gs.map groupText := by simp [partsOf, hne]
    rw [splitOn_groupsText, hwhole]
    refine ⟨?_, ?_⟩
    · exact List.takeWhile_eq_self_iff.2 (by simpa using hparts gs)
    · exact List.takeWhile_eq_self_iff.2 (by simpa using hparts gs)

theorem compressedText_inj {gs gs' : List UInt16} (hlength : gs.length = gs'.length) (hne : gs ≠ [])
    (h : compressedText gs = compressedText gs') : gs = gs' := by
  have hne' : gs' ≠ [] := fun e => hne (List.length_eq_zero_iff.1 (by rw [hlength, e]; rfl))
  obtain ⟨hfront, hback⟩ := sides_of_text hne
  obtain ⟨hfront', hback'⟩ := sides_of_text hne'
  rw [h] at hfront hback
  have hmap {l l' : List UInt16} (hl : l.map groupText = l'.map groupText) : l = l' :=
    (List.map_inj_right fun _ _ => groupText_inj).1 hl
  have hsame : (sides gs).1 = (sides gs').1 := hmap (hfront.symm.trans hfront')
  have hsame' : (sides gs).2 = (sides gs').2 :=
    hmap (List.reverse_inj.1 (hback.symm.trans hback'))
  rw [eq_rebuilt gs, eq_rebuilt gs', hlength, hsame, hsame']

/-! ## The text of an address -/

/-- The text of an address: it stands for one of version 4, or it is written in groups. -/
theorem v6_cases (gs : Vector UInt16 8) :
    (∃ x y, gs.toList = [0, 0, 0, 0, 0, 0xFFFF, x, y] ∧ (v6 gs).text.toList =
      "::ffff:".toList ++
        quadText ((x / 256).toUInt8, x.toUInt8, (y / 256).toUInt8, y.toUInt8)) ∨
    (v6 gs).text.toList = compressedText gs.toList := by
  simp only [text]
  split
  · rename_i x y h
    exact .inl ⟨x, y, h, by simp⟩
  · exact .inr (by simp)

theorem colon_not_mem_quadText (q : Quad) : ':' ∉ quadText q := by
  obtain ⟨a, b, c, d⟩ := q
  have hdigits (n : Nat) : ':' ∉ Text.natText n := fun h =>
    absurd (Text.isDigit_of_mem_natText h) (by decide)
  simp [quadText, hdigits]

theorem dot_mem_quadText (q : Quad) : '.' ∈ quadText q := by
  simp [quadText]

theorem dot_not_mem_compressedText (gs : List UInt16) : '.' ∉ compressedText gs := fun h => by
  rcases Host.mem_compressedText h with hhex | hcolon
  · exact absurd hhex (by decide)
  · exact absurd hcolon (by decide)

theorem colon_mem_compressedText {gs : List UInt16} (h : 1 < gs.length) :
    ':' ∈ compressedText gs := by
  unfold compressedText
  dsimp only
  split
  · simp
  · obtain ⟨g, g', rest, rfl⟩ : ∃ g g' rest, gs = g :: g' :: rest := by
      match gs, h with
      | g :: g' :: rest, _ => exact ⟨g, g', rest, rfl⟩
    simp [groupsText, List.intercalate_cons_of_ne_nil]

theorem group_of_bytes {x y : UInt16} (hhigh : (x / 256).toUInt8 = (y / 256).toUInt8)
    (hlow : x.toUInt8 = y.toUInt8) : x = y := by
  have hx := x.toNat_lt
  have hy := y.toNat_lt
  have hhigh := congrArg UInt8.toNat hhigh
  have hlow := congrArg UInt8.toNat hlow
  simp only [UInt16.toNat_toUInt8, UInt16.toNat_div] at hhigh hlow
  refine UInt16.toNat_inj.1 ?_
  simp at hhigh hlow
  omega

theorem colon_mem_text (gs : Vector UInt16 8) : ':' ∈ (v6 gs).text.toList := by
  rcases v6_cases gs with ⟨x, y, -, h⟩ | h
  · rw [h]
    simp
  · rw [h]
    exact colon_mem_compressedText (by simp)

theorem text_v4_ne_v6 {a b c d : UInt8} {gs : Vector UInt16 8} :
    (v4 a b c d).text ≠ (v6 gs).text := fun h => by
  have hcolon := colon_mem_text gs
  rw [← h] at hcolon
  exact colon_not_mem_quadText (a, b, c, d) (by simpa [text] using hcolon)

theorem dotted_ne_grouped {s s' : String} {q : Quad} {gs : List UInt16}
    (hs : s.toList = "::ffff:".toList ++ quadText q) (hs' : s'.toList = compressedText gs) :
    s ≠ s' := fun h => by
  refine dot_not_mem_compressedText gs ?_
  rw [← hs', ← h, hs]
  exact List.mem_append_right _ (dot_mem_quadText q)

theorem text_inj {p q : IpAddress} (h : p.text = q.text) : p = q := by
  cases p with
  | v4 a b c d =>
    cases q with
    | v4 a' b' c' d' =>
      have hquad : (a, b, c, d) = (a', b', c', d') :=
        quadText_inj (by simpa [text] using congrArg String.toList h)
      cases hquad
      rfl
    | v6 gs => exact absurd h text_v4_ne_v6
  | v6 gs =>
    cases q with
    | v4 a b c d => exact absurd h.symm text_v4_ne_v6
    | v6 gs' =>
      suffices hlist : gs.toList = gs'.toList by
        rw [Vector.toList_inj.1 hlist]
      rcases v6_cases gs with ⟨x, y, hgs, htext⟩ | htext <;>
        rcases v6_cases gs' with ⟨x', y', hgs', htext'⟩ | htext'
      · rw [h, htext'] at htext
        have hquad := quadText_inj (List.append_cancel_left htext)
        simp only [Prod.mk.injEq] at hquad
        obtain ⟨hx, hx', hy, hy'⟩ := hquad
        rw [hgs, hgs', group_of_bytes hx hx', group_of_bytes hy hy']
      · exact absurd h (dotted_ne_grouped htext htext')
      · exact absurd h.symm (dotted_ne_grouped htext' htext)
      · rw [h, htext'] at htext
        have hlength : gs'.toList.length = gs.toList.length := by simp
        have hne : gs'.toList ≠ [] := fun e => by simpa using congrArg List.length e
        exact (compressedText_inj hlength hne htext).symm

end IpAddress
end EndpointClient
