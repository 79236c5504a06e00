import EndpointClient.Proofs.Health.Target
import EndpointClient.Proofs.Http.PlainUri

/-!
# EndpointClient.Proofs.Health.PlainTarget

Plain endpoints have a target, and it is written the way they are configured.

* `plainTarget` is that target, `toList_plainTarget` its characters.
* `healthUri_plain`: neither of the two parsers nor any of the checks between them objects to a
  plain endpoint, and none of them rewrites it.
-/

namespace EndpointClient.EndpointConfig

variable {c : EndpointConfig}

/-- An endpoint of a web scheme with a plain name and a plain path. -/
structure IsPlain (c : EndpointConfig) : Prop where
  scheme : c.scheme = "http" ∨ c.scheme = "https"
  hostname : Host.IsPlain c.hostname.toList
  healthPath : Url.IsPlainPath c.healthPath.toList

/-- The parts of an endpoint put together. The usual port is not written, and an empty path is a
slash. -/
def plainTarget (c : EndpointConfig) : String :=
  c.scheme ++ "://" ++ c.hostname ++
    (if c.scheme = "http" ∧ c.port = 80 ∨ c.scheme = "https" ∧ c.port = 443 then ""
      else ":" ++ toString c.port.toNat) ++
    (if c.healthPath = "" then "/" else c.healthPath)

theorem IsPlain.web (h : c.IsPlain) : Url.IsWeb c.scheme.toList := by
  rcases h.scheme with hs | hs
  · exact .inl (congrArg String.toList hs)
  · exact .inr (congrArg String.toList hs)

def writtenPort (c : EndpointConfig) : Option Nat :=
  if usualPort? c.scheme.toList = some c.port.toNat then none else some c.port.toNat

theorem writtenPort_or (c : EndpointConfig) :
    c.writtenPort.or (usualPort? c.scheme.toList) = some c.port.toNat := by
  unfold writtenPort
  split
  · rename_i h
    exact h
  · rfl

theorem usualPort_iff (h : c.IsPlain) : usualPort? c.scheme.toList = some c.port.toNat ↔
    c.scheme = "http" ∧ c.port = 80 ∨ c.scheme = "https" ∧ c.port = 443 := by
  have hport : ∀ p : UInt16, some p.toNat = some c.port.toNat ↔ c.port = p := by
    intro p
    rw [Option.some_inj, UInt16.toNat_inj]
    exact eq_comm
  rcases h.scheme with hs | hs
  · have husual : usualPort? "http".toList = some (80 : UInt16).toNat := rfl
    rw [hs, husual, hport]
    simp
  · have husual : usualPort? "https".toList = some (443 : UInt16).toNat := rfl
    rw [hs, husual, hport]
    simp

theorem toList_plainTarget (h : c.IsPlain) : c.plainTarget.toList = c.scheme.toList ++
    ':' :: '/' :: '/' :: (c.hostname.toList ++ Http.Uri.portChars c.writtenPort ++
      c.expectedPath) := by
  have hport : (if c.scheme = "http" ∧ c.port = 80 ∨ c.scheme = "https" ∧ c.port = 443 then ""
      else ":" ++ toString c.port.toNat).toList = Http.Uri.portChars c.writtenPort := by
    rw [writtenPort]
    simp only [usualPort_iff h]
    split
    · rfl
    · simp [Http.Uri.portChars, Text.natText]
  have hpath : (if c.healthPath = "" then "/" else c.healthPath).toList = c.expectedPath := by
    rw [expectedPath_eq]
    by_cases hempty : c.healthPath = ""
    · simp [hempty]
    · simp [hempty]
  have hsep : "://".toList = [':', '/', '/'] := rfl
  rw [plainTarget, String.toList_append, String.toList_append, String.toList_append,
    String.toList_append, hport, hpath, hsep]
  simp

theorem expectedPath_plain (h : c.IsPlain) :
    ∃ q, c.expectedPath = '/' :: q ∧ ∀ d ∈ q, Url.isPathSign d = true := by
  rw [expectedPath_eq]
  rcases h.healthPath with hnil | ⟨q, hq, hsigns⟩
  · exact ⟨[], by rw [hnil]; rfl, by simp⟩
  · exact ⟨q, by rw [hq]; rfl, hsigns⟩

/-! ## What the checks see -/

theorem hasBlankHostname_plain (h : c.IsPlain) : c.hasBlankHostname = false := by
  obtain ⟨d, r, hcons, -⟩ := h.hostname.start
  have hd := h.hostname.isPlainSign d (by rw [hcons]; exact List.mem_cons_self)
  have hblank := Host.of_isPlainSign (P := fun d => Text.isBlank d = false) (by decide +kernel) hd
  rw [hasBlankHostname, hcons, Text.isBlankText, List.all_cons, hblank, Bool.false_and]

theorem hasRelativePath_plain (h : c.IsPlain) : c.hasRelativePath = false := by
  unfold hasRelativePath
  rcases h.healthPath with hnil | ⟨q, hq, -⟩
  · rw [hnil]
  · rw [hq]
    rfl

/-- The URL between a plain endpoint and its target. -/
def plainUrl (c : EndpointConfig) : Url :=
  Url.afterAuthority c.scheme.toList .special (some ⟨[], c.hostname.toList, c.writtenPort⟩)
    c.healthPath.toList

theorem parse_healthUrlText (h : c.IsPlain) : Url.parse c.healthUrlText = .ok c.plainUrl := by
  rw [← String.ofList_toList (s := c.healthUrlText), toList_healthUrlText]
  exact Url.parse_plain h.web h.hostname (Nat.le_of_lt_succ c.port.toNat_lt) h.healthPath

theorem resourceChars_plainUrl (h : c.IsPlain) : c.plainUrl.resourceChars = c.expectedPath := by
  rw [plainUrl, Url.resourceChars_plain _ h.healthPath, expectedPath_eq]

theorem isTargetOf_plainUrl (c : EndpointConfig) :
    c.isTargetOf (.domain c.hostname.toList) c.plainUrl = true := by
  have hport : c.plainUrl.effectivePort? = some c.port.toNat := c.writtenPort_or
  rw [isTargetOf, hport, Bool.and_eq_true, decide_eq_true_eq, decide_eq_true_eq]
  exact ⟨rfl, rfl⟩

theorem text_plainUrl (h : c.IsPlain) : c.plainUrl.text = c.plainTarget := by
  rw [Url.text, resourceChars_plainUrl h, ← String.ofList_toList (s := c.plainTarget),
    toList_plainTarget h]
  simp [plainUrl, Url.afterAuthority, Url.frontChars, Url.authorityChars, Http.Uri.portChars]

theorem parse_plainTarget (h : c.IsPlain) (hsize : c.plainTarget.utf8ByteSize ≤ 65534) :
    ∃ uri, Http.Uri.parse c.plainTarget = .ok uri ∧ uri.text = c.plainTarget := by
  obtain ⟨q, hq, hsigns⟩ := expectedPath_plain h
  have htarget := toList_plainTarget h
  rw [hq] at htarget
  refine ⟨_, Http.Uri.parse_plain h.web h.hostname hsigns htarget hsize, ?_⟩
  rw [Http.Uri.text, Http.Uri.chars_mk, ← htarget, String.ofList_toList]

/-- **A plain endpoint is accepted, and its target is exactly what is configured.** -/
theorem healthUri_plain (h : c.IsPlain) (hsize : c.plainTarget.utf8ByteSize ≤ 65534) :
    ∃ uri, c.healthUri = .ok uri ∧ uri.text = c.plainTarget := by
  obtain ⟨uri, huri, htext⟩ := parse_plainTarget h hsize
  refine ⟨uri, ?_, htext⟩
  have hfault : c.healthUriOrFault = .ok uri := by
    unfold healthUriOrFault
    simp only [hasBlankHostname_plain h, hasRelativePath_plain h, parse_healthUrlText h,
      Host.parse_of_plain h.hostname, isTargetOf_plainUrl, resourceChars_plainUrl h,
      text_plainUrl h, huri, Bool.false_eq_true, if_false, Bool.not_true, ne_eq, not_true_eq_false]
  rw [healthUri, hfault]

theorem healthUri_plain_usual :
    let c : EndpointConfig := { hostname := "a1.b", healthPath := "/up~/x-_9" }
    c.IsPlain ∧ c.plainTarget.utf8ByteSize ≤ 65534 ∧
      ∃ uri, c.healthUri = .ok uri ∧ uri.text = c.plainTarget := by
  intro c
  have hlabels : ∀ l ∈ ["a1".toList, "b".toList], Host.IsPlainLabel l := by
    intro l hl
    simp only [List.mem_cons, List.not_mem_nil, or_false] at hl
    rcases hl with rfl | rfl
    · exact ⟨⟨'a', ['1'], rfl, rfl⟩, by simp⟩
    · exact ⟨⟨'b', [], rfl, rfl⟩, by simp⟩
  have hplain : c.IsPlain := ⟨.inr rfl, ⟨_, List.cons_ne_nil _ _, hlabels, by decide⟩,
    .inr ⟨"up~/x-_9".toList, by decide, List.all_eq_true.1 rfl⟩⟩
  have hsize : c.plainTarget.utf8ByteSize ≤ 65534 := by decide
  exact ⟨hplain, hsize, healthUri_plain hplain hsize⟩

end EndpointClient.EndpointConfig
