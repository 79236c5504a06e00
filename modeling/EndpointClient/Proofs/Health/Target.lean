import EndpointClient.Health.Uri
import EndpointClient.Proofs.Http.Uri

/-!
# EndpointClient.Proofs.Health.Target

The target of probes is the configured host, port and path.

* `isChecked_of_healthUri`: what the checks let through, as facts about the URL between the
  configuration and the target.
* `IsChecked.authority`, `IsChecked.isRead`: this URL has no user information, and the target has its
  parts, all but a fragment.
* `healthUri_target`: for all texts in a configuration the target is the configured host and port.
* `healthUri_literal`: the path is literal or there is no target. `healthUri_drops_fragment`: but a
  fragment in the path is lost.
-/

namespace EndpointClient

/-- The port that a target goes to: the one written, or else the usual one of its scheme. -/
def Http.Uri.effectivePort? (u : Http.Uri) : Option Nat := u.port?.or (u.scheme.bind usualPort?)

namespace EndpointConfig

variable {c : EndpointConfig} {uri : Http.Uri}

theorem toList_healthUrlText (c : EndpointConfig) : c.healthUrlText.toList =
    c.scheme.toList ++ ':' :: ('/' :: '/' :: c.hostname.toList ++
      ':' :: (Text.natText c.port.toNat ++ c.healthPath.toList)) := by
  simp [healthUrlText]

theorem expectedPath_eq (c : EndpointConfig) : c.expectedPath =
    if c.healthPath.toList.isEmpty then ['/'] else c.healthPath.toList := by
  rw [expectedPath]
  have hempty : c.healthPath.isEmpty = c.healthPath.toList.isEmpty := by
    rw [Bool.eq_iff_iff, String.isEmpty_iff, List.isEmpty_iff, String.toList_eq_nil_iff]
  rw [hempty]

theorem healthPath_cases (h : c.hasRelativePath = false) :
    c.healthPath.toList = [] ∨ ∃ q, c.healthPath.toList = '/' :: q := by
  unfold hasRelativePath at h
  split at h
  · rename_i hnil
    exact .inl hnil
  · rename_i ch q hq
    rw [bne_eq_false_iff_eq] at h
    exact .inr ⟨q, by rw [hq, h]⟩

theorem healthUri_eq_error (c : EndpointConfig) :
    (∃ f, c.healthUri = .error ⟨c.hostname, f⟩) ∨ ∃ uri, c.healthUri = .ok uri := by
  unfold healthUri
  cases c.healthUriOrFault with
  | ok uri => exact .inr ⟨uri, rfl⟩
  | error f => exact .inl ⟨f, rfl⟩

/-- What the checks let through. -/
structure IsChecked (c : EndpointConfig) (u : Url) (host : Host) (uri : Http.Uri) : Prop where
  notRelative : c.hasRelativePath = false
  urlOk : Url.parse c.healthUrlText = .ok u
  hostOk : Host.parse c.hostname.toList = .ok host
  sameHost : lowered u.hostChars = lowered host.chars
  port : u.effectivePort? = some c.port.toNat
  resource : u.resourceChars = c.expectedPath
  uriOk : Http.Uri.parse u.text = .ok uri

theorem isChecked_of_healthUri (h : c.healthUri = .ok uri) : ∃ u host, IsChecked c u host uri := by
  have hfault : c.healthUriOrFault = .ok uri := by
    unfold healthUri at h
    split at h
    · rename_i hok
      cases h
      exact hok
    · cases h
  unfold healthUriOrFault at hfault
  split at hfault
  · cases hfault
  split at hfault
  · cases hfault
  rename_i hrelative
  split at hfault
  · cases hfault
  rename_i u hurl
  split at hfault
  · cases hfault
  rename_i host hhost
  split at hfault
  · cases hfault
  rename_i htarget
  split at hfault
  · cases hfault
  rename_i hresource
  split at hfault
  · rename_i hparse
    cases hfault
    simp only [isTargetOf, Bool.not_eq_true', Bool.not_eq_false, Bool.and_eq_true,
      decide_eq_true_eq] at htarget
    exact ⟨u, host, ⟨by simpa using hrelative, hurl, hhost, htarget.1, htarget.2,
      Decidable.not_not.1 hresource, hparse⟩⟩
  · cases hfault

variable {u : Url} {host : Host}

theorem isSchemeChar_toLower {d : Char}
    (h : (d.isAlphanum || d == '+' || d == '-' || d == '.') = true) :
    Http.Uri.isSchemeChar d.toLower = true := by
  by_cases hu : d.isUpper = true
  · obtain ⟨k, hk, rfl⟩ := Text.exists_of_isUpper hu
    clear h hu
    revert k
    decide
  · rw [Text.toLower_eq_self hu]
    simp only [Bool.or_eq_true, beq_iff_eq] at h
    unfold Http.Uri.isSchemeChar
    rcases h with ((halnum | rfl) | rfl) | rfl
    · rw [halnum, Bool.true_or]
    · decide
    · decide
    · decide

namespace IsChecked

theorem isText (h : IsChecked c u host uri) : Host.IsText u.hostChars :=
  (Host.isText_of_parse h.hostOk).of_lowered h.sameHost

theorem isParse (h : IsChecked c u host uri) : ∃ kind, Url.IsParse c.healthUrlText.toList kind u := by
  refine Url.isParse_of_parse h.urlOk h.isText.ne_nil ?_
  rw [h.port]
  exact Option.some_ne_none _

theorem authority (h : IsChecked c u host uri) : ∃ a, u.authority = some a ∧ a.user = [] := by
  obtain ⟨kind, hparse⟩ := h.isParse
  rw [toList_healthUrlText] at hparse
  refine Url.user_of_isParse hparse (Host.not_at_of_parse h.hostOk)
    (fun d hd => Text.isDigit_of_mem_natText hd) (Text.natText_ne_nil _)
    (healthPath_cases h.notRelative) ?_
  rw [h.resource, expectedPath_eq]

theorem isScheme (h : IsChecked c u host uri) : Http.Uri.IsScheme u.scheme := by
  obtain ⟨kind, hparse⟩ := h.isParse
  obtain ⟨x, hne, hlow, hx⟩ := Url.isScheme_of_isParse hparse
  have hsign : ∀ d ∈ u.scheme, Http.Uri.isSchemeChar d = true := by
    intro d hd
    rw [hlow] at hd
    obtain ⟨e, he, rfl⟩ := List.mem_map.1 hd
    exact isSchemeChar_toLower (hx e he)
  obtain ⟨d, r, hcons⟩ : ∃ d r, u.scheme = d :: r :=
    List.exists_cons_of_ne_nil (by rw [hlow]; simpa using hne)
  refine ⟨⟨d, r, hcons, ?_⟩, hsign, ?_⟩
  · rintro rfl
    exact absurd (hsign '/' (by rw [hcons]; exact List.mem_cons_self)) (by decide)
  · rw [hlow, Text.map_toLower_toLower]

theorem expectedPath_cons (h : IsChecked c u host uri) : ∃ q, c.expectedPath = '/' :: q := by
  rw [expectedPath_eq]
  rcases healthPath_cases h.notRelative with hnil | ⟨q, hq⟩
  · exact ⟨[], by rw [hnil]; rfl⟩
  · exact ⟨q, by rw [hq]; rfl⟩

/-- The target has the parts of the URL, all but a fragment. -/
theorem isRead (h : IsChecked c u host uri) : Http.Uri.IsRead u.scheme
    (u.hostChars ++ Http.Uri.portChars (u.authority.bind (·.port))) c.expectedPath uri := by
  obtain ⟨a, ha, huser⟩ := h.authority
  obtain ⟨q, hq⟩ := h.expectedPath_cons
  have hhost : u.hostChars = a.host := by
    rw [Url.hostChars, ha]
    rfl
  have htext : u.text = String.ofList (u.scheme ++ ':' :: '/' :: '/' ::
      ((u.hostChars ++ Http.Uri.portChars a.port) ++ '/' :: q)) := by
    rw [Url.text, h.resource, hq, Url.frontChars, ha, hhost]
    simp [Url.authorityChars, huser, Http.Uri.portChars]
  have hok := h.uriOk
  rw [htext] at hok
  have hend : ∀ d ∈ u.hostChars ++ Http.Uri.portChars a.port, Http.Uri.endsAuthority d = false := by
    intro d hd
    rw [← Bool.not_eq_true]
    intro hend
    simp only [Http.Uri.endsAuthority, Bool.or_eq_true, beq_iff_eq] at hend
    rcases hend with (rfl | rfl) | rfl <;>
      exact Http.Uri.not_mem_authority h.isText (by decide) (by decide) (by decide) (by decide) hd
  have hport : u.authority.bind (·.port) = a.port := by
    rw [ha]
    rfl
  rw [hport, hq]
  exact Http.Uri.isRead_of_parse h.isScheme hend hok

end IsChecked

/-- Whatever the texts of a configuration are, probes go to the configured host and port, and carry
no user information. -/
theorem healthUri_target (h : c.healthUri = .ok uri) : ∃ host,
    Host.parse c.hostname.toList = .ok host ∧
      (∃ hs, uri.host? = some hs ∧ lowered hs = lowered host.chars) ∧
        uri.effectivePort? = some c.port.toNat ∧ '@' ∉ uri.authority := by
  obtain ⟨u, host, hc⟩ := isChecked_of_healthUri h
  have hread := hc.isRead
  have hplain := hc.isText
  have hle : ∀ p ∈ u.authority.bind (·.port), p ≤ 65535 := by
    intro p hp
    have heff := hc.port
    rw [Url.effectivePort?, hp, Option.some_or, Option.some.injEq] at heff
    have hlt := c.port.toNat_lt
    omega
  refine ⟨host, hc.hostOk, ⟨u.hostChars, ?_, hc.sameHost⟩, ?_, ?_⟩
  · rw [Http.Uri.host?, hread.authority, Http.Uri.hostOf_eq hplain, if_neg]
    simp [hplain.ne_nil]
  · rw [Http.Uri.effectivePort?, Http.Uri.port?_eq hplain hread.authority hle, hread.scheme,
      ← hc.port]
    rfl
  · rw [hread.authority]
    exact Http.Uri.not_mem_authority hplain (by decide) (by decide) (by decide) (by decide)

theorem healthUri_target_groups : ∃ uri,
    ({ scheme := "HTTPS", hostname := "[0:0::1]" } : EndpointConfig).healthUri = .ok uri ∧
      ∃ host, Host.parse "[0:0::1]".toList = .ok host ∧
        (∃ hs, uri.host? = some hs ∧ lowered hs = lowered host.chars) ∧
          uri.effectivePort? = some 443 ∧ '@' ∉ uri.authority :=
  ⟨_, rfl, healthUri_target (c := { scheme := "HTTPS", hostname := "[0:0::1]" }) rfl⟩

/-- The path is literal, or there is no target. The target has all of it up to a fragment. -/
theorem healthUri_literal (c : EndpointConfig) : (∃ f, c.healthUri = .error ⟨c.hostname, f⟩) ∨
    ∃ uri, c.healthUri = .ok uri ∧ Url.IsLiteral c.expectedPath ∧
      uri.pathAndQueryChars = c.expectedPath.takeWhile (· != '#') := by
  rcases healthUri_eq_error c with herr | ⟨uri, huri⟩
  · exact .inl herr
  · obtain ⟨u, host, hc⟩ := isChecked_of_healthUri huri
    obtain ⟨kind, hparse⟩ := hc.isParse
    refine .inr ⟨uri, huri, ?_, hc.isRead.pathAndQuery⟩
    rw [← hc.resource]
    exact hparse.isLiteral

/-- A path with a fragment is not refused, and not taken as it is written. -/
theorem healthUri_drops_fragment : ∃ uri,
    ({ hostname := "[::1]", healthPath := "/health#x" } : EndpointConfig).healthUri = .ok uri ∧
      uri.pathAndQueryChars ≠ "/health#x".toList :=
  ⟨_, rfl, by decide⟩

end EndpointConfig
end EndpointClient
