import AttributeRelease.Proofs.Transient.Identifier
import AttributeRelease.Proofs.Transient.Token
import AttributeRelease.Transient.Plugins

/-!
# Identifiers that are presented again

An identifier that was issued for a request is presented in a later one.  Whatever the later request
says, it gets the principal of the first one or nothing, and only between the same two parties.  It
gets the principal where no part of the identifier has the separator; such a part is not refused
when the identifier is issued, but when it is presented.
-/

namespace AttributeRelease

variable {σ : Type}

/-- The parts of an identifier are what the request says. -/
theorem TransientId.ofRequest_eq_ok {r : Request} {issuer requester principal : String}
    (hissuer : r.issuer = some issuer) (hrequester : r.requester = some requester)
    (hprincipal : r.principalName = some principal) :
    ofRequest r = .ok ⟨issuer, requester, principal⟩ := by
  rw [ofRequest, hissuer, hrequester, hprincipal]
  rfl

namespace TransientIssue

variable {issue : TransientIssue σ} {request : Request} {memo : Memo} {s s' : σ}

theorem issue_of_resolve {a : Attribute}
    (h : issue.definition.resolve request memo s = (.ok a, s')) :
    ∃ token, issue.issue request s = (.ok token, s') ∧ a.values = [.string token] := by
  simp only [definition] at h
  rcases hissue : issue.issue request s with ⟨result, s''⟩
  rw [hissue] at h
  cases result with
  | error e => cases h
  | ok token =>
      cases h
      exact ⟨token, rfl, rfl⟩

theorem wrap_of_issue {t : TransientId} {token : String}
    (hcontent : TransientId.ofRequest request = .ok t)
    (h : issue.issue request s = (.ok token, s')) :
    issue.sealer.wrap t.text (TransientId.expiry (issue.clock s).1 issue.lifetime)
      (issue.clock s).2 = (.ok token, s') := by
  rw [TransientIssue.issue, hcontent] at h
  dsimp only at h
  rcases hwrap : issue.sealer.wrap t.text
    (TransientId.expiry (issue.clock s).1 issue.lifetime) (issue.clock s).2 with ⟨result, s''⟩
  rw [hwrap] at h
  cases result with
  | error e => cases h
  | ok sealed =>
      cases h
      rfl

/-- An issued attribute has one value, and that was sealed from the identifier of the request. -/
theorem wrap_of_resolve {t : TransientId} {a : Attribute} {token : String}
    (hcontent : TransientId.ofRequest request = .ok t)
    (h : issue.definition.resolve request memo s = (.ok a, s'))
    (htoken : .string token ∈ a.values) :
    issue.sealer.wrap t.text (TransientId.expiry (issue.clock s).1 issue.lifetime)
      (issue.clock s).2 = (.ok token, s') := by
  obtain ⟨sealed, hissue, hvalues⟩ := issue_of_resolve h
  rw [hvalues, List.mem_singleton, Value.string.injEq] at htoken
  rw [htoken]
  exact wrap_of_issue hcontent hissue

theorem resolve_of_wrap {t : TransientId} {token : String}
    (hcontent : TransientId.ofRequest request = .ok t)
    (hwrap : issue.sealer.wrap t.text (TransientId.expiry (issue.clock s).1 issue.lifetime)
      (issue.clock s).2 = (.ok token, s')) :
    issue.definition.resolve request memo s =
      (.ok { id := issue.settings.id, values := [.string token] }, s') := by
  simp only [definition, TransientIssue.issue]
  rw [hcontent]
  dsimp only
  rw [hwrap]

end TransientIssue

namespace TransientRecognition

variable {issue : TransientIssue σ} {recognition : TransientRecognition σ}

/-- An issued token that is presented gives the principal of its text while its time lasts. -/
theorem resolve_issued (hkeeps : issue.sealer.Keeps issue.clock)
    (hsealer : recognition.sealer = issue.sealer) {t : TransientId} {request : Request}
    {memo : Memo} {s s' : σ} {a : Attribute} {token : String}
    (hcontent : TransientId.ofRequest request = .ok t)
    (hissue : issue.definition.resolve request memo s = (.ok a, s'))
    (htoken : .string token ∈ a.values) {later : Request} {subject : Subject}
    (hsubject : later.subject = some subject) (hvalue : subject.value = token) (memo' : Memo)
    (now : σ) :
    (recognition.connector.resolve later memo' now).1 =
      if (issue.clock now).1 ≤ (TransientId.expiry (issue.clock s).1 issue.lifetime).toInt then
        TransientId.principalOf t.text subject later
      else .error .expiredIdentifier := by
  have hwrap := TransientIssue.wrap_of_resolve hcontent hissue htoken
  change (recognition.recognise later now).1 = _
  rw [recognise, hsubject, hsealer]
  dsimp only
  rw [hvalue]
  by_cases hnow :
      (issue.clock now).1 ≤ (TransientId.expiry (issue.clock s).1 issue.lifetime).toInt
  · have hopen := hkeeps.opens hwrap now hnow
    rcases hresult : issue.sealer.unwrap token now with ⟨result, now'⟩
    rw [hresult] at hopen
    change result = .ok t.text at hopen
    rw [if_pos hnow, hopen]
  · have hover := hkeeps.expires hwrap now (Int.not_le.mp hnow)
    rcases hresult : issue.sealer.unwrap token now with ⟨result, now'⟩
    rw [hresult] at hover
    change result = .error .expired at hover
    rw [if_neg hnow, hover]
    rfl

/-! ## Tokens of a key -/

/-- A world that is a time, with one nonce for all tokens. -/
def vault : Sealer Int :=
  (SealingKey.ofSecret [118]).sealer (fun now => (.ofNat 1, now)) fun now => (now, now)

def vaultIssue : TransientIssue Int where
  settings := { plugin := { id := "transientId" } }
  sealer := vault
  clock now := (now, now)

def vaultRecognition : TransientRecognition Int where
  settings := { id := "transient" }
  format := "urn:oasis:names:tc:SAML:2.0:nameid-format:transient"
  sealer := vault

def login (principal : String) : Request :=
  { principalName := some principal, requester := some "sp", issuer := some "idp" }

def comeback (token : String) : Request :=
  { requester := some "sp", issuer := some "idp", subject := some (.saml2 token none none none) }

theorem vault_keeps : vault.Keeps vaultIssue.clock := SealingKey.sealer_keeps _ _ _

theorem exists_vault_token (principal : String)
    (h : (Text.encodeUtf8 (TransientId.mk "idp" "sp" principal).text).length + 8 ≤
      Cipher.Gcm.maxLength) :
    ∃ token, vaultIssue.definition.resolve (login principal) .empty 0 =
      (.ok { id := "transientId", values := [.string token] }, 0) := by
  obtain ⟨token, hwrap⟩ := SealingKey.exists_wrap (.ofSecret [118]) (.ofNat 1)
    (TransientId.expiry 0 vaultIssue.lifetime) h
  refine ⟨token, TransientIssue.resolve_of_wrap rfl ?_⟩
  change vault.wrap _ _ 0 = _
  rw [vault, SealingKey.sealer_wrap]
  exact Prod.ext hwrap rfl

/-- What the token of a login gives a minute later. -/
theorem resolve_comeback {principal token : String}
    (h : vaultIssue.definition.resolve (login principal) .empty 0 =
      (.ok { id := "transientId", values := [.string token] }, 0)) :
    (vaultRecognition.connector.resolve (comeback token) .empty 60000).1 =
      TransientId.principalOf (TransientId.mk "idp" "sp" principal).text
        (.saml2 token none none none) (comeback token) := by
  have hcontent : TransientId.ofRequest (login principal) = .ok ⟨"idp", "sp", principal⟩ := rfl
  rw [resolve_issued vault_keeps rfl hcontent h List.mem_cons_self rfl rfl]
  exact if_pos (by decide)

theorem fits_comeback (principal token : String) :
    (TransientId.mk "idp" "sp" principal).Fits (.saml2 token none none none) (comeback token) :=
  ⟨by simp [Subject.nameQualifier], by simp [Subject.spNameQualifier], rfl, rfl⟩

/-! ## Soundness and completeness -/

/-- An issued token is worth one principal, between two parties, for some time.  Nothing that the
parts of an identifier are made of makes it worth another one. -/
theorem resolve_issued_sound (hkeeps : issue.sealer.Keeps issue.clock)
    (hsealer : recognition.sealer = issue.sealer) {issuer requester principal : String}
    {request : Request} (hissuer : request.issuer = some issuer)
    (hrequester : request.requester = some requester)
    (hprincipal : request.principalName = some principal) {memo : Memo} {s s' : σ}
    {time : Int64} (htime : (issue.clock s).1 = time.toInt) {a : Attribute} {token : String}
    (hissue : issue.definition.resolve request memo s = (.ok a, s'))
    (htoken : .string token ∈ a.values) {later : Request} {subject : Subject}
    (hsubject : later.subject = some subject) (hvalue : subject.value = token) {memo' : Memo}
    {now : σ} {name : String}
    (hname : (recognition.connector.resolve later memo' now).1 = .ok name) :
    name = principal ∧ later.issuer = some issuer ∧ later.requester = some requester ∧
      (∀ q ∈ subject.nameQualifier, q = issuer) ∧
      (∀ q ∈ subject.spNameQualifier, q = requester) ∧
      (issue.clock now).1 ≤ min (time.toInt + issue.lifetime.millis) (Int.pow 2 63 - 1) := by
  have hcontent := TransientId.ofRequest_eq_ok hissuer hrequester hprincipal
  rw [resolve_issued hkeeps hsealer hcontent hissue htoken hsubject hvalue, htime] at hname
  split at hname
  case isFalse => cases hname
  case isTrue hnow =>
    obtain ⟨hprincipal', hfits⟩ := TransientId.principalOf_text_eq_ok hname
    have hlast := TransientId.toInt_expiry_le time issue.lifetime
    exact ⟨hprincipal', hfits.issuer, hfits.requester, hfits.nameQualifier,
      hfits.spNameQualifier, Int.le_trans hnow hlast⟩

/-- The token of `jdoe`, one minute after it was issued. -/
theorem resolve_issued_sound_jdoe :
    ∃ token, vaultIssue.definition.resolve (login "jdoe") .empty 0 =
        (.ok { id := "transientId", values := [.string token] }, 0) ∧
      (vaultRecognition.connector.resolve (comeback token) .empty 60000).1 = .ok "jdoe" ∧
      (comeback token).issuer = some "idp" ∧ (comeback token).requester = some "sp" ∧
      (60000 : Int) ≤ min (0 + 14400000) (Int.pow 2 63 - 1) := by
  obtain ⟨token, hissue⟩ := exists_vault_token "jdoe" (by decide)
  have hname : (vaultRecognition.connector.resolve (comeback token) .empty 60000).1 =
      .ok "jdoe" := by
    rw [resolve_comeback hissue, TransientId.principalOf_text_of_fits (fits_comeback _ token)]
    rfl
  have htime : (vaultIssue.clock 0).1 = (0 : Int64).toInt := rfl
  obtain ⟨-, hissuer, hrequester, -, -, hnow⟩ := resolve_issued_sound vault_keeps rfl rfl rfl rfl
    htime hissue List.mem_cons_self rfl rfl hname
  exact ⟨token, hissue, hname, hissuer, hrequester, hnow⟩

/-- An issued token that the right parties present in time is worth its principal, unless a part of
the identifier has the separator.  Then it is worth nothing at all. -/
theorem resolve_issued_eq (hkeeps : issue.sealer.Keeps issue.clock)
    (hsealer : recognition.sealer = issue.sealer) {issuer requester principal : String}
    {request : Request} (hissuer : request.issuer = some issuer)
    (hrequester : request.requester = some requester)
    (hprincipal : request.principalName = some principal) {memo : Memo} {s s' : σ}
    {a : Attribute} {token : String}
    (hissue : issue.definition.resolve request memo s = (.ok a, s'))
    (htoken : .string token ∈ a.values) {later : Request} {subject : Subject}
    (hsubject : later.subject = some subject) (hvalue : subject.value = token)
    (hissuer' : later.issuer = some issuer) (hrequester' : later.requester = some requester)
    (hqualifier : ∀ q ∈ subject.nameQualifier, q = issuer)
    (hspQualifier : ∀ q ∈ subject.spNameQualifier, q = requester) (memo' : Memo) {now : σ}
    (hnow : (issue.clock now).1 ≤
      (TransientId.expiry (issue.clock s).1 issue.lifetime).toInt) :
    (recognition.connector.resolve later memo' now).1 =
      if (TransientId.mk issuer requester principal).separators = 0 then .ok principal
      else .error (.invalidToken s!"expected 3 components, found {
        (TransientId.mk issuer requester principal).separators + 3}") := by
  have hcontent := TransientId.ofRequest_eq_ok hissuer hrequester hprincipal
  rw [resolve_issued hkeeps hsealer hcontent hissue htoken hsubject hvalue, if_pos hnow]
  exact TransientId.principalOf_text_of_fits ⟨hqualifier, hspQualifier, hissuer', hrequester'⟩

/-- The token of `jdoe` is worth `jdoe`. -/
theorem resolve_issued_eq_jdoe :
    ∃ token, vaultIssue.definition.resolve (login "jdoe") .empty 0 =
        (.ok { id := "transientId", values := [.string token] }, 0) ∧
      (vaultRecognition.connector.resolve (comeback token) .empty 60000).1 = .ok "jdoe" := by
  obtain ⟨token, hissue⟩ := exists_vault_token "jdoe" (by decide)
  refine ⟨token, hissue, ?_⟩
  have hsubject : (comeback token).subject = some (.saml2 token none none none) := rfl
  have hnow : (vaultIssue.clock 60000).1 ≤
      (TransientId.expiry (vaultIssue.clock 0).1 vaultIssue.lifetime).toInt := by decide
  have hfits := fits_comeback "jdoe" token
  have hsealer : vaultRecognition.sealer = vaultIssue.sealer := rfl
  have heq := resolve_issued_eq vault_keeps hsealer rfl rfl rfl hissue List.mem_cons_self hsubject
    rfl rfl rfl hfits.nameQualifier hfits.spNameQualifier .empty hnow
  exact heq.trans (if_pos (by decide))

/-- A token is issued for `j!doe`, and it is worth nothing. -/
theorem resolve_issued_separator :
    ∃ token, vaultIssue.definition.resolve (login "j!doe") .empty 0 =
        (.ok { id := "transientId", values := [.string token] }, 0) ∧
      (vaultRecognition.connector.resolve (comeback token) .empty 60000).1 =
        .error (.invalidToken "expected 3 components, found 4") := by
  obtain ⟨token, hissue⟩ := exists_vault_token "j!doe" (by decide)
  refine ⟨token, hissue, ?_⟩
  rw [resolve_comeback hissue, TransientId.principalOf_text_of_fits (fits_comeback _ token)]
  rfl

end TransientRecognition

end AttributeRelease
