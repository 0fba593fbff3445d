import ReviewSignal.Core.Auth
import Mathlib.Data.List.Basic
import Mathlib.Data.Rat.Lemmas

/-!
# Which tokens are accepted

Against every history of `issue_token` calls, with any secrets, lifetimes and times: a cookie is accepted
under a secret exactly when some call returned it under that secret and it has not expired
(**`verifyToken_iff_genuine`**).  In particular no earlier token is accepted once the secret is another one.

The signature is a MAC.  `Unforgeable` is what the code relies on: a signature under the secret that stands
in the cookie is one `_sign` was asked for, and a payload of the history has another signature under another
secret.  `_sign` is asked by `issue_token` alone; what `verify_token` computes never leaves it.

The payload is the expiry as a number, and what is accepted is compared as a number.  That the two agree needs
an argument (`parseInt_payload`), since `int()` reads more texts than are printed: with a sign, with white
space, with underscores.  None of them is a payload that was signed.
-/

namespace ReviewSignal

namespace Auth

/-- One call of `issue_token`. -/
structure IssueCall where
  secret : String
  ttl : ℤ
  now : ℤ
  deriving DecidableEq, Repr

namespace IssueCall

/-- The payload it signs. -/
def payload (call : IssueCall) : String := Python.str (expiresAt call.ttl call.now)

/-- The token it returns. -/
def issued (hmac : Hmac) (call : IssueCall) : Except Exn String :=
  issueToken hmac call.secret call.ttl call.now

end IssueCall

/-- `_sign` was called with the secret and the payload. -/
def Signed (history : List IssueCall) (secret payload : String) : Prop :=
  ∃ call ∈ history, Python.Fits call.now call.ttl ∧ call.secret = secret ∧ call.payload = payload

/-- The MAC was not forged to make the cookie. -/
structure Unforgeable (hmac : Hmac) (history : List IssueCall) (secret cookie : String) : Prop where
  signed : ∀ payload signature, cookie = token payload signature →
    signature = sign hmac secret payload → Signed history secret payload
  distinct : ∀ call ∈ history, call.secret ≠ secret →
    sign hmac call.secret call.payload ≠ sign hmac secret call.payload

variable {hmac : Hmac} {unicode : Python.Unicode} {history : List IssueCall}
  {secret cookie : String} {ttl now : ℤ} {call : IssueCall}

/-! ## Issued tokens

A token has one dot, and its parts are found again. -/

theorem issued_eq_ok_iff : call.issued hmac = .ok cookie ↔
    Python.Fits call.now call.ttl ∧ cookie = token call.payload (sign hmac call.secret call.payload) := by
  rw [IssueCall.issued, issueToken]
  by_cases hfits : Python.Fits call.now call.ttl
  · rw [Python.addDuration_of_fits hfits]
    simp only [bind, Except.bind, pure, Except.pure, Except.ok.injEq, hfits, true_and]
    exact eq_comm
  · obtain ⟨message, hraises⟩ := Python.addDuration_of_not_fits hfits
    rw [hraises]
    exact iff_of_false (by simp [bind, Except.bind]) fun h => hfits h.1

/-- A payload has no dot, so the first dot of a token is the one before its signature. -/
theorem partition_token (number : ℤ) (signature : String) :
    Python.partition '.' (token (Python.str number) signature)
      = (Python.str number, ".", signature) := by
  refine Python.partition_append fun hdot => ?_
  rcases Python.mem_str hdot with hdigit | hminus
  · exact absurd hdigit (by decide)
  · exact absurd hminus (by decide)

theorem payload_token (number : ℤ) (signature : String) :
    payload (token (Python.str number) signature) = Python.str number := by
  rw [payload, partition_token]

theorem signature_token (number : ℤ) (s : String) :
    signature (token (Python.str number) s) = s := by
  rw [signature, partition_token]

theorem toList_token (p s : String) : (token p s).toList = p.toList ++ '.' :: s.toList := by
  rw [token, String.toList_append, String.toList_append, List.append_assoc]
  rfl

/-- A cookie with one dot is put together in one way. -/
theorem token_inj {p q s r : String} (hp : '.' ∉ p.toList) (hs : '.' ∉ s.toList)
    (h : token p s = token q r) : p = q ∧ s = r := by
  have htext := congrArg String.toList h
  rw [toList_token, toList_token] at htext
  obtain ⟨hpayload, -, hsignature⟩ := (List.append_cons_inj_of_notMem hp hs).mp htext
  exact ⟨String.toList_inj.mp hpayload, String.toList_inj.mp hsignature⟩

/-- The two parts of a cookie that has both put it together again. -/
theorem eq_token (h : signature cookie ≠ "") : cookie = token (payload cookie) (signature cookie) :=
  Python.eq_append_of_partition h

/-! ## The expiry a payload carries

A moment within the range of dates prints as a number `int()` reads. -/

theorem natAbs_truncate_le (moment : ℤ) : (Python.truncate (timestamp moment)).natAbs ≤ moment.natAbs := by
  rcases eq_or_ne moment 0 with rfl | hne
  · simp [timestamp, Python.truncate]
  have hdvd : (timestamp moment).num ∣ moment := by
    have hfraction : timestamp moment = Rat.divInt moment 1000000 := by
      rw [Rat.divInt_eq_div]
      rfl
    rw [hfraction]
    exact Rat.num_dvd moment (by decide)
  have hnum : (timestamp moment).num.natAbs ≤ moment.natAbs :=
    Nat.le_of_dvd (Int.natAbs_pos.mpr hne) (Int.natAbs_dvd_natAbs.mpr hdvd)
  rw [Python.truncate, Int.natAbs_tdiv]
  exact (Nat.div_le_self _ _).trans hnum

/-- The number a signed payload spells is the expiry it was printed from. -/
theorem parseInt_payload (hunicode : unicode.KnowsAscii) (hfits : Python.Fits call.now call.ttl) :
    Python.parseInt unicode call.payload = some (expiresAt call.ttl call.now) := by
  have hdate : Python.isDate (call.now + call.ttl) = true := hfits.2
  have hbound : (call.now + call.ttl).natAbs < 10 ^ 18 := by
    simp only [Python.isDate, Bool.decide_and, Bool.and_eq_true, decide_eq_true_eq] at hdate
    omega
  refine Python.parseInt_str hunicode ?_
  have hlength : (Nat.toDigits 10 (expiresAt call.ttl call.now).natAbs).length ≤ 18 :=
    (Nat.length_toDigits_le_iff (by decide) (by decide)).mpr
      ((natAbs_truncate_le _).trans_lt hbound)
  omega

/-! ## Verification

Both directions, from the parts of the cookie. -/

theorem verifyToken_eq_true_iff : verifyToken hmac unicode secret cookie now = .ok true ↔
    (payload cookie ≠ "" ∧ signature cookie ≠ "") ∧ Python.IsAscii (signature cookie) ∧
      signature cookie = sign hmac secret (payload cookie) ∧
      ∃ n ∈ Python.parseInt unicode (payload cookie), timestamp now < n := by
  by_cases hempty : payload cookie = "" ∨ signature cookie = ""
  · rw [verifyToken_of_empty hempty]
    refine iff_of_false (by simp) ?_
    rintro ⟨hparts, -⟩
    exact hempty.elim hparts.1 hparts.2
  · rw [verifyToken_of_parts hempty, sign]
    rw [not_or] at hempty
    by_cases hascii : Python.IsAscii (signature cookie) <;> simp [hascii, hempty]

/-- A call accepts what it returned until it expires. -/
theorem verifyToken_of_issued (hunicode : unicode.KnowsAscii)
    (hissued : call.issued hmac = .ok cookie) (hnow : timestamp now < expiresAt call.ttl call.now) :
    verifyToken hmac unicode call.secret cookie now = .ok true := by
  obtain ⟨hfits, rfl⟩ := issued_eq_ok_iff.mp hissued
  rw [verifyToken_eq_true_iff, IssueCall.payload, payload_token, signature_token]
  refine ⟨⟨Python.str_ne_empty _, hexdigest_ne_empty _ _ _⟩, isAscii_hexdigest _ _ _, rfl, ?_⟩
  exact ⟨_, parseInt_payload hunicode hfits, hnow⟩

/-- What is accepted was returned under the secret, and has not expired. -/
theorem exists_issued_of_verifyToken (hunicode : unicode.KnowsAscii)
    (hunforgeable : Unforgeable hmac history secret cookie)
    (h : verifyToken hmac unicode secret cookie now = .ok true) :
    ∃ call ∈ history, call.secret = secret ∧ call.issued hmac = .ok cookie ∧
      timestamp now < expiresAt call.ttl call.now := by
  obtain ⟨⟨-, hsignature⟩, -, hsigned, n, hparse, hnow⟩ := verifyToken_eq_true_iff.mp h
  have hcookie := eq_token hsignature
  obtain ⟨call, hcall, hfits, hsecret, hpayload⟩ := hunforgeable.signed _ _ hcookie hsigned
  refine ⟨call, hcall, hsecret, issued_eq_ok_iff.mpr ⟨hfits, ?_⟩, ?_⟩
  · rw [hsecret, hpayload, ← hsigned]
    exact hcookie
  · rw [← hpayload, parseInt_payload hunicode hfits] at hparse
    cases hparse
    exact hnow

/-- **A token is accepted exactly while it is genuine and unexpired.**  In particular, once the secret is
another one, no earlier token is. -/
theorem verifyToken_iff_genuine (hmac : Hmac) (unicode : Python.Unicode) (history : List IssueCall)
    (secret cookie : String) (now : ℤ) (hunicode : unicode.KnowsAscii) (hascii : Python.IsAscii cookie)
    (hunforgeable : Unforgeable hmac history secret cookie) :
    (∃ accepted, verifyToken hmac unicode secret cookie now = .ok accepted) ∧
    (verifyToken hmac unicode secret cookie now = .ok true ↔
      ∃ call ∈ history, call.secret = secret ∧ call.issued hmac = .ok cookie ∧
        timestamp now < expiresAt call.ttl call.now) ∧
    ∀ call ∈ history, call.secret ≠ secret → call.issued hmac = .ok cookie →
      verifyToken hmac unicode secret cookie now = .ok false := by
  have hreturns : ∃ accepted, verifyToken hmac unicode secret cookie now = .ok accepted := by
    refine ((failsClosed_iff hmac unicode secret cookie now).mpr ?_).returns
    rcases eq_or_ne (signature cookie) "" with hempty | hsignature
    · right
      intro c hc
      rw [hempty] at hc
      simp at hc
    · right
      intro c hc
      refine hascii c ?_
      rw [eq_token hsignature, token, String.toList_append]
      exact List.mem_append_right _ hc
  refine ⟨hreturns, ⟨exists_issued_of_verifyToken hunicode hunforgeable, ?_⟩, ?_⟩
  · rintro ⟨call, -, rfl, hissued, hnow⟩
    exact verifyToken_of_issued hunicode hissued hnow
  · intro call hcall hsecret hissued
    obtain ⟨accepted, haccepted⟩ := hreturns
    cases accepted with
    | false => exact haccepted
    | true =>
        -- the signature of the old secret would be the one under the new secret too
        obtain ⟨-, -, hsigned, -⟩ := verifyToken_eq_true_iff.mp haccepted
        obtain ⟨-, rfl⟩ := issued_eq_ok_iff.mp hissued
        rw [IssueCall.payload, payload_token, signature_token] at hsigned
        exact absurd hsigned (hunforgeable.distinct call hcall hsecret)

/-! ## Two logins around a rotation

The second cookie is accepted under the new secret, and not under the old one. -/

def firstLogin : IssueCall := ⟨"first-secret", sessionTtl, 1700000000000000⟩

def secondLogin : IssueCall := ⟨"second-secret", sessionTtl, 1700000000000000⟩

/-- The cookie the second login returned. -/
def secondCookie : String :=
  token "1700043200" "ef9df6df5b3b6fdb547c073c3c21e048539f0ebf9092b0e4097620c028732464"

theorem knowsAscii_asciiUnicode : asciiUnicode.KnowsAscii where
  decimal c h := by simp [asciiUnicode, h]
  isSpace c h := by
    have hne : c ≠ ' ' := by
      rintro rfl
      simp at h
    simp [asciiUnicode, hne]

theorem payload_secondLogin : secondLogin.payload = "1700043200" := by decide +kernel

theorem unforgeable_secondCookie :
    Unforgeable sampleHmac [firstLogin, secondLogin] "second-secret" secondCookie where
  signed payload signature hcookie _ := by
    obtain ⟨rfl, -⟩ := token_inj (by decide) (by decide) hcookie
    exact ⟨secondLogin, by simp, by decide, rfl, payload_secondLogin⟩
  distinct call hcall hsecret := by
    have hcases : call = firstLogin ∨ call = secondLogin := by simpa using hcall
    rcases hcases with rfl | rfl
    · decide +kernel
    · exact absurd rfl hsecret

theorem verifyToken_iff_genuine_after_rotation :
    verifyToken sampleHmac asciiUnicode "second-secret" secondCookie 1700000001000000 = .ok true ↔
      ∃ call ∈ [firstLogin, secondLogin], call.secret = "second-secret" ∧
        call.issued sampleHmac = .ok secondCookie ∧
        timestamp 1700000001000000 < expiresAt call.ttl call.now :=
  (verifyToken_iff_genuine sampleHmac asciiUnicode [firstLogin, secondLogin] "second-secret"
    secondCookie 1700000001000000 knowsAscii_asciiUnicode (by decide) unforgeable_secondCookie).2.1

end Auth

end ReviewSignal
