import ReviewSignal.Foundations.Meets
import ReviewSignal.Foundations.Texts

/-!
# Operator session tokens

`issue_token`, `verify_token` of `core/auth.py` and the dependency `require_session`.  HMAC-SHA256 and what
Unicode says of characters are parameters; a moment is a number of microseconds since the epoch, and its
Unix time an exact number of seconds.

`compare_digest` raises on a text that is not ASCII, and `verify_token` hands it the presented signature as
it is.

* **`failsClosed_iff`** — for which cookies the session check answers at all: those with nothing before the
  first dot, and those whose rest is ASCII.  Of any other cookie the exception is answered as an internal
  error, and not as a refusal.
* `verifyToken_of_parts` — what a verification comes to, by the parts of the cookie.  `SessionTokens` takes it
  from there.

The check refuses what it cannot read, so a cookie that raises gets nothing but the wrong answer: no page is
shown to it.
-/

namespace ReviewSignal

/-- `hmac.new(secret.encode(), payload.encode(), sha256)`, whose digest is printed as 64 hexadecimal
digits. -/
structure Hmac where
  hexdigest : String → String → String
  length_hexdigest : ∀ secret payload, (hexdigest secret payload).length = 64
  isHex : ∀ secret payload, ∀ c ∈ (hexdigest secret payload).toList, c ∈ "0123456789abcdef".toList

/-- `UnauthorizedError` -/
def unauthorizedError (message : String) : Exn := ⟨"UnauthorizedError", message⟩

namespace Auth

/-- `SESSION_TTL` -/
def sessionTtl : ℤ := 12 * 3600 * 1000000

/-- `_sign` -/
def sign (hmac : Hmac) (secret payload : String) : String := hmac.hexdigest secret payload

/-- `moment.timestamp()` -/
def timestamp (moment : ℤ) : ℚ := moment / 1000000

/-- `int((now + ttl).timestamp())` -/
def expiresAt (ttl now : ℤ) : ℤ := Python.truncate (timestamp (now + ttl))

/-- `f"{expires_at}.{signature}"` -/
def token (payload signature : String) : String := payload ++ "." ++ signature

/-- `issue_token` -/
def issueToken (hmac : Hmac) (secret : String) (ttl now : ℤ) : Except Exn String := do
  let _ ← Python.addDuration now ttl
  let payload := Python.str (expiresAt ttl now)
  pure (token payload (sign hmac secret payload))

/-- `hmac.compare_digest(a, b)` of two texts. -/
def compareDigest (a b : String) : Except Exn Bool :=
  if Python.IsAscii a ∧ Python.IsAscii b then .ok (a = b)
  else .error ⟨"TypeError", "comparing strings with non-ASCII characters is not supported"⟩

/-- `verify_token` -/
def verifyToken (hmac : Hmac) (unicode : Python.Unicode) (secret token : String) (now : ℤ) :
    Except Exn Bool :=
  let (payload, _, signature) := Python.partition '.' token
  if payload = "" ∨ signature = "" then .ok false
  else do
    if ¬ (← compareDigest signature (sign hmac secret payload)) then .ok false
    else
      match Python.parseInt unicode payload with
      | none => .ok false
      | some expiresAt => .ok (timestamp now < expiresAt)

/-- `require_session` -/
def requireSession (hmac : Hmac) (unicode : Python.Unicode) (sessionSecret : String)
    (token : Option String) (now : ℤ) : Except Exn Unit :=
  match token with
  | none => .error (unauthorizedError "Authentication is required.")
  | some token => do
      if ¬ (← verifyToken hmac unicode sessionSecret token now) then
        .error (unauthorizedError "Authentication is required.")
      else .ok ()

/-- The cookie's payload and signature, as `verify_token` takes them apart. -/
def payload (token : String) : String := (Python.partition '.' token).1

def signature (token : String) : String := (Python.partition '.' token).2.2

/-- The verification returns a boolean, and a cookie it does not accept is answered as such. -/
structure FailsClosed (hmac : Hmac) (unicode : Python.Unicode) (secret token : String) (now : ℤ) :
    Prop where
  returns : ∃ accepted, verifyToken hmac unicode secret token now = .ok accepted
  refuses : verifyToken hmac unicode secret token now ≠ .ok true →
    requireSession hmac unicode secret (some token) now
      = .error (unauthorizedError "Authentication is required.")

variable {hmac : Hmac} {unicode : Python.Unicode} {secret cookie : String} {now : ℤ}

/-! ## Signatures

Hexadecimal digits, of which there are some. -/

theorem isAscii_hexdigest (hmac : Hmac) (secret payload : String) :
    Python.IsAscii (hmac.hexdigest secret payload) := by
  intro c hc
  have hdigit : ∀ c ∈ "0123456789abcdef".toList, c.toNat < 128 :=
    forall_mem_of_all (by decide)
  exact hdigit c (hmac.isHex secret payload c hc)

theorem hexdigest_ne_empty (hmac : Hmac) (secret payload : String) :
    hmac.hexdigest secret payload ≠ "" := by
  intro h
  have hlength := hmac.length_hexdigest secret payload
  rw [h] at hlength
  simp at hlength

/-- Comparing with a signature raises exactly on a text that is not ASCII. -/
theorem compareDigest_sign (text payload : String) : compareDigest text (sign hmac secret payload)
    = if Python.IsAscii text then .ok (text = hmac.hexdigest secret payload : Bool)
      else .error ⟨"TypeError", "comparing strings with non-ASCII characters is not supported"⟩ := by
  have hdigest := isAscii_hexdigest hmac secret payload
  rw [compareDigest, sign]
  by_cases hascii : Python.IsAscii text <;> simp [hascii, hdigest]

/-! ## What a verification comes to

The dot splits the cookie, and a part that is empty refuses it. -/

/-- The verification of the two parts. -/
theorem verifyToken_eq : verifyToken hmac unicode secret cookie now
    = if payload cookie = "" ∨ signature cookie = "" then .ok false
      else compareDigest (signature cookie) (sign hmac secret (payload cookie)) >>= fun equal =>
        if ¬ equal then .ok false
        else match Python.parseInt unicode (payload cookie) with
          | none => .ok false
          | some expiresAt => .ok (timestamp now < expiresAt) := rfl

/-- A cookie without one of the two parts is refused. -/
theorem verifyToken_of_empty (h : payload cookie = "" ∨ signature cookie = "") :
    verifyToken hmac unicode secret cookie now = .ok false := by
  rw [verifyToken_eq, if_pos h]

/-- A cookie with both parts is refused, accepted until it expires, or raises. -/
theorem verifyToken_of_parts (h : ¬ (payload cookie = "" ∨ signature cookie = "")) :
    verifyToken hmac unicode secret cookie now
      = if Python.IsAscii (signature cookie) then
          .ok (signature cookie = hmac.hexdigest secret (payload cookie) ∧
            ∃ n ∈ Python.parseInt unicode (payload cookie), timestamp now < n : Bool)
        else .error ⟨"TypeError", "comparing strings with non-ASCII characters is not supported"⟩ := by
  rw [verifyToken_eq, if_neg h]
  rw [compareDigest_sign]
  split_ifs with hascii
  · show (if ¬ (decide (signature cookie = hmac.hexdigest secret (payload cookie)) = true) then _
      else _) = _
    by_cases hsigned : signature cookie = hmac.hexdigest secret (payload cookie)
    · rw [if_neg (by simp [hsigned])]
      cases Python.parseInt unicode (payload cookie) <;> simp [hsigned]
    · rw [if_pos (by simp [hsigned])]
      simp [hsigned]
  · rfl

/-! ## When the check answers

`require_session` over a verification that returned, and the cookie that raises. -/

/-- A verification that returned is answered by `require_session` as it came out. -/
theorem requireSession_of_returned {accepted : Bool}
    (h : verifyToken hmac unicode secret cookie now = .ok accepted) :
    requireSession hmac unicode secret (some cookie) now
      = if accepted then .ok () else .error (unauthorizedError "Authentication is required.") := by
  rw [requireSession, h]
  cases accepted <;> rfl

theorem failsClosed_of_returned {accepted : Bool}
    (h : verifyToken hmac unicode secret cookie now = .ok accepted) :
    FailsClosed hmac unicode secret cookie now := by
  refine ⟨⟨accepted, h⟩, fun hrefused => ?_⟩
  rw [requireSession_of_returned h]
  cases accepted with
  | true => exact absurd h hrefused
  | false => rfl

/-- **When the session check answers at all**: when nothing precedes the first dot of the cookie, or what
follows it is ASCII. -/
theorem failsClosed_iff (hmac : Hmac) (unicode : Python.Unicode) (secret cookie : String) (now : ℤ) :
    FailsClosed hmac unicode secret cookie now ↔
      payload cookie = "" ∨ Python.IsAscii (signature cookie) := by
  by_cases hempty : payload cookie = "" ∨ signature cookie = ""
  · refine iff_of_true (failsClosed_of_returned (verifyToken_of_empty hempty)) ?_
    rcases hempty with hpayload | hsignature
    · exact .inl hpayload
    · right
      intro c hc
      rw [hsignature] at hc
      simp at hc
  · have hverify := @verifyToken_of_parts hmac unicode secret cookie now hempty
    by_cases hascii : Python.IsAscii (signature cookie)
    · rw [if_pos hascii] at hverify
      exact iff_of_true (failsClosed_of_returned hverify) (.inr hascii)
    · rw [if_neg hascii] at hverify
      refine iff_of_false ?_ ?_
      · rintro ⟨⟨accepted, hreturned⟩, -⟩
        rw [hverify] at hreturned
        cases hreturned
      · rintro (hpayload | hsigned)
        · exact hempty (.inl hpayload)
        · exact hascii hsigned

/-- The digests of one payload under two secrets; those of other payloads do not matter here. -/
def twoDigests (secret payload : String) : String :=
  if payload = "1700043200" ∧ secret = "first-secret" then
    "7aa417e3babf4cdad3125bc0d4b40889464f8de11cb1ec286103a4e74305b5be"
  else if payload = "1700043200" ∧ secret = "second-secret" then
    "ef9df6df5b3b6fdb547c073c3c21e048539f0ebf9092b0e4097620c028732464"
  else "0000000000000000000000000000000000000000000000000000000000000000"

theorem twoDigests_length (secret payload : String) : (twoDigests secret payload).length = 64 := by
  rw [twoDigests]
  split_ifs <;> rfl

theorem twoDigests_isHex (secret payload : String) :
    ∀ c ∈ (twoDigests secret payload).toList, c ∈ "0123456789abcdef".toList := by
  rw [twoDigests]
  split_ifs <;> exact forall_mem_of_all (by decide)

/-- HMAC-SHA256, on that payload under those secrets. -/
def sampleHmac : Hmac := ⟨twoDigests, twoDigests_length, twoDigests_isHex⟩

/-- Unicode, on ASCII. -/
def asciiUnicode : Python.Unicode where
  isSpace c := c = ' '
  decimal c := if c.isDigit then some (c.toNat - '0'.toNat) else none

/-- A cookie with a signature that is not ASCII gets another answer than a refusal. -/
theorem not_failsClosed_non_ascii :
    requireSession sampleHmac asciiUnicode "first-secret" (some "1700043200.é") 0
        = .error ⟨"TypeError", "comparing strings with non-ASCII characters is not supported"⟩ ∧
      ¬ FailsClosed sampleHmac asciiUnicode "first-secret" "1700043200.é" 0 := by
  have hraises : verifyToken sampleHmac asciiUnicode "first-secret" "1700043200.é" 0
      = .error ⟨"TypeError", "comparing strings with non-ASCII characters is not supported"⟩ := by
    rw [verifyToken_of_parts (by decide), if_neg (by decide)]
  refine ⟨?_, ?_⟩
  · rw [requireSession, hraises]
    rfl
  · rintro ⟨⟨accepted, hreturned⟩, -⟩
    rw [hraises] at hreturned
    cases hreturned

end Auth

end ReviewSignal
