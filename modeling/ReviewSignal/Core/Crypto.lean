/-!
# The encryption of the stored tokens

`core/crypto.py`.  The cipher is Fernet, which is third-party, under the key of the settings, which is
configured here.  It is a parameter (`Cipher`): all the code relies on is that `decrypt` undoes `encrypt`.

Fernet encrypts under a fresh initialisation vector, so that a text has many tokens; which of them `encrypt`
returns does not matter to any reader, and where an UPDATE compares a new token with the loaded one
`CredentialStatements` takes them to differ.  What `decrypt` raises on a token of another key is a parameter
of `GoogleAnswers`.

Results hold for every cipher.  Only runs on fixed inputs choose one (`PlainCipher`).
-/

namespace ReviewSignal

/-- What `encrypt` makes of a text. -/
structure Ciphertext where
  token : String
  deriving DecidableEq, Repr

/-- `encrypt` and `decrypt`. -/
class Cipher where
  encrypt : String → Ciphertext
  decrypt : Ciphertext → String
  decrypt_encrypt : ∀ plaintext, decrypt (encrypt plaintext) = plaintext

export Cipher (encrypt decrypt decrypt_encrypt)

attribute [simp] Cipher.decrypt_encrypt

namespace PlainCipher

/-- A cipher that hides nothing, for runs on fixed inputs. -/
scoped instance : Cipher where
  encrypt plaintext := ⟨plaintext⟩
  decrypt ciphertext := ciphertext.token
  decrypt_encrypt _ := rfl

end PlainCipher

end ReviewSignal
