import ReviewSignal.Db.Models

/-!
# Persistence for `source_credentials`

`CredentialRepository`: the grant of a source and the profile selected under it live in one row.

Each function assigns to the row as it was loaded, and here the row is still that one when the assignment is
sent.  What is sent when it is not, is the subject of `CredentialStatements`.
-/

namespace ReviewSignal

namespace CredentialRepository

/-- `CredentialRepository.get` -/
def get (source : String) (table : CredentialTable) : Option SourceCredential :=
  table.lookup source

/-- `CredentialRepository.upsert`: every column is written, whatever the row held. -/
def upsert (source : String) (now : Instant) (refreshTokenEncrypted : Ciphertext)
    (accessTokenEncrypted : Option Ciphertext) (tokenExpiresAt : Option Instant)
    (accountId locationId : Option String) (scopes : List String) (table : CredentialTable) :
    CredentialTable :=
  table.insert source {
    status := .connected
    accountId, locationId, accessTokenEncrypted
    refreshTokenEncrypted := some refreshTokenEncrypted
    tokenExpiresAt, scopes
    connectedAt := some now
    updatedAt := now
    connected_has_token := fun _ => rfl }

/-- `CredentialRepository.set_location` -/
def setLocation (source : String) (now : Instant) (accountId locationId : String)
    (table : CredentialTable) : CredentialTable :=
  match get source table with
  | none => table
  | some credential => table.insert source { credential with
      accountId := some accountId, locationId := some locationId, updatedAt := now }

/-- `CredentialRepository.mark_disconnected` -/
def markDisconnected (source : String) (now : Instant) (table : CredentialTable) :
    CredentialTable :=
  match get source table with
  | none => table
  | some credential => table.insert source { credential with
      status := .disconnected, accessTokenEncrypted := none, refreshTokenEncrypted := none,
      updatedAt := now, connected_has_token := nofun }

end CredentialRepository

end ReviewSignal
