import Gatehouse.Token.Claims

/-!
# Users

A stored account, and its JSON.  The written form never contains the password
hash; it is also the public view of a user.
-/

set_option autoImplicit false

namespace Gatehouse

structure User where
  id : Uuid
  name : String
  email : String
  passwordHash : String
  createdAt : Instant
  deriving DecidableEq, Repr

namespace User

def principal (user : User) : Principal :=
  ⟨user.id, user.name⟩

def write (user : User) : Json :=
  .obj [("id", .str user.id.text), ("name", .str user.name), ("email", .str user.email),
    ("created_at", .str (Timestamp.text user.createdAt))]

def fields : List Json.Field :=
  [.required "id" Json.readUuid, .required "name" Json.readText, .required "email" Json.readText,
    .required "password_hash" Json.readText, .required "created_at" Json.readInstant]

def read : Json.Reader User := fun outline => do
  let found ← Json.collect "a user" fields outline
  let id ← found.read "id" Json.readUuid
  let name ← found.read "name" Json.readText
  let email ← found.read "email" Json.readText
  let passwordHash ← found.read "password_hash" Json.readText
  let createdAt ← found.read "created_at" Json.readInstant
  .ok ⟨id, name, email, passwordHash, createdAt⟩

end User

def Principal.write (principal : Principal) : Json :=
  .obj [("id", .str principal.id.text), ("display_name", .str principal.displayName)]

structure NewUser where
  name : String
  email : String
  passwordHash : String
  deriving DecidableEq, Repr

end Gatehouse
