import Gatehouse.Account.User
import Gatehouse.Table
import Gatehouse.Text.LowerCase

/-!
# The user registry

All stored users, and an index from the lower-case form of an e-mail address to
the user it belongs to.  An address belongs to one user at most, whatever its
letter case.
-/

set_option autoImplicit false

namespace Gatehouse

structure Registry where
  users : Table Uuid User
  byEmail : Table String Uuid

namespace Registry

def empty : Registry :=
  ⟨.empty, .empty⟩

def emailKey (email : String) : String :=
  Text.lowerCase email

/-- Adds a user under a fresh identifier, unless the address is taken. -/
def create (registry : Registry) (id : Uuid) (now : Instant) (new : NewUser) :
    Except Failure User × Registry :=
  if registry.byEmail.contains (emailKey new.email) then (.error .emailTaken, registry)
  else
    let user : User := ⟨id, new.name, new.email, new.passwordHash, now⟩
    (.ok user, ⟨registry.users.put id user, registry.byEmail.put (emailKey new.email) id⟩)

def findById (registry : Registry) (id : Uuid) : Option User :=
  registry.users.get? id

def findByEmail (registry : Registry) (email : String) : Option User :=
  (registry.byEmail.get? (emailKey email)).bind registry.findById

def remove (registry : Registry) (id : Uuid) : Option User × Registry :=
  match registry.users.get? id with
  | none => (none, registry)
  | some user =>
    (some user, ⟨registry.users.erase id, registry.byEmail.erase (emailKey user.email)⟩)

def size (registry : Registry) : Nat :=
  registry.users.size

end Registry

end Gatehouse
