/-!
# Token kinds

A token either opens requests (`access`) or is exchanged for a new pair
(`refresh`).  The kind is written into the claims and never inferred.
-/

set_option autoImplicit false

namespace Gatehouse

inductive TokenKind
  | access
  | refresh
  deriving DecidableEq, Repr

namespace TokenKind

/-- The kind as the `typ` claim spells it. -/
def claim : TokenKind → String
  | .access => "access"
  | .refresh => "refresh"

def label : TokenKind → String
  | .access => "Access"
  | .refresh => "Refresh"

def ofClaim? (text : String) : Option TokenKind :=
  if text = "access" then some .access
  else if text = "refresh" then some .refresh
  else none

theorem ofClaim?_claim (kind : TokenKind) : ofClaim? kind.claim = some kind := by
  cases kind <;> rfl

end TokenKind

end Gatehouse
