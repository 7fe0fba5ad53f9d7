import Gatehouse.Uuid

/-!
# Cache keys

Request counters and pending challenges share one cache; their keys start
differently.
-/

set_option autoImplicit false

namespace Gatehouse.Cache.Key

def rateLimit (identity : String) : String :=
  "rate_limit:" ++ identity

def captchaSession (id : Uuid) : String :=
  "captcha:" ++ id.text

end Gatehouse.Cache.Key
