import Gatehouse.Cache.Key
import Gatehouse.Cache.Memory
import Gatehouse.Cache.Typed
import Gatehouse.Captcha.Picture
import Gatehouse.Captcha.Png
import Gatehouse.Captcha.Problem
import Gatehouse.Captcha.Session
import Gatehouse.Service.Flow

/-!
# Challenges

Issuing a challenge stores its session in the cache under a fresh identifier;
verifying an answer takes the session out again before it looks at the answer,
so that a challenge can be tried once.
-/

set_option autoImplicit false

namespace Gatehouse.Captcha

open Service

/-- Size of the pictures, and the limit for calls of the cache in milliseconds. -/
structure Settings where
  width : Nat
  height : Nat
  limit : Nat
  deriving DecidableEq, Repr

structure Challenge where
  session : Uuid
  picture : Canvas
  question : String

namespace Challenge

def write (challenge : Challenge) : Json :=
  .obj [("image_url", .str (Png.dataUrl challenge.picture)),
    ("question", .str challenge.question), ("expire_seconds", .int lifetime)]

end Challenge

/-- Asks the cache; whatever goes wrong, the captcha is unavailable. -/
def askCache {α : Type} (settings : Settings) (request : CacheCall α) : Flow (Outcome α) :=
  .ask (.cache settings.limit request) fun
    | .answered (.ok value) => .done (.ok value)
    | .answered (.error failure) => .stop (.captchaStoreDown failure.display)
    | .late => .stop .captchaStoreLate

def drawChallenge (settings : Settings) : Draw (Problem × Except Failure Canvas) := do
  let problem ← Problem.generate
  match picture problem.question settings.width settings.height with
  | .error failure => pure (problem, .error failure)
  | .ok draw =>
    let canvas ← draw
    pure (problem, .ok canvas)

def Session.text (session : Session) : String :=
  session.write.text

/-- Lifetime of a stored session in nanoseconds. -/
def lifetimeNanos : Nat := lifetime * 1000000000

/-- Issues a challenge as of `now`. -/
def generateAt (settings : Settings) (now : Instant) : Flow (Outcome Challenge) :=
  .ask (.draw (drawChallenge settings)) fun (problem, drawn) =>
    match drawn with
    | .error failure => .stop failure
    | .ok canvas =>
      .ask .freshId fun id =>
        match problem.answer with
        | .error crash => .done (.error (.crash crash))
        | .ok answer =>
          let session : Session := ⟨problem.question, answer, now⟩
          (askCache settings
            (.set (Cache.Key.captchaSession id) session.text lifetimeNanos)).andThen fun _ =>
            .done (.ok ⟨id, canvas, session.question⟩)

def generate (settings : Settings) : Flow (Outcome Challenge) :=
  .ask .now fun now => generateAt settings now

/-- Verifies an answer as of `now`.  An identifier that cannot be read names no session. -/
def verifyAt (settings : Settings) (session answer : String) (now : Instant) :
    Flow (Outcome Unit) :=
  match Uuid.ofText? (Text.trimmed session) with
  | none => .stop .captchaUnknown
  | some id =>
    (askCache settings (.take (Cache.Key.captchaSession id))).andThen fun
      | none => .stop .captchaUnknown
      | some stored =>
        .done (Outcome.ofExcept do
          let session ← Cache.ofStored Session.read stored
          session.check answer now)

def verify (settings : Settings) (session answer : String) : Flow (Outcome Unit) :=
  .ask .now fun now => verifyAt settings session answer now

/-- The session that a cache holds for an identifier, if it can be read. -/
def pending? (cache : Cache.Memory) (now : Nat) (id : Uuid) : Option Session :=
  (cache.get (Cache.Key.captchaSession id) now).bind fun stored =>
    (Cache.ofStored Session.read stored).toOption

end Gatehouse.Captcha
