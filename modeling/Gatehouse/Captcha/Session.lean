import Gatehouse.Failure
import Gatehouse.Json.Reading
import Gatehouse.Text.Blank

/-!
# Pending challenges

The server's side of a challenge: what was asked, the answer, and since when.
-/

set_option autoImplicit false

namespace Gatehouse.Captcha

/-- How long a challenge may be answered, in seconds. -/
def lifetime : Nat := 300

structure Session where
  question : String
  answer : Int64
  createdAt : Instant
  deriving DecidableEq, Repr

namespace Session

def write (session : Session) : Json :=
  .obj [("question", .str session.question), ("answer", .int session.answer.toInt),
    ("created_at", .str (Timestamp.text session.createdAt))]

def readAnswer : Json.Reader Int64 := fun found =>
  (Json.readInt64 found).map Int64.ofInt

def fields : List Json.Field :=
  [.required "question" Json.readText, .required "answer" readAnswer,
    .required "created_at" Json.readInstant]

def read : Json.Reader Session := fun outline => do
  let found ← Json.collect "a session" fields outline
  let question ← found.read "question" Json.readText
  let answer ← found.read "answer" readAnswer
  let createdAt ← found.read "created_at" Json.readInstant
  .ok ⟨question, answer, createdAt⟩

/-- Compares a submitted answer as of `now`.  Blanks around the number and zeros in front of it do
not matter. -/
def check (session : Session) (submitted : String) (now : Instant) : Except Failure Unit :=
  if now.since session.createdAt > (lifetime : Int) * 1000000000 then .error .captchaExpired
  else if Decimal.int64? (Text.trim submitted.toList) = some session.answer.toInt then .ok ()
  else .error .captchaWrong

end Session

end Gatehouse.Captcha
