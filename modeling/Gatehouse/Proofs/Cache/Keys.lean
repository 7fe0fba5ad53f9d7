import Gatehouse.Cache.Redis
import Gatehouse.Captcha.Challenge
import Gatehouse.Proofs.Text.Trimming
import Gatehouse.Proofs.Uuid

/-!
# Cache keys tell things apart

Every session and every client has a key of its own, and no client's key is that
of a session, whatever text the client is known by; a label in front of all keys
changes nothing about that (`faithful_of_injective`).  The key of a session does
not depend on how its identifier is spelled.
-/

set_option autoImplicit false

namespace Gatehouse.Cache.Key

theorem rateLimit_injective (one other : String) (same : rateLimit one = rateLimit other) :
    one = other := by
  rwa [rateLimit, rateLimit, String.append_right_inj] at same

theorem captchaSession_injective (id other : Uuid)
    (same : captchaSession id = captchaSession other) : id = other :=
  Uuid.text_injective id other ((String.append_right_inj "captcha:").mp same)

theorem rateLimit_ne_captchaSession (identity : String) (id : Uuid) :
    rateLimit identity ≠ captchaSession id := by
  intro same
  have chars := congrArg String.toList same
  rw [rateLimit, captchaSession, String.toList_append, String.toList_append] at chars
  -- the labels differ in their first character
  cases chars

/-- Keys that are put in another place keep sessions apart, clients apart, and clients apart from
sessions; and a text leads to the key of a session exactly if, in lower case, it is one of the
session's spellings. -/
structure Faithful (place : String → String) : Prop where
  sessions : ∀ id other : Uuid,
    place (captchaSession id) = place (captchaSession other) ↔ id = other
  counters : ∀ one other : String, place (rateLimit one) = place (rateLimit other) ↔ one = other
  apart : ∀ (identity : String) (id : Uuid), place (rateLimit identity) ≠ place (captchaSession id)
  spellings : ∀ (text : String) (id : Uuid),
    (Uuid.ofText? text).map (fun named => place (captchaSession named)) =
        some (place (captchaSession id)) ↔
      text.toList.map Char.toLower ∈ id.spellings

theorem faithful_of_injective (place : String → String) (injective : Function.Injective place) :
    Faithful place := by
  have sessions (id other : Uuid) :
      place (captchaSession id) = place (captchaSession other) ↔ id = other :=
    ⟨fun same => captchaSession_injective id other (injective same), fun same => by rw [same]⟩
  refine ⟨sessions, fun one other => ?_, fun identity id same => ?_, fun text id => ?_⟩
  · exact ⟨fun same => rateLimit_injective one other (injective same), fun same => by rw [same]⟩
  · exact rateLimit_ne_captchaSession identity id (injective same)
  · rw [← Uuid.ofText?_eq_some_iff]
    cases Uuid.ofText? text with
    | none => simp
    | some named => simp [sessions]

theorem labelled_injective (settings : Config.Redis) :
    Function.Injective (Redis.labelled settings) := by
  intro key other same
  rwa [Redis.labelled, Redis.labelled, String.append_right_inj] at same

theorem trimmed_text (id : Uuid) : Text.trimmed id.text = id.text := by
  obtain ⟨a, b, c, d, e, grouped, chars, digits⟩ := id.canonical_text
  have plain : ("0123456789abcdef".toList.all fun char => !Text.isBlank char) = true := by decide
  have solid : ∀ char ∈ id.text.toList, Text.isBlank char = false := by
    intro char inside
    by_cases hyphen : char = '-'
    · rw [hyphen]
      decide
    · have digit := List.all_eq_true.mp plain char
        (digits char (by simpa [chars, hyphen] using inside))
      simpa using digit
  have filled : id.text.toList ≠ [] := by simp [chars]
  have kept := Text.trim_between [] id.text.toList [] filled (by simp) (by simp) solid
  rw [List.nil_append, List.append_nil] at kept
  rw [Text.trimmed, kept, String.ofList_toList]

/-- Whether keys are as they are or stand behind a label: no two sessions share one, no two clients
do, and no client has the key of a session.  Whatever text an identifier is read from, its canonical
text is read as the same identifier, and an answer is looked up as under the canonical text. -/
theorem keys_faithful :
    Faithful (fun key => key) ∧ (∀ settings, Faithful (Redis.labelled settings)) ∧
      (∀ text named, Uuid.ofText? text = some named →
        Uuid.Canonical named.text ∧ Uuid.ofText? named.text = some named) ∧
      ∀ settings text named answer now, Uuid.ofText? (Text.trimmed text) = some named →
        Captcha.verifyAt settings text answer now =
          Captcha.verifyAt settings named.text answer now := by
  refine ⟨faithful_of_injective _ fun _ _ same => same,
    fun settings => faithful_of_injective _ (labelled_injective settings),
    fun text named _ => ⟨named.canonical_text, named.ofText?_text⟩,
    fun settings text named answer now read => ?_⟩
  rw [Captcha.verifyAt, Captcha.verifyAt, read, trimmed_text, Uuid.ofText?_text]

/-- A session is read from its identifier in capitals, and an answer that names it in braces,
between blanks, is looked up as under the canonical text. -/
theorem keys_faithful_capitals :
    let id : Uuid := ⟨0x0B0E7D7C51A34C3E9C5A6A1F0E2D3C4B⟩
    let capitals := "URN:UUID:0B0E7D7C-51A3-4C3E-9C5A-6A1F0E2D3C4B"
    let braced := " \x7b0b0e7d7c-51a3-4c3e-9c5a-6a1f0e2d3c4b\x7d\n"
    let settings : Captcha.Settings := ⟨200, 80, 1000⟩
    Uuid.ofText? capitals = some id ∧ Uuid.Canonical id.text ∧ Uuid.ofText? id.text = some id ∧
      Uuid.ofText? (Text.trimmed braced) = some id ∧
      Captcha.verifyAt settings braced "7" .epoch =
        Captcha.verifyAt settings id.text "7" .epoch := by
  intro id capitals braced settings
  obtain ⟨-, -, reads, looks⟩ := keys_faithful
  have capital : Uuid.ofText? capitals = some id := by decide
  have inBraces : Uuid.ofText? (Text.trimmed braced) = some id := by decide
  obtain ⟨canonical, again⟩ := reads capitals id capital
  exact ⟨capital, canonical, again, inBraces, looks settings braced id "7" .epoch inBraces⟩

end Gatehouse.Cache.Key
