import Gatehouse.Captcha.Challenge
import Gatehouse.Proofs.Json.Records

/-!
# Stored sessions

What is stored of a challenge is read back as the session that was issued.
-/

set_option autoImplicit false

namespace Gatehouse.Captcha

namespace Session

def record (session : Session) : Json.Record :=
  [("question", .text session.question), ("answer", .int session.answer.toInt),
    ("created_at", .text (Timestamp.text session.createdAt))]

@[simp] theorem readAnswer_int (value : Int64) :
    readAnswer (Json.Scalar.int value.toInt).outline = .ok value := by
  rw [readAnswer, Json.readInt64_int]
  simp [Except.map]

@[simp] theorem readInstant_text (instant : Instant)
    (spelled : Timestamp.ofText? (Timestamp.text instant) = some instant) :
    Json.readInstant (Json.Scalar.text (Timestamp.text instant)).outline = .ok instant := by
  have read := Json.readText_text (Timestamp.text instant)
  rw [Json.Scalar.outline] at read
  simp [Json.Scalar.outline, Json.readInstant, read, bind, Except.bind, spelled]

theorem read_record (session : Session)
    (spelled : Timestamp.ofText? (Timestamp.text session.createdAt) = some session.createdAt) :
    read (.object session.record.members true) = .ok session := by
  have distinct : (session.record.map Prod.fst).Nodup := by simp [record]
  have collected : Json.collect "a session" fields (.object session.record.members true) =
      .ok session.record.found := by
    refine Json.collect_aligned _ fields session.record
      (by simp [fields, record, Json.Field.required]) distinct ?_
    simp [fields, record, Json.Field.required, Except.map, spelled]
  have question : session.record.found.read "question" Json.readText = .ok session.question := by
    rw [Json.Record.read_found _ distinct _ _ (.text session.question) (by simp [record]),
      Json.readText_text]
  have answer : session.record.found.read "answer" readAnswer = .ok session.answer := by
    rw [Json.Record.read_found _ distinct _ _ (.int session.answer.toInt) (by simp [record]),
      readAnswer_int]
  have createdAt : session.record.found.read "created_at" Json.readInstant =
      .ok session.createdAt := by
    rw [Json.Record.read_found _ distinct _ _ (.text (Timestamp.text session.createdAt))
      (by simp [record]), readInstant_text _ spelled]
  rw [read, collected]
  simp only [bind, Except.bind, question, answer, createdAt]

theorem ofStored_text (session : Session)
    (spelled : Timestamp.ofText? (Timestamp.text session.createdAt) = some session.createdAt) :
    Cache.ofStored read session.text = .ok session := by
  have document := Json.Outline.Document.ofBytes_record session.record (by simp [record])
  have written : session.write = session.record.json := rfl
  rw [← written] at document
  rw [Cache.ofStored, text, Json.readDocument, document]
  simp [bind, Except.bind, session.read_record spelled]

end Session

end Gatehouse.Captcha
