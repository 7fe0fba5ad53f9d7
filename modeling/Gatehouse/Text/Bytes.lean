/-!
# Texts as bytes

The UTF-8 bytes of a text and back.  Byte lists are what digests, base64 and
the JSON reader work on; `ofBytes?_bytes` says that no text is lost on the way.
-/

set_option autoImplicit false

namespace Gatehouse.Text

def bytes (text : String) : List UInt8 :=
  text.toByteArray.data.toList

/-- The text that a byte list spells, if it is valid UTF-8. -/
def ofBytes? (data : List UInt8) : Option String :=
  String.fromUTF8? ⟨data.toArray⟩

theorem ofBytes?_bytes (text : String) : ofBytes? (bytes text) = some text := by
  have same : (⟨(bytes text).toArray⟩ : ByteArray) = text.toByteArray := by simp [bytes]
  rw [ofBytes?, same, String.fromUTF8?, dif_pos text.isValidUTF8]
  rfl

/-- Each byte stands for the character of that number, as header values are shown. -/
def ofLatin1 (data : List UInt8) : String :=
  String.ofList (data.map fun byte => Char.ofNat byte.toNat)

/-- The bytes of a text all of whose characters are below 256; any other character is cut to its
low eight bits. -/
def latin1 (text : String) : List UInt8 :=
  text.toList.map fun char => UInt8.ofNat char.toNat

end Gatehouse.Text
