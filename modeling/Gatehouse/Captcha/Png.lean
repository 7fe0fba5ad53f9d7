import Gatehouse.Captcha.Canvas
import Gatehouse.Text.Base64
import Gatehouse.Text.Bytes

/-!
# PNG

A canvas as a PNG file of eight bits a channel with an opacity channel.  The
pixels are stored without compression.
-/

set_option autoImplicit false

namespace Gatehouse.Captcha.Png

/-- Big-endian bytes of a 32-bit number. -/
def word (value : Nat) : List UInt8 :=
  [UInt8.ofNat (value / 16777216), UInt8.ofNat (value / 65536), UInt8.ofNat (value / 256),
    UInt8.ofNat value]

def crcBit (crc : UInt32) : UInt32 :=
  if crc &&& 1 = 1 then (crc >>> 1) ^^^ 0xEDB88320 else crc >>> 1

def crcByte (crc : UInt32) (byte : UInt8) : UInt32 :=
  let crc := crc ^^^ byte.toUInt32
  crcBit (crcBit (crcBit (crcBit (crcBit (crcBit (crcBit (crcBit crc)))))))

def crc (data : List UInt8) : UInt32 :=
  data.foldl crcByte 0xFFFFFFFF ^^^ 0xFFFFFFFF

def adler (data : List UInt8) : Nat :=
  let (low, high) := data.foldl
    (fun (low, high) byte =>
      let low := (low + byte.toNat) % 65521
      (low, (high + low) % 65521))
    (1, 0)
  high * 65536 + low

/-- A chunk: length, name, data and check. -/
def chunk (name : String) (data : List UInt8) : List UInt8 :=
  let named := Text.bytes name ++ data
  word data.length ++ named ++ word (crc named).toNat

/-- Stored blocks of at most 65535 bytes. -/
def storedBlocks : Nat → List UInt8 → List UInt8
  | 0, _ => []
  | fuel + 1, data =>
    let length := min data.length 65535
    let last := data.length ≤ 65535
    let front : List UInt8 :=
      [if last then 1 else 0, UInt8.ofNat length, UInt8.ofNat (length / 256),
        UInt8.ofNat (65535 - length), UInt8.ofNat ((65535 - length) / 256)]
    front ++ data.take length ++
      if last then [] else storedBlocks fuel (data.drop length)

def stored (data : List UInt8) : List UInt8 :=
  [0x78, 0x01] ++ storedBlocks (data.length + 1) data ++ word (adler data)

/-- The rows, each after a zero that says its bytes are not filtered. -/
def scanlines (canvas : Canvas) : List UInt8 :=
  (List.range canvas.height).flatMap fun y =>
    0 :: (canvas.row y).flatMap fun color => [color.red, color.green, color.blue, color.alpha]

def encode (canvas : Canvas) : List UInt8 :=
  [0x89, 0x50, 0x4E, 0x47, 0x0D, 0x0A, 0x1A, 0x0A] ++
    chunk "IHDR" (word canvas.width ++ word canvas.height ++ [8, 6, 0, 0, 0]) ++
    chunk "IDAT" (stored (scanlines canvas)) ++ chunk "IEND" []

def dataUrlHead : String := "data:image/png;base64"

def dataUrl (canvas : Canvas) : String :=
  dataUrlHead ++ "," ++ String.ofList (Base64.encodePadded .standard (encode canvas))

end Gatehouse.Captcha.Png
