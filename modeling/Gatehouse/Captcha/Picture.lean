import Gatehouse.Captcha.Canvas
import Gatehouse.Failure
import Gatehouse.Random

/-!
# Pictures of a question

A question is drawn in three layers: random lines, random dots, and on top of
them the characters, each in a slot of its own with a random colour and a small
random shift up or down.  Characters without a bitmap leave their slot empty.
-/

set_option autoImplicit false

namespace Gatehouse.Captcha

def glyphWidth : Nat := 5

def glyphHeight : Nat := 7

/-- The bitmap of a character, one number per row; the highest of five bits is the leftmost
column. -/
def glyph? (char : Char) : Option (List Nat) :=
  match char with
  | '0' => some [0x0E, 0x11, 0x11, 0x11, 0x11, 0x11, 0x0E]
  | '1' => some [0x04, 0x0C, 0x04, 0x04, 0x04, 0x04, 0x0E]
  | '2' => some [0x0E, 0x11, 0x01, 0x02, 0x04, 0x08, 0x1F]
  | '3' => some [0x0E, 0x11, 0x01, 0x06, 0x01, 0x11, 0x0E]
  | '4' => some [0x02, 0x06, 0x0A, 0x12, 0x1F, 0x02, 0x02]
  | '5' => some [0x1F, 0x10, 0x1E, 0x01, 0x01, 0x11, 0x0E]
  | '6' => some [0x06, 0x08, 0x10, 0x1E, 0x11, 0x11, 0x0E]
  | '7' => some [0x1F, 0x01, 0x02, 0x04, 0x08, 0x08, 0x08]
  | '8' => some [0x0E, 0x11, 0x11, 0x0E, 0x11, 0x11, 0x0E]
  | '9' => some [0x0E, 0x11, 0x11, 0x0F, 0x01, 0x02, 0x0C]
  | '+' => some [0x00, 0x04, 0x04, 0x1F, 0x04, 0x04, 0x00]
  | '-' => some [0x00, 0x00, 0x00, 0x1F, 0x00, 0x00, 0x00]
  | '×' => some [0x00, 0x11, 0x0A, 0x04, 0x0A, 0x11, 0x00]
  | '÷' => some [0x00, 0x04, 0x00, 0x1F, 0x00, 0x04, 0x00]
  | '=' => some [0x00, 0x00, 0x1F, 0x00, 0x1F, 0x00, 0x00]
  | '?' => some [0x0E, 0x11, 0x01, 0x02, 0x04, 0x00, 0x04]
  | _ => none

/-- Columns and rows of the set bits, row by row. -/
def setBits (rows : List Nat) : List (Nat × Nat) :=
  rows.zipIdx.flatMap fun (bits, row) =>
    (List.range glyphWidth).filterMap fun column =>
      if bits.testBit (glyphWidth - 1 - column) then some (column, row) else none

structure Placed where
  rows : List Nat
  left : Int
  top : Int
  color : Color
  deriving DecidableEq, Repr

def block (left top : Int) (scale : Nat) : List Point :=
  (List.range scale).flatMap fun (dy : Nat) =>
    (List.range scale).map fun (dx : Nat) => ⟨left + dx, top + dy⟩

def Placed.points (scale : Nat) (placed : Placed) : List Point :=
  (setBits placed.rows).flatMap fun (column, row) =>
    block (placed.left + (column * scale : Nat)) (placed.top + (row * scale : Nat)) scale

/-- Width of a character's slot; one slot stays free at either side. -/
def slotWidth (width count : Nat) : Nat :=
  width / (count + 2)

def scaleOf (width count : Nat) : Nat :=
  max 1 (slotWidth width count / (glyphWidth + 1))

/-- A colour channel from `low` up to and without `high`. -/
def channel (low high : Int) : Draw UInt8 := do
  let value ← Draw.between 32 low (high - 1)
  pure (UInt8.ofNat value.toNat)

def colorBetween (low high : Int) : Draw Color := do
  let red ← channel low high
  let green ← channel low high
  let blue ← channel low high
  pure ⟨red, green, blue, 255⟩

def coordinate (size : Nat) : Draw Int := do
  let value ← Draw.below 32 size
  pure value

def drawLine (canvas : Canvas) : Draw Canvas := do
  let x1 ← coordinate canvas.width
  let y1 ← coordinate canvas.height
  let x2 ← coordinate canvas.width
  let y2 ← coordinate canvas.height
  let color ← colorBetween 0 128
  pure (canvas.paintAll color (Line.points ⟨x1, y1⟩ ⟨x2, y2⟩))

def drawDot (canvas : Canvas) : Draw Canvas := do
  let red ← Draw.byte
  let green ← Draw.byte
  let blue ← Draw.byte
  let x ← coordinate canvas.width
  let y ← coordinate canvas.height
  pure (canvas.paint ⟨red, green, blue, 255⟩ ⟨x, y⟩)

def repeated (draw : Canvas → Draw Canvas) : Nat → Canvas → Draw Canvas
  | 0, canvas => pure canvas
  | count + 1, canvas => do
    let canvas ← draw canvas
    repeated draw count canvas

def place (width height count position : Nat) (rows : List Nat) : Draw Placed := do
  let jitter ← Draw.between 64 (-5) 5
  let color ← colorBetween 50 150
  let tall : Int := (glyphHeight * scaleOf width count : Nat)
  pure ⟨rows, (slotWidth width count * (position + 1) : Nat),
    Int.tdiv ((height : Int) - tall) 2 + jitter, color⟩

/-- Places the characters that have a bitmap, from left to right. -/
def placeAll (width height count : Nat) : Nat → List Char → Draw (List Placed)
  | _, [] => pure []
  | position, char :: rest =>
    match glyph? char with
    | none => placeAll width height count (position + 1) rest
    | some rows => do
      let placed ← place width height count position rows
      let others ← placeAll width height count (position + 1) rest
      pure (placed :: others)

def drawText (text : List Char) (canvas : Canvas) : Draw Canvas := do
  let all ← placeAll canvas.width canvas.height text.length 0 text
  let scale := scaleOf canvas.width text.length
  pure (all.foldl (fun canvas placed => canvas.paintAll placed.color (placed.points scale)) canvas)

def noiseLines : Nat := 5

def noiseDots : Nat := 50

/-- Draws a text on a canvas of a size that must not be empty. -/
def picture (text : String) (width height : Nat) : Except Failure (Draw Canvas) :=
  if width = 0 ∨ height = 0 then .error .captchaImageEmpty
  else
    .ok do
      let canvas ← repeated drawLine noiseLines (Canvas.blank width height)
      let canvas ← repeated drawDot noiseDots canvas
      drawText text.toList canvas

end Gatehouse.Captcha
