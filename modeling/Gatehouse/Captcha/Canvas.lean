/-!
# Canvas and lines

A canvas of coloured pixels.  Everything drawn is a list of points painted one
after the other; a point outside the canvas is left out.
-/

set_option autoImplicit false

namespace Gatehouse.Captcha

structure Color where
  red : UInt8
  green : UInt8
  blue : UInt8
  alpha : UInt8
  deriving DecidableEq, Repr

def white : Color := ⟨255, 255, 255, 255⟩

structure Point where
  x : Int
  y : Int
  deriving DecidableEq, Repr

structure Canvas where
  width : Nat
  height : Nat
  /-- The rows from top to bottom, each from left to right. -/
  pixels : Array Color
  deriving DecidableEq, Repr

namespace Canvas

def blank (width height : Nat) : Canvas :=
  ⟨width, height, Array.replicate (width * height) white⟩

def holds (width height : Nat) (point : Point) : Bool :=
  decide (0 ≤ point.x) && decide (point.x < width) && decide (0 ≤ point.y) &&
    decide (point.y < height)

def paint (color : Color) (canvas : Canvas) (point : Point) : Canvas :=
  if holds canvas.width canvas.height point then
    { canvas with
      pixels := canvas.pixels.setIfInBounds (point.y.toNat * canvas.width + point.x.toNat) color }
  else canvas

def paintAll (color : Color) (points : List Point) (canvas : Canvas) : Canvas :=
  points.foldl (paint color) canvas

def at? (canvas : Canvas) (x y : Nat) : Option Color :=
  if x < canvas.width ∧ y < canvas.height then canvas.pixels[y * canvas.width + x]? else none

def row (canvas : Canvas) (y : Nat) : List Color :=
  (canvas.pixels.extract (y * canvas.width) ((y + 1) * canvas.width)).toList

end Canvas

namespace Line

/-- Where the walk along a line stands, and how far it is off the ideal line. -/
structure State where
  here : Point
  error : Int
  deriving DecidableEq, Repr

def side (start stop : Int) : Int :=
  if start < stop then 1 else -1

/-- One step along the line, in one coordinate or in both. -/
def step (start stop : Point) (state : State) : State :=
  let dx : Int := (stop.x - start.x).natAbs
  let dy : Int := (stop.y - start.y).natAbs
  let twice := 2 * state.error
  let moveX := decide (twice > -dy)
  let moveY := decide (twice < dx)
  ⟨⟨if moveX then state.here.x + side start.x stop.x else state.here.x,
      if moveY then state.here.y + side start.y stop.y else state.here.y⟩,
    state.error - (if moveX then dy else 0) + (if moveY then dx else 0)⟩

def walk (start stop : Point) : Nat → State → List Point
  | 0, state => [state.here]
  | fuel + 1, state =>
    if state.here = stop then [state.here]
    else state.here :: walk start stop fuel (step start stop state)

/-- The points of a line, both ends included.  Every step moves along the longer side, so the walk
needs no more steps than the two sides have together. -/
def points (start stop : Point) : List Point :=
  let dx := (stop.x - start.x).natAbs
  let dy := (stop.y - start.y).natAbs
  walk start stop (dx + dy) ⟨start, (dx : Int) - dy⟩

end Line

end Gatehouse.Captcha
