import Gatehouse.Failure
import Gatehouse.Json
import Gatehouse.Random

/-!
# Problems

The arithmetic problem of a challenge.  Operands are drawn so that the answer is
a small number that is not negative, and a division leaves no remainder.
-/

set_option autoImplicit false

namespace Gatehouse.Captcha

inductive Operation
  | add
  | subtract
  | multiply
  | divide
  deriving DecidableEq, Repr

namespace Operation

def all : List Operation :=
  [add, subtract, multiply, divide]

def name : Operation → String
  | add => "add"
  | subtract => "subtract"
  | multiply => "multiply"
  | divide => "divide"

def ofName? (text : String) : Option Operation :=
  all.find? fun operation => operation.name == text

def symbol : Operation → Char
  | add => '+'
  | subtract => '-'
  | multiply => '×'
  | divide => '÷'

end Operation

structure Problem where
  left : Int64
  right : Int64
  operation : Operation
  deriving DecidableEq, Repr

namespace Problem

/-- The answer; a division drops the remainder, and there is none by zero. -/
def answer (problem : Problem) : Except Crash Int64 :=
  match problem.operation with
  | .add => .ok (problem.left + problem.right)
  | .subtract => .ok (problem.left - problem.right)
  | .multiply => .ok (problem.left * problem.right)
  | .divide =>
    if problem.right = 0 then .error .divisionByZero else .ok (problem.left / problem.right)

def questionChars (problem : Problem) : List Char :=
  Json.intChars problem.left.toInt ++ ' ' :: problem.operation.symbol :: ' ' ::
    (Json.intChars problem.right.toInt ++ [' ', '=', ' ', '?'])

def question (problem : Problem) : String :=
  String.ofList problem.questionChars

/-- An operand from `low` to `high`. -/
def operand (low high : Int) : Draw Int :=
  Draw.between 64 low high

def ofInts (left right : Int) (operation : Operation) : Problem :=
  ⟨Int64.ofInt left, Int64.ofInt right, operation⟩

/-- Draws a problem; every operation is equally likely. -/
def generate : Draw Problem := do
  let choice ← Draw.between 32 0 3
  if choice = 0 then
    let left ← operand 1 10
    let right ← operand 1 10
    pure (ofInts left right .add)
  else if choice = 1 then
    let left ← operand 5 19
    let right ← operand 1 left
    pure (ofInts left right .subtract)
  else if choice = 2 then
    let left ← operand 1 5
    let right ← operand 1 5
    pure (ofInts left right .multiply)
  else
    let divisor ← operand 2 5
    let quotient ← operand 1 5
    pure (ofInts (divisor * quotient) divisor .divide)

/-- The operands are among those that are drawn for the operation. -/
def inRange (problem : Problem) : Bool :=
  let left := problem.left.toInt
  let right := problem.right.toInt
  match problem.operation with
  | .add => 1 ≤ left && left ≤ 10 && 1 ≤ right && right ≤ 10
  | .subtract => 5 ≤ left && left ≤ 19 && 1 ≤ right && right ≤ left
  | .multiply => 1 ≤ left && left ≤ 5 && 1 ≤ right && right ≤ 5
  | .divide =>
    2 ≤ right && right ≤ 5 && left % right == 0 && 1 ≤ left / right && left / right ≤ 5

end Problem

end Gatehouse.Captcha
