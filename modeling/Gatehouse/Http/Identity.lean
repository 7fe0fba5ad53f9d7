import Gatehouse.Net.Address
import Gatehouse.Text.Blank
import Gatehouse.Text.Bytes

/-!
# Who a client is

The identity that requests are counted by.  Where forwarding is trusted it is
the first forwarded address; otherwise it is the address of the peer.
-/

set_option autoImplicit false

namespace Gatehouse.Http

/-- The text of a header's value, if it holds nothing but visible basic characters, blanks and
tabs. -/
def visibleText? (value : List UInt8) : Option String :=
  if value.all fun byte => byte == 9 || (32 ≤ byte && byte < 127) then some (Text.ofLatin1 value)
  else none

/-- The first address of a forwarding header. -/
def forwarded? (values : List (List UInt8)) : Option String := do
  let text ← visibleText? (← values.head?)
  let first := Text.trim (text.toList.takeWhile fun char => char != ',')
  if first.isEmpty then none else some (String.ofList first)

/-- Identity of a client without any address. -/
def unknownClient : String := "unknown"

/-- The identity of a client by its forwarding headers and the address of its peer. -/
def identity (trustForwarded : Bool) (forwarded : List (List UInt8)) (peer : Option Address) :
    String :=
  match if trustForwarded then forwarded? forwarded else none with
  | some address => address
  | none => (peer.map Address.text).getD unknownClient

end Gatehouse.Http
