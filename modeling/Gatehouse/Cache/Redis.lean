import Gatehouse.Cache.RedisUrl
import Gatehouse.Config.Settings

/-!
# The cache in a Redis server

The commands that the cache operations become, what the server's replies mean,
and how connecting and calling fail.  The server is a peer with a script of
replies; it remembers the commands it received.
-/

set_option autoImplicit false

namespace Gatehouse.Cache.Redis

inductive Reply
  | bulk (text : String)
  | simple (text : String)
  | int (value : Int)
  | error (text : String)
  | nil
  deriving DecidableEq, Repr

inductive Command
  | ping
  | get (key : String)
  /-- Times are milliseconds. -/
  | set (key value : String) (lifetime : Nat)
  | del (key : String)
  | getDel (key : String)
  | exists (key : String)
  | count (key : String) (cap window : Nat)
  | loadScript
  deriving DecidableEq, Repr

def Command.name : Command → String
  | .ping => "PING"
  | .get _ => "GET"
  | .set _ _ _ => "SET"
  | .del _ => "DEL"
  | .getDel _ => "GETDEL"
  | .exists _ => "EXISTS"
  | .count _ _ _ => "EVALSHA"
  | .loadScript => "SCRIPT"

/-- A command as the server gets it, given the text of the counting script and its digest. -/
def Command.words (script digest : String) : Command → List String
  | .ping => ["PING"]
  | .get key => ["GET", key]
  | .set key value lifetime => ["SET", key, value, "PX", toString lifetime]
  | .del key => ["DEL", key]
  | .getDel key => ["GETDEL", key]
  | .exists key => ["EXISTS", key]
  | .count key cap window => ["EVALSHA", digest, "1", key, toString cap, toString window]
  | .loadScript => ["SCRIPT", "LOAD", script]

/-- What becomes of a command that is sent. -/
inductive Response
  | reply (reply : Reply)
  /-- No reply in time. -/
  | late
  /-- The connection breaks off before the reply, with an error of the client's. -/
  | broken (error : String)
  deriving DecidableEq, Repr

/-- A server with the responses it is going to give; it leaves all that follows unanswered. -/
structure Peer where
  responses : List Response
  received : List Command
  deriving DecidableEq, Repr

def Peer.send (peer : Peer) (command : Command) : Response × Peer :=
  (peer.responses.head?.getD .late, ⟨peer.responses.tail, peer.received ++ [command]⟩)

/-! ## Replies -/

def Reply.text? : Reply → Option String
  | .bulk text | .simple text => some text
  | .int value => some (toString value)
  | _ => none

def Reply.value? : Reply → Option (Option String)
  | .nil => some none
  | reply => reply.text?.map some

def Reply.flag? : Reply → Option Bool
  | .nil => some false
  | .int value => some (value != 0)
  | .bulk "1" | .simple "1" | .simple "OK" => some true
  | .bulk "0" | .simple "0" => some false
  | _ => none

def Reply.count? : Reply → Option Nat
  | .int value => some (value % Decimal.endUInt64).toNat
  | .bulk text | .simple text =>
    (Decimal.value? text.toList).bind fun value =>
      if 0 ≤ value ∧ value < Decimal.endUInt64 then some value.toNat else none
  | _ => none

/-- The server does not know the script. -/
def Response.missesScript : Response → Bool
  | .reply (.error text) => (text.toList.takeWhile fun char => char != ' ') == "NOSCRIPT".toList
  | _ => false

/-! ## Calls -/

/-- What a response means, or how the command failed. -/
def understood {α : Type} (command : Command) (meaning : Reply → Option α) :
    Response → Except Failure α
  | .late => .error (.redisLate command.name)
  | .broken error => .error (.redisFailed command.name error)
  | .reply (.error text) => .error (.redisFailed command.name text)
  | .reply reply =>
    match meaning reply with
    | some value => .ok value
    | none => .error (.redisFailed command.name "response was of an incompatible type")

def call {α : Type} (command : Command) (meaning : Reply → Option α) (peer : Peer) :
    Except Failure α × Peer :=
  let (response, peer) := peer.send command
  (understood command meaning response, peer)

/-- Runs the counting script; a server that does not know it gets it first. -/
def callCount (command : Command) (peer : Peer) : Except Failure Nat × Peer :=
  let (response, peer) := peer.send command
  if response.missesScript then
    let (loaded, peer) := peer.send .loadScript
    match understood command (fun _ => some ()) loaded with
    | .error failure => (.error failure, peer)
    | .ok _ => call command Reply.count? peer
  else (understood command Reply.count? response, peer)

/-- Whole milliseconds of a time in nanoseconds; no less than one, and no more than 64 bits. -/
def wholeMillis (nanoseconds : Nat) : Nat :=
  max 1 (min (nanoseconds / 1000000) 18446744073709551615)

def labelled (settings : Config.Redis) (key : String) : String :=
  settings.keyLabel ++ key

def get (settings : Config.Redis) (key : String) : Peer → Except Failure (Option String) × Peer :=
  call (.get (labelled settings key)) Reply.value?

def set (settings : Config.Redis) (key value : String) (lifetime : Nat) :
    Peer → Except Failure Unit × Peer :=
  call (.set (labelled settings key) value (wholeMillis lifetime)) fun _ => some ()

def delete (settings : Config.Redis) (key : String) : Peer → Except Failure Unit × Peer :=
  call (.del (labelled settings key)) fun _ => some ()

def take (settings : Config.Redis) (key : String) : Peer → Except Failure (Option String) × Peer :=
  call (.getDel (labelled settings key)) Reply.value?

def exists? (settings : Config.Redis) (key : String) : Peer → Except Failure Bool × Peer :=
  call (.exists (labelled settings key)) Reply.flag?

def increment (settings : Config.Redis) (key : String) (cap window : Nat) :
    Peer → Except Failure Nat × Peer :=
  callCount (.count (labelled settings key) cap (wholeMillis window))

def healthy : Peer → Except Failure Bool × Peer :=
  call .ping fun reply => reply.text?.map fun text => text == "PONG"

/-! ## Connecting -/

inductive Contact
  | reached (peer : Peer)
  | refused
  | silent

/-- Connects, given which addresses the client opens. -/
def connectWith (opens : String → Bool) (settings : Config.Redis) (contact : Contact) :
    Except Failure Peer :=
  let target := RedisUrl.redact settings.url
  if !opens settings.url then .error (.invalidRedisUrl target)
  else
    match contact with
    | .silent => .error (.redisSilent target settings.connectTimeoutMs)
    | .refused => .error (.redisUnreachable target)
    | .reached peer =>
      match healthy peer with
      | (.error failure, _) => .error failure
      | (.ok false, _) => .error (.redisOddPong target)
      | (.ok true, peer) => .ok peer

def connect : Config.Redis → Contact → Except Failure Peer :=
  connectWith RedisUrl.valid

end Gatehouse.Cache.Redis
