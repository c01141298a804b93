import Turnstile.Store
import Turnstile.Text.Decimal

/-!
# The store on a Redis server

Counters shared by all instances of a service. An increment is a script on the server, so
that counting and setting the time to live of a fresh counter are one step there. The
script is called by its digest; a server that has lost it says so, and then it is loaded
once more and called once more.

    an increment sends at most three commands: call, load, call
-/

namespace Turnstile

/-- The script that counts. It gives a counter its time to live when the window opens. -/
def countingScript : String :=
  "-- Fixed-window counter: increment, and set the TTL only when the window opens.\n" ++
  "-- KEYS[1] = counter key\n" ++
  "-- ARGV[1] = window length in milliseconds\n" ++
  "-- Returns the post-increment count.\n" ++
  "\n" ++
  "local count = redis.call('INCR', KEYS[1])\n" ++
  "if count == 1 or redis.call('PTTL', KEYS[1]) < 0 then\n" ++
  "    redis.call('PEXPIRE', KEYS[1], tonumber(ARGV[1]))\n" ++
  "end\n" ++
  "return count\n"

/-! ## Commands and replies -/

/-- A command to the server. -/
inductive Command where
  | loadScript
  | callScript (digest key : String) (windowMs : Nat)
  | get (key : String)
  deriving DecidableEq

namespace Command

def name : Command → String
  | .loadScript => "SCRIPT LOAD"
  | .callScript .. => "EVALSHA"
  | .get _ => "GET"

def args : Command → List String
  | .loadScript => [countingScript]
  | .callScript digest key windowMs => [digest, "1", key, Text.Decimal.ofNat windowMs]
  | .get key => [key]

end Command

/-- What the server replies. -/
inductive Reply where
  | int (n : Int64)
  | text (s : String)
  | nil
  | error (reason : String)
  deriving DecidableEq

/-- A reply, and how long the server took for it. -/
structure Delivery where
  reply : Reply
  delayMs : Nat
  deriving DecidableEq

/-- Why a reply is not what a command asks for. -/
inductive ClientFault where
  /-- The server refused the command. -/
  | refused (reason : String)
  /-- A text came in the place of a number, and it is none of 64 bits. -/
  | notANumber
  /-- Nil came in the place of a number. -/
  | nilNumber
  /-- Nil came in the place of a text. -/
  | nilText
  deriving DecidableEq

namespace ClientFault

def message : ClientFault → String
  | .refused reason => "Unknown Error: " ++ reason
  | .notANumber => "Parse Error: Invalid integer string."
  | .nilNumber => "Not Found: Cannot convert nil to number."
  | .nilText => "Parse Error: Could not convert to string."

/-- Whether a text occurs in another. -/
def occursIn (needle : List Char) : List Char → Bool
  | [] => needle.isEmpty
  | c :: r => needle.isPrefixOf (c :: r) || occursIn needle r

/-- Whether the server does not know the script. -/
def isMissingScript (f : ClientFault) : Bool := occursIn "NOSCRIPT".toList f.message.toList

end ClientFault

namespace Reply

/-- A reply as a number, where nil is none. -/
def count? : Reply → Except ClientFault (Option Int64)
  | .int n => .ok (some n)
  | .text s =>
    match Text.Decimal.readInt64? s.toList with
    | some n => .ok (some n)
    | none => .error .notANumber
  | .nil => .ok none
  | .error reason => .error (.refused reason)

/-- A reply as a number, which nil is not. -/
def count (r : Reply) : Except ClientFault Int64 :=
  match r.count? with
  | .ok (some n) => .ok n
  | .ok none => .error .nilNumber
  | .error f => .error f

def digest : Reply → Except ClientFault String
  | .int n => .ok (Text.Decimal.ofInt n.toInt)
  | .text s => .ok s
  | .nil => .error .nilText
  | .error reason => .error (.refused reason)

end Reply

/-! ## The store -/

/-- A computation that sends commands to the server. -/
abbrev Wire := Dialogue Command Delivery

/-- What a client of the server remembers. -/
structure Redis where
  /-- The digest of the script as last loaded, empty before that. -/
  digest : String
  /-- How long a reply is waited for. -/
  timeout : Duration
  deriving DecidableEq

/-- Why a command had no useful reply. -/
inductive WireFault where
  | timedOut
  | client (fault : ClientFault)
  deriving DecidableEq

namespace Redis

def storeFault (r : Redis) : WireFault → StoreFault
  | .timedOut => .timeout r.timeout
  | .client f => .unavailable f.message

/-- Sends a command and reads the reply, if it comes in time. -/
def request {α : Type} (r : Redis) (c : Command) (read : Reply → Except ClientFault α) :
    Wire (Except WireFault α) := do
  let d ← Dialogue.put c
  return if r.timeout.toNanos < d.delayMs * 1000000 then .error .timedOut
    else (read d.reply).mapError .client

/-- Loads the script and remembers its digest. The reply is waited for without end. -/
def load (r : Redis) : Wire (Except ClientFault Redis) := do
  let d ← Dialogue.put .loadScript
  return d.reply.digest.map fun digest => { r with digest }

/-- The script is given at least a millisecond. -/
def windowMs (ttl : Duration) : Nat := max 1 ttl.toMillis

/-- Calls the script by the digest remembered. -/
def callScript (r : Redis) (key : String) (ttl : Duration) : Wire (Except WireFault Int64) :=
  r.request (.callScript r.digest key (windowMs ttl)) Reply.count

/-- Loads the script, in time, and calls it. -/
def reloadAndCall (r : Redis) (key : String) (ttl : Duration) : Wire (StoreAnswer × Redis) := do
  match ← r.request .loadScript Reply.digest with
  | .error f => return (.error (r.storeFault f), r)
  | .ok digest =>
    let r := { r with digest }
    return ((← r.callScript key ttl).mapError r.storeFault, r)

def increment (r : Redis) (key : String) (ttl : Duration) : Wire (StoreAnswer × Redis) := do
  match ← r.callScript key ttl with
  | .ok n => return (.ok n, r)
  | .error .timedOut => return (.error (r.storeFault .timedOut), r)
  | .error (.client f) =>
    if f.isMissingScript then r.reloadAndCall key ttl
    else return (.error (r.storeFault (.client f)), r)

def read (r : Redis) (key : String) : Wire StoreAnswer := do
  match ← r.request (.get key) Reply.count? with
  | .ok (some n) => return .ok n
  | .ok none => return .error .notFound
  | .error f => return .error (r.storeFault f)

/-- The answer to a call, and what is remembered after it. -/
def answer (r : Redis) : StoreCall → Wire (StoreAnswer × Redis)
  | .increment key ttl => r.increment key ttl
  | .read key => do return (← r.read key, r)

end Redis

end Turnstile
