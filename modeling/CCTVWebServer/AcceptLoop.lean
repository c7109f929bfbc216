import CCTVWebServer.Config
import CCTVWebServer.Foundation.Decimal

/-!
# The port of the accept loop

`HttpServer::onRead` reads the port from the configuration when the accept loop begins. One
handler stands behind it: what throws there is logged, and nothing is accepted.
-/

namespace CCTVWebServer

open Foundation

/-- A sign, and what follows it. -/
def takeSign : Bytes → Int × Bytes
  | [] => (1, [])
  | b :: rest => if b = 0x2D then (-1, rest) else if b = 0x2B then (1, rest) else (1, b :: rest)

/-- `std::stoi`, which reads as `strtol` does and ignores what follows the number. It throws when
there is no digit, or when the number is no `int`. -/
def stoi (text : Bytes) : Option Int :=
  let (sign, rest) := takeSign ((cstr text).dropWhile isSpace)
  match Decimal.readDigits rest with
  | ([], _) => none
  | (run, _) =>
    let value := sign * Decimal.value 0 run
    if -2 ^ 31 ≤ value ∧ value < 2 ^ 31 then some value else none

/-- The port that the acceptor is opened at, none when `onRead` ends in its handler. The system
decides which ports can be bound. -/
def HttpServer.onRead (binds : UInt16 → Bool) (c : Config) : Option UInt16 :=
  let portStr := c.getProperty (str "server_port")
  let port := if portStr = [] then some 8080 else stoi portStr
  -- an endpoint takes 16 bits of the `int`
  (port.map UInt16.ofInt).filter binds

end CCTVWebServer
