import TrafficBoard.Address.Reading
import TrafficBoard.Keyed

/-!
# Connections

A connection joins a local port to a remote address and port over one protocol.
Its text names the interface, the local port and the remote end, where the
remote address is replaced by its hostname once that is known.
-/

namespace TrafficBoard

/-- A transport protocol. -/
inductive Protocol where
  | tcp
  | udp
  deriving DecidableEq, Repr

namespace Protocol

/-- The name of a protocol. -/
def text : Protocol → String
  | .tcp => "tcp"
  | .udp => "udp"

/-- The protocol with a name. -/
def ofText? : String → Option Protocol
  | "tcp" => some .tcp
  | "udp" => some .udp
  | _ => none

end Protocol

/-- A local port that talks to a remote socket over one protocol. -/
structure Connection where
  address : Address
  port : Int
  protocol : Protocol
  localPort : Int
  deriving DecidableEq, Repr

namespace Connection

/-- Why the parts of a connection do not make one. -/
inductive Error where
  | address (error : Address.Error)
  | protocol (name : String)
  deriving DecidableEq, Repr

/-- What the error says. -/
def Error.message : Error → String
  | .address error => error.message
  | .protocol name => Text.quoted name ++ " is not a valid Protocol"

/-- The protocol with a name, or why there is none. -/
def parseProtocol (name : String) : Except Error Protocol :=
  match Protocol.ofText? name with
  | some protocol => .ok protocol
  | none => .error (.protocol name)

/-- The connection of the given parts. The address is read before the protocol. -/
def parse (address : String) (port : Int) (protocol : String) (localPort : Int) :
    Except Error Connection := do
  let address ← (Address.parse address).mapError .address
  let protocol ← parseProtocol protocol
  return ⟨address, port, protocol, localPort⟩

end Connection

/-- The hostnames known for addresses. -/
abbrev Hostnames := Keyed Address String

/-- The hostname of an address where one is known, otherwise the address itself. -/
def Address.display (address : Address) (hostnames : Hostnames) : String :=
  (hostnames.find? address).getD address.text

/-- The text of a connection on an interface. -/
def Connection.display (connection : Connection) (hostnames : Hostnames) (interface : String) :
    String :=
  "<" ++ interface ++ ">:" ++ toString connection.localPort ++ " => " ++
    connection.address.display hostnames ++ ":" ++ toString connection.port ++
    " (" ++ connection.protocol.text ++ ")"

end TrafficBoard
