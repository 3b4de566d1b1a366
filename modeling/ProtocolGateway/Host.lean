import ProtocolGateway.SocketAddress
import ProtocolGateway.SystemError

/-!
# The host

What the host of the process lets it do with sockets. Whether an address can be bound is for the
operating system to say, so its answers are part of a host. They depend on what the process has
bound already, and on nothing else that the process does.
-/

namespace ProtocolGateway

/-- Why an address cannot be bound. -/
inductive BindError where
  /-- The text is no socket address. -/
  | notAddress
  /-- The operating system refuses it, with the error of the number. -/
  | refused (code : Int)
deriving DecidableEq, Repr

/-- The wording of a bind error. -/
def BindError.message : BindError → String
  | .notAddress => SocketAddress.invalidMessage
  | .refused code => SystemError.message code

/-- Why no listening socket could be opened. -/
structure ListenError where
  /-- The address as it was configured. -/
  address : String
  cause : BindError
deriving DecidableEq, Repr

/-- The wording of a listen error. -/
def ListenError.message (e : ListenError) : String :=
  "Failed to bind " ++ e.address ++ ": " ++ e.cause.message

/-- The host of the process. -/
structure Host where
  /-- What the operating system answers when a process with sockets at some addresses wants one
  more: the address that was bound, or the number of the error. -/
  answer : List SocketAddress → SocketAddress → Except Int SocketAddress
  /-- The addresses of the sockets that the process has. -/
  held : List SocketAddress := []
  /-- Whether clients get through to a listening socket. -/
  reachable : Bool := false

namespace Host

/-- A host that refuses nothing. -/
def willing : Host := { answer := fun _ address => .ok address }

/-- Binds a socket to an address. -/
def bind (host : Host) (address : SocketAddress) : Except BindError SocketAddress :=
  match host.answer host.held address with
  | .error code => .error (.refused code)
  | .ok bound => .ok bound

/-- Opens a listening socket at the address that a text denotes. -/
def listen (host : Host) (text : String) : Except ListenError SocketAddress :=
  match SocketAddress.parse? text with
  | none => .error ⟨text, .notAddress⟩
  | some address =>
    match host.bind address with
    | .error cause => .error ⟨text, cause⟩
    | .ok bound => .ok bound

/-- The host after a socket has been bound to an address. -/
def hold (bound : SocketAddress) (host : Host) : Host := { host with held := bound :: host.held }

end Host

/-- How many slots for connections there can be at most. -/
def maxSlots : Nat := 2305843009213693951

/-- Why no listening socket with slots for connections could be opened. -/
inductive OpenError where
  | listen (error : ListenError)
  /-- There cannot be so many slots. -/
  | slots
deriving DecidableEq, Repr

/-- Opens a listening socket with so many slots for connections. -/
def Host.openSlots (host : Host) (text : String) (slots : Nat) : Except OpenError SocketAddress :=
  match host.listen text with
  | .error e => .error (.listen e)
  | .ok bound => if maxSlots < slots then .error .slots else .ok bound

end ProtocolGateway
