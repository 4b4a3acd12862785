import MeshProtocol.Dht.Client
import MeshProtocol.Hub.Network
import MeshProtocol.Transport.Delivery

/-!
# The QUIC transport (`mesh-node/src/transport.rs`, `mesh-client/src/lib.rs`)

`QuicTransport` sends a request as the bytes of a frame, over a connection that it keeps for later
requests to the same address, and reads the answer off the bytes that come back.  `quinn` is
third-party code: what an endpoint does is the parameter `QuicEndpoint`.

`Internet` is a world for such endpoints: hosts that each serve a node, start again, move and go.
What is relied on of an endpoint is that it reaches such a world (`LawfulQuicEndpoint`).  `Sessions`
is the same world without bytes: requests and answers arrive as they are or are lost, and of a
connection only its state is left.  A client cannot tell one from the other (`client_over_quic`).
-/

namespace MeshProtocol

open Cbor

/-! ## The transport -/

/-- What `quinn` does for an endpoint: it dials an address, and sends bytes on a new stream of a
connection for those that come back.  Errors are texts. -/
class QuicEndpoint (ω : Type) (κ : outParam Type) where
  connect : ω → SocketAddr → Except String κ × ω
  exchange : ω → κ → List UInt8 → Except String (List UInt8) × ω

/-- Why an exchange of frames failed; the source keeps the text only. -/
inductive ExchangeError where
  | stream (reason : String)
  | recv (e : RecvError)
deriving DecidableEq, Repr

/-- Errors from transport operations. -/
inductive TransportError where
  | connectionFailed (reason : String)
  | frameError (e : ExchangeError)
  | unreachable (reason : String)
deriving DecidableEq, Repr

/-- A QUIC transport: its endpoint, the connections it keeps, and the IDs that are drawn for
frames. -/
structure QuicTransport (ω κ : Type) where
  endpoint : ω
  connections : SocketAddr → Option κ
  ids : ℕ → Vector UInt8 16
  drawn : ℕ

namespace QuicTransport

variable {ω κ : Type} [QuicEndpoint ω κ]

/-- A transport without connections. -/
def new (endpoint : ω) (ids : ℕ → Vector UInt8 16) : QuicTransport ω κ :=
  ⟨endpoint, fun _ => none, ids, 0⟩

/-- The frame in what came back. -/
def readReply (sent : Except String (List UInt8)) : Except ExchangeError Frame := do
  let stream ← sent.mapError ExchangeError.stream
  (receive stream).mapError ExchangeError.recv

/-- `mesh_transport::send_request`: one exchange of frames. -/
def exchangeFrame (endpoint : ω) (conn : κ) (request : Frame) : Except ExchangeError Frame × ω :=
  let (sent, endpoint) := QuicEndpoint.exchange endpoint conn request.toBytes
  (readReply sent, endpoint)

/-- The connection kept for an address, or a new one, which is kept. -/
def connectionTo (q : QuicTransport ω κ) (addr : SocketAddr) :
    Except String κ × QuicTransport ω κ :=
  match q.connections addr with
  | some conn => (.ok conn, q)
  | none =>
    match QuicEndpoint.connect q.endpoint addr with
    | (.error e, endpoint) => (.error e, { q with endpoint })
    | (.ok conn, endpoint) =>
      (.ok conn, { q with
        endpoint
        connections := Function.update q.connections addr (some conn) })

/-- Sends a frame, and forgets the connection if that fails. -/
def sendFrame (q : QuicTransport ω κ) (addr : SocketAddr) (frame : Frame) :
    Except TransportError Frame × QuicTransport ω κ :=
  match q.connectionTo addr with
  | (.error e, q) => (.error (.connectionFailed e), q)
  | (.ok conn, q) =>
    match exchangeFrame q.endpoint conn frame with
    | (.ok response, endpoint) => (.ok response, { q with endpoint })
    | (.error e, endpoint) =>
      (.error (.frameError e), { q with
        endpoint
        connections := Function.update q.connections addr none })

variable [SocketAddrParser]

/-- `send_request`. -/
def sendRequest (q : QuicTransport ω κ) (addr : NodeAddr) (frame : Frame) :
    Except TransportError Frame × QuicTransport ω κ :=
  match SocketAddrParser.parse addr.address with
  | .error e => (.error (.unreachable ("bad address '" ++ addr.address ++ "': " ++ e)), q)
  | .ok socketAddr => q.sendFrame socketAddr frame

/-- Builds a frame for a request, and sends it. -/
def ask (q : QuicTransport ω κ) (addr : NodeAddr) (request : Request) :
    Except TransportError Frame × QuicTransport ω κ :=
  { q with drawn := q.drawn + 1 }.sendRequest addr (request.frame (q.ids q.drawn))

end QuicTransport

/-- Why there is no message, by the type of the frame that came back, if one did. -/
def NoReply.ofFrame : Option UInt8 → NoReply
  | none => .transport
  | some msgType => .undecodable msgType

/-- The DHT decodes the answer by its type. -/
instance {ω κ : Type} [QuicEndpoint ω κ] [SocketAddrParser] [ResponseCodec] :
    Transport (QuicTransport ω κ) where
  sendRequest q addr request :=
    let (result, q) := q.ask addr request
    (result.toOption.bind decodeResponse, q)
  noReply q addr request := .ofFrame ((q.ask addr request).1.toOption.map Frame.msgType)

/-! ## A world of hosts -/

/-- The nodes at socket addresses, and how often each address has started to listen, as an endpoint
with the given TLS identity finds them.  Nothing is known of the node that a panic leaves behind. -/
structure Internet [Crypto] (S H : Type) where
  hosts : SocketAddr → Option (DhtNode S H)
  starts : SocketAddr → ℕ
  identity : Option Identity
  clock : ℕ → UInt64
  reads : ℕ
  wreck : DhtNode S H → Request → UInt64 → DhtNode S H

/-- The host at an address starts again, with the given node, or is gone. -/
structure Restart [Crypto] (S H : Type) where
  addr : SocketAddr
  node : Option (DhtNode S H)

/-- A stream carries less than 2^62 bytes. -/
def STREAM_LIMIT : ℕ := 2 ^ 62

namespace Internet

variable [Crypto] {S H : Type}

def now (w : Internet S H) : UInt64 := w.clock w.reads

/-- The world with another node at an address, after a reading of the clock. -/
def put (w : Internet S H) (a : SocketAddr) (x : DhtNode S H) : Internet S H :=
  { w with hosts := Function.update w.hosts a (some x), reads := w.reads + 1 }

def restart (w : Internet S H) (r : Restart S H) : Internet S H :=
  { w with
    hosts := Function.update w.hosts r.addr r.node
    starts := Function.update w.starts r.addr (w.starts r.addr + 1) }

/-- A connection leads to an address, and was made after one of its starts. -/
abbrev Conn := SocketAddr × ℕ

def connect (w : Internet S H) (a : SocketAddr) : Except String Conn × Internet S H :=
  match w.hosts a with
  | none => (.error "timed out", w)
  | some _ => (.ok (a, w.starts a), w)

/-- What a node writes back: a handler that drops a request finishes the stream without a byte. -/
def reply : Option Frame → Except String (List UInt8)
  | none => .ok []
  | some frame =>
    if frame.toBytes.length < STREAM_LIMIT then .ok frame.toBytes
    else .error "sending stopped by peer"

variable [RequestCodec] [DescriptorStorage S] [ProtocolHook H]

/-- Has the node at the other end of a connection serve what was sent. -/
def exchange (w : Internet S H) (conn : Conn) (bytes : List UInt8) :
    Except String (List UInt8) × Internet S H :=
  match w.hosts conn.1 with
  | none => (.error "connection lost", w)
  | some x =>
    if w.starts conn.1 ≠ conn.2 then (.error "connection lost", w)
    else if bytes.length < STREAM_LIMIT then
      let arrival : Arrival := ⟨bytes, w.identity, w.now⟩
      match x.serve arrival with
      | none => (.error "connection lost", w.put conn.1
          (arrival.request.elim x fun request => w.wreck x request w.now))
      | some (answer, x) => (reply answer, w.put conn.1 x)
    else (.error "sending stopped by peer", w.put conn.1 x)

instance : QuicEndpoint (Internet S H) Conn := ⟨connect, exchange⟩

end Internet

/-- An endpoint that reaches a world of hosts: what it dials and exchanges comes out as there, the
texts of errors aside. -/
structure LawfulQuicEndpoint [Crypto] [RequestCodec] (ω : Type) {κ : Type} [QuicEndpoint ω κ]
    (S H : Type) [DescriptorStorage S] [ProtocolHook H] where
  world : ω → Internet S H
  route : κ → Internet.Conn
  /-- The endpoint when a host of its world has started again. -/
  restart : ω → Restart S H → ω
  fst_connect : ∀ e a,
    (QuicEndpoint.connect e a).1.toOption.map route = ((world e).connect a).1.toOption
  snd_connect : ∀ e a, world (QuicEndpoint.connect e a).2 = ((world e).connect a).2
  fst_exchange : ∀ e conn bytes, (QuicEndpoint.exchange e conn bytes).1.toOption =
    ((world e).exchange (route conn) bytes).1.toOption
  snd_exchange : ∀ e conn bytes,
    world (QuicEndpoint.exchange e conn bytes).2 = ((world e).exchange (route conn) bytes).2
  world_restart : ∀ e r, world (restart e r) = (world e).restart r

/-- The world itself, taken for an endpoint. -/
def Internet.lawful [Crypto] [RequestCodec] (S H : Type) [DescriptorStorage S] [ProtocolHook H] :
    LawfulQuicEndpoint (Internet S H) S H where
  world := id
  route := id
  restart := Internet.restart
  fst_connect _ _ := congrFun Option.map_id _
  snd_connect _ _ := rfl
  fst_exchange _ _ _ := rfl
  snd_exchange _ _ _ := rfl
  world_restart _ _ := rfl

/-! ## The same world without bytes -/

/-- What becomes of a connection: there is none, it works, or its host has started again. -/
inductive Link where
  | none
  | live
  | lost
deriving DecidableEq, Repr

/-- The nodes at socket addresses, and the state of the connection to each. -/
structure Sessions [Crypto] (S H : Type) where
  hosts : SocketAddr → Option (DhtNode S H)
  links : SocketAddr → Link
  identity : Option Identity
  clock : ℕ → UInt64
  reads : ℕ
  wreck : DhtNode S H → Request → UInt64 → DhtNode S H

/-- An answer is read if its body is within the limit. -/
def Response.Read (r : Response) : Prop := r.toCbor.length ≤ MAX_FRAME_BODY

/-- An answer leaves a frame that is received if the length that the frame declares is within the
limit. -/
def Response.Framed (r : Response) : Prop :=
  r.toCbor.length + 24 < STREAM_LIMIT ∧ r.toCbor.length % 2 ^ 32 ≤ MAX_FRAME_BODY

instance (r : Response) : Decidable r.Read := inferInstanceAs (Decidable (_ ≤ _))

instance (r : Response) : Decidable r.Framed := inferInstanceAs (Decidable (_ ∧ _))

namespace Sessions

variable [Crypto] {S H : Type}

def now (l : Sessions S H) : UInt64 := l.clock l.reads

def restart (l : Sessions S H) (r : Restart S H) : Sessions S H :=
  { l with
    hosts := Function.update l.hosts r.addr r.node
    links := if l.links r.addr = .live then Function.update l.links r.addr .lost else l.links }

variable [DescriptorStorage S] [ProtocolHook H]

/-- What a node answers a request that is not too long, and the node afterwards. -/
def answer (l : Sessions S H) (x : DhtNode S H) (request : Request) :
    Option Response × DhtNode S H :=
  if request.toCbor.length ≤ MAX_FRAME_BODY then
    match x.dispatchRequest request l.identity l.now with
    | none => (none, l.wreck x request l.now)
    | some (answer, x) => (answer, x)
  else (none, x)

variable [SocketAddrParser]

/-- Hands a request to the node at an address, if the connection there is not lost. -/
def deliver (l : Sessions S H) (addr : NodeAddr) (request : Request) :
    Option Response × Sessions S H :=
  match SocketAddrParser.parse addr.address with
  | .error _ => (none, l)
  | .ok a =>
    match l.hosts a with
    | none => (none, { l with links := Function.update l.links a .none })
    | some x =>
      if l.links a = .lost then (none, { l with links := Function.update l.links a .none })
      else
        let (answer, x) := l.answer x request
        let link : Link := if answer.any fun r => r.Framed then .live else .none
        (answer.filter fun r => r.Read,
          { l with
            hosts := Function.update l.hosts a (some x)
            links := Function.update l.links a link
            reads := l.reads + 1 })

/-- Why no message comes back: there is no answer, or it is cut, and a frame of its type is left. -/
def noReply (l : Sessions S H) (addr : NodeAddr) (request : Request) : NoReply :=
  match SocketAddrParser.parse addr.address with
  | .error _ => .transport
  | .ok a =>
    match l.hosts a with
    | none => .transport
    | some x =>
      if l.links a = .lost then .transport
      else .ofFrame (((l.answer x request).1.filter fun r => r.Framed).map Response.msgType)

instance : Transport (Sessions S H) := ⟨deliver, noReply⟩

end Sessions

end MeshProtocol
