import MeshProtocol.Hub.Authenticated
import MeshProtocol.Transport.Quic

/-!
# Clients over QUIC

A client that talks QUIC, in frames and CBOR, over connections it keeps, cannot be told from one
whose requests and answers are handed over as they are (`client_over_quic`): the bytes come down to
which messages are lost, and the kept connections to their states.
-/

namespace MeshProtocol

open Cbor

/-! ## One exchange -/

namespace DhtNode

variable [Crypto] {S H : Type} [DescriptorStorage S] [ProtocolHook H]
  [RequestCodec] [ResponseCodec] [LawfulCodecs]

/-- A node serves the request that was sent, or drops what it cannot read. -/
lemma serve_frame (x : DhtNode S H) (request : Request) (hlen : request.toCbor.length < 2 ^ 64)
    (msgId : Vector UInt8 16) (identity : Option Identity) (clock : UInt64) :
    x.serve ⟨(request.frame msgId).toBytes, identity, clock⟩ =
      if request.toCbor.length ≤ MAX_FRAME_BODY then
        (x.dispatchRequest request identity clock).map fun (answer, x) =>
          (answer.map fun r => r.frame msgId, x)
      else some (none, x) := by
  have hread := request.read_frame hlen msgId
  by_cases hshort : request.toCbor.length ≤ MAX_FRAME_BODY
  · have hreceived : recvFrame (request.frame msgId).toBytes = some (.ok (request.frame msgId)) :=
      (Frame.received_iff ⟨rfl, rfl⟩).2 hshort
    rw [receive_eq_iff.2 hreceived, if_pos hshort] at hread
    have hdecode : decodeRequest (request.frame msgId) = some request := hread
    rw [serve, hreceived, if_pos hshort]
    dsimp only
    rw [hdecode]
    rfl
  · obtain ⟨result, hresult⟩ :=
      Option.isSome_iff_exists.1 (recvFrame_isSome (request.frame msgId).toBytes)
    rw [receive_eq_iff.2 hresult, if_neg hshort] at hread
    rw [serve, hresult, if_neg hshort]
    cases result with
    | error e => rfl
    | ok frame =>
      have hdecode : decodeRequest frame = none := hread
      dsimp only
      rw [hdecode]

end DhtNode

namespace QuicTransport

open Internet

lemma toOption_mapError {ε ε' α : Type} (f : ε → ε') (result : Except ε α) :
    (result.mapError f).toOption = result.toOption := by
  cases result with
  | error e => rfl
  | ok a => rfl

lemma toOption_readReply_ok (stream : List UInt8) :
    (readReply (.ok stream)).toOption = (receive stream).toOption := by
  show ((receive stream).mapError ExchangeError.recv).toOption = _
  rw [toOption_mapError]

lemma readReply_error (reason : String) : readReply (.error reason) = .error (.stream reason) := rfl

/-- Nothing is read where nothing was written. -/
lemma toOption_readReply_none : (readReply (reply none)).toOption = none := by
  rw [reply, toOption_readReply_ok]
  rfl

/-- A frame of an answer's type is read back exactly if the answer is framed. -/
lemma msgType_readReply (r : Response) (msgId : Vector UInt8 16) :
    (readReply (reply (some (r.frame msgId)))).toOption.map Frame.msgType =
      if r.Framed then some r.msgType else none := by
  have hlength : (r.frame msgId).toBytes.length = 24 + r.toCbor.length := Frame.length_toBytes _
  have hframed : r.Framed ↔ 24 + r.toCbor.length < STREAM_LIMIT ∧
      r.toCbor.length % 2 ^ 32 ≤ MAX_FRAME_BODY := by
    rw [Response.Framed, add_comm]
  rw [reply, hlength]
  by_cases hlimit : 24 + r.toCbor.length < STREAM_LIMIT
  · rw [if_pos hlimit, toOption_readReply_ok]
    by_cases hdeclared : r.toCbor.length % 2 ^ 32 ≤ MAX_FRAME_BODY
    · rw [receive_eq_iff.2 (Frame.recvFrame_toBytes (f := r.frame msgId) ⟨rfl, rfl⟩ hdeclared),
        if_pos (hframed.2 ⟨hlimit, hdeclared⟩)]
      rfl
    · obtain ⟨e, he⟩ :=
        Frame.recvFrame_toBytes_of_gt (f := r.frame msgId) ⟨rfl, rfl⟩ (not_le.1 hdeclared)
      rw [receive_eq_iff.2 he, if_neg fun h => hdeclared (hframed.1 h).2]
      rfl
  · rw [if_neg hlimit, readReply_error, if_neg fun h => hlimit (hframed.1 h).1]
    rfl

/-- An answer is read back exactly if it is within the limit. -/
lemma readReply_decode [RequestCodec] [ResponseCodec] [LawfulCodecs] (r : Response)
    (msgId : Vector UInt8 16) :
    (readReply (reply (some (r.frame msgId)))).toOption.bind decodeResponse =
      if r.Read then some r else none := by
  have hlength : (r.frame msgId).toBytes.length = 24 + r.toCbor.length := Frame.length_toBytes _
  rw [reply, hlength]
  by_cases hlimit : 24 + r.toCbor.length < STREAM_LIMIT
  · have hlen : r.toCbor.length < 2 ^ 64 := by
      rw [STREAM_LIMIT] at hlimit
      omega
    rw [if_pos hlimit, toOption_readReply_ok]
    exact r.read_frame hlen msgId
  · have hlong : ¬ r.Read := by
      rw [Response.Read, MAX_FRAME_BODY]
      rw [STREAM_LIMIT] at hlimit
      omega
    rw [if_neg hlimit, readReply_error, if_neg hlong]
    rfl

/-- What is read back of what a node answers. -/
lemma readReply_answer [RequestCodec] [ResponseCodec] [LawfulCodecs] (answer : Option Response)
    (msgId : Vector UInt8 16) :
    (readReply (reply (answer.map fun r => r.frame msgId))).toOption.bind decodeResponse =
        answer.filter (fun r => r.Read) ∧
      (readReply (reply (answer.map fun r => r.frame msgId))).toOption.map Frame.msgType =
        (answer.filter fun r => r.Framed).map Response.msgType := by
  cases answer with
  | none =>
    rw [Option.map_none, toOption_readReply_none]
    exact ⟨rfl, rfl⟩
  | some r =>
    rw [Option.map_some, readReply_decode, msgType_readReply, Option.filter_some,
      Option.filter_some]
    by_cases hframed : r.Framed
    · simp [hframed]
    · simp [hframed]

end QuicTransport

/-! ## A transport and its sessions -/

section Shows

variable [Crypto] {S H : Type}

/-- The state of a connection that a transport keeps to an address. -/
def Internet.link (w : Internet S H) (a : SocketAddr) : Option Internet.Conn → Link
  | none => .none
  | some conn => if (w.hosts a).isSome ∧ w.starts a = conn.2 then .live else .lost

/-- The sessions show the hosts of a transport's world and the state of each connection it keeps,
which leads to the address it is kept for. -/
structure Shows (q : QuicTransport (Internet S H) Internet.Conn) (l : Sessions S H) : Prop where
  hosts : l.hosts = q.endpoint.hosts
  links : ∀ a, l.links a = q.endpoint.link a (q.connections a)
  identity : l.identity = q.endpoint.identity
  clock : l.clock = q.endpoint.clock
  reads : l.reads = q.endpoint.reads
  wreck : l.wreck = q.endpoint.wreck
  kept : ∀ {a conn}, q.connections a = some conn → conn.1 = a ∧ conn.2 ≤ q.endpoint.starts a

variable {q : QuicTransport (Internet S H) Internet.Conn} {l : Sessions S H}

lemma Shows.now (h : Shows q l) : l.now = q.endpoint.now := by
  rw [Sessions.now, Internet.now, h.clock, h.reads]

lemma Shows.draw (h : Shows q l) : Shows { q with drawn := q.drawn + 1 } l :=
  ⟨h.hosts, h.links, h.identity, h.clock, h.reads, h.wreck, h.kept⟩

/-- Forgetting the connection to an address. -/
lemma Shows.forget (h : Shows q l) (a : SocketAddr) :
    Shows { q with connections := Function.update q.connections a none }
      { l with links := Function.update l.links a .none } where
  hosts := h.hosts
  links b := by
    dsimp only
    by_cases hb : b = a
    · subst hb
      rw [Function.update_self, Function.update_self]
      rfl
    · rw [Function.update_of_ne hb, Function.update_of_ne hb]
      exact h.links b
  identity := h.identity
  clock := h.clock
  reads := h.reads
  wreck := h.wreck
  kept {b conn} hconn := by
    dsimp only at hconn
    by_cases hb : b = a
    · subst hb
      rw [Function.update_self] at hconn
      cases hconn
    · rw [Function.update_of_ne hb] at hconn
      exact h.kept hconn

/-- An exchange with the host at an address, after which the connection to it is kept, or not. -/
lemma Shows.exchange (h : Shows q l) (a : SocketAddr) (x : DhtNode S H) (kept : Bool) :
    Shows { q with
        endpoint := q.endpoint.put a x
        connections := Function.update q.connections a
          (if kept then some (a, q.endpoint.starts a) else none) }
      { l with
        hosts := Function.update l.hosts a (some x)
        links := Function.update l.links a (if kept then .live else .none)
        reads := l.reads + 1 } where
  hosts := by
    rw [h.hosts]
    rfl
  links b := by
    dsimp only
    by_cases hb : b = a
    · subst hb
      rw [Function.update_self, Function.update_self]
      cases kept with
      | false => rfl
      | true =>
        refine (if_pos ⟨?_, rfl⟩).symm
        show (Function.update q.endpoint.hosts b (some x) b).isSome = true
        rw [Function.update_self]
        rfl
    · have hhost : (q.endpoint.put a x).hosts b = q.endpoint.hosts b := Function.update_of_ne hb _ _
      rw [Function.update_of_ne hb, Function.update_of_ne hb, h.links b, Internet.link.eq_def,
        Internet.link.eq_def, hhost]
      rfl
  identity := h.identity
  clock := h.clock
  reads := congrArg (· + 1) h.reads
  wreck := h.wreck
  kept {b conn} hconn := by
    dsimp only at hconn
    by_cases hb : b = a
    · subst hb
      rw [Function.update_self] at hconn
      cases kept with
      | false => cases hconn
      | true =>
        obtain rfl := Option.some.inj hconn
        exact ⟨rfl, le_rfl⟩
    · rw [Function.update_of_ne hb] at hconn
      exact h.kept hconn

/-- A host that starts again, or is gone, loses its connection. -/
lemma Shows.restart (h : Shows q l) (r : Restart S H) :
    Shows { q with endpoint := q.endpoint.restart r } (l.restart r) where
  hosts := by
    rw [Sessions.restart, h.hosts]
    rfl
  links b := by
    by_cases hb : b = r.addr
    · subst hb
      have hlost : (q.endpoint.restart r).link r.addr (q.connections r.addr) =
          if l.links r.addr = .none then .none else .lost := by
        rw [h.links r.addr]
        cases hconn : q.connections r.addr with
        | none => rfl
        | some conn =>
          have hold := (h.kept hconn).2
          have hstarts : (q.endpoint.restart r).starts r.addr = q.endpoint.starts r.addr + 1 :=
            Function.update_self _ _ _
          have hdead : ¬ (((q.endpoint.restart r).hosts r.addr).isSome ∧
              (q.endpoint.restart r).starts r.addr = conn.2) := by
            rw [hstarts]
            omega
          have hsome : q.endpoint.link r.addr (some conn) ≠ .none := by
            rw [Internet.link]
            split <;> simp
          rw [if_neg hsome, Internet.link, if_neg hdead]
      rw [hlost, Sessions.restart]
      dsimp only
      cases hlink : l.links r.addr with
      | none => rw [if_neg (by decide), if_pos rfl, hlink]
      | live => rw [if_pos rfl, if_neg (by decide), Function.update_self]
      | lost => rw [if_neg (by decide), if_neg (by decide), hlink]
    · have hhost : (q.endpoint.restart r).hosts b = q.endpoint.hosts b :=
        Function.update_of_ne hb _ _
      have hstarts : (q.endpoint.restart r).starts b = q.endpoint.starts b :=
        Function.update_of_ne hb _ _
      have hlink : (l.restart r).links b = l.links b := by
        rw [Sessions.restart]
        dsimp only
        split_ifs
        · exact Function.update_of_ne hb _ _
        · rfl
      rw [hlink, h.links b, Internet.link.eq_def, Internet.link.eq_def, hhost, hstarts]
  identity := h.identity
  clock := h.clock
  reads := h.reads
  wreck := h.wreck
  kept {b conn} hconn := by
    obtain ⟨haddr, hold⟩ := h.kept hconn
    refine ⟨haddr, hold.trans ?_⟩
    by_cases hb : b = r.addr
    · have hstarts : (q.endpoint.restart r).starts b = q.endpoint.starts b + 1 := by
        rw [hb]
        exact Function.update_self _ _ _
      show q.endpoint.starts b ≤ (q.endpoint.restart r).starts b
      omega
    · exact (Function.update_of_ne hb _ _).ge

end Shows

/-! ## Sending -/

section Send

variable [Crypto] {S H : Type} [DescriptorStorage S] [ProtocolHook H]
  [RequestCodec] [ResponseCodec] [LawfulCodecs]
  {q : QuicTransport (Internet S H) Internet.Conn} {l : Sessions S H}

open QuicTransport

/-- An exchange with a host that listens, over a connection that works. -/
lemma Shows.exchange_live (h : Shows q l) {a : SocketAddr} {x : DhtNode S H}
    (hx : q.endpoint.hosts a = some x) (request : Request) (msgId : Vector UInt8 16) :
    ∃ result, exchangeFrame q.endpoint (a, q.endpoint.starts a) (request.frame msgId) =
        (result, q.endpoint.put a (l.answer x request).2) ∧
      result.toOption.bind decodeResponse = (l.answer x request).1.filter (fun r => r.Read) ∧
      result.toOption.map Frame.msgType =
        ((l.answer x request).1.filter fun r => r.Framed).map Response.msgType := by
  have hlength : (request.frame msgId).toBytes.length = 24 + request.toCbor.length :=
    Frame.length_toBytes _
  have hexchange : QuicEndpoint.exchange q.endpoint (a, q.endpoint.starts a)
      (request.frame msgId).toBytes =
      Internet.exchange q.endpoint (a, q.endpoint.starts a) (request.frame msgId).toBytes := rfl
  rw [exchangeFrame, hexchange, Internet.exchange, hx]
  dsimp only
  rw [if_neg (not_not.2 rfl), hlength, Sessions.answer, h.identity, h.now, h.wreck]
  by_cases hlimit : 24 + request.toCbor.length < STREAM_LIMIT
  · have hlen : request.toCbor.length < 2 ^ 64 := by
      rw [STREAM_LIMIT] at hlimit
      omega
    rw [if_pos hlimit, DhtNode.serve_frame x request hlen]
    by_cases hshort : request.toCbor.length ≤ MAX_FRAME_BODY
    · have hrequest : Arrival.request ⟨(request.frame msgId).toBytes, q.endpoint.identity,
          q.endpoint.now⟩ = some request := by
        rw [Arrival.request_eq, request.read_frame hlen, if_pos hshort]
      rw [if_pos hshort, if_pos hshort, hrequest]
      cases x.dispatchRequest request q.endpoint.identity q.endpoint.now with
      | none => exact ⟨_, rfl, rfl, rfl⟩
      | some served =>
        obtain ⟨answer, x'⟩ := served
        exact ⟨_, rfl, readReply_answer answer msgId⟩
    · rw [if_neg hshort, if_neg hshort]
      exact ⟨_, rfl, readReply_answer none msgId⟩
  · have hlong : ¬ request.toCbor.length ≤ MAX_FRAME_BODY := by
      rw [MAX_FRAME_BODY]
      rw [STREAM_LIMIT] at hlimit
      omega
    rw [if_neg hlimit, if_neg hlong]
    exact ⟨_, rfl, rfl, rfl⟩

omit [ResponseCodec] [LawfulCodecs] in
/-- Sending over a connection that fails forgets it. -/
lemma Shows.sendFrame_lost (h : Shows q l) {a : SocketAddr} {conn : Internet.Conn}
    (hconn : q.connections a = some conn) (hlink : l.links a = .lost) (frame : Frame) :
    ∃ e, q.sendFrame a frame =
      (.error e, { q with connections := Function.update q.connections a none }) := by
  have hdead : ¬ ((q.endpoint.hosts a).isSome ∧ q.endpoint.starts a = conn.2) := by
    intro hlive
    rw [h.links a, hconn, Internet.link, if_pos hlive] at hlink
    cases hlink
  obtain ⟨rfl, -⟩ := h.kept hconn
  have hexchange : exchangeFrame q.endpoint conn frame =
      (.error (.stream "connection lost"), q.endpoint) := by
    have hlost : Internet.exchange q.endpoint conn frame.toBytes =
        (.error "connection lost", q.endpoint) := by
      rw [Internet.exchange]
      cases hx : q.endpoint.hosts conn.1 with
      | none => rfl
      | some x =>
        have hstarts : q.endpoint.starts conn.1 ≠ conn.2 := by
          intro hstarts
          rw [hx] at hdead
          exact hdead ⟨rfl, hstarts⟩
        dsimp only
        rw [if_pos hstarts]
    have hinstance : QuicEndpoint.exchange q.endpoint conn frame.toBytes =
        Internet.exchange q.endpoint conn frame.toBytes := rfl
    rw [exchangeFrame, hinstance, hlost]
    rfl
  have hkept : q.connectionTo conn.1 = (.ok conn, q) := by
    rw [connectionTo, hconn]
  refine ⟨.frameError (.stream "connection lost"), ?_⟩
  rw [sendFrame, hkept]
  dsimp only
  rw [hexchange]

omit [ResponseCodec] [LawfulCodecs] in
/-- Without a host there is no answer, and no connection afterwards. -/
lemma Shows.sendFrame_gone (h : Shows q l) {a : SocketAddr} (hx : q.endpoint.hosts a = none)
    (frame : Frame) : ∃ e, q.sendFrame a frame =
      (.error e, { q with connections := Function.update q.connections a none }) := by
  cases hconn : q.connections a with
  | none =>
    have hconnect : QuicEndpoint.connect q.endpoint a = (.error "timed out", q.endpoint) := by
      have hinstance : QuicEndpoint.connect q.endpoint a = Internet.connect q.endpoint a := rfl
      rw [hinstance, Internet.connect, hx]
    have hsame : Function.update q.connections a none = q.connections := by
      rw [← hconn, Function.update_eq_self]
    refine ⟨.connectionFailed "timed out", ?_⟩
    rw [sendFrame, connectionTo, hconn, hsame]
    dsimp only
    rw [hconnect]
  | some conn =>
    have hlink : l.links a = .lost := by
      rw [h.links a, hconn, Internet.link, hx]
      rfl
    exact h.sendFrame_lost hconn hlink frame

omit [ResponseCodec] [LawfulCodecs] in
/-- Sending to a host over a connection that works, or over a new one: it is kept if a frame comes
back. -/
lemma Shows.sendFrame_live (h : Shows q l) {a : SocketAddr} {x : DhtNode S H}
    (hx : q.endpoint.hosts a = some x) (hlink : l.links a ≠ .lost) {frame : Frame}
    {result : Except ExchangeError Frame} {w : Internet S H}
    (hexchange : exchangeFrame q.endpoint (a, q.endpoint.starts a) frame = (result, w)) :
    q.sendFrame a frame = (result.mapError .frameError, { q with
      endpoint := w
      connections := Function.update q.connections a
        (if result.toOption.isSome then some (a, q.endpoint.starts a) else none) }) := by
  have hconnection : q.connectionTo a = (.ok (a, q.endpoint.starts a), { q with
      connections := Function.update q.connections a (some (a, q.endpoint.starts a)) }) := by
    rw [connectionTo]
    cases hconn : q.connections a with
    | none =>
      have hconnect : QuicEndpoint.connect q.endpoint a =
          (.ok (a, q.endpoint.starts a), q.endpoint) := by
        have hinstance : QuicEndpoint.connect q.endpoint a = Internet.connect q.endpoint a := rfl
        rw [hinstance, Internet.connect, hx]
      dsimp only
      rw [hconnect]
    | some conn =>
      have hsame : conn = (a, q.endpoint.starts a) := by
        obtain ⟨haddr, -⟩ := h.kept hconn
        refine Prod.ext haddr ?_
        by_contra hstarts
        apply hlink
        rw [h.links a, hconn, Internet.link, if_neg]
        rintro ⟨-, heq⟩
        exact hstarts heq.symm
      have hupdate : Function.update q.connections a (some (a, q.endpoint.starts a)) =
          q.connections := by
        rw [← hsame, ← hconn, Function.update_eq_self]
      rw [hupdate, hsame]
  rw [sendFrame, hconnection]
  dsimp only
  rw [hexchange]
  cases result with
  | ok response => rfl
  | error e =>
    dsimp only
    rw [Function.update_idem]
    rfl

variable [SocketAddrParser]

/-- What a transport's request brings back, and what becomes of it, as its sessions have it. -/
lemma Shows.ask (h : Shows q l) (addr : NodeAddr) (request : Request) :
    ∃ result q', q.ask addr request = (result, q') ∧
      result.toOption.bind decodeResponse = (l.deliver addr request).1 ∧
      NoReply.ofFrame (result.toOption.map Frame.msgType) = l.noReply addr request ∧
      Shows q' (l.deliver addr request).2 := by
  have hdraw := h.draw
  rw [QuicTransport.ask, QuicTransport.sendRequest, Sessions.deliver, Sessions.noReply]
  generalize q.ids q.drawn = msgId
  cases SocketAddrParser.parse addr.address with
  | error e => exact ⟨_, _, rfl, rfl, rfl, hdraw⟩
  | ok a =>
    dsimp only
    cases hx : l.hosts a with
    | none =>
      have hgone : q.endpoint.hosts a = none := by rw [← h.hosts, hx]
      obtain ⟨e, hfailed⟩ := hdraw.sendFrame_gone hgone (request.frame msgId)
      exact ⟨_, _, hfailed, rfl, rfl, hdraw.forget a⟩
    | some x =>
      have hthere : q.endpoint.hosts a = some x := by rw [← h.hosts, hx]
      dsimp only
      by_cases hlost : l.links a = .lost
      · obtain ⟨conn, hconn⟩ : ∃ conn, q.connections a = some conn := by
          cases hconn : q.connections a with
          | none =>
            rw [h.links a, hconn] at hlost
            cases hlost
          | some conn => exact ⟨conn, rfl⟩
        obtain ⟨e, hfailed⟩ := hdraw.sendFrame_lost hconn hlost (request.frame msgId)
        rw [if_pos hlost, if_pos hlost]
        exact ⟨_, _, hfailed, rfl, rfl, hdraw.forget a⟩
      · obtain ⟨result, hexchange, hdecode, hframed⟩ := hdraw.exchange_live hthere request msgId
        have hanswered : result.toOption.isSome =
            (l.answer x request).1.any fun r => r.Framed := by
          rw [← Option.isSome_map (f := Frame.msgType), hframed, Option.isSome_map,
            Option.isSome_filter]
        rw [if_neg hlost, if_neg hlost, ← hanswered]
        refine ⟨_, _, hdraw.sendFrame_live hthere hlost hexchange, ?_, ?_, hdraw.exchange a _ _⟩
        · rw [toOption_mapError]
          exact hdecode
        · rw [toOption_mapError, hframed]

/-- The transport and its sessions answer alike. -/
lemma answerAlike_shows :
    AnswerAlike (fun q : QuicTransport (Internet S H) Internet.Conn => q.endpoint.now)
      Sessions.now Shows where
  time h := h.now.symm
  send {q l} h addr request := by
    obtain ⟨result, q', hask, hdecode, -, hshows⟩ := h.ask addr request
    refine ⟨_, q', _, ?_, rfl, hshows⟩
    show ((q.ask addr request).1.toOption.bind decodeResponse, (q.ask addr request).2) = _
    rw [hask, hdecode]
    rfl
  noReply {q l} h addr request _ := by
    obtain ⟨result, q', hask, -, hreason, -⟩ := h.ask addr request
    show NoReply.ofFrame ((q.ask addr request).1.toOption.map Frame.msgType) =
      l.noReply addr request
    rw [hask, hreason]

end Send

/-! ## Endpoints that reach a world -/

section Lawful

variable [Crypto] [RequestCodec] {ω κ S H : Type} [QuicEndpoint ω κ] [DescriptorStorage S]
  [ProtocolHook H] (v : LawfulQuicEndpoint ω S H)

namespace QuicTransport

/-- The transport as the world that its endpoint reaches has it. -/
def seen (q : QuicTransport ω κ) : QuicTransport (Internet S H) Internet.Conn :=
  ⟨v.world q.endpoint, fun a => (q.connections a).map v.route, q.ids, q.drawn⟩

omit [Crypto] [RequestCodec] in
/-- What is read does not depend on why nothing came back. -/
lemma toOption_readReply (sent : Except String (List UInt8)) :
    (readReply sent).toOption = sent.toOption.bind fun stream => (receive stream).toOption := by
  cases sent with
  | error e => rfl
  | ok stream => exact toOption_readReply_ok stream

lemma exchangeFrame_seen (e : ω) (conn : κ) (frame : Frame) :
    (exchangeFrame e conn frame).1.toOption =
        (exchangeFrame (v.world e) (v.route conn) frame).1.toOption ∧
      v.world (exchangeFrame e conn frame).2 =
        (exchangeFrame (v.world e) (v.route conn) frame).2 := by
  constructor
  · have hsent := v.fst_exchange e conn frame.toBytes
    show (readReply (QuicEndpoint.exchange e conn frame.toBytes).1).toOption =
      (readReply ((v.world e).exchange (v.route conn) frame.toBytes).1).toOption
    rw [toOption_readReply, toOption_readReply, hsent]
  · exact v.snd_exchange e conn frame.toBytes

lemma seen_keep (q : QuicTransport ω κ) (e : ω) (a : SocketAddr) (conn : Option κ) :
    { q with endpoint := e, connections := Function.update q.connections a conn }.seen v =
      { q.seen v with
        endpoint := v.world e
        connections := Function.update (q.seen v).connections a (conn.map v.route) } := by
  rw [seen, seen, QuicTransport.mk.injEq]
  refine ⟨rfl, ?_, rfl, rfl⟩
  funext b
  dsimp only
  by_cases hb : b = a
  · subst hb
    rw [Function.update_self, Function.update_self]
  · rw [Function.update_of_ne hb, Function.update_of_ne hb]

lemma connectionTo_seen (q : QuicTransport ω κ) (a : SocketAddr) :
    (q.connectionTo a).1.toOption.map v.route = ((q.seen v).connectionTo a).1.toOption ∧
      (q.connectionTo a).2.seen v = ((q.seen v).connectionTo a).2 := by
  have hseen : (q.seen v).connections a = (q.connections a).map v.route := rfl
  rw [connectionTo, connectionTo, hseen]
  cases q.connections a with
  | some conn => exact ⟨rfl, rfl⟩
  | none =>
    have hfst := v.fst_connect q.endpoint a
    have hsnd := v.snd_connect q.endpoint a
    have hworld : QuicEndpoint.connect (q.seen v).endpoint a = (v.world q.endpoint).connect a := rfl
    rw [Option.map_none, hworld]
    generalize QuicEndpoint.connect q.endpoint a = made at hfst hsnd
    generalize (v.world q.endpoint).connect a = made' at hfst hsnd
    obtain ⟨e | conn, endpoint⟩ := made <;> obtain ⟨e' | conn', endpoint'⟩ := made'
    · obtain rfl : v.world endpoint = endpoint' := hsnd
      exact ⟨rfl, rfl⟩
    · cases hfst
    · cases hfst
    · obtain rfl : v.world endpoint = endpoint' := hsnd
      obtain rfl : v.route conn = conn' := Option.some.inj hfst
      exact ⟨rfl, q.seen_keep v endpoint a (some conn)⟩

lemma sendFrame_seen (q : QuicTransport ω κ) (a : SocketAddr) (frame : Frame) :
    (q.sendFrame a frame).1.toOption = ((q.seen v).sendFrame a frame).1.toOption ∧
      (q.sendFrame a frame).2.seen v = ((q.seen v).sendFrame a frame).2 := by
  obtain ⟨hfst, hsnd⟩ := q.connectionTo_seen v a
  rw [sendFrame, sendFrame]
  generalize q.connectionTo a = made at hfst hsnd
  generalize (q.seen v).connectionTo a = made' at hfst hsnd
  obtain ⟨e | conn, q₁⟩ := made <;> obtain ⟨e' | conn', q₁'⟩ := made'
  · exact ⟨rfl, hsnd⟩
  · cases hfst
  · cases hfst
  · obtain rfl : q₁.seen v = q₁' := hsnd
    obtain rfl : v.route conn = conn' := Option.some.inj hfst
    obtain ⟨hreply, hworld⟩ := exchangeFrame_seen v q₁.endpoint conn frame
    have hendpoint : (q₁.seen v).endpoint = v.world q₁.endpoint := rfl
    dsimp only
    rw [hendpoint]
    generalize exchangeFrame q₁.endpoint conn frame = sent at hreply hworld
    generalize exchangeFrame (v.world q₁.endpoint) (v.route conn) frame = sent' at hreply hworld
    obtain ⟨e | response, endpoint⟩ := sent <;> obtain ⟨e' | response', endpoint'⟩ := sent'
    · obtain rfl : v.world endpoint = endpoint' := hworld
      exact ⟨rfl, q₁.seen_keep v endpoint a none⟩
    · cases hreply
    · cases hreply
    · obtain rfl : v.world endpoint = endpoint' := hworld
      exact ⟨hreply, rfl⟩

variable [SocketAddrParser]

lemma ask_seen (q : QuicTransport ω κ) (addr : NodeAddr) (request : Request) :
    (q.ask addr request).1.toOption = ((q.seen v).ask addr request).1.toOption ∧
      (q.ask addr request).2.seen v = ((q.seen v).ask addr request).2 := by
  rw [ask, ask, sendRequest, sendRequest]
  cases SocketAddrParser.parse addr.address with
  | error e => exact ⟨rfl, rfl⟩
  | ok a => exact sendFrame_seen v { q with drawn := q.drawn + 1 } a (request.frame (q.ids q.drawn))

/-- A transport answers as the world has it that its endpoint reaches. -/
lemma answerAlike_seen [ResponseCodec] :
    AnswerAlike (fun q : QuicTransport ω κ => (v.world q.endpoint).now)
      (fun q' : QuicTransport (Internet S H) Internet.Conn => q'.endpoint.now)
      fun q q' => q.seen v = q' where
  time := by
    rintro q _ rfl
    rfl
  send := by
    rintro q _ rfl addr request
    obtain ⟨hreply, hafter⟩ := q.ask_seen v addr request
    refine ⟨_, _, _, rfl, ?_, hafter⟩
    show (((q.seen v).ask addr request).1.toOption.bind decodeResponse, _) =
      ((q.ask addr request).1.toOption.bind decodeResponse, _)
    rw [hreply]
    rfl
  noReply := by
    rintro q _ rfl addr request -
    show NoReply.ofFrame ((q.ask addr request).1.toOption.map Frame.msgType) =
      NoReply.ofFrame (((q.seen v).ask addr request).1.toOption.map Frame.msgType)
    rw [(q.ask_seen v addr request).1]

end QuicTransport

end Lawful

/-! ## A client -/

/-- The sessions of a client that has no connections yet. -/
def Sessions.of [Crypto] {S H : Type} (w : Internet S H) : Sessions S H :=
  ⟨w.hosts, fun _ => .none, w.identity, w.clock, w.reads, w.wreck⟩

section Client

variable [Crypto] [Ciborium] {ω κ S H : Type} [QuicEndpoint ω κ] [DescriptorStorage S]
  [ProtocolHook H] [RequestCodec] [ResponseCodec] [SocketAddrParser]

/-- A client over QUIC, in a world whose hosts start again and go. -/
def quicClient (v : LawfulQuicEndpoint ω S H) : Machine (Option (MeshClient (QuicTransport ω κ)))
    (MeshClient.Call (Restart S H)) (Option MeshClient.Outcome) :=
  MeshClient.machine (fun q => (v.world q.endpoint).now)
    fun q event => { q with endpoint := v.restart q.endpoint event }

/-- The same client, over sessions. -/
def sessionClient : Machine (Option (MeshClient (Sessions S H)))
    (MeshClient.Call (Restart S H)) (Option MeshClient.Outcome) :=
  MeshClient.machine Sessions.now Sessions.restart

/-- Over QUIC, with frames, CBOR and kept connections, every run of a client has the outcomes it has
where messages are handed over as they are: requests and answers within the limit arrive, longer
ones are lost, and a connection costs one request after its host has started again.  It leaves the
hosts in the same state. -/
theorem client_over_quic [LawfulCodecs] (v : LawfulQuicEndpoint ω S H) (endpoint : ω)
    (ids : ℕ → Vector UInt8 16) (node : DhtNode DescriptorStore NoOpHook)
    (calls : List (MeshClient.Call (Restart S H))) :
    (quicClient v).trace (some ⟨node, .new endpoint ids⟩) calls =
        sessionClient.trace (some ⟨node, .of (v.world endpoint)⟩) calls ∧
      ((quicClient v).run (some ⟨node, .new endpoint ids⟩) calls).map
          (fun c => (c.node, (v.world c.transport.endpoint).hosts)) =
        (sessionClient.run (some ⟨node, .of (v.world endpoint)⟩) calls).map
          fun c => (c.node, c.transport.hosts) := by
  -- behind the endpoint is its world, and the sessions show that
  let Reaches : QuicTransport ω κ → Sessions S H → Prop :=
    Relation.Comp (fun q q' => q.seen v = q') Shows
  have hsimulates : Machine.Simulates (quicClient v) sessionClient
      (Option.Rel (MeshClient.Twins Reaches)) := by
    refine MeshClient.machine_simulates
      ((QuicTransport.answerAlike_seen v).comp answerAlike_shows) ?_
    rintro q l ⟨_, rfl, hshows⟩ event
    refine ⟨_, rfl, ?_⟩
    have hrestart : ({ q with endpoint := v.restart q.endpoint event }.seen v) =
        { q.seen v with endpoint := (q.seen v).endpoint.restart event } := by
      rw [QuicTransport.seen, QuicTransport.seen, v.world_restart]
    rw [hrestart]
    exact hshows.restart event
  have hstart : Shows ((QuicTransport.new endpoint ids).seen v) (.of (v.world endpoint)) :=
    ⟨rfl, fun _ => rfl, rfl, rfl, rfl, rfl, fun hconn => by cases hconn⟩
  have hclients : MeshClient.Twins Reaches ⟨node, .new endpoint ids⟩
      ⟨node, .of (v.world endpoint)⟩ := ⟨rfl, _, rfl, hstart⟩
  obtain ⟨htrace, hrun⟩ := hsimulates.trace_eq calls (.some hclients)
  refine ⟨htrace, ?_⟩
  revert hrun
  generalize (quicClient v).run _ calls = c
  generalize sessionClient.run _ calls = c'
  intro hrun
  cases hrun with
  | none => rfl
  | some htwins =>
    obtain ⟨_, rfl, hshows⟩ := htwins.transport
    rw [Option.map_some, Option.map_some, htwins.node, hshows.hosts]
    rfl

end Client

/-! ## A host that starts again -/

/-- The address that the host below listens at. -/
def hostAddr : SocketAddr := ⟨.v4 ⟨![203, 0, 113, 7]⟩, 4433⟩

/-- A host of the second publisher, as the first publisher's endpoint finds it. -/
def oneHost [Crypto] : Internet DescriptorStore NoOpHook where
  hosts a := if a = hostAddr then
      some (.withStore secondPublisher (.quic "203.0.113.7:4433") {} .new)
    else none
  starts _ := 0
  identity := some firstPublisher
  clock _ := 1700000000000000
  reads := 0
  wreck x _ _ := x

/-- A PING before and two after the host has started again. -/
def restartCalls [Crypto] : List (MeshClient.Call (Restart DescriptorStore NoOpHook)) :=
  [.ping (.quic "203.0.113.7:4433"), .world ⟨hostAddr, oneHost.hosts hostAddr⟩,
    .ping (.quic "203.0.113.7:4433"), .ping (.quic "203.0.113.7:4433")]

/-- A PING was answered. -/
def MeshClient.Outcome.isPong : MeshClient.Outcome → Bool
  | .pong (.ok _) => true
  | _ => false

/-- The first PING after the restart is lost with the connection. -/
theorem restart_costs_one_ping :
    letI : Crypto := cryptoOf []
    letI : Ciborium := referenceCiborium
    letI : RequestCodec := wireRequests
    letI : ResponseCodec := wireResponses
    letI : SocketAddrParser := PeeredHub.parserOf "203.0.113.7:4433" hostAddr
    let node : DhtNode DescriptorStore NoOpHook :=
      .withStore firstPublisher (.quic "[::]:0") {} .new
    ((quicClient (Internet.lawful DescriptorStore NoOpHook)).trace
        (some ⟨node, .new oneHost fun _ => .replicate 16 0⟩) restartCalls).map
        (fun entry => entry.2.map MeshClient.Outcome.isPong) =
      [some true, some false, some false, some true] := by
  let _ : Crypto := cryptoOf []
  let _ : Ciborium := referenceCiborium
  let _ : RequestCodec := wireRequests
  let _ : ResponseCodec := wireResponses
  let _ : SocketAddrParser := PeeredHub.parserOf "203.0.113.7:4433" hostAddr
  have : LawfulCodecs := lawful_wire
  let node : DhtNode DescriptorStore NoOpHook := .withStore firstPublisher (.quic "[::]:0") {} .new
  obtain ⟨htrace, -⟩ := client_over_quic (Internet.lawful DescriptorStore NoOpHook) oneHost
    (fun _ => .replicate 16 0) node restartCalls
  dsimp only
  rw [htrace]
  decide +kernel

end MeshProtocol
