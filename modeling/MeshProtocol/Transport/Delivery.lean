import MeshProtocol.Core.Responses
import MeshProtocol.Dht.Service
import MeshProtocol.Transport.Receiver

/-!
# Messages arrive whole or not at all

A message goes out as the body of one frame.  The header declares the length of the body as a `u32`,
so a body of four gibibytes or more is cut off at the other side, and what is left of it may well be
within the limit of the receiver.  It is never mistaken for a message.
-/

namespace MeshProtocol

open Cbor

/-- Receiving never panics. -/
lemma recvFrame_isSome (stream : List UInt8) : (recvFrame stream).isSome := by
  rw [← recvFrameLogged_snd]
  rcases recvFrameLogged_cases stream with ⟨events, e, heq, -⟩ |
    ⟨header, body, rest, f, -, -, -, -, heq⟩
  · rw [heq]
    rfl
  · rw [heq]
    rfl

/-- Receives a frame. -/
def receive (stream : List UInt8) : Except RecvError Frame :=
  (recvFrame stream).get (recvFrame_isSome stream)

lemma receive_eq_iff {stream : List UInt8} {result : Except RecvError Frame} :
    receive stream = result ↔ recvFrame stream = some result := by
  rw [receive, Option.eq_some_iff_get_eq]
  exact ⟨fun h => ⟨recvFrame_isSome stream, h⟩, fun ⟨_, h⟩ => h⟩

/-- A reader of frames that reads a message from a body and none from a part of it reads it from
what is received exactly if the body is within the limit. -/
lemma read_received {α : Type} {read : Frame → Option α} {f : Frame} (hf : f.WellFormed) {a : α}
    (hwhole : read f = some a)
    (hpart : ∀ front rest, f.body = front ++ rest → rest ≠ [] →
      read { f with body := front } = none) :
    (receive f.toBytes).toOption.bind read =
      if f.body.length ≤ MAX_FRAME_BODY then some a else none := by
  by_cases hshort : f.body.length ≤ MAX_FRAME_BODY
  · rw [if_pos hshort, receive_eq_iff.2 ((Frame.received_iff hf).2 hshort)]
    exact hwhole
  · rw [if_neg hshort]
    by_cases hdeclared : f.body.length % 2 ^ 32 ≤ MAX_FRAME_BODY
    · rw [receive_eq_iff.2 (Frame.recvFrame_toBytes hf hdeclared)]
      apply hpart (f.body.take (f.body.length % 2 ^ 32)) (f.body.drop (f.body.length % 2 ^ 32))
      · rw [List.take_append_drop]
      · intro hnil
        rw [List.drop_eq_nil_iff] at hnil
        omega
    · obtain ⟨e, he⟩ := Frame.recvFrame_toBytes_of_gt hf (not_le.1 hdeclared)
      rw [receive_eq_iff.2 he]
      rfl

/-- What a node makes of the stream of a request. -/
lemma Arrival.request_eq [RequestCodec] (a : Arrival) :
    a.request = (receive a.stream).toOption.bind decodeRequest := by
  obtain ⟨result, hresult⟩ := Option.isSome_iff_exists.1 (recvFrame_isSome a.stream)
  rw [Arrival.request, receive_eq_iff.2 hresult, hresult]
  cases result with
  | error e => rfl
  | ok frame => rfl

/-- The frame that a request goes out in. -/
def Request.frame (r : Request) (msgId : Vector UInt8 16) : Frame := .new r.msgType msgId r.toCbor

/-- The frame that an answer goes out in, with the ID of the request. -/
def Response.frame (r : Response) (msgId : Vector UInt8 16) : Frame := .new r.msgType msgId r.toCbor

/-- The answer in a stream. -/
def readResponse [ResponseCodec] (stream : List UInt8) : Option Response :=
  (receive stream).toOption.bind decodeResponse

section Codecs

variable [RequestCodec] [ResponseCodec] [LawfulCodecs]

/-- What is read of a request that was sent in a frame. -/
lemma Request.read_frame (r : Request) (hlen : r.toCbor.length < 2 ^ 64) (msgId : Vector UInt8 16) :
    (receive (r.frame msgId).toBytes).toOption.bind decodeRequest =
      if r.toCbor.length ≤ MAX_FRAME_BODY then some r else none := by
  apply read_received ⟨rfl, rfl⟩ (r.decode_whole hlen rfl rfl)
  intro front rest hparts hrest
  exact r.decode_part hlen rfl hparts hrest

/-- What is read of an answer that was sent in a frame. -/
lemma Response.read_frame (r : Response) (hlen : r.toCbor.length < 2 ^ 64)
    (msgId : Vector UInt8 16) :
    readResponse (r.frame msgId).toBytes =
      if r.toCbor.length ≤ MAX_FRAME_BODY then some r else none := by
  apply read_received ⟨rfl, rfl⟩ (r.decode_whole hlen rfl rfl)
  intro front rest hparts hrest
  exact r.decode_part hlen rfl hparts hrest

end Codecs

/-- Every message that is sent in a frame arrives whole, if its encoding is within the limit of the
receiver, and otherwise not at all: no other message is read from it. -/
theorem messages_whole_or_lost [RequestCodec] [ResponseCodec] [LawfulCodecs]
    (msgId : Vector UInt8 16) :
    (∀ r : Request, r.toCbor.length < 2 ^ 64 → ∀ peerIdentity clock,
      (Arrival.mk (r.frame msgId).toBytes peerIdentity clock).request =
        if r.toCbor.length ≤ MAX_FRAME_BODY then some r else none) ∧
      ∀ r : Response, r.toCbor.length < 2 ^ 64 →
        readResponse (r.frame msgId).toBytes =
          if r.toCbor.length ≤ MAX_FRAME_BODY then some r else none := by
  refine ⟨fun r hlen peerIdentity clock => ?_, fun r hlen => r.read_frame hlen msgId⟩
  rw [Arrival.request_eq]
  exact r.read_frame hlen msgId

/-- A PING of 4 GiB and 138 bytes, whose header declares 138 bytes, is lost; a short one is not. -/
theorem wrapping_ping_lost :
    letI : RequestCodec := wireRequests
    letI : ResponseCodec := wireResponses
    let arrival (n : ℕ) : Arrival := ⟨((Request.ping (longPing n)).frame (.replicate 16 0)).toBytes,
      some secondPublisher, 1700000000000000⟩
    (arrival (2 ^ 32)).request = none ∧ (arrival 14).request = some (.ping (longPing 14)) := by
  let _ : RequestCodec := wireRequests
  let _ : ResponseCodec := wireResponses
  have : LawfulCodecs := lawful_wire
  have hlength (n : ℕ) : (Request.ping (longPing n)).toCbor.length = 129 + (headLength n + n) :=
    length_longPing n
  obtain ⟨hread, -⟩ := messages_whole_or_lost (.replicate 16 0)
  constructor
  · rw [hread _ (by rw [hlength]; decide), hlength]
    exact if_neg (by decide)
  · rw [hread _ (by rw [hlength]; decide), hlength]
    exact if_pos (by decide)

end MeshProtocol
