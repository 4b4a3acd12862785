import MeshProtocol.Transport.Connection

/-!
# The receiver and the parser agree

`recv_frame` checks the magic, the version and the length of a header before it reads a body, and
then has `Frame::from_bytes` check them again on header and body together.  On every stream it
returns the frame that the parser reads from the whole stream, if the length that the header
declares is within the limit, and no frame otherwise (`recvFrame_agrees`).  What it allocates and
what it hands to the parser are the events of `recvFrameLogged`.
-/

namespace MeshProtocol

open Bytes

/-- What receiving a frame does besides reading. -/
inductive RecvEvent where
  /-- `vec![0u8; body_len]`. -/
  | allocateBody (length : ℕ)
  /-- `Frame::from_bytes(&full)`. -/
  | parse (full : List UInt8)

/-- `recvFrame`, with its events. -/
def recvFrameLogged (stream : List UInt8) : List RecvEvent × Option (Except RecvError Frame) :=
  match readExact 24 stream with
  | .error e => ([], some (.error e))
  | .ok (header, stream) =>
    let magic := UInt16.ofNat (beNat (header.take 2))
    if magic ≠ FRAME_MAGIC then ([], some (.error (.frame (.invalidMagic magic))))
    else
      let version := header.getD 2 0
      if version ≠ PROTOCOL_VERSION then ([], some (.error (.frame (.unsupportedVersion version))))
      else
        let bodyLen := declaredLength header
        if bodyLen > MAX_FRAME_BODY then
          ([], some (.error (.frame (.frameBody ("body too large: " ++ toString bodyLen ++
            " bytes (max " ++ toString MAX_FRAME_BODY ++ ")")))))
        else
          match readExact bodyLen stream with
          | .error e => ([.allocateBody bodyLen], some (.error e))
          | .ok (body, _) =>
            let full := header ++ body
            ([.allocateBody bodyLen, .parse full], (Frame.fromBytes full).map fun
              | .error e => .error (.frame e)
              | .ok frame => .ok frame)

/-- A body buffer is within the limit, and the parser accepts what it is handed. -/
def RecvEvent.Safe : RecvEvent → Prop
  | .allocateBody length => length ≤ MAX_FRAME_BODY
  | .parse full => ∃ f, Frame.fromBytes full = some (.ok f)

lemma recvFrameLogged_snd (stream : List UInt8) :
    (recvFrameLogged stream).2 = recvFrame stream := by
  unfold recvFrameLogged recvFrame
  cases readExact 24 stream with
  | error e => rfl
  | ok parts =>
    dsimp only
    split_ifs
    · rfl
    · rfl
    · rfl
    · cases readExact (declaredLength parts.1) parts.2 with
      | error e => rfl
      | ok body => rfl

/-! ## What the receiver hands to the parser -/

lemma readExact_ok {n : ℕ} {stream front rest : List UInt8}
    (h : readExact n stream = .ok (front, rest)) : stream = front ++ rest ∧ front.length = n := by
  unfold readExact at h
  split_ifs at h with hshort
  rw [List.splitAt_eq] at h
  obtain ⟨rfl, rfl⟩ := Prod.mk.inj (Except.ok.inj h)
  refine ⟨(List.take_append_drop n stream).symm, ?_⟩
  rw [List.length_take]
  omega

/-- A header that passes the checks, and as many bytes as it declares, are a frame. -/
lemma parses_of_header {header body : List UInt8} (hlen : header.length = 24)
    (hmagic : UInt16.ofNat (beNat (header.take 2)) = FRAME_MAGIC)
    (hversion : header.getD 2 0 = PROTOCOL_VERSION) (hbody : body.length = declaredLength header) :
    ∃ f, Frame.fromBytes (header ++ body) = some (.ok f) := by
  obtain ⟨m₀, m₁, version, msgType, msgId, lengthBytes, rest, rfl, hid, hcount⟩ :=
    Frame.exists_header hlen.ge
  have hrest : rest = [] := by
    simp only [List.length_cons, List.length_append, hid, hcount] at hlen
    exact List.eq_nil_of_length_eq_zero (by omega)
  subst hrest
  have hdeclared : declaredLength (m₀ :: m₁ :: version :: msgType :: (msgId ++ lengthBytes ++ [])) =
      beNat lengthBytes := by
    have hdrop : (msgId ++ lengthBytes).drop 16 = lengthBytes := List.drop_left' hid
    rw [List.append_nil]
    exact congrArg beNat hdrop
  have hread : Frame.fromBytes
      (m₀ :: m₁ :: version :: msgType :: (msgId ++ lengthBytes ++ body)) = _ :=
    Frame.fromBytes_header hid hcount
  change UInt16.ofNat (beNat [m₀, m₁]) = FRAME_MAGIC at hmagic
  change version = PROTOCOL_VERSION at hversion
  rw [hdeclared] at hbody
  rw [if_neg (not_not.2 hmagic), if_neg (not_not.2 hversion), if_neg (not_lt.2 hbody.ge)] at hread
  rw [List.append_nil]
  exact ⟨_, hread⟩

/-- The receiver fails, having allocated no more than the limit, or it hands the parser the
header of the stream with the body that the header declares, which is a frame. -/
lemma recvFrameLogged_cases (stream : List UInt8) :
    (∃ events e, recvFrameLogged stream = (events, some (.error e)) ∧
        ∀ event ∈ events, event.Safe) ∨
      ∃ header body rest f, stream = header ++ (body ++ rest) ∧ header.length = 24 ∧
        declaredLength header ≤ MAX_FRAME_BODY ∧
        Frame.fromBytes (header ++ body) = some (.ok f) ∧
        recvFrameLogged stream = ([.allocateBody (declaredLength header), .parse (header ++ body)],
          some (.ok f)) := by
  unfold recvFrameLogged
  cases hheader : readExact 24 stream with
  | error e => exact .inl ⟨[], e, rfl, by simp⟩
  | ok parts =>
    obtain ⟨header, tail⟩ := parts
    obtain ⟨rfl, hlen⟩ := readExact_ok hheader
    dsimp only
    split_ifs with hmagic hversion hlimit
    · exact .inl ⟨[], _, rfl, by simp⟩
    · exact .inl ⟨[], _, rfl, by simp⟩
    · exact .inl ⟨[], _, rfl, by simp⟩
    · rw [not_not] at hmagic hversion
      rw [gt_iff_lt, not_lt] at hlimit
      cases hread : readExact (declaredLength header) tail with
      | error e => exact .inl ⟨_, e, rfl, by simpa [RecvEvent.Safe] using hlimit⟩
      | ok parts =>
        obtain ⟨body, rest⟩ := parts
        obtain ⟨rfl, hbody⟩ := readExact_ok hread
        obtain ⟨f, hf⟩ := parses_of_header hlen hmagic hversion hbody
        refine .inr ⟨header, body, rest, f, rfl, hlen, hlimit, hf, ?_⟩
        dsimp only
        rw [hf]
        rfl

/-- A frame at the start of a stream is received, if its body is within the limit. -/
lemma recvFrame_toBytes_append {f : Frame} (hf : f.WellFormed)
    (h : f.body.length ≤ MAX_FRAME_BODY) (rest : List UInt8) :
    recvFrame (f.toBytes ++ rest) = some (.ok f) := by
  have hfits : f.body.length < 2 ^ 32 := h.trans_lt (by decide)
  have hheader : readExact 24 (f.toBytes ++ rest) = .ok (f.headerBytes, f.body ++ rest) := by
    have hread := readExact_append f.headerBytes (f.body ++ rest)
    rwa [Frame.length_headerBytes, ← List.append_assoc] at hread
  have hparse : Frame.fromBytes (f.headerBytes ++ f.body) = some (.ok f) := by
    have hread := Frame.fromBytes_toBytes hf hfits []
    rwa [List.append_nil] at hread
  rw [recvFrame, hheader]
  simp only [Frame.take_headerBytes hf, Frame.getD_headerBytes hf,
    Frame.declaredLength_headerBytes, Nat.mod_eq_of_lt hfits, ne_eq, not_true_eq_false, if_false,
    if_neg (not_lt.2 h), readExact_append, hparse, Option.map_some]

/-- On every stream the receiver and the parser agree: the receiver returns the frame that the
parser reads from the whole stream, if the header declares a length within the limit, and none
otherwise.  Every body buffer it allocates is within the limit, and the parser accepts what it is
handed. -/
theorem recvFrame_agrees (stream : List UInt8) :
    (∀ f, recvFrame stream = some (.ok f) ↔ Frame.fromBytes stream = some (.ok f) ∧
      declaredLength (stream.take 24) ≤ MAX_FRAME_BODY) ∧
      (recvFrameLogged stream).2 = recvFrame stream ∧
      ∀ event ∈ (recvFrameLogged stream).1, event.Safe := by
  refine ⟨fun f => ⟨fun hrecv => ?_, fun ⟨hparse, hlimit⟩ => ?_⟩, recvFrameLogged_snd stream, ?_⟩
  · rw [← recvFrameLogged_snd] at hrecv
    rcases recvFrameLogged_cases stream with
      ⟨events, e, heq, -⟩ | ⟨header, body, rest, f', rfl, hlen, hlimit, hf', heq⟩
    · rw [heq] at hrecv
      cases hrecv
    · rw [heq] at hrecv
      obtain rfl := Except.ok.inj (Option.some.inj hrecv)
      obtain ⟨hwell, hfits, hwritten⟩ := Frame.wellFormed_of_fromBytes hf'
      rw [List.take_left' hlen]
      refine ⟨((Frame.fromBytes_eq_ok_iff _ _).2).2 ⟨hwell, hfits, ?_⟩, hlimit⟩
      rw [← List.append_assoc]
      exact hwritten.trans (List.prefix_append _ _)
  · obtain ⟨hwell, hfits, rest, rfl⟩ := Frame.wellFormed_of_fromBytes hparse
    apply recvFrame_toBytes_append hwell
    rw [Frame.toBytes, List.append_assoc, List.take_left' (Frame.length_headerBytes f),
      Frame.declaredLength_headerBytes, Nat.mod_eq_of_lt hfits] at hlimit
    exact hlimit
  · rcases recvFrameLogged_cases stream with
      ⟨events, e, heq, hsafe⟩ | ⟨header, body, rest, f, rfl, -, hlimit, hf, heq⟩
    · rw [heq]
      exact hsafe
    · rw [heq]
      intro event hevent
      rcases List.mem_cons.1 hevent with rfl | hevent
      · exact hlimit
      · obtain rfl := List.mem_singleton.1 hevent
        exact ⟨f, hf⟩

end MeshProtocol
