import MeshProtocol.Core.Frame

/-!
# Receiving frames (`mesh-transport/src/connection.rs`)

A receive stream is the list of the bytes its sender wrote before finishing.  The limit on bodies is
checked where a frame is received, and only there.
-/

namespace MeshProtocol

open Bytes

/-- Maximum frame body size. -/
def MAX_FRAME_BODY : ℕ := 1048576

/-- The errors of receiving a frame. -/
inductive RecvError where
  /-- The stream ended before the bytes asked for. -/
  | readExact
  | frame (e : FrameError)
deriving DecidableEq, Repr

/-- `read_exact`: the next bytes of a stream, and the stream after them. -/
def readExact (n : ℕ) (stream : List UInt8) : Except RecvError (List UInt8 × List UInt8) :=
  if stream.length < n then .error .readExact else .ok (stream.splitAt n)

/-- The body length a header declares. -/
def declaredLength (header : List UInt8) : ℕ := beNat (header.drop 20)

/-- Receive a frame from a stream; `none` if the parser panics. -/
def recvFrame (stream : List UInt8) : Option (Except RecvError Frame) :=
  match readExact 24 stream with
  | .error e => some (.error e)
  | .ok (header, stream) =>
    let magic := UInt16.ofNat (beNat (header.take 2))
    if magic ≠ FRAME_MAGIC then some (.error (.frame (.invalidMagic magic)))
    else
      let version := header.getD 2 0
      if version ≠ PROTOCOL_VERSION then some (.error (.frame (.unsupportedVersion version)))
      else
        let bodyLen := declaredLength header
        if bodyLen > MAX_FRAME_BODY then
          some (.error (.frame (.frameBody ("body too large: " ++ toString bodyLen ++
            " bytes (max " ++ toString MAX_FRAME_BODY ++ ")"))))
        else
          match readExact bodyLen stream with
          | .error e => some (.error e)
          | .ok (body, _) =>
            (Frame.fromBytes (header ++ body)).map fun
              | .error e => .error (.frame e)
              | .ok frame => .ok frame

lemma readExact_append (front rest : List UInt8) :
    readExact front.length (front ++ rest) = .ok (front, rest) := by
  have hlong : ¬ (front ++ rest).length < front.length := by
    rw [List.length_append]
    omega
  rw [readExact, if_neg hlong, List.splitAt_eq, List.take_left, List.drop_left]

namespace Frame

/-- What was written is received. -/
def Received (f : Frame) : Prop := recvFrame f.toBytes = some (.ok f)

variable {f : Frame}

lemma readExact_toBytes (f : Frame) : readExact 24 f.toBytes = .ok (f.headerBytes, f.body) := by
  have h := readExact_append f.headerBytes f.body
  rwa [length_headerBytes] at h

lemma take_headerBytes (hf : f.WellFormed) :
    UInt16.ofNat (beNat (f.headerBytes.take 2)) = FRAME_MAGIC := by
  rw [headerBytes_eq, hf.magic]
  rfl

lemma getD_headerBytes (hf : f.WellFormed) : f.headerBytes.getD 2 0 = PROTOCOL_VERSION := by
  rw [headerBytes_eq, ← hf.version]
  rfl

lemma declaredLength_headerBytes (f : Frame) :
    declaredLength f.headerBytes = f.body.length % 2 ^ 32 := by
  have hfront :
      (beBytes 2 f.magic.toNat ++ [f.version, f.msgType] ++ f.msgId.toList).length = 20 := by
    simp
  have hdrop : f.headerBytes.drop 20 = beBytes 4 (f.body.length % 2 ^ 32) := by
    rw [headerBytes, ← hfront, List.drop_left]
  have hlt : f.body.length % 2 ^ 32 < 256 ^ 4 := Nat.mod_lt _ (by decide)
  rw [declaredLength, hdrop, beNat_beBytes_of_lt hlt]

/-- A frame whose length does not fit the `u32` of the header is cut off. -/
def cutOff (f : Frame) : Frame := { f with body := f.body.take (f.body.length % 2 ^ 32) }

lemma length_cutOff_body (f : Frame) : f.cutOff.body.length = f.body.length % 2 ^ 32 := by
  rw [cutOff, List.length_take, min_eq_left (Nat.mod_le _ _)]

lemma headerBytes_cutOff (f : Frame) : f.cutOff.headerBytes = f.headerBytes := by
  rw [headerBytes, headerBytes, length_cutOff_body, Nat.mod_mod]
  rfl

/-- What is received of a frame whose declared length is within the limit. -/
lemma recvFrame_toBytes (hf : f.WellFormed) (h : f.body.length % 2 ^ 32 ≤ MAX_FRAME_BODY) :
    recvFrame f.toBytes = some (.ok f.cutOff) := by
  have hbody : readExact (f.body.length % 2 ^ 32) f.body =
      .ok (f.cutOff.body, f.body.drop (f.body.length % 2 ^ 32)) := by
    rw [readExact, if_neg (not_lt.2 (Nat.mod_le _ _)), List.splitAt_eq]
    rfl
  have hcut : f.cutOff.WellFormed := ⟨hf.magic, hf.version⟩
  have hread := fromBytes_toBytes hcut
    (by rw [length_cutOff_body]; exact Nat.mod_lt _ (by decide)) []
  rw [List.append_nil, toBytes, headerBytes_cutOff] at hread
  rw [recvFrame, readExact_toBytes]
  simp only [take_headerBytes hf, getD_headerBytes hf, declaredLength_headerBytes, ne_eq, not_true,
    if_false, if_neg (not_lt.2 h), hbody, hread, Option.map_some]

/-- A frame that declares more than the limit is refused. -/
lemma recvFrame_toBytes_of_gt (hf : f.WellFormed) (h : MAX_FRAME_BODY < f.body.length % 2 ^ 32) :
    ∃ e, recvFrame f.toBytes = some (.error e) := by
  rw [recvFrame, readExact_toBytes]
  simp only [take_headerBytes hf, getD_headerBytes hf, declaredLength_headerBytes, ne_eq, not_true,
    if_false, if_pos h]
  exact ⟨_, rfl⟩

/-- What is received is what was written exactly if its body is within the limit. -/
theorem received_iff (hf : f.WellFormed) : f.Received ↔ f.body.length ≤ MAX_FRAME_BODY := by
  unfold Received
  by_cases hdeclared : f.body.length % 2 ^ 32 ≤ MAX_FRAME_BODY
  · rw [recvFrame_toBytes hf hdeclared]
    constructor
    · intro hsame
      have hcut : f.cutOff = f := Except.ok.inj (Option.some.inj hsame)
      rw [← length_cutOff_body, hcut] at hdeclared
      exact hdeclared
    · intro hshort
      have hfits : f.body.length < 2 ^ 32 := hshort.trans_lt (by decide)
      rw [cutOff, Nat.mod_eq_of_lt hfits, List.take_length]
  · obtain ⟨e, he⟩ := recvFrame_toBytes_of_gt hf (not_le.1 hdeclared)
    rw [he]
    constructor
    · rintro ⟨⟩
    · intro hshort
      exact absurd ((Nat.mod_le _ _).trans hshort) hdeclared

end Frame

end MeshProtocol
