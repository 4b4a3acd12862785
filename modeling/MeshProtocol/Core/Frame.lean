import MeshProtocol.Library.Bytes
import Mathlib.Data.UInt

/-!
# Frames (`mesh-core/src/frame.rs`)

The binary envelope around a message body: 24 bytes of header, then the body.  `fromBytes` indexes
its input, so it is `Option`-valued, with `none` for an index out of bounds.
-/

namespace MeshProtocol

open Bytes

/-- Frame magic bytes: "MH". -/
def FRAME_MAGIC : UInt16 := 0x4D48

/-- Current protocol version. -/
def PROTOCOL_VERSION : UInt8 := 0x01

/-! ## Message types -/

def MSG_PING : UInt8 := 0x01
def MSG_PONG : UInt8 := 0x81
def MSG_STORE : UInt8 := 0x02
def MSG_STORE_ACK : UInt8 := 0x82
def MSG_FIND_NODE : UInt8 := 0x03
def MSG_FIND_NODE_RESULT : UInt8 := 0x83
def MSG_FIND_VALUE : UInt8 := 0x04
def MSG_FIND_VALUE_RESULT : UInt8 := 0x84

/-! ## Frames -/

/-- The errors of frames among those of `error.rs`. -/
inductive FrameError where
  | invalidMagic (magic : UInt16)
  | unsupportedVersion (version : UInt8)
  | frameBody (reason : String)
deriving DecidableEq, Repr

/-- A wire protocol frame. -/
structure Frame where
  magic : UInt16
  version : UInt8
  msgType : UInt8
  /-- Request ID for correlation. -/
  msgId : Vector UInt8 16
  body : List UInt8
deriving DecidableEq

namespace Frame

/-- A new frame; the source draws the ID at random. -/
def new (msgType : UInt8) (msgId : Vector UInt8 16) (body : List UInt8) : Frame :=
  ⟨FRAME_MAGIC, PROTOCOL_VERSION, msgType, msgId, body⟩

/-- A response frame, with the ID of the request. -/
def response (request : Frame) (msgType : UInt8) (body : List UInt8) : Frame :=
  ⟨FRAME_MAGIC, PROTOCOL_VERSION, msgType, request.msgId, body⟩

/-- The header: magic, version, type, ID, and the length of the body as a `u32`. -/
def headerBytes (f : Frame) : List UInt8 :=
  beBytes 2 f.magic.toNat ++ [f.version, f.msgType] ++ f.msgId.toList ++
    beBytes 4 (f.body.length % 2 ^ 32)

/-- Serialize the frame to bytes. -/
def toBytes (f : Frame) : List UInt8 := f.headerBytes ++ f.body

/-- `&data[lo..hi]`. -/
def slice (data : List UInt8) (lo hi : ℕ) : Option (List UInt8) :=
  if lo ≤ hi ∧ hi ≤ data.length then some ((data.take hi).drop lo) else none

/-- Deserialize a frame from bytes. -/
def fromBytes (data : List UInt8) : Option (Except FrameError Frame) :=
  if data.length < 24 then
    some (.error (.frameBody ("frame too short: " ++ toString data.length ++
      " bytes (need at least 24)")))
  else do
    let m₀ ← data[0]?
    let m₁ ← data[1]?
    let magic := UInt16.ofNat (beNat [m₀, m₁])
    if magic ≠ FRAME_MAGIC then return .error (.invalidMagic magic)
    let version ← data[2]?
    if version ≠ PROTOCOL_VERSION then return .error (.unsupportedVersion version)
    let msgType ← data[3]?
    let msgId ← slice data 4 20
    let lengthBytes ← slice data 20 24
    let bodyLen := beNat lengthBytes
    if data.length < 24 + bodyLen then
      return .error (.frameBody ("frame body truncated: expected " ++ toString bodyLen ++
        " bytes, got " ++ toString (data.length - 24)))
    let body ← slice data 24 (24 + bodyLen)
    -- `copy_from_slice` panics if the lengths differ
    if h : msgId.length = 16 then
      return .ok ⟨magic, version, msgType, ⟨msgId.toArray, by simpa using h⟩, body⟩
    else none

/-- The frame has the magic and the version of the protocol. -/
structure WellFormed (f : Frame) : Prop where
  magic : f.magic = FRAME_MAGIC
  version : f.version = PROTOCOL_VERSION

lemma wellFormed_response (request : Frame) (msgType : UInt8) (body : List UInt8) :
    (request.response msgType body).WellFormed := ⟨rfl, rfl⟩

/-! ## Reading back a frame -/

lemma slice_append (before middle after : List UInt8) :
    slice (before ++ middle ++ after) before.length (before.length + middle.length) =
      some middle := by
  have hbound : before.length ≤ before.length + middle.length ∧
      before.length + middle.length ≤ (before ++ middle ++ after).length := by
    rw [List.length_append, List.length_append]
    omega
  have htake : (before ++ middle ++ after).take (before.length + middle.length) =
      before ++ middle := by
    rw [← List.length_append, List.take_left]
  rw [slice, if_pos hbound, htake, List.drop_left]

@[simp] lemma length_headerBytes (f : Frame) : f.headerBytes.length = 24 := by
  simp [headerBytes]

@[simp] lemma length_toBytes (f : Frame) : f.toBytes.length = 24 + f.body.length := by
  rw [toBytes, List.length_append, length_headerBytes]

lemma beBytes_two (n : ℕ) : beBytes 2 n = [UInt8.ofNat (n / 256), UInt8.ofNat n] := by
  rfl

/-- The first bytes of a frame, one by one. -/
lemma headerBytes_eq (f : Frame) :
    f.headerBytes = UInt8.ofNat (f.magic.toNat / 256) :: UInt8.ofNat f.magic.toNat :: f.version ::
      f.msgType :: (f.msgId.toList ++ beBytes 4 (f.body.length % 2 ^ 32)) := by
  rw [headerBytes, beBytes_two]
  rfl

/-- A written frame is read back, and what follows it is left alone. -/
theorem fromBytes_toBytes {f : Frame} (hf : f.WellFormed) (hlen : f.body.length < 2 ^ 32)
    (rest : List UInt8) : fromBytes (f.toBytes ++ rest) = some (.ok f) := by
  have hshort : ¬ (f.toBytes ++ rest).length < 24 := by
    rw [List.length_append, length_toBytes]
    omega
  have hid : slice (f.toBytes ++ rest) 4 20 = some f.msgId.toList := by
    have h := slice_append (beBytes 2 f.magic.toNat ++ [f.version, f.msgType]) f.msgId.toList
      (beBytes 4 (f.body.length % 2 ^ 32) ++ f.body ++ rest)
    simpa [toBytes, headerBytes] using h
  have hcount : slice (f.toBytes ++ rest) 20 24 = some (beBytes 4 f.body.length) := by
    have h := slice_append (beBytes 2 f.magic.toNat ++ [f.version, f.msgType] ++ f.msgId.toList)
      (beBytes 4 f.body.length) (f.body ++ rest)
    rw [toBytes, headerBytes, Nat.mod_eq_of_lt hlen]
    simpa using h
  have hbody : slice (f.toBytes ++ rest) 24 (24 + f.body.length) = some f.body := by
    have h := slice_append f.headerBytes f.body rest
    rwa [length_headerBytes] at h
  have hwhole : ¬ (f.toBytes ++ rest).length < 24 + f.body.length := by
    rw [List.length_append, length_toBytes]
    omega
  have hbytes : beNat (beBytes 4 f.body.length) = f.body.length :=
    beNat_beBytes_of_lt (by omega)
  obtain ⟨hmagic, hversion⟩ := hf
  have hfirst : (f.toBytes ++ rest)[0]? = some (UInt8.ofNat (f.magic.toNat / 256)) ∧
      (f.toBytes ++ rest)[1]? = some (UInt8.ofNat f.magic.toNat) ∧
      (f.toBytes ++ rest)[2]? = some f.version ∧ (f.toBytes ++ rest)[3]? = some f.msgType := by
    rw [toBytes, headerBytes_eq]
    exact ⟨rfl, rfl, rfl, rfl⟩
  obtain ⟨h₀, h₁, h₂, h₃⟩ := hfirst
  have hread : UInt16.ofNat (beNat [UInt8.ofNat (f.magic.toNat / 256), UInt8.ofNat f.magic.toNat]) =
      FRAME_MAGIC := by
    rw [hmagic]
    decide
  rw [fromBytes, if_neg hshort, h₀, h₁, h₂, h₃, hid, hcount]
  simp only [Option.bind_eq_bind, Option.bind_some, hread, hversion, hbytes, if_neg hwhole, hbody,
    ne_eq, not_true, if_false, Vector.length_toList, dif_pos]
  rw [← hmagic, ← hversion]
  rfl

/-! ## Reading any bytes -/

/-- A header of 24 bytes in its fields. -/
lemma exists_header {data : List UInt8} (h : 24 ≤ data.length) :
    ∃ m₀ m₁ version msgType msgId lengthBytes rest,
      data = m₀ :: m₁ :: version :: msgType :: (msgId ++ lengthBytes ++ rest) ∧
        msgId.length = 16 ∧ lengthBytes.length = 4 := by
  match data, h with
  | m₀ :: m₁ :: version :: msgType :: tail, h =>
    have htail : 20 ≤ tail.length := by simpa using h
    refine ⟨m₀, m₁, version, msgType, tail.take 16, (tail.drop 16).take 4, tail.drop 20, ?_, ?_, ?_⟩
    · have hdrop : tail.drop 20 = (tail.drop 16).drop 4 := by rw [List.drop_drop]
      rw [List.append_assoc, hdrop, List.take_append_drop, List.take_append_drop]
    · rw [List.length_take]
      omega
    · rw [List.length_take, List.length_drop]
      omega

/-- What is read from a whole header. -/
lemma fromBytes_header {m₀ m₁ version msgType : UInt8} {msgId lengthBytes rest : List UInt8}
    (hid : msgId.length = 16) (hcount : lengthBytes.length = 4) :
    fromBytes (m₀ :: m₁ :: version :: msgType :: (msgId ++ lengthBytes ++ rest)) = some (
      if UInt16.ofNat (beNat [m₀, m₁]) ≠ FRAME_MAGIC then
        .error (.invalidMagic (UInt16.ofNat (beNat [m₀, m₁])))
      else if version ≠ PROTOCOL_VERSION then .error (.unsupportedVersion version)
      else if rest.length < beNat lengthBytes then
        .error (.frameBody ("frame body truncated: expected " ++ toString (beNat lengthBytes) ++
          " bytes, got " ++ toString rest.length))
      else .ok ⟨UInt16.ofNat (beNat [m₀, m₁]), version, msgType,
        ⟨msgId.toArray, by simpa using hid⟩, rest.take (beNat lengthBytes)⟩) := by
  set data := m₀ :: m₁ :: version :: msgType :: (msgId ++ lengthBytes ++ rest) with hdata
  have hsize : data.length = 24 + rest.length := by
    simp only [hdata, List.length_cons, List.length_append, hid, hcount]
    omega
  have hshort : ¬ data.length < 24 := by omega
  have hids : slice data 4 20 = some msgId := by
    have h := slice_append [m₀, m₁, version, msgType] msgId (lengthBytes ++ rest)
    simpa [hid, hdata] using h
  have hcounts : slice data 20 24 = some lengthBytes := by
    have h := slice_append ([m₀, m₁, version, msgType] ++ msgId) lengthBytes rest
    simpa [hid, hcount, hdata] using h
  have hwhole : data.length < 24 + beNat lengthBytes ↔ rest.length < beNat lengthBytes := by
    omega
  have hafter : data.length - 24 = rest.length := by omega
  rw [fromBytes, if_neg hshort]
  simp only [show data[0]? = some m₀ from rfl, show data[1]? = some m₁ from rfl,
    show data[2]? = some version from rfl, show data[3]? = some msgType from rfl, hids, hcounts,
    Option.bind_eq_bind, Option.bind_some, hwhole, hafter]
  split_ifs with hmagic hversion hlen
  · rfl
  · rfl
  · rfl
  · have hbody : slice data 24 (24 + beNat lengthBytes) = some (rest.take (beNat lengthBytes)) := by
      have h := slice_append ([m₀, m₁, version, msgType] ++ msgId ++ lengthBytes)
        (rest.take (beNat lengthBytes)) (rest.drop (beNat lengthBytes))
      have htake : (rest.take (beNat lengthBytes)).length = beNat lengthBytes := by
        rw [List.length_take]
        omega
      simpa [hid, hcount, hdata, htake] using h
    rw [hbody]
    rfl

lemma fromBytes_isSome (data : List UInt8) : (fromBytes data).isSome := by
  by_cases hshort : data.length < 24
  · rw [fromBytes, if_pos hshort]
    rfl
  · obtain ⟨m₀, m₁, version, msgType, msgId, lengthBytes, rest, rfl, hid, hcount⟩ :=
      exists_header (not_lt.1 hshort)
    rw [fromBytes_header hid hcount]
    rfl

lemma beBytes_toNat_of_beNat (m₀ m₁ : UInt8) :
    beBytes 2 (UInt16.ofNat (beNat [m₀, m₁])).toNat = [m₀, m₁] := by
  have hlt : beNat [m₀, m₁] < UInt16.size := by
    have h := beNat_lt [m₀, m₁]
    simpa using h
  rw [UInt16.toNat_ofNat_of_lt' hlt]
  exact beBytes_beNat [m₀, m₁]

/-- What is read from bytes is well formed, fits its length field, and was written there. -/
lemma wellFormed_of_fromBytes {data : List UInt8} {f : Frame} (h : fromBytes data = some (.ok f)) :
    f.WellFormed ∧ f.body.length < 2 ^ 32 ∧ f.toBytes <+: data := by
  by_cases hshort : data.length < 24
  · rw [fromBytes, if_pos hshort] at h
    cases h
  obtain ⟨m₀, m₁, version, msgType, msgId, lengthBytes, rest, rfl, hid, hcount⟩ :=
    exists_header (not_lt.1 hshort)
  rw [fromBytes_header hid hcount] at h
  have hok := Option.some.inj h
  split_ifs at hok with hmagic hversion hlen
  obtain rfl := Except.ok.inj hok
  rw [not_not] at hmagic hversion
  have hbody : (rest.take (beNat lengthBytes)).length = beNat lengthBytes := by
    rw [List.length_take]
    omega
  have hfits : beNat lengthBytes < 2 ^ 32 := by
    have h := beNat_lt lengthBytes
    rwa [hcount] at h
  have hwritten : beBytes 4 (beNat lengthBytes) = lengthBytes := by
    have h := beBytes_beNat lengthBytes
    rwa [hcount] at h
  refine ⟨⟨hmagic, hversion⟩, by rwa [hbody], rest.drop (beNat lengthBytes), ?_⟩
  simp only [toBytes, headerBytes, hbody, Nat.mod_eq_of_lt hfits, hwritten, beBytes_toNat_of_beNat]
  simp

/-- Reading never leaves the input, and reads exactly the well-formed frames whose bytes the input
starts with; every other input is an error. -/
theorem fromBytes_eq_ok_iff (data : List UInt8) (f : Frame) :
    (fromBytes data).isSome ∧ (fromBytes data = some (.ok f) ↔
      f.WellFormed ∧ f.body.length < 2 ^ 32 ∧ f.toBytes <+: data) := by
  refine ⟨fromBytes_isSome data, wellFormed_of_fromBytes, ?_⟩
  rintro ⟨hf, hlen, rest, rfl⟩
  exact fromBytes_toBytes hf hlen rest

end Frame

end MeshProtocol
