import Mathlib.Data.List.OfFn
import Pockiva.Contracts
import Pockiva.Lib.LittleEndian

/-! # Frame packets

The runtime encodes a frame as a header and its pixels, and the page decodes it.  The
layout is written down twice, in the runtime's language (`Packet`) and in the page's
(`Client`); `frame_packet` states that the two agree.
-/
namespace Pockiva

/-- `Frame::new`. -/
def Frame.new (sequence : Nat) (rgba : List Byte) : Except CoreError Frame :=
  if h : rgba.length = frameRgbaLen then .ok ⟨sequence, fun i => rgba.get (i.cast h.symm)⟩
  else .error (.internalInvariant ("frame must contain " ++ toString frameRgbaLen
    ++ " RGBA bytes, received " ++ toString rgba.length))

/-- `rgba`, the pixels as a slice. -/
def Frame.pixels (frame : Frame) : List Byte := List.ofFn frame.rgba

/-! ## The runtime -/

namespace Packet

/-- `FRAME_HEADER_BYTE_LENGTH`. -/
def frameHeaderByteLength : Nat := 12

/-- `FRAME_RGBA_BYTE_LENGTH`. -/
def frameRgbaByteLength : Nat := screenWidth * screenHeight * 4

/-- `FRAME_PACKET_BYTE_LENGTH`. -/
def framePacketByteLength : Nat := frameHeaderByteLength + frameRgbaByteLength

/-- `encode_frame_packet`. -/
def encodeFramePacket (frame : Frame) : List Byte :=
  LittleEndian.encode 8 frame.sequence ++ LittleEndian.encode 2 screenWidth
    ++ LittleEndian.encode 2 screenHeight ++ frame.pixels

end Packet

/-! ## The page -/

namespace Client

/-- `SCREEN_WIDTH`. -/
def screenWidth : Nat := 160

/-- `SCREEN_HEIGHT`. -/
def screenHeight : Nat := 144

/-- `FRAME_HEADER_BYTE_LENGTH`. -/
def frameHeaderByteLength : Nat := 12

/-- `FRAME_RGBA_BYTE_LENGTH`. -/
def frameRgbaByteLength : Nat := 92160

/-- `FRAME_PACKET_BYTE_LENGTH`. -/
def framePacketByteLength : Nat := 92172

/-- `Number.MAX_SAFE_INTEGER`. -/
def maxSafeInteger : Nat := 2 ^ 53 - 1

/-- What the channel delivers. -/
inductive Payload where
  | arrayBuffer (bytes : List Byte)
  | other

inductive PacketError where
  | typeError (message : String)
  | rangeError (message : String)
deriving DecidableEq, Repr

structure FramePacket where
  sequence : Nat
  width : Nat
  height : Nat
  rgba : List Byte
deriving DecidableEq

/-- A `DataView` on some bytes: the unsigned number of some width at an offset. -/
def getUint (width : Nat) (bytes : List Byte) (offset : Nat) : Nat :=
  LittleEndian.decode ((bytes.drop offset).take width)

def decodeFramePacket : Payload → Except PacketError FramePacket
  | .other => .error (.typeError "frame packet must be an ArrayBuffer")
  | .arrayBuffer payload =>
    if payload.length ≠ framePacketByteLength then
      .error (.rangeError
        ("frame packet must contain " ++ toString framePacketByteLength ++ " bytes"))
    else
      let rawSequence := getUint 8 payload 0
      if maxSafeInteger < rawSequence then
        .error (.rangeError "frame sequence exceeds JavaScript safe integer range")
      else
        let width := getUint 2 payload 8
        if width ≠ screenWidth then
          .error (.rangeError ("frame width must be " ++ toString screenWidth ++ " pixels"))
        else
          let height := getUint 2 payload 10
          if height ≠ screenHeight then
            .error (.rangeError ("frame height must be " ++ toString screenHeight ++ " pixels"))
          else
            .ok ⟨rawSequence, width, height,
              (payload.drop frameHeaderByteLength).take frameRgbaByteLength⟩

end Client

/-! ## Frames -/

theorem ofFn_cast {n : Nat} {bytes : List Byte} (h : bytes.length = n) :
    List.ofFn (fun i : Fin n => bytes.get (i.cast h.symm)) = bytes := by
  subst h
  exact List.ofFn_get bytes

theorem get_ofFn_cast {n : Nat} (rgba : Fin n → Byte) (h : (List.ofFn rgba).length = n) :
    (fun i : Fin n => (List.ofFn rgba).get (i.cast h.symm)) = rgba := by
  funext i
  exact List.get_ofFn rgba _

/-- A frame is its number and its pixels, of which there are as many as it takes. -/
theorem Frame.new_eq_ok {sequence : Nat} {rgba : List Byte} {frame : Frame} :
    Frame.new sequence rgba = .ok frame ↔ frame.sequence = sequence ∧ frame.pixels = rgba := by
  constructor
  · intro h
    unfold Frame.new at h
    split at h
    · next hlength =>
      obtain rfl := Except.ok.inj h
      exact ⟨rfl, ofFn_cast hlength⟩
    · cases h
  · rintro ⟨rfl, rfl⟩
    have hlength : frame.pixels.length = frameRgbaLen := List.length_ofFn
    unfold Frame.new
    rw [dif_pos hlength]
    refine congrArg Except.ok ?_
    obtain ⟨sequence, rgba⟩ := frame
    exact congrArg (Frame.mk sequence) (get_ofFn_cast rgba hlength)

theorem Frame.length_pixels (frame : Frame) : frame.pixels.length = frameRgbaLen :=
  List.length_ofFn

/-- Pixels of the right number make a frame. -/
theorem Frame.exists_new (sequence : Nat) {rgba : List Byte} (h : rgba.length = frameRgbaLen) :
    ∃ frame, Frame.new sequence rgba = .ok frame := ⟨_, dif_pos h⟩

/-! ## The layout -/

namespace Client

/-- The bytes of a packet, by its fields. -/
def layout (sequence width height rgba : List Byte) : List Byte :=
  sequence ++ width ++ height ++ rgba

/-- **A packet is cut where the runtime put it together.** -/
theorem fields_layout {sequence width height : List Byte} (rgba : List Byte)
    (hsequence : sequence.length = 8) (hwidth : width.length = 2) (hheight : height.length = 2) :
    getUint 8 (layout sequence width height rgba) 0 = LittleEndian.decode sequence ∧
      getUint 2 (layout sequence width height rgba) 8 = LittleEndian.decode width ∧
      getUint 2 (layout sequence width height rgba) 10 = LittleEndian.decode height ∧
      (layout sequence width height rgba).drop 12 = rgba := by
  have hten : (sequence ++ width).length = 10 := by
    rw [List.length_append, hsequence, hwidth]
  have htwelve : (sequence ++ width ++ height).length = 12 := by
    rw [List.length_append, hten, hheight]
  unfold layout getUint
  refine ⟨?_, ?_, ?_, List.drop_left' htwelve⟩
  · rw [List.drop_zero, List.append_assoc, List.append_assoc, List.take_left' hsequence]
  · rw [List.append_assoc, List.append_assoc, List.drop_left' hsequence, List.take_left' hwidth]
  · rw [List.append_assoc, List.drop_left' hten, List.take_left' hheight]

/-- Every string that is long enough is laid out. -/
theorem exists_layout {bytes : List Byte} (h : 12 ≤ bytes.length) :
    ∃ sequence width height, sequence.length = 8 ∧ width.length = 2 ∧ height.length = 2 ∧
      bytes = layout sequence width height (bytes.drop 12) := by
  refine ⟨bytes.take 8, (bytes.drop 8).take 2, (bytes.drop 10).take 2, ?_, ?_, ?_, ?_⟩
  · rw [List.length_take]
    omega
  · rw [List.length_take, List.length_drop]
    omega
  · rw [List.length_take, List.length_drop]
    omega
  · unfold layout
    rw [List.append_assoc, List.append_assoc, ← List.drop_drop (i := 2) (j := 10),
      List.take_append_drop, ← List.drop_drop (i := 2) (j := 8), List.take_append_drop,
      List.take_append_drop]

/-- The pixels are what follows the header. -/
theorem take_rgba {bytes : List Byte} (h : bytes.length = framePacketByteLength) :
    (bytes.drop frameHeaderByteLength).take frameRgbaByteLength = bytes.drop 12 := by
  refine List.take_of_length_le ?_
  rw [List.length_drop, h]
  exact Nat.le_refl _

/-- When the page accepts a packet, and what it gets. -/
theorem decodeFramePacket_eq_ok {bytes : List Byte} {packet : FramePacket} :
    decodeFramePacket (.arrayBuffer bytes) = .ok packet ↔
      bytes.length = framePacketByteLength ∧ getUint 8 bytes 0 ≤ maxSafeInteger ∧
        getUint 2 bytes 8 = screenWidth ∧ getUint 2 bytes 10 = screenHeight ∧
        packet = ⟨getUint 8 bytes 0, screenWidth, screenHeight, bytes.drop 12⟩ := by
  unfold decodeFramePacket
  dsimp only
  constructor
  · intro h
    split at h
    · cases h
    next hlength =>
    split at h
    · cases h
    next hsequence =>
    split at h
    · cases h
    next hwidth =>
    split at h
    · cases h
    next hheight =>
    have hlength := not_not.mp hlength
    have hwidth := not_not.mp hwidth
    have hheight := not_not.mp hheight
    refine ⟨hlength, not_lt.mp hsequence, hwidth, hheight, ?_⟩
    rw [← Except.ok.inj h, hwidth, hheight, take_rgba hlength]
  · rintro ⟨hlength, hsequence, hwidth, hheight, rfl⟩
    rw [if_neg (not_not.mpr hlength), if_neg (not_lt.mpr hsequence), if_neg (not_not.mpr hwidth),
      if_neg (not_not.mpr hheight), hwidth, hheight, take_rgba hlength]

end Client

/-! ## The two layouts -/

/-- The runtime's packet is a header in the page's layout before the pixels. -/
theorem Packet.encodeFramePacket_eq_layout (frame : Frame) :
    encodeFramePacket frame = Client.layout (LittleEndian.encode 8 frame.sequence)
      (LittleEndian.encode 2 Client.screenWidth) (LittleEndian.encode 2 Client.screenHeight)
      frame.pixels := rfl

/-- Both sides have one length in mind. -/
theorem Packet.length_encodeFramePacket (frame : Frame) :
    (encodeFramePacket frame).length = Client.framePacketByteLength := by
  unfold encodeFramePacket
  rw [List.length_append, List.length_append, List.length_append, LittleEndian.length_encode,
    LittleEndian.length_encode, LittleEndian.length_encode, Frame.length_pixels]
  rfl

/-- The page decodes what the runtime encodes. -/
theorem decode_encodeFramePacket {frame : Frame} (h : frame.sequence ≤ Client.maxSafeInteger) :
    Client.decodeFramePacket (.arrayBuffer (Packet.encodeFramePacket frame)) =
      .ok ⟨frame.sequence, Client.screenWidth, Client.screenHeight, frame.pixels⟩ := by
  have hsafe : Client.maxSafeInteger < 256 ^ 8 := by decide
  have hwidth : Client.screenWidth < 256 ^ 2 := by decide
  have hheight : Client.screenHeight < 256 ^ 2 := by decide
  have hlength := Packet.length_encodeFramePacket frame
  rw [Packet.encodeFramePacket_eq_layout] at hlength ⊢
  obtain ⟨hs, hw, hh, hrgba⟩ := Client.fields_layout frame.pixels
    (LittleEndian.length_encode 8 frame.sequence)
    (LittleEndian.length_encode 2 Client.screenWidth)
    (LittleEndian.length_encode 2 Client.screenHeight)
  rw [LittleEndian.decode_encode (by omega)] at hs
  rw [LittleEndian.decode_encode hwidth] at hw
  rw [LittleEndian.decode_encode hheight] at hh
  refine Client.decodeFramePacket_eq_ok.mpr ⟨hlength, ?_, hw, hh, ?_⟩
  · rwa [hs]
  · rw [hs, hrgba]

/-- What the page accepts the runtime encodes. -/
theorem encode_decodeFramePacket {bytes : List Byte} {packet : Client.FramePacket}
    (h : Client.decodeFramePacket (.arrayBuffer bytes) = .ok packet) :
    packet.sequence ≤ Client.maxSafeInteger ∧
      ∃ frame, Frame.new packet.sequence packet.rgba = .ok frame ∧
        Packet.encodeFramePacket frame = bytes := by
  obtain ⟨hlength, hsequence, hw, hh, rfl⟩ := Client.decodeFramePacket_eq_ok.mp h
  refine ⟨hsequence, ?_⟩
  have hheader : 12 ≤ bytes.length := by
    rw [hlength]
    decide
  obtain ⟨sequence, width, height, hs8, hw2, hh2, hbytes⟩ := Client.exists_layout hheader
  obtain ⟨hs, hw', hh', -⟩ := Client.fields_layout (bytes.drop 12) hs8 hw2 hh2
  rw [← hbytes] at hs hw' hh'
  have hrgba : (bytes.drop 12).length = frameRgbaLen := by
    rw [List.length_drop, hlength]
    rfl
  obtain ⟨frame, hframe⟩ := Frame.exists_new (Client.getUint 8 bytes 0) hrgba
  refine ⟨frame, hframe, ?_⟩
  obtain ⟨hnumber, hpixels⟩ := Frame.new_eq_ok.mp hframe
  -- each field of the header is the encoding of the number read from it
  have hsequence' : LittleEndian.encode 8 frame.sequence = sequence := by
    rw [hnumber, hs, LittleEndian.encode_decode hs8]
  have hwidth' : LittleEndian.encode 2 Client.screenWidth = width := by
    rw [← hw, hw', LittleEndian.encode_decode hw2]
  have hheight' : LittleEndian.encode 2 Client.screenHeight = height := by
    rw [← hh, hh', LittleEndian.encode_decode hh2]
  rw [Packet.encodeFramePacket_eq_layout, hsequence', hwidth', hheight', hpixels, ← hbytes]

/-- What two codecs written apart owe each other. -/
structure PacketLaw : Prop where
  /-- The page gets a frame's number, its size and its pixels. -/
  decode_encode : ∀ {sequence : Nat} {rgba : List Byte} {frame : Frame},
    Frame.new sequence rgba = .ok frame → sequence ≤ 2 ^ 53 - 1 →
      Client.decodeFramePacket (.arrayBuffer (Packet.encodeFramePacket frame)) =
        .ok ⟨sequence, 160, 144, rgba⟩
  /-- The page accepts the encodings of such frames and nothing else. -/
  accepts : ∀ payload, (∃ packet, Client.decodeFramePacket payload = .ok packet) ↔
    ∃ sequence rgba frame, Frame.new sequence rgba = .ok frame ∧ sequence ≤ 2 ^ 53 - 1 ∧
      payload = .arrayBuffer (Packet.encodeFramePacket frame)
  /-- What it returns makes the frame whose encoding it was given. -/
  encode_decode : ∀ {bytes : List Byte} {packet : Client.FramePacket},
    Client.decodeFramePacket (.arrayBuffer bytes) = .ok packet →
      packet.width = 160 ∧ packet.height = 144 ∧
        ∃ frame, Frame.new packet.sequence packet.rgba = .ok frame ∧
          Packet.encodeFramePacket frame = bytes
  /-- Every packet has the length that both sides assert. -/
  length : ∀ frame, (Packet.encodeFramePacket frame).length = Packet.framePacketByteLength ∧
    Packet.framePacketByteLength = Client.framePacketByteLength

/-- **The runtime's frame packets and the page's are one format.** -/
theorem frame_packet : PacketLaw where
  decode_encode := by
    intro sequence rgba frame hframe hsequence
    obtain ⟨rfl, rfl⟩ := Frame.new_eq_ok.mp hframe
    exact decode_encodeFramePacket hsequence
  accepts := by
    intro payload
    constructor
    · rintro ⟨packet, hpacket⟩
      cases payload with
      | other => cases hpacket
      | arrayBuffer bytes =>
        obtain ⟨hsequence, frame, hframe, hbytes⟩ := encode_decodeFramePacket hpacket
        exact ⟨packet.sequence, packet.rgba, frame, hframe, hsequence, by rw [hbytes]⟩
    · rintro ⟨sequence, rgba, frame, hframe, hsequence, rfl⟩
      obtain ⟨rfl, rfl⟩ := Frame.new_eq_ok.mp hframe
      exact ⟨_, decode_encodeFramePacket hsequence⟩
  encode_decode := by
    intro bytes packet hpacket
    obtain ⟨-, -, -, -, rfl⟩ := Client.decodeFramePacket_eq_ok.mp hpacket
    obtain ⟨-, hframe⟩ := encode_decodeFramePacket hpacket
    exact ⟨rfl, rfl, hframe⟩
  length := fun frame => ⟨Packet.length_encodeFramePacket frame, rfl⟩

end Pockiva
