/-
# Control messages

The plaintext control language of a session (`protocol.rs`): the v3 messages, which travel
inside padded, sealed frames, and the legacy `OPEN` results, which the dedicated bridge still
recognises on the raw WebSocket binary.  Length-prefixed texts share one decoder
(`decodeU16Text`); each message keeps its own tag, order of tests and error texts.
-/
import BibaVpn.Lib.Machine

namespace BibaVpn.Wire

open Machine

/-! ## 1. Texts -/

/-- `s.as_bytes()`. -/
def utf8Bytes (s : String) : Bytes := s.toUTF8.toList

/-- `std::str::from_utf8(..)?.to_string()`. -/
def fromUtf8 (bs : Bytes) : Except String String :=
  match String.fromUTF8? ⟨bs.toArray⟩ with
  | some s => .ok s
  | none => .error "invalid utf-8 sequence"

/-- A text behind its two length bytes, which has to fill `body` exactly. -/
def decodeU16Text (truncated trailing : String) (hi lo : UInt8) (body : Bytes) :
    Except String String :=
  let len := fromBe16 hi lo
  if body.length < len then .error truncated
  else if body.length ≠ len then .error trailing
  else fromUtf8 (body.take len)

/-- `tag` followed by a text with its length, if the length fits two bytes. -/
def encodeU16Text (tooLong : String) (tag : Bytes) (text : String) : Except String Bytes :=
  let t := utf8Bytes text
  if t.length > 0xffff then .error tooLong else .ok (tag ++ toBe 2 t.length ++ t)

/-! ## 2. The legacy `OPEN` results -/

/-- `OPEN_OK_MAGIC`. -/
def openOkMagic : Bytes := [0x42, 0x49, 0x42, 0x41, 0x01, 0x4F, 0x50, 0x4F, 0x4B, 0x00]

/-- `OPEN_ERR_MAGIC`. -/
def openErrMagic : Bytes := [0x42, 0x49, 0x42, 0x41, 0x01, 0x4F, 0x50, 0x45, 0x52, 0x00]

/-- `is_open_ok`. -/
def isOpenOk (data : Bytes) : Bool := data == openOkMagic

/-- `decode_open_err`. -/
def decodeOpenErr (data : Bytes) : Except String String :=
  if data.length < openErrMagic.length + 2 then .error "short open error frame"
  else if !openErrMagic.isPrefixOf data then .error "not an open error frame"
  else match data.drop openErrMagic.length with
    | hi :: lo :: body =>
      decodeU16Text "truncated open error" "trailing bytes in open error" hi lo body
    | _ => .error "short open error frame"

/-! ## 3. The v3 control messages -/

/-- `V3_CTRL_AUTH`. -/
def v3CtrlAuth : UInt8 := 0x01

/-- `V3_CTRL_OPEN`. -/
def v3CtrlOpen : UInt8 := 0x02

/-- `V3_CTRL_UDP_MUX`. -/
def v3CtrlUdpMux : UInt8 := 0x03

/-- `V3_CTRL_MUX`. -/
def v3CtrlMux : UInt8 := 0x04

/-- `V3_CTRL_OPEN_OK`. -/
def v3CtrlOpenOk : UInt8 := 0x10

/-- `V3_CTRL_OPEN_ERR`. -/
def v3CtrlOpenErr : UInt8 := 0x11

/-- `OPEN_EXT_V1`. -/
def openExtV1 : UInt8 := 1

/-- `encode_v3_auth`. -/
def encodeV3Auth (token : String) : Except String Bytes :=
  encodeU16Text "token too long" [v3CtrlAuth] token

/-- `decode_v3_auth`. -/
def decodeV3Auth (data : Bytes) : Except String String :=
  match data with
  | [] => .error "not v3 auth"
  | tag :: rest =>
    if tag ≠ v3CtrlAuth then .error "not v3 auth"
    else match rest with
      | hi :: lo :: body =>
        decodeU16Text "truncated v3 auth" "trailing bytes in v3 auth" hi lo body
      | _ => .error "short v3 auth"

/-- `decode_v3_open_with_flags`: host, port and flags. -/
def decodeV3OpenWithFlags (data : Bytes) : Except String (String × Nat × UInt8) :=
  match data with
  | [] => .error "not v3 open"
  | tag :: rest =>
    if tag ≠ v3CtrlOpen then .error "not v3 open"
    else if data.length < 1 + 2 + 2 then .error "short v3 open"
    else match rest with
      | hi :: lo :: body =>
        let hostLen := fromBe16 hi lo
        if body.length < hostLen then .error "host slice"
        else
          (fromUtf8 (body.take hostLen)).bind fun host =>
            match body.drop hostLen with
            | p1 :: p0 :: ext =>
              match ext with
              | [] => .ok (host, fromBe16 p1 p0, 0)
              | [e, flags] =>
                if e = openExtV1 then .ok (host, fromBe16 p1 p0, flags)
                else .error "trailing bytes in v3 open"
              | _ => .error "trailing bytes in v3 open"
            | _ => .error "missing port"
      | _ => .error "short v3 open"

/-- `decode_v3_open`. -/
def decodeV3Open (data : Bytes) : Except String (String × Nat) :=
  (decodeV3OpenWithFlags data).map fun (host, port, _) => (host, port)

/-- `encode_v3_open_with_flags`. -/
def encodeV3OpenWithFlags (host : String) (port : Nat) (flags : UInt8) : Except String Bytes :=
  let h := utf8Bytes host
  if h.length > 0xffff then .error "host too long"
  else .ok (v3CtrlOpen :: toBe 2 h.length ++ h ++ toBe 2 port ++ [openExtV1, flags])

/-- `encode_v3_open`. -/
def encodeV3Open (host : String) (port : Nat) : Except String Bytes :=
  encodeV3OpenWithFlags host port 0

/-- `encode_v3_udp_mux_open`. -/
def encodeV3UdpMuxOpen : Bytes := [v3CtrlUdpMux]

/-- `encode_v3_mux_open`. -/
def encodeV3MuxOpen : Bytes := [v3CtrlMux]

/-- `is_v3_udp_mux_open`. -/
def isV3UdpMuxOpen (data : Bytes) : Bool := data == [v3CtrlUdpMux]

/-- `is_v3_mux_open`. -/
def isV3MuxOpen (data : Bytes) : Bool := data == [v3CtrlMux]

/-- `V3FirstChannelKind`. -/
inductive V3FirstChannelKind
  | tcpOpen (host : String) (port : Nat) (flags : UInt8)
  | udpMux
  | mux
  | notChannelOpen
  deriving DecidableEq, Repr

/-- `classify_v3_first_channel`. -/
def classifyV3FirstChannel (data : Bytes) : V3FirstChannelKind :=
  match decodeV3OpenWithFlags data with
  | .ok (host, port, flags) => .tcpOpen host port flags
  | .error _ =>
    if isV3UdpMuxOpen data then .udpMux
    else if isV3MuxOpen data then .mux
    else .notChannelOpen

/-- `encode_v3_open_ok`. -/
def encodeV3OpenOk : Bytes := [v3CtrlOpenOk]

/-- `is_v3_open_ok`. -/
def isV3OpenOk (data : Bytes) : Bool := data == [v3CtrlOpenOk]

/-- `encode_v3_open_err`. -/
def encodeV3OpenErr (reason : String) : Except String Bytes :=
  encodeU16Text "open error too long" [v3CtrlOpenErr] reason

/-- `decode_v3_open_err`. -/
def decodeV3OpenErr (data : Bytes) : Except String String :=
  match data with
  | tag :: hi :: lo :: body =>
    if tag ≠ v3CtrlOpenErr then .error "not v3 open err"
    else decodeU16Text "truncated v3 open err" "trailing bytes in v3 open err" hi lo body
  | _ => .error "not v3 open err"

/-! ## 4. Addresses -/

/-- The host of an address: octets, or a name. -/
inductive Host
  | v4 (octets : Bytes)
  | domain (name : String)
  | v6 (octets : Bytes)
  deriving DecidableEq, Repr

/-- `decode_atyp_host_port`: host, port, and the length of both. -/
def decodeAtypHostPort : Bytes → Except String (Host × Nat × Nat)
  | [] => .error "empty addr"
  | atyp :: rest =>
    if atyp = 1 then
      if rest.length < 4 + 2 then .error "short ipv4"
      else .ok (.v4 (rest.take 4), fromBe ((rest.drop 4).take 2), 1 + 4 + 2)
    else if atyp = 3 then
      match rest with
      | [] => .error "short domain"
      | l :: rest =>
        if rest.length < l.toNat + 2 then .error "short domain host"
        else do
          let name ← fromUtf8 (rest.take l.toNat)
          .ok (.domain name, fromBe ((rest.drop l.toNat).take 2), 2 + l.toNat + 2)
    else if atyp = 4 then
      if rest.length < 16 + 2 then .error "short ipv6"
      else .ok (.v6 (rest.take 16), fromBe ((rest.drop 16).take 2), 17 + 2)
    else .error s!"bad ATYP {atyp.toNat}"

/-- `decode_mux_open_target`. -/
def decodeMuxOpenTarget (payload : Bytes) : Except String (Host × Nat) := do
  let (host, port, n) ← decodeAtypHostPort payload
  if n ≠ payload.length then .error "trailing junk in mux open target" else .ok (host, port)

/-! ## 5. Legacy results and sealed packets cannot be confused -/

/-- A byte string that starts with a zero byte is neither legacy result. -/
theorem not_legacy_result (rest : Bytes) :
    isOpenOk (0 :: rest) = false ∧ ∀ e, decodeOpenErr (0 :: rest) ≠ .ok e := by
  constructor
  · simp [isOpenOk, openOkMagic]
  · intro e h
    unfold decodeOpenErr at h
    split at h
    · cases h
    · simp [openErrMagic, List.isPrefixOf] at h

end BibaVpn.Wire
