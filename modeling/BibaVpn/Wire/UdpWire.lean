/-
# The datagram messages

A datagram crosses three framings: the SOCKS5 one between the application and the client, and the
two control messages `UDP_REQ` and `UDP_REP` (`protocol.rs`) between client and server.  All three
carry the destination as `ATYP | address | port`, and between decoding one and encoding the next the
host is a TEXT: an address is printed and read again, so a name that happens to read as an address
is sent on as one.

* §1 is what the code leaves to the standard library: reading and printing addresses, and the lossy
  reading of UTF-8 (`Platform`);
* §2 are the messages;
* §3 is a platform that can be evaluated.
-/
import BibaVpn.Lib.Text
import BibaVpn.Wire.Control

namespace BibaVpn.Wire

open Machine

/-! ## 1. Addresses as texts -/

/-- The characters of an address literal. -/
def addressChars : Text := "0123456789abcdefABCDEF:.".toList

/-- What every text that reads as an address looks like. -/
def AddressText (s : Text) : Prop := (∀ c ∈ s, c ∈ addressChars) ∧ s.getLast? ≠ some '.'

/-- The functions of the standard library. -/
structure Platform where
  parseV4 : Text → Option Bytes
  parseV6 : Text → Option Bytes
  showV4 : Bytes → Text
  showV6 : Bytes → Text
  fromUtf8Lossy : Bytes → Text
  address_v4 : ∀ s octets, parseV4 s = some octets → AddressText s
  address_v6 : ∀ s octets, parseV6 s = some octets → AddressText s

/-- `s.parse::<IpAddr>()`. -/
def Platform.parseIp (P : Platform) (s : Text) : Option IpAddr :=
  match P.parseV4 s with
  | some octets => some (.v4 octets)
  | none => (P.parseV6 s).map .v6

theorem Platform.address_of_parseIp {P : Platform} {s : Text} {ip : IpAddr}
    (h : P.parseIp s = some ip) : AddressText s := by
  unfold parseIp at h
  split at h
  · exact P.address_v4 s _ ‹_›
  · obtain ⟨octets, h6, -⟩ := Option.map_eq_some_iff.mp h
    exact P.address_v6 s octets h6

/-- The text that `decode_atyp_host_port` returns for a host. -/
def Host.toText (P : Platform) : Host → Text
  | .v4 octets => P.showV4 octets
  | .domain name => name.toList
  | .v6 octets => P.showV6 octets

/-- `encode_atyp_host_port`. -/
def encodeAtypHostPort (P : Platform) (host : Text) (port : Nat) : Except String Bytes :=
  match P.parseV4 host with
  | some octets => .ok (1 :: octets ++ toBe 2 port)
  | none =>
    match P.parseV6 host with
    | some octets => .ok (4 :: octets ++ toBe 2 port)
    | none =>
      if Text.len host > 255 then .error "host too long"
      else .ok (3 :: UInt8.ofNat (Text.len host) :: Text.toUtf8 host ++ toBe 2 port)

/-! ## 2. The messages -/

/-- `MAX_UDP_PAYLOAD`. -/
def maxUdpPayload : Nat := 60 * 1024

/-- `V3_CTRL_UDP_REQ`. -/
def v3CtrlUdpReq : UInt8 := 0x05

/-- `V3_CTRL_UDP_REP`. -/
def v3CtrlUdpRep : UInt8 := 0x06

/-- A datagram behind `tag`, its number and its address: what both messages are. -/
def encodeDatagram (tag : UInt8) (P : Platform) (xid : Nat) (host : Text) (port : Nat)
    (payload : Bytes) : Except String Bytes :=
  if payload.length > maxUdpPayload then .error "UDP payload too large"
  else (encodeAtypHostPort P host port).map fun addr => tag :: toBe 8 xid ++ addr ++ payload

/-- `encode_udp_req`. -/
def encodeUdpReq (P : Platform) (xid : Nat) (host : Text) (port : Nat) (payload : Bytes) :
    Except String Bytes :=
  encodeDatagram v3CtrlUdpReq P xid host port payload

/-- `encode_udp_rep`. -/
def encodeUdpRep (P : Platform) (xid : Nat) (srcHost : Text) (srcPort : Nat) (payload : Bytes) :
    Except String Bytes :=
  encodeDatagram v3CtrlUdpRep P xid srcHost srcPort payload

/-- The reader of a datagram behind `tag`: number, host, port and payload. -/
def decodeDatagram (tag : UInt8) (badOpcode short tooLarge : String) (P : Platform) (data : Bytes) :
    Except String (Nat × Text × Nat × Bytes) :=
  match data with
  | [] => .error badOpcode
  | t :: body =>
    if t ≠ tag then .error badOpcode
    else if body.length < 8 then .error short
    else
      let rest := body.drop 8
      match decodeAtypHostPort rest with
      | .error e => .error e
      | .ok (host, port, addrLen) =>
        if (rest.drop addrLen).length > maxUdpPayload then .error tooLarge
        else .ok (fromBe (body.take 8), host.toText P, port, rest.drop addrLen)

/-- `decode_udp_req`. -/
def decodeUdpReq (P : Platform) (data : Bytes) : Except String (Nat × Text × Nat × Bytes) :=
  decodeDatagram v3CtrlUdpReq "bad udp req opcode" "short udp req" "udp req payload too large"
    P data

/-- What a `UDP_REP` says: the request it answers, the source of the datagram, and its bytes. -/
structure UdpRep where
  xid : Nat
  host : Text
  port : Nat
  payload : Bytes
  deriving DecidableEq, Repr

/-- `decode_udp_rep`. -/
def decodeUdpRep (P : Platform) (data : Bytes) : Except String UdpRep :=
  (decodeDatagram v3CtrlUdpRep "bad udp rep opcode" "short udp rep" "udp rep payload too large" P
    data).map fun (xid, host, port, payload) => ⟨xid, host, port, payload⟩

/-- `build_socks5_udp_datagram`. -/
def buildSocks5UdpDatagram (P : Platform) (destHost : Text) (destPort : Nat) (payload : Bytes) :
    Except String Bytes :=
  (encodeAtypHostPort P destHost destPort).map fun addr => 0 :: 0 :: 0 :: addr ++ payload

/-- `parse_socks5_udp_datagram`: host, port and payload. -/
def parseSocks5UdpDatagram (P : Platform) (data : Bytes) : Except String (Text × Nat × Bytes) :=
  match data with
  | r0 :: r1 :: frag :: atyp :: addr =>
    if r0 ≠ 0 || r1 ≠ 0 then .error "bad RSV"
    else if frag ≠ 0 then .error "UDP fragment not supported"
    else (decodeAtypHostPort (atyp :: addr)).map fun (host, port, n) =>
      (host.toText P, port, (atyp :: addr).drop n)
  | _ => .error "short socks udp"

/-- `encode_mux_open_target`. -/
def encodeMuxOpenTarget (P : Platform) (host : Text) (port : Nat) : Except String Bytes :=
  encodeAtypHostPort P host port

/-! ## 3. A platform to evaluate -/

/-- One octet in decimal: at most three digits, no leading zero, at most 255. -/
def parseOctet (s : Text) : Option UInt8 :=
  if s ≠ [] ∧ s.length ≤ 3 ∧ (s.all Char.isDigit) ∧ (s.length = 1 ∨ s.head? ≠ some '0') then
    let n := s.foldl (fun n c => n * 10 + (c.toNat - 48)) 0
    if n ≤ 255 then some (UInt8.ofNat n) else none
  else none

/-- Four octets with points between them. -/
def parseDotted (s : Text) : Option Bytes :=
  match s.splitOn '.' with
  | [a, b, c, d] => do some [← parseOctet a, ← parseOctet b, ← parseOctet c, ← parseOctet d]
  | _ => none

theorem parseOctet_eq_some {s : Text} {o : UInt8} (h : parseOctet s = some o) :
    s ≠ [] ∧ ∀ c ∈ s, c.isDigit = true := by
  unfold parseOctet at h
  split at h
  · rename_i hs
    exact ⟨hs.1, List.all_eq_true.mp hs.2.2.1⟩
  · cases h

theorem mem_addressChars_of_isDigit {c : Char} (h : c.isDigit = true) :
    c ∈ addressChars ∧ c ≠ '.' := by
  simp only [Char.isDigit, Bool.and_eq_true, decide_eq_true_eq] at h
  have hlo : 48 ≤ c.toNat := h.1
  have hhi : c.toNat ≤ 57 := h.2
  have hc : c = Char.ofNat c.toNat := (Char.ofNat_toNat c).symm
  generalize c.toNat = n at hc hlo hhi
  subst hc
  have : ∀ n : Fin 10, Char.ofNat (48 + n) ∈ addressChars ∧ Char.ofNat (48 + n) ≠ '.' := by decide
  obtain ⟨k, rfl⟩ : ∃ k, n = 48 + k := ⟨n - 48, by omega⟩
  exact this ⟨k, by omega⟩

theorem address_of_parseDotted (s : Text) (octets : Bytes) (h : parseDotted s = some octets) :
    AddressText s := by
  unfold parseDotted at h
  split at h
  · rename_i a b c d hsplit
    simp only [Option.bind_eq_bind, Option.bind_eq_some_iff] at h
    obtain ⟨oa, ha, ob, hb, oc, hc, od, hd, -⟩ := h
    have hs : s = a ++ '.' :: (b ++ '.' :: (c ++ '.' :: d)) := by
      have hjoin : ['.'].intercalate (s.splitOn '.') = s := List.intercalate_splitOn '.'
      rw [hsplit] at hjoin
      simpa [List.intercalate] using hjoin.symm
    obtain ⟨hne, hdig⟩ := parseOctet_eq_some hd
    have hdot : '.' ∈ addressChars := by decide
    refine ⟨fun x hx => ?_, ?_⟩
    · rw [hs] at hx
      simp only [List.mem_append, List.mem_cons] at hx
      rcases hx with hx | rfl | hx | rfl | hx | rfl | hx
      · exact (mem_addressChars_of_isDigit ((parseOctet_eq_some ha).2 x hx)).1
      · exact hdot
      · exact (mem_addressChars_of_isDigit ((parseOctet_eq_some hb).2 x hx)).1
      · exact hdot
      · exact (mem_addressChars_of_isDigit ((parseOctet_eq_some hc).2 x hx)).1
      · exact hdot
      · exact (mem_addressChars_of_isDigit (hdig x hx)).1
    · obtain ⟨init, last, rfl⟩ : ∃ init last, d = init ++ [last] :=
        ⟨d.dropLast, d.getLast hne, (List.dropLast_append_getLast hne).symm⟩
      have hlast : s = (a ++ '.' :: (b ++ '.' :: (c ++ '.' :: init))) ++ [last] := by simp [hs]
      rw [hlast, List.getLast?_concat]
      intro heq
      exact (mem_addressChars_of_isDigit (hdig last (by simp))).2 (Option.some.inj heq)
  · cases h

/-- Dotted IPv4 addresses, no IPv6, and Latin-1 for every byte string. -/
def Platform.ascii : Platform where
  parseV4 := parseDotted
  parseV6 _ := none
  showV4 octets := List.intercalate ['.'] (octets.map fun o => (Nat.repr o.toNat).toList)
  showV6 _ := []
  fromUtf8Lossy bs := bs.map fun b => Char.ofNat b.toNat
  address_v4 := address_of_parseDotted
  address_v6 _ _ h := nomatch h

end BibaVpn.Wire
