/-
# Addresses, and the messages that carry them

`UDP_REQ`, `UDP_REP`, the SOCKS5 datagram and the target of a mux `OPEN` carry a host and a port as
`ATYP | address | port`, and what follows is not delimited: the reader has to stop at the right
byte.  A host is a text on both sides.  The encoder writes a text that reads as an address in
octets, whatever its spelling; the decoder prints octets in one spelling.  So a host comes back as
its CANONICAL text.

* §1 is the grammar of an address.  `decodeAtypHostPort_eq_ok` says that the reader accepts exactly
  its strings, each followed by anything, and stops where the address ends;
* §2 is the canonical text, under the one assumption about the standard library that is needed: what
  it prints for an address reads as that address (`Platform.Lawful`);
* §3 is the four messages as codecs, each faithful up to the canonical text;
* §4 is the code as it indexes its slices, which never leaves them;
* §5 is a platform that can be evaluated, and §6 puts it together.  A name that is spelled like an
  address but not in the canonical way is changed by a second trip (`respelled_on_second_trip`).
-/
import BibaVpn.Lib.Codec
import BibaVpn.Lib.Fallible
import BibaVpn.Lib.Slice
import BibaVpn.Wire.UdpWire

namespace BibaVpn.Wire

open Machine Fallible

/-! ## 1. The grammar of an address -/

/-- **A text is read from exactly its own bytes.** -/
theorem fromUtf8_eq_ok {bs : Bytes} {s : String} : fromUtf8 bs = .ok s ↔ bs = utf8Bytes s := by
  have hbytes : utf8Bytes s = s.toByteArray.data.toList := Text.byteArray_toList _
  rw [hbytes, fromUtf8, String.fromUTF8?]
  constructor
  · intro h
    split at h
    · rename_i t ht
      split at ht
      · cases ht
        cases h
        rfl
      · cases ht
    · cases h
  · rintro rfl
    have hvalid : (⟨s.toByteArray.data.toList.toArray⟩ : ByteArray).IsValidUTF8 := s.isValidUTF8
    rw [dif_pos hvalid]
    rfl

theorem utf8Bytes_ofList (t : Text) : utf8Bytes (String.ofList t) = Text.toUtf8 t := by
  have hbytes : utf8Bytes (String.ofList t) = (String.ofList t).toByteArray.data.toList :=
    Text.byteArray_toList _
  rw [hbytes, String.toByteArray_ofList, List.utf8Encode, List.toList_data_toByteArray]
  rfl

/-- The bytes of a host: its type and its address. -/
def Host.bytes : Host → Bytes
  | .v4 octets => 1 :: octets
  | .domain name => 3 :: UInt8.ofNat (utf8Bytes name).length :: utf8Bytes name
  | .v6 octets => 4 :: octets

/-- The hosts that there are: addresses of four or sixteen octets, names of at most 255 bytes. -/
def Host.WellFormed : Host → Prop
  | .v4 octets => octets.length = 4
  | .domain name => (utf8Bytes name).length ≤ 255
  | .v6 octets => octets.length = 16

/-- A host and a port. -/
def addrBytes (host : Host) (port : Nat) : Bytes := host.bytes ++ toBe 2 port

theorem length_addrBytes (host : Host) (port : Nat) :
    (addrBytes host port).length = host.bytes.length + 2 := by
  rw [addrBytes, List.length_append, length_toBe]

variable {octets : Bytes} {n port : Nat} {s : Text}

/-- An address and what follows it, taken apart. -/
theorem drop_addr (hn : octets.length = n) (port : Nat) (rest : Bytes) :
    (octets ++ toBe 2 port ++ rest).take n = octets ∧
      ((octets ++ toBe 2 port ++ rest).drop n).take 2 = toBe 2 port := by
  subst hn
  rw [List.append_assoc]
  refine ⟨List.take_left, ?_⟩
  rw [List.drop_left]
  exact List.take_left' (length_toBe 2 port)

theorem fromBe_port (h : port < 2 ^ 16) : fromBe (toBe 2 port) = port := fromBe_toBe h

/-- Every address of the grammar is read, up to its last byte. -/
theorem decodeAtypHostPort_addrBytes {host : Host} (hh : host.WellFormed) (hp : port < 2 ^ 16)
    (rest : Bytes) :
    decodeAtypHostPort (addrBytes host port ++ rest) =
      .ok (host, port, (addrBytes host port).length) := by
  cases host with
  | v4 octets =>
    obtain ⟨htake, hdrop⟩ := drop_addr hh port rest
    have hlen : ¬ (octets ++ toBe 2 port ++ rest).length < 4 + 2 := by
      simp only [List.length_append, length_toBe, Host.WellFormed] at hh ⊢
      omega
    have hn : (addrBytes (.v4 octets) port).length = 1 + 4 + 2 := by
      rw [length_addrBytes, Host.bytes, List.length_cons, hh]
    rw [hn]
    simp only [addrBytes, Host.bytes, List.cons_append, decodeAtypHostPort, if_true, if_neg hlen,
      htake, hdrop, fromBe_port hp]
  | v6 octets =>
    obtain ⟨htake, hdrop⟩ := drop_addr hh port rest
    have hlen : ¬ (octets ++ toBe 2 port ++ rest).length < 16 + 2 := by
      simp only [List.length_append, length_toBe, Host.WellFormed] at hh ⊢
      omega
    have hn : (addrBytes (.v6 octets) port).length = 17 + 2 := by
      rw [length_addrBytes, Host.bytes, List.length_cons, hh]
    have h1 : ¬ (4 : UInt8) = 1 := by decide
    have h3 : ¬ (4 : UInt8) = 3 := by decide
    rw [hn]
    simp only [addrBytes, Host.bytes, List.cons_append, decodeAtypHostPort, if_neg h1, if_neg h3,
      if_true, if_neg hlen, htake, hdrop, fromBe_port hp]
  | domain name =>
    simp only [Host.WellFormed] at hh
    have hl : (UInt8.ofNat (utf8Bytes name).length).toNat = (utf8Bytes name).length := by
      rw [UInt8.toNat_ofNat']
      exact Nat.mod_eq_of_lt (by omega)
    obtain ⟨htake, hdrop⟩ := drop_addr (rfl : (utf8Bytes name).length = _) port rest
    have hlen : ¬ (utf8Bytes name ++ toBe 2 port ++ rest).length < (utf8Bytes name).length + 2 := by
      simp only [List.length_append, length_toBe]
      omega
    have hn : (addrBytes (.domain name) port).length = 2 + (utf8Bytes name).length + 2 := by
      rw [length_addrBytes, Host.bytes, List.length_cons, List.length_cons]
      omega
    have h1 : ¬ (3 : UInt8) = 1 := by decide
    rw [hn]
    simp only [addrBytes, Host.bytes, List.cons_append, decodeAtypHostPort, if_neg h1, if_true, hl,
      if_neg hlen, htake, hdrop, fromBe_port hp, fromUtf8_eq_ok.mpr rfl]
    rfl

/-- Octets and a port, put together again from what was read. -/
theorem addr_split {rest : Bytes} (h : ¬ rest.length < n + 2) :
    rest = rest.take n ++ toBe 2 (fromBe ((rest.drop n).take 2)) ++ rest.drop (n + 2) := by
  have htwo : ((rest.drop n).take 2).length = 2 := by
    rw [List.length_take, List.length_drop]
    omega
  have hbe : toBe 2 (fromBe ((rest.drop n).take 2)) = (rest.drop n).take 2 := by
    have := toBe_fromBe ((rest.drop n).take 2)
    rwa [htwo] at this
  rw [hbe, List.append_assoc, ← List.drop_drop, List.take_append_drop, List.take_append_drop]

theorem fromBe_two_lt {rest : Bytes} : fromBe ((rest.drop n).take 2) < 2 ^ 16 := by
  refine Nat.lt_of_lt_of_le (fromBe_lt _) ?_
  refine Nat.le_trans (Nat.pow_le_pow_right (by decide) (List.length_take_le 2 _)) ?_
  decide

/-- **The reader accepts exactly the addresses of the grammar, followed by anything.** -/
theorem decodeAtypHostPort_eq_ok {data : Bytes} {host : Host} :
    decodeAtypHostPort data = .ok (host, port, n) ↔
      host.WellFormed ∧ port < 2 ^ 16 ∧ n = (addrBytes host port).length ∧
        ∃ rest, data = addrBytes host port ++ rest := by
  constructor
  · intro h
    cases data with
    | nil => cases h
    | cons atyp rest =>
      simp only [decodeAtypHostPort] at h
      split at h
      · rename_i hatyp
        split at h
        · cases h
        · rename_i hlen
          cases h
          have hsplit := addr_split hlen
          refine ⟨by simp only [Host.WellFormed, List.length_take]; omega, fromBe_two_lt, ?_,
            rest.drop (4 + 2), ?_⟩
          · rw [length_addrBytes, Host.bytes, List.length_cons, List.length_take]
            omega
          · rw [addrBytes, Host.bytes, hatyp, List.cons_append, List.cons_append, ← hsplit]
      · split at h
        · rename_i hatyp
          split at h
          · cases h
          · rename_i l rest
            split at h
            · cases h
            · rename_i hlen
              obtain ⟨name, hname, hok⟩ := bind_eq_ok.mp h
              cases hok
              have hbytes := fromUtf8_eq_ok.mp hname
              have hl : (utf8Bytes name).length = l.toNat := by
                rw [← hbytes, List.length_take]
                omega
              have hsplit := addr_split hlen
              have hlt := l.toNat_lt
              refine ⟨by simp only [Host.WellFormed, hl]; omega, fromBe_two_lt, ?_,
                rest.drop (l.toNat + 2), ?_⟩
              · rw [length_addrBytes, Host.bytes, List.length_cons, List.length_cons, hl]
                omega
              · rw [hbytes] at hsplit
                rw [addrBytes, Host.bytes, hatyp, hl, UInt8.ofNat_toNat, List.cons_append,
                  List.cons_append, List.cons_append, List.cons_append, ← hsplit]
        · split at h
          · rename_i hatyp
            split at h
            · cases h
            · rename_i hlen
              cases h
              have hsplit := addr_split hlen
              refine ⟨by simp only [Host.WellFormed, List.length_take]; omega, fromBe_two_lt, ?_,
                rest.drop (16 + 2), ?_⟩
              · rw [length_addrBytes, Host.bytes, List.length_cons, List.length_take]
                omega
              · rw [addrBytes, Host.bytes, hatyp, List.cons_append, List.cons_append, ← hsplit]
          · cases h
  · rintro ⟨hh, hp, rfl, rest, rfl⟩
    exact decodeAtypHostPort_addrBytes hh hp rest

/-! ## 2. The canonical text of a host -/

/-- `octets()` of a parsed address has four or sixteen bytes. -/
structure Platform.Sized (P : Platform) : Prop where
  octets_v4 : ∀ {s octets}, P.parseV4 s = some octets → octets.length = 4
  octets_v6 : ∀ {s octets}, P.parseV6 s = some octets → octets.length = 16

/-- **What is assumed of the standard library**: the text that is printed for an address is parsed
as that address. -/
structure Platform.Lawful (P : Platform) : Prop extends P.Sized where
  parse_showV4 : ∀ {octets : Bytes}, octets.length = 4 →
    P.parseIp (P.showV4 octets) = some (.v4 octets)
  parse_showV6 : ∀ {octets : Bytes}, octets.length = 16 →
    P.parseIp (P.showV6 octets) = some (.v6 octets)

/-- The canonical text of a host: of the address that it reads as, or the host itself. -/
def Platform.canonical (P : Platform) (host : Text) : Text :=
  match P.parseIp host with
  | some (.v4 octets) => P.showV4 octets
  | some (.v6 octets) => P.showV6 octets
  | none => host

/-- What `encode_atyp_host_port` takes a text for. -/
def Platform.hostOf (P : Platform) (host : Text) : Host :=
  match P.parseIp host with
  | some (.v4 octets) => .v4 octets
  | some (.v6 octets) => .v6 octets
  | none => .domain (String.ofList host)

section Canonical

variable {P : Platform}

theorem toText_hostOf (P : Platform) (host : Text) :
    (P.hostOf host).toText P = P.canonical host := by
  unfold Platform.hostOf Platform.canonical
  split
  · rfl
  · rfl
  · exact String.toList_ofList

/-- **What the encoder writes**, and when: only a name can be too long. -/
theorem encodeAtypHostPort_eq_ok (hP : P.Lawful) {host : Text} {port : Nat} {bytes : Bytes} :
    encodeAtypHostPort P host port = .ok bytes ↔
      (P.hostOf host).WellFormed ∧ bytes = addrBytes (P.hostOf host) port := by
  unfold encodeAtypHostPort Platform.hostOf Platform.parseIp
  cases h4 : P.parseV4 host with
  | some octets =>
    have hlen : (Host.v4 octets).WellFormed := hP.octets_v4 h4
    simp only [Except.ok.injEq, hlen, true_and]
    exact eq_comm
  | none =>
    cases h6 : P.parseV6 host with
    | some octets =>
      have hlen : (Host.v6 octets).WellFormed := hP.octets_v6 h6
      simp only [Option.map_some, Except.ok.injEq, hlen, true_and]
      exact eq_comm
    | none =>
      simp only [Option.map_none, Host.WellFormed, addrBytes, Host.bytes, utf8Bytes_ofList]
      by_cases hlong : Text.len host > 255
      · simp only [if_pos hlong, reduceCtorEq, false_iff, not_and]
        intro hle
        exact absurd hle (Nat.not_le.mpr hlong)
      · simp only [if_neg hlong, Except.ok.injEq]
        exact ⟨fun h => ⟨Nat.not_lt.mp hlong, h.symm⟩, fun h => h.2.symm⟩

/-- The text that the decoder returns for a host can be encoded again. -/
theorem wellFormed_hostOf_toText (hP : P.Lawful) {host : Host} (h : host.WellFormed) :
    (P.hostOf (host.toText P)).WellFormed := by
  unfold Platform.hostOf
  cases host with
  | v4 octets => rw [Host.toText, hP.parse_showV4 h]; exact h
  | v6 octets => rw [Host.toText, hP.parse_showV6 h]; exact h
  | domain name =>
    rw [Host.toText]
    unfold Platform.parseIp
    cases h4 : P.parseV4 name.toList with
    | some octets => exact hP.octets_v4 h4
    | none =>
      cases h6 : P.parseV6 name.toList with
      | some octets => exact hP.octets_v6 h6
      | none => simpa only [Option.map_none, String.ofList_toList] using h

/-- The canonical text reads as what the text reads as. -/
theorem canonical_canonical (hP : P.Lawful) (host : Text) :
    P.canonical (P.canonical host) = P.canonical host := by
  unfold Platform.canonical
  cases h : P.parseIp host with
  | none => simp only [h]
  | some ip =>
    have hlen : ∃ octets, (ip = .v4 octets ∧ octets.length = 4) ∨
        (ip = .v6 octets ∧ octets.length = 16) := by
      unfold Platform.parseIp at h
      split at h
      · rename_i octets h4
        exact ⟨octets, .inl ⟨(Option.some.inj h).symm, hP.octets_v4 h4⟩⟩
      · obtain ⟨octets, h6, rfl⟩ := Option.map_eq_some_iff.mp h
        exact ⟨octets, .inr ⟨rfl, hP.octets_v6 h6⟩⟩
    obtain ⟨octets, ⟨rfl, hlen⟩ | ⟨rfl, hlen⟩⟩ := hlen
    · simp only [hP.parse_showV4 hlen]
    · simp only [hP.parse_showV6 hlen]

/-! ## 3. The messages -/

/-- `decode_atyp_host_port`, with the host as the text that it returns. -/
def decodeAtypText (P : Platform) (data : Bytes) : Except String (Text × Nat × Nat) :=
  (decodeAtypHostPort data).map fun r => (r.1.toText P, r.2.1, r.2.2)

/-- An encoded address is read back from the front of any string. -/
theorem decodeAtypText_append (hP : P.Lawful) {host : Text} {port : Nat} {bytes : Bytes}
    (hp : port < 2 ^ 16) (h : encodeAtypHostPort P host port = .ok bytes) (rest : Bytes) :
    decodeAtypText P (bytes ++ rest) = .ok (P.canonical host, port, bytes.length) := by
  obtain ⟨hh, rfl⟩ := (encodeAtypHostPort_eq_ok hP).mp h
  rw [decodeAtypText, decodeAtypHostPort_addrBytes hh hp, ← toText_hostOf]
  rfl

theorem encodeDatagram_eq_ok (hP : P.Lawful) {tag : UInt8} {xid port : Nat} {host : Text}
    {payload bytes : Bytes} :
    encodeDatagram tag P xid host port payload = .ok bytes ↔
      payload.length ≤ maxUdpPayload ∧ (P.hostOf host).WellFormed ∧
        bytes = tag :: toBe 8 xid ++ addrBytes (P.hostOf host) port ++ payload := by
  unfold encodeDatagram
  by_cases hlong : payload.length > maxUdpPayload
  · simp only [if_pos hlong, reduceCtorEq, false_iff, not_and]
    intro hle
    exact absurd hle (Nat.not_le.mpr hlong)
  · simp only [if_neg hlong, map_eq_ok, encodeAtypHostPort_eq_ok hP, Nat.not_lt.mp hlong, true_and]
    constructor
    · rintro ⟨addr, ⟨hh, rfl⟩, rfl⟩
      exact ⟨hh, rfl⟩
    · rintro ⟨hh, rfl⟩
      exact ⟨_, ⟨hh, rfl⟩, rfl⟩

/-- **The reader of a datagram accepts exactly** its tag, eight bytes, an address, and a payload
within the limit. -/
theorem decodeDatagram_eq_ok {tag : UInt8} {badOpcode short tooLarge : String}
    {data payload : Bytes} {xid port : Nat} {text : Text} :
    decodeDatagram tag badOpcode short tooLarge P data = .ok (xid, text, port, payload) ↔
      ∃ host : Host, host.WellFormed ∧ xid < 2 ^ 64 ∧ port < 2 ^ 16 ∧
        payload.length ≤ maxUdpPayload ∧ text = host.toText P ∧
        data = tag :: toBe 8 xid ++ addrBytes host port ++ payload := by
  constructor
  · intro h
    unfold decodeDatagram at h
    split at h
    · cases h
    · rename_i t body
      split at h
      · cases h
      · rename_i htag
        split at h
        · cases h
        · rename_i hlen
          dsimp only at h
          split at h
          · cases h
          · rename_i host port' n haddr
            split at h
            · cases h
            · rename_i hpay
              cases h
              obtain ⟨hh, hp, rfl, rest, hrest⟩ := decodeAtypHostPort_eq_ok.mp haddr
              have height : (body.take 8).length = 8 := by
                rw [List.length_take]
                omega
              have hxid : toBe 8 (fromBe (body.take 8)) = body.take 8 := by
                have := toBe_fromBe (body.take 8)
                rwa [height] at this
              have hlt := fromBe_lt (body.take 8)
              rw [height] at hlt
              refine ⟨host, hh, hlt, hp, Nat.not_lt.mp hpay, rfl, ?_⟩
              rw [hxid, hrest, List.drop_left, not_not.mp htag, List.append_assoc, ← hrest,
                List.cons_append, List.take_append_drop]
  · rintro ⟨host, hh, hx, hp, hpay, rfl, rfl⟩
    have height : (toBe 8 xid).length = 8 := length_toBe 8 xid
    have hxid : fromBe (toBe 8 xid) = xid := fromBe_toBe hx
    have htake : (toBe 8 xid ++ addrBytes host port ++ payload).take 8 = toBe 8 xid := by
      rw [List.append_assoc]
      exact List.take_left' height
    have hdrop : (toBe 8 xid ++ addrBytes host port ++ payload).drop 8 =
        addrBytes host port ++ payload := by
      rw [List.append_assoc]
      exact List.drop_left' height
    have hlen : ¬ (toBe 8 xid ++ addrBytes host port ++ payload).length < 8 := by
      rw [List.append_assoc, List.length_append, height]
      omega
    simp only [decodeDatagram, List.cons_append, ne_eq, not_true_eq_false, if_false, if_neg hlen,
      hdrop, htake, decodeAtypHostPort_addrBytes hh hp, List.drop_left, hxid,
      if_neg (Nat.not_lt.mpr hpay)]

/-- Both messages, for a tag. -/
def datagramCodec (tag : UInt8) (badOpcode short tooLarge : String) (P : Platform) :
    Codec (Nat × Text × Nat × Bytes) Bytes where
  encode v := encodeDatagram tag P v.1 v.2.1 v.2.2.1 v.2.2.2
  decode := decodeDatagram tag badOpcode short tooLarge P
  canon v := (v.1, P.canonical v.2.1, v.2.2)
  InRange v := v.1 < 2 ^ 64 ∧ v.2.2.1 < 2 ^ 16

theorem datagramCodec_faithful (hP : P.Lawful) (tag : UInt8) (badOpcode short tooLarge : String) :
    (datagramCodec tag badOpcode short tooLarge P).Faithful where
  inRange {w v} h := by
    obtain ⟨host, -, hx, hp, -⟩ := decodeDatagram_eq_ok.mp h
    exact ⟨hx, hp⟩
  decode_encode {v w} hr h := by
    obtain ⟨hpay, hh, rfl⟩ := (encodeDatagram_eq_ok hP).mp h
    exact decodeDatagram_eq_ok.mpr
      ⟨_, hh, hr.1, hr.2, hpay, (toText_hostOf P _).symm, rfl⟩
  reencodes {w v} h := by
    obtain ⟨xid, text, port, payload⟩ := v
    obtain ⟨host, hh, -, -, hpay, rfl, -⟩ := decodeDatagram_eq_ok.mp h
    exact ⟨_, (encodeDatagram_eq_ok hP).mpr ⟨hpay, wellFormed_hostOf_toText hP hh, rfl⟩⟩
  canon_canon v := by
    simp only [datagramCodec, canonical_canonical hP]

/-- `encode_udp_req` and `decode_udp_req`. -/
def udpReqCodec (P : Platform) : Codec (Nat × Text × Nat × Bytes) Bytes where
  encode v := encodeUdpReq P v.1 v.2.1 v.2.2.1 v.2.2.2
  decode := decodeUdpReq P
  canon v := (v.1, P.canonical v.2.1, v.2.2)
  InRange v := v.1 < 2 ^ 64 ∧ v.2.2.1 < 2 ^ 16

theorem udpReqCodec_faithful (hP : P.Lawful) : (udpReqCodec P).Faithful :=
  datagramCodec_faithful hP v3CtrlUdpReq _ _ _

/-- `encode_udp_rep` and `decode_udp_rep`. -/
def udpRepCodec (P : Platform) : Codec UdpRep Bytes where
  encode v := encodeUdpRep P v.xid v.host v.port v.payload
  decode := decodeUdpRep P
  canon v := { v with host := P.canonical v.host }
  InRange v := v.xid < 2 ^ 64 ∧ v.port < 2 ^ 16

theorem decodeUdpRep_eq_ok {data : Bytes} {v : UdpRep} :
    decodeUdpRep P data = .ok v ↔
      decodeDatagram v3CtrlUdpRep "bad udp rep opcode" "short udp rep" "udp rep payload too large" P
        data = .ok (v.xid, v.host, v.port, v.payload) := by
  rw [decodeUdpRep, map_eq_ok]
  constructor
  · rintro ⟨r, hr, rfl⟩
    exact hr
  · exact fun h => ⟨_, h, rfl⟩

theorem udpRepCodec_faithful (hP : P.Lawful) : (udpRepCodec P).Faithful := by
  have h := datagramCodec_faithful hP v3CtrlUdpRep "bad udp rep opcode" "short udp rep"
    "udp rep payload too large"
  exact {
    inRange := fun hd => h.inRange (decodeUdpRep_eq_ok.mp hd)
    decode_encode := fun hr he =>
      decodeUdpRep_eq_ok.mpr (h.decode_encode (v := (_, _, _, _)) hr he)
    reencodes := fun hd => h.reencodes (decodeUdpRep_eq_ok.mp hd)
    canon_canon := fun v => by simp only [udpRepCodec, canonical_canonical hP] }

/-- `build_socks5_udp_datagram` and `parse_socks5_udp_datagram`. -/
def socks5Codec (P : Platform) : Codec (Text × Nat × Bytes) Bytes where
  encode v := buildSocks5UdpDatagram P v.1 v.2.1 v.2.2
  decode := parseSocks5UdpDatagram P
  canon v := (P.canonical v.1, v.2)
  InRange v := v.2.1 < 2 ^ 16

theorem parseSocks5UdpDatagram_eq_ok {data payload : Bytes} {port : Nat} {text : Text} :
    parseSocks5UdpDatagram P data = .ok (text, port, payload) ↔
      ∃ host : Host, host.WellFormed ∧ port < 2 ^ 16 ∧ text = host.toText P ∧
        data = 0 :: 0 :: 0 :: addrBytes host port ++ payload := by
  constructor
  · intro h
    unfold parseSocks5UdpDatagram at h
    split at h
    · rename_i r0 r1 frag atyp addr
      split at h
      · cases h
      · rename_i hrsv
        split at h
        · cases h
        · rename_i hfrag
          obtain ⟨⟨host, port', n⟩, haddr, heq⟩ := map_eq_ok.mp h
          cases heq
          obtain ⟨hh, hp, rfl, rest, hrest⟩ := decodeAtypHostPort_eq_ok.mp haddr
          simp only [ne_eq, Bool.or_eq_true, decide_eq_true_eq, not_or, not_not] at hrsv hfrag
          obtain ⟨rfl, rfl⟩ := hrsv
          subst hfrag
          refine ⟨host, hh, hp, rfl, ?_⟩
          rw [hrest, List.drop_left]
          rfl
    · cases h
  · rintro ⟨host, hh, hp, rfl, rfl⟩
    obtain ⟨atyp, addr, hcons⟩ : ∃ atyp addr, addrBytes host port ++ payload = atyp :: addr := by
      cases host <;> exact ⟨_, _, rfl⟩
    have haddr := decodeAtypHostPort_addrBytes hh hp payload
    have hdrop : (addrBytes host port ++ payload).drop (addrBytes host port).length = payload :=
      List.drop_left
    rw [hcons] at haddr hdrop
    simp only [List.cons_append, hcons, parseSocks5UdpDatagram, ne_eq, not_true_eq_false,
      decide_false, Bool.or_self, Bool.false_eq_true, if_false, haddr, Except.map, hdrop]

theorem socks5Codec_faithful (hP : P.Lawful) : (socks5Codec P).Faithful where
  inRange {w v} h := by
    obtain ⟨host, -, hp, -⟩ := parseSocks5UdpDatagram_eq_ok.mp h
    exact hp
  decode_encode {v w} hr h := by
    obtain ⟨addr, haddr, rfl⟩ := map_eq_ok.mp h
    obtain ⟨hh, rfl⟩ := (encodeAtypHostPort_eq_ok hP).mp haddr
    exact parseSocks5UdpDatagram_eq_ok.mpr ⟨_, hh, hr, (toText_hostOf P _).symm, rfl⟩
  reencodes {w v} h := by
    obtain ⟨text, port, payload⟩ := v
    obtain ⟨host, hh, -, rfl, -⟩ := parseSocks5UdpDatagram_eq_ok.mp h
    have haddr : encodeAtypHostPort P (host.toText P) port = .ok _ :=
      (encodeAtypHostPort_eq_ok hP).mpr ⟨wellFormed_hostOf_toText hP hh, rfl⟩
    exact ⟨_, map_eq_ok.mpr ⟨_, haddr, rfl⟩⟩
  canon_canon v := by simp only [socks5Codec, canonical_canonical hP]

/-- `encode_mux_open_target` and `decode_mux_open_target`. -/
def muxOpenTargetCodec (P : Platform) : Codec (Text × Nat) Bytes where
  encode v := encodeMuxOpenTarget P v.1 v.2
  decode data := (decodeMuxOpenTarget data).map fun r => (r.1.toText P, r.2)
  canon v := (P.canonical v.1, v.2)
  InRange v := v.2 < 2 ^ 16

theorem decodeMuxOpenTarget_eq_ok {data : Bytes} {host : Host} {port : Nat} :
    decodeMuxOpenTarget data = .ok (host, port) ↔
      host.WellFormed ∧ port < 2 ^ 16 ∧ data = addrBytes host port := by
  constructor
  · intro h
    obtain ⟨⟨host', port', n⟩, haddr, hrest⟩ := bind_eq_ok.mp h
    dsimp only at hrest
    split at hrest
    · cases hrest
    · rename_i hn
      cases hrest
      obtain ⟨hh, hp, rfl, rest, rfl⟩ := decodeAtypHostPort_eq_ok.mp haddr
      rw [not_not, List.length_append] at hn
      have hnil : rest = [] := List.length_eq_zero_iff.mp (by omega)
      exact ⟨hh, hp, by rw [hnil, List.append_nil]⟩
  · rintro ⟨hh, hp, rfl⟩
    have haddr := decodeAtypHostPort_addrBytes hh hp []
    rw [List.append_nil] at haddr
    exact bind_eq_ok.mpr ⟨_, haddr, if_neg (not_not.mpr rfl)⟩

theorem muxOpenTargetCodec_faithful (hP : P.Lawful) : (muxOpenTargetCodec P).Faithful where
  inRange {w v} h := by
    obtain ⟨⟨host, port⟩, hd, rfl⟩ := map_eq_ok.mp h
    exact (decodeMuxOpenTarget_eq_ok.mp hd).2.1
  decode_encode {v w} hr h := by
    obtain ⟨hh, rfl⟩ := (encodeAtypHostPort_eq_ok hP).mp h
    exact map_eq_ok.mpr ⟨_, decodeMuxOpenTarget_eq_ok.mpr ⟨hh, hr, rfl⟩, by rw [toText_hostOf]; rfl⟩
  reencodes {w v} h := by
    obtain ⟨⟨host, port⟩, hd, rfl⟩ := map_eq_ok.mp h
    have hh := (decodeMuxOpenTarget_eq_ok.mp hd).1
    exact ⟨_, (encodeAtypHostPort_eq_ok hP).mpr ⟨wellFormed_hostOf_toText hP hh, rfl⟩⟩
  canon_canon v := by simp only [muxOpenTargetCodec, canonical_canonical hP]

end Canonical

/-! ## 4. The code on its slices -/

namespace Indexed

open Slice

/-- The host of `decode_atyp_host_port`, and where its address ends. -/
def addrAt (P : Platform) (data : Bytes) (atyp : UInt8) : Checked (Text × Nat) :=
  if atyp = 1 then
    if data.length < 1 + 4 + 2 then bail "short ipv4"
    else do
      let a ← index data 1
      let b ← index data 2
      let c ← index data 3
      let d ← index data 4
      return (P.showV4 [a, b, c, d], 1 + 4)
  else if atyp = 3 then
    if data.length < 2 then bail "short domain"
    else do
      let l ← index data 1
      if data.length < 2 + l.toNat + 2 then bail "short domain host"
      else
        let raw ← range data 2 (2 + l.toNat)
        let h ← lift (fromUtf8 raw)
        return (h.toList, 2 + l.toNat)
  else if atyp = 4 then
    if data.length < 1 + 16 + 2 then bail "short ipv6"
    else do
      let a ← range data 1 17
      return (P.showV6 a, 17)
  else bail s!"bad ATYP {atyp.toNat}"

/-- `decode_atyp_host_port`. -/
def decodeAtypHostPort (P : Platform) (data : Bytes) : Checked (Text × Nat × Nat) :=
  if data.isEmpty then bail "empty addr"
  else do
    let atyp ← index data 0
    let (host, endAddr) ← addrAt P data atyp
    let p1 ← index data endAddr
    let p0 ← index data (endAddr + 1)
    return (host, fromBe16 p1 p0, endAddr + 2)

/-- The reader of a datagram behind `tag`. -/
def decodeDatagram (tag : UInt8) (badOpcode short tooLarge : String) (P : Platform) (data : Bytes) :
    Checked (Nat × Text × Nat × Bytes) :=
  if data.isEmpty then bail badOpcode
  else do
    let t ← index data 0
    if t ≠ tag then bail badOpcode
    else if data.length < 1 + 8 then bail short
    else
      let xid ← range data 1 9
      let rest ← tail data 9
      let (host, port, addrLen) ← decodeAtypHostPort P rest
      let payload ← tail rest addrLen
      if payload.length > maxUdpPayload then bail tooLarge
      else return (fromBe xid, host, port, payload)

/-- `decode_udp_req`. -/
def decodeUdpReq (P : Platform) (data : Bytes) : Checked (Nat × Text × Nat × Bytes) :=
  decodeDatagram v3CtrlUdpReq "bad udp req opcode" "short udp req" "udp req payload too large"
    P data

/-- `decode_udp_rep`. -/
def decodeUdpRep (P : Platform) (data : Bytes) : Checked (Nat × Text × Nat × Bytes) :=
  decodeDatagram v3CtrlUdpRep "bad udp rep opcode" "short udp rep" "udp rep payload too large"
    P data

/-- `parse_socks5_udp_datagram`. -/
def parseSocks5UdpDatagram (P : Platform) (data : Bytes) : Checked (Text × Nat × Bytes) :=
  if data.length < 4 then bail "short socks udp"
  else do
    let r0 ← index data 0
    let r1 ← index data 1
    if r0 ≠ 0 || r1 ≠ 0 then bail "bad RSV"
    else
      let frag ← index data 2
      if frag ≠ 0 then bail "UDP fragment not supported"
      else
        let addr ← tail data 3
        let (host, port, n) ← decodeAtypHostPort P addr
        let payload ← tail data (3 + n)
        return (host, port, payload)

/-- `decode_mux_open_target`. -/
def decodeMuxOpenTarget (P : Platform) (payload : Bytes) : Checked (Text × Nat) := do
  let (host, port, n) ← decodeAtypHostPort P payload
  if n ≠ payload.length then bail "trailing junk in mux open target" else return (host, port)

/-- The two bytes of a port that are there. -/
theorem port_at (data : Bytes) (n : Nat) (h : n + 2 ≤ data.length) (host : Text) :
    (do
      let p1 ← index data n
      let p0 ← index data (n + 1)
      return (host, fromBe16 p1 p0, n + 2) : Checked (Text × Nat × Nat)) =
      .ok (host, fromBe ((data.drop n).take 2), n + 2) := by
  have h1 : n < data.length := by omega
  have h2 : n + 1 < data.length := by omega
  rw [index_of_lt h1, index_of_lt h2, take_two_drop h2]
  rfl

/-- **The reader of an address never leaves its slice**, and returns what the grammar says. -/
theorem decodeAtypHostPort_eq (P : Platform) (data : Bytes) :
    decodeAtypHostPort P data = lift (decodeAtypText P data) := by
  cases data with
  | nil => rfl
  | cons atyp rest =>
    have h0 : index (atyp :: rest) 0 = .ok atyp := rfl
    simp only [decodeAtypHostPort, List.isEmpty_cons, Bool.false_eq_true, if_false, h0, ok_bind]
    simp only [addrAt, decodeAtypText, Wire.decodeAtypHostPort, List.length_cons]
    by_cases h1 : atyp = 1
    · simp only [if_pos h1]
      by_cases hlen : rest.length < 4 + 2
      · rw [if_pos (by omega), if_pos hlen]
        rfl
      · rw [if_neg (by omega), if_neg hlen]
        match rest, hlen with
        | a :: b :: c :: d :: p1 :: p0 :: more, _ => rfl
        | [], hlen => exact absurd (by decide) hlen
        | [_], hlen => exact absurd (by simp) hlen
        | [_, _], hlen => exact absurd (by simp) hlen
        | [_, _, _], hlen => exact absurd (by simp) hlen
        | [_, _, _, _], hlen => exact absurd (by simp) hlen
        | [_, _, _, _, _], hlen => exact absurd (by simp) hlen
    · simp only [if_neg h1]
      by_cases h3 : atyp = 3
      · simp only [if_pos h3]
        cases rest with
        | nil => rfl
        | cons l rest =>
          have hl : index (atyp :: l :: rest) 1 = .ok l := rfl
          simp only [List.length_cons, hl, ok_bind]
          rw [if_neg (by omega)]
          by_cases hlen : rest.length < l.toNat + 2
          · rw [if_pos (by omega), if_pos hlen]
            rfl
          · have hraw : range (atyp :: l :: rest) 2 (2 + l.toNat) = .ok (rest.take l.toNat) := by
              rw [range_of_le (by omega) (by simp only [List.length_cons]; omega),
                Nat.add_comm 2, List.take_succ_cons, List.take_succ_cons]
              rfl
            rw [if_neg (by omega), if_neg hlen, hraw, ok_bind]
            cases hname : fromUtf8 (rest.take l.toNat) with
            | error e => rfl
            | ok name =>
              have hport := port_at (atyp :: l :: rest) (2 + l.toNat)
                (by simp only [List.length_cons]; omega) name.toList
              have hdrop : (atyp :: l :: rest).drop (2 + l.toNat) = rest.drop l.toNat := by
                rw [Nat.add_comm 2, List.drop_succ_cons, List.drop_succ_cons]
              rw [hdrop] at hport
              exact hport
      · simp only [if_neg h3]
        by_cases h4 : atyp = 4
        · simp only [if_pos h4]
          by_cases hlen : rest.length < 16 + 2
          · rw [if_pos (by omega), if_pos hlen]
            rfl
          · have hraw : range (atyp :: rest) 1 17 = .ok (rest.take 16) := by
              rw [range_of_le (by omega) (by simp only [List.length_cons]; omega)]
              rfl
            rw [if_neg (by omega), if_neg hlen, hraw]
            exact port_at (atyp :: rest) 17 (by simp only [List.length_cons]; omega)
              (P.showV6 (rest.take 16))
        · simp only [if_neg h4]
          rfl

/-- An address that was read ends within its slice. -/
theorem length_of_decodeAtypText {P : Platform} {data : Bytes} {host : Text}
    (h : decodeAtypText P data = .ok (host, port, n)) : n ≤ data.length := by
  obtain ⟨⟨host', port', n'⟩, haddr, heq⟩ := map_eq_ok.mp h
  cases heq
  obtain ⟨-, -, hn, rest, rfl⟩ := decodeAtypHostPort_eq_ok.mp haddr
  rw [List.length_append]
  dsimp only
  omega

theorem decodeDatagram_eq (tag : UInt8) (badOpcode short tooLarge : String) (P : Platform)
    (data : Bytes) :
    decodeDatagram tag badOpcode short tooLarge P data =
      lift (Wire.decodeDatagram tag badOpcode short tooLarge P data) := by
  cases data with
  | nil => rfl
  | cons t body =>
    have h0 : index (t :: body) 0 = .ok t := rfl
    simp only [decodeDatagram, Wire.decodeDatagram, List.isEmpty_cons, Bool.false_eq_true, if_false,
      h0, ok_bind, List.length_cons]
    by_cases htag : t ≠ tag
    · rw [if_pos htag, if_pos htag]
      rfl
    · rw [if_neg htag, if_neg htag]
      by_cases hlen : body.length < 8
      · rw [if_pos (by omega), if_pos hlen]
        rfl
      · have hxid : range (t :: body) 1 9 = .ok (body.take 8) := by
          rw [range_of_le (by omega) (by simp only [List.length_cons]; omega)]
          rfl
        have hrest : tail (t :: body) 9 = .ok (body.drop 8) := by
          rw [tail_of_le (by simp only [List.length_cons]; omega)]
          rfl
        rw [if_neg (by omega), if_neg hlen, hxid, hrest]
        simp only [ok_bind, decodeAtypHostPort_eq]
        cases haddr : Wire.decodeAtypHostPort (body.drop 8) with
        | error e => simp only [decodeAtypText, haddr]; rfl
        | ok r =>
          have htext : decodeAtypText P (body.drop 8) = .ok (r.1.toText P, r.2.1, r.2.2) := by
            simp only [decodeAtypText, haddr]
            rfl
          have hpay : tail (body.drop 8) r.2.2 = .ok ((body.drop 8).drop r.2.2) :=
            tail_of_le (length_of_decodeAtypText htext)
          simp only [htext, lift_ok, ok_bind, hpay]
          split <;> rfl

theorem parseSocks5UdpDatagram_eq (P : Platform) (data : Bytes) :
    parseSocks5UdpDatagram P data = lift (Wire.parseSocks5UdpDatagram P data) := by
  match data with
  | [] => rfl
  | [_] => rfl
  | [_, _] => rfl
  | [_, _, _] => rfl
  | r0 :: r1 :: frag :: atyp :: addr =>
    have hlen : ¬ (r0 :: r1 :: frag :: atyp :: addr).length < 4 := by
      simp only [List.length_cons]
      omega
    have h0 : index (r0 :: r1 :: frag :: atyp :: addr) 0 = .ok r0 := rfl
    have h1 : index (r0 :: r1 :: frag :: atyp :: addr) 1 = .ok r1 := rfl
    have h2 : index (r0 :: r1 :: frag :: atyp :: addr) 2 = .ok frag := rfl
    have h3 : tail (r0 :: r1 :: frag :: atyp :: addr) 3 = .ok (atyp :: addr) := by
      rw [tail_of_le (by simp only [List.length_cons]; omega)]
      rfl
    simp only [parseSocks5UdpDatagram, Wire.parseSocks5UdpDatagram, if_neg hlen, h0, h1, h2, h3,
      ok_bind]
    split
    · rfl
    · split
      · rfl
      · rw [decodeAtypHostPort_eq]
        cases haddr : Wire.decodeAtypHostPort (atyp :: addr) with
        | error e => simp only [decodeAtypText, haddr]; rfl
        | ok r =>
          have htext : decodeAtypText P (atyp :: addr) = .ok (r.1.toText P, r.2.1, r.2.2) := by
            simp only [decodeAtypText, haddr]
            rfl
          have hn := length_of_decodeAtypText htext
          have hpay : tail (r0 :: r1 :: frag :: atyp :: addr) (3 + r.2.2) =
              .ok ((atyp :: addr).drop r.2.2) := by
            rw [tail_of_le (by simp only [List.length_cons] at hn ⊢; omega), Nat.add_comm 3]
            rfl
          simp only [htext, lift_ok, ok_bind, hpay]
          rfl

theorem decodeMuxOpenTarget_eq (P : Platform) (payload : Bytes) :
    decodeMuxOpenTarget P payload = lift ((muxOpenTargetCodec P).decode payload) := by
  simp only [decodeMuxOpenTarget, decodeAtypHostPort_eq, muxOpenTargetCodec,
    Wire.decodeMuxOpenTarget]
  cases haddr : Wire.decodeAtypHostPort payload with
  | error e => simp only [decodeAtypText, haddr]; rfl
  | ok r =>
    have htext : decodeAtypText P payload = .ok (r.1.toText P, r.2.1, r.2.2) := by
      simp only [decodeAtypText, haddr]
      rfl
    simp only [htext, lift_ok, ok_bind]
    show _ = lift (Except.map _ (if r.2.2 ≠ payload.length then _ else _))
    split <;> rfl

end Indexed

/-! ## 5. A platform to evaluate

Dotted IPv4 addresses, and IPv6 addresses that are written out in eight groups, in either case; the
groups that are printed have four lower case digits. -/

def hexTable : List (Char × Nat) :=
  "0123456789abcdef".toList.zipIdx ++ "ABCDEF".toList.zipIdx 10

def hexDigit (c : Char) : Option Nat := hexTable.lookup c

/-- One to four digits: two octets. -/
def parseGroup (s : Text) : Option Bytes :=
  if 1 ≤ s.length ∧ s.length ≤ 4 ∧ s.all fun c => (hexDigit c).isSome then
    some (toBe 2 (s.foldl (fun n c => 16 * n + (hexDigit c).getD 0) 0))
  else none

def parseGroups (s : Text) : Option Bytes :=
  let groups := s.splitOn ':'
  if groups.length = 8 ∧ groups.all fun g => (parseGroup g).isSome then
    some (groups.flatMap fun g => (parseGroup g).getD [])
  else none

def showDigit (n : Nat) : Char := "0123456789abcdef".toList.getD n '0'

def showHex (o : UInt8) : Text := [showDigit (o.toNat / 16), showDigit (o.toNat % 16)]

def showGroups : Bytes → List Text
  | hi :: lo :: rest => (showHex hi ++ showHex lo) :: showGroups rest
  | _ => []

theorem hexDigit_eq_some {c : Char} (h : hexDigit c = some n) :
    c ∈ addressChars ∧ c ≠ '.' ∧ c ≠ ':' := by
  obtain ⟨l₁, l₂, hl, -⟩ := List.lookup_eq_some_iff.mp h
  have hall : ∀ e ∈ hexTable, e.1 ∈ addressChars ∧ e.1 ≠ '.' ∧ e.1 ≠ ':' := by decide
  exact hall (c, n) (by rw [hl]; simp)

theorem hexDigit_showDigit (h : n < 16) : hexDigit (showDigit n) = some n := by
  have hall : ∀ n : Fin 16, hexDigit (showDigit n) = some n.val := by decide
  exact hall ⟨n, h⟩

theorem parseGroup_showHex (hi lo : UInt8) :
    parseGroup (showHex hi ++ showHex lo) = some [hi, lo] := by
  have hhi := hi.toNat_lt
  have hlo := lo.toNat_lt
  have h1 : hexDigit (showDigit (hi.toNat / 16)) = some (hi.toNat / 16) :=
    hexDigit_showDigit (by omega)
  have h2 : hexDigit (showDigit (hi.toNat % 16)) = some (hi.toNat % 16) :=
    hexDigit_showDigit (by omega)
  have h3 : hexDigit (showDigit (lo.toNat / 16)) = some (lo.toNat / 16) :=
    hexDigit_showDigit (by omega)
  have h4 : hexDigit (showDigit (lo.toNat % 16)) = some (lo.toNat % 16) :=
    hexDigit_showDigit (by omega)
  have hfold : 16 * (16 * (16 * (16 * 0 + hi.toNat / 16) + hi.toNat % 16) + lo.toNat / 16) +
      lo.toNat % 16 = fromBe [hi, lo] := by
    show _ = (0 * 256 + hi.toNat) * 256 + lo.toNat
    omega
  simp only [parseGroup, showHex, List.cons_append, List.nil_append, List.length_cons,
    List.length_nil, List.all_cons, List.all_nil, h1, h2, h3, h4, Option.isSome_some, Bool.and_self,
    List.foldl_cons, List.foldl_nil, Option.getD_some, hfold]
  exact congrArg some (toBe_fromBe [hi, lo])

theorem parseGroup_eq_some (h : parseGroup s = some octets) :
    octets.length = 2 ∧ s ≠ [] ∧ ∀ c ∈ s, ∃ n, hexDigit c = some n := by
  unfold parseGroup at h
  split at h
  · rename_i hs
    cases h
    refine ⟨length_toBe 2 _, List.ne_nil_of_length_pos hs.1, fun c hc => ?_⟩
    exact Option.isSome_iff_exists.mp (List.all_eq_true.mp hs.2.2 c hc)
  · cases h

theorem flatMap_showGroups : ∀ (octets : Bytes), octets.length % 2 = 0 →
    (showGroups octets).flatMap (fun g => (parseGroup g).getD []) = octets
  | [], _ => rfl
  | [_], h => by simp at h
  | hi :: lo :: rest, h => by
    have ih := flatMap_showGroups rest (by simp only [List.length_cons] at h; omega)
    rw [showGroups, List.flatMap_cons, parseGroup_showHex, ih]
    rfl

theorem length_showGroups : ∀ (octets : Bytes), (showGroups octets).length = octets.length / 2
  | [] => rfl
  | [_] => by simp [showGroups]
  | _ :: _ :: rest => by
    rw [showGroups, List.length_cons, length_showGroups rest, List.length_cons, List.length_cons]
    omega

theorem parseGroup_of_mem_showGroups : ∀ (octets : Bytes), ∀ g ∈ showGroups octets,
    (parseGroup g).isSome = true
  | [], _, h => by cases h
  | [_], _, h => by cases h
  | hi :: lo :: rest, g, h => by
    rcases List.mem_cons.mp h with rfl | h
    · rw [parseGroup_showHex]
      rfl
    · exact parseGroup_of_mem_showGroups rest g h

theorem splitOn_showGroups (h : octets.length = 16) :
    (List.intercalate [':'] (showGroups octets)).splitOn ':' = showGroups octets := by
  refine List.splitOn_intercalate ':' (fun g hg hc => ?_) (fun hnil => ?_)
  · obtain ⟨o, ho⟩ := Option.isSome_iff_exists.mp (parseGroup_of_mem_showGroups octets g hg)
    obtain ⟨n, hn⟩ := (parseGroup_eq_some ho).2.2 ':' hc
    exact (hexDigit_eq_some hn).2.2 rfl
  · have hlen := length_showGroups octets
    rw [hnil, h] at hlen
    cases hlen

theorem parseGroups_show (h : octets.length = 16) :
    parseGroups (List.intercalate [':'] (showGroups octets)) = some octets := by
  have hlen : (showGroups octets).length = 8 := by rw [length_showGroups, h]
  have hall : (showGroups octets).all (fun g => (parseGroup g).isSome) = true :=
    List.all_eq_true.mpr (parseGroup_of_mem_showGroups octets)
  simp only [parseGroups, splitOn_showGroups h, hlen, hall, and_self, if_true,
    flatMap_showGroups octets (by rw [h])]

theorem mem_intercalate {c d : Char} : ∀ {ls : List Text}, c ∈ [d].intercalate ls →
    c = d ∨ ∃ g ∈ ls, c ∈ g
  | [], h => by simp [List.intercalate] at h
  | [g], h => .inr ⟨g, List.mem_singleton.mpr rfl, by simpa [List.intercalate] using h⟩
  | g :: g' :: ls, h => by
    rw [List.intercalate_cons_cons, List.append_assoc, List.mem_append, List.mem_append] at h
    rcases h with h | h | h
    · exact .inr ⟨g, List.mem_cons_self, h⟩
    · exact .inl (List.mem_singleton.mp h)
    · exact (mem_intercalate h).imp id fun ⟨x, hx, hcx⟩ => ⟨x, List.mem_cons_of_mem g hx, hcx⟩

theorem chars_of_parseGroups (h : parseGroups s = some octets) :
    ∀ c ∈ s, c ∈ addressChars ∧ c ≠ '.' := by
  intro c hc
  unfold parseGroups at h
  dsimp only at h
  split at h
  · rename_i hs
    have hjoin : [':'].intercalate (s.splitOn ':') = s := List.intercalate_splitOn ':'
    rw [← hjoin] at hc
    rcases mem_intercalate hc with rfl | ⟨g, hg, hcg⟩
    · decide
    · obtain ⟨o, ho⟩ := Option.isSome_iff_exists.mp (List.all_eq_true.mp hs.2 g hg)
      obtain ⟨n, hn⟩ := (parseGroup_eq_some ho).2.2 c hcg
      exact ⟨(hexDigit_eq_some hn).1, (hexDigit_eq_some hn).2.1⟩
  · cases h

theorem address_of_parseGroups (s : Text) (octets : Bytes) (h : parseGroups s = some octets) :
    AddressText s := by
  refine ⟨fun c hc => (chars_of_parseGroups h c hc).1, fun hlast => ?_⟩
  exact (chars_of_parseGroups h '.' (List.mem_of_getLast? hlast)).2 rfl

theorem length_parseGroups (h : parseGroups s = some octets) : octets.length = 16 := by
  unfold parseGroups at h
  dsimp only at h
  split at h
  · rename_i hs
    cases h
    obtain ⟨hlen, hall⟩ := hs
    have htwo : ∀ g ∈ s.splitOn ':', ((parseGroup g).getD []).length = 2 := by
      intro g hg
      obtain ⟨o, ho⟩ := Option.isSome_iff_exists.mp (List.all_eq_true.mp hall g hg)
      rw [ho]
      exact (parseGroup_eq_some ho).1
    rw [List.length_flatMap, List.map_congr_left htwo]
    simp [hlen]
  · cases h

theorem length_parseDotted (h : parseDotted s = some octets) : octets.length = 4 := by
  unfold parseDotted at h
  split at h
  · simp only [Option.bind_eq_bind, Option.bind_eq_some_iff] at h
    obtain ⟨_, -, _, -, _, -, _, -, heq⟩ := h
    cases heq
    rfl
  · cases h

theorem parseOctet_repr (o : UInt8) : parseOctet (Nat.repr o.toNat).toList = some o := by
  have hall : ∀ n : Fin 256, parseOctet (Nat.repr n).toList = some (UInt8.ofNat n) := by
    decide +kernel
  have := hall ⟨o.toNat, o.toNat_lt⟩
  rwa [UInt8.ofNat_toNat] at this

theorem parseDotted_show (h : octets.length = 4) :
    parseDotted (Platform.ascii.showV4 octets) = some octets := by
  obtain ⟨a, b, c, d, rfl⟩ : ∃ a b c d, octets = [a, b, c, d] := by
    match octets, h with
    | [a, b, c, d], _ => exact ⟨a, b, c, d, rfl⟩
  have hdot : ∀ l ∈ [a, b, c, d].map (fun o => (Nat.repr o.toNat).toList), '.' ∉ l := by
    intro l hl hin
    obtain ⟨o, -, rfl⟩ := List.mem_map.mp hl
    have hdig := (parseOctet_eq_some (parseOctet_repr o)).2 '.' hin
    exact absurd hdig (by decide)
  have hsplit := List.splitOn_intercalate '.' hdot (by simp)
  have hshow : Platform.ascii.showV4 [a, b, c, d] =
      List.intercalate ['.'] ([a, b, c, d].map fun o => (Nat.repr o.toNat).toList) := rfl
  rw [parseDotted, hshow, hsplit]
  simp only [List.map_cons, List.map_nil, parseOctet_repr, Option.bind_eq_bind, Option.bind_some]

/-- Dotted IPv4 addresses and IPv6 addresses in eight groups. -/
def Platform.grouped : Platform where
  parseV4 := parseDotted
  parseV6 := parseGroups
  showV4 := Platform.ascii.showV4
  showV6 octets := List.intercalate [':'] (showGroups octets)
  fromUtf8Lossy := Platform.ascii.fromUtf8Lossy
  address_v4 := address_of_parseDotted
  address_v6 := address_of_parseGroups

theorem Platform.grouped_lawful : Platform.grouped.Lawful where
  octets_v4 := length_parseDotted
  octets_v6 := length_parseGroups
  parse_showV4 {octets} h := by
    have hp : Platform.grouped.parseV4 (Platform.grouped.showV4 octets) = some octets :=
      parseDotted_show h
    simp only [Platform.parseIp, hp]
  parse_showV6 {octets} h := by
    have h6 : Platform.grouped.parseV6 (Platform.grouped.showV6 octets) = some octets :=
      parseGroups_show h
    have h4 : Platform.grouped.parseV4 (Platform.grouped.showV6 octets) = none := by
      -- without a point there is one piece, not four
      have hno : ∀ l ∈ [Platform.grouped.showV6 octets], '.' ∉ l := by
        intro l hl hin
        rw [List.mem_singleton.mp hl] at hin
        exact (chars_of_parseGroups h6 '.' hin).2 rfl
      have hone := List.splitOn_intercalate '.' hno (by simp)
      rw [List.intercalate_singleton] at hone
      simp only [Platform.grouped, parseDotted] at hone ⊢
      rw [hone]
    simp only [Platform.parseIp, h4, h6, Option.map_some]

/-! ## 6. Round trips -/

/-- **Messages with an address come back with its canonical text.**  An address is read back from
the front of any string, up to its last byte; so are the four messages that carry one.  What was
decoded can be encoded again, and comes back the same exactly if its host is in the canonical
spelling.  And no reader leaves its slice. -/
theorem addresses_round_trip {P : Platform} (hP : P.Lawful) :
    (∀ {host port bytes}, port < 2 ^ 16 → encodeAtypHostPort P host port = .ok bytes →
      ∀ rest, decodeAtypText P (bytes ++ rest) = .ok (P.canonical host, port, bytes.length)) ∧
    ((udpReqCodec P).Trips ∧ (udpRepCodec P).Trips ∧ (socks5Codec P).Trips ∧
      (muxOpenTargetCodec P).Trips) ∧
    (∀ {data host port n}, decodeAtypText P data = .ok (host, port, n) →
      ∃ bytes, encodeAtypHostPort P host port = .ok bytes ∧
        ∀ rest, decodeAtypText P (bytes ++ rest) = .ok (P.canonical host, port, bytes.length)) ∧
    (∀ data, Indexed.decodeAtypHostPort P data ≠ .error .panics ∧
      Indexed.decodeUdpReq P data ≠ .error .panics ∧ Indexed.decodeUdpRep P data ≠ .error .panics ∧
      Indexed.parseSocks5UdpDatagram P data ≠ .error .panics ∧
      Indexed.decodeMuxOpenTarget P data ≠ .error .panics) := by
  refine ⟨fun hp h rest => decodeAtypText_append hP hp h rest, ⟨(udpReqCodec_faithful hP).trips,
    (udpRepCodec_faithful hP).trips, (socks5Codec_faithful hP).trips,
    (muxOpenTargetCodec_faithful hP).trips⟩, ?_, fun data => ?_⟩
  · intro data host port n h
    obtain ⟨⟨host', port', n'⟩, haddr, heq⟩ := map_eq_ok.mp h
    cases heq
    obtain ⟨hh, hp, -⟩ := decodeAtypHostPort_eq_ok.mp haddr
    have henc : encodeAtypHostPort P (host'.toText P) port' = .ok _ :=
      (encodeAtypHostPort_eq_ok hP).mpr ⟨wellFormed_hostOf_toText hP hh, rfl⟩
    exact ⟨_, henc, decodeAtypText_append hP hp henc⟩
  · rw [Indexed.decodeAtypHostPort_eq, Indexed.decodeUdpReq, Indexed.decodeUdpRep,
      Indexed.decodeDatagram_eq, Indexed.decodeDatagram_eq, Indexed.parseSocks5UdpDatagram_eq,
      Indexed.decodeMuxOpenTarget_eq]
    exact ⟨Slice.lift_ne_panics _, Slice.lift_ne_panics _, Slice.lift_ne_panics _,
      Slice.lift_ne_panics _, Slice.lift_ne_panics _⟩

/-- An IPv6 address whose groups have four digits each: the platforms print it alike, in lower
case. -/
def upperV6 : Text := "FE80:1111:2222:3333:4444:5555:6666:7777".toList

def lowerV6 : Text := "fe80:1111:2222:3333:4444:5555:6666:7777".toList

def octetsV6 : Bytes :=
  [0xfe, 0x80, 0x11, 0x11, 0x22, 0x22, 0x33, 0x33, 0x44, 0x44, 0x55, 0x55, 0x66, 0x66, 0x77, 0x77]

/-- A request to a respelled address arrives under the canonical text. -/
theorem addresses_round_trip_respelled :
    Platform.grouped.Lawful ∧
      decodeUdpReq Platform.grouped
          ([5, 0, 0, 0, 0, 0, 0, 0, 7, 4] ++ octetsV6 ++ [0, 53, 0x71]) =
        .ok (7, lowerV6, 53, [0x71]) := by
  refine ⟨Platform.grouped_lawful, ?_⟩
  have htrips := (addresses_round_trip Platform.grouped_lawful).2.1.1
  have henc : (udpReqCodec Platform.grouped).encode (7, upperV6, 53, [0x71]) =
      .ok ([5, 0, 0, 0, 0, 0, 0, 0, 7, 4] ++ octetsV6 ++ [0, 53, 0x71]) := by decide +kernel
  have hcanon : Platform.grouped.canonical upperV6 = lowerV6 := by decide +kernel
  have h := htrips.first ⟨by decide, by decide⟩ henc
  rwa [show (udpReqCodec Platform.grouped).canon (7, upperV6, 53, [0x71]) =
    (7, Platform.grouped.canonical upperV6, 53, [0x71]) from rfl, hcanon] at h

/-- **Re-encoding changes a respelled address.**  A peer sends the NAME `upperV6`; the reader
returns it as it is, the encoder takes it for an address, and the next reader returns the canonical
text. -/
theorem respelled_on_second_trip :
    Platform.grouped.Lawful ∧
      decodeAtypText Platform.grouped (3 :: 39 :: Text.toUtf8 upperV6 ++ [0, 53]) =
        .ok (upperV6, 53, 43) ∧
      ∃ bytes, encodeAtypHostPort Platform.grouped upperV6 53 = .ok bytes ∧
        decodeAtypText Platform.grouped bytes = .ok (lowerV6, 53, bytes.length) ∧
        lowerV6 ≠ upperV6 :=
  ⟨Platform.grouped_lawful, by decide +kernel, _, rfl, by decide +kernel, by decide⟩

end BibaVpn.Wire
