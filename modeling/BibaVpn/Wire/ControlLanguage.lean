/-
# The control language is unambiguous

Eight decoders look at the payload of a v3 control frame (`protocol.rs`).  Some are tried one after
another on the same bytes (`classify_v3_first_channel`), and a client and a server of different
versions disagree on whether an `OPEN` carries its flags; so it matters that no string means two
things.

* §1 is the grammar: the messages and their bytes.  `OPEN` has two forms;
* §2 puts the decoders and the encoders side by side, as readers of values;
* §3 is one exactness lemma for each decoder: it accepts the strings of its message, and no other;
* §4 is what follows.  The first byte says which decoder accepts; an encoding decodes to what was
  encoded, but for the spelling of an address in a datagram (`respelled_request`); and the
  classification of the first channel is exact.
-/
import BibaVpn.Wire.Address

namespace BibaVpn.Wire

open Machine Fallible

/-! ## 1. The grammar -/

/-- A message of the grammar.  The flags of an `OPEN` are the extension, which may be missing. -/
inductive V3Message
  | auth (token : String)
  | tcpOpen (host : String) (port : Nat) (ext : Option UInt8)
  | udpMuxOpen
  | muxOpen
  | openOk
  | openErr (reason : String)
  | udpReq (xid : Nat) (host : Host) (port : Nat) (payload : Bytes)
  | udpRep (xid : Nat) (host : Host) (port : Nat) (payload : Bytes)

/-- A text behind its length. -/
def textBytes (s : String) : Bytes := toBe 2 (utf8Bytes s).length ++ utf8Bytes s

/-- The extension of an `OPEN`. -/
def extBytes : Option UInt8 → Bytes
  | none => []
  | some flags => [openExtV1, flags]

namespace V3Message

/-- The bytes of a message. -/
def bytes : V3Message → Bytes
  | auth token => v3CtrlAuth :: textBytes token
  | tcpOpen host port ext => v3CtrlOpen :: (textBytes host ++ (toBe 2 port ++ extBytes ext))
  | udpMuxOpen => [v3CtrlUdpMux]
  | muxOpen => [v3CtrlMux]
  | openOk => [v3CtrlOpenOk]
  | openErr reason => v3CtrlOpenErr :: textBytes reason
  | udpReq xid host port payload => v3CtrlUdpReq :: toBe 8 xid ++ addrBytes host port ++ payload
  | udpRep xid host port payload => v3CtrlUdpRep :: toBe 8 xid ++ addrBytes host port ++ payload

/-- Every part of the message fits its field. -/
def WellFormed : V3Message → Prop
  | auth token => (utf8Bytes token).length ≤ 0xffff
  | tcpOpen host port _ => (utf8Bytes host).length ≤ 0xffff ∧ port < 2 ^ 16
  | udpMuxOpen => True
  | muxOpen => True
  | openOk => True
  | openErr reason => (utf8Bytes reason).length ≤ 0xffff
  | udpReq xid host port payload =>
    host.WellFormed ∧ xid < 2 ^ 64 ∧ port < 2 ^ 16 ∧ payload.length ≤ maxUdpPayload
  | udpRep xid host port payload =>
    host.WellFormed ∧ xid < 2 ^ 64 ∧ port < 2 ^ 16 ∧ payload.length ≤ maxUdpPayload

end V3Message

/-! ## 2. Decoders and encoders -/

/-- The decoders. -/
inductive V3Reader
  | auth | tcpOpen | udpMuxOpen | muxOpen | openOk | openErr | udpReq | udpRep
  deriving DecidableEq, Repr

/-- What a decoder returns, and what an encoder is given. -/
inductive V3Value
  | auth (token : String)
  | tcpOpen (host : String) (port : Nat) (flags : UInt8)
  | udpMuxOpen
  | muxOpen
  | openOk
  | openErr (reason : String)
  | udpReq (xid : Nat) (host : Text) (port : Nat) (payload : Bytes)
  | udpRep (rep : UdpRep)
  deriving DecidableEq, Repr

/-- The decoder by which a reader reads. -/
def V3Reader.read (P : Platform) (data : Bytes) : V3Reader → Option V3Value
  | auth => (decodeV3Auth data).toOption.map .auth
  | tcpOpen =>
    (decodeV3OpenWithFlags data).toOption.map fun (host, port, flags) => .tcpOpen host port flags
  | udpMuxOpen => if isV3UdpMuxOpen data then some .udpMuxOpen else none
  | muxOpen => if isV3MuxOpen data then some .muxOpen else none
  | openOk => if isV3OpenOk data then some .openOk else none
  | openErr => (decodeV3OpenErr data).toOption.map .openErr
  | udpReq =>
    (decodeUdpReq P data).toOption.map fun (xid, host, port, payload) =>
      .udpReq xid host port payload
  | udpRep => (decodeUdpRep P data).toOption.map .udpRep

/-- The first byte that a decoder asks for. -/
def V3Reader.tag : V3Reader → UInt8
  | auth => v3CtrlAuth
  | tcpOpen => v3CtrlOpen
  | udpMuxOpen => v3CtrlUdpMux
  | muxOpen => v3CtrlMux
  | openOk => v3CtrlOpenOk
  | openErr => v3CtrlOpenErr
  | udpReq => v3CtrlUdpReq
  | udpRep => v3CtrlUdpRep

theorem V3Reader.tag_injective : ∀ r r' : V3Reader, r.tag = r'.tag → r = r' := by
  intro r r' h
  revert h
  cases r <;> cases r' <;> decide

namespace V3Value

/-- Whose value it is. -/
def reader : V3Value → V3Reader
  | auth _ => .auth
  | tcpOpen _ _ _ => .tcpOpen
  | udpMuxOpen => .udpMuxOpen
  | muxOpen => .muxOpen
  | openOk => .openOk
  | openErr _ => .openErr
  | udpReq _ _ _ _ => .udpReq
  | udpRep _ => .udpRep

/-- The encoder of the value. -/
def encode (P : Platform) : V3Value → Except String Bytes
  | auth token => encodeV3Auth token
  | tcpOpen host port flags => encodeV3OpenWithFlags host port flags
  | udpMuxOpen => .ok encodeV3UdpMuxOpen
  | muxOpen => .ok encodeV3MuxOpen
  | openOk => .ok encodeV3OpenOk
  | openErr reason => encodeV3OpenErr reason
  | udpReq xid host port payload => encodeUdpReq P xid host port payload
  | udpRep rep => encodeUdpRep P rep.xid rep.host rep.port rep.payload

/-- Ports and numbers are `u16` and `u64`. -/
def InRange : V3Value → Prop
  | tcpOpen _ port _ => port < 2 ^ 16
  | udpReq xid _ port _ => xid < 2 ^ 64 ∧ port < 2 ^ 16
  | udpRep rep => rep.xid < 2 ^ 64 ∧ rep.port < 2 ^ 16
  | _ => True

/-- The value with the host of a datagram in its canonical spelling. -/
def canon (P : Platform) : V3Value → V3Value
  | udpReq xid host port payload => udpReq xid (P.canonical host) port payload
  | udpRep rep => udpRep { rep with host := P.canonical rep.host }
  | v => v

end V3Value

/-- What a message says. -/
def V3Message.value (P : Platform) : V3Message → V3Value
  | auth token => .auth token
  | tcpOpen host port ext => .tcpOpen host port (ext.getD 0)
  | udpMuxOpen => .udpMuxOpen
  | muxOpen => .muxOpen
  | openOk => .openOk
  | openErr reason => .openErr reason
  | udpReq xid host port payload => .udpReq xid (host.toText P) port payload
  | udpRep xid host port payload => .udpRep ⟨xid, host.toText P, port, payload⟩

theorem V3Message.head_bytes (P : Platform) (m : V3Message) :
    m.bytes.head? = some (m.value P).reader.tag := by
  cases m <;> rfl

/-! ## 3. Each decoder accepts its message -/

theorem toOption_map_eq_some {α β : Type} {x : Except String α} {f : α → β} {b : β} :
    x.toOption.map f = some b ↔ ∃ a, x = .ok a ∧ f a = b := by
  cases x <;> simp [Except.toOption]

/-- Two length bytes are the big-endian form of the length they state. -/
theorem toBe_fromBe16 (hi lo : UInt8) : toBe 2 (fromBe16 hi lo) = [hi, lo] :=
  toBe_fromBe [hi, lo]

theorem fromBe16_lt (hi lo : UInt8) : fromBe16 hi lo < 2 ^ 16 := by
  have hhi := hi.toNat_lt
  have hlo := lo.toNat_lt
  rw [fromBe16_eq]
  omega

/-- The length bytes of a text, taken apart. -/
theorem toBe_two {n : Nat} (h : n < 2 ^ 16) :
    ∃ hi lo, toBe 2 n = [hi, lo] ∧ fromBe16 hi lo = n := by
  obtain ⟨hi, lo, heq⟩ := List.length_eq_two.mp (length_toBe 2 n)
  refine ⟨hi, lo, heq, ?_⟩
  rw [fromBe16, ← heq]
  exact fromBe_toBe h

/-- A text that fills what follows its length. -/
theorem decodeU16Text_eq_ok {truncated trailing : String} {hi lo : UInt8} {body : Bytes}
    {s : String} :
    decodeU16Text truncated trailing hi lo body = .ok s ↔
      (utf8Bytes s).length ≤ 0xffff ∧ hi :: lo :: body = textBytes s := by
  have hfit := fromBe16_lt hi lo
  constructor
  · intro h
    simp only [decodeU16Text] at h
    split at h
    · cases h
    · split at h
      · cases h
      · rename_i hlen
        rw [← not_not.mp hlen, List.take_length, fromUtf8_eq_ok] at h
        subst h
        rw [not_not] at hlen
        refine ⟨by omega, ?_⟩
        rw [textBytes, hlen, toBe_fromBe16]
        rfl
  · rintro ⟨hle, heq⟩
    obtain ⟨hi', lo', htwo, hval⟩ := toBe_two (Nat.lt_succ_of_le hle)
    rw [textBytes, htwo, List.cons_append, List.cons_append, List.nil_append] at heq
    cases heq
    simp only [decodeU16Text, hval, Nat.lt_irrefl, if_false, ne_eq, not_true_eq_false,
      List.take_length]
    exact fromUtf8_eq_ok.mpr rfl

variable {data : Bytes} {host : String} {port : Nat} {flags : UInt8} {v : V3Value} {P : Platform}

/-- What a text behind a tag is encoded to. -/
theorem encodeU16Text_eq_ok {tooLong : String} {tag : UInt8} {s : String} :
    encodeU16Text tooLong [tag] s = .ok data ↔
      (utf8Bytes s).length ≤ 0xffff ∧ data = tag :: textBytes s := by
  simp only [encodeU16Text]
  split
  · rename_i hlong
    simp only [reduceCtorEq, false_iff, not_and]
    intro hle
    omega
  · rename_i hshort
    rw [Except.ok.injEq]
    constructor
    · intro h
      exact ⟨Nat.not_lt.mp hshort, h.symm⟩
    · rintro ⟨-, rfl⟩
      rfl

theorem decodeV3Auth_eq_ok {token : String} :
    decodeV3Auth data = .ok token ↔
      (V3Message.auth token).WellFormed ∧ data = (V3Message.auth token).bytes := by
  constructor
  · intro h
    unfold decodeV3Auth at h
    split at h
    · cases h
    · split at h
      · cases h
      · rename_i htag
        split at h
        · obtain ⟨hle, heq⟩ := decodeU16Text_eq_ok.mp h
          rw [not_not.mp htag, heq]
          exact ⟨hle, rfl⟩
        · cases h
  · rintro ⟨hle, rfl⟩
    obtain ⟨hi, lo, htwo, -⟩ := toBe_two (Nat.lt_succ_of_le hle)
    simp only [V3Message.bytes, textBytes, htwo, decodeV3Auth, ne_eq, not_true_eq_false, if_false,
      List.cons_append, List.nil_append]
    exact decodeU16Text_eq_ok.mpr ⟨hle, by rw [textBytes, htwo]; rfl⟩

theorem decodeV3OpenErr_eq_ok {reason : String} :
    decodeV3OpenErr data = .ok reason ↔
      (V3Message.openErr reason).WellFormed ∧ data = (V3Message.openErr reason).bytes := by
  constructor
  · intro h
    unfold decodeV3OpenErr at h
    split at h
    · split at h
      · cases h
      · rename_i htag
        obtain ⟨hle, heq⟩ := decodeU16Text_eq_ok.mp h
        rw [not_not.mp htag, heq]
        exact ⟨hle, rfl⟩
    · cases h
  · rintro ⟨hle, rfl⟩
    obtain ⟨hi, lo, htwo, -⟩ := toBe_two (Nat.lt_succ_of_le hle)
    simp only [V3Message.bytes, textBytes, htwo, decodeV3OpenErr, ne_eq, not_true_eq_false,
      if_false, List.cons_append, List.nil_append]
    exact decodeU16Text_eq_ok.mpr ⟨hle, by rw [textBytes, htwo]; rfl⟩

/-- What follows the port of an `OPEN`: nothing, or the extension. -/
theorem open_ext {ext : Bytes} {x : String × Nat × UInt8}
    (h : (match ext with
      | [] => .ok (host, port, 0)
      | [e, flags] =>
        if e = openExtV1 then .ok (host, port, flags) else .error "trailing bytes in v3 open"
      | _ => .error "trailing bytes in v3 open" : Except String (String × Nat × UInt8)) = .ok x) :
    ∃ ext' : Option UInt8, ext = extBytes ext' ∧ x = (host, port, ext'.getD 0) := by
  split at h
  · cases h
    exact ⟨none, rfl, rfl⟩
  · split at h
    · rename_i he
      cases h
      exact ⟨some _, by rw [he]; rfl, rfl⟩
    · cases h
  · cases h

/-- **`OPEN` is read from its two forms only**: the one without an extension counts as flags 0. -/
theorem decodeV3OpenWithFlags_eq_ok :
    decodeV3OpenWithFlags data = .ok (host, port, flags) ↔
      ∃ ext : Option UInt8, ext.getD 0 = flags ∧ (V3Message.tcpOpen host port ext).WellFormed ∧
        data = (V3Message.tcpOpen host port ext).bytes := by
  constructor
  · intro h
    unfold decodeV3OpenWithFlags at h
    split at h
    · cases h
    · rename_i tag rest
      split at h
      · cases h
      · rename_i htag
        split at h
        · cases h
        · split at h
          · rename_i hi lo body _
            dsimp only at h
            split at h
            · cases h
            · rename_i hlen
              obtain ⟨host', hhost, h⟩ := bind_eq_ok.mp h
              split at h
              · rename_i p1 p0 ext hport
                obtain ⟨ext', rfl, heq⟩ := open_ext h
                cases heq
                have hbytes := fromUtf8_eq_ok.mp hhost
                have hhl : (utf8Bytes host).length = fromBe16 hi lo := by
                  rw [← hbytes, List.length_take]
                  omega
                have hfit := fromBe16_lt hi lo
                refine ⟨ext', rfl, ⟨by omega, fromBe16_lt p1 p0⟩, ?_⟩
                rw [V3Message.bytes, not_not.mp htag, textBytes, hhl, toBe_fromBe16, toBe_fromBe16,
                  ← hbytes]
                have hsplit := List.take_append_drop (fromBe16 hi lo) body
                rw [hport] at hsplit
                simp only [List.cons_append, List.nil_append]
                rw [hsplit]
              · cases h
          · cases h
  · rintro ⟨ext, rfl, ⟨hle, hp⟩, rfl⟩
    obtain ⟨hi, lo, htwo, hval⟩ := toBe_two (Nat.lt_succ_of_le hle)
    obtain ⟨p1, p0, hport, hpval⟩ := toBe_two hp
    have hlong : ¬ (utf8Bytes host ++ p1 :: p0 :: extBytes ext).length + 1 + 1 + 1 < 1 + 2 + 2 := by
      rw [List.length_append, List.length_cons, List.length_cons]
      omega
    have hbody : ¬ (utf8Bytes host ++ p1 :: p0 :: extBytes ext).length <
        (utf8Bytes host).length := by
      rw [List.length_append]
      omega
    simp only [V3Message.bytes, textBytes, htwo, hport, decodeV3OpenWithFlags, ne_eq,
      not_true_eq_false, if_false, List.cons_append, List.nil_append, List.length_cons, hval,
      List.take_left, List.drop_left]
    rw [if_neg hlong, if_neg hbody, fromUtf8_eq_ok.mpr rfl]
    cases ext with
    | none => simp only [Except.bind, extBytes, hpval, Option.getD_none]
    | some flags => simp only [Except.bind, extBytes, hpval, if_true, Option.getD_some]

theorem encodeV3OpenWithFlags_eq_ok :
    encodeV3OpenWithFlags host port flags = .ok data ↔
      (utf8Bytes host).length ≤ 0xffff ∧
      data = (V3Message.tcpOpen host port (some flags)).bytes := by
  simp only [encodeV3OpenWithFlags]
  split
  · simp only [reduceCtorEq, false_iff, not_and]
    intro hle
    omega
  · rename_i hshort
    rw [Except.ok.injEq]
    have heq : v3CtrlOpen :: toBe 2 (utf8Bytes host).length ++ utf8Bytes host ++ toBe 2 port ++
        [openExtV1, flags] = (V3Message.tcpOpen host port (some flags)).bytes := by
      simp only [V3Message.bytes, textBytes, extBytes, List.cons_append, List.append_assoc]
    rw [heq]
    constructor
    · intro h
      exact ⟨Nat.not_lt.mp hshort, h.symm⟩
    · rintro ⟨-, rfl⟩
      rfl

/-- The messages of one byte. -/
theorem single_eq_some {tag : UInt8} {w : V3Value} :
    (if data == [tag] then some v else none) = some w ↔ w = v ∧ data = [tag] := by
  by_cases h : data = [tag]
  · subst h
    simp [eq_comm]
  · simp [h]

/-- **A reader reads exactly the messages that are its own**, with their values. -/
theorem V3Reader.read_eq_some {r : V3Reader} :
    r.read P data = some v ↔
      v.reader = r ∧ ∃ m : V3Message, m.WellFormed ∧ m.value P = v ∧ data = m.bytes := by
  constructor
  · intro h
    cases r with
    | auth =>
      obtain ⟨token, hd, rfl⟩ := toOption_map_eq_some.mp h
      obtain ⟨hwf, hdata⟩ := decodeV3Auth_eq_ok.mp hd
      exact ⟨rfl, _, hwf, rfl, hdata⟩
    | tcpOpen =>
      obtain ⟨⟨host, port, flags⟩, hd, rfl⟩ := toOption_map_eq_some.mp h
      obtain ⟨ext, rfl, hwf, hdata⟩ := decodeV3OpenWithFlags_eq_ok.mp hd
      exact ⟨rfl, _, hwf, rfl, hdata⟩
    | udpMuxOpen =>
      obtain ⟨rfl, hdata⟩ := single_eq_some.mp h
      exact ⟨rfl, .udpMuxOpen, trivial, rfl, hdata⟩
    | muxOpen =>
      obtain ⟨rfl, hdata⟩ := single_eq_some.mp h
      exact ⟨rfl, .muxOpen, trivial, rfl, hdata⟩
    | openOk =>
      obtain ⟨rfl, hdata⟩ := single_eq_some.mp h
      exact ⟨rfl, .openOk, trivial, rfl, hdata⟩
    | openErr =>
      obtain ⟨reason, hd, rfl⟩ := toOption_map_eq_some.mp h
      obtain ⟨hwf, hdata⟩ := decodeV3OpenErr_eq_ok.mp hd
      exact ⟨rfl, _, hwf, rfl, hdata⟩
    | udpReq =>
      obtain ⟨⟨xid, text, port, payload⟩, hd, rfl⟩ := toOption_map_eq_some.mp h
      obtain ⟨host, hh, hx, hp, hpay, rfl, hdata⟩ := decodeDatagram_eq_ok.mp hd
      exact ⟨rfl, .udpReq xid host port payload, ⟨hh, hx, hp, hpay⟩, rfl, hdata⟩
    | udpRep =>
      obtain ⟨rep, hd, rfl⟩ := toOption_map_eq_some.mp h
      obtain ⟨host, hh, hx, hp, hpay, htext, hdata⟩ :=
        decodeDatagram_eq_ok.mp (decodeUdpRep_eq_ok.mp hd)
      exact ⟨rfl, .udpRep rep.xid host rep.port rep.payload, ⟨hh, hx, hp, hpay⟩,
        by rw [V3Message.value, ← htext], hdata⟩
  · rintro ⟨rfl, m, hwf, rfl, rfl⟩
    cases m with
    | auth token =>
      exact toOption_map_eq_some.mpr ⟨token, decodeV3Auth_eq_ok.mpr ⟨hwf, rfl⟩, rfl⟩
    | tcpOpen host port ext =>
      exact toOption_map_eq_some.mpr
        ⟨(host, port, ext.getD 0), decodeV3OpenWithFlags_eq_ok.mpr ⟨ext, rfl, hwf, rfl⟩, rfl⟩
    | udpMuxOpen => rfl
    | muxOpen => rfl
    | openOk => rfl
    | openErr reason =>
      exact toOption_map_eq_some.mpr ⟨reason, decodeV3OpenErr_eq_ok.mpr ⟨hwf, rfl⟩, rfl⟩
    | udpReq xid host port payload =>
      obtain ⟨hh, hx, hp, hpay⟩ := hwf
      exact toOption_map_eq_some.mpr ⟨(xid, host.toText P, port, payload),
        decodeDatagram_eq_ok.mpr ⟨host, hh, hx, hp, hpay, rfl, rfl⟩, rfl⟩
    | udpRep xid host port payload =>
      obtain ⟨hh, hx, hp, hpay⟩ := hwf
      exact toOption_map_eq_some.mpr ⟨⟨xid, host.toText P, port, payload⟩,
        decodeUdpRep_eq_ok.mpr (decodeDatagram_eq_ok.mpr ⟨host, hh, hx, hp, hpay, rfl, rfl⟩), rfl⟩

/-! ## 4. No string means two things -/

/-- The first byte decides. -/
theorem V3Reader.reader_unique {r r' : V3Reader} {v' : V3Value} (h : r.read P data = some v)
    (h' : r'.read P data = some v') : r = r' := by
  obtain ⟨rfl, m, -, rfl, rfl⟩ := read_eq_some.mp h
  obtain ⟨rfl, m', -, rfl, hdata⟩ := read_eq_some.mp h'
  have hhead := congrArg List.head? hdata
  rw [m.head_bytes P, m'.head_bytes P] at hhead
  exact tag_injective _ _ (Option.some.inj hhead)

/-- What is encoded is a message of the grammar that says the value, in the canonical spelling. -/
theorem V3Value.message_of_encode (hP : P.Lawful) (hr : v.InRange) (h : v.encode P = .ok data) :
    ∃ m : V3Message, m.WellFormed ∧ m.value P = v.canon P ∧ data = m.bytes := by
  cases v with
  | auth token =>
    obtain ⟨hle, rfl⟩ := encodeU16Text_eq_ok.mp h
    exact ⟨.auth token, hle, rfl, rfl⟩
  | tcpOpen host port flags =>
    obtain ⟨hle, rfl⟩ := encodeV3OpenWithFlags_eq_ok.mp h
    exact ⟨.tcpOpen host port (some flags), ⟨hle, hr⟩, rfl, rfl⟩
  | udpMuxOpen => exact ⟨.udpMuxOpen, trivial, rfl, (Except.ok.inj h).symm⟩
  | muxOpen => exact ⟨.muxOpen, trivial, rfl, (Except.ok.inj h).symm⟩
  | openOk => exact ⟨.openOk, trivial, rfl, (Except.ok.inj h).symm⟩
  | openErr reason =>
    obtain ⟨hle, rfl⟩ := encodeU16Text_eq_ok.mp h
    exact ⟨.openErr reason, hle, rfl, rfl⟩
  | udpReq xid host port payload =>
    obtain ⟨hpay, hh, rfl⟩ := (@encodeDatagram_eq_ok P hP v3CtrlUdpReq _ _ _ _ _).mp h
    refine ⟨.udpReq xid (P.hostOf host) port payload, ⟨hh, hr.1, hr.2, hpay⟩, ?_, rfl⟩
    rw [V3Message.value, toText_hostOf, V3Value.canon]
  | udpRep rep =>
    obtain ⟨hpay, hh, rfl⟩ := (encodeDatagram_eq_ok hP).mp h
    refine ⟨.udpRep rep.xid (P.hostOf rep.host) rep.port rep.payload, ⟨hh, hr.1, hr.2, hpay⟩, ?_,
      rfl⟩
    rw [V3Message.value, toText_hostOf, V3Value.canon]

theorem V3Value.reader_canon (P : Platform) (v : V3Value) : (v.canon P).reader = v.reader := by
  cases v <;> rfl

/-- Encoded and decoded, a value is in the canonical spelling. -/
theorem V3Value.read_encode (hP : P.Lawful) (hr : v.InRange) (h : v.encode P = .ok data) :
    v.reader.read P data = some (v.canon P) :=
  V3Reader.read_eq_some.mpr ⟨v.reader_canon P, message_of_encode hP hr h⟩

/-- The `OPEN` form without the extension is the encoding for flags 0 without its last two bytes. -/
theorem open_without_ext :
    encodeV3Open host port = .ok (data ++ [openExtV1, 0]) ↔
      (utf8Bytes host).length ≤ 0xffff ∧ data = (V3Message.tcpOpen host port none).bytes := by
  rw [encodeV3Open, encodeV3OpenWithFlags_eq_ok]
  have heq : (V3Message.tcpOpen host port (some 0)).bytes =
      (V3Message.tcpOpen host port none).bytes ++ [openExtV1, 0] := by
    simp only [V3Message.bytes, extBytes, List.cons_append, List.append_assoc, List.append_nil]
  rw [heq, List.append_left_inj]

/-- What the first channel is taken for, in terms of the decoders. -/
theorem classifyV3FirstChannel_eq_tcpOpen :
    classifyV3FirstChannel data = .tcpOpen host port flags ↔
      decodeV3OpenWithFlags data = .ok (host, port, flags) := by
  unfold classifyV3FirstChannel
  split
  · rename_i h
    rw [h]
    simp
  · rename_i h
    rw [h]
    split
    · simp
    · split <;> simp

theorem classifyV3FirstChannel_eq_udpMux :
    classifyV3FirstChannel data = .udpMux ↔ data = encodeV3UdpMuxOpen := by
  constructor
  · intro h
    unfold classifyV3FirstChannel at h
    split at h
    · cases h
    · split at h
      · rename_i hdata
        exact beq_iff_eq.mp hdata
      · split at h <;> cases h
  · rintro rfl
    rfl

theorem classifyV3FirstChannel_eq_mux :
    classifyV3FirstChannel data = .mux ↔ data = encodeV3MuxOpen := by
  constructor
  · intro h
    unfold classifyV3FirstChannel at h
    split at h
    · cases h
    · split at h
      · cases h
      · split at h
        · rename_i hdata
          exact beq_iff_eq.mp hdata
        · cases h
  · rintro rfl
    rfl

/-- The strings of an `OPEN` to `host` and `port` with `flags`: its encoding and, for flags 0, the
encoding without the extension. -/
def OpenForm (data : Bytes) (host : String) (port : Nat) (flags : UInt8) : Prop :=
  port < 2 ^ 16 ∧ (encodeV3OpenWithFlags host port flags = .ok data ∨
    flags = 0 ∧ encodeV3Open host port = .ok (data ++ [openExtV1, 0]))

theorem decodeV3OpenWithFlags_iff_form :
    decodeV3OpenWithFlags data = .ok (host, port, flags) ↔ OpenForm data host port flags := by
  rw [decodeV3OpenWithFlags_eq_ok, OpenForm, encodeV3OpenWithFlags_eq_ok, open_without_ext]
  constructor
  · rintro ⟨ext, rfl, ⟨hle, hp⟩, hdata⟩
    refine ⟨hp, ?_⟩
    cases ext with
    | none => exact .inr ⟨rfl, hle, hdata⟩
    | some flags => exact .inl ⟨hle, hdata⟩
  · rintro ⟨hp, ⟨hle, hdata⟩ | ⟨rfl, hle, hdata⟩⟩
    · exact ⟨some flags, rfl, ⟨hle, hp⟩, hdata⟩
    · exact ⟨none, rfl, ⟨hle, hp⟩, hdata⟩

theorem classifyV3FirstChannel_eq_notChannelOpen :
    classifyV3FirstChannel data = .notChannelOpen ↔
      (∀ host port flags, ¬ OpenForm data host port flags) ∧ data ≠ encodeV3UdpMuxOpen ∧
        data ≠ encodeV3MuxOpen := by
  constructor
  · intro h
    refine ⟨fun host port flags hform => ?_, fun hdata => ?_, fun hdata => ?_⟩
    · have hopen := classifyV3FirstChannel_eq_tcpOpen.mpr (decodeV3OpenWithFlags_iff_form.mpr hform)
      rw [h] at hopen
      cases hopen
    · rw [classifyV3FirstChannel_eq_udpMux.mpr hdata] at h
      cases h
    · rw [classifyV3FirstChannel_eq_mux.mpr hdata] at h
      cases h
  · rintro ⟨hopen, hudp, hmux⟩
    cases hc : classifyV3FirstChannel data with
    | tcpOpen host port flags =>
      have hd := classifyV3FirstChannel_eq_tcpOpen.mp hc
      exact absurd (decodeV3OpenWithFlags_iff_form.mp hd) (hopen host port flags)
    | udpMux => exact absurd (classifyV3FirstChannel_eq_udpMux.mp hc) hudp
    | mux => exact absurd (classifyV3FirstChannel_eq_mux.mp hc) hmux
    | notChannelOpen => rfl

/-- **The v3 control language is unambiguous.**  At most one decoder accepts a string; each accepts
exactly the messages of its grammar, with the values they say; an encoding decodes to the value that
was encoded, up to the spelling of a datagram's host, so to the value itself exactly if that
spelling is canonical; and the first channel is classified exactly. -/
theorem v3_control_unambiguous {P : Platform} (hP : P.Lawful) :
    (∀ {data r r' v v'}, V3Reader.read P data r = some v → V3Reader.read P data r' = some v' →
      r = r') ∧
    (∀ {data r v}, V3Reader.read P data r = some v ↔
      v.reader = r ∧ ∃ m : V3Message, m.WellFormed ∧ m.value P = v ∧ data = m.bytes) ∧
    (∀ {data host port}, decodeV3Open data = .ok (host, port) ↔
      ∃ flags, decodeV3OpenWithFlags data = .ok (host, port, flags)) ∧
    (∀ {v data}, V3Value.InRange v → v.encode P = .ok data →
      v.reader.read P data = some (v.canon P) ∧
        (v.reader.read P data = some v ↔ v.canon P = v)) ∧
    (∀ data, (∀ host port flags, classifyV3FirstChannel data = .tcpOpen host port flags ↔
        OpenForm data host port flags) ∧
      (classifyV3FirstChannel data = .udpMux ↔ data = encodeV3UdpMuxOpen) ∧
      (classifyV3FirstChannel data = .mux ↔ data = encodeV3MuxOpen) ∧
      (classifyV3FirstChannel data = .notChannelOpen ↔
        (∀ host port flags, ¬ OpenForm data host port flags) ∧ data ≠ encodeV3UdpMuxOpen ∧
          data ≠ encodeV3MuxOpen)) := by
  refine ⟨V3Reader.reader_unique, V3Reader.read_eq_some, ?_, ?_, ?_⟩
  · intro data host port
    rw [decodeV3Open, map_eq_ok]
    constructor
    · rintro ⟨⟨host', port', flags⟩, hd, heq⟩
      cases heq
      exact ⟨flags, hd⟩
    · rintro ⟨flags, hd⟩
      exact ⟨_, hd, rfl⟩
  · intro v data hr h
    have hread := V3Value.read_encode hP hr h
    refine ⟨hread, ?_⟩
    rw [hread, Option.some.injEq]
  · intro data
    refine ⟨fun host port flags => ?_, classifyV3FirstChannel_eq_udpMux,
      classifyV3FirstChannel_eq_mux, classifyV3FirstChannel_eq_notChannelOpen⟩
    rw [classifyV3FirstChannel_eq_tcpOpen, decodeV3OpenWithFlags_iff_form]

/-- An `OPEN` with its flags, read back. -/
theorem v3_control_unambiguous_open :
    Platform.grouped.Lawful ∧
      V3Reader.read Platform.grouped [2, 0, 1, 0x68, 1, 0xbb, 1, 5] .tcpOpen =
        some (.tcpOpen "h" 443 5) := by
  refine ⟨Platform.grouped_lawful, ?_⟩
  obtain ⟨-, -, -, htrip, -⟩ := v3_control_unambiguous Platform.grouped_lawful
  have hport : 443 < 2 ^ 16 := by decide
  exact (htrip (v := .tcpOpen "h" 443 5) hport (by decide +kernel)).1

/-- **A datagram's host does not come back as it was given.**  The encoder writes the octets of the
address, and the decoder prints them in the canonical spelling. -/
theorem respelled_request :
    Platform.grouped.Lawful ∧ ∃ data,
      encodeUdpReq Platform.grouped 7 upperV6 53 [0x71] = .ok data ∧
        decodeUdpReq Platform.grouped data = .ok (7, lowerV6, 53, [0x71]) ∧ lowerV6 ≠ upperV6 :=
  ⟨Platform.grouped_lawful, _, rfl, by decide +kernel, by decide⟩

end BibaVpn.Wire
