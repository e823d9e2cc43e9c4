/-
# A mux record on the wire, in one buffer and layer by layer

A mux record is three layers deep on the wire: the record (`tcp_mux.rs`), the padded frame
(`frame.rs`) and the sealed packet (`crypto_layer.rs`).  The session's writer does not build the
layers one after another.  It GATHERS header and payload behind the padding, directly in the buffer
that is then encrypted in place; and the readers decrypt in place and cut the payload out by
slicing, draining, copying or borrowing.

* §1 is the record codec, §2 the buffers, §3 the writer and §4 the readers, as the code runs on
  them;
* §5 shows that each of them computes what its layer means (`Wire.PreparedFrame`, `ChaHalf.seal`,
  `openPacket` of the modules below), and that what a reader accepts is what a writer can write;
* §6 puts the layers together.

As before, the random draws are parameters.
-/
import BibaVpn.Lib.Fallible
import BibaVpn.Wire.Crypto

namespace BibaVpn.Wire

open Machine Fallible

/-! ## 1. Mux records -/

/-- `write_mux_record_to`. -/
def writeMuxRecordTo (buf : Bytes) (sid : UInt32) (flags : UInt8) (payload : Bytes) : Bytes :=
  buf ++ toBe 4 sid.toNat ++ [flags] ++ toBe 4 payload.length ++ payload

/-- `encode_mux_record`. -/
def encodeMuxRecord (sid : UInt32) (flags : UInt8) (payload : Bytes) : Bytes :=
  writeMuxRecordTo [] sid flags payload

/-- `mux_record_header`. -/
def muxRecordHeader (data : Bytes) : Except String (UInt32 × UInt8) :=
  match data with
  | s3 :: s2 :: s1 :: s0 :: flags :: l3 :: l2 :: l1 :: l0 :: _ =>
    let plen := fromBe [l3, l2, l1, l0]
    let total := saturatingAdd u64Max 9 plen
    if data.length < total then .error "truncated mux payload"
    else if data.length ≠ total then .error "mux record length mismatch (trailing bytes)"
    else .ok (UInt32.ofNat (fromBe [s3, s2, s1, s0]), flags)
  | _ => .error "short mux record"

/-! ## 2. Buffers -/

/-- `Vec::resize`. -/
def resize (buf : Bytes) (n : Nat) (value : UInt8) : Bytes :=
  buf.take n ++ List.replicate (n - buf.length) value

/-- `fill_bytes(&mut buf[start..])`. -/
def fillBytes (buf : Bytes) (start : Nat) (fill : Nat → UInt8) : Bytes :=
  buf.take start ++ (List.range (buf.length - start)).map fill

/-- `Bytes::slice(start..stop)`. -/
def slice (buf : Bytes) (start stop : Nat) : Bytes := (buf.take stop).drop start

/-- A resized and filled tail is a run of random bytes. -/
theorem fillBytes_resize (buf : Bytes) (n : Nat) (fill : Nat → UInt8) :
    fillBytes (resize buf (buf.length + n) 0) buf.length fill = buf ++ (List.range n).map fill := by
  have htake : (resize buf (buf.length + n) 0).take buf.length = buf := by
    rw [resize, List.take_of_length_le (Nat.le_add_right _ _), List.take_left]
  have hlen : (resize buf (buf.length + n) 0).length - buf.length = n := by
    simp only [resize, List.length_append, List.length_take, List.length_replicate]
    omega
  rw [fillBytes, htake, hlen]

/-- The tail is filled only if there is one. -/
theorem fillBytes_resize_ite (buf : Bytes) (n : Nat) (fill : Nat → UInt8) (P : Prop) [Decidable P]
    (hP : ¬ P → n = 0) :
    (if P then fillBytes (resize buf (buf.length + n) 0) buf.length fill else buf) =
      buf ++ (List.range n).map fill := by
  split
  · exact fillBytes_resize buf n fill
  · rename_i h
    rw [hP h]
    simp

/-! ## 3. The writer -/

namespace InPlace

/-- `PreparedFrame`: the parts to gather, their total length, and the padding length. -/
structure PreparedFrame where
  parts : List Bytes
  len : Nat
  padLen : UInt8

/-- `PreparedFrame::new`, with the adaptive counter it leaves. -/
def PreparedFrame.new (parts : List Bytes) (maxPad : UInt8) (mode : PadMode)
    (adaptive : Option AdaptivePadState) (pick : Nat) :
    Except FrameError (PreparedFrame × Option AdaptivePadState) :=
  match parts.foldlM (fun n part => checkedAdd u64Max n part.length) 0 with
  | none => .error .tooLarge
  | some len =>
    if len > maxPayload ∨ len > 0xFFFFFF then .error .tooLarge
    else
      let base := saturatingAdd u64Max 5 len
      .ok (⟨parts, len, UInt8.ofNat (Wire.padLen maxPad mode adaptive base pick)⟩,
        nextAdaptive maxPad mode adaptive)

/-- `append_to`. -/
def PreparedFrame.appendTo (f : PreparedFrame) (fill : Nat → UInt8) (buf : Bytes) : Bytes :=
  let buf := buf ++ [frameVer]
  let buf := buf ++ [UInt8.ofNat ((f.len >>> 16) &&& 0xFF)]
  let buf := buf ++ [UInt8.ofNat ((f.len >>> 8) &&& 0xFF)]
  let buf := buf ++ [UInt8.ofNat (f.len &&& 0xFF)]
  let buf := buf ++ [f.padLen]
  let buf :=
    if f.padLen > 0 then
      fillBytes (resize buf (buf.length + f.padLen.toNat) 0) buf.length fill
    else buf
  f.parts.foldl (fun buf part => buf ++ part) buf

/-- `write_padded_frame_with_mode_state`, into a buffer that it clears first. -/
def writePaddedFrameWithModeState (payload : Bytes) (maxPad : UInt8) (mode : PadMode)
    (adaptive : Option AdaptivePadState) (coins : PadCoins) :
    Except FrameError (Bytes × Option AdaptivePadState) :=
  (PreparedFrame.new [payload] maxPad mode adaptive coins.pick).map fun r =>
    (r.1.appendTo coins.fill [], r.2)

/-- The cipher on a buffer: decryption in place cannot change a length. -/
structure InPlaceAead extends Aead where
  length_plain : ∀ {nonce text tag plain}, decrypt nonce text tag = some plain →
    plain.length = text.length

/-- The cipher that does nothing, on a buffer. -/
def InPlaceAead.plain : InPlaceAead := ⟨Aead.plain, fun h => by cases h; rfl⟩

/-- `ChaHalf`. -/
structure ChaHalf where
  cipher : InPlaceAead
  ctr : Nat

/-- The half as the layer below has it. -/
def ChaHalf.abs (h : ChaHalf) : Wire.ChaHalf := ⟨h.cipher.toAead, h.ctr⟩

/-- `next_nonce`: the nonce, and the half with the counter advanced. -/
def ChaHalf.nextNonce (h : ChaHalf) : Except String (Bytes × ChaHalf) :=
  if h.ctr = u64Max then .error "chacha nonce space exhausted"
  else .ok (nonceBytes h.ctr, { h with ctr := h.ctr + 1 })

/-- `seal_with`: the buffer is filled from the left and encrypted from its 13th byte on. -/
def ChaHalf.sealWith (h : ChaHalf) (decoyMax : UInt8) (coins : DecoyCoins)
    (append : Bytes → Bytes) : Except String (Bytes × ChaHalf) :=
  let dlen := if decoyMax = 0 then 0 else genRange 0 decoyMax.toNat coins.pick
  h.nextNonce.map fun r =>
    let out := r.1
    let out := out ++ [UInt8.ofNat dlen]
    let resized := resize out (13 + dlen) 0
    let out := if dlen ≠ 0 then fillBytes resized 13 coins.fill else resized
    let out := append out
    let sealed := h.cipher.encrypt r.1 (out.drop 12)
    (out.take 12 ++ sealed.1 ++ sealed.2, r.2)

/-- `ChaHalf::seal`. -/
def ChaHalf.sealInner (h : ChaHalf) (decoyMax : UInt8) (coins : DecoyCoins) (inner : Bytes) :
    Except String (Bytes × ChaHalf) :=
  h.sealWith decoyMax coins fun out => out ++ inner

/-- `SessionCrypto`. -/
structure SessionCrypto where
  c2s : ChaHalf
  s2c : ChaHalf
  decoyMax : UInt8

/-- The half in which an end with this role seals. -/
def SessionCrypto.half (c : SessionCrypto) (client : Bool) : ChaHalf :=
  if client then c.c2s else c.s2c

def SessionCrypto.setHalf (c : SessionCrypto) (client : Bool) (h : ChaHalf) : SessionCrypto :=
  if client then { c with c2s := h } else { c with s2c := h }

/-- `seal_frame`. -/
def SessionCrypto.sealFrame (c : SessionCrypto) (client : Bool) (f : PreparedFrame)
    (pad : PadCoins) (decoy : DecoyCoins) : Except String (Bytes × SessionCrypto) :=
  ((c.half client).sealWith c.decoyMax decoy fun out => f.appendTo pad.fill out).map fun r =>
    (r.1, c.setHalf client r.2)

/-- `seal_client_to_server` and `seal_server_to_client`. -/
def SessionCrypto.sealInner (c : SessionCrypto) (client : Bool) (decoy : DecoyCoins)
    (inner : Bytes) : Except String (Bytes × SessionCrypto) :=
  ((c.half client).sealInner c.decoyMax decoy inner).map fun r => (r.1, c.setHalf client r.2)

/-- The text of a `FrameError`. -/
def displayFrameError : FrameError → String
  | .proto what => "protocol: " ++ what
  | .tooLarge => "payload too large"

/-- What the writer of an endpoint is configured with. -/
structure WriterCfg where
  client : Bool
  maxPad : UInt8
  padMode : PadMode

/-- The random draws of one record. -/
structure RecordCoins where
  pad : PadCoins
  decoy : DecoyCoins

/-- `Endpoint::serialize`: the bytes, and what it leaves of the keys and of the adaptive counter. -/
def serialize (cfg : WriterCfg) (parts : List Bytes) (crypto : Option SessionCrypto)
    (adaptive : AdaptivePadState) (coins : RecordCoins) :
    Except String (Bytes × Option SessionCrypto × Option AdaptivePadState) := do
  let (frame, adaptive) ←
    (PreparedFrame.new parts cfg.maxPad cfg.padMode (some adaptive) coins.pad.pick).mapError
      displayFrameError
  match crypto with
  | some c =>
    let (wire, c) ← c.sealFrame cfg.client frame coins.pad coins.decoy
    .ok (wire, some c, adaptive)
  | none => .ok (frame.appendTo coins.pad.fill [], none, adaptive)

/-- The header that the writer of `run` puts in front of a payload. -/
def muxHeader (sid : UInt32) (flags : UInt8) (payload : Bytes) : Bytes :=
  toBe 4 sid.toNat ++ [flags] ++ toBe 4 payload.length

/-- The same record, one layer after another. -/
def layered (cfg : WriterCfg) (sid : UInt32) (flags : UInt8) (payload : Bytes)
    (crypto : Option SessionCrypto) (adaptive : AdaptivePadState) (coins : RecordCoins) :
    Except String (Bytes × Option SessionCrypto × Option AdaptivePadState) := do
  let (inner, adaptive) ←
    (writePaddedFrameWithModeState (encodeMuxRecord sid flags payload) cfg.maxPad cfg.padMode
      (some adaptive) coins.pad).mapError displayFrameError
  match crypto with
  | some c =>
    let (wire, c) ← c.sealInner cfg.client coins.decoy inner
    .ok (wire, some c, adaptive)
  | none => .ok (inner, none, adaptive)

/-! ## 4. The readers -/

/-- `open_range`: the buffer, decrypted in place, and the range of the inner bytes. -/
def ChaHalf.openRange (h : ChaHalf) (wire : Bytes) : Except String (Bytes × Nat × Nat) :=
  if wire.length < 12 + 16 then .error "short outer packet"
  else
    let stop := wire.length - 16
    match h.cipher.decrypt (wire.take 12) (slice wire 12 stop) (wire.drop stop) with
    | none => .error "chacha decrypt"
    | some plain =>
      let wire := wire.take 12 ++ plain ++ wire.drop stop
      if stop = 12 then .error "empty plaintext"
      else
        let start := 13 + (wire.getD 12 0).toNat
        if start > stop then .error "bad decoy length" else .ok (wire, start, stop)

/-- `open_owned`. -/
def ChaHalf.openOwned (h : ChaHalf) (wire : Bytes) : Except String Bytes :=
  (h.openRange wire).map fun r => slice r.1 r.2.1 r.2.2

/-- `open`: truncate, then drain. -/
def ChaHalf.openCopy (h : ChaHalf) (wire : Bytes) : Except String Bytes :=
  (h.openRange wire).map fun r => (r.1.take r.2.2).drop r.2.1

/-- The `context` that `SessionCrypto` adds to an error of the half in which `client` seals. -/
def contextOf (client : Bool) (e : String) : String :=
  (if client then "chacha decrypt (c2s)" else "chacha decrypt (s2c)") ++ ": " ++ e

/-- `read_padded_frame_borrow`. -/
def readPaddedFrameBorrow (raw : Bytes) : Except FrameError Bytes :=
  (paddedFramePayloadStart raw).map fun start => raw.drop start

/-- `read_padded_frame_bytes`. -/
def readPaddedFrameBytes (raw : Bytes) : Except FrameError Bytes :=
  (paddedFramePayloadStart raw).map fun start => slice raw start raw.length

/-- `read_padded_frame_into`: what `drain(..start)` leaves. -/
def readPaddedFrameInto (raw : Bytes) : Except FrameError Bytes :=
  (paddedFramePayloadStart raw).map fun start => raw.drop start

/-- `read_padded_frame`. -/
def readPaddedFrameCopy (raw : Bytes) : Except FrameError Bytes :=
  (readPaddedFrameBorrow raw).map id

/-- `decode_mux_record`. -/
def decodeMuxRecord (data : Bytes) : Except String (UInt32 × UInt8 × Bytes) :=
  (muxRecordHeader data).map fun r => (r.1, r.2, data.drop 9)

/-- `decode_mux_record_bytes`. -/
def decodeMuxRecordBytes (data : Bytes) : Except String (UInt32 × UInt8 × Bytes) :=
  (muxRecordHeader data).map fun r => (r.1, r.2, slice data 9 data.length)

inductive OpenVariant
  | copy
  | owned
  deriving DecidableEq, Repr

inductive ReadVariant
  | borrow
  | bytes
  | into
  | copy
  deriving DecidableEq, Repr

inductive DecodeVariant
  | copy
  | bytes
  deriving DecidableEq, Repr

/-- One of the ways to read a record. -/
structure Reader where
  opens : OpenVariant
  reads : ReadVariant
  decodes : DecodeVariant

def Reader.openWith (r : Reader) (h : ChaHalf) (wire : Bytes) : Except String Bytes :=
  match r.opens with
  | .copy => h.openCopy wire
  | .owned => h.openOwned wire

def Reader.readWith (r : Reader) (raw : Bytes) : Except FrameError Bytes :=
  match r.reads with
  | .borrow => readPaddedFrameBorrow raw
  | .bytes => readPaddedFrameBytes raw
  | .into => readPaddedFrameInto raw
  | .copy => readPaddedFrameCopy raw

def Reader.decodeWith (r : Reader) (data : Bytes) : Except String (UInt32 × UInt8 × Bytes) :=
  match r.decodes with
  | .copy => decodeMuxRecord data
  | .bytes => decodeMuxRecordBytes data

/-- Open what an end with role `client` has sent; without keys there is nothing to open. -/
def Reader.openRaw (r : Reader) (crypto : Option SessionCrypto) (client : Bool) (wire : Bytes) :
    Except String Bytes :=
  match crypto with
  | some c => (r.openWith (c.half client) wire).mapError (contextOf client)
  | none => .ok wire

/-- Open, unpad and decode what an end with role `client` has sent. -/
def Reader.decode (r : Reader) (crypto : Option SessionCrypto) (client : Bool) (wire : Bytes) :
    Except String (UInt32 × UInt8 × Bytes) := do
  let raw ← r.openRaw crypto client wire
  let inner ← (r.readWith raw).mapError displayFrameError
  r.decodeWith inner

/-! ## 5. Each step is what its layer means -/

theorem lenBytes_eq (n : Nat) :
    [UInt8.ofNat ((n >>> 16) &&& 0xFF), UInt8.ofNat ((n >>> 8) &&& 0xFF),
      UInt8.ofNat (n &&& 0xFF)] = toBe 3 n := by
  have hand : ∀ k, k &&& 0xFF = k % 256 := fun k => Nat.and_two_pow_sub_one_eq_mod k 8
  simp only [hand, Nat.shiftRight_eq_div_pow, toBe, List.nil_append, List.cons_append]
  rw [show n / 2 ^ 16 = n / 256 / 256 by omega]

theorem foldl_append_flatten (parts : List Bytes) (buf : Bytes) :
    parts.foldl (fun buf part => buf ++ part) buf = buf ++ parts.flatten := by
  induction parts generalizing buf with
  | nil => simp
  | cons part parts ih => rw [List.foldl_cons, ih, List.flatten_cons, List.append_assoc]

/-- What `append_to` appends. -/
theorem PreparedFrame.appendTo_eq (f : PreparedFrame) (fill : Nat → UInt8) (buf : Bytes) :
    f.appendTo fill buf =
      buf ++ (frameVer :: toBe 3 f.len ++
        f.padLen :: ((List.range f.padLen.toNat).map fill ++ f.parts.flatten)) := by
  have hpad : ¬ f.padLen > 0 → f.padLen.toNat = 0 := by
    intro h
    rw [gt_iff_lt, UInt8.lt_iff_toNat_lt] at h
    simpa using h
  unfold PreparedFrame.appendTo
  simp only
  rw [fillBytes_resize_ite _ _ _ _ hpad, foldl_append_flatten, ← lenBytes_eq]
  simp

/-- The checked sum of the parts' lengths. -/
theorem foldlM_checkedAdd (parts : List Bytes) {n : Nat} (hn : n ≤ u64Max) :
    parts.foldlM (fun n part => checkedAdd u64Max n part.length) n =
      checkedAdd u64Max n parts.flatten.length := by
  induction parts generalizing n with
  | nil => simp [checkedAdd, hn]
  | cons part parts ih =>
    rw [List.foldlM_cons, List.flatten_cons, List.length_append]
    by_cases h : n + part.length ≤ u64Max
    · rw [show checkedAdd u64Max n part.length = some (n + part.length) from if_pos h]
      show parts.foldlM _ (n + part.length) = _
      rw [ih h]
      unfold checkedAdd
      rw [Nat.add_assoc]
    · rw [show checkedAdd u64Max n part.length = none from if_neg h]
      exact (if_neg (by omega)).symm

/-- **Gathering in place.**  `new` accepts the same parts as the frame layer, and then `append_to`
appends the frame of that layer to whatever is in the buffer. -/
theorem PreparedFrame.new_cases (parts : List Bytes) (maxPad : UInt8) (mode : PadMode)
    (adaptive : Option AdaptivePadState) (coins : PadCoins) :
    (PreparedFrame.new parts maxPad mode adaptive coins.pick = .error .tooLarge ∧
      Wire.PreparedFrame.new parts maxPad mode adaptive coins = .error .tooLarge) ∨
    ∃ f g st, PreparedFrame.new parts maxPad mode adaptive coins.pick = .ok (f, st) ∧
      Wire.PreparedFrame.new parts maxPad mode adaptive coins = .ok (g, st) ∧
      g.payload = parts.flatten ∧ ∀ buf, f.appendTo coins.fill buf = buf ++ g.toBytes := by
  unfold PreparedFrame.new Wire.PreparedFrame.new
  rw [foldlM_checkedAdd parts (Nat.zero_le _)]
  unfold checkedAdd
  rw [Nat.zero_add]
  by_cases h : parts.flatten.length ≤ maxPayload ∧ parts.flatten.length ≤ 0xFFFFFF
  · have hle : parts.flatten.length ≤ u64Max := by unfold u64Max; omega
    have hbase : saturatingAdd u64Max 5 parts.flatten.length = 5 + parts.flatten.length := by
      unfold saturatingAdd u64Max
      omega
    have hlt := padLen_le maxPad mode adaptive (5 + parts.flatten.length) coins.pick
    have hmax := maxPad.toNat_lt
    rw [if_pos hle, dif_pos h]
    simp only [if_neg (show ¬ (parts.flatten.length > maxPayload ∨
      parts.flatten.length > 0xFFFFFF) by
      omega), hbase]
    refine .inr ⟨_, _, _, rfl, rfl, rfl, fun buf => ?_⟩
    have hbyte : (UInt8.ofNat (Wire.padLen maxPad mode adaptive (5 + parts.flatten.length)
        coins.pick)).toNat =
        Wire.padLen maxPad mode adaptive (5 + parts.flatten.length) coins.pick := by
      rw [UInt8.toNat_ofNat']
      exact Nat.mod_eq_of_lt (by omega)
    rw [PreparedFrame.appendTo_eq, Wire.PreparedFrame.toBytes]
    simp only [hbyte, List.length_map, List.length_range]
  · refine .inl ⟨?_, dif_neg h⟩
    split
    · rfl
    · rename_i len hlen
      split at hlen
      · cases hlen
        exact if_pos (by omega)
      · cases hlen

/-- The frame layer sees only the parts put together. -/
theorem new_flatten {parts parts' : List Bytes} (h : parts.flatten = parts'.flatten)
    (maxPad : UInt8) (mode : PadMode) (adaptive : Option AdaptivePadState) (coins : PadCoins) :
    Wire.PreparedFrame.new parts maxPad mode adaptive coins =
      Wire.PreparedFrame.new parts' maxPad mode adaptive coins := by
  unfold Wire.PreparedFrame.new
  simp only [h]

/-- **Sealing in place** is sealing. -/
theorem ChaHalf.sealWith_append (h : ChaHalf) (decoyMax : UInt8) (coins : DecoyCoins)
    (inner : Bytes) :
    (h.sealWith decoyMax coins fun out => out ++ inner) =
      (h.abs.seal decoyMax coins inner).map fun r => (r.1, { h with ctr := r.2.ctr }) := by
  unfold ChaHalf.sealWith ChaHalf.nextNonce Wire.ChaHalf.seal Wire.ChaHalf.nextNonce
  by_cases hc : h.ctr = u64Max
  · rw [if_pos hc, show h.abs.ctr = h.ctr from rfl, if_pos hc]
    rfl
  · rw [if_neg hc, show h.abs.ctr = h.ctr from rfl, if_neg hc]
    simp only [Except.map]
    generalize hd : (if decoyMax = 0 then 0 else genRange 0 decoyMax.toNat coins.pick) = dlen
    have hlen : (nonceBytes h.ctr ++ [UInt8.ofNat dlen]).length = 13 := by simp
    have hdecoy : decoyBytes decoyMax coins = (List.range dlen).map coins.fill := by
      rw [decoyBytes, hd]
    have hbuf : (if dlen ≠ 0 then
          fillBytes (resize (nonceBytes h.ctr ++ [UInt8.ofNat dlen]) (13 + dlen) 0) 13 coins.fill
        else resize (nonceBytes h.ctr ++ [UInt8.ofNat dlen]) (13 + dlen) 0) =
        nonceBytes h.ctr ++ (UInt8.ofNat dlen :: (List.range dlen).map coins.fill) := by
      have hfill := fillBytes_resize (nonceBytes h.ctr ++ [UInt8.ofNat dlen]) dlen coins.fill
      rw [hlen] at hfill
      split
      · rw [hfill, List.append_assoc]
        rfl
      · rename_i h0
        obtain rfl : dlen = 0 := by omega
        rw [resize, List.take_of_length_le (Nat.le_of_eq hlen)]
        simp
    rw [hbuf, hdecoy]
    have hdrop : (nonceBytes h.ctr ++ (UInt8.ofNat dlen :: (List.range dlen).map coins.fill) ++
        inner).drop 12 = UInt8.ofNat dlen :: ((List.range dlen).map coins.fill ++ inner) := by
      rw [List.append_assoc, List.drop_append_of_le_length (by simp),
        List.drop_of_length_le (by simp)]
      rfl
    have htake : (nonceBytes h.ctr ++ (UInt8.ofNat dlen :: (List.range dlen).map coins.fill) ++
        inner).take 12 = nonceBytes h.ctr := by
      rw [List.append_assoc, List.take_append_of_le_length (by simp),
        List.take_of_length_le (by simp)]
    rw [hdrop, htake]
    simp only [Aead.packet, List.length_map, List.length_range]
    rfl

/-- **Opening in place** is opening, whether the range is sliced, or truncated and drained. -/
theorem ChaHalf.openCopy_eq (h : ChaHalf) (wire : Bytes) :
    h.openCopy wire = h.abs.cipher.openPacket wire := by
  unfold ChaHalf.openCopy ChaHalf.openRange Aead.openPacket
  by_cases hshort : wire.length < 12 + 16
  · rw [if_pos hshort, if_pos hshort]
    rfl
  rw [if_neg hshort, if_neg hshort]
  have htext : slice wire 12 (wire.length - 16) =
      (wire.drop 12).take ((wire.drop 12).length - 16) := by
    rw [slice, List.drop_take, List.length_drop, Nat.sub_right_comm]
  have htag : wire.drop (wire.length - 16) = (wire.drop 12).drop ((wire.drop 12).length - 16) := by
    rw [List.drop_drop, List.length_drop]
    congr 1
    omega
  have htextLen : ((wire.drop 12).take ((wire.drop 12).length - 16)).length = wire.length - 28 := by
    simp only [List.length_take, List.length_drop]
    omega
  have habs : ∀ nonce text tag, h.abs.cipher.decrypt nonce text tag =
      h.cipher.decrypt nonce text tag :=
    fun _ _ _ => rfl
  simp only [htext, ← htag, habs]
  cases hplain : h.cipher.decrypt (wire.take 12)
      ((wire.drop 12).take ((wire.drop 12).length - 16)) (wire.drop (wire.length - 16)) with
  | none => rfl
  | some plain =>
    have hlen := h.cipher.length_plain hplain
    rw [htextLen] at hlen
    have h12 : (wire.take 12).length = 12 := by rw [List.length_take]; omega
    cases plain with
    | nil =>
      rw [List.length_nil] at hlen
      simp only [show wire.length - 16 = 12 by omega, if_true]
      rfl
    | cons dlen rest =>
      rw [List.length_cons] at hlen
      have hget : (wire.take 12 ++ dlen :: rest ++ wire.drop (wire.length - 16)).getD 12 0 =
          dlen := by
        rw [List.append_assoc, List.getD_eq_getElem?_getD, List.getElem?_append_right (by omega),
          h12]
        rfl
      simp only [if_neg (show ¬ wire.length - 16 = 12 by omega), hget]
      by_cases hbad : rest.length < dlen.toNat
      · rw [if_pos (by omega), if_pos hbad]
        rfl
      · rw [if_neg (by omega), if_neg hbad]
        simp only [Except.map, Except.ok.injEq]
        have hcut : (wire.take 12 ++ dlen :: rest).length = wire.length - 16 := by
          rw [List.length_append, h12, List.length_cons]
          omega
        rw [List.take_append_of_le_length (by omega), List.take_of_length_le (by omega),
          List.drop_append, h12, List.drop_of_length_le (by omega), List.nil_append,
          show 13 + dlen.toNat - 12 = dlen.toNat + 1 by omega, List.drop_succ_cons]

theorem slice_length (buf : Bytes) (start : Nat) : slice buf start buf.length = buf.drop start := by
  rw [slice, List.take_length]

/-- The two ways to open agree. -/
theorem Reader.openWith_eq (r : Reader) (h : ChaHalf) (wire : Bytes) :
    r.openWith h wire = h.abs.cipher.openPacket wire := by
  rw [← h.openCopy_eq]
  unfold Reader.openWith
  split <;> rfl

/-- The four ways to unpad agree. -/
theorem Reader.readWith_eq (r : Reader) (raw : Bytes) : r.readWith raw = readPaddedFrame raw := by
  cases hr : r.reads <;>
    simp only [Reader.readWith, hr, readPaddedFrameBorrow, readPaddedFrameBytes,
      readPaddedFrameInto, readPaddedFrameCopy, readPaddedFrame, slice_length]
  cases paddedFramePayloadStart raw <;> rfl

/-- The two ways to decode agree. -/
theorem Reader.decodeWith_eq (r : Reader) (data : Bytes) :
    r.decodeWith data = decodeMuxRecord data := by
  cases hr : r.decodes <;>
    simp only [Reader.decodeWith, hr, decodeMuxRecord, decodeMuxRecordBytes, slice_length]

variable {payload wire : Bytes} {sid : UInt32} {flags : UInt8} {crypto : Option SessionCrypto}

/-- **What is accepted as a padded frame is one**, of the payload that is returned. -/
theorem readPaddedFrame_ok_iff {raw : Bytes} :
    readPaddedFrame raw = .ok payload ↔
      ∃ f : Wire.PreparedFrame, raw = f.toBytes ∧ f.payload = payload := by
  constructor
  · intro h
    unfold readPaddedFrame at h
    cases hs : paddedFramePayloadStart raw with
    | error e => rw [hs] at h; cases h
    | ok start =>
      rw [hs] at h
      simp only [Except.map, Except.ok.injEq] at h
      unfold paddedFramePayloadStart at hs
      split at hs
      · rename_i ver l2 l1 l0 rest
        split at hs
        · cases hs
        rename_i hver
        simp only at hs
        split at hs
        · cases hs
        split at hs
        · cases hs
        rename_i padByte tail
        split at hs
        · cases hs
        rename_i hlen
        cases hs
        have hpad := padByte.toNat_lt
        have hfrom := fromBe_lt [l2, l1, l0]
        simp only [List.length_cons, List.length_nil, ne_eq, not_not] at hlen hfrom
        have htail : tail.length = padByte.toNat + fromBe [l2, l1, l0] := by omega
        have hdrop : payload = tail.drop padByte.toNat := by
          rw [← h, Nat.add_comm]
          rfl
        have hplen : payload.length = fromBe [l2, l1, l0] := by
          rw [hdrop, List.length_drop]
          omega
        have htake : (tail.take padByte.toNat).length = padByte.toNat := by
          rw [List.length_take]
          omega
        refine ⟨⟨payload, tail.take padByte.toNat, by omega, by omega⟩, ?_, rfl⟩
        have hbe : toBe 3 payload.length = [l2, l1, l0] := by
          rw [hplen]
          exact toBe_fromBe [l2, l1, l0]
        simp only [Wire.PreparedFrame.toBytes, hbe, htake, UInt8.ofNat_toNat]
        rw [hdrop, List.take_append_drop, Decidable.not_not.mp hver]
        rfl
      · cases hs
  · rintro ⟨f, rfl, rfl⟩
    exact readPaddedFrame_toBytes f

theorem encodeMuxRecord_eq (sid : UInt32) (flags : UInt8) (payload : Bytes) :
    encodeMuxRecord sid flags payload = muxHeader sid flags payload ++ payload := by
  simp [encodeMuxRecord, writeMuxRecordTo, muxHeader]

theorem length_encodeMuxRecord (sid : UInt32) (flags : UInt8) (payload : Bytes) :
    (encodeMuxRecord sid flags payload).length = 9 + payload.length := by
  simp [encodeMuxRecord, writeMuxRecordTo]
  omega

/-- Four bytes, named. -/
theorem toBe_four (n : Nat) : ∃ b3 b2 b1 b0, toBe 4 n = [b3, b2, b1, b0] := ⟨_, _, _, _, rfl⟩

/-- **What is accepted as a mux record is one**, and its length field is exact. -/
theorem decodeMuxRecord_ok_iff {data : Bytes} :
    decodeMuxRecord data = .ok (sid, flags, payload) ↔
      data = encodeMuxRecord sid flags payload ∧ payload.length < 2 ^ 32 := by
  constructor
  · intro h
    unfold decodeMuxRecord at h
    cases hh : muxRecordHeader data with
    | error e => rw [hh] at h; cases h
    | ok r =>
      rw [hh] at h
      unfold muxRecordHeader at hh
      split at hh
      · rename_i s3 s2 s1 s0 f l3 l2 l1 l0 rest
        simp only at hh
        split at hh
        · cases hh
        split at hh
        · cases hh
        rename_i hlen
        cases hh
        cases h
        have hl := fromBe_lt [l3, l2, l1, l0]
        have hsid := fromBe_lt [s3, s2, s1, s0]
        simp only [List.length_cons, List.length_nil, ne_eq, not_not, List.drop_succ_cons,
          List.drop_zero] at hlen hl hsid ⊢
        have hrest : rest.length = fromBe [l3, l2, l1, l0] := by
          unfold saturatingAdd u64Max at hlen
          omega
        refine ⟨?_, by omega⟩
        have hlenBytes : toBe 4 rest.length = [l3, l2, l1, l0] := by
          rw [hrest]
          exact toBe_fromBe [l3, l2, l1, l0]
        have hsidBytes : toBe 4 (UInt32.ofNat (fromBe [s3, s2, s1, s0])).toNat =
            [s3, s2, s1, s0] := by
          rw [UInt32.toNat_ofNat', Nat.mod_eq_of_lt (by omega)]
          exact toBe_fromBe [s3, s2, s1, s0]
        simp only [encodeMuxRecord, writeMuxRecordTo, hlenBytes, hsidBytes]
        rfl
      · cases hh
  · rintro ⟨rfl, hlt⟩
    have hlen := length_encodeMuxRecord sid flags payload
    obtain ⟨s3, s2, s1, s0, hs⟩ := toBe_four sid.toNat
    obtain ⟨l3, l2, l1, l0, hl⟩ := toBe_four payload.length
    have hsid : fromBe [s3, s2, s1, s0] = sid.toNat := by
      rw [← hs, fromBe_toBe (by have := sid.toNat_lt; omega)]
    have hplen : fromBe [l3, l2, l1, l0] = payload.length := by
      rw [← hl, fromBe_toBe (by omega)]
    have hdata : encodeMuxRecord sid flags payload =
        s3 :: s2 :: s1 :: s0 :: flags :: l3 :: l2 :: l1 :: l0 :: payload := by
      simp [encodeMuxRecord, writeMuxRecordTo, hs, hl]
    have hsat : saturatingAdd u64Max 9 payload.length = 9 + payload.length := by
      unfold saturatingAdd u64Max
      omega
    rw [hdata] at hlen ⊢
    simp only [decodeMuxRecord, muxRecordHeader, hplen, hsat, hlen, lt_irrefl, if_false, ne_eq,
      not_true_eq_false, hsid, UInt32.ofNat_toNat, Except.map, List.drop_succ_cons, List.drop_zero]

/-- **What can be opened is a packet**: a nonce, a text and a tag, of which the text decrypts to a
decoy of the announced length and the inner bytes. -/
theorem openPacket_ok_iff {A : Aead} {inner : Bytes} :
    A.openPacket wire = .ok inner ↔
    ∃ nonce text tag decoy, wire = nonce ++ text ++ tag ∧ nonce.length = 12 ∧ tag.length = 16 ∧
      decoy.length ≤ 255 ∧
      A.decrypt nonce text tag = some (UInt8.ofNat decoy.length :: (decoy ++ inner)) := by
  constructor
  · intro h
    unfold Aead.openPacket at h
    split at h
    · cases h
    rename_i hlen
    simp only at h
    split at h
    · cases h
    · cases h
    · rename_i dlen rest hplain
      split at h
      · cases h
      rename_i hd
      cases h
      have htake : (rest.take dlen.toNat).length = dlen.toNat := by
        rw [List.length_take]
        omega
      refine ⟨wire.take 12, (wire.drop 12).take ((wire.drop 12).length - 16),
        (wire.drop 12).drop ((wire.drop 12).length - 16), rest.take dlen.toNat, ?_, ?_, ?_, ?_, ?_⟩
      · rw [List.append_assoc, List.take_append_drop, List.take_append_drop]
      · exact List.length_take_of_le (by omega)
      · simp only [List.length_drop]
        omega
      · have := dlen.toNat_lt
        omega
      · rw [htake, UInt8.ofNat_toNat, List.take_append_drop]
        exact hplain
  · rintro ⟨nonce, text, tag, decoy, rfl, hnonce, htag, hdecoy, hplain⟩
    have hdlen : (UInt8.ofNat decoy.length).toNat = decoy.length := by
      rw [UInt8.toNat_ofNat']
      exact Nat.mod_eq_of_lt (by omega)
    have htake : (nonce ++ text ++ tag).take 12 = nonce := by
      rw [List.append_assoc, ← hnonce, List.take_left]
    have hdrop : (nonce ++ text ++ tag).drop 12 = text ++ tag := by
      rw [List.append_assoc, ← hnonce, List.drop_left]
    have hcut : (text ++ tag).length - 16 = text.length := by
      rw [List.length_append]
      omega
    have hlong : ¬ (nonce ++ text ++ tag).length < 12 + 16 := by
      simp only [List.length_append]
      omega
    simp only [Aead.openPacket, if_neg hlong, htake, hdrop, hcut, List.take_left, List.drop_left,
      hplain, hdlen]
    rw [if_neg (by rw [List.length_append]; omega)]

/-! ## 6. The layers together -/

/-- `muxFrame pad sid flags payload`: version, length, padding, record, all lengths exact. -/
def muxFrame (pad : Bytes) (sid : UInt32) (flags : UInt8) (payload : Bytes) : Bytes :=
  frameVer :: toBe 3 (9 + payload.length) ++
    UInt8.ofNat pad.length :: (pad ++ (muxHeader sid flags payload ++ payload))

/-- The frame of a record. -/
theorem toBytes_eq_muxFrame {f : Wire.PreparedFrame}
    (h : f.payload = encodeMuxRecord sid flags payload) :
    9 + payload.length ≤ 0xFFFFFF ∧ f.toBytes = muxFrame f.pad sid flags payload := by
  have hlen : f.payload.length = 9 + payload.length := by rw [h, length_encodeMuxRecord]
  refine ⟨hlen ▸ f.payload_le, ?_⟩
  rw [Wire.PreparedFrame.toBytes, hlen, h, encodeMuxRecord_eq]
  rfl

/-- The bytes `wire` carry `raw`: sealed under the keys of the half, or as they are. -/
def Carries (crypto : Option SessionCrypto) (client : Bool) (wire raw : Bytes) : Prop :=
  match crypto with
  | none => wire = raw
  | some c => ∃ nonce text tag decoy, wire = nonce ++ text ++ tag ∧ nonce.length = 12 ∧
      tag.length = 16 ∧ decoy.length ≤ 255 ∧
      (c.half client).cipher.decrypt nonce text tag =
        some (UInt8.ofNat decoy.length :: (decoy ++ raw))

/-- The writer of one layer after another writes what the one that gathers writes. -/
theorem serialize_eq_layered (cfg : WriterCfg) (sid : UInt32) (flags : UInt8) (payload : Bytes)
    (crypto : Option SessionCrypto) (adaptive : AdaptivePadState) (coins : RecordCoins) :
    serialize cfg [muxHeader sid flags payload, payload] crypto adaptive coins =
      layered cfg sid flags payload crypto adaptive coins := by
  have hflat : [muxHeader sid flags payload, payload].flatten =
      [encodeMuxRecord sid flags payload].flatten := by
    simp [encodeMuxRecord_eq]
  have hsame := new_flatten hflat cfg.maxPad cfg.padMode (some adaptive) coins.pad
  unfold serialize layered writePaddedFrameWithModeState
  rcases PreparedFrame.new_cases [muxHeader sid flags payload, payload] cfg.maxPad cfg.padMode
      (some adaptive) coins.pad with ⟨hnew, habs⟩ | ⟨f, g, st, hnew, habs, -, happ⟩
  · rcases PreparedFrame.new_cases [encodeMuxRecord sid flags payload] cfg.maxPad cfg.padMode
        (some adaptive) coins.pad with ⟨hnew', -⟩ | ⟨f', g', st', -, habs', -, -⟩
    · rw [hnew, hnew']
      rfl
    · rw [hsame, habs'] at habs
      cases habs
  · rcases PreparedFrame.new_cases [encodeMuxRecord sid flags payload] cfg.maxPad cfg.padMode
        (some adaptive) coins.pad with ⟨-, habs'⟩ | ⟨f', g', st', hnew', habs', -, happ'⟩
    · rw [hsame, habs'] at habs
      cases habs
    · -- both append the same frame
      rw [hsame, habs'] at habs
      cases habs
      rw [hnew, hnew']
      cases crypto with
      | none => simp [Except.map, Except.mapError, bind, Except.bind, happ, happ']
      | some c =>
        simp only [Except.map, Except.mapError, bind, Except.bind, SessionCrypto.sealFrame,
          SessionCrypto.sealInner, ChaHalf.sealInner, happ, happ', List.nil_append]

/-- All readers are one. -/
theorem Reader.decode_eq (r r' : Reader) (crypto : Option SessionCrypto) (client : Bool)
    (wire : Bytes) : r.decode crypto client wire = r'.decode crypto client wire := by
  unfold Reader.decode Reader.openRaw
  simp only [Reader.openWith_eq, Reader.readWith_eq, Reader.decodeWith_eq]

/-- What carries `raw` opens to it, and nothing else does. -/
theorem Reader.open_ok_iff (r : Reader) {client : Bool} {raw : Bytes} :
    r.openRaw crypto client wire = .ok raw ↔ Carries crypto client wire raw := by
  cases crypto with
  | none => simp [Reader.openRaw, Carries]
  | some c =>
    simp only [Reader.openRaw, mapError_eq_ok, Reader.openWith_eq]
    exact openPacket_ok_iff

/-- **The decoding chain accepts exactly the frames of mux records**: version, length, padding, the
nine bytes of the header and the payload, with all lengths exact. -/
theorem Reader.decode_ok_iff (r : Reader) {client : Bool} :
    r.decode crypto client wire = .ok (sid, flags, payload) ↔
      ∃ pad, pad.length ≤ 255 ∧ 9 + payload.length ≤ 0xFFFFFF ∧
        Carries crypto client wire (muxFrame pad sid flags payload) := by
  unfold Reader.decode
  simp only [bind_eq_ok, r.open_ok_iff, mapError_eq_ok, r.readWith_eq, r.decodeWith_eq,
    readPaddedFrame_ok_iff, decodeMuxRecord_ok_iff]
  constructor
  · rintro ⟨raw, hraw, inner, ⟨f, rfl, rfl⟩, hinner, -⟩
    obtain ⟨hle, hframe⟩ := toBytes_eq_muxFrame hinner
    exact ⟨f.pad, f.pad_le, hle, hframe ▸ hraw⟩
  · rintro ⟨pad, hpad, hle, hraw⟩
    have hlen := length_encodeMuxRecord sid flags payload
    let f : Wire.PreparedFrame := ⟨encodeMuxRecord sid flags payload, pad, hlen ▸ hle, hpad⟩
    have hframe : f.toBytes = muxFrame pad sid flags payload :=
      (toBytes_eq_muxFrame (f := f) (h := rfl)).2
    exact ⟨_, hframe ▸ hraw, _, ⟨f, rfl, rfl⟩, rfl, by omega⟩

/-- What the writer puts on the wire: a frame of the record, carried under its keys. -/
theorem serialize_ok {cfg : WriterCfg} {crypto' : Option SessionCrypto}
    {adaptive : AdaptivePadState} {adaptive' : Option AdaptivePadState} {coins : RecordCoins}
    (h : serialize cfg [muxHeader sid flags payload, payload] crypto adaptive coins =
      .ok (wire, crypto', adaptive')) :
    ∃ pad, pad.length ≤ 255 ∧ 9 + payload.length ≤ 0xFFFFFF ∧
      Carries crypto cfg.client wire (muxFrame pad sid flags payload) := by
  unfold serialize at h
  obtain ⟨⟨f, st⟩, hnew, h⟩ := bind_eq_ok.mp h
  rw [mapError_eq_ok] at hnew
  rcases PreparedFrame.new_cases [muxHeader sid flags payload, payload] cfg.maxPad cfg.padMode
      (some adaptive) coins.pad with ⟨hbad, -⟩ | ⟨f', g, st', hnew', -, hpayload, happ⟩
  · rw [hbad] at hnew
    cases hnew
  rw [hnew'] at hnew
  cases hnew
  have hrec : g.payload = encodeMuxRecord sid flags payload := by
    rw [hpayload, encodeMuxRecord_eq]
    simp
  obtain ⟨hle, hframe⟩ := toBytes_eq_muxFrame hrec
  refine ⟨g.pad, g.pad_le, hle, ?_⟩
  rw [← hframe]
  cases crypto with
  | none =>
    cases h
    show f.appendTo coins.pad.fill [] = g.toBytes
    rw [happ, List.nil_append]
  | some c =>
    obtain ⟨⟨w, c'⟩, hseal, h⟩ := bind_eq_ok.mp h
    cases h
    simp only [SessionCrypto.sealFrame, happ, ChaHalf.sealWith_append] at hseal
    cases hs : (c.half cfg.client).abs.seal c.decoyMax coins.decoy g.toBytes with
    | error e => rw [hs] at hseal; cases hseal
    | ok res =>
      rw [hs] at hseal
      cases hseal
      exact openPacket_ok_iff.mp (@Wire.ChaHalf.open_seal _ res.2 _ _ _ _ hs)

/-- The cipher under the key of the half in which `client` seals, if the session has keys. -/
def cipherOf (crypto : Option SessionCrypto) (client : Bool) : Option InPlaceAead :=
  crypto.map fun c => (c.half client).cipher

/-- Only the key matters for what is carried: both ends of a session have the same. -/
theorem Carries.of_cipher {peer : Option SessionCrypto} {client : Bool} {raw : Bytes}
    (hkeys : cipherOf peer client = cipherOf crypto client) (h : Carries crypto client wire raw) :
    Carries peer client wire raw := by
  cases crypto with
  | none =>
    cases peer with
    | none => exact h
    | some c => cases hkeys
  | some c =>
    cases peer with
    | none => cases hkeys
    | some c' =>
      have hcipher : (c'.half client).cipher = (c.half client).cipher := Option.some.inj hkeys
      simp only [Carries, hcipher] at h ⊢
      exact h

/-- A record that fits is prepared. -/
theorem PreparedFrame.new_of_fits (sid : UInt32) (flags : UInt8) (maxPad : UInt8) (mode : PadMode)
    (adaptive : Option AdaptivePadState) (coins : PadCoins) (hle : 9 + payload.length ≤ 0xFFFFFF) :
    ∃ f st, PreparedFrame.new [muxHeader sid flags payload, payload] maxPad mode adaptive
      coins.pick = .ok (f, st) := by
  have hlen : [muxHeader sid flags payload, payload].flatten.length = 9 + payload.length := by
    rw [← length_encodeMuxRecord sid flags payload, encodeMuxRecord_eq]
    simp
  rcases PreparedFrame.new_cases [muxHeader sid flags payload, payload] maxPad mode adaptive
    coins with ⟨-, habs⟩ | ⟨f, g, st, hnew, -, -, -⟩
  · unfold Wire.PreparedFrame.new at habs
    rw [dif_pos (by rw [hlen]; exact ⟨by unfold maxPayload; omega, hle⟩)] at habs
    cases habs
  · exact ⟨f, st, hnew⟩

/-- A record that fits is written, while there are nonces. -/
theorem serialize_total (cfg : WriterCfg) (sid : UInt32) (flags : UInt8)
    (adaptive : AdaptivePadState) (coins : RecordCoins) (hle : 9 + payload.length ≤ 0xFFFFFF)
    (hctr : ∀ c, crypto = some c → (c.half cfg.client).ctr ≠ u64Max) :
    ∃ out, serialize cfg [muxHeader sid flags payload, payload] crypto adaptive coins =
      .ok out := by
  obtain ⟨f, st, hnew⟩ := PreparedFrame.new_of_fits sid flags cfg.maxPad cfg.padMode (some adaptive)
    coins.pad hle
  unfold serialize
  rw [hnew]
  cases crypto with
  | none => exact ⟨_, rfl⟩
  | some c =>
    simp only [SessionCrypto.sealFrame, ChaHalf.sealWith, ChaHalf.nextNonce, if_neg (hctr c rfl)]
    exact ⟨_, rfl⟩

/-- Without nonces it fails. -/
theorem serialize_exhausted (cfg : WriterCfg) (sid : UInt32) (flags : UInt8) {c : SessionCrypto}
    (adaptive : AdaptivePadState) (coins : RecordCoins) (hle : 9 + payload.length ≤ 0xFFFFFF)
    (hctr : (c.half cfg.client).ctr = u64Max) :
    serialize cfg [muxHeader sid flags payload, payload] (some c) adaptive coins =
      .error "chacha nonce space exhausted" := by
  obtain ⟨f, st, hnew⟩ := PreparedFrame.new_of_fits sid flags cfg.maxPad cfg.padMode (some adaptive)
    coins.pad hle
  unfold serialize
  rw [hnew]
  simp only [SessionCrypto.sealFrame, ChaHalf.sealWith, ChaHalf.nextNonce, if_pos hctr]
  rfl

/-- The length of a serialized record: payload, header and overhead at most. -/
theorem length_serialize_le {cfg : WriterCfg} {crypto' : Option SessionCrypto} {decoyMax : UInt8}
    {adaptive : AdaptivePadState} {adaptive' : Option AdaptivePadState} {coins : RecordCoins}
    (hd : ∀ c, crypto = some c → c.decoyMax = decoyMax)
    (h : serialize cfg [muxHeader sid flags payload, payload] crypto adaptive coins =
      .ok (wire, crypto', adaptive')) :
    wire.length ≤ payload.length + 9 + wsOverhead crypto.isSome decoyMax cfg.maxPad := by
  unfold serialize at h
  obtain ⟨⟨f, st⟩, hnew, h⟩ := bind_eq_ok.mp h
  rw [mapError_eq_ok] at hnew
  rcases PreparedFrame.new_cases [muxHeader sid flags payload, payload] cfg.maxPad
      cfg.padMode (some adaptive) coins.pad with ⟨hbad, -⟩ | ⟨f', g, st', hnew', habs, -, happ⟩
  · rw [hbad] at hnew
    cases hnew
  rw [hnew'] at hnew
  cases hnew
  have hflat : [muxHeader sid flags payload, payload].flatten.length = payload.length + 9 := by
    have hlen := length_encodeMuxRecord sid flags payload
    rw [encodeMuxRecord_eq] at hlen
    rw [List.flatten_cons, List.flatten_singleton, hlen, Nat.add_comm]
  have hwire := Wire.PreparedFrame.wireLen_of_new habs
  have hpad := padLen_le cfg.maxPad cfg.padMode (some adaptive)
    (5 + [muxHeader sid flags payload, payload].flatten.length) coins.pad.pick
  rw [hflat] at hwire hpad
  cases crypto with
  | none =>
    cases h
    rw [happ, List.nil_append, Wire.PreparedFrame.length_toBytes, hwire]
    simp only [wsOverhead, Option.isSome_none, Bool.false_eq_true, if_false]
    omega
  | some c =>
    obtain ⟨⟨w, c'⟩, hseal, h⟩ := bind_eq_ok.mp h
    cases h
    simp only [SessionCrypto.sealFrame, happ, ChaHalf.sealWith_append] at hseal
    obtain ⟨⟨w', half⟩, hmap, heq⟩ := map_eq_ok.mp hseal
    cases heq
    obtain ⟨⟨w'', half'⟩, hs, heq⟩ := map_eq_ok.mp hmap
    cases heq
    have hdecoy := length_decoyBytes_le c.decoyMax coins.decoy
    rw [hd c rfl] at hdecoy hs
    rw [Wire.ChaHalf.length_seal hs, Wire.PreparedFrame.length_toBytes, hwire]
    simp only [wsOverhead, Option.isSome_some, if_true]
    omega

/-- **The fused path refines the layered one, and round-trips.**  For every record and every random
choice: gathering and sealing in place writes the same bytes (or fails in the same way) as encoding,
padding and sealing one after another.  A record that fits is written.  Whatever is written is read
back exactly by every reader that has the key.  Every reader accepts exactly the frames of mux
records, and all readers agree on every input. -/
theorem fused_wire_path (cfg : WriterCfg) (sid : UInt32) (flags : UInt8) (payload : Bytes)
    (crypto : Option SessionCrypto) (adaptive : AdaptivePadState) (coins : RecordCoins) :
    serialize cfg [muxHeader sid flags payload, payload] crypto adaptive coins =
      layered cfg sid flags payload crypto adaptive coins ∧
    (9 + payload.length ≤ 0xFFFFFF →
      (∀ c, crypto = some c → (c.half cfg.client).ctr ≠ u64Max) →
      ∃ out, serialize cfg [muxHeader sid flags payload, payload] crypto adaptive coins = .ok out) ∧
    (∀ wire crypto' adaptive',
      serialize cfg [muxHeader sid flags payload, payload] crypto adaptive coins =
        .ok (wire, crypto', adaptive') →
      ∀ (r : Reader) (peer : Option SessionCrypto),
        cipherOf peer cfg.client = cipherOf crypto cfg.client →
        r.decode peer cfg.client wire = .ok (sid, flags, payload)) ∧
    (∀ (r : Reader) (client : Bool) (wire : Bytes),
      r.decode crypto client wire = .ok (sid, flags, payload) ↔
        ∃ pad, pad.length ≤ 255 ∧ 9 + payload.length ≤ 0xFFFFFF ∧
          Carries crypto client wire (muxFrame pad sid flags payload)) ∧
    ∀ (r r' : Reader) (client : Bool) (wire : Bytes),
      r.decode crypto client wire = r'.decode crypto client wire := by
  refine ⟨serialize_eq_layered cfg sid flags payload crypto adaptive coins,
    serialize_total cfg sid flags adaptive coins, ?_, fun r client wire => r.decode_ok_iff,
    fun r r' client wire => r.decode_eq r' crypto client wire⟩
  intro wire crypto' adaptive' h r peer hkeys
  obtain ⟨pad, hpad, hle, hcarries⟩ := serialize_ok h
  exact r.decode_ok_iff.mpr ⟨pad, hpad, hle, hcarries.of_cipher hkeys⟩

/-- A session that hides nothing, for an evaluation. -/
def plainSession : SessionCrypto := ⟨⟨.plain, 0⟩, ⟨.plain, 0⟩, 3⟩

/-- A record without payload, behind two bytes of padding and one of decoy. -/
theorem fused_wire_path_empty :
    ∃ wire c st, serialize ⟨true, 255, .random⟩ [muxHeader 7 4 [], []] (some plainSession) ⟨0⟩
        ⟨⟨2, fun _ => 9⟩, ⟨1, fun _ => 8⟩⟩ = .ok (wire, c, st) ∧
      wire.length = 46 ∧
      Reader.decode ⟨.owned, .bytes, .bytes⟩ (some plainSession) true wire = .ok (7, 4, []) := by
  refine ⟨_, _, _, rfl, by decide, ?_⟩
  exact (fused_wire_path ⟨true, 255, .random⟩ 7 4 [] (some plainSession) ⟨0⟩
    ⟨⟨2, fun _ => 9⟩, ⟨1, fun _ => 8⟩⟩).2.2.1 _ _ _ rfl _ _ rfl

end InPlace

end BibaVpn.Wire
