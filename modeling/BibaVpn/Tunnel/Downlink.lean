/-
# The downlink of a dedicated tunnel

Without the mux a connection has a WebSocket of its own (`--no-mux`, and the fallback when the
mux is full).  The server answers `OPEN` with the status frame `OPEN_OK` and then sends what it
reads from the target, chunk by chunk, as padded and sealed frames (`bridge_ws_tcp_padded`, the
`down` half).  The client waits for the status (`wait_open_status_or_payload`) and then writes the
payload of every frame to the local socket (the `up` half with `TunnelEnd::Client`).

Status frames and TCP payload share one untagged plaintext space.  The `up` half therefore looks
at the CONTENT of every frame of the tunnel's whole life (`filterClientDownlink`): a payload that
reads as `OPEN_OK` is dropped, and one that reads as `OPEN_ERR` ends the tunnel.

* §1 and §2 are the two ends; §3 is what one frame becomes at the client.
* §4 is the exact result: the client writes what the server read IF AND ONLY IF no chunk is such a
  string and no frame exceeds the client's size limit; and `open_ok_byte_dropped`, the one-byte
  chunk that vanishes.
-/
import BibaVpn.Lib.Fallible
import BibaVpn.Wire.Control
import BibaVpn.Wire.Crypto

namespace BibaVpn.Tunnel

open Machine Wire

/-! ## 1. The server's end -/

/-- What `bridge_ws_tcp_padded` is configured with. -/
structure BridgeCfg where
  maxPad : UInt8
  decoyMax : UInt8
  padMode : PadMode
  maxWsBinary : Nat

/-- The payload that fits the cap in the worst case. -/
def BridgeCfg.maxTcpPayload (cfg : BridgeCfg) (v2 : Bool) : Nat :=
  maxTcpPayloadPerWsMessage v2 cfg.decoyMax cfg.maxPad cfg.maxWsBinary

/-- `max_chunk`. -/
def BridgeCfg.maxChunk (cfg : BridgeCfg) (v2 : Bool) : Nat := max (cfg.maxTcpPayload v2) 256

/-- `while off < n`: one read, cut into chunks of at most `size`.  The second argument bounds the
number of rounds. -/
def cut (size : Nat) : Nat → Bytes → List Bytes
  | 0, _ => []
  | _ + 1, [] => []
  | k + 1, b :: bs => (b :: bs).take size :: cut size k ((b :: bs).drop size)

/-- The chunks the `down` half sends for a sequence of reads, with encryption. -/
def downChunks (cfg : BridgeCfg) (reads : List Bytes) : List Bytes :=
  reads.flatMap fun r => cut (cfg.maxChunk true) r.length r

/-- Pad and seal one payload, as the status, the data and the dummy frames all are: the packet,
and the cipher half and padding state it leaves. -/
def padAndSeal (cfg : BridgeCfg) (half : ChaHalf) (adaptive : AdaptivePadState) (pad : PadCoins)
    (decoy : DecoyCoins) (payload : Bytes) :
    Except String (Bytes × ChaHalf × Option AdaptivePadState) :=
  match PreparedFrame.new [payload] cfg.maxPad cfg.padMode (some adaptive) pad with
  | .error _ => .error "pack frame"
  | .ok (frame, adaptive') =>
    (half.seal cfg.decoyMax decoy frame.toBytes).map fun r => (r.1, r.2, adaptive')

/-- A frame on the wire: its payload, and the packet that some state of the sender made of it. -/
structure SealedFrame (A : Aead) (cfg : BridgeCfg) where
  payload : Bytes
  blob : Bytes
  made : ∃ half adaptive pad decoy rest, half.cipher = A ∧
    padAndSeal cfg half adaptive pad decoy payload = .ok (blob, rest)

/-- What the server puts on the WebSocket after the status: data frames, the empty frames of the
`dummy` task, pings and pongs, in any order. -/
inductive Item (A : Aead) (cfg : BridgeCfg)
  | frame (f : SealedFrame A cfg)
  | ping (payload : Bytes)
  | pong (payload : Bytes)

/-- `Message`. -/
inductive Message
  | binary (blob : Bytes)
  | ping (payload : Bytes)
  | pong (payload : Bytes)
  | close
  | text (s : String)
  deriving DecidableEq, Repr

section

variable {A : Aead} {cfg : BridgeCfg}

def Item.message : Item A cfg → Message
  | .frame f => .binary f.blob
  | .ping p => .ping p
  | .pong p => .pong p

/-- The frames of a sequence of items. -/
def frames (items : List (Item A cfg)) : List (SealedFrame A cfg) :=
  items.filterMap fun
    | .frame f => some f
    | _ => none

/-- The payloads of the data frames: a dummy's payload is empty, a chunk never is. -/
def sentChunks (items : List (Item A cfg)) : List Bytes :=
  ((frames items).map SealedFrame.payload).filter fun p => p ≠ []

end

/-! ## 2. The client's end -/

/-- `OpenWait`. -/
inductive OpenWait
  | ok
  | err (reason : String)
  | payload (bytes : Bytes)
  deriving DecidableEq, Repr

/-- `classify_open_wait_inner`. -/
def classifyOpenWaitInner (inner : Bytes) : OpenWait :=
  if isV3OpenOk inner then .ok
  else match decodeV3OpenErr inner with
    | .ok err => .err err
    | .error _ => .payload inner

/-- `WsBridgePrefetch`. -/
inductive WsBridgePrefetch
  | ws (m : Message)
  | openedPayload (bytes : Bytes)
  deriving DecidableEq, Repr

/-- `open_server_to_client` followed by `read_padded_frame_into`. -/
def openFrame (A : Aead) (decrypt padded : String) (blob : Bytes) : Except String Bytes :=
  match A.openPacket blob with
  | .error _ => .error decrypt
  | .ok raw =>
    match readPaddedFrame raw with
    | .error _ => .error padded
    | .ok inner => .ok inner

/-- `wait_open_status_or_payload` under its timeout: at most `patience` messages are handled before
`OPEN_STATUS_WAIT` has passed.  The result is the prefetch and what is left on the WebSocket. -/
def waitOpenStatusOrPayload (A : Aead) :
    Nat → List Message → Except String (List WsBridgePrefetch × List Message)
  | 0, ms => .ok ([], ms)
  | _ + 1, [] => .error "eof before OPEN result"
  | _ + 1, .binary b :: ms =>
    (openFrame A "decrypt OPEN status" "padded OPEN status" b).bind fun inner =>
      match classifyOpenWaitInner inner with
      | .ok => .ok ([], ms)
      | .err e => .error s!"remote OPEN failed: {e}"
      | .payload p => .ok ([.openedPayload p], ms)
  | k + 1, .ping _ :: ms => waitOpenStatusOrPayload A k ms
  | k + 1, .pong _ :: ms => waitOpenStatusOrPayload A k ms
  | _ + 1, .close :: _ => .error "closed before OPEN result"
  | _ + 1, .text s :: ms => .ok ([.ws (.text s)], ms)

/-- `filter_client_downlink`. -/
def filterClientDownlink (inner : Bytes) : Except String (Option Bytes) :=
  if isV3OpenOk inner then .ok none
  else match decodeV3OpenErr inner with
    | .ok err => .error s!"remote OPEN failed: {err}"
    | .error _ => .ok (some inner)

/-- One WebSocket binary in the `up` half of the client: what it writes to the local socket. -/
def handleBinary (A : Aead) (maxWsBinary : Nat) (b : Bytes) : Except String Bytes :=
  if isOpenOk b then .ok []
  else match decodeOpenErr b with
    | .ok err => .error s!"remote OPEN failed: {err}"
    | .error _ =>
      if b.length > saturatingMul u64Max maxWsBinary 4 then
        .error s!"oversized WS binary from peer (>{saturatingMul u64Max maxWsBinary 4})"
      else
        (openFrame A "v2 open s2c" "padded frame" b).bind fun inner =>
          (filterClientDownlink inner).map fun o => o.getD []

/-- The `up` half of the client on the WebSocket: what it writes, and how it ends. -/
def upMessages (A : Aead) (maxWsBinary : Nat) : List Message → Bytes × Except String Unit
  | [] => ([], .ok ())
  | .binary b :: ms =>
    match handleBinary A maxWsBinary b with
    | .error e => ([], .error e)
    | .ok bytes =>
      let r := upMessages A maxWsBinary ms
      (bytes ++ r.1, r.2)
  | .close :: _ => ([], .ok ())
  | .ping _ :: ms => upMessages A maxWsBinary ms
  | .pong _ :: ms => upMessages A maxWsBinary ms
  | .text _ :: ms => upMessages A maxWsBinary ms

/-- The `up` half of the client: first the prefetch, then the WebSocket. -/
def up (A : Aead) (maxWsBinary : Nat) :
    List WsBridgePrefetch → List Message → Bytes × Except String Unit
  | [], ms => upMessages A maxWsBinary ms
  | .openedPayload bytes :: pre, ms =>
    let r := up A maxWsBinary pre ms
    (bytes ++ r.1, r.2)
  | .ws (.binary b) :: pre, ms =>
    match handleBinary A maxWsBinary b with
    | .error e => ([], .error e)
    | .ok bytes =>
      let r := up A maxWsBinary pre ms
      (bytes ++ r.1, r.2)
  | .ws .close :: _, _ => ([], .ok ())
  | .ws _ :: pre, ms => up A maxWsBinary pre ms

/-- The client's whole path: wait for the status, then bridge. -/
def clientDownlink (A : Aead) (maxWsBinary patience : Nat) (ms : List Message) :
    Bytes × Except String Unit :=
  match waitOpenStatusOrPayload A patience ms with
  | .error e => ([], .error e)
  | .ok (pre, rest) => up A maxWsBinary pre rest

/-! ## 3. What becomes of one frame -/

section

variable {A : Aead} {cfg : BridgeCfg}

/-- The frame's packet, opened: the prepared frame it was made from has the payload. -/
theorem SealedFrame.exists_packet (f : SealedFrame A cfg) :
    ∃ (p : PreparedFrame) (c : Nat) (decoy : Bytes), p.payload = f.payload ∧
      decoy.length ≤ 255 ∧ f.blob = A.packet c decoy p.toBytes := by
  obtain ⟨half, adaptive, pad, decoy, rest, rfl, hmade⟩ := f.made
  unfold padAndSeal at hmade
  split at hmade
  · cases hmade
  · rename_i frame adaptive' hnew
    have hpay : frame.payload = f.payload := by
      unfold PreparedFrame.new at hnew
      split at hnew
      · cases hnew
        exact List.append_nil _
      · cases hnew
    obtain ⟨⟨wire, half'⟩, hseal, heq⟩ := Fallible.map_eq_ok.mp hmade
    have hblob : wire = f.blob := congrArg Prod.fst heq
    have hd := length_decoyBytes_le cfg.decoyMax decoy
    have := cfg.decoyMax.toNat_lt
    exact ⟨frame, half.ctr, decoyBytes cfg.decoyMax decoy, hpay, by omega,
      hblob.symm.trans (ChaHalf.seal_eq_ok hseal)⟩

theorem SealedFrame.openFrame_blob (f : SealedFrame A cfg) (decrypt padded : String) :
    openFrame A decrypt padded f.blob = .ok f.payload := by
  obtain ⟨p, c, decoy, hp, hd, hb⟩ := f.exists_packet
  simp only [openFrame, hb, A.openPacket_packet c hd, readPaddedFrame_toBytes, hp]

/-- The frames that reach the local socket: within the size limit, and neither status. -/
def Passes (maxWsBinary : Nat) (f : SealedFrame A cfg) : Prop :=
  f.blob.length ≤ saturatingMul u64Max maxWsBinary 4 ∧ isV3OpenOk f.payload = false ∧
    ∀ e, decodeV3OpenErr f.payload ≠ .ok e

/-- At the client a sealed frame is never a legacy result: only its size and its payload count. -/
theorem handleBinary_frame (maxWsBinary : Nat) (f : SealedFrame A cfg)
    (hsize : f.blob.length ≤ saturatingMul u64Max maxWsBinary 4) :
    handleBinary A maxWsBinary f.blob =
      (filterClientDownlink f.payload).map fun o => o.getD [] := by
  obtain ⟨p, c, decoy, -, -, hb⟩ := f.exists_packet
  obtain ⟨rest, hzero⟩ := A.packet_eq_zero_cons c decoy p.toBytes
  obtain ⟨hok, herr⟩ := not_legacy_result rest
  unfold handleBinary
  rw [if_neg (by rw [hb, hzero, hok]; exact Bool.false_ne_true)]
  split
  · rename_i e he
    rw [hb, hzero] at he
    exact absurd he (herr e)
  · rw [if_neg (Nat.not_lt.mpr hsize), f.openFrame_blob]
    rfl

variable {f : SealedFrame A cfg} {maxWsBinary : Nat}

theorem handleBinary_of_passes (h : Passes maxWsBinary f) :
    handleBinary A maxWsBinary f.blob = .ok f.payload := by
  obtain ⟨hsize, hok, herr⟩ := h
  rw [handleBinary_frame maxWsBinary f hsize, filterClientDownlink, hok]
  simp only [Bool.false_eq_true, if_false]
  split
  · rename_i e he
    exact absurd he (herr e)
  · rfl

/-- A frame beyond the size limit ends the bridge. -/
theorem handleBinary_of_oversized (hsize : ¬ f.blob.length ≤ saturatingMul u64Max maxWsBinary 4) :
    ∃ e, handleBinary A maxWsBinary f.blob = .error e := by
  obtain ⟨p, c, decoy, -, -, hblob⟩ := f.exists_packet
  obtain ⟨rest, hzero⟩ := A.packet_eq_zero_cons c decoy p.toBytes
  obtain ⟨hok, herr⟩ := not_legacy_result rest
  unfold handleBinary
  rw [if_neg (by rw [hblob, hzero, hok]; exact Bool.false_ne_true)]
  split
  · exact ⟨_, rfl⟩
  · rw [if_pos (Nat.lt_of_not_le hsize)]
    exact ⟨_, rfl⟩

/-- A frame that does not pass either ends the bridge or is dropped with a payload of one byte. -/
theorem handleBinary_of_not_passes {bytes : Bytes} (h : ¬ Passes maxWsBinary f)
    (hb : handleBinary A maxWsBinary f.blob = .ok bytes) :
    bytes = [] ∧ f.payload = [v3CtrlOpenOk] := by
  by_cases hsize : f.blob.length ≤ saturatingMul u64Max maxWsBinary 4
  · rw [handleBinary_frame maxWsBinary f hsize, filterClientDownlink] at hb
    cases hok : isV3OpenOk f.payload with
    | true =>
      rw [hok] at hb
      simp only [if_true, Except.map, Option.getD_none, Except.ok.injEq] at hb
      exact ⟨hb.symm, by simpa [isV3OpenOk] using hok⟩
    | false =>
      rw [hok] at hb
      simp only [Bool.false_eq_true, if_false] at hb
      split at hb
      · cases hb
      · rename_i e he
        exact absurd ⟨hsize, hok, fun e' he' => by rw [he] at he'; cases he'⟩ h
  · obtain ⟨e, he⟩ := handleBinary_of_oversized hsize
    rw [he] at hb
    cases hb

end

/-! ## 4. The whole downlink -/

section

variable {A : Aead} {cfg : BridgeCfg}

/-- The payload bytes of a sequence of items, in order. -/
def payloadBytes (items : List (Item A cfg)) : Bytes :=
  ((frames items).map SealedFrame.payload).flatten

theorem frames_cons_frame (f : SealedFrame A cfg) (items : List (Item A cfg)) :
    frames (.frame f :: items) = f :: frames items := rfl

/-- What the bridge writes is never longer than what was sent. -/
theorem upMessages_length_le (maxWsBinary : Nat) : ∀ (items : List (Item A cfg)),
    (upMessages A maxWsBinary (items.map Item.message)).1.length ≤ (payloadBytes items).length
  | [] => Nat.le_refl 0
  | .ping _ :: items => upMessages_length_le maxWsBinary items
  | .pong _ :: items => upMessages_length_le maxWsBinary items
  | .frame f :: items => by
    have ih := upMessages_length_le maxWsBinary items
    simp only [List.map_cons, Item.message, upMessages, payloadBytes, frames_cons_frame,
      List.flatten_cons, List.length_append]
    split
    · exact Nat.zero_le _
    · rename_i bytes hb
      simp only [List.length_append]
      by_cases hp : Passes maxWsBinary f
      · rw [handleBinary_of_passes hp] at hb
        cases hb
        exact Nat.add_le_add_left ih _
      · rw [(handleBinary_of_not_passes hp hb).1]
        exact Nat.add_le_add (Nat.zero_le _) ih

/-- **The bridge writes all payload bytes and ends well IF AND ONLY IF every frame passes.** -/
theorem upMessages_eq_iff (maxWsBinary : Nat) : ∀ (items : List (Item A cfg)),
    upMessages A maxWsBinary (items.map Item.message) = (payloadBytes items, .ok ()) ↔
      ∀ f ∈ frames items, Passes maxWsBinary f
  | [] => by simp [upMessages, payloadBytes, frames]
  | .ping _ :: items => upMessages_eq_iff maxWsBinary items
  | .pong _ :: items => upMessages_eq_iff maxWsBinary items
  | .frame f :: items => by
    have ih := upMessages_eq_iff maxWsBinary items
    have hle := upMessages_length_le maxWsBinary items
    rw [frames_cons_frame, List.forall_mem_cons, ← ih]
    simp only [List.map_cons, Item.message, upMessages, payloadBytes, frames_cons_frame,
      List.flatten_cons]
    by_cases hp : Passes maxWsBinary f
    · simp only [handleBinary_of_passes hp, Prod.ext_iff, List.append_cancel_left_eq, hp, true_and]
    · constructor
      · intro h
        exfalso
        split at h
        · exact absurd (congrArg Prod.snd h) (by simp)
        · rename_i bytes hb
          -- dropped: the rest cannot make up for the missing byte
          obtain ⟨rfl, hpay⟩ := handleBinary_of_not_passes hp hb
          have hlen := congrArg (fun r => r.1.length) h
          simp only [List.nil_append, hpay, List.length_append, List.length_singleton] at hlen
          simp only [payloadBytes] at hle
          omega
      · exact fun h => absurd h.1 hp

theorem BridgeCfg.maxChunk_pos (cfg : BridgeCfg) (v2 : Bool) : 0 < cfg.maxChunk v2 :=
  lt_of_lt_of_le (by omega) (le_max_right _ 256)

/-- Cutting a read into chunks loses nothing. -/
theorem flatten_cut {size : Nat} (hpos : 0 < size) : ∀ (k : Nat) (r : Bytes), r.length ≤ k →
    (cut size k r).flatten = r
  | 0, r, h => by rw [List.length_eq_zero_iff.mp (Nat.le_zero.mp h)]; rfl
  | k + 1, [], _ => rfl
  | k + 1, b :: bs, h => by
    have hlen : ((b :: bs).drop size).length ≤ k := by
      rw [List.length_drop]
      omega
    rw [cut, List.flatten_cons, flatten_cut hpos k _ hlen, List.take_append_drop]

theorem flatten_downChunks (cfg : BridgeCfg) (reads : List Bytes) :
    (downChunks cfg reads).flatten = reads.flatten := by
  induction reads with
  | nil => rfl
  | cons r rs ih =>
    rw [downChunks] at ih ⊢
    rw [List.flatMap_cons, List.flatten_append, List.flatten_cons, ih,
      flatten_cut (cfg.maxChunk_pos true) _ r (Nat.le_refl _)]

/-- Dummy frames carry nothing. -/
theorem payloadBytes_eq (items : List (Item A cfg)) :
    payloadBytes items = (sentChunks items).flatten := by
  simp only [payloadBytes, sentChunks]
  exact List.flatten_filter_ne_nil.symm

/-- The status frame in the bridge, when the wait for it has timed out: dropped, if it is within
the size limit. -/
theorem upMessages_status (maxWsBinary : Nat) {status : SealedFrame A cfg}
    (hs : status.payload = encodeV3OpenOk) (w : Bytes) (ms : List Message) :
    upMessages A maxWsBinary (.binary status.blob :: ms) = (w, .ok ()) ↔
      status.blob.length ≤ saturatingMul u64Max maxWsBinary 4 ∧
        upMessages A maxWsBinary ms = (w, .ok ()) := by
  by_cases hsize : status.blob.length ≤ saturatingMul u64Max maxWsBinary 4
  · have hb : handleBinary A maxWsBinary status.blob = .ok [] := by
      rw [handleBinary_frame maxWsBinary status hsize, hs]
      rfl
    simp [upMessages, hb, hsize, Prod.ext_iff]
  · simp only [hsize, false_and, iff_false, upMessages]
    split
    · exact fun h => absurd (congrArg Prod.snd h) (by simp)
    · rename_i bytes hb
      obtain ⟨e, he⟩ := handleBinary_of_oversized hsize
      rw [he] at hb
      cases hb

/-- **The dedicated tunnel is byte-transparent downstream exactly when every frame passes.**  The
server has sent the status and then, among dummy frames, pings and pongs, the chunks of what it
read; the client has waited for the status, or has stopped waiting for it (`patience = 0`). -/
theorem downlink_transparent_iff (maxWsBinary patience : Nat) (status : SealedFrame A cfg)
    (hs : status.payload = encodeV3OpenOk) {items : List (Item A cfg)} {reads : List Bytes}
    (hsent : sentChunks items = downChunks cfg reads) :
    clientDownlink A maxWsBinary patience (.binary status.blob :: items.map Item.message)
        = (reads.flatten, .ok ()) ↔
      (patience = 0 → status.blob.length ≤ saturatingMul u64Max maxWsBinary 4) ∧
        ∀ f ∈ frames items, Passes maxWsBinary f := by
  have hbytes : payloadBytes items = reads.flatten := by
    rw [payloadBytes_eq, hsent, flatten_downChunks]
  rw [← hbytes, ← upMessages_eq_iff]
  cases patience with
  | zero =>
    simp only [clientDownlink, waitOpenStatusOrPayload, up, true_imp_iff]
    exact upMessages_status maxWsBinary hs _ _
  | succ k =>
    have hcl : classifyOpenWaitInner status.payload = .ok := by rw [hs]; rfl
    simp only [clientDownlink, waitOpenStatusOrPayload, status.openFrame_blob, Except.bind, hcl, up]
    simp

end

/-! A tunnel without padding, decoys or encryption, for the two runs below. -/

def plainCfg : BridgeCfg := ⟨0, 0, .random, 4096⟩

/-- The packet of a frame in that tunnel. -/
def plainBlob (c : Nat) (payload : Bytes) : Bytes :=
  Aead.plain.packet c [] ([1] ++ toBe 3 payload.length ++ [0] ++ payload)

def plainStatus : SealedFrame Aead.plain plainCfg where
  payload := encodeV3OpenOk
  blob := plainBlob 0 encodeV3OpenOk
  made := ⟨⟨Aead.plain, 0⟩, ⟨0⟩, ⟨0, fun _ => 0⟩, ⟨0, fun _ => 0⟩, _, rfl, rfl⟩

/-- The data frame that carries the single byte `b`. -/
def plainByte (b : UInt8) : SealedFrame Aead.plain plainCfg where
  payload := [b]
  blob := plainBlob 1 [b]
  made := ⟨⟨Aead.plain, 1⟩, ⟨0⟩, ⟨0, fun _ => 0⟩, ⟨0, fun _ => 0⟩, _, rfl, rfl⟩

/-- **A target that sends the byte `0x10` in a segment of its own loses it**: the chunk reads as
`OPEN_OK` and the client drops it, long after the status was received. -/
theorem open_ok_byte_dropped :
    downChunks plainCfg [[0x10]] = [[0x10]] ∧
      clientDownlink Aead.plain 4096 1
          [.binary plainStatus.blob, .binary (plainByte 0x10).blob] = ([], .ok ()) ∧
      clientDownlink Aead.plain 4096 1
          [.binary plainStatus.blob, .binary (plainByte 0x10).blob] ≠ ([0x10], .ok ()) := by
  refine ⟨by decide, rfl, ?_⟩
  intro h
  exact absurd (congrArg (fun r => r.1.length) h) (by decide)

/-- Any other byte in a segment of its own arrives. -/
theorem downlink_transparent_byte :
    clientDownlink Aead.plain 4096 1
      (.binary plainStatus.blob :: [Item.frame (plainByte 0x41)].map Item.message)
        = ([[0x41]].flatten, .ok ()) :=
  (downlink_transparent_iff 4096 1 plainStatus rfl (by decide)).mpr
    ⟨by decide, by
      intro f hf
      rw [List.mem_singleton.mp hf]
      exact ⟨by decide, rfl, fun e he => by cases he⟩⟩

end BibaVpn.Tunnel
