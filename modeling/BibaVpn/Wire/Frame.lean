/-
# Padded frames

The inner frame of every channel (`frame.rs`):

    [ver u8][payload_len u24 BE][pad_len u8][pad * pad_len][payload * payload_len]

The writer picks the padding length with one of three strategies and fills the padding with
random bytes; both draws are parameters here (`PadCoins`), so that a statement for every choice
of them is a statement for every frame the writer can produce.  The reader does not know the
strategy.  `readPaddedFrame_toBytes` is the fact the rest of the development uses: whatever the
padding, the reader gets the payload back.
-/
import BibaVpn.Lib.Machine

namespace BibaVpn.Wire

open Machine

/-! ## 1. Padding strategies -/

/-- `FRAME_VER`. -/
def frameVer : UInt8 := 1

/-- `MAX_PAYLOAD`. -/
def maxPayload : Nat := 16 * 1024 * 1024

/-- `PadMode`. -/
inductive PadMode
  | random
  | httpBuckets
  | adaptive
  deriving DecidableEq, Repr

/-- `AdaptivePadState`. -/
structure AdaptivePadState where
  count : Nat
  deriving DecidableEq, Repr

/-- The random draws of one frame: the number behind its `gen_range`, and the padding bytes. -/
structure PadCoins where
  pick : Nat
  fill : Nat → UInt8

/-- `rng.gen_range(lo..=hi)`, as a function of the draw. -/
def genRange (lo hi pick : Nat) : Nat := lo + pick % (hi - lo + 1)

theorem genRange_le {lo hi : Nat} (h : lo ≤ hi) (pick : Nat) : genRange lo hi pick ≤ hi := by
  have := Nat.mod_lt pick (Nat.succ_pos (hi - lo))
  simp only [genRange, Nat.succ_eq_add_one] at this ⊢
  omega

/-- `HTTP_BUCKETS`. -/
def httpBuckets : List Nat :=
  [128, 256, 512, 1024, 1460, 2048, 4096, 8192, 16384, 32768, 65536]

/-- The padding length of a frame whose header and payload take `base` bytes. -/
def padLen (maxPad : UInt8) (mode : PadMode) (adaptive : Option AdaptivePadState)
    (base pick : Nat) : Nat :=
  if maxPad = 0 then 0
  else match mode with
    | .random => genRange 0 maxPad.toNat pick
    | .httpBuckets =>
      let bucket := (httpBuckets.find? fun b => decide (base ≤ b)).getD 65536
      let target := max (bucket * genRange 95 105 pick / 100) base
      min (target - base) maxPad.toNat
    | .adaptive =>
      let target := match adaptive with
        | some st => if st.count < 7 then genRange 900 1400 pick else genRange 128 512 pick
        | none => genRange 900 1400 pick
      min (target - base) maxPad.toNat

/-- The adaptive counter after a frame: it counts only the frames it was asked about. -/
def nextAdaptive (maxPad : UInt8) (mode : PadMode) (adaptive : Option AdaptivePadState) :
    Option AdaptivePadState :=
  if maxPad ≠ 0 ∧ mode = .adaptive then
    adaptive.map fun st => ⟨saturatingAdd u32Max st.count 1⟩
  else adaptive

theorem padLen_le (maxPad : UInt8) (mode : PadMode) (adaptive : Option AdaptivePadState)
    (base pick : Nat) : padLen maxPad mode adaptive base pick ≤ maxPad.toNat := by
  unfold padLen
  split
  · exact Nat.zero_le _
  · cases mode with
    | random => exact genRange_le (Nat.zero_le _) pick
    | httpBuckets => exact Nat.min_le_right _ _
    | adaptive => exact Nat.min_le_right _ _

/-- For a frame of up to 261 bytes the longest padding is drawn in every mode, while a session is
young. -/
def longestPick (maxPad : UInt8) : PadMode → Nat
  | .random => maxPad.toNat
  | .httpBuckets => 10
  | .adaptive => 500

theorem padLen_longestPick (maxPad : UInt8) (mode : PadMode) {adaptive : AdaptivePadState}
    (hyoung : adaptive.count < 7) :
    padLen maxPad mode (some adaptive) 261 (longestPick maxPad mode) = maxPad.toNat := by
  have hlt := maxPad.toNat_lt
  unfold padLen
  split
  · rename_i hzero
    rw [hzero]
    rfl
  · cases mode with
    | random =>
      simp only [longestPick, genRange, Nat.zero_add, Nat.sub_zero]
      exact Nat.mod_eq_of_lt (Nat.lt_succ_self _)
    | httpBuckets =>
      have htarget : max (((httpBuckets.find? fun b => decide (261 ≤ b)).getD 65536) *
          genRange 95 105 10 / 100) 261 = 537 := by decide
      simp only [longestPick]
      rw [htarget]
      omega
    | adaptive =>
      have htarget : genRange 900 1400 500 = 1400 := by decide
      simp only [longestPick]
      rw [if_pos hyoung, htarget]
      omega

/-! ## 2. Sizes -/

/-- What a frame adds to its payload on the WebSocket, at most: the header and the padding, and with
encryption nonce, tag and decoy. -/
def wsOverhead (v2 : Bool) (decoyMax maxPad : UInt8) : Nat :=
  if v2 then 29 + decoyMax.toNat + 5 + maxPad.toNat else 5 + maxPad.toNat

/-- `max_tcp_payload_per_ws_message`. -/
def maxTcpPayloadPerWsMessage (v2 : Bool) (decoyMax maxPad : UInt8) (maxWsBinary : Nat) : Nat :=
  if maxWsBinary < 48 then 0
  else if !v2 then maxWsBinary - (5 + maxPad.toNat)
  else maxWsBinary - (29 + decoyMax.toNat + 5 + maxPad.toNat)

/-- If there is room for a payload at all, payload and overhead fill the message. -/
theorem maxTcpPayload_add_overhead {v2 : Bool} {decoyMax maxPad : UInt8} {maxWsBinary : Nat}
    (hpos : 0 < maxTcpPayloadPerWsMessage v2 decoyMax maxPad maxWsBinary) :
    maxTcpPayloadPerWsMessage v2 decoyMax maxPad maxWsBinary + wsOverhead v2 decoyMax maxPad =
      maxWsBinary := by
  unfold maxTcpPayloadPerWsMessage at hpos ⊢
  unfold wsOverhead
  split at hpos
  · exact absurd hpos (Nat.lt_irrefl 0)
  · rename_i hlarge
    rw [if_neg hlarge]
    cases v2 with
    | false =>
      simp only [Bool.not_false, if_true] at hpos
      simp only [Bool.not_false, if_true, Bool.false_eq_true, if_false]
      omega
    | true =>
      simp only [Bool.not_true, Bool.false_eq_true, if_false] at hpos
      simp only [Bool.not_true, Bool.false_eq_true, if_false, if_true]
      omega

/-! ## 3. Writing -/

/-- `FrameError`, with its text where it carries one. -/
inductive FrameError
  | proto (what : String)
  | tooLarge
  deriving DecidableEq, Repr

/-- `PreparedFrame`: a payload and a padding that fit their length fields. -/
structure PreparedFrame where
  payload : Bytes
  pad : Bytes
  payload_le : payload.length ≤ 0xFFFFFF
  pad_le : pad.length ≤ 255

namespace PreparedFrame

/-- `PreparedFrame::new`, for a payload given in parts, with the adaptive counter it leaves. -/
def new (parts : List Bytes) (maxPad : UInt8) (mode : PadMode)
    (adaptive : Option AdaptivePadState) (coins : PadCoins) :
    Except FrameError (PreparedFrame × Option AdaptivePadState) :=
  if h : parts.flatten.length ≤ maxPayload ∧ parts.flatten.length ≤ 0xFFFFFF then
    let n := padLen maxPad mode adaptive (5 + parts.flatten.length) coins.pick
    have hn : ((List.range n).map coins.fill).length ≤ 255 := by
      have := padLen_le maxPad mode adaptive (5 + parts.flatten.length) coins.pick
      have := maxPad.toNat_lt
      simp only [List.length_map, List.length_range]
      omega
    .ok (⟨parts.flatten, (List.range n).map coins.fill, h.2, hn⟩, nextAdaptive maxPad mode adaptive)
  else .error .tooLarge

/-- `append_to` an empty buffer: the frame on the wire. -/
def toBytes (f : PreparedFrame) : Bytes :=
  frameVer :: toBe 3 f.payload.length ++ UInt8.ofNat f.pad.length :: (f.pad ++ f.payload)

/-- `wire_len`. -/
def wireLen (f : PreparedFrame) : Nat := 5 + f.pad.length + f.payload.length

@[simp] theorem length_toBytes (f : PreparedFrame) : f.toBytes.length = f.wireLen := by
  simp only [toBytes, wireLen, List.length_append, List.length_cons, length_toBe]
  omega

/-- A frame has header, padding and payload. -/
theorem wireLen_of_new {parts : List Bytes} {maxPad : UInt8} {mode : PadMode}
    {adaptive adaptive' : Option AdaptivePadState} {coins : PadCoins} {frame : PreparedFrame}
    (h : new parts maxPad mode adaptive coins = .ok (frame, adaptive')) :
    frame.wireLen = 5 + padLen maxPad mode adaptive (5 + parts.flatten.length) coins.pick +
      parts.flatten.length := by
  unfold new at h
  split at h
  · cases h
    simp only [wireLen, List.length_map, List.length_range]
  · cases h

end PreparedFrame

/-! ## 4. Reading -/

/-- `padded_frame_payload_start`: where the payload of a frame starts. -/
def paddedFramePayloadStart (raw : Bytes) : Except FrameError Nat :=
  match raw with
  | ver :: l2 :: l1 :: l0 :: rest =>
    if ver ≠ frameVer then .error (.proto s!"bad ver {ver}")
    else
      let plen := fromBe [l2, l1, l0]
      if plen > maxPayload then .error .tooLarge
      else match rest with
        | [] => .error (.proto "missing pad_len")
        | padByte :: _ =>
          let need := 5 + padByte.toNat + plen
          if raw.length ≠ need then
            .error (.proto s!"length mismatch: got {raw.length} expected {need}")
          else .ok (5 + padByte.toNat)
  | _ => .error (.proto "short frame")

/-- `read_padded_frame`, in any of its forms (borrowed, owned, shared buffer). -/
def readPaddedFrame (raw : Bytes) : Except FrameError Bytes :=
  (paddedFramePayloadStart raw).map fun start => raw.drop start

/-- A three-byte length is at most `0xFFFFFF`, so the reader's size test never fires. -/
theorem fromBe_three_le (a b c : UInt8) : fromBe [a, b, c] ≤ maxPayload := by
  have := fromBe_lt [a, b, c]
  simp only [List.length_cons, List.length_nil, maxPayload] at this ⊢
  omega

/-- **The reader gets back the payload of every frame the writer can produce.** -/
theorem readPaddedFrame_toBytes (f : PreparedFrame) :
    readPaddedFrame f.toBytes = .ok f.payload := by
  have hlen : f.payload.length < 256 ^ 3 := by have := f.payload_le; omega
  have hpad : (UInt8.ofNat f.pad.length).toNat = f.pad.length := by
    rw [UInt8.toNat_ofNat']
    exact Nat.mod_eq_of_lt (by have := f.pad_le; omega)
  have hraw := f.length_toBytes
  -- the three length bytes, named
  obtain ⟨l2, l1, l0, hl⟩ : ∃ l2 l1 l0, toBe 3 f.payload.length = [l2, l1, l0] :=
    ⟨_, _, _, rfl⟩
  have hfrom : fromBe [l2, l1, l0] = f.payload.length := by rw [← hl, fromBe_toBe hlen]
  have hbytes : f.toBytes
      = frameVer :: l2 :: l1 :: l0 :: UInt8.ofNat f.pad.length :: (f.pad ++ f.payload) := by
    rw [PreparedFrame.toBytes, hl]
    rfl
  have hstart : paddedFramePayloadStart f.toBytes = .ok (5 + f.pad.length) := by
    rw [PreparedFrame.wireLen] at hraw
    rw [hbytes] at hraw ⊢
    simp only [paddedFramePayloadStart, ne_eq, not_true_eq_false, if_false, hfrom, hpad, hraw]
    rw [if_neg]
    rw [← hfrom]
    exact Nat.not_lt.mpr (fromBe_three_le l2 l1 l0)
  rw [readPaddedFrame, hstart, hbytes]
  have hdrop : 5 + f.pad.length = f.pad.length + 5 := Nat.add_comm _ _
  simp only [Except.map, hdrop, List.drop_succ_cons, List.drop_left]

end BibaVpn.Wire
