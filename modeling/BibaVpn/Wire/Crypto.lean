/-
# Sealing: the outer framing of a session

`ChaHalf` (`crypto_layer.rs`) seals one direction of a session.  On the wire:

    [nonce 12][ciphertext of (decoy_len u8, decoy, inner)][tag 16]

where the nonce is four zero bytes and a `u64` counter that stops at its maximum instead of
wrapping.  The cipher itself is a parameter: `Aead` carries the three facts of ChaCha20-Poly1305
that this code relies on, and nothing else is assumed of it.  The decoy length and bytes are
random draws, again parameters.

`ChaHalf.open_seal` is the round trip of one sealed packet; it does not depend on the order in
which packets arrive, since the nonce travels with the packet.
-/
import BibaVpn.Lib.Machine
import BibaVpn.Wire.Frame

namespace BibaVpn.Wire

open Machine

/-! ## 1. The cipher -/

/-- Detached in-place encryption under one key: the length of the text is kept, the tag has 16
bytes, and decryption under the same nonce and tag gives the text back. -/
structure Aead where
  encrypt : Bytes → Bytes → Bytes × Bytes
  decrypt : Bytes → Bytes → Bytes → Option Bytes
  length_text : ∀ nonce text, (encrypt nonce text).1.length = text.length
  length_tag : ∀ nonce text, (encrypt nonce text).2.length = 16
  decrypt_encrypt : ∀ nonce text,
    decrypt nonce (encrypt nonce text).1 (encrypt nonce text).2 = some text

/-- The cipher that does nothing: it has the three properties, so results about every `Aead` can
be evaluated. -/
def Aead.plain : Aead where
  encrypt _ text := (text, List.replicate 16 0)
  decrypt _ text _ := some text
  length_text _ _ := rfl
  length_tag _ _ := rfl
  decrypt_encrypt _ _ := rfl

/-! ## 2. One direction of a session -/

/-- `ChaHalf`: the cipher under its key, and the nonce counter. -/
structure ChaHalf where
  cipher : Aead
  ctr : Nat

/-- The nonce with counter value `c`. -/
def nonceBytes (c : Nat) : Bytes := List.replicate 4 0 ++ toBe 8 c

@[simp] theorem length_nonceBytes (c : Nat) : (nonceBytes c).length = 12 := by simp [nonceBytes]

/-- `next_nonce`: the counter value to use, and the half with the counter advanced. -/
def ChaHalf.nextNonce (h : ChaHalf) : Except String (Nat × ChaHalf) :=
  if h.ctr = u64Max then .error "chacha nonce space exhausted"
  else .ok (h.ctr, { h with ctr := h.ctr + 1 })

/-- The random decoy in front of the inner bytes. -/
structure DecoyCoins where
  pick : Nat
  fill : Nat → UInt8

/-- The decoy that `seal_with` draws. -/
def decoyBytes (decoyMax : UInt8) (coins : DecoyCoins) : Bytes :=
  (List.range (if decoyMax = 0 then 0 else genRange 0 decoyMax.toNat coins.pick)).map coins.fill

theorem length_decoyBytes_le (decoyMax : UInt8) (coins : DecoyCoins) :
    (decoyBytes decoyMax coins).length ≤ decoyMax.toNat := by
  simp only [decoyBytes, List.length_map, List.length_range]
  split
  · exact Nat.zero_le _
  · exact genRange_le (Nat.zero_le _) _

/-- The packet that carries `inner` behind `decoy` under counter value `c`. -/
def Aead.packet (A : Aead) (c : Nat) (decoy inner : Bytes) : Bytes :=
  let text := UInt8.ofNat decoy.length :: (decoy ++ inner)
  nonceBytes c ++ (A.encrypt (nonceBytes c) text).1 ++ (A.encrypt (nonceBytes c) text).2

/-- `seal_with`. -/
def ChaHalf.seal (h : ChaHalf) (decoyMax : UInt8) (coins : DecoyCoins) (inner : Bytes) :
    Except String (Bytes × ChaHalf) :=
  h.nextNonce.map fun r => (h.cipher.packet r.1 (decoyBytes decoyMax coins) inner, r.2)

/-- `open_range` and the slicing of its callers: the inner bytes of a packet. -/
def Aead.openPacket (A : Aead) (wire : Bytes) : Except String Bytes :=
  if wire.length < 12 + 16 then .error "short outer packet"
  else
    let tail := wire.drop 12
    let text := tail.take (tail.length - 16)
    match A.decrypt (wire.take 12) text (tail.drop (tail.length - 16)) with
    | none => .error "chacha decrypt"
    | some [] => .error "empty plaintext"
    | some (dlen :: rest) =>
      if rest.length < dlen.toNat then .error "bad decoy length" else .ok (rest.drop dlen.toNat)

/-! ## 3. Facts about packets -/

theorem Aead.length_packet (A : Aead) (c : Nat) (decoy inner : Bytes) :
    (A.packet c decoy inner).length = 29 + decoy.length + inner.length := by
  simp only [Aead.packet, List.length_append, length_nonceBytes, A.length_text, A.length_tag,
    List.length_cons]
  omega

section Seal

variable {h h' : ChaHalf} {decoyMax : UInt8} {coins : DecoyCoins} {inner wire : Bytes}

theorem ChaHalf.seal_eq_ok (hs : h.seal decoyMax coins inner = .ok (wire, h')) :
    wire = h.cipher.packet h.ctr (decoyBytes decoyMax coins) inner := by
  unfold ChaHalf.seal ChaHalf.nextNonce at hs
  split at hs
  · cases hs
  · simp only [Except.map, Except.ok.injEq, Prod.mk.injEq] at hs
    exact hs.1.symm

theorem ChaHalf.length_seal (hs : h.seal decoyMax coins inner = .ok (wire, h')) :
    wire.length = 29 + (decoyBytes decoyMax coins).length + inner.length := by
  rw [seal_eq_ok hs, Aead.length_packet]

/-- A packet starts with a zero byte: the high bytes of its nonce are unused. -/
theorem Aead.packet_eq_zero_cons (A : Aead) (c : Nat) (decoy inner : Bytes) :
    ∃ rest, A.packet c decoy inner = 0 :: rest :=
  ⟨_, rfl⟩

/-- **Opening a packet gives back what was sealed in it**, whatever the counter and the decoy. -/
theorem Aead.openPacket_packet (A : Aead) (c : Nat) {decoy : Bytes} (hd : decoy.length ≤ 255)
    (inner : Bytes) : A.openPacket (A.packet c decoy inner) = .ok inner := by
  have hlen := A.length_packet c decoy inner
  have hdlen : (UInt8.ofNat decoy.length).toNat = decoy.length := by
    rw [UInt8.toNat_ofNat']
    exact Nat.mod_eq_of_lt (by omega)
  set text := UInt8.ofNat decoy.length :: (decoy ++ inner) with htext
  have hpk : A.packet c decoy inner
      = nonceBytes c ++
        ((A.encrypt (nonceBytes c) text).1 ++ (A.encrypt (nonceBytes c) text).2) := by
    rw [Aead.packet, List.append_assoc]
  have htake : (A.packet c decoy inner).take 12 = nonceBytes c := by
    rw [hpk, List.take_append_of_le_length (by simp), List.take_of_length_le (by simp)]
  have hdrop : (A.packet c decoy inner).drop 12
      = (A.encrypt (nonceBytes c) text).1 ++ (A.encrypt (nonceBytes c) text).2 := by
    rw [hpk, List.drop_append_of_le_length (by simp), List.drop_of_length_le (by simp),
      List.nil_append]
  have hcut : ((A.encrypt (nonceBytes c) text).1 ++ (A.encrypt (nonceBytes c) text).2).length - 16
      = (A.encrypt (nonceBytes c) text).1.length := by
    rw [List.length_append, A.length_tag]
    omega
  have hshort : ¬ (A.packet c decoy inner).length < 12 + 16 := by omega
  simp only [Aead.openPacket, if_neg hshort, hdrop, htake, hcut, List.take_left, List.drop_left,
    A.decrypt_encrypt]
  rw [htext]
  simp only [hdlen, List.length_append]
  rw [if_neg (by omega), List.drop_left]

/-- A successful seal produces a packet whose inner bytes can be opened again. -/
theorem ChaHalf.open_seal (hs : h.seal decoyMax coins inner = .ok (wire, h')) :
    h.cipher.openPacket wire = .ok inner := by
  have hd := length_decoyBytes_le decoyMax coins
  have := decoyMax.toNat_lt
  rw [seal_eq_ok hs]
  exact h.cipher.openPacket_packet _ (by omega) inner

end Seal

end BibaVpn.Wire
