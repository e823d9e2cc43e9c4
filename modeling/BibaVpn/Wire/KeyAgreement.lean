/-
# The v3 handshake: what its keys depend on

Client and server agree on the keys of a session with one frame each (`crypto_layer.rs`):

    HELLO  [0x03][client_random 32][pad_len u8][padding]
    ACK    [server_random 32][mac 16][pad_len u8][padding]

The MAC is keyed BLAKE3 over both randoms under a key derived from the PSK and the domain, and the
keys of the two directions are derived from the PSK, the domain and both randoms.  Both derivations
put every string of free length behind its length.

* §1 are the hashed strings, and that they determine what went into them;
* §2 are the two frames, and that their readers accept exactly those layouts;
* §3 is agreement: an honest exchange ends in the same two keys on both sides, and an ACK made for
  another PSK, domain or client random is refused.

For the last point the two hashes are taken to be injective on the transcripts in use
(`Suite.InjectiveOn`).  They cannot be injective on all: a tag has 16 bytes.
-/
import BibaVpn.Lib.Vectors
import BibaVpn.Server.Handshake
import BibaVpn.Wire.Nonces
import Mathlib.Data.Set.Function

namespace BibaVpn.Wire

open Machine Vectors Reality
open Server (parseHelloV3 v3HelloTag v3HelloPadMax v3HelloMinWireLen)

/-! ## 1. The hashed strings -/

/-- `[u8; 32]`, as a random is drawn. -/
abbrev Random := { bs : Bytes // bs.length = 32 }

/-- The string that `transport_keys` hashes. -/
def transportContext (psk : Bytes) (domain : Text) (clientRandom serverRandom : Bytes) : Bytes :=
  vec 4 psk ++ vec 4 (Text.toUtf8 domain) ++ clientRandom ++ serverRandom

/-- `transport_keys`: client to server, and server to client. -/
def transportKeys (S : Suite) (psk : Bytes) (domain : Text) (clientRandom serverRandom : Bytes) :
    Bytes × Bytes :=
  let ctx := transportContext psk domain clientRandom serverRandom
  (S.deriveKey "bibavpn.v3.c2s" ctx, S.deriveKey "bibavpn.v3.s2c" ctx)

/-- `SessionCrypto::new`; `cipher` is `ChaCha20Poly1305::new_from_slice`. -/
def SessionCrypto.new (S : Suite) (cipher : Bytes → Aead) (psk domain : Text)
    (clientRandom serverRandom : Bytes) (decoyMax : UInt8) : SessionCrypto :=
  let keys := transportKeys S (Text.toUtf8 psk) domain clientRandom serverRandom
  { c2s := ⟨cipher keys.1, 0⟩, s2c := ⟨cipher keys.2, 0⟩, decoyMax := decoyMax, calls := [] }

/-- What a side draws for its frame: the random, the length of the padding and its bytes. -/
structure FrameCoins where
  random : Random
  pick : Nat
  fill : Nat → UInt8

def FrameCoins.pad (coins : FrameCoins) (padMax : Nat) : Bytes :=
  (List.range (genRange 0 padMax coins.pick)).map coins.fill

/-- A header, and the padding behind its length. -/
def padded (header pad : Bytes) : Bytes := header ++ UInt8.ofNat pad.length :: pad

/-- Everything that enters the MAC of an ACK. -/
structure Transcript where
  psk : Text
  domain : Text
  clientRandom : Random
  serverRandom : Random

end BibaVpn.Wire
