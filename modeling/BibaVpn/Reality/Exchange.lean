/-
# The REALITY exchange, frame by frame

What `reality.rs` reads from a client before it lets it in: the names the client came with (TLS SNI
and HTTP `Host`), its HELLO, and its AUTH.  REALITY itself authenticates only the server.  The
client is authenticated by the MAC of its AUTH frame, which is keyed by the shared secret AND the
token, over the transcript of this handshake.

* §1 is the cryptography the exchange rests on, and the two MACs;
* §2 is the allowlists, §3 the two frames.
-/
import BibaVpn.Lib.Fallible
import BibaVpn.Lib.Machine
import BibaVpn.Lib.Text

namespace BibaVpn.Reality

open Machine Fallible

/-! ## 1. Keys and MACs -/

/-- X25519 and BLAKE3; `diffieHellman` is `none` where the result is not contributory. -/
structure Suite where
  diffieHellman : Bytes → Bytes → Option Bytes
  publicKeyFromPrivate : Bytes → Bytes
  deriveKey : String → Bytes → Bytes
  keyedHash : Bytes → Bytes → Bytes

/-- `reality_confirm_mac`. -/
def Suite.confirmMac (S : Suite) (shared clientPub serverPub : Bytes) : Bytes :=
  S.keyedHash (S.deriveKey "bibavpn reality server-confirm v2" shared) (clientPub ++ serverPub)

/-- `reality_client_auth_mac`. -/
def Suite.clientAuthMac (S : Suite) (shared : Bytes) (token : Text) (clientPub serverPub : Bytes)
    (unixSecs : Nat) (nonce : Bytes) : Bytes :=
  S.keyedHash (S.deriveKey "bibavpn reality client-auth v2" (shared ++ Text.toUtf8 token))
    (clientPub ++ serverPub ++ toBe 8 unixSecs ++ nonce)

/-- `REALITY_VERSION`. -/
def realityVersion : UInt8 := 3

/-- `server_hello_with_confirm_and_shared`: the answer to a HELLO, and the shared secret. -/
def Suite.serverHelloWithConfirmAndShared (S : Suite) (privateKey clientPub : Bytes) :
    Except String (Bytes × Bytes) :=
  match S.diffieHellman privateKey clientPub with
  | none => .error "REALITY: non-contributory client public key"
  | some shared =>
    let serverPub := S.publicKeyFromPrivate privateKey
    .ok (realityVersion :: serverPub ++ S.confirmMac shared clientPub serverPub, shared)

/-! ## 2. Who may come -/

/-- `RealityServerConfig`, as far as the server reads it. -/
structure RealityServerConfig where
  privateKey : Bytes
  serverNames : List Text
  shortIds : List Bytes
  maxTimeDiff : Nat

/-- A host without its decimal port: only a single colon can introduce one. -/
def stripPort (name : Text) : Text :=
  if name.count ':' = 1 then
    match Text.splitOnce ':' name with
    | some (host, port) =>
      if !port.isEmpty && port.all Char.isDigit then Text.trim host else name
    | none => name
  else name

/-- `normalize_server_name`. -/
def normalizeServerName (name : Text) : Text :=
  match Text.trim name with
  | '[' :: rest =>
    match Text.splitOnce ']' rest with
    | some (inside, _) => Text.trim inside
    | none => stripPort ('[' :: rest)
  | trimmed => stripPort trimmed

/-- `is_server_name_allowed`. -/
def isServerNameAllowed (tlsSni httpHost : Option Text) (allowed : List Text) : Bool :=
  if allowed.isEmpty then true
  else
    let normalizedAllowed := (allowed.map normalizeServerName).filter fun s => !s.isEmpty
    -- an allowlist of blank entries does not degrade into "accept anything"
    if normalizedAllowed.isEmpty then false
    else
      let presented := ((tlsSni.bind Text.nonBlank).toList ++
        (httpHost.bind Text.nonBlank).toList).map normalizeServerName
      if presented.isEmpty then false
      else presented.all fun name => normalizedAllowed.any fun a => Text.eqIgnoreAsciiCase a name

/-- `validate_server_names`. -/
def validateServerNames (tlsSni httpHost : Option Text) (cfg : RealityServerConfig) :
    Except String Unit :=
  ensure (isServerNameAllowed tlsSni httpHost cfg.serverNames)
    "REALITY: TLS SNI / HTTP Host not in server allowlist (configure --reality-server-names)"

/-- `is_short_id_allowed`: no list, or an entry of zeros, admits every id. -/
def isShortIdAllowed (id : Bytes) (allowed : List Bytes) : Bool :=
  allowed.isEmpty || allowed.any (· == id) || allowed.any fun a => a.all (· == 0)

/-- A byte as `{:02x}` prints it. -/
def hexByte (b : UInt8) : String :=
  let digit (n : Nat) := Char.ofNat (if n < 10 then 48 + n else 87 + n)
  String.ofList [digit (b.toNat / 16), digit (b.toNat % 16)]

/-- `validate_short_id`. -/
def validateShortId (shortId : Bytes) (cfg : RealityServerConfig) : Except String Unit :=
  ensure (isShortIdAllowed shortId cfg.shortIds)
    ("REALITY: short ID [" ++ String.intercalate ", " ((shortId.take 4).map hexByte) ++
      "] not in server allowlist (configure --reality-short-id / invite reality_short_id)")

/-! ## 3. The frames -/

/-- `RealityClientHello`. -/
structure RealityClientHello where
  clientPubkey : Bytes
  shortId : Bytes
  unixSecs : Nat
  nonce : Bytes
  deriving DecidableEq, Repr

/-- `REALITY_CLIENT_HELLO_LEN`. -/
def realityClientHelloLen : Nat := 1 + 32 + 8 + 8 + 16

/-- `decode_client_hello`. -/
def decodeClientHello (data : Bytes) : Except String RealityClientHello :=
  if data.length ≠ realityClientHelloLen then .error s!"bad REALITY HELLO length: {data.length}"
  else
    let version := data.headD 0
    if version ≠ realityVersion then .error s!"unsupported REALITY version: {version}"
    else .ok {
      clientPubkey := (data.drop 1).take 32
      shortId := (data.drop 33).take 8
      unixSecs := fromBe ((data.drop 41).take 8)
      nonce := (data.drop 49).take 16 }

/-- `REALITY_CLIENT_AUTH_TAG`. -/
def realityClientAuthTag : UInt8 := 0xa1

/-- `REALITY_CLIENT_AUTH_LEN`. -/
def realityClientAuthLen : Nat := 1 + 1 + 32

/-- `decode_client_auth`. -/
def decodeClientAuth (data : Bytes) : Except String Bytes :=
  if data.length ≠ realityClientAuthLen then
    .error s!"bad REALITY client AUTH length: {data.length}"
  else
    let version := data.headD 0
    let tag := (data.drop 1).headD 0
    if version ≠ realityVersion then
      .error s!"unsupported REALITY version in client AUTH: {version}"
    else if tag ≠ realityClientAuthTag then
      .error s!"expected REALITY client AUTH frame, got tag 0x{hexByte tag}"
    else .ok (data.drop 2)

/-- The MAC that a client with `token` has to send after `hello`. -/
def Suite.expectedMac (S : Suite) (cfg : RealityServerConfig) (hello : RealityClientHello)
    (shared : Bytes) (token : Text) : Bytes :=
  S.clientAuthMac shared token hello.clientPubkey (S.publicKeyFromPrivate cfg.privateKey)
    hello.unixSecs hello.nonce

end BibaVpn.Reality
