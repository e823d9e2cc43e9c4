/-
# From the WebSocket to the tunnel

`bin/server.rs` serves a connection in one function, `handle_one`: the REALITY exchange if it is
configured, the v3 handshake (on its own, or chained behind REALITY), the wait for the first
channel, and then a TCP dial or one of the two mux bridges.  The shared state is small: the users
file, the counts of live sessions, the replay cache and the rate limiter, each behind its own lock.

A connection is a task that waits for a frame, or is about to take its next lock.  In between the
other connections, the users file and the clock may move.  The waits are under a timeout, and a
timeout also strikes a task that is waiting for the limiter's lock.

* §1 is the budgets for what an unknown peer may send, §2 the frames of the v3 handshake;
* §3 is a connection and §4 the server.
* §5 says what an authenticated connection is, and §6 that there is no other way to a service
  (`no_service_before_authentication`).  The budgets are per wait: the one before HELLO and the one
  before AUTH each have their own, so that the two together may let through twice what is configured
  (`budgets_add_up`).
-/
import BibaVpn.Lib.Tasks
import BibaVpn.Reality.Exchange
import BibaVpn.Reality.ReplayCache
import BibaVpn.Server.AuthLimiter
import BibaVpn.Server.Users
import BibaVpn.Wire.Control
import BibaVpn.Wire.Crypto

namespace BibaVpn.Server

open Machine Lts Tasks Fallible Wire Reality

/-! ## 1. Budgets -/

/-- `PreAuthBudget`. -/
structure PreAuthBudget where
  maxJunkFrames : Nat
  maxJunkBytes : Nat
  maxDecryptFailures : Nat
  deriving DecidableEq, Repr

/-- `PreAuthBudgetTracker`: `u32`, `usize` and `u32`. -/
structure PreAuthBudgetTracker where
  junkFrames : Nat
  junkBytes : Nat
  decryptFailures : Nat
  deriving DecidableEq, Repr

/-- `PreAuthBudgetTracker::note_binary_frame`. -/
def PreAuthBudgetTracker.noteBinaryFrame (t : PreAuthBudgetTracker) (len : Nat)
    (budget : PreAuthBudget) : PreAuthBudgetTracker × Except String Unit :=
  let t := { t with
    junkFrames := saturatingAdd u32Max t.junkFrames 1
    junkBytes := saturatingAdd u64Max t.junkBytes len }
  (t, if t.junkFrames > budget.maxJunkFrames ∨ t.junkBytes > budget.maxJunkBytes then
      .error "too much pre-auth data before v3 AUTH"
    else .ok ())

/-- `PreAuthBudgetTracker::note_decrypt_failure`. -/
def PreAuthBudgetTracker.noteDecryptFailure (t : PreAuthBudgetTracker) (budget : PreAuthBudget) :
    PreAuthBudgetTracker × Except String Unit :=
  let t := { t with decryptFailures := saturatingAdd u32Max t.decryptFailures 1 }
  (t, if t.decryptFailures > budget.maxDecryptFailures then
      .error "too many failed decrypt attempts before v3 AUTH"
    else .ok ())

/-- `MAX_PRE_HELLO_FRAMES`. -/
def maxPreHelloFrames : Nat := 256

/-- `MAX_PRE_HELLO_BYTES`. -/
def maxPreHelloBytes : Nat := 256 * 1024

/-- `PreHelloJunkTracker`. -/
structure PreHelloJunkTracker where
  junkFrames : Nat
  junkBytes : Nat
  deriving DecidableEq, Repr

/-! ## 2. The frames of the v3 handshake -/

/-- `V3_HELLO_TAG`. -/
def v3HelloTag : UInt8 := 0x03

/-- `V3_HELLO_MIN_WIRE_LEN`. -/
def v3HelloMinWireLen : Nat := 1 + 32 + 1

/-- `V3_HELLO_PAD_MAX`. -/
def v3HelloPadMax : Nat := 64

/-- `parse_hello_v3`: the client's random. -/
def parseHelloV3 (buf : Bytes) : Except String Bytes :=
  if buf.length < v3HelloMinWireLen ∨ buf.headD 0 ≠ v3HelloTag then .error "bad v3 HELLO"
  else
    let padLen := ((buf.drop 33).headD 0).toNat
    if padLen > v3HelloPadMax then .error "bad v3 HELLO pad len"
    else if buf.length ≠ v3HelloMinWireLen + padLen then .error "bad v3 HELLO length"
    else .ok ((buf.drop 1).take 32)

/-- `account_pre_hello_binary`. -/
def accountPreHelloBinary (frame : Bytes) (t : PreHelloJunkTracker) (maxFrames maxBytes : Nat) :
    PreHelloJunkTracker × Except String (Option Bytes) :=
  match parseHelloV3 frame with
  | .ok clientRandom => (t, .ok (some clientRandom))
  | .error _ =>
    let t := ⟨saturatingAdd u32Max t.junkFrames 1, saturatingAdd u64Max t.junkBytes frame.length⟩
    (t, if t.junkFrames > maxFrames ∨ t.junkBytes > maxBytes then
        .error "too much pre-handshake data before v3 HELLO"
      else .ok none)

/-- `validate_open_host`. -/
def validateOpenHost (host : Text) : Except String Unit :=
  if host.isEmpty then .error "OPEN host is empty"
  else if Text.len host > 255 then .error s!"OPEN host is too long ({Text.len host} bytes)"
  else if host.any fun c => Text.isControl c || Text.isWhitespace c then
    .error "OPEN host contains whitespace or control characters"
  else .ok ()

/-! ## 3. A connection -/

/-- What the server takes from elsewhere.  `session` is the client-to-server half of
`SessionCrypto::new`, for a PSK, a domain and the two randoms. -/
structure Libraries extends Outside, Suite where
  session : Text → Text → Bytes → Bytes → Aead

/-- What `handle_one` is called with. -/
structure Settings where
  token : Text
  /-- whether there is a users file -/
  users : Bool
  psk : Option Text
  protoDomain : Text
  reality : Option RealityServerConfig
  preAuth : PreAuthBudget

/-- What a connection ends up with: a dial, or one of the bridges. -/
inductive Service
  | tcp (host : Text) (port : Nat) (flags : UInt8)
  | udpMux
  | tcpMux
  deriving DecidableEq, Repr

/-- Who calls `acquire`: a v3 AUTH, or a REALITY handshake. -/
inductive Caller
  | sealed
  | reality (hello : RealityClientHello)
  deriving DecidableEq, Repr

/-- Where `handle_one` is. -/
inductive Phase
  /-- it waits for the REALITY HELLO; it has read the clock -/
  | realityHello (now control : Nat)
  /-- it has answered, and waits for the REALITY AUTH -/
  | realityAuth (control : Nat) (hello : RealityClientHello) (shared : Bytes)
  /-- `find_token` is about to read the users file -/
  | find (hello : RealityClientHello) (shared mac : Bytes)
  /-- `acquire` is about to read the users file -/
  | acquire (token : Text) (caller : Caller)
  /-- `acquire` has chosen its user and is about to take the lock -/
  | enter (token : Text) (user : User) (caller : Caller)
  /-- the REALITY AUTH is verified; the clock is read again -/
  | readClock (token : Text) (hello : RealityClientHello)
  | replay (token : Text) (hello : RealityClientHello) (now : Nat)
  /-- REALITY is done, `record_success` is not -/
  | welcome (token : Text)
  /-- it waits for the first frame after REALITY -/
  | afterReality (token : Text)
  /-- it waits for the v3 HELLO -/
  | hello (tracker : PreHelloJunkTracker)
  /-- it waits for the v3 AUTH: with this token, or with any that `acquire` accepts -/
  | auth (tracker : PreAuthBudgetTracker) (expected : Option Text)
  /-- the v3 AUTH is verified, `record_success` is not done -/
  | recordSuccess
  /-- it waits for the first channel -/
  | channel (tracker : PreAuthBudgetTracker)
  | serving (service : Service)
  /-- it waits to record a failure, under the timeout of its phase or not -/
  | failing (timed : Bool)
  | closed
  deriving DecidableEq, Repr

/-- A connection.  `keys` are the randoms of its v3 session and `session` is the label of the user
whose `UserSession` it holds.  The rest is its history: all binary frames, those before HELLO that
were none, those in the wait for AUTH that did not authenticate, how many of these did not decrypt,
and the calls of `record_failure`. -/
structure Conn where
  ip : IpAddr
  phase : Phase
  keys : Option (Bytes × Bytes)
  session : Option Text
  heard : List Bytes
  noise : List Bytes
  refused : List Bytes
  undecrypted : Nat
  failures : Nat
  deriving DecidableEq, Repr

/-- A WebSocket message, as far as the waits distinguish them. -/
inductive Message
  | binary (data : Bytes)
  | ping
  | pong
  | close
  | other
  deriving DecidableEq, Repr

/-- `MAX_HANDSHAKE_CONTROL_FRAMES`. -/
def maxHandshakeControlFrames : Nat := 16

section Conn

variable (L : Libraries) (cfg : Settings)

/-- `proto_domain.trim()`. -/
def Settings.domain : Text := Text.trim cfg.protoDomain

/-- The cipher that opens what the client seals in a session with these randoms. -/
def Settings.cipher (keys : Bytes × Bytes) : Option Aead :=
  cfg.psk.map fun psk => L.session psk cfg.domain keys.1 keys.2

/-- `handle_one` from the upgraded WebSocket on, up to its first wait. -/
def Settings.firstPhase (now : Nat) (tlsSni httpHost : Option Text) : Phase :=
  match cfg.reality with
  | some rc =>
    match validateServerNames tlsSni httpHost rc with
    | .ok () => .realityHello now 0
    | .error _ => .failing false
  | none => if cfg.domain.isEmpty then .closed else .hello ⟨0, 0⟩

/-- A new connection. -/
def Settings.begin (ip : IpAddr) (now : Nat) (tlsSni httpHost : Option Text) : Conn :=
  ⟨ip, cfg.firstPhase now tlsSni httpHost, none, none, [], [], [], 0, 0⟩

/-- `server_handshake_reality_with_auth` up to its second wait. -/
def realityHelloFrame (rc : RealityServerConfig) (now : Nat) (b : Bytes) :
    Except String (RealityClientHello × Bytes) := do
  let hello ← decodeClientHello b
  validateShortId hello.shortId rc
  timestampInWindow now hello.unixSecs rc.maxTimeDiff
  let r ← L.serverHelloWithConfirmAndShared rc.privateKey hello.clientPubkey
  .ok (hello, r.2)

/-- The REALITY AUTH frame arrives. -/
def Conn.realityAuthFrame (rc : RealityServerConfig) (c : Conn) (hello : RealityClientHello)
    (shared b : Bytes) : Conn :=
  match decodeClientAuth b with
  | .error _ => { c with phase := .failing false }
  | .ok mac =>
    if cfg.users then { c with phase := .find hello shared mac }
    else if mac = L.expectedMac rc hello shared cfg.token then
      { c with phase := .readClock cfg.token hello }
    else { c with phase := .failing false }

/-- The first frame after REALITY: it opens a mux, or it is a v3 HELLO. -/
def Conn.firstFrame (c : Conn) (token : Text) (random b : Bytes) : Conn :=
  if isV3MuxOpen b then { c with phase := .serving .tcpMux }
  else if b.head? = some v3HelloTag ∧ cfg.psk.isSome then
    match parseHelloV3 b with
    | .ok clientRandom =>
      { c with keys := some (clientRandom, random), phase := .auth ⟨0, 0, 0⟩ (some token) }
    | .error _ => { c with phase := .closed }
  else { c with phase := .closed }

/-- A frame in the wait for the v3 HELLO. -/
def Conn.helloFrame (c : Conn) (t : PreHelloJunkTracker) (random b : Bytes) : Conn :=
  -- the budget may tighten the hard caps, not widen them
  match accountPreHelloBinary b t (min cfg.preAuth.maxJunkFrames maxPreHelloFrames)
      (min cfg.preAuth.maxJunkBytes maxPreHelloBytes) with
  | (_, .ok (some clientRandom)) =>
    if cfg.psk.isSome then
      { c with
        keys := some (clientRandom, random)
        phase := .auth ⟨0, 0, 0⟩ (if cfg.users then none else some cfg.token) }
    else { c with phase := .closed }
  | (t, .ok none) => { c with noise := c.noise ++ [b], phase := .hello t }
  | (_, .error _) => { c with noise := c.noise ++ [b], phase := .failing true }

/-- A frame in the wait for the v3 AUTH that was opened. -/
def Conn.authOpened (c : Conn) (expected : Option Text) (raw b : Bytes) : Conn :=
  match readPaddedFrame raw with
  | .error _ => { c with refused := c.refused ++ [b], phase := .closed }
  | .ok inner =>
    match decodeV3Auth inner with
    | .error _ => { c with refused := c.refused ++ [b], phase := .closed }
    | .ok token =>
      match expected with
      | none => { c with phase := .acquire token.toList .sealed }
      | some want =>
        if secretEq (Text.toUtf8 token.toList) (Text.toUtf8 want) then
          { c with phase := .recordSuccess }
        else { c with refused := c.refused ++ [b], phase := .failing true }

/-- A frame in the wait for the v3 AUTH: `server_wait_v3_auth`. -/
def Conn.authFrame (A : Aead) (c : Conn) (t : PreAuthBudgetTracker) (expected : Option Text)
    (b : Bytes) : Conn :=
  match t.noteBinaryFrame b.length cfg.preAuth with
  | (_, .error _) => { c with refused := c.refused ++ [b], phase := .failing true }
  | (t, .ok ()) =>
    match A.openPacket b with
    | .ok raw => c.authOpened expected raw b
    | .error _ =>
      match t.noteDecryptFailure cfg.preAuth with
      | (t, .ok ()) =>
        { c with
          refused := c.refused ++ [b], undecrypted := c.undecrypted + 1, phase := .auth t expected }
      | (_, .error _) =>
        { c with
          refused := c.refused ++ [b], undecrypted := c.undecrypted + 1, phase := .failing true }

/-- A frame in the wait for the first channel: `wait_first_channel`. -/
def Conn.channelFrame (A : Aead) (c : Conn) (t : PreAuthBudgetTracker) (b : Bytes) : Conn :=
  match A.openPacket b with
  | .error _ => { c with phase := .closed }
  | .ok raw =>
    match readPaddedFrame raw with
    | .error _ => { c with phase := .closed }
    | .ok inner =>
      match classifyV3FirstChannel inner with
      | .tcpOpen host port flags =>
        match validateOpenHost host.toList with
        | .ok () => { c with phase := .serving (.tcp host.toList port flags) }
        | .error _ => { c with phase := .closed }
      | .udpMux => { c with phase := .serving .udpMux }
      | .mux => { c with phase := .serving .tcpMux }
      | .notChannelOpen =>
        match t.noteBinaryFrame b.length cfg.preAuth with
        | (t, .ok ()) => { c with phase := .channel t }
        | (_, .error _) => { c with phase := .failing true }

/-- A binary frame; `random` is what the server draws if it has to answer a HELLO. -/
def Conn.receiveBinary (c : Conn) (random b : Bytes) : Option Conn :=
  let c' := { c with heard := c.heard ++ [b] }
  match c.phase with
  | .realityHello now control => cfg.reality.map fun rc =>
    match realityHelloFrame L rc now b with
    | .ok (hello, shared) => { c' with phase := .realityAuth control hello shared }
    | .error _ => { c' with phase := .failing false }
  | .realityAuth _ hello shared =>
    cfg.reality.map fun rc => c'.realityAuthFrame L cfg rc hello shared b
  | .afterReality token => some (c'.firstFrame cfg token random b)
  | .hello t => some (c'.helloFrame cfg t random b)
  | .auth t expected =>
    (c.keys.bind (cfg.cipher L)).map fun A => c'.authFrame cfg A t expected b
  | .channel t => (c.keys.bind (cfg.cipher L)).map fun A => c'.channelFrame cfg A t b
  | _ => none

/-- A Ping or Pong in the REALITY exchange, with the budget the two waits share. -/
def Conn.controlFrame (c : Conn) (control : Nat) (next : Nat → Phase) : Conn :=
  if control + 1 > maxHandshakeControlFrames then { c with phase := .failing false }
  else { c with phase := next (control + 1) }

/-- A message that is not binary.  The waits of v3 skip everything but a Close. -/
def Conn.receiveOther (c : Conn) (m : Message) : Option Conn :=
  match c.phase with
  | .realityHello now control =>
    if m = .ping ∨ m = .pong then some (c.controlFrame control (.realityHello now))
    else some { c with phase := .failing false }
  | .realityAuth control hello shared =>
    if m = .ping ∨ m = .pong then
      some (c.controlFrame control fun n => .realityAuth n hello shared)
    else some { c with phase := .failing false }
  | .afterReality _ | .hello _ | .auth _ _ | .channel _ =>
    some (if m = .close then { c with phase := .closed } else c)
  | _ => none

/-- `ws.next()` returns a message. -/
def Conn.receive (c : Conn) (random : Bytes) : Message → Option Conn
  | .binary b => c.receiveBinary L cfg random b
  | m => c.receiveOther m

/-- `ws.next()` returns an error or the end, a reply cannot be sent, or the tunnel ends. -/
def Conn.lost (c : Conn) : Option Conn :=
  match c.phase with
  | .realityHello _ _ | .realityAuth _ _ _ => some { c with phase := .failing false }
  | .afterReality _ | .hello _ | .auth _ _ | .channel _ | .serving _ =>
    some { c with phase := .closed }
  | _ => none

/-- The timeout of the phase strikes at an await. -/
def Conn.timeout (c : Conn) : Option Conn :=
  match c.phase with
  | .realityHello _ _ | .realityAuth _ _ _ | .hello _ | .auth _ _ | .recordSuccess | .channel _ |
    .failing true => some { c with phase := .failing false }
  -- `with_setup_timeout` records no failure
  | .afterReality _ => some { c with phase := .closed }
  | _ => none

/-! ## 4. The server -/

/-- What the connections share. -/
structure Shared where
  data : Option Bytes
  active : Table Text Nat
  cache : ReplayCache
  limiter : AuthRateLimiter
  /-- `SystemTime::now()`, in seconds -/
  clock : Nat
  /-- `Instant::now()` -/
  instant : Nat

/-- `acquire` refuses the token of the last frame. -/
def Conn.refuse (c : Conn) : Caller → Conn
  | .sealed => { c with refused := c.refused ++ c.heard.getLast?.toList, phase := .failing true }
  | .reality _ => { c with phase := .failing false }

/-- What follows a granted `acquire`. -/
def Caller.granted (token : Text) : Caller → Phase
  | .sealed => .recordSuccess
  | .reality hello => .readClock token hello

/-- The next piece of a connection that waits for no frame. -/
def Conn.proceed (sh : Shared) (c : Conn) (tie : Nat) : Option (Shared × Conn) :=
  match c.phase with
  | .find hello shared mac => cfg.reality.map fun rc =>
    match loadUsers L.fromSlice sh.data with
    | .error _ => (sh, { c with phase := .failing false })
    | .ok file =>
      match findToken file fun t => mac == L.expectedMac rc hello shared t with
      | none => (sh, { c with phase := .failing false })
      | some token => (sh, { c with phase := .acquire token (.reality hello) })
  | .acquire token caller =>
    match loadUsers L.fromSlice sh.data with
    | .error _ => some (sh, c.refuse caller)
    | .ok file =>
      match L.choose file token with
      | none => some (sh, c.refuse caller)
      | some user => some (sh, { c with phase := .enter token user caller })
  | .enter token user caller =>
    match lockedAcquire sh.active user with
    | (active, .error _) => some ({ sh with active := active }, c.refuse caller)
    | (active, .ok ()) => some ({ sh with active := active },
        { c with session := some user.label, phase := caller.granted token })
  | .readClock token hello => some (sh, { c with phase := .replay token hello sh.clock })
  | .replay token hello now => cfg.reality.map fun rc =>
    match sh.cache.checkAndInsert hello.nonce hello.unixSecs now rc.maxTimeDiff with
    | (cache, .ok ()) => ({ sh with cache := cache }, { c with phase := .welcome token })
    | (cache, .error _) => ({ sh with cache := cache }, { c with phase := .failing false })
  | .welcome token =>
    some ({ sh with limiter := sh.limiter.recordSuccess c.ip sh.instant },
      { c with phase := if cfg.domain.isEmpty then .closed else .afterReality token })
  | .recordSuccess =>
    some ({ sh with limiter := sh.limiter.recordSuccess c.ip sh.instant },
      { c with phase := .channel ⟨0, 0, 0⟩ })
  | .failing _ =>
    some ({ sh with limiter := sh.limiter.recordFailure c.ip sh.instant tie },
      { c with failures := c.failures + 1, phase := .closed })
  | .closed => c.session.bind fun label => (dropSession sh.active label).map fun active =>
      ({ sh with active := active }, { c with session := none })
  | _ => none

structure ServerState where
  shared : Shared
  conns : List Conn

/-- A server that has just started. -/
def ServerState.start (data : Option Bytes) (limits : AuthRateLimiterConfig) (clock instant : Nat) :
    ServerState :=
  ⟨⟨data, .empty, ⟨[]⟩, .new limits, clock, instant⟩, []⟩

inductive ServerAction
  /-- somebody replaces, damages or removes the users file -/
  | write (data : Option Bytes)
  /-- time passes -/
  | tick (clock instant : Nat)
  /-- a peer has upgraded to a WebSocket -/
  | accept (ip : IpAddr) (tlsSni httpHost : Option Text)
  | receive (i : Nat) (m : Message) (random : Bytes)
  | lost (i : Nat)
  | timeout (i : Nat)
  | proceed (i tie : Nat)
  deriving DecidableEq, Repr

/-- Connection `i` moves by itself. -/
def ServerState.move (s : ServerState) (i : Nat) (f : Conn → Option Conn) : Option ServerState :=
  (s.conns[i]?.bind f).map fun c => { s with conns := s.conns.set i c }

def ServerState.step (s : ServerState) : ServerAction → Option ServerState
  | .write data => some { s with shared := { s.shared with data := data } }
  | .tick clock instant =>
    some { s with shared := { s.shared with clock := clock, instant := instant } }
  | .accept ip tlsSni httpHost =>
    match s.shared.limiter.checkAllowed ip s.shared.instant with
    | (limiter, .error _) => some { s with shared := { s.shared with limiter := limiter } }
    | (limiter, .ok ()) =>
      some ⟨{ s.shared with limiter := limiter },
        s.conns ++ [cfg.begin ip s.shared.clock tlsSni httpHost]⟩
  | .receive i m random => s.move i fun c => c.receive L cfg random m
  | .lost i => s.move i Conn.lost
  | .timeout i => s.move i Conn.timeout
  | .proceed i tie => (s.conns[i]?.bind fun c => c.proceed L cfg s.shared tie).map fun r =>
      ⟨r.1, s.conns.set i r.2⟩

end Conn

/-! ## 5. What an authenticated connection is -/

/-- What a connection can say about earlier moments: in which phase it was, and what the shared
state was like then. -/
abbrev Past := Phase → (Shared → Prop) → Prop

section Knowledge

variable (L : Libraries) (cfg : Settings) (past : Past)

/-- `acquire` accepted `token`: an enabled user of the file that it read has a token with this hash,
and had a free slot when it took the lock. -/
def Accepted (token : Text) (caller : Caller) : Prop :=
  ∃ file user,
    past (.acquire token caller) (fun sh => loadUsers L.fromSlice sh.data = .ok file) ∧
    user ∈ file.users ∧ user.enabled = true ∧
    L.blake3 (Text.toUtf8 token) = L.blake3 (Text.toUtf8 user.token) ∧
    past (.enter token user caller) fun sh =>
      ∀ limit, user.maxConcurrent = some limit → (sh.active.get user.label).getD 0 < limit.toNat

/-- `frame` decrypts under the keys of the session and decodes to an AUTH with `token`. -/
def SealedAuth (keys : Bytes × Bytes) (frame : Bytes) (token : Text) : Prop :=
  ∃ A raw inner tok, cfg.cipher L keys = some A ∧ A.openPacket frame = .ok raw ∧
    readPaddedFrame raw = .ok inner ∧ decodeV3Auth inner = .ok tok ∧ tok.toList = token

/-- The keys of the session come from a HELLO among the frames. -/
def Keyed (c : Conn) (frames : List Bytes) (keys : Bytes × Bytes) : Prop :=
  c.keys = some keys ∧ ∃ h ∈ frames, parseHelloV3 h = .ok keys.1

/-- A v3 handshake is complete. -/
def SealedProof (c : Conn) (frames : List Bytes) : Prop :=
  ∃ keys token, Keyed c frames keys ∧ (∃ b ∈ frames, SealedAuth L cfg keys b token) ∧
    (cfg.users = true → Accepted L past token .sealed) ∧ (cfg.users = false → token = cfg.token)

/-- The first two frames are a HELLO and an AUTH, whose MAC is that of `token` over this
transcript. -/
def Transcript (rc : RealityServerConfig) (frames : List Bytes) (hello : RealityClientHello)
    (shared : Bytes) (token : Text) : Prop :=
  ∃ h a rest, frames = h :: a :: rest ∧ decodeClientHello h = .ok hello ∧
    L.diffieHellman rc.privateKey hello.clientPubkey = some shared ∧
    decodeClientAuth a = .ok (L.expectedMac rc hello shared token)

/-- `find_token` found `token`: it is that of an enabled user in the file that it read. -/
def Found (rc : RealityServerConfig) (hello : RealityClientHello) (shared : Bytes) (token : Text) :
    Prop :=
  past (.find hello shared (L.expectedMac rc hello shared token)) fun sh =>
    ∃ file, loadUsers L.fromSlice sh.data = .ok file ∧
      ∃ u ∈ file.users, u.enabled = true ∧ u.token = token

/-- A REALITY handshake is verified, up to the replay cache. -/
def Verified (rc : RealityServerConfig) (frames : List Bytes) (hello : RealityClientHello)
    (token : Text) : Prop :=
  ∃ shared, Transcript L rc frames hello shared token ∧
    (cfg.users = true →
      Found L past rc hello shared token ∧ Accepted L past token (.reality hello)) ∧
    (cfg.users = false → token = cfg.token)

/-- A REALITY handshake is complete: it also passed the replay cache. -/
def RealityProof (rc : RealityServerConfig) (frames : List Bytes) (token : Text) : Prop :=
  ∃ hello now, Verified L cfg past rc frames hello token ∧
    past (.replay token hello now) fun sh =>
      (sh.cache.checkAndInsert hello.nonce hello.unixSecs now rc.maxTimeDiff).2 = .ok ()

/-- **The connection has authenticated with one of the frames.**  A v3 session behind REALITY has,
on top, seen the AUTH of the token that REALITY accepted. -/
def Authenticated (c : Conn) (frames : List Bytes) : Prop :=
  match cfg.reality with
  | some rc => ∃ token, RealityProof L cfg past rc frames token ∧
      ∀ keys, c.keys = some keys → ∃ b ∈ frames, SealedAuth L cfg keys b token
  | none => SealedProof L cfg past c frames

end Knowledge

/-! ## 6. There is no other way to a service -/

/-- `handle_one` is on its way out. -/
def Phase.over : Phase → Bool
  | .failing _ | .closed => true
  | _ => false

/-- **Everything that a connection can do.** -/
inductive Conn.Move (L : Libraries) (cfg : Settings) (sh : Shared) (c : Conn) : Conn → Prop
  | skip : c.phase ≠ .closed → Move L cfg sh c c
  | stop {ph : Phase} {heard noise refused : List Bytes} {n : Nat} (hph : ph.over = true)
      (hc : c.phase ≠ .closed)
      (hnoise : noise = c.noise ∨ c.phase.over = false ∧ ∃ b, noise = c.noise ++ [b])
      (hrefused : refused = c.refused ∨ c.phase.over = false ∧ ∃ b, refused = c.refused ++ [b])
      (hn : n = c.undecrypted ∨ c.phase.over = false ∧ n = c.undecrypted + 1) :
      Move L cfg sh c { c with
        phase := ph, heard := heard, noise := noise, refused := refused, undecrypted := n }
  | controlHello {now control n : Nat} (hc : c.phase = .realityHello now control) :
      Move L cfg sh c { c with phase := .realityHello now n }
  | controlAuth {control n : Nat} {hello : RealityClientHello} {shared : Bytes}
      (hc : c.phase = .realityAuth control hello shared) :
      Move L cfg sh c { c with phase := .realityAuth n hello shared }
  | greet {now control : Nat} {rc : RealityServerConfig} {hello : RealityClientHello}
      {shared b : Bytes} (hc : c.phase = .realityHello now control) (hrc : cfg.reality = some rc)
      (hhello : decodeClientHello b = .ok hello)
      (hdh : L.diffieHellman rc.privateKey hello.clientPubkey = some shared) :
      Move L cfg sh c { c with
        heard := c.heard ++ [b], phase := .realityAuth control hello shared }
  | lookUp {control : Nat} {hello : RealityClientHello} {shared mac b : Bytes}
      (hc : c.phase = .realityAuth control hello shared) (hu : cfg.users = true)
      (hmac : decodeClientAuth b = .ok mac) :
      Move L cfg sh c { c with heard := c.heard ++ [b], phase := .find hello shared mac }
  | verify {control : Nat} {rc : RealityServerConfig} {hello : RealityClientHello}
      {shared b : Bytes} (hc : c.phase = .realityAuth control hello shared)
      (hrc : cfg.reality = some rc) (hu : cfg.users = false)
      (hmac : decodeClientAuth b = .ok (L.expectedMac rc hello shared cfg.token)) :
      Move L cfg sh c { c with heard := c.heard ++ [b], phase := .readClock cfg.token hello }
  | find {hello : RealityClientHello} {shared mac : Bytes} {rc : RealityServerConfig}
      {file : UsersFile} {u : User} (hc : c.phase = .find hello shared mac)
      (hrc : cfg.reality = some rc) (hload : loadUsers L.fromSlice sh.data = .ok file)
      (hu : u ∈ file.users) (hen : u.enabled = true)
      (hmac : mac = L.expectedMac rc hello shared u.token) :
      Move L cfg sh c { c with phase := .acquire u.token (.reality hello) }
  | choose {token : Text} {caller : Caller} {file : UsersFile} {u : User}
      (hc : c.phase = .acquire token caller) (hload : loadUsers L.fromSlice sh.data = .ok file)
      (hu : u ∈ file.users) (hen : u.enabled = true)
      (hhash : L.blake3 (Text.toUtf8 token) = L.blake3 (Text.toUtf8 u.token)) :
      Move L cfg sh c { c with phase := .enter token u caller }
  | grant {token : Text} {caller : Caller} {u : User} (hc : c.phase = .enter token u caller)
      (hroom : ∀ limit, u.maxConcurrent = some limit →
        (sh.active.get u.label).getD 0 < limit.toNat) :
      Move L cfg sh c { c with session := some u.label, phase := caller.granted token }
  | clock {token : Text} {hello : RealityClientHello} {now : Nat}
      (hc : c.phase = .readClock token hello) :
      Move L cfg sh c { c with phase := .replay token hello now }
  | fresh {token : Text} {hello : RealityClientHello} {now : Nat} {rc : RealityServerConfig}
      (hc : c.phase = .replay token hello now) (hrc : cfg.reality = some rc)
      (hok : (sh.cache.checkAndInsert hello.nonce hello.unixSecs now rc.maxTimeDiff).2 = .ok ()) :
      Move L cfg sh c { c with phase := .welcome token }
  | welcomed {token : Text} (hc : c.phase = .welcome token) :
      Move L cfg sh c { c with phase := .afterReality token }
  | openMux {token : Text} {b : Bytes} (hc : c.phase = .afterReality token) :
      Move L cfg sh c { c with heard := c.heard ++ [b], phase := .serving .tcpMux }
  | chain {token : Text} {b clientRandom random : Bytes} (hc : c.phase = .afterReality token) :
      Move L cfg sh c { c with
        heard := c.heard ++ [b], keys := some (clientRandom, random)
        phase := .auth ⟨0, 0, 0⟩ (some token) }
  | noise {t t' : PreHelloJunkTracker} {b : Bytes} (hc : c.phase = .hello t)
      (hb : accountPreHelloBinary b t (min cfg.preAuth.maxJunkFrames maxPreHelloFrames)
        (min cfg.preAuth.maxJunkBytes maxPreHelloBytes) = (t', .ok none)) :
      Move L cfg sh c { c with
        heard := c.heard ++ [b], noise := c.noise ++ [b], phase := .hello t' }
  | hello {t : PreHelloJunkTracker} {b clientRandom random : Bytes} (hc : c.phase = .hello t)
      (hb : parseHelloV3 b = .ok clientRandom) :
      Move L cfg sh c { c with
        heard := c.heard ++ [b], keys := some (clientRandom, random)
        phase := .auth ⟨0, 0, 0⟩ (if cfg.users then none else some cfg.token) }
  | undecrypted {t t' t'' : PreAuthBudgetTracker} {expected : Option Text} {b : Bytes}
      (hc : c.phase = .auth t expected)
      (hb : t.noteBinaryFrame b.length cfg.preAuth = (t', .ok ()))
      (hfail : t'.noteDecryptFailure cfg.preAuth = (t'', .ok ())) :
      Move L cfg sh c { c with
        heard := c.heard ++ [b], refused := c.refused ++ [b], undecrypted := c.undecrypted + 1
        phase := .auth t'' expected }
  | sealed {t : PreAuthBudgetTracker} {b : Bytes} {keys : Bytes × Bytes} {token : Text}
      (hc : c.phase = .auth t none) (hkeys : c.keys = some keys)
      (hauth : SealedAuth L cfg keys b token) :
      Move L cfg sh c { c with heard := c.heard ++ [b], phase := .acquire token .sealed }
  | matched {t : PreAuthBudgetTracker} {b : Bytes} {keys : Bytes × Bytes} {token : Text}
      (hc : c.phase = .auth t (some token)) (hkeys : c.keys = some keys)
      (hauth : SealedAuth L cfg keys b token) :
      Move L cfg sh c { c with heard := c.heard ++ [b], phase := .recordSuccess }
  | recorded (hc : c.phase = .recordSuccess) :
      Move L cfg sh c { c with phase := .channel ⟨0, 0, 0⟩ }
  | opened {t : PreAuthBudgetTracker} {b : Bytes} {service : Service} (hc : c.phase = .channel t) :
      Move L cfg sh c { c with heard := c.heard ++ [b], phase := .serving service }
  | waits {t t' : PreAuthBudgetTracker} {b : Bytes} (hc : c.phase = .channel t) :
      Move L cfg sh c { c with heard := c.heard ++ [b], phase := .channel t' }
  | failed {timed : Bool} (hc : c.phase = .failing timed) :
      Move L cfg sh c { c with failures := c.failures + 1, phase := .closed }
  | released (hc : c.phase = .closed) : Move L cfg sh c { c with session := none }

section Moves

variable {L : Libraries} {cfg : Settings} {sh sh' : Shared} {c c' : Conn}

/-- Any of the ways out that leaves the history of refused frames alone. -/
theorem Conn.Move.quit {ph : Phase} {heard : List Bytes} (hph : ph.over = true)
    (hc : c.phase ≠ .closed) : c.Move L cfg sh { c with heard := heard, phase := ph } :=
  .stop hph hc (.inl rfl) (.inl rfl) (.inl rfl)

variable {b : Bytes}

/-- A way out that adds the last frame to the refused ones. -/
theorem Conn.Move.refuse {ph : Phase} {heard : List Bytes} (hph : ph.over = true)
    (hc : c.phase.over = false) :
    c.Move L cfg sh { c with heard := heard, refused := c.refused ++ [b], phase := ph } :=
  .stop hph (fun h => by rw [h] at hc; cases hc) (.inl rfl) (.inr ⟨hc, b, rfl⟩) (.inl rfl)

theorem realityHelloFrame_eq_ok {rc : RealityServerConfig} {now : Nat} {b shared : Bytes}
    {hello : RealityClientHello} (h : realityHelloFrame L rc now b = .ok (hello, shared)) :
    decodeClientHello b = .ok hello ∧
      L.diffieHellman rc.privateKey hello.clientPubkey = some shared := by
  unfold realityHelloFrame at h
  obtain ⟨hello', hdec, h⟩ := bind_eq_ok.mp h
  obtain ⟨-, -, h⟩ := bind_eq_ok.mp h
  obtain ⟨-, -, h⟩ := bind_eq_ok.mp h
  obtain ⟨r, hr, h⟩ := bind_eq_ok.mp h
  cases h
  refine ⟨hdec, ?_⟩
  unfold Suite.serverHelloWithConfirmAndShared at hr
  split at hr
  · cases hr
  · rename_i shared hdh
    cases hr
    exact hdh

theorem accountPreHelloBinary_some {b clientRandom : Bytes} {t t' : PreHelloJunkTracker}
    {f n : Nat} (h : accountPreHelloBinary b t f n = (t', .ok (some clientRandom))) :
    parseHelloV3 b = .ok clientRandom := by
  unfold accountPreHelloBinary at h
  split at h
  · rename_i r hr
    cases h
    exact hr
  · have hsnd := congrArg Prod.snd h
    dsimp only at hsnd
    split at hsnd <;> cases hsnd

namespace Conn

theorem move_of_authFrame {A : Aead} {t : PreAuthBudgetTracker} {expected : Option Text}
    {keys : Bytes × Bytes} (hc : c.phase = .auth t expected) (hkeys : c.keys = some keys)
    (hA : cfg.cipher L keys = some A) :
    c.Move L cfg sh (authFrame cfg A { c with heard := c.heard ++ [b] } t expected b) := by
  have hover : c.phase.over = false := by rw [hc]; rfl
  unfold authFrame
  split
  · exact .refuse rfl hover
  · rename_i t' ht'
    split
    · rename_i raw hraw
      unfold authOpened
      split
      · exact .refuse rfl hover
      · rename_i inner hinner
        split
        · exact .refuse rfl hover
        · rename_i token htoken
          split
          · exact .sealed hc hkeys ⟨A, raw, inner, token, hA, hraw, hinner, htoken, rfl⟩
          · rename_i want
            split
            · rename_i heq
              exact .matched hc hkeys ⟨A, raw, inner, token, hA, hraw, hinner, htoken,
                Text.toUtf8_injective (eq_of_secretEq heq)⟩
            · exact .refuse rfl hover
    · split
      · rename_i t'' ht''
        exact .undecrypted hc ht' ht''
      · exact .stop rfl (fun h => by rw [h] at hover; cases hover) (.inl rfl)
          (.inr ⟨hover, b, rfl⟩) (.inr ⟨hover, rfl⟩)

theorem move_of_channelFrame {A : Aead} {t : PreAuthBudgetTracker} (hc : c.phase = .channel t) :
    c.Move L cfg sh (channelFrame cfg A { c with heard := c.heard ++ [b] } t b) := by
  have hclosed : c.phase ≠ .closed := by rw [hc]; nofun
  unfold channelFrame
  split
  · exact .quit rfl hclosed
  · split
    · exact .quit rfl hclosed
    · split
      · split
        · exact .opened hc
        · exact .quit rfl hclosed
      · exact .opened hc
      · exact .opened hc
      · split
        · exact .waits hc
        · exact .quit rfl hclosed

theorem move_of_helloFrame {t : PreHelloJunkTracker} {random b : Bytes} (hc : c.phase = .hello t) :
    c.Move L cfg sh (helloFrame cfg { c with heard := c.heard ++ [b] } t random b) := by
  have hover : c.phase.over = false := by rw [hc]; rfl
  have hclosed : c.phase ≠ .closed := by rw [hc]; nofun
  unfold helloFrame
  split
  · rename_i hb
    split
    · exact .hello hc (accountPreHelloBinary_some hb)
    · exact .quit rfl hclosed
  · rename_i t' hb
    exact .noise hc hb
  · exact .stop rfl hclosed (.inr ⟨hover, b, rfl⟩) (.inl rfl) (.inl rfl)

theorem move_of_receiveBinary {random b : Bytes} (h : c.receiveBinary L cfg random b = some c') :
    c.Move L cfg sh c' := by
  unfold receiveBinary at h
  split at h
  · rename_i now control hc
    obtain ⟨rc, hrc, rfl⟩ := Option.map_eq_some_iff.mp h
    split
    · rename_i hello shared hframe
      obtain ⟨hhello, hdh⟩ := realityHelloFrame_eq_ok hframe
      exact .greet hc hrc hhello hdh
    · exact .quit rfl (by rw [hc]; nofun)
  · rename_i control hello shared hc
    obtain ⟨rc, hrc, rfl⟩ := Option.map_eq_some_iff.mp h
    have hclosed : c.phase ≠ .closed := by rw [hc]; nofun
    unfold realityAuthFrame
    split
    · exact .quit rfl hclosed
    · rename_i mac hmac
      split
      · rename_i hu
        exact .lookUp hc hu hmac
      · rename_i hu
        split
        · rename_i heq
          exact .verify hc hrc (Bool.not_eq_true _ ▸ hu) (heq ▸ hmac)
        · exact .quit rfl hclosed
  · rename_i token hc
    cases h
    have hclosed : c.phase ≠ .closed := by rw [hc]; nofun
    unfold firstFrame
    split
    · exact .openMux hc
    · split
      · split
        · exact .chain hc
        · exact .quit rfl hclosed
      · exact .quit rfl hclosed
  · rename_i t hc
    cases h
    exact move_of_helloFrame hc
  · rename_i t expected hc
    obtain ⟨A, hA, rfl⟩ := Option.map_eq_some_iff.mp h
    obtain ⟨keys, hkeys, hA⟩ := Option.bind_eq_some_iff.mp hA
    exact move_of_authFrame hc hkeys hA
  · rename_i t hc
    obtain ⟨A, -, rfl⟩ := Option.map_eq_some_iff.mp h
    exact move_of_channelFrame hc
  · cases h

theorem move_of_receive {random : Bytes} {m : Message} (h : c.receive L cfg random m = some c') :
    c.Move L cfg sh c' := by
  unfold receive at h
  split at h
  · exact move_of_receiveBinary h
  · unfold receiveOther at h
    have hskip : ∀ {d : Conn}, c.phase ≠ .closed →
        some (if m = .close then { c with phase := .closed } else c) = some d →
        c.Move L cfg sh d := by
      intro d hclosed hd
      cases hd
      split
      · exact .quit rfl hclosed
      · exact .skip hclosed
    split at h
    · rename_i now control hc
      split at h
      · cases h
        unfold controlFrame
        split
        · exact .quit rfl (by rw [hc]; nofun)
        · exact .controlHello hc
      · cases h
        exact .quit rfl (by rw [hc]; nofun)
    · rename_i control hello shared hc
      split at h
      · cases h
        unfold controlFrame
        split
        · exact .quit rfl (by rw [hc]; nofun)
        · exact .controlAuth hc
      · cases h
        exact .quit rfl (by rw [hc]; nofun)
    all_goals first
      | (rename_i hc; exact hskip (by rw [hc]; nofun) h)
      | cases h

theorem move_of_lost (h : c.lost = some c') : c.Move L cfg sh c' := by
  unfold lost at h
  split at h
  all_goals first
    | (rename_i hc; cases h; exact .quit rfl (by rw [hc]; nofun))
    | cases h

theorem move_of_timeout (h : c.timeout = some c') : c.Move L cfg sh c' := by
  unfold timeout at h
  split at h
  all_goals first
    | (rename_i hc; cases h; exact .quit rfl (by rw [hc]; nofun))
    | cases h

theorem move_of_refuse {caller : Caller} (hc : c.phase.over = false) :
    c.Move L cfg sh (c.refuse caller) := by
  have hclosed : c.phase ≠ .closed := fun h => by rw [h] at hc; cases hc
  cases caller with
  | reality hello => exact .quit rfl hclosed
  | «sealed» =>
    unfold refuse
    cases hlast : c.heard.getLast? with
    | none => exact .stop rfl hclosed (.inl rfl) (.inl (List.append_nil _)) (.inl rfl)
    | some b => exact .refuse rfl hc

end Conn

/-- **A granted `acquire` found a free slot.** -/
theorem room_of_lockedAcquire {active active' : Table Text Nat} {u : User}
    (h : lockedAcquire active u = (active', .ok ())) :
    ∀ limit, u.maxConcurrent = some limit → (active.get u.label).getD 0 < limit.toNat := by
  intro limit hlimit
  -- the default entry counts like no entry
  have hcount : ∀ x : Table Text Nat,
      x = (if (active.get u.label).isSome then active else active.insert u.label 0) →
      (x.get u.label).getD 0 = (active.get u.label).getD 0 := by
    rintro x rfl
    split
    · rfl
    · rename_i hnone
      rw [Table.get_insert, if_pos rfl, Option.not_isSome_iff_eq_none.mp hnone]
      rfl
  have hsnd := congrArg Prod.snd h
  unfold lockedAcquire at hsnd
  dsimp only at hsnd
  rw [hcount _ rfl] at hsnd
  split at hsnd
  · cases hsnd
  · rename_i hroom
    rw [hlimit] at hroom
    simpa using hroom

theorem Conn.move_of_proceed {tie : Nat} (h : c.proceed L cfg sh tie = some (sh', c')) :
    c.Move L cfg sh c' := by
  unfold Conn.proceed at h
  split at h
  · rename_i hello shared mac hc
    have hclosed : c.phase ≠ .closed := by rw [hc]; nofun
    obtain ⟨rc, hrc, h⟩ := Option.map_eq_some_iff.mp h
    split at h
    · cases h
      exact .quit rfl hclosed
    · rename_i file hload
      split at h
      · cases h
        exact .quit rfl hclosed
      · rename_i token hfound
        cases h
        obtain ⟨u, hu, hen, hmac, rfl⟩ := findToken_some hfound
        exact .find hc hrc hload hu hen (beq_iff_eq.mp hmac)
  · rename_i token caller hc
    have hover : c.phase.over = false := by rw [hc]; rfl
    split at h
    · cases h
      exact Conn.move_of_refuse hover
    · rename_i file hload
      split at h
      · cases h
        exact Conn.move_of_refuse hover
      · rename_i u hchoose
        cases h
        obtain ⟨hu, hen⟩ := Outside.choose_some hchoose
        exact .choose hc hload hu hen (Outside.choose_hash hchoose)
  · rename_i token u caller hc
    have hover : c.phase.over = false := by rw [hc]; rfl
    split at h
    · cases h
      exact Conn.move_of_refuse hover
    · rename_i active hacq
      cases h
      exact .grant hc (room_of_lockedAcquire hacq)
  · rename_i token hello hc
    cases h
    exact .clock hc
  · rename_i token hello now hc
    obtain ⟨rc, hrc, h⟩ := Option.map_eq_some_iff.mp h
    split at h
    · rename_i cache hok
      cases h
      exact .fresh hc hrc (by rw [hok])
    · cases h
      exact .quit rfl (by rw [hc]; nofun)
  · rename_i token hc
    cases h
    split
    · exact .quit rfl (by rw [hc]; nofun)
    · exact .welcomed hc
  · rename_i hc
    cases h
    exact .recorded hc
  · rename_i timed hc
    cases h
    exact .failed hc
  · rename_i hc
    obtain ⟨label, -, h⟩ := Option.bind_eq_some_iff.mp h
    obtain ⟨active, -, h⟩ := Option.map_eq_some_iff.mp h
    cases h
    exact .released hc
  · cases h

end Moves

section Knows

variable {L : Libraries} {cfg : Settings} {past past' : Past} {sh : Shared} {c c' : Conn}
  {frames frames' : List Bytes}

/-- What a caller of `acquire` has verified. -/
def Caller.Knows (L : Libraries) (cfg : Settings) (past : Past) (c : Conn) (token : Text) :
    Caller → Prop
  | .sealed => cfg.reality = none ∧ cfg.users = true ∧ ∃ keys, Keyed c c.heard keys ∧
      ∃ b ∈ c.heard, SealedAuth L cfg keys b token
  | .reality hello => ∃ rc shared, cfg.reality = some rc ∧ cfg.users = true ∧ c.keys = none ∧
      Transcript L rc c.heard hello shared token ∧ Found L past rc hello shared token

/-- What a connection has verified when it is where it is. -/
def Conn.Knows (L : Libraries) (cfg : Settings) (past : Past) (c : Conn) : Prop :=
  match c.phase with
  | .realityHello _ _ => c.keys = none ∧ c.heard = []
  | .realityAuth _ hello shared => c.keys = none ∧ ∃ rc h, cfg.reality = some rc ∧ c.heard = [h] ∧
      decodeClientHello h = .ok hello ∧
      L.diffieHellman rc.privateKey hello.clientPubkey = some shared
  | .find hello shared mac => cfg.users = true ∧ c.keys = none ∧ ∃ rc h a, cfg.reality = some rc ∧
      c.heard = [h, a] ∧ decodeClientHello h = .ok hello ∧
      L.diffieHellman rc.privateKey hello.clientPubkey = some shared ∧ decodeClientAuth a = .ok mac
  | .acquire token caller => caller.Knows L cfg past c token
  | .enter token user caller => caller.Knows L cfg past c token ∧
      ∃ file, past (.acquire token caller) (fun sh => loadUsers L.fromSlice sh.data = .ok file) ∧
        user ∈ file.users ∧ user.enabled = true ∧
        L.blake3 (Text.toUtf8 token) = L.blake3 (Text.toUtf8 user.token)
  | .readClock token hello | .replay token hello _ =>
      c.keys = none ∧ ∃ rc, cfg.reality = some rc ∧ Verified L cfg past rc c.heard hello token
  | .welcome token | .afterReality token =>
      c.keys = none ∧ ∃ rc, cfg.reality = some rc ∧ RealityProof L cfg past rc c.heard token
  | .hello _ => cfg.reality = none
  | .auth _ expected =>
    match cfg.reality with
    | some rc => ∃ token, expected = some token ∧ RealityProof L cfg past rc c.heard token
    | none => (expected = if cfg.users then none else some cfg.token) ∧
        ∃ keys, Keyed c c.heard keys
  | .recordSuccess | .channel _ => Authenticated L cfg past c c.heard
  | .serving _ => Authenticated L cfg past c c.heard.dropLast
  | .failing _ | .closed => True

/-! ### Later frames take nothing back -/

theorem Keyed.mono {keys : Bytes × Bytes} (h : Keyed c frames keys) (hk : c'.keys = c.keys)
    (hf : frames ⊆ frames') : Keyed c' frames' keys := by
  obtain ⟨hkeys, x, hx, hparse⟩ := h
  exact ⟨hk.trans hkeys, x, hf hx, hparse⟩

variable {rc : RealityServerConfig} {token : Text}

theorem Transcript.append {hello : RealityClientHello} {shared : Bytes}
    (h : Transcript L rc frames hello shared token) (more : List Bytes) :
    Transcript L rc (frames ++ more) hello shared token := by
  obtain ⟨x, a, rest, rfl, hx, hdh, ha⟩ := h
  exact ⟨x, a, rest ++ more, rfl, hx, hdh, ha⟩

theorem RealityProof.append (h : RealityProof L cfg past rc frames token) (more : List Bytes) :
    RealityProof L cfg past rc (frames ++ more) token := by
  obtain ⟨hello, now, ⟨shared, htr, hvouched⟩, hreplay⟩ := h
  exact ⟨hello, now, ⟨shared, htr.append more, hvouched⟩, hreplay⟩

theorem Authenticated.append (h : Authenticated L cfg past c frames) (hk : c'.keys = c.keys)
    (more : List Bytes) : Authenticated L cfg past c' (frames ++ more) := by
  unfold Authenticated at h ⊢
  split at h
  · obtain ⟨token, hreality, hsealed⟩ := h
    refine ⟨token, hreality.append more, fun keys hkeys => ?_⟩
    obtain ⟨b, hb, hauth⟩ := hsealed keys (hk ▸ hkeys)
    exact ⟨b, List.mem_append_left more hb, hauth⟩
  · obtain ⟨keys, token, hkeyed, ⟨b, hb, hauth⟩, hvouched⟩ := h
    exact ⟨keys, token, hkeyed.mono hk (List.subset_append_left _ _),
      ⟨b, List.mem_append_left more hb, hauth⟩, hvouched⟩

theorem Authenticated.congr (h : Authenticated L cfg past c frames) (hk : c'.keys = c.keys) :
    Authenticated L cfg past c' frames := by
  simpa using h.append hk []

/-! ### Nor does time -/

theorem Accepted.mono (hp : ∀ ph Q, past ph Q → past' ph Q) {caller : Caller}
    (h : Accepted L past token caller) : Accepted L past' token caller := by
  obtain ⟨file, user, hload, hu, hen, hhash, hroom⟩ := h
  exact ⟨file, user, hp _ _ hload, hu, hen, hhash, hp _ _ hroom⟩

theorem Verified.mono (hp : ∀ ph Q, past ph Q → past' ph Q) {hello : RealityClientHello}
    (h : Verified L cfg past rc frames hello token) :
    Verified L cfg past' rc frames hello token := by
  obtain ⟨shared, htr, husers, htoken⟩ := h
  exact ⟨shared, htr, fun hu => ⟨hp _ _ (husers hu).1, (husers hu).2.mono hp⟩, htoken⟩

theorem RealityProof.mono (hp : ∀ ph Q, past ph Q → past' ph Q)
    (h : RealityProof L cfg past rc frames token) : RealityProof L cfg past' rc frames token := by
  obtain ⟨hello, now, hv, hreplay⟩ := h
  exact ⟨hello, now, hv.mono hp, hp _ _ hreplay⟩

theorem Authenticated.mono (hp : ∀ ph Q, past ph Q → past' ph Q)
    (h : Authenticated L cfg past c frames) : Authenticated L cfg past' c frames := by
  unfold Authenticated at h ⊢
  split at h
  · obtain ⟨token, hreality, hsealed⟩ := h
    exact ⟨token, hreality.mono hp, hsealed⟩
  · obtain ⟨keys, token, hkeyed, hauth, husers, htoken⟩ := h
    exact ⟨keys, token, hkeyed, hauth, fun hu => (husers hu).mono hp, htoken⟩

theorem Caller.Knows.mono (hp : ∀ ph Q, past ph Q → past' ph Q) {caller : Caller}
    (h : caller.Knows L cfg past c token) : caller.Knows L cfg past' c token := by
  cases caller with
  | «sealed» => exact h
  | reality hello =>
    obtain ⟨rc, shared, hrc, hu, hk, htr, hfound⟩ := h
    exact ⟨rc, shared, hrc, hu, hk, htr, hp _ _ hfound⟩

theorem Conn.Knows.mono (hp : ∀ ph Q, past ph Q → past' ph Q) (h : c.Knows L cfg past) :
    c.Knows L cfg past' := by
  unfold Conn.Knows at h ⊢
  split at h
  case h_1 | h_2 | h_3 | h_10 | h_15 | h_16 => exact h
  case h_4 => exact Caller.Knows.mono hp h
  case h_5 =>
    obtain ⟨hknows, file, hload, hu⟩ := h
    exact ⟨hknows.mono hp, file, hp _ _ hload, hu⟩
  case h_6 | h_7 =>
    obtain ⟨hk, rc, hrc, hv⟩ := h
    exact ⟨hk, rc, hrc, hv.mono hp⟩
  case h_8 | h_9 =>
    obtain ⟨hk, rc, hrc, hv⟩ := h
    exact ⟨hk, rc, hrc, hv.mono hp⟩
  case h_11 =>
    split at h
    · obtain ⟨token, hexp, hproof⟩ := h
      exact ⟨token, hexp, hproof.mono hp⟩
    · exact h
  case h_12 | h_13 | h_14 => exact Authenticated.mono hp h

/-- **What a connection knows it has verified**: every step keeps that, or adds what it checks. -/
theorem Conn.Knows.move (hnow : ∀ Q : Shared → Prop, Q sh → past c.phase Q)
    (h : c.Knows L cfg past) (hm : c.Move L cfg sh c') : c'.Knows L cfg past := by
  cases hm with
  | skip => exact h
  | @stop ph _ _ _ _ hph =>
    cases ph with
    | failing | closed => trivial
    | _ => cases hph
  | controlHello hc | controlAuth hc | clock hc | welcomed hc | noise hc =>
    simp only [Conn.Knows, hc] at h
    exact h
  | greet hc hrc hhello hdh =>
    simp only [Conn.Knows, hc] at h
    obtain ⟨hk, hheard⟩ := h
    exact ⟨hk, _, _, hrc, by rw [hheard]; rfl, hhello, hdh⟩
  | lookUp hc hu hmac =>
    simp only [Conn.Knows, hc] at h
    obtain ⟨hk, rc, x, hrc, hheard, hhello, hdh⟩ := h
    exact ⟨hu, hk, rc, x, _, hrc, by rw [hheard]; rfl, hhello, hdh, hmac⟩
  | verify hc hrc hu hmac =>
    simp only [Conn.Knows, hc] at h
    obtain ⟨hk, rc, x, hrc', hheard, hhello, hdh⟩ := h
    cases hrc.symm.trans hrc'
    refine ⟨hk, _, hrc, _, ⟨x, _, [], by rw [hheard]; rfl, hhello, hdh, hmac⟩, ?_, fun _ => rfl⟩
    exact fun hu' => Bool.noConfusion (hu.symm.trans hu')
  | @find _ _ _ _ file u hc hrc hload hu hen hmac =>
    have hfound := hnow (fun sh => ∃ file, loadUsers L.fromSlice sh.data = .ok file ∧
      ∃ x ∈ file.users, x.enabled = true ∧ x.token = u.token) ⟨file, hload, u, hu, hen, rfl⟩
    simp only [Conn.Knows, hc] at h
    obtain ⟨husers, hk, rc, x, a, hrc', hheard, hhello, hdh, ha⟩ := h
    cases hrc.symm.trans hrc'
    rw [hc, hmac] at hfound
    rw [hmac] at ha
    exact ⟨_, _, hrc, husers, hk, ⟨x, a, [], hheard, hhello, hdh, ha⟩, hfound⟩
  | @choose _ _ file _ hc hload hu hen hhash =>
    have hpast := hnow (fun sh => loadUsers L.fromSlice sh.data = .ok file) hload
    simp only [Conn.Knows, hc] at h
    exact ⟨h, file, hc ▸ hpast, hu, hen, hhash⟩
  | @grant token caller u hc hroom =>
    have hpast := hnow (fun sh => ∀ limit, u.maxConcurrent = some limit →
      (sh.active.get u.label).getD 0 < limit.toNat) hroom
    rw [hc] at hpast
    simp only [Conn.Knows, hc] at h
    obtain ⟨hknows, file, hload, hu, hen, hhash⟩ := h
    have hacc : Accepted L past token caller := ⟨file, u, hload, hu, hen, hhash, hpast⟩
    cases caller with
    | «sealed» =>
      obtain ⟨hrc, husers, keys, hkeyed, hauth⟩ := hknows
      change Authenticated L cfg past _ c.heard
      simp only [Authenticated, hrc]
      exact ⟨keys, token, hkeyed.mono rfl (List.Subset.refl _), hauth, fun _ => hacc,
        fun hu' => Bool.noConfusion (husers.symm.trans hu')⟩
    | reality hello =>
      obtain ⟨rc, shared, hrc, husers, hk, htr, hfound⟩ := hknows
      exact ⟨hk, rc, hrc, shared, htr, fun _ => ⟨hfound, hacc⟩,
        fun hu' => Bool.noConfusion (husers.symm.trans hu')⟩
  | @fresh token hello now rc hc hrc hok =>
    have hpast := hnow (fun sh =>
      (sh.cache.checkAndInsert hello.nonce hello.unixSecs now rc.maxTimeDiff).2 = .ok ()) hok
    simp only [Conn.Knows, hc] at h
    obtain ⟨hk, rc', hrc', hv⟩ := h
    cases hrc.symm.trans hrc'
    exact ⟨hk, rc, hrc, hello, now, hv, hc ▸ hpast⟩
  | @openMux token b hc =>
    simp only [Conn.Knows, hc] at h
    obtain ⟨hk, rc, hrc, hproof⟩ := h
    change Authenticated L cfg past _ (c.heard ++ [b]).dropLast
    rw [List.dropLast_concat]
    simp only [Authenticated, hrc, hk]
    exact ⟨token, hproof, nofun⟩
  | chain hc =>
    simp only [Conn.Knows, hc] at h
    obtain ⟨-, rc, hrc, hproof⟩ := h
    simp only [Conn.Knows, hrc]
    exact ⟨_, rfl, hproof.append _⟩
  | hello hc hb =>
    simp only [Conn.Knows, hc] at h
    simp only [Conn.Knows, h]
    exact ⟨trivial, _, rfl, _, List.mem_append_right _ List.mem_cons_self, hb⟩
  | undecrypted hc =>
    simp only [Conn.Knows, hc] at h
    simp only [Conn.Knows]
    split at h
    · obtain ⟨token, hexp, hproof⟩ := h
      exact ⟨token, hexp, hproof.append _⟩
    · obtain ⟨hexp, keys, hkeyed⟩ := h
      exact ⟨hexp, keys, hkeyed.mono rfl (List.subset_append_left _ _)⟩
  | @«sealed» t b keys token hc hkeys hauth =>
    simp only [Conn.Knows, hc] at h
    split at h
    · obtain ⟨token', hexp, -⟩ := h
      cases hexp
    · rename_i hrc
      obtain ⟨hexp, keys', hkeyed⟩ := h
      cases hkeys.symm.trans hkeyed.1
      have husers : cfg.users = true := by
        by_contra hu
        rw [if_neg hu] at hexp
        cases hexp
      exact ⟨hrc, husers, keys, hkeyed.mono rfl (List.subset_append_left _ _), b,
        List.mem_append_right _ List.mem_cons_self, hauth⟩
  | @matched t b keys token hc hkeys hauth =>
    simp only [Conn.Knows, hc] at h
    have hmem : b ∈ c.heard ++ [b] := List.mem_append_right _ List.mem_cons_self
    change Authenticated L cfg past _ (c.heard ++ [b])
    unfold Authenticated
    split at h
    · obtain ⟨token', hexp, hproof⟩ := h
      cases hexp
      refine ⟨token, hproof.append _, fun keys' hkeys' => ?_⟩
      cases hkeys.symm.trans hkeys'
      exact ⟨b, hmem, hauth⟩
    · obtain ⟨hexp, keys', hkeyed⟩ := h
      cases hkeys.symm.trans hkeyed.1
      refine ⟨keys, token, hkeyed.mono rfl (List.subset_append_left _ _), ⟨b, hmem, hauth⟩,
        fun hu => ?_, fun hu => ?_⟩
      · rw [if_pos hu] at hexp
        cases hexp
      · rw [if_neg (by rw [hu]; nofun)] at hexp
        exact Option.some.inj hexp
  | recorded hc =>
    simp only [Conn.Knows, hc] at h
    exact Authenticated.congr h rfl
  | @opened t b service hc =>
    simp only [Conn.Knows, hc] at h
    change Authenticated L cfg past _ (c.heard ++ [b]).dropLast
    rw [List.dropLast_concat]
    exact Authenticated.congr h rfl
  | @waits t t' b hc =>
    simp only [Conn.Knows, hc] at h
    exact Authenticated.append h rfl [b]
  | failed | released => trivial

end Knows

section Metered

/-- The bytes of some frames. -/
def bytesOf (frames : List Bytes) : Nat := (frames.map List.length).sum

theorem bytesOf_concat (frames : List Bytes) (b : Bytes) :
    bytesOf (frames ++ [b]) = bytesOf frames + b.length := by
  simp [bytesOf]

variable {L : Libraries} {cfg : Settings} {sh : Shared} {c c' : Conn}

/-- What may be sent before HELLO. -/
def Settings.NoiseFits (cfg : Settings) (frames : List Bytes) : Prop :=
  frames.length ≤ min cfg.preAuth.maxJunkFrames maxPreHelloFrames ∧
    bytesOf frames ≤ min cfg.preAuth.maxJunkBytes maxPreHelloBytes

/-- What may be sent between HELLO and AUTH.  A counter that saturates cannot exceed the largest
value of its type. -/
structure Settings.RefusedFits (cfg : Settings) (refused : List Bytes) : Prop where
  frames : cfg.preAuth.maxJunkFrames < u32Max → refused.length ≤ cfg.preAuth.maxJunkFrames
  bytes : cfg.preAuth.maxJunkBytes < u64Max → bytesOf refused ≤ cfg.preAuth.maxJunkBytes

/-- How many frames may fail to decrypt. -/
def Settings.DecryptFits (cfg : Settings) (n : Nat) : Prop :=
  cfg.preAuth.maxDecryptFailures < u32Max → n ≤ cfg.preAuth.maxDecryptFailures

/-- The tracker of the wait for AUTH counts the frames that were refused. -/
structure PreAuthBudgetTracker.Tracks (t : PreAuthBudgetTracker) (refused : List Bytes) (n : Nat) :
    Prop where
  frames : t.junkFrames = min refused.length u32Max
  bytes : t.junkBytes = min (bytesOf refused) u64Max
  failures : t.decryptFailures = min n u32Max

theorem saturatingAdd_min (top a b : Nat) : saturatingAdd top (min a top) b = min (a + b) top := by
  unfold saturatingAdd
  omega

theorem noteBinaryFrame_tracks {t t' : PreAuthBudgetTracker} {refused : List Bytes} {n : Nat}
    {b : Bytes} (h : t.Tracks refused n)
    (hb : t.noteBinaryFrame b.length cfg.preAuth = (t', .ok ())) :
    t'.Tracks (refused ++ [b]) n ∧ cfg.RefusedFits (refused ++ [b]) := by
  unfold PreAuthBudgetTracker.noteBinaryFrame at hb
  dsimp only at hb
  split at hb
  · cases hb
  · rename_i hle
    cases hb
    rw [h.frames, h.bytes, saturatingAdd_min, saturatingAdd_min] at hle
    refine ⟨⟨?_, ?_, h.failures⟩, ⟨fun hlt => ?_, fun hlt => ?_⟩⟩
    · change saturatingAdd u32Max t.junkFrames 1 = _
      rw [h.frames, saturatingAdd_min, List.length_append, List.length_singleton]
    · change saturatingAdd u64Max t.junkBytes b.length = _
      rw [h.bytes, saturatingAdd_min, bytesOf_concat]
    · rw [List.length_append, List.length_singleton]
      omega
    · rw [bytesOf_concat]
      omega

theorem noteDecryptFailure_tracks {t t' : PreAuthBudgetTracker} {refused : List Bytes} {n : Nat}
    (h : t.Tracks refused n) (hb : t.noteDecryptFailure cfg.preAuth = (t', .ok ())) :
    t'.Tracks refused (n + 1) ∧ cfg.DecryptFits (n + 1) := by
  unfold PreAuthBudgetTracker.noteDecryptFailure at hb
  dsimp only at hb
  split at hb
  · cases hb
  · rename_i hle
    cases hb
    rw [h.failures, saturatingAdd_min] at hle
    refine ⟨⟨h.frames, h.bytes, ?_⟩, fun hlt => by omega⟩
    change saturatingAdd u32Max t.decryptFailures 1 = _
    rw [h.failures, saturatingAdd_min]

/-- The tracker of the wait for HELLO counts the frames that were no HELLO. -/
def PreHelloJunkTracker.Tracks (t : PreHelloJunkTracker) (noise : List Bytes) : Prop :=
  t.junkFrames = noise.length ∧ t.junkBytes = bytesOf noise

theorem accountPreHelloBinary_tracks {t t' : PreHelloJunkTracker} {noise : List Bytes} {b : Bytes}
    (h : t.Tracks noise)
    (hb : accountPreHelloBinary b t (min cfg.preAuth.maxJunkFrames maxPreHelloFrames)
      (min cfg.preAuth.maxJunkBytes maxPreHelloBytes) = (t', .ok none)) :
    t'.Tracks (noise ++ [b]) ∧ cfg.NoiseFits (noise ++ [b]) := by
  unfold accountPreHelloBinary at hb
  split at hb
  · cases hb
  · dsimp only at hb
    split at hb
    · cases hb
    · rename_i hle
      cases hb
      -- the caps lie far below the largest values of the counters
      have hcaps : maxPreHelloFrames < u32Max ∧ maxPreHelloBytes < u64Max := by decide
      rw [h.1, h.2] at hle
      simp only [saturatingAdd] at hle
      have hframes : saturatingAdd u32Max t.junkFrames 1 = noise.length + 1 := by
        rw [h.1, saturatingAdd]
        omega
      have hbytes : saturatingAdd u64Max t.junkBytes b.length = bytesOf noise + b.length := by
        rw [h.2, saturatingAdd]
        omega
      refine ⟨⟨?_, ?_⟩, ?_, ?_⟩
      · rw [List.length_append, List.length_singleton]
        exact hframes
      · rw [bytesOf_concat]
        exact hbytes
      · rw [List.length_append, List.length_singleton]
        omega
      · rw [bytesOf_concat]
        omega

/-- What the trackers say, where there is one. -/
def Conn.Tracked (c : Conn) : Prop :=
  match c.phase with
  | .auth t _ => t.Tracks c.refused c.undecrypted
  | .hello t => t.Tracks c.noise ∧ c.refused = [] ∧ c.undecrypted = 0
  | .acquire _ .sealed | .enter _ _ .sealed | .recordSuccess | .channel _ | .serving _ |
    .failing _ | .closed => True
  | _ => c.refused = [] ∧ c.undecrypted = 0

/-- **What has been sent fits the budgets**, up to the frame that ended the connection. -/
structure Conn.Metered (cfg : Settings) (c : Conn) : Prop where
  tracked : c.Tracked
  noise : cfg.NoiseFits c.noise.dropLast
  refused : cfg.RefusedFits c.refused.dropLast
  undecrypted : cfg.preAuth.maxDecryptFailures < u32Max →
    c.undecrypted ≤ cfg.preAuth.maxDecryptFailures + 1
  open_ : c.phase.over = false →
    cfg.NoiseFits c.noise ∧ cfg.RefusedFits c.refused ∧ cfg.DecryptFits c.undecrypted
  failures : c.failures ≤ 1 ∧ (c.phase ≠ .closed → c.failures = 0)

theorem dropLast_le (frames : List Bytes) :
    frames.dropLast.length ≤ frames.length ∧ bytesOf frames.dropLast ≤ bytesOf frames := by
  rcases List.eq_nil_or_concat' frames with rfl | ⟨xs, b, rfl⟩
  · exact ⟨Nat.le_refl _, Nat.le_refl _⟩
  · rw [List.dropLast_concat, bytesOf_concat, List.length_append]
    exact ⟨Nat.le_add_right _ _, Nat.le_add_right _ _⟩

theorem Settings.NoiseFits.dropLast {frames : List Bytes} (h : cfg.NoiseFits frames) :
    cfg.NoiseFits frames.dropLast :=
  ⟨(dropLast_le frames).1.trans h.1, (dropLast_le frames).2.trans h.2⟩

theorem Settings.RefusedFits.dropLast {frames : List Bytes} (h : cfg.RefusedFits frames) :
    cfg.RefusedFits frames.dropLast :=
  ⟨fun hlt => (dropLast_le frames).1.trans (h.frames hlt),
    fun hlt => (dropLast_le frames).2.trans (h.bytes hlt)⟩

/-- A connection that goes on has stayed within the budgets. -/
theorem Conn.Metered.of_open (htracked : c.Tracked)
    (hopen : cfg.NoiseFits c.noise ∧ cfg.RefusedFits c.refused ∧ cfg.DecryptFits c.undecrypted)
    (hfail : c.failures = 0) : c.Metered cfg where
  tracked := htracked
  noise := hopen.1.dropLast
  refused := hopen.2.1.dropLast
  undecrypted hlt := Nat.le_succ_of_le (hopen.2.2 hlt)
  open_ _ := hopen
  failures := ⟨hfail ▸ Nat.zero_le 1, fun _ => hfail⟩

/-- A connection that goes on and reads nothing that counts. -/
theorem Conn.Metered.keep (h : c.Metered cfg) (hover : c.phase.over = false)
    (htracked : c'.Tracked) (hnoise : c'.noise = c.noise) (hrefused : c'.refused = c.refused)
    (hn : c'.undecrypted = c.undecrypted) (hfail : c'.failures = c.failures) : c'.Metered cfg := by
  have hzero := h.failures.2 fun hc => by rw [hc] at hover; cases hover
  refine .of_open htracked ?_ (hfail.trans hzero)
  rw [hnoise, hrefused, hn]
  exact h.open_ hover

theorem Conn.Metered.move (h : c.Metered cfg) (hm : c.Move L cfg sh c') : c'.Metered cfg := by
  have htracked := h.tracked
  unfold Conn.Tracked at htracked
  cases hm with
  | skip => exact h
  | @stop ph _ noise refused n hph hc hnoise hrefused hn =>
    refine ⟨?_, ?_, ?_, ?_, ?_, ?_⟩
    · cases ph with
      | failing | closed => trivial
      | _ => cases hph
    · rcases hnoise with rfl | ⟨hover, b, rfl⟩
      · exact h.noise
      · rw [List.dropLast_concat]
        exact (h.open_ hover).1
    · rcases hrefused with rfl | ⟨hover, b, rfl⟩
      · exact h.refused
      · rw [List.dropLast_concat]
        exact (h.open_ hover).2.1
    · rcases hn with rfl | ⟨hover, rfl⟩
      · exact h.undecrypted
      · exact fun hlt => Nat.succ_le_succ ((h.open_ hover).2.2 hlt)
    · exact fun hover => Bool.noConfusion (hph.symm.trans hover)
    · exact ⟨h.failures.1, fun _ => h.failures.2 hc⟩
  | controlHello hc | controlAuth hc | greet hc | lookUp hc | verify hc | find hc | clock hc
  | fresh hc | welcomed hc =>
    simp only [hc] at htracked
    exact h.keep (by rw [hc]; rfl) htracked rfl rfl rfl rfl
  | openMux hc | «sealed» hc | matched hc | recorded hc | opened hc | waits hc =>
    exact h.keep (by rw [hc]; rfl) trivial rfl rfl rfl rfl
  | @choose token caller _ _ hc =>
    refine h.keep (by rw [hc]; rfl) ?_ rfl rfl rfl rfl
    cases caller with
    | «sealed» => trivial
    | reality hello =>
      simp only [hc] at htracked
      exact htracked
  | @grant token caller _ hc =>
    refine h.keep (by rw [hc]; rfl) ?_ rfl rfl rfl rfl
    cases caller with
    | «sealed» => trivial
    | reality hello =>
      simp only [hc] at htracked
      exact htracked
  | chain hc =>
    simp only [hc] at htracked
    refine h.keep (by rw [hc]; rfl) ?_ rfl rfl rfl rfl
    simp only [Conn.Tracked, htracked.1, htracked.2]
    exact ⟨rfl, rfl, rfl⟩
  | hello hc =>
    simp only [hc] at htracked
    refine h.keep (by rw [hc]; rfl) ?_ rfl rfl rfl rfl
    simp only [Conn.Tracked, htracked.2.1, htracked.2.2]
    exact ⟨rfl, rfl, rfl⟩
  | noise hc hb =>
    have hover : c.phase.over = false := by rw [hc]; rfl
    simp only [hc] at htracked
    obtain ⟨htracks, hrefused, hn⟩ := htracked
    obtain ⟨htracks', hfits⟩ := accountPreHelloBinary_tracks htracks hb
    exact .of_open ⟨htracks', hrefused, hn⟩ ⟨hfits, (h.open_ hover).2⟩
      (h.failures.2 (by rw [hc]; nofun))
  | undecrypted hc hb hfail =>
    have hover : c.phase.over = false := by rw [hc]; rfl
    simp only [hc] at htracked
    obtain ⟨htracks, hrefused⟩ := noteBinaryFrame_tracks htracked hb
    obtain ⟨htracks', hn⟩ := noteDecryptFailure_tracks htracks hfail
    exact .of_open htracks' ⟨(h.open_ hover).1, hrefused, hn⟩ (h.failures.2 (by rw [hc]; nofun))
  | failed hc =>
    have hzero := h.failures.2 (by rw [hc]; nofun)
    exact ⟨trivial, h.noise, h.refused, h.undecrypted, nofun,
      by change c.failures + 1 ≤ 1; rw [hzero], fun hne => absurd rfl hne⟩
  | released hc =>
    refine ⟨?_, h.noise, h.refused, h.undecrypted, fun hover => ?_, h.failures⟩
    · simp only [Conn.Tracked, hc]
    · change c.phase.over = false at hover
      rw [hc] at hover
      cases hover

theorem Settings.firstPhase_cases (cfg : Settings) (now : Nat) (tlsSni httpHost : Option Text) :
    cfg.firstPhase now tlsSni httpHost = .realityHello now 0 ∨
      (∃ ph, cfg.firstPhase now tlsSni httpHost = ph ∧ ph.over = true) ∨
      (cfg.firstPhase now tlsSni httpHost = .hello ⟨0, 0⟩ ∧ cfg.reality = none) := by
  unfold Settings.firstPhase
  split
  · split
    · exact .inl rfl
    · exact .inr (.inl ⟨_, rfl, rfl⟩)
  · rename_i hrc
    split
    · exact .inr (.inl ⟨_, rfl, rfl⟩)
    · exact .inr (.inr ⟨rfl, hrc⟩)

theorem Settings.begin_metered (cfg : Settings) (ip : IpAddr) (now : Nat)
    (tlsSni httpHost : Option Text) : (cfg.begin ip now tlsSni httpHost).Metered cfg := by
  refine .of_open ?_ ⟨⟨Nat.zero_le _, Nat.zero_le _⟩,
    ⟨fun _ => Nat.zero_le _, fun _ => Nat.zero_le _⟩, fun _ => Nat.zero_le _⟩ rfl
  change Conn.Tracked ⟨_, cfg.firstPhase now tlsSni httpHost, _, _, _, _, _, _, _⟩
  rcases cfg.firstPhase_cases now tlsSni httpHost with hph | ⟨ph, hph, hover⟩ | ⟨hph, -⟩
  · rw [hph]
    exact ⟨rfl, rfl⟩
  · rw [hph]
    cases ph with
    | failing | closed => trivial
    | _ => cases hover
  · rw [hph]
    exact ⟨⟨rfl, rfl⟩, rfl, rfl⟩

end Metered

section Knows

theorem Settings.begin_knows (L : Libraries) (cfg : Settings) (past : Past) (ip : IpAddr)
    (now : Nat) (tlsSni httpHost : Option Text) :
    (cfg.begin ip now tlsSni httpHost).Knows L cfg past := by
  change Conn.Knows L cfg past ⟨_, cfg.firstPhase now tlsSni httpHost, _, _, _, _, _, _, _⟩
  rcases cfg.firstPhase_cases now tlsSni httpHost with hph | ⟨ph, hph, hover⟩ | ⟨hph, hrc⟩
  · rw [hph]
    exact ⟨rfl, rfl⟩
  · rw [hph]
    cases ph with
    | failing | closed => trivial
    | _ => cases hover
  · rw [hph]
    exact hrc

end Knows

section Server

variable {L : Libraries} {cfg : Settings} {s₀ s t : ServerState} {a : ServerAction} {i : Nat}

/-- **What a step does to the connections**: nothing, one comes, or one moves. -/
theorem ServerState.step_conns (h : s.step L cfg a = some t) :
    t.conns = s.conns ∨
      (∃ ip now tlsSni httpHost, t.conns = s.conns ++ [cfg.begin ip now tlsSni httpHost]) ∨
      ∃ i c c', s.conns[i]? = some c ∧ c.Move L cfg s.shared c' ∧ t.conns = s.conns.set i c' := by
  have hmove : ∀ {i : Nat} {f : Conn → Option Conn},
      (∀ c c', f c = some c' → c.Move L cfg s.shared c') → s.move i f = some t →
      ∃ i c c', s.conns[i]? = some c ∧ c.Move L cfg s.shared c' ∧ t.conns = s.conns.set i c' := by
    intro i f hf hs
    obtain ⟨c', hc', rfl⟩ := Option.map_eq_some_iff.mp hs
    obtain ⟨c, hc, hfc⟩ := Option.bind_eq_some_iff.mp hc'
    exact ⟨i, c, c', hc, hf c c' hfc, rfl⟩
  cases a with
  | write data =>
    cases h
    exact .inl rfl
  | tick clock instant =>
    cases h
    exact .inl rfl
  | accept ip tlsSni httpHost =>
    unfold ServerState.step at h
    dsimp only at h
    split at h
    · cases h
      exact .inl rfl
    · cases h
      exact .inr (.inl ⟨_, _, _, _, rfl⟩)
  | receive i m random =>
    exact .inr (.inr (hmove (fun _ _ hf => Conn.move_of_receive hf) h))
  | lost i => exact .inr (.inr (hmove (fun _ _ hf => Conn.move_of_lost hf) h))
  | timeout i => exact .inr (.inr (hmove (fun _ _ hf => Conn.move_of_timeout hf) h))
  | proceed i tie =>
    obtain ⟨⟨sh', c'⟩, hc', rfl⟩ := Option.map_eq_some_iff.mp h
    obtain ⟨c, hc, hproceed⟩ := Option.bind_eq_some_iff.mp hc'
    exact .inr (.inr ⟨i, c, c', hc, Conn.move_of_proceed hproceed, rfl⟩)

/-- At an earlier moment of the run, connection `i` was in this phase and the shared state had
`Q`. -/
def Once (L : Libraries) (cfg : Settings) (s₀ s : ServerState) (i : Nat) : Past := fun ph Q =>
  ∃ t c, Reachable (ServerState.step L cfg) s₀ t ∧ t.conns[i]? = some c ∧ c.phase = ph ∧
    Q t.shared ∧ Reachable (ServerState.step L cfg) t s

theorem Once.later (hs : s.step L cfg a = some t) (ph : Phase) (Q : Shared → Prop)
    (h : Once L cfg s₀ s i ph Q) : Once L cfg s₀ t i ph Q := by
  obtain ⟨x, c, hx, hc, hph, hQ, hlater⟩ := h
  exact ⟨x, c, hx, hc, hph, hQ, hlater.tail trivial hs⟩

/-- What is known of every connection of a run. -/
def ServerState.Known (L : Libraries) (cfg : Settings) (s s₀ : ServerState) : Prop :=
  Each s.conns fun i c => c.Knows L cfg (Once L cfg s₀ s i) ∧ c.Metered cfg

theorem ServerState.Known.step (hr : Reachable (ServerState.step L cfg) s₀ s)
    (h : s.Known L cfg s₀) (hs : s.step L cfg a = some t) : t.Known L cfg s₀ := by
  have hlater : Each s.conns fun i c => c.Knows L cfg (Once L cfg s₀ t i) ∧ c.Metered cfg :=
    h.mono fun j c _ hc => ⟨hc.1.mono (Once.later hs), hc.2⟩
  unfold ServerState.Known
  obtain heq | ⟨ip, now, sni, host, heq⟩ | ⟨i, c, c', hc, hm, heq⟩ := ServerState.step_conns hs
  · rw [heq]
    exact hlater
  · rw [heq]
    exact hlater.spawn ⟨cfg.begin_knows L _ ip now sni host, cfg.begin_metered ip now sni host⟩
  · rw [heq]
    obtain ⟨hknows, hmetered⟩ := hlater i c hc
    refine hlater.set ⟨hknows.move (fun Q hQ => ?_) hm, hmetered.move hm⟩ fun _ _ _ _ hj => hj
    -- the moment before this step is an earlier one
    exact ⟨s, c, hr, hc, rfl, hQ, (Reachable.refl s).tail trivial hs⟩

/-- **What holds of a connection in every run.**  `service` is the authentication: among the frames
BEFORE the one that opened the service.  `tolerated` is what a connection may have sent that goes
on, and the three fields before it what any connection may have sent: the frame that exceeds a limit
is its last. -/
structure Conn.Guarded (L : Libraries) (cfg : Settings) (past : Past) (c : Conn) : Prop where
  service : ∀ k, c.phase = .serving k → Authenticated L cfg past c c.heard.dropLast
  noise : cfg.NoiseFits c.noise.dropLast
  refused : cfg.RefusedFits c.refused.dropLast
  undecrypted : cfg.preAuth.maxDecryptFailures < u32Max →
    c.undecrypted ≤ cfg.preAuth.maxDecryptFailures + 1
  tolerated : c.phase.over = false →
    cfg.NoiseFits c.noise ∧ cfg.RefusedFits c.refused ∧ cfg.DecryptFits c.undecrypted
  failures : c.failures ≤ 1

/-- **No service before authentication**, in both modes and behind each other, for every sequence of
frames, every outcome of decryption, and whatever the other connections, the users file and the
clock do in between. -/
theorem no_service_before_authentication {data : Option Bytes} {limits : AuthRateLimiterConfig}
    {clock instant : Nat} {c : Conn}
    (h : Reachable (ServerState.step L cfg) (.start data limits clock instant) s)
    (hc : s.conns[i]? = some c) :
    c.Guarded L cfg (Once L cfg (.start data limits clock instant) s i) := by
  have hknown := h.invariant (I := fun s =>
      Reachable (ServerState.step L cfg) (.start data limits clock instant) s ∧
        s.Known L cfg (.start data limits clock instant))
    ⟨.refl _, Each.nil⟩ fun _ _ _ hI hs =>
      ⟨hI.1.tail trivial hs, ServerState.Known.step hI.1 hI.2 hs⟩
  obtain ⟨hknows, hmetered⟩ := hknown.2 i c hc
  refine ⟨fun k hk => ?_, hmetered.noise, hmetered.refused, hmetered.undecrypted, hmetered.open_,
    hmetered.failures.1⟩
  simp only [Conn.Knows, hk] at hknows
  exact hknows

end Server

/-! ### Two runs -/

/-- Ciphers that hide nothing, and one MAC for everything. -/
def plainLibraries : Libraries where
  fromSlice _ := none
  blake3 := id
  diffieHellman _ _ := some []
  publicKeyFromPrivate := id
  deriveKey _ := id
  keyedHash _ _ := List.replicate 32 7
  session _ _ _ _ := Aead.plain

/-- The budget of `main`, with `--handshake-max-junk-bytes 1024`. -/
def smallBudget : PreAuthBudget := ⟨256, 1024, 64⟩

/-- A server with one token. -/
def oneToken (reality : Option RealityServerConfig) : Settings where
  token := ['k']
  users := false
  psk := some ['p']
  protoDomain := ['d']
  reality := reality
  preAuth := smallBudget

def noLimits : AuthRateLimiterConfig := ⟨true, 1, 1, 1, by decide⟩

/-- What a client of `plainLibraries` sends for `inner`. -/
def plainFrame (inner : Bytes) : Bytes :=
  Aead.plain.packet 0 [] (frameVer :: toBe 3 inner.length ++ 0 :: inner)

/-- 1024 bytes before HELLO and one byte before AUTH, and then the mux is opened. -/
def noisyClient : List ServerAction :=
  [.accept (.v4 [0, 0, 0, 0]) none none, .receive 0 (.binary (List.replicate 1024 0)) [],
    .receive 0 (.binary (3 :: List.replicate 33 0)) [], .receive 0 (.binary [0]) [],
    .receive 0 (.binary (plainFrame [v3CtrlAuth, 0, 1, 107])) [], .proceed 0 0,
    .receive 0 (.binary (plainFrame [v3CtrlMux])) []]

/-- **The budgets of the two waits add up**: a client that is served has sent more junk than the
configured number of bytes before it authenticated. -/
theorem budgets_add_up :
    (run (ServerState.step plainLibraries (oneToken none)) (.start none noLimits 0 0)
        noisyClient).map (fun s => s.conns.map fun c =>
          (c.phase, bytesOf (c.noise ++ c.refused), c.undecrypted)) =
      some [(.serving .tcpMux, 1025, 1)] ∧
    smallBudget.maxJunkBytes < 1025 := by
  decide +kernel

/-- A REALITY client that opens the mux at once. -/
def realityClient : List ServerAction :=
  [.accept (.v4 [0, 0, 0, 0]) none none, .receive 0 (.binary (3 :: List.replicate 64 0)) [],
    .receive 0 (.binary (3 :: 0xa1 :: List.replicate 32 7)) [], .proceed 0 0, .proceed 0 0,
    .proceed 0 0, .receive 0 (.binary [v3CtrlMux]) []]

theorem no_service_before_authentication_reality :
    (run (ServerState.step plainLibraries (oneToken (some ⟨[], [], [], 60⟩)))
        (.start none noLimits 0 0) realityClient).map (fun s => s.conns.map Conn.phase) =
      some [.serving .tcpMux] ∧
    ∀ s, run (ServerState.step plainLibraries (oneToken (some ⟨[], [], [], 60⟩)))
        (.start none noLimits 0 0) realityClient = some s →
      ∀ c, s.conns[0]? = some c → c.Guarded plainLibraries (oneToken (some ⟨[], [], [], 60⟩))
        (Once plainLibraries (oneToken (some ⟨[], [], [], 60⟩)) (.start none noLimits 0 0) s 0) :=
  ⟨by decide +kernel, fun _ hs _ hc => no_service_before_authentication (Reachable.of_run hs) hc⟩

end BibaVpn.Server
