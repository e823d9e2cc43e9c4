/-
# The freshness window of a REALITY handshake

`server_handshake_reality_with_auth` reads the clock twice.  The first value is read BEFORE the wait
for the HELLO and compared with its timestamp after it; the second is read when the AUTH has been
verified and goes to the replay cache, which makes the same comparison.

* §1 is the function, on a stream of messages with their arrival times, and §2 its agreement with
  the connection of `Handshake.lean`;
* §3 is what the two comparisons amount to.  The second one is right: no handshake succeeds when the
  AUTH comes more than `max_time_diff` seconds after the stamp.  The first one is made against a
  stale clock value: a HELLO is refused, however fresh it is, if the client took more than
  `max_time_diff` seconds to send it.
-/
import BibaVpn.Server.AuthCharge

namespace BibaVpn.Server

open Machine Lts Fallible Wire Reality

/-! ## 1. The handshake -/

/-- Messages, with the value of the clock when they arrive. -/
abbrev Stream := List (Nat × Message)

/-- `next_handshake_binary`: the next binary message, its arrival, the control frames so far and the
rest of the stream. -/
def nextHandshakeBinary (what : String) : Nat → Stream →
    Except String (Nat × Bytes × Nat × Stream)
  | _, [] => .error s!"ws closed before {what}"
  | control, (t, m) :: rest =>
    match m with
    | .binary b => .ok (t, b, control, rest)
    | .ping | .pong =>
      if control + 1 > maxHandshakeControlFrames then
        .error "too many control frames during REALITY handshake"
      else nextHandshakeBinary what (control + 1) rest
    | _ => .error s!"expected binary {what}"

/-- The `authenticate` callback: shared secret, client and server key, timestamp, nonce and MAC. -/
abbrev Authenticate (T : Type) := Bytes → Bytes → Bytes → Nat → Bytes → Bytes → Except String T

section

variable {T : Type} (L : Libraries) (rc : RealityServerConfig) (tlsSni httpHost : Option Text)
  (authenticate : Authenticate T)

/-- `server_handshake_reality_with_auth`, called at `start`, up to its second `SystemTime::now()`:
the HELLO, the shared secret, the identity, and that clock value. -/
def realityTranscript (start : Nat) (stream : Stream) :
    Except String (RealityClientHello × Bytes × T × Nat) := do
  validateServerNames tlsSni httpHost rc
  -- the clock value of the HELLO test is the one from before the wait
  let (_, msg, control, stream) ← nextHandshakeBinary "REALITY HELLO" 0 stream
  let (hello, shared) ← realityHelloFrame L rc start msg
  let (now, auth, _, _) ← nextHandshakeBinary "REALITY client AUTH" control stream
  let got ← decodeClientAuth auth
  let identity ← authenticate shared hello.clientPubkey (L.publicKeyFromPrivate rc.privateKey)
    hello.unixSecs hello.nonce got
  .ok (hello, shared, identity, now)

/-- `server_handshake_reality_with_auth`: the replay cache it leaves, and its result. -/
def serverHandshakeRealityWithAuth (cache : ReplayCache) (start : Nat) (stream : Stream) :
    ReplayCache × Except String (Bytes × T) :=
  match realityTranscript L rc tlsSni httpHost authenticate start stream with
  | .error e => (cache, .error e)
  | .ok (hello, shared, identity, now) =>
    match cache.checkAndInsert hello.nonce hello.unixSecs now rc.maxTimeDiff with
    | (cache, .error e) => (cache, .error e)
    | (cache, .ok ()) => (cache, .ok (shared, identity))

/-- The callback of `server_handshake_reality`: one token. -/
def tokenMac (token : Text) :
    Authenticate Unit := fun shared clientPub serverPub unixSecs nonce got =>
  if got = L.clientAuthMac shared token clientPub serverPub unixSecs nonce then .ok ()
  else .error "REALITY: client AUTH MAC invalid (unknown token)"

end

/-! ### What the pieces accept -/

section Pieces

variable {what : String} {control control' t : Nat} {b : Bytes} {stream rest : Stream}

/-- Pings and pongs. -/
def IsControl (x : Nat × Message) : Prop := x.2 = .ping ∨ x.2 = .pong

/-- A message that is no control frame has to be the one. -/
theorem head_of_not_control {x : Nat × Message} {before : Stream}
    (heq : x :: stream = before ++ (t, .binary b) :: rest) (hbefore : ∀ y ∈ before, IsControl y)
    (hx : ¬ IsControl x) : before = [] ∧ x = (t, .binary b) ∧ stream = rest := by
  cases before with
  | nil =>
    cases heq
    exact ⟨rfl, rfl, rfl⟩
  | cons y before =>
    cases heq
    exact absurd (hbefore _ List.mem_cons_self) hx

/-- **The wait for a binary frame** skips control frames, as long as there are not too many. -/
theorem nextHandshakeBinary_eq_ok :
    nextHandshakeBinary what control stream = .ok (t, b, control', rest) ↔
      ∃ before, stream = before ++ (t, .binary b) :: rest ∧ (∀ x ∈ before, IsControl x) ∧
        control' = control + before.length ∧
        (before = [] ∨ control' ≤ maxHandshakeControlFrames) := by
  induction stream generalizing control with
  | nil =>
    constructor
    · intro h
      cases h
    · rintro ⟨before, heq, -⟩
      exact absurd heq (by simp)
  | cons x stream ih =>
    obtain ⟨t', m⟩ := x
    have hcontrol : IsControl (t', m) →
        ((if control + 1 > maxHandshakeControlFrames then
          .error "too many control frames during REALITY handshake"
        else nextHandshakeBinary what (control + 1) stream) = .ok (t, b, control', rest) ↔
      ∃ before, (t', m) :: stream = before ++ (t, .binary b) :: rest ∧ (∀ x ∈ before, IsControl x) ∧
        control' = control + before.length ∧
        (before = [] ∨ control' ≤ maxHandshakeControlFrames)) := by
      intro hm
      constructor
      · intro h
        split at h
        · cases h
        · rename_i hle
          obtain ⟨before, rfl, hbefore, rfl, hmax⟩ := ih.mp h
          refine ⟨(t', m) :: before, rfl, List.forall_mem_cons.mpr ⟨hm, hbefore⟩, ?_, .inr ?_⟩
          · rw [List.length_cons]
            omega
          · rcases hmax with rfl | hmax
            · exact Nat.le_of_not_lt hle
            · exact hmax
      · rintro ⟨before, heq, hbefore, hlen, hmax⟩
        cases before with
        | nil =>
          cases heq
          rcases hm with hm | hm <;> cases hm
        | cons y before =>
          cases heq
          rw [List.length_cons] at hlen
          have hle := hmax.resolve_left (by simp)
          rw [if_neg (by omega)]
          exact ih.mpr ⟨before, rfl, (List.forall_mem_cons.mp hbefore).2, by omega, .inr hle⟩
    cases m with
    | binary b' =>
      simp only [nextHandshakeBinary]
      constructor
      · intro h
        cases h
        exact ⟨[], rfl, fun x hx => (by cases hx), rfl, .inl rfl⟩
      · rintro ⟨before, heq, hbefore, hlen, -⟩
        obtain ⟨rfl, hx, rfl⟩ := head_of_not_control heq hbefore (by rintro (h | h) <;> cases h)
        cases hx
        rw [hlen]
        rfl
    | ping => exact hcontrol (.inl rfl)
    | pong => exact hcontrol (.inr rfl)
    | close | other =>
      simp only [nextHandshakeBinary]
      constructor
      · intro h
        cases h
      · rintro ⟨before, heq, hbefore, -⟩
        obtain ⟨-, hx, -⟩ := head_of_not_control heq hbefore (by rintro (h | h) <;> cases h)
        cases hx

theorem timestampInWindow_eq_ok {now ts d : Nat} :
    timestampInWindow now ts d = .ok () ↔ absDiff now ts ≤ d := by
  unfold timestampInWindow
  dsimp only
  split
  · rename_i hlt
    exact iff_of_false (fun h => by cases h) (Nat.not_le.mpr hlt)
  · rename_i hle
    exact iff_of_true rfl (Nat.le_of_not_lt hle)

theorem realityHelloFrame_eq_ok_iff {L : Libraries} {rc : RealityServerConfig} {now : Nat}
    {shared : Bytes} {hello : RealityClientHello} :
    realityHelloFrame L rc now b = .ok (hello, shared) ↔
      decodeClientHello b = .ok hello ∧ validateShortId hello.shortId rc = .ok () ∧
        absDiff now hello.unixSecs ≤ rc.maxTimeDiff ∧
        L.diffieHellman rc.privateKey hello.clientPubkey = some shared := by
  constructor
  · intro h
    have hpre := realityHelloFrame_eq_ok h
    unfold realityHelloFrame at h
    obtain ⟨hello', hdec, h⟩ := bind_eq_ok.mp h
    obtain ⟨⟨⟩, hid, h⟩ := bind_eq_ok.mp h
    obtain ⟨⟨⟩, hwin, h⟩ := bind_eq_ok.mp h
    obtain ⟨r, hr, h⟩ := bind_eq_ok.mp h
    cases h
    exact ⟨hdec, hid, timestampInWindow_eq_ok.mp hwin, hpre.2⟩
  · rintro ⟨hdec, hid, hwin, hdh⟩
    obtain ⟨answer, hanswer⟩ : ∃ answer,
        L.serverHelloWithConfirmAndShared rc.privateKey hello.clientPubkey =
        .ok (answer, shared) := by
      rw [Suite.serverHelloWithConfirmAndShared, hdh]
      exact ⟨_, rfl⟩
    exact bind_eq_ok.mpr ⟨hello, hdec, bind_eq_ok.mpr ⟨(), hid, bind_eq_ok.mpr
      ⟨(), timestampInWindow_eq_ok.mpr hwin, bind_eq_ok.mpr ⟨_, hanswer, rfl⟩⟩⟩⟩

/-- A nonce that is not alive is recorded, as long as there is room. -/
theorem checkAndInsert_of_fresh {cache : ReplayCache} {nonce : Nonce} {ts now d : Nat}
    (hwin : absDiff now ts ≤ d) (hunseen : ∀ e ∈ (cache.retain now d).entries, e.1 ≠ nonce)
    (hroom : (cache.retain now d).entries.length < replayCacheCap) :
    cache.checkAndInsert nonce ts now d =
      (⟨(cache.retain now d).entries ++ [(nonce, ts)]⟩, .ok ()) := by
  have hany : (cache.retain now d).entries.any (fun e => e.1 == nonce) = false := by
    rw [List.any_eq_false]
    intro e he
    simpa using hunseen e he
  simp only [ReplayCache.checkAndInsert, timestampInWindow_eq_ok.mpr hwin, hany, Bool.false_eq_true,
    if_false, if_neg (Nat.not_le.mpr hroom)]

end Pieces

section Transcript

variable {T : Type} {L : Libraries} {rc : RealityServerConfig} {tlsSni httpHost : Option Text}
  {authenticate : Authenticate T} {cache cache' : ReplayCache} {start now : Nat} {stream : Stream}
  {hello : RealityClientHello} {shared : Bytes} {identity : T}

/-- A transcript, step by step. -/
theorem realityTranscript_eq_ok :
    realityTranscript L rc tlsSni httpHost authenticate start stream =
        .ok (hello, shared, identity, now) ↔
      validateServerNames tlsSni httpHost rc = .ok () ∧
      ∃ t msg control stream' auth control' rest got,
        nextHandshakeBinary "REALITY HELLO" 0 stream = .ok (t, msg, control, stream') ∧
        realityHelloFrame L rc start msg = .ok (hello, shared) ∧
        nextHandshakeBinary "REALITY client AUTH" control stream' =
        .ok (now, auth, control', rest) ∧ decodeClientAuth auth = .ok got ∧
        authenticate shared hello.clientPubkey (L.publicKeyFromPrivate rc.privateKey) hello.unixSecs
          hello.nonce got = .ok identity := by
  unfold realityTranscript
  constructor
  · intro h
    obtain ⟨⟨⟩, hnames, h⟩ := bind_eq_ok.mp h
    obtain ⟨⟨t, msg, control, stream'⟩, hnext, h⟩ := bind_eq_ok.mp h
    obtain ⟨⟨hello', shared'⟩, hhello, h⟩ := bind_eq_ok.mp h
    obtain ⟨⟨now', auth, control', rest⟩, hnext', h⟩ := bind_eq_ok.mp h
    obtain ⟨got, hgot, h⟩ := bind_eq_ok.mp h
    obtain ⟨identity', hid, h⟩ := bind_eq_ok.mp h
    cases h
    exact ⟨hnames, t, msg, control, stream', auth, control', rest, got, hnext, hhello, hnext',
      hgot, hid⟩
  · rintro ⟨hnames, t, msg, control, stream', auth, control', rest, got, hnext, hhello, hnext',
      hgot, hid⟩
    refine bind_eq_ok.mpr ⟨(), hnames, bind_eq_ok.mpr ⟨_, hnext, bind_eq_ok.mpr ⟨_, hhello,
      bind_eq_ok.mpr ⟨_, hnext', bind_eq_ok.mpr ⟨_, hgot, bind_eq_ok.mpr ⟨_, hid, rfl⟩⟩⟩⟩⟩⟩

/-- A handshake succeeds with a transcript that the cache accepts. -/
theorem serverHandshake_eq_ok {r : Bytes × T} :
    serverHandshakeRealityWithAuth L rc tlsSni httpHost authenticate cache start stream =
        (cache', .ok r) ↔
      ∃ hello now, realityTranscript L rc tlsSni httpHost authenticate start stream =
          .ok (hello, r.1, r.2, now) ∧
        cache.checkAndInsert hello.nonce hello.unixSecs now rc.maxTimeDiff = (cache', .ok ()) := by
  unfold serverHandshakeRealityWithAuth
  constructor
  · intro h
    split at h
    · cases h
    · rename_i hello shared identity now htr
      split at h
      · cases h
      · rename_i hcheck
        cases h
        exact ⟨hello, now, htr, hcheck⟩
  · rintro ⟨hello, now, htr, hcheck⟩
    rw [htr]
    dsimp only
    rw [hcheck]

end Transcript

/-! ## 2. The connection makes this handshake -/

namespace Conn

variable {L : Libraries} {cfg : Settings} {rc : RealityServerConfig} {c : Conn}
  {hello : RealityClientHello}

/-- A wait of a connection skips the same control frames. -/
theorem run_control (L : Libraries) (cfg : Settings) (c : Conn) (ph : Nat → Phase)
    (hph : ∀ n m, m = .ping ∨ m = .pong → { c with phase := ph n }.receive L cfg [] m =
      some ({ c with phase := ph n }.controlFrame n ph)) :
    ∀ (before : Stream) (n : Nat), (∀ x ∈ before, IsControl x) →
      (before = [] ∨ n + before.length ≤ maxHandshakeControlFrames) →
      run (act L cfg) { c with phase := ph n } (before.map fun x => .receive x.2 []) =
        some { c with phase := ph (n + before.length) } := by
  intro before
  induction before with
  | nil => exact fun n _ _ => rfl
  | cons x before ih =>
    intro n hbefore hmax
    have hle := hmax.resolve_left (by simp)
    rw [List.length_cons] at hle ⊢
    have hx := hph n x.2 (hbefore x List.mem_cons_self)
    rw [controlFrame, if_neg (by omega)] at hx
    rw [List.map_cons, run_cons]
    show (({ c with phase := ph n }.receive L cfg [] x.2).bind _) = _
    rw [hx, Option.bind_some,
      ih (n + 1) (fun y hy => hbefore y (List.mem_cons_of_mem x hy)) (.inr (by omega)),
      Nat.add_right_comm, Nat.add_assoc]

/-- The HELLO arrives. -/
theorem act_hello {start control : Nat} {msg shared : Bytes} (hrc : cfg.reality = some rc)
    (hph : c.phase = .realityHello start control)
    (hhello : realityHelloFrame L rc start msg = .ok (hello, shared)) :
    c.act L cfg (.receive (.binary msg) []) =
      some { c with heard := c.heard ++ [msg], phase := .realityAuth control hello shared } := by
  simp only [act, receive, receiveBinary, hph, hrc, Option.map_some, hhello]

/-- The AUTH arrives, with the MAC for the one token. -/
theorem act_auth {control : Nat} {auth shared got : Bytes} (hrc : cfg.reality = some rc)
    (husers : cfg.users = false) (hph : c.phase = .realityAuth control hello shared)
    (hgot : decodeClientAuth auth = .ok got)
    (hmac : got = L.expectedMac rc hello shared cfg.token) :
    c.act L cfg (.receive (.binary auth) []) =
      some { c with heard := c.heard ++ [auth], phase := .readClock cfg.token hello } := by
  simp only [act, receive, receiveBinary, hph, hrc, Option.map_some,
    realityAuthFrame, hgot, husers, Bool.false_eq_true, if_false, hmac, if_true]

/-- The clock is read and the cache is asked, in the same shared state. -/
theorem run_replay {sh : Shared} {cache' : ReplayCache} {token : Text}
    (hrc : cfg.reality = some rc) (hph : c.phase = .readClock token hello)
    (hcheck : sh.cache.checkAndInsert hello.nonce hello.unixSecs sh.clock rc.maxTimeDiff =
      (cache', .ok ())) :
    run (act L cfg) c [.proceed sh 0, .proceed sh 0] =
      some { c with phase := .welcome token } := by
  simp only [run_cons, run_nil, act, proceed, hph, Option.map_some, Option.bind_some, hrc,
    hcheck]

/-- **A handshake that succeeds is one that the connection makes**, when the server has one token:
with the messages of the handshake, it gets to the point where the success is recorded. -/
theorem welcome_of_handshake {ip : IpAddr} {tlsSni httpHost : Option Text} {start : Nat}
    {stream : Stream} {sh : Shared} {cache' : ReplayCache} {shared : Bytes}
    (hrc : cfg.reality = some rc) (husers : cfg.users = false)
    (htr : realityTranscript L rc tlsSni httpHost (tokenMac L cfg.token) start stream =
      .ok (hello, shared, (), sh.clock))
    (hcheck : sh.cache.checkAndInsert hello.nonce hello.unixSecs sh.clock rc.maxTimeDiff =
      (cache', .ok ())) :
    ∃ used rest c', stream = used ++ rest ∧
      run (act L cfg) (cfg.begin ip start tlsSni httpHost)
        (used.map (fun x => .receive x.2 []) ++ [.proceed sh 0, .proceed sh 0]) = some c' ∧
      c'.phase = .welcome cfg.token := by
  obtain ⟨hnames, t, msg, control, stream', auth, control', rest, got, hnext, hhello, hnext',
      hgot, hid⟩ :=
    realityTranscript_eq_ok.mp htr
  obtain ⟨before, rfl, hbefore, rfl, hmax⟩ := nextHandshakeBinary_eq_ok.mp hnext
  obtain ⟨before', rfl, hbefore', rfl, hmax'⟩ := nextHandshakeBinary_eq_ok.mp hnext'
  have hmac : got = L.expectedMac rc hello shared cfg.token := by
    unfold tokenMac at hid
    split at hid
    · rename_i heq
      exact heq
    · cases hid
  have hbegin : { cfg.begin ip start tlsSni httpHost with phase := .realityHello start 0 } =
      cfg.begin ip start tlsSni httpHost := by
    simp only [Settings.begin, Settings.firstPhase, hrc, hnames]
  -- the two waits, each with the frame that it waits for
  have hwait := run_control L cfg (cfg.begin ip start tlsSni httpHost)
    (.realityHello start) (fun n m hm => by rcases hm with rfl | rfl <;> rfl) before 0 hbefore
    (hmax.imp_right fun h => by omega)
  rw [hbegin] at hwait
  have hgreet := act_hello (L := L) (c := { cfg.begin ip start tlsSni httpHost with
    phase := .realityHello start (0 + before.length) }) hrc rfl hhello
  have hwait' := run_control L cfg { cfg.begin ip start tlsSni httpHost with
      heard := [] ++ [msg] } (fun n => .realityAuth n hello shared)
    (fun n m hm => by rcases hm with rfl | rfl <;> rfl) before' (0 + before.length) hbefore' hmax'
  have hverify := act_auth (L := L) (c := { cfg.begin ip start tlsSni httpHost with
      heard := [] ++ [msg]
      phase := .realityAuth (0 + before.length + before'.length) hello shared })
    hrc husers rfl hgot hmac
  have hreplay := run_replay (L := L) (c := { cfg.begin ip start tlsSni httpHost with
      heard := [] ++ [msg] ++ [auth], phase := .readClock cfg.token hello }) hrc rfl hcheck
  refine ⟨before ++ (t, .binary msg) :: before' ++ [(sh.clock, .binary auth)], rest,
    { cfg.begin ip start tlsSni httpHost with
      heard := [] ++ [msg] ++ [auth], phase := .welcome cfg.token }, by simp, ?_, rfl⟩
  simp only [List.map_append, List.map_cons, List.map_nil, List.append_assoc, List.cons_append,
    List.nil_append]
  rw [run_append_of_eq hwait, run_cons, hgreet, Option.bind_some]
  refine (run_append_of_eq hwait').trans ?_
  rw [run_cons, hverify, Option.bind_some]
  exact hreplay

end Conn

/-! ## 3. Which HELLO is fresh -/

/-- **What a client sends**: a HELLO and an AUTH, with control frames in between that the server
still tolerates. -/
structure Flight where
  beforeHello : Stream
  helloAt : Nat
  hello : Bytes
  beforeAuth : Stream
  authAt : Nat
  auth : Bytes
  control : ∀ x ∈ beforeHello ++ beforeAuth, IsControl x
  few : beforeHello.length + beforeAuth.length ≤ maxHandshakeControlFrames

def Flight.afterHello (f : Flight) : Stream := f.beforeAuth ++ [(f.authAt, .binary f.auth)]

def Flight.stream (f : Flight) : Stream :=
  f.beforeHello ++ (f.helloAt, .binary f.hello) :: f.afterHello

theorem Flight.next_hello (f : Flight) (what : String) : nextHandshakeBinary what 0 f.stream =
    .ok (f.helloAt, f.hello, f.beforeHello.length, f.afterHello) := by
  have hfew := f.few
  exact nextHandshakeBinary_eq_ok.mpr ⟨f.beforeHello, rfl,
    fun x hx => f.control x (List.mem_append_left _ hx), (Nat.zero_add _).symm, .inr (by omega)⟩

theorem Flight.next_auth (f : Flight) (what : String) :
    nextHandshakeBinary what f.beforeHello.length f.afterHello =
      .ok (f.authAt, f.auth, f.beforeHello.length + f.beforeAuth.length, []) :=
  nextHandshakeBinary_eq_ok.mpr ⟨f.beforeAuth, rfl,
    fun x hx => f.control x (List.mem_append_right _ hx), rfl, .inr f.few⟩

section Window

variable {T : Type} {L : Libraries} {rc : RealityServerConfig} {tlsSni httpHost : Option Text}
  {authenticate : Authenticate T} {cache cache' : ReplayCache} {start : Nat} {f : Flight}
  {hello : RealityClientHello} {shared mac : Bytes} {identity : T}

/-- Everything about the flight is in order, its times apart. -/
structure Flight.Valid (L : Libraries) (rc : RealityServerConfig) (tlsSni httpHost : Option Text)
    (authenticate : Authenticate T) (cache : ReplayCache) (f : Flight) (hello : RealityClientHello)
    (shared mac : Bytes) (identity : T) : Prop where
  names : validateServerNames tlsSni httpHost rc = .ok ()
  greeting : decodeClientHello f.hello = .ok hello
  shortId : validateShortId hello.shortId rc = .ok ()
  contributory : L.diffieHellman rc.privateKey hello.clientPubkey = some shared
  proof : decodeClientAuth f.auth = .ok mac
  identified : authenticate shared hello.clientPubkey (L.publicKeyFromPrivate rc.privateKey)
    hello.unixSecs hello.nonce mac = .ok identity
  unseen : ∀ e ∈ (cache.retain f.authAt rc.maxTimeDiff).entries, e.1 ≠ hello.nonce
  room : (cache.retain f.authAt rc.maxTimeDiff).entries.length < replayCacheCap

/-- The client stamps its HELLO at `stamp`, after the server has started to wait, and both frames
arrive within `d` seconds of it. -/
structure Flight.Fresh (f : Flight) (start stamp d : Nat) : Prop where
  started : start ≤ stamp
  helloSent : stamp ≤ f.helloAt
  helloInTime : f.helloAt ≤ stamp + d
  authSent : f.helloAt ≤ f.authAt
  authInTime : f.authAt ≤ stamp + d

/-- A transcript of a flight is one of its frames, with the first clock value in the window. -/
theorem Flight.window_of_transcript {now : Nat}
    (h : realityTranscript L rc tlsSni httpHost authenticate start f.stream =
      .ok (hello, shared, identity, now)) :
    decodeClientHello f.hello = .ok hello ∧ absDiff start hello.unixSecs ≤ rc.maxTimeDiff ∧
      now = f.authAt := by
  obtain ⟨-, t, msg, control, stream', auth, control', rest, got, hnext, hhello, hnext', -, -⟩ :=
    realityTranscript_eq_ok.mp h
  rw [f.next_hello] at hnext
  cases hnext
  rw [f.next_auth] at hnext'
  cases hnext'
  obtain ⟨hdec, -, hwin, -⟩ := realityHelloFrame_eq_ok_iff.mp hhello
  exact ⟨hdec, hwin, rfl⟩

theorem Flight.Valid.transcript
    (hv : f.Valid L rc tlsSni httpHost authenticate cache hello shared mac identity)
    (hwin : absDiff start hello.unixSecs ≤ rc.maxTimeDiff) :
    realityTranscript L rc tlsSni httpHost authenticate start f.stream =
      .ok (hello, shared, identity, f.authAt) := by
  refine realityTranscript_eq_ok.mpr ⟨hv.names, f.helloAt, f.hello, f.beforeHello.length,
    f.afterHello, f.auth, _, [], mac, f.next_hello _, ?_, f.next_auth _, hv.proof, hv.identified⟩
  exact realityHelloFrame_eq_ok_iff.mpr ⟨hv.greeting, hv.shortId, hwin, hv.contributory⟩

theorem absDiff_le_of_le {a b d : Nat} (hab : a ≤ b) : absDiff a b ≤ d ↔ b ≤ a + d := by
  unfold absDiff
  split <;> omega

/-- A valid and fresh flight succeeds exactly if its stamp is in the window of the first clock
value. -/
theorem Flight.succeeds_iff
    (hv : f.Valid L rc tlsSni httpHost authenticate cache hello shared mac identity)
    (hf : f.Fresh start hello.unixSecs rc.maxTimeDiff) :
    (∃ cache', serverHandshakeRealityWithAuth L rc tlsSni httpHost authenticate cache start
        f.stream = (cache', .ok (shared, identity))) ↔
      hello.unixSecs ≤ start + rc.maxTimeDiff := by
  constructor
  · rintro ⟨cache', h⟩
    obtain ⟨hello', now, htr, -⟩ := serverHandshake_eq_ok.mp h
    obtain ⟨hdec, hwin, -⟩ := f.window_of_transcript htr
    rw [hv.greeting] at hdec
    cases hdec
    exact (absDiff_le_of_le hf.started).mp hwin
  · intro hle
    have htr := hv.transcript ((absDiff_le_of_le hf.started).mpr hle)
    have hsent : hello.unixSecs ≤ f.authAt := Nat.le_trans hf.helloSent hf.authSent
    have hlate : absDiff f.authAt hello.unixSecs ≤ rc.maxTimeDiff := by
      have := hf.authInTime
      unfold absDiff
      split <;> omega
    exact ⟨_, serverHandshake_eq_ok.mpr ⟨hello, f.authAt, htr,
      checkAndInsert_of_fresh hlate hv.unseen hv.room⟩⟩

/-- The binary messages of a stream, with their arrivals. -/
def binaries (stream : Stream) : List (Nat × Bytes) :=
  stream.filterMap fun x => match x.2 with
    | .binary b => some (x.1, b)
    | _ => none

theorem binaries_of_next {what : String} {control control' t : Nat} {b : Bytes}
    {stream rest : Stream}
    (h : nextHandshakeBinary what control stream = .ok (t, b, control', rest)) :
    binaries stream = (t, b) :: binaries rest := by
  obtain ⟨before, rfl, hbefore, -⟩ := nextHandshakeBinary_eq_ok.mp h
  have hnone : binaries before = [] := by
    refine List.filterMap_eq_nil_iff.mpr fun x hx => ?_
    rcases hbefore x hx with hx | hx <;> rw [hx]
  rw [binaries, List.filterMap_append]
  exact (congrArg (· ++ _) hnone).trans rfl

/-- **No handshake succeeds with a late AUTH**, whatever the stream. -/
theorem auth_in_window {stream : Stream} {r : Bytes × T}
    (h : serverHandshakeRealityWithAuth L rc tlsSni httpHost authenticate cache start stream =
      (cache', .ok r)) :
    ∃ helloAt helloMsg authAt auth rest hello,
      binaries stream = (helloAt, helloMsg) :: (authAt, auth) :: rest ∧
      decodeClientHello helloMsg = .ok hello ∧ authAt ≤ hello.unixSecs + rc.maxTimeDiff := by
  obtain ⟨hello, now, htr, hcheck⟩ := serverHandshake_eq_ok.mp h
  obtain ⟨-, t, msg, control, stream', auth, control', rest, got, hnext, hhello, hnext', -, -⟩ :=
    realityTranscript_eq_ok.mp htr
  refine ⟨t, msg, now, auth, binaries rest, hello, ?_, (realityHelloFrame_eq_ok hhello).1, ?_⟩
  · rw [binaries_of_next hnext, binaries_of_next hnext']
  · rcases checkAndInsert_cases cache hello.nonce hello.unixSecs now rc.maxTimeDiff with
      ⟨⟨e, he⟩, -⟩ | ⟨-, e, he⟩ | ⟨hwin, -, -⟩
    · rw [he] at hcheck
      cases hcheck
    · rw [he] at hcheck
      cases hcheck
    · unfold absDiff at hwin
      split at hwin <;> omega

/-- **A fresh HELLO is accepted exactly if the server has not waited too long for it.**  A flight
that is valid and arrives within `max_time_diff` seconds of its stamp succeeds exactly if the client
stamped its HELLO within `max_time_diff` seconds of the call; and no handshake succeeds with an AUTH
that comes later than that after the stamp. -/
theorem fresh_hello_accepted (L : Libraries) (rc : RealityServerConfig)
    (tlsSni httpHost : Option Text) (authenticate : Authenticate T) (cache : ReplayCache)
    (start : Nat) :
    (∀ (f : Flight) (hello : RealityClientHello) (shared mac : Bytes) (identity : T),
      f.Valid L rc tlsSni httpHost authenticate cache hello shared mac identity →
      f.Fresh start hello.unixSecs rc.maxTimeDiff →
      ((∃ cache', serverHandshakeRealityWithAuth L rc tlsSni httpHost authenticate cache start
          f.stream = (cache', .ok (shared, identity))) ↔
        hello.unixSecs ≤ start + rc.maxTimeDiff)) ∧
    ∀ (stream : Stream) (cache' : ReplayCache) (r : Bytes × T),
      serverHandshakeRealityWithAuth L rc tlsSni httpHost authenticate cache start stream =
          (cache', .ok r) →
        ∃ helloAt helloMsg authAt auth rest hello,
          binaries stream = (helloAt, helloMsg) :: (authAt, auth) :: rest ∧
          decodeClientHello helloMsg = .ok hello ∧ authAt ≤ hello.unixSecs + rc.maxTimeDiff := by
  constructor
  · intro f hello shared mac identity hv hf
    exact f.succeeds_iff hv hf
  · intro stream cache' r h
    exact auth_in_window h

end Window

/-! ### Two flights -/

/-- A client of `plainLibraries` that stamps its HELLO at `stamp`; both frames arrive at once. -/
def promptFlight (stamp : UInt8) : Flight where
  beforeHello := []
  helloAt := stamp.toNat
  hello := 3 :: List.replicate 40 0 ++ [0, 0, 0, 0, 0, 0, 0, stamp] ++ List.replicate 16 0
  beforeAuth := []
  authAt := stamp.toNat
  auth := 3 :: 0xa1 :: List.replicate 32 7
  control := fun x hx => (by cases hx)
  few := by decide

/-- A server that allows five seconds. -/
def fiveSeconds : RealityServerConfig := ⟨[], [], [], 5⟩

def promptHello (stamp : Nat) : RealityClientHello :=
  ⟨List.replicate 32 0, List.replicate 8 0, stamp, List.replicate 16 0⟩

theorem fresh_hello_accepted_at_once :
    (∃ cache', serverHandshakeRealityWithAuth plainLibraries fiveSeconds none none
        (tokenMac plainLibraries ['k']) ⟨[]⟩ 0 (promptFlight 5).stream = (cache', .ok ([], ()))) :=
  ((fresh_hello_accepted plainLibraries fiveSeconds none none
    (tokenMac plainLibraries ['k']) ⟨[]⟩ 0).1 (promptFlight 5) (promptHello 5) []
    (List.replicate 32 7) ()
    ⟨by decide, by decide, by decide, by decide, by decide, by decide, by decide, by decide⟩
    ⟨by decide, by decide, by decide, by decide, by decide⟩).mpr (by decide)

/-- **The client waits six seconds**, and its HELLO is refused although it arrives at once. -/
theorem fresh_hello_refused :
    (promptFlight 6).Valid plainLibraries fiveSeconds none none (tokenMac plainLibraries ['k']) ⟨[]⟩
      (promptHello 6) [] (List.replicate 32 7) () ∧
    (promptFlight 6).Fresh 0 (promptHello 6).unixSecs fiveSeconds.maxTimeDiff ∧
    (serverHandshakeRealityWithAuth plainLibraries fiveSeconds none none
        (tokenMac plainLibraries ['k']) ⟨[]⟩ 0 (promptFlight 6).stream).2 =
      .error "REALITY: HELLO timestamp outside allowed window (skew 6s > max_time_diff 5s)" :=
  ⟨⟨by decide, by decide, by decide, by decide, by decide, by decide, by decide, by decide⟩,
    ⟨by decide, by decide, by decide, by decide, by decide⟩, by decide⟩

end BibaVpn.Server
