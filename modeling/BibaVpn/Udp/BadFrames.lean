/-
# Bad frames in a UDP mux session

Both ends of a UDP mux session count the bad frames they receive and give up when there are too many
of them in a row: the client at 24, the server at 64.  A frame is read in two stages, unpacking and
decoding.  The counter goes back to zero between the two, so that a frame which unpads and is then
not a well-formed message always leaves it at one.

* §1 follows the counter through a session of the client, §2 is the loop of the server and follows
  its counter;
* §3 is the verdict on both: a session ends for this reason exactly if a row of bad frames was
  COUNTED, which is a row where only the first may unpad.  A peer that pads its garbage well is
  never given up on.
-/
import BibaVpn.Lib.Strikes
import BibaVpn.Udp.MuxClient

namespace BibaVpn.Udp

open Machine Lts Wire Strikes

/-! ## 1. The client -/

namespace Client

/-- How far the client gets with a frame: it cannot be unpacked, or it unpacks and is no `UDP_REP`,
or it is one. -/
def frameKind (P : Platform) (rx : Aead) (b : Bytes) : Kind :=
  match unpackTunnelIn rx b with
  | .error _ => .early
  | .ok inner =>
    match decodeUdpRep P inner with
    | .error _ => .late
    | .ok _ => .success

/-- The frame that an event delivers. -/
def Action.frame : Action → Option Bytes
  | .binary b => some b
  | _ => none

/-- The kinds of the frames that a run delivers. -/
def frameKinds (P : Platform) (rx : Aead) (as : List Action) : List Kind :=
  (as.filterMap Action.frame).map (frameKind P rx)

/-- **The session gave up**: it ended because of the bad frames. -/
def Session.GaveUp (s : Session) : Prop := s.phase = .ended ∧ 24 ≤ s.badFrames

instance (s : Session) : Decidable s.GaveUp := inferInstanceAs (Decidable (_ ∧ _))

/-! ### What a step does to the counter -/

/-- The counter of `t` is `n`, and a counter at the limit has ended the session. -/
structure Session.Counter (t : Session) (rx : Aead) (n : Nat) : Prop where
  rx : t.rx = rx
  badFrames : t.badFrames = n
  ended : 24 ≤ n → t.phase = .ended

variable {n : Nat} {rx : Aead} {s : Session} {C : Config} {P : Platform}

theorem Session.Counter.settle (h : s.Counter rx n) (xid : Nat) (a : Except String Bytes) :
    (s.settle xid a).Counter rx n := by
  unfold Session.settle
  split
  · exact h
  · exact ⟨h.rx, h.badFrames, h.ended⟩

theorem Session.counter_badFrame (hn : s.badFrames = n) (hlt : n < 24) :
    s.badFrame.Counter s.rx (n + 1) := by
  have hsat : saturatingAdd u32Max s.badFrames 1 = n + 1 := by
    rw [hn]
    exact Nat.min_eq_left (by simp only [u32Max]; omega)
  unfold Session.badFrame
  simp only [hsat]
  split
  · exact ⟨rfl, rfl, fun _ => rfl⟩
  · rename_i hle
    exact ⟨rfl, rfl, fun h => absurd h hle⟩

/-- **A frame moves the counter by its kind.** -/
theorem Session.counter_receive (P : Platform) (hlt : s.badFrames < 24) (b : Bytes) :
    (s.receive P b).1.Counter s.rx (next s.badFrames (frameKind P s.rx b)) := by
  cases hu : unpackTunnelIn s.rx b with
  | error e =>
    simp only [Session.receive, frameKind, hu]
    exact s.counter_badFrame rfl hlt
  | ok inner =>
    cases hd : decodeUdpRep P inner with
    | error e =>
      simp only [Session.receive, frameKind, hu, hd]
      exact Session.counter_badFrame (s := { s with badFrames := 0 }) (n := 0) rfl (by decide)
    | ok rep =>
      simp only [Session.receive, frameKind, hu, hd]
      have hzero : ∀ t : Session, t.rx = s.rx → t.badFrames = 0 → t.Counter s.rx 0 :=
        fun t hrx h0 => ⟨hrx, h0, fun h => absurd h (by decide)⟩
      split
      · refine hzero _ ?_ ?_ <;> rfl
      · refine Session.Counter.settle (hzero _ ?_ ?_) _ _ <;> rfl

/-- A forwarded request leaves the counter alone. -/
theorem Session.counter_forward (h : s.Counter rx n) (hlt : n < 24) (P : Platform) (C : Config)
    (i : Nat) (r : Request) (pad : PadCoins) (decoy : DecoyCoins) :
    (s.forward P C i r pad decoy).Counter rx n := by
  have hcalm : ∀ t : Session, t.rx = s.rx → t.badFrames = s.badFrames → t.Counter rx n :=
    fun t hrx hbad => ⟨hrx.trans h.rx, hbad.trans h.badFrames, fun h => absurd h (by omega)⟩
  rcases s.forward_cases P C i r pad decoy with ⟨-, text, heq⟩ |
    ⟨-, tx, adaptive, ⟨text, heq⟩ | heq⟩
  · rw [heq]
    exact hcalm _ rfl rfl
  · rw [heq]
    refine Session.Counter.settle (hcalm _ ?_ ?_) _ _ <;> rfl
  · rw [heq]
    exact hcalm _ rfl rfl

theorem Session.counter_drain (h : s.Counter rx n) : s.drain.Counter rx n := by
  have hfold : ∀ (es : List (Nat × Entry)) (s : Session), s.Counter rx n →
      (es.foldl (fun s e => s.settle e.1 (.error "udp mux session ended")) s).Counter rx n := by
    intro es
    induction es with
    | nil => exact fun _ h => h
    | cons e es ih => exact fun s h => ih _ (h.settle e.1 _)
  have h' := hfold s.pending.entries s h
  exact ⟨h'.rx, h'.badFrames, fun _ => rfl⟩

/-- **What an event does to the counter**: a frame moves it, and finds it below the limit; nothing
else does. -/
theorem Session.step_counter {s s' : Session} {a : Action} (h : s.Counter rx n)
    (hs : s.step P C a = some s') :
    (∃ b, a.frame = some b ∧ n < 24 ∧ s'.Counter rx (next n (frameKind P rx b))) ∨
    (a.frame = none ∧ s'.Counter rx n) := by
  obtain ⟨⟨t, snoop⟩, hact, rfl⟩ := Option.map_eq_some_iff.mp hs
  have hbelow : s.phase ≠ .ended → n < 24 :=
    fun hne => Nat.lt_of_not_le fun hle => hne (h.ended hle)
  -- a session that goes on, or ends for another reason, keeps its counter
  have hkeep : ∀ t : Session, t.rx = s.rx → t.badFrames = s.badFrames →
      (24 ≤ n → t.phase = .ended) → t.Counter rx n :=
    fun t hrx hbad hended => ⟨hrx.trans h.rx, hbad.trans h.badFrames, hended⟩
  have hlive : s.phase ≠ .ended → ∀ {p : Prop}, 24 ≤ n → p := fun hne _ hle =>
    absurd (hbelow hne) (Nat.not_lt.mpr hle)
  revert hact
  fun_cases Session.act P C s a <;> intro hact <;> try cases hact
  case case13 b hrun =>
    obtain rfl : (s.receive P b).1 = t := congrArg Prod.fst (Option.some.inj hact)
    have hlt := hbelow (by rw [hrun]; decide)
    refine .inl ⟨b, rfl, hlt, ?_⟩
    have hrecv := Session.counter_receive P (h.badFrames ▸ hlt) b
    rwa [h.rx, h.badFrames] at hrecv
  all_goals refine .inr ⟨rfl, ?_⟩
  case case2 | case4 | case21 => exact hkeep _ rfl rfl h.ended
  case case6 pad decoy i queue _ hrun r _ =>
    exact Session.counter_forward (s := { s with queue }) ⟨h.rx, h.badFrames, h.ended⟩
      (hbelow (by rw [hrun]; decide)) P C i r pad decoy
  case case8 hphase => exact hkeep _ rfl rfl (hlive (by rw [hphase]; simp))
  case case9 hphase =>
    exact ⟨(h.settle _ _).rx, (h.settle _ _).badFrames, hlive (by rw [hphase]; simp)⟩
  case case11 hrun => exact hkeep _ rfl rfl (hlive (by rw [hrun.1]; decide))
  case case15 => exact h
  case case17 hrun => exact hkeep _ rfl rfl (hlive (by rw [hrun]; decide))
  case case23 => exact Session.counter_drain h
  all_goals exact hkeep _ rfl rfl fun _ => rfl

/-! ### Every run -/

/-- **The counter of a session follows the frames it was given.** -/
theorem Session.tracks {tx : ChaHalf} {as : List Action}
    (h : run (Session.step P C) (Session.start tx rx) as = some s) :
    ∃ n, s.Counter rx n ∧ Tracks 24 n (frameKinds P rx as) := by
  refine run_history (I := fun as s => ∃ n, s.Counter rx n ∧ Tracks 24 n (frameKinds P rx as))
    ⟨0, ⟨rfl, rfl, fun h => absurd h (by decide)⟩, .nil 24⟩ ?_ h
  rintro past s a s' ⟨n, hcount, htracks⟩ hs
  rcases Session.step_counter hcount hs with ⟨b, hb, hlt, hcount'⟩ | ⟨hnone, hcount'⟩
  · refine ⟨_, hcount', ?_⟩
    have := htracks.snoc hlt (frameKind P rx b)
    simpa [frameKinds, hb] using this
  · refine ⟨n, hcount', ?_⟩
    simpa [frameKinds, hnone] using htracks

theorem Session.gaveUp_iff {tx : ChaHalf} {as : List Action}
    (h : run (Session.step P C) (Session.start tx rx) as = some s) :
    s.GaveUp ↔ Counted 24 (frameKinds P rx as) := by
  obtain ⟨n, hcount, htracks⟩ := Session.tracks h
  rw [← htracks.le_iff (by decide), Session.GaveUp, hcount.badFrames]
  exact and_iff_right_of_imp hcount.ended

end Client

/-! ## 2. The server -/

namespace Server

/-- `UDP_MUX_SERVER_MAX_INFLIGHT`. -/
def maxInflight : Nat := 512

/-- The text of the error with which the server gives up. -/
def tooManyBadFrames : String := "udp mux server: too many bad client frames"

/-- The loop of `bridge_ws_udp_mux_server`: its counter, the request that waits for a permit of the
semaphore, the requests whose workers run, and its result. -/
structure Session where
  badFrames : Nat
  waiting : Option (Nat × Text × Nat × Bytes)
  workers : List (Nat × Text × Nat × Bytes)
  result : Option (Except String Unit)
  deriving DecidableEq

def Session.start : Session := ⟨0, none, [], none⟩

/-- What can happen. -/
inductive Action
  /-- `ws_rx.next()` yields a binary message -/
  | binary (b : Bytes)
  /-- a ping, and the error of sending the pong -/
  | ping (error : Option String)
  /-- a pong, or a message of another kind -/
  | other
  /-- a close message arrives, or the stream ends -/
  | closed
  /-- reading the WebSocket fails -/
  | readError
  /-- `acquire_owned` returns, and the worker is spawned -/
  | spawn
  /-- a worker finishes and gives its permit back -/
  | finish (i : Nat)

/-- One more bad frame; the sixty-fourth in a row ends the loop with an error. -/
def Session.badFrame (s : Session) : Session :=
  let n := saturatingAdd u32Max s.badFrames 1
  { s with badFrames := n, result := if n ≥ 64 then some (.error tooManyBadFrames) else s.result }

/-- The branch `Message::Binary`. -/
def Session.receive (P : Platform) (rx : Aead) (maxWsBinary : Nat) (s : Session) (b : Bytes) :
    Session :=
  if b.length > saturatingMul u64Max maxWsBinary 4 then
    { s with result := some (.error "oversized WS binary") }
  else match rx.openPacket b with
    | .error _ => { s with result := some (.error "open c2s (udp mux)") }
    | .ok raw =>
      match readPaddedFrame raw with
      | .error _ => s.badFrame
      | .ok plain =>
        let s := { s with badFrames := 0 }
        match decodeUdpReq P plain with
        | .error _ => s.badFrame
        | .ok req => { s with waiting := some req }

def Session.step (P : Platform) (rx : Aead) (maxWsBinary : Nat) (s : Session) (a : Action) :
    Option Session :=
  if s.result.isSome then none
  else match a, s.waiting with
    | .binary b, none => some (s.receive P rx maxWsBinary b)
    | .ping none, none => some s
    | .ping (some _), none => some { s with result := some (.error "ws pong") }
    | .other, none => some s
    | .closed, none => some { s with result := some (.ok ()) }
    | .readError, none => some { s with result := some (.error "websocket read") }
    | .spawn, some req =>
      if s.workers.length < maxInflight then
        some { s with waiting := none, workers := s.workers ++ [req] }
      else none
    | .finish i, _ =>
      if i < s.workers.length then some { s with workers := s.workers.eraseIdx i } else none
    | _, _ => none

/-- How far the server gets with a frame that it can decrypt: it does not unpad, or it unpads and is
no `UDP_REQ`, or it is one.  Every other frame ends the session at once. -/
def frameKind (P : Platform) (rx : Aead) (maxWsBinary : Nat) (b : Bytes) : Option Kind :=
  if b.length > saturatingMul u64Max maxWsBinary 4 then none
  else match rx.openPacket b with
    | .error _ => none
    | .ok raw =>
      match readPaddedFrame raw with
      | .error _ => some .early
      | .ok plain =>
        match decodeUdpReq P plain with
        | .error _ => some .late
        | .ok _ => some .success

/-- The frame that an event delivers. -/
def Action.frame : Action → Option Bytes
  | .binary b => some b
  | _ => none

/-- The kinds of the frames that a run delivers. -/
def frameKinds (P : Platform) (rx : Aead) (maxWsBinary : Nat) (as : List Action) : List Kind :=
  (as.filterMap Action.frame).filterMap (frameKind P rx maxWsBinary)

/-- **The session gave up**: it ended because of the bad frames. -/
def Session.GaveUp (s : Session) : Prop := s.result = some (.error tooManyBadFrames)

instance (s : Session) : Decidable s.GaveUp := inferInstanceAs (Decidable (_ = _))

/-! ### What a step does to the counter -/

/-- The counter of `t` is `n`, and at the limit exactly if the session gave up. -/
structure Session.Counter (t : Session) (n : Nat) : Prop where
  badFrames : t.badFrames = n
  gaveUp : t.GaveUp ↔ 64 ≤ n

variable {n : Nat} {s : Session} {P : Platform} {maxWsBinary : Nat} {rx : Aead}

theorem Session.counter_badFrame (hn : s.badFrames = n) (hlt : n < 64) (hrun : s.result = none) :
    s.badFrame.Counter (n + 1) := by
  have hsat : saturatingAdd u32Max s.badFrames 1 = n + 1 := by
    rw [hn]
    exact Nat.min_eq_left (by simp only [u32Max]; omega)
  have hres : s.badFrame.result =
      if n + 1 ≥ 64 then some (.error tooManyBadFrames) else none := by
    simp only [Session.badFrame, hsat, hrun]
  refine ⟨hsat, ?_⟩
  rw [Session.GaveUp, hres]
  split
  · rename_i hle
    exact ⟨fun _ => hle, fun _ => rfl⟩
  · rename_i hle
    exact ⟨fun h => (by cases h), fun h => absurd h hle⟩

/-- A session that runs, or ended for another reason. -/
theorem Session.counter_of_ne (hn : s.badFrames = n) (hlt : n < 64)
    (hne : s.result ≠ some (.error tooManyBadFrames)) : s.Counter n :=
  ⟨hn, ⟨fun h => absurd h hne, fun h => absurd hlt (Nat.not_lt.mpr h)⟩⟩

theorem Session.counter_of_error (hn : s.badFrames = n) (hlt : n < 64) (text : String)
    (hne : text ≠ tooManyBadFrames) : { s with result := some (.error text) }.Counter n := by
  refine Session.counter_of_ne hn hlt fun h => hne ?_
  cases h
  rfl

/-- **A frame moves the counter by its kind**, if it has one. -/
theorem Session.counter_receive (P : Platform) (rx : Aead) (maxWsBinary : Nat)
    (hlt : s.badFrames < 64) (hrun : s.result = none) (b : Bytes) :
    (s.receive P rx maxWsBinary b).Counter
      (match frameKind P rx maxWsBinary b with
        | none => s.badFrames
        | some k => next s.badFrames k) := by
  by_cases hsize : b.length > saturatingMul u64Max maxWsBinary 4
  · simp only [Session.receive, frameKind, if_pos hsize]
    exact Session.counter_of_error rfl hlt _ (by decide)
  · cases ho : rx.openPacket b with
    | error e =>
      simp only [Session.receive, frameKind, if_neg hsize, ho]
      exact Session.counter_of_error rfl hlt _ (by decide)
    | ok raw =>
      cases hp : readPaddedFrame raw with
      | error e =>
        simp only [Session.receive, frameKind, if_neg hsize, ho, hp]
        exact s.counter_badFrame rfl hlt hrun
      | ok plain =>
        cases hd : decodeUdpReq P plain with
        | error e =>
          simp only [Session.receive, frameKind, if_neg hsize, ho, hp, hd]
          exact Session.counter_badFrame (s := { s with badFrames := 0 }) (n := 0) rfl
            (by decide) hrun
        | ok req =>
          simp only [Session.receive, frameKind, if_neg hsize, ho, hp, hd]
          exact Session.counter_of_ne (n := 0) rfl (by decide) (by rw [hrun]; exact nofun)

/-- **What an event does to the counter**: a frame that the server can decrypt moves it, and finds
it below the limit; nothing else does. -/
theorem Session.step_counter {s s' : Session} {a : Action} (h : s.Counter n)
    (hs : s.step P rx maxWsBinary a = some s') :
    (∃ k, a.frame.bind (frameKind P rx maxWsBinary) = some k ∧ n < 64 ∧ s'.Counter (next n k)) ∨
    (a.frame.bind (frameKind P rx maxWsBinary) = none ∧ s'.Counter n) := by
  have hrun : s.result = none := Option.not_isSome_iff_eq_none.mp fun hsome => by
    unfold Session.step at hs
    rw [if_pos hsome] at hs
    cases hs
  have hne : s.result ≠ some (.error tooManyBadFrames) := by rw [hrun]; exact nofun
  have hlt : n < 64 := Nat.lt_of_not_le fun hle => hne (h.gaveUp.mpr hle)
  have hcalm := fun t : Session => Session.counter_of_ne (s := t) (n := n)
  revert hs
  fun_cases Session.step P rx maxWsBinary s a <;> intro hs <;> cases hs
  case case2 b _ =>
    have hrecv := Session.counter_receive P rx maxWsBinary (h.badFrames ▸ hlt) hrun b
    rw [h.badFrames] at hrecv
    simp only [Action.frame, Option.bind_some]
    cases hk : frameKind P rx maxWsBinary b with
    | none => exact .inr ⟨rfl, by rwa [hk] at hrecv⟩
    | some k => exact .inl ⟨k, rfl, hlt, by rwa [hk] at hrecv⟩
  all_goals refine .inr ⟨rfl, ?_⟩
  case case3 | case5 => exact h
  case case4 | case7 => exact Session.counter_of_error h.badFrames hlt _ (by decide)
  case case6 => exact hcalm _ h.badFrames hlt nofun
  case case8 | case10 => exact hcalm _ h.badFrames hlt hne

/-! ### Every run -/

/-- **The counter of a session follows the frames it was given.** -/
theorem Session.tracks {as : List Action}
    (h : run (Session.step P rx maxWsBinary) Session.start as = some s) :
    ∃ n, s.Counter n ∧ Tracks 64 n (frameKinds P rx maxWsBinary as) := by
  refine run_history
    (I := fun as s => ∃ n, s.Counter n ∧ Tracks 64 n (frameKinds P rx maxWsBinary as))
    ⟨0, Session.counter_of_ne rfl (by decide) (by decide), .nil 64⟩ ?_ h
  rintro past s a s' ⟨n, hcount, htracks⟩ hs
  rcases Session.step_counter hcount hs with ⟨k, hk, hlt, hcount'⟩ | ⟨hnone, hcount'⟩
  · refine ⟨_, hcount', ?_⟩
    have := htracks.snoc hlt k
    simpa [frameKinds, List.filterMap_filterMap, hk] using this
  · refine ⟨n, hcount', ?_⟩
    simpa [frameKinds, List.filterMap_filterMap, hnone] using htracks

theorem Session.gaveUp_iff {as : List Action}
    (h : run (Session.step P rx maxWsBinary) Session.start as = some s) :
    s.GaveUp ↔ Counted 64 (frameKinds P rx maxWsBinary as) := by
  obtain ⟨n, hcount, htracks⟩ := Session.tracks h
  rw [← htracks.le_iff (by decide), hcount.gaveUp]

end Server

/-! ## 3. When a session is given up on -/

/-- **What can be said of every session**, of the frames `ks` it was given and its limit: it is
given up on exactly if a row of bad frames was counted, so never without such a row; and every row
that should end it does exactly if, with any row, one is counted. -/
structure Verdict (limit : Nat) (ks : List Kind) (gaveUp : Prop) : Prop where
  exact : gaveUp ↔ Counted limit ks
  sound : gaveUp → Row limit ks
  complete_iff : (gaveUp ↔ Row limit ks) ↔ (Row limit ks → Counted limit ks)
  orderly : Orderly ks → (gaveUp ↔ Row limit ks)

theorem Verdict.of_iff {limit : Nat} {ks : List Kind} {gaveUp : Prop} (hpos : 0 < limit)
    (h : gaveUp ↔ Counted limit ks) : Verdict limit ks gaveUp where
  exact := h
  sound hg := (h.mp hg).row
  complete_iff := by
    rw [h]
    exact ⟨fun hiff => hiff.mpr, fun himp => ⟨Counted.row, himp⟩⟩
  orderly ho := h.trans ⟨Counted.row, ho.counted hpos⟩

/-- **Garbage ends a session exactly if the counter sees it.**  Whatever frames a session is given,
in whatever order with the other events: it is given up on exactly if `limit` bad frames came in a
row of which only the first unpads. -/
theorem garbage_ends_session (P : Platform) :
    (∀ (C : Client.Config) (tx : ChaHalf) (rx : Aead) (as : List Client.Action)
      (s : Client.Session), run (Client.Session.step P C) (Client.Session.start tx rx) as = some s →
        Verdict 24 (Client.frameKinds P rx as) s.GaveUp) ∧
    (∀ (rx : Aead) (maxWsBinary : Nat) (as : List Server.Action) (s : Server.Session),
      run (Server.Session.step P rx maxWsBinary) Server.Session.start as = some s →
        Verdict 64 (Server.frameKinds P rx maxWsBinary as) s.GaveUp) := by
  constructor
  · intro C tx rx as s h
    exact .of_iff (by decide) (Client.Session.gaveUp_iff h)
  · intro rx maxWsBinary as s h
    exact .of_iff (by decide) (Server.Session.gaveUp_iff h)

/-- A packet around `inner`, when the cipher does nothing. -/
def plainPacket (inner : Bytes) : Bytes := Aead.plain.packet 0 [] inner

/-- A frame that does not unpad, and one that unpads to no message. -/
def unreadable : Bytes := plainPacket [0]

def malformed : Bytes := plainPacket [frameVer, 0, 0, 1, 0, 0]

/-- Both sessions give up on frames that do not unpad. -/
theorem garbage_ends_session_unreadable :
    (run (Client.Session.step .ascii ⟨0, .random, 1000, 0⟩)
        (Client.Session.start ⟨.plain, 0⟩ .plain)
        (List.replicate 24 (.binary unreadable))).map (fun s => decide s.GaveUp) = some true ∧
    (∀ s, run (Client.Session.step .ascii ⟨0, .random, 1000, 0⟩)
        (Client.Session.start ⟨.plain, 0⟩ .plain)
        (List.replicate 24 (.binary unreadable)) = some s →
      Verdict 24 (Client.frameKinds .ascii .plain (List.replicate 24 (.binary unreadable)))
        s.GaveUp) ∧
    (run (Server.Session.step .ascii .plain 1000) Server.Session.start
        (List.replicate 64 (.binary unreadable))).map (fun s => decide s.GaveUp) = some true ∧
    ∀ s, run (Server.Session.step .ascii .plain 1000) Server.Session.start
        (List.replicate 64 (.binary unreadable)) = some s →
      Verdict 64 (Server.frameKinds .ascii .plain 1000 (List.replicate 64 (.binary unreadable)))
        s.GaveUp :=
  ⟨by decide +kernel, fun s hs => (garbage_ends_session .ascii).1 _ _ _ _ s hs, by decide +kernel,
    fun s hs => (garbage_ends_session .ascii).2 _ _ _ s hs⟩

/-- **Garbage that unpads ends no session**: the counter stays at one. -/
theorem malformed_frames_go_on :
    (run (Client.Session.step .ascii ⟨0, .random, 1000, 0⟩)
        (Client.Session.start ⟨.plain, 0⟩ .plain)
        (List.replicate 24 (.binary malformed))).map (fun s => (s.phase, s.badFrames)) =
      some (.running, 1) ∧
    Client.frameKinds .ascii .plain (List.replicate 24 (.binary malformed)) =
      List.replicate 24 .late ∧
    run (Server.Session.step .ascii .plain 1000) Server.Session.start
        (List.replicate 64 (.binary malformed)) = some ⟨1, none, [], none⟩ ∧
    Server.frameKinds .ascii .plain 1000 (List.replicate 64 (.binary malformed)) =
      List.replicate 64 .late := by
  refine ⟨by decide +kernel, by decide +kernel, by decide +kernel, by decide +kernel⟩

end BibaVpn.Udp
