/-
# Nonces under concurrent sealing

`SessionCrypto` (`crypto_layer.rs`) is shared by every task that sends on a session: `seal_*` takes
`&self`, and the only thing two calls share is the counter of their direction.  `next_nonce`
advances it with `fetch_update`, which is a loop:

    prev = load;  while let Some(next) = f(prev) { match compare_exchange_weak(prev, next) .. }

so a call can be overtaken between its load and its exchange any number of times, the exchange can
fail for no reason, and all of it is `Relaxed`: a load, and an exchange that fails, may see a value
that is no longer the current one.  A call that has its nonce can still fail to encrypt; the nonce
is then spent.

* §1 is the machine: any number of calls, each at its own place in that loop, and §2 what a step can
  do to them;
* §3 is the invariant: a counter value that a call holds is below the counter, and two calls of one
  direction hold different ones;
* §4 is what it says about packets, and what happens at the end of the counter;
* §5 leads back to `seal_with` and to the session that seals in place: what they compute is what a
  call does that nobody overtakes.
-/
import BibaVpn.Lib.Lts
import BibaVpn.Wire.MuxWire

namespace BibaVpn.Wire

open Machine Lts

/-! ## 1. Calls at the counter -/

inductive Direction
  | c2s
  | s2c
  deriving DecidableEq, Repr

/-- The entry points that seal. -/
inductive SealEntry
  | sealClientToServer (inner : Bytes)
  | sealServerToClient (inner : Bytes)
  /-- `seal_frame(client, frame)`; `frame` is what `append_to` writes -/
  | sealFrame (client : Bool) (frame : Bytes)
  deriving DecidableEq, Repr

/-- The half that an entry point uses. -/
def SealEntry.direction : SealEntry → Direction
  | .sealClientToServer _ => .c2s
  | .sealServerToClient _ => .s2c
  | .sealFrame client _ => if client then .c2s else .s2c

def SealEntry.inner : SealEntry → Bytes
  | .sealClientToServer inner => inner
  | .sealServerToClient inner => inner
  | .sealFrame _ frame => frame

/-- Where a call is. -/
inductive SealPhase
  /-- before the load of `fetch_update` -/
  | loading
  /-- it has seen `c` -/
  | read (c : Nat)
  /-- its exchange succeeded: `c` is its counter value -/
  | holding (c : Nat)
  /-- it returned this packet, sealed under counter value `c` -/
  | sealed (c : Nat) (wire : Bytes)
  /-- it returned "chacha nonce space exhausted" -/
  | exhausted
  /-- it returned the cipher's error -/
  | failed
  deriving DecidableEq, Repr

/-- The counter value whose nonce may be on the wire. -/
def SealPhase.counter : SealPhase → Option Nat
  | .holding c => some c
  | .sealed c _ => some c
  | _ => none

structure SealCall where
  direction : Direction
  decoy : Bytes
  inner : Bytes
  phase : SealPhase
  deriving DecidableEq, Repr

/-- A `SessionCrypto` and the calls on it. -/
structure SessionCrypto where
  c2s : ChaHalf
  s2c : ChaHalf
  decoyMax : UInt8
  calls : List SealCall

def SessionCrypto.half (s : SessionCrypto) : Direction → ChaHalf
  | .c2s => s.c2s
  | .s2c => s.s2c

/-- The counter of one direction moves. -/
def SessionCrypto.setCtr (s : SessionCrypto) (d : Direction) (ctr : Nat) : SessionCrypto :=
  match d with
  | .c2s => { s with c2s := { s.c2s with ctr := ctr } }
  | .s2c => { s with s2c := { s.s2c with ctr := ctr } }

def SessionCrypto.setPhase (s : SessionCrypto) (i : Nat) (phase : SealPhase) : SessionCrypto :=
  { s with calls := s.calls.modify i fun call => { call with phase := phase } }

inductive SealAction
  /-- a call begins and draws its decoy -/
  | begin (entry : SealEntry) (coins : DecoyCoins)
  /-- the load of call `i` sees `v` -/
  | load (i v : Nat)
  /-- one round of call `i`'s loop; `some v` if the exchange fails and sees `v` -/
  | update (i : Nat) (fails : Option Nat)
  /-- call `i` encrypts, or fails to -/
  | encrypt (i : Nat) (ok : Bool)

variable {s : SessionCrypto} {i : Nat} {call : SealCall}

namespace SessionCrypto

/-- One round of `fetch_update` for a call that has seen `c`. -/
def round (s : SessionCrypto) (i : Nat) (call : SealCall) (c : Nat) (fails : Option Nat) :
    Option SessionCrypto :=
  if c = u64Max then some (s.setPhase i .exhausted)
  else match fails with
    | none =>
      if (s.half call.direction).ctr = c then
        some ((s.setCtr call.direction (c + 1)).setPhase i (.holding c))
      else none
    | some v =>
      if v ≤ (s.half call.direction).ctr then some (s.setPhase i (.read v)) else none

def step (s : SessionCrypto) : SealAction → Option SessionCrypto
  | .begin entry coins =>
    some { s with
      calls := s.calls ++ [⟨entry.direction, decoyBytes s.decoyMax coins, entry.inner, .loading⟩] }
  | .load i v =>
    match s.calls[i]? with
    | some call =>
      if call.phase = .loading ∧ v ≤ (s.half call.direction).ctr then some (s.setPhase i (.read v))
      else none
    | none => none
  | .update i fails =>
    match s.calls[i]? with
    | some call =>
      match call.phase with
      | .read c => s.round i call c fails
      | _ => none
    | none => none
  | .encrypt i ok =>
    match s.calls[i]? with
    | some call =>
      match call.phase with
      | .holding c =>
        let packet := (s.half call.direction).cipher.packet c call.decoy call.inner
        some (s.setPhase i (if ok then .sealed c packet else .failed))
      | _ => none
    | none => none

/-- A `SessionCrypto` on which no call has begun, with its counters anywhere in their range. -/
structure Fresh (s : SessionCrypto) : Prop where
  calls : s.calls = []
  ctr : ∀ d, (s.half d).ctr ≤ u64Max

/-! ## 2. What a step does -/

@[simp] theorem half_setPhase (s : SessionCrypto) (i : Nat) (phase : SealPhase) (d : Direction) :
    (s.setPhase i phase).half d = s.half d := by cases d <;> rfl

@[simp] theorem calls_setCtr (s : SessionCrypto) (d : Direction) (n : Nat) :
    (s.setCtr d n).calls = s.calls := by cases d <;> rfl

theorem half_setCtr (s : SessionCrypto) (d d' : Direction) (n : Nat) :
    (s.setCtr d n).half d' = if d' = d then { s.half d with ctr := n } else s.half d' := by
  cases d <;> cases d' <;> rfl

theorem getElem?_setPhase (s : SessionCrypto) (i j : Nat) (phase : SealPhase) :
    (s.setPhase i phase).calls[j]? =
      if i = j then s.calls[j]?.map fun call => { call with phase := phase } else s.calls[j]? := by
  rw [setPhase, List.getElem?_modify]
  split <;> simp

/-- **Everything a step can do.**  A call begins; a call sees a value of the counter that is not
above the present one; a call that has seen the last value gives up; a call takes the present value
and moves the counter past it; or a call that has its value returns. -/
inductive StepTo (s : SessionCrypto) : SessionCrypto → Prop
  | begin (call : SealCall) (h : call.phase = .loading) :
    s.StepTo { s with calls := s.calls ++ [call] }
  | see (i : Nat) (call : SealCall) (v : Nat) (hi : s.calls[i]? = some call)
    (h : call.phase.counter = none) (hv : v ≤ (s.half call.direction).ctr) :
    s.StepTo (s.setPhase i (.read v))
  | giveUp (i : Nat) (call : SealCall) (hi : s.calls[i]? = some call)
    (h : call.phase = .read u64Max) : s.StepTo (s.setPhase i .exhausted)
  | take (i : Nat) (call : SealCall) (c : Nat) (hi : s.calls[i]? = some call)
    (h : call.phase = .read c) (hne : c ≠ u64Max) (hc : (s.half call.direction).ctr = c) :
    s.StepTo ((s.setCtr call.direction (c + 1)).setPhase i (.holding c))
  | returns (i : Nat) (call : SealCall) (c : Nat) (hi : s.calls[i]? = some call)
    (h : call.phase = .holding c) :
    s.StepTo (s.setPhase i
      (.sealed c ((s.half call.direction).cipher.packet c call.decoy call.inner)))
  | fail (i : Nat) (call : SealCall) (c : Nat) (hi : s.calls[i]? = some call)
    (h : call.phase = .holding c) : s.StepTo (s.setPhase i .failed)

theorem stepTo_of_step {s' : SessionCrypto} {a : SealAction} (hs : s.step a = some s') :
    s.StepTo s' := by
  cases a with
  | begin entry coins =>
    cases hs
    exact .begin _ rfl
  | load i v =>
    simp only [step] at hs
    split at hs
    · rename_i call hi
      split at hs
      · rename_i hc
        cases hs
        exact .see i call v hi (by rw [hc.1]; rfl) hc.2
      · cases hs
    · cases hs
  | update i fails =>
    simp only [step] at hs
    split at hs
    · rename_i call hi
      split at hs
      · rename_i c hph
        unfold round at hs
        split at hs
        · rename_i hmax
          cases hs
          exact .giveUp i call hi (by rw [hph, hmax])
        · rename_i hne
          split at hs
          · split at hs
            · rename_i hc
              cases hs
              exact .take i call c hi hph hne hc
            · cases hs
          · split at hs
            · rename_i v hv
              cases hs
              exact .see i call v hi (by rw [hph]; rfl) hv
            · cases hs
      · cases hs
    · cases hs
  | encrypt i ok =>
    simp only [step] at hs
    split at hs
    · rename_i call hi
      split at hs
      · rename_i c hph
        cases hs
        cases ok with
        | true => exact .returns i call c hi hph
        | false => exact .fail i call c hi hph
      · cases hs
    · cases hs

/-! ## 3. The invariant -/

/-- **The invariant of the counters.**  `used` and `distinct` are the point: a value that a call
holds has been passed by the counter, and no other call of that direction holds it. -/
structure Inv (s : SessionCrypto) : Prop where
  ctr : ∀ d, (s.half d).ctr ≤ u64Max
  used : ∀ (i : Nat) (call : SealCall) (c : Nat), s.calls[i]? = some call →
    call.phase.counter = some c → c < (s.half call.direction).ctr
  distinct : ∀ (i j : Nat) (call call' : SealCall) (c : Nat), s.calls[i]? = some call →
    s.calls[j]? = some call' → call.direction = call'.direction →
    call.phase.counter = some c → call'.phase.counter = some c → i = j
  packet : ∀ (i : Nat) (call : SealCall) (c : Nat) (wire : Bytes), s.calls[i]? = some call →
    call.phase = .sealed c wire → wire.take 12 = nonceBytes c
  read : ∀ (i : Nat) (call : SealCall) (c : Nat), s.calls[i]? = some call →
    call.phase = .read c → c ≤ (s.half call.direction).ctr
  exhausted : ∀ (i : Nat) (call : SealCall), s.calls[i]? = some call → call.phase = .exhausted →
    (s.half call.direction).ctr = u64Max

theorem Inv.fresh (h : s.Fresh) : s.Inv := by
  have hnone : ∀ (i : Nat) (call : SealCall), s.calls[i]? ≠ some call := by
    intro i call hi
    rw [h.calls] at hi
    cases hi
  exact ⟨h.ctr, fun i call _ hi => absurd hi (hnone i call),
    fun i _ call _ _ hi => absurd hi (hnone i call), fun i call _ _ hi => absurd hi (hnone i call),
    fun i call _ hi => absurd hi (hnone i call), fun i call hi => absurd hi (hnone i call)⟩

/-- A call in the new state: the one whose phase was set, or an old one. -/
theorem calls_setPhase {j : Nat} {x : SealCall} {phase : SealPhase} (hi : s.calls[i]? = some call)
    (hx : (s.setPhase i phase).calls[j]? = some x) :
    (j = i ∧ x = { call with phase := phase }) ∨ (j ≠ i ∧ s.calls[j]? = some x) := by
  rw [SessionCrypto.getElem?_setPhase] at hx
  split at hx
  · rename_i hij
    subst hij
    rw [hi] at hx
    cases hx
    exact Or.inl ⟨rfl, rfl⟩
  · rename_i hij
    exact Or.inr ⟨fun h => hij h.symm, hx⟩

/-- **The step rule for a call that takes no new value.** -/
theorem Inv.setPhase {phase : SealPhase} (h : s.Inv) (hi : s.calls[i]? = some call)
    (hcounter : ∀ c, phase.counter = some c → call.phase.counter = some c)
    (hpacket : ∀ c wire, phase = .sealed c wire → wire.take 12 = nonceBytes c)
    (hread : ∀ c, phase = .read c → c ≤ (s.half call.direction).ctr)
    (hexhausted : phase = .exhausted → (s.half call.direction).ctr = u64Max) :
    (s.setPhase i phase).Inv where
  ctr d := by rw [half_setPhase]; exact h.ctr d
  used j x c hx hc := by
    rw [half_setPhase]
    rcases calls_setPhase hi hx with ⟨rfl, rfl⟩ | ⟨-, hx⟩
    · exact h.used j call c hi (hcounter c hc)
    · exact h.used j x c hx hc
  distinct j k x y c hx hy hd hcx hcy := by
    -- whatever holds `c` now held it before
    have hold : ∀ (k : Nat) (z : SealCall), (s.setPhase i phase).calls[k]? = some z →
        z.phase.counter = some c → ∃ z', s.calls[k]? = some z' ∧ z'.direction = z.direction ∧
          z'.phase.counter = some c := by
      intro k z hz hcz
      rcases calls_setPhase hi hz with ⟨rfl, rfl⟩ | ⟨-, hz⟩
      · exact ⟨call, hi, rfl, hcounter c hcz⟩
      · exact ⟨z, hz, rfl, hcz⟩
    obtain ⟨x', hx', hdx, hcx'⟩ := hold j x hx hcx
    obtain ⟨y', hy', hdy, hcy'⟩ := hold k y hy hcy
    exact h.distinct j k x' y' c hx' hy' (hdx.trans (hd.trans hdy.symm)) hcx' hcy'
  packet j x c wire hx hw := by
    rcases calls_setPhase hi hx with ⟨rfl, rfl⟩ | ⟨-, hx⟩
    · exact hpacket c wire hw
    · exact h.packet j x c wire hx hw
  read j x c hx hr := by
    rw [half_setPhase]
    rcases calls_setPhase hi hx with ⟨rfl, rfl⟩ | ⟨-, hx⟩
    · exact hread c hr
    · exact h.read j x c hx hr
  exhausted j x hx he := by
    rw [half_setPhase]
    rcases calls_setPhase hi hx with ⟨rfl, rfl⟩ | ⟨-, hx⟩
    · exact hexhausted he
    · exact h.exhausted j x hx he

/-- **A call takes the present value.**  Nobody of that direction held it: what is held has been
passed. -/
theorem Inv.take {c : Nat} (h : s.Inv) (hi : s.calls[i]? = some call) (hne : c ≠ u64Max)
    (hc : (s.half call.direction).ctr = c) :
    ((s.setCtr call.direction (c + 1)).setPhase i (.holding c)).Inv := by
  have hle := h.ctr call.direction
  have hmono : ∀ d, (s.half d).ctr ≤ ((s.setCtr call.direction (c + 1)).half d).ctr := fun d => by
    rw [half_setCtr]
    split
    · rename_i hd
      subst hd
      show (s.half call.direction).ctr ≤ c + 1
      omega
    · exact Nat.le_refl _
  have hown : ((s.setCtr call.direction (c + 1)).half call.direction).ctr = c + 1 := by
    rw [half_setCtr, if_pos rfl]
  have hi' : (s.setCtr call.direction (c + 1)).calls[i]? = some call := by
    rw [calls_setCtr]; exact hi
  -- a call of the new state is this one, or an old one
  have hcase : ∀ (j : Nat) (x : SealCall),
      ((s.setCtr call.direction (c + 1)).setPhase i (.holding c)).calls[j]? = some x →
      (j = i ∧ x = { call with phase := .holding c }) ∨ (j ≠ i ∧ s.calls[j]? = some x) := by
    intro j x hx
    have := calls_setPhase hi' hx
    rwa [calls_setCtr] at this
  have hfree : ∀ (j : Nat) (x : SealCall), s.calls[j]? = some x → x.direction = call.direction →
      x.phase.counter ≠ some c := by
    intro j x hx hd hcx
    have := h.used j x c hx hcx
    rw [hd] at this
    omega
  refine ⟨fun d => ?_, fun j x c' hx hcx => ?_, fun j k x y c' hx hy hd hcx hcy => ?_,
    fun j x c' wire hx hw => ?_, fun j x c' hx hr => ?_, fun j x hx he => ?_⟩
  · rw [half_setPhase, half_setCtr]
    split
    · show c + 1 ≤ u64Max
      omega
    · exact h.ctr d
  · rw [half_setPhase]
    rcases hcase j x hx with ⟨-, rfl⟩ | ⟨-, hx⟩
    · cases hcx
      rw [hown]
      exact Nat.lt_succ_self c
    · exact lt_of_lt_of_le (h.used j x c' hx hcx) (hmono _)
  · rcases hcase j x hx with ⟨rfl, rfl⟩ | ⟨-, hx'⟩
    · rcases hcase k y hy with ⟨rfl, -⟩ | ⟨-, hy'⟩
      · rfl
      · cases hcx
        exact absurd hcy (hfree k y hy' hd.symm)
    · rcases hcase k y hy with ⟨rfl, rfl⟩ | ⟨-, hy'⟩
      · cases hcy
        exact absurd hcx (hfree j x hx' hd)
      · exact h.distinct j k x y c' hx' hy' hd hcx hcy
  · rcases hcase j x hx with ⟨-, rfl⟩ | ⟨-, hx⟩
    · cases hw
    · exact h.packet j x c' wire hx hw
  · rw [half_setPhase]
    rcases hcase j x hx with ⟨-, rfl⟩ | ⟨-, hx⟩
    · cases hr
    · exact le_trans (h.read j x c' hx hr) (hmono _)
  · rw [half_setPhase]
    rcases hcase j x hx with ⟨-, rfl⟩ | ⟨-, hx⟩
    · cases he
    · have hmax := h.exhausted j x hx he
      rw [half_setCtr]
      split
      · rename_i hd
        rw [hd, hc] at hmax
        exact absurd hmax hne
      · exact hmax

/-- A new call has seen nothing yet. -/
theorem Inv.begin (h : s.Inv) (hph : call.phase = .loading) :
    SessionCrypto.Inv { s with calls := s.calls ++ [call] } := by
  have hhalf : ∀ d, half { s with calls := s.calls ++ [call] } d = s.half d := fun d => by
    cases d <;> rfl
  have hcase : ∀ (j : Nat) (x : SealCall), (s.calls ++ [call])[j]? = some x →
      x.phase ≠ .loading → s.calls[j]? = some x := by
    intro j x hx hne
    rcases Nat.lt_or_ge j s.calls.length with hlt | hge
    · rwa [List.getElem?_append_left hlt] at hx
    · rw [List.getElem?_append_right hge] at hx
      have hmem := List.mem_of_getElem? hx
      rw [List.mem_singleton.mp hmem] at hne
      exact absurd hph hne
  have hcounter : ∀ (x : SealCall) (c : Nat), x.phase.counter = some c → x.phase ≠ .loading := by
    intro x c hc hl
    rw [hl] at hc
    cases hc
  refine ⟨fun d => ?_, fun j x c hx hc => ?_, fun j k x y c hx hy hd hcx hcy => ?_,
    fun j x c wire hx hw => ?_, fun j x c hx hr => ?_, fun j x hx he => ?_⟩
  · rw [hhalf]; exact h.ctr d
  · rw [hhalf]; exact h.used j x c (hcase j x hx (hcounter x c hc)) hc
  · exact h.distinct j k x y c (hcase j x hx (hcounter x c hcx)) (hcase k y hy (hcounter y c hcy))
      hd hcx hcy
  · exact h.packet j x c wire (hcase j x hx (by rw [hw]; simp)) hw
  · rw [hhalf]; exact h.read j x c (hcase j x hx (by rw [hr]; simp)) hr
  · rw [hhalf]; exact h.exhausted j x (hcase j x hx (by rw [he]; simp)) he

end SessionCrypto

theorem Aead.take_packet (A : Aead) (c : Nat) (decoy inner : Bytes) :
    (A.packet c decoy inner).take 12 = nonceBytes c := by
  rw [Aead.packet, List.append_assoc, List.take_append_of_le_length (by simp),
    List.take_of_length_le (by simp)]

theorem SessionCrypto.Inv.step {s' : SessionCrypto} {a : SealAction} (h : s.Inv)
    (hs : s.step a = some s') : s'.Inv := by
  cases SessionCrypto.stepTo_of_step hs with
  | begin call hph => exact h.begin hph
  | see i call v hi hph hv =>
    exact h.setPhase hi (fun c hc => by cases hc) (fun c wire hw => by cases hw)
      (fun c hr => by cases hr; exact hv) (fun he => by cases he)
  | giveUp i call hi hph =>
    refine h.setPhase hi (fun c hc => by cases hc) (fun c wire hw => by cases hw)
      (fun c hr => by cases hr) fun _ => ?_
    exact Nat.le_antisymm (h.ctr _) (h.read i call u64Max hi hph)
  | take i call c hi hph hne hc => exact h.take hi hne hc
  | returns i call c hi hph =>
    refine h.setPhase hi (fun c' hc => ?_) (fun c' wire hw => ?_) (fun c hr => by cases hr)
      (fun he => by cases he)
    · rw [hph]; exact hc
    · cases hw
      exact Aead.take_packet _ _ _ _
  | fail i call c hi hph =>
    exact h.setPhase hi (fun c hc => by cases hc) (fun c wire hw => by cases hw)
      (fun c hr => by cases hr) (fun he => by cases he)

/-! ## 4. Packets, and the end of the counter -/

theorem nonceBytes_injective {c c' : Nat} (hc : c ≤ u64Max) (hc' : c' ≤ u64Max)
    (h : nonceBytes c = nonceBytes c') : c = c' := by
  have hbe := List.append_cancel_left h
  have hlt : ∀ n, n ≤ u64Max → n < 256 ^ 8 := fun n hn => by
    simp only [u64Max] at hn
    omega
  rw [← fromBe_toBe (hlt c hc), ← fromBe_toBe (hlt c' hc'), hbe]

/-- The call has no nonce and has not returned, or it has returned that there is none. -/
def SealPhase.withoutNonce : SealPhase → Bool
  | .loading => true
  | .read _ => true
  | .exhausted => true
  | _ => false

namespace SessionCrypto

/-- **The end of a counter.**  The counter of the direction stands at its last value, and no call of
that direction has a nonce that had none among `calls`, or was not yet there. -/
structure Ended (d : Direction) (calls : List SealCall) (s : SessionCrypto) : Prop where
  ctr : (s.half d).ctr = u64Max
  calls : ∀ (i : Nat) (call : SealCall), s.calls[i]? = some call → call.direction = d →
    (∀ old, calls[i]? = some old → old.phase.withoutNonce = true) → call.phase.withoutNonce = true

/-- One step: the exchange of a call cannot succeed any more, since it would have to have seen the
last value, and a call that has seen that gives up. -/
theorem Ended.step {d : Direction} {calls : List SealCall} {s' : SessionCrypto} {a : SealAction}
    (h : SessionCrypto.Ended d calls s) (hs : s.step a = some s') :
    SessionCrypto.Ended d calls s' := by
  have hset : ∀ (i : Nat) (call : SealCall) (phase : SealPhase), s.calls[i]? = some call →
      (call.phase.withoutNonce = true → phase.withoutNonce = true) →
      SessionCrypto.Ended d calls (s.setPhase i phase) := by
    intro i call phase hi hph
    refine ⟨by rw [half_setPhase]; exact h.ctr, fun j x hx hd hold => ?_⟩
    rcases calls_setPhase hi hx with ⟨rfl, rfl⟩ | ⟨-, hx⟩
    · exact hph (h.calls j call hi hd hold)
    · exact h.calls j x hx hd hold
  cases stepTo_of_step hs with
  | begin call hph =>
    refine ⟨?_, fun j x hx hd hold => ?_⟩
    · have hhalf : half { s with calls := s.calls ++ [call] } d = s.half d := by
        cases d <;> rfl
      rw [hhalf]
      exact h.ctr
    · rcases Nat.lt_or_ge j s.calls.length with hlt | hge
      · rw [List.getElem?_append_left hlt] at hx
        exact h.calls j x hx hd hold
      · rw [List.getElem?_append_right hge] at hx
        rw [List.mem_singleton.mp (List.mem_of_getElem? hx), hph]
        rfl
  | see i call v hi hph hv => exact hset i call _ hi fun _ => rfl
  | giveUp i call hi hph => exact hset i call _ hi fun _ => rfl
  | take i call c hi hph hne hc =>
    have hd : call.direction ≠ d := by
      rintro rfl
      exact hne (hc.symm.trans h.ctr)
    have hi' : (s.setCtr call.direction (c + 1)).calls[i]? = some call := by
      rw [calls_setCtr]; exact hi
    refine ⟨?_, fun j x hx hdx hold => ?_⟩
    · rw [half_setPhase, half_setCtr, if_neg (Ne.symm hd)]
      exact h.ctr
    · rcases calls_setPhase hi' hx with ⟨rfl, rfl⟩ | ⟨-, hx⟩
      · exact absurd hdx hd
      · rw [calls_setCtr] at hx
        exact h.calls j x hx hdx hold
  | returns i call c hi hph => exact hset i call _ hi fun hc => by rw [hph] at hc; cases hc
  | fail i call c hi hph => exact hset i call _ hi fun hc => by rw [hph] at hc; cases hc

theorem getElem?_setPhase_self (hi : s.calls[i]? = some call) (phase : SealPhase) :
    (s.setPhase i phase).calls[i]? = some { call with phase := phase } := by
  rw [SessionCrypto.getElem?_setPhase, if_pos rfl, hi]
  rfl

/-- A call that has seen the last value gives up in its next round. -/
theorem step_update_max (hi : s.calls[i]? = some call) (hph : call.phase = .read u64Max) :
    s.step (.update i none) = some (s.setPhase i .exhausted) := by
  simp [step, hi, hph, round]

/-- From the end of the counter every call without a nonce can return, and returns the error. -/
theorem Ended.returns {d : Direction} {calls : List SealCall} (h : SessionCrypto.Ended d calls s)
    (hi : s.calls[i]? = some call) (hd : call.direction = d)
    (hph : call.phase.withoutNonce = true) :
    ∃ as s', run SessionCrypto.step s as = some s' ∧
      s'.calls[i]? = some { call with phase := .exhausted } := by
  have hctr : (s.half call.direction).ctr = u64Max := by rw [hd]; exact h.ctr
  have hfrom : ∀ s1 : SessionCrypto, s1.calls[i]? = some { call with phase := .read u64Max } →
      ∃ s', run SessionCrypto.step s1 [.update i none] = some s' ∧
        s'.calls[i]? = some { call with phase := .exhausted } := fun s1 h1 =>
    ⟨s1.setPhase i .exhausted, by simp [step_update_max h1 rfl],
      SessionCrypto.getElem?_setPhase_self h1 .exhausted⟩
  have hread := SessionCrypto.getElem?_setPhase_self hi (.read u64Max)
  obtain ⟨s', hrun, hs'⟩ := hfrom _ hread
  cases hcase : call.phase with
  | loading =>
    have h1 : s.step (.load i u64Max) = some (s.setPhase i (.read u64Max)) := by
      simp [SessionCrypto.step, hi, hcase, hctr]
    exact ⟨[.load i u64Max, .update i none], s', by rw [run_cons, h1]; exact hrun, hs'⟩
  | read c =>
    by_cases hc : c = u64Max
    · subst hc
      have hsame : s.calls[i]? = some { call with phase := .read u64Max } := by
        rw [hi, ← hcase]
      obtain ⟨s'', hrun', hs''⟩ := hfrom s hsame
      exact ⟨_, s'', hrun', hs''⟩
    · have h1 : s.step (.update i (some u64Max)) = some (s.setPhase i (.read u64Max)) := by
        simp [SessionCrypto.step, hi, hcase, round, hc, hctr]
      exact ⟨[.update i (some u64Max), .update i none], s', by rw [run_cons, h1]; exact hrun, hs'⟩
  | exhausted => exact ⟨[], s, rfl, by rw [hi, ← hcase]⟩
  | holding | sealed | failed => rw [hcase] at hph; cases hph

end SessionCrypto

/-- **No nonce is used twice, and the end of the counter is final.**  In every state that concurrent
calls can reach, two packets of one direction that start with the same 12 bytes are the same call's.
Once a call has found no nonce, then in every later state the counter of its direction is the same,
no call of that direction that had no nonce has got one, and each of them can return, with the
error. -/
theorem nonce_unique {s₀ s : SessionCrypto} (h₀ : s₀.Fresh)
    (h : Reachable SessionCrypto.step s₀ s) :
    (∀ (i j : Nat) (x y : SealCall) (c c' : Nat) (wire wire' : Bytes), s.calls[i]? = some x →
      s.calls[j]? = some y → x.direction = y.direction → x.phase = .sealed c wire →
      y.phase = .sealed c' wire' → wire.take 12 = wire'.take 12 → i = j) ∧
    (∀ (k : Nat) (ended : SealCall), s.calls[k]? = some ended → ended.phase = .exhausted →
      ∀ s', Reachable SessionCrypto.step s s' →
        (s'.half ended.direction).ctr = (s.half ended.direction).ctr ∧
        ∀ (i : Nat) (call : SealCall), s'.calls[i]? = some call →
          call.direction = ended.direction →
          (∀ old, s.calls[i]? = some old → old.phase.withoutNonce = true) →
          call.phase.withoutNonce = true ∧
          ∃ as t, run SessionCrypto.step s' as = some t ∧
            t.calls[i]? = some { call with phase := .exhausted }) := by
  have hI : s.Inv := Reachable.invariant h (SessionCrypto.Inv.fresh h₀) fun _ _ _ hI hs =>
    hI.step hs
  refine ⟨fun i j x y c c' wire wire' hx hy hd hwx hwy heq => ?_, fun k ended hk he s' hs' => ?_⟩
  · rw [hI.packet i x c wire hx hwx, hI.packet j y c' wire' hy hwy] at heq
    have hcx : x.phase.counter = some c := by rw [hwx]; rfl
    have hcy : y.phase.counter = some c' := by rw [hwy]; rfl
    have hle : c ≤ u64Max := le_of_lt (lt_of_lt_of_le (hI.used i x c hx hcx) (hI.ctr _))
    have hle' : c' ≤ u64Max := le_of_lt (lt_of_lt_of_le (hI.used j y c' hy hcy) (hI.ctr _))
    have hcc := nonceBytes_injective hle hle' heq
    subst hcc
    exact hI.distinct i j x y c hx hy hd hcx hcy
  · have hmax := hI.exhausted k ended hk he
    have hstart : SessionCrypto.Ended ended.direction s.calls s :=
      ⟨hmax, fun i call hi _ hold => hold call hi⟩
    have hend : SessionCrypto.Ended ended.direction s.calls s' :=
      Reachable.invariant hs' hstart fun _ _ _ hI hs => hI.step hs
    refine ⟨hend.ctr.trans hmax.symm, fun i call hi hd hold => ?_⟩
    have hph := hend.calls i call hi hd hold
    exact ⟨hph, hend.returns hi hd hph⟩

/-- A session one packet before the end of its counter. -/
def lastNonce : SessionCrypto :=
  ⟨⟨Aead.plain, u64Max - 1⟩, ⟨Aead.plain, 0⟩, 0, []⟩

/-- Two calls race for the last nonce of a direction: both have seen the same value, the first takes
it and seals, the exchange of the second fails, and it finds no nonce. -/
def lastNonceRace : List SealAction :=
  [.begin (.sealClientToServer [1]) ⟨0, fun _ => 0⟩, .begin (.sealFrame true [2]) ⟨0, fun _ => 0⟩,
    .load 0 (u64Max - 1), .load 1 (u64Max - 1), .update 0 none, .encrypt 0 true,
    .update 1 (some u64Max), .update 1 none]

theorem nonce_unique_last :
    lastNonce.Fresh ∧
    ∃ s, run SessionCrypto.step lastNonce lastNonceRace = some s ∧
      s.calls.map (fun call => call.phase.counter) = [some (u64Max - 1), none] ∧
      ∀ s', Reachable SessionCrypto.step s s' → (s'.half .c2s).ctr = u64Max := by
  have hfresh : lastNonce.Fresh := ⟨rfl, fun d => by cases d <;> decide⟩
  obtain ⟨s, hs⟩ : ∃ s, run SessionCrypto.step lastNonce lastNonceRace = some s := ⟨_, rfl⟩
  have hcalls : s.calls.map (fun call => call.phase.counter) = [some (u64Max - 1), none] := by
    cases hs
    rfl
  have hlast : s.calls[1]? = some ⟨.c2s, [], [2], .exhausted⟩ := by
    cases hs
    rfl
  have hctr : (s.half .c2s).ctr = u64Max := by
    cases hs
    rfl
  refine ⟨hfresh, s, hs, hcalls, fun s' hs' => ?_⟩
  have hend := (nonce_unique hfresh (Reachable.of_run hs)).2 1 _ hlast rfl s' hs'
  exact hend.1.trans hctr

/-! ## 5. A call that nobody overtakes -/

/-- A call on its own: it sees the present value, its exchange succeeds, and it encrypts. -/
def SessionCrypto.alone (s : SessionCrypto) (entry : SealEntry) (coins : DecoyCoins) :
    List SealAction :=
  [.begin entry coins, .load 0 (s.half entry.direction).ctr, .update 0 none, .encrypt 0 true]

/-- **A call that nobody overtakes is `seal_with`** of the half of its direction. -/
theorem SessionCrypto.run_alone {entry : SealEntry} {coins : DecoyCoins} {h' : ChaHalf}
    {wire : Bytes} (hcalls : s.calls = [])
    (hs : (s.half entry.direction).seal s.decoyMax coins entry.inner = .ok (wire, h')) :
    ∃ s', run SessionCrypto.step s (s.alone entry coins) = some s' ∧
      (∀ d, s'.half d = if d = entry.direction then h' else s.half d) ∧
      s'.calls.map SealCall.phase = [.sealed (s.half entry.direction).ctr wire] := by
  have hne : (s.half entry.direction).ctr ≠ u64Max := by
    intro hmax
    rw [ChaHalf.seal, ChaHalf.nextNonce, if_pos hmax] at hs
    cases hs
  rw [ChaHalf.seal, ChaHalf.nextNonce, if_neg hne] at hs
  cases hs
  refine ⟨{ s.setCtr entry.direction ((s.half entry.direction).ctr + 1) with
    calls := [⟨entry.direction, decoyBytes s.decoyMax coins, entry.inner, .sealed _ _⟩] },
    ?_, fun d => ?_, rfl⟩
  · cases hd : entry.direction <;> rw [hd] at hne <;> simp only [SessionCrypto.half] at hne <;>
      simp [SessionCrypto.alone, SessionCrypto.step, SessionCrypto.round, SessionCrypto.setPhase,
        SessionCrypto.half, SessionCrypto.setCtr, hcalls, hne, hd]
  · cases hd : entry.direction <;> cases d <;> rfl

/-- A session as this module has it, before any call. -/
def InPlace.SessionCrypto.abs (c : InPlace.SessionCrypto) : Wire.SessionCrypto :=
  ⟨c.c2s.abs, c.s2c.abs, c.decoyMax, []⟩

/-- **Sealing in place is a call that nobody overtakes.** -/
theorem InPlace.SessionCrypto.run_sealInner {c c' : InPlace.SessionCrypto} {client : Bool}
    {entry : SealEntry} {coins : DecoyCoins} {wire : Bytes}
    (hd : entry.direction = if client then .c2s else .s2c)
    (hs : c.sealInner client coins entry.inner = .ok (wire, c')) :
    ∃ s, run Wire.SessionCrypto.step c.abs (c.abs.alone entry coins) = some s ∧
      (∀ d, s.half d = c'.abs.half d) ∧
      s.calls.map SealCall.phase = [.sealed (c.half client).ctr wire] := by
  have hhalf : c.abs.half entry.direction = (c.half client).abs := by
    rw [hd]
    cases client <;> rfl
  rw [InPlace.SessionCrypto.sealInner, InPlace.ChaHalf.sealInner, InPlace.ChaHalf.sealWith_append,
    ← hhalf] at hs
  obtain ⟨r, hr, heq⟩ := Fallible.map_eq_ok.mp hs
  obtain ⟨⟨wire', h'⟩, hseal, rfl⟩ := Fallible.map_eq_ok.mp hr
  cases heq
  obtain ⟨s, hrun, hhalves, hphase⟩ := Wire.SessionCrypto.run_alone (s := c.abs) rfl hseal
  refine ⟨s, hrun, fun d => ?_, ?_⟩
  · have hsame : h' = { (c.half client).abs with ctr := h'.ctr } := by
      rw [hhalf, Wire.ChaHalf.seal, Wire.ChaHalf.nextNonce] at hseal
      split at hseal <;> cases hseal
      rfl
    rw [hhalves, hd, hsame]
    cases client <;> cases d <;> rfl
  · rw [hphase, hhalf]; rfl
end BibaVpn.Wire
