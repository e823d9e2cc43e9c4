/-
# The control lane of a session, and what a full one does

The control lane takes `WIN`, `RST`, the server's answer to the announcement and pongs.  Nobody
waits for room in it: a sender that finds it full ends the session (`Endpoint::control`).  The
downlink pumps publish credit through it at the speed of their sockets, and only the writer empties
it, at the speed of the WebSocket.  A pump publishes what a record was worth as soon as its queue is
empty, so a stream of one-byte records puts one `WIN` into the lane for each byte.

* §1 is the attempt that fails: `Endpoint.overflows`;
* §2: what one step can do to the lane, to the pumps and to the registered streams
  (`Endpoint.Spares`);
* §3 counts what can still reach the lane (`Endpoint.backlog`).  Only what comes from outside raises
  it: a record of the peer, a ping, and a stream that is opened here;
* §4: as long as less than a lane of it is there whenever more comes, no attempt fails, and the
  traffic of a stream stops neither its pump nor the session (`credit_traffic_harmless`);
* §5: a sender that keeps to its credit and a slow writer do fill the lane
  (`one_stream_ends_session`): credit bounds the bytes that are outstanding, not the records.
-/
import BibaVpn.Lib.Lists
import BibaVpn.Mux.Session

namespace BibaVpn.Mux

open Machine Lists Lts Wire

/-! ## 1. Attempts to queue -/

/-- The reader of a server answers the record through the control lane. -/
def Endpoint.answers (e : Endpoint) (f : Incoming) : Bool :=
  !e.client &&
    if f.flags = flagWin ∧ f.sid = 0 then (parseCapability f.payload 1).isSome
    else !hasFlag f.flags flagOpen && (e.get f.sid).isNone && hasFlag f.flags flagData &&
      decide (f.payload ≠ [])

/-- The step tries to queue a `WIN`, an `RST` or the answer to the announcement. -/
def Endpoint.signals (e : Endpoint) : Action → Bool
  | .task _ (.down .publish) => true
  | .task _ (.down .publishFailed) => true
  | .task _ .reset => true
  | .read .reply => true
  | .read (.receive f) => e.answers f
  | _ => false

def Endpoint.laneFull (e : Endpoint) : Bool := decide (laneCapacity ≤ e.control.length)

/-- The step tries to queue in a full lane. -/
def Endpoint.overflows (e : Endpoint) (a : Action) : Bool := e.signals a && e.running && e.laneFull

section Step

variable {e e' : Endpoint} {a : Action} {g : Gen} {i : Nat} {b : DownAction} {f f' : Flow}

namespace Endpoint

theorem controlRoom_eq (e : Endpoint) : e.controlRoom = (e.running && !e.laneFull) := by
  unfold controlRoom laneFull
  congr 1
  rw [← decide_not]
  exact decide_eq_decide.mpr Nat.not_le.symm

/-! ## 2. One step -/

/-- The session goes on as before. -/
structure Calm (e e' : Endpoint) : Prop where
  closed : e'.closed = e.closed
  running : e'.running = e.running
  exhausted : e'.exhausted = e.exhausted

theorem Calm.settle (e : Endpoint) (n : Negotiation) : e.Calm (e.settle n) := by
  unfold Endpoint.settle
  split <;> exact ⟨rfl, rfl, rfl⟩

theorem Calm.finish (e : Endpoint) (sid epoch : Nat) (preserve : Bool) :
    e.Calm (e.finish sid epoch preserve).1 := by
  rcases e.finish_cases sid epoch preserve with ⟨heq, -⟩ | ⟨i, -, -, heq⟩ <;> rw [heq] <;>
    exact ⟨rfl, rfl, rfl⟩

theorem Calm.setTask (h : e.Calm e') (i : Nat) (task : Task) : e.Calm (e'.setTask i task) :=
  ⟨h.closed, h.running, h.exhausted⟩

theorem Calm.setReader (h : e.Calm e') (p : ReaderPhase) : e.Calm { e' with reader := p } :=
  ⟨h.closed, h.running, h.exhausted⟩

theorem exhausted_shutdown (e : Endpoint) : e.shutdown.exhausted = e.exhausted :=
  (Calm.settle _ _).exhausted

/-- The reader's attempt: it queues, or the session ends. -/
theorem readerControl_cases (e : Endpoint) (r : Rec) :
    (e.controlRoom = true ∧
      e.readerControl r = { e with control := e.control ++ [.record r], reader := .idle }) ∨
    (e.controlRoom = false ∧
      e.readerControl r = { e.noteExhausted with reader := .idle }.stop) := by
  unfold readerControl tryControl
  cases e.controlRoom with
  | true => exact Or.inl ⟨rfl, rfl⟩
  | false => exact Or.inr ⟨rfl, rfl⟩

/-- A record that is not answered leaves the lane alone. -/
theorem receive_cases (e : Endpoint) (f : Incoming) :
    (e.answers f = true ∧ ∃ e₁ r, e.Calm e₁ ∧ e₁.control = e.control ∧
      e.receive f = e₁.readerControl r) ∨
    (e.answers f = false ∧ e.Calm (e.receive f)) := by
  cases hc : e.client with
  | true =>
    refine Or.inr ⟨by simp [answers, hc], ?_⟩
    simp only [receive, receiveCapability, hc]
    simp only [if_true, Bool.not_true, Bool.false_eq_true, and_false, if_false]
    split
    · split
      · exact Calm.settle _ _
      · exact ⟨rfl, rfl, rfl⟩
    · split <;> exact ⟨rfl, rfl, rfl⟩
  | false =>
    simp only [receive, receiveCapability, answers, hc, Bool.not_false,
      Bool.true_and, and_true, Bool.false_eq_true, if_false]
    split
    · split
      · rename_i window hw
        refine Or.inl ⟨by simp [hw], _, _, ?_, ?_, rfl⟩
        · exact ⟨rfl, rfl, rfl⟩
        · rfl
      · rename_i hw
        exact Or.inr ⟨by simp [hw], rfl, rfl, rfl⟩
    · split
      · rename_i ho
        refine Or.inr ⟨by simp [ho], ?_⟩
        rcases e.receiveOpen_cases f with ⟨peer, e', ha, heq, -, -⟩ | heq
        · rw [heq]
          obtain ⟨-, -, -, rfl⟩ := allocate_ok ha
          exact ⟨rfl, rfl, rfl⟩
        · rw [heq]
          exact ⟨rfl, rfl, rfl⟩
      · rename_i ho
        split
        · rename_i i hi
          exact Or.inr ⟨by simp [hi], rfl, rfl, rfl⟩
        · rename_i hi
          split
          · rename_i hd
            exact Or.inl ⟨by simp [hi, ho, hd], e, _, ⟨rfl, rfl, rfl⟩, rfl, rfl⟩
          · rename_i hd
            exact Or.inr ⟨by simpa [hi, ho] using hd, rfl, rfl, rfl⟩

theorem resetTask_cases (e : Endpoint) (i : Nat) (g : Gen) :
    (e.controlRoom = true ∧ e.resetTask i g =
      { e with control := e.control ++ [Output.record ⟨g.sid, .rst, some i⟩] }.setTask i .ended) ∨
    (e.controlRoom = false ∧ e.resetTask i g = e.noteExhausted.shutdown.setTask i .ended) := by
  unfold resetTask tryControl
  cases e.controlRoom with
  | true => exact Or.inl ⟨rfl, rfl⟩
  | false => exact Or.inr ⟨rfl, rfl⟩

/-- The session ends for a reason that is not a `WIN` or `RST`: `run` returns, or a pong finds the
lane full. -/
inductive Leaves (e : Endpoint) : Action → Prop
  | stop : e.Leaves .stop
  | ping (p : Bytes) (h : e.laneFull = true) : e.Leaves (.read (.ping p))

/-- **What a step does to the session.**  Nothing, and an attempt it makes has queued its record; a
downlink fails because it cannot publish; an attempt that fails shuts the session down; or the
session ends for a reason of its own. -/
inductive Effect (e : Endpoint) (a : Action) (e' : Endpoint) : Prop
  | calm (h : e.Calm e') (hroom : e.signals a = true → e.controlRoom = true)
  | unpublished (i : Nat) (ha : a = .task i (.down .publishFailed)) (hroom : e.controlRoom = false)
    (hc : e'.closed = e.closed) (hr : e'.running = e.running)
    (hx : e'.exhausted = (e.exhausted || e.running))
  | saturated (hs : e.signals a = true) (hroom : e.controlRoom = false) (hc : e'.closed = true)
    (hx : e'.exhausted = (e.exhausted || e.running))
  | left (h : e.Leaves a) (heq : e' = e.stop)

/-- A step that sends no control record. -/
theorem Effect.silent (h : e.Calm e') (hs : e.signals a = false) :
    e.Effect a e' := .calm h fun hs' => absurd (hs.symm.trans hs') Bool.false_ne_true

theorem effect_task {b : TaskAction} (hs : e.taskStep i g b = some e') :
    e.Effect (.task i b) e' := by
  revert hs
  fun_cases taskStep e i g b <;> intro hs <;> try cases hs
  case case7 | case11 | case19 | case21 =>
    exact .silent ((Calm.finish _ _ _ _).setTask _ _) rfl
  case case15 =>
    obtain ⟨r, -, rfl⟩ := Option.map_eq_some_iff.mp hs
    exact .silent ⟨rfl, rfl, rfl⟩ rfl
  case case17 a hallow =>
    obtain ⟨r, -, rfl⟩ := Option.map_eq_some_iff.mp hs
    by_cases hp : a = .publish
    · subst hp
      exact .calm ⟨rfl, rfl, by simp⟩ fun _ => hallow.2
    · by_cases ha : a = .publishFailed
      · subst ha
        exact .unpublished i rfl (by simpa [allowsDown] using hallow.2) rfl rfl (by simp)
      · refine .calm ⟨rfl, rfl, by simp [ha]⟩ fun h => ?_
        cases a <;> simp [signals] at h hp ha
  case case23 =>
    rcases e.resetTask_cases i g with ⟨hroom, heq⟩ | ⟨hroom, heq⟩
    · rw [heq]
      exact .calm ⟨rfl, rfl, rfl⟩ fun _ => hroom
    · rw [heq]
      exact .saturated rfl hroom (closed_shutdown _) (exhausted_shutdown _)
  all_goals exact .silent ⟨rfl, rfl, rfl⟩ rfl

theorem laneFull_of_no_room (hroom : e.controlRoom = false) (hr : e.running = true) :
    e.laneFull = true := by
  rw [controlRoom_eq, hr] at hroom
  simpa using hroom

/-- The reader's attempt, from a state that differs only in what the lane does not read. -/
theorem effect_readerControl {e₁ : Endpoint} (h : e.Calm e₁) (hc : e₁.control = e.control)
    (hs : e.signals a = true) (r : Rec) : e.Effect a (e₁.readerControl r) := by
  have hroom : e₁.controlRoom = e.controlRoom := by
    simp only [controlRoom, h.running, hc]
  rcases e₁.readerControl_cases r with ⟨hr, heq⟩ | ⟨hr, heq⟩
  · rw [heq]
    exact .calm ⟨h.closed, h.running, h.exhausted⟩ fun _ => hroom ▸ hr
  · rw [heq]
    refine .saturated hs (hroom ▸ hr) (closed_shutdown _) ?_
    simp only [stop, exhausted_shutdown, noteExhausted, h.running,
      h.exhausted]

theorem effect_read {a : ReaderAction} (hr : e.running = true) (hs : e.readerStep a = some e') :
    e.Effect (.read a) e' := by
  cases a with
  | receive f =>
    obtain ⟨-, ⟨⟩⟩ := Option.ite_none_right_eq_some.mp hs
    rcases e.receive_cases f with ⟨hans, e₁, r, hcalm, hc, heq⟩ | ⟨hans, hcalm⟩
    · rw [heq]
      exact effect_readerControl (a := .read (.receive f)) hcalm hc hans r
    · exact .calm hcalm fun h => absurd (hans.symm.trans h) Bool.false_ne_true
  | apply =>
    cases readerStep_spec hs with
    | aborted f i g hg => exact .calm ((Calm.finish _ _ _ _).setReader _) nofun
    | applied f i g side hg => exact .calm ⟨rfl, rfl, rfl⟩ nofun
    | refused f i g x hg => exact .calm ⟨rfl, rfl, rfl⟩ nofun
  | remove =>
    cases readerStep_spec hs with
    | removed f i g hg => exact .calm ((Calm.finish _ _ _ _).setReader _) nofun
  | lookup =>
    cases readerStep_spec hs with
    | looked sid hrd => exact .calm ⟨rfl, rfl, rfl⟩ nofun
  | reply =>
    cases readerStep_spec hs with
    | replied sid gen hrd =>
      exact effect_readerControl ⟨rfl, rfl, rfl⟩ rfl rfl _
  | ping payload =>
    obtain ⟨-, hs⟩ := Option.ite_none_right_eq_some.mp hs
    unfold tryControl at hs
    cases hroom : e.controlRoom with
    | true =>
      rw [hroom] at hs
      cases hs
      exact .calm ⟨rfl, rfl, rfl⟩ nofun
    | false =>
      rw [hroom] at hs
      cases hs
      exact .left (.ping payload (laneFull_of_no_room hroom hr)) rfl

theorem step_effect (hs : e.step a = some e') : e.Effect a e' := by
  cases step_spec hs with
  | fetched | unprepared => exact .silent ⟨rfl, rfl, rfl⟩ rfl
  | prepared k p target e' hk ht ha =>
    obtain ⟨-, -, -, rfl⟩ := allocate_ok ha
    exact .silent ⟨rfl, rfl, rfl⟩ rfl
  | task i g b e' hg hst => exact effect_task hst
  | read b e' hr hst =>
    simp only [step, hr, if_true] at hs
    exact effect_read hr hs
  | write b e' hr hst =>
    rw [writerStep_eq hst]
    exact .silent ⟨rfl, rfl, rfl⟩ rfl
  | timeout hc => exact .silent (Calm.settle _ _) rfl
  | stop hr => exact .left .stop rfl

theorem overflows_of_room (h : e.signals a = true → e.controlRoom = true) :
    e.overflows a = false := by
  rw [controlRoom_eq] at h
  unfold overflows
  cases hs : e.signals a with
  | false => rfl
  | true => simp_all

theorem overflows_of_no_room (hs : e.signals a = true) (hroom : e.controlRoom = false) :
    e.overflows a = e.running := by
  rw [controlRoom_eq] at hroom
  unfold overflows
  cases hr : e.running <;> simp_all

/-- **A step marks the lane as exhausted exactly when it overflows.** -/
theorem exhausted_step (hs : e.step a = some e') :
    e'.exhausted = (e.exhausted || e.overflows a) := by
  cases step_effect hs with
  | calm h hroom => rw [overflows_of_room hroom, Bool.or_false, h.exhausted]
  | unpublished i ha hroom hc hr hx =>
    subst ha
    rw [hx, overflows_of_no_room rfl hroom]
  | saturated hsig hroom hc hx => rw [hx, overflows_of_no_room hsig hroom]
  | left h heq =>
    have hsig : e.overflows a = false := by cases h <;> rfl
    rw [heq, hsig, Bool.or_false]
    exact exhausted_shutdown e

/-- `run` has returned only from a session that is closed. -/
def Halted (e : Endpoint) : Prop := e.running = false → e.closed = true

theorem Halted.step (h : e.Halted) (hs : e.step a = some e') : e'.Halted := by
  intro hr
  cases step_effect hs with
  | calm hcalm hroom => exact hcalm.closed.trans (h (hcalm.running.symm.trans hr))
  | unpublished i ha hroom hc hr' hx => exact hc.trans (h (hr'.symm.trans hr))
  | saturated hsig hroom hc hx => exact hc
  | left hl heq =>
    rw [heq]
    exact closed_shutdown e

/-- **A session is closed by what ends `run`, or by an overflow.** -/
theorem Halted.closed_step (h : e.Halted) (hs : e.step a = some e') (hopen : e.closed = false)
    (hclosed : e'.closed = true) : e.Leaves a ∨ e.overflows a = true := by
  have hr : e.running = true := by
    cases hr : e.running with
    | true => rfl
    | false => exact absurd (hopen.symm.trans (h hr)) Bool.false_ne_true
  cases step_effect hs with
  | calm hcalm hroom =>
    exact absurd (hopen.symm.trans (hcalm.closed.symm.trans hclosed)) Bool.false_ne_true
  | unpublished i ha hroom hc hr' hx =>
    exact absurd (hopen.symm.trans (hc.symm.trans hclosed)) Bool.false_ne_true
  | saturated hsig hroom hc hx =>
    exact Or.inr ((overflows_of_no_room hsig hroom).trans hr)
  | left hl heq => exact Or.inl hl

end Endpoint

/-- **A downlink fails with its socket, or because a `WIN` is refused**: the overflow test of
`publish_credit` always passes. -/
theorem Downlink.Inv.failed_step {d d' : Downlink} {o : Option Msg} (hI : d.Inv f)
    (hs : d.step f b = some (d', f', o)) (hfail : d'.phase = .failed) :
    b = .writeFailed ∨ b = .shutdownFailed ∨ b = .publishFailed := by
  revert hs
  fun_cases Downlink.step d f b <;> intro hs <;> cases hs
  case case11 => exact Or.inl rfl
  case case20 herr => rw [hI.raiseCredit_eq] at herr; cases herr
  case case24 => exact Or.inr (Or.inr rfl)
  case case28 => exact Or.inr (Or.inl rfl)
  all_goals cases hfail

theorem Endpoint.Wf.pump_failed {g' : Gen} (hw : e.Wf) (hs : e.step (.task i (.down b)) = some e')
    (hg' : e'.gens[i]? = some g') (hfail : g'.side.down.phase = .failed) :
    b = .writeFailed ∨ b = .shutdownFailed ∨ (b = .publishFailed ∧ e.controlRoom = false) := by
  simp only [Endpoint.step] at hs
  split at hs
  · cases hs
  · rename_i g hg
    obtain ⟨hallow, hs⟩ := Option.ite_none_right_eq_some.mp hs
    obtain ⟨⟨side, o⟩, hside, rfl⟩ := Option.map_eq_some_iff.mp hs
    obtain ⟨⟨d', f', o'⟩, hd, hr⟩ := Option.map_eq_some_iff.mp hside
    cases hr
    simp only [Endpoint.setSide, getElem?_modify_self hg, Option.some.injEq] at hg'
    subst hg'
    rcases (hw.sides i g hg).down.failed_step hd hfail with h | h | h
    · exact Or.inl h
    · exact Or.inr (Or.inl h)
    · subst h
      exact Or.inr (Or.inr ⟨rfl, by simpa [Endpoint.allowsDown] using hallow.2⟩)

/-- **A stream stays registered** until its own task or a record for it ends it, or the session is
closed. -/
theorem Endpoint.Wf.registered_step {j : Nat} (hw : e.Wf) (hs : e.step a = some e')
    (hj : e.registered j = true) : e'.registered j = true ∨ e.Departs j a ∨ e'.closed = true := by
  obtain ⟨s, hmem, hsj⟩ := List.any_eq_true.mp hj
  obtain ⟨g, hg, -⟩ := hw.streams s hmem
  rw [of_decide_eq_true hsj] at hg
  cases hw.fate_step hs hg with
  | left _ hr => exact .inl (hr.trans hj)
  | own b _ _ ha => exact .inr (.inl (ha ▸ .own b))
  | applied _ _ _ _ _ _ hr => exact .inl (hr.trans hj)
  | removed _ _ why => exact .inr why

/-- **One step spares the session and its streams**, unless it overflows the lane or has a reason
that is not credit traffic. -/
structure Endpoint.Spares (e : Endpoint) (a : Action) (e' : Endpoint) : Prop where
  exhausted : e'.exhausted = (e.exhausted || e.overflows a)
  closed : e.closed = false → e'.closed = true → e.Leaves a ∨ e.overflows a = true
  /-- a downlink pump fails with its socket, or on a lane that is full or gone -/
  pump : ∀ i b g', a = .task i (.down b) → e'.gens[i]? = some g' → g'.side.down.phase = .failed →
    b = .writeFailed ∨ b = .shutdownFailed ∨
      (b = .publishFailed ∧ (e.overflows a = true ∨ e.closed = true))
  streams : ∀ j, e.registered j = true → e'.registered j = true ∨ e.Departs j a ∨ e'.closed = true

theorem Endpoint.Wf.spares (hw : e.Wf) (hh : e.Halted) (hs : e.step a = some e') :
    e.Spares a e' where
  exhausted := Endpoint.exhausted_step hs
  closed := hh.closed_step hs
  pump i b g' ha hg' hfail := by
    subst ha
    rcases hw.pump_failed hs hg' hfail with h | h | ⟨rfl, hroom⟩
    · exact Or.inl h
    · exact Or.inr (Or.inl h)
    · refine Or.inr (Or.inr ⟨rfl, ?_⟩)
      cases hr : e.running with
      | true => exact Or.inl ((Endpoint.overflows_of_no_room rfl hroom).trans hr)
      | false => exact Or.inr (hh hr)
  streams j hj := hw.registered_step hs hj

/-! ## 3. What is outstanding -/

/-- The `WIN` records that a downlink can still publish without a further record: one for what it
has in hand, and one for what is pending. -/
def Downlink.owes (d : Downlink) : Nat :=
  match d.phase with
  | .writing _ _ => 1 + min d.pending 1
  | .publishing _ => 1 + min d.pending 1
  | .checking => 1
  | .raising => 1
  | _ => min d.pending 1

/-- The control records that a generation can still queue: its reset, and a `WIN` for each record
that is waiting. -/
def Gen.owes (g : Gen) : Nat :=
  if g.task = .ended then 0 else 1 + g.side.flow.queue.length + g.side.down.owes

/-- The reader queues at most one reset for the record it has. -/
def ReaderPhase.owes : ReaderPhase → Nat
  | .idle => 0
  | _ => 1

/-- **What is in the control lane, or can still get there.** -/
def Endpoint.backlog (e : Endpoint) : Nat :=
  e.control.length + (e.gens.map Gen.owes).sum + e.reader.owes

/-- Something comes in from outside: a record, a ping, or a stream of our own. -/
def Action.arrives : Action → Bool
  | .openPrepare _ => true
  | .read (.receive _) => true
  | .read (.ping _) => true
  | _ => false

theorem Gen.owes_cancel (preserve : Bool) (g : Gen) : (g.cancel preserve).owes ≤ g.owes := by
  unfold Gen.owes
  have hq : (g.cancel preserve).side.flow.queue = [] := rfl
  have hd : (g.cancel preserve).side.down = g.side.down := rfl
  have ht : (g.cancel preserve).task = g.task := rfl
  rw [hq, hd, ht]
  split
  · exact Nat.le_refl 0
  · simp

/-- A record that is accepted is at most one more in the queue. -/
theorem Flow.queue_dispatch {flags : UInt8} {payload : Bytes}
    (h : f.dispatch flags payload = .ok f') : f'.queue.length ≤ f.queue.length + 1 := by
  rcases Flow.dispatch_ok h with ⟨-, rfl | ⟨n, -, -, rfl⟩⟩ | ⟨-, -, -, rfl⟩ | ⟨-, henq⟩
  · exact Nat.le_succ _
  · exact Nat.le_succ _
  · exact Nat.le_succ _
  · revert henq
    fun_cases Flow.enqueue f _ _ <;> intro henq <;> cases henq
    · exact Nat.le_of_eq List.length_append
    · exact Nat.le_succ _

theorem Gen.owes_dispatch {side : Side} {flags : UInt8} {payload : Bytes}
    (h : g.side.dispatch flags payload = .ok side) :
    Gen.owes { g with side := side } ≤ g.owes + 1 := by
  unfold Side.dispatch at h
  cases hd : g.side.flow.dispatch flags payload with
  | error x =>
    rw [hd] at h
    cases h
  | ok flow =>
    rw [hd] at h
    cases h
    have hq := Flow.queue_dispatch hd
    simp only [Gen.owes, Downlink.owes]
    by_cases ht : g.task = .ended
    · simp only [if_pos ht]
      omega
    · simp only [if_neg ht]
      omega

/-- A step of the downlink pays for the record it queues. -/
theorem Downlink.owes_step {d d' : Downlink} {o : Option Msg} (hs : d.step f b = some (d', f', o)) :
    f'.queue.length + d'.owes + o.toList.length ≤ f.queue.length + d.owes := by
  revert hs
  fun_cases Downlink.step d f b <;> intro hs <;> cases hs
  case case19 hph hraise =>
    obtain ⟨rfl, -⟩ := Flow.raiseCredit_ok hraise
    simp only [Downlink.owes, hph, Option.toList_none, List.length_nil]
    omega
  all_goals
    simp_all only [Downlink.owes, Downlink.goto, Flow.consumed, Flow.cancel, List.length_cons,
      Option.toList_none, Option.toList_some, List.length_nil]
    omega

/-- Another task, unless it had ended. -/
theorem Gen.owes_setTask (h : g.task ≠ .ended) (task : Task) :
    Gen.owes { g with task := task } ≤ g.owes := by
  unfold Gen.owes
  rw [if_neg h]
  split
  · exact Nat.zero_le _
  · exact Nat.le_refl _

namespace Endpoint

theorem backlog_finish (e : Endpoint) (sid epoch : Nat) (preserve : Bool) :
    (e.finish sid epoch preserve).1.backlog ≤ e.backlog := by
  rcases e.finish_cases sid epoch preserve with ⟨heq, -⟩ | ⟨i, -, -, heq⟩
  · rw [heq]
  · rw [heq]
    simp only [backlog]
    cases hg : e.gens[i]? with
    | none =>
      rw [List.modify_eq_self (List.getElem?_eq_none_iff.mp hg)]
    | some g =>
      have hsum := sum_map_modify Gen.owes (Gen.cancel preserve) hg
      have hle := g.owes_cancel preserve
      omega

theorem backlog_settle (e : Endpoint) (n : Negotiation) : (e.settle n).backlog = e.backlog := by
  unfold settle
  split <;> rfl

theorem backlog_shutdown (e : Endpoint) : e.shutdown.backlog ≤ e.backlog := by
  have hsum : ((e.gens.mapIdx fun i g => if e.registered i then Gen.cancel false g else g).map
      Gen.owes).sum ≤ (e.gens.map Gen.owes).sum := by
    refine sum_map_mapIdx_le fun i g => ?_
    split
    · exact g.owes_cancel false
    · exact Nat.le_refl _
  unfold shutdown
  rw [backlog_settle]
  simp only [backlog]
  omega

/-- A task that has not ended moves on. -/
theorem backlog_setTask (hg : e.gens[i]? = some g) (hne : g.task ≠ .ended) (task : Task) :
    (e.setTask i task).backlog ≤ e.backlog := by
  have hsum := sum_map_modify Gen.owes (fun g => { g with task := task }) hg
  have hle := Gen.owes_setTask hne task
  simp only [backlog, setTask]
  omega

/-- A task that ends leaves room for its reset. -/
theorem backlog_ended (hg : e.gens[i]? = some g) (hne : g.task ≠ .ended) :
    (e.setTask i .ended).backlog + 1 ≤ e.backlog := by
  have hsum := sum_map_modify Gen.owes (fun g => { g with task := .ended }) hg
  simp only [Gen.owes, if_true, if_neg hne] at hsum
  simp only [backlog, setTask]
  omega

/-- **A step of a task queues only what was owed.** -/
theorem Wf.backlog_taskStep {b : TaskAction} (hw : e.Wf) (hg : e.gens[i]? = some g)
    (hs : e.taskStep i g b = some e') : e'.backlog ≤ e.backlog := by
  have hrun := taskStep_running hs
  cases taskStep_spec hs with
  | move task => exact backlog_setTask hg hrun task
  | opened target r => exact backlog_setTask (e := { e with output := _ }) hg hrun _
  | finish preserve task =>
    have hle := e.backlog_finish g.sid g.epoch preserve
    rcases hw.fate_finish hg hg g.sid preserve with ⟨hg₁, -⟩ | ⟨-, -, hg₁⟩
    · exact Nat.le_trans (backlog_setTask hg₁ hrun task) hle
    · exact Nat.le_trans (backlog_setTask hg₁ hrun task) hle
  | up b side o ht hstep =>
    obtain ⟨-, hspec, hdown⟩ := (hw.sides i g hg).stepUp hstep
    have hq : side.flow.queue = g.side.flow.queue := by rw [hspec.frame]
    have hsum := sum_map_modify Gen.owes (fun g => { g with side := side }) hg
    simp only [Gen.owes, hq, hdown] at hsum
    simp only [backlog, Endpoint.setSide]
    omega
  | down b side o exhausted ht hstep =>
    obtain ⟨⟨d, f, o'⟩, hd, heq⟩ := Option.map_eq_some_iff.mp hstep
    cases heq
    have howes := Downlink.owes_step hd
    have hsum := sum_map_modify Gen.owes
      (fun g' => { g' with side := { g.side with down := d, flow := f } }) hg
    simp only [Gen.owes, if_neg hrun] at hsum
    simp only [backlog, Endpoint.setSide, List.length_append, List.length_map]
    omega
  | reset r ht =>
    have hend := backlog_ended hg hrun
    simp only [backlog, Endpoint.setTask, List.length_append, List.length_singleton] at *
    omega
  | shutdown ht =>
    have hle := e.noteExhausted.backlog_shutdown
    rcases fate_shutdown (e := e.noteExhausted) hg with ⟨hg₁, -⟩ | ⟨-, hg₁⟩
    · exact Nat.le_trans (backlog_setTask hg₁ hrun _) hle
    · exact Nat.le_trans (backlog_setTask hg₁ hrun _) hle

/-- What the reader queues is one record more. -/
theorem backlog_readerControl (e : Endpoint) (r : Rec) :
    (e.readerControl r).backlog + e.reader.owes ≤ e.backlog + 1 := by
  rcases e.readerControl_cases r with ⟨-, heq⟩ | ⟨-, heq⟩
  · rw [heq]
    simp only [backlog, ReaderPhase.owes, List.length_append, List.length_singleton]
    omega
  · rw [heq]
    have hle := backlog_shutdown { e.noteExhausted with reader := .idle }
    have hstop : ∀ e₁ : Endpoint, e₁.stop.backlog = e₁.shutdown.backlog := fun _ => rfl
    rw [hstop]
    simp only [backlog, noteExhausted, ReaderPhase.owes] at hle ⊢
    omega

/-- A stream that is allocated may be reset one day. -/
theorem backlog_allocate {sid : Nat} {peer : Option Nat} {pre : Bytes} {task : Task}
    (ha : e.allocate sid peer pre task = .ok e') : e'.backlog ≤ e.backlog + 1 := by
  obtain ⟨-, -, -, rfl⟩ := allocate_ok ha
  have hfresh : (e.fresh sid peer pre task).owes ≤ 1 := by
    unfold Gen.owes
    split
    · exact Nat.zero_le 1
    · exact Nat.le_refl 1
  simp only [backlog, List.map_append, List.map_singleton, List.sum_append,
    List.sum_singleton]
  omega

theorem backlog_setReader (e : Endpoint) (p : ReaderPhase) :
    backlog { e with reader := p } + e.reader.owes = e.backlog + p.owes := by
  simp only [backlog]
  omega

/-- The reader goes on with the record it has, or is done with it. -/
theorem backlog_setReader_le {p : ReaderPhase} (h : p.owes ≤ e.reader.owes) :
    backlog { e with reader := p } ≤ e.backlog := by
  have heq := e.backlog_setReader p
  omega

/-- **A step of the reader** queues what was owed, or takes something that arrives. -/
theorem backlog_readerStep {a : ReaderAction} (hs : e.ReaderStep a e') :
    e'.backlog ≤ e.backlog + (Action.read a).arrives.toNat := by
  cases hs with
  | ignored f => exact Nat.le_succ _
  | settled f window =>
    rw [backlog_settle]
    exact Nat.le_succ _
  | capability f window =>
    exact Nat.le_of_add_right_le
      (backlog_readerControl { e with negotiation := .credit window } _)
  | opened f peer e' _ _ _ ha => exact backlog_allocate ha
  | rejected | got => exact Nat.le_of_add_right_le (Nat.le_of_eq (e.backlog_setReader _))
  | unknown f => exact Nat.le_of_add_right_le (e.backlog_readerControl _)
  | aborted f i g hr =>
    exact Nat.le_trans (backlog_setReader_le (Nat.zero_le _))
      (e.backlog_finish f.sid g.epoch false)
  | applied f i g side hr hg _ hd =>
    have hsum := sum_map_modify Gen.owes (fun g => { g with side := side }) hg
    have howes := Gen.owes_dispatch hd
    have hread : e.reader.owes = 1 := by rw [hr]; rfl
    have hidle : ReaderPhase.idle.owes = 0 := rfl
    simp only [backlog, setSide, Action.arrives, Bool.toNat_false, hread, hidle]
    omega
  | refused f i g x hr =>
    exact backlog_setReader_le (by rw [hr]; exact Nat.le_refl 1)
  | removed f i g hr =>
    refine Nat.le_trans (backlog_setReader_le ?_) (e.backlog_finish f.sid g.epoch false)
    rw [show (e.remove f.sid g.epoch).1.reader = _ from e.reader_finish _ _ _, hr]
    split
    · exact Nat.le_refl 1
    · exact Nat.zero_le 1
  | looked sid hr => exact backlog_setReader_le (by rw [hr]; exact Nat.le_refl 1)
  | replied sid gen hr =>
    have hq := e.backlog_readerControl ⟨sid, .rst, gen⟩
    rw [hr] at hq
    exact Nat.le_of_succ_le_succ hq
  | ponged payload hr =>
    simp only [backlog, List.length_append, List.length_singleton, Action.arrives,
      Bool.toNat_true]
    omega
  | pingFailed payload => exact Nat.le_succ_of_le e.backlog_shutdown

theorem Wf.backlog_step (hw : e.Wf) (hs : e.step a = some e') :
    e'.backlog ≤ e.backlog + a.arrives.toNat := by
  cases step_spec hs with
  | fetched => exact Nat.le_refl _
  | unprepared => exact Nat.le_succ _
  | prepared k p target e' _ _ ha =>
    exact backlog_allocate (e := { e with opens := e.opens.eraseIdx k }) ha
  | task i g b e' hg hst => exact hw.backlog_taskStep hg hst
  | read b e' _ hst => exact backlog_readerStep hst
  | write b e' _ hst =>
    -- the writer only takes from the lane
    have hlen : e'.control.length ≤ e.control.length := by
      cases writerStep_spec hst with
      | tookControl n o rest _ hc => exact hc ▸ Nat.le_succ _
      | _ => exact Nat.le_refl _
    rw [writerStep_eq hst] at hlen ⊢
    simp only [backlog] at hlen ⊢
    omega
  | timeout => exact Nat.le_of_eq (e.backlog_settle _)
  | stop => exact e.backlog_shutdown

/-- What a generation owes is part of the backlog. -/
theorem control_lt_of_owes (hg : e.gens[i]? = some g) (hne : g.task ≠ .ended) :
    e.control.length < e.backlog := by
  have hend := backlog_ended hg hne
  simp only [backlog, setTask] at hend ⊢
  omega

/-- **Who has something to queue finds room**, if no more than a lane is outstanding and less than
that when something arrives. -/
theorem room_of_backlog (hs : e.step a = some e') (hle : e.backlog ≤ laneCapacity)
    (hlt : a.arrives = true → e.backlog < laneCapacity)
    (hsig : e.signals a = true ∨ a.arrives = true) : e.laneFull = false := by
  have hroom : e.control.length < laneCapacity → e.laneFull = false := fun h =>
    decide_eq_false (Nat.not_le.mpr h)
  have hin : e.control.length ≤ e.backlog := by
    unfold backlog
    omega
  rcases Bool.eq_false_or_eq_true a.arrives with harr | harr
  · exact hroom (Nat.lt_of_le_of_lt hin (hlt harr))
  -- what signals and does not arrive is the step of a task, or the reader's reset
  have hkind : (∃ i b, a = .task i b) ∨ a = .read .reply := by
    have hsig : e.signals a = true := hsig.resolve_right (by simp [harr])
    revert hsig
    fun_cases signals e a <;> intro hsig
    case case4 => exact .inr rfl
    case case5 => cases harr
    case case6 => cases hsig
    all_goals exact .inl ⟨_, _, rfl⟩
  refine hroom (Nat.lt_of_lt_of_le ?_ hle)
  rcases hkind with ⟨i, b, rfl⟩ | rfl
  · cases step_spec hs with
    | task i g b e' hg hst =>
      exact control_lt_of_owes hg (taskStep_running hst)
  · cases step_spec hs with
    | read b e' _ hst =>
      cases hst with
      | replied sid gen hr =>
        have howes : e.reader.owes = 1 := by rw [hr]; rfl
        unfold backlog
        omega

end Endpoint

end Step

/-! ## 4. Runs -/

/-- **The condition on a step**: when something arrives at an end, less than a lane is outstanding
there.  Nothing is asked of the steps of pumps, tasks and writer. -/
def Session.Paced (s : Session) (l : Bool × SessionAction) : Prop :=
  (s.doing l).all (fun a => !a.arrives || decide ((s.mover l.1).backlog < laneCapacity)) = true

instance (s : Session) (l : Bool × SessionAction) : Decidable (s.Paced l) :=
  inferInstanceAs (Decidable (_ = _))

variable {a : Action} {s : Session}

theorem Session.Paced.backlog_lt {l : Bool × SessionAction} (h : s.Paced l)
    (hdo : s.doing l = some a) (harr : a.arrives = true) :
    (s.mover l.1).backlog < laneCapacity := by
  simpa [Session.Paced, hdo, harr] using h

/-- What holds of both ends in every run. -/
structure Endpoint.Sound (e : Endpoint) : Prop where
  wf : e.Wf
  halted : e.Halted

/-- What holds of both ends in a paced run. -/
structure Endpoint.Eased (e : Endpoint) : Prop extends e.Sound where
  exhausted : e.exhausted = false
  backlog : e.backlog ≤ laneCapacity

/-- A paced step finds room. -/
theorem Endpoint.Eased.no_overflow {e e' : Endpoint} (h : e.Eased) (hs : e.step a = some e')
    (hlt : a.arrives = true → e.backlog < laneCapacity) : e.overflows a = false := by
  unfold Endpoint.overflows
  cases hsig : e.signals a with
  | false => rfl
  | true =>
    rw [Endpoint.room_of_backlog hs h.backlog hlt (.inl hsig)]
    simp

theorem Endpoint.Eased.step {e e' : Endpoint} (h : e.Eased) (hs : e.step a = some e')
    (hlt : a.arrives = true → e.backlog < laneCapacity) : e'.Eased where
  wf := h.wf.step hs
  halted := h.halted.step hs
  exhausted := by
    rw [Endpoint.exhausted_step hs, h.exhausted, h.no_overflow hs hlt, Bool.or_false]
  backlog := by
    have hstep := h.wf.backlog_step hs
    have hle := h.backlog
    cases harr : a.arrives with
    | false =>
      rw [harr, Bool.toNat_false] at hstep
      omega
    | true =>
      have := hlt harr
      rw [harr, Bool.toNat_true] at hstep
      omega

namespace Session

/-- What holds of an end and survives both its own steps and the loss of what it had on the wire
holds of both ends. -/
theorem both_step {I : Endpoint → Prop} {s t : Session} {l : Bool × SessionAction}
    (h : ∀ who, I (s.mover who)) (hs : s.step l = some t)
    (hstep : ∀ a, s.doing l = some a → (s.mover l.1).step a = some (t.mover l.1) →
      I (t.mover l.1)) (hpop : ∀ e, I e → I e.pop) (who : Bool) : I (t.mover who) := by
  rcases end_step hs who with ⟨a, rfl, hdo, hst⟩ | heq | heq
  · exact hstep a hdo hst
  · rw [heq]
    exact h _
  · rw [heq]
    exact hpop _ (h _)

theorem sound_reachable {wa wb : MuxWindow} {ca cb : ChunkSize}
    (h : Reachable step (new wa wb ca cb) s) (who : Bool) : (s.mover who).Sound := by
  refine h.invariant (I := fun s => ∀ who, (s.mover who).Sound) ?_ (fun s l t hI hst =>
    both_step hI hst (fun a _ hs => ⟨(hI _).wf.step hs, (hI _).halted.step hs⟩)
      fun e he => ⟨he.wf.pop, he.halted⟩) who
  rintro (_ | _)
  · exact ⟨.new false wb cb, nofun⟩
  · exact ⟨.new true wa ca, nofun⟩

theorem eased_path {wa wb : MuxWindow} {ca cb : ChunkSize}
    (h : Path step Paced (new wa wb ca cb) s) (who : Bool) : (s.mover who).Eased := by
  refine h.invariant (I := fun s => ∀ who, (s.mover who).Eased) ?_ (fun s l t hI hok hst =>
    both_step hI hst (fun a hdo hs => (hI _).step hs (hok.backlog_lt hdo))
      fun e he => ⟨⟨he.wf.pop, he.halted⟩, he.exhausted, he.backlog⟩) who
  rintro (_ | _)
  · exact ⟨⟨.new false wb cb, nofun⟩, rfl, Nat.zero_le _⟩
  · -- the announcement of the client
    have hone : 1 ≤ laneCapacity := by decide
    exact ⟨⟨.new true wa ca, nofun⟩, rfl, hone⟩

end Session

/-- Two streams are opened on credit, and the server has connected both. -/
def openTwo : List (Bool × SessionAction) :=
  openOnCredit ++
    [(true, .act (.openFetch (some [1, 10, 0, 0, 1, 0, 80]) [])), (true, .act (.openPrepare 0)),
      (true, .act (.task 1 .openAcquire)), (true, .act (.task 1 .openEmit)),
      (true, .act (.write .tryRecv)), (true, .act (.write .lookup)), (true, .act (.write .pass)),
      (true, .act (.write .flush)), (false, .deliver), (false, .act (.task 0 .connected)),
      (false, .act (.task 1 .connected))]

/-- The client sends one byte on its first stream. -/
def sendOneByte : List (Bool × SessionAction) :=
  [.task 0 (.up (.readSocket [0])), .task 0 (.up .takeCredit), .task 0 (.up .acquire),
    .task 0 (.up .emit), .write .selectOutput, .write .lookup, .write .pass, .write .flush].map
      fun a => (true, .act a)

/-- The server's socket takes it and the downlink is about to publish; its writer does not move. -/
def takeByte : List (Bool × SessionAction) :=
  (false, .deliver) :: [.read .apply, .task 0 (.down .receive), .task 0 (.down (.write 1)),
    .task 0 (.down .consume), .task 0 (.down .check), .task 0 (.down .raise)].map
      fun a => (false, .act a)

/-- **Credit traffic is harmless as long as the records that are outstanding fit the lane.**  In
every run of two endpoints each step spares the session: an attempt to queue fails only in a lane
with 512 records; a downlink pump fails only with its socket, on such an attempt or in a closed
session; the session is closed only by what ends `run` or by such an attempt; and a stream leaves
the registry only through its own task, a reset, a refused record, or the end of the session.  In a
paced run there is no such attempt at all: none has failed at either end, none fails next, and an
open session is closed only when `run` ends for a reason of its own. -/
theorem credit_traffic_harmless (wa wb : MuxWindow) (ca cb : ChunkSize) :
    (∀ s t l, Reachable Session.step (Session.new wa wb ca cb) s → s.step l = some t →
      ∃ a, s.doing l = some a ∧ (s.mover l.1).Spares a (t.mover l.1)) ∧
    ∀ s t l, Path Session.step Session.Paced (Session.new wa wb ca cb) s → s.Paced l →
      s.step l = some t → (∀ who, (t.mover who).exhausted = false) ∧
        ∃ a, s.doing l = some a ∧ (s.mover l.1).overflows a = false ∧
          ((s.mover l.1).closed = false → (t.mover l.1).closed = true → a = .stop) := by
  refine ⟨fun s t l h hs => ?_, fun s t l h hok hs => ?_⟩
  · obtain ⟨a, hdo, hstep, -⟩ := Session.step_mover hs
    have hsound := Session.sound_reachable h l.1
    exact ⟨a, hdo, hsound.wf.spares hsound.halted hstep⟩
  · obtain ⟨a, hdo, hstep, -⟩ := Session.step_mover hs
    have heased := Session.eased_path h l.1
    have hover := heased.no_overflow hstep (hok.backlog_lt hdo)
    refine ⟨fun who => (Session.eased_path (h.tail hok hs) who).exhausted, a, hdo, hover,
      fun hopen hclosed => ?_⟩
    rcases heased.halted.closed_step hstep hopen hclosed with hleaves | hbad
    · cases hleaves with
      | stop => rfl
      | ping p hfull =>
        have hroom := Endpoint.room_of_backlog hstep heased.backlog (hok.backlog_lt hdo) (.inr rfl)
        rw [hfull] at hroom
        cases hroom
    · rw [hover] at hbad
      cases hbad

/-- The first byte's credit is published into an empty lane. -/
theorem credit_traffic_harmless_first_byte : let start := Session.new oneMiB oneMiB oneKiB oneKiB
    let before := openTwo ++ (sendOneByte ++ takeByte)
    let publish : Bool × SessionAction := (false, .act (.task 0 (.down .publish)))
    ((run Session.step start before).bind fun s => s.step publish).isSome = true ∧
      ∀ s t, run Session.step start before = some s → s.step publish = some t →
        t.b.exhausted = false ∧ (s.b.closed = false → t.b.closed = false) := by
  refine ⟨by decide +kernel, fun s t hs ht => ?_⟩
  have hpath := Path.of_run (P := Session.Paced) (by decide +kernel) hs
  obtain ⟨hex, a, hdo, -, hstop⟩ :=
    (credit_traffic_harmless oneMiB oneMiB oneKiB oneKiB).2 s t _ hpath (by rfl) ht
  cases hdo
  refine ⟨hex false, fun hopen => ?_⟩
  by_contra hclosed
  cases hstop hopen (Bool.not_eq_false _ ▸ hclosed)

/-! ## 5. One stream and a slow writer -/

deriving instance DecidableEq for MuxWindow, ChunkSize, Endpoint, Session

def publishByte : List (Bool × SessionAction) := [(false, .act (.task 0 (.down .publish)))]

/-- `publish_credit` fails, and so does the bridge. -/
def failStream : List (Bool × SessionAction) :=
  [.task 0 (.down .publishFailed), .task 0 .fail, .task 0 .reset].map fun a => (false, .act a)

def idleFlow (epoch : Nat) : Flow := Flow.new epoch (some oneMiB.bytes) oneMiB.bytes

def idleGen : Gen := ⟨2, Side.new (idleFlow 2) 1024 [], .bridging⟩

/-- The client after `k` bytes on its first stream. -/
def floodClient (k : Nat) (wire : List Rec) : Endpoint :=
  { Endpoint.new true oneMiB oneKiB with
    streams := [(2, 1), (1, 0)]
    gens := [⟨1, ⟨{ idleFlow 1 with sendAvailable := oneMiB.bytes - k },
      ⟨.reading, 1024, [], List.replicate k 0, List.replicate k 0⟩, ⟨.receiving, 0, [], [], false⟩⟩,
      .bridging⟩, idleGen]
    control := []
    nextSid := 3
    nextEpoch := 3
    negotiation := .credit oneMiB.bytes
    wire := wire
    issued := 2 }

/-- The server after `k` bytes: one `WIN` is queued for each. -/
def floodServer (k : Nat) : Endpoint :=
  { Endpoint.new false oneMiB oneKiB with
    streams := [(2, 1), (1, 0)]
    gens := [⟨1, ⟨{ idleFlow 1 with receiveReady := decide (0 < k) }, ⟨.reading, 1024, [], [], []⟩,
      ⟨.receiving, 0, List.replicate k 0, List.replicate k 0, false⟩⟩, .bridging⟩, idleGen]
    control := List.replicate k (.record ⟨1, .win 1, some 0⟩)
    nextEpoch := 3
    negotiation := .credit oneMiB.bytes
    writer := .batch 1 }

def flooded (k : Nat) : Session := ⟨floodClient k [], floodServer k⟩

theorem run_openTwo :
    run Session.step (Session.new oneMiB oneMiB oneKiB oneKiB) openTwo = some (flooded 0) := by
  decide +kernel

theorem run_sendOneByte {k : Nat} (hk : k < laneCapacity) (b : Endpoint) :
    run Session.step ⟨floodClient k [], b⟩ sendOneByte =
      some ⟨floodClient (k + 1) [⟨1, .data [0], some 0⟩], b⟩ := by
  have hb : oneMiB.bytes = 1048576 := rfl
  have hk' : k < 512 := hk
  have h1 : 0 < oneMiB.bytes - k := by omega
  have h2 : min 1 (oneMiB.bytes - k) = 1 := by omega
  have h3 : oneMiB.bytes - k - 1 = oneMiB.bytes - (k + 1) := by omega
  simp [sendOneByte, Session.step, Session.stepA, Action.takes, Endpoint.step, Endpoint.taskStep,
    Endpoint.writerStep, floodClient, Endpoint.new, idleGen, Side.stepUp, Uplink.step, Uplink.goto,
    Endpoint.allowsUp, Endpoint.setSide, Endpoint.canAcquire, Endpoint.canEmit, Endpoint.outputUsed,
    Gen.acquired, outputBudget, laneCapacity, idleFlow, Flow.new, Side.new, h1, h2, h3,
    Endpoint.get, Endpoint.outputValid, Endpoint.drops, Endpoint.epochOf, Gen.epoch,
    List.lookup_cons, List.replicate_succ']

theorem run_takeByte {k : Nat} (hk : k < laneCapacity) :
    run Session.step ⟨floodClient (k + 1) [⟨1, .data [0], some 0⟩], floodServer k⟩
      (takeByte ++ publishByte) = some (flooded (k + 1)) := by
  have hk' : k < 512 := hk
  have h1 : ¬ oneMiB.bytes < 1 := by decide
  have h2 : checkedAdd u32Max (oneMiB.bytes - 1) 1 = some oneMiB.bytes := by decide
  have hd : hasFlag flagData flagOpen = false := by decide
  have hd' : hasFlag flagData flagRst = false := by decide
  have hw : flagData ≠ flagWin := by decide
  have hf : hasFlag flagData flagData = true := by decide
  simp [takeByte, publishByte, flooded, Session.step, Session.stepA, Session.swap, Action.takes,
    Endpoint.step, Endpoint.taskStep, Endpoint.readerStep, Endpoint.receive, Endpoint.pop,
    Rec.incoming, Msg.flags, Msg.payload, floodClient, floodServer, Endpoint.new, idleGen,
    Side.stepDown, Side.dispatch, Flow.dispatch_data, Flow.enqueue, Downlink.step, Downlink.goto,
    Endpoint.allowsDown, Endpoint.controlRoom, Endpoint.setSide, laneCapacity, idleFlow, Flow.new,
    Side.new, hk', h1, h2, hd, hd', hw, hf, Except.map, maxQueuedRecords, Endpoint.get,
    List.lookup_cons, List.replicate_succ', Flow.consumed, Flow.raiseCredit]

/-- One byte after the other is sent, written and credited; the server's writer stands still. -/
theorem run_flood :
    run Session.step (flooded 0)
      ((List.range laneCapacity).flatMap fun _ => sendOneByte ++ (takeByte ++ publishByte)) =
      some (flooded laneCapacity) :=
  run_iterate flooded _ laneCapacity fun _ hk =>
    (run_append_of_eq (run_sendOneByte hk _)).trans (run_takeByte hk)

/-- **One stream ends the session.**  Two honest endpoints have settled on credit and have two
streams.  The client sends single bytes on the first one, within its credit, and the server's writer
does not come to send: each byte leaves a `WIN` in the server's control lane.  The 513th finds it
full.  The downlink fails, its reset finds the lane full as well, and the session is closed with
both streams. -/
theorem one_stream_ends_session : let start := Session.new oneMiB oneMiB oneKiB oneKiB
    let flood := (List.range laneCapacity).flatMap fun _ => sendOneByte ++ (takeByte ++ publishByte)
    (run Session.step start openTwo).map
        (fun s => (s.a.negotiation, s.b.negotiation, s.b.streams)) =
      some (.credit oneMiB.bytes, .credit oneMiB.bytes, [(2, 1), (1, 0)]) ∧
    (run Session.step start (openTwo ++ (flood ++ (sendOneByte ++ (takeByte ++ failStream))))).map
        (fun s => (s.b.control.length, s.b.exhausted, s.b.closed, s.b.streams)) =
      some (laneCapacity, true, true, []) := by
  refine ⟨by rw [run_openTwo]; rfl, ?_⟩
  rw [run_append_of_eq run_openTwo, run_append_of_eq run_flood]
  decide +kernel

end BibaVpn.Mux
