/-
# Credit and wake-ups: no stream stalls

A pump sleeps in `take_credit` while there is no credit and in `receive` while there is no record;
it is woken by the permit that a `Notify` stores.  Credit that was consumed and not published is in
a local variable of the receiving pump, and is published only at a threshold or when the queue was
found empty, after the lock was given back.  Two things could go wrong: a wake-up is lost, or credit
stays behind when nothing is left to do.

* §1: at one end, whatever the peer sends, a pump that sleeps although there is something for it has
  a permit waiting, and a pump that sleeps on an empty queue holds no unpublished credit
  (`Side.Alert`);
* §2: every stream of every endpoint is alert;
* §3: if no step of a reader, a writer or a pump is possible, then no pump waits for credit, and
  each has the peer's whole window (`no_quiescent_deadlock`).
-/
import BibaVpn.Mux.Credit
import BibaVpn.Mux.Moves

namespace BibaVpn.Mux

open Machine Lts

/-! ## 1. An end that is alert -/

/-- Between two records: nothing in hand, and no decision about credit under way. -/
def DownPhase.between : DownPhase → Bool
  | .receiving => true
  | .waiting => true
  | .closing => true
  | .done => true
  | _ => false

/-- An uplink that waits although there is credit has a permit. -/
def Uplink.Alert (u : Uplink) (f : Flow) : Prop :=
  ∀ rest, u.phase = .waiting rest → 0 < f.sendAvailable → f.sendReady = true

/-- **A downlink that is alert.**  `ready`: if it waits although there is a record or FIN, it has a
permit.  `pending`: between two records, with an empty queue, it holds no unpublished credit.
`ended`: after FIN the queue is empty.  `bytes`: what is counted is what is queued or in hand. -/
structure Downlink.Alert (d : Downlink) (f : Flow) : Prop where
  ready : d.phase = .waiting → f.queue ≠ [] ∨ f.fin = true → f.receiveReady = true
  pending : f.cancelled = false → f.queue = [] → d.phase.between = true → d.pending = 0
  published : ∀ amount, d.phase = .publishing amount → d.pending = 0
  legacy : f.negotiated = false → d.pending = 0
  ended : d.phase = .closing ∨ d.phase = .done → f.queue = [] ∧ f.fin = true
  bytes : f.cancelled = false → d.phase ≠ .failed → f.bytes = f.queue.flatten.length + d.inHand

structure Side.Alert (s : Side) : Prop where
  up : s.up.Alert s.flow
  down : s.down.Alert s.flow

theorem Side.Alert.new (epoch : Nat) (peer : Option Nat) (window maxChunk : Nat) (pre : Bytes) :
    (Side.new (Flow.new epoch peer window) maxChunk pre).Alert where
  up := fun rest h => by cases h
  down := {
    ready := fun h => by cases h
    pending := fun _ _ _ => rfl
    published := fun amount h => by cases h
    legacy := fun _ => rfl
    ended := fun h => by rcases h with h | h <;> cases h
    bytes := fun _ _ => rfl }

variable {f f' : Flow} {o : Option Msg} {d d' : Downlink}

/-- After a step the uplink waits only if it has just found no credit. -/
theorem Uplink.alert_step {u u' : Uplink} {a : UpAction} (h : u.step f a = some (u', f', o)) :
    u'.Alert f' := by
  intro rest hw hav
  revert h
  fun_cases Uplink.step u f a <;> intro h <;> cases h
  case case3 | case18 =>
    dsimp only at hw
    split at hw <;> cases hw
  case case10 hno => exact absurd hav hno
  all_goals cases hw

/-- The part of the flow that the downlink's alertness reads. -/
theorem Downlink.Alert.congr {g : Flow} (h : d.Alert f) (hq : g.queue = f.queue)
    (hf : g.fin = f.fin) (hr : g.receiveReady = f.receiveReady) (hc : g.cancelled = f.cancelled)
    (hn : g.negotiated = f.negotiated) (hb : g.bytes = f.bytes) : d.Alert g where
  ready hw hsome := by
    rw [hr]
    rw [hq, hf] at hsome
    exact h.ready hw hsome
  pending hcan hnil := h.pending (hc ▸ hcan) (hq ▸ hnil)
  published := h.published
  legacy hneg := h.legacy (hn ▸ hneg)
  ended he := by
    rw [hq, hf]
    exact h.ended he
  bytes hcan hne := by
    rw [hb, hq]
    exact h.bytes (hc ▸ hcan) hne

/-- It neither waits, nor publishes, nor has seen FIN. -/
def DownPhase.plain : DownPhase → Bool
  | .waiting => false
  | .publishing _ => false
  | .closing => false
  | .done => false
  | _ => true

namespace Downlink

theorem Alert.of_plain (hplain : d.phase.plain = true)
    (hpend : d.phase = .receiving → f.cancelled = false → f.queue = [] → d.pending = 0)
    (hleg : f.negotiated = false → d.pending = 0)
    (hbytes : f.cancelled = false → d.phase ≠ .failed →
      f.bytes = f.queue.flatten.length + d.inHand) : d.Alert f where
  ready hw := by rw [hw] at hplain; cases hplain
  pending hcan hnil hb := by
    refine hpend ?_ hcan hnil
    cases hph : d.phase <;> simp_all [DownPhase.plain, DownPhase.between]
  published amount hp := by rw [hp] at hplain; cases hplain
  legacy := hleg
  ended he := by rcases he with he | he <;> rw [he] at hplain <;> cases hplain
  bytes := hbytes

theorem Alert.bytes_at {p : DownPhase} {n : Nat} (h : d.Alert f) (hph : d.phase = p)
    (hne : p ≠ .failed) (hn : (d.goto p).inHand = n) (hcan : f.cancelled = false) :
    f.bytes = f.queue.flatten.length + n := by
  subst hph hn
  exact h.bytes hcan hne

theorem Alert.failed (h : d.Alert f) : (d.goto .failed).Alert f :=
  .of_plain rfl (fun hr => by cases hr) h.legacy fun _ hne => absurd rfl hne

/-- **Every step of a downlink keeps it alert.** -/
theorem alert_step {a : DownAction} (h : d.Alert f) (hs : d.step f a = some (d', f', o)) :
    d'.Alert f' := by
  have hzero : ∀ {p : DownPhase}, d.phase = p → p.between = true → f.cancelled = false →
      f.queue = [] → d.pending = 0 := fun hph hb hcan hq => h.pending hcan hq (hph ▸ hb)
  revert hs
  fun_cases step d f a <;> intro hs <;> cases hs
  · rename_i data queue hq hph
    refine .of_plain rfl (fun hr => by cases hr) h.legacy fun hcan _ => ?_
    have hold := h.bytes_at hph (by simp) rfl hcan
    simp only [hq, List.flatten_cons, List.length_append, inHand, goto] at hold ⊢
    omega
  · rename_i hq hph hfin
    exact {
      ready := fun hw => by cases hw
      pending := fun hcan hnil _ => hzero hph rfl hcan hnil
      published := fun amount hp => by cases hp
      legacy := h.legacy
      ended := fun _ => ⟨hq, hfin⟩
      bytes := fun hcan _ => h.bytes_at hph (by simp) rfl hcan }
  · rename_i hq hph hfin
    exact {
      ready := fun _ hsome => absurd hsome (not_or.mpr ⟨not_not.mpr hq, hfin⟩)
      pending := fun hcan hnil _ => hzero hph rfl hcan hnil
      published := fun amount hp => by cases hp
      legacy := h.legacy
      ended := fun he => by rcases he with he | he <;> cases he
      bytes := fun hcan _ => h.bytes_at hph (by simp) rfl hcan }
  · rename_i hph _
    exact .of_plain rfl (fun _ => hzero hph rfl) h.legacy fun hcan _ =>
      h.bytes_at hph (by simp) rfl hcan
  · rename_i hph _
    exact .of_plain rfl (fun hr => by cases hr) h.legacy
      fun hcan _ => h.bytes_at hph (by simp) rfl hcan
  · exact h.failed
  · -- consumed
    rename_i data hph hneg
    refine .of_plain rfl (fun hr => by cases hr) (fun hno => ?_) fun hcan _ => ?_
    · cases hneg.symm.trans hno
    · have hold := h.bytes_at hph (by simp) rfl hcan
      simp only [Flow.consumed, inHand, goto] at hold ⊢
      omega
  · rename_i data hph hneg
    have hleg := h.legacy (Bool.not_eq_true _ ▸ hneg)
    refine .of_plain rfl (fun _ _ _ => hleg) (fun _ => hleg) fun hcan _ => ?_
    have hold := h.bytes_at hph (by simp) rfl hcan
    simp only [Flow.consumed, inHand, goto] at hold ⊢
    omega
  · rename_i hph _
    exact .of_plain rfl (fun hr => by cases hr) h.legacy
      fun hcan _ => h.bytes_at hph (by simp) rfl hcan
  · -- it goes on without publishing only if it has seen a record
    rename_i hph hno
    exact .of_plain rfl (fun _ _ hq => absurd (Or.inr hq) hno) h.legacy
      fun hcan _ => h.bytes_at hph (by simp) rfl hcan
  · rename_i hph hg
    obtain ⟨rfl, -⟩ := Flow.raiseCredit_ok hg
    exact {
      ready := fun hw => by cases hw
      pending := fun _ _ _ => rfl
      published := fun _ _ => rfl
      legacy := fun _ => rfl
      ended := fun he => by rcases he with he | he <;> cases he
      bytes := fun hcan _ => h.bytes_at hph (by simp) rfl hcan }
  · exact h.failed
  · rename_i amount hph
    exact .of_plain rfl (fun _ _ _ => h.published amount hph) h.legacy
      fun hcan _ => h.bytes_at hph (by simp) rfl hcan
  · exact .of_plain rfl (fun hr => by cases hr) h.legacy fun _ hne => absurd rfl hne
  · rename_i hph
    exact {
      ready := fun hw => by cases hw
      pending := fun hcan hnil _ => hzero hph rfl hcan hnil
      published := fun amount hp => by cases hp
      legacy := h.legacy
      ended := fun _ => h.ended (Or.inl hph)
      bytes := fun hcan _ => h.bytes_at hph (by simp) rfl hcan }
  · exact h.failed

/-- A record that is enqueued leaves a permit. -/
theorem Alert.enqueue {g : Flow} {payload : Bytes} {fin : Bool} (h : d.Alert f)
    (he : f.enqueue payload fin = .ok g) : d.Alert g := by
  obtain ⟨hfin, hcan, hst, -, -, -, -, -, hby, hqu⟩ := Flow.enqueue_ok he
  have hready : g.receiveReady = true ∧ (g.queue = [] → f.queue = []) := by
    unfold Flow.enqueue at he
    split at he
    · cases he
    · split at he
      · cases he
      · split at he
        · cases he
          exact ⟨rfl, fun hnil => absurd hnil (by simp)⟩
        · cases he
          exact ⟨rfl, id⟩
  exact {
    ready := fun _ _ => hready.1
    pending := fun _ hnil => h.pending hcan (hready.2 hnil)
    published := h.published
    legacy := fun hneg => h.legacy (hst.negotiated ▸ hneg)
    ended := fun hend => by
      rw [(h.ended hend).2] at hfin
      cases hfin
    bytes := fun _ hne => by
      have hold := h.bytes hcan hne
      rw [hby, hqu, List.length_append, hold]
      omega }

end Downlink

/-- **Whatever happens to a stream, it stays alert.** -/
theorem Side.Alert.moves {s s' : Side} (h : s.Alert) (hI : s.Inv) (hm : s.Moves s') : s'.Alert := by
  cases hm with
  | same => exact h
  | cancel preserve =>
    exact {
      up := h.up
      down := {
        ready := fun hw hsome => h.down.ready hw (hsome.resolve_left (absurd rfl ·) |> Or.inr)
        pending := fun hcan => by cases hcan
        published := h.down.published
        legacy := h.down.legacy
        ended := fun he => ⟨rfl, (h.down.ended he).2⟩
        bytes := fun hcan => by cases hcan } }
  | up a s' o hs =>
    obtain ⟨-, hspec, hdown⟩ := hI.stepUp hs
    obtain ⟨⟨u, f, o'⟩, hstep, hr⟩ := Option.map_eq_some_iff.mp hs
    cases hr
    refine ⟨Uplink.alert_step hstep, ?_⟩
    have hframe := hspec.frame
    exact h.down.congr (by rw [hframe]) (by rw [hframe]) (by rw [hframe]) (by rw [hframe])
      (by rw [hframe]) (by rw [hframe])
  | down a s' o hs =>
    obtain ⟨-, hspec, hup⟩ := hI.stepDown hs
    obtain ⟨⟨d, f, o'⟩, hstep, hr⟩ := Option.map_eq_some_iff.mp hs
    cases hr
    refine ⟨fun rest hw hav => ?_, Downlink.alert_step h.down hstep⟩
    rw [hspec.frame.sendReady]
    exact h.up rest hw (hspec.frame.sendAvailable ▸ hav)
  | dispatch flags payload s' hs =>
    unfold Side.dispatch at hs
    cases hd : s.flow.dispatch flags payload with
    | error x => rw [hd] at hs; cases hs
    | ok g =>
      rw [hd] at hs
      cases hs
      -- the history of what was received is not read
      have hhist : ∀ received, s.down.Alert g →
          Downlink.Alert { s.down with received := received } g :=
        fun received ha => ⟨ha.ready, ha.pending, ha.published, ha.legacy, ha.ended, ha.bytes⟩
      rcases Flow.dispatch_ok hd with ⟨-, rfl | ⟨amount, -, -, rfl⟩⟩ | ⟨-, -, -, rfl⟩ | ⟨-, henq⟩
      · exact ⟨h.up, hhist _ h.down⟩
      · exact ⟨fun _ _ _ => rfl, hhist _ (h.down.congr rfl rfl rfl rfl rfl rfl)⟩
      · exact ⟨h.up, hhist _ h.down⟩
      · obtain ⟨-, -, -, hav, hrdy, -⟩ := Flow.enqueue_ok henq
        refine ⟨fun rest hw hpos => ?_, hhist _ (h.down.enqueue henq)⟩
        rw [hrdy]
        exact h.up rest hw (hav ▸ hpos)

/-! ## 2. The streams of an endpoint -/

def Endpoint.Alert (e : Endpoint) : Prop :=
  ∀ (i : Nat) (g : Gen), e.gens[i]? = some g → g.side.Alert

theorem Endpoint.Alert.step {e e' : Endpoint} {a : Action} (h : e.Alert) (hw : e.Wf)
    (hs : e.step a = some e') : e'.Alert := by
  intro i g' hg'
  rcases hw.gen_step hs hg' with ⟨g, hg, -, hmove⟩ | ⟨-, hcr, -⟩
  · exact (h i g hg).moves (hw.sides i g hg) hmove
  · cases hcr <;> exact Side.Alert.new _ _ _ _ _

theorem Endpoint.Alert.reachable {client : Bool} {window : MuxWindow} {chunk : ChunkSize}
    {e : Endpoint} (h : Reachable Endpoint.step (Endpoint.new client window chunk) e) :
    e.Alert := by
  refine (Reachable.invariant (I := fun e => e.Wf ∧ e.Alert) h ⟨.new client window chunk, ?_⟩
    fun _ _ _ hI hs => ⟨hI.1.step hs, hI.2.step hI.1 hs⟩).2
  intro i g hg
  simp [Endpoint.new] at hg

/-! ## 3. A pair at rest -/

theorem Half.moves_local {h h' : Half} {act : HalfAction} (hs : h.local act = some h') :
    h.side.Moves h'.side := by
  revert hs
  fun_cases Half.local h act <;> intro hs
  case case3 a _ =>
    obtain ⟨⟨side, o⟩, hstep, rfl⟩ := Option.map_eq_some_iff.mp hs
    exact .up a side o hstep
  case case5 a _ =>
    obtain ⟨⟨side, o⟩, hstep, rfl⟩ := Option.map_eq_some_iff.mp hs
    exact .down a side o hstep
  all_goals cases hs
  case case14 =>
    dsimp only
    split
    · exact .cancel false
    · exact .same
  case case16 => exact .cancel true
  case case18 => exact .cancel false
  all_goals exact .same

theorem Half.moves_handle (h : Half) (known : Bool) (m : Msg) :
    h.side.Moves (h.handle known m).side := by
  unfold Half.handle
  split
  · exact .same
  · split
    · split
      · exact .cancel false
      · exact .same
    · split
      · rename_i side hd
        exact .dispatch m.flags m.payload side hd
      · exact .same

def Pair.Alert (p : Pair) : Prop := p.a.side.Alert ∧ p.b.side.Alert

theorem Pair.Alert.stepA {wa wb : Nat} {p q : Pair} {act : HalfAction} (h : p.Alert)
    (hI : p.Inv wa wb) (hs : p.stepA act = some q) : q.Alert := by
  rcases Pair.stepA_cases hs with ⟨known, -, -, -, m, ws, -, rfl⟩ | ⟨a, ha, rfl⟩
  · exact ⟨h.1.moves hI.a.side (p.a.moves_handle known m), h.2⟩
  · exact ⟨h.1.moves hI.a.side (Half.moves_local ha), h.2⟩

theorem Pair.Alert.step {wa wb : Nat} {p q : Pair} {act : Bool × HalfAction} (h : p.Alert)
    (hI : p.Inv wa wb) (hs : p.step act = some q) : q.Alert := by
  obtain ⟨who, act⟩ := act
  cases who with
  | true => exact h.stepA hI hs
  | false =>
    obtain ⟨q', hq, rfl⟩ := Option.map_eq_some_iff.mp hs
    have hswap : Pair.Alert p.swap := ⟨h.2, h.1⟩
    have := hswap.stepA hI.swap hq
    exact ⟨this.2, this.1⟩

/-- The steps of readers, writers and pumps, and the end of `connect`: all that does not wait for
the application, for a failure, or for someone to give the stream up. -/
def HalfAction.internal : HalfAction → Bool
  | .connected => true
  | .up .readPre => true
  | .up .takeCredit => true
  | .up .wake => true
  | .up .acquire => true
  | .up .emit => true
  | .down .receive => true
  | .down .wake => true
  | .down (.write _) => true
  | .down .consume => true
  | .down .check => true
  | .down .raise => true
  | .down .publish => true
  | .down .shutdown => true
  | .writeOutput => true
  | .writeControl => true
  | .deliver _ => true
  | .reject => true
  | _ => false

/-- A pump has failed: `bridge` is about to end. -/
def Half.failed (h : Half) :
    Bool := h.side.up.phase.isFailed || decide (h.side.down.phase = .failed)

/-- **Nothing is left to do**: no such step is possible at either end, and neither `bridge` is about
to end. -/
structure Pair.Quiet (p : Pair) : Prop where
  steps : ∀ who act, HalfAction.internal act = true → p.step (who, act) = none
  running : p.a.failed = false ∧ p.b.failed = false

/-- The end `a` of a pair in which it has nothing to do. -/
structure Half.Idle (h : Half) : Prop where
  out : h.out = []
  ctl : h.ctl = []
  refused : h.refused = none
  up : h.side.up.phase = .reading ∨ (∃ rest, h.side.up.phase = .waiting rest ∧
    h.side.flow.sendReady = false) ∨ h.side.up.phase = .done
  down : (h.side.down.phase = .waiting ∧ h.side.flow.receiveReady = false) ∨
    h.side.down.phase = .done

theorem Half.idle_up {h : Half} (hrun : h.running = true) (hf : h.failed = false)
    (hq : ∀ a, HalfAction.internal (.up a) = true → h.local (.up a) = none) :
    h.side.up.phase = .reading ∨ (∃ rest, h.side.up.phase = .waiting rest ∧
      h.side.flow.sendReady = false) ∨ h.side.up.phase = .done := by
  have hstep : ∀ a, HalfAction.internal (.up a) = true → h.side.up.step h.side.flow a = none := by
    intro a ha
    have hnone := hq a ha
    simpa only [Half.local, hrun, if_true, Side.stepUp, Option.map_eq_none_iff] using hnone
  cases hph : h.side.up.phase with
  | reading => exact Or.inl rfl
  | holding rest =>
    have hnone := hstep .takeCredit rfl
    simp only [Uplink.step, hph] at hnone
    split at hnone
    · cases hnone
    · split at hnone <;> cases hnone
  | waiting rest =>
    have hnone := hstep .wake rfl
    simp only [Uplink.step, hph] at hnone
    exact Or.inr (Or.inl ⟨rest, rfl, by simpa using hnone⟩)
  | sending payload rest acquired =>
    cases acquired with
    | false => simpa [Uplink.step, hph] using hstep .acquire rfl
    | true => simpa [Uplink.step, hph] using hstep .emit rfl
  | closing acquired =>
    cases acquired with
    | false => simpa [Uplink.step, hph] using hstep .acquire rfl
    | true => simpa [Uplink.step, hph] using hstep .emit rfl
  | done => exact Or.inr (Or.inr rfl)
  | failed n => simp [Half.failed, hph, UpPhase.isFailed] at hf

theorem Half.idle_down {h : Half} (hrun : h.running = true) (hf : h.failed = false)
    (hq : ∀ a, HalfAction.internal (.down a) = true → h.local (.down a) = none) :
    (h.side.down.phase = .waiting ∧ h.side.flow.receiveReady = false) ∨
      h.side.down.phase = .done := by
  have hstep : ∀ a, HalfAction.internal (.down a) = true →
      h.side.down.step h.side.flow a = none := by
    intro a ha
    have hnone := hq a ha
    simpa only [Half.local, hrun, if_true, Side.stepDown, Option.map_eq_none_iff] using hnone
  cases hph : h.side.down.phase with
  | receiving =>
    have hnone := hstep .receive rfl
    simp only [Downlink.step, hph] at hnone
    split at hnone
    · cases hnone
    · split at hnone <;> cases hnone
    · rename_i h1 h2
      cases hqu : h.side.flow.queue with
      | nil => exact absurd hqu (h2 rfl)
      | cons x xs => exact absurd hqu (h1 x xs rfl)
  | waiting =>
    have hnone := hstep .wake rfl
    simp only [Downlink.step, hph] at hnone
    exact Or.inl ⟨rfl, by simpa using hnone⟩
  | writing data left => simpa [Downlink.step, hph] using hstep (.write 0) rfl
  | checking =>
    have hnone := hstep .check rfl
    simp only [Downlink.step, hph] at hnone
    split at hnone <;> cases hnone
  | raising =>
    have hnone := hstep .raise rfl
    simp only [Downlink.step, hph] at hnone
    split at hnone <;> cases hnone
  | publishing amount => simpa [Downlink.step, hph] using hstep .publish rfl
  | closing => simpa [Downlink.step, hph] using hstep .shutdown rfl
  | done => exact Or.inr rfl
  | failed => simp [Half.failed, hph] at hf

theorem Pair.idle {p : Pair} (hf : p.a.failed = false)
    (hq : ∀ act, HalfAction.internal act = true → p.stepA act = none) :
    p.a.Idle ∧ p.b.wire = [] := by
  have hlocal : ∀ act, HalfAction.internal act = true → (∀ known, act ≠ .deliver known) →
      p.a.local act = none := by
    intro act hact hno
    have hnone := hq act hact
    cases act with
    | deliver known => exact absurd rfl (hno known)
    | _ => exact Option.map_eq_none_iff.mp hnone
  have hrun : p.a.running = true := by
    simpa [Half.local] using hlocal .connected rfl (by simp)
  have hrefused : p.a.refused = none := by
    have hnone := hlocal .reject rfl (by simp)
    simp only [Half.local] at hnone
    split at hnone
    · cases hnone
    · assumption
  refine ⟨{
    out := ?_
    ctl := ?_
    refused := hrefused
    up := Half.idle_up hrun hf fun a ha => hlocal _ ha (by simp)
    down := Half.idle_down hrun hf fun a ha => hlocal _ ha (by simp) }, ?_⟩
  · have hnone := hlocal .writeOutput rfl (by simp)
    simp only [Half.local] at hnone
    split at hnone
    · cases hnone
    · assumption
  · have hnone := hlocal .writeControl rfl (by simp)
    simp only [Half.local] at hnone
    split at hnone
    · cases hnone
    · assumption
  · have hnone := hq (.deliver true) rfl
    cases hw : p.b.wire with
    | nil => rfl
    | cons m ws => simp [Pair.stepA, hrefused, hw] at hnone

/-- **The sender `s` is at rest under the peer's window `w`**: its pump does not wait for credit,
and has all of it. -/
structure AtRest (w : Nat) (s : Half) : Prop where
  unblocked : ∀ rest, s.side.up.phase ≠ .waiting rest
  available : s.side.flow.sendAvailable = w

/-- A receiver that has nothing to do holds no credit back. -/
theorem Half.Idle.recvSum {r : Half} (hi : r.Idle) (ha : r.side.Alert)
    (hc : r.side.flow.cancelled = false) (hw : r.wire = []) : r.recvSum = 0 := by
  have hbetween : r.side.down.phase.between = true := by
    rcases hi.down with ⟨hph, -⟩ | hph <;> rw [hph] <;> rfl
  have hphase : r.side.down.inHand = 0 ∧ r.side.down.granting = 0 ∧
      r.side.down.phase ≠ .failed := by
    rcases hi.down with ⟨hph, -⟩ | hph <;> simp [Downlink.inHand, Downlink.granting, hph]
  -- a pump that sleeps or is done has found the queue empty
  have hqueue : r.side.flow.queue = [] := by
    rcases hi.down with ⟨hph, hready⟩ | hph
    · by_contra hne
      rw [ha.down.ready hph (Or.inl hne)] at hready
      cases hready
    · exact (ha.down.ended (Or.inr hph)).1
  have hbytes := ha.down.bytes hc hphase.2.2
  rw [hqueue, hphase.1] at hbytes
  have hpend := ha.down.pending hc hqueue hbetween
  simp only [Half.recvSum, hbytes, hpend, hphase.2.1, hi.ctl, hw, winTotal_nil, List.flatten_nil,
    List.length_nil]

theorem Dir.atRest {w : Nat} {s r : Half} (hd : Dir w s r) (hs : s.Idle) (hr : r.Idle)
    (hsa : s.side.Alert) (hra : r.side.Alert) (hpos : 0 < w)
    (hlive : s.side.flow.cancelled = false ∧ r.side.flow.cancelled = false) (hsw : s.wire = [])
    (hrw : r.wire = []) : AtRest w s := by
  have hsum := hd.eq hlive.1 hlive.2
  have hrecv := hr.recvSum hra hlive.2 hrw
  have htaken : s.side.up.taken = 0 := by
    rcases hs.up with hph | ⟨rest, hph, -⟩ | hph <;> simp [Uplink.taken, hph]
  have havail : s.side.flow.sendAvailable = w := by
    simp only [inFlight, Half.sendSum, htaken, hs.out, hsw, hrecv, hs.refused, hr.refused, optSum,
      dataBytes_nil] at hsum
    omega
  refine ⟨fun rest hph => ?_, havail⟩
  -- it would have a permit
  have hready := hsa.up rest hph (by omega)
  rcases hs.up with hph' | ⟨rest', hph', hno⟩ | hph'
  · rw [hph] at hph'
    cases hph'
  · rw [hready] at hno
    cases hno
  · rw [hph] at hph'
    cases hph'

/-- **No lost wake-up, no credit left behind, no stalled stream.**  The first half is about every
endpoint, whatever its peer does; the second about both ends of a stream. -/
theorem no_quiescent_deadlock :
    (∀ {client : Bool} {window : MuxWindow} {chunk : ChunkSize} {e : Endpoint},
      Reachable Endpoint.step (Endpoint.new client window chunk) e → e.Alert) ∧
    ∀ {wa wb : MuxWindow} {ca cb : ChunkSize} {ea eb : Nat} {pre : Bytes} {p : Pair},
      Reachable Pair.step (Pair.start wa wb ca cb ea eb pre) p → p.Alert ∧
        (p.a.side.flow.cancelled = false → p.b.side.flow.cancelled = false → p.Quiet →
          AtRest wb.bytes p.a ∧ AtRest wa.bytes p.b) := by
  refine ⟨Endpoint.Alert.reachable, fun {wa wb ca cb ea eb pre p} hr => ?_⟩
  obtain ⟨hI, halert⟩ := Reachable.invariant
    (I := fun p => p.Inv wa.bytes wb.bytes ∧ p.Alert) hr
    ⟨Pair.Inv.start wa wb ca cb ea eb pre, Side.Alert.new _ _ _ _ _, Side.Alert.new _ _ _ _ _⟩
    fun _ _ _ hI hs => ⟨hI.1.step hs, hI.2.step hI.1 hs⟩
  refine ⟨halert, fun ha hb hquiet => ?_⟩
  obtain ⟨hia, hbw⟩ := Pair.idle hquiet.running.1 fun act hact => hquiet.steps true act hact
  obtain ⟨hib, haw⟩ := Pair.idle (p := p.swap) hquiet.running.2 fun act hact =>
    Option.map_eq_none_iff.mp (hquiet.steps false act hact)
  exact ⟨hI.ab.atRest hia hib halert.1 halert.2 wb.bytes_pos ⟨ha, hb⟩ haw hbw,
    hI.ba.atRest hib hia halert.2 halert.1 wa.bytes_pos ⟨hb, ha⟩ hbw haw⟩

/-- Three bytes go over, their credit comes back, and both pumps go to sleep. -/
def threeBytesBack : List (Bool × HalfAction) :=
  threeBytes ++ [(false, .down .publish), (false, .writeControl), (true, .deliver true),
    (false, .down .receive), (false, .down .wake), (false, .down .receive), (true, .down .receive)]

/-- The two ends afterwards. -/
def rested : Pair :=
  let fresh := Half.new 1 oneMib oneMib chunk64k []
  { a := { fresh with
      running := true
      side := {
        flow := { fresh.side.flow with sendReady := true }
        up := { fresh.side.up with source := [1, 2, 3], emitted := [1, 2, 3] }
        down := { fresh.side.down with phase := .waiting } } }
    b := { fresh with
      running := true
      side := { fresh.side with
        down := { fresh.side.down with
          phase := .waiting, received := [1, 2, 3], written := [1, 2, 3] } } } }

theorem no_quiescent_deadlock_three_bytes :
    Lts.run Pair.step (Pair.start oneMib oneMib chunk64k chunk64k 1 1 []) threeBytesBack
        = some rested ∧
      rested.Quiet ∧ AtRest oneMib.bytes rested.a ∧ AtRest oneMib.bytes rested.b := by
  have hrun : Lts.run Pair.step (Pair.start oneMib oneMib chunk64k chunk64k 1 1 []) threeBytesBack
      = some rested := rfl
  have hquiet : rested.Quiet := {
    steps := fun who act hact => by
      cases who <;> cases act with
      | up a => cases a <;> first | rfl | cases hact
      | down a => cases a <;> rfl
      | _ => first | rfl | cases hact
    running := ⟨rfl, rfl⟩ }
  exact ⟨hrun, hquiet, (no_quiescent_deadlock.2 (Reachable.of_run hrun)).2 rfl rfl hquiet⟩

end BibaVpn.Mux
