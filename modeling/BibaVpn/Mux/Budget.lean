/-
# Budgets of an endpoint

An endpoint admits a stream only if it can reserve a whole receive window for it.  The reservation
is a permit of the semaphore `receive_budget` that the `Flow` owns: it is returned when the last
reference to the flow goes away, which may be long after the stream was removed.  Output has a
budget of its own, and both lanes have a capacity.

* §1: lanes, registry and output budget are within their limits in every state;
* §2: what refers to a flow, and that a flow to which nothing refers is never referred to again;
* §3 is the `Ledger`: the endpoint with the semaphore itself, the flows that exist, the drop of a
  flow as a step of its own, and `shutdown` cut in two where the source stores its flag before it
  takes the lock;
* §4: the reservations of the existing flows and the permits left are together the budget, and what
  follows for backing memory, for opens that fail or are cancelled, for `shutdown` and for `load`
  (`admission_sound`).
-/
import Mathlib.Algebra.Order.BigOperators.Group.List
import Mathlib.Algebra.Order.Ring.Nat
import Mathlib.Data.List.Perm.Subperm
import BibaVpn.Lib.Lists
import BibaVpn.Mux.Resets

namespace BibaVpn.Mux

open Machine Lists Lts

/-! ## 1. The limits of an endpoint -/

/-- The output bytes that an uplink has acquired for the record it is sending. -/
def Uplink.acquired (u : Uplink) : Nat :=
  match u.phase with
  | .sending payload _ true => payload.length + 9
  | .closing true => 9
  | _ => 0

/-- The output bytes that it has to acquire for it. -/
def Uplink.needs (u : Uplink) : Nat :=
  match u.phase with
  | .sending payload _ _ => payload.length + 9
  | _ => 9

/-- The output bytes of a record that is handed over. -/
def Msg.cost (m : Msg) : Nat := m.payload.length + 9

variable {f f' : Flow}

/-- **What an uplink acquires and hands over**: only `acquire` adds to what it has acquired, and
what it hands over was acquired. -/
theorem Uplink.step_acquired {u u' : Uplink} {a : UpAction} {o : Option Msg}
    (h : u.step f a = some (u', f', o)) :
    u'.acquired + optSum Msg.cost o ≤ u.acquired + if a = .acquire then u.needs else 0 := by
  revert h
  fun_cases Uplink.step u f a <;> intro h <;> cases h
  case case3 bytes _ _ _ =>
    simp only [Uplink.acquired, optSum]
    by_cases hb : bytes = [] <;> simp [hb]
  case case15 payload rest hph =>
    simp [Uplink.acquired, Uplink.needs, Uplink.goto, hph, optSum]
  case case16 hph => simp [Uplink.acquired, Uplink.needs, Uplink.goto, hph, optSum]
  case case18 payload rest hph =>
    simp only [Uplink.acquired, optSum, Msg.cost, Msg.payload, hph]
    by_cases hr : rest = [] <;> simp [hr]
  case case19 hph => simp [Uplink.acquired, Uplink.goto, hph, optSum, Msg.cost, Msg.payload]
  -- in all other branches nothing is acquired afterwards
  all_goals exact Nat.zero_le _

theorem Uplink.step_emits {u u' : Uplink} {a : UpAction} {m : Msg}
    (h : u.step f a = some (u', f', some m)) : a = .emit := by
  revert h
  fun_cases Uplink.step u f a <;> intro h <;> cases h <;> rfl

theorem Downlink.step_emits {d d' : Downlink} {a : DownAction} {m : Msg}
    (h : d.step f a = some (d', f', some m)) : a = .publish := by
  revert h
  fun_cases Downlink.step d f a <;> intro h <;> cases h
  rfl

/-- A task that has not started its pumps. -/
def Task.unstarted : Task → Bool
  | .opening _ _ => true
  | .connecting => true
  | _ => false

variable {g : Gen} {i : Nat} {e e' : Endpoint} {a : Action} {f : Gen → Gen} {task : Task}

theorem Gen.acquired_bridging (h : g.task = .bridging) : g.acquired = g.side.up.acquired := by
  unfold Gen.acquired Uplink.acquired
  rw [h]
  rcases g.side.up.phase with _ | _ | _ | ⟨payload, rest, acq⟩ | acq | _ | _ <;>
    first | rfl | (cases acq <;> rfl)

theorem Gen.acquired_done (h : g.task = .resetting ∨ g.task = .ended) : g.acquired = 0 := by
  unfold Gen.acquired
  rcases h with h | h <;> rw [h]

/-- A generation as the limits want it. -/
structure Gen.Within (g : Gen) (window : MuxWindow) : Prop where
  unstarted : g.task.unstarted = true → g.side.up.phase = .reading
  limit : g.side.flow.receiveLimit = window.bytes

theorem Gen.acquired_cancel (g : Gen) (preserve : Bool) :
    (Gen.cancel preserve g).acquired = g.acquired := rfl

theorem Gen.Within.cancel {g : Gen} {window : MuxWindow} (h : g.Within window) (preserve : Bool) :
    (Gen.cancel preserve g).Within window := ⟨h.unstarted, h.limit⟩

/-- A record that the reader hands to a flow does not touch the uplink. -/
theorem Side.dispatch_up {s s' : Side} {flags : UInt8} {payload : Bytes}
    (h : s.dispatch flags payload = .ok s') : s'.up = s.up := by
  unfold Side.dispatch at h
  cases hd : s.flow.dispatch flags payload with
  | error x => rw [hd] at h; cases h
  | ok f => rw [hd] at h; cases h; rfl

/-- What the writer's hand holds of the output budget. -/
def WriterPhase.permits (w : WriterPhase) : Nat := (w.hand.map Rec.permits).sum

theorem getElem?_finish {i : Nat} {g : Gen} (sid epoch : Nat) (preserve : Bool)
    (hg : e.gens[i]? = some g) : ∃ g', (e.finish sid epoch preserve).1.gens[i]? = some g' := by
  rcases e.finish_cases sid epoch preserve with ⟨heq, -⟩ | ⟨k, -, -, heq⟩
  · rw [heq]
    exact ⟨g, hg⟩
  · rw [heq]
    obtain ⟨g', hg', -⟩ :=
      Extends.modify (f := Gen.cancel preserve) (fun g _ => Gen.Keeps.cancel preserve g) i g hg
    exact ⟨g', hg'⟩

namespace Endpoint

/-- **The limits of an endpoint.** -/
structure Bounded (e : Endpoint) : Prop where
  streams : e.streams.length ≤ maxStreams
  output : e.output.length ≤ laneCapacity
  control : e.control.length ≤ laneCapacity
  /-- what is in the control lane holds nothing of the output budget -/
  lanes : ∀ r, .record r ∈ e.control → r.msg.isOutput = false
  used : e.outputUsed ≤ outputBudget
  within : ∀ {i : Nat} {g : Gen}, e.gens[i]? = some g → g.Within e.window

theorem Bounded.new (client : Bool) (window : MuxWindow) (chunk : ChunkSize) :
    (Endpoint.new client window chunk).Bounded where
  streams := Nat.zero_le _
  output := Nat.zero_le _
  control := by
    simp only [Endpoint.new]
    split
    · exact Nat.succ_le_of_lt (Nat.zero_lt_succ _)
    · exact Nat.zero_le _
  lanes := (Endpoint.Sorted.new client window chunk).control
  used := Nat.zero_le _
  within hg := by simp [Endpoint.new] at hg

/-- The step rule when the lanes and the writer stay as they are. -/
theorem Bounded.evolve (h : e.Bounded) (hst : e'.streams.length ≤ e.streams.length)
    (hlanes : e'.output = e.output ∧ e'.control = e.control ∧ e'.writer = e.writer)
    (hw : e'.window = e.window)
    (hacq : (e'.gens.map Gen.acquired).sum ≤ (e.gens.map Gen.acquired).sum)
    (hg : ∀ {i : Nat} {g : Gen}, e'.gens[i]? = some g → g.Within e.window) : e'.Bounded := by
  obtain ⟨ho, hc, hwr⟩ := hlanes
  exact {
    streams := Nat.le_trans hst h.streams
    output := ho ▸ h.output
    control := hc ▸ h.control
    lanes := hc ▸ h.lanes
    used := by
      have hused := h.used
      simp only [outputUsed, ho, hwr] at hused ⊢
      omega
    within := fun hi => hw ▸ hg hi }

/-- Fields that the limits do not read. -/
theorem Bounded.congr (h : e.Bounded)
    (hsame : (e'.streams, e'.gens, e'.output, e'.control, e'.writer, e'.window) =
      (e.streams, e.gens, e.output, e.control, e.writer, e.window)) : e'.Bounded := by
  simp only [Prod.mk.injEq] at hsame
  obtain ⟨hs, hg, ho, hc, hwr, hw⟩ := hsame
  exact h.evolve (by rw [hs]) ⟨ho, hc, hwr⟩ hw (by rw [hg]) fun hi => h.within (hg ▸ hi)

/-- One generation changes, and hands records over: what it acquires and hands over beyond what it
had acquired is within the budget. -/
theorem Bounded.push {i : Nat} {g : Gen} {rs : List Rec} (h : e.Bounded)
    (hg : e.gens[i]? = some g)
    (hused : e.outputUsed + (f g).acquired + (rs.map Rec.cost).sum ≤ outputBudget + g.acquired)
    (hlen : e.output.length + rs.length ≤ laneCapacity) (hok : (f g).Within e.window) :
    Bounded { e with gens := e.gens.modify i f, output := e.output ++ rs } := by
  exact {
    streams := h.streams
    output := by simpa using hlen
    control := h.control
    lanes := h.lanes
    used := by
      have hsum := sum_map_modify Gen.acquired f hg
      simp only [outputUsed, List.map_append, List.sum_append] at hused ⊢
      omega
    within := fun {j} _ hj => by
      by_cases hji : j = i
      · subst hji
        rw [getElem?_modify_self hg] at hj
        cases hj
        exact hok
      · rw [getElem?_modify_ne hji] at hj
        exact h.within hj }

/-- One generation changes, and what it acquires is within the budget. -/
theorem Bounded.acquire {i : Nat} {g : Gen} (h : e.Bounded) (hg : e.gens[i]? = some g)
    (hused : e.outputUsed + (f g).acquired ≤ outputBudget + g.acquired)
    (hok : (f g).Within e.window) : Bounded { e with gens := e.gens.modify i f } := by
  have hpush : Bounded { e with gens := e.gens.modify i f, output := e.output ++ [] } :=
    h.push hg hused h.output hok
  rwa [List.append_nil] at hpush

/-- One generation changes, and acquires nothing. -/
theorem Bounded.modify {i : Nat} {g : Gen} (h : e.Bounded) (hg : e.gens[i]? = some g)
    (hacq : (f g).acquired ≤ g.acquired) (hok : (f g).Within e.window) :
    Bounded { e with gens := e.gens.modify i f } := by
  have hused := h.used
  exact h.acquire hg (by omega) hok

theorem Bounded.finish (h : e.Bounded) (hw : e.Wf) (sid epoch : Nat) (preserve : Bool) :
    (e.finish sid epoch preserve).1.Bounded := by
  rcases e.finish_cases sid epoch preserve with ⟨heq, -⟩ | ⟨i, hget, -, heq⟩
  · rw [heq]
    exact h
  · rw [heq]
    obtain ⟨g, hg, -⟩ := hw.isGen_of_get hget
    have hcancel := h.modify hg (Nat.le_of_eq (g.acquired_cancel preserve))
      ((h.within hg).cancel preserve)
    refine hcancel.evolve ?_ ⟨rfl, rfl, rfl⟩ rfl (Nat.le_refl _) hcancel.within
    exact List.length_filter_le _ _

theorem Bounded.settle (h : e.Bounded) (n : Negotiation) : (e.settle n).Bounded := by
  unfold Endpoint.settle
  split
  · exact h.congr rfl
  · exact h

theorem Bounded.shutdown (h : e.Bounded) : e.shutdown.Bounded := by
  refine Bounded.settle ?_ _
  refine h.evolve (Nat.zero_le _) ⟨rfl, rfl, rfl⟩ rfl (Nat.le_of_eq ?_) fun hj => ?_
  · refine congrArg List.sum (List.ext_getElem? fun j => ?_)
    rw [List.getElem?_map, List.getElem?_map, List.getElem?_mapIdx]
    cases e.gens[j]? with
    | none => rfl
    | some g => cases e.registered j <;> simp [Gen.acquired_cancel]
  · rw [List.getElem?_mapIdx] at hj
    obtain ⟨g, hg, rfl⟩ := Option.map_eq_some_iff.mp hj
    split
    · exact (h.within hg).cancel false
    · exact h.within hg

theorem Bounded.stop (h : e.Bounded) : e.stop.Bounded :=
  h.shutdown.congr rfl

theorem allocate_room {sid : Nat} {peer : Option Nat} {pre : Bytes}
    (ha : e.allocate sid peer pre task = .ok e') :
    e.streams.length < maxStreams ∧ e.reserved + e.window.bytes ≤ receiveBudget := by
  revert ha
  fun_cases allocate e sid peer pre task <;> intro ha <;> cases ha
  rename_i hmax hres
  exact ⟨Nat.lt_of_not_le hmax, Nat.le_of_not_lt hres⟩

theorem Bounded.allocate {sid : Nat} {peer : Option Nat} {pre : Bytes} (h : e.Bounded)
    (ha : e.allocate sid peer pre task = .ok e')
    (ht : task = .connecting ∨ ∃ target, task = .opening target false) : e'.Bounded := by
  have hroom := (allocate_room ha).1
  obtain ⟨-, -, -, rfl⟩ := allocate_ok ha
  have hacq : (e.fresh sid peer pre task).acquired = 0 := by
    rcases ht with rfl | ⟨target, rfl⟩ <;> rfl
  exact {
    streams := hroom
    output := h.output
    control := h.control
    lanes := h.lanes
    used := by
      have hused := h.used
      simp only [outputUsed, List.map_append, List.map_cons, List.map_nil,
        List.sum_append, List.sum_singleton, hacq] at hused ⊢
      omega
    within := fun hg => by
      rcases getElem?_append_one hg with hg | ⟨-, rfl⟩
      · exact h.within hg
      · exact ⟨fun _ => rfl, rfl⟩ }

/-- A record enters the control lane. -/
theorem Bounded.tryControl {o : Output} (h : e.Bounded) (ht : e.tryControl o = some e')
    (ho : ∀ r, o = .record r → r.msg.isOutput = false) : e'.Bounded := by
  unfold Endpoint.tryControl at ht
  split at ht
  · rename_i hroom
    cases ht
    simp only [controlRoom, Bool.and_eq_true, decide_eq_true_eq] at hroom
    refine { h with control := ?_, lanes := fun r hr => ?_ }
    · simp only [List.length_append, List.length_singleton]
      omega
    · rcases List.mem_append.mp hr with hr | hr
      · exact h.lanes r hr
      · exact ho r (List.mem_singleton.mp hr).symm
  · cases ht

theorem Bounded.readerControl {r : Rec} (h : e.Bounded) (hr : r.msg.isOutput = false) :
    (e.readerControl r).Bounded := by
  unfold Endpoint.readerControl
  split
  · rename_i e' htc
    have hctl := h.tryControl htc fun x hx => by cases hx; exact hr
    exact hctl.congr rfl
  · exact .stop (h.congr rfl)

/-- The task of a generation ends, or goes over to its reset: it gives back what it had acquired. -/
theorem Bounded.endTask {i : Nat} {g : Gen} (h : e.Bounded) (hg : e.gens[i]? = some g)
    (ht : task = .resetting ∨ task = .ended) : (e.setTask i task).Bounded := by
  have hzero : Gen.acquired { g with task := task } = 0 := Gen.acquired_done ht
  refine h.modify hg (by rw [hzero]; exact Nat.zero_le _) ⟨fun hun => ?_, (h.within hg).limit⟩
  rcases ht with rfl | rfl <;> cases hun

theorem Bounded.finishTask {i : Nat} {g : Gen} {preserve : Bool} (h : e.Bounded) (hw : e.Wf)
    (hg : e.gens[i]? = some g) (ht : task = .resetting ∨ task = .ended) :
    ((e.finish g.sid g.epoch preserve).1.setTask i task).Bounded := by
  obtain ⟨g', hg'⟩ := getElem?_finish g.sid g.epoch preserve hg
  exact (h.finish hw _ _ _).endTask hg' ht

/-- A step of an uplink. -/
theorem Bounded.up {i : Nat} {g : Gen} {a : UpAction} {side : Side} {o : Option Msg}
    (h : e.Bounded) (hw : e.Wf) (hg : e.gens[i]? = some g) (ht : g.task = .bridging)
    (hok : e.allowsUp g.side.up a = true) (hs : g.side.stepUp a = some (side, o)) :
    Bounded { e.setSide i side with
      output := e.output ++ o.toList.map fun m => Rec.mk g.sid m (some i) } := by
  obtain ⟨-, hspec, -⟩ := (hw.sides i g hg).stepUp hs
  have hlim : side.flow.receiveLimit = g.side.flow.receiveLimit := by rw [hspec.frame]
  have hacq : side.up.acquired + optSum Msg.cost o ≤
      g.side.up.acquired + if a = .acquire then g.side.up.needs else 0 := by
    obtain ⟨⟨u, f, o'⟩, hstep, hr⟩ := Option.map_eq_some_iff.mp hs
    cases hr
    exact Uplink.step_acquired hstep
  -- what `acquire` adds is what the budget had left
  have hbudget : e.outputUsed + (if a = .acquire then g.side.up.needs else 0) ≤ outputBudget := by
    by_cases ha : a = .acquire
    · subst ha
      rw [if_pos rfl]
      simp only [allowsUp, canAcquire] at hok
      unfold Uplink.needs
      split at hok <;> simp_all
    · rw [if_neg ha]
      exact h.used
  have hcost : ((o.toList.map fun m => Rec.mk g.sid m (some i)).map Rec.cost).sum =
      optSum Msg.cost o := by
    cases o <;> simp [optSum, Rec.cost, Msg.cost]
  have hroom : e.output.length + o.toList.length ≤ laneCapacity := by
    cases o with
    | none => exact h.output
    | some m =>
      obtain ⟨⟨u, f, o'⟩, hstep, hr⟩ := Option.map_eq_some_iff.mp hs
      cases hr
      obtain rfl := Uplink.step_emits hstep
      simp only [allowsUp, canEmit, Bool.and_eq_true, decide_eq_true_eq] at hok
      exact hok.2
  refine h.push hg ?_ (by simpa using hroom) ⟨fun hun => ?_, hlim.trans (h.within hg).limit⟩
  · rw [hcost, Gen.acquired_bridging ht, Gen.acquired_bridging (g := { g with side := side }) ht]
    dsimp only
    omega
  · rw [show g.task = _ from ht] at hun
    cases hun

/-- A step of a downlink. -/
theorem Bounded.down {i : Nat} {g : Gen} {a : DownAction} {side : Side} {o : Option Msg}
    {exhausted : Bool} (h : e.Bounded) (hw : e.Wf) (hg : e.gens[i]? = some g)
    (hok : e.allowsDown a = true) (hs : g.side.stepDown a = some (side, o)) :
    Bounded { e.setSide i side with
      control := e.control ++ o.toList.map fun m => Output.record (Rec.mk g.sid m (some i))
      exhausted := exhausted } := by
  obtain ⟨-, hspec, hup⟩ := (hw.sides i g hg).stepDown hs
  have hwin := h.within hg
  have hside : (e.setSide i side).Bounded := by
    refine h.modify hg (Nat.le_of_eq ?_) ⟨fun hun => ?_, hspec.frame.receiveLimit.trans hwin.limit⟩
    · unfold Gen.acquired
      simp only [hup]
    · exact (congrArg Uplink.phase hup).trans (hwin.unstarted hun)
  rcases hspec.emits with rfl | ⟨amount, rfl, -⟩
  · rw [Option.toList_none, List.map_nil, List.append_nil]
    exact hside.congr rfl
  · have hroom : e.control.length < laneCapacity := by
      obtain ⟨⟨d, f, o'⟩, hstep, hr⟩ := Option.map_eq_some_iff.mp hs
      cases hr
      obtain rfl := Downlink.step_emits hstep
      simp only [allowsDown, controlRoom, Bool.and_eq_true, decide_eq_true_eq]
        at hok
      exact hok.2
    exact { hside with
      control := by
        simp only [Option.toList_some, List.map_cons, List.map_nil, List.length_append,
          List.length_singleton]
        omega
      lanes := fun r hr => by
        rcases List.mem_append.mp hr with hr | hr
        · exact h.lanes r hr
        · cases List.mem_singleton.mp hr
          rfl }

theorem Bounded.taskStep {i : Nat} {g : Gen} {a : TaskAction} (h : e.Bounded) (hw : e.Wf)
    (hg : e.gens[i]? = some g) (hs : e.taskStep i g a = some e') : e'.Bounded := by
  obtain ⟨hreading, hlimit⟩ := h.within hg
  revert hs
  fun_cases Endpoint.taskStep e i g a <;> intro hs <;> try cases hs
  case case1 target htask hroom =>
    simp only [canAcquire, Bool.and_eq_true, decide_eq_true_eq] at hroom
    have hph := hreading (by rw [htask]; rfl)
    refine h.acquire hg ?_ ⟨fun _ => hph, hlimit⟩
    simp only [Gen.acquired]
    omega
  case case4 target htask hroom r =>
    simp only [canEmit, Bool.and_eq_true, decide_eq_true_eq] at hroom
    have hph := hreading (by rw [htask]; rfl)
    -- the bytes that `OPEN` had acquired go into the lane with it
    have hacq : g.acquired = target.length + 9 := by simp only [Gen.acquired, htask]
    have hzero : Gen.acquired { g with task := .bridging } = 0 := by
      rw [Gen.acquired_bridging rfl, Uplink.acquired, hph]
    have hused := h.used
    refine h.push hg ?_ hroom.2 ⟨fun hun => (by cases hun), hlimit⟩
    simp only [r, hzero, hacq, List.map_cons, List.map_nil, List.sum_singleton, Rec.cost,
      Msg.payload]
    omega
  case case7 | case19 => exact h.finishTask hw hg (Or.inr rfl)
  case case9 htask =>
    have hph := hreading (by rw [htask]; rfl)
    refine h.modify hg ?_ ⟨fun hun => (by cases hun), hlimit⟩
    rw [Gen.acquired_bridging rfl, Uplink.acquired, hph]
    exact Nat.zero_le _
  case case11 | case21 =>
    refine h.finishTask hw hg ?_
    split
    · exact Or.inl rfl
    · exact Or.inr rfl
  case case13 => exact h.endTask hg (Or.inr rfl)
  case case15 a hc =>
    obtain ⟨⟨side, o⟩, hstep, rfl⟩ := Option.map_eq_some_iff.mp hs
    exact h.up hw hg hc.1 hc.2 hstep
  case case17 a hc =>
    obtain ⟨⟨side, o⟩, hstep, rfl⟩ := Option.map_eq_some_iff.mp hs
    exact h.down hw hg hc.2 hstep
  case case23 =>
    unfold resetTask
    split
    · rename_i e' htc
      have hctl := h.tryControl htc fun r hr => by cases hr; rfl
      rw [tryControl_eq_some htc] at hctl ⊢
      exact hctl.endTask hg (Or.inr rfl)
    · have hnote : e.noteExhausted.Bounded := h.congr rfl
      obtain ⟨g', hg', -⟩ := gen_of_task (e := e.noteExhausted.shutdown)
        ((congrArg (·[i]?) (tasks_shutdown _)).trans (tasks_get hg))
      exact hnote.shutdown.endTask hg' (Or.inr rfl)

theorem Bounded.readerStep {a : ReaderAction} (h : e.Bounded) (hw : e.Wf) (hs : e.ReaderStep a e') :
    e'.Bounded := by
  have hset : ∀ p : ReaderPhase, Bounded { e with reader := p } := fun p =>
    h.congr rfl
  cases hs with
  | ignored => exact h
  | settled f window => exact h.settle _
  | capability f window =>
    refine Bounded.readerControl ?_ rfl
    exact h.congr rfl
  | opened f peer e' _ _ _ ha => exact h.allocate ha (Or.inl rfl)
  | unknown | replied => exact h.readerControl rfl
  | aborted f i g =>
    exact (h.finish hw f.sid g.epoch false).congr rfl
  | applied f i g side hr hg hf hd =>
    have hwin := h.within hg
    have hup := Side.dispatch_up hd
    have hside : (e.setSide i side).Bounded := by
      refine h.modify hg (Nat.le_of_eq ?_)
        ⟨fun hun => ?_, (Gen.keeps_dispatch hd).limit.trans hwin.limit⟩
      · unfold Gen.acquired
        simp only [hup]
      · exact (congrArg Uplink.phase hup).trans (hwin.unstarted hun)
    exact hside.congr rfl
  | removed f i g =>
    exact (h.finish hw f.sid g.epoch false).congr rfl
  | ponged payload hr hroom =>
    have htc : e.tryControl (.pong payload) =
        some { e with control := e.control ++ [.pong payload] } :=
      if_pos hroom
    exact h.tryControl htc fun r hr => by cases hr
  | pingFailed => exact h.stop
  | _ => exact hset _

theorem outputUsed_eq (e : Endpoint) : e.outputUsed =
    (e.output.map Rec.cost).sum + (e.gens.map Gen.acquired).sum + e.writer.permits := by
  unfold outputUsed WriterPhase.permits WriterPhase.hand
  rcases e.writer with _ | _ | ⟨n, r | payload⟩ | ⟨n, r, c, v⟩ <;> simp

theorem Bounded.writerStep {a : WriterAction} (h : e.Bounded) (hs : e.writerStep a = some e') :
    e'.Bounded := by
  have hused := h.used
  rw [outputUsed_eq] at hused
  have hle : ∀ r : Rec, r.permits ≤ r.cost := fun r => by
    unfold Rec.permits
    split
    · exact Nat.le_refl _
    · exact Nat.zero_le _
  -- output only leaves the lane, and what the writer has in hand came from there
  have hrule : e'.output.length ≤ e.output.length → (∃ pre, e.control = pre ++ e'.control) →
      (e'.output.map Rec.cost).sum + e'.writer.permits ≤
        (e.output.map Rec.cost).sum + e.writer.permits → e'.Bounded := by
    rintro ho ⟨pre, hc⟩ hsum
    rw [writerStep_eq hs] at ho hc hsum ⊢
    have hlen := congrArg List.length hc
    have hctl := h.control
    rw [List.length_append] at hlen
    exact { h with
      output := Nat.le_trans ho h.output
      control := by dsimp only at hlen ⊢; omega
      lanes := fun r hr => h.lanes r (hc ▸ List.mem_append_right _ hr)
      used := by
        rw [outputUsed_eq]
        dsimp only at hsum ⊢
        omega }
  cases writerStep_spec hs with
  | tookControl n o rest hnil hc =>
    refine hrule (Nat.le_refl _) ⟨[o], hc⟩ ?_
    -- a record of the control lane holds nothing
    have hzero : WriterPhase.permits (.took n o) = 0 := by
      cases o with
      | pong payload => rfl
      | record x =>
        have hx := h.lanes x (hc ▸ List.mem_cons_self)
        simp [WriterPhase.permits, WriterPhase.hand, Rec.permits, hx]
    simp only [hzero]
    omega
  | tookOutput n x rest hnil ho =>
    refine hrule (by simp [ho]) ⟨[], rfl⟩ ?_
    have := hle x
    simp only [WriterPhase.permits, WriterPhase.hand, ho, List.map_cons, List.map_nil,
      List.sum_cons, List.sum_nil]
    omega
  | moved w hnil hw =>
    exact hrule (Nat.le_refl _) ⟨[], rfl⟩ (by simp [WriterPhase.permits, hnil, hw])
  | looked n x hw =>
    exact hrule (Nat.le_refl _) ⟨[], rfl⟩ (by simp [WriterPhase.permits, WriterPhase.hand, hw])
  | dropped | passed =>
    exact hrule (Nat.le_refl _) ⟨[], rfl⟩ (by simp [WriterPhase.permits, WriterPhase.hand])

theorem Bounded.step {a : Action} (h : e.Bounded) (hw : e.Wf) (hs : e.step a = some e') :
    e'.Bounded := by
  cases step_spec hs with
  | fetched | unprepared => exact h.congr rfl
  | prepared k p target e' _ _ ha =>
    have herase : Bounded { e with opens := e.opens.eraseIdx k } :=
      h.congr rfl
    exact herase.allocate ha (Or.inr ⟨target, rfl⟩)
  | task i g a e' hg hs => exact h.taskStep hw hg hs
  | read a e' _ hs => exact h.readerStep hw hs
  | write a e' _ hs => exact h.writerStep hs
  | timeout => exact h.settle _
  | stop => exact h.stop

end Endpoint

/-! ## 2. What refers to a flow -/

/-- The generation that the reader has in hand. -/
def ReaderPhase.gen? : ReaderPhase → Option Nat
  | .got _ i => some i
  | .refused _ i => some i
  | .resetting _ gen => gen
  | _ => none

/-- The generation that the writer found registered. -/
def WriterPhase.current? : WriterPhase → Option Nat
  | .looked _ _ current _ => current
  | _ => none

/-- **Something refers to the flow of generation `i`**: the registry, its task, a queued record or
one in the writer's hand, the reader, or the writer's lookup. -/
def Endpoint.Refers (e : Endpoint) (i : Nat) : Prop :=
  e.registered i = true ∨ (∃ task, e.tasks[i]? = some task ∧ task ≠ .ended) ∨
  (∃ r, e.Queued r ∧ r.gen = some i) ∨ e.reader.gen? = some i ∨ e.writer.current? = some i

theorem control_any_iff {control : List Output} : (control.any fun o => match o with
    | .record r => decide (r.gen = some i)
    | .pong _ => false) = true ↔ ∃ r, .record r ∈ control ∧ r.gen = some i := by
  rw [List.any_eq_true]
  constructor
  · rintro ⟨o, ho, hr⟩
    cases o with
    | record r => exact ⟨r, ho, of_decide_eq_true hr⟩
    | pong payload => cases hr
  · rintro ⟨r, hr, hgen⟩
    exact ⟨.record r, hr, decide_eq_true hgen⟩

theorem reader_holds_iff {reader : ReaderPhase} : (match reader with
    | .got _ j => decide (i = j)
    | .refused _ j => decide (i = j)
    | .resetting _ j => decide (j = some i)
    | _ => false) = true ↔ reader.gen? = some i := by
  rcases reader with _ | ⟨f, j⟩ | ⟨f, j⟩ | sid | ⟨sid, gen⟩ <;>
    simp [ReaderPhase.gen?, eq_comm]

theorem writer_holds_iff {writer : WriterPhase} : (match writer with
    | .took _ (.record r) => decide (r.gen = some i)
    | .looked _ r current _ => decide (r.gen = some i) || decide (current = some i)
    | _ => false) = true ↔ (∃ r ∈ writer.hand, r.gen = some i) ∨ writer.current? = some i := by
  rcases writer with _ | _ | ⟨n, r | payload⟩ | ⟨n, r, c, v⟩ <;>
    simp [WriterPhase.hand, WriterPhase.current?]

namespace Endpoint

theorem holds_iff (hi : i < e.gens.length) : e.holds i = true ↔ e.Refers i := by
  have hgen := List.getElem?_eq_getElem hi
  have htask : (e.gens[i]?.map Gen.task != some .ended) = true ↔
      ∃ task, e.tasks[i]? = some task ∧ task ≠ .ended := by
    rw [tasks_get hgen, hgen]
    simp
  have hout : (e.output.any fun r => decide (r.gen = some i)) = true ↔
      ∃ r ∈ e.output, r.gen = some i := by simp only [List.any_eq_true, decide_eq_true_eq]
  simp only [holds, Bool.or_eq_true, Refers, Queued]
  refine (or_congr (or_congr (or_congr (or_congr (or_congr Iff.rfl htask) hout) control_any_iff)
    reader_holds_iff) writer_holds_iff).trans ?_
  constructor
  · rintro (((((h | h) | ⟨r, hr, hg⟩) | ⟨r, hr, hg⟩) | h) | ⟨r, hr, hg⟩ | h)
    · exact Or.inl h
    · exact Or.inr (Or.inl h)
    · exact Or.inr (Or.inr (Or.inl ⟨r, Or.inl hr, hg⟩))
    · exact Or.inr (Or.inr (Or.inl ⟨r, Or.inr (Or.inl hr), hg⟩))
    · exact Or.inr (Or.inr (Or.inr (Or.inl h)))
    · exact Or.inr (Or.inr (Or.inl ⟨r, Or.inr (Or.inr hr), hg⟩))
    · exact Or.inr (Or.inr (Or.inr (Or.inr h)))
  · rintro (h | h | ⟨r, hr | hr | hr, hg⟩ | h | h)
    · exact Or.inl (Or.inl (Or.inl (Or.inl (Or.inl h))))
    · exact Or.inl (Or.inl (Or.inl (Or.inl (Or.inr h))))
    · exact Or.inl (Or.inl (Or.inl (Or.inr ⟨r, hr, hg⟩)))
    · exact Or.inl (Or.inl (Or.inr ⟨r, hr, hg⟩))
    · exact Or.inr (Or.inl ⟨r, hr, hg⟩)
    · exact Or.inl (Or.inr h)
    · exact Or.inr (Or.inr h)

/-- What the reader has in hand, it had in hand before or found registered. -/
theorem reader_refers {a : ReaderAction} (hs : e.ReaderStep a e') (hr : e'.reader.gen? = some i) :
    e.reader.gen? = some i ∨ e.registered i = true := by
  cases hs with
  | ignored | ponged => exact Or.inl hr
  | settled f window => exact Or.inl (e.reader_settle _ ▸ hr)
  | capability | unknown | replied => rw [reader_readerControl] at hr; cases hr
  | opened f peer e' _ _ _ ha =>
    obtain ⟨-, -, -, rfl⟩ := allocate_ok ha
    exact Or.inl hr
  | rejected | aborted | applied => cases hr
  | got f j _ hget =>
    cases hr
    exact Or.inr (registered_of_get hget)
  | refused f j g x hrd => exact Or.inl (by rw [hrd]; exact hr)
  | removed f j g hrd =>
    dsimp only at hr
    split at hr
    · exact Or.inl (by rw [hrd]; exact hr)
    · cases hr
  | looked sid hrd => exact Or.inr (registered_of_get (show e.get sid = some i from hr))
  | pingFailed => exact Or.inl (e.reader_shutdown ▸ hr)

/-- **No flow comes back**: what refers to an existing flow after a step referred to it before. -/
theorem Wf.refers_step (h : e.Wf) (hs : e.step a = some e') (hi : i < e.gens.length)
    (hr : e'.Refers i) : e.Refers i := by
  rcases hr with hreg | ⟨task, htask, hne⟩ | ⟨r, hq, hgen⟩ | hrd | hwr
  · exact Or.inl ((h.grows hs).registered i hi hreg)
  · have hg := List.getElem?_eq_getElem hi
    obtain ⟨g', hg', ht'⟩ := gen_of_task htask
    refine Or.inr (Or.inl ⟨_, tasks_get hg, fun hended => hne ?_⟩)
    exact ht'.symm.trans (h.ended_step hs hg hg' hended)
  · rcases h.queued_step hs hq with hq | hnew
    · exact Or.inr (Or.inr (Or.inl ⟨r, hq, hgen⟩))
    · cases hnew with
      | task j g b _ hg ht hj =>
        obtain rfl : j = i := Option.some.inj (hj.symm.trans hgen)
        exact Or.inr (Or.inl ⟨_, tasks_get hg, ht⟩)
      | reply sid gen hrd =>
        refine Or.inr (Or.inr (Or.inr (Or.inl ?_)))
        rw [hrd]
        exact hgen
      | unscoped b _ hnone => rw [hnone] at hgen; cases hgen
  · rcases reader_step hs with ⟨b, -, hrs⟩ | heq
    · rcases reader_refers hrs hrd with hrd | hreg
      · exact Or.inr (Or.inr (Or.inr (Or.inl hrd)))
      · exact Or.inl hreg
    · exact Or.inr (Or.inr (Or.inr (Or.inl (heq ▸ hrd))))
  · rcases writer_step hs with ⟨b, -, hws⟩ | ⟨heq, -⟩
    · cases writerStep_spec hws with
      | moved w _ _ hno =>
        cases w with
        | looked n r c v => exact absurd rfl (hno n r c v)
        | _ => cases hwr
      | looked n x => exact Or.inl (registered_of_get (show e.get x.sid = some i from hwr))
      | _ => cases hwr
    · exact Or.inr (Or.inr (Or.inr (Or.inr (heq ▸ hwr))))

end Endpoint

/-! ## 3. The ledger -/

/-- **The endpoint with its receive budget.**  `permits` are the available permits of
`receive_budget`, `live` the generations whose `Flow` has not been dropped; `closing` records that a
`shutdown` has stored `closed`. -/
structure Ledger where
  ep : Endpoint
  closing : Bool
  permits : Nat
  live : List Nat

variable {l l' : Ledger}

def Ledger.new (client : Bool) (window : MuxWindow) (chunk : ChunkSize) : Ledger :=
  ⟨Endpoint.new client window chunk, false, receiveBudget, []⟩

/-- The open that an action makes fails in `allocate`: the caller of `open_stream` has its error,
the reader an `OPEN` to reject. -/
def Endpoint.refuse (e : Endpoint) : Action → Endpoint
  | .openPrepare k => { e with opens := e.opens.eraseIdx k }
  | .read (.receive f) => { e with reader := .rejecting f.sid }
  | _ => e

inductive LedgerAction
  /-- a step of the endpoint; if it allocates, `closed` and the semaphore decide -/
  | act (a : Action)
  /-- a `shutdown` stores `closed` -/
  | close
  /-- it has the lock, and drains the streams -/
  | drain
  /-- between the two: `send` finds the output side closed -/
  | sendFail (i : Nat)
  /-- the last reference to a flow is gone: it is dropped, and its permits return -/
  | drop (i : Nat)
  deriving DecidableEq, Repr

def Ledger.act (l : Ledger) (a : Action) (e' : Endpoint) : Ledger :=
  if e'.gens.length = l.ep.gens.length then { l with ep := e' }
  else if l.closing ∨ l.permits < l.ep.window.bytes then { l with ep := l.ep.refuse a }
  else { l with
    ep := e'
    permits := l.permits - l.ep.window.bytes
    live := l.ep.gens.length :: l.live }

def Ledger.step (l : Ledger) : LedgerAction → Option Ledger
  | .act a => (l.ep.step a).map (l.act a)
  | .close => some { l with closing := true }
  | .drain => if l.closing then some { l with ep := l.ep.shutdown } else none
  | .sendFail i =>
    match l.ep.gens[i]? with
    | none => none
    | some g =>
      if l.closing ∧ g.task = .bridging then
        (g.side.stepUp .sendFailed).map fun r => { l with ep := l.ep.setSide i r.1 }
      else none
  | .drop i =>
    if i ∈ l.live ∧ l.ep.holds i = false then
      some { l with permits := l.permits + l.ep.window.bytes, live := l.live.erase i }
    else none

/-- An open that is cancelled or waits has nothing but resets queued. -/
def Endpoint.OpensQuiet (e : Endpoint) : Prop :=
  ∀ (i : Nat) (g : Gen), e.gens[i]? = some g → g.task.isOpening = true →
    ∀ r, e.Queued r → r.gen = some i → r.msg = .rst

/-- **The invariant of the ledger.** -/
structure Ledger.Inv (l : Ledger) : Prop where
  wf : l.ep.Wf
  bounded : l.ep.Bounded
  quiet : l.ep.OpensQuiet
  conserved : l.permits + l.ep.window.bytes * l.live.length = receiveBudget
  nodup : l.live.Nodup
  exists_live : ∀ i ∈ l.live, i < l.ep.gens.length
  held : ∀ i, i < l.ep.gens.length → l.ep.holds i = true → i ∈ l.live

theorem Ledger.Inv.new (client : Bool) (window : MuxWindow) (chunk : ChunkSize) :
    (Ledger.new client window chunk).Inv where
  wf := .new client window chunk
  bounded := .new client window chunk
  quiet i g hg := by simp [Ledger.new, Endpoint.new] at hg
  conserved := (congrArg (receiveBudget + ·) (Nat.mul_zero _)).trans (Nat.add_zero _)
  nodup := List.nodup_nil
  exists_live i hi := by cases hi
  held i hi := by simp [Ledger.new, Endpoint.new] at hi

theorem Endpoint.gens_length_step (hs : e.step a = some e') : e'.gens.length = e.gens.length ∨
      (e'.gens.length = e.gens.length + 1 ∧ e.closed = false) := by
  rcases Endpoint.gens_step hs with hsids | ⟨g, -, hadd⟩
  · exact Or.inl (length_of_sids hsids)
  · rw [hadd.gens, List.length_append]
    exact Or.inr ⟨rfl, hadd.opened⟩

theorem Endpoint.OpensQuiet.step (h : e.OpensQuiet) (hw : e.Wf) (hs : e.step a = some e') :
    e'.OpensQuiet := by
  intro i g' hg' hopen r hr hgen
  rcases hw.queued_step hs hr with hr | hnew
  · obtain ⟨g, hg, -⟩ := (hw.recs r hr.holdsRec).gen i hgen
    exact h i g hg (hw.opening_step hs hg hg' hopen) r hr hgen
  · cases hnew with
    | task j g b _ hg ht hj =>
      obtain rfl : j = i := Option.some.inj (hj.symm.trans hgen)
      -- in `open_stream` it queues nothing itself
      cases Endpoint.step_spec hs with
      | task _ g2 _ _ hg2 hts =>
        obtain ⟨hold, hqueue⟩ :=
          Endpoint.opening_taskStep hg2 (Endpoint.taskStep_spec hts) hg' hopen
        exact h j g2 hg2 hold r (hqueue r hr) hgen
    | reply sid gen => rfl
    | unscoped b _ hnone => rw [hnone] at hgen; cases hgen

/-- The state changes in a way that creates no flow and adds no reference to one. -/
structure Endpoint.Releases (e e' : Endpoint) : Prop where
  wf : e'.Wf
  bounded : e'.Bounded
  quiet : e'.OpensQuiet
  window : e'.window = e.window
  gens : e'.gens.length = e.gens.length
  refers : ∀ i, i < e.gens.length → e'.Refers i → e.Refers i

/-- The invariant of the ledger when no flow is created. -/
theorem Ledger.Inv.release (h : l.Inv) (hr : l.ep.Releases e') :
    Ledger.Inv { l with ep := e' } where
  wf := hr.wf
  bounded := hr.bounded
  quiet := hr.quiet
  conserved := by rw [hr.window]; exact h.conserved
  nodup := h.nodup
  exists_live i hi := by rw [hr.gens]; exact h.exists_live i hi
  held i hi hholds := by
    have hi' : i < l.ep.gens.length := hr.gens ▸ hi
    exact h.held i hi' ((Endpoint.holds_iff hi').mpr
      (hr.refers i hi' ((Endpoint.holds_iff hi).mp hholds)))

theorem Ledger.Inv.refuse (h : l.Inv) (a : Action) : l.ep.Releases (l.ep.refuse a) := by
  have hself : l.ep.Releases l.ep := ⟨h.wf, h.bounded, h.quiet, rfl, rfl, fun _ _ hr => hr⟩
  cases a with
  | openPrepare k =>
    exact {
      wf := h.wf.congr rfl
      bounded := h.bounded.congr rfl
      quiet := h.quiet
      window := rfl
      gens := rfl
      refers := fun _ _ hr => hr }
  | read b =>
    cases b with
    | receive f =>
      exact {
        wf := h.wf.setReader trivial
        bounded := h.bounded.congr rfl
        quiet := h.quiet
        window := rfl
        gens := rfl
        refers := fun i _ hr => by
          rcases hr with hr | hr | hr | hr | hr
          · exact Or.inl hr
          · exact Or.inr (Or.inl hr)
          · exact Or.inr (Or.inr (Or.inl hr))
          · cases hr
          · exact Or.inr (Or.inr (Or.inr (Or.inr hr))) }
    | _ => exact hself
  | _ => exact hself

theorem Ledger.Inv.shutdown (h : l.Inv) : l.ep.Releases l.ep.shutdown where
  wf := h.wf.shutdown
  bounded := h.bounded.shutdown
  quiet i g hg ho r hr hgen := by
    have htask := Endpoint.tasks_get hg
    rw [Endpoint.tasks_shutdown] at htask
    obtain ⟨g', hg', heq⟩ := Endpoint.gen_of_task htask
    exact h.quiet i g' hg' (heq ▸ ho) r (Endpoint.queued_shutdown hr) hgen
  window := congrArg Endpoint.Rest.window l.ep.rest_shutdown
  gens := by
    have hlen := congrArg List.length l.ep.tasks_shutdown
    simpa only [Endpoint.tasks, List.length_map] using hlen
  refers i _ hr := by
    have hwriter : l.ep.shutdown.writer = l.ep.writer := congrArg (·.writer) l.ep.rest_shutdown
    rcases hr with hr | hr | ⟨r, hq, hgen⟩ | hr | hr
    · simp [Endpoint.registered, Endpoint.streams_shutdown] at hr
    · rw [Endpoint.tasks_shutdown] at hr
      exact Or.inr (Or.inl hr)
    · exact Or.inr (Or.inr (Or.inl ⟨r, Endpoint.queued_shutdown hq, hgen⟩))
    · rw [Endpoint.reader_shutdown] at hr
      exact Or.inr (Or.inr (Or.inr (Or.inl hr)))
    · rw [hwriter] at hr
      exact Or.inr (Or.inr (Or.inr (Or.inr hr)))

theorem Ledger.Inv.sendFail {side : Side} {o : Option Msg} (h : l.Inv)
    (hg : l.ep.gens[i]? = some g) (ht : g.task = .bridging)
    (hs : g.side.stepUp .sendFailed = some (side, o)) : l.ep.Releases (l.ep.setSide i side) := by
  obtain ⟨hinv, hspec, -⟩ := (h.wf.sides i g hg).stepUp hs
  have hkeeps := Gen.keeps_stepUp (h.wf.sides i g hg) hs
  have htasks : (l.ep.setSide i side).tasks = l.ep.tasks := Lists.map_modify fun _ => rfl
  have hacq : side.up.acquired ≤ g.side.up.acquired := by
    obtain ⟨⟨u, f, o'⟩, hstep, hr⟩ := Option.map_eq_some_iff.mp hs
    cases hr
    have hle := Uplink.step_acquired hstep
    simp only [reduceCtorEq, if_false] at hle
    exact Nat.le_trans (Nat.le_add_right _ _) hle
  exact {
    wf := (h.wf.pump hg hkeeps).1
    bounded := by
      refine h.bounded.modify hg ?_ ⟨fun hun => ?_, hkeeps.limit.trans (h.bounded.within hg).limit⟩
      · rw [Gen.acquired_bridging ht, Gen.acquired_bridging (g := { g with side := side }) ht]
        exact hacq
      · rw [show g.task = _ from ht] at hun
        cases hun
    quiet := fun j g' hg' ho r hr hgen => by
      have htask := Endpoint.tasks_get hg'
      rw [htasks] at htask
      obtain ⟨g2, hg2, heq⟩ := Endpoint.gen_of_task htask
      exact h.quiet j g2 hg2 (heq ▸ ho) r hr hgen
    window := rfl
    gens := List.length_modify _ _ _
    refers := fun j _ hr => by
      rcases hr with hr | hr | hr
      · exact Or.inl hr
      · rw [htasks] at hr
        exact Or.inr (Or.inl hr)
      · exact Or.inr (Or.inr hr) }

/-- **Every step keeps the invariant.** -/
theorem Ledger.Inv.step {a : LedgerAction} (h : l.Inv) (hs : l.step a = some l') : l'.Inv := by
  revert hs
  fun_cases Ledger.step l a <;> intro hs <;> try cases hs
  · rename_i a
    obtain ⟨e', hstep, rfl⟩ := Option.map_eq_some_iff.mp hs
    have hwf' := h.wf.step hstep
    have hb' := h.bounded.step h.wf hstep
    have hq' := h.quiet.step h.wf hstep
    have hwin := (h.wf.grows hstep).window
    unfold Ledger.act
    split
    · rename_i hlen
      exact h.release ⟨hwf', hb', hq', hwin, hlen, fun i hi hr => h.wf.refers_step hstep hi hr⟩
    · rename_i hlen
      split
      · exact h.release (h.refuse a)
      · rename_i hroom
        rw [not_or, Nat.not_lt] at hroom
        have hnew : e'.gens.length = l.ep.gens.length + 1 :=
          ((Endpoint.gens_length_step hstep).resolve_left hlen).1
        have hcons := h.conserved
        exact {
          wf := hwf'
          bounded := hb'
          quiet := hq'
          conserved := by
            simp only [List.length_cons, hwin, Nat.mul_succ]
            omega
          nodup := List.nodup_cons.mpr
            ⟨fun hm => Nat.lt_irrefl _ (h.exists_live _ hm), h.nodup⟩
          exists_live := fun i hi => by
            simp only [hnew]
            rcases List.mem_cons.mp hi with rfl | hi
            · exact Nat.lt_succ_self _
            · exact Nat.lt_succ_of_lt (h.exists_live i hi)
          held := fun i hi hholds => by
            rcases Nat.lt_or_ge i l.ep.gens.length with hlt | hge
            · refine List.mem_cons_of_mem _ (h.held i hlt ((Endpoint.holds_iff hlt).mpr ?_))
              exact h.wf.refers_step hstep hlt ((Endpoint.holds_iff hi).mp hholds)
            · have hlast : i = l.ep.gens.length := by
                have hi' : i < e'.gens.length := hi
                omega
              rw [hlast]
              exact List.mem_cons_self }
  · exact { h with }
  · exact h.release h.shutdown
  · rename_i g hg hc
    obtain ⟨⟨side, o⟩, hstep, rfl⟩ := Option.map_eq_some_iff.mp hs
    exact h.release (h.sendFail hg hc.2 hstep)
  · rename_i i hc
    have hlen := List.length_erase_of_mem hc.1
    have hpos := List.length_pos_of_mem hc.1
    have hcons := h.conserved
    exact { h with
      conserved := by
        have hsplit : l.live.length = (l.live.erase i).length + 1 := by omega
        rw [hsplit, Nat.mul_succ] at hcons
        simp only
        omega
      nodup := h.nodup.erase i
      exists_live := fun j hj => h.exists_live j (List.mem_of_mem_erase hj)
      held := fun j hj hholds => by
        refine (List.mem_erase_of_ne fun hji => ?_).mpr (h.held j hj hholds)
        rw [hji] at hholds
        exact absurd (hc.2.symm.trans hholds) (by simp) }

theorem Ledger.Inv.reachable {client : Bool} {window : MuxWindow} {chunk : ChunkSize}
    (h : Reachable Ledger.step (Ledger.new client window chunk) l) : l.Inv :=
  Reachable.invariant h (.new client window chunk) fun _ _ _ hI hs => hI.step hs

/-! ## 4. Memory, opens, `shutdown` and `load` -/

/-- `RECEIVE_BACKING_FACTOR`. -/
def receiveBackingFactor : Nat := 2

/-- `compact_received_payload`: the payload and the capacity of the allocation that it retains, when
it is a slice of a frame of capacity `backingCapacity`. -/
def compactReceivedPayload (payload : Bytes) (backingCapacity : Nat) : Bytes × Nat :=
  if payload = [] then ([], 0)
  else if backingCapacity > payload.length * receiveBackingFactor then (payload, payload.length)
  else (payload, backingCapacity)

theorem compactReceivedPayload_le (payload : Bytes) (backingCapacity : Nat) :
    (compactReceivedPayload payload backingCapacity).2 ≤ 2 * payload.length := by
  unfold compactReceivedPayload receiveBackingFactor
  split
  · exact Nat.zero_le _
  · split
    · dsimp only
      omega
    · dsimp only
      omega

/-- The payloads that a generation retains: its queue and the one that is being written. -/
def Gen.payloads (g : Gen) : List Bytes :=
  g.side.flow.queue ++ match g.side.down.phase with
    | .writing data _ => [data]
    | _ => []

/-- The backing that the payloads of a generation retain; the `k`-th came in a frame of capacity
`capacity k`. -/
def Gen.backing (g : Gen) (capacity : Nat → Nat) : Nat :=
  (g.payloads.mapIdx fun k payload => (compactReceivedPayload payload (capacity k)).2).sum

/-- The backing of all flows that exist. -/
def Ledger.backing (l : Ledger) (capacity : Nat → Nat → Nat) : Nat :=
  (l.live.map fun i => ((l.ep.gens[i]?).map fun g => g.backing (capacity i)).getD 0).sum

theorem sum_mapIdx_le (ps : List Bytes) (f : Nat → Bytes → Nat) (hf : ∀ k p, f k p ≤ 2 * p.length) :
    (ps.mapIdx f).sum ≤ 2 * ps.flatten.length := by
  induction ps generalizing f with
  | nil => exact Nat.zero_le _
  | cons p ps ih =>
    have hrec := ih (fun k => f (k + 1)) fun k p => hf (k + 1) p
    have hhead := hf 0 p
    simp only [List.mapIdx_cons, List.sum_cons, List.flatten_cons, List.length_append]
    omega

/-- A flow retains at most twice its window. -/
theorem Gen.backing_le (h : g.side.Inv) (capacity : Nat → Nat) :
    g.backing capacity ≤ 2 * g.side.flow.receiveLimit := by
  have hsum := sum_mapIdx_le g.payloads (fun k p => (compactReceivedPayload p (capacity k)).2)
    fun k p => compactReceivedPayload_le p (capacity k)
  have hbytes := h.down.bytes
  have hcredit := h.down.credit
  have hlen : g.payloads.flatten.length =
      g.side.flow.queue.flatten.length + g.side.down.inHand := by
    unfold Gen.payloads Downlink.inHand
    cases g.side.down.phase <;> simp
  unfold Gen.backing
  omega

theorem Ledger.Inv.backing_le (h : l.Inv) (capacity : Nat → Nat → Nat) :
    l.backing capacity ≤ 2 * receiveBudget := by
  have hflow : ∀ i ∈ l.live, ((l.ep.gens[i]?).map fun g => g.backing (capacity i)).getD 0 ≤
      2 * l.ep.window.bytes := by
    intro i hi
    have hg := List.getElem?_eq_getElem (h.exists_live i hi)
    have hle := Gen.backing_le (h.wf.sides i _ hg) (capacity i)
    rw [(h.bounded.within hg).limit] at hle
    rw [hg]
    exact hle
  have hsum : l.backing capacity ≤ l.live.length * (2 * l.ep.window.bytes) := by
    have := List.sum_le_card_nsmul
      (l.live.map fun i => ((l.ep.gens[i]?).map fun g => g.backing (capacity i)).getD 0)
      (2 * l.ep.window.bytes) (by simpa using hflow)
    simpa [Ledger.backing] using this
  have hcons := h.conserved
  calc l.backing capacity ≤ l.live.length * (2 * l.ep.window.bytes) := hsum
    _ = 2 * (l.ep.window.bytes * l.live.length) := by
      rw [Nat.mul_left_comm, Nat.mul_comm l.live.length]
    _ ≤ 2 * receiveBudget := by omega

/-- The available permits of `output_budget`. -/
def Endpoint.outputAvailable (e : Endpoint) : Nat := outputBudget - e.outputUsed

/-- **`Endpoint::load`.**  Each counter is read at a moment of its own: `c` is the state in which
the flags are read, `p` the one of the receive permits, `s` of the streams, `b` of the output
permits, `o` and `k` of the capacities of the two lanes.  `none` is an underflow. -/
def load (c p s b o k : Ledger) : Option (Option (Bool × Nat × Nat)) :=
  if c.closing || c.ep.closed || !c.ep.running then some none
  else do
    let reserved ← checkedSub receiveBudget p.permits
    let bytes ← checkedSub outputBudget b.ep.outputAvailable
    let output ← checkedSub (bytes + laneCapacity) (laneCapacity - o.ep.output.length)
    let backlog ← checkedSub (output + laneCapacity) (laneCapacity - k.ep.control.length)
    let full := decide (p.permits < p.ep.window.bytes) || decide (s.ep.streams.length ≥ maxStreams)
    some (some (full, (reserved + p.ep.window.bytes - 1) / p.ep.window.bytes, backlog))

/-- Nothing in `load` underflows, at whatever moments the counters are read. -/
theorem load_isSome {c p s b o k : Ledger} (hp : p.Inv) : (load c p s b o k).isSome = true := by
  have hpermits := hp.conserved
  have h1 : checkedSub receiveBudget p.permits = some (receiveBudget - p.permits) :=
    checkedSub_of_le (by omega)
  have h2 : checkedSub outputBudget b.ep.outputAvailable =
      some (outputBudget - b.ep.outputAvailable) := checkedSub_of_le (Nat.sub_le _ _)
  have h3 : ∀ n m, checkedSub (n + laneCapacity) (laneCapacity - m) =
      some (n + laneCapacity - (laneCapacity - m)) := fun n m => checkedSub_of_le (by omega)
  unfold load
  split
  · rfl
  · simp only [h1, h2, h3, Option.bind_eq_bind, Option.bind_some, Option.isSome_some]

/-- Read at one moment, `load` counts the flows that exist, and the backlog exactly. -/
theorem Ledger.Inv.load_eq (h : l.Inv)
    (hopen : (l.closing || l.ep.closed || !l.ep.running) = false) : load l l l l l l =
      some (some (decide (l.permits < l.ep.window.bytes) ||
        decide (l.ep.streams.length ≥ maxStreams), l.live.length,
        l.ep.outputUsed + l.ep.output.length + l.ep.control.length)) := by
  have hpos := l.ep.window.bytes_pos
  have hcons := h.conserved
  have hused := h.bounded.used
  have hout := h.bounded.output
  have hctl := h.bounded.control
  have hsub : receiveBudget - l.permits = l.ep.window.bytes * l.live.length := by omega
  have hceil : (l.ep.window.bytes * l.live.length + l.ep.window.bytes - 1) / l.ep.window.bytes =
      l.live.length := by
    rw [Nat.add_sub_assoc hpos, Nat.mul_add_div hpos, Nat.div_eq_of_lt (by omega), Nat.add_zero]
  have h1 : checkedSub receiveBudget l.permits = some (l.ep.window.bytes * l.live.length) := by
    rw [checkedSub_of_le (by omega), hsub]
  have h2 : checkedSub outputBudget l.ep.outputAvailable = some l.ep.outputUsed := by
    rw [Endpoint.outputAvailable, checkedSub_of_le (Nat.sub_le _ _)]
    congr 1
    omega
  have h3 : ∀ n m, m ≤ laneCapacity →
      checkedSub (n + laneCapacity) (laneCapacity - m) = some (n + m) := by
    intro n m hm
    rw [checkedSub_of_le (by omega)]
    congr 1
    omega
  unfold load
  simp only [hopen, Bool.false_eq_true, if_false, h1, h2, h3 _ _ hout, h3 _ _ hctl,
    Option.bind_eq_bind, Option.bind_some, hceil]

/-- The semaphore admits no more than the endpoint's own count of the flows that are referred to. -/
theorem Ledger.Inv.admits (h : l.Inv) (hroom : l.ep.window.bytes ≤ l.permits) :
    l.ep.reserved + l.ep.window.bytes ≤ receiveBudget := by
  have hsub : ((List.range l.ep.gens.length).filter l.ep.holds).Subperm l.live := by
    refine List.Nodup.subperm (List.nodup_range.filter _) fun i hi => ?_
    obtain ⟨hlt, hholds⟩ := List.mem_filter.mp hi
    exact h.held i (List.mem_range.mp hlt) hholds
  have hle := Nat.mul_le_mul_left l.ep.window.bytes hsub.length_le
  have hcons := h.conserved
  unfold Endpoint.reserved
  rw [Nat.mul_comm]
  omega

/-- **What an open does**: it fails, and leaves registry, flows and budget as they were, or it adds
one stream, one flow and one reservation. -/
theorem Ledger.open_cases {k : Nat} (hs : l.step (.act (.openPrepare k)) = some l') :
    l' = { l with ep := { l.ep with opens := l.ep.opens.eraseIdx k } } ∨
    ∃ sid, l.closing = false ∧ l'.ep.streams = (sid, l.ep.gens.length) :: l.ep.streams ∧
      l'.permits + l.ep.window.bytes = l.permits ∧ l'.live = l.ep.gens.length :: l.live := by
  obtain ⟨e', hstep, rfl⟩ := Option.map_eq_some_iff.mp hs
  cases Endpoint.step_spec hstep with
  | prepared _ p target _ hk ht ha =>
    obtain ⟨-, -, -, rfl⟩ := Endpoint.allocate_ok ha
    have hlen : (l.ep.gens ++ [Endpoint.fresh { l.ep with opens := l.ep.opens.eraseIdx k } p.sid
        p.window p.pre (.opening target false)]).length ≠ l.ep.gens.length := by simp
    unfold Ledger.act
    rw [if_neg hlen]
    split
    · exact Or.inl rfl
    · rename_i hroom
      rw [not_or, Nat.not_lt, Bool.not_eq_true] at hroom
      exact Or.inr ⟨p.sid, hroom.1, rfl, Nat.sub_add_cancel hroom.2, rfl⟩
  | unprepared _ p hk =>
    unfold Ledger.act
    rw [if_pos rfl]
    exact Or.inl rfl

/-- An `OPEN` of the peer that is rejected leaves them as they were, too. -/
theorem Ledger.rejected_eq {f : Incoming} (hs : l.step (.act (.read (.receive f))) = some l')
    (hr : l'.ep.reader = .rejecting f.sid) :
    l' = { l with ep := { l.ep with reader := .rejecting f.sid } } := by
  obtain ⟨e', hstep, rfl⟩ := Option.map_eq_some_iff.mp hs
  unfold Ledger.act at hr ⊢
  by_cases hlen : e'.gens.length = l.ep.gens.length
  · rw [if_pos hlen] at hr ⊢
    dsimp only at hr
    cases Endpoint.step_spec hstep with
    | read _ _ _ hs =>
      cases hs with
      | ignored _ hidle => rw [hidle] at hr; cases hr
      | settled _ window hidle => rw [Endpoint.reader_settle, hidle] at hr; cases hr
      | capability => rw [Endpoint.reader_readerControl] at hr; cases hr
      | opened _ peer _ _ _ _ ha =>
        obtain ⟨-, -, -, rfl⟩ := Endpoint.allocate_ok ha
        simp at hlen
      | rejected => rfl
      | got => cases hr
      | unknown => rw [Endpoint.reader_readerControl] at hr; cases hr
  · rw [if_neg hlen] at hr ⊢
    split at hr
    · rename_i hfull
      rw [if_pos hfull]
      rfl
    · -- the allocation that succeeds leaves the reader idle
      cases Endpoint.step_spec hstep with
      | read _ _ _ hs =>
        cases hs with
        | opened _ peer _ hidle _ _ ha =>
          obtain ⟨-, -, -, rfl⟩ := Endpoint.allocate_ok ha
          exact absurd (hidle.symm.trans hr) (by simp)
        | ignored => exact absurd rfl hlen
        | settled _ window =>
          refine absurd ?_ hlen
          unfold Endpoint.settle
          split <;> rfl
        | capability _ window hidle =>
          rw [Endpoint.reader_readerControl] at hr
          cases hr
        | rejected => exact absurd rfl hlen
        | got => exact absurd rfl hlen
        | unknown => rw [Endpoint.reader_readerControl] at hr; cases hr

/-- **A cancelled open.**  Its stream is not registered any more, no other stream is touched, and
nothing refers to its flow except the reader or the writer, in the middle of a record that the peer
sent for it, or the reset of such a record.  Without those its flow can be dropped at once, and the
reservation returns. -/
structure Ledger.OpenCancelled (l l' : Ledger) (i : Nat) : Prop where
  gone : l'.ep.registered i = false
  others : ∀ j, j ≠ i → SameGen l.ep l'.ep j
  budget : l'.permits = l.permits ∧ l'.live = l.live
  refers : l'.ep.holds i = true → (∃ r, l'.ep.Queued r ∧ r.gen = some i ∧ r.msg = .rst) ∨
    l'.ep.reader.gen? = some i ∨ l'.ep.writer.current? = some i
  returns : i ∈ l'.live → l'.ep.holds i = false → l'.step (.drop i) =
    some { l' with permits := l'.permits + l'.ep.window.bytes, live := l'.live.erase i }

theorem Ledger.Inv.openCancelled (h : l.Inv) (hs : l.step (.act (.task i .openDrop)) = some l') :
    l.OpenCancelled l' i := by
  have hI' := h.step hs
  obtain ⟨e', hstep, rfl⟩ := Option.map_eq_some_iff.mp hs
  cases Endpoint.step_spec hstep with
  | task _ g _ _ hg hts =>
    have hsame : l.act (.task i .openDrop) e' = { l with ep := e' } := by
      refine if_pos ?_
      rcases Endpoint.gens_length_step hstep with hlen | ⟨hlen, -⟩
      · exact hlen
      · -- `openDrop` creates no flow
        have hts' := hts
        simp only [Endpoint.taskStep] at hts'
        split at hts'
        · cases hts'
          simp only [Endpoint.endTask, Endpoint.setTask, List.length_modify] at hlen ⊢
          rcases l.ep.finish_cases g.sid g.epoch false with ⟨heq, -⟩ | ⟨j, -, -, heq⟩ <;>
            simp [heq] at hlen
        · cases hts'
    rw [hsame] at hI' ⊢
    simp only [Endpoint.taskStep] at hts
    split at hts
    · rename_i target acq htask
      cases hts
      have hgone : (l.ep.finish g.sid g.epoch false).1.registered i = false := by
        cases hr : (l.ep.finish g.sid g.epoch false).1.registered i with
        | false => rfl
        | true =>
          -- the generation is registered under its own id, and has its own epoch
          obtain ⟨s, hmem, hsi⟩ := List.any_eq_true.mp hr
          have hsi' : s.2 = i := of_decide_eq_true hsi
          rcases l.ep.finish_cases g.sid g.epoch false with ⟨heq, hno⟩ | ⟨j, hget, hep, heq⟩
          · rw [heq] at hmem
            obtain ⟨g', hg', hsid⟩ := h.wf.streams s hmem
            rw [hsi', hg] at hg'
            cases hg'
            have hget : l.ep.get g.sid = some i := by
              rw [hsid]
              exact h.wf.get_of_mem (hsi' ▸ hmem)
            exact absurd (by simp only [Endpoint.epochOf, hg, Option.map_some]) (hno i hget)
          · have hrem := h.wf.removed hg (by rw [heq])
            rw [hrem.gone] at hr
            cases hr
      refine ⟨hgone, fun j hj => ?_, ⟨rfl, rfl⟩, fun hholds => ?_, fun hmem hfree => ?_⟩
      · refine h.wf.task_same hstep ?_ hj
        rcases l.ep.finish_cases g.sid g.epoch false with ⟨heq, -⟩ | ⟨k, -, -, heq⟩ <;>
          simp only [Endpoint.endTask, Endpoint.setTask, heq]
      · obtain ⟨g', hg'⟩ := getElem?_finish g.sid g.epoch false hg
        have hnow := getElem?_modify_self hg' fun g => { g with task := .ended }
        rcases (Endpoint.holds_iff (List.getElem?_eq_some_iff.mp hnow).1).mp hholds with
          hr | ⟨task, ht, hne⟩ | ⟨r, hq, hgen⟩ | hr | hr
        · exact absurd (hgone.symm.trans hr) (by simp)
        · rw [Endpoint.tasks_get hnow] at ht
          exact absurd (Option.some.inj ht).symm hne
        · have hold := Endpoint.queued_congr (e := l.ep) hq
            (l.ep.queues_finish g.sid g.epoch false)
            (congrArg (·.writer) (l.ep.rest_finish g.sid g.epoch false))
          exact Or.inl ⟨r, hq, hgen, h.quiet i g hg (by rw [htask]; rfl) r hold hgen⟩
        · exact Or.inr (Or.inl hr)
        · exact Or.inr (Or.inr hr)
      · exact if_pos ⟨hmem, hfree⟩
    · cases hts

theorem Endpoint.closed_step (h : e.closed = true) (hs : e.step a = some e') :
    e'.closed = true := by
  have hsettle : ∀ (e : Endpoint) n, (e.settle n).closed = e.closed := by
    intro e n
    unfold Endpoint.settle
    split <;> rfl
  have hfinish : ∀ sid epoch preserve, (e.finish sid epoch preserve).1.closed = true := by
    intro sid epoch preserve
    rcases e.finish_cases sid epoch preserve with ⟨heq, -⟩ | ⟨i, -, -, heq⟩ <;> rw [heq] <;> exact h
  have hcontrol : ∀ (e : Endpoint) r, e.closed = true → (e.readerControl r).closed = true := by
    intro e r he
    unfold Endpoint.readerControl
    split
    · rename_i e' htc
      rw [Endpoint.tryControl_eq_some htc]
      exact he
    · exact Endpoint.closed_shutdown _
  cases Endpoint.step_spec hs with
  | prepared k p target e' _ _ ha => exact absurd h (by simp [show e.closed = false from
      (Endpoint.allocate_ok ha).1])
  | task i g a e' hg hs =>
    cases Endpoint.taskStep_spec hs with
    | finish preserve task => exact hfinish _ _ _
    | shutdown => exact Endpoint.closed_shutdown _
    | _ => exact h
  | read a e' _ hs =>
    cases hs with
    | settled f window => exact (hsettle _ _).trans h
    | capability | unknown | replied => exact hcontrol _ _ h
    | opened f peer e' _ _ _ ha => exact absurd h (by simp [(Endpoint.allocate_ok ha).1])
    | aborted | removed => exact hfinish _ _ _
    | pingFailed => exact Endpoint.closed_shutdown _
    | _ => exact h
  | write a e' _ hs =>
    rw [Endpoint.writerStep_eq hs]
    exact h
  | timeout => exact (hsettle _ _).trans h
  | stop => exact Endpoint.closed_shutdown _
  | _ => exact h

theorem Endpoint.closed_refuse (e : Endpoint) (a : Action) : (e.refuse a).closed = e.closed := by
  cases a with
  | read b => cases b <;> rfl
  | _ => rfl

namespace Ledger

theorem closed_step {a : LedgerAction} (h : l.ep.closed = true) (hs : l.step a = some l') :
    l'.ep.closed = true := by
  revert hs
  fun_cases step l a <;> intro hs <;> try cases hs
  · obtain ⟨e', hstep, rfl⟩ := Option.map_eq_some_iff.mp hs
    have hclosed := Endpoint.closed_step h hstep
    unfold act
    split
    · exact hclosed
    · split
      · exact (l.ep.closed_refuse _).trans h
      · exact hclosed
  · exact h
  · exact Endpoint.closed_shutdown _
  · obtain ⟨⟨side, o⟩, hstep, rfl⟩ := Option.map_eq_some_iff.mp hs
    exact h
  · exact h

/-- A `shutdown` has stored its flag; `n` flows had been created by then. -/
structure Stopped (l : Ledger) (n : Nat) : Prop where
  inv : l.Inv
  flag : l.closing = true ∨ l.ep.closed = true
  gens : l.ep.gens.length = n

/-- No flow is created any more. -/
theorem Stopped.step {n : Nat} {a : LedgerAction} (h : l.Stopped n) (hs : l.step a = some l') :
    l'.Stopped n := by
  have hI' := h.inv.step hs
  have hclosed : l.ep.closed = true → l'.ep.closed = true := fun hc => closed_step hc hs
  revert hs hI' hclosed
  fun_cases Ledger.step l a <;> intro hs hI' hclosed <;> try cases hs
  · rename_i a
    obtain ⟨e', hstep, rfl⟩ := Option.map_eq_some_iff.mp hs
    refine ⟨hI', ?_, ?_⟩
    · refine h.flag.imp (fun hc => ?_) hclosed
      unfold act
      split
      · exact hc
      · split <;> exact hc
    · unfold act
      split
      · rename_i hlen
        exact hlen.trans h.gens
      · rename_i hlen
        split
        · exact (h.inv.refuse a).gens.trans h.gens
        · rename_i hroom
          -- `allocate` looks at `closed` under the lock
          have hopen := ((Endpoint.gens_length_step hstep).resolve_left hlen).2
          rcases h.flag with hc | hc
          · exact absurd (Or.inl hc) hroom
          · rw [hc] at hopen
            cases hopen
  · exact ⟨hI', Or.inl rfl, h.gens⟩
  · exact ⟨hI', Or.inr (Endpoint.closed_shutdown _), h.inv.shutdown.gens.trans h.gens⟩
  · obtain ⟨⟨side, o⟩, hstep, rfl⟩ := Option.map_eq_some_iff.mp hs
    exact ⟨hI', h.flag, (List.length_modify _ _ _).trans h.gens⟩
  · exact ⟨hI', h.flag, h.gens⟩

/-- **Reservations and admission.**

* `conserved`, `existing`: permits and reservations of the flows that exist are the budget, and
  every flow to which anything refers exists;
* `opened`, `rejected`, `cancelled`: what opens leave behind;
* `stopped`: once a `shutdown` has stored its flag no flow is created;
* `returned`, `drained`: it returns with the session closed, and from then on no stream is
  registered and `allocate` fails;
* `counted`: what `load` returns, its counters read at one moment. -/
structure Sound (l : Ledger) : Prop where
  conserved : l.permits + l.ep.window.bytes * l.live.length = receiveBudget
  existing : l.live.Nodup ∧ ∀ i, i < l.ep.gens.length → l.ep.holds i = true → i ∈ l.live
  admits : l.ep.window.bytes ≤ l.permits → l.ep.reserved + l.ep.window.bytes ≤ receiveBudget
  streams : l.ep.streams.length ≤ maxStreams
  lanes : l.ep.outputUsed ≤ outputBudget ∧ l.ep.output.length ≤ laneCapacity ∧
    l.ep.control.length ≤ laneCapacity
  backing : ∀ capacity, l.backing capacity ≤ 2 * receiveBudget
  opened : ∀ k l', l.step (.act (.openPrepare k)) = some l' →
    l' = { l with ep := { l.ep with opens := l.ep.opens.eraseIdx k } } ∨
    ∃ sid, l.closing = false ∧ l'.ep.streams = (sid, l.ep.gens.length) :: l.ep.streams ∧
      l'.permits + l.ep.window.bytes = l.permits ∧ l'.live = l.ep.gens.length :: l.live
  rejected : ∀ f l', l.step (.act (.read (.receive f))) = some l' →
    l'.ep.reader = .rejecting f.sid →
    l' = { l with ep := { l.ep with reader := .rejecting f.sid } }
  cancelled : ∀ i l', l.step (.act (.task i .openDrop)) = some l' → l.OpenCancelled l' i
  stopped : l.closing = true → ∀ l', Reachable step l l' →
    l'.ep.gens.length = l.ep.gens.length
  returned : ∀ l', l.step .drain = some l' → l'.ep.closed = true
  drained : l.ep.closed = true → ∀ l', Reachable step l l' → l'.ep.streams = [] ∧
    l'.ep.gens.length = l.ep.gens.length ∧
    ∀ sid peer pre task, l'.ep.allocate sid peer pre task = .error "tcp mux writer stopped"
  counted : (l.closing || l.ep.closed || !l.ep.running) = false → load l l l l l l =
    some (some (decide (l.permits < l.ep.window.bytes) ||
      decide (l.ep.streams.length ≥ maxStreams), l.live.length,
      l.ep.outputUsed + l.ep.output.length + l.ep.control.length))

end Ledger

/-- **Every state that the ledger can reach is sound**, whatever opens, connects, pumps, resets,
records and shutdowns interleave, and `load` does not underflow, whenever it reads its counters. -/
theorem admission_sound {client : Bool} {window : MuxWindow} {chunk : ChunkSize} {l : Ledger}
    (h : Reachable Ledger.step (Ledger.new client window chunk) l) :
    l.Sound ∧ ∀ c s b o k : Ledger, (load c l s b o k).isSome = true := by
  have hI := Ledger.Inv.reachable h
  have hstopped : l.closing = true ∨ l.ep.closed = true → ∀ l', Reachable Ledger.step l l' →
      l'.Stopped l.ep.gens.length := fun hflag l' hr =>
    Reachable.invariant (I := fun l' => l'.Stopped l.ep.gens.length) hr ⟨hI, hflag, rfl⟩
      fun _ _ _ hst hs => hst.step hs
  have hsound : l.Sound := {
    conserved := hI.conserved
    existing := ⟨hI.nodup, hI.held⟩
    admits := hI.admits
    streams := hI.bounded.streams
    lanes := ⟨hI.bounded.used, hI.bounded.output, hI.bounded.control⟩
    backing := hI.backing_le
    opened := fun k l' hs => Ledger.open_cases hs
    rejected := fun f l' hs hr => Ledger.rejected_eq hs hr
    cancelled := fun i l' hs => hI.openCancelled hs
    stopped := fun hc l' hr => (hstopped (Or.inl hc) l' hr).gens
    returned := fun l' hs => by
      obtain ⟨-, heq⟩ := Option.ite_none_right_eq_some.mp hs
      cases heq
      exact Endpoint.closed_shutdown _
    drained := fun hc l' hr => by
      have hst := hstopped (Or.inr hc) l' hr
      have hclosed : l'.ep.closed = true :=
        Reachable.invariant (I := fun l => l.ep.closed = true) hr hc
          fun _ _ _ hc hs => Ledger.closed_step hc hs
      exact ⟨hst.inv.wf.closed hclosed, hst.gens, fun sid peer pre task => if_pos hclosed⟩
    counted := hI.load_eq }
  exact ⟨hsound, fun c s b o k => load_isSome hI⟩

/-- A client opens a stream, cancels the open, and is shut down while a second open is under way. -/
def cancelAndStop : List LedgerAction :=
  let target : Bytes := [1, 10, 0, 0, 1, 0, 80]
  [.act .timeout, .act (.openFetch (some target) []), .act (.openPrepare 0),
    .act (.task 0 .openDrop), .drop 0, .act (.openFetch (some target) []),
    .act (.openFetch (some target) []), .act (.openPrepare 0), .close, .act (.openPrepare 0),
    .drain]

theorem admission_sound_cancelled :
    let start := Ledger.new true ⟨1, by decide, by decide⟩ ⟨1024, by decide, by decide⟩
    (Lts.run Ledger.step start cancelAndStop).map
        (fun l => (l.ep.streams, l.live, l.ep.gens.length)) = some ([], [1], 2) ∧
      ∀ l, Lts.run Ledger.step start cancelAndStop = some l → l.Sound :=
  ⟨by decide, fun _ hl => (admission_sound (Reachable.of_run hl)).1⟩

end BibaVpn.Mux
