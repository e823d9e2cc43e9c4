/-
# A stream of a session is a pair

`Pair` is the two ends of one stream on their own; `Session` is two endpoints with all their
streams, shared lanes, readers and writers.  This module connects what two endpoints hold under one
id with a state of `Pair`, and follows the id from its first use on.

* §1: a strand of an endpoint shows an end of a pair (`Strand.Shows`);
* §2: what an id sees of its own endpoint is a run of that end (`Strand.Shows.step`);
* §3 is both ends (`Coupled`): a record that one of them takes and applies;
* §4 is the life of an id (`Link`): nothing is known of it; its `OPEN` is on the way; both ends are
  coupled, where an end that refused the `OPEN` counts as one that was removed at once.
-/
import BibaVpn.Mux.Pair
import BibaVpn.Mux.Session
import BibaVpn.Mux.Strand

namespace BibaVpn.Mux

open Machine Lts

/-! ## 1. A strand and an end of a pair -/

/-- The record in the reader's hands. -/
def ReaderPhase.holding : ReaderPhase → List Incoming
  | .got f _ => [f]
  | _ => []

/-- The flow has refused the record, and the stream is still to be removed for it. -/
def ReaderPhase.refuses : ReaderPhase → Bool
  | .refused _ _ => true
  | _ => false

/-- A reset is about to be queued. -/
def ReaderPhase.resets : ReaderPhase → Bool
  | .rejecting _ => true
  | .resetting _ _ => true
  | _ => false

def Msg.isOpening : Msg → Bool
  | .opening _ _ => true
  | _ => false

/-- What a reader gets of a record. -/
def Msg.asRead (m : Msg) : UInt8 × Bytes := (m.flags, m.payload)

def Incoming.asRead (f : Incoming) : UInt8 × Bytes := (f.flags, f.payload)

/-- The records of a list that are not `OPEN`. -/
def afterOpen (ms : List Msg) : List Msg := ms.filter fun m => !m.isOpening

/-- **A strand shows an end of a pair**, given what the reader of the peer is doing: a record in
that reader's hands still counts as being on the wire.  `OPEN` is not part of the pair.  Where no
stream was allocated the end is one that was removed before it did anything. -/
structure Strand.Shows (x : Strand) (peer : ReaderPhase) (h : Half) : Prop where
  side : ∀ g, x.gen = some g → h.side = g.side
  bare : x.gen = none →
    x.registered = false ∧ h.side.up.source = [] ∧ h.side.up.phase = .reading
  registered : h.registered = x.registered
  running : ∀ g, x.gen = some g → g.task = .bridging → h.running = true
  out : h.out = x.out.filter Msg.isStream
  ctl : h.ctl = x.ctl
  wire : ∃ ms, ms.map Msg.asRead = peer.holding.map Incoming.asRead ∧
    h.wire = ms ++ afterOpen x.wire
  refused : h.refused.isSome = x.reader.refuses
  resetting : ∀ g, x.gen = some g → g.task = .resetting → x.registered = false
  replying : x.reader.resets = true → x.registered = false

/-! ## 2. Steps of one end -/

theorem Half.remove_of_registered {h : Half} (hr : h.registered = true) :
    Reachable Half.local h (h.remove false) :=
  .one (a := .abort) (by simp [Half.local, hr])

/-- The end is removed, if it is still there. -/
def Half.shut (h : Half) : Half := if h.registered then h.remove false else h

theorem Half.reachable_shut (h : Half) : Reachable Half.local h h.shut := by
  unfold Half.shut
  split
  · rename_i hr
    exact Half.remove_of_registered hr
  · exact .refl _

/-- The bridge has started. -/
def Half.started (h : Half) : Half := { h with running := true }

theorem Half.reachable_started (h : Half) : Reachable Half.local h h.started := by
  cases hr : h.running with
  | true =>
    have heq : h.started = h := by
      unfold Half.started
      rw [← hr]
    rw [heq]
    exact .refl _
  | false => exact .one (a := .connected) (by simp [Half.local, Half.started, hr])

section Shows

variable {sid : Nat} {x x' : Strand} {peer : ReaderPhase} {h : Half}

/-- The stream is removed, and its task moves on or not. -/
theorem Strand.Shows.remove (hs : x.Shows peer h) {g : Gen} (hg : x.gen = some g) (preserve : Bool)
    (task : Task) (ht : task = .bridging → g.task = .bridging) :
    Strand.Shows { x with
      gen := some { Gen.cancel preserve g with task := task }, registered := false }
      peer (h.remove preserve) :=
  { hs with
    side := fun _ hg' => by
      cases hg'
      simp only [Half.remove, hs.side g hg, Gen.cancel]
    bare := fun hg' => by cases hg'
    registered := rfl
    running := fun _ hg' hb => by
      cases hg'
      exact hs.running g hg (ht hb)
    resetting := fun _ _ _ => rfl
    replying := fun _ => rfl }

theorem Strand.Shows.shut (hs : x.Shows peer h) : x.shut.Shows peer h.shut := by
  unfold Strand.shut Half.shut
  rw [hs.registered]
  split
  · rename_i hreg
    cases hg : x.gen with
    | none => exact absurd ((hs.bare hg).1.symm.trans hreg) Bool.false_ne_true
    | some g => exact hs.remove hg false g.task id
  · exact hs

/-- The reader rests, or turns to something that the pair does not see. -/
theorem Strand.Shows.setReader (hs : x.Shows peer h) {p : ReaderPhase}
    (hx : x.reader.refuses = false) (hp : p.refuses = false)
    (hr : p.resets = true → x.registered = false) : Strand.Shows { x with reader := p } peer h :=
  { hs with
    refused := hs.refused.trans (hx.trans hp.symm)
    replying := hr }

/-- The task of the stream moves on. -/
theorem Strand.Shows.setTask (hs : x.Shows peer h) {g : Gen} (hg : x.gen = some g) (task : Task)
    (ht : task ≠ .resetting) :
    Strand.Shows { x with gen := some { g with task := task } } peer h.started where
  side _ hg' := by
    cases hg'
    exact hs.side g hg
  bare hg' := by cases hg'
  registered := hs.registered
  running _ _ _ := rfl
  out := hs.out
  ctl := hs.ctl
  wire := hs.wire
  refused := hs.refused
  resetting _ hg' hres := by
    cases hg'
    exact absurd hres ht
  replying := hs.replying

/-- A pump or the reader moves the stream. -/
theorem Strand.Shows.setSide (hs : x.Shows peer h) {g : Gen} (hg : x.gen = some g) (side : Side) :
    Strand.Shows { x with gen := some { g with side := side } } peer { h with side := side } :=
  { hs with
    side := fun _ hg' => by
      cases hg'
      rfl
    bare := fun hg' => by cases hg'
    running := fun _ hg' ht => by
      cases hg'
      exact hs.running g hg ht
    resetting := fun _ hg' ht => by
      cases hg'
      exact hs.resetting g hg ht }

theorem afterOpen_append (ms ns : List Msg) :
    afterOpen (ms ++ ns) = afterOpen ms ++ afterOpen ns := List.filter_append _ _

/-- An output record is `OPEN`, or one of the stream. -/
theorem Msg.isStream_of_isOutput {m : Msg} (h : m.isOutput = true) : m.isStream = !m.isOpening := by
  cases m <;> simp_all [Msg.isStream, Msg.isOpening, Msg.isOutput]

theorem Msg.isOpening_of_not_isOutput {m : Msg} (h : m.isOutput = false) : m.isOpening = false := by
  cases m <;> simp_all [Msg.isOpening, Msg.isOutput]

/-- A record is put on the wire, unless it is dropped. -/
theorem Strand.Shows.wire_push (hs : x.Shows peer h) {m : Msg} (hm : m.isOpening = false)
    (valid : Bool) : ∃ ms, ms.map Msg.asRead = peer.holding.map Incoming.asRead ∧
      (if valid then h.wire ++ [m] else h.wire) =
        ms ++ afterOpen (if valid then x.wire ++ [m] else x.wire) := by
  obtain ⟨ms, hms, hw⟩ := hs.wire
  refine ⟨ms, hms, ?_⟩
  cases valid with
  | false => exact hw
  | true =>
    have hopen : afterOpen [m] = [m] := by simp [afterOpen, hm]
    simp only [if_true, hw, afterOpen_append, hopen, List.append_assoc]

/-- **What an id sees of its endpoint is a run of its end.** -/
theorem Strand.Shows.step (hs : x.Shows peer h) (hh : h.Honest) (hstep : Strand.Step sid x x') :
    ∃ h', Reachable Half.local h h' ∧ x'.Shows peer h' := by
  cases hstep with
  | same => exact ⟨h, .refl _, hs⟩
  | move g task hg ht ho => exact ⟨_, h.reachable_started, hs.setTask hg task ht⟩
  | opened g target hg ht =>
    refine ⟨_, h.reachable_started, { hs.setTask hg .bridging (by simp) with out := ?_ }⟩
    show h.out = (x.out ++ [Msg.opening g.side.flow.negotiated target]).filter Msg.isStream
    rw [List.filter_append, hs.out]
    exact (List.append_nil _).symm
  | removed g preserve task hg hreg hp hr ht =>
    refine ⟨h.remove preserve, ?_, ?_⟩
    · cases preserve with
      | false => exact Half.remove_of_registered (hs.registered.trans hreg)
      | true =>
        obtain ⟨-, hend⟩ := hp rfl
        refine .one (a := .finish) ?_
        have hflow : g.side.flow.negotiated = true := hs.side g hg ▸ hh.negotiated
        simp only [Half.local, hs.registered.trans hreg, true_and, hs.side g hg]
        rw [if_pos]
        rcases hend with hend | hend
        · exact Or.inl hend
        · simp only [Gen.joined, hflow, if_true, Bool.and_eq_true, decide_eq_true_eq] at hend
          exact Or.inr hend
    · refine hs.remove hg preserve task fun hb => ?_
      rcases ht with rfl | rfl <;> cases hb
  | ended g hg hreg => exact ⟨_, h.reachable_started, hs.setTask hg .ended (by simp)⟩
  | up g a side o hg ht hup =>
    refine ⟨{ h with side := side, out := h.out ++ o.toList }, .one (a := .up a) ?_, ?_⟩
    · simp [Half.local, hs.running g hg ht, hs.side g hg, hup]
    · -- the uplink hands over `DATA` and `CLOSE` only
      have hstream : o.toList.filter Msg.isStream = o.toList := by
        obtain ⟨-, hspec, -⟩ := hh.side.stepUp (hs.side g hg ▸ hup)
        rcases hspec.emits with ⟨rfl, -⟩ | ⟨payload, rfl, -⟩ | ⟨rfl, -⟩ <;> rfl
      exact { hs.setSide hg side with
        out := by
          show h.out ++ o.toList = (x.out ++ o.toList).filter Msg.isStream
          rw [List.filter_append, hs.out, hstream] }
  | down g a side o hg ht hdown =>
    refine ⟨{ h with side := side, ctl := h.ctl ++ o.toList }, .one (a := .down a) ?_, ?_⟩
    · simp [Half.local, hs.running g hg ht, hs.side g hg, hdown]
    · exact { hs.setSide hg side with
        ctl := by
          show h.ctl ++ o.toList = x.ctl ++ o.toList
          rw [hs.ctl] }
  | reset g hg ht =>
    have hreg := hs.resetting g hg ht
    have hset := hs.setTask hg .ended (by simp)
    refine ⟨{ h.started with ctl := h.ctl ++ [.rst] }, h.reachable_started.trans ?_, ?_⟩
    · refine .one (a := .sendReset) ?_
      simp [Half.local, Half.started, hs.registered, hreg]
    · exact { hset with
        ctl := by
          show h.ctl ++ [.rst] = x.ctl ++ [.rst]
          rw [hs.ctl] }
  | resetFailed g hg ht =>
    exact ⟨_, h.reachable_shut.trans h.shut.reachable_started, hs.shut.setTask hg .ended (by simp)⟩
  | shut => exact ⟨_, h.reachable_shut, hs.shut⟩
  | shutReader hr =>
    refine ⟨_, h.reachable_shut, hs.shut.setReader ?_ rfl (fun h => by cases h)⟩
    rw [x.shut_reader]
    cases hx : x.reader <;> simp_all [ReaderPhase.refuses, ReaderPhase.emptyHanded]
  | writeOut g m rest hg hm ho =>
    have hout := hs.out
    rw [ho, List.filter_cons, Msg.isStream_of_isOutput hm] at hout
    cases hopen : m.isOpening with
    | true =>
      -- the pair does not see `OPEN`
      rw [hopen] at hout
      refine ⟨h, .refl _, { hs with out := hout, wire := ?_ }⟩
      obtain ⟨ms, hms, hw⟩ := hs.wire
      refine ⟨ms, hms, hw.trans ?_⟩
      have hnil : afterOpen [m] = [] := by simp [afterOpen, hopen]
      show _ = ms ++ afterOpen (if g.side.flow.outputValid then x.wire ++ [m] else x.wire)
      split
      · rw [afterOpen_append, hnil, List.append_nil]
      · rfl
    | false =>
      rw [hopen] at hout
      refine ⟨{ h with
        out := rest.filter Msg.isStream
        wire := if g.side.flow.outputValid then h.wire ++ [m] else h.wire },
        .one (a := .writeOutput) ?_, { hs with out := rfl, wire := hs.wire_push hopen _ }⟩
      simp [Half.local, hout, hs.side g hg]
  | writeOwn g m rest hg hm hrst hc =>
    have hctl := hs.ctl.trans hc
    refine ⟨{ h with
      ctl := rest
      wire := if g.side.flow.outputValid then h.wire ++ [m] else h.wire },
      .one (a := .writeControl) ?_,
      { hs with ctl := rfl, wire := hs.wire_push (Msg.isOpening_of_not_isOutput hm) _ }⟩
    simp [Half.local, hctl, hs.side g hg, hrst]
  | writeRst rest hc =>
    have hctl := hs.ctl.trans hc
    refine ⟨{ h with ctl := rest, wire := h.wire ++ [.rst] }, .one (a := .writeControl) ?_,
      { hs with ctl := rfl, wire := hs.wire_push (m := .rst) rfl true }⟩
    simp [Half.local, hctl]
  | dropRst rest hc =>
    have hctl := hs.ctl.trans hc
    refine ⟨{ h with ctl := rest }, .one (a := .dropReset) ?_, { hs with ctl := rfl }⟩
    simp [Half.local, hctl]
  | reject f i hr =>
    have hsome : h.refused.isSome = true := by rw [hs.refused, hr]; rfl
    obtain ⟨m, hm⟩ := Option.isSome_iff_exists.mp hsome
    refine ⟨{ h.shut with refused := none }, .one (a := .reject) ?_, ?_⟩
    · simp [Half.local, hm, Half.shut]
    · have hshut := hs.shut
      exact { hshut with
        refused := by
          show false = _
          cases x.registered <;> rfl
        replying := fun _ => congrArg Strand.registered x.shut_eq }
  | lookup gen hr =>
    have hreg := hs.replying (by rw [hr]; rfl)
    exact ⟨h, .refl _, hs.setReader (by rw [hr]; rfl) rfl fun _ => hreg⟩
  | reply gen hr =>
    have hreg := hs.replying (by rw [hr]; rfl)
    refine ⟨{ h with ctl := h.ctl ++ [.rst] }, .one (a := .sendReset) ?_,
      { hs.setReader (p := .idle) (by rw [hr]; rfl) rfl (fun h => by cases h) with ctl := ?_ }⟩
    · simp [Half.local, hs.registered, hreg]
    · show h.ctl ++ [.rst] = x.ctl ++ [.rst]
      rw [hs.ctl]

/-- Short of applying or taking a record, the reader's hands stay as they are. -/
theorem Strand.Step.holding (hstep : Strand.Step sid x x') :
    x'.reader.holding = x.reader.holding := by
  cases hstep with
  | resetFailed | shut => exact congrArg ReaderPhase.holding x.shut_reader
  | shutReader hr => cases hx : x.reader <;> simp_all [ReaderPhase.holding, ReaderPhase.emptyHanded]
  | reject f i hr =>
    rw [hr]
    show (if x.registered = true then _ else _ : ReaderPhase).holding = _
    split <;> rfl
  | lookup gen hr => rw [hr]; rfl
  | reply gen hr => rw [hr]; rfl
  | _ => rfl

/-- The peer's reader matters only for what it has in its hands. -/
theorem Strand.Shows.of_peer (hs : x.Shows peer h) {peer' : ReaderPhase}
    (hp : peer'.holding = peer.holding) : x.Shows peer' h :=
  { hs with wire := by rw [hp]; exact hs.wire }

end Shows

/-! ## 3. Both ends -/

theorem Pair.reachable_local {h h' k : Half} (hr : Reachable Half.local h h') :
    Reachable Pair.step ⟨h, k⟩ ⟨h', k⟩ := by
  refine hr.invariant (I := fun h' => Reachable Pair.step ⟨h, k⟩ ⟨h', k⟩) (.refl _) ?_
  intro h₁ act h₂ hI hs
  refine hI.trans (.one (a := (true, act)) ?_)
  cases act with
  | deliver known => cases hs
  | _ => simp [Pair.step, Pair.stepA, hs]

theorem Pair.step_swap (p : Pair) (who : Bool) (act : HalfAction) :
    p.swap.step (who, act) = (p.step (!who, act)).map Pair.swap := by
  cases who with
  | true =>
    simp only [Pair.step, Bool.not_true, Option.map_map]
    exact Option.map_id'.symm
  | false => rfl

/-- The two ends of a pair have the same steps. -/
theorem Pair.reachable_swap {p q : Pair} (hr : Reachable Pair.step p q) :
    Reachable Pair.step p.swap q.swap := by
  refine hr.invariant (I := fun q => Reachable Pair.step p.swap q.swap) (.refl _) ?_
  rintro q₁ ⟨who, act⟩ q₂ hI hs
  refine hI.trans (.one (a := (!who, act)) ?_)
  rw [Pair.step_swap, Bool.not_not, hs]
  rfl

/-- **Two strands of one id show the two ends of a pair.** -/
structure Coupled (x y : Strand) (p : Pair) : Prop where
  a : x.Shows y.reader p.a
  b : y.Shows x.reader p.b

theorem Coupled.swap {x y : Strand} {p : Pair} (h : Coupled x y p) :
    Coupled y x p.swap := ⟨h.b, h.a⟩

section Coupled

variable {sid : Nat} {x x' y : Strand} {p : Pair}

/-- A step of one endpoint. -/
theorem Coupled.step (h : Coupled x y p) (hh : p.a.Honest) (hs : Strand.Step sid x x') :
    ∃ q, Reachable Pair.step p q ∧ Coupled x' y q := by
  obtain ⟨a', hr, hsh⟩ := h.a.step hh hs
  exact ⟨⟨a', p.b⟩, Pair.reachable_local hr, hsh, h.b.of_peer hs.holding⟩

/-- The peer's next record, once the reader has it in its hands. -/
theorem Coupled.in_hand (h : Coupled x y p) {f : Incoming} {i : Nat} (hr : x.reader = .got f i) :
    p.a.refused = none ∧ ∃ m, m.asRead = f.asRead ∧ p.b.wire = m :: afterOpen y.wire := by
  constructor
  · have href := h.a.refused
    rw [hr] at href
    simpa [ReaderPhase.refuses] using href
  · obtain ⟨ms, hms, hw⟩ := h.b.wire
    rw [hr] at hms
    obtain ⟨m, rfl, hm⟩ := List.map_eq_singleton_iff.mp hms
    exact ⟨m, hm, hw⟩

/-- A record of an honest end with the flag of a reset is a reset. -/
theorem Msg.eq_rst_iff {m : Msg} (hm : m.isStream = true ∨ m = .rst ∨ IsWin m) :
    hasFlag m.flags flagRst = true ↔ m = .rst := by
  constructor
  · intro hf
    rcases hm with hm | hm | ⟨n, rfl, -⟩
    · cases m with
      | data payload => exact absurd hf (show ¬hasFlag flagData flagRst = true by decide)
      | close => exact absurd hf (show ¬hasFlag flagClose flagRst = true by decide)
      | _ => cases hm
    · exact hm
    · exact absurd hf (show ¬hasFlag flagWin flagRst = true by decide)
  · rintro rfl
    exact (show hasFlag flagRst flagRst = true by decide)

/-- **The reader applies the record in its hands.** -/
theorem Coupled.apply (h : Coupled x y p) (hh : p.b.Honest) (hs : Strand.Apply x x') :
    ∃ q, Reachable Pair.step p q ∧ Coupled x' y q := by
  -- the pair delivers the record that was in the reader's hands
  have hdeliver : ∀ f i, x.reader = .got f i → ∃ m : Msg,
      p.a.side.dispatch m.flags m.payload = p.a.side.dispatch f.flags f.payload ∧
      (hasFlag f.flags flagRst = true ↔ m = .rst) ∧
      Reachable Pair.step p ⟨p.a.handle true m, { p.b with wire := afterOpen y.wire }⟩ := by
    intro f i hr
    obtain ⟨href, m, hm, hw⟩ := h.in_hand hr
    have hflags : m.flags = f.flags := congrArg Prod.fst hm
    have hpayload : m.payload = f.payload := congrArg Prod.snd hm
    refine ⟨m, by rw [hflags, hpayload], ?_, .one (a := (true, .deliver true)) ?_⟩
    · rw [← hflags]
      exact Msg.eq_rst_iff (hh.wire m (by rw [hw]; exact List.mem_cons_self))
    · simp [Pair.step, Pair.stepA, href, hw]
  -- afterwards nothing of the peer is in its hands
  have hpeer : ∀ r : ReaderPhase, r.holding = [] →
      y.Shows r { p.b with wire := afterOpen y.wire } := fun r hr =>
    { h.b with wire := ⟨[], by rw [hr]; rfl, rfl⟩ }
  cases hs with
  | aborted f i g hr hg hf =>
    obtain ⟨m, -, hrst, hreach⟩ := hdeliver f i hr
    obtain rfl := hrst.mp hf
    refine ⟨_, hreach, ?_, hpeer .idle rfl⟩
    exact h.a.shut.setReader (by rw [x.shut_reader, hr]; rfl) rfl (fun h => by cases h)
  | applied f i g side hr hg hf hd =>
    obtain ⟨m, hm, hrst, hreach⟩ := hdeliver f i hr
    refine ⟨_, hreach, ?_, hpeer .idle rfl⟩
    have hne : m ≠ .rst := fun heq => by
      rw [hrst.mpr heq] at hf
      cases hf
    have hok : p.a.side.dispatch m.flags m.payload = .ok side := by
      rw [hm, h.a.side g hg]
      exact hd
    have heq : p.a.handle true m = { p.a with side := side } := by
      simp [Half.handle, hne, hok]
    rw [heq]
    exact (h.a.setSide hg side).setReader (by rw [hr]; rfl) rfl (fun h => by cases h)
  | refused f i g e hr hg hf hd =>
    obtain ⟨m, hm, hrst, hreach⟩ := hdeliver f i hr
    refine ⟨_, hreach, ?_, hpeer (.refused f i) rfl⟩
    have hne : m ≠ .rst := fun heq => by
      rw [hrst.mpr heq] at hf
      cases hf
    have herr : p.a.side.dispatch m.flags m.payload = .error e := by
      rw [hm, h.a.side g hg]
      exact hd
    simp only [Half.handle, hne, herr, Bool.not_true, Bool.false_eq_true, if_false]
    exact { h.a with refused := rfl, replying := fun h => by cases h }

/-- **The reader takes a record of the peer**, which is not an `OPEN`: it has it in its hands, or
the stream is not there and the record is lost. -/
theorem Coupled.take {e : Endpoint} {f : Incoming} {m : Msg} {ws : List Msg} (h : Coupled x y p)
    (ht : e.Takes f x x') (ho : ¬e.Opens f) (hr : x.reader = .idle) (hw : y.wire = m :: ws)
    (hm : m.isOpening = false) (hf : m.asRead = f.asRead) :
    ∃ q, Reachable Pair.step p q ∧ Coupled x' { y with wire := ws } q := by
  have hwire : p.b.wire = m :: afterOpen ws := by
    obtain ⟨ms, hms, hwire⟩ := h.b.wire
    rw [hr] at hms
    obtain rfl := List.map_eq_nil_iff.mp hms
    rw [hwire, hw]
    simp [afterOpen, hm]
  have href : p.a.refused = none := by
    have href := h.a.refused
    rw [hr] at href
    simpa [ReaderPhase.refuses] using href
  have hpeer : Strand.Shows { y with wire := ws } .idle { p.b with wire := afterOpen ws } :=
    { h.b with wire := ⟨[], rfl, rfl⟩ }
  have hlost : x.registered = false →
      Reachable Pair.step p ⟨p.a, { p.b with wire := afterOpen ws }⟩ := fun hreg => by
    refine .one (a := (true, .deliver false)) ?_
    simp [Pair.step, Pair.stepA, href, hwire, h.a.registered, hreg, Half.handle]
  cases ht with
  | ignored hreg => exact ⟨_, hlost hreg, h.a.of_peer rfl, hr ▸ hpeer⟩
  | opened peer hop => exact absurd hop ho
  | rejected hop => exact absurd hop ho
  | got i g hg hreg =>
    refine ⟨p, .refl _, ?_, ?_⟩
    · exact (h.a.setReader (p := .got f i) (by rw [hr]; rfl) rfl (fun h => by cases h)).of_peer rfl
    · exact { h.b with wire := ⟨[m], by simp [ReaderPhase.holding, hf], hwire⟩ }
  | unknown hreg =>
    refine ⟨⟨{ p.a with ctl := p.a.ctl ++ [.rst] }, { p.b with wire := afterOpen ws }⟩,
      (hlost hreg).trans (Pair.reachable_local (.one (a := .sendReset) ?_)), ?_, hr ▸ hpeer⟩
    · simp [Half.local, h.a.registered, hreg]
    · exact { h.a with
        ctl := by
          show p.a.ctl ++ [.rst] = x.ctl ++ [.rst]
          rw [h.a.ctl] }

end Coupled

/-! ## 4. The life of an id -/

/-- The output of a generation is valid. -/
def Gen.Valid (g : Gen) : Prop := g.side.flow.outputValid = true

/-- No `OPEN` among the records. -/
def NoOpening (ms : List Msg) : Prop := ∀ m ∈ ms, m.isOpening = false

/-- **What a step can do to an `OPEN`**: it is queued by a task that was about to, and it is passed
on from the lane while the output is valid. -/
structure Strand.Route (x x' : Strand) : Prop where
  gen : ∀ g', x'.gen = some g' → ∃ g, x.gen = some g ∧ (g'.Valid → g.Valid) ∧
    (g'.task.isOpening = true → g.task.isOpening = true)
  kept : x.gen.isSome = true → x'.gen.isSome = true
  wire : ∃ ws, x'.wire = x.wire ++ ws ∧ ∀ m ∈ ws, m.isOpening = true →
    m ∈ x.out ∧ ∃ g, x.gen = some g ∧ g.Valid
  out : ∀ m ∈ x'.out, m.isOpening = true →
    m ∈ x.out ∨ ∃ g, x.gen = some g ∧ g.task.isOpening = true

section Route

variable {sid : Nat} {x x' : Strand}

theorem Strand.Route.refl (x : Strand) : x.Route x where
  gen g hg := ⟨g, hg, id, id⟩
  kept := id
  wire := ⟨[], (List.append_nil _).symm, nofun⟩
  out _ hm _ := Or.inl hm

/-- The generation changes, and nothing is queued. -/
theorem Strand.Route.setGen {g : Gen} (hg : x.gen = some g) (g' : Gen) (hv : g'.Valid → g.Valid)
    (ht : g'.task.isOpening = true → g.task.isOpening = true) (reg : Bool) (r : ReaderPhase) :
    x.Route { x with gen := some g', registered := reg, reader := r } :=
  { Strand.Route.refl x with
    gen := fun _ hg' => by
      cases hg'
      exact ⟨g, hg, hv, ht⟩
    kept := fun _ => rfl }

theorem Gen.valid_of_cancel {g : Gen} {preserve : Bool} (h : (Gen.cancel preserve g).Valid) :
    g.Valid := (Bool.and_eq_true_iff.mp h).1

namespace Strand

theorem Route.shut (x : Strand) : x.Route x.shut := by
  unfold Strand.shut
  split
  · exact { Strand.Route.refl x with
      gen := fun g' hg' => by
        obtain ⟨g, hg, rfl⟩ := Option.map_eq_some_iff.mp hg'
        exact ⟨g, hg, Gen.valid_of_cancel, id⟩
      kept := fun h => by simpa using h }
  · exact .refl x

/-- The generation's task ends or moves on; its side stays. -/
theorem Route.setTask {y : Strand} (h : x.Route y) {g : Gen} (hg : y.gen = some g) (task : Task)
    (ht : task.isOpening = true → g.task.isOpening = true) :
    x.Route { y with gen := some { g with task := task } } :=
  { h with
    gen := fun _ hg' => by
      cases hg'
      obtain ⟨g₀, hg₀, hv, ho⟩ := h.gen g hg
      exact ⟨g₀, hg₀, hv, fun h => ho (ht h)⟩
    kept := fun _ => rfl }

theorem Route.setReader {y : Strand} (h : x.Route y) (r : ReaderPhase) :
    x.Route { y with reader := r } := { h with }

theorem Step.route (hs : Strand.Step sid x x') (hI : ∀ g, x.gen = some g → g.side.Inv) :
    x.Route x' := by
  have hself := Route.refl x
  cases hs with
  | same => exact hself
  | move g task hg ht ho => exact hself.setTask hg task fun h => ho ▸ h
  | opened g target hg ht =>
    have hopen : g.task.isOpening = true := by rw [ht]; rfl
    exact { hself.setTask hg .bridging nofun with
      out := fun m hm _ => by
        rcases List.mem_append.mp hm with hm | hm
        · exact Or.inl hm
        · exact Or.inr ⟨g, hg, hopen⟩ }
  | removed g preserve task hg hreg hp hr ht =>
    refine .setGen hg { Gen.cancel preserve g with task := task }
      (fun h => Gen.valid_of_cancel (g := g) h) (fun h => ?_) false x.reader
    rcases ht with rfl | rfl <;> cases h
  | ended g hg hreg => exact hself.setTask hg .ended nofun
  | up g a side o hg ht hup =>
    obtain ⟨-, hspec, -⟩ := (hI g hg).stepUp hup
    have hv : side.flow.outputValid = g.side.flow.outputValid := by rw [hspec.frame]
    exact { Route.setGen hg { g with side := side } (fun h => hv.symm.trans h) id x.registered
        x.reader with
      out := fun m hm hopen => by
        rcases List.mem_append.mp hm with hm | hm
        · exact Or.inl hm
        · rcases hspec.emits with ⟨rfl, -⟩ | ⟨payload, rfl, -⟩ | ⟨rfl, -⟩
          · cases hm
          · rw [List.mem_singleton.mp hm] at hopen
            cases hopen
          · rw [List.mem_singleton.mp hm] at hopen
            cases hopen }
  | down g a side o hg ht hdown =>
    obtain ⟨-, hspec, -⟩ := (hI g hg).stepDown hdown
    refine { Route.setGen hg { g with side := side } (fun h => ?_) id x.registered
      x.reader with }
    rcases hspec.status with hst | hst
    · exact hst.2.symm.trans h
    · exact absurd (hst.2.symm.trans h) Bool.false_ne_true
  | reset g hg ht => exact { hself.setTask hg .ended nofun with }
  | resetFailed g hg ht => exact (Route.shut x).setTask hg .ended nofun
  | shut => exact .shut x
  | shutReader hr => exact (Route.shut x).setReader .idle
  | writeOut g m rest hg hm ho =>
    refine { hself with
      wire := ?_, out := fun m' hm' _ => Or.inl (ho ▸ List.mem_cons_of_mem m hm') }
    cases hv : g.side.flow.outputValid with
    | true =>
      refine ⟨[m], rfl, fun m' hm' _ => ?_⟩
      cases List.mem_singleton.mp hm'
      exact ⟨ho ▸ List.mem_cons_self, g, hg, hv⟩
    | false => exact ⟨[], (List.append_nil _).symm, nofun⟩
  | writeOwn g m rest hg hm hrst hc =>
    refine { hself with wire := ?_ }
    cases g.side.flow.outputValid with
    | true =>
      refine ⟨[m], rfl, fun m' hm' hopen => ?_⟩
      cases List.mem_singleton.mp hm'
      rw [Msg.isOpening_of_not_isOutput hm] at hopen
      cases hopen
    | false => exact ⟨[], (List.append_nil _).symm, nofun⟩
  | writeRst rest hc =>
    refine { hself with wire := ⟨[.rst], rfl, fun m' hm' hopen => ?_⟩ }
    cases List.mem_singleton.mp hm'
    cases hopen
  | dropRst | lookup | reply => exact { hself with }
  | reject f i hr => exact (Route.shut x).setReader _

theorem Apply.route (hs : Strand.Apply x x') : x.Route x' := by
  cases hs with
  | aborted f i g hr hg hf => exact (Route.shut x).setReader .idle
  | applied f i g side hr hg hf hd =>
    have hst := Side.dispatch_status hd
    exact .setGen hg { g with side := side } (fun h => hst.outputValid.symm.trans h) id
      x.registered .idle
  | refused f i g e hr hg hf hd => exact { Route.refl x with }

end Strand

end Route

/-- The client has its stream, and its `OPEN` has not been passed on; nothing else has either. -/
structure Strand.Unsent (x : Strand) (g : Gen) : Prop where
  gen : x.gen = some g
  valid : g.Valid
  task : g.task ≠ .resetting
  ctl : x.ctl = []
  wire : x.wire = []
  place : (g.task.isOpening = true ∧ x.out = []) ∨ (g.task.isOpening = false ∧
    ∃ target rest, x.out = .opening true target :: rest ∧ NoOpening rest)

/-- `OPEN` is the next record on the wire. -/
structure Strand.Sent (x : Strand) : Prop where
  gen : ∃ g, x.gen = some g ∧ g.task.isOpening = false
  wire : ∃ target rest, x.wire = .opening true target :: rest ∧ NoOpening rest
  out : NoOpening x.out

/-- No `OPEN` will be passed on any more. -/
structure Strand.Past (x : Strand) : Prop where
  gen : x.gen.isSome = true
  wire : NoOpening x.wire
  out : ∀ g, x.gen = some g → g.Valid → NoOpening x.out ∧ g.task.isOpening = false

theorem NoOpening.nil : NoOpening [] := fun _ h => absurd h List.not_mem_nil

theorem NoOpening.append {ms ns : List Msg} (hm : NoOpening ms) (hn : NoOpening ns) :
    NoOpening (ms ++ ns) := fun m h => (List.mem_append.mp h).elim (hm m) (hn m)

section Stages

variable {sid : Nat} {x x' : Strand}

/-- Nothing but `OPEN`s that are in the lane and valid can be added to the wire. -/
theorem Strand.Route.wire_of (h : x.Route x')
    (hno : ∀ g, x.gen = some g → g.Valid → NoOpening x.out) :
    ∃ ws, x'.wire = x.wire ++ ws ∧ NoOpening ws := by
  obtain ⟨ws, hw, hws⟩ := h.wire
  refine ⟨ws, hw, fun m hm => ?_⟩
  by_contra hopen
  obtain ⟨hmem, g, hg, hv⟩ := hws m hm (Bool.not_eq_false _ ▸ hopen)
  exact hopen (hno g hg hv m hmem)

theorem Strand.Route.out_of (h : x.Route x') (hout : NoOpening x.out)
    (ht : ∀ g, x.gen = some g → g.task.isOpening = false) : NoOpening x'.out := by
  intro m hm
  by_contra hopen
  rcases h.out m hm (Bool.not_eq_false _ ▸ hopen) with hmem | ⟨g, hg, htask⟩
  · exact hopen (hout m hmem)
  · exact Bool.false_ne_true ((ht g hg).symm.trans htask)

theorem Strand.Sent.route (h : x.Sent) (hr : x.Route x') : x'.Sent := by
  obtain ⟨g, hg, htask⟩ := h.gen
  have htasks : ∀ g₁, x.gen = some g₁ → g₁.task.isOpening = false := fun g₁ hg₁ => by
    cases hg.symm.trans hg₁
    exact htask
  refine ⟨?_, ?_, hr.out_of h.out htasks⟩
  · obtain ⟨g', hg'⟩ := Option.isSome_iff_exists.mp (hr.kept (by rw [hg]; rfl))
    obtain ⟨g₁, hg₁, -, hopen⟩ := hr.gen g' hg'
    refine ⟨g', hg', ?_⟩
    by_contra hne
    exact Bool.false_ne_true
      ((htasks g₁ hg₁).symm.trans (hopen (Bool.not_eq_false _ ▸ hne)))
  · obtain ⟨target, rest, hw, hno⟩ := h.wire
    obtain ⟨ws, hws, hnew⟩ := hr.wire_of fun _ _ _ => h.out
    exact ⟨target, rest ++ ws, by rw [hws, hw]; rfl, hno.append hnew⟩

theorem Strand.Past.route (h : x.Past) (hr : x.Route x') : x'.Past := by
  refine ⟨hr.kept h.gen, ?_, fun g' hg' hv => ?_⟩
  · obtain ⟨ws, hws, hnew⟩ := hr.wire_of fun g hg hv => (h.out g hg hv).1
    rw [hws]
    exact h.wire.append hnew
  · obtain ⟨g, hg, hvalid, hopen⟩ := hr.gen g' hg'
    obtain ⟨hout, htask⟩ := h.out g hg (hvalid hv)
    refine ⟨hr.out_of hout fun g₁ hg₁ => ?_, ?_⟩
    · cases hg.symm.trans hg₁
      exact htask
    · by_contra hne
      exact Bool.false_ne_true (htask.symm.trans (hopen (Bool.not_eq_false _ ▸ hne)))

end Stages

/-- **A client's stream that the server has not heard of**: the end of a pair whose other end has
not moved, whatever epoch and chunk size the server will give it. -/
structure Strand.Alone (wa wb : MuxWindow) (x : Strand) (h : Half) : Prop where
  idle : x.reader = .idle
  run : ∃ ca ea pre, ∀ cb eb, Reachable Pair.step (Pair.start wa wb ca cb ea eb pre)
    ⟨h, Half.new eb wa wb cb []⟩
  shows : x.Shows .idle h

section Alone

variable {wa wb : MuxWindow} {sid : Nat} {x x' : Strand} {h : Half}

theorem Strand.Alone.inv (ha : x.Alone wa wb h) (cb : ChunkSize) (eb : Nat) :
    Pair.Inv wa.bytes wb.bytes ⟨h, Half.new eb wa wb cb []⟩ := by
  obtain ⟨ca, ea, pre, hrun⟩ := ha.run
  exact Pair.Inv.reachable (hrun cb eb)

theorem Strand.Alone.honest (ha : x.Alone wa wb h) : h.Honest :=
  (ha.inv ⟨1, by decide, by decide⟩ 0).a

theorem winAmount_le_winTotal {m : Msg} {ms : List Msg} (h : m ∈ ms) :
    m.winAmount ≤ winTotal ms := by
  obtain ⟨before, after, rfl⟩ := List.append_of_mem h
  rw [winTotal_append, winTotal_cons]
  omega

/-- It has received nothing and so grants nothing: what it has for the control lane are resets. -/
theorem Strand.Alone.ctl (ha : x.Alone wa wb h) : ∀ m ∈ x.ctl, m = .rst := by
  intro m hm
  have hle := (ha.inv ⟨1, by decide, by decide⟩ 0).ba.le
  have hsend : Half.sendSum (Half.new 0 wa wb ⟨1, by decide, by decide⟩ []) = wa.bytes := by
    simp [Half.sendSum, Half.new, Side.new, Flow.new, Uplink.taken]
  rw [← ha.shows.ctl] at hm
  rcases ha.honest.ctl m hm with hrst | ⟨n, rfl, hpos, -⟩
  · exact hrst
  · have hwin := winAmount_le_winTotal hm
    simp only [inFlight, hsend, Half.recvSum, Msg.winAmount] at hle hwin
    omega

theorem Strand.Alone.step (ha : x.Alone wa wb h) (hs : Strand.Step sid x x') :
    ∃ h', x'.Alone wa wb h' := by
  obtain ⟨h', hr, hsh⟩ := ha.shows.step ha.honest hs
  obtain ⟨ca, ea, pre, hrun⟩ := ha.run
  refine ⟨h', ?_, ⟨ca, ea, pre, fun cb eb => (hrun cb eb).trans (Pair.reachable_local hr)⟩, hsh⟩
  have hidle := ha.idle
  cases hs with
  | resetFailed | shut => exact x.shut_reader.trans hidle
  | shutReader | reply => rfl
  | reject f i hr => rw [hidle] at hr; cases hr
  | lookup gen hr => rw [hidle] at hr; cases hr
  | _ => exact hidle

/-- **A step of a client whose `OPEN` has not been passed on**: it still has not, it is on the wire
now, or it never will be. -/
theorem Strand.Unsent.step {g : Gen} {h' : Half} (hu : x.Unsent g) (ha : x.Alone wa wb h)
    (ha' : x'.Alone wa wb h') (hs : Strand.Step sid x x') :
    (∃ g', x'.Unsent g') ∨ x'.Sent ∨ x'.Past := by
  have hgen : ∀ {g₁}, x.gen = some g₁ → g₁ = g := fun hg => Option.some.inj (hg.symm.trans hu.gen)
  have hI : g.side.Inv := ha.shows.side g hu.gen ▸ ha.honest.side
  have hwire : NoOpening x.wire := by
    rw [hu.wire]
    exact .nil
  -- a stream whose output is not valid any more
  have hpast : ∀ y : Strand, ∀ g', y.gen = some g' → ¬g'.Valid → y.wire = x.wire → y.Past :=
    fun y g' hg' hv hw => ⟨by rw [hg']; rfl, hw ▸ hwire, fun g₁ hg₁ hv₁ => by
      cases hg'.symm.trans hg₁
      exact absurd hv₁ hv⟩
  have hshut : (∃ g', x.shut.Unsent g') ∨ x.shut.Sent ∨ x.shut.Past := by
    unfold Strand.shut
    split
    · refine Or.inr (Or.inr (hpast _ (Gen.cancel false g) (by simp [hu.gen]) ?_ rfl))
      simp [Gen.Valid, Gen.cancel, Side.cancel, Flow.cancel]
    · exact Or.inl ⟨g, hu⟩
  have hbridging : g.task = .bridging →
      ∃ target rest, x.out = .opening true target :: rest ∧ NoOpening rest := fun ht => by
    rcases hu.place with ⟨hopen, -⟩ | ⟨-, hout⟩
    · rw [ht] at hopen
      cases hopen
    · exact hout
  cases hs with
  | same => exact Or.inl ⟨g, hu⟩
  | move g₁ task hg ht ho =>
    obtain rfl := hgen hg
    exact Or.inl ⟨_, rfl, hu.valid, ht, hu.ctl, hu.wire, by rw [ho]; exact hu.place⟩
  | opened g₁ target hg ht =>
    obtain rfl := hgen hg
    have hneg : g₁.side.flow.negotiated = true := ha.shows.side g₁ hg ▸ ha.honest.negotiated
    have hout : x.out = [] := by
      rcases hu.place with ⟨-, hout⟩ | ⟨hopen, -⟩
      · exact hout
      · rw [ht] at hopen
        cases hopen
    refine Or.inl ⟨_, rfl, hu.valid, by simp, hu.ctl, hu.wire, Or.inr ⟨rfl, target, [], ?_, .nil⟩⟩
    simp [hout, hneg]
  | removed g₁ preserve task hg hreg hp hr ht =>
    obtain rfl := hgen hg
    cases preserve with
    | true =>
      have htask : task = .ended := ht.resolve_left fun h => Bool.false_ne_true (hr h).symm
      subst htask
      refine Or.inl ⟨_, rfl, ?_, by simp, hu.ctl, hu.wire, Or.inr ⟨rfl, hbridging (hp rfl).1⟩⟩
      simpa [Gen.Valid, Gen.cancel, Side.cancel, Flow.cancel] using hu.valid
    | false =>
      refine Or.inr (Or.inr (hpast _ _ rfl ?_ rfl))
      simp [Gen.Valid, Gen.cancel, Side.cancel, Flow.cancel]
  | ended g₁ hg hreg =>
    obtain rfl := hgen hg
    rcases hu.place with ⟨-, hout⟩ | ⟨-, hout⟩
    · refine Or.inr (Or.inr ⟨rfl, hwire, fun g' hg' _ => ?_⟩)
      cases hg'
      exact ⟨hout ▸ .nil, rfl⟩
    · exact Or.inl ⟨_, rfl, hu.valid, by simp, hu.ctl, hu.wire, Or.inr ⟨rfl, hout⟩⟩
  | up g₁ a side o hg ht hup =>
    obtain rfl := hgen hg
    obtain ⟨-, hspec, -⟩ := hI.stepUp hup
    have hv : side.flow.outputValid = g₁.side.flow.outputValid := by rw [hspec.frame]
    obtain ⟨target, rest, hout, hno⟩ := hbridging ht
    refine Or.inl ⟨_, rfl, hv.trans hu.valid, hu.task, hu.ctl, hu.wire,
      Or.inr ⟨by rw [ht]; rfl, target, rest ++ o.toList, by simp [hout], hno.append ?_⟩⟩
    rcases hspec.emits with ⟨rfl, -⟩ | ⟨payload, rfl, -⟩ | ⟨rfl, -⟩ <;>
      simp [NoOpening, Msg.isOpening]
  | down g₁ a side o hg ht hdown =>
    obtain rfl := hgen hg
    obtain ⟨-, hspec, -⟩ := hI.stepDown hdown
    have hnone : o = none := by
      rcases hspec.emits with rfl | ⟨n, rfl, -⟩
      · rfl
      · have := ha'.ctl (.win n) (by simp)
        cases this
    subst hnone
    by_cases hv : side.flow.outputValid = true
    · exact Or.inl ⟨_, rfl, hv, hu.task, by simp [hu.ctl], hu.wire, hu.place⟩
    · exact Or.inr (Or.inr (hpast _ _ rfl hv rfl))
  | reset g₁ hg ht =>
    obtain rfl := hgen hg
    exact absurd ht hu.task
  | resetFailed g₁ hg ht =>
    -- the task of a stream that is shut down has not moved
    have htask : ∀ g₂, x.shut.gen = some g₂ → g₂.task = g.task := by
      unfold Strand.shut
      split
      · intro g₂ hg₂
        simp only [hu.gen, Option.map_some, Option.some.injEq] at hg₂
        rw [← hg₂]
        rfl
      · intro g₂ hg₂
        rw [hgen hg₂]
    exact absurd ((htask g₁ hg).symm.trans ht) hu.task
  | shut => exact hshut
  | shutReader hr =>
    rcases hshut with ⟨g', h⟩ | h | h
    · exact Or.inl ⟨g', { h with }⟩
    · exact Or.inr (Or.inl { h with })
    · exact Or.inr (Or.inr { h with })
  | writeOut g₁ m rest hg hm ho =>
    obtain rfl := hgen hg
    rcases hu.place with ⟨-, hout⟩ | ⟨htask, target, rest', hout, hno⟩
    · rw [ho] at hout
      cases hout
    · cases ho.symm.trans hout
      refine Or.inr (Or.inl ⟨⟨g₁, hg, htask⟩, ⟨target, [], ?_, .nil⟩, hno⟩)
      have hv : g₁.side.flow.outputValid = true := hu.valid
      simp [hv, hu.wire]
  | writeOwn g₁ m rest hg hm hrst hc => rw [hu.ctl] at hc; cases hc
  | writeRst rest hc => rw [hu.ctl] at hc; cases hc
  | dropRst rest hc => rw [hu.ctl] at hc; cases hc
  | reject f i hr => rw [ha.idle] at hr; cases hr
  | lookup gen hr => rw [ha.idle] at hr; cases hr
  | reply gen hr => rw [ha.idle] at hr; cases hr

/-- The server will never hear of it: the other end is removed before it has moved. -/
theorem Strand.Alone.lost (ha : x.Alone wa wb h) (r : ReaderPhase) (hr : r.refuses = false)
    (hh : r.holding = []) :
    ∃ p ca cb ea eb pre, Reachable Pair.step (Pair.start wa wb ca cb ea eb pre) p ∧
      Coupled x { Strand.empty with reader := r } p := by
  obtain ⟨ca, ea, pre, hrun⟩ := ha.run
  have hone : ChunkSize := ⟨1, by decide, by decide⟩
  refine ⟨⟨h, (Half.new 0 wa wb hone []).remove false⟩, ca, hone, ea, 0, pre,
    (hrun hone 0).trans (.one (a := (false, .abort)) ?_), ha.shows.of_peer hh, ?_⟩
  · simp [Pair.step, Pair.stepA, Pair.swap, Half.local, Half.new]
  · exact {
      side := fun g hg => by cases hg
      bare := fun _ => ⟨rfl, rfl, rfl⟩
      registered := rfl
      running := fun g hg => by cases hg
      out := rfl
      ctl := rfl
      wire := ⟨[], by rw [ha.idle]; rfl, rfl⟩
      refused := hr.symm
      resetting := fun g hg => by cases hg
      replying := fun _ => rfl }

end Alone

/-- **What can be the case for an id**, of which the client holds `x` and the server `y`. -/
inductive Link (wa wb : MuxWindow) : Strand → Strand → Prop
  | unused : Link wa wb .empty .empty
  | unsent (x : Strand) (g : Gen) (h : Half) (hu : x.Unsent g) (ha : x.Alone wa wb h) :
    Link wa wb x .empty
  | sent (x : Strand) (h : Half) (hs : x.Sent) (ha : x.Alone wa wb h) : Link wa wb x .empty
  | coupled (x y : Strand) (p : Pair) (ca cb : ChunkSize) (ea eb : Nat) (pre : Bytes) (hp : x.Past)
    (hr : Reachable Pair.step (Pair.start wa wb ca cb ea eb pre) p) (hc : Coupled x y p) :
    Link wa wb x y

section Link

variable {wa wb : MuxWindow} {sid : Nat} {x x' y y' : Strand}

/-- Nothing happens under an id that is not in use. -/
theorem Strand.Step.of_empty (hs : Strand.Step sid .empty x') : x' = .empty := by
  have hshut : Strand.empty.shut = .empty := rfl
  cases hs with
  | same | shut | shutReader => rfl
  | move g task hg => cases hg
  | opened g target hg => cases hg
  | removed g preserve task hg => cases hg
  | ended g hg => cases hg
  | up g a side o hg => cases hg
  | down g a side o hg => cases hg
  | reset g hg => cases hg
  | resetFailed g hg => cases hg
  | writeOut g m rest hg => cases hg
  | writeOwn g m rest hg => cases hg
  | writeRst rest hc => cases hc
  | dropRst rest hc => cases hc
  | reject f i hr => cases hr
  | lookup gen hr => cases hr
  | reply gen hr => cases hr

theorem Strand.Apply.not_idle (hs : Strand.Apply x x') : x.reader ≠ .idle := by
  intro hidle
  cases hs with
  | aborted f i g hr => rw [hidle] at hr; cases hr
  | applied f i g side hr => rw [hidle] at hr; cases hr
  | refused f i g e hr => rw [hidle] at hr; cases hr

/-- The client moves. -/
theorem Link.stepA (h : Link wa wb x y) (hs : Strand.Step sid x x') : Link wa wb x' y := by
  cases h with
  | unused =>
    rw [hs.of_empty]
    exact .unused
  | unsent _ g h hu ha =>
    obtain ⟨h', ha'⟩ := ha.step hs
    rcases hu.step ha ha' hs with ⟨g', hu'⟩ | hsent | hpast
    · exact .unsent x' g' h' hu' ha'
    · exact .sent x' h' hsent ha'
    · obtain ⟨p, ca, cb, ea, eb, pre, hr, hc⟩ := ha'.lost .idle rfl rfl
      exact .coupled x' .empty p ca cb ea eb pre hpast hr hc
  | sent _ h hsent ha =>
    obtain ⟨h', ha'⟩ := ha.step hs
    refine .sent x' h' (hsent.route (hs.route fun g hg => ?_)) ha'
    exact ha.shows.side g hg ▸ ha.honest.side
  | coupled _ _ p ca cb ea eb pre hp hr hc =>
    have hI := Pair.Inv.reachable hr
    obtain ⟨q, hq, hc'⟩ := hc.step hI.a hs
    refine .coupled x' y q ca cb ea eb pre (hp.route (hs.route fun g hg => ?_)) (hr.trans hq) hc'
    exact hc.a.side g hg ▸ hI.a.side

/-- The server moves. -/
theorem Link.stepB (h : Link wa wb x y) (hs : Strand.Step sid y y') : Link wa wb x y' := by
  cases h with
  | unused =>
    rw [hs.of_empty]
    exact .unused
  | unsent _ g h hu ha =>
    rw [hs.of_empty]
    exact .unsent x g h hu ha
  | sent _ h hsent ha =>
    rw [hs.of_empty]
    exact .sent x h hsent ha
  | coupled _ _ p ca cb ea eb pre hp hr hc =>
    obtain ⟨q, hq, hc'⟩ := hc.swap.step (Pair.Inv.reachable hr).b hs
    exact .coupled x y' q.swap ca cb ea eb pre hp (hr.trans (Pair.reachable_swap hq)) hc'.swap

theorem Link.applyA (h : Link wa wb x y) (hs : Strand.Apply x x') : Link wa wb x' y := by
  cases h with
  | unused => exact absurd rfl hs.not_idle
  | unsent _ g h hu ha => exact absurd ha.idle hs.not_idle
  | sent _ h hsent ha => exact absurd ha.idle hs.not_idle
  | coupled _ _ p ca cb ea eb pre hp hr hc =>
    obtain ⟨q, hq, hc'⟩ := hc.apply (Pair.Inv.reachable hr).b hs
    exact .coupled x' y q ca cb ea eb pre (hp.route hs.route) (hr.trans hq) hc'

theorem Link.applyB (h : Link wa wb x y) (hs : Strand.Apply y y') : Link wa wb x y' := by
  cases h with
  | unused | unsent | sent => exact absurd rfl hs.not_idle
  | coupled _ _ p ca cb ea eb pre hp hr hc =>
    obtain ⟨q, hq, hc'⟩ := hc.swap.apply (Pair.Inv.reachable hr).a hs
    exact .coupled x y' q.swap ca cb ea eb pre hp (hr.trans (Pair.reachable_swap hq)) hc'.swap

/-- The client allocates the stream. -/
theorem Link.openA {e : Endpoint} {pre target : Bytes} (h : Link wa wb x y) (hx : x.gen = none)
    (hw : e.window = wa) : Link wa wb { x with
      gen := some (e.fresh sid (some wb.bytes) pre (.opening target false)), registered := true }
      y := by
  cases h with
  | unused =>
    refine .unsent _ _ (Half.new e.nextEpoch wb wa e.chunk pre)
      ⟨rfl, rfl, nofun, rfl, rfl, Or.inl ⟨rfl, rfl⟩⟩
      ⟨rfl, ⟨e.chunk, e.nextEpoch, pre, fun cb eb => .refl _⟩, ?_⟩
    exact {
      side := fun g hg => by
        cases hg
        simp [Half.new, Endpoint.fresh, hw]
      bare := nofun
      registered := rfl
      running := fun g hg ht => by
        cases hg
        cases ht
      out := rfl
      ctl := rfl
      wire := ⟨[], rfl, rfl⟩
      refused := rfl
      resetting := fun g hg ht => by
        cases hg
        cases ht
      replying := nofun }
  | unsent _ g h hu ha =>
    rw [hu.gen] at hx
    cases hx
  | sent _ h hsent ha =>
    obtain ⟨g, hg, -⟩ := hsent.gen
    rw [hg] at hx
    cases hx
  | coupled _ _ p ca cb ea eb pre hp hr hc =>
    have := hp.gen
    rw [hx] at this
    cases this

/-- The client's reader takes a record of the server. -/
theorem Link.takeA {e : Endpoint} {f : Incoming} {m : Msg} {ws : List Msg} (h : Link wa wb x y)
    (ht : e.Takes f x x') (ho : ¬e.Opens f) (hidle : x.reader = .idle) (hw : y.wire = m :: ws)
    (hm : m.isOpening = false) (hf : m.asRead = f.asRead) :
    Link wa wb x' { y with wire := ws } := by
  cases h with
  | unused | unsent | sent => cases hw
  | coupled _ _ p ca cb ea eb pre hp hr hc =>
    obtain ⟨q, hq, hc'⟩ := hc.take ht ho hidle hw hm hf
    refine .coupled x' _ q ca cb ea eb pre ?_ (hr.trans hq) hc'
    cases ht with
    | opened peer hop => exact absurd hop ho
    | rejected hop => exact absurd hop ho
    | _ => exact { hp with }

/-- The server's reader takes a record of the client: `OPEN`, which it admits or rejects, or one of
a stream that both know. -/
theorem Link.takeB {e : Endpoint} {f : Incoming} {m : Msg} {ws : List Msg} (h : Link wa wb x y)
    (ht : e.Takes f y y') (hserver : e.client = false) (hwin : e.window = wb)
    (hheard : ∀ w, e.negotiation = .credit w → w = wa.bytes) (hidle : y.reader = .idle)
    (hw : x.wire = m :: ws) (hf : m.asRead = f.asRead) : Link wa wb { x with wire := ws } y' := by
  have hflags : f.flags = m.flags := (congrArg Prod.fst hf).symm
  cases h with
  | unused => cases hw
  | unsent _ g h hu ha =>
    rw [hu.wire] at hw
    cases hw
  | sent _ h hsent ha =>
    obtain ⟨target, rest, hwire, hno⟩ := hsent.wire
    cases hw.symm.trans hwire
    have hopens : e.Opens f := ⟨by
      rw [hflags]
      exact (show hasFlag (flagOpen ||| flagOpenCredit) flagOpen = true by decide), hserver⟩
    have hcredit : hasFlag f.flags flagOpenCredit = true := by
      rw [hflags]
      exact (show hasFlag (flagOpen ||| flagOpenCredit) flagOpenCredit = true by decide)
    have hpast : Strand.Past { x with wire := ws } := by
      obtain ⟨g, hg, htask⟩ := hsent.gen
      refine ⟨by simp [hg], hno, fun g' hg' _ => ⟨hsent.out, ?_⟩⟩
      cases hg.symm.trans hg'
      exact htask
    -- the pair has not seen `OPEN`
    have ha' : Strand.Alone wa wb { x with wire := ws } h := { ha with
      shows := { ha.shows with
        wire := by
          obtain ⟨ms, hms, heq⟩ := ha.shows.wire
          refine ⟨ms, hms, heq.trans ?_⟩
          rw [hwire]
          rfl } }
    cases ht with
    | ignored hreg ho => exact absurd hopens ho
    | got i g hg hreg ho => exact absurd hopens ho
    | unknown hreg ho => exact absurd hopens ho
    | rejected ho =>
      obtain ⟨p, ca, cb, ea, eb, pre, hr, hc⟩ :=
        ha'.lost (.rejecting f.sid) rfl rfl
      exact .coupled _ _ p ca cb ea eb pre hpast hr hc
    | opened peer ho hadm =>
      obtain ⟨w, hneg, rfl⟩ := hadm.credit hcredit
      obtain rfl := hheard w hneg
      obtain ⟨ca, ea, pre, hrun⟩ := ha'.run
      refine .coupled _ _ _ ca e.chunk ea e.nextEpoch pre hpast (hrun e.chunk e.nextEpoch)
        ⟨ha'.shows.of_peer rfl, ?_⟩
      exact {
        side := fun g hg => by
          cases hg
          simp [Half.new, Endpoint.fresh, hwin]
        bare := nofun
        registered := rfl
        running := fun g hg ht => by
          cases hg
          cases ht
        out := rfl
        ctl := rfl
        wire := ⟨[], by rw [ha'.idle]; rfl, rfl⟩
        refused := rfl
        resetting := fun g hg ht => by
          cases hg
          cases ht
        replying := nofun }
  | coupled _ _ p ca cb ea eb pre hp hr hc =>
    have hm : m.isOpening = false := hp.wire m (by rw [hw]; exact List.mem_cons_self)
    have hno : ¬e.Opens f := by
      rintro ⟨hopen, -⟩
      rw [hflags] at hopen
      obtain ⟨credit, target, rfl, -⟩ := Msg.opening_of_flags hopen
      cases hm
    obtain ⟨q, hq, hc'⟩ := hc.swap.take ht hno hidle hw hm hf
    refine .coupled _ y' q.swap ca cb ea eb pre ?_ (hr.trans (Pair.reachable_swap hq)) hc'.swap
    exact ⟨hp.gen, fun m' hm' => hp.wire m' (by rw [hw]; exact List.mem_cons_of_mem m hm'), hp.out⟩

end Link

end BibaVpn.Mux
