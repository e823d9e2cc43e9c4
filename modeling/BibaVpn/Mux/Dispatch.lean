/-
# `dispatch`: one record of the peer

`Endpoint::dispatch` handles one record of the peer, whatever the peer has put into it.  The
reader's steps take it apart at its locks; here it is one function again, with the error that ends
the session:

* §1 is the function, and that the reader's steps, taken in a row, compute it (`dispatch_run`);
* §2 says which records are refused, by a flow (`Flow.Malformed`) and as an `OPEN`
  (`Endpoint.BadOpen`);
* §3: a record touches only the stream it names, step by step and as a whole;
* §4 puts together what a record can do (`dispatch_named_only`).  A refused record unregisters and
  cancels the stream it names, unless it is an `OPEN`: then a stream that is registered under the
  id stays, and a reset of it is queued (`malformed_open_keeps_stream`).
-/
import BibaVpn.Mux.Resets

namespace BibaVpn.Mux

open Machine Wire Lts

/-! ## 1. The function -/

variable {e : Endpoint} {sid : Nat} {f : Incoming}

namespace Endpoint

/-- `Endpoint::control`, with its error. -/
def sendControl (e : Endpoint) (r : Rec) : Endpoint × Except String Unit :=
  match e.tryControl (.record r) with
  | some e' => (e', .ok ())
  | none => (e.noteExhausted, .error "mux control queue exhausted or closed")

/-- `dispatch` of an `OPEN` at a server: the stream that is allocated for it, if any. -/
def admitted (e : Endpoint) (f : Incoming) : Option Endpoint :=
  if hasFlag f.flags flagOpenCredit then
    match e.negotiation with
    | .credit window => e.allocateOpen f (some window)
    | _ => none
  else e.allocateOpen f none

/-- `dispatch` of a capability record. -/
def dispatchCapability (e : Endpoint) (payload : Bytes) : Endpoint × Except String Unit :=
  if e.client then
    match parseCapability payload 2 with
    | some window => (e.settle (.credit window), .ok ())
    | none => (e, .ok ())
  else
    match parseCapability payload 1 with
    | some window =>
      { e with negotiation := .credit window }.sendControl ⟨0, .cap 2 e.window.bytes, none⟩
    | none => (e, .ok ())

/-- `dispatch` of a record for the registered generation `i`, which is `g`. -/
def dispatchFlow (e : Endpoint) (f : Incoming) (i : Nat) (g : Gen) :
    Endpoint × Except String Unit :=
  if hasFlag f.flags flagRst then ((e.remove f.sid g.epoch).1, .ok ())
  else match g.side.dispatch f.flags f.payload with
    | .ok side => (e.setSide i side, .ok ())
    | .error _ =>
      if (e.remove f.sid g.epoch).2 then
        (e.remove f.sid g.epoch).1.sendControl ⟨f.sid, .rst, some i⟩
      else ((e.remove f.sid g.epoch).1, .ok ())

/-- **`Endpoint::dispatch`.** -/
def dispatch (e : Endpoint) (f : Incoming) : Endpoint × Except String Unit :=
  if f.flags = flagWin ∧ f.sid = 0 then e.dispatchCapability f.payload
  else if hasFlag f.flags flagOpen ∧ !e.client then
    match e.admitted f with
    | some e' => (e', .ok ())
    | none => e.sendControl ⟨f.sid, .rst, e.get f.sid⟩
  else match e.get f.sid with
    | none =>
      if hasFlag f.flags flagData ∧ f.payload ≠ [] ∧ !e.client then
        e.sendControl ⟨f.sid, .rst, none⟩
      else (e, .ok ())
    | some i =>
      match e.gens[i]? with
      | none => (e, .ok ())
      | some g => e.dispatchFlow f i g

/-- What `receiver` does with the result: an error ends the session. -/
def handle (r : Endpoint × Except String Unit) : Endpoint :=
  match r.2 with
  | .ok _ => r.1
  | .error _ => r.1.stop

theorem receiveOpen_eq (e : Endpoint) (f : Incoming) :
    e.receiveOpen f = (e.admitted f).getD { e with reader := .rejecting f.sid } := by
  have hmatch : ∀ o : Option Endpoint, (match o with
      | some e' => e'
      | none => { e with reader := .rejecting f.sid }) =
        o.getD { e with reader := .rejecting f.sid } := fun o => by cases o <;> rfl
  unfold receiveOpen admitted
  dsimp only
  refine (hmatch _).trans (congrArg (Option.getD · _) ?_)
  split
  · cases e.negotiation <;> rfl
  · rfl

/-- Putting the reader back where it was. -/
theorem reader_eta (h : e.reader = .idle) : { e with reader := .idle } = e := by
  cases e
  cases h
  rfl

theorem readerControl_eq {p : ReaderPhase} (h : e.reader = .idle) (r : Rec) :
    readerControl { e with reader := p } r = handle (e.sendControl r) := by
  unfold readerControl sendControl tryControl
  have hroom : controlRoom { e with reader := p } = e.controlRoom := rfl
  rw [hroom]
  split
  · rename_i e' he
    split at he
    · rename_i hr
      cases he
      simp only [hr, if_true, handle]
      exact reader_eta (e := { e with control := e.control ++ [.record r] }) h
    · cases he
  · rename_i he
    split at he
    · cases he
    · rename_i hr
      simp only [hr, handle]
      exact congrArg stop (reader_eta (e := e.noteExhausted) h)

/-- `finish` does not look at the reader. -/
theorem finish_setReader (e : Endpoint) (p : ReaderPhase) (sid epoch : Nat) (preserve : Bool) :
    finish { e with reader := p } sid epoch preserve =
      ({ (e.finish sid epoch preserve).1 with reader := p }, (e.finish sid epoch preserve).2) := by
  have hget : get { e with reader := p } sid = e.get sid := rfl
  unfold finish
  rw [hget]
  cases e.get sid with
  | none => rfl
  | some i =>
    have hep : epochOf { e with reader := p } i = e.epochOf i := rfl
    simp only [hep]
    split <;> rfl

section Run

variable {e : Endpoint} (hrun : e.running = true) (hr : e.reader = .idle) (f : Incoming)

include hrun in
theorem step_read (p : ReaderPhase) (a : ReaderAction) :
    step { e with reader := p } (.read a) = readerStep { e with reader := p } a :=
  if_pos hrun

include hrun hr in
theorem step_receive : e.step (.read (.receive f)) = some (e.receive f) := by
  have hstep : e.step (.read (.receive f)) = e.readerStep (.receive f) := if_pos hrun
  rw [hstep]
  exact if_pos hr

include hr in
theorem receiveCapability_eq (payload : Bytes) :
    e.receiveCapability payload = handle (e.dispatchCapability payload) := by
  unfold receiveCapability dispatchCapability
  by_cases hc : e.client = true
  · rw [if_pos hc, if_pos hc]
    cases parseCapability payload 2 <;> rfl
  · rw [if_neg hc, if_neg hc]
    cases parseCapability payload 1 with
    | none => rfl
    | some window =>
      have heq := readerControl_eq (e := { e with negotiation := .credit window })
        (p := .idle) hr ⟨0, .cap 2 e.window.bytes, none⟩
      rwa [reader_eta (e := { e with negotiation := .credit window }) hr] at heq

include hrun hr in
/-- The steps for a record of a registered stream. -/
theorem dispatchFlow_run {i : Nat} {g : Gen} (hg : e.gens[i]? = some g) :
    ∃ as : List ReaderAction, Lts.run step { e with reader := .got f i }
      (as.map Action.read) = some (handle (e.dispatchFlow f i g)) := by
  have hrd : ∀ b, (e.finish f.sid g.epoch b).1.reader = .idle := fun b =>
    (e.reader_finish _ _ b).trans hr
  have happly : step { e with reader := .got f i } (.read .apply) =
      if hasFlag f.flags flagRst then some { (e.remove f.sid g.epoch).1 with reader := .idle }
      else match g.side.dispatch f.flags f.payload with
        | .ok side => some { e.setSide i side with reader := .idle }
        | .error _ => some { e with reader := .refused f i } := by
    rw [step_read hrun]
    simp only [readerStep, hg, remove, finish_setReader]
    rfl
  unfold dispatchFlow
  by_cases hf : hasFlag f.flags flagRst = true
  · refine ⟨[.apply], ?_⟩
    rw [if_pos hf] at happly ⊢
    simp only [List.map_cons, List.map_nil, Lts.run_cons, Lts.run_nil, happly, Option.bind_some]
    exact congrArg some (reader_eta (hrd false))
  · rw [if_neg hf] at happly ⊢
    cases hd : g.side.dispatch f.flags f.payload with
    | ok side =>
      refine ⟨[.apply], ?_⟩
      simp only [hd] at happly
      simp only [List.map_cons, List.map_nil, Lts.run_cons, Lts.run_nil, happly, Option.bind_some]
      exact congrArg some (reader_eta (e := e.setSide i side) hr)
    | error x =>
      simp only [hd] at happly
      have hremove : step { e with reader := .refused f i } (.read .remove) =
          some { (e.remove f.sid g.epoch).1 with
            reader := if (e.remove f.sid g.epoch).2 then .resetting f.sid (some i)
              else .idle } := by
        rw [step_read hrun]
        simp only [readerStep, hg, remove, finish_setReader]
        rfl
      cases hrem : (e.remove f.sid g.epoch).2 with
      | false =>
        refine ⟨[.apply, .remove], ?_⟩
        simp only [List.map_cons, List.map_nil, Lts.run_cons, Lts.run_nil, happly, Option.bind_some,
          hremove, hrem, Bool.false_eq_true, if_false]
        exact congrArg some (reader_eta (hrd false))
      | true =>
        refine ⟨[.apply, .remove, .reply], ?_⟩
        have hrun' : (e.remove f.sid g.epoch).1.running = true := by
          unfold remove
          rcases e.finish_cases f.sid g.epoch false with ⟨heq, -⟩ | ⟨k, -, -, heq⟩ <;> rw [heq] <;>
          exact hrun
        simp only [List.map_cons, List.map_nil, Lts.run_cons, Lts.run_nil, happly, Option.bind_some,
          hremove, hrem, if_true, step_read hrun', readerStep]
        exact congrArg some (readerControl_eq (hrd false) _)

include hrun hr in
/-- **The reader's steps compute `dispatch`**: taken in a row, with nothing in between, they lead to
the state that `dispatch` leaves, and an error ends the session. -/
theorem Wf.dispatch_run (h : e.Wf) : ∃ as : List ReaderAction,
    Lts.run Endpoint.step e (as.map Action.read) = some (handle (e.dispatch f)) := by
  have hreceive := step_receive hrun hr f
  have hself : ∀ r, e.readerControl r = handle (e.sendControl r) := fun r => by
    have heq := readerControl_eq (p := .idle) hr r
    rwa [reader_eta hr] at heq
  -- the reader is done after one step, or goes on with others
  have hone : e.receive f = handle (e.dispatch f) → ∃ as : List ReaderAction,
      Lts.run Endpoint.step e (as.map Action.read) = some (handle (e.dispatch f)) :=
    fun heq => ⟨[.receive f], by
      simp only [List.map_cons, List.map_nil, Lts.run_cons, Lts.run_nil, hreceive,
        Option.bind_some, heq]⟩
  by_cases h0 : f.flags = flagWin ∧ f.sid = 0
  · refine hone ?_
    simp only [receive, dispatch, h0, and_self, if_true]
    exact receiveCapability_eq hr _
  by_cases ho : hasFlag f.flags flagOpen = true ∧ (!e.client) = true
  · have hrec : e.receive f = e.receiveOpen f := by
      simp only [receive, h0, if_false, ho, and_self, if_true]
    have hdis : e.dispatch f = match e.admitted f with
        | some e' => (e', .ok ())
        | none => e.sendControl ⟨f.sid, .rst, e.get f.sid⟩ := by
      simp only [dispatch, h0, if_false, ho, and_self, if_true]
    rw [receiveOpen_eq] at hrec
    cases hadm : e.admitted f with
    | some e' =>
      refine hone ?_
      rw [hrec, hdis, hadm]
      rfl
    | none =>
      rw [hadm] at hrec hdis
      refine ⟨[.receive f, .lookup, .reply], ?_⟩
      simp only [List.map_cons, List.map_nil, Lts.run_cons, Lts.run_nil, hreceive, hrec, hdis,
        Option.getD_none, Option.bind_some, step_read hrun, Endpoint.readerStep]
      exact congrArg some (readerControl_eq hr _)
  cases hget : e.get f.sid with
  | none =>
    refine hone ?_
    simp only [receive, dispatch, h0, ho, if_false, hget]
    split
    · exact hself _
    · rfl
  | some i =>
    obtain ⟨g, hg, -⟩ := h.isGen_of_get hget
    have hrec : e.receive f = { e with reader := .got f i } := by
      simp only [receive, h0, ho, if_false, hget]
    have hdis : e.dispatch f = e.dispatchFlow f i g := by
      simp only [dispatch, h0, ho, if_false, hget, hg]
    obtain ⟨as, has⟩ := dispatchFlow_run hrun hr f hg
    refine ⟨.receive f :: as, ?_⟩
    simp only [List.map_cons, Lts.run_cons, hreceive, hrec, Option.bind_some, has, hdis]

end Run

end Endpoint

/-! ## 2. Records that are refused -/

/-- **A record that a flow refuses**: with credit, `WIN` among other flags, or a `WIN` that is not
four bytes, is zero or exceeds what was sent; and `DATA` or `CLOSE` after `FIN` or a cancellation,
or `DATA` beyond one of the three limits.  Without credit `WIN` is not looked at. -/
def Flow.Malformed (f : Flow) (flags : UInt8) (payload : Bytes) : Prop :=
  (f.negotiated = true ∧ hasFlag flags flagWin = true ∧ flags ≠ flagWin) ∨
  (f.negotiated = true ∧ flags = flagWin ∧
    (payload.length ≠ 4 ∨ fromBe payload = 0 ∨ fromBe payload > f.sendLimit - f.sendAvailable)) ∨
  (flags ≠ flagWin ∧ (hasFlag flags flagData = true ∨ hasFlag flags flagClose = true) ∧
    (f.fin = true ∨ f.cancelled = true ∨ (hasFlag flags flagData = true ∧ payload ≠ [] ∧
      (payload.length > f.credit ∨ f.bytes + payload.length > f.receiveLimit ∨
        f.queue.length ≥ maxQueuedRecords))))

theorem Flow.enqueue_error_iff {f : Flow} {payload : Bytes} {fin : Bool} :
    (∃ x, f.enqueue payload fin = .error x) ↔ f.fin = true ∨ f.cancelled = true ∨
      payload ≠ [] ∧ (payload.length > f.credit ∨ f.bytes + payload.length > f.receiveLimit ∨
        f.queue.length ≥ maxQueuedRecords) := by
  refine ⟨fun ⟨_, hx⟩ => Flow.enqueue_error hx, fun h => ?_⟩
  unfold Flow.enqueue
  rcases h with h | h | h
  · rw [if_pos (by simp [h])]
    exact ⟨_, rfl⟩
  · rw [if_pos (by simp [h])]
    exact ⟨_, rfl⟩
  · rw [if_pos h]
    split <;> exact ⟨_, rfl⟩

theorem Flow.addCredit_error_iff {f : Flow} {payload : Bytes} :
    (∃ x, f.addCredit payload = .error x) ↔ f.negotiated = true ∧ (payload.length ≠ 4 ∨
      fromBe payload = 0 ∨ fromBe payload > f.sendLimit - f.sendAvailable) := by
  unfold Flow.addCredit
  cases hn : f.negotiated with
  | false => simp
  | true =>
    by_cases hlen : payload.length = 4
    · by_cases hamt : fromBe payload = 0 ∨ fromBe payload > f.sendLimit - f.sendAvailable
      · simp [hlen, hamt]
      · simp [hlen, hamt]
    · simp [hlen]

theorem Flow.dispatch_error_iff {f : Flow} {flags : UInt8} {payload : Bytes} :
    (∃ x, f.dispatch flags payload = .error x) ↔ f.Malformed flags payload := by
  unfold Flow.dispatch Flow.Malformed
  by_cases hmix : f.negotiated = true ∧ hasFlag flags flagWin = true ∧ flags ≠ flagWin
  · rw [if_pos (by simp [hmix])]
    exact ⟨fun _ => Or.inl hmix, fun _ => ⟨_, rfl⟩⟩
  · rw [if_neg (by simpa [and_assoc] using hmix), or_iff_right hmix]
    by_cases hwin : flags = flagWin
    · rw [if_pos hwin, Flow.addCredit_error_iff]
      simp [hwin]
    · rw [if_neg hwin]
      by_cases hdata : hasFlag flags flagData = true
      · rw [if_pos (by simp [hdata]), if_pos hdata, Flow.enqueue_error_iff]
        simp [hwin, hdata]
      · by_cases hclose : hasFlag flags flagClose = true
        · rw [if_pos (by simp [hclose]), if_neg hdata, Flow.enqueue_error_iff]
          simp [hwin, hdata, hclose]
        · rw [if_neg (by simp [hdata, hclose])]
          simp [hwin, hdata, hclose]

namespace Endpoint

/-- **An `OPEN` that a server refuses**: credit that was not negotiated, an invalid target, a
session that is closed, an id that is zero or taken, or no capacity. -/
def BadOpen (e : Endpoint) (f : Incoming) : Prop :=
  (hasFlag f.flags flagOpenCredit = true ∧ e.negotiation.window? = none) ∨
  (∃ x, decodeMuxOpenTarget f.payload = .error x) ∨
  e.closed = true ∨ f.sid = 0 ∨ (e.get f.sid).isSome = true ∨ e.streams.length ≥ maxStreams ∨
  e.reserved + e.window.bytes > receiveBudget

theorem allocate_error_iff {peer : Option Nat} {pre : Bytes} {task : Task} :
    (e.allocate sid peer pre task).toOption = none ↔
      e.closed = true ∨ sid = 0 ∨ (e.get sid).isSome = true ∨ e.streams.length ≥ maxStreams ∨
        e.reserved + e.window.bytes > receiveBudget := by
  unfold allocate
  by_cases hc : e.closed = true
  · simp [hc, Except.toOption]
  · by_cases hs : sid = 0 ∨ (e.get sid).isSome = true
    · rw [if_neg hc, if_pos hs]
      exact ⟨fun _ => Or.inr (by rcases hs with hs | hs <;> simp [hs]), fun _ => rfl⟩
    · by_cases hm : e.streams.length ≥ maxStreams
      · simp [hc, hs, hm, Except.toOption]
      · by_cases hb : e.reserved + e.window.bytes > receiveBudget
        · simp [hc, hs, hm, hb, Except.toOption]
        · rw [if_neg hc, if_neg hs, if_neg hm, if_neg hb]
          rw [not_or] at hs
          simp only [Except.toOption, reduceCtorEq, false_iff, not_or]
          exact ⟨hc, hs.1, hs.2, hm, hb⟩

theorem allocateOpen_none_iff {peer : Option Nat} :
    e.allocateOpen f peer = none ↔ (∃ x, decodeMuxOpenTarget f.payload = .error x) ∨
      e.closed = true ∨ f.sid = 0 ∨ (e.get f.sid).isSome = true ∨ e.streams.length ≥ maxStreams ∨
        e.reserved + e.window.bytes > receiveBudget := by
  unfold allocateOpen
  cases hd : decodeMuxOpenTarget f.payload with
  | error x => simp
  | ok target =>
    rw [allocate_error_iff]
    simp

theorem admitted_none_iff : e.admitted f = none ↔ e.BadOpen f := by
  unfold admitted BadOpen
  by_cases hf : hasFlag f.flags flagOpenCredit = true
  · rw [if_pos hf]
    cases hn : e.negotiation with
    | pending | legacy => simp [hf, Negotiation.window?]
    | credit window =>
      simp only [allocateOpen_none_iff, hf, Negotiation.window?]
      simp
  · rw [if_neg hf, allocateOpen_none_iff]
    simp [hf]

/-- **A record that is refused.** -/
inductive Refused (e : Endpoint) (f : Incoming) : Prop
  | opening (ho : hasFlag f.flags flagOpen = true) (hc : e.client = false) (hbad : e.BadOpen f)
  | record (i : Nat) (g : Gen) (hno : ¬ (hasFlag f.flags flagOpen = true ∧ e.client = false))
    (hget : e.get f.sid = some i) (hg : e.gens[i]? = some g) (hf : hasFlag f.flags flagRst = false)
    (hbad : g.side.flow.Malformed f.flags f.payload)

/-! ## 3. The frame of a record -/

/-- **Only streams of `sid` are touched**: what is registered under another id, the generations of
another id, with all their state, and the output lane are the same. -/
structure Apart (e e' : Endpoint) (sid : Nat) : Prop where
  get : ∀ s, s ≠ sid → e'.get s = e.get s
  gens : ∀ (j : Nat) (g : Gen), g.sid ≠ sid → (e'.gens[j]? = some g ↔ e.gens[j]? = some g)
  output : e'.output = e.output

/-- The control lane gained nothing, or one reset of `sid`. -/
def OneReset (e e' : Endpoint) (sid : Nat) : Prop :=
  e'.control = e.control ∨ ∃ gen, e'.control = e.control ++ [.record ⟨sid, .rst, gen⟩]

section Apart

variable {e e' e'' : Endpoint} {sid : Nat}

theorem Apart.of_eq (hs : e'.streams = e.streams) (hg : e'.gens = e.gens)
    (ho : e'.output = e.output) : e.Apart e' sid :=
  ⟨fun s _ => by simp only [Endpoint.get, hs], fun j g _ => by rw [hg], ho⟩

theorem Apart.trans (h : e.Apart e' sid) (h' : e'.Apart e'' sid) : e.Apart e'' sid :=
  ⟨fun s hs => (h'.get s hs).trans (h.get s hs),
    fun j g hg => (h'.gens j g hg).trans (h.gens j g hg), h'.output.trans h.output⟩

/-- One generation of `sid` changes. -/
theorem apart_modify {gs : List Gen} {i : Nat} {f : Gen → Gen} (hi : IsGen gs sid i)
    (hf : ∀ g, (f g).sid = g.sid) (j : Nat) (g : Gen) (hg : g.sid ≠ sid) :
    (gs.modify i f)[j]? = some g ↔ gs[j]? = some g := by
  by_cases hj : j = i
  · subst hj
    obtain ⟨g', hg', rfl⟩ := hi
    rw [getElem?_modify_self hg', hg']
    constructor
    · rintro ⟨⟩
      exact absurd (hf g') hg
    · rintro ⟨⟩
      exact absurd rfl hg
  · rw [getElem?_modify_ne hj]

theorem Wf.apart_finish (h : e.Wf) (sid epoch : Nat) (preserve : Bool) :
    e.Apart (e.finish sid epoch preserve).1 sid := by
  rcases e.finish_cases sid epoch preserve with ⟨heq, -⟩ | ⟨i, hget, -, heq⟩
  · rw [heq]
    exact .of_eq rfl rfl rfl
  · rw [heq]
    refine ⟨fun s hs => ?_, apart_modify (h.isGen_of_get hget) fun _ => rfl, rfl⟩
    exact (h.lookup_filter sid s).trans (if_neg hs)

theorem apart_allocate {peer : Option Nat} {pre : Bytes} {task : Task}
    (ha : e.allocate sid peer pre task = .ok e') : e.Apart e' sid := by
  obtain ⟨-, -, -, rfl⟩ := allocate_ok ha
  refine ⟨fun s hs => ?_, fun j g hg => ⟨fun hj => ?_, fun hj => ?_⟩, rfl⟩
  · simp only [get, List.lookup_cons, beq_eq_false_iff_ne.mpr hs]
  · rcases getElem?_append_one hj with hj | ⟨-, rfl⟩
    · exact hj
    · exact absurd rfl hg
  · rw [List.getElem?_append_left (List.getElem?_eq_some_iff.mp hj).1]
    exact hj

theorem sendControl_eq (e : Endpoint) (r : Rec) : e.sendControl r =
    if e.controlRoom then ({ e with control := e.control ++ [.record r] }, .ok ())
    else (e.noteExhausted, .error "mux control queue exhausted or closed") := by
  unfold sendControl tryControl
  by_cases hroom : e.controlRoom = true
  · rw [if_pos hroom, if_pos hroom]
  · rw [if_neg hroom, if_neg hroom]

theorem apart_reset (e : Endpoint) (sid : Nat) (gen : Option Nat) :
    e.Apart (e.sendControl ⟨sid, .rst, gen⟩).1 sid ∧
      e.OneReset (e.sendControl ⟨sid, .rst, gen⟩).1 sid := by
  rw [sendControl_eq]
  split
  · exact ⟨.of_eq rfl rfl rfl, Or.inr ⟨gen, rfl⟩⟩
  · exact ⟨.of_eq rfl rfl rfl, Or.inl rfl⟩

theorem admitted_ok {f : Incoming} (h : e.admitted f = some e') :
    ∃ peer, e.allocate f.sid peer [] .connecting = .ok e' := by
  unfold admitted at h
  split at h
  · split at h
    · exact ⟨_, allocateOpen_ok h⟩
    · cases h
  · exact ⟨_, allocateOpen_ok h⟩

theorem control_finish (e : Endpoint) (sid epoch : Nat) (preserve : Bool) :
    (e.finish sid epoch preserve).1.control = e.control ∧
      (e.finish sid epoch preserve).1.controlRoom = e.controlRoom := by
  rcases e.finish_cases sid epoch preserve with ⟨heq, -⟩ | ⟨i, -, -, heq⟩
  · rw [heq]
    exact ⟨rfl, rfl⟩
  · rw [heq]
    exact ⟨rfl, rfl⟩

/-- A record for a registered stream touches only that stream. -/
theorem Wf.dispatchFlow_apart {f : Incoming} {i : Nat} {g : Gen} (h : e.Wf)
    (hg : e.gens[i]? = some g) (hsid : g.sid = f.sid) :
    e.Apart (e.dispatchFlow f i g).1 f.sid ∧ e.OneReset (e.dispatchFlow f i g).1 f.sid := by
  have hrem := h.apart_finish f.sid g.epoch false
  have hctl := (e.control_finish f.sid g.epoch false).1
  unfold dispatchFlow remove
  split
  · exact ⟨hrem, Or.inl hctl⟩
  · split
    · refine ⟨⟨fun _ _ => rfl, ?_, rfl⟩, Or.inl rfl⟩
      exact apart_modify ⟨g, hg, hsid⟩ fun _ => rfl
    · split
      · obtain ⟨hapart, hone⟩ := apart_reset (e.finish f.sid g.epoch false).1 f.sid (some i)
        exact ⟨hrem.trans hapart, by simpa only [OneReset, hctl] using hone⟩
      · exact ⟨hrem, Or.inl hctl⟩

/-- **A record touches only the stream it names.** -/
theorem Wf.dispatch_apart {f : Incoming} (h : e.Wf) (h0 : f.sid ≠ 0) :
    e.Apart (e.dispatch f).1 f.sid ∧ e.OneReset (e.dispatch f).1 f.sid := by
  have hcap : ¬ (f.flags = flagWin ∧ f.sid = 0) := fun hc => h0 hc.2
  unfold dispatch
  rw [if_neg hcap]
  split
  · split
    · rename_i e' hadm
      obtain ⟨peer, ha⟩ := admitted_ok hadm
      refine ⟨apart_allocate ha, Or.inl ?_⟩
      obtain ⟨-, -, -, rfl⟩ := allocate_ok ha
      rfl
    · exact apart_reset _ _ _
  · split
    · split
      · exact apart_reset _ _ _
      · exact ⟨.of_eq rfl rfl rfl, Or.inl rfl⟩
    · rename_i i hget
      obtain ⟨g, hg, hsid⟩ := h.isGen_of_get hget
      rw [hg]
      exact h.dispatchFlow_apart hg hsid

end Apart

/-- The id that the reader is working on when it takes a step. -/
def working (e : Endpoint) : ReaderAction → Option Nat
  | .receive f => some f.sid
  | .ping _ => none
  | _ =>
    match e.reader with
    | .idle => none
    | .got f _ => some f.sid
    | .refused f _ => some f.sid
    | .rejecting sid => some sid
    | .resetting sid _ => some sid

theorem apart_readerControl {gen : Option Nat}
    (hrun : (e.readerControl ⟨sid, .rst, gen⟩).running = true) :
    e.Apart (e.readerControl ⟨sid, .rst, gen⟩) sid ∧
      e.OneReset (e.readerControl ⟨sid, .rst, gen⟩) sid := by
  unfold readerControl at hrun ⊢
  cases htc : e.tryControl (.record ⟨sid, .rst, gen⟩) with
  | some e' =>
    rw [tryControl_eq_some htc]
    exact ⟨.of_eq rfl rfl rfl, Or.inr ⟨gen, rfl⟩⟩
  | none =>
    -- then the session ends
    rw [htc] at hrun
    cases hrun

/-- **Each step of the reader touches only the stream it is working on**, whatever others do in
between, unless the session ends. -/
theorem Wf.readerStep_apart {e' : Endpoint} {a : ReaderAction} (h : e.Wf) (hs : e.ReaderStep a e')
    (hw : e.working a = some sid) (h0 : sid ≠ 0) (hrun : e'.running = true) :
    e.Apart e' sid ∧ e.OneReset e' sid := by
  have hreader := h.reader
  cases hs with
  | settled f window _ _ hcap => exact absurd (Option.some.inj hw.symm) (hcap.2 ▸ h0)
  | capability f window _ _ hcap => exact absurd (Option.some.inj hw.symm) (hcap.2 ▸ h0)
  | opened f peer e' _ _ _ ha =>
    obtain rfl : f.sid = sid := Option.some.inj hw
    refine ⟨apart_allocate ha, Or.inl ?_⟩
    obtain ⟨-, -, -, rfl⟩ := allocate_ok ha
    rfl
  | unknown f =>
    obtain rfl : f.sid = sid := Option.some.inj hw
    exact apart_readerControl hrun
  | aborted f i g hr | removed f i g hr =>
    simp only [working, hr, Option.some.injEq] at hw
    subst hw
    exact ⟨(h.apart_finish f.sid g.epoch false).trans (.of_eq rfl rfl rfl),
      Or.inl (e.control_finish f.sid g.epoch false).1⟩
  | applied f i g side hr =>
    simp only [working, hr, Option.some.injEq] at hw
    subst hw
    rw [hr] at hreader
    refine ⟨⟨fun _ _ => rfl, ?_, rfl⟩, Or.inl rfl⟩
    exact apart_modify hreader fun _ => rfl
  | replied s gen hr =>
    simp only [working, hr, Option.some.injEq] at hw
    subst hw
    exact apart_readerControl hrun
  | ponged | pingFailed => cases hw
  | _ => exact ⟨.of_eq rfl rfl rfl, Or.inl rfl⟩

/-! ## 4. What a record of the peer can do -/

/-- The stream that the record names is unregistered and its flow cancelled. -/
structure Ends (e e' : Endpoint) (sid : Nat) : Prop where
  gone : e'.get sid = none
  cancelled : ∀ i, e.get sid = some i → ∃ g : Gen, e'.gens[i]? = some g ∧
    g.side.flow.cancelled = true

/-- A rejected `OPEN` is answered, and nothing else. -/
theorem dispatch_badOpen (ho : hasFlag f.flags flagOpen = true) (hc : e.client = false)
    (hbad : e.BadOpen f) (h0 : f.sid ≠ 0) :
    e.dispatch f = e.sendControl ⟨f.sid, .rst, e.get f.sid⟩ := by
  have hcap : ¬ (f.flags = flagWin ∧ f.sid = 0) := fun h => h0 h.2
  have hopen : hasFlag f.flags flagOpen = true ∧ (!e.client) = true := ⟨ho, by simp [hc]⟩
  unfold dispatch
  rw [if_neg hcap, if_pos hopen, admitted_none_iff.mpr hbad]

/-- Removing the registered generation. -/
theorem finish_registered {i : Nat} {g : Gen} (hget : e.get sid = some i)
    (hg : e.gens[i]? = some g) (preserve : Bool) : e.finish sid g.epoch preserve = ({ e with
      streams := e.streams.filter fun s => s.1 ≠ sid
      gens := e.gens.modify i (Gen.cancel preserve) }, true) := by
  have hep : e.epochOf i = some g.epoch := by simp only [epochOf, hg, Option.map_some]
  simp only [finish, hget, hep, if_true]

/-- A record that its flow refuses: the stream is removed and a reset of it is queued. -/
theorem dispatch_malformed {i : Nat} {g : Gen}
    (hno : ¬ (hasFlag f.flags flagOpen = true ∧ e.client = false)) (h0 : f.sid ≠ 0)
    (hget : e.get f.sid = some i) (hg : e.gens[i]? = some g)
    (hf : hasFlag f.flags flagRst = false) (hbad : g.side.flow.Malformed f.flags f.payload) :
    e.dispatch f = (e.finish f.sid g.epoch false).1.sendControl ⟨f.sid, .rst, some i⟩ := by
  have hcap : ¬ (f.flags = flagWin ∧ f.sid = 0) := fun h => h0 h.2
  have hopen : ¬ (hasFlag f.flags flagOpen = true ∧ (!e.client) = true) := by simpa using hno
  obtain ⟨x, hx⟩ := Flow.dispatch_error_iff.mpr hbad
  have hside : g.side.dispatch f.flags f.payload = .error x := by
    simp only [Side.dispatch, hx]
    rfl
  have hrem : (e.remove f.sid g.epoch).2 = true := by
    rw [remove, finish_registered hget hg]
  unfold dispatch
  rw [if_neg hcap, if_neg hopen]
  simp only [hget, hg, dispatchFlow, hf, Bool.false_eq_true, if_false, hside, hrem, if_true]
  rfl

/-- **What `dispatch` does with a record.**  `apart`, `queued`: it touches only streams of the id
that the record names, and queues nothing or one reset of that id.  `steps`: so does each step of
the reader, whatever others do in between.  `error`: it fails only if the control lane is full or
closed.  `refused`: a refused record queues a reset, if there is room, and it ends the stream that
it names exactly if it is not an `OPEN` for an id that is registered. -/
structure NamedOnly (e : Endpoint) (f : Incoming) : Prop where
  apart : e.Apart (e.dispatch f).1 f.sid
  queued : e.OneReset (e.dispatch f).1 f.sid
  steps : ∀ a e', e.step (.read a) = some e' → e.working a = some f.sid → e'.running = true →
    e.Apart e' f.sid ∧ e.OneReset e' f.sid
  error : ∀ x, (e.dispatch f).2 = .error x → e.controlRoom = false
  refused : e.Refused f →
    ((e.dispatch f).2 = .ok () ↔ e.controlRoom = true) ∧
    (e.controlRoom = true →
      ∃ gen, (e.dispatch f).1.control = e.control ++ [.record ⟨f.sid, .rst, gen⟩]) ∧
    (e.Ends (e.dispatch f).1 f.sid ↔
      ¬ (hasFlag f.flags flagOpen = true ∧ e.client = false ∧ (e.get f.sid).isSome = true))

theorem sendControl_error {r : Rec} {x : String} (h : (e.sendControl r).2 = .error x) :
    e.controlRoom = false := by
  rw [sendControl_eq] at h
  cases hroom : e.controlRoom with
  | false => rfl
  | true => rw [hroom] at h; cases h

theorem dispatch_error {x : String} (h0 : f.sid ≠ 0) (h : (e.dispatch f).2 = .error x) :
    e.controlRoom = false := by
  have hcap : ¬ (f.flags = flagWin ∧ f.sid = 0) := fun h => h0 h.2
  unfold dispatch at h
  rw [if_neg hcap] at h
  split at h
  · split at h
    · cases h
    · exact sendControl_error h
  · split at h
    · split at h
      · exact sendControl_error h
      · cases h
    · split at h
      · cases h
      · rename_i g hg
        unfold dispatchFlow remove at h
        split at h
        · cases h
        · split at h
          · cases h
          · split at h
            · rw [← (e.control_finish f.sid g.epoch false).2]
              exact sendControl_error h
            · cases h

/-- The state after a reset was queued or found no room. -/
theorem sendControl_spec (e : Endpoint) (r : Rec) :
    ((e.sendControl r).2 = .ok () ↔ e.controlRoom = true) ∧
    (e.controlRoom = true → (e.sendControl r).1.control = e.control ++ [.record r]) ∧
    (∀ sid, (e.sendControl r).1.get sid = e.get sid) ∧ (e.sendControl r).1.gens = e.gens := by
  rw [sendControl_eq]
  cases e.controlRoom with
  | true => exact ⟨⟨fun _ => rfl, fun _ => rfl⟩, fun _ => rfl, fun _ => rfl, rfl⟩
  | false =>
    refine ⟨⟨fun h => ?_, fun h => by cases h⟩, fun h => (by cases h), fun _ => rfl, rfl⟩
    cases h

end Endpoint

/-- **A record can only affect the stream it names**, in every state that an endpoint can reach and
for every record of a stream. -/
theorem dispatch_named_only {client : Bool} {window : MuxWindow} {chunk : ChunkSize}
    {e : Endpoint} (h : Reachable Endpoint.step (Endpoint.new client window chunk) e)
    (f : Incoming) (h0 : f.sid ≠ 0) : e.NamedOnly f := by
  have hwf := Endpoint.Wf.reachable h
  refine ⟨(hwf.dispatch_apart h0).1, (hwf.dispatch_apart h0).2, fun a e' hs hw hrun => ?_,
    fun x hx => Endpoint.dispatch_error h0 hx, fun hbad => ?_⟩
  · cases Endpoint.step_spec hs with
    | read _ _ _ hrs => exact hwf.readerStep_apart hrs hw h0 hrun
  · cases hbad with
    | opening ho hc hbad =>
      obtain ⟨hok, hctl, hsame, -⟩ := e.sendControl_spec ⟨f.sid, .rst, e.get f.sid⟩
      rw [Endpoint.dispatch_badOpen ho hc hbad h0]
      refine ⟨hok, fun hroom => ⟨_, hctl hroom⟩, fun hend => ?_, fun hfree => ?_⟩
      · rintro ⟨-, -, hsome⟩
        rw [← hsame, hend.gone] at hsome
        cases hsome
      · have hnone : e.get f.sid = none := by
          cases hget : e.get f.sid with
          | none => rfl
          | some i => exact absurd ⟨ho, hc, by rw [hget]; rfl⟩ hfree
        refine ⟨(hsame f.sid).trans hnone, fun i hi => ?_⟩
        rw [hnone] at hi
        cases hi
    | record i g hno hget hg hf hbad =>
      have hroom := (e.control_finish f.sid g.epoch false).2
      have hsame := (e.control_finish f.sid g.epoch false).1
      obtain ⟨hok, hctl, hget', hgens⟩ :=
        (e.finish f.sid g.epoch false).1.sendControl_spec ⟨f.sid, .rst, some i⟩
      rw [Endpoint.dispatch_malformed hno h0 hget hg hf hbad]
      rw [hroom, hsame] at hctl
      rw [hroom] at hok
      refine ⟨hok, fun hr => ⟨_, hctl hr⟩, fun _ hopen => hno ⟨hopen.1, hopen.2.1⟩, fun _ => ?_⟩
      refine ⟨?_, fun j hj => ?_⟩
      · rw [hget', Endpoint.finish_registered hget hg]
        exact (hwf.lookup_filter _ _).trans (if_pos rfl)
      · rw [hget] at hj
        cases hj
        rw [hgens, Endpoint.finish_registered hget hg]
        exact ⟨Gen.cancel false g, getElem?_modify_self hg _, rfl⟩

/-- A stream with the peer's `FIN`. -/
def finSeen : List Action :=
  let target : Bytes := [1, 10, 0, 0, 1, 0, 80]
  [.read (.receive ⟨1, flagOpen, target⟩), .read (.receive ⟨1, flagClose, []⟩), .read .apply]

theorem dispatch_named_only_after_fin :
    let start := Endpoint.new false ⟨1, by decide, by decide⟩ ⟨1024, by decide, by decide⟩
    (Lts.run Endpoint.step start finSeen).map (fun e => (e.dispatch ⟨1, flagData, [9]⟩).1.control) =
        some [.record ⟨1, .rst, some 0⟩] ∧
      ∀ e, Lts.run Endpoint.step start finSeen = some e → e.NamedOnly ⟨1, flagData, [9]⟩ :=
  ⟨rfl, fun _ he => dispatch_named_only (Reachable.of_run he) _ (by decide)⟩

/-- **An `OPEN` without a target, for an id that is in use**: a reset of the stream is queued, and
the stream stays registered and is not cancelled. -/
theorem malformed_open_keeps_stream :
    let start := Endpoint.new false ⟨1, by decide, by decide⟩ ⟨1024, by decide, by decide⟩
    (Lts.run Endpoint.step start [.read (.receive ⟨1, flagOpen, [1, 10, 0, 0, 1, 0, 80]⟩)]).map
        (fun e => ((e.dispatch ⟨1, flagOpen, []⟩).1.get 1,
          (e.dispatch ⟨1, flagOpen, []⟩).1.gens[0]?.map fun g => g.side.flow.cancelled,
          (e.dispatch ⟨1, flagOpen, []⟩).1.control)) =
      some (some 0, some false, [.record ⟨1, .rst, some 0⟩]) :=
  rfl

end BibaVpn.Mux
