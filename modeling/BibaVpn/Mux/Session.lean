/-
# Two endpoints, and the terms of their streams

A client announces its window when its session starts; a server that reads the announcement takes
note of it and answers with its own window.  The client settles on credit if the answer comes before
its deadline, and on the legacy mode otherwise; both may happen while streams are being opened.  The
server never hears what the client has settled on: it follows the flag in each `OPEN`.

* §1 is the negotiation of one endpoint, whatever its peer does;
* §2: what an endpoint announces is true of it (`Endpoint.Candid`);
* §3 is the `Session`: two endpoints, each reading what the other has on the WebSocket, in order;
* §4: both ends of a stream have the same mode and each other's windows (`terms_agree`).
-/
import BibaVpn.Mux.Moves
import BibaVpn.Mux.Resets

namespace BibaVpn.Mux

open Machine Lts

/-! ## 1. Negotiation at one endpoint -/

/-- Nothing happens to the negotiation, unless it is pending and ends without an answer. -/
def Negotiation.Lapses (n n' : Negotiation) : Prop := n' = n ∨ (n = .pending ∧ n' = .legacy)

/-- What is settled does not lapse. -/
theorem Negotiation.Lapses.eq {n n' : Negotiation} (h : n.Lapses n') (hn : n ≠ .pending) : n' = n :=
  h.resolve_right fun hp => hn hp.1

namespace Endpoint

variable {e e' : Endpoint} {a : Action}

theorem negotiation_finish (e : Endpoint) (sid epoch : Nat) (preserve : Bool) :
    (e.finish sid epoch preserve).1.negotiation = e.negotiation := by
  rcases e.finish_cases sid epoch preserve with ⟨heq, -⟩ | ⟨i, -, -, heq⟩ <;> rw [heq]

theorem negotiation_settle (e : Endpoint) (n : Negotiation) :
    (e.settle n).negotiation = if e.negotiation = .pending then n else e.negotiation := by
  unfold settle
  split
  · rename_i hp
    rw [if_pos hp]
  · rename_i hp
    rw [if_neg hp]

theorem lapses_settle (e : Endpoint) : e.negotiation.Lapses (e.settle .legacy).negotiation := by
  rw [negotiation_settle]
  split
  · rename_i hp
    exact Or.inr ⟨hp, rfl⟩
  · exact Or.inl rfl

theorem lapses_shutdown (e : Endpoint) : e.negotiation.Lapses e.shutdown.negotiation :=
  lapses_settle _

theorem lapses_readerControl (e : Endpoint) (r : Rec) :
    e.negotiation.Lapses (e.readerControl r).negotiation := by
  unfold readerControl
  split
  · rename_i e' htc
    rw [tryControl_eq_some htc]
    exact Or.inl rfl
  · exact lapses_shutdown _

/-- **The answers to an announcement.**  A client that is still waiting settles on the window in the
answer; a server takes the window that the client announces. -/
def Hears (e : Endpoint) (f : Incoming) (window : Nat) : Prop :=
  (f.flags = flagWin ∧ f.sid = 0) ∧
    ((e.client = true ∧ e.negotiation = .pending ∧ parseCapability f.payload 2 = some window) ∨
      (e.client = false ∧ parseCapability f.payload 1 = some window))

/-- **What a step does to the negotiation.** -/
theorem negotiation_step (hs : e.step a = some e') :
    e.negotiation.Lapses e'.negotiation ∨
    ∃ f window, a = .read (.receive f) ∧ e.Hears f window ∧ e'.negotiation = .credit window := by
  cases step_spec hs with
  | prepared k p target e' _ _ ha =>
    obtain ⟨-, -, -, rfl⟩ := allocate_ok ha
    exact Or.inl (Or.inl rfl)
  | task i g a e' hg hs =>
    refine Or.inl ?_
    cases taskStep_spec hs with
    | finish preserve task => exact Or.inl (e.negotiation_finish _ _ _)
    | shutdown => exact e.noteExhausted.lapses_shutdown
    | _ => exact Or.inl rfl
  | read a e' _ hs =>
    cases hs with
    | settled f window _ hc h0 hp =>
      rw [negotiation_settle]
      split
      · rename_i hpend
        exact Or.inr ⟨f, window, rfl, ⟨h0, Or.inl ⟨hc, hpend, hp⟩⟩, rfl⟩
      · exact Or.inl (Or.inl rfl)
    | capability f window _ hc h0 hp =>
      refine Or.inr ⟨f, window, rfl, ⟨h0, Or.inr ⟨hc, hp⟩⟩, ?_⟩
      exact (lapses_readerControl _ _).eq (by simp)
    | opened f peer e' _ _ _ ha =>
      obtain ⟨-, -, -, rfl⟩ := allocate_ok ha
      exact Or.inl (Or.inl rfl)
    | unknown | replied => exact Or.inl (lapses_readerControl _ _)
    | aborted f i g => exact Or.inl (Or.inl (e.negotiation_finish f.sid g.epoch false))
    | removed f i g => exact Or.inl (Or.inl (e.negotiation_finish f.sid g.epoch false))
    | pingFailed => exact Or.inl e.lapses_shutdown
    | _ => exact Or.inl (Or.inl rfl)
  | write a e' _ hs =>
    rw [writerStep_eq hs]
    exact Or.inl (Or.inl rfl)
  | timeout => exact Or.inl e.lapses_settle
  | stop => exact Or.inl e.lapses_shutdown
  | _ => exact Or.inl (Or.inl rfl)

/-- A client settles once. -/
theorem settled_step (hs : e.step a = some e') (hc : e.client = true)
    (hn : e.negotiation ≠ .pending) : e'.negotiation = e.negotiation := by
  rcases negotiation_step hs with hl | ⟨f, window, -, ⟨-, hcase⟩, -⟩
  · exact hl.eq hn
  · rcases hcase with ⟨-, hp, -⟩ | ⟨hs', -⟩
    · exact absurd hp hn
    · rw [hc] at hs'
      cases hs'

/-- A server that has heard a window keeps one. -/
theorem credit_step {w : Nat} (hs : e.step a = some e') (hn : e.negotiation = .credit w) :
    ∃ w', e'.negotiation = .credit w' := by
  rcases negotiation_step hs with hl | ⟨f, window, -, -, heq⟩
  · exact ⟨w, (hl.eq (by simp [hn])).trans hn⟩
  · exact ⟨window, heq⟩

/-! ## 2. What an endpoint announces -/

/-- **The record is true of the endpoint.**  Announcements carry its own kind and window, and a
server has heard the client's before it answers; `OPEN` comes from a client that has settled, and
asks for credit exactly if it has settled on it; and credit is granted on streams only. -/
def Vouches (e : Endpoint) (r : Rec) : Prop :=
  match r.msg with
  | .cap kind w => kind = (if e.client then 1 else 2) ∧ w = e.window.bytes ∧
      (e.client = false → ∃ w', e.negotiation = .credit w')
  | .opening credit _ => e.client = true ∧ e.negotiation ≠ .pending ∧
      credit = e.negotiation.window?.isSome
  | .win _ => r.gen ≠ none
  | _ => True

/-- The stream has the terms that a client has settled on. -/
structure OnTerms (e : Endpoint) (f : Flow) : Prop where
  settled : e.negotiation ≠ .pending
  negotiated : f.negotiated = e.negotiation.window?.isSome
  sendLimit : f.sendLimit = e.negotiation.window?.getD 0

/-- **An endpoint that says what is the case.** -/
structure Candid (e : Endpoint) : Prop where
  records : ∀ r, e.HoldsRec r → e.Vouches r
  opens : ∀ p ∈ e.opens, e.client = true ∧ e.negotiation ≠ .pending ∧
    p.window = e.negotiation.window?
  opening : ∀ (i : Nat) (g : Gen), e.gens[i]? = some g → g.task.isOpening = true → e.client = true
  terms : e.client = true → ∀ (i : Nat) (g : Gen), e.gens[i]? = some g → e.OnTerms g.side.flow
  limit : ∀ (i : Nat) (g : Gen), e.gens[i]? = some g → g.side.flow.receiveLimit = e.window.bytes

theorem Candid.new (client : Bool) (window : MuxWindow) (chunk : ChunkSize) :
    (Endpoint.new client window chunk).Candid where
  records r hr := by
    obtain ⟨rfl, rfl⟩ := holdsRec_new hr
    exact ⟨rfl, rfl, fun hs => by cases hs⟩
  opens p hp := by cases hp
  opening i g hg := by simp [Endpoint.new] at hg
  terms _ i g hg := by simp [Endpoint.new] at hg
  limit i g hg := by simp [Endpoint.new] at hg

/-- The fields that only `open_stream` changes. -/
structure SameOpens (e e' : Endpoint) : Prop where
  opens : e'.opens = e.opens
  nextSid : e'.nextSid = e.nextSid
  issued : e'.issued = e.issued

/-- **What a step does to the opens**: one takes its id, one prepares its stream, or nothing. -/
theorem opens_step (hs : e.step a = some e') :
    (∃ target pre, a = .openFetch target pre ∧ e.client = true ∧ e.negotiation ≠ .pending ∧
      e' = { e with
      nextSid := (e.nextSid + 1) % 2 ^ 32
      issued := e.issued + 1
      opens := e.opens ++ [⟨e.nextSid, e.negotiation.window?, target, pre⟩] }) ∨
    (∃ k, a = .openPrepare k ∧ e'.opens = e.opens.eraseIdx k ∧ e'.nextSid = e.nextSid ∧
      e'.issued = e.issued) ∨
    e.SameOpens e' := by
  rcases rest_step hs with heq | hfetch | ⟨k, rfl, heq⟩ | ⟨b, -, hws⟩
  · exact Or.inr (Or.inr ⟨congrArg (·.opens) heq, congrArg (·.nextSid) heq,
      congrArg (·.issued) heq⟩)
  · exact Or.inl hfetch
  · exact Or.inr (Or.inl
      ⟨k, rfl, congrArg (·.opens) heq, congrArg (·.nextSid) heq, congrArg (·.issued) heq⟩)
  · rw [writerStep_eq hws]
    exact Or.inr (Or.inr ⟨rfl, rfl, rfl⟩)

/-- Every open has the window of its client's negotiation. -/
theorem Candid.opens_step (h : e.Candid) (hs : e.step a = some e') (hc : e'.client = e.client) :
    ∀ p ∈ e'.opens, e'.client = true ∧ e'.negotiation ≠ .pending ∧
      p.window = e'.negotiation.window? := by
  intro p hp
  have hsome : e.client = true ∧ e.negotiation ≠ .pending ∧ p.window = e.negotiation.window? := by
    rcases Endpoint.opens_step hs with ⟨target, pre, -, hcl, hn, heq⟩ | ⟨k, -, heq, -⟩ | hsame
    · rw [heq] at hp
      rcases List.mem_append.mp hp with hp | hp
      · exact h.opens p hp
      · cases List.mem_singleton.mp hp
        exact ⟨hcl, hn, rfl⟩
    · rw [heq] at hp
      exact h.opens p (List.mem_of_mem_eraseIdx hp)
    · rw [hsame.opens] at hp
      exact h.opens p hp
  obtain ⟨hcl, hn, hw⟩ := hsome
  have hneg := settled_step hs hcl hn
  exact ⟨hc.trans hcl, hneg ▸ hn, hneg ▸ hw⟩

/-- What was true of the endpoint stays true. -/
theorem Vouches.step {r : Rec} (h : e.Vouches r) (hs : e.step a = some e')
    (hc : e'.client = e.client) (hw : e'.window = e.window) : e'.Vouches r := by
  unfold Endpoint.Vouches at h ⊢
  split at h
  · obtain ⟨hk, hwin, hserver⟩ := h
    refine ⟨by rw [hc]; exact hk, by rw [hw]; exact hwin, fun hcl => ?_⟩
    obtain ⟨w, hneg⟩ := hserver (hc ▸ hcl)
    exact credit_step hs hneg
  · obtain ⟨hcl, hn, hcredit⟩ := h
    rw [hc, settled_step hs hcl hn]
    exact ⟨hcl, hn, hcredit⟩
  · exact h
  · trivial

/-- A server that answers an announcement has taken its window. -/
theorem credit_of_answer {f : Incoming} {window : Nat}
    (hs : e.step (.read (.receive f)) = some e') (hc : e.client = false)
    (h0 : f.flags = flagWin ∧ f.sid = 0) (hp : parseCapability f.payload 1 = some window) :
    e'.negotiation = .credit window := by
  simp only [step, readerStep, receive, h0, and_self, if_true,
    receiveCapability, hc, Bool.false_eq_true, if_false, hp] at hs
  split at hs
  · split at hs
    · cases hs
      exact (lapses_readerControl _ _).eq (by simp)
    · cases hs
  · cases hs

/-- A record that a step queues is true of the endpoint afterwards. -/
theorem Candid.queues {r : Rec} (h : e.Candid) (hs : e.step a = some e')
    (hc : e'.client = e.client) (hw : e'.window = e.window) (hq : e.Queues a r) : e'.Vouches r := by
  cases hq with
  | task i g b _ hg _ hgen hm =>
    unfold Vouches
    cases hmsg : r.msg with
    | opening credit target =>
      rw [hmsg] at hm
      obtain ⟨htask, hcredit⟩ := hm
      have hcl := h.opening i g hg (by rw [htask]; rfl)
      have ht := h.terms hcl i g hg
      dsimp only
      rw [hc, settled_step hs hcl ht.settled]
      exact ⟨hcl, ht.settled, hcredit.trans ht.negotiated⟩
    | cap kind w =>
      rw [hmsg] at hm
      cases hm
    | win amount =>
      dsimp only
      rw [hgen]
      simp
    | _ => trivial
  | reply sid gen => trivial
  | unscoped b r hgen hm =>
    rcases hm with ⟨f, -, rfl, -⟩ | ⟨rfl, hcl, f, window, rfl, h0, hp⟩
    · trivial
    · have hcl' : e'.client = false := hc.trans hcl
      exact ⟨by rw [hcl']; rfl, hw ▸ rfl, fun _ => ⟨window, credit_of_answer hs hcl h0 hp⟩⟩

/-- The terms of a generation that was there before. -/
theorem Candid.terms_moved {g g' : Gen} {i : Nat} (h : e.Candid) (hw : e.Wf)
    (hs : e.step a = some e') (hc : e'.client = e.client) (hg : e.gens[i]? = some g)
    (hm : g.side.Moves g'.side) (hcl : e'.client = true) : e'.OnTerms g'.side.flow := by
  have hst := hm.terms (hw.sides i g hg)
  have ht := h.terms (hc ▸ hcl) i g hg
  have hneg := settled_step hs (hc ▸ hcl) ht.settled
  exact ⟨hneg ▸ ht.settled, by rw [hneg, hst.negotiated]; exact ht.negotiated,
    by rw [hneg, hst.sendLimit]; exact ht.sendLimit⟩

/-- **Every step keeps an endpoint candid**, whatever its peer sends. -/
theorem Candid.step (h : e.Candid) (hw : e.Wf) (hs : e.step a = some e') : e'.Candid := by
  have hgrows := hw.grows hs
  have hc := hgrows.client
  have hwin := hgrows.window
  exact {
    records := fun r hr => by
      rcases hw.holds_step hs hr with hr | hq
      · exact (h.records r hr).step hs hc hwin
      · exact h.queues hs hc hwin hq
    opens := h.opens_step hs hc
    opening := fun i g' hg' ht => by
      rcases hw.gen_step hs hg' with ⟨g, hg, -⟩ | ⟨-, hcr, -⟩
      · exact hc.trans (h.opening i g hg (hw.opening_step hs hg hg' ht))
      · cases hcr with
        | prepared k p target hk => exact hc.trans (h.opens p (List.mem_of_getElem? hk)).1
        | admitted => cases ht
    terms := fun hcl i g' hg' => by
      rcases hw.gen_step hs hg' with ⟨g, hg, -, hmove⟩ | ⟨-, hcr, -⟩
      · exact h.terms_moved hw hs hc hg hmove hcl
      · cases hcr with
        | prepared k p target hk =>
          -- a generation that is created has the terms of its open
          obtain ⟨hclient, hn, hwindow⟩ := h.opens p (List.mem_of_getElem? hk)
          have hneg := settled_step hs hclient hn
          refine ⟨hneg ▸ hn, ?_, ?_⟩
          · rw [hneg, ← hwindow]
            rfl
          · rw [hneg, ← hwindow]
            rfl
        | admitted f peer hserver =>
          rw [hc, hserver.server] at hcl
          cases hcl
    limit := fun i g' hg' => by
      rw [hwin]
      rcases hw.gen_step hs hg' with ⟨g, hg, -, hmove⟩ | ⟨-, hcr, -⟩
      · rw [(hmove.terms (hw.sides i g hg)).receiveLimit]
        exact h.limit i g hg
      · cases hcr <;> rfl }

end Endpoint

/-! ## 3. The session -/

/-- **Two endpoints on one WebSocket**: `a` is the client, `b` the server.  The WebSocket delivers
in order, and what the writers seal the readers open. -/
structure Session where
  a : Endpoint
  b : Endpoint

def Session.new (wa wb : MuxWindow) (ca cb : ChunkSize) : Session :=
  ⟨Endpoint.new true wa ca, Endpoint.new false wb cb⟩

/-- A record as the peer's reader gets it. -/
def Rec.incoming (r : Rec) : Incoming := ⟨r.sid, r.msg.flags, r.msg.payload⟩

inductive SessionAction
  /-- anything but taking a record of the peer -/
  | act (a : Action)
  /-- the reader takes the oldest record of the peer -/
  | deliver
  deriving DecidableEq, Repr

/-- The reader takes a record. -/
def Action.takes : Action → Bool
  | .read (.receive _) => true
  | _ => false

/-- The peer's reader has taken the oldest record. -/
def Endpoint.pop (e : Endpoint) : Endpoint := { e with wire := e.wire.tail }

/-- One step of the endpoint `a`. -/
def Session.stepA (s : Session) : SessionAction → Option Session
  | .act a => if a.takes then none else (s.a.step a).map fun e => { s with a := e }
  | .deliver =>
    match s.b.wire with
    | r :: _ => (s.a.step (.read (.receive r.incoming))).map fun e => ⟨e, s.b.pop⟩
    | [] => none

def Session.swap (s : Session) : Session := ⟨s.b, s.a⟩

/-- One step of the session: of `a`, or of `b`. -/
def Session.step (s : Session) : Bool × SessionAction → Option Session
  | (true, act) => s.stepA act
  | (false, act) => (s.swap.stepA act).map Session.swap

variable {s t : Session} {e : Endpoint} {r : Rec}

namespace Session

/-- **What a step of the endpoint `a` can be.** -/
theorem stepA_cases {act : SessionAction} (h : s.stepA act = some t) :
    (∃ a e, act = .act a ∧ a.takes = false ∧ s.a.step a = some e ∧ t = { s with a := e }) ∨
    ∃ r e, act = .deliver ∧ s.b.wire.head? = some r ∧
      s.a.step (.read (.receive r.incoming)) = some e ∧ t = ⟨e, s.b.pop⟩ := by
  cases act with
  | act a =>
    simp only [stepA] at h
    split at h
    · cases h
    · rename_i htakes
      obtain ⟨e, he, rfl⟩ := Option.map_eq_some_iff.mp h
      exact Or.inl ⟨a, e, rfl, Bool.not_eq_true _ ▸ htakes, he, rfl⟩
  | deliver =>
    simp only [stepA] at h
    split at h
    · rename_i r wire hw
      obtain ⟨e, he, rfl⟩ := Option.map_eq_some_iff.mp h
      exact Or.inr ⟨r, e, rfl, by rw [hw]; rfl, he, rfl⟩
    · cases h

/-- The endpoint that moves. -/
def mover (s : Session) : Bool → Endpoint
  | true => s.a
  | false => s.b

/-- What it does: a delivery is a step of its reader. -/
def doing (s : Session) : Bool × SessionAction → Option Action
  | (_, .act a) => some a
  | (who, .deliver) => (s.mover !who).wire.head?.map fun r => .read (.receive r.incoming)

/-- A step of the session is one of the endpoint that moves; the other end at most loses what it had
on the wire. -/
theorem step_mover {l : Bool × SessionAction} (h : s.step l = some t) :
    ∃ a, s.doing l = some a ∧ (s.mover l.1).step a = some (t.mover l.1) ∧
      (t.mover (!l.1) = s.mover (!l.1) ∨ t.mover (!l.1) = (s.mover (!l.1)).pop) := by
  obtain ⟨who, act⟩ := l
  cases who with
  | true =>
    rcases stepA_cases h with ⟨a, e, rfl, -, hs, rfl⟩ | ⟨r, e, rfl, hw, hs, rfl⟩
    · exact ⟨a, rfl, hs, Or.inl rfl⟩
    · refine ⟨_, ?_, hs, Or.inr rfl⟩
      simp only [doing, mover, Bool.not_true, hw, Option.map_some]
  | false =>
    obtain ⟨t', ht', rfl⟩ := Option.map_eq_some_iff.mp h
    rcases stepA_cases ht' with ⟨a, e, rfl, -, hs, rfl⟩ | ⟨r, e, rfl, hw, hs, rfl⟩
    · exact ⟨a, rfl, hs, Or.inl rfl⟩
    · refine ⟨_, ?_, hs, Or.inr rfl⟩
      simp only [doing, mover, Bool.not_false]
      exact congrArg (Option.map _) hw

/-- For one end: the step is its own, or it is left alone, or loses what the other end has read. -/
theorem end_step {l : Bool × SessionAction} (h : s.step l = some t) (who : Bool) :
    (∃ a, l.1 = who ∧ s.doing l = some a ∧ (s.mover who).step a = some (t.mover who)) ∨
    t.mover who = s.mover who ∨ t.mover who = (s.mover who).pop := by
  obtain ⟨a, hdo, hst, hpeer⟩ := step_mover h
  by_cases hwho : l.1 = who
  · subst hwho
    exact .inl ⟨a, rfl, hdo, hst⟩
  · obtain rfl : (!l.1) = who := by
      cases who <;> cases hl : l.1 <;> simp_all
    exact .inr hpeer

end Session

theorem Endpoint.holds_pop (h : e.pop.HoldsRec r) : e.HoldsRec r := by
  rcases h with h | h | h | h
  · exact Or.inl h
  · exact Or.inr (Or.inl h)
  · exact Or.inr (Or.inr (Or.inl (List.mem_of_mem_tail h)))
  · exact Or.inr (Or.inr (Or.inr h))

theorem Endpoint.holds_head (h : e.wire.head? = some r) : e.HoldsRec r :=
  Or.inr (Or.inr (Or.inl (List.mem_of_head? h)))

theorem Endpoint.Wf.pop (h : e.Wf) : e.pop.Wf :=
  h.evolve (Extends.refl _) rfl rfl (List.Sublist.refl _) h.closed
    (fun _ hr => Or.inl (Endpoint.holds_pop hr)) (Or.inl rfl) (fun _ _ _ _ hw => Or.inl hw)

theorem Endpoint.Candid.pop (h : e.Candid) : e.pop.Candid where
  records r hr := h.records r (Endpoint.holds_pop hr)
  opens := h.opens
  opening := h.opening
  terms hc i g hg := { h.terms hc i g hg with }
  limit := h.limit

/-! ## 4. Agreement -/

theorem Msg.opening_of_flags {m : Msg} (h : hasFlag m.flags flagOpen = true) :
    ∃ credit target, m = .opening credit target ∧ hasFlag m.flags flagOpenCredit = credit := by
  cases m with
  | opening credit target =>
    refine ⟨credit, target, rfl, ?_⟩
    cases credit with
    | false => exact (show hasFlag flagOpen flagOpenCredit = false by decide)
    | true => exact (show hasFlag (flagOpen ||| flagOpenCredit) flagOpenCredit = true by decide)
  | data payload => exact absurd h (show ¬hasFlag flagData flagOpen = true by decide)
  | close | rst => exact absurd h (by decide)
  | win | cap => exact absurd h (show ¬hasFlag flagWin flagOpen = true by decide)

theorem Msg.announces_of_flags {m : Msg} (h : m.flags = flagWin) :
    (∃ amount, m = .win amount) ∨ ∃ kind w, m = .cap kind w := by
  cases m with
  | win amount => exact Or.inl ⟨amount, rfl⟩
  | cap kind w => exact Or.inr ⟨kind, w, rfl⟩
  | opening credit target =>
    cases credit with
    | false => exact absurd h (show ¬flagOpen = flagWin by decide)
    | true => exact absurd h (show ¬flagOpen ||| flagOpenCredit = flagWin by decide)
  | data payload => exact absurd h (show ¬flagData = flagWin by decide)
  | close | rst => exact absurd h (by decide)

/-- What is read from an announcement is the window in it. -/
theorem parseCapability_capability {kind k : UInt8} {w window : Nat} (hw : w < 256 ^ 4)
    (h : parseCapability (capability kind w) k = some window) : window = w := by
  unfold parseCapability at h
  split at h
  · cases h
  · dsimp only at h
    have hdrop : (capability kind w).drop 5 = toBe 4 w := rfl
    rw [hdrop, fromBe_toBe hw] at h
    split at h
    · exact (Option.some.inj h).symm
    · cases h

/-- A record of stream 0 that grants credit is an announcement. -/
theorem Endpoint.Candid.announcement (h : e.Candid) (hw : e.Wf) (hr : e.HoldsRec r)
    (h0 : r.incoming.flags = flagWin ∧ r.incoming.sid = 0) :
    ∃ kind, r.msg = .cap kind e.window.bytes ∧
      (e.client = false → ∃ w, e.negotiation = .credit w) := by
  have hv := h.records r hr
  rcases Msg.announces_of_flags h0.1 with ⟨amount, hmsg⟩ | ⟨kind, w, hmsg⟩
  · simp only [Endpoint.Vouches, hmsg] at hv
    obtain ⟨i, hi⟩ := Option.ne_none_iff_exists'.mp hv
    obtain ⟨g, hg, hsid⟩ := (hw.recs r hr).gen i hi
    exact absurd (hsid.trans h0.2) (hw.sids i g hg)
  · simp only [Endpoint.Vouches, hmsg] at hv
    exact ⟨kind, by rw [hmsg, hv.2.1], hv.2.2⟩

/-- The window that a reader takes from its peer's announcement is the peer's. -/
theorem Endpoint.Hears.window_eq {e' : Endpoint} {window : Nat} (hh : e'.Hears r.incoming window)
    (h : e.Candid) (hw : e.Wf) (hr : e.HoldsRec r) :
    window = e.window.bytes ∧ (e.client = false → ∃ w, e.negotiation = .credit w) := by
  obtain ⟨h0, hcase⟩ := hh
  obtain ⟨kind, hmsg, hserver⟩ := h.announcement hw hr h0
  have hlt : e.window.bytes < 256 ^ 4 := by
    have := e.window.bytes_le
    omega
  have hpayload : r.incoming.payload = capability kind e.window.bytes := by
    simp only [Rec.incoming, hmsg, Msg.payload]
  rw [hpayload] at hcase
  refine ⟨?_, hserver⟩
  rcases hcase with ⟨-, -, hp⟩ | ⟨-, hp⟩ <;> exact parseCapability_capability hlt hp

namespace Session

/-- **The invariant of a session.**  `heard`: the server knows the client's window, or none.
`answered`: a client that has settled on credit has the server's window, and the server has its own.
`terms`: the server's streams have the client's mode. -/
structure Agrees (s : Session) : Prop where
  wfA : s.a.Wf
  wfB : s.b.Wf
  candidA : s.a.Candid
  candidB : s.b.Candid
  roles : s.a.client = true ∧ s.b.client = false
  heard : ∀ w, s.b.negotiation = .credit w → w = s.a.window.bytes
  answered : ∀ w, s.a.negotiation = .credit w →
    w = s.b.window.bytes ∧ s.b.negotiation = .credit s.a.window.bytes
  terms : ∀ (j : Nat) (g : Gen), s.b.gens[j]? = some g → s.a.negotiation ≠ .pending ∧
    g.side.flow.negotiated = s.a.negotiation.window?.isSome ∧
    (g.side.flow.negotiated = true → g.side.flow.sendLimit = s.a.window.bytes)

theorem Agrees.new (wa wb : MuxWindow) (ca cb : ChunkSize) : (Session.new wa wb ca cb).Agrees where
  wfA := .new true wa ca
  wfB := .new false wb cb
  candidA := .new true wa ca
  candidB := .new false wb cb
  roles := ⟨rfl, rfl⟩
  heard w hw := by cases hw
  answered w hw := by cases hw
  terms j g hg := by simp [Session.new, Endpoint.new] at hg

theorem Agrees.popA (h : s.Agrees) : Session.Agrees ⟨s.a.pop, s.b⟩ :=
  ⟨h.wfA.pop, h.wfB, h.candidA.pop, h.candidB, h.roles, h.heard, h.answered, h.terms⟩

theorem Agrees.popB (h : s.Agrees) : Session.Agrees ⟨s.a, s.b.pop⟩ :=
  ⟨h.wfA, h.wfB.pop, h.candidA, h.candidB.pop, h.roles, h.heard, h.answered, h.terms⟩

/-- The client moves: its negotiation lapses at most, or it reads the server's answer. -/
theorem Agrees.client {a : Action} (h : s.Agrees) (he : s.a.step a = some e)
    (hread : ∀ f, a = .read (.receive f) → ∃ r, s.b.HoldsRec r ∧ f = r.incoming) :
    Session.Agrees { s with a := e } := by
  have hgrows := h.wfA.grows he
  have hfields : e.client = true ∧ e.window = s.a.window :=
    ⟨hgrows.client.trans h.roles.1, hgrows.window⟩
  -- once there is a stream, the client has settled
  have hterms : ∀ (j : Nat) (g : Gen), s.b.gens[j]? = some g → e.negotiation ≠ .pending ∧
      g.side.flow.negotiated = e.negotiation.window?.isSome ∧
      (g.side.flow.negotiated = true → g.side.flow.sendLimit = e.window.bytes) := by
    intro j g hg
    obtain ⟨hn, hmode, hlimit⟩ := h.terms j g hg
    rw [Endpoint.settled_step he h.roles.1 hn, hfields.2]
    exact ⟨hn, hmode, hlimit⟩
  refine ⟨h.wfA.step he, h.wfB, h.candidA.step h.wfA he, h.candidB, ⟨hfields.1, h.roles.2⟩,
    fun w hw => hfields.2 ▸ h.heard w hw, fun w hw => ?_, hterms⟩
  rw [hfields.2]
  rcases Endpoint.negotiation_step he with hl | ⟨f, window, hact, hhears, heq⟩
  · rcases hl with hsame | ⟨-, hleg⟩
    · exact h.answered w (hsame ▸ hw)
    · rw [hleg] at hw
      cases hw
  · obtain ⟨r, hr, rfl⟩ := hread f hact
    obtain ⟨hwin, hserver⟩ := hhears.window_eq h.candidB h.wfB hr
    obtain ⟨w', hw'⟩ := hserver h.roles.2
    rw [heq] at hw
    cases hw
    exact ⟨hwin, by rw [hw', h.heard w' hw']⟩

/-- A server opens no streams. -/
theorem Agrees.server_opens (h : s.Agrees) (k : Nat) (p : PendingOpen) :
    s.b.opens[k]? ≠ some p := by
  intro hk
  have hc := (h.candidB.opens p (List.mem_of_getElem? hk)).1
  rw [h.roles.2] at hc
  cases hc

/-- The server moves: its negotiation lapses at most, or it reads the client's announcement; a
stream that it admits has the terms of the client's `OPEN`. -/
theorem Agrees.server {a : Action} (h : s.Agrees) (he : s.b.step a = some e)
    (hread : ∀ f, a = .read (.receive f) → ∃ r, s.a.HoldsRec r ∧ f = r.incoming) :
    Session.Agrees { s with b := e } := by
  have hgrows := h.wfB.grows he
  have hfields : e.client = false ∧ e.window = s.b.window :=
    ⟨hgrows.client.trans h.roles.2, hgrows.window⟩
  have hheard : ∀ w, e.negotiation = .credit w → w = s.a.window.bytes := by
    intro w hw
    rcases Endpoint.negotiation_step he with hl | ⟨f, window, hact, hhears, heq⟩
    · rcases hl with hsame | ⟨-, hleg⟩
      · exact h.heard w (hsame ▸ hw)
      · rw [hleg] at hw
        cases hw
    · obtain ⟨r, hr, rfl⟩ := hread f hact
      rw [heq] at hw
      cases hw
      exact (hhears.window_eq h.candidA h.wfA hr).1
  refine ⟨h.wfA, h.wfB.step he, h.candidA, h.candidB.step h.wfB he, ⟨h.roles.1, hfields.1⟩, hheard,
    fun w hw => ?_, fun j g' hg' => ?_⟩
  · obtain ⟨hwin, hcredit⟩ := h.answered w hw
    obtain ⟨w', hw'⟩ := Endpoint.credit_step he hcredit
    exact ⟨hfields.2 ▸ hwin, by rw [hw', hheard w' hw']⟩
  · rcases h.wfB.gen_step he hg' with ⟨g, hg, -, hmove⟩ | ⟨-, hcr, -⟩
    · have hst := hmove.terms (h.wfB.sides j g hg)
      rw [hst.negotiated, hst.sendLimit]
      exact h.terms j g hg
    · cases hcr with
      | prepared k p target hk => exact absurd hk (h.server_opens k p)
      | admitted f peer hadm =>
        obtain ⟨r, hr, rfl⟩ := hread f rfl
        obtain ⟨credit, target, hmsg, hflag⟩ := Msg.opening_of_flags hadm.opening
        have hv := h.candidA.records r hr
        simp only [Endpoint.Vouches, hmsg] at hv
        obtain ⟨-, hn, hcredit⟩ := hv
        refine ⟨hn, ?_⟩
        rw [← hcredit]
        cases credit with
        | false =>
          rw [hadm.legacy hflag]
          exact ⟨rfl, fun hneg => absurd hneg Bool.false_ne_true⟩
        | true =>
          obtain ⟨w, hw, rfl⟩ := hadm.credit hflag
          exact ⟨rfl, fun _ => h.heard w hw⟩

theorem Agrees.step {act : Bool × SessionAction} (h : s.Agrees) (hs : s.step act = some t) :
    t.Agrees := by
  obtain ⟨who, act⟩ := act
  cases who with
  | true =>
    rcases stepA_cases hs with ⟨a, e, -, htakes, he, rfl⟩ | ⟨r, e, -, hr, he, rfl⟩
    · refine h.client he fun f hf => ?_
      rw [hf] at htakes
      cases htakes
    · refine (h.client he fun f hf => ?_).popB
      cases hf
      exact ⟨r, Endpoint.holds_head hr, rfl⟩
  | false =>
    obtain ⟨t', ht', rfl⟩ := Option.map_eq_some_iff.mp hs
    rcases stepA_cases ht' with ⟨a, e, -, htakes, he, rfl⟩ | ⟨r, e, -, hr, he, rfl⟩
    · refine h.server he fun f hf => ?_
      rw [hf] at htakes
      cases htakes
    · refine (h.server he fun f hf => ?_).popA
      cases hf
      exact ⟨r, Endpoint.holds_head hr, rfl⟩

theorem Agrees.reachable {wa wb : MuxWindow} {ca cb : ChunkSize}
    (h : Reachable Session.step (Session.new wa wb ca cb) s) : s.Agrees :=
  h.invariant (.new wa wb ca cb) fun _ _ _ hI hs => hI.step hs

/-- What the client has settled on stays. -/
theorem Agrees.settled (h : s.Agrees) (hn : s.a.negotiation ≠ .pending)
    (ht : Reachable Session.step s t) : t.a.negotiation = s.a.negotiation := by
  refine (ht.invariant (I := fun u => u.Agrees ∧ u.a.negotiation = s.a.negotiation) ⟨h, rfl⟩
    fun u act v ⟨hu, hsame⟩ hs => ⟨hu.step hs, ?_⟩).2
  obtain ⟨who, act⟩ := act
  cases who with
  | true =>
    have hstays {a : Action} {e : Endpoint} (he : u.a.step a = some e) :
        e.negotiation = s.a.negotiation :=
      (Endpoint.settled_step he hu.roles.1 (hsame ▸ hn)).trans hsame
    rcases stepA_cases hs with ⟨a, e, -, -, he, rfl⟩ | ⟨r, e, -, -, he, rfl⟩
    · exact hstays he
    · exact hstays he
  | false =>
    obtain ⟨v', hv', rfl⟩ := Option.map_eq_some_iff.mp hs
    rcases stepA_cases hv' with ⟨a, e, -, -, -, rfl⟩ | ⟨r, e, -, -, -, rfl⟩
    · exact hsame
    · exact hsame

end Session

theorem Negotiation.window?_eq_some {n : Negotiation} {w : Nat} :
    n.window? = some w ↔ n = .credit w := by
  cases n <;> simp [Negotiation.window?]

theorem Endpoint.receive_of_step {e' : Endpoint} {f : Incoming}
    (h : e.step (.read (.receive f)) = some e') : e' = e.receive f := by
  simp only [Endpoint.step, Endpoint.readerStep, Option.ite_none_right_eq_some] at h
  exact (Option.some.inj h.2.2).symm

theorem Endpoint.receiveOpen_credit {f : Incoming} {w : Nat}
    (hf : hasFlag f.flags flagOpenCredit = true) (hn : e.negotiation = .credit w) :
    e.receiveOpen f = (e.allocateOpen f (some w)).getD { e with reader := .rejecting f.sid } := by
  cases e
  subst hn
  unfold Endpoint.receiveOpen
  rw [if_pos hf]
  dsimp only
  cases Endpoint.allocateOpen _ f (some w) <;> rfl

/-- **A server knows the client's window when it reads an `OPEN_CREDIT`**: all that can still make
it refuse the stream is a bad target or its own table. -/
theorem Session.Agrees.credited {target : Bytes} (h : s.Agrees) (hr : s.a.wire.head? = some r)
    (hmsg : r.msg = .opening true target) (hs : s.step (false, .deliver) = some t) :
    t.b = (s.b.allocateOpen r.incoming (some s.a.window.bytes)).getD
      { s.b with reader := .rejecting r.sid } := by
  have hv := h.candidA.records r (Endpoint.holds_head hr)
  simp only [Endpoint.Vouches, hmsg] at hv
  obtain ⟨w, hw⟩ := Option.isSome_iff_exists.mp hv.2.2.symm
  have hcredit := (h.answered w (Negotiation.window?_eq_some.mp hw)).2
  obtain ⟨t', ht', rfl⟩ := Option.map_eq_some_iff.mp hs
  rcases Session.stepA_cases ht' with ⟨a, e, ha, -⟩ | ⟨r', e, -, hr', he, rfl⟩
  · cases ha
  · cases hr.symm.trans hr'
    have hreceive : e = s.b.receive r.incoming := Endpoint.receive_of_step he
    have hwin : ¬(r.incoming.flags = flagWin ∧ r.incoming.sid = 0) := by
      rintro ⟨hf, -⟩
      rw [Rec.incoming, hmsg] at hf
      exact absurd hf (show ¬flagOpen ||| flagOpenCredit = flagWin by decide)
    have hopen : hasFlag r.incoming.flags flagOpen = true := by
      rw [Rec.incoming, hmsg]
      exact (show hasFlag (flagOpen ||| flagOpenCredit) flagOpen = true by decide)
    have hflag : hasFlag r.incoming.flags flagOpenCredit = true := by
      rw [Rec.incoming, hmsg]
      exact (show hasFlag (flagOpen ||| flagOpenCredit) flagOpenCredit = true by decide)
    change e = _
    rw [hreceive, Endpoint.receive, if_neg hwin, if_pos ⟨hopen, by rw [h.roles.2]; rfl⟩,
      Endpoint.receiveOpen_credit hflag hcredit]
    rfl

/-- **What two honest endpoints agree on.**  `settled` and `deadline`: the client's negotiation
leaves `Pending` at most once, and its deadline can always make it; no stream is opened before
(`waited`).  `mode` and `windows` are about any two streams, one of either end, so also about the
two ends of one.  `credited`: no `OPEN_CREDIT` is refused for lack of negotiation. -/
structure Session.TermsAgree (s : Session) : Prop where
  settled : s.a.negotiation ≠ .pending → ∀ t, Reachable Session.step s t →
    t.a.negotiation = s.a.negotiation
  deadline : ∃ t, s.step (true, .act .timeout) = some t ∧ t.a.negotiation ≠ .pending
  waited : s.a.negotiation = .pending → s.a.opens = [] ∧ s.a.gens = [] ∧ s.b.gens = []
  mode : ∀ ga ∈ s.a.gens, ∀ gb ∈ s.b.gens, ga.side.flow.negotiated = gb.side.flow.negotiated
  windows : ∀ ga ∈ s.a.gens, ∀ gb ∈ s.b.gens, ga.side.flow.negotiated = true →
    ga.side.flow.sendLimit = gb.side.flow.receiveLimit ∧
    gb.side.flow.sendLimit = ga.side.flow.receiveLimit
  credited : ∀ r target t, s.a.wire.head? = some r → r.msg = .opening true target →
    s.step (false, .deliver) = some t →
    t.b = (s.b.allocateOpen r.incoming (some s.a.window.bytes)).getD
      { s.b with reader := .rejecting r.sid }

/-- **Both ends agree on the terms of every stream**, whatever the windows and chunk sizes and
however the negotiation, its deadline and the opens interleave. -/
theorem terms_agree {s : Session} {wa wb : MuxWindow} {ca cb : ChunkSize}
    (h : Reachable Session.step (Session.new wa wb ca cb) s) : s.TermsAgree := by
  have hs := Session.Agrees.reachable h
  have hmode : ∀ ga ∈ s.a.gens, ∀ gb ∈ s.b.gens,
      ga.side.flow.negotiated = gb.side.flow.negotiated := by
    intro ga ha gb hb
    obtain ⟨i, hi⟩ := List.mem_iff_getElem?.mp ha
    obtain ⟨j, hj⟩ := List.mem_iff_getElem?.mp hb
    exact (hs.candidA.terms hs.roles.1 i ga hi).negotiated.trans (hs.terms j gb hj).2.1.symm
  refine ⟨fun hn t ht => hs.settled hn ht, ?_, fun hp => ⟨?_, ?_, ?_⟩, hmode,
    fun ga ha gb hb hneg => ?_, fun r target t hr hmsg ht => hs.credited hr hmsg ht⟩
  · refine ⟨{ s with a := s.a.settle .legacy }, ?_, ?_⟩
    · change (s.a.step .timeout).map _ = _
      rw [Endpoint.step, if_pos hs.roles.1]
      rfl
    · change (s.a.settle .legacy).negotiation ≠ .pending
      rw [Endpoint.negotiation_settle]
      split
      · intro hp
        cases hp
      · assumption
  · exact List.eq_nil_iff_forall_not_mem.mpr fun p hp' => (hs.candidA.opens p hp').2.1 hp
  · refine List.eq_nil_iff_forall_not_mem.mpr fun g hg => ?_
    obtain ⟨i, hi⟩ := List.mem_iff_getElem?.mp hg
    exact (hs.candidA.terms hs.roles.1 i g hi).settled hp
  · refine List.eq_nil_iff_forall_not_mem.mpr fun g hg => ?_
    obtain ⟨j, hj⟩ := List.mem_iff_getElem?.mp hg
    exact (hs.terms j g hj).1 hp
  · have hneg' := (hmode ga ha gb hb).symm.trans hneg
    obtain ⟨i, hi⟩ := List.mem_iff_getElem?.mp ha
    obtain ⟨j, hj⟩ := List.mem_iff_getElem?.mp hb
    have hterms := hs.candidA.terms hs.roles.1 i ga hi
    obtain ⟨w, hw⟩ := Option.isSome_iff_exists.mp (hterms.negotiated.symm.trans hneg)
    constructor
    · rw [hterms.sendLimit, hw, hs.candidB.limit j gb hj]
      exact (hs.answered w (Negotiation.window?_eq_some.mp hw)).1
    · rw [(hs.terms j gb hj).2.2 hneg', hs.candidA.limit i ga hi]

def oneMiB : MuxWindow := ⟨1, Nat.zero_lt_one, one_le_four⟩

def oneKiB : ChunkSize := ⟨1024, by decide, by decide⟩

/-- A client of 1 MiB and a server of 2 MiB negotiate, and a stream is opened on credit. -/
def openOnCredit : List (Bool × SessionAction) :=
  let target : Bytes := [1, 10, 0, 0, 1, 0, 80]
  let sendControl : List SessionAction :=
    [.act (.write .selectControl), .act (.write .lookup), .act (.write .pass)]
  sendControl.map (true, ·) ++ [(false, .deliver)] ++ sendControl.map (false, ·) ++
    [(true, .deliver), (true, .act (.openFetch (some target) [])), (true, .act (.openPrepare 0)),
      (true, .act (.task 0 .openAcquire)), (true, .act (.task 0 .openEmit)),
      (true, .act (.write .tryRecv)), (true, .act (.write .lookup)), (true, .act (.write .pass)),
      (false, .deliver)]

theorem terms_agree_on_credit : let chunk : ChunkSize := ⟨1024, by decide, by decide⟩
    let start := Session.new ⟨1, by decide, by decide⟩ ⟨2, by decide, by decide⟩ chunk chunk
    (run Session.step start openOnCredit).map (fun s => (s.a.negotiation,
        s.a.gens.map fun g => g.side.flow.sendLimit, s.b.gens.map fun g => g.side.flow.sendLimit)) =
      some (.credit 2097152, [2097152], [1048576]) ∧
      ∀ s, run Session.step start openOnCredit = some s → s.TermsAgree :=
  ⟨by decide, fun _ hs => terms_agree (Reachable.of_run hs)⟩

end BibaVpn.Mux
