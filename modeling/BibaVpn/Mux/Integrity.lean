/-
# The streams of a session are intact

Whatever two endpoints do, each of their negotiated streams goes through a run of `Pair`: so what
the socket at one end is given is the beginning of what the other end has read, and all of it after
FIN.

* §1: a client takes no id twice before it has taken all of them (`Endpoint.Numbered`);
* §2: each id of a session is linked, at every moment (`Session.Linked`);
* §3: a stream that completes leaves its records in the lane, and they stay valid
  (`Endpoint.Retired`);
* §4 puts this together (`streams_intact`);
* §5: once the 32-bit counter of the ids has come around, a record of an old stream can reach a new
  one (`reused_id_mixes_streams`).
-/
import BibaVpn.Mux.Link
import Mathlib.Data.List.Perm.Subperm

namespace BibaVpn.Mux

open Machine Lts

/-! ## 1. Ids -/

namespace Endpoint

/-- The ids that pending opens and streams have. -/
def ids (e : Endpoint) : List Nat := e.opens.map PendingOpen.sid ++ e.gens.map Gen.sid

/-- **A client takes its ids in order**, and each is for one stream, until the counter has gone once
around. -/
structure Numbered (e : Endpoint) : Prop where
  nextSid : e.nextSid = (e.issued + 1) % 2 ^ 32
  issued : e.issued ≤ 2 ^ 32
  taken : ∀ sid ∈ e.ids, ∃ k < e.issued, sid = (k + 1) % 2 ^ 32
  nodup : e.ids.Nodup

theorem Numbered.new (window : MuxWindow) (chunk : ChunkSize) :
    (Endpoint.new true window chunk).Numbered where
  nextSid := rfl
  issued := Nat.zero_le _
  taken sid hs := by cases hs
  nodup := List.nodup_nil

variable {e e' : Endpoint}

theorem Numbered.solo (h : e.Numbered) : e.Solo := (List.nodup_append.mp h.nodup).2.1

/-- An id that is about to be used has no stream yet. -/
theorem Numbered.unused (h : e.Numbered) {p : PendingOpen} (hp : p ∈ e.opens) :
    (e.strand p.sid).gen = none := by
  refine find_gen_none.mpr fun g hg heq => ?_
  exact (List.nodup_append.mp h.nodup).2.2 p.sid (List.mem_map_of_mem hp) g.sid
    (List.mem_map_of_mem hg) heq.symm

/-- The ids are the same, or fewer. -/
theorem Numbered.mono (h : e.Numbered) (hids : e'.ids.Subperm e.ids) (hn : e'.nextSid = e.nextSid)
    (hi : e'.issued = e.issued) : e'.Numbered where
  nextSid := by rw [hn, hi]; exact h.nextSid
  issued := hi ▸ h.issued
  taken sid hs := by
    rw [hi]
    exact h.taken sid (hids.subset hs)
  nodup := by
    obtain ⟨ids, hperm, hsub⟩ := hids
    exact hperm.nodup_iff.mp (hsub.nodup h.nodup)

theorem Numbered.fetch (h : e.Numbered) (hlt : e.issued < 2 ^ 32) (window : Option Nat)
    (target : Option Bytes) (pre : Bytes) :
    Endpoint.Numbered { e with
      nextSid := (e.nextSid + 1) % 2 ^ 32
      issued := e.issued + 1
      opens := e.opens ++ [⟨e.nextSid, window, target, pre⟩] } := by
  have hnew : e.nextSid ∉ e.ids := fun hmem => by
    obtain ⟨k, hk, heq⟩ := h.taken _ hmem
    have hnext := h.nextSid
    omega
  have hperm : List.Perm (ids { e with
      nextSid := (e.nextSid + 1) % 2 ^ 32
      issued := e.issued + 1
      opens := e.opens ++ [⟨e.nextSid, window, target, pre⟩] }) (e.nextSid :: e.ids) := by
    simp only [ids, List.map_append, List.map_cons, List.map_nil, List.append_assoc]
    exact List.perm_middle
  exact {
    nextSid := by
      show (e.nextSid + 1) % 2 ^ 32 = (e.issued + 1 + 1) % 2 ^ 32
      rw [h.nextSid]
      omega
    issued := hlt
    taken := fun sid hs => by
      rcases List.mem_cons.mp (hperm.subset hs) with rfl | hs
      · exact ⟨e.issued, Nat.lt_succ_self _, h.nextSid⟩
      · obtain ⟨k, hk, heq⟩ := h.taken sid hs
        exact ⟨k, Nat.lt_succ_of_lt hk, heq⟩
    nodup := hperm.nodup_iff.mpr (List.nodup_cons.mpr ⟨hnew, h.nodup⟩) }

/-- **A step of a client keeps its ids in order**, if an open finds the counter not yet around. -/
theorem Numbered.step {a : Action} (h : e.Numbered) (hc : e.client = true)
    (hs : e.step a = some e')
    (hfetch : ∀ target pre, a = .openFetch target pre → e.issued < 2 ^ 32) : e'.Numbered := by
  have hsame : (∀ target pre, a ≠ .openFetch target pre) → (∀ k, a ≠ .openPrepare k) →
      e'.Numbered := by
    intro hnf hnp
    -- a client adds no stream but those of its opens
    have hm : e'.gens.map Gen.sid = e.gens.map Gen.sid := by
      rcases gens_step hs with hm | ⟨g, hcr, -⟩
      · exact hm
      · cases hcr with
        | prepared k => exact absurd rfl (hnp k)
        | admitted f peer hadm => exact absurd (hc.symm.trans hadm.server) (by simp)
    rcases opens_step hs with ⟨target, pre, ha, -⟩ | ⟨k, ha, -⟩ | hopens
    · exact absurd ha (hnf target pre)
    · exact absurd ha (hnp k)
    · refine h.mono ?_ hopens.nextSid hopens.issued
      simp only [ids, hopens.opens, hm]
      exact List.Subperm.refl _
  have herase : ∀ {k : Nat} {p : PendingOpen}, e.opens[k]? = some p →
      (p :: e.opens.eraseIdx k).Perm e.opens := fun hk => by
    obtain ⟨hlt, rfl⟩ := List.getElem?_eq_some_iff.mp hk
    exact List.getElem_cons_eraseIdx_perm hlt
  cases step_spec hs with
  | fetched target pre _ hn => exact h.fetch (hfetch target pre rfl) _ target pre
  | prepared k p target _ hk ht ha =>
    obtain ⟨-, -, -, rfl⟩ := allocate_ok ha
    refine h.mono (List.Perm.subperm ?_) rfl rfl
    simp only [ids, List.map_append, List.map_cons, List.map_nil, ← List.append_assoc]
    refine List.perm_append_singleton _ _ |>.trans ?_
    exact ((herase hk).map PendingOpen.sid).append_right _
  | unprepared k p hk =>
    refine h.mono ?_ rfl rfl
    exact ((List.eraseIdx_sublist e.opens k).map PendingOpen.sid |>.append_right _).subperm
  | _ => exact hsame nofun nofun

end Endpoint

/-! ## 2. The session -/

/-- An `open_stream` takes its id. -/
def SessionAction.fetches : SessionAction → Bool
  | .act (.openFetch _ _) => true
  | _ => false

/-- An open of the client finds the counter of the ids not yet around. -/
def Session.Unwrapped (s : Session) (l : Bool × SessionAction) : Prop :=
  l.2.fetches = true → s.a.issued < 2 ^ 32

instance (s : Session) (l : Bool × SessionAction) : Decidable (s.Unwrapped l) :=
  inferInstanceAs (Decidable (_ → _))

/-- **The invariant of the session**: unless the client has settled on the legacy mode, each id is
linked. -/
structure Session.Linked (wa wb : MuxWindow) (s : Session) : Prop where
  agrees : s.Agrees
  windows : s.a.window = wa ∧ s.b.window = wb
  sortedA : s.a.Sorted
  sortedB : s.b.Sorted
  numbered : s.a.Numbered
  solo : s.a.negotiation ≠ .legacy → s.b.Solo
  links : s.a.negotiation ≠ .legacy → ∀ sid, sid ≠ 0 →
    Link wa wb (s.a.strand sid) (s.b.strand sid)

theorem Endpoint.strand_pop_self {e : Endpoint} {r : Rec} (h : e.wire.head? = some r) :
    ∃ ws, (e.strand r.sid).wire = r.msg :: ws ∧
      e.pop.strand r.sid = { e.strand r.sid with wire := ws } := by
  obtain ⟨rest, hw⟩ := List.head?_eq_some_iff.mp h
  refine ⟨msgsOf r.sid rest, ?_, ?_⟩
  · show msgsOf r.sid e.wire = _
    rw [hw, msgsOf_cons_self]
  · refine Strand.ext rfl rfl rfl rfl ?_ rfl
    show msgsOf r.sid e.wire.tail = _
    rw [hw]
    rfl

theorem Endpoint.strand_pop_other {e : Endpoint} {r : Rec} {sid : Nat} (h : e.wire.head? = some r)
    (hne : r.sid ≠ sid) : e.pop.strand sid = e.strand sid := by
  obtain ⟨rest, hw⟩ := List.head?_eq_some_iff.mp h
  refine Strand.ext rfl rfl rfl rfl ?_ rfl
  show msgsOf sid e.wire.tail = msgsOf sid e.wire
  rw [hw, msgsOf_cons_ne hne]
  rfl

/-- An `OPEN` arrives at a server that has nothing under its id. -/
theorem Link.empty_of_opening {wa wb : MuxWindow} {x y : Strand} {m : Msg} {ws : List Msg}
    (h : Link wa wb x y) (hw : x.wire = m :: ws) (hm : m.isOpening = true) : y.gen = none := by
  cases h with
  | unused | unsent | sent => rfl
  | coupled _ _ p ca cb ea eb pre hp hr hc =>
    have := hp.wire m (by rw [hw]; exact List.mem_cons_self)
    rw [hm] at this
    cases this

section Linked

variable {wa wb : MuxWindow} {s t : Session} {e : Endpoint} {a : Action}

theorem Session.Linked.new (wa wb : MuxWindow) (ca cb : ChunkSize) :
    (Session.new wa wb ca cb).Linked wa wb where
  agrees := .new wa wb ca cb
  windows := ⟨rfl, rfl⟩
  sortedA := .new true wa ca
  sortedB := .new false wb cb
  numbered := .new wa ca
  solo _ := List.nodup_nil
  links _ sid h0 := by
    -- the announcement is a record of id 0
    have hctl : msgsOf sid (Endpoint.new true wa ca).controlRecs = [] :=
      msgsOf_cons_ne (Ne.symm h0) []
    have ha : (Endpoint.new true wa ca).strand sid = .empty := by
      refine Strand.ext rfl rfl rfl ?_ rfl rfl
      exact (Endpoint.lanes_of_none rfl sid).2.trans hctl
    show Link wa wb ((Endpoint.new true wa ca).strand sid) ((Endpoint.new false wb cb).strand sid)
    rw [ha]
    exact .unused

theorem Session.Linked.settled (h : s.Linked wa wb) (he : s.a.step a = some e)
    (hn : e.negotiation ≠ .legacy) : s.a.negotiation ≠ .legacy := fun hleg =>
  hn ((Endpoint.settled_step he h.agrees.roles.1 (by simp [hleg])).trans hleg)

/-- The client moves, and the reader does not take a record of this id. -/
theorem Session.Linked.link_client (h : s.Linked wa wb) (he : s.a.step a = some e)
    (hn : s.a.negotiation ≠ .legacy) {sid : Nat} (h0 : sid ≠ 0)
    (hother : ∀ f, a = .read (.receive f) → f.sid ≠ sid) :
    Link wa wb (e.strand sid) (s.b.strand sid) := by
  have hlink := h.links hn sid h0
  rcases h.agrees.wfA.strand_step h.numbered.solo h.sortedA he h0 hother with
    hstep | happly | ⟨p, hp, rfl, target, heq⟩
  · exact hlink.stepA hstep
  · exact hlink.applyA happly
  · have hnone := h.numbered.unused hp
    obtain ⟨-, hsettled, hwin⟩ := h.agrees.candidA.opens p hp
    have hsome : p.window = some wb.bytes := by
      rw [hwin]
      cases hneg : s.a.negotiation with
      | pending => exact absurd hneg hsettled
      | legacy => exact absurd hneg hn
      | credit w =>
        rw [(h.agrees.answered w hneg).1, h.windows.2]
        rfl
    rw [heq, hnone, hsome]
    exact hlink.openA hnone h.windows.1

/-- The server moves, and the reader does not take a record of this id. -/
theorem Session.Linked.link_server (h : s.Linked wa wb) (he : s.b.step a = some e)
    (hn : s.a.negotiation ≠ .legacy) {sid : Nat} (h0 : sid ≠ 0)
    (hother : ∀ f, a = .read (.receive f) → f.sid ≠ sid) :
    Link wa wb (s.a.strand sid) (e.strand sid) := by
  have hlink := h.links hn sid h0
  rcases h.agrees.wfB.strand_step (h.solo hn) h.sortedB he h0 hother with
    hstep | happly | ⟨p, hp, -⟩
  · exact hlink.stepB hstep
  · exact hlink.applyB happly
  · -- a server opens no streams
    have hc := (h.agrees.candidB.opens p hp).1
    rw [h.agrees.roles.2] at hc
    cases hc

/-- What the reader does when it takes a record. -/
theorem Endpoint.readerStep_of_receive {e e' : Endpoint} {f : Incoming}
    (h : e.step (.read (.receive f)) = some e') : e.ReaderStep (.receive f) e' := by
  cases Endpoint.step_spec h with
  | read _ _ _ hs => exact hs

theorem Session.Linked.client_act (h : s.Linked wa wb) (he : s.a.step a = some e)
    (htakes : a.takes = false) (hag : Session.Agrees { s with a := e })
    (hfetch : ∀ target pre, a = .openFetch target pre → s.a.issued < 2 ^ 32) :
    Session.Linked wa wb { s with a := e } where
  agrees := hag
  windows := ⟨(h.agrees.wfA.grows he).window.trans h.windows.1, h.windows.2⟩
  sortedA := h.sortedA.step h.agrees.wfA he
  sortedB := h.sortedB
  numbered := h.numbered.step h.agrees.roles.1 he hfetch
  solo hn := h.solo (h.settled he hn)
  links hn sid h0 := by
    refine h.link_client he (h.settled he hn) h0 fun f hf => ?_
    rw [hf] at htakes
    cases htakes

theorem Endpoint.Sorted.pop (h : e.Sorted) : e.pop.Sorted := ⟨h.output, h.control⟩

namespace Session

theorem Linked.client_deliver {r : Rec} (h : s.Linked wa wb) (hr : s.b.wire.head? = some r)
    (he : s.a.step (.read (.receive r.incoming)) = some e) (hag : Agrees ⟨e, s.b.pop⟩) :
    Session.Linked wa wb ⟨e, s.b.pop⟩ where
  agrees := hag
  windows := ⟨(h.agrees.wfA.grows he).window.trans h.windows.1, h.windows.2⟩
  sortedA := h.sortedA.step h.agrees.wfA he
  sortedB := h.sortedB.pop
  numbered := h.numbered.step h.agrees.roles.1 he nofun
  solo hn := h.solo (h.settled he hn)
  links hn sid h0 := by
    have hn' := h.settled he hn
    by_cases hsid : r.sid = sid
    · subst hsid
      obtain ⟨hidle, htakes⟩ :=
        h.agrees.wfA.strand_takes h.numbered.solo (Endpoint.readerStep_of_receive he) h0
      obtain ⟨ws, hw, hpop⟩ := Endpoint.strand_pop_self hr
      show Link wa wb (e.strand r.sid) (s.b.pop.strand r.sid)
      rw [hpop]
      refine (h.links hn' r.sid h0).takeA htakes ?_ ?_ hw ?_ rfl
      · rintro ⟨-, hc⟩
        rw [h.agrees.roles.1] at hc
        cases hc
      · simp [Endpoint.strand, hidle]
      · -- a server sends no `OPEN`
        cases hm : r.msg with
        | opening credit target =>
          have hv := h.agrees.candidB.records r (Endpoint.holds_head hr)
          simp only [Endpoint.Vouches, hm] at hv
          rw [h.agrees.roles.2] at hv
          cases hv.1
        | _ => rfl
    · show Link wa wb (e.strand sid) (s.b.pop.strand sid)
      rw [Endpoint.strand_pop_other hr hsid]
      refine h.link_client he hn' h0 fun f hf => ?_
      cases hf
      exact hsid

theorem Linked.server_act (h : s.Linked wa wb) (he : s.b.step a = some e)
    (htakes : a.takes = false) (hag : Agrees { s with b := e }) :
    Session.Linked wa wb { s with b := e } where
  agrees := hag
  windows := ⟨h.windows.1, (h.agrees.wfB.grows he).window.trans h.windows.2⟩
  sortedA := h.sortedA
  sortedB := h.sortedB.step h.agrees.wfB he
  numbered := h.numbered
  solo hn := by
    rcases Endpoint.gens_step he with hm | ⟨g, hcr, -⟩
    · exact (h.solo hn).of_sids hm
    · cases hcr with
      | prepared k p target hk => exact absurd hk (h.agrees.server_opens k p)
      | admitted => cases htakes
  links hn sid h0 := by
    refine h.link_server he hn h0 fun f hf => ?_
    rw [hf] at htakes
    cases htakes

theorem Linked.server_deliver {r : Rec} (h : s.Linked wa wb) (hr : s.a.wire.head? = some r)
    (he : s.b.step (.read (.receive r.incoming)) = some e) (hag : Agrees ⟨s.a.pop, e⟩) :
    Session.Linked wa wb ⟨s.a.pop, e⟩ where
  agrees := hag
  windows := ⟨h.windows.1, (h.agrees.wfB.grows he).window.trans h.windows.2⟩
  sortedA := h.sortedA.pop
  sortedB := h.sortedB.step h.agrees.wfB he
  numbered := { h.numbered with }
  solo hn := by
    rcases Endpoint.gens_step he with hm | ⟨g, hcr, hadd⟩
    · exact (h.solo hn).of_sids hm
    · cases hcr with
      | admitted f peer hadm =>
        have h0 : r.sid ≠ 0 := by
          refine hag.wfB.sids s.b.gens.length (s.b.fresh r.sid peer [] .connecting) ?_
          show e.gens[s.b.gens.length]? = _
          rw [hadd.gens, List.getElem?_append_right (Nat.le_refl _), Nat.sub_self]
          rfl
        obtain ⟨ws, hw, -⟩ := Endpoint.strand_pop_self hr
        obtain ⟨credit, target, hmsg, -⟩ := Msg.opening_of_flags hadm.opening
        exact (h.solo hn).append hadd.gens
          ((h.links hn r.sid h0).empty_of_opening hw (by rw [hmsg]; rfl))
  links hn sid h0 := by
    by_cases hsid : r.sid = sid
    · subst hsid
      obtain ⟨hidle, htakes⟩ :=
        h.agrees.wfB.strand_takes (h.solo hn) (Endpoint.readerStep_of_receive he) h0
      obtain ⟨ws, hw, hpop⟩ := Endpoint.strand_pop_self hr
      show Link wa wb (s.a.pop.strand r.sid) (e.strand r.sid)
      rw [hpop]
      refine (h.links hn r.sid h0).takeB htakes h.agrees.roles.2 h.windows.2 (fun w hw => ?_) ?_ hw
        rfl
      · rw [h.agrees.heard w hw, h.windows.1]
      · simp [Endpoint.strand, hidle]
    · show Link wa wb (s.a.pop.strand sid) (e.strand sid)
      rw [Endpoint.strand_pop_other hr hsid]
      refine h.link_server he hn h0 fun f hf => ?_
      cases hf
      exact hsid

theorem Linked.step {l : Bool × SessionAction} (h : s.Linked wa wb) (hl : s.Unwrapped l)
    (hs : s.step l = some t) : t.Linked wa wb := by
  have hag := h.agrees.step hs
  obtain ⟨who, act⟩ := l
  cases who with
  | true =>
    rcases stepA_cases hs with ⟨a, e, rfl, htakes, he, rfl⟩ | ⟨r, e, rfl, hr, he, rfl⟩
    · refine h.client_act he htakes hag fun target pre ha => ?_
      subst ha
      exact hl rfl
    · exact h.client_deliver hr he hag
  | false =>
    obtain ⟨t', ht', rfl⟩ := Option.map_eq_some_iff.mp hs
    rcases stepA_cases ht' with ⟨a, e, rfl, htakes, he, rfl⟩ | ⟨r, e, rfl, hr, he, rfl⟩
    · exact h.server_act he htakes hag
    · exact h.server_deliver hr he hag

theorem Linked.path {ca cb : ChunkSize}
    (h : Path Session.step Unwrapped (Session.new wa wb ca cb) s) : s.Linked wa wb :=
  h.invariant (.new wa wb ca cb) fun _ _ _ hI hl hs => hI.step hl hs

end Session

end Linked

/-! ## 3. A stream that has completed -/

namespace Endpoint

section Retired

variable {e e' : Endpoint} {i : Nat}

/-- The task of generation `i` has ended and its stream is not registered. -/
structure Retired (e : Endpoint) (i : Nat) (valid : Bool) : Prop where
  gen : ∃ g, e.gens[i]? = some g ∧ g.task = .ended ∧ g.side.flow.outputValid = valid
  registered : e.registered i = false

/-- **Whether the output of such a generation is valid does not change any more.** -/
theorem Retired.step {a : Action} {valid : Bool} (h : e.Retired i valid) (hw : e.Wf)
    (hs : e.step a = some e') : e'.Retired i valid := by
  obtain ⟨g, hg, ht, hv⟩ := h.gen
  have hgrows := hw.grows hs
  obtain ⟨g', hg', -⟩ := hgrows.gens i g hg
  refine ⟨⟨g', hg', hw.ended_step hs hg hg' ht, ?_⟩, ?_⟩
  · -- only a record that was looked up before can still reach it, and that leaves the output alone
    cases hw.fate_step hs hg with
    | left hsame =>
      cases hg'.symm.trans hsame
      exact hv
    | own b _ _ ha =>
      subst ha
      cases step_spec hs with
      | task _ _ _ _ hi hts =>
        cases hg.symm.trans hi
        exact absurd ht (taskStep_running hts)
    | applied flags payload side _ hd hsame =>
      cases hg'.symm.trans hsame
      exact (Side.dispatch_status hd).outputValid.trans hv
    | removed hreg =>
      rw [h.registered] at hreg
      cases hreg
  · rw [Bool.eq_false_iff]
    have hlt := (List.getElem?_eq_some_iff.mp hg).1
    exact fun hreg => Bool.eq_false_iff.mp h.registered (hgrows.registered i hlt hreg)

/-- **A stream that completes keeps its records**: they stay in the lane, or in the writer's hand,
and its output stays as valid as it was. -/
theorem Wf.complete {g : Gen} (hw : e.Wf) (hs : e.step (.task i .complete) = some e')
    (hg : e.gens[i]? = some g) :
    e'.Retired i g.side.flow.outputValid ∧ e'.output = e.output ∧ e'.writer = e.writer := by
  simp only [Endpoint.step, hg, Endpoint.taskStep] at hs
  obtain ⟨-, ⟨⟩⟩ := Option.ite_none_right_eq_some.mp hs
  have hsid : ∀ x ∈ e.streams, x.2 = i → x.1 = g.sid := fun x hx hi => by
    obtain ⟨g', hg', hsid⟩ := hw.streams x hx
    rw [hi, hg] at hg'
    rw [← hsid, Option.some.inj hg']
  unfold endTask
  rcases e.finish_cases g.sid g.epoch true with ⟨heq, hno⟩ | ⟨k, hget, hep, heq⟩
  · rw [heq]
    refine ⟨⟨⟨_, getElem?_modify_self hg _, rfl, rfl⟩, ?_⟩, rfl, rfl⟩
    by_contra hreg
    obtain ⟨x, hx, hxi⟩ := List.any_eq_true.mp (Bool.not_eq_false _ ▸ hreg)
    simp only [decide_eq_true_eq] at hxi
    have hmem : (g.sid, i) ∈ e.streams := by
      rw [← hsid x hx hxi, ← hxi]
      exact hx
    exact hno i (hw.get_of_mem hmem) (by simp [epochOf, hg])
  · -- the stream found under its id is its own
    have hki : k = i := by
      obtain ⟨g', hg', hep'⟩ := Option.map_eq_some_iff.mp hep
      have h1 := hw.epochs i g hg
      have h2 := hw.epochs k g' hg'
      omega
    subst hki
    rw [heq]
    refine ⟨⟨⟨_, getElem?_modify_self (getElem?_modify_self hg _) _, rfl, ?_⟩, ?_⟩, rfl, rfl⟩
    · simp [Gen.cancel, Side.cancel, Flow.cancel]
    · by_contra hreg
      obtain ⟨x, hx, hxi⟩ := List.any_eq_true.mp (Bool.not_eq_false _ ▸ hreg)
      obtain ⟨hmem, hne⟩ := List.mem_filter.mp hx
      simp only [decide_eq_true_eq] at hxi hne
      exact hne (hsid x hmem hxi)

theorem Retired.outputValid {valid : Bool} (h : e.Retired i valid) {r : Rec} (hr : r.gen = some i) :
    e.outputValid r = valid := by
  obtain ⟨g, hg, -, hv⟩ := h.gen
  simp [Endpoint.outputValid, hr, hg, hv]

end Retired

theorem Retired.reachable {s t : Session} {who : Bool} {i : Nat} {valid : Bool}
    (h : (s.mover who).Retired i valid) (hs : s.Agrees) (ht : Reachable Session.step s t) :
    (t.mover who).Retired i valid := by
  refine (ht.invariant (I := fun u => u.Agrees ∧ (u.mover who).Retired i valid) ⟨hs, h⟩
    fun u l v ⟨hu, hret⟩ hv => ⟨hu.step hv, ?_⟩).2
  rcases Session.end_step hv who with ⟨a, -, -, hstep⟩ | heq | heq
  · have hwf : (u.mover who).Wf := by
      cases who with
      | true => exact hu.wfA
      | false => exact hu.wfB
    exact hret.step hwf hstep
  · rw [heq]
    exact hret
  · rw [heq]
    exact ⟨hret.gen, hret.registered⟩

end Endpoint

/-! ## 4. What reaches the other socket -/

/-- **The negotiated streams of a session are intact.**  `intact`: what the socket at one end of a
stream was given is the beginning of what the other end read, and all of it after FIN, in both
directions.  `unheard`: an end whose peer has no stream of that id has given its socket nothing.
`paired` and `single`: every stream of the server is the other end of one of the client, and of one
only.  `passed`: the writer drops no record of a stream whose output is valid; and `completed`: a
stream that completes leaves its records where they are, and their output stays valid. -/
structure Session.StreamsIntact (s : Session) : Prop where
  intact : ∀ ga ∈ s.a.gens, ∀ gb ∈ s.b.gens, ga.sid = gb.sid → ga.side.flow.negotiated = true →
    Intact ga.side gb.side ∧ Intact gb.side ga.side
  unheard : ∀ ga ∈ s.a.gens, ga.side.flow.negotiated = true → (∀ gb ∈ s.b.gens, gb.sid ≠ ga.sid) →
    ga.side.down.written = [] ∧ ga.side.down.sawFin = false
  paired : ∀ gb ∈ s.b.gens, gb.side.flow.negotiated = true → ∃ ga ∈ s.a.gens, ga.sid = gb.sid
  single : ∀ (who : Bool) (i j : Nat) (g g' : Gen), (s.mover who).gens[i]? = some g →
    (s.mover who).gens[j]? = some g' → g.side.flow.negotiated = true → g.sid = g'.sid → i = j
  passed : ∀ (who : Bool) (n : Nat) (r : Rec) (c : Option Nat) (v : Bool) (i : Nat) (g : Gen),
    (s.mover who).writer = .looked n r c v → r.gen = some i → (s.mover who).gens[i]? = some g →
    g.side.flow.negotiated = true → r.msg ≠ .rst → g.side.flow.outputValid = true →
    (s.mover who).drops r c = false
  completed : ∀ who i t, s.step (who, .act (.task i .complete)) = some t →
    (t.mover who).output = (s.mover who).output ∧ (t.mover who).writer = (s.mover who).writer ∧
    ∀ u, Reachable Session.step t u → ∀ r, r.gen = some i →
      (u.mover who).outputValid r = (s.mover who).outputValid r

section Intact

variable {wa wb : MuxWindow} {s : Session}

theorem Session.Agrees.client_credit (h : s.Agrees) {g : Gen} (hg : g ∈ s.a.gens)
    (hn : g.side.flow.negotiated = true) : s.a.negotiation ≠ .legacy := by
  obtain ⟨i, hi⟩ := List.mem_iff_getElem?.mp hg
  have hterms := (h.candidA.terms h.roles.1 i g hi).negotiated
  intro hleg
  rw [hn, hleg] at hterms
  cases hterms

theorem Session.Agrees.server_credit (h : s.Agrees) {g : Gen} (hg : g ∈ s.b.gens)
    (hn : g.side.flow.negotiated = true) : s.a.negotiation ≠ .legacy := by
  obtain ⟨j, hj⟩ := List.mem_iff_getElem?.mp hg
  have hterms := (h.terms j g hj).2.1
  intro hleg
  rw [hn, hleg] at hterms
  cases hterms

theorem Endpoint.strand_gen_of_mem {e : Endpoint} (hn : e.Solo) {g : Gen} (hg : g ∈ e.gens) :
    (e.strand g.sid).gen = some g := by
  obtain ⟨i, hi⟩ := List.mem_iff_getElem?.mp hg
  exact Endpoint.strand_gen_self hn hi

/-- Both ends have the stream: it is a pair. -/
theorem Link.intact {x y : Strand} {ga gb : Gen} (h : Link wa wb x y) (hx : x.gen = some ga)
    (hy : y.gen = some gb) : Intact ga.side gb.side ∧ Intact gb.side ga.side := by
  cases h with
  | unused => cases hx
  | unsent | sent => cases hy
  | coupled _ _ p ca cb ea eb pre hp hr hc =>
    rw [← hc.a.side ga hx, ← hc.b.side gb hy]
    exact (Pair.Inv.reachable hr).intact

/-- Nothing comes from an end that reads nothing. -/
theorem Intact.nothing {s r : Side} (h : Intact s r) (hs : s.up.source = [])
    (hp : s.up.phase = .reading) : r.down.written = [] ∧ r.down.sawFin = false := by
  constructor
  · exact List.prefix_nil.mp (hs ▸ h.written)
  · by_contra hfin
    have hdone := (h.complete (Bool.not_eq_false _ ▸ hfin)).1
    rw [hp] at hdone
    cases hdone

/-- The server has no stream of this id. -/
theorem Link.unheard {x y : Strand} {ga : Gen} (h : Link wa wb x y) (hx : x.gen = some ga)
    (hy : y.gen = none) : ga.side.down.written = [] ∧ ga.side.down.sawFin = false := by
  have halone : ∀ h, x.Alone wa wb h → ga.side.down.written = [] ∧ ga.side.down.sawFin = false := by
    intro h ha
    rw [← ha.shows.side ga hx]
    exact (ha.inv ⟨1, by decide, by decide⟩ 0).intact.2.nothing rfl rfl
  cases h with
  | unused => cases hx
  | unsent _ g h hu ha => exact halone h ha
  | sent _ h hs ha => exact halone h ha
  | coupled _ _ p ca cb ea eb pre hp hr hc =>
    obtain ⟨-, hsource, hphase⟩ := hc.b.bare hy
    rw [← hc.a.side ga hx]
    exact (Pair.Inv.reachable hr).intact.2.nothing hsource hphase

theorem Link.paired {x y : Strand} {gb : Gen} (h : Link wa wb x y) (hy : y.gen = some gb) :
    x.gen.isSome = true := by
  cases h with
  | unused | unsent | sent => cases hy
  | coupled _ _ p ca cb ea eb pre hp hr hc => exact hp.gen

end Intact

/-- **End to end, the streams of a session are intact**, whatever the windows, chunk sizes, prefixes
and targets, and however sockets, pumps, readers, writers and other streams interleave, in every run
in which the client's 32-bit counter of ids has not come around. -/
theorem streams_intact {s : Session} {wa wb : MuxWindow} {ca cb : ChunkSize}
    (h : Path Session.step Session.Unwrapped (Session.new wa wb ca cb) s) : s.StreamsIntact := by
  have hs := Session.Linked.path h
  have hsoloA := hs.numbered.solo
  have hsid : ∀ g ∈ s.a.gens, g.sid ≠ 0 := fun g hg => by
    obtain ⟨i, hi⟩ := List.mem_iff_getElem?.mp hg
    exact hs.agrees.wfA.sids i g hi
  have hcredit : ∀ (who : Bool) (i : Nat) (g : Gen), (s.mover who).gens[i]? = some g →
      g.side.flow.negotiated = true → s.a.negotiation ≠ .legacy := by
    rintro (_ | _) i g hg hn
    · exact hs.agrees.server_credit (List.mem_of_getElem? hg) hn
    · exact hs.agrees.client_credit (List.mem_of_getElem? hg) hn
  have hsolo : ∀ who, s.a.negotiation ≠ .legacy → (s.mover who).Solo := by
    rintro (_ | _) hn
    · exact hs.solo hn
    · exact hsoloA
  have hwf : ∀ who, (s.mover who).Wf := by
    rintro (_ | _)
    · exact hs.agrees.wfB
    · exact hs.agrees.wfA
  exact {
    intact := fun ga ha gb hb heq hn => by
      have hcred := hs.agrees.client_credit ha hn
      refine (hs.links hcred ga.sid (hsid ga ha)).intact (Endpoint.strand_gen_of_mem hsoloA ha) ?_
      rw [heq]
      exact Endpoint.strand_gen_of_mem (hs.solo hcred) hb
    unheard := fun ga ha hn hno => by
      have hcred := hs.agrees.client_credit ha hn
      exact (hs.links hcred ga.sid (hsid ga ha)).unheard (Endpoint.strand_gen_of_mem hsoloA ha)
        (find_gen_none.mpr hno)
    paired := fun gb hb hn => by
      have hcred := hs.agrees.server_credit hb hn
      obtain ⟨j, hj⟩ := List.mem_iff_getElem?.mp hb
      have hsome := (hs.links hcred gb.sid (hs.agrees.wfB.sids j gb hj)).paired
        (Endpoint.strand_gen_of_mem (hs.solo hcred) hb)
      obtain ⟨ga, ha⟩ := Option.isSome_iff_exists.mp hsome
      obtain ⟨i, hi, heq⟩ := (Endpoint.strand_gen_iff hsoloA).mp ha
      exact ⟨ga, List.mem_of_getElem? hi, heq⟩
    single := fun who i j g g' hi hj hn heq =>
      index_unique (hsolo who (hcredit who i g hi hn)) hi hj heq
    passed := fun who n r c v i g hw hgen hg hn hrst hv => by
      have hcred := hcredit who i g hg hn
      have hrec := (hwf who).recs r
        (Endpoint.holdsRec_hand (by rw [hw]; exact List.mem_singleton_self r))
      obtain ⟨g₁, hg₁, heq⟩ := hrec.gen i hgen
      cases hg.symm.trans hg₁
      have h0 : r.sid ≠ 0 := heq ▸ (hwf who).sids i g hg
      obtain ⟨g₂, hg₂, hdrops⟩ := (hwf who).drops_eq (hsolo who hcred) hw h0 hrst
      have hsame := (Endpoint.strand_gen_iff (hsolo who hcred)).mpr ⟨i, hg, heq⟩
      cases hsame.symm.trans hg₂
      rw [hdrops, hv]
      rfl
    completed := fun who i t ht => by
      obtain ⟨a, hdo, hstep, -⟩ := Session.step_mover ht
      cases hdo
      obtain ⟨g, hg⟩ : ∃ g : Gen, (s.mover who).gens[i]? = some g := by
        cases Endpoint.step_spec hstep with
        | task _ g _ _ hg _ => exact ⟨g, hg⟩
      obtain ⟨hret, hout, hwr⟩ := (hwf who).complete hstep hg
      refine ⟨hout, hwr, fun u hu r hr => ?_⟩
      rw [(hret.reachable (hs.agrees.step ht) hu).outputValid hr]
      simp [Endpoint.outputValid, hr, hg] }

/-- A stream is opened on credit and connected. -/
def openAndConnect : List (Bool × SessionAction) :=
  openOnCredit ++ [(false, .act (.task 0 .connected))]

/-- The client sends two bytes and ends; the server writes both to its socket and sees FIN. -/
def sendAndClose : List (Bool × SessionAction) :=
  [.task 0 (.up (.readSocket [7, 8])), .task 0 (.up .takeCredit), .task 0 (.up .acquire),
    .task 0 (.up .emit), .task 0 (.up (.readSocket [])), .task 0 (.up .acquire),
    .task 0 (.up .emit), .write .tryRecv, .write .lookup, .write .pass, .write .tryRecv,
    .write .lookup, .write .pass].map (fun a => (true, .act a)) ++
  [.deliver, .act (.read .apply), .deliver, .act (.read .apply), .act (.task 0 (.down .receive)),
    .act (.task 0 (.down (.write 2))), .act (.task 0 (.down .consume)),
    .act (.task 0 (.down .check)), .act (.task 0 (.down .raise)), .act (.task 0 (.down .publish)),
    .act (.task 0 (.down .receive))].map fun a => (false, a)

theorem streams_intact_after_fin : let start := Session.new oneMiB oneMiB oneKiB oneKiB
    (run Session.step start (openAndConnect ++ sendAndClose)).map (fun s =>
        s.b.gens.map fun g => (g.side.down.written, g.side.down.sawFin)) = some [([7, 8], true)] ∧
      ∀ s, run Session.step start (openAndConnect ++ sendAndClose) = some s → s.StreamsIntact :=
  ⟨by decide +kernel, fun _ hs => streams_intact (Path.of_run (by decide +kernel) hs)⟩

/-! ## 5. The counter comes around -/

/-- The server sends a byte; before the client's reader comes to it, the client gives the stream up
and the server hears of that. -/
def leaveByte : List (Bool × SessionAction) :=
  [.task 0 (.up (.readSocket [7])), .task 0 (.up .takeCredit), .task 0 (.up .acquire),
    .task 0 (.up .emit), .write .tryRecv, .write .lookup, .write .pass].map
      (fun a => (false, .act a)) ++
  [.task 0 (.up .readFailed), .task 0 .fail, .task 0 .reset, .write .tryRecv, .write .lookup,
    .write .pass].map (fun a => (true, .act a)) ++
  [(false, .deliver), (false, .act (.read .apply))]

/-- An `open_stream` whose host is too long: it has taken an id and fails. -/
def failingOpen : List (Bool × SessionAction) :=
  [(true, .act (.openFetch none [])), (true, .act (.openPrepare 0))]

/-- The next stream is opened and connected, and the client reads what the server has sent. -/
def reopenAndRead : List (Bool × SessionAction) :=
  [.openFetch (some [1, 10, 0, 0, 1, 0, 80]) [], .openPrepare 0, .task 1 .openAcquire,
    .task 1 .openEmit, .write .tryRecv, .write .lookup, .write .pass].map
      (fun a => (true, .act a)) ++
  [(false, .deliver), (false, .act (.task 1 .connected)), (true, .deliver),
    (true, .act (.read .apply)), (true, .act (.task 1 (.down .receive))),
    (true, .act (.task 1 (.down (.write 1))))]

/-- The session after `n` more ids. -/
def Session.skip (s : Session) (n : Nat) : Session :=
  { s with a := { s.a with nextSid := (s.a.nextSid + n) % 2 ^ 32, issued := s.a.issued + n } }

theorem Endpoint.step_failingFetch {e : Endpoint} (hc : e.client = true)
    (hn : e.negotiation ≠ .pending) (ho : e.opens = []) :
    e.step (.openFetch none []) = some { e with
      nextSid := (e.nextSid + 1) % 2 ^ 32
      issued := e.issued + 1
      opens := [⟨e.nextSid, e.negotiation.window?, none, []⟩] } := by
  simp only [Endpoint.step, if_pos (And.intro hc hn), ho, List.nil_append]

theorem Endpoint.step_failingPrepare {e : Endpoint} {p : PendingOpen} (ho : e.opens = [p])
    (ht : p.target = none) (hp : p.pre = []) :
    e.step (.openPrepare 0) = some { e with opens := [] } := by
  have hget : e.opens[0]? = some p := by rw [ho]; rfl
  have herase : e.opens.eraseIdx 0 = [] := by rw [ho]; rfl
  simp only [Endpoint.step, hget, herase, Endpoint.tryPrepare, Endpoint.prepare, ht, hp,
    List.length_nil, Nat.not_lt_zero, if_false, gt_iff_lt]
  rfl

theorem run_failingOpen {s : Session} (hc : s.a.client = true) (hn : s.a.negotiation ≠ .pending)
    (ho : s.a.opens = []) (k : Nat) :
    run Session.step (s.skip k) failingOpen = some (s.skip (k + 1)) := by
  have hfetch := Endpoint.step_failingFetch (e := (s.skip k).a) hc hn ho
  have hprepare := Endpoint.step_failingPrepare (e := { (s.skip k).a with
    nextSid := ((s.skip k).a.nextSid + 1) % 2 ^ 32
    issued := (s.skip k).a.issued + 1
    opens := [⟨(s.skip k).a.nextSid, (s.skip k).a.negotiation.window?, none, []⟩] }) rfl rfl rfl
  have hnext : ((s.a.nextSid + k) % 2 ^ 32 + 1) % 2 ^ 32 = (s.a.nextSid + (k + 1)) % 2 ^ 32 := by
    rw [Nat.mod_add_mod, Nat.add_assoc]
  have hlast : s.skip (k + 1) = { s.skip k with a := { (s.skip k).a with
      nextSid := ((s.skip k).a.nextSid + 1) % 2 ^ 32
      issued := (s.skip k).a.issued + 1
      opens := [] } } := by
    simp only [Session.skip, hnext, ho, Nat.add_assoc]
  rw [hlast]
  simp only [failingOpen, run_cons, run_nil, Session.step, Session.stepA, Action.takes, hfetch,
    hprepare, Bool.false_eq_true, if_false, Option.map_some, Option.bind_some]

/-- Any number of opens may fail, whatever else is going on. -/
theorem run_failingOpens {s : Session} (hc : s.a.client = true) (hn : s.a.negotiation ≠ .pending)
    (ho : s.a.opens = []) (hsid : s.a.nextSid < 2 ^ 32) (n : Nat) :
    run Session.step s ((List.range n).flatMap fun _ => failingOpen) = some (s.skip n) := by
  have h0 : s.skip 0 = s := by
    have hmod : s.a.nextSid % 2 ^ 32 = s.a.nextSid := Nat.mod_eq_of_lt hsid
    simp only [Session.skip, Nat.add_zero, hmod]
  have hrun := run_iterate s.skip (fun _ => failingOpen) n fun k _ => run_failingOpen hc hn ho k
  rw [h0] at hrun
  exact hrun

/-- The session in which the server's byte is left on the wire. -/
def byteLeft : Session :=
  (run Session.step (Session.new oneMiB oneMiB oneKiB oneKiB) (openAndConnect ++ leaveByte)).getD
    (Session.new oneMiB oneMiB oneKiB oneKiB)

theorem run_leaveByte :
    run Session.step (Session.new oneMiB oneMiB oneKiB oneKiB) (openAndConnect ++ leaveByte) =
      some byteLeft := by
  have hsome : (run Session.step (Session.new oneMiB oneMiB oneKiB oneKiB)
      (openAndConnect ++ leaveByte)).isSome = true := by decide +kernel
  unfold byteLeft
  obtain ⟨t, ht⟩ := Option.isSome_iff_exists.mp hsome
  rw [ht]
  rfl

/-- **An id is used again while a record of its first stream is still on the way.**  The server
sends the byte 7 on stream 1; the client gives the stream up and takes 2^32 - 1 more ids, for opens
that fail; id 1 is then free at both ends and is opened again.  The byte of the old stream reaches
the socket of the new one, on which the server has read nothing. -/
theorem reused_id_mixes_streams : let labels := (openAndConnect ++ leaveByte) ++
      (((List.range (2 ^ 32 - 1)).flatMap fun _ => failingOpen) ++ reopenAndRead)
    let reached := run Session.step (Session.new oneMiB oneMiB oneKiB oneKiB) labels
    reached.map (fun s => s.a.gens.map fun g =>
        (g.sid, g.side.flow.negotiated, g.side.down.written)) =
      some [(1, true, []), (1, true, [7])] ∧
    reached.map (fun s => s.b.gens.map fun g => (g.sid, g.side.flow.negotiated, g.side.up.source)) =
      some [(1, true, [7]), (1, true, [])] := by
  dsimp only
  rw [run_append_of_eq run_leaveByte,
    run_append_of_eq (run_failingOpens (by decide +kernel) (by decide +kernel) (by decide +kernel)
      (by decide +kernel) (2 ^ 32 - 1))]
  exact ⟨by decide +kernel, by decide +kernel⟩

end BibaVpn.Mux
