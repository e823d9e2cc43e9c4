/-
# What can happen to one stream

A stream id can be used again while the task of its old generation still runs, while records of that
generation are queued in the lanes, and while the writer has one of them in hand.  This file says
what a step can do to one generation, and shows that nothing late can hurt a new one:

* §1 is what can happen to one end of a stream: it is left alone, it is cancelled, one of its pumps
  moves, or a record is dispatched to it (`Side.Moves`);
* §2 is where generations come from (`Endpoint.gens_step`);
* §3 says who may change a generation: its own task, a record that the reader found it for, or a
  removal while it is registered (`Endpoint.Wf.fate_step`).  What every move keeps, every generation
  keeps (`Endpoint.Wf.grows`, `Endpoint.Wf.gen_step`);
* §4 puts together what follows for late actions of old generations (`generation_safety`).
-/
import BibaVpn.Lib.Lists
import BibaVpn.Mux.Generations

namespace BibaVpn.Mux

open Machine Lts

/-! ## 1. Moves of one stream -/

/-- **What can happen to one end of a stream.** -/
inductive Side.Moves (s : Side) : Side → Prop
  | same : s.Moves s
  | cancel (preserve : Bool) : s.Moves (s.cancel preserve)
  | up (a : UpAction) (s' : Side) (o : Option Msg) (h : s.stepUp a = some (s', o)) : s.Moves s'
  | down (a : DownAction) (s' : Side) (o : Option Msg) (h : s.stepDown a = some (s', o)) :
    s.Moves s'
  | dispatch (flags : UInt8) (payload : Bytes) (s' : Side) (h : s.dispatch flags payload = .ok s') :
    s.Moves s'

theorem Side.dispatch_status {s s' : Side} {flags : UInt8} {payload : Bytes}
    (h : s.dispatch flags payload = .ok s') : s.flow.SameStatus s'.flow := by
  unfold Side.dispatch at h
  cases hd : s.flow.dispatch flags payload with
  | error x => rw [hd] at h; cases h
  | ok f =>
    rw [hd] at h
    cases h
    exact Flow.dispatch_status hd

/-- What the two ends agreed on when the stream was opened never changes. -/
structure Flow.SameTerms (f g : Flow) : Prop where
  negotiated : g.negotiated = f.negotiated
  sendLimit : g.sendLimit = f.sendLimit
  receiveLimit : g.receiveLimit = f.receiveLimit

theorem Side.Moves.terms {s s' : Side} (h : s.Moves s') (hI : s.Inv) :
    s.flow.SameTerms s'.flow := by
  cases h with
  | same | cancel => exact ⟨rfl, rfl, rfl⟩
  | up a s' o h =>
    obtain ⟨-, hspec, -⟩ := hI.stepUp h
    exact ⟨by rw [hspec.frame], by rw [hspec.frame], by rw [hspec.frame]⟩
  | down a s' o h =>
    obtain ⟨-, hspec, -⟩ := hI.stepDown h
    exact ⟨hspec.frame.negotiated, hspec.frame.sendLimit, hspec.frame.receiveLimit⟩
  | dispatch flags payload s' h =>
    have hst := Side.dispatch_status h
    exact ⟨hst.negotiated, hst.sendLimit, hst.receiveLimit⟩

/-- **Every move keeps what a generation keeps**, and what its task does is no matter. -/
theorem Side.Moves.keeps {g : Gen} {side : Side} (h : g.side.Moves side) (hI : g.side.Inv)
    (task : Task) : g.Keeps { g with side := side, task := task } := by
  have hk : g.Keeps { g with side := side } := by
    cases h with
    | same => exact .refl g
    | cancel preserve => exact .cancel preserve g
    | up a _ o h => exact Gen.keeps_stepUp hI h
    | down a _ o h => exact Gen.keeps_stepDown hI h
    | dispatch flags payload _ h => exact Gen.keeps_dispatch h
  exact ⟨hk.sid, hk.epoch, hk.limit, hk.valid, hk.cancelled, hk.inv⟩

/-! ## 2. Where generations come from -/

theorem length_of_sids {gs gs' : List Gen} (h : gs'.map Gen.sid = gs.map Gen.sid) :
    gs'.length = gs.length := by
  simpa only [List.length_map] using congrArg List.length h

namespace Endpoint

variable {e e' : Endpoint}

theorem gens_settle (e : Endpoint) (n : Negotiation) : (e.settle n).gens = e.gens := by
  unfold settle
  split <;> rfl

theorem closed_shutdown (e : Endpoint) : e.shutdown.closed = true := by
  unfold shutdown settle
  split <;> rfl

theorem streams_shutdown (e : Endpoint) : e.shutdown.streams = [] := by
  unfold shutdown settle
  split <;> rfl

theorem gens_shutdown (e : Endpoint) : e.shutdown.gens =
    e.gens.mapIdx fun i g => if e.registered i then Gen.cancel false g else g :=
  gens_settle _ _

theorem sids_finish (e : Endpoint) (sid epoch : Nat) (preserve : Bool) :
    (e.finish sid epoch preserve).1.gens.map Gen.sid = e.gens.map Gen.sid := by
  rcases e.finish_cases sid epoch preserve with ⟨heq, -⟩ | ⟨i, -, -, heq⟩
  · rw [heq]
  · rw [heq]
    exact Lists.map_modify fun _ => rfl

/-- What a cancellation does not touch, `shutdown` does not touch. -/
theorem map_shutdown {β : Type} {k : Gen → β} (hk : ∀ g, k (Gen.cancel false g) = k g)
    (e : Endpoint) : e.shutdown.gens.map k = e.gens.map k := by
  rw [gens_shutdown]
  refine Lists.map_mapIdx fun i g => ?_
  split
  · exact hk g
  · rfl

theorem sids_shutdown (e : Endpoint) :
    e.shutdown.gens.map Gen.sid = e.gens.map Gen.sid := e.map_shutdown fun _ => rfl

theorem sids_readerControl (e : Endpoint) (r : Rec) :
    (e.readerControl r).gens.map Gen.sid = e.gens.map Gen.sid := by
  unfold readerControl
  split
  · rename_i e' htc
    rw [tryControl_eq_some htc]
  · exact sids_shutdown _

theorem sids_taskStep {i : Nat} {g : Gen} (hs : e.TaskStep i g e') :
    e'.gens.map Gen.sid = e.gens.map Gen.sid := by
  have hmodify : ∀ (gs : List Gen) (task : Task),
      (gs.modify i fun g => { g with task := task }).map Gen.sid = gs.map Gen.sid :=
    fun _ _ => Lists.map_modify fun _ => rfl
  cases hs with
  | move | opened | reset => exact hmodify _ _
  | finish preserve => exact (hmodify _ _).trans (e.sids_finish g.sid g.epoch preserve)
  | up | down => exact Lists.map_modify fun _ => rfl
  | shutdown => exact (hmodify _ _).trans e.noteExhausted.sids_shutdown

/-- Generation `g` is added, and registered. -/
structure Adds (e e' : Endpoint) (g : Gen) : Prop where
  gens : e'.gens = e.gens ++ [g]
  registered : e'.registered e.gens.length = true
  opened : e.closed = false

/-- What `allocate` does to the generations. -/
theorem adds_allocate {sid : Nat} {peer : Option Nat} {pre : Bytes} {task : Task}
    (ha : e.allocate sid peer pre task = .ok e') : e.Adds e' (e.fresh sid peer pre task) := by
  obtain ⟨hopen, -, -, rfl⟩ := allocate_ok ha
  exact ⟨rfl, by simp [registered], hopen⟩

/-- A server admits the stream of `OPEN`: with credit exactly if the record asks for it, and then
with the window that was negotiated. -/
structure Admits (e : Endpoint) (f : Incoming) (peer : Option Nat) : Prop where
  server : e.client = false
  opening : hasFlag f.flags flagOpen = true
  credit : hasFlag f.flags flagOpenCredit = true → ∃ w, e.negotiation = .credit w ∧ peer = some w
  legacy : hasFlag f.flags flagOpenCredit = false → peer = none

theorem sids_readerStep {a : ReaderAction} (hs : e.ReaderStep a e') :
    e'.gens.map Gen.sid = e.gens.map Gen.sid ∨
    ∃ f peer, a = .receive f ∧ e.Admits f peer ∧ e.Adds e' (e.fresh f.sid peer [] .connecting) := by
  cases hs with
  | settled f window => exact Or.inl (congrArg _ (e.gens_settle _))
  | capability | unknown | replied => exact Or.inl (sids_readerControl _ _)
  | opened f peer e' _ ho hc ha hp hn =>
    exact Or.inr ⟨f, peer, rfl, ⟨hc, ho, hp, hn⟩, adds_allocate ha⟩
  | aborted f i g | removed f i g => exact Or.inl (e.sids_finish f.sid g.epoch false)
  | applied => exact Or.inl (Lists.map_modify fun _ => rfl)
  | pingFailed => exact Or.inl e.sids_shutdown
  | _ => exact Or.inl rfl

/-- A generation comes from an open of this end or from an `OPEN` of the peer. -/
inductive Creation (e : Endpoint) : Action → Gen → Prop
  | prepared (k : Nat) (p : PendingOpen) (target : Bytes) (hk : e.opens[k]? = some p)
    (ht : p.target = some target) :
    e.Creation (.openPrepare k) (e.fresh p.sid p.window p.pre (.opening target false))
  | admitted (f : Incoming) (peer : Option Nat) (hadm : e.Admits f peer) :
    e.Creation (.read (.receive f)) (e.fresh f.sid peer [] .connecting)

/-- **What a step does to the list of generations**: they stay, each with its id, or one is
added. -/
theorem gens_step {a : Action} (hs : e.step a = some e') :
    e'.gens.map Gen.sid = e.gens.map Gen.sid ∨ ∃ g, e.Creation a g ∧ e.Adds e' g := by
  cases step_spec hs with
  | fetched | unprepared => exact Or.inl rfl
  | prepared k p target e' hk ht ha =>
    have hadd := adds_allocate ha
    exact Or.inr ⟨_, .prepared k p target hk ht, hadd.gens, hadd.registered, hadd.opened⟩
  | task i g a e' hg hs => exact Or.inl (sids_taskStep (taskStep_spec hs))
  | read a e' _ hs =>
    rcases sids_readerStep hs with hm | ⟨f, peer, rfl, hc, hadd⟩
    · exact Or.inl hm
    · exact Or.inr ⟨_, .admitted f peer hc, hadd⟩
  | write a e' _ hs =>
    rw [writerStep_eq hs]
    exact Or.inl rfl
  | timeout => exact Or.inl (congrArg _ (e.gens_settle _))
  | stop => exact Or.inl e.sids_shutdown

/-! ## 3. The fate of one generation -/

/-- What takes one stream out of the registry: its own task, a reset for it, or a record that its
flow refuses. -/
inductive Departs (e : Endpoint) (j : Nat) : Action → Prop
  | own (b : TaskAction) : e.Departs j (.task j b)
  | received (f : Incoming) (hr : e.reader = .got f j) (hf : hasFlag f.flags flagRst = true) :
    e.Departs j (.read .apply)
  | refused (f : Incoming) (hr : e.reader = .refused f j) : e.Departs j (.read .remove)

/-- **What a step can do to generation `j`**, which is `g`: nothing; its own task moves; a record is
dispatched to it; or it is removed, for a record or with the whole session. -/
inductive Fate (e : Endpoint) (a : Action) (e' : Endpoint) (j : Nat) (g : Gen) : Prop
  | left (hg : e'.gens[j]? = some g) (hr : e'.registered j = e.registered j)
  | own (b : TaskAction) (side : Side) (task : Task) (ha : a = .task j b)
    (hm : g.side.Moves side) (hg : e'.gens[j]? = some { g with side := side, task := task })
    (hr : e'.registered j = e.registered j ∨
      (e.registered j = true ∧ side.flow.cancelled = true))
  | applied (flags : UInt8) (payload : Bytes) (side : Side) (ha : a = .read .apply)
    (hd : g.side.dispatch flags payload = .ok side)
    (hg : e'.gens[j]? = some { g with side := side }) (hr : e'.registered j = e.registered j)
  | removed (hreg : e.registered j = true) (hg : e'.gens[j]? = some (g.cancel false))
    (why : e.Departs j a ∨ e'.closed = true)

variable {i j : Nat} {g gi : Gen} {a : Action}

theorem registered_of_get {sid : Nat} (h : e.get sid = some i) : e.registered i = true :=
  List.any_eq_true.mpr ⟨(sid, i), mem_of_get h, decide_eq_true rfl⟩

theorem registered_settle (e : Endpoint) (n : Negotiation) (j : Nat) :
    (e.settle n).registered j = e.registered j := by
  unfold settle
  split <;> rfl

theorem Wf.epoch_inj (h : e.Wf) {g' : Gen} (hi : e.gens[i]? = some g) (hj : e.gens[j]? = some g')
    (heq : g.epoch = g'.epoch) : i = j := by
  have h1 := h.epochs i g hi
  have h2 := h.epochs j g' hj
  omega

/-- `finish` leaves a generation alone, or cancels the one whose epoch it was given. -/
theorem Wf.fate_finish (hw : e.Wf) (hi : e.gens[i]? = some gi) (hg : e.gens[j]? = some g)
    (sid : Nat) (preserve : Bool) :
    ((e.finish sid gi.epoch preserve).1.gens[j]? = some g ∧
      (e.finish sid gi.epoch preserve).1.registered j = e.registered j) ∨
    (j = i ∧ e.registered j = true ∧
      (e.finish sid gi.epoch preserve).1.gens[j]? = some (g.cancel preserve)) := by
  rcases e.finish_cases sid gi.epoch preserve with ⟨heq, -⟩ | ⟨k, hget, hep, heq⟩
  · rw [heq]
    exact .inl ⟨hg, rfl⟩
  · obtain rfl : k = i := by
      obtain ⟨gk, hk, hepk⟩ := Option.map_eq_some_iff.mp hep
      exact hw.epoch_inj hk hi hepk
    rw [heq]
    by_cases hjk : j = k
    · subst hjk
      exact .inr ⟨rfl, registered_of_get hget, getElem?_modify_self hg _⟩
    · refine .inl ⟨(getElem?_modify_ne hjk _).trans hg, ?_⟩
      -- no entry of the registry for `j` has the id under which `k` was found
      rw [Bool.eq_iff_iff, registered, registered, List.any_eq_true,
        List.any_eq_true]
      constructor
      · rintro ⟨s, hs, hsj⟩
        exact ⟨s, (List.mem_filter.mp hs).1, hsj⟩
      · rintro ⟨s, hs, hsj⟩
        refine ⟨s, List.mem_filter.mpr ⟨hs, ?_⟩, hsj⟩
        simp only [decide_eq_true_eq] at hsj ⊢
        rintro rfl
        have hsame := hw.get_of_mem hs
        rw [hget] at hsame
        exact hjk (hsj.symm.trans (Option.some.inj hsame).symm)

/-- `shutdown` cancels what is registered. -/
theorem fate_shutdown (hg : e.gens[j]? = some g) :
    (e.shutdown.gens[j]? = some g ∧ e.shutdown.registered j = e.registered j) ∨
    (e.registered j = true ∧ e.shutdown.gens[j]? = some (g.cancel false)) := by
  rw [gens_shutdown, List.getElem?_mapIdx, hg]
  cases hr : e.registered j with
  | false =>
    refine .inl ⟨by simp, ?_⟩
    rw [registered, streams_shutdown]
    rfl
  | true => exact .inr ⟨rfl, by simp⟩

theorem Fate.settle (hg : e.gens[j]? = some g) (n : Negotiation) : e.Fate a (e.settle n) j g := by
  refine .left ?_ (e.registered_settle n j)
  rw [gens_settle]
  exact hg

/-- The end of the session, from a state with the same generations. -/
theorem Fate.shutdown (e₁ : Endpoint) (hg : e.gens[j]? = some g) (hgens : e₁.gens = e.gens)
    (hstreams : e₁.streams = e.streams) (hsame : (e'.gens, e'.streams, e'.closed) =
      (e₁.shutdown.gens, e₁.shutdown.streams, e₁.shutdown.closed)) : e.Fate a e' j g := by
  simp only [Prod.mk.injEq] at hsame
  obtain ⟨hgens', hstreams', hclosed⟩ := hsame
  have hreg : e₁.registered j = e.registered j := by
    simp only [registered, hstreams]
  have hreg' : e'.registered j = e₁.shutdown.registered j := by
    simp only [registered, hstreams']
  rcases fate_shutdown (hgens ▸ hg) with ⟨hg', hr⟩ | ⟨hr, hg'⟩
  · exact .left (hgens' ▸ hg') (hreg'.trans (hr.trans hreg))
  · exact .removed (hreg ▸ hr) (hgens' ▸ hg') (.inr (hclosed.trans (closed_shutdown _)))

theorem Fate.readerControl (e₁ : Endpoint) (hg : e.gens[j]? = some g) (hgens : e₁.gens = e.gens)
    (hstreams : e₁.streams = e.streams) (r : Rec) : e.Fate a (e₁.readerControl r) j g := by
  unfold Endpoint.readerControl
  split
  · rename_i e₂ htc
    rw [tryControl_eq_some htc]
    refine .left (hgens ▸ hg) ?_
    simp only [registered, hstreams]
  · exact .shutdown { e₁.noteExhausted with reader := .idle } hg hgens hstreams rfl

theorem Fate.allocate (e₁ : Endpoint) {sid : Nat} {peer : Option Nat} {pre : Bytes} {task : Task}
    (hg : e.gens[j]? = some g) (hgens : e₁.gens = e.gens) (hstreams : e₁.streams = e.streams)
    (ha : e₁.allocate sid peer pre task = .ok e') : e.Fate a e' j g := by
  have hlt := (List.getElem?_eq_some_iff.mp hg).1
  obtain ⟨-, -, -, rfl⟩ := allocate_ok ha
  refine .left ?_ ?_
  · rw [hgens, List.getElem?_append_left hlt]
    exact hg
  · have hne : e₁.gens.length ≠ j := by
      rw [hgens]
      omega
    simp only [registered, List.any_cons, hstreams, hne, decide_false, Bool.false_or]

/-- **Every generation moves at most once, and only what is cancelled leaves the registry.** -/
theorem Fate.kept (h : e.Fate a e' j g) : ∃ side task,
    e'.gens[j]? = some { g with side := side, task := task } ∧ g.side.Moves side ∧
    (e'.registered j = e.registered j ∨ (e.registered j = true ∧ side.flow.cancelled = true)) := by
  cases h with
  | left hg hr => exact ⟨g.side, g.task, hg, .same, .inl hr⟩
  | own b side task _ hm hg hr => exact ⟨side, task, hg, hm, hr⟩
  | applied flags payload side _ hd hg hr =>
    exact ⟨side, g.task, hg, .dispatch flags payload side hd, .inl hr⟩
  | removed hreg hg => exact ⟨g.side.cancel false, g.task, hg, .cancel false, .inr ⟨hreg, rfl⟩⟩

/-- Behind it the task of generation `i` moves. -/
theorem Fate.setTask {b : TaskAction} (h : e.Fate (.task i b) e' j g) (task : Task) :
    e.Fate (.task i b) (e'.setTask i task) j g := by
  by_cases hj : j = i
  · subst hj
    obtain ⟨side, _, hg', hm, hr⟩ := h.kept
    exact .own b side task rfl hm (getElem?_modify_self hg' _) hr
  · have hsame : (e'.setTask i task).gens[j]? = e'.gens[j]? := getElem?_modify_ne hj _
    cases h with
    | left hg hr => exact .left (hsame.trans hg) hr
    | own _ _ _ ha =>
      cases ha
      exact absurd rfl hj
    | applied _ _ _ ha => cases ha
    | removed hreg hg why => exact .removed hreg (hsame.trans hg) why

theorem Wf.fate_taskStep {b : TaskAction} (hw : e.Wf) (hi : e.gens[i]? = some gi)
    (hs : e.TaskStep i gi e') (hg : e.gens[j]? = some g) : e.Fate (.task i b) e' j g := by
  have hrefl : e.Fate (.task i b) e j g := .left hg rfl
  have hpump : ∀ side, gi.side.Moves side →
      e'.gens = e.gens.modify i (fun g => { g with side := side }) → e'.streams = e.streams →
      e.Fate (.task i b) e' j g := by
    intro side hm hgens hstreams
    have hreg : e'.registered j = e.registered j := by simp only [registered, hstreams]
    by_cases hj : j = i
    · subst hj
      cases hg.symm.trans hi
      exact .own b side g.task rfl hm (hgens ▸ getElem?_modify_self hg _) (.inl hreg)
    · exact .left (hgens ▸ (getElem?_modify_ne hj _).trans hg) hreg
  cases hs with
  | move task => exact hrefl.setTask task
  | opened | reset =>
    refine Fate.setTask ?_ _
    exact .left hg rfl
  | finish preserve task =>
    rcases hw.fate_finish hi hg gi.sid preserve with ⟨hg', hr⟩ | ⟨rfl, hreg, hg'⟩
    · exact Fate.setTask (.left hg' hr) task
    · exact .own b _ task rfl (.cancel preserve) (getElem?_modify_self hg' _) (.inr ⟨hreg, rfl⟩)
  | up a side o _ h => exact hpump side (.up a side o h) rfl rfl
  | down a side o _ _ h => exact hpump side (.down a side o h) rfl rfl
  | shutdown => exact Fate.setTask (.shutdown e.noteExhausted hg rfl rfl rfl) _

theorem Wf.fate_readerStep {b : ReaderAction} (hw : e.Wf) (hs : e.ReaderStep b e')
    (hg : e.gens[j]? = some g) : e.Fate (.read b) e' j g := by
  cases hs with
  | settled f window => exact .settle hg _
  | capability f window =>
    exact .readerControl { e with negotiation := .credit window } hg rfl rfl _
  | opened f peer e' _ _ _ ha => exact .allocate e hg rfl rfl ha
  | unknown | replied => exact .readerControl e hg rfl rfl _
  | aborted f i gi hrd hi hf =>
    rcases hw.fate_finish hi hg f.sid false with ⟨hg', hr⟩ | ⟨rfl, hreg, hg'⟩
    · exact .left hg' hr
    · exact .removed hreg hg' (.inl (.received f hrd hf))
  | applied f i gi side _ hi _ hd =>
    by_cases hj : j = i
    · subst hj
      cases hg.symm.trans hi
      exact .applied f.flags f.payload side rfl hd (getElem?_modify_self hg _) rfl
    · exact .left ((getElem?_modify_ne hj _).trans hg) rfl
  | removed f i gi hrd hi =>
    rcases hw.fate_finish hi hg f.sid false with ⟨hg', hr⟩ | ⟨rfl, hreg, hg'⟩
    · exact .left hg' hr
    · exact .removed hreg hg' (.inl (.refused f hrd))
  | pingFailed => exact .shutdown e hg rfl rfl rfl
  | _ => exact .left hg rfl

/-- **One lemma for every step**: the fate of a generation that is there. -/
theorem Wf.fate_step (hw : e.Wf) (hs : e.step a = some e') (hg : e.gens[j]? = some g) :
    e.Fate a e' j g := by
  cases step_spec hs with
  | fetched | unprepared => exact .left hg rfl
  | prepared k p target e' _ _ ha =>
    exact .allocate { e with opens := e.opens.eraseIdx k } hg rfl rfl ha
  | task i gi b e' hi hs => exact hw.fate_taskStep hi (taskStep_spec hs) hg
  | read b e' _ hs => exact hw.fate_readerStep hs hg
  | write b e' _ hs =>
    rw [writerStep_eq hs]
    exact .left hg rfl
  | timeout => exact .settle hg _
  | stop => exact .shutdown e hg rfl rfl rfl

/-- For one generation after a step: it was there and has moved, or the step has created it. -/
theorem Wf.gen_step {g' : Gen} (hw : e.Wf) (hs : e.step a = some e') (hg' : e'.gens[i]? = some g') :
    (∃ g, e.gens[i]? = some g ∧ g'.sid = g.sid ∧ g.side.Moves g'.side) ∨
    (i = e.gens.length ∧ e.Creation a g' ∧ e.Adds e' g') := by
  rcases gens_step hs with hsids | ⟨g, hcr, hadd⟩
  · have hlt : i < e.gens.length := by
      rw [← length_of_sids hsids]
      exact (List.getElem?_eq_some_iff.mp hg').1
    have hg := List.getElem?_eq_getElem hlt
    obtain ⟨side, task, hg₁, hm, -⟩ := (hw.fate_step hs hg).kept
    cases hg'.symm.trans hg₁
    exact .inl ⟨_, hg, rfl, hm⟩
  · rw [hadd.gens] at hg'
    rcases getElem?_append_one hg' with hg | ⟨rfl, rfl⟩
    · exact .inl ⟨g', hg, rfl, .same⟩
    · exact .inr ⟨rfl, hcr, hadd⟩

/-- **A step adds at most to what was there**: the generations stay, and the registry gains none of
them. -/
structure Grows (e e' : Endpoint) : Prop where
  gens : Extends e.gens e'.gens
  registered : ∀ j < e.gens.length, e'.registered j = true → e.registered j = true
  client : e'.client = e.client
  window : e'.window = e.window

theorem Wf.grows (hw : e.Wf) (hs : e.step a = some e') : e.Grows e' := by
  have hconfig : e'.client = e.client ∧ e'.window = e.window := by
    rcases rest_step hs with heq | ⟨_, _, -, -, -, rfl⟩ | ⟨k, -, heq⟩ | ⟨b, -, hws⟩
    · exact ⟨congrArg Rest.client heq, congrArg Rest.window heq⟩
    · exact ⟨rfl, rfl⟩
    · exact ⟨congrArg Rest.client heq, congrArg Rest.window heq⟩
    · rw [writerStep_eq hws]
      exact ⟨rfl, rfl⟩
  refine ⟨fun j g hg => ?_, fun j hj hreg => ?_, hconfig.1, hconfig.2⟩
  · obtain ⟨side, task, hg', hm, -⟩ := (hw.fate_step hs hg).kept
    exact ⟨_, hg', hm.keeps (hw.sides j g hg) task⟩
  · obtain ⟨-, -, -, -, hr | ⟨hr, -⟩⟩ := (hw.fate_step hs (List.getElem?_eq_getElem hj)).kept
    · exact hr ▸ hreg
    · exact hr

end Endpoint

/-! ## 4. Late actions do not hurt a new generation -/

section Late

variable {e e' : Endpoint} {i j sid : Nat} {g : Gen} {r : Rec}

theorem Endpoint.Wf.epochOf_inj (h : e.Wf) {sid' : Nat} (hi : IsGen e.gens sid i)
    (hj : IsGen e.gens sid' j) (heq : e.epochOf i = e.epochOf j) : i = j := by
  obtain ⟨g, hg, -⟩ := hi
  obtain ⟨g', hg', -⟩ := hj
  simp only [Endpoint.epochOf, hg, hg', Option.map_some, Option.some.injEq] at heq
  exact h.epoch_inj hg hg' heq

/-- **What the writer passes on.**  A record other than a reset: its own output was valid when the
writer looked its id up, and no other generation was registered.  A reset: no generation was
registered, or its own. -/
structure PassedOk (r : Rec) (current : Option Nat) (valid : Bool) : Prop where
  record : r.msg ≠ .rst → valid = true ∧ (current = none ∨ current = r.gen)
  reset : r.msg = .rst → current = none ∨ (current = r.gen ∧ r.gen ≠ none)

theorem Endpoint.Wf.passed_ok {n : Nat} {c : Option Nat} {v : Bool} (h : e.Wf)
    (hw : e.writer = .looked n r c v) (hd : e.drops r c = false) : PassedOk r c v := by
  have hl := h.writer n r c v hw
  have hr := h.recs r (Endpoint.holdsRec_hand (by simp [hw, WriterPhase.hand]))
  constructor
  · intro hrst
    simp only [Endpoint.drops, hrst, if_false] at hd
    cases hgen : r.gen with
    | none =>
      refine ⟨hl.valid (by simp [Endpoint.outputValid, hgen]), Or.inl ?_⟩
      -- a capability: no stream has its id
      cases c with
      | none => rfl
      | some c =>
        obtain ⟨g, hg, hsid⟩ := hl.current c rfl
        rcases hr.none hgen with hmsg | h0
        · exact absurd hmsg hrst
        · exact absurd (hsid.trans h0) (h.sids c g hg)
    | some i =>
      rw [hgen] at hd
      simp only [Bool.or_eq_false_iff, Bool.not_eq_false'] at hd
      refine ⟨hl.valid hd.1, ?_⟩
      cases c with
      | none => exact Or.inl rfl
      | some c =>
        have hep : e.epochOf c = e.epochOf i := by simpa using hd.2
        rw [h.epochOf_inj (hl.current c rfl) (hr.gen i hgen) hep]
        exact Or.inr rfl
  · intro hrst
    simp only [Endpoint.drops, hrst, if_true] at hd
    cases c with
    | none => exact Or.inl rfl
    | some c =>
      cases hgen : r.gen with
      | none => rw [hgen] at hd; cases hd
      | some i =>
        rw [hgen] at hd
        have hep : e.epochOf i = e.epochOf c := by simpa using hd
        rw [h.epochOf_inj (hr.gen i hgen) (hl.current c rfl) hep]
        exact Or.inr ⟨rfl, by simp⟩

/-- Generation `j` and its place in the registry are the same in both states. -/
def SameGen (e e' : Endpoint) (j : Nat) : Prop :=
  e'.gens[j]? = e.gens[j]? ∧ ∀ sid, e'.get sid = some j ↔ e.get sid = some j

theorem Endpoint.Wf.get_iff (h : e.Wf) (hg : e.gens[j]? = some g) :
    e.get sid = some j ↔ g.sid = sid ∧ e.registered j = true := by
  constructor
  · intro hget
    obtain ⟨g', hg', hsid⟩ := h.isGen_of_get hget
    cases hg.symm.trans hg'
    exact ⟨hsid, Endpoint.registered_of_get hget⟩
  · rintro ⟨rfl, hreg⟩
    obtain ⟨⟨s, k⟩, hmem, hk⟩ := List.any_eq_true.mp hreg
    obtain rfl : k = j := of_decide_eq_true hk
    obtain ⟨g', hg', hsid⟩ := h.streams _ hmem
    cases hg.symm.trans hg'
    exact h.get_of_mem (hsid ▸ hmem)

/-- **The task of a generation touches no other**, unless it shuts the session down. -/
theorem Endpoint.Wf.task_same {a : TaskAction} (h : e.Wf) (hs : e.step (.task i a) = some e')
    (hc : e'.closed = e.closed) (hj : j ≠ i) : SameGen e e' j := by
  have hw' := h.step hs
  cases hg : e.gens[j]? with
  | none =>
    have hg' : e'.gens[j]? = none := by
      rcases Endpoint.gens_step hs with hsids | ⟨_, hcr, -⟩
      · rw [List.getElem?_eq_none_iff] at hg ⊢
        rw [length_of_sids hsids]
        exact hg
      · cases hcr
    refine ⟨hg'.trans hg.symm, fun sid => ⟨fun hget => ?_, fun hget => ?_⟩⟩
    · obtain ⟨g, hsome, -⟩ := hw'.isGen_of_get hget
      cases hg'.symm.trans hsome
    · obtain ⟨g, hsome, -⟩ := h.isGen_of_get hget
      cases hg.symm.trans hsome
  | some g =>
    cases h.fate_step hs hg with
    | left hg' hr => exact ⟨hg'.trans hg.symm, fun sid => by rw [hw'.get_iff hg', h.get_iff hg, hr]⟩
    | own _ _ _ ha =>
      cases ha
      exact absurd rfl hj
    | applied _ _ _ ha => cases ha
    | removed hreg _ why =>
      rcases why with hdep | hclosed
      · cases hdep
        exact absurd rfl hj
      · -- a session that was shut down already has nothing to cancel
        rw [Endpoint.registered, h.closed (hc.symm.trans hclosed)] at hreg
        cases hreg

/-- **Generation safety.**  `stale`: a `finish` with an epoch other than the registered one changes
nothing.  `task`: whatever the task of one generation does, however late, no other generation is
unregistered, cancelled or changed, unless the task shuts the whole session down.  `passed`: what
the writer passes on, it passed the test against what was registered when it looked.  `epochs`: no
two generations have the same epoch. -/
structure Endpoint.GenerationSafe (e : Endpoint) : Prop where
  stale : ∀ sid epoch preserve, (∀ i, e.get sid = some i → e.epochOf i ≠ some epoch) →
    e.finish sid epoch preserve = (e, false)
  task : ∀ i a e', e.step (.task i a) = some e' → e'.closed = e.closed → ∀ j, j ≠ i → SameGen e e' j
  passed : ∀ e', e.step (.write .pass) = some e' → ∀ n r current valid,
    e.writer = .looked n r current valid → e'.wire = e.wire ++ [r] → PassedOk r current valid
  epochs : ∀ (i j : Nat) (g g' : Gen), e.gens[i]? = some g → e.gens[j]? = some g' →
    g.epoch = g'.epoch → i = j

/-- **Every state that an endpoint can reach is generation safe**, whatever its peer sends and
however its tasks, its reader and its writer interleave. -/
theorem generation_safety {client : Bool} {window : MuxWindow} {chunk : ChunkSize} {e : Endpoint}
    (h : Reachable Endpoint.step (Endpoint.new client window chunk) e) : e.GenerationSafe := by
  have hwf := Endpoint.Wf.reachable h
  refine ⟨fun sid epoch preserve hst => ?_, fun i a e' hs hc j hj => ?_,
    fun e' hs n r c v hw hwire => ?_, fun i j g g' hi hj heq => hwf.epoch_inj hi hj heq⟩
  · rcases e.finish_cases sid epoch preserve with ⟨heq, -⟩ | ⟨i, hget, hep, -⟩
    · exact heq
    · exact absurd hep (hst i hget)
  · exact hwf.task_same hs hc hj
  · cases hd : e.drops r c with
    | false => exact hwf.passed_ok hw hd
    | true =>
      simp only [Endpoint.step] at hs
      split at hs
      · simp only [Endpoint.writerStep, hw, hd, if_true] at hs
        cases hs
        have := congrArg List.length hwire
        simp at this
      · cases hs

/-- A peer opens id 1, resets it while a `DATA` record of it is queued, and opens it again; then the
writer takes the old record and looks the id up. -/
def reusedId : List Action :=
  let target : Bytes := [1, 10, 0, 0, 1, 0, 80]
  [.read (.receive ⟨1, flagOpen, target⟩), .task 0 .connected, .task 0 (.up (.readSocket [9])),
    .task 0 (.up .takeCredit), .task 0 (.up .acquire), .task 0 (.up .emit),
    .read (.receive ⟨1, flagRst, []⟩), .read .apply, .read (.receive ⟨1, flagOpen, target⟩),
    .write .selectOutput, .write .lookup]

theorem generation_safety_reused_id :
    let start := Endpoint.new false ⟨1, by decide, by decide⟩ ⟨1024, by decide, by decide⟩
    (Lts.run Endpoint.step start reusedId).map Endpoint.writer =
        some (.looked 0 ⟨1, .data [9], some 0⟩ (some 1) false) ∧
      ∀ e, Lts.run Endpoint.step start reusedId = some e → e.GenerationSafe :=
  ⟨rfl, fun _ he => generation_safety (Reachable.of_run he)⟩

end Late

end BibaVpn.Mux
