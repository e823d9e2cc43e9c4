/-
# One id at one endpoint

An endpoint carries many streams, and its lanes, its reader and its writer are shared by all of
them.  `Endpoint.strand e sid` is what it holds under ONE id: the generation, whether it is
registered, its records in the output lane, in the control lane and on the wire, and the reader's
business with it.  A record in the writer's hand is counted at the front of the lane it came from.

* §1 is the projection;
* §2 is how the operations of an endpoint show in it;
* §3 is what an id can see of a task or of the writer (`Strand.Step`);
* §4 is what it can see of the reader: it takes a record (`Endpoint.Takes`) and applies it later
  (`Strand.Apply`);
* §5 is the frame rule: whatever an endpoint does, an id sees one of these.

An id that is used twice would have two generations in one strand; everything here is under the
hypothesis that it is not (`Endpoint.Solo`).
-/
import BibaVpn.Mux.Resets

namespace BibaVpn.Mux

open Machine

/-! ## 1. The projection -/

def Output.rec? : Output → Option Rec
  | .record r => some r
  | .pong _ => none

/-- The records of one id. -/
def msgsOf (sid : Nat) (rs : List Rec) : List Msg :=
  rs.filterMap fun r => if r.sid = sid then some r.msg else none

/-- The id that the reader is busy with. -/
def ReaderPhase.about : ReaderPhase → Option Nat
  | .idle => none
  | .got f _ => some f.sid
  | .refused f _ => some f.sid
  | .rejecting sid => some sid
  | .resetting sid _ => some sid

/-- What an endpoint holds under one id. -/
@[ext] structure Strand where
  gen : Option Gen
  registered : Bool
  out : List Msg
  ctl : List Msg
  wire : List Msg
  reader : ReaderPhase

/-- The records of the control lane. -/
def Endpoint.controlRecs (e : Endpoint) : List Rec := e.control.filterMap Output.rec?

def ReaderPhase.onlyFor (p : ReaderPhase) (sid : Nat) : ReaderPhase :=
  if p.about = some sid then p else .idle

def Endpoint.strand (e : Endpoint) (sid : Nat) : Strand where
  gen := e.gens.find? fun g => g.sid = sid
  registered := (e.get sid).isSome
  out := (msgsOf sid e.writer.hand).filter Msg.isOutput ++ msgsOf sid e.output
  ctl := (msgsOf sid e.writer.hand).filter (fun m => !m.isOutput) ++ msgsOf sid e.controlRecs
  wire := msgsOf sid e.wire
  reader := e.reader.onlyFor sid

/-- Nothing is held under the id. -/
def Strand.empty : Strand := ⟨none, false, [], [], [], .idle⟩

/-- No id has two generations. -/
def Endpoint.Solo (e : Endpoint) : Prop := (e.gens.map Gen.sid).Nodup

@[simp] theorem msgsOf_nil (sid : Nat) : msgsOf sid [] = [] := rfl

@[simp] theorem msgsOf_append (sid : Nat) (rs rs' : List Rec) :
    msgsOf sid (rs ++ rs') = msgsOf sid rs ++ msgsOf sid rs' := List.filterMap_append

theorem msgsOf_cons_self (r : Rec) (rs : List Rec) :
    msgsOf r.sid (r :: rs) = r.msg :: msgsOf r.sid rs := by simp [msgsOf]

variable {sid : Nat} {gs : List Gen} {g : Gen}

theorem msgsOf_cons_ne {r : Rec} (h : r.sid ≠ sid) (rs : List Rec) :
    msgsOf sid (r :: rs) = msgsOf sid rs := by simp [msgsOf, h]

/-- What one generation hands over is all of its own id. -/
theorem msgsOf_own (sid i : Nat) (ms : List Msg) :
    msgsOf sid (ms.map fun m => Rec.mk sid m (some i)) = ms := by
  induction ms with
  | nil => rfl
  | cons m ms ih => simp only [List.map_cons, msgsOf_cons_self ⟨sid, m, some i⟩, ih]

theorem msgsOf_other {sid' : Nat} (h : sid' ≠ sid) (i : Nat) (ms : List Msg) :
    msgsOf sid (ms.map fun m => Rec.mk sid' m (some i)) = [] := by
  induction ms with
  | nil => rfl
  | cons m ms ih =>
    rw [List.map_cons, msgsOf_cons_ne h]
    exact ih

theorem ReaderPhase.onlyFor_of_about {p : ReaderPhase} (h : p.about = some sid) :
    p.onlyFor sid = p := by simp [ReaderPhase.onlyFor, h]

theorem ReaderPhase.onlyFor_of_ne {p : ReaderPhase} (h : p.about ≠ some sid) :
    p.onlyFor sid = .idle := by simp [ReaderPhase.onlyFor, h]

theorem ReaderPhase.about_ne {p : ReaderPhase} {sid' : Nat} (hp : p.about = some sid')
    (hne : sid' ≠ sid) : p.about ≠ some sid :=
  fun heq => hne (Option.some.inj (hp.symm.trans heq))

@[simp] theorem ReaderPhase.onlyFor_idle (sid : Nat) : ReaderPhase.idle.onlyFor sid = .idle := rfl

/-! ## 2. The operations, seen from one id -/

/-- Under one id there is one index. -/
theorem index_unique (hn : (gs.map Gen.sid).Nodup) {i j : Nat} {g' : Gen} (hi : gs[i]? = some g)
    (hj : gs[j]? = some g') (hsid : g.sid = g'.sid) : i = j := by
  have hlt : i < (gs.map Gen.sid).length := by
    rw [List.length_map]
    exact (List.getElem?_eq_some_iff.mp hi).1
  refine (List.getElem?_inj hlt hn).mp ?_
  rw [List.getElem?_map, List.getElem?_map, hi, hj, Option.map_some, Option.map_some, hsid]

theorem find_gen_iff (hn : (gs.map Gen.sid).Nodup) :
    gs.find? (fun g => g.sid = sid) = some g ↔ ∃ i : Nat, gs[i]? = some g ∧ g.sid = sid := by
  constructor
  · intro h
    obtain ⟨i, hi⟩ := List.mem_iff_getElem?.mp (List.mem_of_find?_eq_some h)
    exact ⟨i, hi, by simpa using List.find?_some h⟩
  · rintro ⟨i, hi, hsid⟩
    have hsome : (gs.find? fun g => g.sid = sid).isSome := by
      rw [List.find?_isSome]
      exact ⟨g, List.mem_of_getElem? hi, by simpa using hsid⟩
    obtain ⟨g', hg'⟩ := Option.isSome_iff_exists.mp hsome
    obtain ⟨j, hj⟩ := List.mem_iff_getElem?.mp (List.mem_of_find?_eq_some hg')
    have hsid' : g'.sid = sid := by simpa using List.find?_some hg'
    have hij := index_unique hn hi hj (hsid.trans hsid'.symm)
    rw [hij, hj] at hi
    cases hi
    exact hg'

theorem find_gen_none : gs.find? (fun g => g.sid = sid) = none ↔ ∀ g ∈ gs, g.sid ≠ sid := by
  simp [List.find?_eq_none]

/-- Changing one generation shows under its own id only. -/
theorem find_gen_modify (hn : (gs.map Gen.sid).Nodup) {i : Nat} (hg : gs[i]? = some g)
    {f : Gen → Gen} (hf : ∀ g, (f g).sid = g.sid) (sid : Nat) :
    (gs.modify i f).find? (fun g => g.sid = sid) =
      if g.sid = sid then some (f g) else gs.find? fun g => g.sid = sid := by
  have hn' : ((gs.modify i f).map Gen.sid).Nodup := by rw [Lists.map_modify hf]; exact hn
  split
  · rename_i hsid
    exact (find_gen_iff hn').mpr ⟨i, getElem?_modify_self hg f, (hf g).trans hsid⟩
  · rename_i hsid
    refine Option.ext fun x => ?_
    rw [find_gen_iff hn', find_gen_iff hn]
    refine exists_congr fun j => and_congr_left fun hx => ?_
    by_cases hj : j = i
    · subst hj
      rw [getElem?_modify_self hg, hg]
      simp only [Option.some.injEq]
      constructor
      · rintro rfl
        exact absurd ((hf g).symm.trans hx) hsid
      · rintro rfl
        exact absurd hx hsid
    · rw [getElem?_modify_ne hj]

/-- The steps that cancel every registered stream. -/
def Strand.shut (s : Strand) : Strand :=
  if s.registered then { s with gen := s.gen.map (Gen.cancel false), registered := false } else s

theorem Strand.shut_of_not_registered {s : Strand} (h : s.registered = false) : s.shut = s := by
  simp [Strand.shut, h]

theorem Strand.shut_eq (s : Strand) : s.shut = { s with
    gen := s.gen.map fun g => if s.registered then Gen.cancel false g else g
    registered := false } := by
  obtain ⟨gen, reg, out, ctl, wire, reader⟩ := s
  cases reg <;> simp [Strand.shut]

theorem Strand.shut_reader (s : Strand) : s.shut.reader = s.reader := by
  rw [Strand.shut_eq]

namespace Endpoint

variable {e : Endpoint} {f : Gen → Gen} {i sid : Nat}

/-- A strand reads these parts of the endpoint and no others. -/
theorem strand_congr {e e' : Endpoint} (hg : e'.gens = e.gens) (hs : e'.streams = e.streams)
    (ho : e'.output = e.output) (hc : e'.control = e.control) (hw : e'.wire = e.wire)
    (hwr : e'.writer.hand = e.writer.hand) (hr : e'.reader = e.reader) (sid : Nat) :
    e'.strand sid = e.strand sid := by
  simp only [strand, get, controlRecs, hg, hs, ho, hc, hw, hwr, hr]

theorem strand_modify (hn : e.Solo) {g : Gen} (hg : e.gens[i]? = some g)
    (hf : ∀ g, (f g).sid = g.sid) (sid : Nat) :
    strand { e with gens := e.gens.modify i f } sid =
      if g.sid = sid then { e.strand sid with gen := some (f g) } else e.strand sid := by
  have hfind := find_gen_modify hn hg hf sid
  split
  · rename_i hsid
    rw [if_pos hsid] at hfind
    exact Strand.ext hfind rfl rfl rfl rfl rfl
  · rename_i hsid
    rw [if_neg hsid] at hfind
    exact Strand.ext hfind rfl rfl rfl rfl rfl

theorem strand_pushOutput (e : Endpoint) (rs : List Rec) (sid : Nat) :
    strand { e with output := e.output ++ rs } sid =
      { e.strand sid with out := (e.strand sid).out ++ msgsOf sid rs } := by
  simp only [strand, msgsOf_append, List.append_assoc]
  rfl

theorem strand_pushControl (e : Endpoint) (os : List Output) (sid : Nat) :
    strand { e with control := e.control ++ os } sid =
      { e.strand sid with ctl := (e.strand sid).ctl ++ msgsOf sid (os.filterMap Output.rec?) } := by
  simp only [strand, controlRecs, List.filterMap_append, msgsOf_append,
    List.append_assoc]
  rfl

theorem strand_setReader (e : Endpoint) (p : ReaderPhase) (sid : Nat) :
    strand { e with reader := p } sid = { e.strand sid with reader := p.onlyFor sid } := rfl

theorem strand_setReader_own (e : Endpoint) {p : ReaderPhase} (hp : p.about = some sid) :
    strand { e with reader := p } sid = { e.strand sid with reader := p } := by
  rw [strand_setReader e p sid, ReaderPhase.onlyFor_of_about hp]

theorem strand_reader {p : ReaderPhase} (hr : e.reader = p) (hp : p.about = some sid) :
    (e.strand sid).reader = p :=
  (congrArg (ReaderPhase.onlyFor · sid) hr).trans (ReaderPhase.onlyFor_of_about hp)

theorem strand_idle (hr : e.reader.about ≠ some sid) :
    { e.strand sid with reader := .idle } = e.strand sid :=
  Strand.ext rfl rfl rfl rfl rfl (ReaderPhase.onlyFor_of_ne hr).symm

/-- The reader turns from one other id to another, or rests. -/
theorem strand_setReader_other {p : ReaderPhase} (hp : p.about ≠ some sid)
    (hr : e.reader.about ≠ some sid) : strand { e with reader := p } sid = e.strand sid := by
  rw [strand_setReader e p sid, ReaderPhase.onlyFor_of_ne hp, strand_idle hr]

/-- The generation that a strand shows. -/
theorem strand_gen_iff (hn : e.Solo) {g : Gen} :
    (e.strand sid).gen = some g ↔ ∃ i : Nat, e.gens[i]? = some g ∧ g.sid = sid := find_gen_iff hn

theorem strand_gen_self (hn : e.Solo) {g : Gen} (hg : e.gens[i]? = some g) :
    (e.strand g.sid).gen = some g := (strand_gen_iff hn).mpr ⟨i, hg, rfl⟩

/-- With one generation to an id, the registered one is it. -/
theorem Wf.get_own (h : e.Wf) (hn : e.Solo) {i j : Nat} {g : Gen} (hg : e.gens[i]? = some g)
    (hget : e.get g.sid = some j) : j = i := by
  obtain ⟨g', hg', hsid⟩ := h.isGen_of_get hget
  exact index_unique hn hg' hg hsid

/-- `registered` of the endpoint is `registered` of the strand. -/
theorem Wf.registered_iff (h : e.Wf) (hn : e.Solo) {g : Gen} (hg : e.gens[i]? = some g) :
    e.registered i = (e.strand g.sid).registered := by
  rw [Bool.eq_iff_iff]
  simp only [registered, List.any_eq_true, decide_eq_true_eq, strand]
  constructor
  · rintro ⟨⟨s, j⟩, hm, rfl⟩
    obtain ⟨g', hg', hsid⟩ := h.streams _ hm
    rw [hg] at hg'
    cases hg'
    have hm' : (g.sid, j) ∈ e.streams := by rw [hsid]; exact hm
    rw [h.get_of_mem hm']
    rfl
  · intro hs
    obtain ⟨j, hj⟩ := Option.isSome_iff_exists.mp hs
    have hji := h.get_own hn hg hj
    subst hji
    exact ⟨(g.sid, j), mem_of_get hj, rfl⟩

/-- The ids stay, one to a generation, when no generation is added. -/
theorem Solo.of_sids {e' : Endpoint} (hn : e.Solo) (h : e'.gens.map Gen.sid = e.gens.map Gen.sid) :
    e'.Solo := by
  unfold Endpoint.Solo
  rw [h]
  exact hn

/-- **`finish` of a generation, seen from one id**: it removes the stream exactly if it is
registered, and only under its own id. -/
theorem Wf.strand_finish (h : e.Wf) (hn : e.Solo) {g : Gen} (hg : e.gens[i]? = some g)
    (preserve : Bool) (sid : Nat) :
    (e.finish g.sid g.epoch preserve).2 = (e.strand g.sid).registered ∧
    (e.finish g.sid g.epoch preserve).1.strand sid =
      if g.sid = sid ∧ (e.strand g.sid).registered = true then
        { e.strand sid with gen := some (Gen.cancel preserve g), registered := false }
      else e.strand sid := by
  rcases e.finish_cases g.sid g.epoch preserve with ⟨heq, hno⟩ | ⟨j, hget, -, heq⟩
  · have hreg : (e.strand g.sid).registered = false := by
      cases hget : e.get g.sid with
      | none => simp [strand, hget]
      | some j =>
        have hj := h.get_own hn hg hget
        subst hj
        exact absurd (by simp [epochOf, hg]) (hno j hget)
    rw [heq]
    exact ⟨hreg.symm, by simp [hreg]⟩
  · have hj := h.get_own hn hg hget
    subst hj
    have hreg : (e.strand g.sid).registered = true := by simp [strand, hget]
    rw [heq]
    refine ⟨hreg.symm, ?_⟩
    have hfind := find_gen_modify hn hg (f := Gen.cancel preserve) (fun _ => rfl) sid
    have hget' : ∀ gs, get { e with
        streams := e.streams.filter fun s => s.1 ≠ g.sid, gens := gs } sid =
        if sid = g.sid then none else e.get sid := fun _ => h.lookup_filter g.sid sid
    by_cases hsid : g.sid = sid
    · rw [if_pos hsid] at hfind
      rw [if_pos ⟨hsid, hreg⟩]
      refine Strand.ext hfind ?_ rfl rfl rfl rfl
      show (get _ sid).isSome = false
      rw [hget', if_pos hsid.symm]
      rfl
    · rw [if_neg hsid] at hfind
      rw [if_neg fun hc => hsid hc.1]
      refine Strand.ext hfind ?_ rfl rfl rfl rfl
      show (get _ sid).isSome = (e.get sid).isSome
      rw [hget', if_neg (Ne.symm hsid)]

theorem settle_eq (e : Endpoint) (n : Negotiation) :
    ∃ n', e.settle n = { e with negotiation := n' } := by
  unfold settle
  split
  · exact ⟨n, rfl⟩
  · exact ⟨e.negotiation, rfl⟩

/-- **`shutdown`, seen from one id.** -/
theorem Wf.strand_shutdown (h : e.Wf) (hn : e.Solo) (sid : Nat) :
    e.shutdown.strand sid = (e.strand sid).shut := by
  obtain ⟨n', heq⟩ := settle_eq { e with
    closed := true, streams := []
    gens := e.gens.mapIdx fun i g => if e.registered i then Gen.cancel false g else g } .legacy
  have hsolo : e.shutdown.Solo := hn.of_sids e.sids_shutdown
  have hgen : (e.shutdown.strand sid).gen = (e.strand sid).gen.map fun g =>
      if (e.strand sid).registered then Gen.cancel false g else g := by
    refine Option.ext fun x => ?_
    rw [Option.map_eq_some_iff, strand_gen_iff hsolo, gens_shutdown]
    simp only [List.getElem?_mapIdx, Option.map_eq_some_iff]
    constructor
    · rintro ⟨i, ⟨g, hg, rfl⟩, hsid⟩
      have hsid' : g.sid = sid := by
        rw [← hsid]
        split <;> rfl
      subst hsid'
      exact ⟨g, strand_gen_self hn hg, by rw [h.registered_iff hn hg]⟩
    · rintro ⟨g, hg, rfl⟩
      obtain ⟨i, hi, rfl⟩ := (strand_gen_iff hn).mp hg
      refine ⟨i, ⟨g, hi, by rw [h.registered_iff hn hi]⟩, ?_⟩
      split <;> rfl
  rw [Strand.shut_eq]
  refine Strand.ext hgen ?_ ?_ ?_ ?_ ?_ <;> unfold Endpoint.shutdown <;> rw [heq] <;> rfl

theorem Wf.strand_stop (h : e.Wf) (hn : e.Solo) (sid : Nat) :
    e.stop.strand sid = (e.strand sid).shut :=
  (strand_congr rfl rfl rfl rfl rfl rfl rfl sid).trans (h.strand_shutdown hn sid)

theorem strand_setTask (hn : e.Solo) {g : Gen} (hg : e.gens[i]? = some g) (task : Task)
    (sid : Nat) : (e.setTask i task).strand sid =
      if g.sid = sid then { e.strand sid with gen := some { g with task := task } }
      else e.strand sid :=
  strand_modify hn hg (f := fun g => { g with task := task }) (fun _ => rfl) sid

theorem strand_setSide (hn : e.Solo) {g : Gen} (hg : e.gens[i]? = some g) (side : Side)
    (sid : Nat) : (e.setSide i side).strand sid =
      if g.sid = sid then { e.strand sid with gen := some { g with side := side } }
      else e.strand sid :=
  strand_modify hn hg (f := fun g => { g with side := side }) (fun _ => rfl) sid

/-- `finish` cancels its generation if that was registered. -/
theorem Wf.gens_finish (h : e.Wf) (hn : e.Solo) {g : Gen} (hg : e.gens[i]? = some g)
    (preserve : Bool) :
    (e.finish g.sid g.epoch preserve).1.gens[i]? =
      some (if (e.strand g.sid).registered then Gen.cancel preserve g else g) := by
  obtain ⟨hflag, -⟩ := h.strand_finish hn hg preserve g.sid
  rw [← hflag]
  rcases e.finish_cases g.sid g.epoch preserve with ⟨heq, -⟩ | ⟨j, hget, -, heq⟩
  · rw [heq]
    exact hg
  · have hj := h.get_own hn hg hget
    subst hj
    rw [heq]
    exact getElem?_modify_self hg _

/-- One generation changes, and hands records over to its output lane. -/
theorem strand_emit (hn : e.Solo) {g : Gen} (hg : e.gens[i]? = some g)
    (hf : ∀ g, (f g).sid = g.sid) (ms : List Msg) (sid : Nat) :
    strand { e with
      gens := e.gens.modify i f
      output := e.output ++ ms.map fun m => Rec.mk g.sid m (some i) } sid =
    if g.sid = sid then { e.strand sid with gen := some (f g), out := (e.strand sid).out ++ ms }
    else e.strand sid := by
  have hpush := strand_pushOutput { e with gens := e.gens.modify i f }
    (ms.map fun m => Rec.mk g.sid m (some i)) sid
  refine hpush.trans ?_
  rw [strand_modify hn hg hf]
  split
  · rename_i hsid
    rw [← hsid, msgsOf_own]
  · rename_i hsid
    rw [msgsOf_other hsid, List.append_nil]

/-- One generation changes, and queues records in the control lane. -/
theorem strand_signal (hn : e.Solo) {g : Gen} (hg : e.gens[i]? = some g)
    (hf : ∀ g, (f g).sid = g.sid) (ms : List Msg) (sid : Nat) :
    strand { e with
      gens := e.gens.modify i f
      control := e.control ++ ms.map fun m => .record (Rec.mk g.sid m (some i)) } sid =
    if g.sid = sid then { e.strand sid with gen := some (f g), ctl := (e.strand sid).ctl ++ ms }
    else e.strand sid := by
  have hpush := strand_pushControl { e with gens := e.gens.modify i f }
    (ms.map fun m => .record (Rec.mk g.sid m (some i))) sid
  have hrecs : (ms.map fun m => Output.record (Rec.mk g.sid m (some i))).filterMap Output.rec? =
      ms.map fun m => Rec.mk g.sid m (some i) := by
    rw [List.filterMap_map]
    exact congrFun List.filterMap_eq_map ms
  refine hpush.trans ?_
  rw [strand_modify hn hg hf, hrecs]
  split
  · rename_i hsid
    rw [← hsid, msgsOf_own]
  · rename_i hsid
    rw [msgsOf_other hsid, List.append_nil]

end Endpoint

/-! ## 3. The steps of one id -/

/-- The reader has no record of this id in its hands. -/
def ReaderPhase.emptyHanded : ReaderPhase → Prop
  | .got _ _ => False
  | .refused _ _ => False
  | _ => True

/-- **What an id can see of a step of its endpoint**, short of the reader taking a record or
handling it, and of the stream being opened. -/
inductive Strand.Step (sid : Nat) : Strand → Strand → Prop
  | same (s : Strand) : Step sid s s
  | move (s : Strand) (g : Gen) (task : Task) (hg : s.gen = some g) (h : task ≠ .resetting)
    (ho : task.isOpening = g.task.isOpening) :
    Step sid s { s with gen := some { g with task := task } }
  /-- `OPEN` is handed over -/
  | opened (s : Strand) (g : Gen) (target : Bytes) (hg : s.gen = some g)
    (h : g.task = .opening target true) :
    Step sid s { s with
      gen := some { g with task := .bridging }
      out := s.out ++ [.opening g.side.flow.negotiated target] }
  /-- the task removes the stream -/
  | removed (s : Strand) (g : Gen) (preserve : Bool) (task : Task) (hg : s.gen = some g)
    (hreg : s.registered = true) (hp : preserve = true → g.task = .bridging ∧
      (g.side.flow.cancelled = true ∨ g.joined = true))
    (hr : task = .resetting → preserve = false) (ht : task = .resetting ∨ task = .ended) :
    Step sid s { s with
      gen := some { Gen.cancel preserve g with task := task }, registered := false }
  /-- the stream was removed before -/
  | ended (s : Strand) (g : Gen) (hg : s.gen = some g) (hreg : s.registered = false) :
    Step sid s { s with gen := some { g with task := .ended } }
  | up (s : Strand) (g : Gen) (a : UpAction) (side : Side) (o : Option Msg) (hg : s.gen = some g)
    (h : g.task = .bridging) (hs : g.side.stepUp a = some (side, o)) :
    Step sid s { s with gen := some { g with side := side }, out := s.out ++ o.toList }
  | down (s : Strand) (g : Gen) (a : DownAction) (side : Side) (o : Option Msg)
    (hg : s.gen = some g) (h : g.task = .bridging) (hs : g.side.stepDown a = some (side, o)) :
    Step sid s { s with gen := some { g with side := side }, ctl := s.ctl ++ o.toList }
  | reset (s : Strand) (g : Gen) (hg : s.gen = some g) (h : g.task = .resetting) :
    Step sid s { s with gen := some { g with task := .ended }, ctl := s.ctl ++ [.rst] }
  /-- the reset cannot be queued -/
  | resetFailed (s : Strand) (g : Gen) (hg : s.shut.gen = some g) (h : g.task = .resetting) :
    Step sid s { s.shut with gen := some { g with task := .ended } }
  /-- the session is shut down -/
  | shut (s : Strand) : Step sid s s.shut
  | shutReader (s : Strand) (h : s.reader.emptyHanded) : Step sid s { s.shut with reader := .idle }
  | writeOut (s : Strand) (g : Gen) (m : Msg) (rest : List Msg) (hg : s.gen = some g)
    (hm : m.isOutput = true) (ho : s.out = m :: rest) :
    Step sid s { s with
      out := rest, wire := if g.side.flow.outputValid then s.wire ++ [m] else s.wire }
  | writeOwn (s : Strand) (g : Gen) (m : Msg) (rest : List Msg) (hg : s.gen = some g)
    (hm : m.isOutput = false) (hrst : m ≠ .rst) (hc : s.ctl = m :: rest) :
    Step sid s { s with
      ctl := rest, wire := if g.side.flow.outputValid then s.wire ++ [m] else s.wire }
  | writeRst (s : Strand) (rest : List Msg) (hc : s.ctl = .rst :: rest) :
    Step sid s { s with ctl := rest, wire := s.wire ++ [.rst] }
  | dropRst (s : Strand) (rest : List Msg) (hc : s.ctl = .rst :: rest) :
    Step sid s { s with ctl := rest }
  /-- the reader removes the stream whose record was refused -/
  | reject (s : Strand) (f : Incoming) (i : Nat) (hr : s.reader = .refused f i) :
    Step sid s { s.shut with reader := if s.registered then .resetting sid (some i) else .idle }
  | lookup (s : Strand) (gen : Option Nat) (hr : s.reader = .rejecting sid) :
    Step sid s { s with reader := .resetting sid gen }
  | reply (s : Strand) (gen : Option Nat) (hr : s.reader = .resetting sid gen) :
    Step sid s { s with reader := .idle, ctl := s.ctl ++ [.rst] }

theorem Strand.Step.of_eq {s t t' : Strand} (h : t' = t) (hs : Strand.Step sid s t) :
    Strand.Step sid s t' := h ▸ hs

theorem Strand.Step.unchanged {s t : Strand} (h : t = s) : Strand.Step sid s t := by
  subst h
  exact .same t

/-- A step that shows under one id only. -/
theorem Strand.Step.own {s t : Strand} {p : Prop} [Decidable p] (h : p → Strand.Step sid s t) :
    Strand.Step sid s (if p then t else s) := by
  split
  · exact h ‹p›
  · exact .same s

namespace Endpoint

theorem Wf.strand_taskStep {e e' : Endpoint} {i : Nat} (h : e.Wf) (hn : e.Solo)
    (hg : e.gens[i]? = some g) (hs : e.TaskStep i g e') (sid : Nat) :
    Strand.Step sid (e.strand sid) (e'.strand sid) := by
  have hown : g.sid = sid → (e.strand sid).gen = some g := fun hsid => by
    rw [← hsid]
    exact strand_gen_self hn hg
  cases hs with
  | move task ht ho =>
    rw [strand_setTask hn hg]
    exact .own fun hsid => .move _ g task (hown hsid) ht ho
  | opened target r ht hr =>
    subst hr
    have hemit := strand_emit hn hg (f := fun g => { g with task := .bridging }) (fun _ => rfl)
      [.opening g.side.flow.negotiated target] sid
    exact .of_eq hemit (.own fun hsid => .opened _ g target (hown hsid) ht)
  | finish preserve task hp hr ht =>
    obtain ⟨hflag, hstrand⟩ := h.strand_finish hn hg preserve sid
    rw [strand_setTask (hn.of_sids (e.sids_finish _ _ _)) (h.gens_finish hn hg preserve), hstrand]
    have hsid' : (if (e.strand g.sid).registered then Gen.cancel preserve g else g).sid =
        g.sid := by
      split <;> rfl
    rw [hsid']
    by_cases hsid : g.sid = sid
    · subst hsid
      cases hreg : (e.strand g.sid).registered with
      | true =>
        simp only [if_true, and_self]
        exact .removed _ g preserve task (hown rfl) hreg hp (fun hres => (hr hres).1) ht
      | false =>
        have htask : task = .ended := by
          rcases ht with rfl | rfl
          · rw [hflag, hreg] at hr
            exact absurd (hr rfl).2 (by simp)
          · rfl
        subst htask
        simp only [if_true, Bool.false_eq_true, and_false, if_false]
        exact .ended _ g (hown rfl) hreg
    · simp only [hsid, if_false, false_and]
      exact .same _
  | up a side o ht hstep =>
    have hemit := strand_emit hn hg (f := fun g => { g with side := side }) (fun _ => rfl)
      o.toList sid
    exact .of_eq hemit (.own fun hsid => .up _ g a side o (hown hsid) ht hstep)
  | down a side o exhausted ht hstep =>
    have hsignal := strand_signal hn hg (f := fun g => { g with side := side }) (fun _ => rfl)
      o.toList sid
    exact .of_eq hsignal (.own fun hsid => .down _ g a side o (hown hsid) ht hstep)
  | reset r ht hr =>
    subst hr
    have hsignal := strand_signal hn hg (f := fun g => { g with task := .ended }) (fun _ => rfl)
      [.rst] sid
    exact .of_eq hsignal (.own fun hsid => .reset _ g (hown hsid) ht)
  | shutdown ht =>
    have hnote : e.noteExhausted.Wf := h.congr rfl
    have hshut : e.noteExhausted.shutdown.strand sid = (e.strand sid).shut :=
      hnote.strand_shutdown hn sid
    have hsolo : e.noteExhausted.shutdown.Solo := hn.of_sids e.noteExhausted.sids_shutdown
    obtain ⟨g', hg', ht'⟩ : ∃ g' : Gen, e.noteExhausted.shutdown.gens[i]? = some g' ∧
        g'.task = .resetting := by
      refine ⟨if e.noteExhausted.registered i then Gen.cancel false g else g, ?_, ?_⟩
      · rw [gens_shutdown, List.getElem?_mapIdx]
        show (e.gens[i]?).map _ = _
        rw [hg]
        rfl
      · split <;> exact ht
    rw [strand_setTask hsolo hg']
    by_cases hsid : g'.sid = sid
    · rw [if_pos hsid, hshut]
      refine .resetFailed _ g' ?_ ht'
      rw [← hshut, ← hsid]
      exact strand_gen_self hsolo hg'
    · rw [if_neg hsid, hshut]
      exact .shut _

/-- **With one generation to an id, the writer drops a record exactly if the output of the
generation is not valid**; resets apart. -/
theorem Wf.drops_eq {e : Endpoint} {n : Nat} {r : Rec} {c : Option Nat} {v : Bool} (h : e.Wf)
    (hn : e.Solo) (hw : e.writer = .looked n r c v) (h0 : r.sid ≠ 0) (hrst : r.msg ≠ .rst) :
    ∃ g, (e.strand r.sid).gen = some g ∧ e.drops r c = !g.side.flow.outputValid := by
  have hok := h.recs r (holdsRec_hand (by rw [hw]; exact List.mem_singleton_self r))
  cases hgen : r.gen with
  | none => exact ((hok.none hgen).elim hrst h0).elim
  | some i =>
    obtain ⟨g, hg, hsid⟩ := hok.gen i hgen
    refine ⟨g, (strand_gen_iff hn).mpr ⟨i, hg, hsid⟩, ?_⟩
    have hvalid : e.outputValid r = g.side.flow.outputValid := by
      simp [outputValid, hgen, hg]
    have hcurrent : ∀ k, c = some k → k = i := fun k hk => by
      obtain ⟨g', hg', hsid'⟩ := (h.writer n r c v hw).current k hk
      exact index_unique hn hg' hg (hsid'.trans hsid.symm)
    unfold drops
    rw [if_neg hrst]
    simp only [hgen, hvalid]
    cases c with
    | none => simp
    | some k =>
      rw [hcurrent k rfl]
      simp

section Hand

variable {e : Endpoint} {r : Rec} {sid : Nat}

/-- The lanes of an id when the writer has a record of another one in its hand. -/
theorem lanes_of_other (hw : e.writer.hand = [r]) (hsid : r.sid ≠ sid) :
    (e.strand sid).out = msgsOf sid e.output ∧ (e.strand sid).ctl = msgsOf sid e.controlRecs := by
  simp [strand, hw, msgsOf_cons_ne hsid]

/-- The lanes of an id when the writer has one of its records in its hand. -/
theorem lanes_of_own (hw : e.writer.hand = [r]) :
    (e.strand r.sid).out =
      (if r.msg.isOutput then [r.msg] else []) ++ msgsOf r.sid e.output ∧
    (e.strand r.sid).ctl =
      (if r.msg.isOutput then [] else [r.msg]) ++ msgsOf r.sid e.controlRecs := by
  cases hm : r.msg.isOutput <;> simp [strand, hw, msgsOf_cons_self, hm]

theorem lanes_of_none (hw : e.writer.hand = []) (sid : Nat) :
    (e.strand sid).out = msgsOf sid e.output ∧ (e.strand sid).ctl = msgsOf sid e.controlRecs := by
  simp [strand, hw]

/-- Taking a record into the hand shows nowhere. -/
theorem strand_take {e' : Endpoint} (hw : e.writer.hand = []) (hw' : e'.writer.hand = [r])
    (hg : e'.gens = e.gens) (hs : e'.streams = e.streams) (hr : e'.reader = e.reader)
    (hwire : e'.wire = e.wire) (ho : e.output = (if r.msg.isOutput then [r] else []) ++ e'.output)
    (hc : e.controlRecs = (if r.msg.isOutput then [] else [r]) ++ e'.controlRecs) :
    e'.strand sid = e.strand sid := by
  have hout : (msgsOf sid [r]).filter Msg.isOutput =
      msgsOf sid (if r.msg.isOutput then [r] else []) := by
    cases hm : r.msg.isOutput <;> by_cases hsid : r.sid = sid <;> simp [msgsOf, hsid, hm]
  have hctl : (msgsOf sid [r]).filter (fun m => !m.isOutput) =
      msgsOf sid (if r.msg.isOutput then [] else [r]) := by
    cases hm : r.msg.isOutput <;> by_cases hsid : r.sid = sid <;> simp [msgsOf, hsid, hm]
  simp only [strand, get, hw, hw', hg, hs, hr, hwire, ho, hc, hout, hctl, msgsOf_append, msgsOf_nil,
    List.filter_nil, List.nil_append]

end Hand

/-- **A step of the writer, seen from one id.** -/
theorem Wf.strand_writerStep {e e' : Endpoint} {a : WriterAction} (h : e.Wf) (hn : e.Solo)
    (hsort : e.Sorted) (hs : e.writerStep a = some e') (h0 : sid ≠ 0) :
    Strand.Step sid (e.strand sid) (e'.strand sid) := by
  -- the record leaves the hand, for the wire or not
  have hleave : ∀ n r c v (wire : List Rec), e.writer = .looked n r c v →
      wire = (if e.drops r c then e.wire else e.wire ++ [r]) →
      Strand.Step sid (e.strand sid)
        (strand { e with writer := .batch (n + 1), wire := wire } sid) := by
    intro n r c v wire hw hwire
    have hhand : e.writer.hand = [r] := by rw [hw]; rfl
    obtain ⟨hout', hctl'⟩ := lanes_of_none
      (e := { e with writer := .batch (n + 1), wire := wire }) rfl sid
    by_cases hsid : r.sid = sid
    · subst hsid
      obtain ⟨hout, hctl⟩ := lanes_of_own hhand
      by_cases hrst : r.msg = .rst
      · rw [hrst] at hout hctl
        cases hd : e.drops r c with
        | true =>
          rw [hd, if_pos rfl] at hwire
          subst hwire
          refine .of_eq ?_ (.dropRst _ _ hctl)
          exact Strand.ext rfl rfl (hout'.trans hout.symm) hctl' rfl rfl
        | false =>
          rw [hd, if_neg Bool.false_ne_true] at hwire
          subst hwire
          refine .of_eq ?_ (.writeRst _ _ hctl)
          refine Strand.ext rfl rfl (hout'.trans hout.symm) hctl' ?_ rfl
          show msgsOf r.sid (e.wire ++ [r]) = msgsOf r.sid e.wire ++ [.rst]
          rw [msgsOf_append, msgsOf_cons_self, hrst]
          rfl
      · obtain ⟨g, hg, hdrop⟩ := h.drops_eq hn hw h0 hrst
        have hwires : msgsOf r.sid wire = if g.side.flow.outputValid then
            (e.strand r.sid).wire ++ [r.msg] else (e.strand r.sid).wire := by
          rw [hwire, hdrop]
          cases g.side.flow.outputValid with
          | true =>
            show msgsOf r.sid (e.wire ++ [r]) = msgsOf r.sid e.wire ++ [r.msg]
            rw [msgsOf_append, msgsOf_cons_self, msgsOf_nil]
          | false => rfl
        cases hm : r.msg.isOutput with
        | true =>
          rw [hm] at hout hctl
          refine .of_eq ?_ (.writeOut _ g r.msg _ hg hm hout)
          exact Strand.ext rfl rfl hout' (hctl'.trans hctl.symm) hwires rfl
        | false =>
          rw [hm] at hout hctl
          refine .of_eq ?_ (.writeOwn _ g r.msg _ hg hm hrst hctl)
          exact Strand.ext rfl rfl (hout'.trans hout.symm) hctl' hwires rfl
    · obtain ⟨hout, hctl⟩ := lanes_of_other hhand hsid
      refine .unchanged (Strand.ext rfl rfl (hout'.trans hout.symm) (hctl'.trans hctl.symm) ?_ rfl)
      show msgsOf sid wire = msgsOf sid e.wire
      rw [hwire]
      split
      · rfl
      · rw [msgsOf_append, msgsOf_cons_ne hsid, msgsOf_nil, List.append_nil]
  have hsame : ∀ w : WriterPhase, w.hand = e.writer.hand →
      strand { e with writer := w } sid = e.strand sid := fun w hw => by
    refine strand_congr ?_ ?_ ?_ ?_ ?_ hw ?_ sid <;> rfl
  cases writerStep_spec hs with
  | tookControl n o rest hw hc =>
    cases o with
    | record r =>
      have hm := hsort.control r (by rw [hc]; exact List.mem_cons_self)
      refine .unchanged (strand_take hw rfl rfl rfl rfl rfl ?_ ?_)
      · simp [hm]
      · simp [hm, controlRecs, hc, Output.rec?]
    | pong payload =>
      obtain ⟨hout, hctl⟩ := lanes_of_none hw sid
      obtain ⟨hout', hctl'⟩ := lanes_of_none
        (e := { e with control := rest, writer := .took n (.pong payload) }) rfl sid
      refine .unchanged (Strand.ext rfl rfl (hout'.trans hout.symm) ?_ rfl rfl)
      rw [hctl, hctl', controlRecs, controlRecs, hc]
      rfl
  | tookOutput n r rest hw ho =>
    have hm := hsort.output r (by rw [ho]; exact List.mem_cons_self)
    refine .unchanged (strand_take hw rfl rfl rfl rfl rfl ?_ ?_)
    · simp [hm, ho]
    · simp [hm, controlRecs]
  | moved w hw hw' => exact .unchanged (hsame w (by rw [hw, hw']))
  | looked n r hw => exact .unchanged (hsame _ (by rw [hw]; rfl))
  | dropped n r c v hw hd => exact hleave n r c v e.wire hw (by rw [hd, if_pos rfl])
  | passed n r c v hw hd => exact hleave n r c v _ hw (by rw [hd, if_neg Bool.false_ne_true])

end Endpoint

/-! ## 4. The reader -/

/-- **What an id sees when the reader applies a record to its flow.** -/
inductive Strand.Apply : Strand → Strand → Prop
  | aborted (s : Strand) (f : Incoming) (i : Nat) (g : Gen) (hr : s.reader = .got f i)
    (hg : s.gen = some g) (hf : hasFlag f.flags flagRst = true) :
    Apply s { s.shut with reader := .idle }
  | applied (s : Strand) (f : Incoming) (i : Nat) (g : Gen) (side : Side)
    (hr : s.reader = .got f i) (hg : s.gen = some g) (hf : hasFlag f.flags flagRst = false)
    (hd : g.side.dispatch f.flags f.payload = .ok side) :
    Apply s { s with gen := some { g with side := side }, reader := .idle }
  | refused (s : Strand) (f : Incoming) (i : Nat) (g : Gen) (x : String)
    (hr : s.reader = .got f i) (hg : s.gen = some g) (hf : hasFlag f.flags flagRst = false)
    (hd : g.side.dispatch f.flags f.payload = .error x) :
    Apply s { s with reader := .refused f i }

namespace Endpoint

/-- `f` is an `OPEN`, for an endpoint that takes them. -/
def Opens (e : Endpoint) (f : Incoming) : Prop :=
  hasFlag f.flags flagOpen = true ∧ e.client = false

/-- **What the id of `f` sees when the reader takes `f`.** -/
inductive Takes (e : Endpoint) (f : Incoming) : Strand → Strand → Prop
  | ignored (s : Strand) (hreg : s.registered = false) (ho : ¬e.Opens f) : e.Takes f s s
  | opened (s : Strand) (peer : Option Nat) (ho : e.Opens f) (ha : e.Admits f peer) :
    e.Takes f s { s with
      gen := s.gen <|> some (e.fresh f.sid peer [] .connecting), registered := true }
  | rejected (s : Strand) (ho : e.Opens f) : e.Takes f s { s with reader := .rejecting f.sid }
  | got (s : Strand) (i : Nat) (g : Gen) (hg : s.gen = some g) (hreg : s.registered = true)
    (ho : ¬e.Opens f) : e.Takes f s { s with reader := .got f i }
  | unknown (s : Strand) (hreg : s.registered = false) (ho : ¬e.Opens f) :
    e.Takes f s { s with ctl := s.ctl ++ [.rst] }

variable {e e' : Endpoint} {sid : Nat}

theorem Wf.strand_readerControl (h : e.Wf) (hn : e.Solo) (r : Rec) (sid : Nat) :
    (e.readerControl r).strand sid =
      { e.strand sid with ctl := (e.strand sid).ctl ++ msgsOf sid [r], reader := .idle } ∨
    (e.readerControl r).strand sid = { (e.strand sid).shut with reader := .idle } := by
  unfold Endpoint.readerControl
  split
  · rename_i e' htc
    rw [tryControl_eq_some htc, strand_setReader, strand_pushControl]
    exact Or.inl rfl
  · have hidle : ({ e.noteExhausted with reader := .idle } : Endpoint).Wf :=
      (h.congr rfl : e.noteExhausted.Wf).setReader trivial
    refine Or.inr ((hidle.strand_stop hn sid).trans ?_)
    have hset : strand { e.noteExhausted with reader := .idle } sid =
        { e.strand sid with reader := .idle } := rfl
    rw [hset]
    unfold Strand.shut
    split <;> rfl

/-- **A new generation, seen from one id.** -/
theorem strand_allocate {sid' : Nat} {peer : Option Nat} {pre : Bytes} {task : Task}
    (ha : e.allocate sid' peer pre task = .ok e') (sid : Nat) :
    e'.strand sid = if sid' = sid then
      { e.strand sid with
        gen := (e.strand sid).gen <|> some (e.fresh sid' peer pre task), registered := true }
      else e.strand sid := by
  obtain ⟨-, -, hget, rfl⟩ := allocate_ok ha
  have hfind : (e.gens ++ [e.fresh sid' peer pre task]).find? (fun g => g.sid = sid) =
      ((e.strand sid).gen <|> if sid' = sid then some (e.fresh sid' peer pre task) else none) := by
    rw [List.find?_append]
    by_cases hsid : sid' = sid
    · simp [strand, fresh, hsid]
    · simp [strand, fresh, hsid]
  split
  · rename_i hsid
    rw [if_pos hsid] at hfind
    refine Strand.ext hfind ?_ rfl rfl rfl rfl
    subst hsid
    simp [strand, get]
  · rename_i hsid
    rw [if_neg hsid] at hfind
    refine Strand.ext (hfind.trans (by simp)) ?_ rfl rfl rfl rfl
    have hne : (sid == sid') = false := by simpa using Ne.symm hsid
    simp [strand, get, List.lookup_cons, hne]

/-- The step of the reader is about another id, or ends the session. -/
theorem Wf.step_of_readerControl (h : e.Wf) (hn : e.Solo) {r : Rec} (hsid : r.sid ≠ sid)
    (hr : (e.strand sid).reader = .idle) :
    Strand.Step sid (e.strand sid) ((e.readerControl r).strand sid) := by
  rcases h.strand_readerControl hn r sid with heq | heq
  · refine .unchanged (heq.trans (Strand.ext rfl rfl rfl ?_ rfl hr.symm))
    rw [msgsOf_cons_ne hsid, msgsOf_nil, List.append_nil]
  · rw [heq]
    exact .shutReader _ (by rw [hr]; trivial)

/-- What the reader finds when it looks a registered id up. -/
theorem Wf.strand_got (h : e.Wf) (hn : e.Solo) {i : Nat} (hi : e.get sid = some i) :
    (e.strand sid).registered = true ∧ ∃ g, e.gens[i]? = some g ∧ g.sid = sid ∧
      (e.strand sid).gen = some g := by
  obtain ⟨g, hg, hsid⟩ := h.isGen_of_get hi
  exact ⟨by simp [strand, hi], g, hg, hsid, (strand_gen_iff hn).mpr ⟨i, hg, hsid⟩⟩

theorem strand_unregistered (hi : e.get sid = none) : (e.strand sid).registered = false := by
  simp [strand, hi]

/-- **The reader takes a record, seen from its id.** -/
theorem Wf.strand_takes {f : Incoming} (h : e.Wf) (hn : e.Solo)
    (hs : e.ReaderStep (.receive f) e') (h0 : f.sid ≠ 0) :
    e.reader = .idle ∧ e.Takes f (e.strand f.sid) (e'.strand f.sid) := by
  have hopens : ¬(hasFlag f.flags flagOpen = true ∧ (!e.client) = true) → ¬e.Opens f :=
    fun hno ho => hno ⟨ho.1, by rw [ho.2]; rfl⟩
  cases hs with
  | ignored _ hr hno hget =>
    exact ⟨hr, .ignored _ (strand_unregistered (hget.resolve_left h0))
      (hopens (hno.resolve_left h0))⟩
  | settled _ window hr hc hz => exact absurd hz.2 h0
  | capability _ window hr hc hz => exact absurd hz.2 h0
  | opened _ peer _ hr ho hc ha hp hleg =>
    refine ⟨hr, ?_⟩
    rw [strand_allocate ha, if_pos rfl]
    exact .opened _ peer ⟨ho, hc⟩ ⟨hc, ho, hp, hleg⟩
  | rejected _ hr ho hc =>
    refine ⟨hr, ?_⟩
    rw [e.strand_setReader_own (p := .rejecting f.sid) rfl]
    exact .rejected _ ⟨ho, hc⟩
  | got _ i hr hi hno =>
    obtain ⟨hreg, g, -, -, hg⟩ := h.strand_got hn hi
    refine ⟨hr, ?_⟩
    rw [e.strand_setReader_own (p := .got f i) rfl]
    exact .got _ i g hg hreg (hopens hno)
  | unknown _ hr hi hno hc =>
    have hreg := strand_unregistered hi
    have hidle : (e.strand f.sid).reader = .idle := by simp [strand, hr]
    refine ⟨hr, ?_⟩
    rcases h.strand_readerControl hn ⟨f.sid, .rst, none⟩ f.sid with heq | heq
    · have heq' : (e.readerControl ⟨f.sid, .rst, none⟩).strand f.sid =
          { e.strand f.sid with ctl := (e.strand f.sid).ctl ++ [.rst] } := by
        rw [heq, msgsOf_cons_self ⟨f.sid, .rst, none⟩, msgsOf_nil, ← hidle]
      rw [heq']
      exact .unknown _ hreg (hopens hno)
    · have heq' : (e.readerControl ⟨f.sid, .rst, none⟩).strand f.sid = e.strand f.sid := by
        rw [heq, Strand.shut_of_not_registered hreg, ← hidle]
      rw [heq']
      exact .ignored _ hreg (hopens hno)

/-- **`remove` of the stream that a record was for, seen from one id.** -/
theorem Wf.strand_remove (h : e.Wf) (hn : e.Solo) {i : Nat} {g : Gen} (hg : e.gens[i]? = some g)
    (sid : Nat) :
    (e.remove g.sid g.epoch).2 = (e.strand g.sid).registered ∧
    (e.remove g.sid g.epoch).1.strand sid =
      if g.sid = sid then (e.strand sid).shut else e.strand sid := by
  obtain ⟨hflag, hstrand⟩ := h.strand_finish hn hg false sid
  refine ⟨hflag, hstrand.trans ?_⟩
  by_cases hsid : g.sid = sid
  · subst hsid
    have hgen := strand_gen_self hn hg
    unfold Strand.shut
    cases hreg : (e.strand g.sid).registered <;> simp [hgen]
  · simp [hsid]

/-- The record in the reader's hands is for a generation of its id. -/
theorem Wf.reader_sid (h : e.Wf) {f : Incoming} {i : Nat} {g : Gen}
    (hr : e.reader = .got f i ∨ e.reader = .refused f i) (hg : e.gens[i]? = some g) :
    g.sid = f.sid := by
  have hok := h.reader
  obtain ⟨g', hg', hsid⟩ : IsGen e.gens f.sid i := by
    rcases hr with hr | hr <;> rw [hr] at hok <;> exact hok
  cases hg.symm.trans hg'
  exact hsid

/-- The stream whose record was refused is removed. -/
theorem Wf.strand_refused (h : e.Wf) (hn : e.Solo) {f : Incoming} {i : Nat} {g : Gen}
    (hr : e.reader = .refused f i) (hg : e.gens[i]? = some g) :
    Strand.Step sid (e.strand sid) (strand { (e.remove f.sid g.epoch).1 with
      reader := if (e.remove f.sid g.epoch).2 then .resetting f.sid (some i) else .idle } sid) := by
  obtain ⟨hflag, hstrand⟩ := h.strand_remove hn hg sid
  rw [h.reader_sid (Or.inr hr) hg] at hflag hstrand
  refine .of_eq (strand_setReader _ _ sid) ?_
  rw [hstrand, hflag]
  by_cases hsid : f.sid = sid
  · subst hsid
    rw [if_pos rfl]
    refine .of_eq ?_ (.reject _ f i (strand_reader hr rfl))
    cases (e.strand f.sid).registered
    · rfl
    · simp [ReaderPhase.onlyFor, ReaderPhase.about]
  · have hother : (if (e.strand f.sid).registered then ReaderPhase.resetting f.sid (some i)
        else .idle).onlyFor sid = .idle := by
      split
      · exact ReaderPhase.onlyFor_of_ne (ReaderPhase.about_ne rfl hsid)
      · rfl
    rw [if_neg hsid, hother]
    exact .unchanged (strand_idle (ReaderPhase.about_ne (by rw [hr]; rfl) hsid))

/-- The reset is queued, or ends the session. -/
theorem Wf.strand_replied (h : e.Wf) (hn : e.Solo) {sid' : Nat} {gen : Option Nat}
    (hr : e.reader = .resetting sid' gen) :
    Strand.Step sid (e.strand sid) ((e.readerControl ⟨sid', .rst, gen⟩).strand sid) := by
  by_cases hsid : sid' = sid
  · subst hsid
    have hreader := strand_reader hr rfl
    rcases h.strand_readerControl hn ⟨sid', .rst, gen⟩ sid' with heq | heq
    · refine .of_eq (heq.trans ?_) (.reply _ gen hreader)
      rw [msgsOf_cons_self ⟨sid', .rst, gen⟩, msgsOf_nil]
    · rw [heq]
      exact .shutReader _ (by rw [hreader]; trivial)
  · exact h.step_of_readerControl hn hsid
      (ReaderPhase.onlyFor_of_ne (ReaderPhase.about_ne (by rw [hr]; rfl) hsid))

/-- **A step of the reader, seen from one id**: short of taking a record of that id, it is a step of
the strand or it applies the record in the reader's hands. -/
theorem Wf.strand_readerStep {a : ReaderAction} (h : e.Wf) (hn : e.Solo) (hs : e.ReaderStep a e')
    (h0 : sid ≠ 0) (hother : ∀ f, a = .receive f → f.sid ≠ sid) :
    Strand.Step sid (e.strand sid) (e'.strand sid) ∨
      Strand.Apply (e.strand sid) (e'.strand sid) := by
  have hidle : e.reader = .idle → (e.strand sid).reader = .idle := fun hr => by
    simp [strand, hr]
  have hrest : e.reader = .idle → e.reader.about ≠ some sid := fun hr => by
    rw [hr]
    exact nofun
  have hgen : ∀ {i : Nat} {g : Gen}, e.gens[i]? = some g → g.sid = sid →
      (e.strand sid).gen = some g :=
    fun hg hsid => (strand_gen_iff hn).mpr ⟨_, hg, hsid⟩
  cases hs with
  | ignored f => exact Or.inl (.same _)
  | settled f window hr =>
    obtain ⟨n, heq⟩ := e.settle_eq (.credit window)
    rw [heq]
    exact Or.inl (.same _)
  | capability f window hr hc hz =>
    have hneg : ({ e with negotiation := .credit window } : Endpoint).Wf :=
      h.congr rfl
    exact Or.inl (hneg.step_of_readerControl hn (Ne.symm h0) (hidle hr))
  | opened f peer _ hr ho hc ha =>
    rw [strand_allocate ha, if_neg (hother f rfl)]
    exact Or.inl (.same _)
  | rejected f hr | got f i hr =>
    exact Or.inl (.unchanged
      (strand_setReader_other (ReaderPhase.about_ne rfl (hother f rfl)) (hrest hr)))
  | unknown f hr hi =>
    exact Or.inl (h.step_of_readerControl hn (hother f rfl) (hidle hr))
  | aborted f i g hr hg hf =>
    have hgs := h.reader_sid (Or.inl hr) hg
    have hstrand := (h.strand_remove hn hg sid).2
    rw [hgs] at hstrand
    rw [strand_setReader _ .idle, hstrand]
    by_cases hsid : f.sid = sid
    · rw [if_pos hsid]
      exact Or.inr (.aborted _ f i g (strand_reader hr (hsid ▸ rfl)) (hgen hg (hgs.trans hsid)) hf)
    · rw [if_neg hsid]
      exact Or.inl (.unchanged (strand_idle (ReaderPhase.about_ne (by rw [hr]; rfl) hsid)))
  | applied f i g side hr hg hf hd =>
    have hgs := h.reader_sid (Or.inl hr) hg
    rw [strand_setReader _ .idle, strand_setSide hn hg]
    by_cases hsid : f.sid = sid
    · rw [if_pos (hgs.trans hsid)]
      exact Or.inr (.applied _ f i g side (strand_reader hr (hsid ▸ rfl))
        (hgen hg (hgs.trans hsid)) hf hd)
    · rw [if_neg fun heq => hsid (hgs.symm.trans heq)]
      exact Or.inl (.unchanged (strand_idle (ReaderPhase.about_ne (by rw [hr]; rfl) hsid)))
  | refused f i g x hr hg hf hd =>
    have hgs := h.reader_sid (Or.inl hr) hg
    by_cases hsid : f.sid = sid
    · rw [e.strand_setReader_own (p := .refused f i) (hsid ▸ rfl)]
      exact Or.inr (.refused _ f i g x (strand_reader hr (hsid ▸ rfl))
        (hgen hg (hgs.trans hsid)) hf hd)
    · exact Or.inl (.unchanged (strand_setReader_other (ReaderPhase.about_ne rfl hsid)
        (ReaderPhase.about_ne (by rw [hr]; rfl) hsid)))
  | removed f i g hr hg => exact Or.inl (h.strand_refused hn hr hg)
  | looked sid' hr =>
    refine Or.inl ?_
    by_cases hsid : sid' = sid
    · subst hsid
      rw [e.strand_setReader_own (p := .resetting sid' (e.get sid')) rfl]
      exact .lookup _ _ (strand_reader hr rfl)
    · exact .unchanged (strand_setReader_other (ReaderPhase.about_ne rfl hsid)
        (ReaderPhase.about_ne (by rw [hr]; rfl) hsid))
  | replied sid' gen hr => exact Or.inl (h.strand_replied hn hr)
  | ponged payload hr =>
    refine Or.inl (.unchanged ?_)
    rw [strand_pushControl]
    exact Strand.ext rfl rfl rfl (List.append_nil _) rfl rfl
  | pingFailed payload hr =>
    rw [h.strand_stop hn]
    exact Or.inl (.shut _)

/-! ## 5. The frame rule -/

/-- A stream of this id is allocated by `open_stream`. -/
def Opening (e : Endpoint) (sid : Nat) (s s' : Strand) : Prop :=
  ∃ p ∈ e.opens, p.sid = sid ∧ ∃ target, s' = { s with
    gen := s.gen <|> some (e.fresh sid p.window p.pre (.opening target false)), registered := true }

/-- **Whatever an endpoint does, an id sees one of a few steps**, unless the reader takes one of its
records. -/
theorem Wf.strand_step {a : Action} (h : e.Wf) (hn : e.Solo) (hsort : e.Sorted)
    (hs : e.step a = some e') (h0 : sid ≠ 0) (hother : ∀ f, a = .read (.receive f) → f.sid ≠ sid) :
    Strand.Step sid (e.strand sid) (e'.strand sid) ∨ Strand.Apply (e.strand sid) (e'.strand sid) ∨
      e.Opening sid (e.strand sid) (e'.strand sid) := by
  cases step_spec hs with
  | fetched | unprepared => exact Or.inl (.same _)
  | prepared k p target _ hk ht ha =>
    have hstrand := strand_allocate ha sid
    by_cases hsid : p.sid = sid
    · subst hsid
      rw [if_pos rfl] at hstrand
      exact Or.inr (Or.inr ⟨p, List.mem_of_getElem? hk, rfl, target, hstrand⟩)
    · rw [if_neg hsid] at hstrand
      exact Or.inl (.unchanged hstrand)
  | task i g a _ hg hs => exact Or.inl (h.strand_taskStep hn hg (taskStep_spec hs) sid)
  | read a _ _ hs =>
    rcases h.strand_readerStep hn hs h0 (fun f hf => hother f (by rw [hf])) with hstep | happly
    · exact Or.inl hstep
    · exact Or.inr (Or.inl happly)
  | write a _ _ hs => exact Or.inl (h.strand_writerStep hn hsort hs h0)
  | timeout =>
    obtain ⟨n, heq⟩ := e.settle_eq .legacy
    rw [heq]
    exact Or.inl (.same _)
  | stop =>
    rw [h.strand_stop hn]
    exact Or.inl (.shut _)

theorem Solo.append (hn : e.Solo) {x : Gen} (heq : e'.gens = e.gens ++ [x])
    (hx : (e.strand x.sid).gen = none) : e'.Solo := by
  unfold Endpoint.Solo
  rw [heq, List.map_append, List.nodup_append]
  refine ⟨hn, by simp, ?_⟩
  intro s hs t ht heq'
  obtain ⟨g, hg, rfl⟩ := List.mem_map.mp hs
  cases List.mem_singleton.mp ht
  exact find_gen_none.mp hx g hg heq'

end Endpoint

end BibaVpn.Mux
