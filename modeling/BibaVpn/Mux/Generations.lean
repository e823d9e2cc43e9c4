/-
# Generations of a stream id

A stream id can be used again while the task of its old generation still runs, while records of that
generation are queued in the lanes, and while the writer has one of them in hand.  This file keeps
the generations of an id apart, whatever the peer sends:

* §1 is what a generation never loses: its id, its epoch, and, once its output is invalid, that;
* §2 is the invariant of the endpoint: epochs are numbers of creation, and every reference, from the
  registry, the lanes, the reader and the writer, is to a generation of the same id;
* §3 shows that the operations keep it, and §4 says what a step can do and that every step keeps it.
-/
import BibaVpn.Lib.Table
import BibaVpn.Mux.Endpoint

namespace BibaVpn.Mux

open Machine Lts

/-! ## 1. What a generation keeps -/

/-- **What a generation keeps**: its id, its epoch, its window, its local invariant, and that it is
cancelled or its output invalid. -/
structure Gen.Keeps (g g' : Gen) : Prop where
  sid : g'.sid = g.sid
  epoch : g'.epoch = g.epoch
  limit : g'.side.flow.receiveLimit = g.side.flow.receiveLimit
  valid : g'.side.flow.outputValid = true → g.side.flow.outputValid = true
  cancelled : g.side.flow.cancelled = true → g'.side.flow.cancelled = true
  inv : g.side.Inv → g'.side.Inv

theorem Gen.Keeps.refl (g : Gen) : g.Keeps g := ⟨rfl, rfl, rfl, id, id, id⟩

variable {g : Gen} {gs gs' : List Gen} {i j sid : Nat} {r : Rec} {e e' : Endpoint} {side : Side}
  {a : WriterAction}

theorem Gen.Keeps.trans {g' g'' : Gen} (h : g.Keeps g') (h' : g'.Keeps g'') : g.Keeps g'' :=
  ⟨h'.sid.trans h.sid, h'.epoch.trans h.epoch, h'.limit.trans h.limit,
    fun hv => h.valid (h'.valid hv), fun hc => h'.cancelled (h.cancelled hc),
    fun hi => h'.inv (h.inv hi)⟩

theorem Gen.Keeps.cancel (preserve : Bool) (g : Gen) : g.Keeps (Gen.cancel preserve g) :=
  ⟨rfl, rfl, rfl, fun hv => (Bool.and_eq_true_iff.mp hv).1, fun _ => rfl,
    fun hi => hi.cancel preserve⟩

/-- **Every generation of `gs` is in `gs'`**, with what it keeps. -/
def Extends (gs gs' : List Gen) : Prop :=
  ∀ (i : Nat) (g : Gen), gs[i]? = some g → ∃ g' : Gen, gs'[i]? = some g' ∧ g.Keeps g'

theorem Extends.refl (gs : List Gen) : Extends gs gs := fun _ g h => ⟨g, h, Gen.Keeps.refl g⟩

theorem Extends.append (gs new : List Gen) : Extends gs (gs ++ new) := by
  intro i g hg
  refine ⟨g, ?_, Gen.Keeps.refl g⟩
  rw [List.getElem?_append_left (List.getElem?_eq_some_iff.mp hg).1]
  exact hg

theorem getElem?_modify_self (h : gs[i]? = some g) (f : Gen → Gen) :
    (gs.modify i f)[i]? = some (f g) := by
  rw [List.getElem?_modify, h]
  simp

theorem getElem?_modify_ne (h : j ≠ i) (f : Gen → Gen) : (gs.modify i f)[j]? = gs[j]? := by
  rw [List.getElem?_modify]
  simp [Ne.symm h]

/-- Changing one generation. -/
theorem Extends.modify {f : Gen → Gen} (hf : ∀ g, gs[i]? = some g → g.Keeps (f g)) :
    Extends gs (gs.modify i f) := by
  intro j g hg
  by_cases hj : j = i
  · subst hj
    exact ⟨f g, getElem?_modify_self hg f, hf g hg⟩
  · exact ⟨g, by rw [getElem?_modify_ne hj]; exact hg, Gen.Keeps.refl g⟩

/-- `shutdown` cancels generations in place. -/
theorem Extends.cancelSome (gs : List Gen) (p : Nat → Bool) :
    Extends gs (gs.mapIdx fun i g => if p i then Gen.cancel false g else g) := by
  intro i g hg
  rw [List.getElem?_mapIdx, hg]
  cases hp : p i with
  | true => exact ⟨Gen.cancel false g, by simp, Gen.Keeps.cancel false g⟩
  | false => exact ⟨g, by simp, Gen.Keeps.refl g⟩

/-! ## 2. References are to generations of the same id -/

/-- Generation `i` exists and is one of `sid`. -/
def IsGen (gs : List Gen) (sid i : Nat) : Prop := ∃ g : Gen, gs[i]? = some g ∧ g.sid = sid

theorem IsGen.mono (hext : Extends gs gs') (h : IsGen gs sid i) : IsGen gs' sid i := by
  obtain ⟨g, hg, rfl⟩ := h
  obtain ⟨g', hg', hk⟩ := hext i g hg
  exact ⟨g', hg', hk.sid⟩

/-- A record names a generation of its id; only resets and capabilities name none. -/
structure RecOk (gs : List Gen) (r : Rec) : Prop where
  gen : ∀ i, r.gen = some i → IsGen gs r.sid i
  none : r.gen = none → r.msg = .rst ∨ r.sid = 0

theorem RecOk.mono (hext : Extends gs gs') (h : RecOk gs r) :
    RecOk gs' r := ⟨fun i hi => (h.gen i hi).mono hext, h.none⟩

/-- The record in the writer's hand. -/
def WriterPhase.hand : WriterPhase → List Rec
  | .took _ (.record r) => [r]
  | .looked _ r _ _ => [r]
  | _ => []

/-- The record is in a lane, in the writer's hand, or on the wire. -/
def Endpoint.HoldsRec (e : Endpoint) (r : Rec) : Prop :=
  r ∈ e.output ∨ .record r ∈ e.control ∨ r ∈ e.wire ∨ r ∈ e.writer.hand

theorem Endpoint.holdsRec_hand (h : r ∈ e.writer.hand) : e.HoldsRec r :=
  Or.inr (Or.inr (Or.inr h))

def ReaderOk (gs : List Gen) : ReaderPhase → Prop
  | .got f i => IsGen gs f.sid i
  | .refused f i => IsGen gs f.sid i
  | .resetting sid (some i) => IsGen gs sid i
  | _ => True

theorem ReaderOk.mono (hext : Extends gs gs') {p : ReaderPhase} (h : ReaderOk gs p) :
    ReaderOk gs' p := by
  cases p with
  | idle | rejecting => trivial
  | got | refused => exact IsGen.mono hext h
  | resetting sid gen =>
    cases gen with
    | none => trivial
    | some i => exact IsGen.mono hext h

/-- What the writer saw when it looked up the record in its hand. -/
structure LookedOk (e : Endpoint) (r : Rec) (current : Option Nat) (valid : Bool) : Prop where
  current : ∀ c, current = some c → IsGen e.gens r.sid c
  valid : e.outputValid r = true → valid = true

namespace Endpoint

/-- **The invariant of an endpoint.** -/
structure Wf (e : Endpoint) : Prop where
  nextEpoch : e.nextEpoch = e.gens.length + 1
  epochs : ∀ (i : Nat) (g : Gen), e.gens[i]? = some g → g.epoch = i + 1
  sides : ∀ (i : Nat) (g : Gen), e.gens[i]? = some g → g.side.Inv
  sids : ∀ (i : Nat) (g : Gen), e.gens[i]? = some g → g.sid ≠ 0
  keys : (e.streams.map Prod.fst).Nodup
  streams : ∀ s ∈ e.streams, IsGen e.gens s.1 s.2
  closed : e.closed = true → e.streams = []
  recs : ∀ r, e.HoldsRec r → RecOk e.gens r
  reader : ReaderOk e.gens e.reader
  writer : ∀ n r c v, e.writer = .looked n r c v → LookedOk e r c v

/-- A new client holds its announcement, and a new server nothing. -/
theorem holdsRec_new {client : Bool} {window : MuxWindow} {chunk : ChunkSize}
    (h : (new client window chunk).HoldsRec r) :
    client = true ∧ r = ⟨0, .cap 1 window.bytes, none⟩ := by
  rcases h with h | h | h | h
  · cases h
  · cases client with
    | false => cases h
    | true =>
      cases List.mem_singleton.mp h
      exact ⟨rfl, rfl⟩
  · cases h
  · cases h

theorem Wf.new (client : Bool) (window : MuxWindow) (chunk : ChunkSize) :
    (Endpoint.new client window chunk).Wf where
  nextEpoch := rfl
  epochs i g hg := by simp [Endpoint.new] at hg
  sides i g hg := by simp [Endpoint.new] at hg
  sids i g hg := by simp [Endpoint.new] at hg
  keys := List.nodup_nil
  streams s hs := by simp [Endpoint.new] at hs
  closed _ := rfl
  recs r hr := by
    obtain ⟨-, rfl⟩ := holdsRec_new hr
    exact ⟨fun i hi => (by cases hi), fun _ => Or.inr rfl⟩
  reader := trivial
  writer n r c v h := by cases h

/-- `next_epoch` is an `AtomicU64`.  **As long as fewer than 2^64 generations were made, the 64 bits
of their epochs tell them apart as the numbers do**, and every comparison comes out as it does
here. -/
theorem Wf.epoch_bits (h : e.Wf) (hn : e.gens.length < UInt64.size) {j : Nat} {g g' : Gen}
    (hi : e.gens[i]? = some g) (hj : e.gens[j]? = some g') :
    UInt64.ofNat g.epoch = UInt64.ofNat g'.epoch ↔ g.epoch = g'.epoch := by
  have hlt := (List.getElem?_eq_some_iff.mp hi).1
  have hlt' := (List.getElem?_eq_some_iff.mp hj).1
  rw [h.epochs i g hi, h.epochs j g' hj, ← UInt64.toNat_inj, UInt64.toNat_ofNat_of_lt' (by omega),
    UInt64.toNat_ofNat_of_lt' (by omega)]

theorem mem_of_get (h : e.get sid = some i) : (sid, i) ∈ e.streams := by
  obtain ⟨l1, l2, heq, -⟩ := List.lookup_eq_some_iff.mp h
  rw [heq]
  exact List.mem_append_right _ List.mem_cons_self

/-- The generation registered under an id is one of it. -/
theorem Wf.isGen_of_get (h : e.Wf) (hg : e.get sid = some i) : IsGen e.gens sid i :=
  h.streams (sid, i) (mem_of_get hg)

theorem Wf.get_of_mem (h : e.Wf) (hm : (sid, i) ∈ e.streams) : e.get sid = some i :=
  (Table.get_eq_some_iff (t := ⟨e.streams, h.keys⟩)).mpr hm

/-- The registry is a table. -/
theorem Wf.lookup_filter (h : e.Wf) (sid s : Nat) :
    (e.streams.filter fun x => x.1 ≠ sid).lookup s = if s = sid then none else e.get s :=
  Table.get_erase ⟨e.streams, h.keys⟩ sid s

end Endpoint

theorem outputValid_of_extends (hext : Extends e.gens e'.gens) (hr : RecOk e.gens r)
    (hv : e'.outputValid r = true) : e.outputValid r = true := by
  unfold Endpoint.outputValid at hv ⊢
  cases hgen : r.gen with
  | none => rfl
  | some i =>
    obtain ⟨g, hg, -⟩ := hr.gen i hgen
    obtain ⟨g', hg', hk⟩ := hext i g hg
    rw [hgen] at hv
    simp only [hg', hg, Option.map_some, beq_iff_eq, Option.some.injEq] at hv ⊢
    exact hk.valid hv

namespace Endpoint

/-- **The step rule of the invariant**, for a step that creates no generation: the generations only
change as they may, the registry only shrinks, and new references are to generations of the same
id. -/
theorem Wf.evolve (h : e.Wf) (hext : Extends e.gens e'.gens)
    (hlen : e'.gens.length = e.gens.length) (hnext : e'.nextEpoch = e.nextEpoch)
    (hst : e'.streams.Sublist e.streams) (hcl : e'.closed = true → e'.streams = [])
    (hrec : ∀ r, e'.HoldsRec r → e.HoldsRec r ∨ RecOk e.gens r)
    (hrd : e'.reader = e.reader ∨ ReaderOk e.gens e'.reader)
    (hwr : ∀ n r c v, e'.writer = .looked n r c v →
      e.writer = .looked n r c v ∨ (e.HoldsRec r ∧ LookedOk e r c v)) : e'.Wf := by
  have hold : ∀ r, e'.HoldsRec r → RecOk e.gens r := fun r hr => by
    rcases hrec r hr with hr | hr
    · exact h.recs r hr
    · exact hr
  have hback : ∀ (i : Nat) (g' : Gen), e'.gens[i]? = some g' →
      ∃ g : Gen, e.gens[i]? = some g ∧ g.Keeps g' := fun i g' hg' => by
    have hlt : i < e.gens.length := by
      rw [← hlen]
      exact (List.getElem?_eq_some_iff.mp hg').1
    obtain ⟨g'', hg'', hk⟩ := hext i _ (List.getElem?_eq_getElem hlt)
    rw [hg''] at hg'
    cases hg'
    exact ⟨_, List.getElem?_eq_getElem hlt, hk⟩
  exact {
    nextEpoch := by rw [hnext, hlen]; exact h.nextEpoch
    epochs := fun i g' hg' => by
      obtain ⟨g, hg, hk⟩ := hback i g' hg'
      exact hk.epoch.trans (h.epochs i g hg)
    sides := fun i g' hg' => by
      obtain ⟨g, hg, hk⟩ := hback i g' hg'
      exact hk.inv (h.sides i g hg)
    sids := fun i g' hg' => by
      obtain ⟨g, hg, hk⟩ := hback i g' hg'
      rw [hk.sid]
      exact h.sids i g hg
    keys := (hst.map Prod.fst).nodup h.keys
    streams := fun s hs => (h.streams s (hst.subset hs)).mono hext
    closed := hcl
    recs := fun r hr => (hold r hr).mono hext
    reader := by
      rcases hrd with hrd | hrd
      · rw [hrd]; exact h.reader.mono hext
      · exact hrd.mono hext
    writer := fun n r c v hw => by
      have hlooked : e.HoldsRec r ∧ LookedOk e r c v := by
        rcases hwr n r c v hw with hw | hw
        · exact ⟨holdsRec_hand (by simp [hw, WriterPhase.hand]), h.writer n r c v hw⟩
        · exact hw
      exact ⟨fun c' hc => (hlooked.2.current c' hc).mono hext,
        fun hv => hlooked.2.valid (outputValid_of_extends hext (h.recs r hlooked.1) hv)⟩ }

/-- The lanes, the wire and the hands of writer and reader. -/
def lanes (e : Endpoint) : List Rec × List Output × List Rec × WriterPhase × ReaderPhase :=
  (e.output, e.control, e.wire, e.writer, e.reader)

/-- The step rule when they stay as they are. -/
theorem Wf.evolve_gens (h : e.Wf) (hext : Extends e.gens e'.gens)
    (hlen : e'.gens.length = e.gens.length) (hnext : e'.nextEpoch = e.nextEpoch)
    (hst : e'.streams.Sublist e.streams) (hcl : e'.closed = true → e'.streams = [])
    (hlanes : e'.lanes = e.lanes) : e'.Wf := by
  simp only [lanes, Prod.mk.injEq] at hlanes
  obtain ⟨ho, hc, hw, hwr, hrd⟩ := hlanes
  refine h.evolve hext hlen hnext hst hcl (fun r hr => Or.inl ?_) (Or.inl hrd)
    (fun n r c v hl => Or.inl (hwr ▸ hl))
  simpa only [HoldsRec, ho, hc, hw, hwr] using hr

/-! ## 3. The operations keep the invariant -/

theorem Wf.setTask (h : e.Wf) (i : Nat) (task : Task) : (e.setTask i task).Wf :=
  h.evolve_gens (Extends.modify fun _ _ => ⟨rfl, rfl, rfl, id, id, id⟩)
    (List.length_modify _ _ _) rfl
    (List.Sublist.refl _) h.closed rfl

theorem Wf.setSide (h : e.Wf) (hs : ∀ g, e.gens[i]? = some g → g.Keeps { g with side := side }) :
    (e.setSide i side).Wf :=
  h.evolve_gens (Extends.modify hs) (List.length_modify _ _ _) rfl (List.Sublist.refl _) h.closed
    rfl

/-- **What `finish` does**: nothing, or it removes and cancels the generation that is registered and
has that epoch. -/
theorem finish_cases (e : Endpoint) (sid epoch : Nat) (preserve : Bool) :
    (e.finish sid epoch preserve = (e, false) ∧
      ∀ i, e.get sid = some i → e.epochOf i ≠ some epoch) ∨
    ∃ i, e.get sid = some i ∧ e.epochOf i = some epoch ∧
      e.finish sid epoch preserve = ({ e with
        streams := e.streams.filter fun s => s.1 ≠ sid
        gens := e.gens.modify i (Gen.cancel preserve) }, true) := by
  unfold finish
  cases hg : e.get sid with
  | none => exact Or.inl ⟨rfl, fun i hi => by cases hi⟩
  | some i =>
    by_cases hep : e.epochOf i = some epoch
    · exact Or.inr ⟨i, rfl, hep, by simp only [hep, if_true]⟩
    · refine Or.inl ⟨by simp only [hep, if_false], ?_⟩
      rintro j ⟨⟩
      exact hep

theorem Wf.finish (h : e.Wf) (sid epoch : Nat) (preserve : Bool) :
    (e.finish sid epoch preserve).1.Wf := by
  rcases e.finish_cases sid epoch preserve with ⟨heq, -⟩ | ⟨i, -, -, heq⟩
  · rw [heq]; exact h
  · rw [heq]
    exact h.evolve_gens (Extends.modify fun g _ => Gen.Keeps.cancel preserve g)
      (List.length_modify _ _ _) rfl
      List.filter_sublist (fun hc => by simp [h.closed hc]) rfl

theorem Wf.settle (h : e.Wf) (n : Negotiation) : (e.settle n).Wf := by
  unfold Endpoint.settle
  split
  · exact { h with writer := fun n r c v hw => { h.writer n r c v hw with } }
  · exact h

theorem Wf.shutdown (h : e.Wf) : e.shutdown.Wf := by
  refine Endpoint.Wf.settle ?_ _
  exact h.evolve_gens (Extends.cancelSome _ _) (List.length_mapIdx) rfl (List.nil_sublist _)
    (fun _ => rfl) rfl

/-- Fields that the invariant does not read. -/
theorem Wf.congr (h : e.Wf) (hsame : (e'.gens, e'.nextEpoch, e'.streams, e'.closed, e'.lanes) =
      (e.gens, e.nextEpoch, e.streams, e.closed, e.lanes)) : e'.Wf := by
  simp only [Prod.mk.injEq] at hsame
  obtain ⟨hg, hn, hs, hc, hlanes⟩ := hsame
  exact h.evolve_gens (hg ▸ Extends.refl _) (by rw [hg]) hn (hs ▸ List.Sublist.refl _)
    (fun hcl => by rw [hs]; exact h.closed (hc ▸ hcl)) hlanes

theorem Wf.stop (h : e.Wf) : e.stop.Wf :=
  h.shutdown.congr rfl

theorem Wf.pushOutput (h : e.Wf) {rs : List Rec} (hr : ∀ r ∈ rs, RecOk e.gens r) :
    Endpoint.Wf { e with output := e.output ++ rs } := by
  refine h.evolve (Extends.refl _) rfl rfl (List.Sublist.refl _) h.closed ?_ (Or.inl rfl)
    (fun _ _ _ _ hw => Or.inl hw)
  rintro r (hm | hm)
  · rcases List.mem_append.mp hm with hm | hm
    · exact Or.inl (Or.inl hm)
    · exact Or.inr (hr r hm)
  · exact Or.inl (Or.inr hm)

theorem Wf.pushControl (h : e.Wf) {os : List Output} (ho : ∀ r, .record r ∈ os → RecOk e.gens r) :
    Endpoint.Wf { e with control := e.control ++ os } := by
  refine h.evolve (Extends.refl _) rfl rfl (List.Sublist.refl _) h.closed ?_ (Or.inl rfl)
    (fun _ _ _ _ hw => Or.inl hw)
  rintro r (hm | hm | hm)
  · exact Or.inl (Or.inl hm)
  · rcases List.mem_append.mp hm with hm | hm
    · exact Or.inl (Or.inr (Or.inl hm))
    · exact Or.inr (ho r hm)
  · exact Or.inl (Or.inr (Or.inr hm))

theorem Wf.setReader (h : e.Wf) {p : ReaderPhase} (hp : ReaderOk e.gens p) :
    Endpoint.Wf { e with reader := p } :=
  h.evolve (Extends.refl _) rfl rfl (List.Sublist.refl _) h.closed (fun _ hr => Or.inl hr)
    (Or.inr hp) (fun _ _ _ _ hw => Or.inl hw)

/-- The generation that `allocate` creates. -/
def fresh (e : Endpoint) (sid : Nat) (peer : Option Nat) (pre : Bytes) (task : Task) : Gen :=
  ⟨sid, Side.new (Flow.new e.nextEpoch peer e.window.bytes) e.chunk.bytes pre, task⟩

/-- **What `allocate` does when it succeeds.** -/
theorem allocate_ok {peer : Option Nat} {pre : Bytes} {task : Task}
    (h : e.allocate sid peer pre task = .ok e') :
    e.closed = false ∧ sid ≠ 0 ∧ e.get sid = none ∧ e' = { e with
      nextEpoch := e.nextEpoch + 1
      gens := e.gens ++ [e.fresh sid peer pre task]
      streams := (sid, e.gens.length) :: e.streams } := by
  revert h
  fun_cases allocate e sid peer pre task <;> intro h <;> cases h
  rename_i hopen hfree _ _
  simp only [not_or, Bool.not_eq_true, Option.isSome_eq_false_iff, Option.isNone_iff_eq_none]
    at hfree
  exact ⟨by simpa using hopen, hfree.1, hfree.2, rfl⟩

theorem prepare_ok {p : PendingOpen} (h : e.prepare p = .ok e') :
    ∃ target, p.target = some target ∧
      e.allocate p.sid p.window p.pre (.opening target false) = .ok e' := by
  revert h
  fun_cases prepare e p <;> intro h
  · cases h
  · cases h
  · exact ⟨_, ‹_›, h⟩

end Endpoint

theorem getElem?_append_one {x : Gen} (h : (gs ++ [x])[i]? = some g) :
    gs[i]? = some g ∨ (i = gs.length ∧ g = x) := by
  rcases Nat.lt_or_ge i gs.length with hlt | hge
  · rw [List.getElem?_append_left hlt] at h
    exact Or.inl h
  · rw [List.getElem?_append_right hge] at h
    have hi : i - gs.length = 0 := by
      have := (List.getElem?_eq_some_iff.mp h).1
      simp only [List.length_singleton] at this
      omega
    rw [hi] at h
    cases h
    exact Or.inr ⟨by omega, rfl⟩

theorem Endpoint.Wf.allocate {peer : Option Nat} {pre : Bytes} {task : Task} (h : e.Wf)
    (ha : e.allocate sid peer pre task = .ok e') : e'.Wf := by
  obtain ⟨hopen, hsid, hnone, rfl⟩ := Endpoint.allocate_ok ha
  have hext := Extends.append e.gens [e.fresh sid peer pre task]
  exact {
    nextEpoch := by simp [h.nextEpoch]
    epochs := fun i g hg => by
      rcases getElem?_append_one hg with hg | ⟨rfl, rfl⟩
      · exact h.epochs i g hg
      · exact h.nextEpoch
    sides := fun i g hg => by
      rcases getElem?_append_one hg with hg | ⟨rfl, rfl⟩
      · exact h.sides i g hg
      · refine Side.Inv.new _ _ ?_ e.chunk.one_le pre
        have := e.window.bytes_le
        simp only [u32Max]
        omega
    sids := fun i g hg => by
      rcases getElem?_append_one hg with hg | ⟨rfl, rfl⟩
      · exact h.sids i g hg
      · exact hsid
    keys := by
      refine List.nodup_cons.mpr ⟨fun hmem => ?_, h.keys⟩
      obtain ⟨s, hs, hkey⟩ := List.mem_map.mp hmem
      have := List.lookup_eq_none_iff.mp hnone s hs
      simp [hkey] at this
    streams := fun s hs => by
      rcases List.mem_cons.mp hs with rfl | hs
      · exact ⟨e.fresh sid peer pre task, by simp, rfl⟩
      · exact (h.streams s hs).mono hext
    closed := fun hc => by rw [hopen] at hc; cases hc
    recs := fun r hr => (h.recs r hr).mono hext
    reader := h.reader.mono hext
    writer := fun n r c v hw => by
      have hl := h.writer n r c v hw
      have hw' : e.writer = .looked n r c v := hw
      have hr := h.recs r (Endpoint.holdsRec_hand (by simp [hw', WriterPhase.hand]))
      exact ⟨fun c' hc => (hl.current c' hc).mono hext,
        fun hv => hl.valid (outputValid_of_extends hext hr hv)⟩ }

theorem Endpoint.tryControl_eq_some {o : Output} (h : e.tryControl o = some e') :
    e' = { e with control := e.control ++ [o] } := by
  unfold Endpoint.tryControl at h
  split at h
  · exact (Option.some.inj h).symm
  · cases h

theorem Endpoint.tryControl_room {o : Output} (h : e.tryControl o = some e') :
    e.controlRoom = true := by
  unfold Endpoint.tryControl at h
  split at h
  · assumption
  · cases h

theorem recOk_own (hg : gs[i]? = some g) (m : Msg) : RecOk gs ⟨g.sid, m, some i⟩ :=
  ⟨fun j hj => by cases hj; exact ⟨g, hg, rfl⟩, fun hn => by cases hn⟩

theorem Endpoint.Wf.readerControl (h : e.Wf) (hr : RecOk e.gens r) : (e.readerControl r).Wf := by
  unfold Endpoint.readerControl
  cases htc : e.tryControl (.record r) with
  | some e' =>
    rw [Endpoint.tryControl_eq_some htc]
    refine (h.pushControl fun x hx => ?_).setReader trivial
    cases List.mem_singleton.mp hx
    exact hr
  | none =>
    have hidle : Endpoint.Wf { e with reader := .idle } := h.setReader trivial
    have hnote : Endpoint.Wf { e.noteExhausted with reader := .idle } :=
      hidle.congr rfl
    exact hnote.stop

theorem Gen.keeps_stepUp (hI : g.side.Inv) {a : UpAction} {o : Option Msg}
    (h : g.side.stepUp a = some (side, o)) : g.Keeps { g with side := side } := by
  obtain ⟨hinv, hspec, -⟩ := hI.stepUp h
  have hep : side.flow.epoch = g.side.flow.epoch := by rw [hspec.frame]
  have hlim : side.flow.receiveLimit = g.side.flow.receiveLimit := by rw [hspec.frame]
  have hval : side.flow.outputValid = g.side.flow.outputValid := by rw [hspec.frame]
  have hcan : side.flow.cancelled = g.side.flow.cancelled := by rw [hspec.frame]
  exact ⟨rfl, hep, hlim, fun hv => hval ▸ hv, fun hc => hcan.trans hc, fun _ => hinv⟩

theorem Gen.keeps_stepDown (hI : g.side.Inv) {a : DownAction} {o : Option Msg}
    (h : g.side.stepDown a = some (side, o)) : g.Keeps { g with side := side } := by
  obtain ⟨hinv, hspec, -⟩ := hI.stepDown h
  refine ⟨rfl, hspec.frame.epoch, hspec.frame.receiveLimit, fun hv => ?_, fun hc => ?_,
    fun _ => hinv⟩
  · rcases hspec.status with ⟨-, hval⟩ | ⟨-, hval⟩
    · exact hval ▸ hv
    · rw [hval] at hv; cases hv
  · rcases hspec.status with ⟨hcan, -⟩ | ⟨hcan, -⟩
    · exact hcan.trans hc
    · exact hcan

theorem Flow.dispatch_status {f g : Flow} {flags : UInt8} {payload : Bytes}
    (h : f.dispatch flags payload = .ok g) : f.SameStatus g := by
  rcases Flow.dispatch_ok h with ⟨-, rfl | ⟨n, -, -, rfl⟩⟩ | ⟨-, -, -, rfl⟩ | ⟨-, henq⟩
  · exact Flow.SameStatus.refl _
  · exact ⟨rfl, rfl, rfl, rfl, rfl, rfl⟩
  · exact Flow.SameStatus.refl _
  · exact (Flow.enqueue_ok henq).2.2.1

theorem Gen.keeps_dispatch {flags : UInt8} {payload : Bytes}
    (h : g.side.dispatch flags payload = .ok side) : g.Keeps { g with side := side } := by
  have hinv := fun hI : g.side.Inv => hI.dispatch h
  unfold Side.dispatch at h
  cases hd : g.side.flow.dispatch flags payload with
  | error e => rw [hd] at h; cases h
  | ok f =>
    have hst := Flow.dispatch_status hd
    rw [hd] at h
    cases h
    exact ⟨rfl, hst.epoch, hst.receiveLimit, fun hv => hst.outputValid ▸ hv,
      fun hc => hst.cancelled.trans hc, hinv⟩

/-! ## 4. Every step keeps it -/

/-- The task is still in `open_stream`. -/
def Task.isOpening : Task → Bool
  | .opening _ _ => true
  | _ => false

namespace Endpoint

/-- **What a step of a task does.**  It moves on by itself, hands `OPEN` over, removes its stream,
lets a pump move, queues the reset of the stream it has removed, or shuts the session down because
it cannot. -/
inductive TaskStep (e : Endpoint) (i : Nat) (g : Gen) : Endpoint → Prop
  | move (task : Task) (h : task ≠ .resetting) (ho : task.isOpening = g.task.isOpening) :
    e.TaskStep i g (e.setTask i task)
  | opened (target : Bytes) (r : Rec) (h : g.task = .opening target true)
    (hr : r = ⟨g.sid, .opening g.side.flow.negotiated target, some i⟩) :
    e.TaskStep i g ({ e with output := e.output ++ [r] }.setTask i .bridging)
  | finish (preserve : Bool) (task : Task)
    (h : preserve = true → g.task = .bridging ∧ (g.side.flow.cancelled = true ∨ g.joined = true))
    (hr : task = .resetting → preserve = false ∧ (e.finish g.sid g.epoch preserve).2 = true)
    (ht : task = .resetting ∨ task = .ended) :
    e.TaskStep i g ((e.finish g.sid g.epoch preserve).1.setTask i task)
  | up (a : UpAction) (side : Side) (o : Option Msg) (h : g.task = .bridging)
    (hs : g.side.stepUp a = some (side, o)) :
    e.TaskStep i g { e.setSide i side with
      output := e.output ++ o.toList.map fun m => Rec.mk g.sid m (some i) }
  | down (a : DownAction) (side : Side) (o : Option Msg) (exhausted : Bool) (h : g.task = .bridging)
    (hs : g.side.stepDown a = some (side, o)) :
    e.TaskStep i g { e.setSide i side with
      control := e.control ++ o.toList.map fun m => Output.record (Rec.mk g.sid m (some i))
      exhausted := exhausted }
  | reset (r : Rec) (h : g.task = .resetting) (hr : r = ⟨g.sid, .rst, some i⟩) :
    e.TaskStep i g ({ e with control := e.control ++ [Output.record r] }.setTask i .ended)
  | shutdown (h : g.task = .resetting) :
    e.TaskStep i g ((e.noteExhausted.shutdown).setTask i .ended)

theorem taskStep_fail (e : Endpoint) (i : Nat) (g : Gen) : e.TaskStep i g (e.failTask i g) := by
  unfold failTask
  dsimp only
  cases hr : (e.finish g.sid g.epoch false).2 with
  | true => exact .finish false .resetting (by simp) (fun _ => ⟨rfl, hr⟩) (Or.inl rfl)
  | false => exact .finish false .ended (by simp) (by simp) (Or.inr rfl)

theorem taskStep_spec {a : TaskAction} (hs : e.taskStep i g a = some e') : e.TaskStep i g e' := by
  revert hs
  fun_cases taskStep e i g a <;> intro hs <;> try cases hs
  case case1 htask _ => exact .move _ (by simp) (by rw [htask]; rfl)
  case case4 htask _ _ => exact .opened _ _ htask rfl
  case case7 => exact .finish false .ended (by simp) (by simp) (Or.inr rfl)
  case case9 htask => exact .move _ (by simp) (by rw [htask]; rfl)
  case case11 | case21 => exact e.taskStep_fail i g
  case case13 htask => exact .move _ (by simp) (by rw [htask.1]; rfl)
  case case15 a hc =>
    obtain ⟨⟨side, o⟩, hstep, rfl⟩ := Option.map_eq_some_iff.mp hs
    exact .up a side o hc.1 hstep
  case case17 a hc =>
    obtain ⟨⟨side, o⟩, hstep, rfl⟩ := Option.map_eq_some_iff.mp hs
    exact .down a side o _ hc.1 hstep
  case case19 hc => exact .finish true .ended (fun _ => hc) (by simp) (Or.inr rfl)
  case case23 htask =>
    unfold resetTask
    split
    · rename_i e' htc
      rw [tryControl_eq_some htc]
      exact .reset _ htask rfl
    · exact .shutdown htask

/-- A step of a pump: the generation's side changes, and what the pump hands over is its own. -/
theorem Wf.pump (h : e.Wf) (hg : e.gens[i]? = some g) (hk : g.Keeps { g with side := side }) :
    (e.setSide i side).Wf ∧ ∀ m, RecOk (e.setSide i side).gens ⟨g.sid, m, some i⟩ := by
  refine ⟨h.setSide fun g' hg' => ?_, fun m => ?_⟩
  · rw [hg] at hg'
    cases hg'
    exact hk
  · exact recOk_own (g := { g with side := side }) (getElem?_modify_self hg _) m

theorem Wf.taskStep (h : e.Wf) (hg : e.gens[i]? = some g) (hs : e.TaskStep i g e') : e'.Wf := by
  cases hs with
  | move task => exact h.setTask _ _
  | opened target r _ hr =>
    subst hr
    refine (h.pushOutput fun r hr => ?_).setTask _ _
    rw [List.mem_singleton.mp hr]
    exact recOk_own hg _
  | finish preserve task => exact (h.finish _ _ _).setTask _ _
  | up a side o _ hstep =>
    obtain ⟨hwf, hrec⟩ := h.pump hg (Gen.keeps_stepUp (h.sides i g hg) hstep)
    refine hwf.pushOutput fun r hr => ?_
    obtain ⟨m, -, rfl⟩ := List.mem_map.mp hr
    exact hrec m
  | down a side o exhausted _ hstep =>
    obtain ⟨hwf, hrec⟩ := h.pump hg (Gen.keeps_stepDown (h.sides i g hg) hstep)
    have hpush : Endpoint.Wf { e.setSide i side with
        control := e.control ++ o.toList.map fun m => .record ⟨g.sid, m, some i⟩ } :=
      hwf.pushControl fun r hr => by
        obtain ⟨m, -, hm⟩ := List.mem_map.mp hr
        cases hm
        exact hrec m
    exact hpush.congr rfl
  | reset r _ hr =>
    subst hr
    refine (h.pushControl fun r hr => ?_).setTask _ _
    cases List.mem_singleton.mp hr
    exact recOk_own hg .rst
  | shutdown =>
    have hnote : e.noteExhausted.Wf := h.congr rfl
    exact hnote.shutdown.setTask _ _

theorem allocateOpen_ok {e e' : Endpoint} {f : Incoming} {peer : Option Nat}
    (h : e.allocateOpen f peer = some e') : e.allocate f.sid peer [] .connecting = .ok e' := by
  unfold allocateOpen at h
  split at h
  · cases ha : e.allocate f.sid peer [] .connecting with
    | ok e'' => rw [ha] at h; cases h; rfl
    | error x => rw [ha] at h; cases h
  · cases h

/-- **What `OPEN` does at a server**: it allocates the stream, with credit exactly when it was asked
for and negotiated, or it is to be answered with a reset. -/
theorem receiveOpen_cases (e : Endpoint) (f : Incoming) :
    (∃ peer e', e.allocate f.sid peer [] .connecting = .ok e' ∧ e.receiveOpen f = e' ∧
      (hasFlag f.flags flagOpenCredit = true → ∃ w, e.negotiation = .credit w ∧ peer = some w) ∧
      (hasFlag f.flags flagOpenCredit = false → peer = none)) ∨
    e.receiveOpen f = { e with reader := .rejecting f.sid } := by
  unfold receiveOpen
  dsimp only
  split
  · rename_i e' he
    split at he
    · rename_i hflag
      split at he
      · rename_i w hw
        exact Or.inl ⟨some w, e', allocateOpen_ok he, rfl, fun _ => ⟨w, hw, rfl⟩, fun hc => by
          rw [hflag] at hc
          cases hc⟩
      · cases he
    · rename_i hflag
      exact Or.inl ⟨none, e', allocateOpen_ok he, rfl, fun hc => absurd hc hflag, fun _ => rfl⟩
  · exact Or.inr rfl

/-- **What a step of the reader does.**  It takes a capability, an `OPEN`, a record for a registered
stream or one for an unknown id; it resets the stream it has a record for, hands the record to the
flow or finds it refused; it removes the stream that refused, looks up the id of a rejected `OPEN`,
and queues the reset that is due; or it answers a ping. -/
inductive ReaderStep (e : Endpoint) : ReaderAction → Endpoint → Prop
  | ignored (f : Incoming) (hr : e.reader = .idle)
    (hno : f.sid = 0 ∨ ¬ (hasFlag f.flags flagOpen = true ∧ (!e.client) = true))
    (hget : f.sid = 0 ∨ e.get f.sid = none) : e.ReaderStep (.receive f) e
  | settled (f : Incoming) (window : Nat) (hr : e.reader = .idle) (hc : e.client = true)
    (h0 : f.flags = flagWin ∧ f.sid = 0) (hp : parseCapability f.payload 2 = some window) :
    e.ReaderStep (.receive f) (e.settle (.credit window))
  | capability (f : Incoming) (window : Nat) (hr : e.reader = .idle) (hc : e.client = false)
    (h0 : f.flags = flagWin ∧ f.sid = 0) (hp : parseCapability f.payload 1 = some window) :
    e.ReaderStep (.receive f)
      ({ e with negotiation := .credit window }.readerControl ⟨0, .cap 2 e.window.bytes, none⟩)
  | opened (f : Incoming) (peer : Option Nat) (e' : Endpoint) (hr : e.reader = .idle)
    (ho : hasFlag f.flags flagOpen = true) (hc : e.client = false)
    (ha : e.allocate f.sid peer [] .connecting = .ok e')
    (hp : hasFlag f.flags flagOpenCredit = true → ∃ w, e.negotiation = .credit w ∧ peer = some w)
    (hn : hasFlag f.flags flagOpenCredit = false → peer = none) :
    e.ReaderStep (.receive f) e'
  | rejected (f : Incoming) (hr : e.reader = .idle) (ho : hasFlag f.flags flagOpen = true)
    (hc : e.client = false) : e.ReaderStep (.receive f) { e with reader := .rejecting f.sid }
  | got (f : Incoming) (i : Nat) (hr : e.reader = .idle) (hi : e.get f.sid = some i)
    (hno : ¬ (hasFlag f.flags flagOpen = true ∧ (!e.client) = true)) :
    e.ReaderStep (.receive f) { e with reader := .got f i }
  | unknown (f : Incoming) (hr : e.reader = .idle) (hi : e.get f.sid = none)
    (hno : ¬ (hasFlag f.flags flagOpen = true ∧ (!e.client) = true)) (hc : e.client = false)
    (hd : hasFlag f.flags flagData = true ∧ f.payload ≠ []) :
    e.ReaderStep (.receive f) (e.readerControl ⟨f.sid, .rst, none⟩)
  | aborted (f : Incoming) (i : Nat) (g : Gen) (hr : e.reader = .got f i)
    (hg : e.gens[i]? = some g) (hf : hasFlag f.flags flagRst = true) :
    e.ReaderStep .apply { (e.remove f.sid g.epoch).1 with reader := .idle }
  | applied (f : Incoming) (i : Nat) (g : Gen) (side : Side) (hr : e.reader = .got f i)
    (hg : e.gens[i]? = some g) (hf : hasFlag f.flags flagRst = false)
    (hd : g.side.dispatch f.flags f.payload = .ok side) :
    e.ReaderStep .apply { e.setSide i side with reader := .idle }
  | refused (f : Incoming) (i : Nat) (g : Gen) (x : String) (hr : e.reader = .got f i)
    (hg : e.gens[i]? = some g) (hf : hasFlag f.flags flagRst = false)
    (hd : g.side.dispatch f.flags f.payload = .error x) :
    e.ReaderStep .apply { e with reader := .refused f i }
  | removed (f : Incoming) (i : Nat) (g : Gen) (hr : e.reader = .refused f i)
    (hg : e.gens[i]? = some g) :
    e.ReaderStep .remove { (e.remove f.sid g.epoch).1 with
      reader := if (e.remove f.sid g.epoch).2 then .resetting f.sid (some i) else .idle }
  | looked (sid : Nat) (hr : e.reader = .rejecting sid) :
    e.ReaderStep .lookup { e with reader := .resetting sid (e.get sid) }
  | replied (sid : Nat) (gen : Option Nat) (hr : e.reader = .resetting sid gen) :
    e.ReaderStep .reply (e.readerControl ⟨sid, .rst, gen⟩)
  | ponged (payload : Bytes) (hr : e.reader = .idle) (hroom : e.controlRoom = true) :
    e.ReaderStep (.ping payload) { e with control := e.control ++ [.pong payload] }
  | pingFailed (payload : Bytes) (hr : e.reader = .idle) : e.ReaderStep (.ping payload) e.stop

theorem receive_spec (e : Endpoint) (f : Incoming) (hr : e.reader = .idle) :
    e.ReaderStep (.receive f) (e.receive f) := by
  unfold receive
  split
  · rename_i h0
    unfold receiveCapability
    by_cases hc : e.client = true
    · rw [if_pos hc]
      split
      · rename_i window hp
        exact .settled f window hr hc h0 hp
      · exact .ignored f hr (.inl h0.2) (.inl h0.2)
    · rw [if_neg hc]
      split
      · rename_i window hp
        exact .capability f window hr (by simpa using hc) h0 hp
      · exact .ignored f hr (.inl h0.2) (.inl h0.2)
  · split
    · rename_i hopen
      have hc : e.client = false := by simpa using hopen.2
      rcases e.receiveOpen_cases f with ⟨peer, e', ha, heq, hp, hn⟩ | heq
      · rw [heq]
        exact .opened f peer e' hr hopen.1 hc ha hp hn
      · rw [heq]
        exact .rejected f hr hopen.1 hc
    · rename_i hno
      split
      · rename_i i hi
        exact .got f i hr hi hno
      · rename_i hi
        split
        · rename_i hdata
          exact .unknown f hr hi hno (by simpa using hdata.2.2) ⟨hdata.1, hdata.2.1⟩
        · exact .ignored f hr (.inr hno) (.inr hi)

theorem readerStep_spec {a : ReaderAction} (hs : e.readerStep a = some e') : e.ReaderStep a e' := by
  revert hs
  fun_cases readerStep e a <;> intro hs <;> cases hs
  case case1 f hr => exact e.receive_spec f hr
  case case4 f i hr g hg hf => exact .aborted f i g hr hg hf
  case case5 f i hr g hg hf side hd => exact .applied f i g side hr hg (by simpa using hf) hd
  case case6 f i hr g hg hf x hd => exact .refused f i g x hr hg (by simpa using hf) hd
  case case9 f i hr g hg _ => exact .removed f i g hr hg
  case case11 sid hr => exact .looked sid hr
  case case13 sid gen hr => exact .replied sid gen hr
  case case15 payload hr htc =>
    rw [tryControl_eq_some htc]
    exact .ponged payload hr (tryControl_room htc)
  case case16 payload hr _ => exact .pingFailed payload hr

theorem Wf.readerStep {a : ReaderAction} (h : e.Wf) (hs : e.ReaderStep a e') : e'.Wf := by
  have hreader := h.reader
  cases hs with
  | ignored => exact h
  | settled f window => exact h.settle _
  | capability f window =>
    refine Endpoint.Wf.readerControl ?_ ⟨fun i hi => (by cases hi), fun _ => Or.inr rfl⟩
    exact h.congr rfl
  | opened f peer e' _ _ _ ha => exact h.allocate ha
  | rejected f => exact h.setReader trivial
  | got f i _ hi => exact h.setReader (h.isGen_of_get hi)
  | unknown f => exact h.readerControl ⟨fun i hi => (by cases hi), fun _ => Or.inl rfl⟩
  | aborted f i g hr hg => exact (h.finish _ _ _).setReader trivial
  | applied f i g side hr hg hf hd =>
    refine (h.setSide fun g' hg' => ?_).setReader trivial
    rw [hg] at hg'
    cases hg'
    exact Gen.keeps_dispatch hd
  | refused f i g x hr =>
    rw [hr] at hreader
    exact h.setReader hreader
  | removed f i g hr =>
    rw [hr] at hreader
    have hok : IsGen e.gens f.sid i := hreader
    refine (h.finish f.sid g.epoch false).setReader ?_
    split
    · rcases e.finish_cases f.sid g.epoch false with ⟨heq, -⟩ | ⟨j, -, -, heq⟩
      · rw [heq]; exact hok
      · rw [heq]
        exact hok.mono (Extends.modify fun g _ => Gen.Keeps.cancel false g)
    · trivial
  | looked sid =>
    refine h.setReader ?_
    cases hget : e.get sid with
    | none => trivial
    | some i => exact h.isGen_of_get hget
  | replied sid gen hr =>
    rw [hr] at hreader
    refine h.readerControl ⟨fun i hi => ?_, fun _ => Or.inl rfl⟩
    cases hi
    exact hreader
  | ponged payload => exact h.pushControl fun r hr => by cases List.mem_singleton.mp hr
  | pingFailed => exact h.stop

/-- **What a step of the writer does.**  It takes the oldest record of a lane into its hand, looks
the one in its hand up, drops or passes it, or moves on with nothing in its hand. -/
inductive WriterStep (e : Endpoint) : Endpoint → Prop
  | tookControl (n : Nat) (o : Output) (rest : List Output) (hw : e.writer.hand = [])
    (hc : e.control = o :: rest) : e.WriterStep { e with control := rest, writer := .took n o }
  | tookOutput (n : Nat) (r : Rec) (rest : List Rec) (hw : e.writer.hand = [])
    (ho : e.output = r :: rest) :
    e.WriterStep { e with output := rest, writer := .took n (.record r) }
  | moved (w : WriterPhase) (hw : e.writer.hand = []) (hnil : w.hand = [])
    (hno : ∀ n r c v, w ≠ .looked n r c v) : e.WriterStep { e with writer := w }
  | looked (n : Nat) (r : Rec) (hw : e.writer = .took n (.record r)) :
    e.WriterStep { e with writer := .looked n r (e.get r.sid) (e.outputValid r) }
  | dropped (n : Nat) (r : Rec) (c : Option Nat) (v : Bool) (hw : e.writer = .looked n r c v)
    (hd : e.drops r c = true) : e.WriterStep { e with writer := .batch (n + 1) }
  | passed (n : Nat) (r : Rec) (c : Option Nat) (v : Bool) (hw : e.writer = .looked n r c v)
    (hd : e.drops r c = false) :
    e.WriterStep { e with writer := .batch (n + 1), wire := e.wire ++ [r] }

theorem writerStep_spec (h : e.writerStep a = some e') : e.WriterStep e' := by
  revert h
  fun_cases writerStep e a <;> intro h <;> cases h
  case case1 o rest hc hw => exact .tookControl 0 o rest (by rw [hw]; rfl) hc
  case case3 r rest ho hw => exact .tookOutput 0 r rest (by rw [hw]; rfl) ho
  case case5 n hw _ o rest hc => exact .tookControl n o rest (by rw [hw]; rfl) hc
  case case6 n hw _ r rest ho _ => exact .tookOutput n r rest (by rw [hw]; rfl) ho
  case case10 n hw _ => exact .moved .select (by rw [hw]; rfl) rfl (by simp)
  case case13 n _ hw => exact .moved (.batch (n + 1)) (by rw [hw]; rfl) rfl (by simp)
  case case15 n r hw => exact .looked n r hw
  case case17 n r c v hw hd => exact .dropped n r c v hw hd
  case case18 n r c v hw hd => exact .passed n r c v hw (by simpa using hd)

/-- The writer touches the lanes and the wire only. -/
theorem writerStep_eq (h : e.writerStep a = some e') :
    e' = { e with
      output := e'.output, control := e'.control, writer := e'.writer, wire := e'.wire } := by
  cases writerStep_spec h <;> rfl

theorem Wf.writerStep (h : e.Wf) (hs : e.writerStep a = some e') : e'.Wf := by
  -- the registry and the generations stay; what is held afterwards was held before
  have hrule : (∀ r ∈ e'.output, r ∈ e.output) → (∀ o ∈ e'.control, o ∈ e.control) →
      (∀ r ∈ e'.wire, e.HoldsRec r) → (∀ r ∈ e'.writer.hand, e.HoldsRec r) →
      (∀ n r c v, e'.writer = .looked n r c v → e.HoldsRec r ∧ LookedOk e r c v) → e'.Wf := by
    intro hout hcon hwire hhand hwr
    rw [writerStep_eq hs] at hout hcon hwire hhand hwr ⊢
    refine h.evolve (Extends.refl _) rfl rfl (List.Sublist.refl _) h.closed
      (fun r hr => Or.inl ?_) (Or.inl rfl) (fun n r c v hw => Or.inr (hwr n r c v hw))
    rcases hr with hr | hr | hr | hr
    · exact Or.inl (hout r hr)
    · exact Or.inr (Or.inl (hcon _ hr))
    · exact hwire r hr
    · exact hhand r hr
  have hkeep : ∀ r ∈ e.wire, e.HoldsRec r := fun r hr => Or.inr (Or.inr (Or.inl hr))
  cases writerStep_spec hs with
  | tookControl n o rest _ hc =>
    refine hrule (fun _ => id) (fun _ hr => hc ▸ List.mem_cons_of_mem _ hr) hkeep ?_
      (fun n r c v hl => by cases hl)
    cases o with
    | pong payload => exact fun r hr => by cases hr
    | record x =>
      intro r hr
      rw [List.mem_singleton.mp hr]
      exact Or.inr (Or.inl (hc ▸ List.mem_cons_self))
  | tookOutput n x rest _ ho =>
    refine hrule (fun _ hr => ho ▸ List.mem_cons_of_mem _ hr) (fun _ => id) hkeep (fun r hr => ?_)
      (fun n r c v hl => by cases hl)
    rw [List.mem_singleton.mp hr]
    exact Or.inl (ho ▸ List.mem_cons_self)
  | moved w _ hw hno =>
    exact hrule (fun _ => id) (fun _ => id) hkeep (fun r hr => by rw [hw] at hr; cases hr)
      (fun n r c v hl => absurd hl (hno n r c v))
  | looked n x hw =>
    have hx : e.HoldsRec x := holdsRec_hand (by simp [hw, WriterPhase.hand])
    refine hrule (fun _ => id) (fun _ => id) hkeep
      (fun r hr => by rw [List.mem_singleton.mp hr]; exact hx) ?_
    rintro m r c v ⟨⟩
    exact ⟨hx, fun c hc => h.isGen_of_get hc, id⟩
  | dropped n x c v hw =>
    exact hrule (fun _ => id) (fun _ => id) hkeep (fun r hr => by cases hr)
      (fun n r c v hl => by cases hl)
  | passed n x c v hw =>
    have hx : e.HoldsRec x := holdsRec_hand (by simp [hw, WriterPhase.hand])
    refine hrule (fun _ => id) (fun _ => id) (fun r hr => ?_) (fun r hr => by cases hr)
      (fun n r c v hl => by cases hl)
    rcases List.mem_append.mp hr with hr | hr
    · exact hkeep r hr
    · rw [List.mem_singleton.mp hr]; exact hx

/-- **What a step of the endpoint does.** -/
inductive Step (e : Endpoint) : Action → Endpoint → Prop
  | fetched (target : Option Bytes) (pre : Bytes) (hc : e.client = true)
    (hn : e.negotiation ≠ .pending) :
    e.Step (.openFetch target pre) { e with
      nextSid := (e.nextSid + 1) % 2 ^ 32
      issued := e.issued + 1
      opens := e.opens ++ [⟨e.nextSid, e.negotiation.window?, target, pre⟩] }
  | prepared (k : Nat) (p : PendingOpen) (target : Bytes) (e' : Endpoint)
    (hk : e.opens[k]? = some p) (ht : p.target = some target)
    (ha : allocate { e with opens := e.opens.eraseIdx k } p.sid p.window p.pre
      (.opening target false) = .ok e') : e.Step (.openPrepare k) e'
  | unprepared (k : Nat) (p : PendingOpen) (hk : e.opens[k]? = some p) :
    e.Step (.openPrepare k) { e with opens := e.opens.eraseIdx k }
  | task (i : Nat) (g : Gen) (a : TaskAction) (e' : Endpoint) (hg : e.gens[i]? = some g)
    (hs : e.taskStep i g a = some e') : e.Step (.task i a) e'
  | read (a : ReaderAction) (e' : Endpoint) (hr : e.running = true) (hs : e.ReaderStep a e') :
    e.Step (.read a) e'
  | write (a : WriterAction) (e' : Endpoint) (hr : e.running = true)
    (hs : e.writerStep a = some e') : e.Step (.write a) e'
  | timeout (hc : e.client = true) : e.Step .timeout (e.settle .legacy)
  | stop (hr : e.running = true) : e.Step .stop e.stop

theorem step_spec {a : Action} (hs : e.step a = some e') : e.Step a e' := by
  revert hs
  fun_cases step e a <;> intro hs <;> try cases hs
  case case1 target pre hc => exact .fetched target pre hc.1 hc.2
  case case4 k p hp =>
    unfold tryPrepare
    cases hprep : prepare { e with opens := e.opens.eraseIdx k } p with
    | ok e' =>
      obtain ⟨target, ht, ha⟩ := prepare_ok hprep
      exact .prepared k p target e' hp ht ha
    | error x => exact .unprepared k p hp
  case case6 i a g hg => exact .task i g a e' hg hs
  case case7 a hr => exact .read a e' hr (readerStep_spec hs)
  case case9 a hr => exact .write a e' hr hs
  case case11 hc => exact .timeout hc
  case case13 hr => exact .stop hr

/-- What neither a task nor the reader touches. -/
structure Rest where
  client : Bool
  window : MuxWindow
  chunk : ChunkSize
  opens : List PendingOpen
  nextSid : Nat
  issued : Nat
  writer : WriterPhase
  wire : List Rec

def rest (e : Endpoint) : Rest :=
  ⟨e.client, e.window, e.chunk, e.opens, e.nextSid, e.issued, e.writer, e.wire⟩

theorem rest_settle (e : Endpoint) (n : Negotiation) : (e.settle n).rest = e.rest := by
  unfold settle
  split <;> rfl

theorem rest_finish (e : Endpoint) (sid epoch : Nat) (preserve : Bool) :
    (e.finish sid epoch preserve).1.rest = e.rest := by
  rcases e.finish_cases sid epoch preserve with ⟨heq, -⟩ | ⟨i, -, -, heq⟩
  · rw [heq]
  · rw [heq]
    rfl

theorem rest_shutdown (e : Endpoint) : e.shutdown.rest = e.rest :=
  rest_settle _ .legacy

theorem rest_allocate {peer : Option Nat} {pre : Bytes} {task : Task}
    (ha : e.allocate sid peer pre task = .ok e') : e'.rest = e.rest := by
  obtain ⟨-, -, -, rfl⟩ := allocate_ok ha
  rfl

theorem rest_readerControl (e : Endpoint) (r : Rec) : (e.readerControl r).rest = e.rest := by
  unfold readerControl
  split
  · rename_i e' htc
    rw [tryControl_eq_some htc]
    rfl
  · exact rest_shutdown _

theorem rest_taskStep (hs : e.TaskStep i g e') : e'.rest = e.rest := by
  cases hs with
  | finish preserve task => exact e.rest_finish g.sid g.epoch preserve
  | shutdown => exact e.noteExhausted.rest_shutdown
  | _ => rfl

theorem rest_readerStep {a : ReaderAction} (hs : e.ReaderStep a e') : e'.rest = e.rest := by
  cases hs with
  | settled f window => exact e.rest_settle _
  | capability | unknown | replied => exact rest_readerControl _ _
  | opened f peer e' _ _ _ ha => exact rest_allocate ha
  | aborted f i g => exact e.rest_finish f.sid g.epoch false
  | removed f i g => exact e.rest_finish f.sid g.epoch false
  | pingFailed => exact e.rest_shutdown
  | _ => rfl

/-- **What a step does to the rest**: nothing, or an open takes its id or prepares its stream, or
the writer moves. -/
theorem rest_step {a : Action} (hs : e.step a = some e') :
    e'.rest = e.rest ∨
    (∃ target pre, a = .openFetch target pre ∧ e.client = true ∧ e.negotiation ≠ .pending ∧
      e' = { e with
      nextSid := (e.nextSid + 1) % 2 ^ 32
      issued := e.issued + 1
      opens := e.opens ++ [⟨e.nextSid, e.negotiation.window?, target, pre⟩] }) ∨
    (∃ k, a = .openPrepare k ∧ e'.rest = { e.rest with opens := e.opens.eraseIdx k }) ∨
    ∃ b, a = .write b ∧ e.writerStep b = some e' := by
  cases step_spec hs with
  | fetched target pre hc hn => exact Or.inr (Or.inl ⟨target, pre, rfl, hc, hn, rfl⟩)
  | prepared k p target e' _ _ ha =>
    exact Or.inr (Or.inr (Or.inl ⟨k, rfl, rest_allocate ha⟩))
  | unprepared k p => exact Or.inr (Or.inr (Or.inl ⟨k, rfl, rfl⟩))
  | task i g a e' hg hs => exact Or.inl (rest_taskStep (taskStep_spec hs))
  | read a e' _ hs => exact Or.inl (rest_readerStep hs)
  | write a e' _ hs => exact Or.inr (Or.inr (Or.inr ⟨a, rfl, hs⟩))
  | timeout => exact Or.inl (e.rest_settle _)
  | stop => exact Or.inl e.rest_shutdown

theorem Wf.step {a : Action} (h : e.Wf) (hs : e.step a = some e') : e'.Wf := by
  cases step_spec hs with
  | fetched | unprepared => exact h.congr rfl
  | prepared k p target e' _ _ ha =>
    have herase : Endpoint.Wf { e with opens := e.opens.eraseIdx k } :=
      h.congr rfl
    exact herase.allocate ha
  | task i g a e' hg hs => exact h.taskStep hg (taskStep_spec hs)
  | read a e' _ hs => exact h.readerStep hs
  | write a e' _ hs => exact h.writerStep hs
  | timeout => exact h.settle _
  | stop => exact h.stop

theorem Wf.reachable {client : Bool} {window : MuxWindow} {chunk : ChunkSize}
    (h : Reachable Endpoint.step (Endpoint.new client window chunk) e) : e.Wf :=
  Reachable.invariant h (Endpoint.Wf.new client window chunk) fun _ _ _ hw hs => hw.step hs

end Endpoint

end BibaVpn.Mux
