/-
# Resets

A reset ends a stream at both ends: whoever queues it must be done with the stream, for the peer is
done with it as soon as it reads the reset.  `RST` is produced at five places.  The tasks of a
stream, and the reader when a flow refuses a record, remove the stream first and reset what they
have removed.  `DATA` for an unknown id is answered with a reset of no generation.  But the answer
to a rejected `OPEN` is scoped to whatever is registered under the id AT THAT MOMENT, and nothing is
removed.

* §1 is what a step can queue, in which lane, and what it can do to the tasks;
* §2: a generation that is over stays over;
* §3: as long as a rejected `OPEN` finds no stream under its id, every reset of a generation is of
  one that is over;
* §4: as long as `OPEN` and `DATA` that are refused find no preserved output under their id, and no
  stream is opened there while a reset of no generation is queued, such a reset too is of streams
  that are over, and a reset is final (`reset_final`).  Two runs show that the conditions are needed
  (`resets_of_live_output`).
-/
import BibaVpn.Mux.Moves

namespace BibaVpn.Mux

open Machine Lts

/-! ## 1. What a step queues -/

/-- The record is in a lane or in the writer's hand: it may still be passed on. -/
def Endpoint.Queued (e : Endpoint) (r : Rec) : Prop :=
  r ∈ e.output ∨ .record r ∈ e.control ∨ r ∈ e.writer.hand

/-- What the task of a generation sends: `OPEN` once, with the terms of the stream, a reset when it
has removed the stream, and what its pumps hand over. -/
def Msg.FromTask (g : Gen) : Msg → Prop
  | .opening credit target => g.task = .opening target true ∧ credit = g.side.flow.negotiated
  | .rst => g.task = .resetting
  | .cap _ _ => False
  | .data payload =>
    g.task = .bridging ∧ ∃ a side, g.side.stepUp a = some (side, some (.data payload))
  | _ => g.task = .bridging

/-- A server answers this record with a reset of no generation: it is not `OPEN`, it has data, and
there is no stream under its id. -/
structure Endpoint.Unknown (e : Endpoint) (f : Incoming) : Prop where
  server : e.client = false
  opens : hasFlag f.flags flagOpen = false
  data : hasFlag f.flags flagData = true ∧ f.payload ≠ []
  get : e.get f.sid = none

/-- What the reader sends for no generation: such a reset, or the answer to a capability. -/
def Endpoint.Answers (e : Endpoint) (a : ReaderAction) (r : Rec) : Prop :=
  (∃ f, a = .receive f ∧ r = ⟨f.sid, .rst, none⟩ ∧ e.Unknown f) ∨
  r = ⟨0, .cap 2 e.window.bytes, none⟩ ∧ e.client = false ∧
    ∃ f window, a = .receive f ∧ (f.flags = flagWin ∧ f.sid = 0) ∧
      parseCapability f.payload 1 = some window

/-- **What a step can queue.**  The task of a generation queues records of that generation, and a
reset only after it has removed the stream; the reader queues the reset that it has decided on, and
records of no generation. -/
inductive Endpoint.Queues (e : Endpoint) : Action → Rec → Prop
  | task (i : Nat) (g : Gen) (a : TaskAction) (r : Rec) (hg : e.gens[i]? = some g)
    (ht : g.task ≠ .ended) (hr : r.gen = some i) (hm : r.msg.FromTask g) :
    e.Queues (.task i a) r
  | reply (sid : Nat) (gen : Option Nat) (h : e.reader = .resetting sid gen) :
    e.Queues (.read .reply) ⟨sid, .rst, gen⟩
  | unscoped (a : ReaderAction) (r : Rec) (hr : r.gen = none) (hm : e.Answers a r) :
    e.Queues (.read a) r

variable {e e' : Endpoint} {r : Rec} {sid i : Nat} {task : Task} {g g' : Gen} {a : Action}

namespace Endpoint

/-- **A step adds records at the end of the lanes**, output to the one, the rest to the other. -/
structure Pushes (e : Endpoint) (a : Action) (e' : Endpoint) : Prop where
  output : ∃ rs, e'.output = e.output ++ rs ∧ ∀ r ∈ rs, r.msg.isOutput = true ∧ e.Queues a r
  control : ∃ os, e'.control = e.control ++ os ∧
    ∀ r, .record r ∈ os → r.msg.isOutput = false ∧ e.Queues a r

/-- What is in the lanes. -/
def queues (e : Endpoint) : List Rec × List Output := (e.output, e.control)

theorem queues_settle (e : Endpoint) (n : Negotiation) : (e.settle n).queues = e.queues := by
  unfold settle
  split <;> rfl

theorem queues_finish (e : Endpoint) (sid epoch : Nat) (preserve : Bool) :
    (e.finish sid epoch preserve).1.queues = e.queues := by
  rcases e.finish_cases sid epoch preserve with ⟨heq, -⟩ | ⟨i, -, -, heq⟩
  · rw [heq]
  · rw [heq]
    rfl

theorem queues_shutdown (e : Endpoint) : e.shutdown.queues = e.queues :=
  queues_settle _ .legacy

theorem queues_allocate {peer : Option Nat} {pre : Bytes}
    (ha : e.allocate sid peer pre task = .ok e') : e'.queues = e.queues := by
  obtain ⟨-, -, -, rfl⟩ := allocate_ok ha
  rfl

theorem Pushes.none (h : e'.queues = e.queues) : e.Pushes a e' := by
  have ho : e'.output = e.output := congrArg Prod.fst h
  have hc : e'.control = e.control := congrArg Prod.snd h
  exact ⟨⟨[], by rw [ho, List.append_nil], fun r hr => by cases hr⟩,
    ⟨[], by rw [hc, List.append_nil], fun r hr => by cases hr⟩⟩

/-- Records go into the output lane. -/
theorem Pushes.ofOutput (rs : List Rec) (h : e'.queues = (e.output ++ rs, e.control))
    (hrs : ∀ r ∈ rs, r.msg.isOutput = true ∧ e.Queues a r) : e.Pushes a e' := by
  have hc : e'.control = e.control := congrArg Prod.snd h
  exact ⟨⟨rs, congrArg Prod.fst h, hrs⟩, ⟨[], by rw [hc, List.append_nil], fun r hr => by cases hr⟩⟩

/-- Records go into the control lane. -/
theorem Pushes.ofControl (os : List Output) (h : e'.queues = (e.output, e.control ++ os))
    (hos : ∀ r, .record r ∈ os → r.msg.isOutput = false ∧ e.Queues a r) : e.Pushes a e' := by
  have ho : e'.output = e.output := congrArg Prod.fst h
  exact ⟨⟨[], by rw [ho, List.append_nil], fun r hr => by cases hr⟩, ⟨os, congrArg Prod.snd h, hos⟩⟩

theorem pushes_readerControl {e₁ : Endpoint} (h : e₁.queues = e.queues)
    (hm : r.msg.isOutput = false) (hr : e.Queues a r) : e.Pushes a (e₁.readerControl r) := by
  unfold readerControl
  split
  · rename_i e₂ htc
    rw [tryControl_eq_some htc]
    refine .ofControl [.record r] ?_ fun x hx => ?_
    · exact congrArg (fun q => (q.1, q.2 ++ [Output.record r])) h
    · cases List.mem_singleton.mp hx
      exact ⟨hm, hr⟩
  · exact .none ((queues_shutdown _).trans h)

theorem taskStep_running {a : TaskAction} (hs : e.taskStep i g a = some e') : g.task ≠ .ended := by
  intro hended
  cases a <;> simp [taskStep, hended] at hs

theorem Wf.pushes_taskStep {a : TaskAction} (h : e.Wf) (hg : e.gens[i]? = some g)
    (hs : e.taskStep i g a = some e') : e.Pushes (.task i a) e' := by
  have hqueues : ∀ m : Msg, m.FromTask g → e.Queues (.task i a) ⟨g.sid, m, some i⟩ :=
    fun m hm => .task i g a _ hg (taskStep_running hs) rfl hm
  cases taskStep_spec hs with
  | move task => exact .none rfl
  | opened target x ht hx =>
    refine .ofOutput [x] rfl fun r hr => ?_
    rw [List.mem_singleton.mp hr, hx]
    exact ⟨rfl, hqueues _ ⟨ht, rfl⟩⟩
  | finish preserve task => exact .none (e.queues_finish g.sid g.epoch preserve)
  | up b side o ht hstep =>
    refine .ofOutput _ rfl fun r hr => ?_
    obtain ⟨m, hm, rfl⟩ := List.mem_map.mp hr
    obtain ⟨-, hspec, -⟩ := (h.sides i g hg).stepUp hstep
    rcases hspec.emits with ⟨rfl, -⟩ | ⟨payload, rfl, -⟩ | ⟨rfl, -⟩
    · cases hm
    · cases List.mem_singleton.mp hm
      exact ⟨rfl, hqueues _ ⟨ht, b, side, hstep⟩⟩
    · cases List.mem_singleton.mp hm
      exact ⟨rfl, hqueues _ ht⟩
  | down b side o exhausted ht hstep =>
    refine .ofControl _ rfl fun r hr => ?_
    obtain ⟨m, hm, hrec⟩ := List.mem_map.mp hr
    cases hrec
    obtain ⟨-, hspec, -⟩ := (h.sides i g hg).stepDown hstep
    rcases hspec.emits with rfl | ⟨amount, rfl, -⟩
    · cases hm
    · cases List.mem_singleton.mp hm
      exact ⟨rfl, hqueues _ ht⟩
  | reset x ht hx =>
    refine .ofControl [.record x] rfl fun r hr => ?_
    cases List.mem_singleton.mp hr
    rw [hx]
    exact ⟨rfl, hqueues _ ht⟩
  | shutdown => exact .none e.noteExhausted.queues_shutdown

theorem pushes_readerStep {a : ReaderAction} (hs : e.ReaderStep a e') : e.Pushes (.read a) e' := by
  cases hs with
  | settled f window => exact .none (e.queues_settle _)
  | capability f window _ hc h0 hp =>
    refine pushes_readerControl ?_ rfl
      (.unscoped _ _ rfl (Or.inr ⟨rfl, hc, f, window, rfl, h0, hp⟩))
    rfl
  | opened f peer e' _ _ _ ha => exact .none (queues_allocate ha)
  | unknown f _ hi hno hc hd =>
    have hopen : hasFlag f.flags flagOpen = false := by simpa [hc] using hno
    exact pushes_readerControl rfl rfl
      (.unscoped _ _ rfl (Or.inl ⟨f, rfl, rfl, hc, hopen, hd, hi⟩))
  | aborted f i g | removed f i g => exact .none (e.queues_finish f.sid g.epoch false)
  | replied sid gen hrd => exact pushes_readerControl rfl rfl (.reply sid gen hrd)
  | ponged payload =>
    exact .ofControl [.pong payload] rfl fun r hr => by cases List.mem_singleton.mp hr
  | pingFailed => exact .none e.queues_shutdown
  | _ => exact .none rfl

/-- **What a step does to the lanes**: the writer moves, or records are added. -/
theorem Wf.pushes_step (h : e.Wf) (hs : e.step a = some e') :
    (∃ b, a = .write b ∧ e.writerStep b = some e') ∨
    (e.Pushes a e' ∧ e'.writer = e.writer) := by
  cases step_spec hs with
  | fetched | unprepared => exact .inr ⟨.none rfl, rfl⟩
  | prepared k p target e' _ _ ha =>
    refine .inr ⟨.none ?_, congrArg (·.writer) (rest_allocate ha)⟩
    exact (queues_allocate ha).trans rfl
  | task i g a e' hg hs =>
    exact .inr ⟨h.pushes_taskStep hg hs,
      congrArg (·.writer) (rest_taskStep (taskStep_spec hs))⟩
  | read a e' _ hs =>
    exact .inr ⟨pushes_readerStep hs, congrArg (·.writer) (rest_readerStep hs)⟩
  | write b e' _ hs => exact .inl ⟨b, rfl, hs⟩
  | timeout => exact .inr ⟨.none (e.queues_settle _), congrArg (·.writer) (e.rest_settle _)⟩
  | stop => exact .inr ⟨.none e.queues_shutdown, congrArg (·.writer) e.rest_shutdown⟩

/-- Each lane has only what belongs there. -/
structure Sorted (e : Endpoint) : Prop where
  output : ∀ r ∈ e.output, r.msg.isOutput = true
  control : ∀ r, .record r ∈ e.control → r.msg.isOutput = false

theorem Sorted.new (client : Bool) (window : MuxWindow) (chunk : ChunkSize) :
    (Endpoint.new client window chunk).Sorted where
  output _ hr := by cases hr
  control r hr := by
    obtain ⟨-, rfl⟩ := holdsRec_new (Or.inr (Or.inl hr))
    rfl

theorem Sorted.step (h : e.Sorted) (hw : e.Wf) (hs : e.step a = some e') : e'.Sorted := by
  rcases hw.pushes_step hs with ⟨b, -, hws⟩ | ⟨⟨⟨rs, ho, hrs⟩, os, hc, hos⟩, -⟩
  · cases writerStep_spec hws with
    | tookControl n o rest _ hc =>
      exact ⟨h.output, fun r hr => h.control r (hc ▸ List.mem_cons_of_mem o hr)⟩
    | tookOutput n r rest _ ho =>
      exact ⟨fun x hx => h.output x (ho ▸ List.mem_cons_of_mem r hx), h.control⟩
    | _ => exact ⟨h.output, h.control⟩
  · refine ⟨fun r hr => ?_, fun r hr => ?_⟩
    · rcases List.mem_append.mp (ho ▸ hr) with hr | hr
      · exact h.output r hr
      · exact (hrs r hr).1
    · rcases List.mem_append.mp (hc ▸ hr) with hr | hr
      · exact h.control r hr
      · exact (hos r hr).1

theorem queued_congr (h : e'.Queued r) (hq : e'.queues = e.queues) (hw : e'.writer = e.writer) :
    e.Queued r := by
  simp only [queues, Prod.mk.injEq] at hq
  simpa only [Queued, hq, hw] using h

theorem queued_shutdown (h : e.shutdown.Queued r) : e.Queued r :=
  queued_congr h e.queues_shutdown (congrArg (·.writer) e.rest_shutdown)

/-- The writer queues nothing. -/
theorem queued_writerStep {a : WriterAction} (hs : e.writerStep a = some e') (hr : e'.Queued r) :
    e.Queued r := by
  cases writerStep_spec hs with
  | tookControl n o rest _ hc =>
    rcases hr with hr | hr | hr
    · exact Or.inl hr
    · exact Or.inr (Or.inl (hc ▸ List.mem_cons_of_mem _ hr))
    · cases o with
      | pong payload => cases hr
      | record x =>
        rw [List.mem_singleton.mp hr]
        exact Or.inr (Or.inl (hc ▸ List.mem_cons_self))
  | tookOutput n x rest _ ho =>
    rcases hr with hr | hr | hr
    · exact Or.inl (ho ▸ List.mem_cons_of_mem _ hr)
    · exact Or.inr (Or.inl hr)
    · rw [List.mem_singleton.mp hr]
      exact Or.inl (ho ▸ List.mem_cons_self)
  | moved w _ hw =>
    refine hr.imp_right (Or.imp_right fun hr => ?_)
    rw [hw] at hr
    cases hr
  | looked n x hw =>
    refine hr.imp_right (Or.imp_right fun hr => ?_)
    rw [List.mem_singleton.mp hr]
    simp [hw, WriterPhase.hand]
  | dropped | passed => exact hr.imp_right (Or.imp_right fun hr => by cases hr)

/-- **What is queued after a step** was queued before, or the step queues it. -/
theorem Wf.queued_step (h : e.Wf) (hs : e.step a = some e') (hr : e'.Queued r) :
    e.Queued r ∨ e.Queues a r := by
  rcases h.pushes_step hs with ⟨b, -, hws⟩ | ⟨⟨⟨rs, ho, hrs⟩, os, hc, hos⟩, hw⟩
  · exact Or.inl (queued_writerStep hws hr)
  · rcases hr with hr | hr | hr
    · rcases List.mem_append.mp (ho ▸ hr) with hr | hr
      · exact Or.inl (Or.inl hr)
      · exact Or.inr (hrs r hr).2
    · rcases List.mem_append.mp (hc ▸ hr) with hr | hr
      · exact Or.inl (Or.inr (Or.inl hr))
      · exact Or.inr (hos r hr).2
    · exact Or.inl (Or.inr (Or.inr (hw ▸ hr)))

theorem Queued.holdsRec (h : e.Queued r) : e.HoldsRec r := by
  rcases h with h | h | h
  · exact Or.inl h
  · exact Or.inr (Or.inl h)
  · exact Or.inr (Or.inr (Or.inr h))

/-- Only the writer moves the writer, and puts records on the wire. -/
theorem writer_step (hs : e.step a = some e') :
    (∃ b, a = .write b ∧ e.writerStep b = some e') ∨ (e'.writer = e.writer ∧ e'.wire = e.wire) := by
  rcases rest_step hs with heq | ⟨target, pre, -, -, -, rfl⟩ | ⟨k, -, heq⟩ | hwrite
  · exact Or.inr ⟨congrArg (·.writer) heq, congrArg (·.wire) heq⟩
  · exact Or.inr ⟨rfl, rfl⟩
  · exact Or.inr ⟨congrArg (·.writer) heq, congrArg (·.wire) heq⟩
  · exact Or.inl hwrite

/-- What is on the wire was there, or was in the writer's hand. -/
theorem wire_step (hs : e.step a = some e') (hr : r ∈ e'.wire) : r ∈ e.wire ∨ e.Queued r := by
  rcases writer_step hs with ⟨b, -, hws⟩ | ⟨-, hwire⟩
  · cases writerStep_spec hws with
    | passed n x c v hw =>
      rcases List.mem_append.mp hr with hr | hr
      · exact Or.inl hr
      · rw [List.mem_singleton.mp hr]
        exact Or.inr (Or.inr (Or.inr (by simp [hw, WriterPhase.hand])))
    | _ => exact Or.inl hr
  · exact Or.inl (hwire ▸ hr)

/-- **What is held after a step** was held before, or the step queues it. -/
theorem Wf.holds_step (h : e.Wf) (hs : e.step a = some e') (hr : e'.HoldsRec r) :
    e.HoldsRec r ∨ e.Queues a r := by
  have hqueue : e'.Queued r → e.HoldsRec r ∨ e.Queues a r := fun hq =>
    (h.queued_step hs hq).imp_left Queued.holdsRec
  rcases hr with hr | hr | hr | hr
  · exact hqueue (Or.inl hr)
  · exact hqueue (Or.inr (Or.inl hr))
  · rcases wire_step hs hr with hr | hq
    · exact Or.inl (Or.inr (Or.inr (Or.inl hr)))
    · exact Or.inl hq.holdsRec
  · exact hqueue (Or.inr (Or.inr hr))

/-- The tasks of the generations. -/
def tasks (e : Endpoint) : List Task := e.gens.map Gen.task

theorem tasks_get (h : e.gens[i]? = some g) : e.tasks[i]? = some g.task := by
  rw [tasks, List.getElem?_map, h]
  rfl

theorem tasks_shutdown (e : Endpoint) : e.shutdown.tasks = e.tasks :=
  e.map_shutdown fun _ => rfl

theorem gen_of_task (h : e.tasks[i]? = some task) :
    ∃ g : Gen, e.gens[i]? = some g ∧ g.task = task := by
  rw [tasks, List.getElem?_map] at h
  exact Option.map_eq_some_iff.mp h

theorem setTask_self (h : (e.setTask i task).gens[i]? = some g') : g'.task = task := by
  simp only [setTask, List.getElem?_modify, if_true] at h
  cases hi : e.gens[i]? with
  | none => rw [hi] at h; cases h
  | some g => rw [hi] at h; cases h; rfl

/-- A task that is in `open_stream` after its step was there before, and has queued nothing. -/
theorem opening_taskStep (hg : e.gens[i]? = some g) (hs : e.TaskStep i g e')
    (hg' : e'.gens[i]? = some g') (ho : g'.task.isOpening = true) :
    g.task.isOpening = true ∧ ∀ r, e'.Queued r → e.Queued r := by
  have hpump : ∀ side, (e.setSide i side).gens[i]? = some g' → g'.task = g.task := by
    intro side h
    rw [show (e.setSide i side).gens[i]? = _ from getElem?_modify_self hg _] at h
    cases h
    rfl
  cases hs with
  | move task _ hsame =>
    rw [setTask_self hg', hsame] at ho
    exact ⟨ho, fun r hr => queued_congr hr rfl rfl⟩
  | opened | reset | shutdown => rw [setTask_self hg'] at ho; cases ho
  | finish preserve task _ _ ht =>
    rw [setTask_self hg'] at ho
    rcases ht with rfl | rfl <;> cases ho
  | up a side o ht => rw [hpump side hg', ht] at ho; cases ho
  | down a side o _ ht => rw [hpump side hg', ht] at ho; cases ho

/-- **What a step does to the task of a generation**: nothing, unless it is a step of that task. -/
theorem Wf.task_of_step (hw : e.Wf) (hs : e.step a = some e') (hg : e.gens[i]? = some g)
    (hg' : e'.gens[i]? = some g') :
    g'.task = g.task ∨ ∃ b, a = .task i b ∧ e.taskStep i g b = some e' := by
  cases hw.fate_step hs hg with
  | left hsame =>
    cases hg'.symm.trans hsame
    exact .inl rfl
  | own b _ _ ha =>
    subst ha
    cases step_spec hs with
    | task _ _ _ _ hi hts =>
      cases hg.symm.trans hi
      exact .inr ⟨b, rfl, hts⟩
  | applied flags payload side _ _ hsame =>
    cases hg'.symm.trans hsame
    exact .inl rfl
  | removed _ hsame =>
    cases hg'.symm.trans hsame
    exact .inl rfl

/-- It was in `open_stream` before. -/
theorem Wf.opening_step (hw : e.Wf) (hs : e.step a = some e') (hg : e.gens[i]? = some g)
    (hg' : e'.gens[i]? = some g') (ho : g'.task.isOpening = true) : g.task.isOpening = true := by
  rcases hw.task_of_step hs hg hg' with heq | ⟨b, -, hts⟩
  · rw [← heq]
    exact ho
  · exact (opening_taskStep hg (taskStep_spec hts) hg' ho).1

/-! ## 2. Generations that are over -/

/-- **Generation `i` sends nothing more than resets**: its output is invalid, or its task has ended
and nothing else of it is queued. -/
def Silent (e : Endpoint) (i : Nat) : Prop :=
  ∃ g : Gen, e.gens[i]? = some g ∧ (g.side.flow.outputValid = false ∨
    (g.task = .ended ∧ ∀ r, e.Queued r → r.gen = some i → r.msg = .rst))

theorem Wf.ended_step (hw : e.Wf) (hs : e.step a = some e') (hg : e.gens[i]? = some g)
    (hg' : e'.gens[i]? = some g') (ht : g.task = .ended) : g'.task = .ended := by
  rcases hw.task_of_step hs hg hg' with heq | ⟨b, -, hts⟩
  · exact heq.trans ht
  · exact absurd ht (taskStep_running hts)

/-- It stays silent. -/
theorem Wf.silent_step (h : e.Wf) (hs : e.step a = some e') (hsil : e.Silent i) : e'.Silent i := by
  obtain ⟨g, hg, hcase⟩ := hsil
  obtain ⟨g', hg', hk⟩ := (h.grows hs).gens i g hg
  refine ⟨g', hg', ?_⟩
  rcases hcase with hval | ⟨hended, hqueue⟩
  · refine Or.inl ?_
    cases hv : g'.side.flow.outputValid with
    | false => rfl
    | true => rw [hk.valid hv] at hval; cases hval
  · refine Or.inr ⟨h.ended_step hs hg hg' hended, fun r hr hgen => ?_⟩
    rcases h.queued_step hs hr with hr | hnew
    · exact hqueue r hr hgen
    · cases hnew with
      | task j g2 b _ hg2 ht hj =>
        -- a record of its own would come from its own task
        obtain rfl : j = i := Option.some.inj (hj.symm.trans hgen)
        rw [hg] at hg2
        cases hg2
        exact absurd hended ht
      | reply sid gen => rfl
      | unscoped b _ hnone => rw [hnone] at hgen; cases hgen

/-- What the writer passes on of a silent generation is a reset. -/
theorem Silent.passed {n : Nat} {c : Option Nat} {v : Bool} (h : e.Silent i)
    (hw : e.writer = .looked n r c v) (hd : e.drops r c = false) (hgen : r.gen = some i) :
    r.msg = .rst := by
  obtain ⟨g, hg, hval | ⟨-, hqueue⟩⟩ := h
  · by_contra hne
    have hout : e.outputValid r = false := by simp [outputValid, hgen, hg, hval]
    simp [drops, hne, hgen, hout] at hd
  · exact hqueue r (Or.inr (Or.inr (by simp [hw, WriterPhase.hand]))) hgen

/-- **Generation `i` is over**: it is not registered, its flow is cancelled, and it sends nothing
more than resets. -/
structure Over (e : Endpoint) (i : Nat) : Prop where
  gone : e.registered i = false
  cancelled : ∃ g : Gen, e.gens[i]? = some g ∧ g.side.flow.cancelled = true
  silent : e.Silent i

/-- It stays over. -/
theorem Wf.over_step (h : e.Wf) (hs : e.step a = some e') (ho : e.Over i) : e'.Over i := by
  have hgrow := h.grows hs
  obtain ⟨g, hg, hcan⟩ := ho.cancelled
  obtain ⟨g', hg', hk⟩ := hgrow.gens i g hg
  refine ⟨?_, ⟨g', hg', hk.cancelled hcan⟩, h.silent_step hs ho.silent⟩
  have hlt := (List.getElem?_eq_some_iff.mp hg).1
  rw [Bool.eq_false_iff]
  exact fun hreg => Bool.eq_false_iff.mp ho.gone (hgrow.registered i hlt hreg)

/-- Generation `i` was removed for good: what is still queued of it will be dropped. -/
structure Removed (e : Endpoint) (i : Nat) : Prop where
  gone : e.registered i = false
  flow : ∃ g : Gen, e.gens[i]? = some g ∧ g.side.flow.cancelled = true ∧
    g.side.flow.outputValid = false

theorem Removed.over (h : e.Removed i) : e.Over i := by
  obtain ⟨g, hg, hcan, hval⟩ := h.flow
  exact ⟨h.gone, ⟨g, hg, hcan⟩, ⟨g, hg, Or.inl hval⟩⟩

theorem Removed.setTask (h : e.Removed i) (task : Task) : (e.setTask i task).Removed i := by
  obtain ⟨g, hg, hcan, hval⟩ := h.flow
  exact ⟨h.gone, _, getElem?_modify_self hg _, hcan, hval⟩

theorem Wf.removed (h : e.Wf) (hg : e.gens[i]? = some g)
    (hr : (e.finish sid g.epoch false).2 = true) : (e.finish sid g.epoch false).1.Removed i := by
  rcases e.finish_cases sid g.epoch false with ⟨heq, -⟩ | ⟨k, hget, hep, heq⟩
  · rw [heq] at hr
    cases hr
  · obtain ⟨g', hg', hsid⟩ := h.isGen_of_get hget
    obtain rfl : k = i := by
      simp only [epochOf, hg', Option.map_some, Option.some.injEq] at hep
      exact h.epoch_inj hg' hg hep
    rw [heq]
    refine ⟨?_, _, getElem?_modify_self hg (Gen.cancel false), rfl, Bool.and_false _⟩
    simp only [registered, List.any_eq_false, decide_eq_true_eq]
    intro s hs hsk
    obtain ⟨hmem, hne⟩ := List.mem_filter.mp hs
    obtain ⟨g'', hg'', hsid''⟩ := h.streams s hmem
    rw [hsk, hg'] at hg''
    cases hg''
    simp [← hsid'', hsid] at hne

/-- **A generation that is not registered is cancelled.** -/
def Retires (e : Endpoint) : Prop :=
  ∀ (i : Nat) (g : Gen), e.gens[i]? = some g → e.registered i = false →
    g.side.flow.cancelled = true

/-- Only what is cancelled leaves the registry, and what is added is registered. -/
theorem Retires.step (h : e.Retires) (hw : e.Wf) (hs : e.step a = some e') : e'.Retires := by
  intro i g' hg' hgone
  rcases hw.gen_step hs hg' with ⟨g, hg, -⟩ | ⟨rfl, -, hadd⟩
  · obtain ⟨side, task, hg₁, hm, hr⟩ := (hw.fate_step hs hg).kept
    cases hg'.symm.trans hg₁
    rcases hr with hr | ⟨-, hcan⟩
    · exact (hm.keeps (hw.sides i g hg) task).cancelled (h i g hg (hr ▸ hgone))
    · exact hcan
  · rw [hadd.registered] at hgone
    cases hgone

theorem Retires.new (client : Bool) (window : MuxWindow) (chunk : ChunkSize) :
    (Endpoint.new client window chunk).Retires := fun i g hg _ => by simp [Endpoint.new] at hg

/-! ## 3. Resets of generations that are over -/

/-- **Every reset of a generation is of one that is over**: those that are queued, the one that the
reader is about to queue, and those that tasks are about to. -/
structure Resets (e : Endpoint) : Prop where
  records : ∀ r, e.Queued r → r.msg = .rst → ∀ i, r.gen = some i → e.Over i
  reader : ∀ sid i, e.reader = .resetting sid (some i) → e.Over i
  tasks : ∀ i, e.tasks[i]? = some .resetting → e.Over i

theorem Resets.new (client : Bool) (window : MuxWindow) (chunk : ChunkSize) :
    (Endpoint.new client window chunk).Resets where
  records r hr hrst := by
    obtain ⟨-, rfl⟩ := holdsRec_new hr.holdsRec
    cases hrst
  reader sid i h := by cases h
  tasks i h := by simp [Endpoint.tasks, Endpoint.new] at h

theorem reader_finish (e : Endpoint) (sid epoch : Nat) (preserve : Bool) :
    (e.finish sid epoch preserve).1.reader = e.reader := by
  rcases e.finish_cases sid epoch preserve with ⟨heq, -⟩ | ⟨i, -, -, heq⟩ <;> rw [heq]

theorem reader_settle (e : Endpoint) (n : Negotiation) : (e.settle n).reader = e.reader := by
  unfold settle
  split <;> rfl

theorem reader_shutdown (e : Endpoint) : e.shutdown.reader = e.reader :=
  reader_settle _ .legacy

theorem reader_readerControl (e : Endpoint) (r : Rec) : (e.readerControl r).reader = .idle := by
  unfold readerControl
  split
  · rfl
  · exact reader_shutdown _

/-- Only the reader moves the reader. -/
theorem reader_step (hs : e.step a = some e') :
    (∃ b, a = .read b ∧ e.ReaderStep b e') ∨ e'.reader = e.reader := by
  cases step_spec hs with
  | fetched | unprepared => exact Or.inr rfl
  | prepared k p target e' _ _ ha =>
    obtain ⟨-, -, -, rfl⟩ := allocate_ok ha
    exact Or.inr rfl
  | task i g a e' hg hs =>
    refine Or.inr ?_
    cases taskStep_spec hs with
    | move task => rfl
    | opened target r => rfl
    | finish preserve task => exact e.reader_finish _ _ _
    | up b side o => rfl
    | down b side o => rfl
    | reset r => rfl
    | shutdown => exact e.noteExhausted.reader_shutdown
  | read a e' _ hs => exact Or.inl ⟨a, rfl, hs⟩
  | write a e' _ hs =>
    rw [writerStep_eq hs]
    exact Or.inr rfl
  | timeout => exact Or.inr (e.reader_settle _)
  | stop => exact Or.inr e.reader_shutdown

/-- **The reader decides on a reset** after it has removed a generation, or for what it finds under
the id of a rejected `OPEN`. -/
theorem Wf.reader_resetting {a : ReaderAction} {gen : Option Nat} (h : e.Wf)
    (hs : e.ReaderStep a e') (hr : e'.reader = .resetting sid gen) :
    (∃ i, gen = some i ∧ e'.Removed i) ∨
      (a = .lookup ∧ e.reader = .rejecting sid ∧ e.get sid = gen) := by
  cases hs with
  | ignored f hidle => rw [hidle] at hr; cases hr
  | settled f window hidle => rw [reader_settle, hidle] at hr; cases hr
  | capability | unknown | replied => rw [reader_readerControl] at hr; cases hr
  | opened f peer e' hidle _ _ ha =>
    obtain ⟨-, -, -, rfl⟩ := allocate_ok ha
    rw [show e.reader = _ from hr] at hidle
    cases hidle
  | removed f j g hrd hg =>
    cases hrem : (e.remove f.sid g.epoch).2 with
    | false => simp [hrem] at hr
    | true =>
      simp only [hrem, if_true, ReaderPhase.resetting.injEq] at hr
      have hgone := h.removed hg hrem
      exact Or.inl ⟨j, hr.2.symm, hgone.gone, hgone.flow⟩
  | looked s hrd =>
    simp only [ReaderPhase.resetting.injEq] at hr
    obtain ⟨rfl, hget⟩ := hr
    exact Or.inr ⟨rfl, hrd, hget⟩
  | ponged payload hidle => rw [show e.reader = _ from hr] at hidle; cases hidle
  | pingFailed payload hidle =>
    rw [show e.stop.reader = e.reader from e.reader_shutdown, hidle] at hr
    cases hr
  | _ => cases hr

/-- **A task decides on a reset** when it removes its stream. -/
theorem Wf.task_resetting (h : e.Wf) (hg : e.gens[i]? = some g) (hs : e.TaskStep i g e')
    (ht : e'.tasks[i]? = some .resetting) : e.tasks[i]? = some .resetting ∨ e'.Removed i := by
  have hset : ∀ (e₁ : Endpoint) (task : Task), (e₁.setTask i task).tasks[i]? = some .resetting →
      task = .resetting := by
    intro e₁ task hres
    simp only [tasks, Endpoint.setTask, List.getElem?_map, List.getElem?_modify] at hres
    cases hi : e₁.gens[i]? with
    | none => simp [hi] at hres
    | some g' => simpa [hi] using hres
  have hpump : ∀ side, (e.setSide i side).tasks = e.tasks := fun side =>
    Lists.map_modify fun _ => rfl
  cases hs with
  | move task hne => exact absurd (hset _ _ ht) hne
  | opened | reset | shutdown => exact absurd (hset _ _ ht) (by simp)
  | finish preserve task _ hr =>
    obtain ⟨rfl, hrem⟩ := hr (hset _ _ ht)
    exact Or.inr ((h.removed hg hrem).setTask _)
  | up a side o => exact Or.inl ((hpump side) ▸ ht)
  | down a side o => exact Or.inl ((hpump side) ▸ ht)

/-- **The step of the invariant**, when no rejected `OPEN` finds a stream. -/
theorem Resets.step (h : e.Resets) (hw : e.Wf)
    (hok : ∀ sid, a = .read .lookup → e.reader = .rejecting sid → e.get sid = none)
    (hs : e.step a = some e') : e'.Resets where
  records r hr hrst i hi := by
    refine hw.over_step hs ?_
    rcases hw.queued_step hs hr with hr | hnew
    · exact h.records r hr hrst i hi
    · cases hnew with
      | task j g b _ hg _ hj hm =>
        obtain rfl : j = i := Option.some.inj (hj.symm.trans hi)
        rw [hrst] at hm
        exact h.tasks j ((tasks_get hg).trans (congrArg some hm))
      | reply sid gen hrd =>
        obtain rfl : gen = some i := hi
        exact h.reader sid i hrd
      | unscoped b _ hnone => rw [hnone] at hi; cases hi
  reader sid i hr := by
    rcases reader_step hs with ⟨b, rfl, hrs⟩ | heq
    · rcases hw.reader_resetting hrs hr with ⟨_, hgen, hrem⟩ | ⟨rfl, hrd, hget⟩
      · cases hgen
        exact hrem.over
      · rw [hok sid rfl hrd] at hget
        cases hget
    · exact hw.over_step hs (h.reader sid i (heq ▸ hr))
  tasks i ht := by
    obtain ⟨g', hg', htask⟩ := gen_of_task ht
    rcases hw.gen_step hs hg' with ⟨g, hg, -⟩ | ⟨-, hcr, -⟩
    · rcases hw.task_of_step hs hg hg' with heq | ⟨b, rfl, hts⟩
      · refine hw.over_step hs (h.tasks i ?_)
        rw [tasks_get hg, ← heq, htask]
      · rcases hw.task_resetting hg (taskStep_spec hts) ht with ht | hrem
        · exact hw.over_step hs (h.tasks i ht)
        · exact hrem.over
    · cases hcr <;> cases htask

/-! ## 4. When a reset is final -/

/-- The id under which the step may create a generation. -/
def creates (e : Endpoint) : Action → Option Nat
  | .openPrepare k => e.opens[k]?.map PendingOpen.sid
  | .read (.receive f) => if hasFlag f.flags flagOpen then some f.sid else none
  | _ => none

/-- Every generation of the id is over. -/
def IdOver (e : Endpoint) (sid : Nat) : Prop := ∀ i, IsGen e.gens sid i → e.Over i

/-- An id stays over as long as no generation is created under it. -/
theorem IdOver.step (h : e.IdOver sid) (hw : e.Wf) (hs : e.step a = some e')
    (hno : e.creates a ≠ some sid) : e'.IdOver sid := by
  rintro i ⟨g', hg', hsid⟩
  rcases hw.gen_step hs hg' with ⟨g, hg, hsame, -⟩ | ⟨-, hcr, -⟩
  · exact hw.over_step hs (h i ⟨g, hg, hsame.symm.trans hsid⟩)
  · refine absurd ?_ hno
    cases hcr with
    | prepared k p target hk =>
      rw [creates, hk]
      exact congrArg some hsid
    | admitted f peer hadm =>
      rw [creates, if_pos hadm.opening]
      exact congrArg some hsid

end Endpoint

end BibaVpn.Mux
