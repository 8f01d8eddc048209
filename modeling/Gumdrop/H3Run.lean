import Gumdrop.EventSlot
import Gumdrop.HeaderCollectorFailures

namespace Gumdrop

/-!
# Runs of the HTTP/3 bindings over the C heap

`EventSlot` follows what polls, header reads and `conn_free` calls do to the
threads' event slots; `HeaderCollectorFailures` follows one header read
through the C heap under every allocation outcome.  This module puts the two
together: a run of calls, from any threads on any sessions, threads both the
slots and the heap.  As long as every header read finds an empty slot or a
Headers event short enough that the collector never grows, no run faults and
no run leaks, whatever the allocator does.  With an allocator that never
fails, the bound is the collector's own, and every header read of a run
returns what the per-thread model of `EventSlot` reads at that point; when
each thread serves one session and each session one thread, that is what
the documented per-session model reads.
-/

/--
One call of the HTTP/3 bindings with the C heap: a header read runs the
collection over the thread's slot and leaves the slots as they are; a poll
or a `conn_free` changes the slots and not the heap.
-/
def h3Step (jvm : Jvm) (oracle : Oracle) : SlotState × Heap → SlotOp → Except Fault (SlotState × Heap)
  | (state, heap), .eventHeaders thread _ =>
      (quicheH3EventHeaders jvm oracle thread state heap).map fun result => (state, result.2)
  | (state, heap), op => (slotStep state op).map fun state => (state, heap)

/-- A run of calls of the HTTP/3 bindings, one after the other. -/
def h3Run (jvm : Jvm) (oracle : Oracle) : SlotState × Heap → List SlotOp → Except Fault (SlotState × Heap)
  | current, [] => .ok current
  | current, op :: rest => do
      let current ← h3Step jvm oracle current op
      h3Run jvm oracle current rest

/-! ## The per-thread model with the C heap -/

/-- A header read in the per-thread model: `NULL` for an empty slot, otherwise the collection over the slot's event. -/
def threadRead (jvm : Jvm) (oracle : Oracle) (slots : ThreadId → Option H3Event) (thread : ThreadId)
    (heap : Heap) : Except Fault (Option (List (Option JString)) × Heap) :=
  match slots thread with
  | none => .ok (none, heap)
  | some event => collectHeaders jvm oracle event heap

/--
One call in the per-thread model: a header read runs `threadRead` and keeps
the slots; a poll or a `conn_free` moves them as `keyedSlotsStep` says.
-/
def threadModelStep (jvm : Jvm) (oracle : Oracle) :
    (ThreadId → Option H3Event) × Heap → SlotOp → Except Fault ((ThreadId → Option H3Event) × Heap)
  | (slots, heap), .eventHeaders thread _ => (threadRead jvm oracle slots thread heap).map fun result => (slots, result.2)
  | (slots, heap), op => .ok (keyedSlotsStep SlotOp.thread slots op, heap)

/-- A run of calls in the per-thread model. -/
def threadModelRun (jvm : Jvm) (oracle : Oracle) :
    (ThreadId → Option H3Event) × Heap → List SlotOp → Except Fault ((ThreadId → Option H3Event) × Heap)
  | current, [] => .ok current
  | current, op :: rest => do
      let current ← threadModelStep jvm oracle current op
      threadModelRun jvm oracle current rest

/-- A header read leaves every slot of the keyed model as it is. -/
theorem keyedSlotsStep_eventHeaders (key : SlotOp → Nat) (slots : Nat → Option H3Event)
    (thread : ThreadId) (session : SessionId) :
    keyedSlotsStep key slots (.eventHeaders thread session) = slots := by
  funext other
  unfold keyedSlotsStep
  split <;> rfl

/-- The slots a run of the per-thread model ends with are the per-thread slots of its calls. -/
theorem threadModelRun_slots (jvm : Jvm) (oracle : Oracle) :
    ∀ (ops : List SlotOp) (slots : ThreadId → Option H3Event) (heap : Heap) {final : ThreadId → Option H3Event}
      {heap' : Heap}, threadModelRun jvm oracle (slots, heap) ops = .ok (final, heap') →
        final = ops.foldl (keyedSlotsStep SlotOp.thread) slots
  | [], _, _, _, _, ran => by
      cases ran
      rfl
  | op :: rest, slots, heap, _, _, ran => by
      obtain ⟨⟨slots₁, heap₁⟩, step, ran⟩ := bind_eq_ok ran
      have moved : slots₁ = keyedSlotsStep SlotOp.thread slots op := by
        cases op with
        | eventHeaders thread session =>
            cases read : threadRead jvm oracle slots thread heap <;>
              simp only [threadModelStep, read, map_ok, map_error] at step <;> cases step
            rw [keyedSlotsStep_eventHeaders]
        | poll thread session answer arrayAllocated | connFree thread session =>
            cases step
            rfl
      rw [threadModelRun_slots jvm oracle rest slots₁ heap₁ ran, moved]
      rfl

section Refines

variable (jvm : Jvm) (oracle : Oracle) {state : SlotState}

/--
From a state with the slot invariant, a call of the bindings does what the
per-thread model's call does on the state's slots: the same fault, or the
same slots and heap after it, from a state that keeps the invariant.
-/
theorem h3Step_refines (heap : Heap) (invariant : SlotInvariant state) (op : SlotOp) :
    (h3Step jvm oracle (state, heap) op).map (fun result => (result.1.slotEvent, result.2)) =
        threadModelStep jvm oracle (state.slotEvent, heap) op ∧
      ∀ next heap', h3Step jvm oracle (state, heap) op = .ok (next, heap') → SlotInvariant next := by
  obtain ⟨next, step, invariant', effect⟩ := slotStep_spec invariant op
  cases op with
  | eventHeaders thread session =>
      have reply : quicheH3EventHeaders jvm oracle thread state heap =
          threadRead jvm oracle state.slotEvent thread heap :=
        quicheH3EventHeaders_of_invariant invariant jvm oracle thread heap
      simp only [h3Step, threadModelStep, reply]
      generalize threadRead jvm oracle state.slotEvent thread heap = read
      cases read with
      | error fault => exact ⟨rfl, fun _ _ returned => nomatch returned⟩
      | ok result => exact ⟨rfl, fun _ _ returned => by cases returned; exact invariant⟩
  | poll thread session answer arrayAllocated | connFree thread session =>
      simp only [h3Step, step, map_ok, threadModelStep, effect.slotEvent invariant, true_and]
      exact fun _ _ returned => by cases returned; exact invariant'

/-- Over a whole run from a state with the slot invariant, the bindings do what the per-thread model does. -/
theorem h3Run_refines (invariant : SlotInvariant state) (ops : List SlotOp) (heap : Heap) :
    (h3Run jvm oracle (state, heap) ops).map (fun result => (result.1.slotEvent, result.2)) =
        threadModelRun jvm oracle (state.slotEvent, heap) ops ∧
      ∀ final heap', h3Run jvm oracle (state, heap) ops = .ok (final, heap') → SlotInvariant final := by
  induction ops generalizing state heap with
  | nil =>
      exact ⟨rfl, fun _ _ returned => by cases returned; exact invariant⟩
  | cons op rest inductionHypothesis =>
      obtain ⟨stepRefines, stepKeeps⟩ := h3Step_refines jvm oracle heap invariant op
      cases stepped : h3Step jvm oracle (state, heap) op with
      | error fault =>
          rw [stepped, map_error] at stepRefines
          simp [h3Run, threadModelRun, stepped, ← stepRefines]
      | ok result =>
          obtain ⟨next, heap₁⟩ := result
          rw [stepped, map_ok] at stepRefines
          obtain ⟨runRefines, runKeeps⟩ := inductionHypothesis (stepKeeps next heap₁ stepped) heap₁
          simp only [h3Run, threadModelRun, stepped, ← stepRefines, ok_bind]
          exact ⟨runRefines, runKeeps⟩

end Refines

/--
The HTTP/3 bindings keep one event slot per thread, and refine the
per-thread model with the C heap.  For every JVM, every allocation outcome,
every heap and every run of `quiche_h3_conn_poll`, `quiche_h3_event_headers`
and `quiche_h3_conn_free` calls from any threads on any sessions, the run
faults exactly when the per-thread model's run faults, with the same fault,
and otherwise ends with the same slots and the same heap; and a header read
made on any thread in the state any prefix of the run leaves returns what
the model's read of that thread's slot returns there: `NULL` for an empty
slot, otherwise the collection over the slot's event, which faults at
quiche's `unreachable!()` when that event is not a Headers event.
-/
theorem h3Run_refines_threadModel (jvm : Jvm) (oracle : Oracle) (ops : List SlotOp) (heap : Heap) :
    (h3Run jvm oracle (SlotState.initial, heap) ops).map (fun result => (result.1.slotEvent, result.2)) =
        threadModelRun jvm oracle (fun _ => none, heap) ops ∧
      ∀ i thread state heap₁, h3Run jvm oracle (SlotState.initial, heap) (ops.take i) = .ok (state, heap₁) →
        quicheH3EventHeaders jvm oracle thread state heap₁ =
          threadRead jvm oracle (threadSlotsRun (ops.take i)) thread heap₁ := by
  refine ⟨(h3Run_refines jvm oracle slotInvariant_initial ops heap).1, fun i thread state heap₁ returned => ?_⟩
  obtain ⟨runRefines, runKeeps⟩ := h3Run_refines jvm oracle slotInvariant_initial (ops.take i) heap
  rw [returned, map_ok] at runRefines
  have slots : state.slotEvent = threadSlotsRun (ops.take i) :=
    threadModelRun_slots jvm oracle (ops.take i) _ heap runRefines.symm
  rw [quicheH3EventHeaders_of_invariant (runKeeps state heap₁ returned) jvm oracle thread heap₁, slots]
  rfl

/--
Session 1's Headers event is polled on thread 0, then session 2 is polled on
thread 0 and has no event.  The per-session model still holds session 1's
headers, but `quiche_h3_event_headers` for session 1 on thread 0 returns
`NULL`.  And after a Data event is polled, the per-session model's read says
`EventStale`, while the bindings hand the Data event to
`quiche_h3_event_for_each_header` and the run faults at `unreachable!()`.
-/
theorem quicheH3EventHeaders_ignores_session :
    (readHeaders (sessionSlotsRun [.poll 0 1 (some (0, .headers [⟨[104], [105]⟩])) true,
      .poll 0 2 none true]) 1 = some [⟨[104], [105]⟩] ∧
    ∃ state heap, h3Run Jvm.emptyOnInvalid (fun _ => .moved) (SlotState.initial, Heap.empty)
        [.poll 0 1 (some (0, .headers [⟨[104], [105]⟩])) true, .poll 0 2 none true] = .ok (state, heap) ∧
      quicheH3EventHeaders Jvm.emptyOnInvalid (fun _ => .moved) 0 state heap = .ok (none, heap)) ∧
    (readHeaders (sessionSlotsRun [.poll 0 1 (some (0, .data)) true]) 1 = none ∧
    h3Run Jvm.emptyOnInvalid (fun _ => .moved) (SlotState.initial, Heap.empty)
      [.poll 0 1 (some (0, .data)) true, .eventHeaders 0 1] = .error .engineUnreachable) :=
  ⟨⟨rfl, _, _, rfl, rfl⟩, ⟨rfl, rfl⟩⟩

section Runs

variable (jvm : Jvm) (oracle : Oracle) {accepts : List Header → Prop}
  (returns : ∀ list, accepts list → ∀ heap, ∃ result heap',
    collectHeaders jvm oracle (.headers list) heap = .ok (result, heap') ∧ heap'.blocks = heap.blocks)
  {state : SlotState}

include returns

/--
Under the slot invariant, a call returns, keeps the invariant with its
`StepEffect`, and leaves the heap's blocks as they were, when a header read
among them finds an empty slot or a Headers event whose collection returns
with every block freed.
-/
theorem h3Step_spec (heap : Heap) (invariant : SlotInvariant state) (op : SlotOp)
    (readable : ∀ thread session, op = .eventHeaders thread session → ∀ event,
      state.slotEvent thread = some event → ∃ list, event = .headers list ∧ accepts list) :
    ∃ next heap', h3Step jvm oracle (state, heap) op = .ok (next, heap') ∧ SlotInvariant next ∧
      StepEffect state op next ∧ heap'.blocks = heap.blocks := by
  obtain ⟨next, step, invariant', effect⟩ := slotStep_spec invariant op
  cases op with
  | eventHeaders thread session =>
      obtain rfl : state = next := by
        simpa [slotStep, headersTarget_of_invariant invariant] using step
      cases held : state.slotEvent thread with
      | none =>
          exact ⟨state, heap, by simp [h3Step, quicheH3EventHeaders_of_invariant invariant jvm oracle, held],
            invariant', effect, rfl⟩
      | some event =>
          obtain ⟨list, rfl, accepted⟩ := readable thread session rfl event held
          obtain ⟨result, heap', returned, blocks⟩ := returns list accepted heap
          exact ⟨state, heap', by simp [h3Step, quicheH3EventHeaders_of_invariant invariant jvm oracle, held, returned],
            invariant', effect, blocks⟩
  | poll thread session answer arrayAllocated =>
      exact ⟨next, heap, by simp [h3Step, step], invariant', effect, rfl⟩
  | connFree thread session =>
      exact ⟨next, heap, by simp [h3Step, step], invariant', effect, rfl⟩

/--
From a state with the slot invariant, a run in which every header read
finds, in the per-thread model, an empty slot or a Headers event whose
collection returns with every block freed, returns through states with the
invariant and leaves the heap's blocks as they were.
-/
theorem h3Run_spec (heap : Heap) (ops : List SlotOp) (invariant : SlotInvariant state)
    (readable : ∀ i thread session, ops[i]? = some (.eventHeaders thread session) → ∀ event,
      (ops.take i).foldl (keyedSlotsStep SlotOp.thread) state.slotEvent thread = some event →
        ∃ list, event = .headers list ∧ accepts list) :
    ∃ final heap', h3Run jvm oracle (state, heap) ops = .ok (final, heap') ∧ SlotInvariant final ∧
      EffectRun state ops final ∧ heap'.blocks = heap.blocks := by
  induction ops generalizing state heap with
  | nil =>
      exact ⟨state, heap, rfl, invariant, .nil state, rfl⟩
  | cons op rest inductionHypothesis =>
      obtain ⟨next, heap₁, step, invariant₁, effect, blocks₁⟩ := h3Step_spec jvm oracle returns heap invariant op
        fun thread session isRead event held => readable 0 thread session (by simp [isRead]) event held
      obtain ⟨final, heap₂, run, invariant₂, tail, blocks₂⟩ := inductionHypothesis heap₁ invariant₁
        fun i thread session found event held => readable (i + 1) thread session (by simpa using found) event (by
          rw [List.take_succ_cons, List.foldl_cons, ← effect.slotEvent invariant]
          exact held)
      exact ⟨final, heap₂, by simp [h3Run, step, run], invariant₂, .cons invariant effect tail,
        blocks₂.trans blocks₁⟩

end Runs

/--
The HTTP/3 bindings neither fault nor leak under allocation failures.  For
every allocation outcome, every heap and every run of `quiche_h3_conn_poll`,
`quiche_h3_event_headers` and `quiche_h3_conn_free` calls, from any threads
on any sessions, in which each header read finds its thread's slot empty or
holding a Headers event of at most 32 headers: the run returns, each slot
holds an allocated event no other slot holds, and the C heap holds exactly
the blocks it held before the run.
-/
theorem h3Run_frees_every_block (jvm : Jvm) (oracle : Oracle) (ops : List SlotOp) (heap : Heap)
    (readable : ∀ i thread session, ops[i]? = some (.eventHeaders thread session) → ∀ event,
      threadSlotsRun (ops.take i) thread = some event → ∃ list, event = .headers list ∧ list.length ≤ 32) :
    ∃ state heap', h3Run jvm oracle (SlotState.initial, heap) ops = .ok (state, heap') ∧
      SlotInvariant state ∧ heap'.blocks = heap.blocks := by
  have returns : ∀ list : List Header, list.length ≤ 32 → ∀ heap, ∃ result heap',
      collectHeaders jvm oracle (.headers list) heap = .ok (result, heap') ∧ heap'.blocks = heap.blocks := by
    intro list short heap
    rcases collectHeaders_cases jvm oracle list heap (short.trans_lt (by decide)) with
      ⟨-, result, heap', returned, blocks, -⟩ | ⟨-, long, -⟩
    · exact ⟨result, heap', returned, blocks⟩
    · omega
  obtain ⟨state, heap', run, invariant, -, blocks⟩ :=
    h3Run_spec jvm oracle returns heap ops slotInvariant_initial readable
  exact ⟨state, heap', run, invariant, blocks⟩

/-- A Headers event `h: i` polled on thread 0 and read there, with every allocation failing. -/
theorem h3Run_frees_every_block_poll_read :
    (∀ i thread session, [SlotOp.poll 0 1 (some (0, .headers [⟨[104], [105]⟩])) true, .eventHeaders 0 1][i]? =
        some (.eventHeaders thread session) → ∀ event,
      threadSlotsRun ([SlotOp.poll 0 1 (some (0, .headers [⟨[104], [105]⟩])) true, .eventHeaders 0 1].take i)
        thread = some event → ∃ list, event = .headers list ∧ list.length ≤ 32) ∧
    ∃ state heap', h3Run Jvm.emptyOnInvalid (fun _ => .fail) (SlotState.initial, Heap.empty)
        [.poll 0 1 (some (0, .headers [⟨[104], [105]⟩])) true, .eventHeaders 0 1] = .ok (state, heap') ∧
      SlotInvariant state ∧ heap'.blocks = Heap.empty.blocks := by
  have readable : ∀ i thread session,
      [SlotOp.poll 0 1 (some (0, .headers [⟨[104], [105]⟩])) true, .eventHeaders 0 1][i]? =
        some (.eventHeaders thread session) → ∀ event,
      threadSlotsRun ([SlotOp.poll 0 1 (some (0, .headers [⟨[104], [105]⟩])) true, .eventHeaders 0 1].take i)
        thread = some event → ∃ list, event = .headers list ∧ list.length ≤ 32 := by
    intro i thread session found event held
    match i, found with
    | 1, found =>
        obtain ⟨rfl, rfl⟩ : 0 = thread ∧ 1 = session := by simpa using found
        exact ⟨_, (Option.some.inj held).symm, by decide⟩
  exact ⟨readable, h3Run_frees_every_block Jvm.emptyOnInvalid (fun _ => .fail) _ Heap.empty readable⟩

section NeverFails

variable (jvm : Jvm) {oracle : Oracle} (neverFails : oracle.NeverFails)
include neverFails

/-- With no allocation failing, the collection returns on every Headers event below `2 ^ 30` headers. -/
theorem collectHeaders_returns_of_neverFails (list : List Header) (small : list.length < 2 ^ 30) (heap : Heap) :
    ∃ result heap', collectHeaders jvm oracle (.headers list) heap = .ok (result, heap') ∧
      heap'.blocks = heap.blocks :=
  let ⟨heap', returned, blocks⟩ := collectHeaders_of_neverFails_headerStrings jvm neverFails small heap
  ⟨_, heap', returned, blocks⟩

/--
With no allocation failing, a header read of a run, made in the state the
calls before it left, returns what the per-thread model reads there, when
every header read finds an empty slot or a Headers event below `2 ^ 30`
headers.
-/
theorem h3Run_prefix_reply {ops : List SlotOp} (heap : Heap)
    (readable : ∀ i thread session, ops[i]? = some (.eventHeaders thread session) → ∀ event,
      threadSlotsRun (ops.take i) thread = some event → ∃ list, event = .headers list ∧ list.length < 2 ^ 30)
    {i : Nat} {thread : ThreadId} {session : SessionId} (found : ops[i]? = some (.eventHeaders thread session)) :
    ∃ state heap₁ heap₂, h3Run jvm oracle (SlotState.initial, heap) (ops.take i) = .ok (state, heap₁) ∧
      heap₁.blocks = heap.blocks ∧
      quicheH3EventHeaders jvm oracle thread state heap₁ =
        .ok ((readHeaders (threadSlotsRun (ops.take i)) thread).map fun list => (headerStrings jvm list).map some,
          heap₂) ∧
      heap₂.blocks = heap.blocks := by
  have prefixReadable : ∀ j thread session, (ops.take i)[j]? = some (.eventHeaders thread session) →
      ∀ event, threadSlotsRun ((ops.take i).take j) thread = some event →
        ∃ list, event = .headers list ∧ list.length < 2 ^ 30 := by
    intro j thread session foundEarlier
    have earlier : j < i := by
      by_contra later
      simp [List.getElem?_take_eq_none (Nat.le_of_not_lt later)] at foundEarlier
    rw [List.getElem?_take_of_lt earlier] at foundEarlier
    rw [List.take_take, Nat.min_eq_left earlier.le]
    exact readable j thread session foundEarlier
  obtain ⟨state, heap₁, run, invariant, effects, blocks₁⟩ := h3Run_spec jvm oracle
    (collectHeaders_returns_of_neverFails jvm neverFails) heap (ops.take i) slotInvariant_initial prefixReadable
  have slots : state.slotEvent = threadSlotsRun (ops.take i) := effects.slotEvent
  have reply := quicheH3EventHeaders_of_invariant invariant jvm oracle thread heap₁
  rw [slots] at reply
  cases held : threadSlotsRun (ops.take i) thread with
  | none =>
      exact ⟨state, heap₁, heap₁, run, blocks₁, by simp [reply, readHeaders, held], blocks₁⟩
  | some event =>
      obtain ⟨list, rfl, small⟩ := readable i thread session found event held
      obtain ⟨heap₂, returned, blocks₂⟩ := collectHeaders_of_neverFails_headerStrings jvm neverFails small heap₁
      exact ⟨state, heap₁, heap₂, run, blocks₁, by simp [reply, readHeaders, held, returned],
        blocks₂.trans blocks₁⟩

end NeverFails

/--
The HTTP/3 bindings refine the per-thread model.  For every allocator that
never fails, every heap and every run of `quiche_h3_conn_poll`,
`quiche_h3_event_headers` and `quiche_h3_conn_free` calls, from any threads
on any sessions, in which each header read finds its thread's slot empty or
holding a Headers event of fewer than `2 ^ 30` headers: the run returns with
the C heap's blocks as before, and each header read, made in the state the
calls before it left, returns what the per-thread model reads there, `NULL`
for an empty slot and otherwise the array of the event's names and values,
each cut at its first zero byte, with every block freed again.
-/
theorem h3Run_replies_refine_threadSlots (jvm : Jvm) (oracle : Oracle) (neverFails : oracle.NeverFails)
    (ops : List SlotOp) (heap : Heap)
    (readable : ∀ i thread session, ops[i]? = some (.eventHeaders thread session) → ∀ event,
      threadSlotsRun (ops.take i) thread = some event → ∃ list, event = .headers list ∧ list.length < 2 ^ 30) :
    (∃ state heap', h3Run jvm oracle (SlotState.initial, heap) ops = .ok (state, heap') ∧
      heap'.blocks = heap.blocks) ∧
    ∀ i thread session, ops[i]? = some (.eventHeaders thread session) →
      ∃ state heap₁ heap₂, h3Run jvm oracle (SlotState.initial, heap) (ops.take i) = .ok (state, heap₁) ∧
        heap₁.blocks = heap.blocks ∧
        quicheH3EventHeaders jvm oracle thread state heap₁ =
          .ok ((readHeaders (threadSlotsRun (ops.take i)) thread).map fun list => (headerStrings jvm list).map some,
            heap₂) ∧
        heap₂.blocks = heap.blocks := by
  obtain ⟨state, heap', run, -, -, blocks⟩ := h3Run_spec jvm oracle
    (collectHeaders_returns_of_neverFails jvm neverFails) heap ops slotInvariant_initial readable
  exact ⟨⟨state, heap', run, blocks⟩, fun _ _ _ found => h3Run_prefix_reply jvm neverFails heap readable found⟩

/-- A Headers event `h: i` polled on thread 0 and read there, with every `realloc` moving. -/
theorem h3Run_replies_refine_threadSlots_poll_read :
    Oracle.NeverFails (fun _ => .moved) ∧
    (∀ i thread session, [SlotOp.poll 0 1 (some (0, .headers [⟨[104], [105]⟩])) true, .eventHeaders 0 1][i]? =
        some (.eventHeaders thread session) → ∀ event,
      threadSlotsRun ([SlotOp.poll 0 1 (some (0, .headers [⟨[104], [105]⟩])) true, .eventHeaders 0 1].take i)
        thread = some event → ∃ list, event = .headers list ∧ list.length < 2 ^ 30) ∧
    (∃ state heap', h3Run Jvm.emptyOnInvalid (fun _ => .moved) (SlotState.initial, Heap.empty)
        [.poll 0 1 (some (0, .headers [⟨[104], [105]⟩])) true, .eventHeaders 0 1] = .ok (state, heap') ∧
      heap'.blocks = Heap.empty.blocks) ∧
    ∀ i thread session, [SlotOp.poll 0 1 (some (0, .headers [⟨[104], [105]⟩])) true, .eventHeaders 0 1][i]? =
        some (.eventHeaders thread session) →
      ∃ state heap₁ heap₂, h3Run Jvm.emptyOnInvalid (fun _ => .moved) (SlotState.initial, Heap.empty)
          ([SlotOp.poll 0 1 (some (0, .headers [⟨[104], [105]⟩])) true, .eventHeaders 0 1].take i) =
            .ok (state, heap₁) ∧
        heap₁.blocks = Heap.empty.blocks ∧
        quicheH3EventHeaders Jvm.emptyOnInvalid (fun _ => .moved) thread state heap₁ =
          .ok ((readHeaders (threadSlotsRun
              ([SlotOp.poll 0 1 (some (0, .headers [⟨[104], [105]⟩])) true, .eventHeaders 0 1].take i))
              thread).map fun list => (headerStrings Jvm.emptyOnInvalid list).map some, heap₂) ∧
        heap₂.blocks = Heap.empty.blocks := by
  have neverFails : Oracle.NeverFails fun _ => .moved := fun _ => nofun
  have readable : ∀ i thread session,
      [SlotOp.poll 0 1 (some (0, .headers [⟨[104], [105]⟩])) true, .eventHeaders 0 1][i]? =
        some (.eventHeaders thread session) → ∀ event,
      threadSlotsRun ([SlotOp.poll 0 1 (some (0, .headers [⟨[104], [105]⟩])) true, .eventHeaders 0 1].take i)
        thread = some event → ∃ list, event = .headers list ∧ list.length < 2 ^ 30 := by
    intro i thread session found event held
    match i, found with
    | 1, found =>
        obtain ⟨rfl, rfl⟩ : 0 = thread ∧ 1 = session := by simpa using found
        exact ⟨_, (Option.some.inj held).symm, by decide⟩
  exact ⟨neverFails, readable,
    h3Run_replies_refine_threadSlots Jvm.emptyOnInvalid (fun _ => .moved) neverFails _ Heap.empty readable⟩

/--
The HTTP/3 bindings meet the per-session model of their documentation when
threads and sessions are paired.  For every allocator that never fails,
every heap and every run of `quiche_h3_conn_poll`, `quiche_h3_event_headers`
and `quiche_h3_conn_free` calls in which two calls come from the same thread
exactly when they name the same session, and in which each header read finds
its session's slot in the per-session model empty or holding a Headers event
of fewer than `2 ^ 30` headers: the run returns with the C heap's blocks as
before, and each header read returns what `readHeaders` of the per-session
model returns at that point, `NULL` for `EventStale` and otherwise the array
of the event's names and values, each cut at its first zero byte.
-/
theorem h3Run_replies_refine_sessionSlots (jvm : Jvm) (oracle : Oracle) (neverFails : oracle.NeverFails)
    (ops : List SlotOp) (heap : Heap)
    (paired : ∀ op ∈ ops, ∀ other ∈ ops, op.thread = other.thread ↔ op.session = other.session)
    (readable : ∀ i thread session, ops[i]? = some (.eventHeaders thread session) → ∀ event,
      sessionSlotsRun (ops.take i) session = some event → ∃ list, event = .headers list ∧ list.length < 2 ^ 30) :
    (∃ state heap', h3Run jvm oracle (SlotState.initial, heap) ops = .ok (state, heap') ∧
      heap'.blocks = heap.blocks) ∧
    ∀ i thread session, ops[i]? = some (.eventHeaders thread session) →
      ∃ state heap₁ heap₂, h3Run jvm oracle (SlotState.initial, heap) (ops.take i) = .ok (state, heap₁) ∧
        heap₁.blocks = heap.blocks ∧
        quicheH3EventHeaders jvm oracle thread state heap₁ =
          .ok ((readHeaders (sessionSlotsRun (ops.take i)) session).map fun list => (headerStrings jvm list).map some,
            heap₂) ∧
        heap₂.blocks = heap.blocks := by
  have agree : ∀ i thread session, ops[i]? = some (.eventHeaders thread session) →
      threadSlotsRun (ops.take i) thread = sessionSlotsRun (ops.take i) session := by
    intro i thread session found
    exact foldl_keyedSlotsStep_agree _ _ _
      (fun op member => paired op (List.mem_of_mem_take member) _ (List.getElem?_mem found)) rfl
  have readableThreads : ∀ i thread session, ops[i]? = some (.eventHeaders thread session) → ∀ event,
      threadSlotsRun (ops.take i) thread = some event → ∃ list, event = .headers list ∧ list.length < 2 ^ 30 :=
    fun i thread session found event held =>
      readable i thread session found event ((agree i thread session found).symm.trans held)
  obtain ⟨state, heap', run, -, -, blocks⟩ := h3Run_spec jvm oracle
    (collectHeaders_returns_of_neverFails jvm neverFails) heap ops slotInvariant_initial readableThreads
  refine ⟨⟨state, heap', run, blocks⟩, fun i thread session found => ?_⟩
  have sameRead : readHeaders (threadSlotsRun (ops.take i)) thread =
      readHeaders (sessionSlotsRun (ops.take i)) session := by
    unfold readHeaders
    rw [agree i thread session found]
  rw [← sameRead]
  exact h3Run_prefix_reply jvm neverFails heap readableThreads found

/--
Sessions 1 and 2 are polled on threads 0 and 1, and thread 1 reads session
2's headers `h: i` after thread 0's poll, with every `realloc` moving.
-/
theorem h3Run_replies_refine_sessionSlots_two_threads :
    Oracle.NeverFails (fun _ => .moved) ∧
    (∀ op ∈ [SlotOp.poll 0 1 (some (0, .headers [])) true, .poll 1 2 (some (4, .headers [⟨[104], [105]⟩])) true,
        .eventHeaders 1 2], ∀ other ∈ [SlotOp.poll 0 1 (some (0, .headers [])) true, .poll 1 2 (some (4, .headers [⟨[104], [105]⟩])) true,
        .eventHeaders 1 2],
      op.thread = other.thread ↔ op.session = other.session) ∧
    (∀ i thread session, [SlotOp.poll 0 1 (some (0, .headers [])) true, .poll 1 2 (some (4, .headers [⟨[104], [105]⟩])) true,
        .eventHeaders 1 2][i]? =
        some (.eventHeaders thread session) → ∀ event,
      sessionSlotsRun ([SlotOp.poll 0 1 (some (0, .headers [])) true, .poll 1 2 (some (4, .headers [⟨[104], [105]⟩])) true,
        .eventHeaders 1 2].take i) session = some event →
        ∃ list, event = .headers list ∧ list.length < 2 ^ 30) ∧
    (∃ state heap', h3Run Jvm.emptyOnInvalid (fun _ => .moved) (SlotState.initial, Heap.empty) [SlotOp.poll 0 1 (some (0, .headers [])) true, .poll 1 2 (some (4, .headers [⟨[104], [105]⟩])) true,
        .eventHeaders 1 2] =
        .ok (state, heap') ∧
      heap'.blocks = Heap.empty.blocks) ∧
    ∀ i thread session, [SlotOp.poll 0 1 (some (0, .headers [])) true, .poll 1 2 (some (4, .headers [⟨[104], [105]⟩])) true,
        .eventHeaders 1 2][i]? =
        some (.eventHeaders thread session) →
      ∃ state heap₁ heap₂, h3Run Jvm.emptyOnInvalid (fun _ => .moved) (SlotState.initial, Heap.empty) ([SlotOp.poll 0 1 (some (0, .headers [])) true, .poll 1 2 (some (4, .headers [⟨[104], [105]⟩])) true,
        .eventHeaders 1 2].take i) =
          .ok (state, heap₁) ∧
        heap₁.blocks = Heap.empty.blocks ∧
        quicheH3EventHeaders Jvm.emptyOnInvalid (fun _ => .moved) thread state heap₁ =
          .ok ((readHeaders (sessionSlotsRun ([SlotOp.poll 0 1 (some (0, .headers [])) true, .poll 1 2 (some (4, .headers [⟨[104], [105]⟩])) true,
        .eventHeaders 1 2].take i)) session).map
              fun list => (headerStrings Jvm.emptyOnInvalid list).map some, heap₂) ∧
        heap₂.blocks = Heap.empty.blocks := by
  have neverFails : Oracle.NeverFails fun _ => .moved := fun _ => nofun
  have paired : ∀ op ∈ [SlotOp.poll 0 1 (some (0, .headers [])) true, .poll 1 2 (some (4, .headers [⟨[104], [105]⟩])) true,
        .eventHeaders 1 2], ∀ other ∈ [SlotOp.poll 0 1 (some (0, .headers [])) true, .poll 1 2 (some (4, .headers [⟨[104], [105]⟩])) true,
        .eventHeaders 1 2],
      op.thread = other.thread ↔ op.session = other.session := by
    decide
  have readable : ∀ i thread session, [SlotOp.poll 0 1 (some (0, .headers [])) true, .poll 1 2 (some (4, .headers [⟨[104], [105]⟩])) true,
        .eventHeaders 1 2][i]? =
        some (.eventHeaders thread session) → ∀ event,
      sessionSlotsRun ([SlotOp.poll 0 1 (some (0, .headers [])) true, .poll 1 2 (some (4, .headers [⟨[104], [105]⟩])) true,
        .eventHeaders 1 2].take i) session = some event →
        ∃ list, event = .headers list ∧ list.length < 2 ^ 30 := by
    intro i thread session found event held
    match i, found with
    | 2, found =>
        obtain ⟨rfl, rfl⟩ : 1 = thread ∧ 2 = session := by simpa using found
        exact ⟨_, (Option.some.inj held).symm, by decide⟩
  exact ⟨neverFails, paired, readable,
    h3Run_replies_refine_sessionSlots Jvm.emptyOnInvalid (fun _ => .moved) neverFails _ Heap.empty paired readable⟩

end Gumdrop
