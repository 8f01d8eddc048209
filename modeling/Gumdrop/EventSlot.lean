import Gumdrop.HeaderCollectorInvariant

namespace Gumdrop

/-!
# The event slot of the HTTP/3 bindings

`h3_jni.c` keeps the most recently polled event in
`static __thread quiche_h3_event *current_event`: one slot per thread, not
per session.  `quiche_h3_conn_poll` frees the calling thread's slot and
fills it with the engine's next event for the polled session;
`quiche_h3_conn_free` frees the calling thread's slot, whatever session it
came from; `quiche_h3_event_headers` ignores its session argument and walks
the calling thread's slot.

The engine is an oracle: each poll carries the engine's answer.  Events are
numbered in the order the engine hands them out, and each remembers its
session and whether `quiche_h3_event_free` has run on it.  Freeing a freed
event, or walking one, is a `Fault`.
-/

/-- A JVM thread that calls into the bindings. -/
abbrev ThreadId := Nat

/-- An HTTP/3 session, by its `quiche_h3_conn *` handle. -/
abbrev SessionId := Nat

/-- An event the engine handed out: its session, its contents, and whether it was freed. -/
structure IssuedEvent where
  session : SessionId
  event : H3Event
  freed : Bool
  deriving Repr, DecidableEq

/-- The session and contents of an issued event: what freeing it does not change. -/
def IssuedEvent.origin (issued : IssuedEvent) : SessionId × H3Event :=
  (issued.session, issued.event)

/-- The engine's answer to one `quiche_h3_conn_poll`: a stream id and a fresh event, or none. -/
abbrev PollAnswer := Option (Nat × H3Event)

/-- Every thread's `current_event`, the events handed out so far, and the freed sessions. -/
structure SlotState where
  currentEvent : ThreadId → Option Nat
  issued : List IssuedEvent
  freedSessions : List SessionId

namespace SlotState

/-- No thread has polled yet. -/
def initial : SlotState := ⟨fun _ => none, [], []⟩

/-- Set one thread's `current_event`. -/
def setCurrent (state : SlotState) (thread : ThreadId) (slot : Option Nat) : SlotState :=
  { state with currentEvent := fun other => if other = thread then slot else state.currentEvent other }

/-- An event handed out and not yet freed. -/
def Allocated (state : SlotState) (address : Nat) : Prop :=
  ∃ issued, state.issued[address]? = some issued ∧ issued.freed = false

/-- The contents of the event a thread's slot holds. -/
def slotEvent (state : SlotState) (thread : ThreadId) : Option H3Event :=
  (state.currentEvent thread).bind fun address => (state.issued[address]?).map IssuedEvent.event

@[simp] theorem currentEvent_setCurrent {state : SlotState} {thread other : ThreadId}
    {slot : Option Nat} :
    (state.setCurrent thread slot).currentEvent other =
      if other = thread then slot else state.currentEvent other := rfl

@[simp] theorem issued_setCurrent {state : SlotState} {thread : ThreadId} {slot : Option Nat} :
    (state.setCurrent thread slot).issued = state.issued := rfl

@[simp] theorem freedSessions_setCurrent {state : SlotState} {thread : ThreadId}
    {slot : Option Nat} :
    (state.setCurrent thread slot).freedSessions = state.freedSessions := rfl

end SlotState

/-- `quiche_h3_event_type`, as the switch in `quiche_h3_conn_poll` maps it to Java. -/
def eventType : H3Event → Int
  | .headers _ => 0
  | .data => 1
  | .finished => 2
  | .goAway => 3
  | .reset => 4
  | .priorityUpdate => -1

/-- `quiche_h3_event_free(ev)`: only an event that is still allocated may be freed. -/
def quicheH3EventFree (address : Nat) (state : SlotState) : Except Fault SlotState :=
  match state.issued[address]? with
  | some issued =>
      if issued.freed then .error (.eventDoubleFree address)
      else .ok { state with issued := state.issued.set address { issued with freed := true } }
  | none => .error (.eventDoubleFree address)

/-- `if (current_event != NULL) { quiche_h3_event_free(current_event); current_event = NULL; }` -/
def releaseCurrentEvent (thread : ThreadId) (state : SlotState) : Except Fault SlotState :=
  match state.currentEvent thread with
  | none => .ok state
  | some address => do
      let state ← quicheH3EventFree address state
      pure (state.setCurrent thread none)

/--
`Java_..._quiche_1h3_1conn_1poll` on `thread` for `session`: the JNI result
(`[stream id, event type]`, or `NULL`) and the state afterwards.
`arrayAllocated` is whether `NewLongArray` succeeds.
-/
def quicheH3ConnPoll (thread : ThreadId) (session : SessionId) (answer : PollAnswer)
    (arrayAllocated : Bool) (state : SlotState) : Except Fault (Option (Nat × Int) × SlotState) := do
  let state ← releaseCurrentEvent thread state
  match answer with
  | none => pure (none, state)
  | some (streamId, event) =>
      let address := state.issued.length
      let state := ({ state with issued := state.issued ++ [⟨session, event, false⟩] } :
        SlotState).setCurrent thread (some address)
      pure (if arrayAllocated then some (streamId, eventType event) else none, state)

/-- `Java_..._quiche_1h3_1conn_1free` on `thread`: the engine frees `session`, then the thread's slot is freed. -/
def quicheH3ConnFree (thread : ThreadId) (session : SessionId) (state : SlotState) :
    Except Fault SlotState :=
  releaseCurrentEvent thread { state with freedSessions := state.freedSessions ++ [session] }

/-- The event `quiche_h3_event_headers` on `thread` hands to the engine, if its slot is set. -/
def headersTarget (thread : ThreadId) (state : SlotState) : Except Fault (Option H3Event) :=
  match state.currentEvent thread with
  | none => .ok none
  | some address =>
      match state.issued[address]? with
      | some issued => if issued.freed then .error (.eventUseAfterFree address) else .ok (some issued.event)
      | none => .error (.eventUseAfterFree address)

/--
`Java_..._quiche_1h3_1event_1headers` on `thread`; the session handle is not
read.  `NULL` for an empty slot, otherwise the collection over the slot's event.
-/
def quicheH3EventHeaders (jvm : Jvm) (oracle : Oracle) (thread : ThreadId) (state : SlotState) (heap : Heap) :
    Except Fault (Option (List (Option JString)) × Heap) := do
  match ← headersTarget thread state with
  | none => pure (none, heap)
  | some event => collectHeaders jvm oracle event heap

/-- One call of a run: which thread makes it, on which session, with the engine's answers. -/
inductive SlotOp where
  | poll (thread : ThreadId) (session : SessionId) (answer : PollAnswer) (arrayAllocated : Bool)
  | eventHeaders (thread : ThreadId) (session : SessionId)
  | connFree (thread : ThreadId) (session : SessionId)
  deriving Repr, DecidableEq

namespace SlotOp

/-- The calling thread. -/
def thread : SlotOp → ThreadId
  | poll thread .. => thread
  | eventHeaders thread _ => thread
  | connFree thread _ => thread

/-- The session handle the call names. -/
def session : SlotOp → SessionId
  | poll _ session .. => session
  | eventHeaders _ session => session
  | connFree _ session => session

/-- The slot a call leaves in its own thread: a poll's fresh event is numbered after all earlier ones. -/
def slotAfter (op : SlotOp) (state : SlotState) : Option Nat :=
  match op with
  | poll _ _ answer _ => answer.map fun _ => state.issued.length
  | eventHeaders thread _ => state.currentEvent thread
  | connFree .. => none

/-- The events the engine hands out during a call, with their sessions. -/
def issues : SlotOp → List (SessionId × H3Event)
  | poll _ session answer _ => answer.toList.map fun (_, event) => (session, event)
  | _ => []

/-- The sessions a call frees. -/
def frees : SlotOp → List SessionId
  | connFree _ session => [session]
  | _ => []

end SlotOp

/--
The effect of one call on the slots alone; a header read changes no slot but
must find a live event.  `h3Step` adds the collection a header read runs.
-/
def slotStep (state : SlotState) : SlotOp → Except Fault SlotState
  | .poll thread session answer arrayAllocated =>
      (quicheH3ConnPoll thread session answer arrayAllocated state).map Prod.snd
  | .eventHeaders thread _ => (headersTarget thread state).map fun _ => state
  | .connFree thread session => quicheH3ConnFree thread session state

/-- A run of calls, one after the other. -/
def slotRun (state : SlotState) : List SlotOp → Except Fault SlotState
  | [] => .ok state
  | op :: rest => do
      let state ← slotStep state op
      slotRun state rest

/-! ## The invariant of the slots -/

/--
Every slot holds an allocated event, no event sits in two slots, and every
allocated event sits in some slot: so each event the engine handed out is
either in exactly one slot or freed.
-/
structure SlotInvariant (state : SlotState) : Prop where
  held_allocated : ∀ thread address, state.currentEvent thread = some address → state.Allocated address
  held_once : ∀ thread other address,
    state.currentEvent thread = some address → state.currentEvent other = some address → thread = other
  allocated_held : ∀ address, state.Allocated address → ∃ thread, state.currentEvent thread = some address

section Steps

variable {state : SlotState}

/-- An allocated event has been handed out. -/
theorem SlotState.Allocated.lt_length {address : Nat}
    (allocated : state.Allocated address) :
    address < state.issued.length := by
  obtain ⟨issued, found, _⟩ := allocated
  by_contra outside
  simp [List.getElem?_eq_none (Nat.le_of_not_lt outside)] at found

/-- The initial state satisfies the invariant. -/
theorem slotInvariant_initial : SlotInvariant SlotState.initial where
  held_allocated _ _ held := nomatch held
  held_once _ _ _ held := nomatch held
  allocated_held _ allocated := nomatch allocated.lt_length

/-- `quiche_h3_event_free` on an allocated event marks it freed. -/
theorem quicheH3EventFree_of_allocated
    {address : Nat} {issued : IssuedEvent}
    (found : state.issued[address]? = some issued)
    (live : issued.freed = false) :
    quicheH3EventFree address state =
      .ok { state with issued := state.issued.set address { issued with freed := true } } := by
  simp [quicheH3EventFree, found, live]

/-- Marking an event freed removes exactly that event from the allocated ones. -/
theorem allocated_markFreed
    {address : Nat} {issued : IssuedEvent}
    (other : Nat) :
    ({ state with issued := state.issued.set address { issued with freed := true } } :
      SlotState).Allocated other ↔ state.Allocated other ∧ other ≠ address := by
  simp only [SlotState.Allocated, List.getElem?_set]
  by_cases same : address = other
  · subst same
    simp
  · simp [same, Ne.symm same]

/-- Marking an event freed changes no event's session or contents. -/
theorem origins_markFreed
    {address : Nat} {issued : IssuedEvent}
    (found : state.issued[address]? = some issued) :
    (state.issued.set address { issued with freed := true }).map IssuedEvent.origin =
      state.issued.map IssuedEvent.origin := by
  apply List.ext_getElem?
  intro other
  simp only [List.getElem?_map, List.getElem?_set]
  split
  · next same =>
      subst same
      simp [found, IssuedEvent.origin, (List.getElem?_eq_some_iff.mp found).1]
  · rfl

/-- Freeing the event of a thread's slot keeps the invariant. -/
theorem SlotInvariant.markFreed
    (invariant : SlotInvariant state)
    {thread : ThreadId} {address : Nat}
    (held : state.currentEvent thread = some address)
    (issued : IssuedEvent) :
    SlotInvariant
      (({ state with issued := state.issued.set address { issued with freed := true } } :
        SlotState).setCurrent thread none) where
  held_allocated other other' slot := by
    simp only [SlotState.currentEvent_setCurrent] at slot
    split at slot
    · cases slot
    · next different =>
        refine (allocated_markFreed other').mpr ⟨invariant.held_allocated other other' slot, ?_⟩
        rintro rfl
        exact different (invariant.held_once other thread _ slot held)
  held_once first second other' firstSlot secondSlot := by
    simp only [SlotState.currentEvent_setCurrent] at firstSlot secondSlot
    split at firstSlot
    · cases firstSlot
    · split at secondSlot
      · cases secondSlot
      · exact invariant.held_once first second other' firstSlot secondSlot
  allocated_held other' allocated := by
    obtain ⟨allocated, different⟩ := (allocated_markFreed other').mp allocated
    obtain ⟨holder, slot⟩ := invariant.allocated_held other' allocated
    refine ⟨holder, ?_⟩
    have : holder ≠ thread := by
      rintro rfl
      exact different (Option.some.inj (slot.symm.trans held))
    simp [this, slot]

/-- Handing out a fresh event into an empty slot keeps the invariant. -/
theorem SlotInvariant.issue
    (invariant : SlotInvariant state)
    {thread : ThreadId}
    (empty : state.currentEvent thread = none)
    (session : SessionId) (event : H3Event) :
    SlotInvariant
      (({ state with issued := state.issued ++ [⟨session, event, false⟩] } : SlotState).setCurrent
        thread (some state.issued.length)) where
  held_allocated other address slot := by
    simp only [SlotState.currentEvent_setCurrent] at slot
    split at slot
    · cases slot
      exact ⟨_, List.getElem?_concat_length _ _, rfl⟩
    · obtain ⟨issued, found, live⟩ := invariant.held_allocated other address slot
      have inside := (invariant.held_allocated other address slot).lt_length
      exact ⟨issued, by simp [List.getElem?_append_left inside, found], live⟩
  held_once first second address firstSlot secondSlot := by
    simp only [SlotState.currentEvent_setCurrent] at firstSlot secondSlot
    have fresh : ∀ other, state.currentEvent other ≠ some state.issued.length := fun other slot =>
      Nat.lt_irrefl _ (invariant.held_allocated other _ slot).lt_length
    split at firstSlot <;> split at secondSlot
    · simp_all
    · cases firstSlot
      exact absurd secondSlot (fresh second)
    · cases secondSlot
      exact absurd firstSlot (fresh first)
    · exact invariant.held_once first second address firstSlot secondSlot
  allocated_held address allocated := by
    obtain ⟨issued, found, live⟩ := allocated
    simp only [SlotState.issued_setCurrent] at found
    rw [List.getElem?_append] at found
    split at found
    · obtain ⟨holder, slot⟩ := invariant.allocated_held address ⟨issued, found, live⟩
      have : holder ≠ thread := fun same => by simp_all
      exact ⟨holder, by simp [this, slot]⟩
    · next outside =>
        have : address = state.issued.length := by
          have := (List.getElem?_eq_some_iff.mp found).1
          simp at this
          omega
        exact ⟨thread, by simp [this]⟩

/-- Changing the freed sessions keeps the invariant. -/
theorem SlotInvariant.freeSession
    (invariant : SlotInvariant state)
    (sessions : List SessionId) :
    SlotInvariant { state with freedSessions := sessions } :=
  ⟨invariant.held_allocated, invariant.held_once, invariant.allocated_held⟩

/-- `releaseCurrentEvent` empties the thread's slot and changes no other slot, origin or session. -/
theorem releaseCurrentEvent_spec
    (invariant : SlotInvariant state)
    (thread : ThreadId) :
    ∃ state', releaseCurrentEvent thread state = .ok state' ∧ SlotInvariant state' ∧
      state'.currentEvent thread = none ∧
      (∀ other, other ≠ thread → state'.currentEvent other = state.currentEvent other) ∧
      state'.issued.map IssuedEvent.origin = state.issued.map IssuedEvent.origin ∧
      state'.freedSessions = state.freedSessions := by
  cases held : state.currentEvent thread with
  | none =>
      exact ⟨state, by simp [releaseCurrentEvent, held], invariant, held, fun _ _ => rfl, rfl, rfl⟩
  | some address =>
      obtain ⟨issued, found, live⟩ := invariant.held_allocated thread address held
      exact ⟨_, by simp [releaseCurrentEvent, held, quicheH3EventFree_of_allocated found live],
        invariant.markFreed held issued, by simp, fun other different => by simp [different],
        origins_markFreed found, rfl⟩

/-- Under the invariant a thread's slot is empty or holds an allocated event, so reading it cannot fault. -/
theorem headersTarget_of_invariant
    (invariant : SlotInvariant state)
    (thread : ThreadId) :
    headersTarget thread state = .ok (state.slotEvent thread) := by
  cases held : state.currentEvent thread with
  | none =>
      simp [headersTarget, SlotState.slotEvent, held]
  | some address =>
      obtain ⟨issued, found, live⟩ := invariant.held_allocated thread address held
      simp [headersTarget, SlotState.slotEvent, held, found, live]

/-- What one call does to the slots, the events' origins and the freed sessions. -/
structure StepEffect (state : SlotState) (op : SlotOp) (state' : SlotState) : Prop where
  current_self : state'.currentEvent op.thread = op.slotAfter state
  current_other : ∀ other, other ≠ op.thread → state'.currentEvent other = state.currentEvent other
  origins : state'.issued.map IssuedEvent.origin = state.issued.map IssuedEvent.origin ++ op.issues
  freed_sessions : state'.freedSessions = state.freedSessions ++ op.frees

/-- From a state that satisfies the invariant, every call succeeds, keeps the invariant and has its `StepEffect`. -/
theorem slotStep_spec
    (invariant : SlotInvariant state)
    (op : SlotOp) :
    ∃ state', slotStep state op = .ok state' ∧ SlotInvariant state' ∧ StepEffect state op state' := by
  cases op with
  | poll thread session answer arrayAllocated =>
      obtain ⟨released, release, invariant', empty, others, origins, sessions⟩ :=
        releaseCurrentEvent_spec invariant thread
      have sameLength : released.issued.length = state.issued.length := by
        simpa using congrArg List.length origins
      cases answer with
      | none =>
          exact ⟨released, by simp [slotStep, quicheH3ConnPoll, release], invariant',
            ⟨empty, others, by simp [origins, SlotOp.issues], by simp [sessions, SlotOp.frees]⟩⟩
      | some answer =>
          refine ⟨_, by simp [slotStep, quicheH3ConnPoll, release], invariant'.issue empty session answer.2,
            ⟨by simp [SlotOp.slotAfter, SlotOp.thread, sameLength], fun other different => ?_,
              by simp [origins, SlotOp.issues, IssuedEvent.origin], by simp [sessions, SlotOp.frees]⟩⟩
          simp only [SlotOp.thread] at different
          simp [different, others other different]
  | eventHeaders thread session =>
      exact ⟨state, by simp [slotStep, headersTarget_of_invariant invariant], invariant,
        ⟨rfl, fun _ _ => rfl, by simp [SlotOp.issues], by simp [SlotOp.frees]⟩⟩
  | connFree thread session =>
      obtain ⟨released, release, invariant', empty, others, origins, sessions⟩ :=
        releaseCurrentEvent_spec (invariant.freeSession (state.freedSessions ++ [session])) thread
      exact ⟨released, release, invariant', ⟨empty, others, by simpa [SlotOp.issues] using origins,
        by simpa [SlotOp.frees] using sessions⟩⟩

/-- A run in which every step starts from a state with the invariant and has its `StepEffect`. -/
inductive EffectRun : SlotState → List SlotOp → SlotState → Prop
  | nil (state : SlotState) : EffectRun state [] state
  | cons {state next final : SlotState} {op : SlotOp} {rest : List SlotOp}
      (invariant : SlotInvariant state)
      (effect : StepEffect state op next)
      (tail : EffectRun next rest final) :
      EffectRun state (op :: rest) final

/-- From a state with the invariant, every run succeeds and keeps the invariant. -/
theorem slotRun_spec
    (ops : List SlotOp)
    (invariant : SlotInvariant state) :
    ∃ final, slotRun state ops = .ok final ∧ SlotInvariant final ∧ EffectRun state ops final := by
  induction ops generalizing state with
  | nil =>
      exact ⟨state, rfl, invariant, .nil state⟩
  | cons op rest inductionHypothesis =>
      obtain ⟨next, step, invariant', effect⟩ := slotStep_spec invariant op
      obtain ⟨final, run, invariantFinal, tail⟩ := inductionHypothesis invariant'
      exact ⟨final, by simp [slotRun, step, run], invariantFinal, .cons invariant effect tail⟩

end Steps

/-! ## What the slots hold: the per-thread model -/

/--
A model with one event slot per key of a call: a poll empties the key's slot
and stores the engine's event, a `conn_free` empties it, a header read leaves
it.  Keyed by thread it is what the bindings implement; keyed by session it
is the per-session model of the documentation.
-/
def keyedSlotsStep (key : SlotOp → Nat) (slots : Nat → Option H3Event) (op : SlotOp) (other : Nat) :
    Option H3Event :=
  if other = key op then
    match op with
    | .poll _ _ answer _ => answer.map Prod.snd
    | .eventHeaders .. => slots other
    | .connFree .. => none
  else slots other

/-- The per-thread model after a run from empty slots. -/
def threadSlotsRun (ops : List SlotOp) : ThreadId → Option H3Event :=
  ops.foldl (keyedSlotsStep SlotOp.thread) fun _ => none

/-- The per-session model after a run from empty slots. -/
def sessionSlotsRun (ops : List SlotOp) : SessionId → Option H3Event :=
  ops.foldl (keyedSlotsStep SlotOp.session) fun _ => none

/-- `readHeaders` of the per-session model: the header list of a Headers event, otherwise `EventStale` (`none`). -/
def readHeaders (slots : SessionId → Option H3Event) (session : SessionId) : Option (List Header) :=
  match slots session with
  | some (.headers list) => some list
  | _ => none

/--
Two keyings of the slot model agree on a pair of keys that every call names
together or not at all: the slot of `first` under one keying holds what the
slot of `second` holds under the other.
-/
theorem foldl_keyedSlotsStep_agree {firstKey secondKey : SlotOp → Nat} {first second : Nat} :
    ∀ (ops : List SlotOp) (firstSlots secondSlots : Nat → Option H3Event),
      (∀ op ∈ ops, firstKey op = first ↔ secondKey op = second) → firstSlots first = secondSlots second →
      ops.foldl (keyedSlotsStep firstKey) firstSlots first = ops.foldl (keyedSlotsStep secondKey) secondSlots second
  | [], _, _, _, same => same
  | op :: rest, firstSlots, secondSlots, together, same => by
      have step : keyedSlotsStep firstKey firstSlots op first = keyedSlotsStep secondKey secondSlots op second := by
        unfold keyedSlotsStep
        by_cases named : firstKey op = first
        · rw [if_pos named.symm, if_pos ((together op (List.mem_cons_self _ _)).mp named).symm]
          cases op <;> simp only [same]
        · rw [if_neg (Ne.symm named),
            if_neg (Ne.symm fun other => named ((together op (List.mem_cons_self _ _)).mpr other)), same]
      exact foldl_keyedSlotsStep_agree rest _ _
        (fun op member => together op (List.mem_cons_of_mem _ member)) step

section Refinement

variable {state : SlotState}

/-- A slot's event, read through the origins of the issued events. -/
theorem slotEvent_eq_origins (thread : ThreadId) :
    state.slotEvent thread =
      (state.currentEvent thread).bind fun address =>
        ((state.issued.map IssuedEvent.origin)[address]?).map Prod.snd := by
  simp [SlotState.slotEvent, List.getElem?_map, Option.map_map]
  rfl

/-- A slot that a step does not touch keeps its event: the step only appends origins. -/
theorem slotEvent_frame
    (invariant : SlotInvariant state)
    {state' : SlotState} {thread : ThreadId} {more : List (SessionId × H3Event)}
    (sameSlot : state'.currentEvent thread = state.currentEvent thread)
    (origins : state'.issued.map IssuedEvent.origin = state.issued.map IssuedEvent.origin ++ more) :
    state'.slotEvent thread = state.slotEvent thread := by
  rw [slotEvent_eq_origins, slotEvent_eq_origins, sameSlot, origins]
  cases held : state.currentEvent thread with
  | none =>
      rfl
  | some address =>
      have inside := (invariant.held_allocated thread address held).lt_length
      simp [List.getElem?_append_left (show address < (state.issued.map IssuedEvent.origin).length by
        simpa using inside)]

/-- One step moves the slots' events as the per-thread model says. -/
theorem StepEffect.slotEvent
    (invariant : SlotInvariant state)
    {op : SlotOp} {state' : SlotState}
    (effect : StepEffect state op state') :
    state'.slotEvent = keyedSlotsStep SlotOp.thread state.slotEvent op := by
  funext thread
  unfold keyedSlotsStep
  split
  · next same =>
      subst same
      cases op with
      | poll thread session answer arrayAllocated =>
          rw [slotEvent_eq_origins, effect.current_self, effect.origins]
          cases answer <;> simp [SlotOp.slotAfter, SlotOp.issues]
      | eventHeaders thread session =>
          exact slotEvent_frame invariant effect.current_self effect.origins
      | connFree thread session =>
          simp [SlotState.slotEvent, effect.current_self, SlotOp.slotAfter]
  · next different =>
      exact slotEvent_frame invariant (effect.current_other thread different) effect.origins

/-- Over a whole run the slots' events are those of the per-thread model. -/
theorem EffectRun.slotEvent
    {ops : List SlotOp} {final : SlotState}
    (run : EffectRun state ops final) :
    final.slotEvent = ops.foldl (keyedSlotsStep SlotOp.thread) state.slotEvent := by
  induction run with
  | nil =>
      rfl
  | cons invariant effect _ inductionHypothesis =>
      rw [inductionHypothesis, effect.slotEvent invariant]
      rfl

/-- Under the invariant, `quiche_h3_event_headers` runs the collection over the thread's slot, or returns `NULL`. -/
theorem quicheH3EventHeaders_of_invariant
    (invariant : SlotInvariant state)
    (jvm : Jvm) (oracle : Oracle) (thread : ThreadId) (heap : Heap) :
    quicheH3EventHeaders jvm oracle thread state heap =
      match state.slotEvent thread with
      | none => .ok (none, heap)
      | some event => collectHeaders jvm oracle event heap := by
  simp only [quicheH3EventHeaders, headersTarget_of_invariant invariant, ok_bind]
  cases state.slotEvent thread <;> rfl

end Refinement

/-! ## Which sessions the allocated events belong to -/

/-- Every slot holds an event of a session that the slot's thread owns and that is not freed. -/
def SessionsLive (owner : SessionId → ThreadId) (state : SlotState) : Prop :=
  ∀ thread address session event, state.currentEvent thread = some address →
    (state.issued.map IssuedEvent.origin)[address]? = some (session, event) →
    owner session = thread ∧ session ∉ state.freedSessions

section Sessions

variable {state : SlotState} {owner : SessionId → ThreadId}

/-- A call from its session's owner thread, on a session not yet freed, keeps `SessionsLive`. -/
theorem StepEffect.sessionsLive
    (invariant : SlotInvariant state)
    {op : SlotOp} {state' : SlotState}
    (effect : StepEffect state op state')
    (live : SessionsLive owner state)
    (affine : op.thread = owner op.session)
    (unfreed : op.session ∉ state.freedSessions) :
    SessionsLive owner state' := by
  intro thread address session event slot origin
  rw [effect.origins] at origin
  rw [effect.freed_sessions, List.mem_append, not_or]
  by_cases same : thread = op.thread
  · subst same
    rw [effect.current_self] at slot
    cases op with
    | poll thread session' answer arrayAllocated =>
        cases answer with
        | none =>
            cases slot
        | some answer =>
            simp only [SlotOp.slotAfter, Option.map_some', Option.some.injEq] at slot
            subst slot
            simp [SlotOp.issues] at origin
            simp_all [SlotOp.thread, SlotOp.session, SlotOp.frees]
    | eventHeaders thread session' =>
        simp only [SlotOp.issues, List.append_nil] at origin
        simpa [SlotOp.frees] using live _ _ _ _ slot origin
    | connFree thread session' =>
        cases slot
  · rw [effect.current_other thread same] at slot
    have inside := (invariant.held_allocated thread address slot).lt_length
    rw [List.getElem?_append_left (by simpa using inside)] at origin
    obtain ⟨owned, notFreed⟩ := live thread address session event slot origin
    refine ⟨owned, notFreed, fun freedNow => same ?_⟩
    cases op <;> simp only [SlotOp.frees, List.mem_singleton, List.not_mem_nil] at freedNow
    subst freedNow
    exact owned.symm.trans affine.symm

/-- Over a run whose calls come from their sessions' owners and never name a freed session, `SessionsLive` holds throughout. -/
theorem EffectRun.sessionsLive
    {ops : List SlotOp} {final : SlotState}
    (run : EffectRun state ops final)
    (live : SessionsLive owner state)
    (affine : ∀ op ∈ ops, op.thread = owner op.session)
    (noUseAfterFree : ops.Pairwise fun earlier later => later.session ∉ earlier.frees)
    (unfreed : ∀ op ∈ ops, op.session ∉ state.freedSessions) :
    SessionsLive owner final := by
  induction run with
  | nil =>
      exact live
  | @cons state next final op rest invariant effect _ inductionHypothesis =>
      have laterUnfreed := (List.pairwise_cons.mp noUseAfterFree).1
      refine inductionHypothesis
        (effect.sessionsLive invariant live (affine op (List.mem_cons_self _ _))
          (unfreed op (List.mem_cons_self _ _)))
        (fun later member => affine later (List.mem_cons_of_mem _ member))
        (List.pairwise_cons.mp noUseAfterFree).2 ?_
      intro later member
      rw [effect.freed_sessions, List.mem_append, not_or]
      exact ⟨unfreed later (List.mem_cons_of_mem _ member), laterUnfreed later member⟩

/-- Under both invariants, an allocated event belongs to a session that is not freed. -/
theorem SessionsLive.session_unfreed
    (invariant : SlotInvariant state)
    (live : SessionsLive owner state)
    {address : Nat} {issued : IssuedEvent}
    (found : state.issued[address]? = some issued)
    (notFreed : issued.freed = false) :
    issued.session ∉ state.freedSessions := by
  obtain ⟨thread, slot⟩ := invariant.allocated_held address ⟨issued, found, notFreed⟩
  exact (live thread address issued.session issued.event slot
    (by simp [List.getElem?_map, found, IssuedEvent.origin])).2

end Sessions

/-! ## Runs from the start -/

/--
Whatever calls are made, from whatever threads and on whatever sessions, no
event is freed twice and no freed event is walked: every run succeeds, and
it ends in a state where each slot holds an allocated event, no event sits
in two slots, and every allocated event sits in a slot.
-/
theorem slotRun_memory_safe (ops : List SlotOp) :
    ∃ state, slotRun SlotState.initial ops = .ok state ∧ SlotInvariant state := by
  obtain ⟨state, run, invariant, _⟩ := slotRun_spec ops slotInvariant_initial
  exact ⟨state, run, invariant⟩

/--
Session 1 is polled on thread 0 and freed on thread 1: `quiche_h3_conn_free`
empties thread 1's slot, and session 1's event stays allocated in thread 0's.
-/
theorem quicheH3ConnFree_leaves_other_thread_event :
    ∃ state, slotRun SlotState.initial [.poll 0 1 (some (0, .data)) true, .connFree 1 1] = .ok state ∧
      1 ∈ state.freedSessions ∧ state.issued[0]? = some ⟨1, .data, false⟩ ∧
      state.currentEvent 0 = some 0 :=
  ⟨_, rfl, List.mem_singleton_self 1, rfl, rfl⟩

/--
Every allocated event sits in exactly one thread's slot, so it is freed by
that thread's next poll or `conn_free`, whatever calls are made.  When every
call naming a session comes from the session's owner thread and no call
names a session after its `conn_free`, every allocated event belongs to a
session not yet freed.
-/
theorem slotRun_owned_sessions_live (ops : List SlotOp) :
    ∃ state, slotRun SlotState.initial ops = .ok state ∧
      (∀ address, state.Allocated address →
        ∃ thread, state.currentEvent thread = some address ∧
          ∀ other, state.currentEvent other = some address → other = thread) ∧
      ∀ owner : SessionId → ThreadId, (∀ op ∈ ops, op.thread = owner op.session) →
        ops.Pairwise (fun earlier later => later.session ∉ earlier.frees) →
        ∀ (address : Nat) (issued : IssuedEvent), state.issued[address]? = some issued →
          issued.freed = false → issued.session ∉ state.freedSessions := by
  obtain ⟨state, run, invariant, effects⟩ := slotRun_spec ops slotInvariant_initial
  refine ⟨state, run, fun address allocated => ?_, fun owner affine noUseAfterFree => ?_⟩
  · obtain ⟨thread, slot⟩ := invariant.allocated_held address allocated
    exact ⟨thread, slot, fun other otherSlot => invariant.held_once other thread address otherSlot slot⟩
  · have live := effects.sessionsLive (fun _ _ _ _ held => nomatch held) affine
      noUseAfterFree (fun _ _ => List.not_mem_nil _)
    exact fun address issued found notFreed => live.session_unfreed invariant found notFreed

/-- A session polled and freed on its one thread leaves no event behind. -/
theorem slotRun_owned_sessions_live_one_thread :
    (∀ op ∈ [SlotOp.poll 0 1 (some (0, .data)) true, .connFree 0 1], op.thread = (fun _ => 0) op.session) ∧
    [SlotOp.poll 0 1 (some (0, .data)) true, .connFree 0 1].Pairwise
      (fun earlier later => later.session ∉ earlier.frees) ∧
    ∃ state, slotRun SlotState.initial [.poll 0 1 (some (0, .data)) true, .connFree 0 1] = .ok state ∧
      (∀ address, state.Allocated address →
        ∃ thread, state.currentEvent thread = some address ∧
          ∀ other, state.currentEvent other = some address → other = thread) ∧
      ∀ (address : Nat) (issued : IssuedEvent), state.issued[address]? = some issued →
        issued.freed = false → issued.session ∉ state.freedSessions := by
  obtain ⟨state, run, once, live⟩ := slotRun_owned_sessions_live [.poll 0 1 (some (0, .data)) true, .connFree 0 1]
  exact ⟨by decide, by decide, state, run, once, live (fun _ => 0) (by decide) (by decide)⟩

end Gumdrop
