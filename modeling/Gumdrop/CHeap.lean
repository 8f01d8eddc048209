import Mathlib

namespace Gumdrop

/-!
# The C heap of the bindings

`h3_jni.c` builds its header lists with `malloc`, `realloc` and `free`.  This
module gives those calls an executable semantics: live blocks by address, a
bump allocator above every live address, and an outcome oracle that decides,
call by call, whether an allocation fails and whether a `realloc` that
succeeds keeps its block in place or moves it.

Undefined behaviour is a `Fault`.  A computation that reaches one stops
there: nothing the C program does afterwards is defined.
-/

/-- The undefined behaviours and aborts a binding call can run into. -/
inductive Fault where
  /-- `free` of an address that is not a live block, a second `free` included. -/
  | invalidFree (address : Nat)
  /-- A load or store through an address that is not a live block. -/
  | invalidAccess (address : Nat)
  /-- A load or store past the end of a live block. -/
  | outOfBounds (address index : Nat)
  /-- A load of a slot that was never written. -/
  | indeterminate (address index : Nat)
  /-- A signed `int` result above `INT_MAX`. -/
  | signedOverflow
  /-- `quiche_h3_event_free` of an event that is already freed. -/
  | eventDoubleFree (event : Nat)
  /-- An engine call on an event that is already freed. -/
  | eventUseAfterFree (event : Nat)
  /-- quiche's `unreachable!()`: a header walk over an event that is not Headers. -/
  | engineUnreachable
  /-- `GetObjectArrayElement` or `SetByteArrayRegion` past the end of a Java array. -/
  | arrayIndexOutOfBounds (index : Nat)
  /-- A read past the end of a fixed-size buffer: a Java array the JVM handed out, or a static C array. -/
  | bufferOverread (index : Nat)
  /-- A JNI call on a `null` object reference. -/
  | nullReference
  deriving Repr, DecidableEq

/-- Sequencing a defined step runs the continuation on its result. -/
@[simp] theorem ok_bind {value : α} {rest : α → Except Fault β} :
    (Except.ok value >>= rest) = rest value := rfl

/-- `pure` in `Except` is a defined result. -/
@[simp] theorem pure_eq_ok {value : α} :
    (pure value : Except Fault α) = .ok value := rfl

/-- Sequencing after a fault keeps the fault. -/
@[simp] theorem error_bind {fault : Fault} {rest : α → Except Fault β} :
    (Except.error fault >>= rest) = Except.error fault := rfl

/-- A sequence that produced a result ran its first step to a result. -/
theorem bind_eq_ok {first : Except Fault α} {rest : α → Except Fault β} {result : β}
    (ran : (first >>= rest) = .ok result) :
    ∃ value, first = .ok value ∧ rest value = .ok result := by
  cases first with
  | error fault => cases ran
  | ok value => exact ⟨value, rfl, ran⟩

/-- Mapping over a defined result maps the value. -/
@[simp] theorem map_ok {value : α} {f : α → β} :
    Except.map f (Except.ok value : Except Fault α) = .ok (f value) := rfl

/-- Mapping over a fault keeps the fault. -/
@[simp] theorem map_error {fault : Fault} {f : α → β} :
    Except.map f (Except.error fault : Except Fault α) = .error fault := rfl

/-- `INT_MAX` of the 32-bit C `int` (and of `jsize`). -/
def intMax : Nat := 2 ^ 31 - 1

/-- `x * 2` in C `int` arithmetic, for a non-negative `x`. -/
def intTimesTwo (x : Nat) : Except Fault Nat :=
  if x * 2 ≤ intMax then .ok (x * 2) else .error .signedOverflow

/-- `intTimesTwo` is defined exactly up to `INT_MAX`. -/
theorem intTimesTwo_of_le
    {x : Nat}
    (fits : x * 2 ≤ intMax) :
    intTimesTwo x = .ok (x * 2) := by
  simp [intTimesTwo, fits]

/-- What one `malloc` block holds, at the granularity the bindings use it. -/
inductive Block where
  /-- A `char` buffer. -/
  | chars (bytes : List UInt8)
  /-- A `char *` array; `none` is a slot that was never written. -/
  | slots (entries : List (Option Nat))
  deriving Repr, DecidableEq

namespace Block

/-- `realloc`'s new contents: the old prefix, then indeterminate elements. -/
def resize : Block → Nat → Block
  | chars bytes, size => chars (bytes.take size ++ List.replicate (size - bytes.length) 0)
  | slots entries, size =>
      slots (entries.take size ++ List.replicate (size - entries.length) none)

end Block

/-- Overwrite `source.length` elements of `target` from `offset` on (`memcpy`). -/
def writeRange (target : List α) (offset : Nat) (source : List α) : List α :=
  target.take offset ++ source ++ target.drop (offset + source.length)

/-- A byte made from a number below 256 reads back as that number. -/
theorem toNat_ofNat_byte {value : Nat} (small : value < 256) :
    (UInt8.ofNat value).toNat = value :=
  UInt8.toNat_ofNat_of_lt small

/-- A byte read as a number and back is the same byte. -/
theorem ofNat_toNat_byte (byte : UInt8) : UInt8.ofNat byte.toNat = byte :=
  UInt8.toNat.inj (toNat_ofNat_byte byte.toNat_lt_size)

/-- A byte made from a number keeps its last base-256 digit. -/
theorem toNat_ofNat_mod (value : Nat) :
    (UInt8.ofNat (value % 256)).toNat = value % 256 :=
  toNat_ofNat_byte (Nat.mod_lt value (by decide))

/-- The outcome the environment gives one allocation call. -/
inductive AllocOutcome where
  /-- The call returns `NULL` (a failed `realloc` leaves its block intact). -/
  | fail
  /-- The call succeeds; a `realloc` keeps its address. -/
  | inPlace
  /-- The call succeeds; a `realloc` moves the block and frees the old one. -/
  | moved
  deriving Repr, DecidableEq

/-- Outcomes of the allocation calls of a run, by call number. -/
abbrev Oracle := Nat → AllocOutcome

/-- No allocation call of the run fails. -/
def Oracle.NeverFails (oracle : Oracle) : Prop :=
  ∀ call, oracle call ≠ .fail

/--
The C heap and its allocator: live blocks by address, the next fresh
address, and the number of allocation calls made so far.
-/
structure Heap where
  blocks : Nat → Option Block
  next : Nat
  calls : Nat
  null_free : blocks 0 = none
  next_pos : 0 < next
  above_free : ∀ address, next ≤ address → blocks address = none

namespace Heap

/-- A live address lies strictly between `NULL` and the next fresh address. -/
theorem live_bounds
    {heap : Heap}
    {address : Nat}
    (live : heap.blocks address ≠ none) :
    0 < address ∧ address < heap.next := by
  constructor
  · refine Nat.pos_of_ne_zero fun isNull => live ?_
    rw [isNull]
    exact heap.null_free
  · exact Nat.lt_of_not_le fun above => live (heap.above_free address above)

/-- Replace the block at a live address. -/
def store (heap : Heap) (address : Nat) (block : Block)
    (live : heap.blocks address ≠ none) : Heap where
  blocks other := if other = address then some block else heap.blocks other
  next := heap.next
  calls := heap.calls
  null_free := by
    have := (live_bounds live).1
    simp [show (0 : Nat) ≠ address by omega, heap.null_free]
  next_pos := heap.next_pos
  above_free other above := by
    have := (live_bounds live).2
    simp [show other ≠ address by omega, heap.above_free other above]

/-- Drop the block at an address. -/
def erase (heap : Heap) (address : Nat) : Heap where
  blocks other := if other = address then none else heap.blocks other
  next := heap.next
  calls := heap.calls
  null_free := by
    show ite _ _ _ = _
    split <;> simp [heap.null_free]
  next_pos := heap.next_pos
  above_free other above := by
    show ite _ _ _ = _
    split <;> simp [heap.above_free other above]

/-- Place a block at the next fresh address. -/
def alloc (heap : Heap) (block : Block) : Heap where
  blocks other := if other = heap.next then some block else heap.blocks other
  next := heap.next + 1
  calls := heap.calls
  null_free := by
    simp [show (0 : Nat) ≠ heap.next by have := heap.next_pos; omega, heap.null_free]
  next_pos := Nat.succ_pos _
  above_free other above := by
    simp [show other ≠ heap.next by omega, heap.above_free other (by omega)]

/-- The heap before any allocation. -/
def empty : Heap where
  blocks _ := none
  next := 1
  calls := 0
  null_free := rfl
  next_pos := Nat.one_pos
  above_free _ _ := rfl

/-- Count one allocation call. -/
def tick (heap : Heap) : Heap :=
  { heap with calls := heap.calls + 1 }

/-- Count `count` allocation calls that leave the C heap as it is (the JVM's). -/
def advance (heap : Heap) (count : Nat) : Heap :=
  { heap with calls := heap.calls + count }

/-- Heaps with the same blocks, next address and call count are equal. -/
@[ext] theorem ext {first second : Heap}
    (sameBlocks : first.blocks = second.blocks)
    (sameNext : first.next = second.next)
    (sameCalls : first.calls = second.calls) :
    first = second := by
  cases first
  cases second
  cases sameBlocks
  cases sameNext
  cases sameCalls
  rfl

@[simp] theorem blocks_store {heap : Heap} {address : Nat} {block : Block}
    {live : heap.blocks address ≠ none} {other : Nat} :
    (heap.store address block live).blocks other =
      if other = address then some block else heap.blocks other := rfl

@[simp] theorem next_store {heap : Heap} {address : Nat} {block : Block}
    {live : heap.blocks address ≠ none} :
    (heap.store address block live).next = heap.next := rfl

@[simp] theorem calls_store {heap : Heap} {address : Nat} {block : Block}
    {live : heap.blocks address ≠ none} :
    (heap.store address block live).calls = heap.calls := rfl

/-- A second store at one address overwrites the first. -/
@[simp] theorem store_store {heap : Heap} {address : Nat} {first second : Block}
    {live : heap.blocks address ≠ none}
    {live' : (heap.store address first live).blocks address ≠ none} :
    (heap.store address first live).store address second live' =
      heap.store address second live := by
  ext other <;> simp
  split <;> rfl

@[simp] theorem blocks_erase {heap : Heap} {address other : Nat} :
    (heap.erase address).blocks other =
      if other = address then none else heap.blocks other := rfl

@[simp] theorem next_erase {heap : Heap} {address : Nat} :
    (heap.erase address).next = heap.next := rfl

@[simp] theorem calls_erase {heap : Heap} {address : Nat} :
    (heap.erase address).calls = heap.calls := rfl

@[simp] theorem blocks_alloc {heap : Heap} {block : Block} {other : Nat} :
    (heap.alloc block).blocks other =
      if other = heap.next then some block else heap.blocks other := rfl

@[simp] theorem next_alloc {heap : Heap} {block : Block} :
    (heap.alloc block).next = heap.next + 1 := rfl

@[simp] theorem calls_alloc {heap : Heap} {block : Block} :
    (heap.alloc block).calls = heap.calls := rfl

@[simp] theorem blocks_tick {heap : Heap} :
    heap.tick.blocks = heap.blocks := rfl

@[simp] theorem next_tick {heap : Heap} :
    heap.tick.next = heap.next := rfl

@[simp] theorem calls_tick {heap : Heap} :
    heap.tick.calls = heap.calls + 1 := rfl

@[simp] theorem blocks_advance {heap : Heap} {count : Nat} :
    (heap.advance count).blocks = heap.blocks := rfl

@[simp] theorem calls_advance {heap : Heap} {count : Nat} :
    (heap.advance count).calls = heap.calls + count := rfl

@[simp] theorem advance_zero {heap : Heap} : heap.advance 0 = heap := rfl

@[simp] theorem tick_advance {heap : Heap} {count : Nat} :
    heap.tick.advance count = heap.advance (count + 1) :=
  Heap.ext rfl rfl (Nat.add_right_comm _ _ _)

end Heap

/-- `malloc`: a fresh block, or `NULL` when the oracle fails the call. -/
def malloc (oracle : Oracle) (block : Block) (heap : Heap) : Nat × Heap :=
  match oracle heap.calls with
  | .fail => (0, heap.tick)
  | _ => (heap.next, (heap.alloc block).tick)

/--
`realloc` of a live block: `NULL` with the block intact on failure, otherwise
the block resized in place or moved to a fresh address with the old one freed.
The bindings never pass `NULL` to `realloc`.
-/
def realloc (oracle : Oracle) (address size : Nat) (heap : Heap) :
    Except Fault (Nat × Heap) :=
  match found : heap.blocks address with
  | none => .error (.invalidAccess address)
  | some block =>
      match oracle heap.calls with
      | .fail => .ok (0, heap.tick)
      | .inPlace =>
          .ok (address,
            (heap.store address (block.resize size) (by simp [found])).tick)
      | .moved =>
          .ok (heap.next, ((heap.erase address).alloc (block.resize size)).tick)

/-- `free`: `free(NULL)` does nothing; freeing anything else but a live block is undefined. -/
def free (address : Nat) (heap : Heap) : Except Fault Heap :=
  if address = 0 then .ok heap
  else
    match heap.blocks address with
    | some _ => .ok (heap.erase address)
    | none => .error (.invalidFree address)

/-- `p[index] = value` for a `char **` block `p`. -/
def storeSlot (address index value : Nat) (heap : Heap) : Except Fault Heap :=
  match found : heap.blocks address with
  | some (.slots entries) =>
      if index < entries.length then
        .ok (heap.store address (.slots (entries.set index (some value)))
          (by simp [found]))
      else .error (.outOfBounds address index)
  | _ => .error (.invalidAccess address)

/-- `p[index]` for a `char **` block `p`. -/
def loadSlot (address index : Nat) (heap : Heap) : Except Fault Nat :=
  match heap.blocks address with
  | some (.slots entries) =>
      match entries[index]? with
      | some (some value) => .ok value
      | some none => .error (.indeterminate address index)
      | none => .error (.outOfBounds address index)
  | _ => .error (.invalidAccess address)

/-- `memcpy(p + offset, source, source.length)` into a `char` block `p`. -/
def storeBytes (address offset : Nat) (source : List UInt8) (heap : Heap) :
    Except Fault Heap :=
  match found : heap.blocks address with
  | some (.chars bytes) =>
      if offset + source.length ≤ bytes.length then
        .ok (heap.store address (.chars (writeRange bytes offset source))
          (by simp [found]))
      else .error (.outOfBounds address (offset + source.length))
  | _ => .error (.invalidAccess address)

/-- Bytes read up to a terminating zero byte hold no zero byte. -/
theorem zero_not_mem_takeWhile (bytes : List UInt8) :
    0 ∉ bytes.takeWhile (· ≠ 0) := fun member => by
  simpa using List.mem_takeWhile_imp member

/-- The C string at `p`: its bytes up to the first zero byte, which must lie in the block. -/
def loadCString (address : Nat) (heap : Heap) :
    Except Fault { bytes : List UInt8 // 0 ∉ bytes } :=
  match heap.blocks address with
  | some (.chars bytes) =>
      if 0 ∈ bytes then .ok ⟨bytes.takeWhile (· ≠ 0), zero_not_mem_takeWhile bytes⟩
      else .error (.outOfBounds address bytes.length)
  | _ => .error (.invalidAccess address)

/-- The engine reading `length` bytes at `p`: they must lie in a `char` block. -/
def loadBytes (address length : Nat) (heap : Heap) : Except Fault (List UInt8) :=
  match heap.blocks address with
  | some (.chars bytes) =>
      if length ≤ bytes.length then .ok (bytes.take length) else .error (.outOfBounds address length)
  | _ => .error (.invalidAccess address)

/-! ## One equation per heap operation -/

section Specs

variable {oracle : Oracle} {heap : Heap} {address : Nat} {block : Block}

/-- A `malloc` the oracle lets succeed returns the next fresh address. -/
theorem malloc_of_ne_fail
    (oracle : Oracle)
    (succeeds : oracle heap.calls ≠ .fail) :
    malloc oracle block heap = (heap.next, (heap.alloc block).tick) := by
  unfold malloc
  split <;> simp_all

/-- A failed `malloc` returns `NULL` and only counts the call. -/
theorem malloc_of_fail (failed : oracle heap.calls = .fail) :
    malloc oracle block heap = (0, heap.tick) := by
  simp [malloc, failed]

/-- `malloc` counts one call, and returns a block only when the oracle lets the call succeed. -/
theorem malloc_succeeded {heap' : Heap}
    (allocated : malloc oracle block heap = (address, heap')) :
    heap'.calls = heap.calls + 1 ∧ (address ≠ 0 → oracle heap.calls ≠ .fail) := by
  cases outcome : oracle heap.calls <;> simp only [malloc, outcome, Prod.mk.injEq] at allocated <;>
    obtain ⟨rfl, rfl⟩ := allocated <;> simp

/-- `malloc` leaves every block below the next fresh address as it was. -/
theorem blocks_malloc_of_lt (oracle : Oracle) (block : Block) {address : Nat}
    (below : address < heap.next) :
    (malloc oracle block heap).2.blocks address = heap.blocks address := by
  unfold malloc
  split <;> simp [Nat.ne_of_lt below]

/-- A `realloc` kept in place replaces the block at its address. -/
theorem realloc_of_inPlace
    {size : Nat}
    (found : heap.blocks address = some block)
    (outcome : oracle heap.calls = .inPlace) :
    realloc oracle address size heap =
      .ok (address, (heap.store address (block.resize size) (by simp [found])).tick) := by
  unfold realloc
  split
  next missing => simp [found] at missing
  next found' =>
    rw [found] at found'
    cases found'
    simp [outcome]

/-- A moved `realloc` frees the old block and places the new one at a fresh address. -/
theorem realloc_of_moved
    {size : Nat}
    (found : heap.blocks address = some block)
    (outcome : oracle heap.calls = .moved) :
    realloc oracle address size heap =
      .ok (heap.next, ((heap.erase address).alloc (block.resize size)).tick) := by
  unfold realloc
  split
  next missing => simp [found] at missing
  next found' =>
    rw [found] at found'
    cases found'
    simp [outcome]

/-- A failed `realloc` returns `NULL` and leaves the block intact. -/
theorem realloc_of_fail
    {size : Nat}
    (found : heap.blocks address = some block)
    (outcome : oracle heap.calls = .fail) :
    realloc oracle address size heap = .ok (0, heap.tick) := by
  unfold realloc
  split
  next missing => simp [found] at missing
  next found' => simp [outcome]

/-- `realloc` counts one call, and returns a block only when the oracle lets the call succeed. -/
theorem realloc_succeeded {size result : Nat} {heap' : Heap}
    (returned : realloc oracle address size heap = .ok (result, heap')) :
    heap'.calls = heap.calls + 1 ∧ (result ≠ 0 → oracle heap.calls ≠ .fail) := by
  unfold realloc at returned
  split at returned
  · cases returned
  · cases outcome : oracle heap.calls <;>
      simp only [outcome, Except.ok.injEq, Prod.mk.injEq] at returned <;>
      obtain ⟨rfl, rfl⟩ := returned <;> simp

/-- `free(NULL)` does nothing. -/
@[simp] theorem free_null : free 0 heap = .ok heap := rfl

/-- Freeing a live block drops it. -/
theorem free_of_live
    (live : heap.blocks address ≠ none) :
    free address heap = .ok (heap.erase address) := by
  have := (Heap.live_bounds live).1
  unfold free
  split
  · omega
  · split <;> simp_all

/-- Freeing a fresh block, after steps that left the blocks alone, gives back the blocks from before its `malloc`. -/
theorem free_of_alloc
    (heap : Heap) (block : Block) (later : Heap)
    (unchanged : later.blocks = (heap.alloc block).blocks) :
    ∃ freed, free heap.next later = .ok freed ∧ freed.blocks = heap.blocks := by
  refine ⟨later.erase heap.next, free_of_live (by simp [unchanged]), funext fun other => ?_⟩
  by_cases fresh : other = heap.next
  · simp [fresh, heap.above_free heap.next (Nat.le_refl _)]
  · simp [fresh, unchanged]

/-- A `free` that returned leaves every dead address dead. -/
theorem blocks_free_of_none {other : Nat} {heap' : Heap}
    (freed : free address heap = .ok heap')
    (dead : heap.blocks other = none) :
    heap'.blocks other = none := by
  unfold free at freed
  split at freed
  · cases freed
    exact dead
  · split at freed <;> cases freed
    simp [dead]

/--
Two `malloc`s of which one fails, then `free` of both results, as the error
paths of the bindings do: one result is `NULL`, and the `free`s give back the
blocks from before the first `malloc`.
-/
theorem free_mallocPair_of_failed {first second : Block} {n v : Nat} {heap₁ heap₂ : Heap}
    (failed : oracle heap.calls = .fail ∨ oracle (heap.calls + 1) = .fail)
    (firstCall : malloc oracle first heap = (n, heap₁))
    (secondCall : malloc oracle second heap₁ = (v, heap₂)) :
    (n = 0 ∨ v = 0) ∧ ∃ heap', heap'.blocks = heap.blocks ∧ heap.next ≤ heap'.next ∧
      ∀ {β : Type} (rest : Heap → Except Fault β),
        (free n heap₂ >>= fun heap => free v heap >>= rest) = rest heap' := by
  have erased : ∀ {later : Heap} {block : Block}, later.blocks = (heap.alloc block).blocks →
      (later.erase heap.next).blocks = heap.blocks := fun unchanged => funext fun other => by
    by_cases isNext : other = heap.next
    · simp [isNext, heap.above_free heap.next (Nat.le_refl _)]
    · simp [isNext, unchanged]
  by_cases firstFailed : oracle heap.calls = .fail
  · rw [malloc_of_fail firstFailed, Prod.mk.injEq] at firstCall
    obtain ⟨rfl, rfl⟩ := firstCall
    by_cases secondFailed : oracle (heap.calls + 1) = .fail
    · rw [malloc_of_fail (show oracle heap.tick.calls = .fail from secondFailed), Prod.mk.injEq] at secondCall
      obtain ⟨rfl, rfl⟩ := secondCall
      exact ⟨.inl rfl, heap.tick.tick, rfl, Nat.le_refl _, fun _ => rfl⟩
    · rw [malloc_of_ne_fail oracle (show oracle heap.tick.calls ≠ .fail from secondFailed),
        Prod.mk.injEq] at secondCall
      obtain ⟨rfl, rfl⟩ := secondCall
      refine ⟨.inl rfl, ((heap.tick.alloc second).tick).erase heap.next, erased rfl, Nat.le_succ _,
        fun _ => ?_⟩
      rw [free_null, ok_bind, free_of_live (by simp), ok_bind]
      rfl
  · rw [malloc_of_ne_fail oracle firstFailed, Prod.mk.injEq] at firstCall
    obtain ⟨rfl, rfl⟩ := firstCall
    rw [malloc_of_fail (show oracle (heap.alloc first).tick.calls = .fail by
      simpa [firstFailed] using failed), Prod.mk.injEq] at secondCall
    obtain ⟨rfl, rfl⟩ := secondCall
    refine ⟨.inr rfl, ((heap.alloc first).tick.tick).erase heap.next, erased rfl, Nat.le_succ _,
      fun _ => ?_⟩
    rw [free_of_live (by simp), ok_bind, free_null, ok_bind]

/-- A store inside a `char **` block replaces that slot. -/
theorem storeSlot_of_lt
    (entries : List (Option Nat)) {index value : Nat}
    (found : heap.blocks address = some (.slots entries))
    (inBounds : index < entries.length) :
    storeSlot address index value heap =
      .ok (heap.store address (.slots (entries.set index (some value))) (by simp [found])) := by
  unfold storeSlot
  split
  next found' =>
    rw [found] at found'
    cases found'
    simp [inBounds]
  next notSlots => exact absurd found (notSlots _)

/-- A read through `NULL` is undefined. -/
theorem loadBytes_null {length : Nat} :
    loadBytes 0 length heap = .error (.invalidAccess 0) := by
  simp [loadBytes, heap.null_free]

/-- A slot store through `NULL` is undefined. -/
theorem storeSlot_null {index value : Nat} :
    storeSlot 0 index value heap = .error (.invalidAccess 0) := by
  unfold storeSlot
  split
  next found => simp [heap.null_free] at found
  next => rfl

/-- A `memcpy` into `NULL` is undefined. -/
theorem storeBytes_null {offset : Nat} {source : List UInt8} :
    storeBytes 0 offset source heap = .error (.invalidAccess 0) := by
  unfold storeBytes
  split
  next found => simp [heap.null_free] at found
  next => rfl

/-- A load of a written slot returns what was written. -/
theorem loadSlot_of_getElem?
    (entries : List (Option Nat)) {index value : Nat}
    (found : heap.blocks address = some (.slots entries))
    (written : entries[index]? = some (some value)) :
    loadSlot address index heap = .ok value := by
  simp [loadSlot, found, written]

/-- A `memcpy` inside a `char` block overwrites that range. -/
theorem storeBytes_of_le
    (bytes : List UInt8) {source : List UInt8} {offset : Nat}
    (found : heap.blocks address = some (.chars bytes))
    (fits : offset + source.length ≤ bytes.length) :
    storeBytes address offset source heap =
      .ok (heap.store address (.chars (writeRange bytes offset source)) (by simp [found])) := by
  unfold storeBytes
  split
  next found' =>
    rw [found] at found'
    cases found'
    simp [fits]
  next notChars => exact absurd found (notChars _)

/-- A block holding a zero-terminated string reads back as that string. -/
theorem loadCString_of_terminated
    {bytes : List UInt8}
    (found : heap.blocks address = some (.chars (bytes ++ [0])))
    (noZero : 0 ∉ bytes) :
    loadCString address heap = .ok ⟨bytes, noZero⟩ := by
  have prefixKept : ∀ byte ∈ bytes, (!decide (byte = 0)) = true := fun byte member => by
    simpa using fun isZero : byte = 0 => noZero (isZero ▸ member)
  simp [loadCString, found, List.takeWhile_append_of_pos prefixKept]

/-- Reading a whole `char` block gives its bytes. -/
theorem loadBytes_of_chars
    {bytes : List UInt8}
    (found : heap.blocks address = some (.chars bytes)) :
    loadBytes address bytes.length heap = .ok bytes := by
  simp [loadBytes, found]

/-- Reading as many bytes as a block's prefix holds gives that prefix. -/
theorem loadBytes_of_prefix
    {bytes rest : List UInt8}
    (found : heap.blocks address = some (.chars (bytes ++ rest))) :
    loadBytes address bytes.length heap = .ok bytes := by
  simp [loadBytes, found]

end Specs

end Gumdrop
