import Gumdrop.HeaderCollector
import Gumdrop.HeapOwnership

namespace Gumdrop

/-!
# The header collector invariant

While every `header_cb` call returns 0, the collector of
`quiche_h3_event_headers` keeps one name string and one value string per
header seen, in order, in the first `count` slots of two arrays of
`capacity` slots, with `capacity = 32 * 2 ^ k`.  `Collects` states this
together with the ownership accounting of `OwnsSince`: the collector owns
both arrays and all strings, and the rest of the heap is as the call found
it.  Each step of `header_cb` keeps `Collects` when no allocation fails.
-/

/-- The string blocks of the collected cells, in the order the cleanup frees them. -/
def stringsOf (cells : List (Nat × Nat)) : List Nat :=
  cells.flatMap fun cell => [cell.1, cell.2]

/-- One array of the collector: the collected pointers, then never-written slots. -/
def slotsOf (pointers : List Nat) (capacity : Nat) : List (Option Nat) :=
  pointers.map some ++ List.replicate (capacity - pointers.length) none

/-- The block `header_cb` leaves for a copied name or value. -/
def cStringOf (bytes : List UInt8) : Block :=
  .chars (bytes ++ [0])

/-- The name and value strings of one cell hold the bytes of one header. -/
def StringsAt (heap : Heap) (cell : Nat × Nat) (header : Header) : Prop :=
  heap.blocks cell.1 = some (cStringOf header.name) ∧
    heap.blocks cell.2 = some (cStringOf header.value)

/-- The collector after the headers `done`, with `cells` holding their copies. -/
structure Collects (start : Heap) (done : List Header) (hc : HeaderCollector)
    (cells : List (Nat × Nat)) (heap : Heap) : Prop where
  count_eq : hc.count = done.length
  count_le : hc.count ≤ hc.capacity
  capacity_pow : ∃ growths, hc.capacity = 32 * 2 ^ growths
  names_block : heap.blocks hc.names = some (.slots (slotsOf (cells.map Prod.fst) hc.capacity))
  values_block : heap.blocks hc.values = some (.slots (slotsOf (cells.map Prod.snd) hc.capacity))
  strings : List.Forall₂ (StringsAt heap) cells done
  owns : OwnsSince start heap (hc.names :: hc.values :: stringsOf cells)

@[simp] theorem stringsOf_nil : stringsOf [] = [] := rfl

@[simp] theorem stringsOf_cons {cell : Nat × Nat} {cells : List (Nat × Nat)} :
    stringsOf (cell :: cells) = cell.1 :: cell.2 :: stringsOf cells := rfl

@[simp] theorem stringsOf_append {cells more : List (Nat × Nat)} :
    stringsOf (cells ++ more) = stringsOf cells ++ stringsOf more := by
  simp [stringsOf]

@[simp] theorem length_slotsOf
    {pointers : List Nat} {capacity : Nat}
    (fits : pointers.length ≤ capacity) :
    (slotsOf pointers capacity).length = capacity := by
  simp [slotsOf]
  omega

/-- Growing an array keeps its pointers and adds never-written slots. -/
theorem resize_slotsOf
    {pointers : List Nat} {capacity size : Nat}
    (fits : pointers.length ≤ capacity)
    (grows : capacity ≤ size) :
    (Block.slots (slotsOf pointers capacity)).resize size = .slots (slotsOf pointers size) := by
  simp only [Block.resize, length_slotsOf fits]
  rw [List.take_of_length_le (by simp [fits]; omega)]
  simp only [slotsOf, List.append_assoc, ← List.replicate_add]
  congr 3
  omega

/-- Storing at index `count` appends one pointer to the array. -/
theorem set_slotsOf
    {pointers : List Nat} {capacity pointer : Nat}
    (room : pointers.length < capacity) :
    (slotsOf pointers capacity).set pointers.length (some pointer) =
      slotsOf (pointers ++ [pointer]) capacity := by
  obtain ⟨spare, rfl⟩ : ∃ spare, capacity = pointers.length + spare + 1 :=
    ⟨capacity - pointers.length - 1, by omega⟩
  simp [slotsOf, show pointers.length + spare + 1 - pointers.length = spare + 1 by omega,
    List.replicate_succ, List.set_append_right]

/-- A fresh `char` buffer filled by `memcpy` and a terminating zero holds the C string. -/
theorem writeRange_terminated (bytes : List UInt8) :
    writeRange (writeRange (List.replicate (bytes.length + 1) 0) 0 bytes) bytes.length [0] =
      bytes ++ [0] := by
  simp [writeRange, List.drop_replicate]

/-- `memcpy` of the bytes and the terminating zero into a fresh buffer leave the C string. -/
theorem storeBytes_cString
    {heap : Heap} {address : Nat} {bytes : List UInt8} {rest : Heap → Except Fault β}
    (found : heap.blocks address = some (.chars (List.replicate (bytes.length + 1) 0))) :
    (storeBytes address 0 bytes heap >>= fun heap =>
        storeBytes address bytes.length [0] heap >>= rest) =
      rest (heap.store address (cStringOf bytes) (by simp [found])) := by
  rw [storeBytes_of_le _ found (by simp), ok_bind,
    storeBytes_of_le (writeRange (List.replicate (bytes.length + 1) 0) 0 bytes)
      (by simp) (by simp [writeRange]), ok_bind]
  simp [cStringOf, writeRange_terminated]

/-- The string facts survive any step that leaves the string blocks alone. -/
theorem forall₂_stringsAt_of_eq
    {heap heap' : Heap} {cells : List (Nat × Nat)} {done : List Header}
    (strings : List.Forall₂ (StringsAt heap) cells done)
    (same : ∀ address ∈ stringsOf cells, heap'.blocks address = heap.blocks address) :
    List.Forall₂ (StringsAt heap') cells done := by
  induction strings with
  | nil =>
      exact .nil
  | @cons cell header cells done atCell _ inductionHypothesis =>
      simp only [stringsOf_cons, List.mem_cons, forall_eq_or_imp] at same
      exact .cons ⟨same.1.trans atCell.1, same.2.1.trans atCell.2⟩
        (inductionHypothesis same.2.2)

/-- The two 32-slot arrays of `quiche_h3_event_headers` start an empty collector. -/
theorem collects_initial (start : Heap) :
    let block := Block.slots (List.replicate 32 none)
    Collects start []
      { count := 0, capacity := 32, names := start.next, values := start.next + 1 } []
      (((start.alloc block).tick.alloc block).tick) where
  count_eq := rfl
  count_le := Nat.zero_le _
  capacity_pow := ⟨0, rfl⟩
  names_block := by simp [slotsOf, Heap.tick]
  values_block := by simp [slotsOf, Heap.tick]
  strings := .nil
  owns := by
    simpa [Heap.tick] using ((OwnsSince.rfl_start.alloc _).tick.alloc _).tick

/-! ## The capacity over a run -/

/--
The capacity after `calls` `header_cb` calls that all returned 0: 32 at
first, doubled by every call that finds the arrays full.
-/
def capacityAfter : Nat → Nat
  | 0 => 32
  | calls + 1 => if calls ≥ capacityAfter calls then capacityAfter calls * 2 else capacityAfter calls

/-- The number of growths among the first `calls` calls. -/
def growthsAfter : Nat → Nat
  | 0 => 0
  | calls + 1 => if calls ≥ capacityAfter calls then growthsAfter calls + 1 else growthsAfter calls

/-- Every capacity is 32 doubled once per growth. -/
theorem capacityAfter_eq_pow : ∀ calls, capacityAfter calls = 32 * 2 ^ growthsAfter calls
  | 0 => rfl
  | calls + 1 => by
      by_cases full : calls ≥ capacityAfter calls
      · simp only [capacityAfter, growthsAfter, if_pos full]
        rw [capacityAfter_eq_pow calls, Nat.pow_succ, Nat.mul_assoc]
      · simp only [capacityAfter, growthsAfter, if_neg full]
        exact capacityAfter_eq_pow calls

theorem thirtyTwo_le_capacityAfter (calls : Nat) : 32 ≤ capacityAfter calls := by
  rw [capacityAfter_eq_pow]
  exact Nat.le_mul_of_pos_right 32 (Nat.two_pow_pos _)

/-- The arrays have a slot for every header seen. -/
theorem le_capacityAfter : ∀ calls, calls ≤ capacityAfter calls
  | 0 => by decide
  | calls + 1 => by
      have seen := le_capacityAfter calls
      have least := thirtyTwo_le_capacityAfter calls
      simp only [capacityAfter]
      split <;> omega

/-- Call `index + 1` stores at `names[index]` and `values[index]`, below the capacity it leaves. -/
theorem lt_capacityAfter_succ (index : Nat) : index < capacityAfter (index + 1) := by
  have seen := le_capacityAfter index
  have least := thirtyTwo_le_capacityAfter index
  simp only [capacityAfter]
  split <;> omega

/-- Below `2 ^ 30` headers, the doubling a growth computes fits in an `int`. -/
theorem capacityAfter_double_le {index : Nat} (small : index < 2 ^ 30)
    (full : capacityAfter index ≤ index) : capacityAfter index * 2 ≤ intMax := by
  have seen := le_capacityAfter index
  simp only [intMax]
  omega

section Steps

variable {oracle : Oracle} {start heap : Heap} {done : List Header}
  {hc : HeaderCollector} {cells : List (Nat × Nat)}

/--
The growth step of `header_cb` keeps the collector invariant when the two
`realloc`s of a growth succeed, doubles the capacity of full arrays, and
leaves room for one more header.
-/
theorem headerCbGrow_collects
    (collects : Collects start done hc cells heap)
    (small : hc.count < 2 ^ 30)
    (reallocs : hc.count ≥ hc.capacity → oracle heap.calls ≠ .fail ∧ oracle (heap.calls + 1) ≠ .fail) :
    ∃ grown heap', headerCbGrow oracle hc heap = .ok (some grown, heap') ∧
      grown.count = hc.count ∧ hc.count < grown.capacity ∧
      grown.capacity = (if hc.count ≥ hc.capacity then hc.capacity * 2 else hc.capacity) ∧
      Collects start done grown cells heap' := by
  by_cases full : hc.count ≥ hc.capacity
  case neg =>
    exact ⟨hc, heap, by simp [headerCbGrow, full], rfl, by omega, by simp [full], collects⟩
  case pos =>
    have sameCap : hc.count = hc.capacity := Nat.le_antisymm collects.count_le full
    obtain ⟨growths, powEq⟩ := collects.capacity_pow
    have capacityPos : 0 < hc.capacity := by
      rw [powEq]
      exact Nat.mul_pos (by decide) (Nat.two_pow_pos growths)
    have fits : hc.capacity * 2 ≤ intMax := by
      simp only [intMax]
      omega
    have lengths := collects.strings.length_eq
    have pointersFit : cells.length ≤ hc.capacity := by
      have := collects.count_eq
      omega
    obtain ⟨namesSucceed, valuesSucceed⟩ := reallocs full
    obtain ⟨newNames, heap₁, realloc₁, block₁, calls₁, frame₁, owns₁⟩ :=
      collects.owns.realloc_ok (hc.capacity * 2)
        collects.names_block (List.Perm.refl _) namesSucceed
    have distinct₀ := collects.owns.nodup
    have distinct₁ := owns₁.nodup
    simp only [List.nodup_cons, List.mem_cons, not_or] at distinct₀ distinct₁
    have valuesBlock₁ := (frame₁ hc.values (Ne.symm distinct₀.1.1) (Ne.symm distinct₁.1.1)).trans
      collects.values_block
    obtain ⟨newValues, heap₂, realloc₂, block₂, -, frame₂, owns₂⟩ :=
      owns₁.realloc_ok (hc.capacity * 2)
        valuesBlock₁ (List.Perm.swap _ _ _) (calls₁ ▸ valuesSucceed)
    have distinct₂ := owns₂.nodup
    simp only [List.nodup_cons, List.mem_cons, not_or] at distinct₂
    have namesPos := (Heap.live_bounds (owns₁.live newNames (by simp))).1
    have valuesPos := (Heap.live_bounds (owns₂.live newValues (by simp))).1
    refine ⟨{ hc with names := newNames, values := newValues, capacity := hc.capacity * 2 },
      heap₂, ?_, rfl, show hc.count < hc.capacity * 2 by omega, by simp [full], ?_⟩
    · simp [headerCbGrow, full, intTimesTwo_of_le fits, realloc₁, realloc₂,
        show newNames ≠ 0 by omega, show newValues ≠ 0 by omega]
    · refine ⟨collects.count_eq, show hc.count ≤ hc.capacity * 2 by omega,
        ⟨growths + 1, by rw [powEq, Nat.pow_succ, Nat.mul_assoc]⟩,
        ?_, ?_, ?_, owns₂.perm (List.Perm.swap _ _ _)⟩
      · simp only
        rw [frame₂ newNames distinct₁.1.1 (Ne.symm distinct₂.1.1), block₁,
          resize_slotsOf (by simpa using pointersFit) (by omega)]
      · simp only
        rw [block₂, resize_slotsOf (by simpa using pointersFit) (by omega)]
      · refine forall₂_stringsAt_of_eq collects.strings fun address member => ?_
        have notValues : address ≠ hc.values := fun same => distinct₀.2.1 (same ▸ member)
        have notNames : address ≠ hc.names := fun same => distinct₀.1.2 (same ▸ member)
        have notNew₁ : address ≠ newNames := fun same => distinct₁.1.2 (same ▸ member)
        have notNew₂ : address ≠ newValues := fun same => distinct₂.1.2 (same ▸ member)
        rw [frame₂ address notValues notNew₂, frame₁ address notNames notNew₁]

/--
The copy step of `header_cb`, with room in both arrays and both `malloc`s
succeeding, appends the header's two fresh strings to the collector.
-/
theorem headerCbStore_collects
    (collects : Collects start done hc cells heap)
    (room : hc.count < hc.capacity)
    (header : Header)
    (nameAllocated : oracle heap.calls ≠ .fail) (valueAllocated : oracle (heap.calls + 1) ≠ .fail) :
    ∃ heap', headerCbStore oracle header hc heap =
        .ok (0, { hc with count := hc.count + 1 }, heap') ∧
      Collects start (done ++ [header]) { hc with count := hc.count + 1 }
        (cells ++ [(heap.next, heap.next + 1)]) heap' := by
  have namesLt := collects.owns.lt_next (List.mem_cons_self _ _)
  have valuesLt := collects.owns.lt_next (show hc.values ∈ hc.names :: hc.values :: stringsOf cells by simp)
  have lengths := collects.strings.length_eq
  have pos := heap.next_pos
  have valueAllocated' : oracle ((heap.alloc
      (.chars (List.replicate (header.name.length + 1) 0))).tick.calls) ≠ .fail := by
    simpa using valueAllocated
  simp only [headerCbStore, malloc_of_ne_fail _ nameAllocated, malloc_of_ne_fail _ valueAllocated',
    Heap.next_tick, Heap.next_alloc]
  rw [if_neg (by omega), storeBytes_cString (by simp), storeBytes_cString (by simp)]
  have countEq : hc.count = (cells.map Prod.fst).length := by simp [collects.count_eq, lengths]
  have countEq' : hc.count = (cells.map Prod.snd).length := by simp [collects.count_eq, lengths]
  have cellsRoom : cells.length < hc.capacity := by
    have := collects.count_eq
    omega
  have pointersFit : cells.length ≤ hc.capacity := Nat.le_of_lt cellsRoom
  have namesNeValues : hc.names ≠ hc.values := fun same =>
    (List.nodup_cons.mp collects.owns.nodup).1 (same ▸ List.mem_cons_self _ _)
  rw [storeSlot_of_lt (slotsOf (cells.map Prod.fst) hc.capacity)
      (by simp [show hc.names ≠ heap.next by omega, show hc.names ≠ heap.next + 1 by omega,
        collects.names_block])
      (by rw [length_slotsOf (by simpa using pointersFit)]; exact room), ok_bind,
    storeSlot_of_lt (slotsOf (cells.map Prod.snd) hc.capacity)
      (by simp [show hc.values ≠ heap.next by omega, show hc.values ≠ heap.next + 1 by omega,
        Ne.symm namesNeValues, collects.values_block])
      (by rw [length_slotsOf (by simpa using pointersFit)]; exact room), ok_bind]
  refine ⟨_, rfl, ?_⟩
  have namesFresh : hc.names ≠ heap.next ∧ hc.names ≠ heap.next + 1 := by omega
  have valuesFresh : hc.values ≠ heap.next ∧ hc.values ≠ heap.next + 1 := by omega
  refine ⟨by simp [collects.count_eq], show hc.count + 1 ≤ hc.capacity by omega,
    collects.capacity_pow, ?_, ?_, ?_, ?_⟩
  · simp only [Heap.blocks_store, if_neg namesNeValues, if_pos, List.map_append]
    simp only [countEq, set_slotsOf (show (cells.map Prod.fst).length < hc.capacity by simpa using cellsRoom)]
    rfl
  · simp only [Heap.blocks_store, if_pos, List.map_append]
    simp only [countEq', set_slotsOf (show (cells.map Prod.snd).length < hc.capacity by simpa using cellsRoom)]
    rfl
  · have distinct := collects.owns.nodup
    simp only [List.nodup_cons, List.mem_cons, not_or] at distinct
    refine List.rel_append (forall₂_stringsAt_of_eq collects.strings fun address member => ?_)
      (.cons ⟨by simp [Ne.symm namesFresh.1, Ne.symm valuesFresh.1],
        by simp [Ne.symm namesFresh.2, Ne.symm valuesFresh.2]⟩ .nil)
    have below := collects.owns.lt_next
      (show address ∈ hc.names :: hc.values :: stringsOf cells by simp [member])
    have notValues : address ≠ hc.values := fun same => distinct.2.1 (same ▸ member)
    have notNames : address ≠ hc.names := fun same => distinct.1.2 (same ▸ member)
    simp [notValues, notNames, show address ≠ heap.next by omega,
      show address ≠ heap.next + 1 by omega]
  · refine ((((((collects.owns.alloc _).tick.alloc _).tick.store _ (by simp)).store _
      (by simp)).store _ (by simp)).store _ (by simp)).perm (List.Perm.of_eq ?_)
    simp

/-- One `header_cb` call returns 0 and keeps the invariant, one header further. -/
theorem headerCb_collects
    (neverFails : oracle.NeverFails)
    (collects : Collects start done hc cells heap)
    (small : hc.count < 2 ^ 30)
    (header : Header) :
    ∃ hc' cells' heap', headerCb oracle header (hc, heap) = .ok (0, hc', heap') ∧
      Collects start (done ++ [header]) hc' cells' heap' := by
  obtain ⟨grown, heap₁, grow, sameCount, room, -, collects₁⟩ :=
    headerCbGrow_collects collects small fun _ => ⟨neverFails _, neverFails _⟩
  obtain ⟨heap₂, store, collects₂⟩ :=
    headerCbStore_collects collects₁ (sameCount ▸ room) header (neverFails _) (neverFails _)
  exact ⟨_, _, heap₂, by simp [headerCb, grow, store], collects₂⟩

/-- The engine's walk keeps the invariant over every header, up to `2 ^ 30` of them. -/
theorem forEachHeaderList_collects
    (neverFails : oracle.NeverFails) :
    ∀ (rest done : List Header) (hc : HeaderCollector) (cells : List (Nat × Nat)) (heap : Heap),
      Collects start done hc cells heap → done.length + rest.length ≤ 2 ^ 30 →
      ∃ hc' cells' heap', forEachHeaderList (headerCb oracle) rest (hc, heap) = .ok (0, hc', heap') ∧
        Collects start (done ++ rest) hc' cells' heap'
  | [], done, hc, cells, heap, collects, _ =>
      ⟨hc, cells, heap, rfl, by simpa using collects⟩
  | header :: rest, done, hc, cells, heap, collects, fits => by
      have small : hc.count < 2 ^ 30 := by
        rw [collects.count_eq]
        simp at fits
        omega
      obtain ⟨hc₁, cells₁, heap₁, step, collects₁⟩ := headerCb_collects neverFails collects small header
      obtain ⟨hc₂, cells₂, heap₂, walk, collects₂⟩ :=
        forEachHeaderList_collects neverFails rest (done ++ [header]) hc₁ cells₁ heap₁ collects₁
          (by simp at fits ⊢; omega)
      exact ⟨hc₂, cells₂, heap₂, by simp [forEachHeaderList, step, walk], by simpa using collects₂⟩

/-- A `header_cb` call that returned 0 got grown arrays from its growth step, then stored. -/
theorem headerCb_eq_zero {header : Header} {hc' : HeaderCollector} {heap' : Heap}
    (returned : headerCb oracle header (hc, heap) = .ok (0, hc', heap')) :
    ∃ grown heap₁, headerCbGrow oracle hc heap = .ok (some grown, heap₁) ∧
      headerCbStore oracle header grown heap₁ = .ok (0, hc', heap') := by
  obtain ⟨⟨result, heap₁⟩, grew, stored⟩ := bind_eq_ok returned
  cases result with
  | none => simp at stored
  | some grown => exact ⟨grown, heap₁, grew, stored⟩

/-- Full arrays that grew did so through two `realloc` calls the oracle let succeed. -/
theorem headerCbGrow_reallocs {grown : HeaderCollector} {heap₁ : Heap}
    (grew : headerCbGrow oracle hc heap = .ok (some grown, heap₁)) (full : hc.count ≥ hc.capacity) :
    oracle heap.calls ≠ .fail ∧ oracle (heap.calls + 1) ≠ .fail := by
  simp only [headerCbGrow, if_pos full] at grew
  obtain ⟨_, -, grew⟩ := bind_eq_ok grew
  obtain ⟨⟨newNames, heapNames⟩, reallocNames, grew⟩ := bind_eq_ok grew
  obtain ⟨⟨newValues, heapValues⟩, reallocValues, grew⟩ := bind_eq_ok grew
  by_cases failed : newNames = 0 ∨ newValues = 0
  · simp only [if_pos failed] at grew
    obtain ⟨_, -, grew⟩ := bind_eq_ok grew
    obtain ⟨_, -, grew⟩ := bind_eq_ok grew
    simp at grew
  · push_neg at failed
    obtain ⟨calls, namesSucceed⟩ := realloc_succeeded reallocNames
    exact ⟨namesSucceed failed.1, calls ▸ (realloc_succeeded reallocValues).2 failed.2⟩

/-- A copy step that returned 0 made two `malloc` calls the oracle let succeed. -/
theorem headerCbStore_mallocs {header : Header} {hc' : HeaderCollector} {heap' : Heap}
    (stored : headerCbStore oracle header hc heap = .ok (0, hc', heap')) :
    oracle heap.calls ≠ .fail ∧ oracle (heap.calls + 1) ≠ .fail := by
  unfold headerCbStore at stored
  generalize nameCall : malloc oracle (.chars (List.replicate (header.name.length + 1) 0)) heap =
    first at stored
  obtain ⟨n, heap₁⟩ := first
  dsimp only at stored
  generalize valueCall : malloc oracle (.chars (List.replicate (header.value.length + 1) 0)) heap₁ =
    second at stored
  obtain ⟨v, heap₂⟩ := second
  dsimp only at stored
  by_cases failed : n = 0 ∨ v = 0
  · simp only [if_pos failed] at stored
    obtain ⟨_, -, stored⟩ := bind_eq_ok stored
    obtain ⟨_, -, stored⟩ := bind_eq_ok stored
    simp at stored
  · push_neg at failed
    obtain ⟨calls, nameSucceeded⟩ := malloc_succeeded nameCall
    exact ⟨nameSucceeded failed.1, calls ▸ (malloc_succeeded valueCall).2 failed.2⟩

/--
A `header_cb` call that returned 0 kept the invariant one header further,
with the capacity doubled exactly when the arrays were full.
-/
theorem headerCb_collects_of_zero
    (collects : Collects start done hc cells heap) (small : hc.count < 2 ^ 30)
    {header : Header} {hc' : HeaderCollector} {heap' : Heap}
    (returned : headerCb oracle header (hc, heap) = .ok (0, hc', heap')) :
    hc'.capacity = (if hc.count ≥ hc.capacity then hc.capacity * 2 else hc.capacity) ∧
      ∃ cells', Collects start (done ++ [header]) hc' cells' heap' := by
  obtain ⟨grown, heap₁, grew, stored⟩ := headerCb_eq_zero returned
  obtain ⟨grown', heap₁', grew', sameCount, room, capacity, collects₁⟩ :=
    headerCbGrow_collects collects small (headerCbGrow_reallocs grew)
  obtain ⟨rfl, rfl⟩ : grown' = grown ∧ heap₁' = heap₁ := by simpa [grew'] using grew
  obtain ⟨nameAllocated, valueAllocated⟩ := headerCbStore_mallocs stored
  obtain ⟨heap₂, stored', collects₂⟩ :=
    headerCbStore_collects collects₁ (sameCount ▸ room) header nameAllocated valueAllocated
  obtain ⟨rfl, rfl⟩ : { grown' with count := grown'.count + 1 } = hc' ∧ heap₂ = heap' := by
    simpa [stored'] using stored
  exact ⟨capacity, _, collects₂⟩

/--
A walk in which every `header_cb` call returned 0 keeps the invariant over
every header, with the capacity `capacityAfter` gives for the number seen.
-/
theorem forEachHeaderList_collects_of_zero :
    ∀ (rest done : List Header) (hc : HeaderCollector) (cells : List (Nat × Nat)) (heap : Heap)
      {hc' : HeaderCollector} {heap' : Heap},
      Collects start done hc cells heap → hc.capacity = capacityAfter done.length →
      done.length + rest.length < 2 ^ 30 →
      forEachHeaderList (headerCb oracle) rest (hc, heap) = .ok (0, hc', heap') →
      hc'.capacity = capacityAfter (done ++ rest).length ∧
        ∃ cells', Collects start (done ++ rest) hc' cells' heap'
  | [], done, hc, cells, heap, _, _, collects, capacity, _, walk => by
      obtain ⟨rfl, rfl⟩ : hc = _ ∧ heap = _ := by simpa [forEachHeaderList] using walk
      exact ⟨by simpa using capacity, cells, by simpa using collects⟩
  | header :: rest, done, hc, cells, heap, _, _, collects, capacity, fits, walk => by
      obtain ⟨⟨hc₁, heap₁⟩, step, walk⟩ := forEachHeaderList_cons_zero walk
      have small : hc.count < 2 ^ 30 := by
        rw [collects.count_eq]
        simp only [List.length_cons] at fits
        omega
      obtain ⟨capacity₁, cells₁, collects₁⟩ := headerCb_collects_of_zero collects small step
      have grown : hc₁.capacity = capacityAfter (done ++ [header]).length := by
        rw [capacity₁, capacity, collects.count_eq]
        simp [capacityAfter]
      simpa using forEachHeaderList_collects_of_zero rest (done ++ [header]) hc₁ cells₁ heap₁
        collects₁ grown (by simp only [List.length_append, List.length_cons, List.length_nil] at fits ⊢; omega) walk
end Steps

/-- The collected slot at an index below `count` holds that index's pointer. -/
theorem getElem?_slotsOf
    {pointers : List Nat} {capacity index : Nat}
    (inRange : index < pointers.length) :
    (slotsOf pointers capacity)[index]? = pointers[index]?.map some := by
  rw [slotsOf, List.getElem?_append_left (by simpa using inRange), List.getElem?_map]

/-- The slot the loops read at index `before.length` is the next cell's pointer. -/
theorem getElem?_slotsOf_cell
    {before after : List (Nat × Nat)} {cell : Nat × Nat} {capacity : Nat}
    (select : Nat × Nat → Nat) :
    (slotsOf ((before ++ cell :: after).map select) capacity)[before.length]? =
      some (some (select cell)) := by
  rw [getElem?_slotsOf (by simp), List.map_append, List.map_cons,
    List.getElem?_append_right (by simp)]
  simp

section Cleanup
variable {oracle : Oracle} {heap : Heap} {names values capacity : Nat}
  {cells : List (Nat × Nat)}

/-- The cleanup loop frees every collected string exactly once and leaves both arrays owned. -/
theorem freeEntries_collected
    {start : Heap}
    (namesBlock : heap.blocks names = some (.slots (slotsOf (cells.map Prod.fst) capacity)))
    (valuesBlock : heap.blocks values = some (.slots (slotsOf (cells.map Prod.snd) capacity))) :
    ∀ (before after : List (Nat × Nat)) (current : Heap),
      cells = before ++ after →
      current.blocks names = heap.blocks names → current.blocks values = heap.blocks values →
      OwnsSince start current (names :: values :: stringsOf after) →
      ∃ current', freeEntries names values before.length after.length current = .ok current' ∧
        OwnsSince start current' [names, values] := by
  intro before after
  induction after generalizing before with
  | nil =>
      intro current _ _ _ owns
      exact ⟨current, rfl, owns⟩
  | cons cell after inductionHypothesis =>
      intro current split sameNames sameValues owns
      subst split
      have distinct := owns.nodup
      simp only [List.nodup_cons, List.mem_cons, stringsOf_cons, not_or] at distinct
      have nameMember : cell.1 ∈ names :: values :: stringsOf (cell :: after) := by simp
      have owns₁ := owns.erase nameMember
      have valueMember : cell.2 ∈ (names :: values :: stringsOf (cell :: after)).erase cell.1 := by
        simp [List.erase_cons, distinct.1.2.1, distinct.2.1.1]
      have owns₂ := owns₁.erase valueMember
      have remaining : ((names :: values :: stringsOf (cell :: after)).erase cell.1).erase cell.2 =
          names :: values :: stringsOf after := by
        simp [List.erase_cons, distinct.1.2.1, distinct.2.1.1, distinct.1.2.2.1, distinct.2.1.2.1]
      rw [remaining] at owns₂
      obtain ⟨current', loop, owns'⟩ :=
        inductionHypothesis (before ++ [cell]) _ (by simp)
          (by simp [distinct.1.2.1, distinct.1.2.2.1, sameNames])
          (by simp [distinct.2.1.1, distinct.2.1.2.1, sameValues]) owns₂
      refine ⟨current', ?_, owns'⟩
      simp only [freeEntries, ok_bind]
      rw [loadSlot_of_getElem? _ (sameNames ▸ namesBlock) (getElem?_slotsOf_cell Prod.fst), ok_bind,
        free_of_live (owns.live _ nameMember), ok_bind,
        loadSlot_of_getElem? (slotsOf ((before ++ cell :: after).map Prod.snd) capacity)
          (by simp [distinct.2.1.1, sameValues, valuesBlock]) (getElem?_slotsOf_cell Prod.snd),
        ok_bind,
        free_of_live (owns₁.live _ valueMember), ok_bind]
      simpa using loop

end Cleanup

/-! ## The whole call -/

/--
At `2 ^ 30` headers the collection itself succeeds, but `hc.count * 2` in the
`NewObjectArray` call overflows `int`: the flat array cannot be built.
-/
theorem collectHeaders_at_two_pow_thirty :
    collectHeaders Jvm.emptyOnInvalid (fun _ => .inPlace)
      (.headers (List.replicate (2 ^ 30) ⟨[104], [105]⟩)) Heap.empty = .error .signedOverflow := by
  have neverFails : Oracle.NeverFails fun _ => .inPlace := fun _ => nofun
  have lengthFits : ([] : List Header).length + (List.replicate (2 ^ 30) (⟨[104], [105]⟩ : Header)).length ≤ 2 ^ 30 := by
    rw [List.length_replicate, List.length_nil, Nat.zero_add]
  obtain ⟨hc, cells, walked, walk, collects⟩ :=
    forEachHeaderList_collects neverFails (List.replicate (2 ^ 30) ⟨[104], [105]⟩) [] _ [] _
      (collects_initial Heap.empty) lengthFits
  have count : hc.count = 2 ^ 30 := by
    rw [collects.count_eq, List.nil_append, List.length_replicate]
  have overflow : intTimesTwo hc.count = .error .signedOverflow := by
    rw [intTimesTwo, count, if_neg (by simp only [intMax]; omega)]
  generalize List.replicate (2 ^ 30) (⟨[104], [105]⟩ : Header) = list at walk
  simp only [collectHeaders, malloc_of_ne_fail (fun _ => .inPlace)
      (fun isFail => AllocOutcome.noConfusion isFail), Heap.next_tick, Heap.next_alloc,
    quicheH3EventForEachHeader, walk, ok_bind, buildArray, overflow]
  rfl

/-! ## The collector invariant over every walk -/

/--
The collector and heap `quiche_h3_event_headers` hands the walk once both
32-slot `malloc`s have succeeded.
-/
def initialCollector (heap : Heap) : HeaderCollector × Heap :=
  let block := Block.slots (List.replicate 32 none)
  ({ count := 0, capacity := 32, names := heap.next, values := heap.next + 1 },
    ((heap.alloc block).tick.alloc block).tick)

end Gumdrop
