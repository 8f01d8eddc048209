import Gumdrop.CHeap

namespace Gumdrop

/-!
# Listing readable streams

`quiche_conn_readable` (in `quiche_jni.c`) drains quiche's readable-stream
iterator into a stack array `uint64_t ids[256]`, frees the iterator, and
copies the ids into a new Java `long[]` through `GetLongArrayElements`.

The iterator is modelled by the ids it will yield.  The JVM's two answers,
whether `NewLongArray` allocates and whether `GetLongArrayElements` hands out
the elements, are inputs, as are the indeterminate contents of `ids` before
the loop.  The calls made on the iterator and the stores into `ids` are
recorded in order.
-/

/-- A call `quiche_conn_readable` makes on the iterator, or a store into `ids`. -/
inductive ReadableCall where
  /-- `quiche_stream_iter_next(iter, &id)`. -/
  | iterNext
  /-- `ids[index] = id`. -/
  | storeId (index : Nat)
  /-- `quiche_stream_iter_free(iter)`. -/
  | iterFree
  deriving Repr, DecidableEq

/--
`while (quiche_stream_iter_next(iter, &id) && count < 256) ids[count++] = id;`
from `count`, with `pending` the ids the iterator has still to yield: the
final `count`, the array and the calls made.  `quiche_stream_iter_next` is
called before `count` is tested, so the loop makes one more call than it
stores.
-/
def readableLoop : List UInt64 → Nat → (Fin 256 → UInt64) →
    Nat × (Fin 256 → UInt64) × List ReadableCall
  | [], count, ids => (count, ids, [.iterNext])
  | id :: pending, count, ids =>
      if full : count < 256 then
        let (final, ids', calls) := readableLoop pending (count + 1) (Function.update ids ⟨count, full⟩ id)
        (final, ids', .iterNext :: .storeId count :: calls)
      else (count, ids, [.iterNext])

/-- `ids[index]`, a read of the static array. -/
def loadId (ids : Fin 256 → UInt64) (index : Nat) : Except Fault UInt64 :=
  if inside : index < 256 then .ok (ids ⟨index, inside⟩) else .error (.bufferOverread index)

/--
`for (i = 0; i < count; i++) elems[i] = (jlong)ids[i];` over the indices
`indices`.  The cast keeps the bit pattern, so the elements are `UInt64`s.
-/
def copyIds (ids : Fin 256 → UInt64) (elems : List UInt64) : List Nat → Except Fault (List UInt64)
  | [] => .ok elems
  | index :: rest => do
      let id ← loadId ids index
      copyIds ids (elems.set index id) rest

/--
`Java_..._quiche_1conn_1readable`: the calls made on the iterator and on
`ids`, and the `long[]` returned (`none` for `NULL`).  `iter` is what
`quiche_conn_readable` returns (`none` for `NULL`, else the ids it yields);
`stack` is `ids` before the loop; `allocated` is whether `NewLongArray`
allocates and `pinned` whether `GetLongArrayElements` hands out the elements.
`GetLongArrayElements` of a `NULL` array is a JNI call on `null`, and a
`NULL` `elems` is written through at address 0.
-/
def quicheConnReadable (iter : Option (List UInt64)) (stack : Fin 256 → UInt64)
    (allocated pinned : Bool) : List ReadableCall × Except Fault (Option (List UInt64)) :=
  match iter with
  | none => ([], pure (if allocated then some [] else none))
  | some streams =>
      let (count, ids, calls) := readableLoop streams 0 stack
      (calls ++ [.iterFree],
        if 0 < count then
          if !allocated then .error .nullReference
          else if !pinned then .error (.invalidAccess 0)
          else (copyIds ids (List.replicate count 0) (List.range count)).map some
        else pure (if allocated then some [] else none))

/-! ## The loop -/

/-- The calls of `count` passes through the loop body, storing from index `start`. -/
def storeCalls (start count : Nat) : List ReadableCall :=
  (List.range' start count).flatMap fun index => [.iterNext, .storeId index]

@[simp] theorem storeCalls_zero (start : Nat) : storeCalls start 0 = [] := rfl

theorem storeCalls_succ (start count : Nat) :
    storeCalls start (count + 1) = .iterNext :: .storeId start :: storeCalls (start + 1) count := by
  simp [storeCalls, List.range'_succ]

/-- The loop body stores exactly at the indices `[start, start + count)`. -/
theorem storeId_mem_storeCalls {start count index : Nat} :
    .storeId index ∈ storeCalls start count ↔ start ≤ index ∧ index < start + count := by
  simp [storeCalls]

theorem iterFree_not_mem_storeCalls (start count : Nat) : .iterFree ∉ storeCalls start count := by
  simp [storeCalls]

/-- `ids` holds `stored` in its first `stored.length` slots. -/
def HoldsPrefix (ids : Fin 256 → UInt64) (stored : List UInt64) : Prop :=
  ∀ (index : Fin 256) (inside : index.val < stored.length), ids index = stored[index.val]

theorem holdsPrefix_nil (ids : Fin 256 → UInt64) : HoldsPrefix ids [] :=
  fun _ inside => absurd inside (Nat.not_lt_zero _)

/-- One store `ids[count++] = id` extends the prefix `ids` holds. -/
theorem holdsPrefix_update {ids : Fin 256 → UInt64} {stored : List UInt64} (holds : HoldsPrefix ids stored)
    (id : UInt64) (full : stored.length < 256) :
    HoldsPrefix (Function.update ids ⟨stored.length, full⟩ id) (stored ++ [id]) := by
  intro index inside
  rw [List.length_append, List.length_singleton] at inside
  by_cases last : index.val = stored.length
  · have : index = ⟨stored.length, full⟩ := Fin.ext last
    subst this
    simp
  · have before : index.val < stored.length := by omega
    rw [Function.update_noteq (fun same => last (congrArg Fin.val same)), List.getElem_append_left before]
    exact holds index before

/--
The loop run from a state that holds `stored` in `ids` stores the next
`256 - stored.length` ids the iterator yields, at the indices that follow,
and calls `quiche_stream_iter_next` once more than it stores.
-/
theorem readableLoop_run (pending stored : List UInt64) (ids : Fin 256 → UInt64)
    (holds : HoldsPrefix ids stored) (room : stored.length ≤ 256) :
    let taken := pending.take (256 - stored.length)
    ∃ ids', readableLoop pending stored.length ids =
        ((stored ++ taken).length, ids', storeCalls stored.length taken.length ++ [.iterNext]) ∧
      HoldsPrefix ids' (stored ++ taken) := by
  induction pending generalizing stored ids with
  | nil => exact ⟨ids, by simp [readableLoop], by simpa using holds⟩
  | cons id pending step =>
    by_cases full : stored.length < 256
    · obtain ⟨ids', run, holds'⟩ :=
        step (stored ++ [id]) _ (holdsPrefix_update holds id full) (by simp; omega)
      have remaining : 256 - stored.length = 256 - (stored ++ [id]).length + 1 := by simp; omega
      refine ⟨ids', ?_, by simpa [remaining] using holds'⟩
      simp only [List.length_append, List.length_singleton] at run remaining
      simp [readableLoop, full, run, remaining, storeCalls_succ]
      omega
    · have filled : stored.length = 256 := by omega
      exact ⟨ids, by simp [readableLoop, filled], by simpa [filled] using holds⟩

/-- `elems` copied from `ids` over `[start, taken.length)` ends as `taken`. -/
theorem copyIds_range {ids : Fin 256 → UInt64} {taken : List UInt64} (holds : HoldsPrefix ids taken)
    (room : taken.length ≤ 256) (remaining start : Nat) (total : start + remaining = taken.length) :
    copyIds ids (taken.take start ++ List.replicate remaining 0) (List.range' start remaining) =
      .ok taken := by
  induction remaining generalizing start with
  | zero => simp [copyIds, List.take_of_length_le (show taken.length ≤ start by omega)]
  | succ remaining step =>
    have inside : start < taken.length := by omega
    have loaded : loadId ids start = .ok taken[start] := by
      simp only [loadId, dif_pos (show start < 256 by omega)]
      exact congrArg Except.ok (holds ⟨start, by omega⟩ inside)
    have stored : (taken.take start ++ List.replicate (remaining + 1) 0).set start taken[start] =
        taken.take (start + 1) ++ List.replicate remaining 0 := by
      rw [List.set_append_right _ _ (List.length_take_le _ _), List.take_succ,
        List.getElem?_eq_getElem inside]
      simp only [List.length_take, Nat.min_eq_left inside.le, Nat.sub_self, List.replicate_succ,
        List.set_cons_zero, Option.toList_some, List.append_assoc, List.singleton_append]
    simp only [List.range'_succ, copyIds, loaded, ok_bind, stored]
    exact step (start + 1) (by omega)

/-! ## A bounded prefix, and the unchecked elements -/

/--
For every iterator yielding `streams`, every stack contents and every answer
of the JVM, `quiche_conn_readable` makes `min n 256` passes through the loop
body, storing at `0, 1, ...` in order, then one more
`quiche_stream_iter_next` and one `quiche_stream_iter_free`: every store into
`ids` is below 256 and the iterator is freed exactly once.  With the array
allocated it returns the first `min n 256` ids in iterator order whenever
it has nothing to copy or `GetLongArrayElements` hands out the elements;
when that fails with ids to copy, the copy loop writes through `NULL`.
Without the array it returns `NULL` for no ids and otherwise calls
`GetLongArrayElements` on `null`.
-/
theorem quicheConnReadable_bounded_prefix (streams : List UInt64) (stack : Fin 256 → UInt64)
    (allocated pinned : Bool) :
    (quicheConnReadable (some streams) stack allocated pinned).1 =
        storeCalls 0 (min streams.length 256) ++ [.iterNext, .iterFree] ∧
      (∀ index, .storeId index ∈ (quicheConnReadable (some streams) stack allocated pinned).1 →
        index < 256) ∧
      (quicheConnReadable (some streams) stack allocated pinned).1.count .iterFree = 1 ∧
      (allocated = true → (streams = [] ∨ pinned = true) →
        (quicheConnReadable (some streams) stack allocated pinned).2 = .ok (some (streams.take 256))) ∧
      (allocated = true → streams ≠ [] → pinned = false →
        (quicheConnReadable (some streams) stack allocated pinned).2 = .error (.invalidAccess 0)) ∧
      (allocated = false → (quicheConnReadable (some streams) stack allocated pinned).2 =
        if streams = [] then .ok none else .error .nullReference) := by
  obtain ⟨ids, loop, holds⟩ := readableLoop_run streams [] stack (holdsPrefix_nil stack) (Nat.zero_le _)
  simp only [List.length_nil, Nat.sub_zero, List.nil_append] at loop holds
  have count : (streams.take 256).length = min streams.length 256 := by simp [Nat.min_comm]
  have copied : copyIds ids (List.replicate (min streams.length 256) 0)
      (List.range (min streams.length 256)) = .ok (streams.take 256) := by
    simpa [List.range_eq_range', count] using copyIds_range holds (List.length_take_le _ _) _ 0 (Nat.zero_add _)
  have calls : (quicheConnReadable (some streams) stack allocated pinned).1 =
      storeCalls 0 (min streams.length 256) ++ [.iterNext, .iterFree] := by
    simp [quicheConnReadable, loop, count]
  refine ⟨calls, fun index stored => ?_, by
    rw [calls, List.count_append, List.count_eq_zero.2 (iterFree_not_mem_storeCalls _ _)]; rfl, ?_⟩
  · rw [calls, List.mem_append, storeId_mem_storeCalls] at stored
    simp at stored
    omega
  by_cases empty : streams = []
  · subst empty
    cases allocated <;> simp [quicheConnReadable, readableLoop]
  · have nonempty : 0 < min streams.length 256 :=
      Nat.lt_min.2 ⟨List.length_pos.2 empty, by decide⟩
    cases allocated <;> cases pinned <;> simp [quicheConnReadable, loop, count, nonempty, copied, empty]

end Gumdrop
