import Gumdrop.Jni

namespace Gumdrop

/-!
# Collecting the header list of an HTTP/3 event

`quiche_h3_event_headers` walks the cached event with
`quiche_h3_event_for_each_header`, whose callback `header_cb` copies every
name and value into `malloc`'d C strings held by two `char **` arrays.  The
arrays start with 32 slots and are doubled with `realloc` when full.  After
the walk the strings become a flat `String[]`
`[name0, value0, name1, value1, ...]`, and everything is freed.

This module is the faithful model of those three pieces of `h3_jni.c`.  The
engine is modelled after quiche: the callback runs on each header in order
until it returns non-zero, and an event that is not a Headers event reaches
`unreachable!()`.
-/

/-- One header as quiche hands it to `header_cb`: its name and value bytes. -/
structure Header where
  name : List UInt8
  value : List UInt8
  deriving Repr, DecidableEq

/-- A `quiche_h3_event`, by the kinds `quiche_h3_event_type` reports. -/
inductive H3Event where
  | headers (list : List Header)
  | data
  | finished
  | goAway
  | reset
  | priorityUpdate
  deriving Repr, DecidableEq

/-- `quiche_h3_event_for_each_header` over a header list: stop at the first non-zero return. -/
def forEachHeaderList (callback : Header → σ → Except Fault (Int × σ)) :
    List Header → σ → Except Fault (Int × σ)
  | [], state => .ok (0, state)
  | header :: rest, state => do
      let (rc, state) ← callback header state
      if rc ≠ 0 then pure (rc, state) else forEachHeaderList callback rest state

/-- A walk that returned 0 ran the callback on its first header to 0, then walked the rest to 0. -/
theorem forEachHeaderList_cons_zero {callback : Header → σ → Except Fault (Int × σ)}
    {header : Header} {rest : List Header} {state final : σ}
    (walk : forEachHeaderList callback (header :: rest) state = .ok (0, final)) :
    ∃ next, callback header state = .ok (0, next) ∧ forEachHeaderList callback rest next = .ok (0, final) := by
  obtain ⟨⟨rc, next⟩, step, walk⟩ := bind_eq_ok walk
  by_cases zero : rc = 0
  · subst zero
    exact ⟨next, step, by simpa using walk⟩
  · simp [zero] at walk

/-- `quiche_h3_event_for_each_header`; only a Headers event carries a list. -/
def quicheH3EventForEachHeader (event : H3Event) (callback : Header → σ → Except Fault (Int × σ))
    (state : σ) : Except Fault (Int × σ) :=
  match event with
  | .headers list => forEachHeaderList callback list state
  | _ => .error .engineUnreachable

/-- `struct header_collector`; `env` and `array` are never read and are left out. -/
structure HeaderCollector where
  count : Nat
  capacity : Nat
  names : Nat
  values : Nat
  deriving Repr, DecidableEq

/--
The growth step at the top of `header_cb`: when the arrays are full, both are
`realloc`'d to twice the capacity.  `none` is the early `return -1`, which
leaves the collector as it was.
-/
def headerCbGrow (oracle : Oracle) (hc : HeaderCollector) (heap : Heap) :
    Except Fault (Option HeaderCollector × Heap) :=
  if hc.count ≥ hc.capacity then do
    let newCap ← intTimesTwo hc.capacity
    let (newNames, heap) ← realloc oracle hc.names newCap heap
    let (newValues, heap) ← realloc oracle hc.values newCap heap
    if newNames = 0 ∨ newValues = 0 then do
      let heap ← free newNames heap
      let heap ← free newValues heap
      pure (none, heap)
    else
      pure (some { hc with names := newNames, values := newValues, capacity := newCap }, heap)
  else pure (some hc, heap)

/-- The copy step of `header_cb`: both strings are duplicated and stored at index `count`. -/
def headerCbStore (oracle : Oracle) (header : Header) (hc : HeaderCollector) (heap : Heap) :
    Except Fault (Int × HeaderCollector × Heap) :=
  let (n, heap) := malloc oracle (.chars (List.replicate (header.name.length + 1) 0)) heap
  let (v, heap) := malloc oracle (.chars (List.replicate (header.value.length + 1) 0)) heap
  if n = 0 ∨ v = 0 then do
    let heap ← free n heap
    let heap ← free v heap
    pure (-1, hc, heap)
  else do
    let heap ← storeBytes n 0 header.name heap
    let heap ← storeBytes n header.name.length [0] heap
    let heap ← storeBytes v 0 header.value heap
    let heap ← storeBytes v header.value.length [0] heap
    let heap ← storeSlot hc.names hc.count n heap
    let heap ← storeSlot hc.values hc.count v heap
    pure (0, { hc with count := hc.count + 1 }, heap)

/-- `header_cb`. -/
def headerCb (oracle : Oracle) (header : Header) :
    HeaderCollector × Heap → Except Fault (Int × HeaderCollector × Heap)
  | (hc, heap) => do
      match ← headerCbGrow oracle hc heap with
      | (none, heap) => pure (-1, hc, heap)
      | (some hc, heap) => headerCbStore oracle header hc heap

/-- `free(hc.names[i]); free(hc.values[i]);` for `remaining` indices from `index` on. -/
def freeEntries (names values index : Nat) : Nat → Heap → Except Fault Heap
  | 0, heap => .ok heap
  | remaining + 1, heap => do
      let name ← loadSlot names index heap
      let heap ← free name heap
      let value ← loadSlot values index heap
      let heap ← free value heap
      freeEntries names values (index + 1) remaining heap

/-- The cleanup shared by both exits of `quiche_h3_event_headers`. -/
def freeCollector (hc : HeaderCollector) (heap : Heap) : Except Fault Heap := do
  let heap ← freeEntries hc.names hc.values 0 hc.count heap
  let heap ← free hc.names heap
  free hc.values heap

/-- The loop that fills the `String[]`: elements `2i`, `2i + 1` from `names[i]`, `values[i]`. -/
def fillArray (jvm : Jvm) (oracle : Oracle) (names values index : Nat) :
    Nat → Heap → Except Fault (List (Option JString) × Heap)
  | 0, heap => .ok ([], heap)
  | remaining + 1, heap => do
      let name ← loadSlot names index heap
      let (jname, heap) ← newStringUTF jvm oracle name heap
      let value ← loadSlot values index heap
      let (jvalue, heap) ← newStringUTF jvm oracle value heap
      let (rest, heap) ← fillArray jvm oracle names values (index + 1) remaining heap
      pure (jname :: jvalue :: rest, heap)

/-- `NewObjectArray(env, hc.count * 2, ...)` and its filling; `none` is `NULL`. -/
def buildArray (jvm : Jvm) (oracle : Oracle) (hc : HeaderCollector) (heap : Heap) :
    Except Fault (Option (List (Option JString)) × Heap) := do
  let _ ← intTimesTwo hc.count
  match oracle heap.calls with
  | .fail => pure (none, heap.tick)
  | _ => do
      let (elements, heap) ← fillArray jvm oracle hc.names hc.values 0 hc.count heap.tick
      pure (some elements, heap)

/--
`quiche_h3_event_headers` once `current_event` is known to be non-`NULL`:
the JNI result (`none` is `NULL`) and the heap afterwards.
-/
def collectHeaders (jvm : Jvm) (oracle : Oracle) (event : H3Event) (heap : Heap) :
    Except Fault (Option (List (Option JString)) × Heap) :=
  let (names, heap) := malloc oracle (.slots (List.replicate 32 none)) heap
  let (values, heap) := malloc oracle (.slots (List.replicate 32 none)) heap
  if names = 0 ∨ values = 0 then do
    let heap ← free names heap
    let heap ← free values heap
    pure (none, heap)
  else do
    let hc : HeaderCollector := { count := 0, capacity := 32, names, values }
    let (rc, hc, heap) ← quicheH3EventForEachHeader event (headerCb oracle) (hc, heap)
    if rc ≠ 0 then do
      let heap ← freeCollector hc heap
      pure (none, heap)
    else do
      let (result, heap) ← buildArray jvm oracle hc heap
      let heap ← freeCollector hc heap
      pure (result, heap)

/--
With 33 headers, the names `realloc` succeeds by moving and the values
`realloc` fails.  `header_cb` frees the new names block and returns -1 with
`hc.names` still pointing at the old block, which `realloc` already freed;
the cleanup of `quiche_h3_event_headers` then reads `hc.names[0]` from that
freed block (and would go on to free it a second time).
-/
theorem collectHeaders_reads_freed_names (jvm : Jvm) :
    collectHeaders jvm (fun call => if call = 67 then .fail else .moved)
      (.headers (List.replicate 33 ⟨[104], [105]⟩)) Heap.empty = .error (.invalidAccess 1) := by
  rfl

end Gumdrop
