import Gumdrop.HeaderCollectorFailures

namespace Gumdrop

/-!
# Encoding a header list for the engine

`quiche_h3_send_response` and `quiche_h3_send_request` take a flat Java
array `[name0, value0, name1, value1, ...]`.  They `malloc` one
`quiche_h3_header` per pair, fill it with the pointers
`GetStringUTFChars` returns and their `strlen`s, hand the array to the
engine, release every string and free the array.

Each `quiche_h3_header` is modelled as four word slots: `name`, `name_len`,
`value`, `value_len`.  The engine is modelled by what it reads: every entry's
name and value bytes, by pointer and length.
-/

/-- What `quiche_h3_send_response` or `quiche_h3_send_request` hands the engine. -/
structure SentHeaders where
  /-- The stream of a response; a request leaves the choice to the engine. -/
  streamId : Option Nat
  headers : List Header
  fin : Bool
  deriving Repr, DecidableEq

/-- The body of the first loop: entry `i` of `h3_headers` from `headers[2i]` and `headers[2i + 1]`. -/
def fillHeaderEntry (oracle : Oracle) (h3Headers : Nat) (headers : List JString) (index : Nat)
    (heap : Heap) : Except Fault Heap := do
  let jname ← getObjectArrayElement headers (index * 2)
  let jvalue ← getObjectArrayElement headers (index * 2 + 1)
  let (name, heap) := getStringUTFChars oracle jname heap
  let (value, heap) := getStringUTFChars oracle jvalue heap
  let heap ← storeSlot h3Headers (4 * index) name heap
  let nameLen ← strlen name heap
  let heap ← storeSlot h3Headers (4 * index + 1) nameLen heap
  let heap ← storeSlot h3Headers (4 * index + 2) value heap
  let valueLen ← strlen value heap
  storeSlot h3Headers (4 * index + 3) valueLen heap

/-- The first loop, over `remaining` entries from `index` on. -/
def fillHeaderArray (oracle : Oracle) (h3Headers : Nat) (headers : List JString) (index : Nat) :
    Nat → Heap → Except Fault Heap
  | 0, heap => .ok heap
  | remaining + 1, heap => do
      let heap ← fillHeaderEntry oracle h3Headers headers index heap
      fillHeaderArray oracle h3Headers headers (index + 1) remaining heap

/-- What the engine reads of entry `index`: the name and value bytes, by pointer and length. -/
def readHeaderEntry (h3Headers index : Nat) (heap : Heap) : Except Fault Header := do
  let name ← loadSlot h3Headers (4 * index) heap
  let nameLen ← loadSlot h3Headers (4 * index + 1) heap
  let value ← loadSlot h3Headers (4 * index + 2) heap
  let valueLen ← loadSlot h3Headers (4 * index + 3) heap
  let nameBytes ← loadBytes name nameLen heap
  let valueBytes ← loadBytes value valueLen heap
  pure ⟨nameBytes, valueBytes⟩

/-- What the engine reads of `remaining` entries from `index` on. -/
def readHeaderArray (h3Headers index : Nat) : Nat → Heap → Except Fault (List Header)
  | 0, _ => .ok []
  | remaining + 1, heap => do
      let header ← readHeaderEntry h3Headers index heap
      let rest ← readHeaderArray h3Headers (index + 1) remaining heap
      pure (header :: rest)

/-- The body of the release loop: both strings of entry `index` go back to the JVM. -/
def releaseHeaderEntry (h3Headers : Nat) (headers : List JString) (index : Nat) (heap : Heap) :
    Except Fault Heap := do
  let _ ← getObjectArrayElement headers (index * 2)
  let _ ← getObjectArrayElement headers (index * 2 + 1)
  let name ← loadSlot h3Headers (4 * index) heap
  let heap ← releaseStringUTFChars name heap
  let value ← loadSlot h3Headers (4 * index + 2) heap
  releaseStringUTFChars value heap

/-- The release loop, over `remaining` entries from `index` on. -/
def releaseHeaderArray (h3Headers : Nat) (headers : List JString) (index : Nat) :
    Nat → Heap → Except Fault Heap
  | 0, heap => .ok heap
  | remaining + 1, heap => do
      let heap ← releaseHeaderEntry h3Headers headers index heap
      releaseHeaderArray h3Headers headers (index + 1) remaining heap

/--
The body shared by `quiche_h3_send_response` and `quiche_h3_send_request`:
the JNI result and what the engine is handed (`none` when the `malloc` fails
and the engine is not called).  `answer` is what the engine returns.
-/
def sendHeaderList (oracle : Oracle) (streamId : Option Nat) (headers : List JString) (fin : Bool)
    (answer : Int) (heap : Heap) : Except Fault (Int × Option SentHeaders × Heap) := do
  let numHeaders := headers.length / 2
  let (h3Headers, heap) := malloc oracle (.slots (List.replicate (4 * numHeaders) none)) heap
  if h3Headers = 0 then pure (-1, none, heap)
  else do
    let heap ← fillHeaderArray oracle h3Headers headers 0 numHeaders heap
    let sent ← readHeaderArray h3Headers 0 numHeaders heap
    let heap ← releaseHeaderArray h3Headers headers 0 numHeaders heap
    let heap ← free h3Headers heap
    pure (answer, some ⟨streamId, sent, fin⟩, heap)

/-- `Java_..._quiche_1h3_1send_1response`; `rc` is what `quiche_h3_send_response` returns. -/
def quicheH3SendResponse (oracle : Oracle) (streamId : Int) (headers : List JString) (fin : Bool)
    (rc : Int) (heap : Heap) : Except Fault (Int × Option SentHeaders × Heap) :=
  sendHeaderList oracle (some (toUInt64 streamId)) headers fin rc heap

/-- `Java_..._quiche_1h3_1send_1request`; `streamId` is what `quiche_h3_send_request` returns. -/
def quicheH3SendRequest (oracle : Oracle) (headers : List JString) (fin : Bool) (streamId : Int)
    (heap : Heap) : Except Fault (Int × Option SentHeaders × Heap) :=
  sendHeaderList oracle none headers fin streamId heap

/-! ## The pairs of a flat array -/

/-- The pairs `(A[2i], A[2i + 1])` of a flat array, as byte strings; an odd last element is dropped. -/
def headerPairs : List JString → List Header
  | name :: value :: rest => ⟨name.utf, value.utf⟩ :: headerPairs rest
  | _ => []

/-- A flat array has half as many pairs as elements. -/
@[simp] theorem length_headerPairs : ∀ headers : List JString,
    (headerPairs headers).length = headers.length / 2
  | _ :: _ :: rest => by
      simp [headerPairs, length_headerPairs rest]
      omega
  | [] => rfl
  | [_] => by simp [headerPairs]

/-- Dropping the first pair of an even-length array leaves an even-length array. -/
theorem even_of_cons_cons {name value : JString} {rest : List JString}
    (even : (name :: value :: rest).length % 2 = 0) :
    rest.length % 2 = 0 := by
  simp only [List.length_cons] at even
  omega

/-- The pairs of an even-length prefix come first. -/
theorem headerPairs_append : ∀ {first : List JString} (second : List JString),
    first.length % 2 = 0 → headerPairs (first ++ second) = headerPairs first ++ headerPairs second
  | [], _, _ => rfl
  | [_], _, odd => nomatch odd
  | _ :: _ :: first, second, even => by
      rw [List.cons_append, List.cons_append, headerPairs, headerPairs,
        headerPairs_append second (even_of_cons_cons even), List.cons_append]

/-- Collecting the pairs of an even-length array gives back its strings. -/
theorem headerStrings_headerPairs (jvm : Jvm) : ∀ {headers : List JString}, headers.length % 2 = 0 →
    headerStrings jvm (headerPairs headers) = headers
  | [], _ => rfl
  | [_], odd => nomatch odd
  | name :: value :: rest, even => by
      have restStrings := headerStrings_headerPairs jvm (even_of_cons_cons even)
      unfold headerStrings at restStrings ⊢
      simp [headerPairs, restStrings]

/-! ## The header array while it is filled -/

/-- The four words of one `quiche_h3_header`: name pointer and length, value pointer and length. -/
def entryOf (cell : Nat × Nat) (header : Header) : List (Option Nat) :=
  [some cell.1, some header.name.length, some cell.2, some header.value.length]

/-- The entries for the copies `cells` of the pairs `done`. -/
def entriesOf (cells : List (Nat × Nat)) (done : List Header) : List (Option Nat) :=
  (List.zipWith entryOf cells done).flatten

@[simp] theorem entriesOf_nil : entriesOf [] [] = [] := rfl

@[simp] theorem entriesOf_cons {cell : Nat × Nat} {cells : List (Nat × Nat)} {header : Header}
    {done : List Header} :
    entriesOf (cell :: cells) (header :: done) = entryOf cell header ++ entriesOf cells done := rfl

/-- Entries of cells and pairs of equal length line up. -/
theorem entriesOf_append
    {cells more : List (Nat × Nat)} {done moreDone : List Header}
    (lengths : cells.length = done.length) :
    entriesOf (cells ++ more) (done ++ moreDone) = entriesOf cells done ++ entriesOf more moreDone := by
  simp [entriesOf, List.zipWith_append _ _ _ _ _ lengths]

/-- Four words per entry. -/
theorem length_entriesOf :
    ∀ {cells : List (Nat × Nat)} {done : List Header}, cells.length = done.length →
      (entriesOf cells done).length = 4 * cells.length
  | [], [], _ => rfl
  | _ :: _, _ :: _, lengths => by
      simp only [List.length_cons, Nat.add_right_cancel_iff] at lengths
      simp [entryOf, length_entriesOf lengths]
      omega

/-- The four words the loop stores, one after the other, fill the next unwritten entry. -/
theorem set_entry
    (filled rest : List (Option Nat)) (first second third fourth : Nat) :
    ((((filled ++ none :: none :: none :: none :: rest).set filled.length (some first)).set
      (filled.length + 1) (some second)).set (filled.length + 2) (some third)).set
        (filled.length + 3) (some fourth) =
      filled ++ [some first, some second, some third, some fourth] ++ rest := by
  simp [List.set_append_right]

/-- The header array after the pairs `done`, copied into `cells`, with `remaining` entries unwritten. -/
structure Fills (start : Heap) (h3Headers : Nat) (done : List Header) (cells : List (Nat × Nat))
    (remaining : Nat) (heap : Heap) : Prop where
  array_block : heap.blocks h3Headers =
    some (.slots (entriesOf cells done ++ List.replicate (4 * remaining) none))
  strings : List.Forall₂ (StringsAt heap) cells done
  owns : OwnsSince start heap (h3Headers :: stringsOf cells)

section Encoder

variable {oracle : Oracle} {start heap : Heap} {h3Headers : Nat} {done : List Header}
  {cells : List (Nat × Nat)}

/-- The fresh array of `numHeaders` entries starts the fill. -/
theorem fills_initial (start : Heap) (numHeaders : Nat) :
    Fills start start.next [] [] numHeaders
      ((start.alloc (.slots (List.replicate (4 * numHeaders) none))).tick) where
  array_block := by simp [Heap.tick]
  strings := .nil
  owns := by simpa [Heap.tick] using (OwnsSince.rfl_start.alloc _).tick

/--
The stores of entry `index` up to `strlen(value)`, on an array with room and
a name copied at `name`: the name pointer, its length and the value pointer
go into the array.
-/
theorem fillEntry_name_stores {α : Type} {entries : List (Option Nat)} {index name value : Nat}
    {bytes : List UInt8} (rest : Heap → Except Fault α)
    (arrayBlock : heap.blocks h3Headers = some (.slots entries)) (room : 4 * index + 2 < entries.length)
    (nameBlock : heap.blocks name = some (.chars (bytes ++ [0]))) (noZero : 0 ∉ bytes)
    (apart : name ≠ h3Headers) :
    (storeSlot h3Headers (4 * index) name heap >>= fun heap =>
      strlen name heap >>= fun nameLen =>
        storeSlot h3Headers (4 * index + 1) nameLen heap >>= fun heap =>
          storeSlot h3Headers (4 * index + 2) value heap >>= rest) =
      rest (heap.store h3Headers (.slots (((entries.set (4 * index) (some name)).set
        (4 * index + 1) (some bytes.length)).set (4 * index + 2) (some value))) (by simp [arrayBlock])) := by
  rw [storeSlot_of_lt entries arrayBlock (by omega), ok_bind,
    strlen_of_terminated (by simp [apart, nameBlock]) noZero, ok_bind,
    storeSlot_of_lt (entries.set (4 * index) (some name)) (by simp) (by simp; omega), ok_bind,
    storeSlot_of_lt ((entries.set (4 * index) (some name)).set (4 * index + 1) (some bytes.length))
      (by simp) (by simp; omega), ok_bind]
  simp only [Heap.store_store]

/--
One pass of the first loop in which both `GetStringUTFChars` calls succeed
copies the next pair into two fresh strings and writes its entry.
-/
theorem fillHeaderEntry_fills
    {remaining : Nat}
    (fills : Fills start h3Headers done cells (remaining + 1) heap)
    {headers : List JString} {name value : JString}
    (nameAt : headers[cells.length * 2]? = some name)
    (valueAt : headers[cells.length * 2 + 1]? = some value)
    (nameAllocated : oracle heap.calls ≠ .fail) (valueAllocated : oracle (heap.calls + 1) ≠ .fail) :
    ∃ heap', fillHeaderEntry oracle h3Headers headers cells.length heap = .ok heap' ∧
      heap'.calls = heap.calls + 2 ∧
      Fills start h3Headers (done ++ [⟨name.utf, value.utf⟩]) (cells ++ [(heap.next, heap.next + 1)])
        remaining heap' := by
  have arrayLt := fills.owns.lt_next (List.mem_cons_self _ _)
  have lengths := fills.strings.length_eq
  have filledLength := length_entriesOf lengths
  have unwritten : List.replicate (4 * (remaining + 1)) (none : Option Nat) =
      none :: none :: none :: none :: List.replicate (4 * remaining) none := by
    rw [show 4 * (remaining + 1) = 4 * remaining + 1 + 1 + 1 + 1 by omega]
    simp [List.replicate_succ]
  have arrayBlock := fills.array_block
  rw [unwritten] at arrayBlock
  have valueAllocated' : oracle ((heap.alloc (.chars (name.utf ++ [0]))).tick.calls) ≠ .fail := by
    simpa using valueAllocated
  simp only [fillHeaderEntry, getObjectArrayElement, nameAt, valueAt, ok_bind, getStringUTFChars,
    malloc_of_ne_fail _ nameAllocated, malloc_of_ne_fail _ valueAllocated', Heap.next_tick,
    Heap.next_alloc]
  generalize entries : entriesOf cells done ++
    none :: none :: none :: none :: List.replicate (4 * remaining) none = entries₀ at arrayBlock
  have room : 4 * cells.length + 3 < entries₀.length := by
    rw [← entries]
    simp [filledLength]
  have arrayBlock₂ : ((heap.alloc (.chars (name.utf ++ [0]))).tick.alloc
      (.chars (value.utf ++ [0]))).tick.blocks h3Headers = some (.slots entries₀) := by
    simp [show h3Headers ≠ heap.next by omega, show h3Headers ≠ heap.next + 1 by omega, arrayBlock]
  rw [fillEntry_name_stores _ arrayBlock₂ (by omega) (by simp) name.no_zero (by omega),
    strlen_of_terminated (by simp [show heap.next + 1 ≠ h3Headers by omega]) value.no_zero, ok_bind,
    storeSlot_of_lt (((entries₀.set (4 * cells.length) (some heap.next)).set (4 * cells.length + 1)
      (some name.utf.length)).set (4 * cells.length + 2) (some (heap.next + 1))) (by simp)
      (by simp; omega)]
  refine ⟨_, rfl, by simp, ?_, ?_, ?_⟩
  · subst entries
    simp only [Heap.blocks_store, if_pos, ← filledLength, set_entry, entriesOf_append lengths]
    simp [entryOf, entriesOf]
  · have distinct := fills.owns.nodup
    simp only [List.nodup_cons] at distinct
    refine List.rel_append (forall₂_stringsAt_of_eq fills.strings fun address member => ?_)
      (.cons ⟨by simp [show heap.next ≠ h3Headers by omega, cStringOf],
        by simp [show heap.next + 1 ≠ h3Headers by omega, cStringOf]⟩ .nil)
    have below := fills.owns.lt_next (List.mem_cons_of_mem _ member)
    have notArray : address ≠ h3Headers := fun same => distinct.1 (same ▸ member)
    simp [notArray, show address ≠ heap.next by omega, show address ≠ heap.next + 1 by omega]
  · refine (((((fills.owns.alloc _).tick.alloc _).tick.store _ (by simp)).store _
      (by simp))).perm (List.Perm.of_eq ?_)
    simp

/--
One pass of the first loop in which a `GetStringUTFChars` call fails: the
`NULL` it returned reaches `strlen`.
-/
theorem fillHeaderEntry_of_fail
    {remaining : Nat}
    (fills : Fills start h3Headers done cells (remaining + 1) heap)
    {headers : List JString} {name value : JString}
    (nameAt : headers[cells.length * 2]? = some name)
    (valueAt : headers[cells.length * 2 + 1]? = some value)
    (failed : oracle heap.calls = .fail ∨ oracle (heap.calls + 1) = .fail) :
    fillHeaderEntry oracle h3Headers headers cells.length heap = .error (.invalidAccess 0) := by
  have arrayLt := fills.owns.lt_next (List.mem_cons_self _ _)
  have room : 4 * cells.length + 3 <
      (entriesOf cells done ++ List.replicate (4 * (remaining + 1)) none).length := by
    simp [length_entriesOf fills.strings.length_eq]
    omega
  by_cases nameFailed : oracle heap.calls = .fail
  · have arrayBlock : (malloc oracle (.chars (value.utf ++ [0])) heap.tick).2.blocks h3Headers =
        some (.slots (entriesOf cells done ++ List.replicate (4 * (remaining + 1)) none)) := by
      rw [blocks_malloc_of_lt _ _ (by simpa using arrayLt)]
      simpa using fills.array_block
    simp only [fillHeaderEntry, getObjectArrayElement, nameAt, valueAt, ok_bind, getStringUTFChars,
      malloc_of_fail nameFailed]
    rw [storeSlot_of_lt _ arrayBlock (by omega), ok_bind, strlen_null, error_bind]
  · have valueFailed : oracle ((heap.alloc (.chars (name.utf ++ [0]))).tick.calls) = .fail := by
      simpa using failed.resolve_left nameFailed
    have arrayBlock : (heap.alloc (.chars (name.utf ++ [0]))).tick.tick.blocks h3Headers =
        some (.slots (entriesOf cells done ++ List.replicate (4 * (remaining + 1)) none)) := by
      simpa [show h3Headers ≠ heap.next by omega] using fills.array_block
    simp only [fillHeaderEntry, getObjectArrayElement, nameAt, valueAt, ok_bind, getStringUTFChars,
      malloc_of_ne_fail _ nameFailed, malloc_of_fail valueFailed]
    rw [fillEntry_name_stores _ arrayBlock (by omega) (by simp) name.no_zero (by omega), strlen_null,
      error_bind]

/-- The pair after an even-length prefix sits at twice the number of its pairs. -/
theorem pairAt {headers before rest : List JString} {name value : JString} {filled : Nat}
    (split : headers = before ++ name :: value :: rest) (filledEq : filled = before.length / 2)
    (even : before.length % 2 = 0) :
    headers[filled * 2]? = some name ∧ headers[filled * 2 + 1]? = some value := by
  subst split filledEq
  constructor <;> rw [List.getElem?_append_right (by omega)]
  · simp [show before.length / 2 * 2 - before.length = 0 by omega]
  · simp [show before.length / 2 * 2 + 1 - before.length = 1 by omega]

/--
The first loop over the pairs still to fill: with every `GetStringUTFChars`
call succeeding it copies every pair of the array, in order; with one
failing it faults at the `strlen` of the `NULL` that call returned.
-/
theorem fillHeaderArray_outcome
    (headers : List JString) :
    ∀ (rest before : List JString) (cells : List (Nat × Nat)) (heap : Heap),
      headers = before ++ rest → before.length % 2 = 0 →
      Fills start h3Headers (headerPairs before) cells (rest.length / 2) heap →
      ((∀ k < 2 * (rest.length / 2), oracle (heap.calls + k) ≠ .fail) →
        ∃ cells' heap', fillHeaderArray oracle h3Headers headers (before.length / 2)
            (rest.length / 2) heap = .ok heap' ∧
          Fills start h3Headers (headerPairs headers) cells' 0 heap') ∧
      ((∃ k < 2 * (rest.length / 2), oracle (heap.calls + k) = .fail) →
        fillHeaderArray oracle h3Headers headers (before.length / 2) (rest.length / 2) heap =
          .error (.invalidAccess 0))
  | [], before, cells, heap, split, _, fills =>
      ⟨fun _ => ⟨cells, heap, rfl, by simpa [split] using fills⟩,
        fun ⟨_, bound, _⟩ => absurd bound (by simp)⟩
  | [last], before, cells, heap, split, even, fills =>
      ⟨fun _ => ⟨cells, heap, by simp [fillHeaderArray],
          by simpa [split, headerPairs_append _ even, headerPairs] using fills⟩,
        fun ⟨_, bound, _⟩ => absurd bound (by simp)⟩
  | name :: value :: rest, before, cells, heap, split, even, fills => by
      have cellsLength : cells.length = before.length / 2 := by
        rw [fills.strings.length_eq, length_headerPairs]
      obtain ⟨nameAt, valueAt⟩ := pairAt split cellsLength even
      have remaining : (name :: value :: rest).length / 2 = rest.length / 2 + 1 := by
        simp only [List.length_cons]
        omega
      rw [remaining] at fills ⊢
      rw [fillHeaderArray, ← cellsLength]
      by_cases entryOk : oracle heap.calls ≠ .fail ∧ oracle (heap.calls + 1) ≠ .fail
      · obtain ⟨heap₁, entry, calls₁, fills₁⟩ :=
          fillHeaderEntry_fills fills nameAt valueAt entryOk.1 entryOk.2
        have pairs : headerPairs before ++ [⟨name.utf, value.utf⟩] =
            headerPairs (before ++ [name, value]) := by
          simp [headerPairs_append _ even, headerPairs]
        rw [pairs] at fills₁
        have next := fillHeaderArray_outcome headers rest (before ++ [name, value]) _ heap₁
          (by simp [split]) (by simp; omega) fills₁
        rw [show (before ++ [name, value]).length / 2 = cells.length + 1 by simp; omega, calls₁] at next
        rw [entry, ok_bind]
        refine ⟨fun succeeds => next.1 fun k bound => ?_, fun ⟨k, bound, failed⟩ => next.2 ?_⟩
        · rw [Nat.add_assoc]
          exact succeeds (2 + k) (by omega)
        · have later : 2 ≤ k := by
            rcases k with _ | _ | k
            · exact absurd failed entryOk.1
            · exact absurd failed entryOk.2
            · omega
          exact ⟨k - 2, by omega, by rwa [Nat.add_assoc, Nat.add_sub_cancel' later]⟩
      · have failed : oracle heap.calls = .fail ∨ oracle (heap.calls + 1) = .fail := by tauto
        rw [fillHeaderEntry_of_fail fills nameAt valueAt failed, error_bind]
        exact ⟨fun succeeds => failed.elim (succeeds 0 (by omega)) (succeeds 1 (by omega)) |>.elim,
          fun _ => rfl⟩

/-- The words of the entry after `before`, as the engine and the release loop read them. -/
theorem getElem?_entry
    {before : List (Option Nat)} {index : Nat}
    (beforeLength : before.length = 4 * index)
    (cell : Nat × Nat) (header : Header) (rest : List (Option Nat)) :
    (before ++ (entryOf cell header ++ rest))[4 * index]? = some (some cell.1) ∧
      (before ++ (entryOf cell header ++ rest))[4 * index + 1]? = some (some header.name.length) ∧
      (before ++ (entryOf cell header ++ rest))[4 * index + 2]? = some (some cell.2) ∧
      (before ++ (entryOf cell header ++ rest))[4 * index + 3]? = some (some header.value.length) := by
  rw [← beforeLength]
  refine ⟨?_, ?_, ?_, ?_⟩ <;> rw [List.getElem?_append_right (by omega)] <;> simp [entryOf]

/-- The engine reads back exactly the pairs whose copies the entries point to. -/
theorem readHeaderArray_filled
    (strings : List.Forall₂ (StringsAt heap) cells done) :
    ∀ (before : List (Option Nat)) (index : Nat),
      heap.blocks h3Headers = some (.slots (before ++ entriesOf cells done)) →
      before.length = 4 * index →
      readHeaderArray h3Headers index cells.length heap = .ok done := by
  induction strings with
  | nil =>
      intro _ _ _ _
      rfl
  | @cons cell header cells done atCell _ inductionHypothesis =>
      intro before index arrayBlock beforeLength
      obtain ⟨nameSlot, nameLenSlot, valueSlot, valueLenSlot⟩ :=
        getElem?_entry beforeLength cell header (entriesOf cells done)
      rw [entriesOf_cons] at arrayBlock
      have rest := inductionHypothesis (before ++ entryOf cell header) (index + 1)
        (by rw [arrayBlock, List.append_assoc]) (by simp [beforeLength, entryOf]; omega)
      simp only [readHeaderArray, readHeaderEntry, ok_bind,
        loadSlot_of_getElem? _ arrayBlock nameSlot, loadSlot_of_getElem? _ arrayBlock nameLenSlot,
        loadSlot_of_getElem? _ arrayBlock valueSlot, loadSlot_of_getElem? _ arrayBlock valueLenSlot,
        loadBytes_of_prefix atCell.1, loadBytes_of_prefix atCell.2, List.length_cons, rest]
      rfl

/-- The release loop gives every copied string back exactly once and leaves only the array owned. -/
theorem releaseHeaderArray_filled
    (headers : List JString) :
    ∀ (cells : List (Nat × Nat)) (done : List Header) (before : List (Option Nat)) (index : Nat)
      (heap : Heap),
      heap.blocks h3Headers = some (.slots (before ++ entriesOf cells done)) →
      before.length = 4 * index →
      cells.length = done.length →
      2 * (index + cells.length) ≤ headers.length →
      OwnsSince start heap (h3Headers :: stringsOf cells) →
      ∃ heap', releaseHeaderArray h3Headers headers index cells.length heap = .ok heap' ∧
        OwnsSince start heap' [h3Headers]
  | [], _, _, _, heap, _, _, _, _, owns =>
      ⟨heap, rfl, owns⟩
  | _ :: _, [], _, _, _, _, _, lengths, _, _ =>
      nomatch lengths
  | cell :: cells, header :: done, before, index, heap, arrayBlock, beforeLength, lengths, inRange,
      owns => by
      obtain ⟨nameSlot, _, valueSlot, _⟩ := getElem?_entry beforeLength cell header (entriesOf cells done)
      rw [entriesOf_cons] at arrayBlock
      have distinct := owns.nodup
      simp only [List.nodup_cons, List.mem_cons, stringsOf_cons, not_or] at distinct
      have nameMember : cell.1 ∈ h3Headers :: stringsOf (cell :: cells) := by simp
      have owns₁ := owns.erase nameMember
      have valueMember : cell.2 ∈ (h3Headers :: stringsOf (cell :: cells)).erase cell.1 := by
        simp [List.erase_cons, distinct.1.1]
      have owns₂ := owns₁.erase valueMember
      rw [show ((h3Headers :: stringsOf (cell :: cells)).erase cell.1).erase cell.2 =
          h3Headers :: stringsOf cells by
        simp [List.erase_cons, distinct.1.1, distinct.1.2.1]] at owns₂
      have arrayKept : ((heap.erase cell.1).erase cell.2).blocks h3Headers =
          some (.slots ((before ++ entryOf cell header) ++ entriesOf cells done)) := by
        simp [distinct.1.1, distinct.1.2.1, arrayBlock]
      obtain ⟨heap', loop, owns'⟩ :=
        releaseHeaderArray_filled headers cells done (before ++ entryOf cell header) (index + 1) _
          arrayKept (by simp [beforeLength, entryOf]; omega) (Nat.succ.inj lengths)
          (by simp only [List.length_cons] at inRange; omega) owns₂
      simp only [List.length_cons] at inRange
      refine ⟨heap', ?_, owns'⟩
      simp only [releaseHeaderArray, releaseHeaderEntry, List.length_cons,
        getObjectArrayElement_of_lt (show index * 2 < headers.length by omega),
        getObjectArrayElement_of_lt (show index * 2 + 1 < headers.length by omega), ok_bind,
        loadSlot_of_getElem? _ arrayBlock nameSlot, releaseStringUTFChars,
        free_of_live (owns.live _ nameMember),
        loadSlot_of_getElem? _ (show (heap.erase cell.1).blocks h3Headers = _ by
          simp [distinct.1.1, arrayBlock]) valueSlot,
        free_of_live (owns₁.live _ valueMember), loop]

/--
With the array's `malloc` and every `GetStringUTFChars` call succeeding, the
shared body of `quiche_h3_send_response` and `quiche_h3_send_request` hands
the engine exactly the pairs of the flat array, with their full encoded
lengths, and frees every block it allocated.
-/
theorem sendHeaderList_of_succeeds
    (streamId : Option Nat) (headers : List JString) (fin : Bool) (answer : Int) (heap : Heap)
    (arrayAllocated : oracle heap.calls ≠ .fail)
    (acquired : ∀ k < 2 * (headers.length / 2), oracle (heap.calls + 1 + k) ≠ .fail) :
    ∃ heap', sendHeaderList oracle streamId headers fin answer heap =
        .ok (answer, some ⟨streamId, headerPairs headers, fin⟩, heap') ∧
      heap'.blocks = heap.blocks := by
  obtain ⟨cells, heap₁, fill, fills⟩ := (fillHeaderArray_outcome headers headers [] [] _ rfl rfl
    (fills_initial heap (headers.length / 2))).1 fun k bound => by simpa using acquired k bound
  have lengths := fills.strings.length_eq
  have cellsLength : cells.length = headers.length / 2 := by rw [lengths, length_headerPairs]
  have arrayBlock := fills.array_block
  simp only [List.replicate, Nat.mul_zero, List.append_nil] at arrayBlock
  have read := readHeaderArray_filled fills.strings [] 0 arrayBlock rfl
  obtain ⟨heap₂, release, owns₂⟩ := releaseHeaderArray_filled headers cells _ [] 0 heap₁ arrayBlock rfl
    lengths (by omega) fills.owns
  have owns₃ := owns₂.erase (List.mem_singleton_self _)
  rw [List.erase_cons_head] at owns₃
  refine ⟨_, ?_, owns₃.blocks_eq_of_nil⟩
  have nextPos := heap.next_pos
  simp only [List.length_nil, Nat.zero_div, ← cellsLength] at fill
  simp only [sendHeaderList, malloc_of_ne_fail _ arrayAllocated, if_neg (show heap.next ≠ 0 by omega),
    fill, ok_bind, ← cellsLength, read, release, free_of_live (owns₂.live _ (List.mem_singleton_self _))]
  rfl

/-- With no allocation failing, the shared body hands over every pair and frees all it allocated. -/
theorem sendHeaderList_of_neverFails
    (neverFails : oracle.NeverFails)
    (streamId : Option Nat) (headers : List JString) (fin : Bool) (answer : Int) (heap : Heap) :
    ∃ heap', sendHeaderList oracle streamId headers fin answer heap =
        .ok (answer, some ⟨streamId, headerPairs headers, fin⟩, heap') ∧
      heap'.blocks = heap.blocks :=
  sendHeaderList_of_succeeds streamId headers fin answer heap (neverFails _) fun _ _ => neverFails _

/-- A failed `GetStringUTFChars` in the shared body ends at `strlen(NULL)`. -/
theorem sendHeaderList_of_failed_acquisition
    (streamId : Option Nat) (headers : List JString) (fin : Bool) (answer : Int) (heap : Heap)
    (arrayAllocated : oracle heap.calls ≠ .fail)
    (failed : ∃ k < 2 * (headers.length / 2), oracle (heap.calls + 1 + k) = .fail) :
    sendHeaderList oracle streamId headers fin answer heap = .error (.invalidAccess 0) := by
  have fill := (fillHeaderArray_outcome headers headers [] [] _ rfl rfl
    (fills_initial heap (headers.length / 2))).2 (by simpa [Nat.add_assoc] using failed)
  have nextPos := heap.next_pos
  simp only [List.length_nil, Nat.zero_div] at fill
  simp only [sendHeaderList, malloc_of_ne_fail _ arrayAllocated, if_neg (show heap.next ≠ 0 by omega),
    fill, error_bind]

end Encoder

/-! ## Every allocation outcome -/

/--
For every flat array of Java strings, every outcome of the array's `malloc`
and every outcome of each `GetStringUTFChars` call, the shared body of
`quiche_h3_send_response` and `quiche_h3_send_request` returns -1 having
acquired nothing when the `malloc` fails; faults at `strlen(NULL)` when any
acquisition fails, before the engine is called and before anything is
released or freed; and otherwise hands the engine every pair, releases
every string it acquired and frees the array, leaving the heap's blocks as
it found them.
-/
theorem sendHeaderList_acquisition_outcomes (oracle : Oracle) (streamId : Option Nat)
    (headers : List JString) (fin : Bool) (answer : Int) (heap : Heap) :
    (oracle heap.calls = .fail →
      sendHeaderList oracle streamId headers fin answer heap = .ok (-1, none, heap.tick)) ∧
    (oracle heap.calls ≠ .fail →
      (∃ k < 2 * (headers.length / 2), oracle (heap.calls + 1 + k) = .fail) →
      sendHeaderList oracle streamId headers fin answer heap = .error (.invalidAccess 0)) ∧
    (oracle heap.calls ≠ .fail →
      (∀ k < 2 * (headers.length / 2), oracle (heap.calls + 1 + k) ≠ .fail) →
      ∃ heap', sendHeaderList oracle streamId headers fin answer heap =
          .ok (answer, some ⟨streamId, headerPairs headers, fin⟩, heap') ∧
        heap'.blocks = heap.blocks) :=
  ⟨fun failed => by simp [sendHeaderList, malloc_of_fail failed],
    sendHeaderList_of_failed_acquisition streamId headers fin answer heap,
    sendHeaderList_of_succeeds streamId headers fin answer heap⟩

/-- `["h", "i"]` with the name's `GetStringUTFChars` (allocation call 1) failing. -/
example :
    sendHeaderList (fun call => if call = 1 then .fail else .moved) none
      [⟨[104], by decide⟩, ⟨[105], by decide⟩] true 0 Heap.empty = .error (.invalidAccess 0) := rfl

/-! ## The codec -/

/--
The header list codec, with no allocation failing and whatever the JVM makes
of bytes that are not modified UTF-8.  A Headers event of fewer than
`2 ^ 30` headers is collected into the flat array of the strings
`NewStringUTF` makes of its names and values, each cut at its first zero
byte, in order, and of exactly those bytes when they are modified UTF-8;
`quiche_h3_send_response` and `quiche_h3_send_request` hand the engine the
pairs of every flat array, with their full encoded lengths; and collecting
what they hand over for an even-length Java array gives back that array.
Every call frees all it allocated.
-/
theorem headerCodec_round_trip (jvm : Jvm) {oracle : Oracle} (neverFails : oracle.NeverFails) (heap : Heap) :
    (∀ list : List Header, list.length < 2 ^ 30 →
      ∃ heap', collectHeaders jvm oracle (.headers list) heap =
        .ok (some ((headerStrings jvm list).map some), heap') ∧ heap'.blocks = heap.blocks) ∧
    (∀ list : List Header, list.length < 2 ^ 30 →
      (∀ header ∈ list, ModifiedUtf8 header.name ∧ ModifiedUtf8 header.value) →
      ∃ elements heap', collectHeaders jvm oracle (.headers list) heap = .ok (some elements, heap') ∧
        elements.map (Option.map JString.utf) = (list.flatMap fun header => [header.name, header.value]).map some) ∧
    (∀ array streamId fin rc, ∃ heap', quicheH3SendResponse oracle streamId array fin rc heap =
      .ok (rc, some ⟨some (toUInt64 streamId), headerPairs array, fin⟩, heap') ∧
      heap'.blocks = heap.blocks) ∧
    (∀ array fin streamId, ∃ heap', quicheH3SendRequest oracle array fin streamId heap =
      .ok (streamId, some ⟨none, headerPairs array, fin⟩, heap') ∧ heap'.blocks = heap.blocks) ∧
    ∀ array : List JString, array.length % 2 = 0 → array.length < 2 ^ 31 →
      ∃ heap', collectHeaders jvm oracle (.headers (headerPairs array)) heap =
        .ok (some (array.map some), heap') ∧ heap'.blocks = heap.blocks := by
  refine ⟨fun _ small => collectHeaders_of_neverFails_headerStrings jvm neverFails small heap,
    fun list small valid => ?_,
    fun array streamId fin rc => sendHeaderList_of_neverFails neverFails (some (toUInt64 streamId)) array fin rc heap,
    fun array fin streamId => sendHeaderList_of_neverFails neverFails none array fin streamId heap,
    fun array even javaLength => ?_⟩
  · obtain ⟨heap', returned, -⟩ := collectHeaders_of_neverFails_headerStrings jvm neverFails small heap
    refine ⟨_, heap', returned, ?_⟩
    rw [List.map_map, ← headerStrings_of_modifiedUtf8 jvm valid, List.map_map]
    rfl
  · have pairs := collectHeaders_of_neverFails_headerStrings jvm neverFails
      (show (headerPairs array).length < 2 ^ 30 by rw [length_headerPairs]; omega) heap
    rwa [headerStrings_headerPairs jvm even] at pairs

/-- The codec at the array `["h", "i"]`. -/
theorem headerCodec_round_trip_one_pair :
    (Oracle.NeverFails fun _ => .moved) ∧
    ∃ heap', collectHeaders Jvm.emptyOnInvalid (fun _ => .moved)
        (.headers (headerPairs [⟨[104], by decide⟩, ⟨[105], by decide⟩])) Heap.empty =
      .ok (some ([⟨[104], by decide⟩, ⟨[105], by decide⟩].map some), heap') ∧
      heap'.blocks = Heap.empty.blocks :=
  ⟨fun _ isFail => AllocOutcome.noConfusion isFail,
    (headerCodec_round_trip Jvm.emptyOnInvalid (fun _ isFail => AllocOutcome.noConfusion isFail)
      Heap.empty).2.2.2.2 [⟨[104], by decide⟩, ⟨[105], by decide⟩] (by decide) (by decide)⟩

end Gumdrop
