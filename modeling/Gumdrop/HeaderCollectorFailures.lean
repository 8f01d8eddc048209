import Gumdrop.HeaderCollectorInvariant

namespace Gumdrop

/-!
# Header collection when allocations fail

`quiche_h3_event_headers` has an error path for every allocation it makes:
the two 32-slot arrays, the two string copies of each header, the two
`realloc`s of each growth, the `String[]` and each of its strings.  This
module follows all of them under every allocation outcome.  All but one give
the heap back.  When the two `realloc`s of a growth disagree, `header_cb`
frees the block the successful one returned and returns -1 with the
collector still pointing at a freed array, and the cleanup reads it.
`Dangling` names that state: the collection faults exactly when its walk
ends there, which takes more than 32 headers.
-/

/-- The strings of the flat array `[name0, value0, name1, value1, ...]`, before the JVM allocates them. -/
def headerStrings (jvm : Jvm) (headers : List Header) : List JString :=
  headers.flatMap fun header => [truncatedString jvm header.name, truncatedString jvm header.value]

/-- Headers whose names and values are modified UTF-8 give strings with exactly their bytes. -/
theorem headerStrings_of_modifiedUtf8 (jvm : Jvm) {headers : List Header}
    (valid : ∀ header ∈ headers, ModifiedUtf8 header.name ∧ ModifiedUtf8 header.value) :
    (headerStrings jvm headers).map JString.utf = headers.flatMap fun header => [header.name, header.value] := by
  unfold headerStrings
  induction headers with
  | nil =>
      rfl
  | cons header rest inductionHypothesis =>
      obtain ⟨name, value⟩ := valid header (List.mem_cons_self _ _)
      simp only [List.flatMap_cons, List.map_append, List.map_cons, List.map_nil,
        utf_truncatedString name, utf_truncatedString value,
        inductionHypothesis fun other member => valid other (List.mem_cons_of_mem _ member)]

/--
The collector after a growth whose two `realloc`s disagreed: one of its
arrays is freed, and the cleanup still has slot 0 of both to read.
-/
def Dangling (hc : HeaderCollector) (heap : Heap) : Prop :=
  32 ≤ hc.count ∧ (heap.blocks hc.names = none ∨ heap.blocks hc.values = none)

/-- Both 32-slot `malloc`s succeeded, and the walk stopped in a half-failed growth. -/
def EndsDangling (oracle : Oracle) (list : List Header) (heap : Heap) : Prop :=
  oracle heap.calls ≠ .fail ∧ oracle (heap.calls + 1) ≠ .fail ∧
    ∃ rc hc heap', forEachHeaderList (headerCb oracle) list (initialCollector heap) =
      .ok (rc, hc, heap') ∧ rc ≠ 0 ∧ Dangling hc heap'

/-- `NewStringUTF` reads a copied name or value up to its first zero byte. -/
theorem newStringUTF_cStringOf {jvm : Jvm} {oracle : Oracle} {heap : Heap} {address : Nat}
    {bytes : List UInt8} (found : heap.blocks address = some (cStringOf bytes)) :
    newStringUTF jvm oracle address heap =
      .ok (allocatedString oracle heap.calls (truncatedString jvm bytes), heap.tick) := by
  have prefixOf : (bytes ++ [0]).takeWhile (· ≠ 0) = bytes.takeWhile (· ≠ 0) := by
    rw [List.takeWhile_append]
    split
    next whole => simpa using ((List.takeWhile_prefix _).eq_of_length whole).symm
    next => rfl
  have same : truncatedString jvm (bytes ++ [0]) = truncatedString jvm bytes := by
    rw [truncatedString, truncatedString, prefixOf]
  rw [newStringUTF_eq, ← same]
  simp only [loadCString, found, cStringOf,
    if_pos (List.mem_append_right bytes (List.mem_singleton_self (0 : UInt8))), map_ok]
  rfl

section Steps

variable (oracle : Oracle) {start heap : Heap} {done : List Header}
  {hc : HeaderCollector} {cells : List (Nat × Nat)}

/-- The invariant depends on the heap's blocks only, as long as the next address has not gone back. -/
theorem Collects.of_blocks_eq
    (collects : Collects start done hc cells heap)
    {heap' : Heap}
    (sameBlocks : heap'.blocks = heap.blocks)
    (later : heap.next ≤ heap'.next) :
    Collects start done hc cells heap' where
  count_eq := collects.count_eq
  count_le := collects.count_le
  capacity_pow := collects.capacity_pow
  names_block := sameBlocks ▸ collects.names_block
  values_block := sameBlocks ▸ collects.values_block
  strings := forall₂_stringsAt_of_eq collects.strings fun address _ => congrFun sameBlocks address
  owns := collects.owns.of_blocks_eq sameBlocks later

/-- A collector that keeps the invariant has both arrays live. -/
theorem Collects.not_dangling
    (collects : Collects start done hc cells heap) :
    ¬ Dangling hc heap := by
  rintro ⟨-, dead | dead⟩
  · simp [collects.names_block] at dead
  · simp [collects.values_block] at dead

/--
A growth in which a `realloc` fails returns -1.  When both fail the
collector is intact; when only one fails, the block the other returned has
been freed, and with it the array the collector still points at.
-/
theorem headerCbGrow_of_failed
    (collects : Collects start done hc cells heap)
    (small : hc.count < 2 ^ 30)
    (full : hc.count ≥ hc.capacity)
    (failed : oracle heap.calls = .fail ∨ oracle (heap.calls + 1) = .fail) :
    ∃ heap', headerCbGrow oracle hc heap = .ok (none, heap') ∧
      (Collects start done hc cells heap' ∨ Dangling hc heap') := by
  have sameCap : hc.count = hc.capacity := Nat.le_antisymm collects.count_le full
  have fits : hc.capacity * 2 ≤ intMax := by
    simp only [intMax]
    omega
  have least : 32 ≤ hc.count := by
    obtain ⟨growths, powEq⟩ := collects.capacity_pow
    rw [sameCap, powEq]
    exact Nat.le_mul_of_pos_right 32 (Nat.two_pow_pos growths)
  have distinct := collects.owns.nodup
  simp only [List.nodup_cons, List.mem_cons, not_or] at distinct
  have valuesBlock : heap.tick.blocks hc.values = _ := collects.values_block
  by_cases namesFailed : oracle heap.calls = .fail
  case pos =>
    by_cases valuesFailed : oracle (heap.calls + 1) = .fail
    case pos =>
      refine ⟨heap.tick.tick, ?_, .inl (collects.of_blocks_eq rfl (Nat.le_refl _))⟩
      simp [headerCbGrow, full, intTimesTwo_of_le fits, realloc_of_fail collects.names_block namesFailed,
        realloc_of_fail valuesBlock (show oracle heap.tick.calls = .fail from valuesFailed)]
    case neg =>
      obtain ⟨newValues, heap₂, reallocValues, -, -, -, owns₂⟩ :=
        collects.owns.tick.realloc_ok (hc.capacity * 2) valuesBlock (List.Perm.swap _ _ _) valuesFailed
      refine ⟨heap₂.erase newValues, ?_, .inr ⟨least, .inr ?_⟩⟩
      · simp [headerCbGrow, full, intTimesTwo_of_le fits, realloc_of_fail collects.names_block namesFailed,
          reallocValues, free_of_live (owns₂.live newValues (List.mem_cons_self _ _))]
      · refine (owns₂.erase (List.mem_cons_self _ _)).dead (collects.owns.fresh _ (by simp)) ?_
        simpa using And.intro (Ne.symm distinct.1.1) distinct.2.1
  case neg =>
    obtain ⟨newNames, heap₁, reallocNames, -, calls₁, frame₁, owns₁⟩ :=
      collects.owns.realloc_ok (hc.capacity * 2) collects.names_block (List.Perm.refl _) namesFailed
    have distinct₁ := owns₁.nodup
    simp only [List.nodup_cons, List.mem_cons, not_or] at distinct₁
    have valuesBlock₁ : heap₁.blocks hc.values = _ :=
      (frame₁ hc.values (Ne.symm distinct.1.1) (Ne.symm distinct₁.1.1)).trans collects.values_block
    have valuesFailed : oracle heap₁.calls = .fail := by
      simpa [calls₁, namesFailed] using failed
    refine ⟨heap₁.tick.erase newNames, ?_, .inr ⟨least, .inl ?_⟩⟩
    · simp [headerCbGrow, full, intTimesTwo_of_le fits, reallocNames, realloc_of_fail valuesBlock₁ valuesFailed,
        free_of_live (show heap₁.tick.blocks newNames ≠ none from owns₁.live newNames (List.mem_cons_self _ _))]
    · refine (owns₁.tick.erase (List.mem_cons_self _ _)).dead
        (collects.owns.fresh _ (List.mem_cons_self _ _)) ?_
      simpa using And.intro distinct.1.1 distinct.1.2

/-- The growth step under every allocation outcome: grown arrays, or -1 from a failed `realloc`. -/
theorem headerCbGrow_cases
    (collects : Collects start done hc cells heap)
    (small : hc.count < 2 ^ 30) :
    ∃ result heap', headerCbGrow oracle hc heap = .ok (result, heap') ∧
      ((∃ grown, result = some grown ∧ grown.count = hc.count ∧ hc.count < grown.capacity ∧
          Collects start done grown cells heap') ∨
        (result = none ∧ (Collects start done hc cells heap' ∨ Dangling hc heap'))) := by
  by_cases halted : hc.count ≥ hc.capacity ∧ (oracle heap.calls = .fail ∨ oracle (heap.calls + 1) = .fail)
  · obtain ⟨heap', grew, outcome⟩ := headerCbGrow_of_failed oracle collects small halted.1 halted.2
    exact ⟨none, heap', grew, .inr ⟨rfl, outcome⟩⟩
  · obtain ⟨grown, heap', grew, sameCount, room, -, collects'⟩ :=
      headerCbGrow_collects collects small fun full => not_or.mp (not_and.mp halted full)
    exact ⟨some grown, heap', grew, .inl ⟨grown, rfl, sameCount, room, collects'⟩⟩

/-- A copy step in which a `malloc` fails frees what it got and returns -1 with the collector intact. -/
theorem headerCbStore_of_failed
    (collects : Collects start done hc cells heap)
    (header : Header)
    (failed : oracle heap.calls = .fail ∨ oracle (heap.calls + 1) = .fail) :
    ∃ heap', headerCbStore oracle header hc heap = .ok (-1, hc, heap') ∧
      Collects start done hc cells heap' := by
  unfold headerCbStore
  generalize nameCall : malloc oracle (.chars (List.replicate (header.name.length + 1) 0)) heap = first
  obtain ⟨n, heap₁⟩ := first
  dsimp only
  generalize valueCall : malloc oracle (.chars (List.replicate (header.value.length + 1) 0)) heap₁ = second
  obtain ⟨v, heap₂⟩ := second
  dsimp only
  obtain ⟨null, heap', sameBlocks, later, freed⟩ := free_mallocPair_of_failed failed nameCall valueCall
  exact ⟨heap', by simp only [if_pos null, freed, pure_eq_ok], collects.of_blocks_eq sameBlocks later⟩

/--
One `header_cb` call under every allocation outcome: 0 with the invariant
one header further, or -1 with the count unchanged and either the invariant
kept or the collector left dangling by a half-failed growth.
-/
theorem headerCb_cases
    (collects : Collects start done hc cells heap)
    (small : hc.count < 2 ^ 30)
    (header : Header) :
    ∃ rc hc' heap', headerCb oracle header (hc, heap) = .ok (rc, hc', heap') ∧
      ((rc = 0 ∧ ∃ cells', Collects start (done ++ [header]) hc' cells' heap') ∨
        (rc ≠ 0 ∧ hc'.count = hc.count ∧ (Collects start done hc' cells heap' ∨ Dangling hc' heap'))) := by
  obtain ⟨result, heap₁, grew, ⟨grown, rfl, sameCount, room, collects₁⟩ | ⟨rfl, outcome⟩⟩ :=
    headerCbGrow_cases oracle collects small
  · by_cases failed : oracle heap₁.calls = .fail ∨ oracle (heap₁.calls + 1) = .fail
    · obtain ⟨heap₂, stored, collects₂⟩ := headerCbStore_of_failed oracle collects₁ header failed
      exact ⟨-1, grown, heap₂, by simp [headerCb, grew, stored], .inr ⟨by decide, sameCount, .inl collects₂⟩⟩
    · obtain ⟨heap₂, stored, collects₂⟩ :=
        headerCbStore_collects collects₁ (sameCount ▸ room) header (not_or.mp failed).1 (not_or.mp failed).2
      exact ⟨0, _, heap₂, by simp [headerCb, grew, stored], .inl ⟨rfl, _, collects₂⟩⟩
  · exact ⟨-1, hc, heap₁, by simp [headerCb, grew], .inr ⟨by decide, rfl, outcome⟩⟩

/--
The engine's walk under every allocation outcome: every `header_cb` call
returned 0 and the invariant covers all headers, or a call returned -1 on a
collector that keeps the invariant or dangles, with fewer entries than the
headers walked.
-/
theorem forEachHeaderList_cases :
    ∀ (rest done : List Header) (hc : HeaderCollector) (cells : List (Nat × Nat)) (heap : Heap),
      Collects start done hc cells heap → done.length + rest.length < 2 ^ 30 →
      ∃ rc hc' heap', forEachHeaderList (headerCb oracle) rest (hc, heap) = .ok (rc, hc', heap') ∧
        ((rc = 0 ∧ ∃ cells', Collects start (done ++ rest) hc' cells' heap') ∨
          (rc ≠ 0 ∧ hc'.count < done.length + rest.length ∧
            ((∃ done' cells', Collects start done' hc' cells' heap') ∨ Dangling hc' heap')))
  | [], done, hc, cells, heap, collects, _ =>
      ⟨0, hc, heap, rfl, .inl ⟨rfl, cells, by simpa using collects⟩⟩
  | header :: rest, done, hc, cells, heap, collects, fits => by
      have lengths : done.length + (header :: rest).length = (done ++ [header]).length + rest.length := by
        simp only [List.length_append, List.length_cons, List.length_nil]
        omega
      have small : hc.count < 2 ^ 30 := by
        rw [collects.count_eq]
        omega
      obtain ⟨rc, hc₁, heap₁, step, ⟨rfl, cells₁, collects₁⟩ | ⟨stopped, sameCount, outcome⟩⟩ :=
        headerCb_cases oracle collects small header
      · obtain ⟨rc', hc₂, heap₂, walk, outcome⟩ :=
          forEachHeaderList_cases rest (done ++ [header]) hc₁ cells₁ heap₁ collects₁ (lengths ▸ fits)
        refine ⟨rc', hc₂, heap₂, by simp [forEachHeaderList, step, walk], ?_⟩
        rw [lengths, show done ++ header :: rest = done ++ [header] ++ rest by simp]
        exact outcome
      · refine ⟨rc, hc₁, heap₁, by simp [forEachHeaderList, step, stopped], .inr ⟨stopped, ?_, ?_⟩⟩
        · rw [sameCount, collects.count_eq, List.length_cons]
          omega
        · exact outcome.imp_left fun collects₁ => ⟨done, cells, collects₁⟩

end Steps

/--
The collector invariant of `header_cb`.  For every allocation outcome and
every list of `N < 2 ^ 30` headers walked from the collector
`quiche_h3_event_headers` initialises, the walk returns without a fault;
and when every `header_cb` call returned 0, whatever the allocator did:
`count = N ≤ capacity`; `capacity` is `32 * 2 ^ k` for the number `k` of
growths, as `capacityAfter` gives it; both arrays are blocks of exactly
`capacity` slots, and their first `count` slots point at copies of the
headers, in order (`Collects`); the stores of call `i + 1`, at index `i`,
are below the capacity that call leaves; the doubling a growth computes
fits in an `int`, and so does `count * 2`.
-/
theorem headerCb_collector_invariant (oracle : Oracle) (headers : List Header) (heap : Heap)
    (small : headers.length < 2 ^ 30) :
    (∃ rc hc heap', forEachHeaderList (headerCb oracle) headers (initialCollector heap) = .ok (rc, hc, heap')) ∧
    ∀ hc heap', forEachHeaderList (headerCb oracle) headers (initialCollector heap) = .ok (0, hc, heap') →
    hc.count = headers.length ∧ hc.count ≤ hc.capacity ∧
      hc.capacity = capacityAfter headers.length ∧
      hc.capacity = 32 * 2 ^ growthsAfter headers.length ∧
      (∃ cells, Collects heap headers hc cells heap') ∧
      (∀ array ∈ [hc.names, hc.values], ∃ slots, heap'.blocks array = some (.slots slots) ∧
        slots.length = hc.capacity) ∧
      (∀ index < headers.length, index < capacityAfter (index + 1)) ∧
      (∀ index < headers.length, capacityAfter index ≤ index → capacityAfter index * 2 ≤ intMax) ∧
      hc.count * 2 ≤ intMax := by
  refine ⟨?_, fun hc heap' returned => ?_⟩
  · obtain ⟨rc, hc, heap', walk, -⟩ :=
      forEachHeaderList_cases oracle headers [] _ [] _ (collects_initial heap) (by simpa using small)
    exact ⟨rc, hc, heap', by simpa only [initialCollector] using walk⟩
  obtain ⟨capacity, cells, collects⟩ := forEachHeaderList_collects_of_zero headers [] _ [] _
    (collects_initial heap) rfl (by simpa using small) returned
  rw [List.nil_append] at capacity collects
  have pointersFit : cells.length ≤ hc.capacity := by
    rw [collects.strings.length_eq, ← collects.count_eq]
    exact collects.count_le
  refine ⟨collects.count_eq, collects.count_le, capacity, capacity.trans (capacityAfter_eq_pow _),
    ⟨cells, collects⟩, ?_, fun index _ => lt_capacityAfter_succ index,
    fun index below full => capacityAfter_double_le (by omega) full, ?_⟩
  · simp only [List.mem_cons, List.mem_singleton, List.not_mem_nil, or_false]
    rintro array (rfl | rfl)
    · exact ⟨_, collects.names_block, length_slotsOf (by simpa using pointersFit)⟩
    · exact ⟨_, collects.values_block, length_slotsOf (by simpa using pointersFit)⟩
  · rw [collects.count_eq]
    simp only [intMax]
    omega

/-- The invariant at 33 headers `h: i`, with every allocation moving: the walk returns 0. -/
theorem headerCb_collector_invariant_thirty_three :
    ∃ hc heap', (List.replicate 33 (⟨[104], [105]⟩ : Header)).length < 2 ^ 30 ∧
      forEachHeaderList (headerCb fun _ => .moved) (List.replicate 33 ⟨[104], [105]⟩)
        (initialCollector Heap.empty) = .ok (0, hc, heap') ∧
      (hc.count = (List.replicate 33 (⟨[104], [105]⟩ : Header)).length ∧ hc.count ≤ hc.capacity ∧
        hc.capacity = capacityAfter (List.replicate 33 (⟨[104], [105]⟩ : Header)).length ∧
        hc.capacity = 32 * 2 ^ growthsAfter (List.replicate 33 (⟨[104], [105]⟩ : Header)).length ∧
        (∃ cells, Collects Heap.empty (List.replicate 33 ⟨[104], [105]⟩) hc cells heap') ∧
        (∀ array ∈ [hc.names, hc.values], ∃ slots, heap'.blocks array = some (.slots slots) ∧
          slots.length = hc.capacity) ∧
        (∀ index < (List.replicate 33 (⟨[104], [105]⟩ : Header)).length,
          index < capacityAfter (index + 1)) ∧
        (∀ index < (List.replicate 33 (⟨[104], [105]⟩ : Header)).length,
          capacityAfter index ≤ index → capacityAfter index * 2 ≤ intMax) ∧
        hc.count * 2 ≤ intMax) := by
  have neverFails : Oracle.NeverFails fun _ => .moved := fun _ => nofun
  obtain ⟨hc, -, heap', walk, -⟩ := forEachHeaderList_collects neverFails
    (List.replicate 33 ⟨[104], [105]⟩) [] _ [] _ (collects_initial Heap.empty) (by simp)
  have walked : forEachHeaderList (headerCb fun _ => .moved) (List.replicate 33 ⟨[104], [105]⟩)
      (initialCollector Heap.empty) = .ok (0, hc, heap') := by
    simpa only [initialCollector] using walk
  exact ⟨hc, heap', by simp, walked, (headerCb_collector_invariant (fun _ => .moved)
    (List.replicate 33 ⟨[104], [105]⟩) Heap.empty (by simp)).2 hc heap' walked⟩

section Cleanup

variable (jvm : Jvm) (oracle : Oracle) {start heap : Heap} {done : List Header}
  {hc : HeaderCollector} {cells : List (Nat × Nat)}

/-- The fill loop hands each collected name and value to `NewStringUTF`, one JVM allocation each, in order. -/
theorem fillArray_allocated
    {names values capacity : Nat}
    (namesBlock : heap.blocks names = some (.slots (slotsOf (cells.map Prod.fst) capacity)))
    (valuesBlock : heap.blocks values = some (.slots (slotsOf (cells.map Prod.snd) capacity))) :
    ∀ (before after : List (Nat × Nat)) (rest : List Header) (current : Heap),
      cells = before ++ after → List.Forall₂ (StringsAt heap) after rest →
      current.blocks = heap.blocks →
      fillArray jvm oracle names values before.length after.length current =
        .ok (allocatedStrings oracle current.calls (headerStrings jvm rest),
          current.advance (2 * rest.length)) := by
  intro before after rest current split strings
  induction strings generalizing before current with
  | nil =>
      intro _
      rfl
  | @cons cell header after rest atCell _ inductionHypothesis =>
      intro sameBlocks
      subst split
      have fill := inductionHypothesis (before ++ [cell]) current.tick.tick (by simp) sameBlocks
      simp only [List.length_append, List.length_singleton] at fill
      simp only [fillArray, ok_bind]
      rw [loadSlot_of_getElem? _ (sameBlocks ▸ namesBlock) (getElem?_slotsOf_cell Prod.fst), ok_bind,
        newStringUTF_cStringOf (sameBlocks ▸ atCell.1), ok_bind,
        loadSlot_of_getElem? _ (sameBlocks ▸ valuesBlock) (getElem?_slotsOf_cell Prod.snd), ok_bind,
        newStringUTF_cStringOf (sameBlocks ▸ atCell.2), ok_bind, fill]
      simp only [headerStrings, List.flatMap_cons, List.cons_append, List.nil_append, allocatedStrings,
        Heap.calls_tick, pure_eq_ok, Heap.tick_advance, List.length_cons]
      rfl

/--
`NewObjectArray` and the fill loop on a collector that keeps the invariant:
`NULL` when the JVM fails the array, else the array of the collected strings
as the JVM's allocations make them; the C heap is untouched.
-/
theorem buildArray_collected
    (collects : Collects start done hc cells heap)
    (fits : hc.count * 2 ≤ intMax) :
    ∃ result heap', buildArray jvm oracle hc heap = .ok (result, heap') ∧
      heap'.blocks = heap.blocks ∧ heap'.next = heap.next ∧
      (oracle heap.calls = .fail ∧ result = none ∨
        result = some (allocatedStrings oracle (heap.calls + 1) (headerStrings jvm done))) := by
  have countCells : hc.count = cells.length := collects.count_eq.trans collects.strings.length_eq.symm
  have fill := fillArray_allocated jvm oracle collects.names_block collects.values_block [] cells done
    heap.tick rfl collects.strings rfl
  simp only [List.length_nil, ← countCells, Heap.calls_tick] at fill
  cases outcome : oracle heap.calls
  case fail =>
    exact ⟨none, heap.tick, by simp [buildArray, intTimesTwo_of_le fits, outcome], rfl, rfl, .inl ⟨rfl, rfl⟩⟩
  all_goals
    exact ⟨_, heap.tick.advance (2 * done.length),
      by simp [buildArray, intTimesTwo_of_le fits, outcome, fill], rfl, rfl, .inr rfl⟩

/-- The cleanup frees every block of a collector that keeps the invariant. -/
theorem freeCollector_of_collects
    (collects : Collects start done hc cells heap) :
    ∃ heap', freeCollector hc heap = .ok heap' ∧ heap'.blocks = start.blocks := by
  have countCells : hc.count = cells.length := collects.count_eq.trans collects.strings.length_eq.symm
  obtain ⟨freed, loop, ownsFreed⟩ :=
    freeEntries_collected collects.names_block collects.values_block [] cells heap rfl rfl rfl collects.owns
  have owns₁ := ownsFreed.erase (List.mem_cons_self _ _)
  rw [List.erase_cons_head] at owns₁
  have owns₂ := owns₁.erase (List.mem_singleton_self _)
  rw [List.erase_cons_head] at owns₂
  refine ⟨_, ?_, owns₂.blocks_eq_of_nil⟩
  simp only [List.length_nil] at loop
  simp only [freeCollector, countCells, loop, ok_bind,
    free_of_live (ownsFreed.live hc.names (List.mem_cons_self _ _)),
    free_of_live (owns₁.live hc.values (List.mem_singleton_self _))]

/-- The cleanup of a dangling collector reads its freed array: it faults. -/
theorem freeCollector_of_dangling
    (dangling : Dangling hc heap) :
    ∃ fault, freeCollector hc heap = .error fault := by
  obtain ⟨least, dead⟩ := dangling
  obtain ⟨remaining, count⟩ : ∃ remaining, hc.count = remaining + 1 := ⟨hc.count - 1, by omega⟩
  suffices stuck : ∃ fault, freeEntries hc.names hc.values 0 (remaining + 1) heap = .error fault by
    obtain ⟨fault, stuck⟩ := stuck
    exact ⟨fault, by simp [freeCollector, count, stuck]⟩
  simp only [freeEntries]
  rcases dead with dead | dead
  · exact ⟨.invalidAccess hc.names, by simp [loadSlot, dead]⟩
  · cases loadSlot hc.names 0 heap with
    | error fault => exact ⟨fault, rfl⟩
    | ok name =>
        simp only [ok_bind]
        cases freed : free name heap with
        | error fault => exact ⟨fault, rfl⟩
        | ok heap₁ => exact ⟨.invalidAccess hc.values, by simp [loadSlot, blocks_free_of_none freed dead]⟩

end Cleanup

/-! ## The whole call under every allocation outcome -/

/-- When a 32-slot `malloc` fails, the call frees both results and returns `NULL` with the blocks as before. -/
theorem collectHeaders_of_failed_arrays (jvm : Jvm) (oracle : Oracle) (event : H3Event) (heap : Heap)
    (failed : oracle heap.calls = .fail ∨ oracle (heap.calls + 1) = .fail) :
    ∃ heap', collectHeaders jvm oracle event heap = .ok (none, heap') ∧ heap'.blocks = heap.blocks := by
  unfold collectHeaders
  generalize namesCall : malloc oracle (.slots (List.replicate 32 none)) heap = first
  obtain ⟨names, heap₁⟩ := first
  dsimp only
  generalize valuesCall : malloc oracle (.slots (List.replicate 32 none)) heap₁ = second
  obtain ⟨values, heap₂⟩ := second
  dsimp only
  obtain ⟨null, heap', sameBlocks, -, freed⟩ := free_mallocPair_of_failed failed namesCall valuesCall
  exact ⟨heap', by simp only [if_pos null, freed, pure_eq_ok], sameBlocks⟩

/--
When both 32-slot `malloc`s succeed, the call walks the headers from
`initialCollector`, then cleans up, building the array first after a walk
that returned 0.
-/
theorem collectHeaders_of_allocated {jvm : Jvm} {oracle : Oracle} {heap : Heap} (list : List Header)
    (namesAllocated : oracle heap.calls ≠ .fail) (valuesAllocated : oracle (heap.calls + 1) ≠ .fail) :
    collectHeaders jvm oracle (.headers list) heap =
      (forEachHeaderList (headerCb oracle) list (initialCollector heap) >>= fun (rc, hc, heap) =>
        if rc ≠ 0 then freeCollector hc heap >>= fun heap => pure (none, heap)
        else buildArray jvm oracle hc heap >>= fun (result, heap) =>
          freeCollector hc heap >>= fun heap => pure (result, heap)) := by
  have nextPos := heap.next_pos
  simp only [collectHeaders, malloc_of_ne_fail _ namesAllocated,
    malloc_of_ne_fail _ (show oracle (heap.alloc (.slots (List.replicate 32 none))).tick.calls ≠ .fail
      from valuesAllocated), Heap.next_tick, Heap.next_alloc, quicheH3EventForEachHeader]
  rw [if_neg (by omega)]
  rfl

/--
`quiche_h3_event_headers` on a Headers event, under every allocation
outcome: it returns with every block freed and `NULL` or the strings' array,
or its walk ended dangling, after more than 32 headers, and it faults.
-/
theorem collectHeaders_cases (jvm : Jvm) (oracle : Oracle) (list : List Header) (heap : Heap)
    (small : list.length < 2 ^ 30) :
    (¬ EndsDangling oracle list heap ∧
      ∃ result heap', collectHeaders jvm oracle (.headers list) heap = .ok (result, heap') ∧
        heap'.blocks = heap.blocks ∧
        (result = none ∨ ∃ call, result = some (allocatedStrings oracle call (headerStrings jvm list)))) ∨
    (EndsDangling oracle list heap ∧ 32 < list.length ∧
      ∃ fault, collectHeaders jvm oracle (.headers list) heap = .error fault) := by
  by_cases failed : oracle heap.calls = .fail ∨ oracle (heap.calls + 1) = .fail
  case pos =>
    obtain ⟨heap', returned, blocks⟩ := collectHeaders_of_failed_arrays jvm oracle (.headers list) heap failed
    exact .inl ⟨fun ends => failed.elim ends.1 ends.2.1, none, heap', returned, blocks, .inl rfl⟩
  case neg =>
    obtain ⟨namesAllocated, valuesAllocated⟩ := not_or.mp failed
    obtain ⟨rc, hc, heap₁, walk, outcome⟩ :=
      forEachHeaderList_cases oracle list [] _ [] _ (collects_initial heap) (by simpa using small)
    have walked : forEachHeaderList (headerCb oracle) list (initialCollector heap) = .ok (rc, hc, heap₁) := by
      simpa only [initialCollector] using walk
    have endsHere : EndsDangling oracle list heap ↔ rc ≠ 0 ∧ Dangling hc heap₁ := by
      simp only [EndsDangling, walked, Except.ok.injEq, Prod.mk.injEq]
      constructor
      · rintro ⟨-, -, _, _, _, ⟨rfl, rfl, rfl⟩, stopped, dangling⟩
        exact ⟨stopped, dangling⟩
      · rintro ⟨stopped, dangling⟩
        exact ⟨namesAllocated, valuesAllocated, _, _, _, ⟨rfl, rfl, rfl⟩, stopped, dangling⟩
    rw [collectHeaders_of_allocated list namesAllocated valuesAllocated, walked, ok_bind, endsHere]
    rcases outcome with ⟨rfl, cells, collects⟩ | ⟨stopped, fewer, ⟨done, cells, collects⟩ | dangling⟩
    · rw [List.nil_append] at collects
      have countFits : hc.count * 2 ≤ intMax := by
        rw [collects.count_eq]
        simp only [intMax]
        omega
      obtain ⟨result, heap₂, built, blocks₂, next₂, shape⟩ :=
        buildArray_collected jvm oracle collects countFits
      obtain ⟨heap₃, freed, blocks₃⟩ :=
        freeCollector_of_collects (collects.of_blocks_eq blocks₂ (Nat.le_of_eq next₂.symm))
      refine .inl ⟨fun ⟨stopped, _⟩ => stopped rfl, result, heap₃, ?_, blocks₃,
        shape.imp And.right fun built => ⟨_, built⟩⟩
      simp [built, freed]
    · obtain ⟨heap₂, freed, blocks₂⟩ := freeCollector_of_collects collects
      exact .inl ⟨fun ⟨_, dangling⟩ => collects.not_dangling dangling, none, heap₂,
        by simp [stopped, freed], blocks₂, .inl rfl⟩
    · obtain ⟨fault, faulted⟩ := freeCollector_of_dangling dangling
      refine .inr ⟨⟨stopped, dangling⟩, by have := dangling.1; simp only [List.length_nil] at fewer; omega,
        fault, by simp [stopped, faulted]⟩

/--
With no allocation failing, `quiche_h3_event_headers` on a Headers event of
fewer than `2 ^ 30` headers returns the array of the headers' names and
values, each cut at its first zero byte, and frees every block it allocated.
-/
theorem collectHeaders_of_neverFails_headerStrings (jvm : Jvm) {oracle : Oracle} (neverFails : oracle.NeverFails)
    {list : List Header} (small : list.length < 2 ^ 30) (heap : Heap) :
    ∃ heap', collectHeaders jvm oracle (.headers list) heap = .ok (some ((headerStrings jvm list).map some), heap') ∧
      heap'.blocks = heap.blocks := by
  obtain ⟨hc, cells, heap₁, walk, collects⟩ :=
    forEachHeaderList_collects neverFails list [] _ [] _ (collects_initial heap) (by simpa using small.le)
  rw [List.nil_append] at collects
  have walked : forEachHeaderList (headerCb oracle) list (initialCollector heap) = .ok (0, hc, heap₁) := by
    simpa only [initialCollector] using walk
  have countFits : hc.count * 2 ≤ intMax := by
    rw [collects.count_eq]
    simp only [intMax]
    omega
  obtain ⟨result, heap₂, built, blocks₂, next₂, shape⟩ := buildArray_collected jvm oracle collects countFits
  obtain rfl := shape.resolve_left fun ⟨failed, _⟩ => neverFails _ failed
  obtain ⟨heap₃, freed, blocks₃⟩ :=
    freeCollector_of_collects (collects.of_blocks_eq blocks₂ (Nat.le_of_eq next₂.symm))
  refine ⟨heap₃, ?_, blocks₃⟩
  rw [collectHeaders_of_allocated list (neverFails _) (neverFails _), walked]
  simp [built, freed, allocatedStrings_of_neverFails neverFails]

end Gumdrop
