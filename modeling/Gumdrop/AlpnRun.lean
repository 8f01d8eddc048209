import Gumdrop.Alpn

namespace Gumdrop

/-!
# ALPN tables over a run of set calls

An application may call `ssl_ctx_set_alpn_protos` on one context any number
of times.  Each call takes the JVM's copy of the array, `malloc`s a new
`alpn_protos_t` and data buffer, overwrites the ex-data pointer with it and
releases the copy; `alpn_protos_free` only ever sees the
last one, when the context is freed.  This module follows whole runs: the
last call decides what `alpn_select_cb` chooses from, whatever the library
answered; the client list is the last one the library accepted; and after
`SSL_CTX_free` exactly the tables of the earlier calls are still allocated.
Nothing checks the copy or the two `malloc`s: a run faults, by an access
through `NULL`, exactly when one of its allocations fails.
-/

/--
The blocks the set calls of `calls` leave from address `base` on: each call's
table, then its data buffer, after the released copy of its array.
-/
def tableBlocks (base : Nat) : List (List UInt8 × Bool) → Nat → Option Block
  | [], _ => none
  | (protos, _) :: rest, address =>
      if address = base + 1 then some (.slots [some (base + 2), some protos.length])
      else if address = base + 2 then some (.chars protos)
      else tableBlocks (base + 3) rest address

/-- No table of a run lies at or above the address after its last one. -/
theorem tableBlocks_of_le {address : Nat} :
    ∀ (calls : List (List UInt8 × Bool)) (base : Nat), base + 3 * calls.length ≤ address →
      tableBlocks base calls address = none
  | [], _, _ => rfl
  | (_, _) :: rest, base, above => by
      simp only [List.length_cons] at above
      simp only [tableBlocks, if_neg (show address ≠ base + 1 by omega), if_neg (show address ≠ base + 2 by omega)]
      exact tableBlocks_of_le rest (base + 3) (by omega)

/-- The last list a run's library accepted, counted from the first call's answer. -/
theorem lastAccepted_cons (protos : List UInt8) (accepted : Bool) (rest : List (List UInt8 × Bool))
    (client : List UInt8) :
    ((((protos, accepted) :: rest).filter (·.2)).getLast?.map (·.1)).getD client =
      (((rest.filter (·.2)).getLast?).map (·.1)).getD (if accepted then protos else client) := by
  cases accepted
  · rw [List.filter_cons_of_neg Bool.false_ne_true]
    rfl
  · rw [List.filter_cons_of_pos rfl, List.getLast?_cons]
    cases (rest.filter (·.2)).getLast? <;> rfl

/-- A run is its first calls, then the rest from the context they leave. -/
theorem setAlpnRun_append (oracle : Oracle) (calls more : List (List UInt8 × Bool)) (ctx : AlpnContext) :
    setAlpnRun oracle (calls ++ more) ctx = setAlpnRun oracle calls ctx >>= setAlpnRun oracle more := by
  induction calls generalizing ctx with
  | nil => rfl
  | cons call calls inductionHypothesis =>
      obtain ⟨protos, accepted⟩ := call
      simp only [List.cons_append, setAlpnRun]
      cases sslCtxSetAlpnProtos oracle protos accepted ctx with
      | error fault => rfl
      | ok result =>
          obtain ⟨_, ctx₁⟩ := result
          exact inductionHypothesis ctx₁

/-- A set call whose three allocations succeed, by what it leaves in each field a run reads. -/
theorem sslCtxSetAlpnProtos_step {oracle : Oracle} (protos : List UInt8) (accepted : Bool)
    {ctx : AlpnContext}
    (copied : oracle ctx.heap.calls ≠ .fail)
    (tableAllocated : oracle (ctx.heap.calls + 1) ≠ .fail)
    (dataAllocated : oracle (ctx.heap.calls + 2) ≠ .fail) :
    ∃ ret ctx', sslCtxSetAlpnProtos oracle protos accepted ctx = .ok (ret, ctx') ∧
      ctx'.table = ctx.heap.next + 1 ∧ ¬ ctx'.exDataIndex < 0 ∧
      ctx'.clientProtos = (if accepted then protos else ctx.clientProtos) ∧
      ctx'.heap.next = ctx.heap.next + 3 ∧ ctx'.heap.calls = ctx.heap.calls + 3 ∧
      ctx'.heap.blocks (ctx.heap.next + 1) = some (.slots [some (ctx.heap.next + 2), some protos.length]) ∧
      ctx'.heap.blocks (ctx.heap.next + 2) = some (.chars protos) ∧
      (∀ other, other ≠ ctx.heap.next + 1 → other ≠ ctx.heap.next + 2 →
        ctx'.heap.blocks other = ctx.heap.blocks other) := by
  obtain ⟨heap', set, tableBlock, dataBlock, frame, next', calls'⟩ :=
    sslCtxSetAlpnProtos_of_succeeds protos accepted copied tableAllocated dataAllocated
  refine ⟨_, _, set, rfl, ?_, rfl, next', calls', tableBlock, dataBlock, frame⟩
  dsimp only
  split <;> omega

/--
A run of set calls whose allocations all succeed returns, with one table and
data buffer per call laid out from the heap's next address on, and the
client list the library last accepted.
-/
theorem setAlpnRun_of_succeeds (oracle : Oracle) :
    ∀ (calls : List (List UInt8 × Bool)) (ctx : AlpnContext),
      (∀ j < 3 * calls.length, oracle (ctx.heap.calls + j) ≠ .fail) →
      ∃ ctx', setAlpnRun oracle calls ctx = .ok ctx' ∧
        ctx'.heap.next = ctx.heap.next + 3 * calls.length ∧
        ctx'.heap.calls = ctx.heap.calls + 3 * calls.length ∧
        (∀ address, ctx'.heap.blocks address =
          (ctx.heap.blocks address).or (tableBlocks ctx.heap.next calls address)) ∧
        ctx'.clientProtos = (((calls.filter (·.2)).getLast?).map (·.1)).getD ctx.clientProtos
  | [], ctx, _ => ⟨ctx, rfl, rfl, rfl, fun address => by simp [tableBlocks], rfl⟩
  | (protos, accepted) :: rest, ctx, succeeds => by
      have lengths : 3 * ((protos, accepted) :: rest).length = 3 + 3 * rest.length := by
        simp only [List.length_cons]
        omega
      obtain ⟨ret, ctx₁, set, -, -, client₁, next₁, calls₁, tableBlock, dataBlock, frame⟩ :=
        sslCtxSetAlpnProtos_step protos accepted (succeeds 0 (by omega)) (succeeds 1 (by omega))
          (succeeds 2 (by omega))
      obtain ⟨ctx', run, next', calls', blocks', client'⟩ :=
        setAlpnRun_of_succeeds oracle rest ctx₁ fun j below => by
          simpa only [calls₁, Nat.add_assoc] using succeeds (3 + j) (by omega)
      refine ⟨ctx', by simp only [setAlpnRun, set, ok_bind, run], by omega, by omega,
        fun address => ?_, by rw [client', client₁, lastAccepted_cons]⟩
      have fresh := ctx.heap.above_free
      rw [blocks', next₁]
      by_cases isTable : address = ctx.heap.next + 1
      · simp [isTable, tableBlock, tableBlocks, fresh]
      · by_cases isData : address = ctx.heap.next + 2
        · simp [isData, dataBlock, tableBlocks, fresh]
        · simp [tableBlocks, isTable, isData, frame address isTable isData]

/--
A run ending with the list `protos`: the last table is at the address after
the earlier ones, holds `protos`, and every other block is the heap's before
the run or an earlier call's table.
-/
theorem setAlpnRun_snoc_of_succeeds (oracle : Oracle) (calls : List (List UInt8 × Bool))
    (protos : List UInt8) (accepted : Bool) (ctx : AlpnContext)
    (succeeds : ∀ j < 3 * calls.length + 3, oracle (ctx.heap.calls + j) ≠ .fail) :
    ∃ ctx', setAlpnRun oracle (calls ++ [(protos, accepted)]) ctx = .ok ctx' ∧
      ctx'.table = ctx.heap.next + 3 * calls.length + 1 ∧ ¬ ctx'.exDataIndex < 0 ∧
      ctx'.heap.blocks ctx'.table = some (.slots [some (ctx'.table + 1), some protos.length]) ∧
      ctx'.heap.blocks (ctx'.table + 1) = some (.chars protos) ∧
      (∀ other, other ≠ ctx'.table → other ≠ ctx'.table + 1 →
        ctx'.heap.blocks other = (ctx.heap.blocks other).or (tableBlocks ctx.heap.next calls other)) ∧
      ctx'.clientProtos =
        ((((calls ++ [(protos, accepted)]).filter (·.2)).getLast?).map (·.1)).getD ctx.clientProtos := by
  obtain ⟨ctx₁, run, next₁, calls₁, blocks₁, client₁⟩ :=
    setAlpnRun_of_succeeds oracle calls ctx fun j below => succeeds j (by omega)
  have later : ∀ j < 3, oracle (ctx₁.heap.calls + j) ≠ .fail := fun j below => by
    simpa only [calls₁, Nat.add_assoc] using succeeds (3 * calls.length + j) (by omega)
  obtain ⟨ret, ctx', set, table, registered, client', -, -, tableBlock, dataBlock, frame⟩ :=
    sslCtxSetAlpnProtos_step protos accepted (later 0 (by omega)) (later 1 (by omega)) (later 2 (by omega))
  rw [show ctx₁.heap.next + 2 = ctx'.table + 1 by omega] at tableBlock dataBlock frame
  rw [← table] at tableBlock frame
  refine ⟨ctx', by simp only [setAlpnRun_append, run, ok_bind, setAlpnRun, set], by omega, registered,
    tableBlock, dataBlock, fun other notTable notData => ?_, ?_⟩
  · rw [frame other notTable notData, blocks₁]
  · cases accepted <;> simp [client', client₁]

/--
Every replaced table leaks.  For every context and every run of set calls
whose allocations all succeed, `SSL_CTX_free` afterwards frees the last
call's table and data buffer and nothing else: the heap holds exactly the
blocks it held before the run and the table and data buffer of every
earlier call of the run.
-/
theorem sslCtxFree_after_run_keeps_earlier_tables (oracle : Oracle) (calls : List (List UInt8 × Bool))
    (protos : List UInt8) (accepted : Bool) (ctx : AlpnContext)
    (succeeds : ∀ j < 3 * calls.length + 3, oracle (ctx.heap.calls + j) ≠ .fail) :
    ∃ ctx' heap', setAlpnRun oracle (calls ++ [(protos, accepted)]) ctx = .ok ctx' ∧
      sslCtxFree ctx' = .ok heap' ∧
      ∀ address, heap'.blocks address = (ctx.heap.blocks address).or (tableBlocks ctx.heap.next calls address) := by
  obtain ⟨ctx', run, table, registered, tableBlock, dataBlock, frame, -⟩ :=
    setAlpnRun_snoc_of_succeeds oracle calls protos accepted ctx succeeds
  have notNull : ctx'.table ≠ 0 := by omega
  refine ⟨ctx', (ctx'.heap.erase (ctx'.table + 1)).erase ctx'.table, run, ?_, fun address => ?_⟩
  · simp only [sslCtxFree, if_neg registered, alpnProtosFree, if_neg notNull,
      loadSlot_of_getElem? _ tableBlock
        (show [some (ctx'.table + 1), some protos.length][0]? = some (some (ctx'.table + 1)) from rfl),
      ok_bind, free_of_live (show ctx'.heap.blocks (ctx'.table + 1) ≠ none by simp [dataBlock])]
    exact free_of_live (by simp [tableBlock])
  · by_cases last : address = ctx'.table ∨ address = ctx'.table + 1
    · have above : ctx.heap.next + 3 * calls.length ≤ address := by omega
      have erased : ((ctx'.heap.erase (ctx'.table + 1)).erase ctx'.table).blocks address = none := by
        rcases last with rfl | rfl <;> simp
      rw [erased, ctx.heap.above_free address (by omega), tableBlocks_of_le calls _ above]
      rfl
    · obtain ⟨isTable, isData⟩ := not_or.mp last
      simp [isTable, isData, frame address isTable isData]

/-- Two accepted lists, every allocation moving: the first table stays after the free. -/
theorem sslCtxFree_after_run_keeps_earlier_tables_two :
    (∀ j < 3 * [([2, 104, 51], true)].length + 3,
      (fun _ => AllocOutcome.moved) ((AlpnContext.initial Heap.empty).heap.calls + j) ≠ .fail) ∧
    ∃ ctx' heap', setAlpnRun (fun _ => .moved) ([([2, 104, 51], true)] ++ [([2, 104, 50], true)])
        (AlpnContext.initial Heap.empty) = .ok ctx' ∧
      sslCtxFree ctx' = .ok heap' ∧
      ∀ address, heap'.blocks address = ((AlpnContext.initial Heap.empty).heap.blocks address).or
        (tableBlocks (AlpnContext.initial Heap.empty).heap.next [([2, 104, 51], true)] address) :=
  ⟨fun _ _ => nofun, sslCtxFree_after_run_keeps_earlier_tables (fun _ => .moved) [([2, 104, 51], true)]
    [2, 104, 50] true (AlpnContext.initial Heap.empty) fun _ _ => nofun⟩

/--
`ssl_ctx_set_alpn_protos` never reports an allocation failure.  For every
allocation outcome, every context and every run of set calls on it: the run
returns or ends in an access through `NULL`, and it ends so exactly when the
JVM's copy of the array or one of the two `malloc`s of one of its calls fails.
-/
theorem setAlpnRun_faults_iff_allocation_fails (oracle : Oracle) (calls : List (List UInt8 × Bool))
    (ctx : AlpnContext) :
    ((∃ ctx', setAlpnRun oracle calls ctx = .ok ctx') ∨ setAlpnRun oracle calls ctx = .error (.invalidAccess 0)) ∧
      (setAlpnRun oracle calls ctx = .error (.invalidAccess 0) ↔
        ∃ j < 3 * calls.length, oracle (ctx.heap.calls + j) = .fail) := by
  induction calls generalizing ctx with
  | nil =>
      exact ⟨.inl ⟨ctx, rfl⟩, by simp [setAlpnRun]⟩
  | cons call rest inductionHypothesis =>
      obtain ⟨protos, accepted⟩ := call
      have lengths : 3 * ((protos, accepted) :: rest).length = 3 * rest.length + 3 := by
        simp only [List.length_cons]
        omega
      by_cases failed : oracle ctx.heap.calls = .fail ∨ oracle (ctx.heap.calls + 1) = .fail ∨
        oracle (ctx.heap.calls + 2) = .fail
      case pos =>
        have faulted : setAlpnRun oracle ((protos, accepted) :: rest) ctx = .error (.invalidAccess 0) := by
          simp [setAlpnRun, sslCtxSetAlpnProtos_of_fail failed]
        refine ⟨.inr faulted, iff_of_true faulted ?_⟩
        rcases failed with copyFailed | tableFailed | dataFailed
        · exact ⟨0, by omega, copyFailed⟩
        · exact ⟨1, by omega, tableFailed⟩
        · exact ⟨2, by omega, dataFailed⟩
      case neg =>
        obtain ⟨copied, tableAllocated, dataAllocated⟩ : _ ∧ _ ∧ _ := by
          simpa only [not_or] using failed
        obtain ⟨ret, ctx₁, set, -, -, -, -, calls₁, -⟩ :=
          sslCtxSetAlpnProtos_step protos accepted copied tableAllocated dataAllocated
        have continues : setAlpnRun oracle ((protos, accepted) :: rest) ctx = setAlpnRun oracle rest ctx₁ := by
          simp only [setAlpnRun, set, ok_bind]
        rw [continues, lengths]
        refine ⟨(inductionHypothesis ctx₁).1, (inductionHypothesis ctx₁).2.trans ⟨?_, ?_⟩⟩
        · rintro ⟨j, below, failing⟩
          exact ⟨j + 3, by omega, by rwa [calls₁, Nat.add_assoc, Nat.add_comm 3 j] at failing⟩
        · rintro ⟨j, below, failing⟩
          match j, below, failing with
          | 0, _, failing => exact absurd failing copied
          | 1, _, failing => exact absurd failing tableAllocated
          | 2, _, failing => exact absurd failing dataAllocated
          | j + 3, below, failing =>
              exact ⟨j, by omega, by rwa [calls₁, Nat.add_assoc, Nat.add_comm 3 j]⟩

end Gumdrop
