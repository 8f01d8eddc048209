import Gumdrop.Jni

namespace Gumdrop

/-!
# ALPN tables of an `SSL_CTX`

`ssl_ctx_set_alpn_protos` hands the wire-format protocol list to BoringSSL
for the client side and, for the server side, copies it into a `malloc`'d
`alpn_protos_t` that it stores as the context's ex-data.  The ex-data index
is registered once, with `alpn_protos_free` as its free function, which
BoringSSL calls on the context's current ex-data when the context is freed.
`alpn_select_cb` reads the current table and lets `SSL_select_next_proto`
choose.

`SSL_select_next_proto` is BoringSSL's and is modelled by its documentation:
the first protocol of the first list that also occurs in the second, and no
overlap when there is none or a list is malformed.  Whether
`SSL_CTX_set_alpn_protos` accepts the list is the library's answer, passed in.
The list reaches the C code as the JVM's copy of the array
(`GetByteArrayElements`), which nothing checks: a `NULL` copy is undefined
both in the library's read and in the `memcpy`, and the model faults at the
`memcpy`, which gives the same result.
-/

/-- A wire-format protocol list, each protocol a length byte and that many bytes; `none` when malformed. -/
def parseProtocols : Nat → List UInt8 → Option (List (List UInt8))
  | _, [] => some []
  | 0, _ :: _ => none
  | fuel + 1, length :: rest =>
      if length = 0 ∨ rest.length < length.toNat then none
      else (parseProtocols fuel (rest.drop length.toNat)).map (rest.take length.toNat :: ·)

/-- The protocols of a wire-format list; each step consumes a byte, so its length is enough fuel. -/
def parseProtocolList (bytes : List UInt8) : Option (List (List UInt8)) :=
  parseProtocols bytes.length bytes

/-- `SSL_select_next_proto(out, outlen, first, ..., second, ...)`: the first protocol of `first` found in `second`. -/
def sslSelectNextProto (first second : List UInt8) : Option (List UInt8) := do
  let firstProtocols ← parseProtocolList first
  let secondProtocols ← parseProtocolList second
  firstProtocols.find? (· ∈ secondProtocols)

/-- What `alpn_select_cb` returns: `SSL_TLSEXT_ERR_OK` with `*out`, or `SSL_TLSEXT_ERR_NOACK`. -/
inductive AlpnVerdict where
  | ok (protocol : List UInt8)
  | noAck
  deriving Repr, DecidableEq

/--
The state the ALPN bindings touch: the static `ssl_ctx_ex_data_index`, the
context's ex-data at that index (an `alpn_protos_t *`, 0 for `NULL`), whether
`alpn_select_cb` is installed, the client list BoringSSL keeps, and the C heap.
-/
structure AlpnContext where
  exDataIndex : Int
  table : Nat
  selectCb : Bool
  clientProtos : List UInt8
  heap : Heap

/-- A fresh context before any ALPN call. -/
def AlpnContext.initial (heap : Heap) : AlpnContext :=
  ⟨-1, 0, false, [], heap⟩

/--
`Java_..._ssl_1ctx_1set_1alpn_1protos`: the JNI result and the context
afterwards.  `accepted` is whether `SSL_CTX_set_alpn_protos` returns 0.  The
previous table is overwritten, not freed.
-/
def sslCtxSetAlpnProtos (oracle : Oracle) (protos : List UInt8) (accepted : Bool) (ctx : AlpnContext) :
    Except Fault (Int × AlpnContext) := do
  let (buf, heap) := getByteArrayElements oracle protos ctx.heap
  let exDataIndex := if ctx.exDataIndex < 0 then 0 else ctx.exDataIndex
  let (ap, heap) := malloc oracle (.slots [none, none]) heap
  let (data, heap) := malloc oracle (.chars (List.replicate protos.length 0)) heap
  let heap ← storeSlot ap 0 data heap
  let bytes ← loadBytes buf protos.length heap
  let heap ← storeBytes data 0 bytes heap
  let heap ← storeSlot ap 1 protos.length heap
  let heap ← releaseByteArrayElements buf heap
  pure (if accepted then 0 else -1,
    { exDataIndex, table := ap, selectCb := true,
      clientProtos := if accepted then protos else ctx.clientProtos, heap })

/-- `alpn_protos_free`: the data buffer, then the table; nothing for `NULL`. -/
def alpnProtosFree (table : Nat) (heap : Heap) : Except Fault Heap :=
  if table = 0 then .ok heap
  else do
    let data ← loadSlot table 0 heap
    let heap ← free data heap
    free table heap

/-- `Java_..._ssl_1ctx_1free` as the context's last reference goes: the ex-data free function runs on the current table. -/
def sslCtxFree (ctx : AlpnContext) : Except Fault Heap :=
  if ctx.exDataIndex < 0 then .ok ctx.heap else alpnProtosFree ctx.table ctx.heap

/-- `alpn_select_cb` for a connection of the context, on the peer's list `peer`. -/
def alpnSelectCb (ctx : AlpnContext) (peer : List UInt8) : Except Fault AlpnVerdict :=
  if ctx.table = 0 then .ok .noAck
  else do
    let data ← loadSlot ctx.table 0 ctx.heap
    let len ← loadSlot ctx.table 1 ctx.heap
    let supported ← loadBytes data len ctx.heap
    match sslSelectNextProto supported peer with
    | some protocol => pure (.ok protocol)
    | none => pure .noAck

/-- A run of `ssl_ctx_set_alpn_protos` calls on one context: each with its list and the library's answer. -/
def setAlpnRun (oracle : Oracle) : List (List UInt8 × Bool) → AlpnContext → Except Fault AlpnContext
  | [], ctx => .ok ctx
  | (protos, accepted) :: rest, ctx => do
      let (_, ctx) ← sslCtxSetAlpnProtos oracle protos accepted ctx
      setAlpnRun oracle rest ctx

/-- The selection the documentation asks for: the first protocol of the peer's list, in its order, found in the table. -/
def alpnSelectPeerOrder (table peer : List UInt8) : Option (List UInt8) := do
  let tableProtocols ← parseProtocolList table
  let peerProtocols ← parseProtocolList peer
  peerProtocols.find? (· ∈ tableProtocols)

/-! ## What a set call leaves -/

section Specs

variable {oracle : Oracle}

/-- A `memcpy` of the whole list into a fresh buffer of its length leaves the list. -/
theorem writeRange_replicate (bytes : List UInt8) :
    writeRange (List.replicate bytes.length 0) 0 bytes = bytes := by
  simp [writeRange, List.drop_replicate]

/--
When its three allocations succeed (the JVM's copy of the array, the table
and the data buffer), a set call stores a fresh table after the copy, whose
data buffer holds the list, releases the copy and changes no other block.
-/
theorem sslCtxSetAlpnProtos_of_succeeds
    (protos : List UInt8) (accepted : Bool) {ctx : AlpnContext}
    (copied : oracle ctx.heap.calls ≠ .fail)
    (tableAllocated : oracle (ctx.heap.calls + 1) ≠ .fail)
    (dataAllocated : oracle (ctx.heap.calls + 2) ≠ .fail) :
    ∃ heap', sslCtxSetAlpnProtos oracle protos accepted ctx =
        .ok (if accepted then 0 else -1,
          { exDataIndex := if ctx.exDataIndex < 0 then 0 else ctx.exDataIndex,
            table := ctx.heap.next + 1, selectCb := true,
            clientProtos := if accepted then protos else ctx.clientProtos, heap := heap' }) ∧
      heap'.blocks (ctx.heap.next + 1) = some (.slots [some (ctx.heap.next + 2), some protos.length]) ∧
      heap'.blocks (ctx.heap.next + 2) = some (.chars protos) ∧
      (∀ other, other ≠ ctx.heap.next + 1 → other ≠ ctx.heap.next + 2 →
        heap'.blocks other = ctx.heap.blocks other) ∧
      heap'.next = ctx.heap.next + 3 ∧ heap'.calls = ctx.heap.calls + 3 := by
  simp only [sslCtxSetAlpnProtos, getByteArrayElements, releaseByteArrayElements,
    malloc_of_ne_fail oracle copied,
    malloc_of_ne_fail oracle (show oracle (ctx.heap.alloc (.chars protos)).tick.calls ≠ .fail from tableAllocated),
    malloc_of_ne_fail oracle (show oracle ((ctx.heap.alloc (.chars protos)).tick.alloc
      (.slots [none, none])).tick.calls ≠ .fail from dataAllocated), Heap.next_tick, Heap.next_alloc,
    Nat.add_assoc]
  rw [storeSlot_of_lt [none, none] (by simp) (by simp), ok_bind, loadBytes_of_chars (by simp [Nat.add_assoc]), ok_bind,
    storeBytes_of_le (List.replicate protos.length 0) (by simp) (by simp), ok_bind,
    storeSlot_of_lt [some (ctx.heap.next + 2), none] (by simp) (by simp), ok_bind,
    free_of_live (by simp [Nat.add_assoc])]
  refine ⟨_, rfl, by simp, by simp [writeRange_replicate], fun other notTable notData => ?_, by simp, by simp⟩
  by_cases isCopy : other = ctx.heap.next
  · simp [isCopy, ctx.heap.above_free]
  · simp [isCopy, notTable, notData]

/--
When any of the three allocations fails, the set call goes through `NULL`:
a failed table is written, a failed copy or data buffer is read or written
by the `memcpy`.
-/
theorem sslCtxSetAlpnProtos_of_fail
    {protos : List UInt8} {ctx : AlpnContext}
    (failed : oracle ctx.heap.calls = .fail ∨ oracle (ctx.heap.calls + 1) = .fail ∨
      oracle (ctx.heap.calls + 2) = .fail)
    (accepted : Bool) :
    sslCtxSetAlpnProtos oracle protos accepted ctx = .error (.invalidAccess 0) := by
  unfold sslCtxSetAlpnProtos getByteArrayElements
  generalize copy : malloc oracle (.chars protos) ctx.heap = first
  obtain ⟨buf, heap₁⟩ := first
  dsimp only
  have calls₁ := (malloc_succeeded copy).1
  by_cases tableFailed : oracle (ctx.heap.calls + 1) = .fail
  case pos =>
    rw [malloc_of_fail (show oracle heap₁.calls = .fail by rwa [calls₁])]
    simp [storeSlot_null]
  case neg =>
    rw [malloc_of_ne_fail oracle (show oracle heap₁.calls ≠ .fail by rwa [calls₁])]
    have tableBlock : (malloc oracle (.chars (List.replicate protos.length 0))
        (heap₁.alloc (.slots [none, none])).tick).2.blocks heap₁.next = some (.slots [none, none]) := by
      rw [blocks_malloc_of_lt oracle _ (by simp)]
      simp
    generalize dataCall : malloc oracle (.chars (List.replicate protos.length 0))
      (heap₁.alloc (.slots [none, none])).tick = third at tableBlock
    obtain ⟨data, heap₃⟩ := third
    dsimp only
    rw [storeSlot_of_lt [none, none] tableBlock (by simp), ok_bind]
    by_cases copyFailed : oracle ctx.heap.calls = .fail
    case pos =>
      rw [malloc_of_fail copyFailed, Prod.mk.injEq] at copy
      rw [← copy.1, loadBytes_null]
      rfl
    case neg =>
      rw [malloc_of_ne_fail oracle copyFailed, Prod.mk.injEq] at copy
      obtain ⟨rfl, rfl⟩ := copy
      have dataFailed : oracle (ctx.heap.calls + 2) = .fail := by tauto
      rw [malloc_of_fail (show oracle ((ctx.heap.alloc (.chars protos)).tick.alloc
        (.slots [none, none])).tick.calls = .fail from dataFailed), Prod.mk.injEq] at dataCall
      obtain ⟨rfl, rfl⟩ := dataCall
      rw [loadBytes_of_chars (by simp), ok_bind, storeBytes_null]
      rfl

/-- The callback on a context whose table holds `protos` lets `SSL_select_next_proto` choose from them. -/
theorem alpnSelectCb_of_table
    {ctx : AlpnContext} {data : Nat} {protos : List UInt8}
    (notNull : ctx.table ≠ 0)
    (tableBlock : ctx.heap.blocks ctx.table = some (.slots [some data, some protos.length]))
    (dataBlock : ctx.heap.blocks data = some (.chars protos))
    (peer : List UInt8) :
    alpnSelectCb ctx peer =
      .ok (match sslSelectNextProto protos peer with
        | some protocol => .ok protocol
        | none => .noAck) := by
  simp only [alpnSelectCb, if_neg notNull,
    loadSlot_of_getElem? _ tableBlock (show [some data, some protos.length][0]? = some (some data) from rfl),
    loadSlot_of_getElem? _ tableBlock
      (show [some data, some protos.length][1]? = some (some protos.length) from rfl), ok_bind,
    loadBytes_of_prefix (show ctx.heap.blocks data = some (.chars (protos ++ [])) by simpa using dataBlock)]
  cases sslSelectNextProto protos peer <;> rfl

end Specs

/-! ## Selection and ownership over a context's life -/

/--
Whatever state the context is in, after `ssl_ctx_set_alpn_protos` stores a
well-formed table `T`, `alpn_select_cb` on a well-formed peer list `P`
answers with the first protocol of `T`, in `T`'s order, that occurs in `P`,
and with `SSL_TLSEXT_ERR_NOACK` exactly when no protocol of `T` occurs in `P`.
-/
theorem alpnSelectCb_table_order
    {oracle : Oracle}
    (neverFails : oracle.NeverFails)
    (ctx : AlpnContext) (table : List UInt8) (accepted : Bool) (peer : List UInt8)
    {tableProtocols peerProtocols : List (List UInt8)}
    (tableWellFormed : parseProtocolList table = some tableProtocols)
    (peerWellFormed : parseProtocolList peer = some peerProtocols) :
    ∃ ret ctx', sslCtxSetAlpnProtos oracle table accepted ctx = .ok (ret, ctx') ∧
      alpnSelectCb ctx' peer =
        .ok (match tableProtocols.find? (· ∈ peerProtocols) with
          | some protocol => .ok protocol
          | none => .noAck) := by
  obtain ⟨heap', set, tableBlock, dataBlock, -⟩ :=
    sslCtxSetAlpnProtos_of_succeeds table accepted (neverFails _) (neverFails _) (neverFails _)
  refine ⟨_, _, set, ?_⟩
  rw [alpnSelectCb_of_table (Nat.succ_ne_zero _) tableBlock dataBlock]
  simp [sslSelectNextProto, tableWellFormed, peerWellFormed]

/-- The example of the documentation: table `[h3, h2]`, peer `[h2]`, and `h2` is chosen. -/
theorem alpnSelectCb_table_order_h2 :
    (Oracle.NeverFails fun _ => .moved) ∧
    parseProtocolList [2, 104, 51, 2, 104, 50] = some [[104, 51], [104, 50]] ∧
    parseProtocolList [2, 104, 50] = some [[104, 50]] ∧
    ∃ ret ctx', sslCtxSetAlpnProtos (fun _ => .moved) [2, 104, 51, 2, 104, 50] true
        (AlpnContext.initial Heap.empty) = .ok (ret, ctx') ∧
      alpnSelectCb ctx' [2, 104, 50] =
        .ok (match ([[104, 51], [104, 50]] : List (List UInt8)).find? (· ∈ [[104, 50]]) with
          | some protocol => .ok protocol
          | none => .noAck) :=
  ⟨fun _ isFail => AllocOutcome.noConfusion isFail, rfl, rfl,
    alpnSelectCb_table_order (fun _ isFail => AllocOutcome.noConfusion isFail)
      (AlpnContext.initial Heap.empty) [2, 104, 51, 2, 104, 50] true [2, 104, 50] rfl rfl⟩

/--
With table `[h3, h2]` and the peer's list `[h2, h3]`, the callback answers
`h3`, the table's first choice, where the peer's order picks `h2`.
-/
theorem alpnSelectCb_prefers_table_order :
    ∃ ctx, sslCtxSetAlpnProtos (fun _ => .moved) [2, 104, 51, 2, 104, 50] true
        (AlpnContext.initial Heap.empty) = .ok (0, ctx) ∧
      alpnSelectCb ctx [2, 104, 50, 2, 104, 51] = .ok (.ok [104, 51]) ∧
      alpnSelectPeerOrder [2, 104, 51, 2, 104, 50] [2, 104, 50, 2, 104, 51] = some [104, 50] :=
  ⟨_, rfl, rfl, rfl⟩

/--
`ssl_ctx_set_alpn_protos` is not all-or-nothing.  For every context, list,
answer of the library and allocation outcome: when the JVM's copy of the
array or either `malloc` fails, the call goes through `NULL`; otherwise it returns `-1` exactly when the library
rejects the list and keeps the client list then, but in every case installs
the list as the server table, so that `alpn_select_cb` afterwards chooses from
it for every peer list.
-/
theorem sslCtxSetAlpnProtos_installs_rejected_list
    (oracle : Oracle) (protos : List UInt8) (accepted : Bool) (ctx : AlpnContext) :
    ((oracle ctx.heap.calls = .fail ∨ oracle (ctx.heap.calls + 1) = .fail ∨
        oracle (ctx.heap.calls + 2) = .fail) →
      sslCtxSetAlpnProtos oracle protos accepted ctx = .error (.invalidAccess 0)) ∧
    (oracle ctx.heap.calls ≠ .fail → oracle (ctx.heap.calls + 1) ≠ .fail → oracle (ctx.heap.calls + 2) ≠ .fail →
      ∃ ctx', sslCtxSetAlpnProtos oracle protos accepted ctx =
          .ok (if accepted then 0 else -1, ctx') ∧
        ctx'.clientProtos = (if accepted then protos else ctx.clientProtos) ∧
        ∀ peer, alpnSelectCb ctx' peer =
          .ok (match sslSelectNextProto protos peer with
            | some protocol => .ok protocol
            | none => .noAck)) := by
  refine ⟨fun failed => sslCtxSetAlpnProtos_of_fail failed accepted,
    fun copied tableAllocated dataAllocated => ?_⟩
  obtain ⟨heap', set, tableBlock, dataBlock, -⟩ :=
    sslCtxSetAlpnProtos_of_succeeds protos accepted copied tableAllocated dataAllocated
  exact ⟨_, set, rfl, alpnSelectCb_of_table (Nat.succ_ne_zero _) tableBlock dataBlock⟩

/--
Two set calls on one context, then its free: the context's free function
releases only the second table, and the first one's `alpn_protos_t` (at 2,
after the JVM's copy of the array at 1) and data buffer (at 3) stay allocated
in a heap that held neither.
-/
theorem sslCtxFree_leaks_replaced_table :
    ∃ ctx heap, setAlpnRun (fun _ => .moved) [([2, 104, 51], true), ([2, 104, 50], true)]
        (AlpnContext.initial Heap.empty) = .ok ctx ∧
      sslCtxFree ctx = .ok heap ∧
      heap.blocks 2 = some (.slots [some 3, some 3]) ∧ heap.blocks 3 = some (.chars [2, 104, 51]) ∧
      Heap.empty.blocks 2 = none ∧ Heap.empty.blocks 3 = none :=
  ⟨_, _, rfl, rfl, rfl, rfl, rfl, rfl⟩

end Gumdrop
