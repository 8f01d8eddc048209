import Gumdrop.Jni

namespace Gumdrop

/-!
# Platform nameservers

`getSystemNameservers` (in `dns_jni.c`) returns the system's DNS servers as a
`String[]`, or `NULL`.  On POSIX systems it calls `res_init()` and renders the
`sin_addr` of each of the first `_res.nscount` slots of `_res.nsaddr_list`
with `inet_ntop(AF_INET, …)` into a local buffer of `INET6_ADDRSTRLEN` bytes.
On Windows it calls `GetNetworkParams` once for the buffer size and once into
a `malloc`ed buffer, counts the nodes of `DnsServerList` whose address string
is not empty, and copies those strings into an array of that length.

The resolver state and the adapter information are inputs.  The JVM's
allocations (`NewObjectArray`, `NewStringUTF`) draw their outcomes from the
oracle, as `malloc` does, and the strings `NewStringUTF` makes are the
JVM's (`Jvm`).  Neither branch checks the array `NewObjectArray` returns
before `SetObjectArrayElement`.
-/

/-! ## `inet_ntop(AF_INET, …)` -/

/-- A `struct in_addr`: the four address bytes, in network order. -/
structure InAddr where
  b0 : UInt8
  b1 : UInt8
  b2 : UInt8
  b3 : UInt8
  deriving Repr, DecidableEq

/-- The ASCII character of a decimal digit. -/
def asciiDigit (digit : Nat) : UInt8 :=
  UInt8.ofNat (48 + digit)

/-- ASCII `.`. -/
def asciiDot : UInt8 := 46

/-- `%u` of a byte: its decimal digits, most significant first, with no leading zero. -/
def byteDecimal (byte : UInt8) : List UInt8 :=
  if byte.toNat < 10 then [asciiDigit byte.toNat]
  else if byte.toNat < 100 then [asciiDigit (byte.toNat / 10), asciiDigit (byte.toNat % 10)]
  else [asciiDigit (byte.toNat / 100), asciiDigit (byte.toNat / 10 % 10), asciiDigit (byte.toNat % 10)]

/-- The `"%u.%u.%u.%u"` text glibc's `inet_ntop4` formats. -/
def dottedQuad (address : InAddr) : List UInt8 :=
  [asciiDot].intercalate
    [byteDecimal address.b0, byteDecimal address.b1, byteDecimal address.b2, byteDecimal address.b3]

/-- `INET6_ADDRSTRLEN`, the size of the buffer `inet_ntop` writes into. -/
def inet6AddrStrLen : Nat := 46

/-- `inet_ntop(AF_INET, &addr, buf, size)`: the text, or `NULL` when it does not fit with its terminator. -/
def inetNtop (address : InAddr) (size : Nat) : Option (List UInt8) :=
  if (dottedQuad address).length < size then some (dottedQuad address) else none

/-! ## The POSIX branch -/

/-- `MAXNS`: the number of slots of `_res.nsaddr_list`. -/
def maxns : Nat := 3

/--
The resolver state `res_init()` leaves: `_res.nscount`, at most `MAXNS`, and
the `sin_addr` of each slot of `_res.nsaddr_list`.
-/
structure ResState where
  nscount : Int
  nsaddrList : List InAddr
  nsaddr_length : nsaddrList.length = maxns
  nscount_le : nscount ≤ maxns

/-- `((struct sockaddr_in *)&_res.nsaddr_list[index])->sin_addr`; past `MAXNS` it is undefined. -/
def nsaddrAt (state : ResState) (index : Nat) : Except Fault InAddr :=
  match state.nsaddrList[index]? with
  | some address => .ok address
  | none => .error (.bufferOverread index)

/-- The `for (int i = 0; i < nscount; i++)` loop, from `index` with `remaining` iterations left. -/
def nameserverLoop (jvm : Jvm) (oracle : Oracle) (state : ResState) (index : Nat) :
    Nat → Option (List (Option JString)) → Heap →
      Except Fault (Option (List (Option JString)) × Heap)
  | 0, result, heap =>
      .ok (result, heap)
  | remaining + 1, result, heap => do
      let address ← nsaddrAt state index
      match inetNtop address inet6AddrStrLen with
      | none => nameserverLoop jvm oracle state (index + 1) remaining result heap
      | some text =>
          let (jaddr, heap) := newStringUTFOf jvm oracle text heap
          let result ← setObjectArrayElement result index jaddr
          nameserverLoop jvm oracle state (index + 1) remaining result heap

/-- `getSystemNameservers` on POSIX: `resInit` is what `res_init()` returns. -/
def getSystemNameserversPosix (jvm : Jvm) (oracle : Oracle) (resInit : Int) (state : ResState) (heap : Heap) :
    Except Fault (Option (List (Option JString)) × Heap) :=
  if resInit ≠ 0 then .ok (none, heap)
  else if state.nscount ≤ 0 then .ok (none, heap)
  else
    let (result, heap) := newObjectArray oracle state.nscount.toNat heap
    nameserverLoop jvm oracle state 0 state.nscount.toNat result heap

/-! ## The Windows branch -/

/-- `ERROR_BUFFER_OVERFLOW`. -/
def errorBufferOverflow : Nat := 111

/-- `NO_ERROR`. -/
def noError : Nat := 0

/--
What `GetNetworkParams` answers: the first call's result, the second call's
result, and the bytes of the `IpAddress.String` buffer of each node of
`DnsServerList`, in order.
-/
structure NetworkParams where
  sizeResult : Nat
  bufLen : Nat
  fetchResult : Nat
  dnsServerList : List (List UInt8)

/-- `addr->IpAddress.String[0] != '\0'`. -/
def hasAddress : List UInt8 → Bool
  | byte :: _ => byte != 0
  | [] => false

/-- The first loop: the number of nodes with an address. -/
def countServers : List (List UInt8) → Nat
  | [] => 0
  | server :: rest => if hasAddress server then countServers rest + 1 else countServers rest

/-- The second loop, `while (addr != NULL && i < count)`, from node list `servers` and index `i`. -/
def fillServers (jvm : Jvm) (oracle : Oracle) (count : Nat) :
    List (List UInt8) → Nat → Option (List (Option JString)) → Heap →
      Except Fault (Option (List (Option JString)) × Heap)
  | [], _, result, heap =>
      .ok (result, heap)
  | server :: rest, i, result, heap =>
      if i < count then
        if hasAddress server then do
          let (jaddr, heap) := newStringUTFOf jvm oracle server heap
          let result ← setObjectArrayElement result i jaddr
          fillServers jvm oracle count rest (i + 1) result heap
        else fillServers jvm oracle count rest i result heap
      else .ok (result, heap)

/-- `getSystemNameservers` on Windows. -/
def getSystemNameserversWindows (jvm : Jvm) (oracle : Oracle) (params : NetworkParams) (heap : Heap) :
    Except Fault (Option (List (Option JString)) × Heap) :=
  if params.sizeResult ≠ errorBufferOverflow then .ok (none, heap)
  else
    let (info, heap) := malloc oracle (.chars (List.replicate params.bufLen 0)) heap
    if info = 0 then .ok (none, heap)
    else if params.fetchResult ≠ noError then do
      let heap ← free info heap
      pure (none, heap)
    else
      let count := countServers params.dnsServerList
      if count = 0 then do
        let heap ← free info heap
        pure (none, heap)
      else do
        let (result, heap) := newObjectArray oracle count heap
        let (result, heap) ← fillServers jvm oracle count params.dnsServerList 0 result heap
        let heap ← free info heap
        pure (result, heap)

/--
What the Windows branch returns, from the number of the first allocation
call: `NULL` when a query or the buffer fails or no server has an address, a
fault when the array cannot be allocated, and otherwise the servers with an
address, in list order, as the strings the JVM makes of their text, `null`
where the JVM fails that string.
-/
def windowsNameservers (jvm : Jvm) (oracle : Oracle) (params : NetworkParams) (call : Nat) :
    Except Fault (Option (List (Option JString))) :=
  let listed := params.dnsServerList.filter hasAddress
  if params.sizeResult ≠ errorBufferOverflow ∨ oracle call = .fail ∨ params.fetchResult ≠ noError ∨
      listed = [] then .ok none
  else if oracle (call + 1) = .fail then .error .nullReference
  else .ok (some (allocatedStrings oracle (call + 2) (listed.map (truncatedString jvm))))

/-- The first loop counts the nodes with an address. -/
theorem countServers_eq (servers : List (List UInt8)) :
    countServers servers = (servers.filter hasAddress).length := by
  induction servers with
  | nil =>
      rfl
  | cons server rest inductionHypothesis =>
      by_cases listed : hasAddress server <;> simp [countServers, listed, inductionHypothesis]

/--
The second loop, started with `count` the number of nodes with an address,
fills the array's nulls, in list order, with the nodes' address strings.
-/
theorem fillServers_fills
    (jvm : Jvm) (oracle : Oracle) (count : Nat) :
    ∀ (servers : List (List UInt8)) (done : List (Option JString)) (heap : Heap),
      count = done.length + (servers.filter hasAddress).length →
      fillServers jvm oracle count servers done.length
          (some (done ++ List.replicate (servers.filter hasAddress).length none)) heap =
        .ok (some (done ++ allocatedStrings oracle heap.calls ((servers.filter hasAddress).map (truncatedString jvm))),
          heap.advance (servers.filter hasAddress).length)
  | [], done, heap, _ => by
      simp [fillServers, allocatedStrings]
  | server :: rest, done, heap, sized => by
      by_cases listed : hasAddress server
      · have next := fillServers_fills jvm oracle count rest
          (done ++ [allocatedString oracle heap.calls (truncatedString jvm server)])
          heap.tick (by simp [listed] at sized; simp; omega)
        simp only [List.length_append, List.length_singleton, List.append_assoc, List.singleton_append,
          Heap.tick_advance, Heap.calls_tick] at next
        simp only [List.filter_cons_of_pos listed, List.length_cons] at sized ⊢
        simp only [fillServers, if_pos (show done.length < count by omega), listed, if_true,
          newStringUTFOf, ok_bind, setObjectArrayElement_next, List.append_assoc,
          List.singleton_append, next, List.map_cons, allocatedStrings]
      · have unlisted : (server :: rest).filter hasAddress = rest.filter hasAddress :=
          List.filter_cons_of_neg (by simpa using listed)
        rw [unlisted] at sized ⊢
        by_cases inside : done.length < count
        · simp only [fillServers, if_pos inside, listed, Bool.false_eq_true, if_false]
          exact fillServers_fills jvm oracle count rest done heap sized
        · have none : rest.filter hasAddress = [] := List.length_eq_zero.mp (by omega)
          simp [fillServers, inside, none, allocatedStrings]

/-- With a `NULL` array the second loop's first store is a JNI call on `null`. -/
theorem fillServers_null
    (jvm : Jvm) (oracle : Oracle) (count : Nat) :
    ∀ (servers : List (List UInt8)) (i : Nat) (heap : Heap),
      i < count → servers.filter hasAddress ≠ [] →
      fillServers jvm oracle count servers i none heap = .error .nullReference
  | [], _, _, _, listed => absurd rfl listed
  | server :: rest, i, heap, inside, listed => by
      by_cases named : hasAddress server
      · simp [fillServers, inside, named, newStringUTFOf, setObjectArrayElement]
      · rw [List.filter_cons_of_neg (by simpa using named)] at listed
        simp only [fillServers, if_pos inside, named, Bool.false_eq_true, if_false]
        exact fillServers_null jvm oracle count rest i heap inside listed

/--
For every answer of `GetNetworkParams` and every allocation outcome,
`getSystemNameservers` returns `NULL` when a query or the buffer fails or no
server has an address; when the JVM cannot allocate the array it calls
`SetObjectArrayElement` on `NULL`; otherwise the array holds the strings the
JVM makes of the servers with an address, in list order.  Whenever it
returns, the buffer it allocated is freed and every other block is as before.
-/
theorem getSystemNameserversWindows_spec
    (jvm : Jvm) (oracle : Oracle) (params : NetworkParams) (heap : Heap) :
    (getSystemNameserversWindows jvm oracle params heap).map Prod.fst =
        windowsNameservers jvm oracle params heap.calls ∧
      ∀ result heap', getSystemNameserversWindows jvm oracle params heap = .ok (result, heap') →
        heap'.blocks = heap.blocks := by
  unfold getSystemNameserversWindows windowsNameservers
  rw [countServers_eq]
  by_cases noQuery : params.sizeResult ≠ errorBufferOverflow
  · simp [noQuery]
  by_cases noBuffer : oracle heap.calls = .fail
  · simp [noQuery, noBuffer, malloc]
  have infoFresh : heap.next ≠ 0 := Nat.pos_iff_ne_zero.mp heap.next_pos
  simp only [noQuery, noBuffer, malloc_of_ne_fail oracle noBuffer, if_neg infoFresh, if_false,
    false_or]
  obtain ⟨released, releaseInfo, releasedBlocks⟩ := free_of_alloc heap _ (heap.alloc
    (.chars (List.replicate params.bufLen 0))).tick rfl
  by_cases fetchFailed : params.fetchResult ≠ noError
  · simp [fetchFailed, releaseInfo, releasedBlocks]
  by_cases empty : params.dnsServerList.filter hasAddress = []
  · simp [fetchFailed, empty, releaseInfo, releasedBlocks]
  have counted : (params.dnsServerList.filter hasAddress).length ≠ 0 := by
    simpa [List.length_eq_zero] using empty
  by_cases arrayFails : oracle (heap.calls + 1) = .fail
  · simp [fetchFailed, empty, counted, arrayFails, newObjectArray_of_fail,
      fillServers_null jvm oracle _ _ 0 _ (Nat.pos_of_ne_zero counted) empty]
  · have arrayAllocated :
        oracle (heap.alloc (.chars (List.replicate params.bufLen 0))).tick.calls ≠ .fail := by
      simpa using arrayFails
    have filled := fillServers_fills jvm oracle _ params.dnsServerList [] ((heap.alloc
      (.chars (List.replicate params.bufLen 0))).tick.tick) rfl
    obtain ⟨freed, freeInfo, freedBlocks⟩ := free_of_alloc heap _ (((heap.alloc
      (.chars (List.replicate params.bufLen 0))).tick.tick).advance
      (params.dnsServerList.filter hasAddress).length) rfl
    simp only [List.length_nil, List.nil_append, Nat.zero_add] at filled
    simp only [fetchFailed, empty, counted, arrayFails, not_false_eq_true, not_true_eq_false,
      if_false, or_self, newObjectArray_of_ne_fail arrayAllocated, filled, ok_bind, freeInfo,
      pure_eq_ok]
    refine ⟨rfl, ?_⟩
    rintro _ _ ⟨⟩
    exact freedBlocks

end Gumdrop
