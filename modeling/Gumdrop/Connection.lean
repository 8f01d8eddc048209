import Gumdrop.AddressCodec
import Gumdrop.StreamSend

namespace Gumdrop

/-!
# Connection setup and packet input

`quiche_conn_new_with_tls` and `quiche_conn_recv` (in `quiche_jni.c`) decode
their two address arrays with `decode_address` into `sockaddr_storage`
variables on their stacks and hand both, with the lengths `decode_address`
returns, to quiche.  Neither looks at those lengths first.

quiche is modelled by what it is handed; what it returns (the new
connection, the number of bytes it read) is an input.  A stack
`sockaddr_storage` starts out indeterminate, so its bytes before
`decode_address` are inputs too.
-/

/-- A Java `byte[]` argument: its elements, and whether `GetByteArrayElements` hands them out. -/
structure ByteArrayArg where
  bytes : List UInt8
  available : Bool
  deriving Repr, DecidableEq

/-- `GetByteArrayElements(env, array, NULL)`: the elements, or `NULL`. -/
def ByteArrayArg.elements (array : ByteArrayArg) : Option (List UInt8) :=
  if array.available then some array.bytes else none

/-- `decode_address(env, array, &ss)`, with `ss` holding `stack` before the call. -/
def ByteArrayArg.decode (array : ByteArrayArg) (stack : List UInt8) : Except Fault (Nat × List UInt8) :=
  decodeAddress array.available array.bytes stack

/-- An address as quiche is handed it: the `sockaddr_storage` and the `socklen_t`. -/
structure SockAddrArg where
  storage : List UInt8
  length : Nat
  deriving Repr, DecidableEq

/-- What `quiche_conn_new_with_tls` is handed (the config and `SSL` pointers pass through). -/
structure EngineConnNew where
  scid : Option (List UInt8)
  scidLen : Nat
  odcid : Option (List UInt8)
  odcidLen : Nat
  localAddr : SockAddrArg
  peerAddr : SockAddrArg
  isServer : Bool
  deriving Repr, DecidableEq

/--
`Java_..._quiche_1conn_1new_1with_1tls`: the handle it returns and what quiche
is handed.  `odcid` is `none` for a `null` array; `conn` is quiche's answer.
-/
def quicheConnNewWithTls (scid : ByteArrayArg) (odcid : Option ByteArrayArg)
    (localAddr peerAddr : ByteArrayArg) (localStack peerStack : List UInt8) (isServer : Bool)
    (conn : Nat) : Except Fault (Nat × EngineConnNew) := do
  let (odcidBuf, odcidLen) := match odcid with
    | some array => (array.elements, array.bytes.length)
    | none => (none, 0)
  let (localLen, localSs) ← localAddr.decode localStack
  let (peerLen, peerSs) ← peerAddr.decode peerStack
  pure (conn, ⟨scid.elements, scid.bytes.length, odcidBuf, odcidLen, ⟨localSs, localLen⟩,
    ⟨peerSs, peerLen⟩, isServer⟩)

/-- What `quiche_conn_recv` is handed: the packet bytes it reads and the `recv_info` addresses. -/
structure EngineRecv where
  packet : List UInt8
  fromAddr : SockAddrArg
  toAddr : SockAddrArg
  deriving Repr, DecidableEq

/--
`Java_..._quiche_1conn_1recv`: the result and what quiche is handed, `none`
when it is not called.  `received` is quiche's answer.  `none` for the
buffer is a `null` reference, which `GetDirectBufferAddress` dereferences.
-/
def quicheConnRecv (buffer : Option ByteBuffer) (len : Int) (fromAddr toAddr : ByteArrayArg)
    (fromStack toStack : List UInt8) (received : Int) : Except Fault (Int × Option EngineRecv) :=
  match buffer with
  | some buffer =>
      if buffer.direct then do
        let (fromLen, fromSs) ← fromAddr.decode fromStack
        let (toLen, toSs) ← toAddr.decode toStack
        let packet ← readPayload buffer.backing buffer.offset (sizeOfJint len)
        pure (received, some ⟨packet, ⟨fromSs, fromLen⟩, ⟨toSs, toLen⟩⟩)
      else pure (-1, none)
  | none => .error .nullReference

/-! ## Undecodable addresses reach quiche -/

/--
Whatever `decode_address` makes of the two address arrays, quiche gets it:
for every pair of arrays on which decoding does not fault,
`quiche_conn_new_with_tls` calls the constructor with the two decoded
storages and their lengths and returns its handle, and `quiche_conn_recv` on
a direct buffer calls quiche with them whenever quiche can read the packet.
A length of 0, with the zeroed or never-written storage that goes with it,
is passed on like any other.
-/
theorem connection_hands_decoded_addresses
    (scid : ByteArrayArg) (odcid : Option ByteArrayArg) (first second : ByteArrayArg)
    (firstStack secondStack : List UInt8) (isServer : Bool) (conn : Nat)
    (buffer : ByteBuffer) (direct : buffer.direct = true) (len : Int) (received : Int)
    {firstLen secondLen : Nat} {firstSs secondSs : List UInt8}
    (firstDecoded : first.decode firstStack = .ok (firstLen, firstSs))
    (secondDecoded : second.decode secondStack = .ok (secondLen, secondSs)) :
    (∃ call, quicheConnNewWithTls scid odcid first second firstStack secondStack isServer conn =
        .ok (conn, call) ∧
      call.localAddr = ⟨firstSs, firstLen⟩ ∧ call.peerAddr = ⟨secondSs, secondLen⟩) ∧
    quicheConnRecv (some buffer) len first second firstStack secondStack received =
      (readPayload buffer.backing buffer.offset (sizeOfJint len)).map fun packet =>
        (received, some ⟨packet, ⟨firstSs, firstLen⟩, ⟨secondSs, secondLen⟩⟩) := by
  constructor
  · simp only [quicheConnNewWithTls, firstDecoded, secondDecoded, ok_bind]
    exact ⟨_, rfl, rfl, rfl⟩
  simp only [quicheConnRecv, direct, if_true, firstDecoded, secondDecoded, ok_bind]
  cases readPayload buffer.backing buffer.offset (sizeOfJint len) <;> rfl

/--
The theorem at an address of unknown family 9 and an array whose elements
cannot be had: both decode to length 0, and quiche is still called with them.
-/
theorem connection_hands_decoded_addresses_family_nine :
    let buffer : ByteBuffer := ⟨[1, 2, 3], 0, 3, 0, 3, true, false, by decide, by decide, by decide,
      by decide⟩
    let first : ByteArrayArg := ⟨[9, 0, 80], true⟩
    let second : ByteArrayArg := ⟨[6], false⟩
    buffer.direct = true ∧ first.decode [] = .ok (0, List.replicate 128 0) ∧
      second.decode [7] = .ok (0, [7]) ∧
      (∃ call, quicheConnNewWithTls first none first second [] [7] false 5 = .ok (5, call) ∧
        call.localAddr = ⟨List.replicate 128 0, 0⟩ ∧ call.peerAddr = ⟨[7], 0⟩) ∧
      quicheConnRecv (some buffer) 3 first second [] [7] 3 =
        (readPayload buffer.backing buffer.offset (sizeOfJint 3)).map fun packet =>
          (3, some ⟨packet, ⟨List.replicate 128 0, 0⟩, ⟨[7], 0⟩⟩) :=
  ⟨rfl, rfl, rfl, connection_hands_decoded_addresses ⟨[9, 0, 80], true⟩ none ⟨[9, 0, 80], true⟩
    ⟨[6], false⟩ [] [7] false 5 _ rfl 3 3 rfl rfl⟩

end Gumdrop
