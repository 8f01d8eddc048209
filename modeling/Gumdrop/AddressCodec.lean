import Gumdrop.CHeap

namespace Gumdrop

/-!
# Socket addresses from Java byte arrays

`decode_address` in `quiche_jni.c` turns a Java array
`[family][port:2 BE][address:4 or 16]` into a `struct sockaddr_storage`.
The storage is modelled as its 128 bytes, laid out as on Linux with a
little-endian host: `sa_family_t` in host order at offset 0, the port in
network order at 2, `sin_addr` at 4 and `sin6_addr` at 8 (after
`sin6_flowinfo`).  `AF_INET` is 2 and `AF_INET6` is 10.
-/

/-- Linux's `AF_INET`. -/
def afInet : Nat := 2

/-- Linux's `AF_INET6`. -/
def afInet6 : Nat := 10

/-- `sizeof(struct sockaddr_storage)`. -/
def sockaddrStorageSize : Nat := 128

/-- `sizeof(struct sockaddr_in)`. -/
def sockaddrInSize : Nat := 16

/-- `sizeof(struct sockaddr_in6)`. -/
def sockaddrIn6Size : Nat := 28

/-- A 16-bit field in host order, as it sits in memory on a little-endian host. -/
def hostU16 (value : Nat) : List UInt8 :=
  [UInt8.ofNat (value &&& 0xFF), UInt8.ofNat (value >>> 8)]

/-- `htons(value)`, as it sits in memory: most significant byte first. -/
def networkU16 (value : Nat) : List UInt8 :=
  [UInt8.ofNat (value >>> 8), UInt8.ofNat (value &&& 0xFF)]

/-- `bytes[index]` of the array `GetByteArrayElements` handed out; past its end is undefined. -/
def loadElement (bytes : List UInt8) (index : Nat) : Except Fault UInt8 :=
  match bytes[index]? with
  | some byte => .ok byte
  | none => .error (.bufferOverread index)

/--
`decode_address(env, addr_arr, ss)`: the returned `socklen_t` and the
storage afterwards.  `available` is whether `GetByteArrayElements` succeeds;
when it does not, `ss` is left as it was.
-/
def decodeAddress (available : Bool) (bytes : List UInt8) (storage : List UInt8) :
    Except Fault (Nat × List UInt8) :=
  if !available then .ok (0, storage)
  else do
    let storage := List.replicate sockaddrStorageSize (0 : UInt8)
    let family ← loadElement bytes 0
    let high ← loadElement bytes 1
    let low ← loadElement bytes 2
    let port := (high.toNat <<< 8) ||| low.toNat
    if family = 4 ∧ bytes.length ≥ 7 then
      let storage := writeRange storage 0 (hostU16 afInet)
      let storage := writeRange storage 2 (networkU16 port)
      let storage := writeRange storage 4 ((bytes.drop 3).take 4)
      pure (sockaddrInSize, storage)
    else if family = 6 ∧ bytes.length ≥ 19 then
      let storage := writeRange storage 0 (hostU16 afInet6)
      let storage := writeRange storage 2 (networkU16 port)
      let storage := writeRange storage 8 ((bytes.drop 3).take 16)
      pure (sockaddrIn6Size, storage)
    else pure (0, storage)

/-! ## Endpoints as the documentation lays them out -/

/-- An address family of an endpoint. -/
inductive Family where
  | ipv4
  | ipv6
  deriving Repr, DecidableEq

/-- The family byte of the wire form. -/
def Family.tag : Family → UInt8
  | ipv4 => 4
  | ipv6 => 6

/-- The length of an address of the family. -/
def Family.addressLength : Family → Nat
  | ipv4 => 4
  | ipv6 => 16

/-- An endpoint: a family, a 16-bit port and an address of the family's length. -/
structure Endpoint where
  family : Family
  port : Nat
  address : List UInt8
  port_lt : port < 2 ^ 16
  address_length : address.length = family.addressLength

/-- `encode(Endpoint)`: `[family:1][port:2, big-endian][address]`. -/
def Endpoint.encode (endpoint : Endpoint) : List UInt8 :=
  endpoint.family.tag :: UInt8.ofNat (endpoint.port / 256) :: UInt8.ofNat (endpoint.port % 256) ::
    endpoint.address

/-- The `sockaddr` an endpoint should become: family, port and address in place, every other byte zero. -/
def sockaddrImage (endpoint : Endpoint) : List UInt8 :=
  match endpoint.family with
  | .ipv4 =>
      hostU16 afInet ++ networkU16 endpoint.port ++ endpoint.address ++ List.replicate 120 0
  | .ipv6 =>
      hostU16 afInet6 ++ networkU16 endpoint.port ++ List.replicate 4 0 ++ endpoint.address ++
        List.replicate 104 0

/-- The length `decode_address` should return for a family. -/
def Family.sockaddrSize : Family → Nat
  | ipv4 => sockaddrInSize
  | ipv6 => sockaddrIn6Size

/-- Reading an endpoint back from a `sockaddr`: the family field, `ntohs` of the port field, the address bytes. -/
def readEndpoint : List UInt8 → Option (Family × Nat × List UInt8)
  | family0 :: family1 :: port0 :: port1 :: rest =>
      let family := family0.toNat + family1.toNat * 256
      let port := port0.toNat * 256 + port1.toNat
      if family = afInet then some (.ipv4, port, rest.take 4)
      else if family = afInet6 then some (.ipv6, port, (rest.drop 4).take 16)
      else none
  | _ => none

/-! ## The round trip -/

/-- Shifting a byte up by eight bits and or-ing in a byte adds them. -/
theorem shiftLeft_or_of_lt {high low : Nat} (small : low < 256) :
    high <<< 8 ||| low = 256 * high + low := by
  have smallBits : low < 2 ^ 8 := small
  apply Nat.eq_of_testBit_eq
  intro bit
  rw [Nat.testBit_or, Nat.testBit_shiftLeft, show 256 * high = 2 ^ 8 * high from rfl,
    Nat.testBit_mul_pow_two_add _ smallBits]
  by_cases below : bit < 8
  · simp [below]
  · have lowBit := Nat.testBit_lt_two_pow
      (Nat.lt_of_lt_of_le smallBits (Nat.pow_le_pow_right (by decide) (Nat.le_of_not_lt below)))
    simp [below, lowBit, Nat.le_of_not_lt below]

/-- The two wire bytes of a port make the port again. -/
theorem port_of_bytes {port : Nat} (small : port < 2 ^ 16) :
    (UInt8.ofNat (port / 256)).toNat <<< 8 ||| (UInt8.ofNat (port % 256)).toNat = port := by
  rw [toNat_ofNat_byte (show port / 256 < 256 by omega), toNat_ofNat_mod,
    shiftLeft_or_of_lt (Nat.mod_lt port (show 0 < 256 by decide))]
  omega

/-- Each byte of a 16-bit field in memory is the matching base-256 digit. -/
theorem toNat_u16Bytes (value : Nat) :
    (UInt8.ofNat (value &&& 0xFF)).toNat = value % 256 ∧
      (value < 2 ^ 16 → (UInt8.ofNat (value >>> 8)).toNat = value / 256) := by
  refine ⟨?_, fun small => ?_⟩
  · rw [show (0xFF : Nat) = 2 ^ 8 - 1 from rfl, Nat.and_pow_two_sub_one_eq_mod]
    exact toNat_ofNat_mod value
  · rw [Nat.shiftRight_eq_div_pow]
    exact toNat_ofNat_byte (show value / 2 ^ 8 < 256 by omega)

/-- With the elements handed out, `decode_address` of an encoding and any bytes after it fills the storage with the endpoint's image. -/
theorem decodeAddress_encode (endpoint : Endpoint) (suffix storage : List UInt8) :
    decodeAddress true (endpoint.encode ++ suffix) storage =
      .ok (endpoint.family.sockaddrSize, sockaddrImage endpoint) := by
  obtain ⟨family, port, address, portSmall, addressLength⟩ := endpoint
  have portBytes := port_of_bytes portSmall
  cases family <;> simp only [Family.addressLength] at addressLength <;>
    simp [decodeAddress, Endpoint.encode, Family.tag, loadElement, portBytes, addressLength,
      sockaddrStorageSize, writeRange, sockaddrImage, Family.sockaddrSize, hostU16, networkU16]

/-- An endpoint's `sockaddr` reads back as the endpoint. -/
theorem readEndpoint_sockaddrImage (endpoint : Endpoint) :
    readEndpoint (sockaddrImage endpoint) = some (endpoint.family, endpoint.port, endpoint.address) := by
  obtain ⟨family, port, address, portSmall, addressLength⟩ := endpoint
  have ⟨lowByte, highByteOfSmall⟩ := toNat_u16Bytes port
  have highByte := highByteOfSmall portSmall
  have familyBytes : (UInt8.ofNat (afInet &&& 0xFF)).toNat = afInet ∧
      (UInt8.ofNat (afInet >>> 8)).toNat = 0 ∧ (UInt8.ofNat (afInet6 &&& 0xFF)).toNat = afInet6 ∧
      (UInt8.ofNat (afInet6 >>> 8)).toNat = 0 := by
    decide
  cases family <;> simp only [Family.addressLength] at addressLength <;>
    simp only [sockaddrImage, readEndpoint, hostU16, networkU16, familyBytes, List.cons_append,
      List.nil_append, Nat.zero_mul, Nat.add_zero, lowByte, highByte] <;>
    simp [afInet, afInet6, addressLength] <;>
    omega

/--
For every endpoint, any bytes after its encoding and either outcome of
`GetByteArrayElements`: when it hands out the elements, `decode_address`
returns `sizeof(struct sockaddr_in)` or `sizeof(struct sockaddr_in6)` and
fills the storage with the family, the port in network order and the
address, every other byte zero, and reading the endpoint back from it gives
the endpoint; when it returns `NULL`, the call returns 0 and leaves the
storage as it was.
-/
theorem decodeAddress_round_trip (available : Bool) (endpoint : Endpoint) (suffix storage : List UInt8) :
    decodeAddress available (endpoint.encode ++ suffix) storage =
        (if available then .ok (endpoint.family.sockaddrSize, sockaddrImage endpoint)
          else .ok (0, storage)) ∧
      readEndpoint (sockaddrImage endpoint) =
        some (endpoint.family, endpoint.port, endpoint.address) := by
  refine ⟨?_, readEndpoint_sockaddrImage endpoint⟩
  cases available
  · rfl
  · exact decodeAddress_encode endpoint suffix storage

/--
`127.0.0.1:443` when `GetByteArrayElements` returns `NULL`: `decode_address`
returns 0, not `sizeof(struct sockaddr_in)`, and the storage is as it was.
-/
theorem decodeAddress_loopback_unavailable :
    decodeAddress false (Endpoint.encode ⟨.ipv4, 443, [127, 0, 0, 1], by decide, rfl⟩) [] = .ok (0, []) ∧
      Family.ipv4.sockaddrSize = 16 :=
  ⟨rfl, rfl⟩

/-! ## What `decode_address` accepts -/

/-- The grammar of the documentation: family 4 with at least 7 bytes, or family 6 with at least 19. -/
def AddressGrammar (bytes : List UInt8) : Prop :=
  (bytes[0]? = some 4 ∧ 7 ≤ bytes.length) ∨ (bytes[0]? = some 6 ∧ 19 ≤ bytes.length)

/-- On an array of at least three bytes, `decode_address` answers the grammar and zeroes what it rejects. -/
theorem decodeAddress_of_three_le
    {bytes : List UInt8} (storage : List UInt8) (long : 3 ≤ bytes.length) :
    ∃ length result, decodeAddress true bytes storage = .ok (length, result) ∧
      (length ≠ 0 ↔ AddressGrammar bytes) ∧
      (length = 0 → result = List.replicate sockaddrStorageSize 0) := by
  obtain ⟨family, high, low, rest, rfl⟩ : ∃ family high low rest, bytes = family :: high :: low :: rest :=
    match bytes, long with
    | family :: high :: low :: rest, _ => ⟨family, high, low, rest, rfl⟩
  simp only [decodeAddress, Bool.not_true, loadElement, List.getElem?_cons_zero,
    List.getElem?_cons_succ, ok_bind, AddressGrammar, List.length_cons]
  by_cases ipv4 : family = 4 ∧ 7 ≤ rest.length + 1 + 1 + 1
  · rw [if_pos ipv4]
    exact ⟨_, _, rfl, by simp [ipv4, sockaddrInSize], fun isZero => absurd isZero (by decide)⟩
  · by_cases ipv6 : family = 6 ∧ 19 ≤ rest.length + 1 + 1 + 1
    · rw [if_neg ipv4, if_pos ipv6]
      exact ⟨_, _, rfl, by simp [ipv6, sockaddrIn6Size], fun isZero => absurd isZero (by decide)⟩
    · rw [if_neg ipv4, if_neg ipv6]
      exact ⟨_, _, rfl, by simp only [ne_eq, not_true_eq_false, false_iff, Option.some.injEq]; tauto,
        fun _ => rfl⟩

/--
`decode_address` reads `bytes[0]`, `bytes[1]` and `bytes[2]` before it looks
at the length.  For every array and every outcome of
`GetByteArrayElements`: when the elements cannot be had it returns 0 and
leaves the storage as it was, not zeroed; an array of fewer than three bytes
is read past its end; and every longer array is read in bounds, gives a
non-zero length exactly when it fits the grammar, and leaves the storage all
zero when it does not.
-/
theorem decodeAddress_reads_before_length_check
    (available : Bool) (bytes storage : List UInt8) :
    (available = false → decodeAddress available bytes storage = .ok (0, storage)) ∧
    (available = true → bytes.length < 3 →
      decodeAddress available bytes storage = .error (.bufferOverread bytes.length)) ∧
    (available = true → 3 ≤ bytes.length →
      ∃ length result, decodeAddress available bytes storage = .ok (length, result) ∧
        (length ≠ 0 ↔ AddressGrammar bytes) ∧
        (length = 0 → result = List.replicate sockaddrStorageSize 0)) := by
  refine ⟨fun unavailable => by simp [decodeAddress, unavailable], fun obtained short => ?_,
    fun obtained long => obtained ▸ decodeAddress_of_three_le storage long⟩
  subst obtained
  match bytes, short with
  | [], _ => rfl
  | [_], _ => rfl
  | [_, _], _ => rfl

end Gumdrop
