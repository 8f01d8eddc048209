import Gumdrop.Jni

namespace Gumdrop

/-!
# Sending stream data from a `ByteBuffer`

`quiche_conn_stream_send` (in `quiche_jni.c`) and `quiche_h3_send_body` (in
`h3_jni.c`) both take a `ByteBuffer`, a length and a fin flag.
`quiche_conn_stream_send` requires a direct buffer and hands the engine the
buffer's base address; `quiche_h3_send_body` sends `(NULL, 0)` for a zero
length without touching the buffer, and otherwise starts at the buffer's
position, through the direct address or through `array()` and
`arrayOffset()` of a heap buffer, whose elements `GetByteArrayElements` may
fail to hand out.  `GetDirectBufferAddress` of a `null` reference is a JNI
call on `null`.

The engines are modelled by what they are handed: the payload bytes they
read and the fin flag.  Their return value is an input.
-/

/-- `QUICHE_ERR_DONE`. -/
def quicheErrDone : Int := -1

/--
A `java.nio.ByteBuffer`: its memory (native memory for a direct buffer, the
backing array otherwise), where the buffer starts in it (`arrayOffset()` for a
heap buffer), its capacity, position and limit, whether it is direct, and
whether `array()` can be called on it.
-/
structure ByteBuffer where
  backing : List UInt8
  offset : Nat
  capacity : Nat
  position : Nat
  limit : Nat
  direct : Bool
  hasArray : Bool
  position_le : position ≤ limit
  limit_le : limit ≤ capacity
  capacity_lt : capacity < 2 ^ 31
  fits : offset + capacity ≤ backing.length

/-- The buffer's bytes `[start, start + count)`. -/
def ByteBuffer.bytes (buffer : ByteBuffer) (start count : Nat) : List UInt8 :=
  (buffer.backing.drop (buffer.offset + start)).take count

/-- What an engine is handed: the bytes it reads and the fin flag. -/
structure EngineSend where
  payload : List UInt8
  fin : Bool
  deriving Repr, DecidableEq

/-- The engine reading `length` bytes from `start` of the buffer's memory. -/
def readPayload (backing : List UInt8) (start length : Nat) : Except Fault (List UInt8) :=
  if start + length ≤ backing.length then .ok ((backing.drop start).take length)
  else .error (.bufferOverread (start + length))

/-- `(size_t)len` of a `jint`. -/
def sizeOfJint (len : Int) : Nat :=
  (len % 2 ^ 64).toNat

/--
`Java_..._quiche_1conn_1stream_1send`: the JNI result and what the engine is
handed (`none` when it is not called); `sent` is the engine's return value.
`none` for the buffer is a `null` reference, which `GetDirectBufferAddress`
dereferences.
-/
def quicheConnStreamSend (buffer : Option ByteBuffer) (len : Int) (fin : Bool) (sent : Int) :
    Except Fault (Int × Option EngineSend) :=
  match buffer with
  | some buffer =>
      if buffer.direct then do
        let payload ← readPayload buffer.backing buffer.offset (sizeOfJint len)
        pure (sent, some ⟨payload, fin⟩)
      else pure (-1, none)
  | none => .error .nullReference

/--
`Java_..._quiche_1h3_1send_1body`: the JNI result and what the engine is
handed; `available` is whether `GetByteArrayElements` hands out the elements
of a heap buffer's array, and `written` is the engine's return value.  A
`null` buffer with a non-zero length is a method call on `null`.
-/
def quicheH3SendBody (buffer : Option ByteBuffer) (len : Int) (fin available : Bool) (written : Int) :
    Except Fault (Int × Option EngineSend) :=
  if len = 0 then pure (written, some ⟨[], fin⟩)
  else
    match buffer with
    | none => .error .nullReference
    | some buffer =>
        let pos := buffer.position
        if buffer.direct then do
          let payload ← readPayload buffer.backing (buffer.offset + pos) (sizeOfJint len)
          pure (written, some ⟨payload, fin⟩)
        else if !buffer.hasArray then pure (quicheErrDone, none)
        else if !available then pure (quicheErrDone, none)
        else do
          let offset := buffer.offset + pos
          let payload ← readPayload buffer.backing offset (sizeOfJint len)
          pure (written, some ⟨payload, fin⟩)

/-! ## What the engines are handed -/

/-- A length within the buffer survives the cast to `size_t`. -/
theorem sizeOfJint_of_le {buffer : ByteBuffer} {len : Nat} (fits : len ≤ buffer.capacity) :
    sizeOfJint len = len := by
  have := buffer.capacity_lt
  simp only [sizeOfJint]
  omega

/-- The engine reads the buffer's bytes from `start` when they lie in the buffer. -/
theorem readPayload_bytes {buffer : ByteBuffer} {start len : Nat} (fits : start + len ≤ buffer.capacity) :
    readPayload buffer.backing (buffer.offset + start) len = .ok (buffer.bytes start len) := by
  have := buffer.fits
  simp only [readPayload, ByteBuffer.bytes, if_pos (show buffer.offset + start + len ≤ buffer.backing.length by omega)]

/--
`quiche_h3_send_body` on a buffer it can read: the engine is called unless
the heap path's `GetByteArrayElements` fails, and whichever of its three
paths it takes, it gets the buffer's bytes `[position, position + len)`.
-/
theorem quicheH3SendBody_of_callable {buffer : ByteBuffer} {len : Nat}
    (fits : buffer.position + len ≤ buffer.limit)
    (callable : buffer.direct = true ∨ buffer.hasArray = true) (fin available : Bool) (written : Int) :
    quicheH3SendBody (some buffer) len fin available written =
      if len = 0 ∨ buffer.direct ∨ available then .ok (written, some ⟨buffer.bytes buffer.position len, fin⟩)
      else .ok (quicheErrDone, none) := by
  by_cases empty : len = 0
  · subst empty
    simp [quicheH3SendBody, ByteBuffer.bytes]
  have inBuffer : buffer.position + len ≤ buffer.capacity := Nat.le_trans fits buffer.limit_le
  have size := sizeOfJint_of_le (show len ≤ buffer.capacity by omega)
  have payload := readPayload_bytes inBuffer
  have nonzero : (len : Int) ≠ 0 := by omega
  rcases callable with direct | array
  · simp [quicheH3SendBody, direct, size, payload, nonzero]
  · cases direct : buffer.direct <;> cases available <;>
      simp [quicheH3SendBody, direct, array, size, payload, nonzero, empty]

/--
Both paths pass the fin flag through whenever they call their engine, but
not the same bytes: for a length `n` with `position + n ≤ limit`,
`quiche_conn_stream_send` calls its engine only for a direct buffer and hands
it the bytes `[0, n)`, and a `null` buffer is a JNI call on `null`;
`quiche_h3_send_body` hands its engine the bytes `[position, position + n)`
of a direct buffer or of a heap buffer with an accessible array whose
elements `GetByteArrayElements` hands out, and returns `QUICHE_ERR_DONE`
without calling it when that fails; and a zero-length `quiche_h3_send_body`
reaches the engine with no bytes, whatever buffer is passed.
-/
theorem streamSend_sendBody_payloads
    (buffer : ByteBuffer) (len : Nat) (fits : buffer.position + len ≤ buffer.limit)
    (fin available : Bool) (sent written : Int) :
    quicheConnStreamSend (some buffer) len fin sent =
        (if buffer.direct then .ok (sent, some ⟨buffer.bytes 0 len, fin⟩) else .ok (-1, none)) ∧
      quicheConnStreamSend none len fin sent = .error .nullReference ∧
      (buffer.direct = true ∨ buffer.hasArray = true →
        quicheH3SendBody (some buffer) len fin available written =
          if len = 0 ∨ buffer.direct ∨ available then
            .ok (written, some ⟨buffer.bytes buffer.position len, fin⟩)
          else .ok (quicheErrDone, none)) ∧
      ∀ target : Option ByteBuffer,
        quicheH3SendBody target 0 fin available written = .ok (written, some ⟨[], fin⟩) := by
  refine ⟨?_, rfl, fun callable => quicheH3SendBody_of_callable fits callable fin available written,
    fun _ => rfl⟩
  have inBuffer : 0 + len ≤ buffer.capacity := by have := buffer.limit_le; omega
  cases direct : buffer.direct
  · simp [quicheConnStreamSend, direct]
  · have payload : readPayload buffer.backing buffer.offset len = .ok (buffer.bytes 0 len) := by
      simpa using readPayload_bytes inBuffer
    simp [quicheConnStreamSend, direct, sizeOfJint_of_le (show len ≤ buffer.capacity by omega), payload]

/--
A direct buffer `[1, 2, 3]` at position 1: sending two bytes,
`quiche_conn_stream_send` hands over `[1, 2]` and `quiche_h3_send_body` the
buffer's bytes `[2, 3]`.  And a zero-length fin with the same bytes in a heap
buffer reaches the HTTP/3 engine but not the stream engine.
-/
theorem streamSend_ignores_position :
    let buffer : ByteBuffer := ⟨[1, 2, 3], 0, 3, 1, 3, true, false, by decide, by decide, by decide,
      by decide⟩
    quicheConnStreamSend (some buffer) 2 false 2 = .ok (2, some ⟨[1, 2], false⟩) ∧
      quicheH3SendBody (some buffer) 2 false true 2 = .ok (2, some ⟨[2, 3], false⟩) ∧
      buffer.bytes buffer.position 2 = [2, 3] ∧
      quicheConnStreamSend (some { buffer with direct := false }) 0 true 0 = .ok (-1, none) ∧
      quicheH3SendBody (some { buffer with direct := false }) 0 true true 0 = .ok (0, some ⟨[], true⟩) :=
  ⟨rfl, rfl, rfl, rfl, rfl⟩

/-- The theorem at a heap buffer `[7, 8, 9]` at position 1, sending two bytes. -/
theorem streamSend_sendBody_payloads_heap :
    let buffer : ByteBuffer := ⟨[7, 8, 9], 0, 3, 1, 3, false, true, by decide, by decide, by decide,
      by decide⟩
    buffer.position + 2 ≤ buffer.limit ∧
      quicheConnStreamSend (some buffer) (2 : Nat) true 2 =
          (if buffer.direct then .ok (2, some ⟨buffer.bytes 0 2, true⟩) else .ok (-1, none)) ∧
      quicheConnStreamSend none (2 : Nat) true 2 = .error .nullReference ∧
      (buffer.direct = true ∨ buffer.hasArray = true →
        quicheH3SendBody (some buffer) (2 : Nat) true true 2 =
          if (2 : Nat) = 0 ∨ buffer.direct ∨ true then
            .ok (2, some ⟨buffer.bytes buffer.position 2, true⟩)
          else .ok (quicheErrDone, none)) ∧
      ∀ target : Option ByteBuffer,
        quicheH3SendBody target 0 true true 2 = .ok (2, some ⟨[], true⟩) :=
  ⟨by decide, streamSend_sendBody_payloads _ 2 (by decide) true true 2 2⟩

/-! ## The three paths of `quiche_h3_send_body` agree -/

/--
For every buffer that is direct or has an accessible array, every length
`n` with `position + n ≤ limit` and either outcome of `GetByteArrayElements`,
`quiche_h3_send_body` calls its engine unless the heap path's
`GetByteArrayElements` fails (it returns `QUICHE_ERR_DONE` then), and every
call hands it the buffer's logical bytes `[position, position + n)` and the
fin flag: the direct path (address plus position), the heap path (array plus
`arrayOffset()` plus position) and the zero-length path (`NULL`, 0) agree.
-/
theorem sendBody_paths_agree (buffer : ByteBuffer) (len : Nat)
    (fits : buffer.position + len ≤ buffer.limit)
    (callable : buffer.direct = true ∨ buffer.hasArray = true) (fin available : Bool) (written : Int) :
    quicheH3SendBody (some buffer) len fin available written =
      if len = 0 ∨ buffer.direct ∨ available then .ok (written, some ⟨buffer.bytes buffer.position len, fin⟩)
      else .ok (quicheErrDone, none) :=
  quicheH3SendBody_of_callable fits callable fin available written

/--
The theorem at a sliced heap buffer: `arrayOffset()` 2 into the array
`[0, 1, 2, 3, 4, 5]`, position 1, sending two bytes hands over `[3, 4]`.
-/
theorem sendBody_paths_agree_sliced :
    let buffer : ByteBuffer := ⟨[0, 1, 2, 3, 4, 5], 2, 4, 1, 4, false, true, by decide, by decide,
      by decide, by decide⟩
    buffer.position + 2 ≤ buffer.limit ∧ (buffer.direct = true ∨ buffer.hasArray = true) ∧
      buffer.bytes buffer.position 2 = [3, 4] ∧
      quicheH3SendBody (some buffer) (2 : Nat) true true 2 =
        if (2 : Nat) = 0 ∨ buffer.direct ∨ true then .ok (2, some ⟨buffer.bytes buffer.position 2, true⟩)
        else .ok (quicheErrDone, none) :=
  ⟨by decide, .inr rfl, rfl, sendBody_paths_agree _ 2 (by decide) (.inr rfl) true true 2⟩

end Gumdrop
