import Gumdrop.CHeap

namespace Gumdrop

/-!
# Java values at the boundary

A Java string crosses JNI as modified UTF-8: `GetStringUTFChars` hands out
its encoding with a terminating zero byte, and `NewStringUTF` builds a
string from the bytes before the first zero byte.  Modified UTF-8 is UTF-8
with U+0000 written as the two bytes `C0 80` and every UTF-16 unit of a
surrogate pair written on its own in three bytes, so an encoding never
holds a zero byte or a four-byte form.  A `JString` is a string by its
encoding and carries the encoding's validity as a field.

`NewStringUTF` of bytes that are a modified UTF-8 encoding is the string
they encode.  What it makes of other bytes the JNI specification leaves to
the JVM (HotSpot decodes them leniently, one byte as one character where
they do not form a sequence); a `Jvm` holds that choice, and every result
about strings the bindings make holds for every choice.

JVM allocations (`NewStringUTF`, `NewObjectArray`) draw their outcomes from
the same oracle as `malloc`, and count as calls of the run.
-/

/-! ## Modified UTF-8 -/

/-- Where a check of modified UTF-8 stands between bytes. -/
inductive Utf8State where
  /-- Between characters. -/
  | start
  /-- After `C0`: only `80` may follow, the encoding of U+0000. -/
  | afterC0
  /-- One continuation byte owed. -/
  | tail1
  /-- Two continuation bytes owed. -/
  | tail2
  /-- After `E0`: a byte of `A0`..`BF`, then one continuation byte. -/
  | afterE0
  deriving Repr, DecidableEq

/--
One byte of a modified UTF-8 encoding, as the JNI specification lays it out:
`01`..`7F` alone, `C0 80` or `C2`..`DF` and a continuation byte for a
two-byte unit, and `E0 A0`..`BF` or `E1`..`EF` and two continuation bytes
for a three-byte unit, so that every unit has its shortest form but U+0000.
-/
def utf8Step : Utf8State → UInt8 → Option Utf8State
  | .start, byte =>
      if 0x01 ≤ byte ∧ byte ≤ 0x7F then some .start
      else if byte = 0xC0 then some .afterC0
      else if 0xC2 ≤ byte ∧ byte ≤ 0xDF then some .tail1
      else if byte = 0xE0 then some .afterE0
      else if 0xE1 ≤ byte ∧ byte ≤ 0xEF then some .tail2
      else none
  | .afterC0, byte => if byte = 0x80 then some .start else none
  | .tail1, byte => if 0x80 ≤ byte ∧ byte ≤ 0xBF then some .start else none
  | .tail2, byte => if 0x80 ≤ byte ∧ byte ≤ 0xBF then some .tail1 else none
  | .afterE0, byte => if 0xA0 ≤ byte ∧ byte ≤ 0xBF then some .tail1 else none

/-- The check after every byte, or `none` at the first byte that rules the bytes out. -/
def utf8Run : Utf8State → List UInt8 → Option Utf8State
  | state, [] => some state
  | state, byte :: rest =>
      match utf8Step state byte with
      | some next => utf8Run next rest
      | none => none

/-- The bytes are a modified UTF-8 encoding: the check ends between characters. -/
def ModifiedUtf8 (bytes : List UInt8) : Prop :=
  utf8Run .start bytes = some .start

instance : DecidablePred ModifiedUtf8 := fun bytes =>
  inferInstanceAs (Decidable (utf8Run .start bytes = some .start))

/-- No check accepts a zero byte. -/
theorem utf8Step_zero (state : Utf8State) : utf8Step state 0 = none := by
  cases state <;> decide

/-- A check that gets through the bytes has met no zero byte. -/
theorem zero_not_mem_of_utf8Run {final : Utf8State} :
    ∀ (state : Utf8State) (bytes : List UInt8), utf8Run state bytes = some final → 0 ∉ bytes
  | _, [], _ => List.not_mem_nil 0
  | state, byte :: rest, ran => by
      unfold utf8Run at ran
      split at ran
      · next next stepped =>
          have notZero : byte ≠ 0 := fun isZero => by simp [isZero, utf8Step_zero] at stepped
          exact List.not_mem_cons_of_ne_of_not_mem (Ne.symm notZero) (zero_not_mem_of_utf8Run next rest ran)
      · cases ran

/-- A modified UTF-8 encoding holds no zero byte. -/
theorem ModifiedUtf8.zero_not_mem {bytes : List UInt8} (valid : ModifiedUtf8 bytes) : 0 ∉ bytes :=
  zero_not_mem_of_utf8Run .start bytes valid

/-! ## Strings -/

/-- A Java string, by its modified UTF-8 encoding. -/
structure JString where
  utf : List UInt8
  valid : ModifiedUtf8 utf
  deriving DecidableEq

/-- The encoding of a Java string holds no zero byte. -/
theorem JString.no_zero (string : JString) : 0 ∉ string.utf :=
  string.valid.zero_not_mem

/-- Two Java strings are equal when their encodings are. -/
theorem JString.ext_utf
    {first second : JString}
    (sameUtf : first.utf = second.utf) :
    first = second := by
  cases first
  cases second
  cases sameUtf
  rfl

/-- What the JNI specification leaves to the JVM: the string `NewStringUTF` makes of bytes that are not modified UTF-8. -/
structure Jvm where
  lenient : List UInt8 → JString

/-- The string `NewStringUTF` makes of the bytes of a C string: the string they encode, when they are modified UTF-8. -/
def Jvm.newString (jvm : Jvm) (bytes : List UInt8) : JString :=
  if valid : ModifiedUtf8 bytes then ⟨bytes, valid⟩ else jvm.lenient bytes

/-- A JVM that makes the empty string of bytes that are not modified UTF-8. -/
def Jvm.emptyOnInvalid : Jvm := ⟨fun _ => ⟨[], rfl⟩⟩

/-- `NewStringUTF` of a string's own encoding gives the string back. -/
@[simp] theorem Jvm.newString_utf (jvm : Jvm) (string : JString) : jvm.newString string.utf = string := by
  simp [Jvm.newString, string.valid]

/-- `NewStringUTF` of a modified UTF-8 encoding is the string with exactly those bytes. -/
theorem Jvm.utf_newString {jvm : Jvm} {bytes : List UInt8} (valid : ModifiedUtf8 bytes) :
    (jvm.newString bytes).utf = bytes := by
  simp [Jvm.newString, valid]

/-- The Java string `NewStringUTF` makes of a C string's bytes: of those up to the first zero byte. -/
def truncatedString (jvm : Jvm) (bytes : List UInt8) : JString :=
  jvm.newString (bytes.takeWhile (· ≠ 0))

/-- `NewStringUTF` of a C string whose bytes are modified UTF-8 is the string with exactly those bytes. -/
theorem utf_truncatedString {jvm : Jvm} {bytes : List UInt8} (valid : ModifiedUtf8 bytes) :
    (truncatedString jvm bytes).utf = bytes := by
  rw [truncatedString, List.takeWhile_eq_self_iff.mpr fun byte member => by
    simpa using ne_of_mem_of_not_mem member valid.zero_not_mem]
  exact Jvm.utf_newString valid

/-- `NewStringUTF` of a copy of a string's encoding gives the string back. -/
@[simp] theorem truncatedString_utf (jvm : Jvm) (string : JString) : truncatedString jvm string.utf = string :=
  JString.ext_utf (utf_truncatedString string.valid)

/-- A `jlong` passed on as `uint64_t`. -/
def toUInt64 (value : Int) : Nat :=
  (value % 2 ^ 64).toNat

/-- `GetObjectArrayElement(env, array, index)` on an array of strings. -/
def getObjectArrayElement (array : List JString) (index : Nat) : Except Fault JString :=
  match array[index]? with
  | some element => .ok element
  | none => .error (.arrayIndexOutOfBounds index)

/-- An element inside the array is read without fault. -/
theorem getObjectArrayElement_of_lt
    {array : List JString} {index : Nat}
    (inBounds : index < array.length) :
    getObjectArrayElement array index = .ok array[index] := by
  simp [getObjectArrayElement, inBounds]

/-- `GetStringUTFChars(env, string, NULL)`: a fresh zero-terminated copy of the encoding, or `NULL`. -/
def getStringUTFChars (oracle : Oracle) (string : JString) (heap : Heap) : Nat × Heap :=
  malloc oracle (.chars (string.utf ++ [0])) heap

/-- `GetByteArrayElements(env, array, NULL)`: a fresh copy of the elements, or `NULL` when the JVM fails the copy. -/
def getByteArrayElements (oracle : Oracle) (elements : List UInt8) (heap : Heap) : Nat × Heap :=
  malloc oracle (.chars elements) heap

/-- `ReleaseByteArrayElements(env, array, buf, JNI_ABORT)`: the JVM frees the copy without writing it back. -/
def releaseByteArrayElements (buf : Nat) (heap : Heap) : Except Fault Heap :=
  free buf heap

/-- `ReleaseStringUTFChars(env, string, chars)`: the JVM frees the copy. -/
def releaseStringUTFChars (chars : Nat) (heap : Heap) : Except Fault Heap :=
  free chars heap

/-- `strlen(p)`. -/
def strlen (address : Nat) (heap : Heap) : Except Fault Nat := do
  let bytes ← loadCString address heap
  pure bytes.1.length

/-- `strlen` of a zero-terminated copy with no other zero byte is the copy's length. -/
theorem strlen_of_terminated
    {address : Nat} {heap : Heap} {bytes : List UInt8}
    (found : heap.blocks address = some (.chars (bytes ++ [0])))
    (noZero : 0 ∉ bytes) :
    strlen address heap = .ok bytes.length := by
  simp [strlen, loadCString_of_terminated found noZero]

/-- `strlen(NULL)` reads address 0, where no block ever lives. -/
theorem strlen_null (heap : Heap) : strlen 0 heap = .error (.invalidAccess 0) := by
  simp [strlen, loadCString, heap.null_free]

/-- `NewStringUTF(env, p)`: the string the JVM makes of the C string at `p`, or `NULL` when it fails the allocation. -/
def newStringUTF (jvm : Jvm) (oracle : Oracle) (address : Nat) (heap : Heap) :
    Except Fault (Option JString × Heap) := do
  let bytes ← loadCString address heap
  match oracle heap.calls with
  | .fail => pure (none, heap.tick)
  | _ => pure (some (jvm.newString bytes.1), heap.tick)

/-- What the JVM's allocation call number `call` makes of a string: the string, or `null` when it fails. -/
def allocatedString (oracle : Oracle) (call : Nat) (text : JString) : Option JString :=
  match oracle call with
  | .fail => none
  | _ => some text

/-- What consecutive allocation calls from `call` on make of a list of strings. -/
def allocatedStrings (oracle : Oracle) : Nat → List JString → List (Option JString)
  | _, [] => []
  | call, text :: rest => allocatedString oracle call text :: allocatedStrings oracle (call + 1) rest

/-- `NewStringUTF(env, text)` of a C string outside the modelled heap (a local buffer), up to its first zero byte. -/
def newStringUTFOf (jvm : Jvm) (oracle : Oracle) (text : List UInt8) (heap : Heap) : Option JString × Heap :=
  (allocatedString oracle heap.calls (truncatedString jvm text), heap.tick)

/-- `NewStringUTF` of a C string in the heap is what the JVM's allocation makes of the string read there. -/
theorem newStringUTF_eq
    (jvm : Jvm) (oracle : Oracle) (address : Nat) (heap : Heap) :
    newStringUTF jvm oracle address heap =
      (loadCString address heap).map fun bytes =>
        (allocatedString oracle heap.calls (jvm.newString bytes.1), heap.tick) := by
  unfold newStringUTF allocatedString
  cases loadCString address heap with
  | error fault =>
      rfl
  | ok bytes =>
      simp only [ok_bind, map_ok]
      split <;> rfl

/-- `NewObjectArray(env, length, stringClass, NULL)`: `length` null elements, or `NULL`. -/
def newObjectArray (oracle : Oracle) (length : Nat) (heap : Heap) :
    Option (List (Option JString)) × Heap :=
  match oracle heap.calls with
  | .fail => (none, heap.tick)
  | _ => (some (List.replicate length none), heap.tick)

/-- `SetObjectArrayElement(env, array, index, value)` on a `String[]` that may be `NULL`. -/
def setObjectArrayElement (array : Option (List (Option JString))) (index : Nat)
    (value : Option JString) : Except Fault (Option (List (Option JString))) :=
  match array with
  | none => .error .nullReference
  | some elements =>
      if index < elements.length then .ok (some (elements.set index value))
      else .error (.arrayIndexOutOfBounds index)

/-- An allocation the oracle lets succeed gives the string. -/
theorem allocatedString_of_ne_fail
    {oracle : Oracle} {call : Nat} {text : JString}
    (succeeds : oracle call ≠ .fail) :
    allocatedString oracle call text = some text := by
  unfold allocatedString
  split <;> simp_all

/-- The strings of allocations that never fail are all there. -/
theorem allocatedStrings_of_neverFails
    {oracle : Oracle}
    (neverFails : oracle.NeverFails) :
    ∀ (call : Nat) (texts : List JString), allocatedStrings oracle call texts = texts.map some
  | _, [] =>
      rfl
  | call, _ :: rest => by
      rw [allocatedStrings, allocatedString_of_ne_fail (neverFails call),
        allocatedStrings_of_neverFails neverFails (call + 1) rest, List.map_cons]

/-- One allocation call per string gives one element per string. -/
theorem length_allocatedStrings
    {oracle : Oracle} :
    ∀ (call : Nat) (texts : List JString), (allocatedStrings oracle call texts).length = texts.length
  | _, [] =>
      rfl
  | call, _ :: rest => by
      simp [allocatedStrings, length_allocatedStrings (call + 1) rest]

/-- A `NewObjectArray` the oracle fails returns `NULL`. -/
theorem newObjectArray_of_fail
    {oracle : Oracle} {length : Nat} {heap : Heap}
    (fails : oracle heap.calls = .fail) :
    newObjectArray oracle length heap = (none, heap.tick) := by
  simp [newObjectArray, fails]

/-- A `NewObjectArray` the oracle lets succeed returns `length` nulls. -/
theorem newObjectArray_of_ne_fail
    {oracle : Oracle} {length : Nat} {heap : Heap}
    (succeeds : oracle heap.calls ≠ .fail) :
    newObjectArray oracle length heap = (some (List.replicate length none), heap.tick) := by
  unfold newObjectArray
  split <;> simp_all

/-- Setting the first null of a partly filled array extends the filled part. -/
theorem setObjectArrayElement_next
    (done : List (Option JString)) (pending : Nat) (value : Option JString) :
    setObjectArrayElement (some (done ++ List.replicate (pending + 1) none)) done.length value =
      .ok (some ((done ++ [value]) ++ List.replicate pending none)) := by
  simp [setObjectArrayElement, List.set_append_right, List.replicate_succ]

end Gumdrop
