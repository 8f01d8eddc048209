import Gumdrop.CHeap

namespace Gumdrop

/-!
# The packet-header-info result

`quiche_header_info` (the JNI wrapper in `quiche_jni.c`) lets quiche parse a
packet header into stack buffers (connection ids of at most
`QUICHE_MAX_CONN_ID_LEN` bytes, a token of at most 64), then returns a fresh
`byte[]` of `4 + 1 + 1 + |dcid| + 1 + |scid| + 1 + |token|` bytes, filled by
`SetByteArrayRegion` calls at a running offset:
`[version:4 BE][type][dcidLen][dcid][scidLen][scid][tokenLen][token]`.

quiche's parser is not modelled: its successful outcome is an input, whose
lengths fit the buffers it was given.
-/

/-- `QUICHE_MAX_CONN_ID_LEN`. -/
def quicheMaxConnIdLen : Nat := 20

/-- A successful `quiche_header_info`: the out-parameters, each id and the token within its buffer. -/
structure HeaderInfo where
  version : Nat
  type : UInt8
  dcid : List UInt8
  scid : List UInt8
  token : List UInt8
  version_lt : version < 2 ^ 32
  dcid_le : dcid.length ≤ quicheMaxConnIdLen
  scid_le : scid.length ≤ quicheMaxConnIdLen
  token_le : token.length ≤ 64

/-- `result_len`. -/
def HeaderInfo.resultLen (info : HeaderInfo) : Nat :=
  4 + 1 + 1 + info.dcid.length + 1 + info.scid.length + 1 + info.token.length

/-- `ver_bytes`: the `uint32_t` version, most significant byte first. -/
def versionBytes (version : Nat) : List UInt8 :=
  [UInt8.ofNat ((version >>> 24) &&& 0xFF), UInt8.ofNat ((version >>> 16) &&& 0xFF),
    UInt8.ofNat ((version >>> 8) &&& 0xFF), UInt8.ofNat (version &&& 0xFF)]

/-- `SetByteArrayRegion` calls at the running offset `off`, each followed by `off += length`. -/
def regionsFrom (off : Nat) : List (List UInt8) → List (Nat × List UInt8)
  | [] => []
  | bytes :: rest => (off, bytes) :: regionsFrom (off + bytes.length) rest

/-- The sources of the `SetByteArrayRegion` calls, in order; each length goes out as a `jbyte`. -/
def headerInfoChunks (info : HeaderInfo) : List (List UInt8) :=
  [versionBytes info.version, [info.type], [UInt8.ofNat info.dcid.length], info.dcid,
    [UInt8.ofNat info.scid.length], info.scid, [UInt8.ofNat info.token.length], info.token]

/-- The `SetByteArrayRegion` calls of `quiche_header_info`, in order: offset and bytes. -/
def headerInfoWrites (info : HeaderInfo) : List (Nat × List UInt8) :=
  regionsFrom 0 (headerInfoChunks info)

/-- `SetByteArrayRegion(env, array, start, bytes.length, bytes)`; past the end is a pending exception. -/
def setByteArrayRegion (array : List UInt8) (start : Nat) (bytes : List UInt8) :
    Except Fault (List UInt8) :=
  if start + bytes.length ≤ array.length then .ok (writeRange array start bytes)
  else .error (.arrayIndexOutOfBounds start)

/-- A sequence of `SetByteArrayRegion` calls on one array. -/
def applyRegions (array : List UInt8) : List (Nat × List UInt8) → Except Fault (List UInt8)
  | [] => .ok array
  | (start, bytes) :: rest => do
      let array ← setByteArrayRegion array start bytes
      applyRegions array rest

/--
`Java_..._quiche_1header_1info`: the returned array, `none` for `NULL`.
`direct` is whether `GetDirectBufferAddress` gives an address, `outcome`
is quiche's (`none` for `rc < 0`), `arrayAllocated` whether `NewByteArray`
succeeds.
-/
def quicheHeaderInfo (direct : Bool) (outcome : Option HeaderInfo) (arrayAllocated : Bool) :
    Except Fault (Option (List UInt8)) :=
  if !direct then .ok none
  else
    match outcome with
    | none => .ok none
    | some info =>
        if !arrayAllocated then .ok none
        else do
          let result ← applyRegions (List.replicate info.resultLen 0) (headerInfoWrites info)
          pure (some result)

/-! ## The documented layout -/

/-- One length byte and that many bytes, and what follows them. -/
def readLengthPrefixed : List UInt8 → Option (List UInt8 × List UInt8)
  | [] => none
  | length :: rest =>
      if length.toNat ≤ rest.length then some (rest.take length.toNat, rest.drop length.toNat) else none

/-- `[version:4 BE][type:1][dcidLen:1][dcid][scidLen:1][scid][tokenLen:1][token]`, read back. -/
def parseHeaderInfo : List UInt8 → Option (Nat × UInt8 × List UInt8 × List UInt8 × List UInt8)
  | b0 :: b1 :: b2 :: b3 :: type :: rest => do
      let (dcid, rest) ← readLengthPrefixed rest
      let (scid, rest) ← readLengthPrefixed rest
      let (token, rest) ← readLengthPrefixed rest
      if rest = [] then
        some (b0.toNat * 2 ^ 24 + b1.toNat * 2 ^ 16 + b2.toNat * 2 ^ 8 + b3.toNat, type, dcid, scid, token)
      else none
  | _ => none

/-- Writes that start at `low`, each where the previous one ended, and end at `high`. -/
def Tiles (low : Nat) : List (Nat × List UInt8) → Nat → Prop
  | [], high => low = high
  | (start, bytes) :: rest, high => start = low ∧ Tiles (low + bytes.length) rest high

/-! ## Layout lemmas -/

/-- Running offsets tile the span of the chunks' total length. -/
theorem tiles_regionsFrom : ∀ (off : Nat) (chunks : List (List UInt8)),
    Tiles off (regionsFrom off chunks) (off + (chunks.map List.length).sum)
  | off, [] => rfl
  | off, bytes :: rest => ⟨rfl, by
      simpa [Nat.add_assoc] using tiles_regionsFrom (off + bytes.length) rest⟩

/-- A region written right after `before` into zeros leaves it in place. -/
theorem setByteArrayRegion_next (before bytes : List UInt8) (spare : Nat) :
    setByteArrayRegion (before ++ List.replicate (bytes.length + spare) 0) before.length bytes =
      .ok (before ++ bytes ++ List.replicate spare 0) := by
  simp [setByteArrayRegion, writeRange, List.drop_append_eq_append_drop, List.drop_replicate,
    Nat.add_comm bytes.length spare]

/-- Writing the chunks at running offsets into a zeroed array lays them end to end. -/
theorem applyRegions_regionsFrom : ∀ (chunks : List (List UInt8)) (before : List UInt8),
    applyRegions (before ++ List.replicate (chunks.map List.length).sum 0) (regionsFrom before.length chunks) =
      .ok (before ++ chunks.flatten)
  | [], before => by simp [applyRegions, regionsFrom]
  | bytes :: rest, before => by
      have step := applyRegions_regionsFrom rest (before ++ bytes)
      simp only [List.length_append, List.append_assoc] at step
      simp only [regionsFrom, applyRegions, List.map_cons, List.sum_cons,
        setByteArrayRegion_next, ok_bind, step, List.flatten_cons, List.append_assoc]

/-- A byte that holds a small length reads back as that length. -/
theorem toNat_ofNat_length {bytes : List UInt8} (small : bytes.length < 256) :
    (UInt8.ofNat bytes.length).toNat = bytes.length :=
  toNat_ofNat_byte small

/-- Each version byte is the matching base-256 digit. -/
theorem toNat_versionByte (version shift : Nat) :
    (UInt8.ofNat ((version >>> shift) &&& 0xFF)).toNat = version / 2 ^ shift % 256 := by
  have masked : (version >>> shift) &&& 0xFF = version / 2 ^ shift % 256 := by
    rw [Nat.shiftRight_eq_div_pow, show (0xFF : Nat) = 2 ^ 8 - 1 from rfl, Nat.and_pow_two_sub_one_eq_mod]
  rw [masked, toNat_ofNat_mod]

/-- A length byte in front of its bytes reads back as those bytes. -/
theorem readLengthPrefixed_cons {bytes rest : List UInt8} (small : bytes.length < 256) :
    readLengthPrefixed (UInt8.ofNat bytes.length :: (bytes ++ rest)) = some (bytes, rest) := by
  simp [readLengthPrefixed, toNat_ofNat_length small]

/-! ## The result -/

/-- The concrete case of the documentation: two 8-byte ids and no token give 24 bytes in eight writes. -/
theorem headerInfoWrites_eight :
    let info : HeaderInfo := ⟨1, 0xc0, List.replicate 8 1, List.replicate 8 2, [],
      by decide, by decide, by decide, by decide⟩
    info.resultLen = 24 ∧ (headerInfoWrites info).length = 8 :=
  ⟨rfl, rfl⟩

/--
For every successful outcome of quiche's parser, the JNI result has
`8 + |dcid| + |scid| + |token|` bytes; its eight `SetByteArrayRegion` calls
start at 0, each where the previous one ended, and end at the array's end;
and reading it with the documented layout gives back every field.
-/
theorem quicheHeaderInfo_decodable (info : HeaderInfo) :
    ∃ result, quicheHeaderInfo true (some info) true = .ok (some result) ∧
      result.length = 8 + info.dcid.length + info.scid.length + info.token.length ∧
      (headerInfoWrites info).length = 8 ∧
      Tiles 0 (headerInfoWrites info) result.length ∧
      parseHeaderInfo result = some (info.version, info.type, info.dcid, info.scid, info.token) := by
  have dcidSmall : info.dcid.length < 256 := Nat.lt_of_le_of_lt info.dcid_le (by decide)
  have scidSmall : info.scid.length < 256 := Nat.lt_of_le_of_lt info.scid_le (by decide)
  have tokenSmall : info.token.length < 256 := Nat.lt_of_le_of_lt info.token_le (by decide)
  have total : info.resultLen = ((headerInfoChunks info).map List.length).sum := by
    simp [HeaderInfo.resultLen, headerInfoChunks, versionBytes]
    omega
  have written := applyRegions_regionsFrom (headerInfoChunks info) []
  simp only [List.length_nil, List.nil_append, ← total] at written
  refine ⟨(headerInfoChunks info).flatten, ?_, ?_, rfl, ?_, ?_⟩
  · simp only [quicheHeaderInfo, headerInfoWrites, written, Bool.not_true, ok_bind, pure_eq_ok]
    rfl
  · simp [headerInfoChunks, versionBytes]
    omega
  · have tiles := tiles_regionsFrom 0 (headerInfoChunks info)
    rwa [Nat.zero_add, ← List.length_flatten] at tiles
  · have version := info.version_lt
    have lastToken : readLengthPrefixed (UInt8.ofNat info.token.length :: info.token) =
        some (info.token, []) := by
      simpa using @readLengthPrefixed_cons info.token [] tokenSmall
    simp only [headerInfoChunks, List.flatten, versionBytes, List.cons_append, List.nil_append,
      List.append_nil, List.append_assoc,
      parseHeaderInfo, readLengthPrefixed_cons dcidSmall, readLengthPrefixed_cons scidSmall,
      Option.bind_eq_bind, Option.some_bind, toNat_versionByte]
    have lowByte : (UInt8.ofNat (info.version &&& 0xFF)).toNat = info.version % 256 := by
      simpa using toNat_versionByte info.version 0
    simp only [lastToken, Option.some_bind, if_pos, lowByte]
    congr 2
    omega

end Gumdrop
