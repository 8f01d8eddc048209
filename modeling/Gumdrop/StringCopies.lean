import Gumdrop.Jni

namespace Gumdrop

/-!
# Temporary C copies of strings

Two kinds of binding convert a string across the boundary through a copy
that lives for one call.  The `SSL_CTX` string setters of `ssl_ctx_jni.c`
(`ssl_ctx_load_cert_chain`, `ssl_ctx_load_priv_key`,
`ssl_ctx_load_verify_locations`, `ssl_ctx_set_ciphersuites`,
`ssl_ctx_set_groups`) and `ssl_set_hostname` take a Java string with
`GetStringUTFChars`, hand the copy to the TLS library, and release it;
none of them checks the copy for `NULL`.  `quiche_conn_application_proto`
(in `quiche_jni.c`) copies the negotiated protocol into a `malloc`ed buffer,
terminates it, builds a Java string from it with `NewStringUTF`, and frees
the buffer.

The TLS library and quiche are inputs: what the library does with the C
string it is handed (`none` for `NULL`), and the protocol bytes quiche hands
out.
-/

/-! ## C strings the JVM copies out -/

/-- What the TLS library is handed for a copy: `NULL`, or the C string at the copy. -/
def librarySees (chars : Nat) (heap : Heap) : Except Fault (Option (List UInt8)) :=
  if chars = 0 then .ok none
  else do
    let text ← loadCString chars heap
    pure (some text.1)

/--
The shape shared by the five `SSL_CTX` string setters: copy the string out,
hand it to the library, release the copy, and return `0` for the library's
`1` and `-1` for anything else.
-/
def sslCtxStringSetter (oracle : Oracle) (library : Option (List UInt8) → Except Fault Int)
    (string : JString) (heap : Heap) : Except Fault (Int × Heap) := do
  let (chars, heap) := getStringUTFChars oracle string heap
  let text ← librarySees chars heap
  let ret ← library text
  let heap ← releaseStringUTFChars chars heap
  pure (if ret = 1 then 0 else -1, heap)

/-- `ssl_ctx_load_cert_chain`: `SSL_CTX_use_certificate_chain_file(ctx, c_path)`. -/
def sslCtxLoadCertChain (oracle : Oracle)
    (useCertificateChainFile : Option (List UInt8) → Except Fault Int)
    (path : JString) (heap : Heap) : Except Fault (Int × Heap) :=
  sslCtxStringSetter oracle useCertificateChainFile path heap

/-- `ssl_ctx_load_priv_key`: `SSL_CTX_use_PrivateKey_file(ctx, c_path, SSL_FILETYPE_PEM)`. -/
def sslCtxLoadPrivKey (oracle : Oracle)
    (usePrivateKeyFile : Option (List UInt8) → Except Fault Int)
    (path : JString) (heap : Heap) : Except Fault (Int × Heap) :=
  sslCtxStringSetter oracle usePrivateKeyFile path heap

/-- `ssl_ctx_load_verify_locations`: `SSL_CTX_load_verify_locations(ctx, c_path, NULL)`. -/
def sslCtxLoadVerifyLocations (oracle : Oracle)
    (loadVerifyLocations : Option (List UInt8) → Except Fault Int)
    (path : JString) (heap : Heap) : Except Fault (Int × Heap) :=
  sslCtxStringSetter oracle loadVerifyLocations path heap

/-- `ssl_ctx_set_ciphersuites`: `SSL_CTX_set_strict_cipher_list(ctx, c_ciphers)`. -/
def sslCtxSetCiphersuites (oracle : Oracle)
    (setStrictCipherList : Option (List UInt8) → Except Fault Int)
    (ciphers : JString) (heap : Heap) : Except Fault (Int × Heap) :=
  sslCtxStringSetter oracle setStrictCipherList ciphers heap

/-- `ssl_ctx_set_groups`: `SSL_CTX_set1_curves_list(ctx, c_groups)`. -/
def sslCtxSetGroups (oracle : Oracle)
    (set1CurvesList : Option (List UInt8) → Except Fault Int)
    (groups : JString) (heap : Heap) : Except Fault (Int × Heap) :=
  sslCtxStringSetter oracle set1CurvesList groups heap

/-- `ssl_set_hostname`: the same copy and release, but the library's result is dropped. -/
def sslSetHostname (oracle : Oracle)
    (setTlsextHostName : Option (List UInt8) → Except Fault Int)
    (hostname : JString) (heap : Heap) : Except Fault Heap := do
  let (chars, heap) := getStringUTFChars oracle hostname heap
  let text ← librarySees chars heap
  let _ ← setTlsextHostName text
  releaseStringUTFChars chars heap

/-! ## The negotiated protocol as a Java string -/

/--
`Java_..._quiche_1conn_1application_1proto`: the Java string, `none` for
`NULL`.  `proto` is what `quiche_conn_application_proto` hands out, `none`
for a `NULL` pointer.
-/
def quicheConnApplicationProto (jvm : Jvm) (oracle : Oracle) (proto : Option (List UInt8)) (heap : Heap) :
    Except Fault (Option JString × Heap) :=
  match proto with
  | none => .ok (none, heap)
  | some proto =>
      if proto.length = 0 then .ok (none, heap)
      else
        let (protoStr, heap) := malloc oracle (.chars (List.replicate (proto.length + 1) 0)) heap
        if protoStr = 0 then .ok (none, heap)
        else do
          let heap ← storeBytes protoStr 0 proto heap
          let heap ← storeBytes protoStr proto.length [0] heap
          let (result, heap) ← newStringUTF jvm oracle protoStr heap
          let heap ← free protoStr heap
          pure (result, heap)

end Gumdrop
