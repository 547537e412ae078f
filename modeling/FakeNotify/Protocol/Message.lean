-- The messages between the library and the daemon, and the frame around each.
-- `to_bytes` is bincode 1's fixed-width little-endian form of the serde
-- derive; `from_bytes` reads back what `to_bytes` wrote, with any bytes after it.
import FakeNotify.Protocol.Bytes

namespace fakenotify.protocol

open fakenotify.bytes

/-- `Request`: what the library sends the daemon. `mask` is a `u32`, `wd` an `i32`. -/
inductive Request
  | RegisterClient
  | AddWatch (path : PathBuf) (mask : BitVec 32)
  | RemoveWatch (wd : BitVec 32)
  | Ping
deriving DecidableEq

/-- `Response`: what the daemon sends back. `client_id` is a `u64`, `wd` an `i32`. -/
inductive Response
  | ClientRegistered (client_id : BitVec 64)
  | WatchAdded (wd : BitVec 32)
  | WatchRemoved
  | Error (message : RustString)
  | Pong
deriving DecidableEq

/-- The errors of bincode 1 that these types can raise. -/
inductive BincodeError
  /-- The input ends inside a value: `io::ErrorKind::UnexpectedEof`. -/
  | unexpectedEof
  /-- A string's bytes are not UTF-8: `InvalidUtf8Encoding`. -/
  | invalidUtf8Encoding
  /-- An enum tag past the last variant: serde's `invalid_value`. -/
  | invalidVariant (tag : Nat)
  /-- A `PathBuf` that `Path::to_str` refuses: serde's "path contains invalid UTF-8
  characters". -/
  | pathNotUtf8
deriving DecidableEq

/-- `ProtocolError`, as `to_bytes` and `from_bytes` raise it. -/
inductive ProtocolError
  | Serialization (e : BincodeError)
deriving DecidableEq

/-! ## Writing -/

/-- A `u32` (or an `i32`'s bits), little-endian. -/
def putU32 (x : BitVec 32) : List UInt8 := toLeBytes 4 x.toNat

/-- A `u64`, little-endian. -/
def putU64 (x : BitVec 64) : List UInt8 := toLeBytes 8 x.toNat

/-- A string: its length as a `u64`, then its bytes. -/
def putStr (bs : List UInt8) : List UInt8 := toLeBytes 8 bs.length ++ bs

/-- `Request::to_bytes`: the variant's index as a `u32`, then its fields. A path that is
not UTF-8 cannot be written. -/
def Request.toBytes : Request → Except ProtocolError (List UInt8)
  | .RegisterClient => .ok (putU32 0)
  | .AddWatch path mask =>
    match PathBuf.toStr path with
    | some s => .ok (putU32 1 ++ putStr s.1 ++ putU32 mask)
    | none => .error (.Serialization .pathNotUtf8)
  | .RemoveWatch wd => .ok (putU32 2 ++ putU32 wd)
  | .Ping => .ok (putU32 3)

/-- `Response::to_bytes`. bincode never fails on a `Response`: it holds no path. -/
def Response.toBytes : Response → List UInt8
  | .ClientRegistered client_id => putU32 0 ++ putU64 client_id
  | .WatchAdded wd => putU32 1 ++ putU32 wd
  | .WatchRemoved => putU32 2
  | .Error message => putU32 3 ++ putStr message.1
  | .Pong => putU32 4

/-! ## Reading -/

/-- A `u32` off the front of the input. -/
def getU32 (bs : List UInt8) : Except BincodeError (BitVec 32 × List UInt8) :=
  match readLe 4 bs with
  | some (x, rest) => .ok (BitVec.ofNat 32 x, rest)
  | none => .error .unexpectedEof

/-- A `u64` off the front of the input. -/
def getU64 (bs : List UInt8) : Except BincodeError (BitVec 64 × List UInt8) :=
  match readLe 8 bs with
  | some (x, rest) => .ok (BitVec.ofNat 64 x, rest)
  | none => .error .unexpectedEof

/-- A string: a `u64` length, that many bytes, and `String::from_utf8`'s check. -/
def getString (bs : List UInt8) : Except BincodeError (RustString × List UInt8) :=
  match getU64 bs with
  | .error e => .error e
  | .ok (len, rest) =>
    if len.toNat ≤ rest.length then
      if h : utf8Valid (rest.take len.toNat) = true then .ok (⟨_, h⟩, rest.drop len.toNat)
      else .error .invalidUtf8Encoding
    else .error .unexpectedEof

/-- The serde-derived `Deserialize` of `Request` under bincode. -/
def decodeRequest (bs : List UInt8) : Except BincodeError Request := do
  let (tag, rest) ← getU32 bs
  match tag.toNat with
  | 0 => pure .RegisterClient
  | 1 =>
    let (path, rest) ← getString rest
    let (mask, _) ← getU32 rest
    pure (.AddWatch path.1 mask)
  | 2 =>
    let (wd, _) ← getU32 rest
    pure (.RemoveWatch wd)
  | 3 => pure .Ping
  | t => throw (.invalidVariant t)

/-- The serde-derived `Deserialize` of `Response` under bincode. -/
def decodeResponse (bs : List UInt8) : Except BincodeError Response := do
  let (tag, rest) ← getU32 bs
  match tag.toNat with
  | 0 =>
    let (client_id, _) ← getU64 rest
    pure (.ClientRegistered client_id)
  | 1 =>
    let (wd, _) ← getU32 rest
    pure (.WatchAdded wd)
  | 2 => pure .WatchRemoved
  | 3 =>
    let (message, _) ← getString rest
    pure (.Error message)
  | 4 => pure .Pong
  | t => throw (.invalidVariant t)

/-- `Request::from_bytes`; bincode 1's `deserialize` leaves trailing bytes unread. -/
def Request.fromBytes (bs : List UInt8) : Except ProtocolError Request :=
  (decodeRequest bs).mapError .Serialization

/-- `Response::from_bytes`. -/
def Response.fromBytes (bs : List UInt8) : Except ProtocolError Response :=
  (decodeResponse bs).mapError .Serialization

/-! ## Frames -/

namespace FramedMessage

/-- `FramedMessage::MAX_SIZE`: 1 MiB. -/
def MAX_SIZE : Nat := 1024 * 1024

/-- `FramedMessage::frame`: the payload's length as a little-endian `u32`, then the
payload. -/
def frame (payload : List UInt8) : List UInt8 := toLeBytes 4 payload.length ++ payload

/-- The payload is what follows the four bytes of length. -/
@[simp] theorem drop_frame (payload : List UInt8) : (frame payload).drop 4 = payload :=
  List.drop_left' (length_toLeBytes 4 _)

/-- `FramedMessage::read_length`: the length prefix, or `none` under four bytes. -/
def readLength (buf : List UInt8) : Option Nat :=
  if buf.length < 4 then none else some (fromLeBytes (buf.take 4))

theorem readLe_frame {payload : List UInt8} (rest : List UInt8) (h : payload.length < 2 ^ 32) :
    readLe 4 (frame payload ++ rest) = some (payload.length, payload ++ rest) := by
  rw [frame, List.append_assoc, readLe_toLeBytes, Nat.mod_eq_of_lt (by simpa using h)]

theorem readLength_frame {payload : List UInt8} (rest : List UInt8) (h : payload.length < 2 ^ 32) :
    readLength (frame payload ++ rest) = some payload.length := by
  have hr := readLe_frame rest h
  simp only [readLe] at hr
  split at hr
  · next hlen =>
    simp only [Option.some.injEq, Prod.mk.injEq] at hr
    simp only [readLength, hr.1, if_neg (Nat.not_lt.mpr hlen)]
  · cases hr

end FramedMessage

/-! ## Round trips -/

@[simp] theorem ok_bind {ε α β : Type} (a : α) (f : α → Except ε β) :
    (Except.ok a >>= f) = f a := rfl

@[simp] theorem pure_eq_ok {ε α : Type} (a : α) : (pure a : Except ε α) = .ok a := rfl

@[simp] theorem map_ok {ε α β : Type} (a : α) (f : α → β) :
    (f <$> (Except.ok a : Except ε α)) = .ok (f a) := rfl

/-- Every byte string of the request is shorter than `2^64` bytes, as every Rust
`Vec` is: its length is a `usize`. -/
def Request.Fits : Request → Prop
  | .AddWatch path _ => path.length < 2 ^ 64
  | _ => True

instance Request.decFits : (r : Request) → Decidable r.Fits
  | .RegisterClient => isTrue trivial
  | .AddWatch path _ => Nat.decLt path.length (2 ^ 64)
  | .RemoveWatch _ => isTrue trivial
  | .Ping => isTrue trivial

/-- Every byte string of the response is shorter than `2^64` bytes. -/
def Response.Fits : Response → Prop
  | .Error message => message.1.length < 2 ^ 64
  | _ => True

instance Response.decFits : (r : Response) → Decidable r.Fits
  | .ClientRegistered _ => isTrue trivial
  | .WatchAdded _ => isTrue trivial
  | .WatchRemoved => isTrue trivial
  | .Error message => Nat.decLt message.1.length (2 ^ 64)
  | .Pong => isTrue trivial

@[simp] theorem getU32_putU32 (x : BitVec 32) (rest : List UInt8) :
    getU32 (putU32 x ++ rest) = .ok (x, rest) := by
  simp [getU32, putU32, readLe_toLeBytes, Nat.mod_eq_of_lt x.isLt]

@[simp] theorem getU64_putU64 (x : BitVec 64) (rest : List UInt8) :
    getU64 (putU64 x ++ rest) = .ok (x, rest) := by
  simp [getU64, putU64, readLe_toLeBytes, Nat.mod_eq_of_lt x.isLt]

theorem getString_putStr (s : RustString) (rest : List UInt8) (h : s.1.length < 2 ^ 64) :
    getString (putStr s.1 ++ rest) = .ok (s, rest) := by
  have hl : getU64 (putStr s.1 ++ rest) = .ok (BitVec.ofNat 64 s.1.length, s.1 ++ rest) := by
    simp (disch := omega) [getU64, putStr, readLe_toLeBytes, Nat.mod_eq_of_lt]
  have hn : (BitVec.ofNat 64 s.1.length).toNat = s.1.length := by
    simp (disch := omega) [Nat.mod_eq_of_lt]
  simp [getString, hl, hn, s.2]

theorem toStr_eq_some {p : PathBuf} {s : RustString} (h : PathBuf.toStr p = some s) : s.1 = p := by
  unfold PathBuf.toStr at h
  split at h
  · cases h; rfl
  · cases h

/-- An encoding shorter than `2^64` bytes leaves every byte string shorter still. -/
theorem Request.fits_of_toBytes {r : Request} {bs : List UInt8} (h : r.toBytes = .ok bs)
    (hs : bs.length < 2 ^ 64) : r.Fits := by
  cases r with
  | AddWatch path mask =>
    simp only [Request.toBytes] at h
    split at h
    · next s hs' =>
      cases h
      rw [Request.Fits, ← toStr_eq_some hs']
      simp [putStr, putU32] at hs
      omega
    · cases h
  | _ => trivial

theorem Response.fits_of_toBytes {r : Response} (hs : r.toBytes.length < 2 ^ 64) : r.Fits := by
  cases r with
  | Error message =>
    simp [Response.toBytes, putStr, putU32] at hs
    show message.1.length < 2 ^ 64
    omega
  | _ => trivial

theorem Request.fromBytes_toBytes {r : Request} {bs : List UInt8} (h : r.toBytes = .ok bs)
    (hr : r.Fits) (rest : List UInt8) : Request.fromBytes (bs ++ rest) = .ok r := by
  cases r with
  | AddWatch path mask =>
    simp only [Request.toBytes] at h
    split at h
    · next s hs =>
      cases h
      have hp := toStr_eq_some hs
      subst hp
      simp [Request.fromBytes, decodeRequest, getString_putStr s _ hr, Except.mapError]
    · cases h
  | _ =>
    simp only [Request.toBytes, Except.ok.injEq] at h
    subst h
    simp [Request.fromBytes, decodeRequest, Except.mapError]

theorem Response.fromBytes_toBytes (r : Response) (hr : r.Fits) (rest : List UInt8) :
    Response.fromBytes (r.toBytes ++ rest) = .ok r := by
  cases r with
  | Error message =>
    simp [Response.toBytes, Response.fromBytes, decodeResponse, getString_putStr message _ hr,
      Except.mapError]
  | _ => simp [Response.toBytes, Response.fromBytes, decodeResponse, Except.mapError]

end fakenotify.protocol
