-- The LD_PRELOAD library's side of a managed descriptor (`preload/src/lib.rs`):
-- the retries of `connect_to_daemon`, `send_request`, and what `inotify_init1`,
-- `inotify_add_watch` and `inotify_rm_watch` return for the response it reads.
import Mathlib.Data.Finset.Basic
import FakeNotify.Protocol.Message

namespace fakenotify.preload

open fakenotify.bytes fakenotify.protocol

/-- `libc::EIO`. -/
def EIO : Int := 5

/-- `libc::EINVAL`. -/
def EINVAL : Int := 22

/-- `libc::ENOSYS`. -/
def ENOSYS : Int := 38

/-- What an intercepted call returns, and the `errno` it sets, if any. -/
structure CallResult where
  ret : Int
  errno : Option Int
deriving DecidableEq

/-! ## `send_request` -/

/-- The bytes `send_request` writes: the framed request; nothing when `to_bytes`
fails. -/
def requestFrame (req : Request) : Option (List UInt8) :=
  match req.toBytes with
  | .ok payload => some (FramedMessage.frame payload)
  | .error _ => none

/-- What the library writes for a sequence of calls: each call's framed request. -/
def requestStream : List Request → List UInt8
  | [] => []
  | r :: rs => (requestFrame r).getD [] ++ requestStream rs

/-- `send_request`'s reads from the bytes the daemon has written: four bytes of length,
`read_length`, the size check, the payload, `Response::from_bytes(..).ok()`. It gives
what `send_request` returns and the bytes left after what it read, or `none` while a
`read_exact` still waits for bytes. -/
def readResponse (incoming : List UInt8) : Option (Option Response × List UInt8) :=
  if incoming.length < 4 then none
  else
    match FramedMessage.readLength (incoming.take 4) with
    | none => none
    | some len =>
      if FramedMessage.MAX_SIZE < len then some (none, incoming.drop 4)
      else if (incoming.drop 4).length < len then none
      else some ((Response.fromBytes ((incoming.drop 4).take len)).toOption,
        (incoming.drop 4).drop len)

/-! ## The intercepted calls -/

/-- `inotify_init_impl` once connected, for the reply to its `RegisterClient`; `fd` is
the socket's descriptor. -/
def initResult (fd : Int) : Option Response → CallResult
  | some (.ClientRegistered _) => ⟨fd, none⟩
  | some (.Error _) => ⟨-1, some EIO⟩
  | _ => ⟨-1, some EIO⟩

/-- The request `inotify_add_watch` sends for the C string `pathname`: none when the
bytes are not UTF-8, and the call fails with `EINVAL` before sending. -/
def addWatchRequest (pathname : List UInt8) (mask : BitVec 32) : Option Request :=
  (PathBuf.toStr pathname).map fun s => .AddWatch s.1 mask

/-- `inotify_add_watch` on a managed descriptor, for what `send_request` returned. -/
def addWatchResult : Option Response → CallResult
  | some (.WatchAdded wd) => ⟨wd.toInt, none⟩
  | some (.Error _) => ⟨-1, some EINVAL⟩
  | _ => ⟨-1, some EIO⟩

/-- `inotify_rm_watch` on a managed descriptor, for what `send_request` returned. -/
def rmWatchResult : Option Response → CallResult
  | some .WatchRemoved => ⟨0, none⟩
  | some (.Error _) => ⟨-1, some EINVAL⟩
  | _ => ⟨-1, some EIO⟩

/-! ## `connect_to_daemon` -/

/-- The stream `connect_to_daemon` returns, as one call meets it: the socket's
descriptor, whether `write_all` succeeds, and the bytes the daemon writes before a read
fails (the peer closes, or the 30 s read timeout runs out). -/
structure DaemonStream where
  fd : Int
  writeOk : Bool
  incoming : List UInt8

/-- `attempt.saturating_add(1)` on the `u32` attempt counter. -/
def saturatingAdd (attempt : Nat) : Nat := min (attempt + 1) (2 ^ 32 - 1)

/-- The sleep after a failed connection, in milliseconds, once the counter reads
`attempt`: `min(100 * (1 << min(attempt, 4)), 1000)`. -/
def backoffDelay (attempt : Nat) : Nat := min (100 * (1 <<< min attempt 4)) 1000

/-- `connect_to_daemon` from a counter reading `attempt`. `connect attempt` is what
`UnixStream::connect` gives at that point; each failure bumps the counter and sleeps,
and the loop gives up once the counter passes 60. It returns the stream and the sleeps
it made, in order. -/
def connectToDaemon (connect : Nat → Option DaemonStream) (attempt : Nat) :
    Option DaemonStream × List Nat :=
  match connect attempt with
  | some stream => (some stream, [])
  | none =>
    let attempt := saturatingAdd attempt
    if attempt > 60 then (none, [backoffDelay attempt])
    else
      let r := connectToDaemon connect attempt
      (r.1, backoffDelay attempt :: r.2)
termination_by 61 - attempt
decreasing_by simp only [attempt, saturatingAdd] at *; omega

/-- The sleeps of a `connect_to_daemon` whose counter reads `attempt` and whose every
later attempt fails, up to the 61st. -/
def backoffFrom (attempt : Nat) : List Nat :=
  (List.range' (attempt + 1) (61 - attempt)).map backoffDelay

theorem backoffFrom_of_lt {a : Nat} (ha : a < 60) :
    backoffFrom a = backoffDelay (a + 1) :: backoffFrom (a + 1) := by
  rw [backoffFrom, show 61 - a = (61 - (a + 1)) + 1 by omega, List.range'_succ]
  rfl

theorem saturatingAdd_of_le {a : Nat} (ha : a ≤ 60) : saturatingAdd a = a + 1 := by
  simp only [saturatingAdd]; omega

theorem range'_of_le {a : Nat} (ha : a ≤ 60) :
    List.range' a (61 - a) = a :: List.range' (a + 1) (61 - (a + 1)) := by
  rw [show 61 - a = (61 - (a + 1)) + 1 by omega, List.range'_succ]

/-- From a counter reading `a`, the loop returns the first attempt that connects among
those left, after one sleep per failure before it. -/
theorem connectToDaemon_from (connect : Nat → Option DaemonStream) {a : Nat} (ha : a ≤ 60) :
    connectToDaemon connect a =
      match (List.range' a (61 - a)).find? (fun k => (connect k).isSome) with
      | some k => (connect k, (backoffFrom a).take (k - a))
      | none => (none, backoffFrom a) := by
  induction a using connectToDaemon.induct connect with
  | case1 a stream h =>
    rw [connectToDaemon, range'_of_le ha, List.find?_cons_of_pos _ (by simp [h])]
    simp [h]
  | case2 a h n hgt =>
    obtain rfl : a = 60 := by simp only [n, saturatingAdd] at hgt; omega
    rw [connectToDaemon]
    simp [h, saturatingAdd, backoffFrom]
  | case3 a h n hle ih =>
    have hn : n = a + 1 := saturatingAdd_of_le ha
    clear_value n
    subst hn
    rw [connectToDaemon, h]
    simp only [saturatingAdd_of_le ha, if_neg hle]
    rw [ih (by omega), range'_of_le ha, List.find?_cons_of_neg _ (by simp [h]),
      backoffFrom_of_lt (a := a) (by omega)]
    cases hk : (List.range' (a + 1) (61 - (a + 1))).find? (fun k => (connect k).isSome) with
    | none => rfl
    | some k =>
      have hka : a + 1 ≤ k := (List.mem_range'_1.1 (List.mem_of_find?_eq_some hk)).1
      dsimp only
      rw [show k - a = k - (a + 1) + 1 by omega, List.take_succ_cons]

/-- `connect_to_daemon` makes at most 61 attempts and returns the first that connects.
Before attempt `k` it has slept the first `k` waits of 200, 400 and 800 ms and then 1 s
each; when all 61 fail it returns `None` after all 61 waits, 59.4 s in all. -/
theorem connectToDaemon_first_connect (connect : Nat → Option DaemonStream) :
    connectToDaemon connect 0 =
        (match (List.range 61).find? (fun k => (connect k).isSome) with
        | some k => (connect k, (backoffFrom 0).take k)
        | none => (none, backoffFrom 0)) ∧
      backoffFrom 0 = [200, 400, 800] ++ List.replicate 58 1000 := by
  refine ⟨?_, by decide⟩
  rw [connectToDaemon_from connect (Nat.zero_le 60), List.range_eq_range']
  simp only [Nat.sub_zero]

/-! ## `inotify_init_impl` -/

/-- `MANAGED_FDS`: `None` until `init` puts the empty set there. -/
abbrev ManagedFds := Option (Finset Int)

/-- `is_managed_fd`. -/
def isManagedFd (managed : ManagedFds) (fd : Int) : Bool :=
  managed.any fun set => decide (fd ∈ set)

/-- `register_fd`. -/
def registerFd (managed : ManagedFds) (fd : Int) : ManagedFds :=
  managed.map fun set => insert fd set

/-- `unregister_fd`. -/
def unregisterFd (managed : ManagedFds) (fd : Int) : ManagedFds :=
  managed.map fun set => set.erase fd

theorem isManagedFd_registerFd {managed : ManagedFds} (h : managed.isSome = true) (fd fd' : Int) :
    isManagedFd (registerFd managed fd) fd' = (decide (fd' = fd) || isManagedFd managed fd') := by
  obtain ⟨set, rfl⟩ := Option.isSome_iff_exists.1 h
  simp [isManagedFd, registerFd]

theorem isManagedFd_unregisterFd (managed : ManagedFds) (fd fd' : Int) :
    isManagedFd (unregisterFd managed fd) fd' = (!decide (fd' = fd) && isManagedFd managed fd') := by
  cases managed <;> simp [isManagedFd, unregisterFd, and_comm]

/-- `call_real_inotify_init1`: `REAL_INOTIFY_INIT1` on the flags, else
`REAL_INOTIFY_INIT`, else `ENOSYS`. Each real function is given by what it returns. -/
def callRealInotifyInit1 (realInit1 : Option (Int → CallResult)) (realInit : Option CallResult)
    (flags : Int) : CallResult :=
  match realInit1, realInit with
  | some f, _ => f flags
  | none, some r => r
  | none, none => ⟨-1, some ENOSYS⟩

/-- `send_request`: `to_bytes`, `write_all` of the frame, then the reads of
`readResponse`; any step that fails gives `None`. -/
def sendRequest (stream : DaemonStream) (req : Request) : Option Response :=
  match requestFrame req with
  | none => none
  | some _ => if stream.writeOk then (readResponse stream.incoming).bind Prod.fst else none

theorem requestFrame_of_toBytes {req : Request} {bs : List UInt8} (h : req.toBytes = .ok bs) :
    requestFrame req = some (FramedMessage.frame bs) := by
  rw [requestFrame, h]

/-- Once the request is written, `send_request` is its reads. -/
theorem sendRequest_of_toBytes {req : Request} {bs : List UInt8} (h : req.toBytes = .ok bs)
    (stream : DaemonStream) :
    sendRequest stream req =
      if stream.writeOk then (readResponse stream.incoming).bind Prod.fst else none := by
  rw [sendRequest, requestFrame_of_toBytes h]

/-- `inotify_init_impl(flags)`: what it returns and `MANAGED_FDS` after. `connect` is
what `connect_to_daemon` gives, `None` once every attempt failed. The `fcntl` calls for
the flags change nothing the model keeps; a stream that is not kept is dropped, which
closes its socket. -/
def inotifyInitImpl (initialized : Bool) (realInit1 : Option (Int → CallResult))
    (realInit : Option CallResult) (connect : Option DaemonStream) (managed : ManagedFds)
    (flags : Int) : CallResult × ManagedFds :=
  if !initialized then (callRealInotifyInit1 realInit1 realInit flags, managed)
  else
    match connect with
    | none => (callRealInotifyInit1 realInit1 realInit flags, managed)
    | some stream =>
      match sendRequest stream .RegisterClient with
      | some (.ClientRegistered client_id) =>
        (initResult stream.fd (some (.ClientRegistered client_id)), registerFd managed stream.fd)
      | response => (initResult stream.fd response, managed)

/-- The outcomes of `inotify_init_impl`. Before `init`, or when no connection was made,
it is `call_real_inotify_init1`; once connected, the socket's descriptor is returned and
registered exactly when the daemon answered `ClientRegistered`; any other outcome of the
exchange returns `-1` with `EIO`. Only the first outcome changes `MANAGED_FDS`. -/
theorem inotifyInitImpl_cases (initialized : Bool) (realInit1 : Option (Int → CallResult))
    (realInit : Option CallResult) (connect : Option DaemonStream) (managed : ManagedFds)
    (flags : Int) :
    let r := inotifyInitImpl initialized realInit1 realInit connect managed flags
    (initialized = false ∨ connect = none →
      r = (callRealInotifyInit1 realInit1 realInit flags, managed)) ∧
    ∀ stream, initialized = true → connect = some stream →
      (∀ client_id, sendRequest stream .RegisterClient = some (.ClientRegistered client_id) →
        r = (⟨stream.fd, none⟩, registerFd managed stream.fd)) ∧
      ((∀ client_id, sendRequest stream .RegisterClient ≠ some (.ClientRegistered client_id)) →
        r = (⟨-1, some EIO⟩, managed)) := by
  intro r
  refine ⟨fun h => ?_, fun stream hi hc => ?_⟩
  · rcases h with rfl | rfl
    · rfl
    · cases initialized <;> rfl
  · subst hi hc
    simp only [r, inotifyInitImpl, Bool.not_true, Bool.false_eq_true, ↓reduceIte]
    cases sendRequest stream .RegisterClient with
    | none => exact ⟨fun _ h => (nomatch h), fun _ => rfl⟩
    | some response =>
      cases response with
      | ClientRegistered client_id =>
        exact ⟨fun _ h => by cases h; rfl, fun h => absurd rfl (h client_id)⟩
      | _ => exact ⟨fun _ h => (nomatch h), fun _ => rfl⟩

/-- A real libc function that `init` resolved with `dlsym`, on its arguments; `ENOSYS`
when there was none. -/
def callReal {α : Type} (real : Option (α → CallResult)) (args : α) : CallResult :=
  match real with
  | some f => f args
  | none => ⟨-1, some ENOSYS⟩

/-- `inotify_add_watch(fd, pathname, mask)`: the real function on the same arguments when
`fd` is not managed; else `AddWatch` over the daemon socket, `stream`. -/
def inotifyAddWatch (managed : ManagedFds)
    (realAddWatch : Option (Int × List UInt8 × BitVec 32 → CallResult)) (stream : DaemonStream)
    (fd : Int) (pathname : List UInt8) (mask : BitVec 32) : CallResult :=
  if !isManagedFd managed fd then callReal realAddWatch (fd, pathname, mask)
  else
    match addWatchRequest pathname mask with
    | none => ⟨-1, some EINVAL⟩
    | some req => addWatchResult (sendRequest stream req)

/-- `inotify_rm_watch(fd, wd)`: the real function on the same arguments when `fd` is not
managed; else `RemoveWatch` over the daemon socket. -/
def inotifyRmWatch (managed : ManagedFds) (realRmWatch : Option (Int × Int → CallResult))
    (stream : DaemonStream) (fd wd : Int) : CallResult :=
  if !isManagedFd managed fd then callReal realRmWatch (fd, wd)
  else rmWatchResult (sendRequest stream (.RemoveWatch (BitVec.ofInt 32 wd)))

/-- On a descriptor that is not managed, `inotify_add_watch` and `inotify_rm_watch` are
the real functions on the same arguments. -/
theorem inotifyWatch_of_not_managed {managed : ManagedFds} {fd : Int}
    (h : isManagedFd managed fd = false) :
    (∀ realAddWatch stream pathname mask, inotifyAddWatch managed realAddWatch stream fd pathname mask =
      callReal realAddWatch (fd, pathname, mask)) ∧
    ∀ realRmWatch stream wd, inotifyRmWatch managed realRmWatch stream fd wd =
      callReal realRmWatch (fd, wd) := by
  constructor <;> intros <;> simp [inotifyAddWatch, inotifyRmWatch, h]

/-- A daemon that accepts the connection and closes it before answering: `init1`
returns `-1` with `EIO` and does not fall back, while `call_real_inotify_init1` would
have returned a descriptor, as it does when no connection is made. -/
theorem inotifyInit_closed_daemon_no_fallback :
    inotifyInitImpl true (some fun _ => ⟨3, none⟩) none (some ⟨4, true, []⟩) (some ∅) 0 =
        (⟨-1, some EIO⟩, some ∅) ∧
      callRealInotifyInit1 (some fun _ => ⟨3, none⟩) none 0 = ⟨3, none⟩ ∧
      inotifyInitImpl true (some fun _ => ⟨3, none⟩) none none (some ∅) 0 = (⟨3, none⟩, some ∅) :=
  ⟨rfl, rfl, rfl⟩

/-! ## Reading back a frame -/

/-- `send_request`'s reads on a whole frame: the length, the size check, and the
payload's decoding when it passes. -/
theorem readResponse_frame_eq {payload : List UInt8} (h : payload.length < 2 ^ 32) (rest : List UInt8) :
    readResponse (FramedMessage.frame payload ++ rest) =
      if FramedMessage.MAX_SIZE < payload.length then some (none, payload ++ rest)
      else some ((Response.fromBytes payload).toOption, rest) := by
  have h4 : (FramedMessage.frame payload ++ rest).take 4 = toLeBytes 4 payload.length := by
    simp [FramedMessage.frame]
  have hd : (FramedMessage.frame payload ++ rest).drop 4 = payload ++ rest := by
    simp [FramedMessage.frame]
  have hl4 : FramedMessage.readLength (toLeBytes 4 payload.length) = some payload.length := by
    simpa using FramedMessage.readLength_frame [] h
  simp only [readResponse, h4, hd, hl4]
  simp [FramedMessage.frame, show ¬payload.length + rest.length < payload.length by omega]

theorem readResponse_frame {r : Response} (hr : r.Fits)
    (hsize : r.toBytes.length ≤ FramedMessage.MAX_SIZE) (rest : List UInt8) :
    readResponse (FramedMessage.frame r.toBytes ++ rest) = some (some r, rest) := by
  have hf := Response.fromBytes_toBytes r hr []
  rw [List.append_nil] at hf
  rw [readResponse_frame_eq (by unfold FramedMessage.MAX_SIZE at hsize; omega),
    if_neg (Nat.not_lt.2 hsize), hf]
  rfl

/-- A frame that announces more than `MAX_SIZE` bytes: `send_request` returns `None`
after reading the length, and the payload stays in the stream. -/
theorem readResponse_oversized {payload : List UInt8} (h1 : FramedMessage.MAX_SIZE < payload.length)
    (h2 : payload.length < 2 ^ 32) (rest : List UInt8) :
    readResponse (FramedMessage.frame payload ++ rest) = some (none, payload ++ rest) := by
  rw [readResponse_frame_eq h2, if_pos h1]

end fakenotify.preload
