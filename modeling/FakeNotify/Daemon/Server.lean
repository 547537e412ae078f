-- The daemon's side of one connection (`server.rs`). `handle_request` runs one
-- request on the registry; `handle_client` registers the client, greets it,
-- serves its framed requests until the stream ends, a frame is too large, a
-- reply cannot be sent or shutdown wins, and then unregisters it.
import FakeNotify.Daemon.Run
import FakeNotify.Protocol.Message
import FakeNotify.Protocol.Path
import FakeNotify.Protocol.Event

namespace fakenotify.server

open fakenotify.bytes fakenotify.protocol fakenotify.state fakenotify.path fakenotify.event

/-- The registry's keys: paths as `PathBuf`'s `Eq` and `Hash` see them. -/
abbrev PathKey := List Component

/-! ## `handle_request` -/

/-- `format!("Path does not exist: {}", path.display())`. -/
def pathMissing (path : PathBuf) : RustString :=
  RustString.lit "Path does not exist: " ++ path.display

/-- The text of a UTF-8 path's `Error` is 21 bytes longer than the path. -/
theorem length_pathMissing {path : PathBuf} (h : utf8Valid path = true) :
    (pathMissing path).1.length = 21 + path.length := by
  have hlit : (RustString.lit "Path does not exist: ").1.length = 21 := by decide
  simp only [pathMissing, RustString.val_append, List.length_append, hlit,
    PathBuf.display_of_utf8Valid h]

/-- `format!("Watch descriptor {} not found", wd)`. -/
def wdNotFound (wd : BitVec 32) : RustString :=
  RustString.lit "Watch descriptor " ++ RustString.ofInt wd.toInt ++ RustString.lit " not found"

/-- `handle_request`. `pathExists` is `Path::exists` on the daemon's file system. The
path goes into the registry as it came: nothing canonicalises it. -/
def handleRequest (pathExists : PathBuf → Bool) (s : DaemonState PathKey) (client_id : ClientId) :
    Request → DaemonState PathKey × Response
  | .RegisterClient => (s, .ClientRegistered client_id)
  | .AddWatch path mask =>
    if !pathExists path then (s, .Error (pathMissing path))
    else
      let (s', wd) := addWatch s client_id (components path) (fromBitsTruncate mask) true
      (s', .WatchAdded wd)
  | .RemoveWatch wd =>
    let (s', removed) := removeWatch s client_id wd
    if removed then (s', .WatchRemoved) else (s', .Error (wdNotFound wd))
  | .Ping => (s, .Pong)

section
variable {pathExists : PathBuf → Bool} {s : DaemonState PathKey} {c : ClientId}

/-- An `AddWatch` for a path that does not exist leaves the registry as it was and
answers `Error` with the path's display. -/
theorem handleRequest_addWatch_missing {path : PathBuf} (h : pathExists path = false)
    (mask : BitVec 32) :
    handleRequest pathExists s c (.AddWatch path mask) = (s, .Error (pathMissing path)) := by
  simp [handleRequest, h]

/-- The registry after a `RemoveWatch` is the one `remove_watch` leaves, found or not. -/
theorem handleRequest_removeWatch (wd : WatchDescriptor) :
    (handleRequest pathExists s c (.RemoveWatch wd)).1 = (removeWatch s c wd).1 := by
  simp only [handleRequest]
  split <;> rfl

/-- A request subscribes only the client that sent it. -/
theorem subscribed_handleRequest {req : Request} {x : ClientId} {wd : WatchDescriptor}
    (h : Subscribed (handleRequest pathExists s c req).1 x wd) : x = c ∨ Subscribed s x wd := by
  cases req with
  | RegisterClient => exact .inr h
  | AddWatch path mask =>
    simp only [handleRequest] at h
    split at h
    · exact .inr h
    · exact subscribed_addWatch h
  | RemoveWatch wd' => rw [handleRequest_removeWatch] at h; exact .inr (subscribed_removeWatch h)
  | Ping => exact .inr h

/-- No request registers a client. -/
@[simp] theorem handleRequest_next_client_id (req : Request) :
    (handleRequest pathExists s c req).1.next_client_id = s.next_client_id := by
  cases req with
  | AddWatch path mask =>
    simp only [handleRequest]
    split
    · rfl
    · simp only [addWatch]; split <;> (try split) <;> rfl
  | RemoveWatch wd =>
    rw [handleRequest_removeWatch]
    cases hw : s.watches wd with
    | none => rw [removeWatch_of_none hw]
    | some w => rw [removeWatch_of_live hw]; simp
  | _ => rfl

end

/-! ## `handle_client` -/

/-- One connection as its environment runs it: the bytes the peer sends before its end
closes or a read fails, which writes succeed (the handler's `n`th write, the greeting
being write 0), and the turn of the read loop at which the shutdown signal wins
`select!`, if it does. -/
structure Conn where
  input : List UInt8
  writeOk : Nat → Bool
  shutdownAt : Option Nat

/-- What `handle_client` returns: `Ok(())`, or the error of the greeting's send. -/
inductive Outcome
  | ok
  | err
deriving DecidableEq

/-- What one turn of the read loop finds in the bytes not read yet. -/
inductive Turn
  /-- `read_exact` fails, or the frame is over `MAX_SIZE`: the loop breaks. -/
  | stop
  /-- A request, and the bytes after its frame. -/
  | request (req : Request) (rest : List UInt8)
  /-- A frame that `Request::from_bytes` rejects, and the bytes after it. -/
  | invalid (e : ProtocolError) (rest : List UInt8)

/-- One turn's reads: the length, the size check, the payload, `Request::from_bytes`. -/
def readTurn (input : List UInt8) : Turn :=
  match readLe 4 input with
  | none => .stop
  | some (len, rest) =>
    if FramedMessage.MAX_SIZE < len then .stop
    else if rest.length < len then .stop
    else match Request.fromBytes (rest.take len) with
      | .ok req => .request req (rest.drop len)
      | .error e => .invalid e (rest.drop len)

section
variable (pathExists : PathBuf → Bool) (errText : BincodeError → RustString) (conn : Conn)
  (c : ClientId)

/-- `format!("Invalid request: {}", e)`; `errText` is bincode's own text for the
error. -/
def invalidRequest : ProtocolError → RustString
  | .Serialization e => RustString.lit "Invalid request: serialization error: " ++ errText e

/-- The read loop of `handle_client` for the client `c`, from the turn `turn`, with `n`
writes made. It returns the registry, the requests given to `handle_request`, and the
bytes written. Each turn reads four bytes or more, so `input.length + 1` turns of fuel
are enough. -/
def serve : Nat → DaemonState PathKey → List UInt8 → Nat → Nat →
    DaemonState PathKey × List Request × List UInt8
  | 0, s, _, _, _ => (s, [], [])
  | fuel + 1, s, input, turn, n =>
    if conn.shutdownAt = some turn then (s, [], [])
    else
      match readTurn input with
      | .stop => (s, [], [])
      | .request req rest =>
        let (s', resp) := handleRequest pathExists s c req
        if conn.writeOk n then
          let (s'', reqs, out) := serve fuel s' rest (turn + 1) (n + 1)
          (s'', req :: reqs, FramedMessage.frame resp.toBytes ++ out)
        else (s', [req], [])
      | .invalid e rest =>
        let reply := FramedMessage.frame (Response.Error (invalidRequest errText e)).toBytes
        let (s', reqs, out) := serve fuel s rest (turn + 1) (n + 1)
        (s', reqs, (if conn.writeOk n then reply else []) ++ out)

/-- What one run of `handle_client` leaves. -/
structure ClientRun where
  state : DaemonState PathKey
  handled : List Request
  sent : List UInt8
  result : Outcome

/-- `handle_client` on the registry `s`: register, greet, serve, unregister. When the
greeting's send fails, `?` returns its error at once. -/
def handleClient (s : DaemonState PathKey) : ClientRun :=
  let (s1, c) := registerClient s
  if conn.writeOk 0 then
    let (s2, reqs, out) := serve pathExists errText conn c (conn.input.length + 1) s1 conn.input 0 1
    ⟨unregisterClient s2 c, reqs, FramedMessage.frame (Response.ClientRegistered c).toBytes ++ out,
      .ok⟩
  else ⟨s1, [], [], .err⟩

end

/-! ## The read loop, turn by turn -/

theorem readTurn_frame {req : Request} {bs : List UInt8} (h : req.toBytes = .ok bs)
    (hs : bs.length ≤ FramedMessage.MAX_SIZE) (rest : List UInt8) :
    readTurn (FramedMessage.frame bs ++ rest) = .request req rest := by
  have h32 : bs.length < 2 ^ 32 := by unfold FramedMessage.MAX_SIZE at hs; omega
  have hf := Request.fromBytes_toBytes h (Request.fits_of_toBytes h (by omega)) []
  rw [List.append_nil] at hf
  simp [readTurn, FramedMessage.readLe_frame rest h32, Nat.not_lt.2 hs, hf]

theorem readTurn_oversized {len : Nat} (h1 : FramedMessage.MAX_SIZE < len) (h2 : len < 2 ^ 32)
    (rest : List UInt8) : readTurn (toLeBytes 4 len ++ rest) = .stop := by
  simp (disch := omega) [readTurn, readLe_toLeBytes, Nat.mod_eq_of_lt, h1]

section
variable {pathExists : PathBuf → Bool} {errText : BincodeError → RustString} {conn : Conn}
  {c : ClientId}

/-- A turn that reads a request, on a connection where the reply's write succeeds and
shutdown does not win. -/
theorem serve_request {fuel turn n : Nat} {s : DaemonState PathKey} {input rest : List UInt8}
    {req : Request} (hshut : conn.shutdownAt ≠ some turn) (hw : conn.writeOk n = true)
    (h : readTurn input = .request req rest) :
    serve pathExists errText conn c (fuel + 1) s input turn n =
      let r := serve pathExists errText conn c fuel (handleRequest pathExists s c req).1 rest
        (turn + 1) (n + 1)
      (r.1, req :: r.2.1,
        FramedMessage.frame (handleRequest pathExists s c req).2.toBytes ++ r.2.2) := by
  simp only [serve, if_neg hshut, h, hw, if_true]

/-- A turn that cannot read a frame ends the loop. -/
theorem serve_stop {fuel turn n : Nat} {s : DaemonState PathKey} {input : List UInt8}
    (hshut : conn.shutdownAt ≠ some turn) (h : readTurn input = .stop) :
    serve pathExists errText conn c (fuel + 1) s input turn n = (s, [], []) := by
  simp only [serve, if_neg hshut, h]

end

/-! ## The read loop, frame by frame -/

section
variable (pathExists : PathBuf → Bool) (errText : BincodeError → RustString) (c : ClientId)

/-- What the read loop does with one frame's payload: `Request::from_bytes` and
`handle_request`, or the `Invalid request` error for a payload that `from_bytes`
rejects. -/
def answer (s : DaemonState PathKey) (payload : List UInt8) : DaemonState PathKey × Response :=
  match Request.fromBytes payload with
  | .ok req => handleRequest pathExists s c req
  | .error e => (s, .Error (invalidRequest errText e))

/-- The answers to payloads one after another, the registry carried from each to the
next. -/
def answerAll : DaemonState PathKey → List (List UInt8) → DaemonState PathKey × List Response
  | s, [] => (s, [])
  | s, p :: ps =>
    let r := answerAll (answer pathExists errText c s p).1 ps
    (r.1, (answer pathExists errText c s p).2 :: r.2)

end

/-- One turn reads one frame within `MAX_SIZE`, whatever its payload holds. -/
theorem readTurn_payload {p : List UInt8} (hp : p.length ≤ FramedMessage.MAX_SIZE)
    (rest : List UInt8) :
    readTurn (FramedMessage.frame p ++ rest) =
      match Request.fromBytes p with
      | .ok req => .request req rest
      | .error e => .invalid e rest := by
  have h32 : p.length < 2 ^ 32 := by unfold FramedMessage.MAX_SIZE at hp; omega
  simp only [readTurn, FramedMessage.readLe_frame rest h32, Nat.not_lt.2 hp, if_false,
    List.length_append, List.take_left', List.drop_left']
  rw [if_neg (by omega)]

section
variable {pathExists : PathBuf → Bool} {errText : BincodeError → RustString} {conn : Conn}
  {c : ClientId}

/-- A turn that reads a frame `from_bytes` rejects answers the error and goes on. -/
theorem serve_invalid {fuel turn n : Nat} {s : DaemonState PathKey} {input rest : List UInt8}
    {e : ProtocolError} (hshut : conn.shutdownAt ≠ some turn) (hw : conn.writeOk n = true)
    (h : readTurn input = .invalid e rest) :
    serve pathExists errText conn c (fuel + 1) s input turn n =
      let r := serve pathExists errText conn c fuel s rest (turn + 1) (n + 1)
      (r.1, r.2.1, FramedMessage.frame (Response.Error (invalidRequest errText e)).toBytes ++ r.2.2) := by
  simp only [serve, if_neg hshut, h, hw, if_true]

/-- The loop over a stream of frames within `MAX_SIZE`, up to a tail where no frame can
be read, is the frame-by-frame answer. -/
theorem serve_frames (hw : ∀ n, conn.writeOk n = true) (hshut : conn.shutdownAt = none)
    {tail : List UInt8} (htail : readTurn tail = .stop) :
    ∀ (payloads : List (List UInt8)), (∀ p ∈ payloads, p.length ≤ FramedMessage.MAX_SIZE) →
    ∀ fuel s turn n, payloads.length < fuel →
      serve pathExists errText conn c fuel s ((payloads.map FramedMessage.frame).flatten ++ tail)
          turn n =
        ((answerAll pathExists errText c s payloads).1,
          payloads.filterMap (fun p => (Request.fromBytes p).toOption),
          ((answerAll pathExists errText c s payloads).2.map
            fun r => FramedMessage.frame r.toBytes).flatten)
  | [], _, fuel + 1, s, turn, n, _ => by
    rw [List.map_nil, List.flatten_nil, List.nil_append, serve_stop (by simp [hshut]) htail]
    rfl
  | p :: ps, hp, fuel + 1, s, turn, n, hf => by
    have hps := serve_frames hw hshut htail ps (fun q hq => hp q (List.mem_cons_of_mem p hq)) fuel
    have hf' : ps.length < fuel := by simp only [List.length_cons] at hf; omega
    have hturn := readTurn_payload (hp p (List.mem_cons_self p ps))
      ((ps.map FramedMessage.frame).flatten ++ tail)
    rw [List.map_cons, List.flatten_cons, List.append_assoc]
    cases hreq : Request.fromBytes p with
    | ok req =>
      rw [hreq] at hturn
      rw [serve_request (by simp [hshut]) (hw n) hturn, hps _ _ _ hf']
      simp [answerAll, answer, hreq, Except.toOption]
    | error e =>
      rw [hreq] at hturn
      rw [serve_invalid (by simp [hshut]) (hw n) hturn, hps _ _ _ hf']
      simp [answerAll, answer, hreq, Except.toOption]

end

/-- Each frame is at least its four bytes of length. -/
theorem length_le_frames (payloads : List (List UInt8)) :
    payloads.length ≤ (payloads.map FramedMessage.frame).flatten.length := by
  induction payloads with
  | nil => exact le_rfl
  | cons p ps ih =>
    simp only [List.map_cons, List.flatten_cons, List.length_append, List.length_cons,
      FramedMessage.frame, length_toLeBytes]
    omega

/-- The read loop answers frame by frame. Fed the frames of any payloads within
`MAX_SIZE`, then the end of the stream or a length over `MAX_SIZE`, with every write
succeeding and no shutdown, `handle_client` writes the greeting and then one reply per
frame, in order: `handle_request`'s answer for a payload that `Request::from_bytes`
reads, and the `Invalid request` error for one it rejects, with the registry carried
from each to the next. It hands `handle_request` exactly the requests read, and it
ends by unregistering its client. -/
theorem handleClient_answers (pathExists : PathBuf → Bool) (errText : BincodeError → RustString)
    (s : DaemonState PathKey) (payloads : List (List UInt8))
    (hp : ∀ p ∈ payloads, p.length ≤ FramedMessage.MAX_SIZE) (tail : List UInt8)
    (htail : tail = [] ∨ ∃ len rest, FramedMessage.MAX_SIZE < len ∧ len < 2 ^ 32 ∧
      tail = toLeBytes 4 len ++ rest) :
    handleClient pathExists errText
        ⟨(payloads.map FramedMessage.frame).flatten ++ tail, fun _ => true, none⟩ s =
      ⟨unregisterClient (answerAll pathExists errText s.next_client_id (registerClient s).1 payloads).1
          s.next_client_id,
        payloads.filterMap fun p => (Request.fromBytes p).toOption,
        FramedMessage.frame (Response.ClientRegistered s.next_client_id).toBytes ++
          ((answerAll pathExists errText s.next_client_id (registerClient s).1 payloads).2.map
            fun r => FramedMessage.frame r.toBytes).flatten,
        .ok⟩ := by
  have htail' : readTurn tail = .stop := by
    rcases htail with rfl | ⟨len, rest, h1, h2, rfl⟩
    · rfl
    · exact readTurn_oversized h1 h2 rest
  have hlen := length_le_frames payloads
  simp only [handleClient, registerClient, if_true]
  rw [serve_frames (fun _ => rfl) rfl htail' payloads hp _ _ _ _ (by
    simp only [List.length_append]; omega)]

/-- A `Ping`, then a payload with the variant tag 9, which `from_bytes` rejects. -/
theorem handleClient_answers_pingGarbage :
    handleClient (fun _ => true) (fun _ => RustString.lit "")
        ⟨([putU32 3, putU32 9].map FramedMessage.frame).flatten ++ [], fun _ => true, none⟩
        DaemonState.new =
      ⟨unregisterClient (answerAll (fun _ => true) (fun _ => RustString.lit "") 1
          (registerClient DaemonState.new).1 [putU32 3, putU32 9]).1 1,
        [putU32 3, putU32 9].filterMap fun p => (Request.fromBytes p).toOption,
        FramedMessage.frame (Response.ClientRegistered 1).toBytes ++
          ((answerAll (fun _ => true) (fun _ => RustString.lit "") 1
            (registerClient DaemonState.new).1 [putU32 3, putU32 9]).2.map
              fun r => FramedMessage.frame r.toBytes).flatten,
        .ok⟩ :=
  handleClient_answers _ _ DaemonState.new [putU32 3, putU32 9] (by decide) [] (.inl rfl)

/-! ## Teardown -/

/-- When the greeting cannot be written, `handle_client` returns the error with its
client still registered: the `?` skips `unregister_client`. -/
theorem handleClient_greeting_fails (pathExists : PathBuf → Bool)
    (errText : BincodeError → RustString) (conn : Conn) (s : DaemonState PathKey)
    (h : conn.writeOk 0 = false) :
    (handleClient pathExists errText conn s).result = .err ∧
      ((handleClient pathExists errText conn s).state.clients s.next_client_id).isSome := by
  simp [handleClient, h, registerClient]

/-- A prober that connects and closes at once: the greeting's write fails. -/
theorem handleClient_greeting_fails_probe :
    (⟨[], fun _ => false, none⟩ : Conn).writeOk 0 = false ∧
    (handleClient (fun _ => true) (fun _ => RustString.lit "") ⟨[], fun _ => false, none⟩
        DaemonState.new).result = .err ∧
      ((handleClient (fun _ => true) (fun _ => RustString.lit "") ⟨[], fun _ => false, none⟩
        DaemonState.new).state.clients 1).isSome :=
  ⟨rfl, handleClient_greeting_fails _ _ _ _ rfl⟩

/-! ## Paths are not canonicalised -/

/-- "/tmp/x". -/
def tmpX : PathBuf := utf8Bytes "/tmp/x"

/-- "/tmp/x/../x": the same directory when `/tmp/x` is no symbolic link. -/
def tmpXUp : PathBuf := utf8Bytes "/tmp/x/../x"

/-- Two spellings of one directory get two watches: `handle_request` keys the registry
by the path's components as sent, and "/tmp/x/../x" has components that "/tmp/x" has
not. -/
theorem handleRequest_same_dir_two_wds (pathExists : PathBuf → Bool)
    (h1 : pathExists tmpX = true) (h2 : pathExists tmpXUp = true) :
    resolve [] tmpX = resolve [] tmpXUp ∧
    (handleRequest pathExists (registerClient DaemonState.new).1 1 (.AddWatch tmpX 0x100)).2 =
      .WatchAdded 1 ∧
    (handleRequest pathExists
      (handleRequest pathExists (registerClient DaemonState.new).1 1 (.AddWatch tmpX 0x100)).1 1
      (.AddWatch tmpXUp 0x100)).2 = .WatchAdded 2 ∧
    ((handleRequest pathExists
      (handleRequest pathExists (registerClient DaemonState.new).1 1 (.AddWatch tmpX 0x100)).1 1
      (.AddWatch tmpXUp 0x100)).1.watches 1).isSome := by
  simp only [handleRequest, h1, h2, Bool.not_true, Bool.false_eq_true, if_false]
  decide

theorem handleRequest_same_dir_two_wds_allExist :
    (fun _ => true : PathBuf → Bool) tmpX = true ∧ (fun _ => true : PathBuf → Bool) tmpXUp = true ∧
    resolve [] tmpX = resolve [] tmpXUp ∧
    (handleRequest (fun _ => true) (registerClient DaemonState.new).1 1 (.AddWatch tmpX 0x100)).2 =
      .WatchAdded 1 ∧
    (handleRequest (fun _ => true)
      (handleRequest (fun _ => true) (registerClient DaemonState.new).1 1
        (.AddWatch tmpX 0x100)).1 1 (.AddWatch tmpXUp 0x100)).2 = .WatchAdded 2 ∧
    ((handleRequest (fun _ => true)
      (handleRequest (fun _ => true) (registerClient DaemonState.new).1 1
        (.AddWatch tmpX 0x100)).1 1 (.AddWatch tmpXUp 0x100)).1.watches 1).isSome :=
  ⟨rfl, rfl, handleRequest_same_dir_two_wds _ rfl rfl⟩

end fakenotify.server
