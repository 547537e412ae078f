-- One managed descriptor end to end: the library's calls (`preload/src/lib.rs`),
-- the daemon's handler for the connection (`server.rs`), the dispatcher's event
-- frames (`watcher.rs`) and the application's reads share the socket's two byte
-- streams.
import FakeNotify.Daemon.Watcher
import FakeNotify.Preload.Library

namespace fakenotify.connection

open fakenotify.bytes fakenotify.protocol fakenotify.state fakenotify.event fakenotify.server
  fakenotify.preload fakenotify.watcher

/-! ## Streams of frames -/

section
variable {pathExists : PathBuf → Bool} {errText : BincodeError → RustString} {conn : Conn}
  {c : ClientId}

/-- The read loop hands `handle_request` the requests of a stream of frames, one by one,
until a turn finds no frame. -/
theorem serve_requestStream (hw : ∀ n, conn.writeOk n = true) (hshut : conn.shutdownAt = none)
    {tail : List UInt8} (htail : readTurn tail = .stop) :
    ∀ (reqs : List Request), (∀ r ∈ reqs, ∃ bs, r.toBytes = .ok bs ∧ bs.length ≤ FramedMessage.MAX_SIZE) →
    ∀ fuel s turn n, reqs.length < fuel →
      (serve pathExists errText conn c fuel s (requestStream reqs ++ tail) turn n).2.1 = reqs
  | [], _, fuel + 1, s, turn, n, _ => by
    rw [requestStream, List.nil_append, serve_stop (by simp [hshut]) htail]
  | r :: rs, hreq, fuel + 1, s, turn, n, hf => by
    obtain ⟨bs, hbs, hsz⟩ := hreq r (List.mem_cons_self r rs)
    have hs : requestStream (r :: rs) ++ tail = FramedMessage.frame bs ++ (requestStream rs ++ tail) := by
      simp [requestStream, requestFrame, hbs]
    rw [hs, serve_request (by simp [hshut]) (hw n) (readTurn_frame hbs hsz _)]
    simp only [List.cons.injEq, true_and]
    exact serve_requestStream hw hshut htail rs (fun r' hr' => hreq r' (List.mem_cons_of_mem r hr'))
      fuel _ _ _ (by simpa using hf)

end

/-- Each frame is at least one byte, so a stream has as many bytes as frames or more. -/
theorem length_le_requestStream :
    ∀ (reqs : List Request), (∀ r ∈ reqs, ∃ bs, r.toBytes = .ok bs) →
      reqs.length ≤ (requestStream reqs).length
  | [], _ => le_rfl
  | r :: rs, h => by
    obtain ⟨bs, hbs⟩ := h r (List.mem_cons_self r rs)
    have := length_le_requestStream rs fun r' hr' => h r' (List.mem_cons_of_mem r hr')
    simp [requestStream, requestFrame, hbs, FramedMessage.frame]
    omega

/-- Framed streams decode to what was sent. The daemon's read loop, fed the frames of a
list of requests (their paths UTF-8, their encodings within `MAX_SIZE`), then the end
of the stream or a frame that announces more than `MAX_SIZE`, calls `handle_request` on
exactly those requests in order. The library reads a response frame back as the
response. Under both lie `from_bytes (to_bytes v) = v`. -/
theorem frames_decode :
    (∀ (pathExists : PathBuf → Bool) (errText : BincodeError → RustString)
      (s : DaemonState PathKey) (reqs : List Request) (tail : List UInt8),
      (∀ r ∈ reqs, ∃ bs, r.toBytes = .ok bs ∧ bs.length ≤ FramedMessage.MAX_SIZE) →
      (tail = [] ∨ ∃ len rest, FramedMessage.MAX_SIZE < len ∧ len < 2 ^ 32 ∧
        tail = toLeBytes 4 len ++ rest) →
      (handleClient pathExists errText ⟨requestStream reqs ++ tail, fun _ => true, none⟩ s).handled =
        reqs) ∧
    (∀ (r : Response) (rest : List UInt8), r.toBytes.length ≤ FramedMessage.MAX_SIZE →
      readResponse (FramedMessage.frame r.toBytes ++ rest) = some (some r, rest)) ∧
    (∀ (r : Request) (bs : List UInt8), r.toBytes = .ok bs → r.Fits →
      Request.fromBytes bs = .ok r) ∧
    (∀ r : Response, r.Fits → Response.fromBytes r.toBytes = .ok r) := by
  refine ⟨fun pathExists errText s reqs tail hreq htail => ?_, fun r rest hr =>
    readResponse_frame (Response.fits_of_toBytes (by unfold FramedMessage.MAX_SIZE at hr; omega))
      hr rest, fun r bs h hr => by simpa using Request.fromBytes_toBytes h hr [],
    fun r hr => by simpa using Response.fromBytes_toBytes r hr []⟩
  have htail' : readTurn tail = .stop := by
    rcases htail with rfl | ⟨len, rest, h1, h2, rfl⟩
    · rfl
    · exact readTurn_oversized h1 h2 rest
  have hlen := length_le_requestStream reqs fun r hr => (hreq r hr).imp fun _ h => h.1
  simp only [handleClient, if_true]
  exact serve_requestStream (fun _ => rfl) rfl htail' reqs hreq _ _ _ _
    (by simp only [List.length_append]; omega)

theorem frames_decode_pingRemove :
    (∀ r ∈ [Request.Ping, .RemoveWatch 3], ∃ bs, r.toBytes = .ok bs ∧
      bs.length ≤ FramedMessage.MAX_SIZE) ∧
    (handleClient (fun _ => true) (fun _ => RustString.lit "")
      ⟨requestStream [.Ping, .RemoveWatch 3] ++ [], fun _ => true, none⟩ DaemonState.new).handled =
      [.Ping, .RemoveWatch 3] := by
  have h : ∀ r ∈ [Request.Ping, .RemoveWatch 3], ∃ bs, r.toBytes = .ok bs ∧
      bs.length ≤ FramedMessage.MAX_SIZE := by
    intro r hr
    simp only [List.mem_cons, List.mem_singleton, List.not_mem_nil, or_false] at hr
    rcases hr with rfl | rfl <;> exact ⟨_, rfl, by decide⟩
  exact ⟨h, frames_decode.1 _ _ _ _ _ h (Or.inl rfl)⟩

/-! ## One connection, move by move -/

/-- The state of one managed descriptor's connection, from the accept on. -/
structure Link where
  /-- The daemon's registry and the dispatcher. -/
  reg : DaemonState PathKey
  disp : Dispatcher
  /-- The connection's client id, and whether the handler has sent its greeting. -/
  client : ClientId
  greeted : Bool
  /-- Bytes the library has written and the handler not read. -/
  up : List UInt8
  /-- Bytes the daemon has written and nobody has read. -/
  down : List UInt8
  /-- What `handle_request` answered, in order. -/
  answers : List Response
  /-- Library calls that have sent their request and wait for a reply, oldest first. -/
  waiting : List Request
  /-- Finished library calls, with what their `send_request` returned. -/
  returned : List (Request × Option Response)
  /-- What the application's `read`s returned. -/
  appRead : List UInt8

/-- The connection just after the accept: the client is registered, nothing is
written. -/
def Link.accept (s : DaemonState PathKey) (d : Dispatcher) : Link :=
  ⟨(registerClient s).1, d, s.next_client_id, false, [], [], [], [], [], []⟩

/-- What can happen next on the connection. -/
inductive Move
  /-- The handler sends its greeting. -/
  | greet
  /-- The handler reads a frame and answers it. -/
  | serve
  /-- A library call sends its request. -/
  | call (req : Request)
  /-- The oldest waiting call reads its reply. -/
  | reply
  /-- The dispatcher handles a raw event, and writes its frame if this client is a
  recipient. -/
  | event (ev : WatcherEvent)
  /-- The application reads up to `n` bytes. -/
  | read (n : Nat)

/-- One move, or `none` when it cannot happen now. -/
def Link.step (pathExists : PathBuf → Bool) (L : Link) : Move → Option Link
  | .greet =>
    if L.greeted then none
    else some { L with
      greeted := true
      down := L.down ++ FramedMessage.frame (Response.ClientRegistered L.client).toBytes }
  | .serve =>
    if L.greeted then
      match readTurn L.up with
      | .request req rest =>
        let (reg, resp) := handleRequest pathExists L.reg L.client req
        some { L with
          reg := reg
          up := rest
          down := L.down ++ FramedMessage.frame resp.toBytes
          answers := L.answers ++ [resp] }
      | _ => none
    else none
  | .call req =>
    (requestFrame req).map fun f => { L with up := L.up ++ f, waiting := L.waiting ++ [req] }
  | .reply =>
    match L.waiting, readResponse L.down with
    | req :: ws, some (r, rest) =>
      some { L with down := rest, waiting := ws, returned := L.returned ++ [(req, r)] }
    | _, _ => none
  | .event ev =>
    match handleEvent L.reg L.disp ev with
    | (d, some (f, cs)) =>
      some { L with disp := d, down := if L.client ∈ cs then L.down ++ f else L.down }
    | (d, none) => some { L with disp := d }
  | .read n => some { L with appRead := L.appRead ++ L.down.take n, down := L.down.drop n }

/-- The connection after a list of moves. -/
def Link.run (pathExists : PathBuf → Bool) : Link → List Move → Option Link
  | L, [] => some L
  | L, m :: ms => (L.step pathExists m).bind fun L' => Link.run pathExists L' ms

/-- `inotify_init`, then `inotify_add_watch` on "/tmp/x", against a daemon where every
path exists. -/
def initThenAdd : List Move :=
  [.call .RegisterClient, .greet, .reply, .serve, .call (.AddWatch tmpX 0x100), .serve, .reply]

/-- The greeting is the first frame on the socket, so `inotify_init` reads it as the
reply to its `RegisterClient`, and the reply to `RegisterClient` stays in the stream:
`inotify_add_watch` reads it in place of the `WatchAdded` the daemon sent, and fails
with `EIO`. -/
theorem initThenAdd_reads_wrong_reply :
    ∃ L, Link.run (fun _ => true) (Link.accept DaemonState.new Dispatcher.new) initThenAdd = some L ∧
      L.answers = [.ClientRegistered 1, .WatchAdded 1] ∧
      L.returned = [(.RegisterClient, some (.ClientRegistered 1)),
        (.AddWatch tmpX 0x100, some (.ClientRegistered 1))] ∧
      addWatchResult (some (.ClientRegistered 1)) = ⟨-1, some EIO⟩ :=
  ⟨_, rfl, by decide, by decide, rfl⟩

/-- A file created in "/tmp/x" after the calls of `initThenAdd`, then a read. -/
def initAddEventRead : List Move :=
  initThenAdd ++ [.event ⟨utf8Bytes "/tmp/x/f", .Create, false⟩, .read 64]

/-- The application's `read` returns the stray `WatchAdded` frame, then the event's
record behind its four-byte length prefix: 36 bytes where the kernel gives the 20 of the
record. -/
theorem initAddEventRead_reads_frames :
    ∃ L, Link.run (fun _ => true) (Link.accept DaemonState.new Dispatcher.new) initAddEventRead =
      some L ∧
      L.appRead = FramedMessage.frame (Response.WatchAdded 1).toBytes ++
        FramedMessage.frame ((InotifyEvent.new 1 IN_CREATE 0).toBytesWithName (utf8Bytes "f")) ∧
      ((InotifyEvent.new 1 IN_CREATE 0).toBytesWithName (utf8Bytes "f")).length = 20 ∧
      L.appRead.length = 36 :=
  ⟨_, rfl, by decide, by decide, by decide⟩

/-! ## Reply sizes -/

/-- A path of `MAX_SIZE - 16` ASCII bytes: its `AddWatch` payload is `MAX_SIZE` bytes. -/
def longPath : PathBuf := List.replicate (FramedMessage.MAX_SIZE - 16) 97

theorem utf8Valid_longPath : utf8Valid longPath = true :=
  utf8Valid_of_ascii fun b hb => by
    unfold longPath at hb
    rw [List.eq_of_mem_replicate hb]; decide

theorem length_longPath : longPath.length = FramedMessage.MAX_SIZE - 16 := by
  rw [longPath, List.length_replicate]

/-- An `AddWatch` for `longPath`, missing, from any client on any registry. The request's
payload is exactly `MAX_SIZE` bytes, and the daemon's read loop accepts and decodes it.
The `Error` that `handle_request` answers echoes the path, and its payload is
`MAX_SIZE + 17` bytes. The library's `send_request` rejects that frame on its length and
leaves the payload unread in the stream, and `inotify_add_watch` fails with `EIO`. -/
theorem addWatch_reply_oversized (s : DaemonState PathKey) (c : ClientId) (managed : Finset Int)
    (fd : Int) (realAddWatch : Option (Int × List UInt8 × BitVec 32 → CallResult))
    (rest : List UInt8) :
    let req := Request.AddWatch longPath 0x100
    let resp := (handleRequest (fun _ => false) s c req).2
    (∃ bs, req.toBytes = .ok bs ∧ bs.length = FramedMessage.MAX_SIZE ∧
      ∀ rest', readTurn (FramedMessage.frame bs ++ rest') = .request req rest') ∧
    resp.toBytes.length = FramedMessage.MAX_SIZE + 17 ∧
    readResponse (FramedMessage.frame resp.toBytes ++ rest) = some (none, resp.toBytes ++ rest) ∧
    inotifyAddWatch (some (insert fd managed)) realAddWatch
      ⟨fd, true, FramedMessage.frame resp.toBytes ++ rest⟩ fd longPath 0x100 = ⟨-1, some EIO⟩ := by
  intro req resp
  have hstr : PathBuf.toStr longPath = some ⟨longPath, utf8Valid_longPath⟩ := by
    rw [PathBuf.toStr, dif_pos utf8Valid_longPath]
  have hreq : req.toBytes = .ok (putU32 1 ++ putStr longPath ++ putU32 0x100) := by
    rw [Request.toBytes, hstr]
  have hlen : (putU32 1 ++ putStr longPath ++ putU32 0x100).length = FramedMessage.MAX_SIZE := by
    simp only [putU32, putStr, List.length_append, length_toLeBytes, length_longPath]
    unfold FramedMessage.MAX_SIZE; omega
  have hresp : resp = .Error (pathMissing longPath) :=
    congrArg Prod.snd (handleRequest_addWatch_missing rfl 0x100)
  have hrlen : resp.toBytes.length = FramedMessage.MAX_SIZE + 17 := by
    simp only [hresp, Response.toBytes, putU32, putStr, List.length_append, length_toLeBytes,
      length_pathMissing utf8Valid_longPath, length_longPath]
    unfold FramedMessage.MAX_SIZE; omega
  have hread := readResponse_oversized (by rw [hrlen]; omega)
    (by rw [hrlen]; unfold FramedMessage.MAX_SIZE; omega) rest
  refine ⟨⟨_, hreq, hlen, readTurn_frame hreq hlen.le⟩, hrlen, hread, ?_⟩
  have hsend : sendRequest ⟨fd, true, FramedMessage.frame resp.toBytes ++ rest⟩ req = none := by
    rw [sendRequest_of_toBytes hreq, if_pos rfl, hread]
    rfl
  rw [inotifyAddWatch, if_neg (by simp [isManagedFd]), addWatchRequest, hstr]
  show addWatchResult (sendRequest _ req) = _
  rw [hsend]
  rfl

end fakenotify.connection
