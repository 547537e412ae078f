-- The daemon's own client: `send_daemon_request` in `server.rs`, which the
-- commands of `main.rs` use. It connects, reads the greeting off, sends one
-- request and reads one reply; `handle_client` then sees the stream end and
-- unregisters the command's client. So a command gets the answer to its own
-- request, and its session leaves the registry as it was, but for the id
-- counter and the mask of a path that was already watched. Every command first
-- probes the daemon with `is_daemon_running`, which connects and hangs up: the
-- probe's greeting write fails, and its client stays in the clients table for
-- good (`Server.lean`). The session results below are about the command's
-- second connection alone.
import FakeNotify.Daemon.PathMap
import FakeNotify.Daemon.Server

namespace fakenotify.cli

open Function
open fakenotify.bytes fakenotify.protocol fakenotify.state fakenotify.path fakenotify.event
  fakenotify.server

/-! ## `send_daemon_request` -/

/-- What `send_daemon_request` returns as its error: the connection, a read or the
write failed (`io`), or a message did not encode or decode (`protocol`). -/
inductive CliError
  | io
  | protocol (e : ProtocolError)
deriving DecidableEq

/-- The daemon's end of a connection, as a command sees it: every byte the daemon
writes on it before it closes, and whether the command's write succeeds. -/
structure Peer where
  incoming : List UInt8
  writeOk : Bool

/-- Two `read_exact`s: four bytes of length, then that many bytes; nothing bounds the
length. The payload, and the bytes after it. -/
def readFrame (input : List UInt8) : Option (List UInt8 × List UInt8) :=
  match readLe 4 input with
  | none => none
  | some (len, rest) => if rest.length < len then none else some (rest.take len, rest.drop len)

/-- `send_daemon_request`: connect (`none` when the connection fails), read the
greeting's frame and decode it, write the request's frame, read the reply's frame and
decode it. The bytes written, and the result; a failed `write_all` is taken to write
nothing. -/
def sendDaemonRequest (connect : Option Peer) (request : Request) :
    List UInt8 × Except CliError Response :=
  match connect with
  | none => ([], .error .io)
  | some peer =>
    match readFrame peer.incoming with
    | none => ([], .error .io)
    | some (greeting, rest) =>
      match Response.fromBytes greeting, request.toBytes with
      | .error e, _ => ([], .error (.protocol e))
      | .ok _, .error e => ([], .error (.protocol e))
      | .ok _, .ok bytes =>
        if !peer.writeOk then ([], .error .io)
        else
          match readFrame rest with
          | none => (FramedMessage.frame bytes, .error .io)
          | some (payload, _) =>
            (FramedMessage.frame bytes, (Response.fromBytes payload).mapError .protocol)

theorem readFrame_frame {payload : List UInt8} (h : payload.length < 2 ^ 32) (rest : List UInt8) :
    readFrame (FramedMessage.frame payload ++ rest) = some (payload, rest) := by
  simp [readFrame, FramedMessage.readLe_frame rest h]

/-! ## Every reply fits in a frame -/

theorem length_digits (fuel n : Nat) (acc : List UInt8) :
    (RustString.digits fuel n acc).length ≤ fuel + acc.length := by
  induction fuel generalizing n acc with
  | zero => simp [RustString.digits]
  | succ fuel ih =>
    have := ih (n / 10) (UInt8.ofNat (48 + n % 10) :: acc)
    simp only [List.length_cons] at this
    simp only [RustString.digits]
    split
    · simp only [List.length_cons]; omega
    · omega

theorem length_ofInt (x : Int) : (RustString.ofInt x).1.length ≤ x.natAbs + 2 := by
  unfold RustString.ofInt
  dsimp only
  split
  · have := length_digits (x.natAbs + 1) x.natAbs []
    simp only [List.length_cons, List.length_nil] at this ⊢
    omega
  · have := length_digits (x.toNat + 1) x.toNat []
    simp only [List.length_nil] at this
    omega

theorem length_error_toBytes (m : RustString) :
    (Response.Error m).toBytes.length = 12 + m.1.length := by
  simp only [Response.toBytes, putU32, putStr, List.length_append, length_toLeBytes]
  omega

/-- An `i32` is at most `2^31` away from zero. -/
theorem natAbs_toInt_le (x : BitVec 32) : x.toInt.natAbs ≤ 2 ^ 31 := by
  have hx := x.isLt
  rw [BitVec.toInt_eq_toNat_cond]
  split_ifs <;> omega

/-- `handle_request` answers every request that fits in a frame with a reply that fits
in one: a missing path's `Error` is 33 bytes longer than the path, and a descriptor's
decimal digits are few. -/
theorem length_handleRequest_lt {pathExists : PathBuf → Bool} {s : DaemonState PathKey}
    {c : ClientId} {req : Request} {bs : List UInt8} (h : req.toBytes = .ok bs)
    (hs : bs.length ≤ FramedMessage.MAX_SIZE) :
    (handleRequest pathExists s c req).2.toBytes.length < 2 ^ 32 := by
  have hmax : FramedMessage.MAX_SIZE = 2 ^ 20 := rfl
  cases req with
  | AddWatch path mask =>
    simp only [Request.toBytes] at h
    split at h
    · next str hstr =>
      cases h
      have hp := toStr_eq_some hstr
      subst hp
      simp only [putU32, putStr, List.length_append, length_toLeBytes] at hs
      simp only [handleRequest]
      split
      · rw [length_error_toBytes, length_pathMissing str.2]; omega
      · simp [Response.toBytes, putU32, length_toLeBytes]
    · cases h
  | RemoveWatch wd =>
    simp only [handleRequest]
    split
    · simp [Response.toBytes, putU32, length_toLeBytes]
    · have := length_ofInt wd.toInt
      have := natAbs_toInt_le wd
      have hl : (RustString.lit "Watch descriptor ").1.length = 17 := by decide
      have hr : (RustString.lit " not found").1.length = 10 := by decide
      rw [length_error_toBytes, wdNotFound, RustString.val_append, RustString.val_append]
      simp only [List.length_append, hl, hr]
      omega
  | _ => simp [handleRequest, Response.toBytes, putU32, putU64, length_toLeBytes]

/-! ## One command's session -/

section
variable (pathExists : PathBuf → Bool) (errText : BincodeError → RustString)

/-- The connection of a command that sends the frame `bs` and then closes, as
`handle_client` serves it when no other connection's calls come between: it registers
the client, greets it, answers the one request, sees the end of the stream and
unregisters the client. -/
theorem handleClient_oneRequest (s : DaemonState PathKey) {req : Request} {bs : List UInt8}
    (h : req.toBytes = .ok bs) (hs : bs.length ≤ FramedMessage.MAX_SIZE) :
    handleClient pathExists errText ⟨FramedMessage.frame bs, fun _ => true, none⟩ s =
      ⟨unregisterClient (handleRequest pathExists (registerClient s).1 s.next_client_id req).1
          s.next_client_id, [req],
        FramedMessage.frame (Response.ClientRegistered s.next_client_id).toBytes ++
          FramedMessage.frame (handleRequest pathExists (registerClient s).1 s.next_client_id req).2.toBytes,
        .ok⟩ := by
  have hlen : (FramedMessage.frame bs).length = bs.length + 3 + 1 := by
    simp [FramedMessage.frame, length_toLeBytes]; omega
  have ht : readTurn (FramedMessage.frame bs) = .request req [] := by
    simpa using readTurn_frame h hs []
  simp only [handleClient, ↓reduceIte]
  rw [serve_request (by simp) rfl ht, hlen, serve_stop (by simp) (rfl : readTurn [] = .stop)]
  simp only [List.append_nil]
  rfl

/-- The command gets the answer to its own request. On a connection that
`handle_client` serves, with no other connection's calls between, `send_daemon_request`
reads the greeting off, writes its request's frame, and returns exactly what
`handle_request` answered that request, for every request whose encoding fits in
`MAX_SIZE`. -/
theorem sendDaemonRequest_answer (s : DaemonState PathKey) {req : Request} {bs : List UInt8}
    (h : req.toBytes = .ok bs) (hs : bs.length ≤ FramedMessage.MAX_SIZE) :
    sendDaemonRequest
        (some ⟨(handleClient pathExists errText ⟨FramedMessage.frame bs, fun _ => true, none⟩ s).sent,
          true⟩) req =
      (FramedMessage.frame bs,
        .ok (handleRequest pathExists (registerClient s).1 s.next_client_id req).2) := by
  have hr : (handleRequest pathExists (registerClient s).1 s.next_client_id req).2.toBytes.length <
      2 ^ 32 := length_handleRequest_lt h hs
  have hg : (Response.ClientRegistered s.next_client_id).toBytes.length < 2 ^ 32 := by
    simp [Response.toBytes, putU32, putU64, length_toLeBytes]
  have hdec : ∀ r : Response, r.toBytes.length < 2 ^ 32 → Response.fromBytes r.toBytes = .ok r :=
    fun r hl => by simpa using Response.fromBytes_toBytes r (Response.fits_of_toBytes (by omega)) []
  have hlast := readFrame_frame hr []
  rw [List.append_nil] at hlast
  rw [handleClient_oneRequest pathExists errText s h hs]
  simp only [sendDaemonRequest, readFrame_frame hg, hdec _ hg, h, hlast, hdec _ hr,
    Bool.not_true, Bool.false_eq_true, if_false]
  rfl

/-- `fakenotifyd status` against a fresh daemon reads `Pong`. -/
theorem sendDaemonRequest_answer_ping :
    sendDaemonRequest (some ⟨(handleClient (fun _ => true) (fun _ => RustString.lit "")
        ⟨FramedMessage.frame (putU32 3), fun _ => true, none⟩ DaemonState.new).sent, true⟩) .Ping =
      (FramedMessage.frame (putU32 3), .ok .Pong) :=
  sendDaemonRequest_answer _ _ DaemonState.new rfl (by decide)

end

/-! ## What a session leaves of the registry -/

attribute [ext] DaemonState

section
variable {P : Type} [DecidableEq P] {s : DaemonState P}

omit [DecidableEq P] in
/-- Under the invariant, the id that `register_client` hands out next is nobody's. -/
theorem clients_next (hR : Registry s) : s.clients s.next_client_id = none := by
  cases hc : s.clients s.next_client_id with
  | none => rfl
  | some ws => exact absurd (hR.client_range _ _ hc) (lt_irrefl _)

omit [DecidableEq P] in
/-- Nor does any watch list it. -/
theorem next_not_mem_clients (hR : Registry s) {wd : WatchDescriptor} {w : WatchInfo P}
    (hw : s.watches wd = some w) : s.next_client_id ∉ w.clients := fun hm => by
  obtain ⟨ws, hws, -⟩ := (hR.subscribed_iff _ wd).1 ⟨w, hw, hm⟩
  rw [clients_next hR] at hws
  cases hws

/-- Registering the next id and unregistering it at once hands out the id and changes
nothing else. -/
theorem unregisterClient_registerClient (hfresh : s.clients s.next_client_id = none) :
    unregisterClient (registerClient s).1 s.next_client_id =
      { s with next_client_id := s.next_client_id + 1 } := by
  simp [unregisterClient, registerClient, update_idem, update_eq_self_iff, hfresh]

/-- `remove_watch` by a client that neither subscribes to `wd` nor lists it changes
nothing, and says whether `wd` is live. -/
theorem removeWatch_of_not_member {c : ClientId} {wd : WatchDescriptor}
    (hw : ∀ w, s.watches wd = some w → w.clients ≠ [] ∧ c ∉ w.clients)
    (hl : ¬Listed s c wd) : removeWatch s c wd = (s, (s.watches wd).isSome) := by
  cases hsw : s.watches wd with
  | none => exact removeWatch_of_none hsw
  | some w =>
    obtain ⟨hne, hc⟩ := hw w hsw
    have hcl : clientRemoveWatch s.clients c wd = s.clients := by
      funext x
      rw [clientRemoveWatch_apply]
      split
      · next hx =>
        subst hx
        cases hx : s.clients x with
        | none => rfl
        | some ws =>
          have hwd : wd ∉ ws := fun hm => hl ⟨ws, hx, hm⟩
          rw [Option.map_some', List.filter_eq_self.2 fun a ha =>
            decide_eq_true (show a ≠ wd from fun h => hwd (h ▸ ha))]
      · rfl
    have hd := dropEntry_of_not_mem hne hc
    rw [removeWatch_of_live hsw, Option.isSome_some, hcl]
    congr 1
    ext1
    · exact retainClient_clients _ _ _ _
    · rw [retainClient_watches, hd]; exact update_eq_self_iff.2 hsw.symm
    · rw [retainClient_path_to_wd, hd, if_neg (by simp)]
    · exact retainClient_next_client_id _ _ _ _
    · exact retainClient_next_wd _ _ _ _

end

/-- An entry that does not have `c` as a subscriber stays when `c` is dropped. -/
theorem Entry.drop_of_not_mem {c : ClientId} {e : Entry} (hc : c ∉ e.subs) (hn : e.subs.Nonempty) :
    e.drop c = some e := by
  simp [Entry.drop, Finset.erase_eq_of_not_mem hc, hn.ne_empty]

/-- A client that no entry has, added to the map and then dropped from every entry,
leaves only the widened mask of the path it joined. -/
theorem absUnregister_absAdd {A : PathKey → Option Entry} {c : ClientId}
    (hA : ∀ q e, A q = some e → c ∉ e.subs ∧ e.subs.Nonempty) (p : PathKey) (mask : EventMask)
    (fresh : WatchDescriptor) :
    absUnregister (absAdd A c p mask fresh).1 c =
      fun q => if q = p then (A q).map fun e => { e with mask := e.mask ||| mask } else A q := by
  funext q
  by_cases hq : q = p
  · subst hq
    simp only [absUnregister, absAdd, if_true]
    cases he : A q with
    | none => simp [Entry.drop]
    | some e =>
      obtain ⟨hc, hn⟩ := hA q e he
      simp [Entry.drop, Finset.erase_insert hc, hn.ne_empty]
  · have hrest : (A q).bind (Entry.drop c) = A q := by
      cases he : A q with
      | none => rfl
      | some e => exact Entry.drop_of_not_mem (hA q e he).1 (hA q e he).2
    simp only [absUnregister, absAdd, if_neg hq]
    split <;> simpa only [update_noteq hq] using hrest

/-- A client cannot remove another client's watch, and is told that it did.
`RemoveWatch{wd}` for a live watch to which the client does not subscribe changes
nothing in the registry, and `handle_request` answers `WatchRemoved`. -/
theorem removeWatch_unsubscribed_answered {pathExists : PathBuf → Bool} {s : DaemonState PathKey}
    (hR : Registry s) {c : ClientId} {wd : WatchDescriptor} {w : WatchInfo PathKey}
    (hw : s.watches wd = some w) (hc : c ∉ w.clients) :
    handleRequest pathExists s c (.RemoveWatch wd) = (s, .WatchRemoved) := by
  have hr : removeWatch s c wd = (s, (s.watches wd).isSome) :=
    removeWatch_of_not_member
      (fun w' hw' => by rw [hw] at hw'; cases hw'; exact ⟨hR.clients_ne_nil wd w hw, hc⟩)
      (fun hl => by
        obtain ⟨w', hw', hm⟩ := (hR.subscribed_iff c wd).2 hl
        rw [hw] at hw'; cases hw'; exact hc hm)
  simp [handleRequest, hr, hw]

/-- Client 1 watches "/tmp/x", and client 2 is registered. -/
def watchedByOne : List (Op PathKey) := [.register, .add 1 (components tmpX) 0x100 true, .register]

theorem removeWatch_unsubscribed_answered_otherClient :
    handleRequest (fun _ => true) (run DaemonState.new watchedByOne) 2 (.RemoveWatch 1) =
      (run DaemonState.new watchedByOne, .WatchRemoved) :=
  removeWatch_unsubscribed_answered (Reachable.registry ⟨watchedByOne, by decide, rfl⟩)
    (w := ⟨1, components tmpX, 0x100, true, [1]⟩) rfl (by decide)

section
variable (pathExists : PathBuf → Bool) (errText : BincodeError → RustString)

/-- A command's session whose request is not `AddWatch` (the `Ping` of `status`, `stop`
and `list`, a `RegisterClient`, or a `RemoveWatch` of any descriptor) leaves the
registry exactly as it was, but for the id it handed out: the command's client
subscribes to nothing, so its `RemoveWatch` removes nothing. The command's
`is_daemon_running` probe before it is a session of its own, and that one leaves its
client registered. -/
theorem querySession_unchanged {s : DaemonState PathKey} (hR : Registry s) {req : Request}
    (hq : req = .RegisterClient ∨ req = .Ping ∨ ∃ wd, req = .RemoveWatch wd) {bs : List UInt8}
    (h : req.toBytes = .ok bs) :
    (handleClient pathExists errText ⟨FramedMessage.frame bs, fun _ => true, none⟩ s).state =
      { s with next_client_id := s.next_client_id + 1 } := by
  have hfresh := clients_next hR
  have hs : bs.length ≤ FramedMessage.MAX_SIZE := by
    rcases hq with rfl | rfl | ⟨wd, rfl⟩ <;> simp only [Request.toBytes, Except.ok.injEq] at h <;>
      subst h <;> simp [putU32, length_toLeBytes, FramedMessage.MAX_SIZE]
  have hreg : (handleRequest pathExists (registerClient s).1 s.next_client_id req).1 =
      (registerClient s).1 := by
    rcases hq with rfl | rfl | ⟨wd, rfl⟩
    · rfl
    · rfl
    · have hr : removeWatch (registerClient s).1 s.next_client_id wd =
          ((registerClient s).1, ((registerClient s).1.watches wd).isSome) :=
        removeWatch_of_not_member
          (fun w hw => ⟨hR.clients_ne_nil wd w hw, next_not_mem_clients hR hw⟩)
          (fun ⟨ws, hws, hm⟩ => by simp [registerClient] at hws; subst hws; cases hm)
      rw [handleRequest_removeWatch, hr]
  rw [handleClient_oneRequest pathExists errText s h hs]
  dsimp only
  rw [hreg, unregisterClient_registerClient hfresh]

theorem querySession_unchanged_ping :
    (handleClient (fun _ => true) (fun _ => RustString.lit "")
        ⟨FramedMessage.frame (putU32 3), fun _ => true, none⟩ DaemonState.new).state =
      { (DaemonState.new : DaemonState PathKey) with next_client_id := 2 } :=
  querySession_unchanged _ _ registry_new (.inr (.inl rfl)) rfl

/-- A registration keeps the invariant while `next_client_id` does not wrap. -/
theorem registry_registerClient_of_lt {s : DaemonState PathKey} (hR : Registry s)
    (hid : s.next_client_id.toNat + 1 < 2 ^ 64) : Registry (registerClient s).1 :=
  registry_registerClient hR (by
    show s.next_client_id.toNat ≤ (s.next_client_id + 1).toNat
    rw [toNat_add_one hid]; omega)

/-- `add_watch` does not move `next_wd` back while it does not wrap. -/
theorem addWatch_next_wd_le {s : DaemonState PathKey} (hwd : s.next_wd.toInt < 2 ^ 31 - 1)
    (c : ClientId) (path : PathKey) (mask : EventMask) (recursive : Bool) :
    s.next_wd.toInt ≤ (addWatch s c path mask recursive).1.next_wd.toInt := by
  rcases addWatch_next_wd (s := s) c path mask recursive with he | he <;> rw [he]
  rw [toInt_add_one hwd]; omega

/-- A fresh client that subscribes and is then unregistered leaves the clients table as
it was. -/
theorem unregister_addWatch_clients {s : DaemonState PathKey}
    (hfresh : s.clients s.next_client_id = none) (path : PathKey) (mask : EventMask)
    (recursive : Bool) :
    (unregisterClient (addWatch (registerClient s).1 s.next_client_id path mask recursive).1
      s.next_client_id).clients = s.clients := by
  funext x
  rw [unregisterClient_clients]
  split
  · next hx => rw [hx, hfresh]
  · next hx => rw [addWatch_clients_ne hx]; simp [registerClient, update_noteq hx]

/-- A fresh client that adds a recursive watch and is then unregistered leaves the path
map as it was, but for the widened mask of a path that was already watched. -/
theorem pathMap_unregister_addWatch {s : DaemonState PathKey} (hR : Registry s)
    (hid : s.next_client_id.toNat + 1 < 2 ^ 64) (hwd : s.next_wd.toInt < 2 ^ 31 - 1)
    (path : PathKey) (mask : EventMask) :
    pathMap (unregisterClient (addWatch (registerClient s).1 s.next_client_id path mask true).1
      s.next_client_id) =
      fun q => if q = path then (pathMap s q).map fun e => { e with mask := e.mask ||| mask }
        else pathMap s q := by
  have hR1 := registry_registerClient_of_lt hR hid
  have hc1 : ((registerClient s).1.clients s.next_client_id).isSome := by simp [registerClient]
  have hw2 := addWatch_next_wd_le (s := (registerClient s).1) hwd s.next_client_id path mask true
  have hA : pathMap (addWatch (registerClient s).1 s.next_client_id path mask true).1 =
      (absAdd (pathMap (registerClient s).1) s.next_client_id path mask
        (registerClient s).1.next_wd).1 :=
    congrArg Prod.fst (pathMap_addWatch hR1 hc1 path mask true hw2)
  rw [pathMap_unregisterClient (registry_addWatch hR1 hc1 path mask true hw2), hA,
    absUnregister_absAdd fun q e he => ?_, pathMap_registerClient]
  obtain ⟨w, hw, -, he'⟩ := watches_of_pathMap hR1.toPaired he
  rw [he', entryOf_subs, List.mem_toFinset]
  exact ⟨next_not_mem_clients hR hw, List.toFinset_nonempty_iff _ |>.2 (hR.clients_ne_nil _ _ hw)⟩

/-- What `fakenotifyd add` leaves behind. From any registry that keeps the invariant,
with no counter about to wrap, a session that sends `AddWatch{path, mask}` and closes
leaves the clients table as it was, and the path map as it was, except that a path
that exists and was already watched has its mask widened by `mask`. A path that was not
watched before is not watched after: the watch created for the command goes when its
connection ends, and the descriptor the command printed names no watch. The command's
`is_daemon_running` probe before it is a session of its own, and that one leaves its
client registered. -/
theorem addSession_effect {s : DaemonState PathKey} (hR : Registry s)
    (hid : s.next_client_id.toNat + 1 < 2 ^ 64) (hwd : s.next_wd.toInt < 2 ^ 31 - 1)
    {path : PathBuf} {mask : BitVec 32} {bs : List UInt8}
    (h : (Request.AddWatch path mask).toBytes = .ok bs) (hs : bs.length ≤ FramedMessage.MAX_SIZE) :
    (handleClient pathExists errText ⟨FramedMessage.frame bs, fun _ => true, none⟩ s).state.clients =
        s.clients ∧
      pathMap (handleClient pathExists errText ⟨FramedMessage.frame bs, fun _ => true, none⟩ s).state =
        fun q => if pathExists path = true ∧ q = components path then
          (pathMap s q).map fun e => { e with mask := e.mask ||| fromBitsTruncate mask }
        else pathMap s q := by
  rw [handleClient_oneRequest pathExists errText s h hs]
  dsimp only
  cases hex : pathExists path
  · rw [handleRequest_addWatch_missing hex, unregisterClient_registerClient (clients_next hR)]
    exact ⟨rfl, funext fun q => by simp [pathMap]⟩
  · have hreq :
        (handleRequest pathExists (registerClient s).1 s.next_client_id (.AddWatch path mask)).1 =
          (addWatch (registerClient s).1 s.next_client_id (components path)
            (fromBitsTruncate mask) true).1 := by
      simp [handleRequest, hex]
    rw [hreq, unregister_addWatch_clients (clients_next hR), pathMap_unregister_addWatch hR hid hwd]
    exact ⟨rfl, funext fun q => by simp⟩

theorem addSession_effect_new :
    (handleClient (fun _ => true) (fun _ => RustString.lit "")
        ⟨FramedMessage.frame (putU32 1 ++ putStr tmpX ++ putU32 IN_ALL_EVENTS), fun _ => true, none⟩
        DaemonState.new).state.clients = (DaemonState.new : DaemonState PathKey).clients ∧
      pathMap (handleClient (fun _ => true) (fun _ => RustString.lit "")
        ⟨FramedMessage.frame (putU32 1 ++ putStr tmpX ++ putU32 IN_ALL_EVENTS), fun _ => true, none⟩
        DaemonState.new).state = fun q =>
          if (fun _ => true : PathBuf → Bool) tmpX = true ∧ q = components tmpX then
            (pathMap (DaemonState.new : DaemonState PathKey) q).map
              fun e => { e with mask := e.mask ||| fromBitsTruncate IN_ALL_EVENTS }
          else pathMap (DaemonState.new : DaemonState PathKey) q :=
  addSession_effect _ _ registry_new (by decide) (by decide) rfl (by decide)

end

end fakenotify.cli
