-- The daemon as a whole: the handler task of every accepted connection, the
-- dispatcher task, and each client's socket, in any interleaving. A socket holds
-- at most `cap` unread bytes and a write blocks while it is full. Both tasks
-- write to a client through `Client::send_event`, whose mutex is held for the
-- whole `write_all` of a frame. Writes do not fail here.
import FakeNotify.Daemon.Watcher

namespace fakenotify.system

open Function
open fakenotify.bytes fakenotify.protocol fakenotify.state fakenotify.server fakenotify.watcher

/-! ## States and steps -/

/-- Where a connection's handler is: before its greeting, in the read loop, or
returned. -/
inductive Phase
  | greet
  | serve
  | closed
deriving DecidableEq

/-- Who holds a client's writer mutex. -/
inductive Writer
  | handler
  | dispatcher
deriving DecidableEq

/-- A frame begun on a socket: a reply of the handler, or the frame of the `n`th raw
event the dispatcher handled. -/
inductive Sent
  | reply (frame : List UInt8)
  | event (n : Nat) (frame : List UInt8)
deriving DecidableEq

/-- The bytes of a frame begun on a socket. -/
def Sent.frame : Sent → List UInt8
  | .reply f => f
  | .event _ f => f

/-- The event number of a dispatcher's frame. -/
def Sent.num? : Sent → Option Nat
  | .reply _ => none
  | .event n _ => some n

/-- One accepted connection: its client id, its handler, its socket. `out` and `log`
record what was written, for the statements. -/
structure Sock where
  id : ClientId
  phase : Phase
  /-- The handler's next frame, waiting for the mutex. -/
  reply : Option (List UInt8)
  /-- The mutex's holder and the bytes of its frame not written yet. -/
  lock : Option (Writer × List UInt8)
  /-- Bytes written that the peer has not read. -/
  buf : List UInt8
  cap : Nat
  /-- Every byte written, and every frame begun, in order. -/
  out : List UInt8
  log : List Sent
deriving DecidableEq

/-- The bytes of the frame being written and not written yet. -/
def Sock.pending (σ : Sock) : List UInt8 :=
  match σ.lock with
  | some (_, rest) => rest
  | none => []

/-- The handler is not writing and not waiting to write. -/
def Sock.handlerIdle (σ : Sock) : Bool :=
  σ.reply.isNone &&
    match σ.lock with
    | some (.handler, _) => false
    | _ => true

theorem Sock.reply_of_handlerIdle {σ : Sock} (h : σ.handlerIdle) : σ.reply = none :=
  Option.isNone_iff_eq_none.1 (Bool.and_eq_true_iff.1 h).1

/-- The state of a fresh connection of client `id`. -/
def Sock.fresh (id : ClientId) (cap : Nat) : Sock := ⟨id, .greet, none, none, [], cap, [], []⟩

/-- What one `write` of the frame's `rest` by `w` does: as much as fits goes into the
socket; the mutex is released when the frame is done. -/
def Sock.write (σ : Sock) (w : Writer) (rest : List UInt8) : Sock :=
  let room := σ.cap - σ.buf.length
  { σ with
    buf := σ.buf ++ rest.take room
    out := σ.out ++ rest.take room
    lock := if rest.length ≤ room then none else some (w, rest.drop room) }

/-- `send_response`'s frame for the greeting of client `id`. -/
def greeting (id : ClientId) : List UInt8 := FramedMessage.frame (Response.ClientRegistered id).toBytes

/-- The daemon. `owner` says which connection's `Client` the clients map holds under an
id; `fanout` is what is left of the current event's sends, in order. -/
structure Sys where
  reg : DaemonState PathKey
  disp : Dispatcher
  socks : Nat → Option Sock
  accepted : Nat
  owner : ClientId → Option Nat
  events : Nat
  fanout : List (Nat × List UInt8)

/-- The daemon before any connection and any event. -/
def Sys.init : Sys := ⟨DaemonState.new, Dispatcher.new, fun _ => none, 0, fun _ => none, 0, []⟩

/-- The sends of a handled event: its frame to the connection whose `Client` the
clients map holds under each id that `get_clients_for_watch` returned, in that order. -/
def recipients (owner : ClientId → Option Nat) : Option (List UInt8 × List ClientId) →
    List (Nat × List UInt8)
  | some (f, ids) => (ids.filterMap owner).map fun k => (k, f)
  | none => []

/-- What can happen next. -/
inductive Step
  /-- A connection is accepted and its client registered; its socket holds `cap`
  bytes. -/
  | accept (cap : Nat)
  /-- The handler of `k` wants to send its greeting. -/
  | greet (k : Nat)
  /-- The handler of `k` reads a request and answers it. -/
  | request (k : Nat) (req : Request)
  /-- The handler of `k` reads a frame `from_bytes` rejects and answers `message`. -/
  | invalid (k : Nat) (message : RustString)
  /-- The read loop of `k` ends and the client is unregistered. -/
  | close (k : Nat)
  /-- The handler of `k` takes its client's mutex for its frame. -/
  | take (k : Nat)
  /-- The dispatcher handles a raw event. -/
  | event (ev : WatcherEvent)
  /-- The dispatcher takes the mutex of the next client of the fan-out. -/
  | send
  /-- The holder of `k`'s mutex writes what fits in the socket. -/
  | write (k : Nat)
  /-- The peer of `k` reads `n` bytes. -/
  | read (k : Nat) (n : Nat)

/-- The daemon with the socket `k` replaced. -/
def Sys.setSock (S : Sys) (k : Nat) (σ : Sock) : Sys := { S with socks := update S.socks k (some σ) }

/-- One step, or `none` when it cannot happen now. -/
def Sys.step (pathExists : PathBuf → Bool) (S : Sys) : Step → Option Sys
  | .accept cap =>
    let r := registerClient S.reg
    some { S with
      reg := r.1
      socks := update S.socks S.accepted (some (Sock.fresh r.2 cap))
      accepted := S.accepted + 1
      owner := update S.owner r.2 (some S.accepted) }
  | .greet k =>
    (S.socks k).bind fun σ =>
      if σ.phase = .greet then
        some (S.setSock k { σ with phase := .serve, reply := some (greeting σ.id) })
      else none
  | .request k req =>
    (S.socks k).bind fun σ =>
      if σ.phase = .serve ∧ σ.handlerIdle then
        let r := handleRequest pathExists S.reg σ.id req
        some ({ S with reg := r.1 }.setSock k
          { σ with reply := some (FramedMessage.frame r.2.toBytes) })
      else none
  | .invalid k message =>
    (S.socks k).bind fun σ =>
      if σ.phase = .serve ∧ σ.handlerIdle then
        some (S.setSock k
          { σ with reply := some (FramedMessage.frame (Response.Error message).toBytes) })
      else none
  | .close k =>
    (S.socks k).bind fun σ =>
      if σ.phase = .serve ∧ σ.handlerIdle then
        some ({ S with
          reg := unregisterClient S.reg σ.id
          owner := update S.owner σ.id none }.setSock k { σ with phase := .closed })
      else none
  | .take k =>
    (S.socks k).bind fun σ =>
      match σ.reply, σ.lock with
      | some f, none =>
        some (S.setSock k
          { σ with reply := none, lock := some (.handler, f), log := σ.log ++ [.reply f] })
      | _, _ => none
  | .event ev =>
    if S.fanout = [] then
      let r := handleEvent S.reg S.disp ev
      some { S with disp := r.1, events := S.events + 1, fanout := recipients S.owner r.2 }
    else none
  | .send =>
    match S.fanout with
    | (k, f) :: _ =>
      (S.socks k).bind fun σ =>
        if σ.lock = none then
          some (S.setSock k
            { σ with lock := some (.dispatcher, f), log := σ.log ++ [.event S.events f] })
        else none
    | [] => none
  | .write k =>
    (S.socks k).bind fun σ =>
      match σ.lock with
      | some (w, rest) =>
        if σ.buf.length < σ.cap then
          some { S.setSock k (σ.write w rest) with
            fanout := if w = .dispatcher ∧ (σ.write w rest).lock = none then S.fanout.tail
              else S.fanout }
        else none
      | none => none
  | .read k n =>
    (S.socks k).bind fun σ => some (S.setSock k { σ with buf := σ.buf.drop n })

/-- The states reached from `Sys.init` by enabled steps that `ok` allows. -/
inductive Reach (pathExists : PathBuf → Bool) (ok : Sys → Step → Bool) : Sys → Prop
  | init : Reach pathExists ok Sys.init
  | step {S S' : Sys} {st : Step} : Reach pathExists ok S → ok S st = true →
      S.step pathExists st = some S' → Reach pathExists ok S'

/-- The state after a list of steps, when `ok` allows each and each is enabled. -/
def Sys.run (pathExists : PathBuf → Bool) (ok : Sys → Step → Bool) : Sys → List Step → Option Sys
  | S, [] => some S
  | S, st :: sts =>
    if ok S st then (S.step pathExists st).bind fun S' => Sys.run pathExists ok S' sts else none

/-- A run from a reachable state ends in a reachable state. -/
theorem Reach.run {pathExists : PathBuf → Bool} {ok : Sys → Step → Bool} :
    ∀ {S S' : Sys} (sts : List Step), Reach pathExists ok S →
      Sys.run pathExists ok S sts = some S' → Reach pathExists ok S'
  | _, _, [], h, hr => by cases hr; exact h
  | S, _, st :: sts, h, hr => by
    simp only [Sys.run] at hr
    split at hr
    · next hok =>
      obtain ⟨S1, h1, h2⟩ := Option.bind_eq_some.1 hr
      exact Reach.run sts (.step h hok h1) h2
    · cases hr

/-! ## What each step does -/

section
variable {pathExists : PathBuf → Bool} {S S' : Sys}

@[simp] theorem Sys.setSock_socks (S : Sys) (k : Nat) (σ : Sock) :
    (S.setSock k σ).socks = update S.socks k (some σ) := rfl
@[simp] theorem Sys.setSock_reg (S : Sys) (k : Nat) (σ : Sock) : (S.setSock k σ).reg = S.reg := rfl
@[simp] theorem Sys.setSock_owner (S : Sys) (k : Nat) (σ : Sock) :
    (S.setSock k σ).owner = S.owner := rfl
@[simp] theorem Sys.setSock_accepted (S : Sys) (k : Nat) (σ : Sock) :
    (S.setSock k σ).accepted = S.accepted := rfl
@[simp] theorem Sys.setSock_events (S : Sys) (k : Nat) (σ : Sock) :
    (S.setSock k σ).events = S.events := rfl
@[simp] theorem Sys.setSock_fanout (S : Sys) (k : Nat) (σ : Sock) :
    (S.setSock k σ).fanout = S.fanout := rfl

theorem step_accept (cap : Nat) :
    S.step pathExists (.accept cap) = some { S with
      reg := (registerClient S.reg).1
      socks := update S.socks S.accepted (some (Sock.fresh S.reg.next_client_id cap))
      accepted := S.accepted + 1
      owner := update S.owner S.reg.next_client_id (some S.accepted) } := rfl

theorem step_greet {k : Nat} (h : S.step pathExists (.greet k) = some S') :
    ∃ σ, S.socks k = some σ ∧ σ.phase = .greet ∧
      S' = S.setSock k { σ with phase := .serve, reply := some (greeting σ.id) } := by
  simp only [Sys.step, Option.bind_eq_some, Option.ite_none_right_eq_some, Option.some.injEq] at h
  obtain ⟨σ, hσ, hp, rfl⟩ := h
  exact ⟨σ, hσ, hp, rfl⟩

theorem step_request {k : Nat} {req : Request} (h : S.step pathExists (.request k req) = some S') :
    ∃ σ, S.socks k = some σ ∧ σ.phase = .serve ∧ σ.handlerIdle ∧
      S' = { S with reg := (handleRequest pathExists S.reg σ.id req).1 }.setSock k
        { σ with reply := some (FramedMessage.frame (handleRequest pathExists S.reg σ.id req).2.toBytes) } := by
  simp only [Sys.step, Option.bind_eq_some, Option.ite_none_right_eq_some, Option.some.injEq] at h
  obtain ⟨σ, hσ, ⟨hp, hi⟩, rfl⟩ := h
  exact ⟨σ, hσ, hp, hi, rfl⟩

theorem step_invalid {k : Nat} {message : RustString}
    (h : S.step pathExists (.invalid k message) = some S') :
    ∃ σ, S.socks k = some σ ∧ σ.phase = .serve ∧ σ.handlerIdle ∧
      S' = S.setSock k { σ with reply := some (FramedMessage.frame (Response.Error message).toBytes) } := by
  simp only [Sys.step, Option.bind_eq_some, Option.ite_none_right_eq_some, Option.some.injEq] at h
  obtain ⟨σ, hσ, ⟨hp, hi⟩, rfl⟩ := h
  exact ⟨σ, hσ, hp, hi, rfl⟩

theorem step_close {k : Nat} (h : S.step pathExists (.close k) = some S') :
    ∃ σ, S.socks k = some σ ∧ σ.phase = .serve ∧ σ.handlerIdle ∧
      S' = { S with reg := unregisterClient S.reg σ.id, owner := update S.owner σ.id none }.setSock k
        { σ with phase := .closed } := by
  simp only [Sys.step, Option.bind_eq_some, Option.ite_none_right_eq_some, Option.some.injEq] at h
  obtain ⟨σ, hσ, ⟨hp, hi⟩, rfl⟩ := h
  exact ⟨σ, hσ, hp, hi, rfl⟩

theorem step_take {k : Nat} (h : S.step pathExists (.take k) = some S') :
    ∃ σ f, S.socks k = some σ ∧ σ.reply = some f ∧ σ.lock = none ∧
      S' = S.setSock k { σ with reply := none, lock := some (.handler, f), log := σ.log ++ [.reply f] } := by
  obtain ⟨σ, hσ, h⟩ := Option.bind_eq_some.1 h
  split at h
  · next f hr hl => exact ⟨σ, f, hσ, hr, hl, (Option.some.inj h).symm⟩
  · cases h

theorem step_event {ev : WatcherEvent} (h : S.step pathExists (.event ev) = some S') :
    S.fanout = [] ∧ S' = { S with
      disp := (handleEvent S.reg S.disp ev).1
      events := S.events + 1
      fanout := recipients S.owner (handleEvent S.reg S.disp ev).2 } := by
  simp only [Sys.step] at h
  split at h
  · next hf => exact ⟨hf, (Option.some.inj h).symm⟩
  · cases h

theorem step_send (h : S.step pathExists .send = some S') :
    ∃ k f t σ, S.fanout = (k, f) :: t ∧ S.socks k = some σ ∧ σ.lock = none ∧
      S' = S.setSock k { σ with lock := some (.dispatcher, f), log := σ.log ++ [.event S.events f] } := by
  simp only [Sys.step] at h
  split at h
  · next k f t hf =>
    simp only [Option.bind_eq_some, Option.ite_none_right_eq_some, Option.some.injEq] at h
    obtain ⟨σ, hσ, hl, rfl⟩ := h
    exact ⟨k, f, t, σ, hf, hσ, hl, rfl⟩
  · cases h

theorem step_write {k : Nat} (h : S.step pathExists (.write k) = some S') :
    ∃ σ w rest, S.socks k = some σ ∧ σ.lock = some (w, rest) ∧ σ.buf.length < σ.cap ∧
      S' = { S.setSock k (σ.write w rest) with
        fanout := if w = .dispatcher ∧ (σ.write w rest).lock = none then S.fanout.tail
          else S.fanout } := by
  obtain ⟨σ, hσ, h⟩ := Option.bind_eq_some.1 h
  split at h
  · next w rest hl =>
    simp only [Option.ite_none_right_eq_some, Option.some.injEq] at h
    obtain ⟨hb, rfl⟩ := h
    exact ⟨σ, w, rest, hσ, hl, hb, rfl⟩
  · cases h

theorem step_read {k n : Nat} (h : S.step pathExists (.read k n) = some S') :
    ∃ σ, S.socks k = some σ ∧ S' = S.setSock k { σ with buf := σ.buf.drop n } := by
  obtain ⟨σ, hσ, h⟩ := Option.bind_eq_some.1 h
  exact ⟨σ, hσ, (Option.some.inj h).symm⟩

end

/-! ## The dispatcher's fan-out -/

/-- The event numbers of the frames begun on a socket, in order. -/
def Sock.nums (σ : Sock) : List Nat := σ.log.filterMap Sent.num?

/-- What holds of every reachable state, whatever steps `ok` allows. -/
structure Wf (S : Sys) : Prop where
  /-- No socket lies beyond the accepted connections. -/
  unused : ∀ k, S.accepted ≤ k → S.socks k = none
  /-- The dispatcher holds the mutex of the first client of the fan-out and of no
  other. -/
  head_lock : ∀ k σ rest, S.socks k = some σ → σ.lock = some (.dispatcher, rest) →
    S.fanout.head?.map Prod.fst = some k

section
variable {pathExists : PathBuf → Bool} {S S' : Sys}

theorem wf_init : Wf Sys.init := ⟨fun _ _ => rfl, fun _ _ _ h => by cases h⟩

/-- A step that replaces one accepted socket, and gives the dispatcher its mutex only
if it heads the fan-out, keeps `Wf`. -/
theorem Wf.setSock (h : Wf S) {k : Nat} {σ : Sock} (hk : (S.socks k).isSome)
    (hl : ∀ rest, σ.lock = some (.dispatcher, rest) → S.fanout.head?.map Prod.fst = some k) :
    Wf (S.setSock k σ) := by
  refine ⟨fun j hj => ?_, fun j τ rest hj hτ => ?_⟩
  · have hjk : j ≠ k := by rintro rfl; simp [h.unused j hj] at hk
    simpa [update_noteq hjk] using h.unused j hj
  · rcases update_eq_some hj with ⟨rfl, rfl⟩ | ⟨-, hj⟩
    · exact hl rest hτ
    · exact h.head_lock j τ rest hj hτ

/-- A step that changes no socket's mutex and not the fan-out keeps the dispatcher's
mutex where it was. -/
theorem Wf.setSock_lock (h : Wf S) {k : Nat} {σ τ : Sock} (hk : S.socks k = some σ)
    (hl : τ.lock = σ.lock) : Wf (S.setSock k τ) :=
  h.setSock (by simp [hk]) fun rest hτ => h.head_lock k σ rest hk (hl ▸ hτ)

/-- The dispatcher keeps a client's mutex until its frame is written whole, and then the
fan-out moves on. -/
theorem Wf.write (h : Wf S) {k : Nat} {σ : Sock} {w : Writer} {rest : List UInt8}
    (hσ : S.socks k = some σ) (hl : σ.lock = some (w, rest)) :
    Wf { S.setSock k (σ.write w rest) with
      fanout := if w = .dispatcher ∧ (σ.write w rest).lock = none then S.fanout.tail
        else S.fanout } := by
  have hk : (S.socks k).isSome := by simp [hσ]
  by_cases hdone : w = .dispatcher ∧ (σ.write w rest).lock = none
  · obtain ⟨rfl, hnone⟩ := hdone
    have hhead := h.head_lock k σ rest hσ hl
    refine ⟨(h.setSock (σ := σ.write .dispatcher rest) hk fun _ h' => by simp [hnone] at h').unused,
      fun j τ rest' hj hτ => ?_⟩
    simp only [hnone, and_self, if_true, Sys.setSock_socks] at hj ⊢
    rcases update_eq_some hj with ⟨rfl, rfl⟩ | ⟨hjk, hj⟩
    · simp [hnone] at hτ
    · exact absurd (hhead.symm.trans (h.head_lock j τ rest' hj hτ)) (by simpa using Ne.symm hjk)
  · simp only [hdone, if_false]
    refine h.setSock hk fun rest' hτ => ?_
    simp only [Sock.write] at hτ
    split at hτ
    · cases hτ
    · cases hτ; exact h.head_lock k σ rest hσ hl

theorem Wf.step (h : Wf S) {st : Step} (hs : S.step pathExists st = some S') : Wf S' := by
  cases st with
  | accept cap =>
    rw [step_accept, Option.some.injEq] at hs
    subst hs
    refine ⟨fun j hj => ?_, fun j τ rest hj hτ => ?_⟩
    · simp only at hj ⊢
      rw [update_noteq (by omega)]
      exact h.unused j (by omega)
    · rcases update_eq_some hj with ⟨-, rfl⟩ | ⟨-, hj⟩
      · cases hτ
      · exact h.head_lock j τ rest hj hτ
  | greet k =>
    obtain ⟨σ, hσ, -, rfl⟩ := step_greet hs
    exact h.setSock_lock hσ rfl
  | request k req =>
    obtain ⟨σ, hσ, -, -, rfl⟩ := step_request hs
    have h' : Wf { S with reg := (handleRequest pathExists S.reg σ.id req).1 } := ⟨h.unused, h.head_lock⟩
    exact h'.setSock_lock hσ rfl
  | invalid k message =>
    obtain ⟨σ, hσ, -, -, rfl⟩ := step_invalid hs
    exact h.setSock_lock hσ rfl
  | close k =>
    obtain ⟨σ, hσ, -, -, rfl⟩ := step_close hs
    have h' : Wf { S with reg := unregisterClient S.reg σ.id, owner := update S.owner σ.id none } :=
      ⟨h.unused, h.head_lock⟩
    exact h'.setSock_lock hσ rfl
  | take k =>
    obtain ⟨σ, f, hσ, -, -, rfl⟩ := step_take hs
    exact h.setSock (by simp [hσ]) fun rest hτ => by cases hτ
  | event ev =>
    obtain ⟨hf, rfl⟩ := step_event hs
    refine ⟨h.unused, fun k σ rest hk hl => ?_⟩
    have := h.head_lock k σ rest hk hl
    simp [hf] at this
  | send =>
    obtain ⟨k, f, t, σ, hf, hσ, -, rfl⟩ := step_send hs
    exact h.setSock (by simp [hσ]) fun rest _ => by simp [hf]
  | write k =>
    obtain ⟨σ, w, rest, hσ, hl, -, rfl⟩ := step_write hs
    exact h.write hσ hl
  | read k n =>
    obtain ⟨σ, hσ, rfl⟩ := step_read hs
    exact h.setSock_lock hσ rfl

theorem Reach.wf {ok : Sys → Step → Bool} (hS : Reach pathExists ok S) : Wf S := by
  induction hS with
  | init => exact wf_init
  | step _ _ hs ih => exact ih.step hs

end

/-! ## The fan-out goes in order -/

section
variable {pathExists : PathBuf → Bool} {S S' : Sys}

theorem nums_update {socks : Nat → Option Sock} {j k : Nat} {τ σ σ' : Sock}
    (hj : ∀ ρ, socks j = some ρ → τ.nums = ρ.nums) (hσ : socks k = some σ)
    (hσ' : update socks j (some τ) k = some σ') : σ'.nums = σ.nums := by
  rcases update_eq_some hσ' with ⟨rfl, rfl⟩ | ⟨-, h⟩
  · exact hj σ hσ
  · rw [hσ] at h; cases h; rfl

/-- Only `send` begins an event frame on a socket, and only on the first client of the
fan-out. -/
theorem Wf.nums_step (h : Wf S) {st : Step} (hs : S.step pathExists st = some S') {k : Nat}
    {σ σ' : Sock} (hσ : S.socks k = some σ) (hσ' : S'.socks k = some σ') (hne : σ'.nums ≠ σ.nums) :
    st = .send ∧ S.fanout.head?.map Prod.fst = some k := by
  -- every other step keeps the log's event frames of the socket it replaces
  have keep : ∀ {j : Nat} {τ : Sock}, S'.socks = update S.socks j (some τ) →
      (∀ ρ, S.socks j = some ρ → τ.nums = ρ.nums) → False := fun hS' hj =>
    hne (nums_update hj hσ (hS' ▸ hσ'))
  have same : ∀ {j : Nat} {ρ : Sock} (τ : Sock), S.socks j = some ρ → τ.log = ρ.log →
      ∀ ρ', S.socks j = some ρ' → τ.nums = ρ'.nums := fun τ hρ hl ρ' hρ' => by
    rw [hρ] at hρ'; cases hρ'; simp only [Sock.nums, hl]
  cases st with
  | accept cap =>
    rw [step_accept, Option.some.injEq] at hs
    subst hs
    exact (keep rfl fun ρ hρ => by simp [h.unused S.accepted le_rfl] at hρ).elim
  | greet j =>
    obtain ⟨ρ, hρ, -, rfl⟩ := step_greet hs
    exact (keep rfl (same _ hρ rfl)).elim
  | request j req =>
    obtain ⟨ρ, hρ, -, -, rfl⟩ := step_request hs
    exact (keep rfl (same _ hρ rfl)).elim
  | invalid j message =>
    obtain ⟨ρ, hρ, -, -, rfl⟩ := step_invalid hs
    exact (keep rfl (same _ hρ rfl)).elim
  | close j =>
    obtain ⟨ρ, hρ, -, -, rfl⟩ := step_close hs
    exact (keep rfl (same _ hρ rfl)).elim
  | take j =>
    obtain ⟨ρ, f, hρ, -, -, rfl⟩ := step_take hs
    exact (keep rfl fun ρ' hρ' => by
      rw [hρ] at hρ'; cases hρ'; simp [Sock.nums, Sent.num?]).elim
  | event ev =>
    obtain ⟨-, rfl⟩ := step_event hs
    rw [hσ] at hσ'; cases hσ'; exact absurd rfl hne
  | send =>
    obtain ⟨j, f, t, ρ, hf, hρ, -, rfl⟩ := step_send hs
    by_cases hk : k = j
    · subst hk; simp [hf]
    · rw [Sys.setSock_socks, update_noteq hk, hσ] at hσ'
      cases hσ'
      exact absurd rfl hne
  | write j =>
    obtain ⟨ρ, w, rest, hρ, -, -, rfl⟩ := step_write hs
    exact (keep rfl (same _ hρ rfl)).elim
  | read j n =>
    obtain ⟨ρ, hρ, rfl⟩ := step_read hs
    exact (keep rfl (same _ hρ rfl)).elim

/-- The fan-out changes only when the dispatcher takes a new event, or when the first
client's frame has been written whole, and then it moves to the next client. -/
theorem Wf.fanout_step (h : Wf S) {st : Step} (hs : S.step pathExists st = some S')
    (hne : S'.fanout ≠ S.fanout) :
    S.fanout = [] ∨ ∃ k f σ σ', S.fanout.head? = some (k, f) ∧ S'.fanout = S.fanout.tail ∧
      S.socks k = some σ ∧ S'.socks k = some σ' ∧ σ'.lock = none ∧ σ'.out = σ.out ++ σ.pending := by
  cases st with
  | event ev => exact .inl (step_event hs).1
  | write k =>
    obtain ⟨σ, w, rest, hσ, hl, -, rfl⟩ := step_write hs
    by_cases hdone : w = .dispatcher ∧ (σ.write w rest).lock = none
    · obtain ⟨rfl, hnone⟩ := hdone
      rcases hf : S.fanout with _ | ⟨⟨k', f⟩, t⟩
      · exact .inl rfl
      have hk : k' = k := by simpa [hf] using h.head_lock k σ rest hσ hl
      subst hk
      have hlen : rest.length ≤ σ.cap - σ.buf.length := by
        by_contra hc; simp [Sock.write, hc] at hnone
      refine .inr ⟨k', f, σ, σ.write .dispatcher rest, by simp [hf], by simp [hnone], hσ, by simp,
        hnone, ?_⟩
      simp [Sock.write, Sock.pending, hl, List.take_of_length_le hlen]
    · simp [hdone] at hne
  | accept cap => rw [step_accept, Option.some.injEq] at hs; subst hs; exact absurd rfl hne
  | greet k => obtain ⟨_, _, _, rfl⟩ := step_greet hs; exact absurd rfl hne
  | request k req => obtain ⟨_, _, _, _, rfl⟩ := step_request hs; exact absurd rfl hne
  | invalid k message => obtain ⟨_, _, _, _, rfl⟩ := step_invalid hs; exact absurd rfl hne
  | close k => obtain ⟨_, _, _, _, rfl⟩ := step_close hs; exact absurd rfl hne
  | take k => obtain ⟨_, _, _, _, _, rfl⟩ := step_take hs; exact absurd rfl hne
  | send => obtain ⟨_, _, _, _, _, _, _, rfl⟩ := step_send hs; exact absurd rfl hne
  | read k n => obtain ⟨_, _, rfl⟩ := step_read hs; exact absurd rfl hne

theorem send_enabled {k : Nat} {f : List UInt8} {t : List (Nat × List UInt8)} {σ : Sock}
    (hf : S.fanout = (k, f) :: t) (hσ : S.socks k = some σ) (hl : σ.lock = none) :
    (S.step pathExists .send).isSome := by
  simp [Sys.step, hf, hσ, hl]

theorem write_enabled {k : Nat} {σ : Sock} {w : Writer} {rest : List UInt8}
    (hσ : S.socks k = some σ) (hl : σ.lock = some (w, rest)) (hb : σ.buf.length < σ.cap) :
    (S.step pathExists (.write k)).isSome := by
  simp [Sys.step, hσ, hl, hb]

end

/-- The dispatcher serves a fan-out in order. It writes only to the first client of the
fan-out; only `send` begins an event frame on a socket, for that client; the fan-out
moves on only when that client's frame has been written whole; and the first client is
served as soon as its mutex is free, then as soon as its socket has room. -/
structure InOrder (pathExists : PathBuf → Bool) (S : Sys) : Prop where
  writes_head : ∀ k σ rest, S.socks k = some σ → σ.lock = some (.dispatcher, rest) →
    S.fanout.head?.map Prod.fst = some k
  begins_head : ∀ st S' k σ σ', S.step pathExists st = some S' → S.socks k = some σ →
    S'.socks k = some σ' → σ'.nums ≠ σ.nums → st = .send ∧ S.fanout.head?.map Prod.fst = some k
  moves_on_whole : ∀ st S', S.step pathExists st = some S' → S'.fanout ≠ S.fanout →
    S.fanout = [] ∨ ∃ k f σ σ', S.fanout.head? = some (k, f) ∧ S'.fanout = S.fanout.tail ∧
      S.socks k = some σ ∧ S'.socks k = some σ' ∧ σ'.lock = none ∧ σ'.out = σ.out ++ σ.pending
  head_served : ∀ k f t σ, S.fanout = (k, f) :: t → S.socks k = some σ →
    (σ.lock = none → (S.step pathExists .send).isSome) ∧
    (∀ rest, σ.lock = some (.dispatcher, rest) → σ.buf.length < σ.cap →
      (S.step pathExists (.write k)).isSome)

theorem fanout_in_order {pathExists : PathBuf → Bool} {ok : Sys → Step → Bool} {S : Sys}
    (hS : Reach pathExists ok S) : InOrder pathExists S :=
  have h := hS.wf
  ⟨h.head_lock, fun _ _ _ _ _ hs hσ hσ' hne => h.nums_step hs hσ hσ' hne,
    fun _ _ hs hne => h.fanout_step hs hne,
    fun _ _ _ _ hf hσ => ⟨send_enabled hf hσ, fun _ hl hb => write_enabled hσ hl hb⟩⟩

/-- Two clients watch "/tmp/x": connection 0, whose socket holds 28 bytes and whose peer
never reads, and connection 1, with room to spare. Each is greeted and answered; then a
file is created in the directory and the dispatcher begins the event's frame on
connection 0. -/
def slowReader : List Step :=
  [.accept 28, .greet 0, .take 0, .write 0, .request 0 (.AddWatch tmpX 0x100), .take 0, .write 0,
    .accept 4096, .greet 1, .take 1, .write 1, .request 1 (.AddWatch tmpX 0x100), .take 1,
    .write 1, .event ⟨utf8Bytes "/tmp/x/f", .Create, false⟩, .send]

theorem fanout_in_order_slowReader :
    ∃ S, Sys.run (fun _ => true) (fun _ _ => true) Sys.init slowReader = some S ∧
      Reach (fun _ => true) (fun _ _ => true) S ∧ InOrder (fun _ => true) S :=
  have hS : Reach (fun _ => true) (fun _ _ => true) _ := Reach.run slowReader .init rfl
  ⟨_, rfl, hS, fanout_in_order hS⟩

/-- Connection 0's socket is full, so the dispatcher waits in its write there.
Connection 1 has room and a frame of the event pending, yet no step begins it there. -/
theorem slowReader_blocks_fanout :
    ∃ S, Sys.run (fun _ => true) (fun _ _ => true) Sys.init slowReader = some S ∧
      Reach (fun _ => true) (fun _ _ => true) S ∧ S.fanout.map Prod.fst = [0, 1] ∧
      (∃ σA, S.socks 0 = some σA ∧ σA.buf.length = σA.cap) ∧
      ∃ σB, S.socks 1 = some σB ∧ σB.buf.length < σB.cap ∧ σB.lock = none ∧
        ∀ st S' σ', S.step (fun _ => true) st = some S' → S'.socks 1 = some σ' →
          σ'.nums = σB.nums := by
  have hS : Reach (fun _ => true) (fun _ _ => true) _ := Reach.run slowReader .init rfl
  refine ⟨_, rfl, hS, by decide, ⟨_, rfl, by decide⟩, _, rfl, by decide, by decide,
    fun st S' σ' hs hσ' => ?_⟩
  by_contra hne
  exact absurd (hS.wf.nums_step (k := 1) hs rfl hσ' hne).2 (by decide)

end fakenotify.system
