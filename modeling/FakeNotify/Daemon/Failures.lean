-- The daemon when writes fail. A peer may close its end at any time, and the
-- write in progress on its socket then fails: `write_all` returns the error and
-- the rest of the frame is never written. What follows depends on the writer.
-- The dispatcher logs the error and goes on to the next client of the fan-out.
-- A handler whose greeting fails returns at once through `?` and leaves its
-- client registered; one whose reply fails breaks its loop and unregisters; a
-- failed `Invalid request` reply is dropped. Every step of `Sys.step` is a step
-- here too. The clients table then holds the connected clients and the clients of
-- the handlers that returned on their greeting, and those subscribe to nothing.
import FakeNotify.Daemon.Interleave

namespace fakenotify.system

open Function
open fakenotify.bytes fakenotify.protocol fakenotify.state fakenotify.server

/-! ## Failed writes -/

/-- What `handle_client` does when the write of its current frame fails. -/
inductive OnFail
  /-- The greeting: `send_response(..).await?` returns from `handle_client` at once. -/
  | exit
  /-- The answer to a request: the loop breaks, to `unregister_client`. -/
  | unregister
  /-- The `Invalid request` reply: `let _ =` drops the error. -/
  | ignore
deriving DecidableEq

/-- The daemon whose writes may fail: `Sys`, what the handler of each connection does
when its current write fails, and the connections whose handler returned on a failed
greeting. -/
structure FailSys where
  sys : Sys
  onFail : Nat → OnFail
  exited : Nat → Bool

/-- The daemon before any connection. -/
def FailSys.init : FailSys := ⟨Sys.init, fun _ => .exit, fun _ => false⟩

/-- A step of `Sys.step`, or the failure of the write in progress on socket `k`. -/
inductive FailStep
  | step (st : Step)
  | fail (k : Nat)

/-- A handler's step makes the frame it hands to `send_response`, and so what a failure
of that send does. -/
def OnFail.after (onFail : Nat → OnFail) : Step → Nat → OnFail
  | .greet k => update onFail k .exit
  | .request k _ => update onFail k .unregister
  | .invalid k _ => update onFail k .ignore
  | _ => onFail

/-- The write in progress on socket `k` fails: the mutex is released and the rest of
the frame is dropped. The dispatcher goes on to the next client of the fan-out; the
handler returns, unregisters or goes on. -/
def FailSys.fail (T : FailSys) (k : Nat) : Option FailSys :=
  (T.sys.socks k).bind fun σ =>
    match σ.lock with
    | some (.dispatcher, _) =>
      some { T with
        sys := { T.sys.setSock k { σ with lock := none } with fanout := T.sys.fanout.tail } }
    | some (.handler, _) =>
      match T.onFail k with
      | .exit =>
        some ⟨T.sys.setSock k { σ with lock := none, phase := .closed }, T.onFail,
          update T.exited k true⟩
      | .unregister =>
        some { T with
          sys := { T.sys with
            reg := unregisterClient T.sys.reg σ.id
            owner := update T.sys.owner σ.id none }.setSock k
              { σ with lock := none, phase := .closed } }
      | .ignore => some { T with sys := T.sys.setSock k { σ with lock := none } }
    | none => none

/-- One step of the daemon whose writes may fail. -/
def FailSys.step (pathExists : PathBuf → Bool) (T : FailSys) : FailStep → Option FailSys
  | .step st => (T.sys.step pathExists st).map fun S => ⟨S, OnFail.after T.onFail st, T.exited⟩
  | .fail k => T.fail k

/-- The states reached from `FailSys.init` by enabled steps that `ok` allows. -/
inductive FailReach (pathExists : PathBuf → Bool) (ok : FailSys → FailStep → Bool) : FailSys → Prop
  | init : FailReach pathExists ok FailSys.init
  | step {T T' : FailSys} {io : FailStep} : FailReach pathExists ok T → ok T io = true →
      T.step pathExists io = some T' → FailReach pathExists ok T'

/-- The steps at which no counter of the registry wraps; a failure moves no counter. -/
def failNoWrap (pathExists : PathBuf → Bool) (T : FailSys) : FailStep → Bool
  | .step st => noCounterWrap pathExists T.sys st
  | .fail _ => true

/-- The state after a list of steps, when `ok` allows each and each is enabled. -/
def FailSys.run (pathExists : PathBuf → Bool) (ok : FailSys → FailStep → Bool) :
    FailSys → List FailStep → Option FailSys
  | T, [] => some T
  | T, io :: ios =>
    if ok T io then (T.step pathExists io).bind fun T' => FailSys.run pathExists ok T' ios else none

theorem FailReach.run {pathExists : PathBuf → Bool} {ok : FailSys → FailStep → Bool} :
    ∀ {T T' : FailSys} (ios : List FailStep), FailReach pathExists ok T →
      FailSys.run pathExists ok T ios = some T' → FailReach pathExists ok T'
  | _, _, [], h, hr => by cases hr; exact h
  | T, _, io :: ios, h, hr => by
    simp only [FailSys.run] at hr
    split at hr
    · next hok =>
      obtain ⟨T1, h1, h2⟩ := Option.bind_eq_some.1 hr
      exact FailReach.run ios (.step h hok h1) h2
    · cases hr

section
variable {pathExists : PathBuf → Bool} {T T' : FailSys} {k : Nat}

theorem failStep_step {st : Step} (h : T.step pathExists (.step st) = some T') :
    T.sys.step pathExists st = some T'.sys ∧ T'.onFail = OnFail.after T.onFail st ∧
      T'.exited = T.exited := by
  obtain ⟨S, hS, rfl⟩ := Option.map_eq_some'.1 h
  exact ⟨hS, rfl, rfl⟩

/-- The outcomes of a failed write: the dispatcher's, and a handler's on its greeting,
on a reply, and on an `Invalid request` reply. -/
theorem fail_cases (h : T.fail k = some T') :
    ∃ σ w rest, T.sys.socks k = some σ ∧ σ.lock = some (w, rest) ∧
      (w = .dispatcher ∧ T' = { T with
          sys := { T.sys.setSock k { σ with lock := none } with fanout := T.sys.fanout.tail } } ∨
        w = .handler ∧ T.onFail k = .exit ∧
          T' = ⟨T.sys.setSock k { σ with lock := none, phase := .closed }, T.onFail,
            update T.exited k true⟩ ∨
        w = .handler ∧ T.onFail k = .unregister ∧ T' = { T with
          sys := { T.sys with
            reg := unregisterClient T.sys.reg σ.id
            owner := update T.sys.owner σ.id none }.setSock k
              { σ with lock := none, phase := .closed } } ∨
        w = .handler ∧ T.onFail k = .ignore ∧
          T' = { T with sys := T.sys.setSock k { σ with lock := none } }) := by
  obtain ⟨σ, hσ, h⟩ := Option.bind_eq_some.1 h
  split at h
  · next rest hl => exact ⟨σ, _, rest, hσ, hl, .inl ⟨rfl, (Option.some.inj h).symm⟩⟩
  · next rest hl =>
    refine ⟨σ, _, rest, hσ, hl, .inr ?_⟩
    split at h
    · next ho => exact .inl ⟨rfl, ho, (Option.some.inj h).symm⟩
    · next ho => exact .inr (.inl ⟨rfl, ho, (Option.some.inj h).symm⟩)
    · next ho => exact .inr (.inr ⟨rfl, ho, (Option.some.inj h).symm⟩)
  · cases h

end

/-! ## The invariant -/

theorem handlerIdle_eq_false {σ : Sock} :
    σ.handlerIdle = false ↔ σ.reply.isSome ∨ ∃ r, σ.lock = some (.handler, r) := by
  rcases σ with ⟨id, phase, reply, lock, buf, cap, out, log⟩
  simp only [Sock.handlerIdle]
  rcases reply with _ | f <;> rcases lock with _ | ⟨_ | _, r⟩ <;> simp

/-- What the socket `σ` keeps, against the registry `reg`, what its handler does when
its current write fails (`o`), and whether its handler returned on its greeting
(`e`). -/
structure FailSock (reg : DaemonState PathKey) (o : OnFail) (e : Bool) (σ : Sock) : Prop where
  id_lt : σ.id.toNat < reg.next_client_id.toNat
  /-- A handler with a frame to send, or sending it, is in its read loop. -/
  serving : σ.handlerIdle = false → σ.phase = .serve
  /-- A handler makes one `send_response` at a time. -/
  one_frame : ∀ r, σ.lock = some (.handler, r) → σ.reply = none
  /-- Before its first request, a client subscribes to nothing. -/
  quiet : σ.phase = .greet ∨ o = .exit → ∀ wd, ¬Subscribed reg σ.id wd
  /-- A handler that returned on its greeting stays returned. -/
  exited : e = true → σ.phase = .closed ∧ o = .exit

/-- The daemon's invariant when writes may fail: every socket keeps `FailSock`; ids are
distinct and below `next_client_id`, and so is every subscriber; the handlers that
returned on their greeting are those of accepted connections. -/
structure FailInv (T : FailSys) : Prop where
  sock : ∀ k σ, T.sys.socks k = some σ → FailSock T.sys.reg (T.onFail k) (T.exited k) σ
  distinct : ∀ k k' σ σ', T.sys.socks k = some σ → T.sys.socks k' = some σ' → σ.id = σ'.id →
    k = k'
  unused : ∀ k, T.sys.accepted ≤ k → T.sys.socks k = none
  subscribed_lt : ∀ x wd, Subscribed T.sys.reg x wd → x.toNat < T.sys.reg.next_client_id.toNat
  exited_some : ∀ k, T.exited k = true → (T.sys.socks k).isSome

section
variable {reg reg' : DaemonState PathKey} {o : OnFail} {e : Bool} {σ : Sock}

theorem FailSock.mono (h : FailSock reg o e σ)
    (hn : reg.next_client_id.toNat ≤ reg'.next_client_id.toNat)
    (hs : ∀ wd, Subscribed reg' σ.id wd → Subscribed reg σ.id wd) : FailSock reg' o e σ :=
  ⟨lt_of_lt_of_le h.id_lt hn, h.serving, h.one_frame,
    fun hq wd hw => h.quiet hq wd (hs wd hw), h.exited⟩

/-- A socket whose handler is not in its read loop has nothing to send. -/
theorem FailSock.idle (h : FailSock reg o e σ) (hp : σ.phase ≠ .serve) : σ.handlerIdle = true := by
  cases hi : σ.handlerIdle
  · exact absurd (h.serving hi) hp
  · rfl

/-- A handler in its read loop has not returned on its greeting. -/
theorem FailSock.not_exited (h : FailSock reg o e σ) (hp : σ.phase = .serve) : e = false := by
  cases e
  · rfl
  · rw [(h.exited rfl).1] at hp; cases hp

/-- Taking or dropping a lock other than the handler's keeps a socket's invariant. -/
theorem FailSock.setLock (h : FailSock reg o e σ) {l : Option (Writer × List UInt8)}
    (hl : ∀ r, l ≠ some (.handler, r)) (log : List Sent) :
    FailSock reg o e { σ with lock := l, log := log } :=
  ⟨h.id_lt, fun hi => h.serving (handlerIdle_eq_false.2
      (.inl ((handlerIdle_eq_false.1 hi).resolve_right fun ⟨r, hr⟩ => hl r hr))),
    fun r hr => absurd hr (hl r), h.quiet, h.exited⟩

end

section
variable {T T' : FailSys} {k : Nat} {σ τ : Sock}

/-- A step that replaces the socket `k` by one of the same client. -/
theorem FailInv.replace (h : FailInv T) (hσ : T.sys.socks k = some σ)
    (hs : T'.sys.socks = update T.sys.socks k (some τ)) (hid : τ.id = σ.id)
    (hacc : T'.sys.accepted = T.sys.accepted)
    (hτ : FailSock T'.sys.reg (T'.onFail k) (T'.exited k) τ)
    (hother : ∀ j ρ, j ≠ k → T.sys.socks j = some ρ →
      FailSock T'.sys.reg (T'.onFail j) (T'.exited j) ρ)
    (hsub : ∀ x wd, Subscribed T'.sys.reg x wd → x.toNat < T'.sys.reg.next_client_id.toNat)
    (hex : ∀ j, T'.exited j = true → j = k ∨ T.exited j = true) : FailInv T' where
  sock j ρ hj := by
    rw [hs] at hj
    rcases update_eq_some hj with ⟨rfl, rfl⟩ | ⟨hjk, hj⟩
    · exact hτ
    · exact hother j ρ hjk hj
  distinct j j' ρ ρ' hj hj' he := by
    have back : ∀ {i υ}, T'.sys.socks i = some υ → ∃ υ', T.sys.socks i = some υ' ∧ υ'.id = υ.id :=
      fun hi => by
        rw [hs] at hi
        rcases update_eq_some hi with ⟨rfl, rfl⟩ | ⟨-, hi⟩
        · exact ⟨σ, hσ, hid.symm⟩
        · exact ⟨_, hi, rfl⟩
    obtain ⟨υ, hυ, hυid⟩ := back hj
    obtain ⟨υ', hυ', hυid'⟩ := back hj'
    exact h.distinct j j' υ υ' hυ hυ' (by rw [hυid, hυid', he])
  unused j hj := by
    have hk : k ≠ j := by rintro rfl; simp [h.unused k (hacc ▸ hj)] at hσ
    rw [hs, update_noteq hk.symm]
    exact h.unused j (hacc ▸ hj)
  subscribed_lt := hsub
  exited_some j hj := by
    rw [hs]
    by_cases hjk : j = k
    · subst hjk; simp
    · rw [update_noteq hjk]
      exact h.exited_some j ((hex j hj).resolve_left hjk)

/-- A step that replaces the socket `k` by one of the same client, and may move the
fan-out on. -/
theorem FailInv.setSock {f : List (Nat × List UInt8)} (h : FailInv T)
    (hσ : T.sys.socks k = some σ) (hid : τ.id = σ.id)
    (hτ : FailSock T.sys.reg (T.onFail k) (T.exited k) τ) :
    FailInv ⟨{ T.sys.setSock k τ with fanout := f }, T.onFail, T.exited⟩ :=
  h.replace hσ rfl hid rfl hτ (fun j ρ _ hj => h.sock j ρ hj) h.subscribed_lt fun _ hj => .inr hj

/-- A handler's step that makes a frame: the socket `k` is replaced, and a failure of
the frame's write does `o`. -/
theorem FailInv.setSock_onFail {o : OnFail} (h : FailInv T) (hσ : T.sys.socks k = some σ)
    (hid : τ.id = σ.id) (hτ : FailSock T.sys.reg o (T.exited k) τ) :
    FailInv ⟨T.sys.setSock k τ, update T.onFail k o, T.exited⟩ :=
  h.replace hσ rfl hid rfl (by simpa only [update_same] using hτ)
    (fun j ρ hjk hj => by simpa only [update_noteq hjk] using h.sock j ρ hj) h.subscribed_lt
    fun _ hj => .inr hj

end

theorem lock_ne_handler {σ : Sock} (hi : σ.handlerIdle = true) (r : List UInt8) :
    σ.lock ≠ some (.handler, r) := fun hl => by
  rw [handlerIdle_eq_false.2 (.inr ⟨r, hl⟩)] at hi; cases hi

theorem write_lock {σ : Sock} {w w' : Writer} {rest r : List UInt8}
    (h : (σ.write w rest).lock = some (w', r)) : w' = w := by
  simp only [Sock.write] at h
  split at h
  · cases h
  · cases h; rfl

/-! ## Each step keeps the invariant -/

section
variable {pathExists : PathBuf → Bool} {T : FailSys} {k : Nat} {σ : Sock}

theorem failInv_accept (h : FailInv T) (cap : Nat)
    (hok : T.sys.reg.next_client_id.toNat + 1 < 2 ^ 64) :
    FailInv ⟨{ T.sys with
      reg := (registerClient T.sys.reg).1
      socks := update T.sys.socks T.sys.accepted (some (Sock.fresh T.sys.reg.next_client_id cap))
      accepted := T.sys.accepted + 1
      owner := update T.sys.owner T.sys.reg.next_client_id (some T.sys.accepted) },
      T.onFail, T.exited⟩ := by
  have hnext : (registerClient T.sys.reg).1.next_client_id.toNat =
      T.sys.reg.next_client_id.toNat + 1 := toNat_add_one hok
  have hfree : T.sys.socks T.sys.accepted = none := h.unused _ le_rfl
  -- every connection of `T` has an id below the new one
  have hold : ∀ j ρ, T.sys.socks j = some ρ → j ≠ T.sys.accepted ∧ ρ.id ≠ T.sys.reg.next_client_id :=
    fun j ρ hj => ⟨by rintro rfl; simp [hfree] at hj, fun he => by
      have := (h.sock j ρ hj).id_lt; rw [he] at this; exact lt_irrefl _ this⟩
  refine ⟨fun j ρ hj => ?_, fun j j' ρ ρ' hj hj' he => ?_, fun j hj => ?_,
    fun x wd hx => ?_, fun j hj => ?_⟩ <;> dsimp only at *
  · rcases update_eq_some hj with ⟨rfl, rfl⟩ | ⟨-, hj⟩
    · refine ⟨by simp [Sock.fresh, hnext], fun hi => (nomatch hi), fun r hr => (nomatch hr),
        fun _ wd hs => lt_irrefl _ (h.subscribed_lt _ wd hs), fun he => ?_⟩
      have := h.exited_some _ he
      simp [hfree] at this
    · exact (h.sock j ρ hj).mono (by omega) fun _ => id
  · rcases update_eq_some hj with ⟨rfl, rfl⟩ | ⟨-, hj⟩ <;>
      rcases update_eq_some hj' with ⟨rfl, rfl⟩ | ⟨-, hj'⟩
    · rfl
    · exact absurd he.symm (hold j' ρ' hj').2
    · exact absurd he (hold j ρ hj).2
    · exact h.distinct j j' ρ ρ' hj hj' he
  · rw [update_noteq (by omega)]; exact h.unused j (by omega)
  · have := h.subscribed_lt x wd hx; omega
  · by_cases hj' : j = T.sys.accepted
    · subst hj'; simp
    · rw [update_noteq hj']; exact h.exited_some j hj

theorem failInv_greet (h : FailInv T) (hσ : T.sys.socks k = some σ) (hp : σ.phase = .greet) :
    FailInv ⟨T.sys.setSock k { σ with phase := .serve, reply := some (greeting σ.id) },
      update T.onFail k .exit, T.exited⟩ := by
  have hs := h.sock k σ hσ
  have hidle := hs.idle (by rw [hp]; nofun)
  refine h.setSock_onFail hσ rfl ⟨hs.id_lt, fun _ => rfl,
    fun r hr => absurd hr (lock_ne_handler hidle r), fun _ => hs.quiet (.inl hp), fun he => ?_⟩
  rw [(hs.exited he).1] at hp; cases hp

theorem failInv_request (h : FailInv T) (hσ : T.sys.socks k = some σ) (hp : σ.phase = .serve)
    (hi : σ.handlerIdle) (req : Request) :
    FailInv ⟨{ T.sys with reg := (handleRequest pathExists T.sys.reg σ.id req).1 }.setSock k
        { σ with reply := some (FramedMessage.frame (handleRequest pathExists T.sys.reg σ.id req).2.toBytes) },
      update T.onFail k .unregister, T.exited⟩ := by
  have hs := h.sock k σ hσ
  refine h.replace hσ rfl rfl rfl ⟨by simpa using hs.id_lt, fun _ => hp,
    fun r hr => absurd hr (lock_ne_handler hi r), fun hq => absurd hq (by simp [hp]),
    fun he => absurd he (by simp [hs.not_exited hp])⟩ (fun j ρ hjk hj => ?_)
    (fun x wd hx => ?_) fun _ hj => .inr hj
  · show FailSock (handleRequest pathExists T.sys.reg σ.id req).1 (update T.onFail k .unregister j)
      (T.exited j) ρ
    rw [update_noteq hjk]
    exact (h.sock j ρ hj).mono (by simp) fun wd hw =>
      (subscribed_handleRequest hw).resolve_left fun he => hjk (h.distinct j k ρ σ hj hσ he)
  · show x.toNat < (handleRequest pathExists T.sys.reg σ.id req).1.next_client_id.toNat
    rw [handleRequest_next_client_id]
    rcases subscribed_handleRequest hx with rfl | hx
    · exact hs.id_lt
    · exact h.subscribed_lt x wd hx

theorem failInv_invalid (h : FailInv T) (hσ : T.sys.socks k = some σ) (hp : σ.phase = .serve)
    (hi : σ.handlerIdle) (message : RustString) :
    FailInv ⟨T.sys.setSock k
        { σ with reply := some (FramedMessage.frame (Response.Error message).toBytes) },
      update T.onFail k .ignore, T.exited⟩ := by
  have hs := h.sock k σ hσ
  exact h.setSock_onFail hσ rfl ⟨hs.id_lt, fun _ => hp,
    fun r hr => absurd hr (lock_ne_handler hi r), fun hq => absurd hq (by simp [hp]),
    fun he => absurd he (by simp [hs.not_exited hp])⟩

/-- A serving handler returns and unregisters its client, and its socket closes. -/
theorem failInv_unregister (h : FailInv T) (hσ : T.sys.socks k = some σ) (hp : σ.phase = .serve)
    {τ : Sock} (hid : τ.id = σ.id) (hτ : τ.phase = .closed) (hτi : τ.handlerIdle = true) :
    FailInv ⟨{ T.sys with
        reg := unregisterClient T.sys.reg σ.id
        owner := update T.sys.owner σ.id none }.setSock k τ, T.onFail, T.exited⟩ := by
  have hs := h.sock k σ hσ
  refine h.replace hσ rfl hid rfl ⟨by simpa [hid] using hs.id_lt, fun hi => absurd hτi (by simp [hi]),
    fun r hr => absurd hr (lock_ne_handler hτi r),
    fun hq wd hw => hs.quiet (.inr (hq.resolve_left (by simp [hτ]))) wd
      (subscribed_unregisterClient (hid ▸ hw)),
    fun he => absurd he (by simp [hs.not_exited hp])⟩
    (fun j ρ _ hj => (h.sock j ρ hj).mono (by simp) fun _ => subscribed_unregisterClient)
    (fun x wd hx => by simpa using h.subscribed_lt x wd (subscribed_unregisterClient hx))
    fun _ hj => .inr hj

theorem failInv_take (h : FailInv T) {f : List UInt8} (hσ : T.sys.socks k = some σ)
    (hr : σ.reply = some f) :
    FailInv ⟨T.sys.setSock k
        { σ with reply := none, lock := some (.handler, f), log := σ.log ++ [.reply f] },
      T.onFail, T.exited⟩ := by
  have hs := h.sock k σ hσ
  have hp := hs.serving (handlerIdle_eq_false.2 (.inl (by simp [hr])))
  exact h.setSock hσ rfl ⟨hs.id_lt, fun _ => hp, fun _ _ => rfl, hs.quiet, hs.exited⟩

theorem failInv_send (h : FailInv T) {f : List UInt8} (hσ : T.sys.socks k = some σ) :
    FailInv ⟨T.sys.setSock k
        { σ with lock := some (.dispatcher, f), log := σ.log ++ [.event T.sys.events f] },
      T.onFail, T.exited⟩ := by
  exact h.setSock hσ rfl ((h.sock k σ hσ).setLock (fun _ => by simp) _)

theorem failInv_write (h : FailInv T) {w : Writer} {rest : List UInt8} (hσ : T.sys.socks k = some σ)
    (hl : σ.lock = some (w, rest)) :
    FailInv ⟨{ T.sys.setSock k (σ.write w rest) with
        fanout := if w = .dispatcher ∧ (σ.write w rest).lock = none then T.sys.fanout.tail
          else T.sys.fanout }, T.onFail, T.exited⟩ := by
  have hs := h.sock k σ hσ
  refine h.setSock hσ rfl ⟨hs.id_lt, fun hi => ?_, fun r hr => ?_, hs.quiet, hs.exited⟩
  · refine hs.serving (handlerIdle_eq_false.2 ?_)
    rcases handlerIdle_eq_false.1 hi with hr | ⟨r, hr⟩
    · exact .inl hr
    · exact .inr ⟨rest, write_lock hr ▸ hl⟩
  · exact hs.one_frame rest (write_lock hr ▸ hl)

theorem failInv_fail (h : FailInv T) {T' : FailSys} (hf : T.fail k = some T') : FailInv T' := by
  obtain ⟨σ, w, rest, hσ, hl, ⟨rfl, rfl⟩ | ⟨rfl, ho, rfl⟩ | ⟨rfl, ho, rfl⟩ | ⟨rfl, -, rfl⟩⟩ :=
    fail_cases hf
  · exact h.setSock hσ rfl ((h.sock k σ hσ).setLock (fun _ => by simp) _)
  · -- the greeting: the handler returns, and its client stays registered
    have hs := h.sock k σ hσ
    have hr := hs.one_frame rest hl
    exact h.replace hσ rfl rfl rfl ⟨hs.id_lt, fun hi => by simp [Sock.handlerIdle, hr] at hi,
      fun r hr' => (nomatch hr'), fun _ => hs.quiet (.inr ho), fun _ => ⟨rfl, ho⟩⟩
      (fun j ρ hjk hj => by simpa only [update_noteq hjk] using h.sock j ρ hj) h.subscribed_lt
      fun j hj => (em (j = k)).imp id fun hjk => by simpa only [update_noteq hjk] using hj
  · have hs := h.sock k σ hσ
    exact failInv_unregister h hσ (hs.serving (handlerIdle_eq_false.2 (.inr ⟨rest, hl⟩))) rfl rfl
      (by simp [Sock.handlerIdle, hs.one_frame rest hl])
  · exact h.setSock hσ rfl ((h.sock k σ hσ).setLock (fun _ => by simp) _)

theorem failInv_init : FailInv FailSys.init :=
  ⟨fun _ _ h => (nomatch h), fun _ _ _ _ h => (nomatch h), fun _ _ => rfl,
    fun _ _ ⟨_, h, _⟩ => (nomatch h), fun _ h => (nomatch h)⟩

theorem FailInv.step (h : FailInv T) {T' : FailSys} {io : FailStep} (hok : failNoWrap pathExists T io = true)
    (hs : T.step pathExists io = some T') : FailInv T' := by
  cases io with
  | fail k => exact failInv_fail h hs
  | step st =>
    obtain ⟨hS, ho, he⟩ := failStep_step hs
    rcases T' with ⟨S', o', e'⟩
    dsimp only at hS ho he
    subst ho he
    cases st with
    | accept cap =>
      rw [step_accept, Option.some.injEq] at hS
      subst hS
      have hok : noCounterWrap pathExists T.sys (.accept cap) = true := hok
      exact failInv_accept h cap (by simpa [noIdWrap] using noIdWrap_of_noCounterWrap hok)
    | greet k =>
      obtain ⟨σ, hσ, hp, rfl⟩ := step_greet hS
      exact failInv_greet h hσ hp
    | request k req =>
      obtain ⟨σ, hσ, hp, hi, rfl⟩ := step_request hS
      exact failInv_request h hσ hp hi req
    | invalid k message =>
      obtain ⟨σ, hσ, hp, hi, rfl⟩ := step_invalid hS
      exact failInv_invalid h hσ hp hi message
    | close k =>
      obtain ⟨σ, hσ, hp, hi, rfl⟩ := step_close hS
      exact failInv_unregister h hσ hp rfl rfl hi
    | take k =>
      obtain ⟨σ, f, hσ, hr, -, rfl⟩ := step_take hS
      exact failInv_take h hσ hr
    | event ev =>
      obtain ⟨-, rfl⟩ := step_event hS
      exact ⟨h.sock, h.distinct, h.unused, h.subscribed_lt, h.exited_some⟩
    | send =>
      obtain ⟨k, f, t, σ, -, hσ, -, rfl⟩ := step_send hS
      exact failInv_send h hσ
    | write k =>
      obtain ⟨σ, w, rest, hσ, hl, -, rfl⟩ := step_write hS
      exact failInv_write h hσ hl
    | read k n =>
      obtain ⟨σ, hσ, rfl⟩ := step_read hS
      have hs := h.sock k σ hσ
      exact h.setSock hσ rfl ⟨hs.id_lt, hs.serving, hs.one_frame, hs.quiet, hs.exited⟩

theorem FailReach.inv (hT : FailReach pathExists (failNoWrap pathExists) T) : FailInv T := by
  induction hT with
  | init => exact failInv_init
  | step _ hok hs ih => exact ih.step hok hs

end

/-! ## The clients table under failures -/

/-- The client `x` is the client of a connection whose handler returned on its greeting's
failed write, so that `handle_client` never unregistered it. -/
def Exited (socks : Nat → Option Sock) (exited : Nat → Bool) (x : ClientId) : Prop :=
  ∃ k σ, socks k = some σ ∧ σ.id = x ∧ exited k = true

/-- The clients table holds the clients of the connections whose handlers have not
returned, and the clients of those whose greeting failed. -/
def FailLive (T : FailSys) : Prop :=
  ∀ x, (T.sys.reg.clients x).isSome ↔ Connected T.sys.socks x ∨ Exited T.sys.socks T.exited x

section
variable {socks : Nat → Option Sock} {exited : Nat → Bool} {k : Nat} {σ τ : Sock}

theorem exited_update (hσ : socks k = some σ) (hid : τ.id = σ.id) (x : ClientId) :
    Exited (update socks k (some τ)) exited x ↔ Exited socks exited x := by
  constructor
  · rintro ⟨j, ρ, hj, rfl, he⟩
    rcases update_eq_some hj with ⟨rfl, rfl⟩ | ⟨-, hj⟩
    · exact ⟨j, σ, hσ, hid.symm, he⟩
    · exact ⟨j, ρ, hj, rfl, he⟩
  · rintro ⟨j, ρ, hj, rfl, he⟩
    by_cases hjk : j = k
    · subst hjk
      obtain rfl := Option.some.inj (hσ.symm.trans hj)
      exact ⟨j, τ, update_same _ _ _, hid, he⟩
    · exact ⟨j, ρ, by rwa [update_noteq hjk], rfl, he⟩

theorem exited_accept (hfree : socks k = none) (he : exited k = false) (x : ClientId) :
    Exited (update socks k (some τ)) exited x ↔ Exited socks exited x := by
  constructor
  · rintro ⟨j, ρ, hj, rfl, hj'⟩
    rcases update_eq_some hj with ⟨rfl, -⟩ | ⟨-, hj⟩
    · rw [he] at hj'; cases hj'
    · exact ⟨j, ρ, hj, rfl, hj'⟩
  · rintro ⟨j, ρ, hj, rfl, hj'⟩
    have hjk : j ≠ k := by rintro rfl; rw [hfree] at hj; cases hj
    exact ⟨j, ρ, by rwa [update_noteq hjk], rfl, hj'⟩

/-- The handler of connection `k` returns on its greeting: its client joins the exited. -/
theorem exited_fail (hσ : socks k = some σ) (hid : τ.id = σ.id) (x : ClientId) :
    Exited (update socks k (some τ)) (update exited k true) x ↔ x = σ.id ∨ Exited socks exited x := by
  have hk : Exited (update socks k (some τ)) (update exited k true) σ.id :=
    ⟨k, τ, update_same _ _ _, hid, update_same _ _ _⟩
  constructor
  · rintro ⟨j, ρ, hj, rfl, he⟩
    rcases update_eq_some hj with ⟨rfl, rfl⟩ | ⟨hjk, hj⟩
    · exact .inl hid
    · exact .inr ⟨j, ρ, hj, rfl, by rwa [update_noteq hjk] at he⟩
  · rintro (rfl | ⟨j, ρ, hj, rfl, he⟩)
    · exact hk
    · by_cases hjk : j = k
      · subst hjk
        obtain rfl := Option.some.inj (hσ.symm.trans hj)
        exact hk
      · exact ⟨j, ρ, by rwa [update_noteq hjk], rfl, by rwa [update_noteq hjk]⟩

end

section
variable {pathExists : PathBuf → Bool} {T : FailSys} {k : Nat} {σ τ : Sock}

/-- A step that keeps the clients table and the exited, and replaces one connection by
one of the same client, returned iff it was. -/
theorem FailLive.replace (hL : FailLive T) {T' : FailSys} (hσ : T.sys.socks k = some σ)
    (hs : T'.sys.socks = update T.sys.socks k (some τ)) (hid : τ.id = σ.id)
    (hp : τ.phase = .closed ↔ σ.phase = .closed) (he : T'.exited = T.exited)
    (hc : ∀ x, (T'.sys.reg.clients x).isSome = (T.sys.reg.clients x).isSome) : FailLive T' :=
  fun x => by rw [hc, hs, he, connected_update hσ hid hp, exited_update hσ hid, hL]

/-- A serving handler returns and unregisters its client: the client leaves the table. -/
theorem FailLive.unregister {o : Nat → OnFail} (hL : FailLive T) (hI : FailInv T)
    (hσ : T.sys.socks k = some σ) (hp : σ.phase = .serve) (hid : τ.id = σ.id)
    (hτ : τ.phase = .closed) :
    FailLive ⟨{ T.sys with
        reg := unregisterClient T.sys.reg σ.id
        owner := update T.sys.owner σ.id none }.setSock k τ, o, T.exited⟩ := by
  have hd : ∀ j ρ, T.sys.socks j = some ρ → ρ.id = σ.id → j = k :=
    fun j ρ hj he => hI.distinct j k ρ σ hj hσ he
  have hne : ¬Exited T.sys.socks T.exited σ.id := fun ⟨j, ρ, hj, he, hx⟩ => by
    obtain rfl := hd j ρ hj he
    rw [(hI.sock j σ hσ).not_exited hp] at hx
    cases hx
  intro x
  simp only [Sys.setSock_reg, Sys.setSock_socks]
  rw [unregisterClient_clients, connected_close hσ hd hid hτ, exited_update hσ hid]
  split
  · next hx => subst hx; simp [hne]
  · next hx => simp [hx, hL x]

theorem FailLive.step (hL : FailLive T) (hI : FailInv T) {T' : FailSys} {io : FailStep}
    (hs : T.step pathExists io = some T') : FailLive T' := by
  cases io with
  | step st =>
    obtain ⟨hS, -, he⟩ := failStep_step hs
    rcases T' with ⟨S', o', e'⟩
    dsimp only at hS he
    subst he
    cases st with
    | accept cap =>
      rw [step_accept, Option.some.injEq] at hS
      subst hS
      have hfree := hI.unused _ le_rfl
      have hnot : T.exited T.sys.accepted = false :=
        Bool.eq_false_iff.2 fun he => by simpa [hfree] using hI.exited_some _ he
      intro x
      rw [registerClient_clients_isSome, hL, connected_accept hfree, exited_accept hfree hnot, or_assoc]
    | greet k =>
      obtain ⟨σ, hσ, hp, rfl⟩ := step_greet hS
      exact hL.replace hσ rfl rfl (by simp [hp]) rfl fun _ => rfl
    | request k req =>
      obtain ⟨σ, hσ, -, -, rfl⟩ := step_request hS
      exact hL.replace hσ rfl rfl Iff.rfl rfl (handleRequest_clients_isSome req)
    | invalid k message =>
      obtain ⟨σ, hσ, -, -, rfl⟩ := step_invalid hS
      exact hL.replace hσ rfl rfl Iff.rfl rfl fun _ => rfl
    | close k =>
      obtain ⟨σ, hσ, hp, -, rfl⟩ := step_close hS
      exact hL.unregister hI hσ hp rfl rfl
    | take k =>
      obtain ⟨σ, f, hσ, -, -, rfl⟩ := step_take hS
      exact hL.replace hσ rfl rfl Iff.rfl rfl fun _ => rfl
    | event ev =>
      obtain ⟨-, rfl⟩ := step_event hS
      exact hL
    | send =>
      obtain ⟨k, f, t, σ, -, hσ, -, rfl⟩ := step_send hS
      exact hL.replace hσ rfl rfl Iff.rfl rfl fun _ => rfl
    | write k =>
      obtain ⟨σ, w, rest, hσ, -, -, rfl⟩ := step_write hS
      exact hL.replace hσ rfl rfl Iff.rfl rfl fun _ => rfl
    | read k n =>
      obtain ⟨σ, hσ, rfl⟩ := step_read hS
      exact hL.replace hσ rfl rfl Iff.rfl rfl fun _ => rfl
  | fail k =>
    obtain ⟨σ, w, rest, hσ, hl, ⟨rfl, rfl⟩ | ⟨rfl, -, rfl⟩ | ⟨rfl, -, rfl⟩ | ⟨rfl, -, rfl⟩⟩ :=
      fail_cases hs
    · exact hL.replace hσ rfl rfl Iff.rfl rfl fun _ => rfl
    · have hp := (hI.sock k σ hσ).serving (handlerIdle_eq_false.2 (.inr ⟨rest, hl⟩))
      have hd : ∀ j ρ, T.sys.socks j = some ρ → ρ.id = σ.id → j = k :=
        fun j ρ hj he => hI.distinct j k ρ σ hj hσ he
      intro x
      simp only [Sys.setSock_reg, Sys.setSock_socks]
      rw [connected_close (τ := { σ with lock := none, phase := .closed }) hσ hd rfl rfl,
        exited_fail (τ := { σ with lock := none, phase := .closed }) hσ rfl]
      by_cases hx : x = σ.id
      · subst hx
        exact iff_of_true ((hL _).2 (.inl ⟨k, σ, hσ, rfl, by rw [hp]; nofun⟩)) (.inr (.inl rfl))
      · rw [hL]; simp [hx]
    · exact hL.unregister hI hσ
        ((hI.sock k σ hσ).serving (handlerIdle_eq_false.2 (.inr ⟨rest, hl⟩))) rfl rfl
    · exact hL.replace hσ rfl rfl Iff.rfl rfl fun _ => rfl

theorem FailReach.live (hT : FailReach pathExists (failNoWrap pathExists) T) : FailLive T := by
  induction hT with
  | init => intro x; simp [FailSys.init, Sys.init, DaemonState.new, Connected, Exited]
  | step hR _ hs ih => exact ih.step hR.inv hs

/-- Every registry state the daemon reaches, with writes failing at any point, is one that
a sequential run of `handle_client`'s calls reaches: a failed reply's `unregister_client`
is one more call. -/
theorem FailReach.reachable (hT : FailReach pathExists (failNoWrap pathExists) T) :
    Reachable T.sys.reg := by
  induction hT with
  | init => exact ⟨[], trivial, rfl⟩
  | @step T T' io hR hok hs ih =>
    cases io with
    | step st =>
      have hL := hR.live
      exact reachable_step ih (fun k σ hσ hp => (hL σ.id).2 (.inl ⟨k, σ, hσ, rfl, hp⟩)) hok
        (failStep_step hs).1
    | fail k =>
      obtain ⟨σ, w, rest, hσ, hl, ⟨rfl, rfl⟩ | ⟨rfl, -, rfl⟩ | ⟨rfl, -, rfl⟩ | ⟨rfl, -, rfl⟩⟩ :=
        fail_cases hs
      · exact ih
      · exact ih
      · -- a failed reply's handler calls `unregister_client`
        exact (ih.run ⟨trivial, by simp [NoWrap, Op.apply], trivial⟩ :
          Reachable (state.run _ [.unregister σ.id]))
      · exact ih

end

/-- Subscribers under failing writes. Run the handlers of any connections, the
dispatcher and the peers in any order, let any write fail at any point, and let no
counter wrap. Then the clients table holds the clients of the connections whose
handlers have not returned, and also the clients of those whose greeting failed:
`handle_client` returns there through `?` before its read loop, never reaches
`unregister_client`, and the entry stays for good. Every live watch has subscribers, and
each subscriber is the client of a connection whose handler has not returned. -/
theorem watches_have_connected_clients {pathExists : PathBuf → Bool} {T : FailSys}
    (hT : FailReach pathExists (failNoWrap pathExists) T) :
    (∀ x, (T.sys.reg.clients x).isSome ↔
      Connected T.sys.socks x ∨ Exited T.sys.socks T.exited x) ∧
    ∀ wd w, T.sys.reg.watches wd = some w →
      w.clients ≠ [] ∧ ∀ x ∈ w.clients, Connected T.sys.socks x := by
  have hL := hT.live
  have hI := hT.inv
  have hR := hT.reachable.registry
  refine ⟨hL, fun wd w hw => ⟨hR.clients_ne_nil wd w hw, fun x hx => ?_⟩⟩
  obtain ⟨ws, hws, -⟩ := (hR.subscribed_iff x wd).1 ⟨w, hw, hx⟩
  rcases (hL x).1 (by simp [hws]) with hc | ⟨k, σ, hσ, rfl, he⟩
  · exact hc
  · -- a handler that returned on its greeting had subscribed to nothing
    have hs := hI.sock k σ hσ
    exact absurd ⟨w, hw, hx⟩ (hs.quiet (.inr (hs.exited he).2) wd)

/-- A peer that hangs up at once, as the CLI's `is_daemon_running` probe does: the
daemon accepts it, and the write of its greeting fails. -/
def hangUp : List FailStep := [.step (.accept 64), .step (.greet 0), .step (.take 0), .fail 0]

/-- The state after `hangUp`. -/
def afterHangUp : FailSys :=
  (FailSys.run (fun _ => true) (failNoWrap fun _ => true) FailSys.init hangUp).getD FailSys.init

theorem reach_afterHangUp : FailReach (fun _ => true) (failNoWrap fun _ => true) afterHangUp :=
  FailReach.run hangUp .init rfl

theorem watches_have_connected_clients_hangUp :
    (∀ x, (afterHangUp.sys.reg.clients x).isSome ↔
      Connected afterHangUp.sys.socks x ∨ Exited afterHangUp.sys.socks afterHangUp.exited x) ∧
    ∀ wd w, afterHangUp.sys.reg.watches wd = some w →
      w.clients ≠ [] ∧ ∀ x ∈ w.clients, Connected afterHangUp.sys.socks x :=
  watches_have_connected_clients reach_afterHangUp

/-- After the hang-up, client 1 stays in the table though its connection is closed. -/
example : (afterHangUp.sys.reg.clients 1).isSome = true ∧
    (afterHangUp.sys.socks 0).map Sock.phase = some .closed ∧ afterHangUp.exited 0 = true := by
  decide

end fakenotify.system
