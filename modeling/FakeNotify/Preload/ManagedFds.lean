-- Which descriptors the library takes for its own (`MANAGED_FDS` of
-- `preload/src/lib.rs`) while application threads call the interposed functions in
-- any interleaving and the kernel hands out and reuses descriptor numbers. A call
-- is cut at its accesses to shared state. A daemon-backed `inotify_init*` takes
-- effect at its `register_fd`, and a `close` of a managed descriptor at its
-- `unregister_fd`.
import FakeNotify.Preload.Library

namespace fakenotify.preload

open Function fakenotify.bytes fakenotify.protocol

/-! ## Threads and the descriptor table -/

/-- The call that gave the application a descriptor. -/
inductive Origin
  | daemon
  | real
  | other
deriving DecidableEq

/-- Where a thread stands inside an interposed call, between two accesses to shared
state. -/
inductive Pc
  | idle
  /-- `connect_to_daemon` returned a socket on `fd`. -/
  | connected (fd : Int)
  /-- `send_request` returned `ClientRegistered`; `register_fd(fd)` is next. -/
  | registering (fd : Int)
  /-- `close(fd)` read `is_managed_fd(fd)`. -/
  | closing (fd : Int) (managed : Bool)
  /-- `close(fd)` ran `unregister_fd(fd)`; the real `close` is next. -/
  | unregistered (fd : Int)
deriving DecidableEq

/-- The descriptor a thread works on inside its call. -/
def Pc.fd? : Pc → Option Int
  | .idle => none
  | .connected fd | .registering fd | .closing fd _ | .unregistered fd => some fd

/-- The library's shared state, the kernel's descriptor table and the threads, with
what the application holds as ghost state. -/
structure Lib where
  /-- `MANAGED_FDS`. -/
  managed : ManagedFds
  /-- `INITIALIZED`, which `init` sets before any thread runs. -/
  initialized : Bool
  /-- The kernel's table: the open descriptors. -/
  isOpen : Int → Bool
  pc : Nat → Pc
  /-- Ghost: the origin of each descriptor a call returned to the application and that
  the application has not passed to `close` since. -/
  returned : Int → Option Origin

/-- After `init`, with nothing open: `MANAGED_FDS` holds the empty set when `init` ran to
its end. -/
def Lib.start (initialized : Bool) : Lib :=
  ⟨if initialized then some ∅ else none, initialized, fun _ => false, fun _ => .idle, fun _ => none⟩

/-- An atomic action of thread `t`. -/
inductive Action
  /-- `connect_to_daemon` in `inotify_init_impl` succeeds: the socket is `fd`. -/
  | connect (t : Nat) (fd : Int)
  /-- `send_request(RegisterClient)` on the socket, the daemon's side as the stream
  gives it. -/
  | exchange (t : Nat) (writeOk : Bool) (incoming : List UInt8)
  /-- `register_fd(fd)`; the call returns `fd`. -/
  | register (t : Nat)
  /-- `call_real_inotify_init1` returns `fd`: before `init`, or once
  `connect_to_daemon` gave up. -/
  | fallback (t : Nat) (fd : Int)
  /-- A call the library does not interpose opens `fd`. -/
  | openOther (t : Nat) (fd : Int)
  /-- `close(fd)` begins: `is_managed_fd(fd)`. -/
  | closeCheck (t : Nat) (fd : Int)
  /-- `unregister_fd(fd)`. -/
  | unregister (t : Nat)
  /-- The real `close(fd)`. -/
  | realClose (t : Nat)

/-- A descriptor the kernel may hand out. -/
def Lib.free (S : Lib) (fd : Int) : Bool := !S.isOpen fd && decide (0 ≤ fd)

/-- The kernel opens `fd` for a call, which returns it to the application. -/
def Lib.give (S : Lib) (fd : Int) (o : Origin) : Lib :=
  { S with isOpen := update S.isOpen fd true, returned := update S.returned fd (some o) }

/-- One action; `none` when the thread is not where the action happens. A stream that
`inotify_init_impl` does not keep is dropped at once, which closes the socket. -/
def Lib.step (S : Lib) : Action → Option Lib
  | .connect t fd =>
    if S.pc t = .idle ∧ S.initialized = true ∧ S.free fd = true then
      some { S with isOpen := update S.isOpen fd true, pc := update S.pc t (.connected fd) }
    else none
  | .exchange t writeOk incoming =>
    match S.pc t with
    | .connected fd =>
      match sendRequest ⟨fd, writeOk, incoming⟩ .RegisterClient with
      | some (.ClientRegistered _) => some { S with pc := update S.pc t (.registering fd) }
      | _ => some { S with isOpen := update S.isOpen fd false, pc := update S.pc t .idle }
    | _ => none
  | .register t =>
    match S.pc t with
    | .registering fd =>
      some { S with
        managed := registerFd S.managed fd, pc := update S.pc t .idle,
        returned := update S.returned fd (some .daemon) }
    | _ => none
  | .fallback t fd => if S.pc t = .idle ∧ S.free fd = true then some (S.give fd .real) else none
  | .openOther t fd => if S.pc t = .idle ∧ S.free fd = true then some (S.give fd .other) else none
  | .closeCheck t fd =>
    if S.pc t = .idle then
      some { S with
        pc := update S.pc t (.closing fd (isManagedFd S.managed fd)),
        returned := update S.returned fd none }
    else none
  | .unregister t =>
    match S.pc t with
    | .closing fd true =>
      some { S with managed := unregisterFd S.managed fd, pc := update S.pc t (.unregistered fd) }
    | _ => none
  | .realClose t =>
    match S.pc t with
    | .closing fd false | .unregistered fd =>
      some { S with isOpen := update S.isOpen fd false, pc := update S.pc t .idle }
    | _ => none

/-- The application passes to `close` only a descriptor it holds: one that a call
returned to it and that it has not passed to `close` since. -/
def Owned (S : Lib) : Action → Bool
  | .closeCheck _ fd => (S.returned fd).isSome
  | _ => true

/-- The kernel's rule: a call that opens a descriptor gets the lowest free one. -/
def Lowest (S : Lib) : Action → Bool
  | .connect _ fd | .fallback _ fd | .openOther _ fd => (List.range fd.toNat).all fun k => S.isOpen k
  | _ => true

/-- The states reached from `init` by actions that `ok` allows. -/
inductive Lib.Reach (initialized : Bool) (ok : Lib → Action → Bool) : Lib → Prop
  | start : Lib.Reach initialized ok (Lib.start initialized)
  | step {S S' : Lib} {a : Action} : Lib.Reach initialized ok S → ok S a = true →
      S.step a = some S' → Lib.Reach initialized ok S'

/-- The actions `as` in turn, each allowed by `ok`. -/
def Lib.run (ok : Lib → Action → Bool) : Lib → List Action → Option Lib
  | S, [] => some S
  | S, a :: as => if ok S a then (S.step a).bind fun S' => Lib.run ok S' as else none

theorem Lib.Reach.run {initialized : Bool} {ok : Lib → Action → Bool} :
    ∀ {S S' : Lib} (as : List Action), Lib.Reach initialized ok S →
      Lib.run ok S as = some S' → Lib.Reach initialized ok S'
  | _, _, [], h, hr => by cases hr; exact h
  | S, _, a :: as, h, hr => by
    simp only [Lib.run] at hr
    split at hr
    · next hok =>
      obtain ⟨S1, h1, h2⟩ := Option.bind_eq_some.1 hr
      exact Lib.Reach.run as (.step h hok h1) h2
    · cases hr

/-! ## What each action does -/

section
variable {S S' : Lib} {t : Nat} {fd : Int}

theorem step_connect (h : S.step (.connect t fd) = some S') :
    S.pc t = .idle ∧ S.initialized = true ∧ S.isOpen fd = false ∧
      S' = { S with isOpen := update S.isOpen fd true, pc := update S.pc t (.connected fd) } := by
  simp only [Lib.step] at h
  split at h
  · next hc =>
    exact ⟨hc.1, hc.2.1, (by simpa [Lib.free] using hc.2.2 : _ ∧ _).1, (Option.some.inj h).symm⟩
  · cases h

theorem step_exchange {writeOk : Bool} {incoming : List UInt8}
    (h : S.step (.exchange t writeOk incoming) = some S') :
    ∃ fd, S.pc t = .connected fd ∧
      (S' = { S with pc := update S.pc t (.registering fd) } ∨
        S' = { S with isOpen := update S.isOpen fd false, pc := update S.pc t .idle }) := by
  simp only [Lib.step] at h
  split at h
  · next fd hpc =>
    refine ⟨fd, hpc, ?_⟩
    split at h <;> cases h
    exacts [.inl rfl, .inr rfl]
  · cases h

theorem step_register (h : S.step (.register t) = some S') :
    ∃ fd, S.pc t = .registering fd ∧
      S' = { S with
        managed := registerFd S.managed fd, pc := update S.pc t .idle,
        returned := update S.returned fd (some .daemon) } := by
  simp only [Lib.step] at h
  split at h
  · next fd hpc => exact ⟨fd, hpc, (Option.some.inj h).symm⟩
  · cases h

/-- `call_real_inotify_init1` and the calls the library does not interpose open a
descriptor the same way. -/
theorem step_give (h : S.step (.fallback t fd) = some S' ∨ S.step (.openOther t fd) = some S') :
    ∃ o, o ≠ .daemon ∧ S.pc t = .idle ∧ S.isOpen fd = false ∧ S' = S.give fd o := by
  rcases h with h | h <;> simp only [Lib.step] at h <;> split at h <;> try cases h
  all_goals next hc => exact ⟨_, by decide, hc.1, (by simpa [Lib.free] using hc.2 : _ ∧ _).1, rfl⟩

theorem step_closeCheck (h : S.step (.closeCheck t fd) = some S') :
    S.pc t = .idle ∧
      S' = { S with
        pc := update S.pc t (.closing fd (isManagedFd S.managed fd)),
        returned := update S.returned fd none } := by
  simp only [Lib.step] at h
  split at h
  · next hc => exact ⟨hc, (Option.some.inj h).symm⟩
  · cases h

theorem step_unregister (h : S.step (.unregister t) = some S') :
    ∃ fd, S.pc t = .closing fd true ∧
      S' = { S with managed := unregisterFd S.managed fd, pc := update S.pc t (.unregistered fd) } := by
  simp only [Lib.step] at h
  split at h
  · next fd hpc => exact ⟨fd, hpc, (Option.some.inj h).symm⟩
  · cases h

theorem step_realClose (h : S.step (.realClose t) = some S') :
    ∃ fd, (S.pc t = .closing fd false ∨ S.pc t = .unregistered fd) ∧
      S' = { S with isOpen := update S.isOpen fd false, pc := update S.pc t .idle } := by
  simp only [Lib.step] at h
  split at h
  · next fd hpc => exact ⟨fd, .inl hpc, (Option.some.inj h).symm⟩
  · next fd hpc => exact ⟨fd, .inr hpc, (Option.some.inj h).symm⟩
  · cases h

/-- `MANAGED_FDS` changes only at `register_fd` and `unregister_fd`. -/
theorem managed_step {a : Action} (h : S.step a = some S') :
    S'.managed = S.managed ∨ (∃ t fd, a = .register t ∧ S.pc t = .registering fd ∧
      S'.managed = registerFd S.managed fd) ∨
      ∃ t fd, a = .unregister t ∧ S.pc t = .closing fd true ∧
        S'.managed = unregisterFd S.managed fd := by
  cases a with
  | connect => obtain ⟨-, -, -, rfl⟩ := step_connect h; exact .inl rfl
  | exchange => obtain ⟨_, -, rfl | rfl⟩ := step_exchange h <;> exact .inl rfl
  | register t => obtain ⟨fd, hpc, rfl⟩ := step_register h; exact .inr (.inl ⟨t, fd, rfl, hpc, rfl⟩)
  | fallback => obtain ⟨_, -, -, -, rfl⟩ := step_give (.inl h); exact .inl rfl
  | openOther => obtain ⟨_, -, -, -, rfl⟩ := step_give (.inr h); exact .inl rfl
  | closeCheck => obtain ⟨-, rfl⟩ := step_closeCheck h; exact .inl rfl
  | unregister t => obtain ⟨fd, hpc, rfl⟩ := step_unregister h; exact .inr (.inr ⟨t, fd, rfl, hpc, rfl⟩)
  | realClose => obtain ⟨_, -, rfl⟩ := step_realClose h; exact .inl rfl

end

/-- A daemon-backed `inotify_init*` in the concurrent model is `inotify_init_impl`. Once
thread `t` is connected on `fd`, its `exchange` does what `inotify_init_impl` does, and so
does its `register` when `inotify_init_impl` returns the socket: they leave
`MANAGED_FDS` as `inotify_init_impl` leaves it and the thread idle, and the application
gets `fd` exactly when `inotify_init_impl` returns it. -/
theorem exchange_initImpl {S : Lib} {t : Nat} {fd : Int} (hpc : S.pc t = .connected fd)
    (hret : S.returned fd = none) (realInit1 : Option (Int → CallResult))
    (realInit : Option CallResult) (flags : Int) (writeOk : Bool) (incoming : List UInt8) :
    let r := inotifyInitImpl true realInit1 realInit (some ⟨fd, writeOk, incoming⟩) S.managed flags
    ∃ S', Lib.run (fun _ _ => true) S
        (.exchange t writeOk incoming :: if r.1 = ⟨fd, none⟩ then [.register t] else []) = some S' ∧
      S'.managed = r.2 ∧ S'.pc t = .idle ∧ (S'.returned fd = some .daemon ↔ r.1 = ⟨fd, none⟩) := by
  intro r
  have hr := (inotifyInitImpl_cases true realInit1 realInit _ S.managed flags).2 ⟨fd, writeOk, incoming⟩
    rfl rfl
  have fails : (∀ c, sendRequest ⟨fd, writeOk, incoming⟩ .RegisterClient ≠ some (.ClientRegistered c)) →
      ∃ S', Lib.run (fun _ _ => true) S
        (.exchange t writeOk incoming :: if r.1 = ⟨fd, none⟩ then [.register t] else []) = some S' ∧
      S'.managed = r.2 ∧ S'.pc t = .idle ∧ (S'.returned fd = some .daemon ↔ r.1 = ⟨fd, none⟩) := by
    intro hs
    have hr : r = (⟨-1, some EIO⟩, S.managed) := hr.2 hs
    have hstep : S.step (.exchange t writeOk incoming) =
        some { S with isOpen := update S.isOpen fd false, pc := update S.pc t .idle } := by
      simp only [Lib.step, hpc]
    simp [hr, Lib.run, hstep, hret, EIO]
  cases hs : sendRequest ⟨fd, writeOk, incoming⟩ .RegisterClient with
  | none => exact fails (by simp [hs])
  | some response =>
    cases response with
    | ClientRegistered c =>
      have hr : r = (⟨fd, none⟩, registerFd S.managed fd) := hr.1 c hs
      simp [hr, Lib.run, Lib.step, hpc, hs]
    | _ => exact fails (by simp [hs])

/-! ## The invariant -/

/-- What holds in every state when the application closes only what it holds. A
descriptor in a thread's hands is open, is the application's in no way and is in no
other thread's hands; what the application holds is open; and `MANAGED_FDS` holds exactly
the daemon sockets the application holds and those a `close` found managed and has not
unregistered yet. -/
structure Inv (S : Lib) : Prop where
  managed_isSome : S.managed.isSome = S.initialized
  inflight_init : ∀ t fd, S.pc t = .connected fd ∨ S.pc t = .registering fd → S.initialized = true
  held_open : ∀ t fd, (S.pc t).fd? = some fd → S.isOpen fd = true
  returned_open : ∀ fd o, S.returned fd = some o → S.isOpen fd = true
  held_not_returned : ∀ t fd, (S.pc t).fd? = some fd → S.returned fd = none
  held_unique : ∀ t t' fd, (S.pc t).fd? = some fd → (S.pc t').fd? = some fd → t = t'
  managed_iff : ∀ fd, isManagedFd S.managed fd = true ↔
    S.returned fd = some .daemon ∨ ∃ t, S.pc t = .closing fd true

theorem Inv.start (initialized : Bool) : Inv (Lib.start initialized) where
  managed_isSome := by cases initialized <;> rfl
  inflight_init _ _ h := by simp [Lib.start] at h
  held_open _ _ h := by simp [Lib.start, Pc.fd?] at h
  returned_open _ _ h := by simp [Lib.start] at h
  held_not_returned _ _ _ := rfl
  held_unique _ _ _ h := by simp [Lib.start, Pc.fd?] at h
  managed_iff _ := by cases initialized <;> simp [Lib.start, isManagedFd]

/-- A value of an updated function: the new one at the point, the old one elsewhere. -/
theorem update_cases {α β : Type} [DecidableEq α] {f : α → β} {a x : α} {b : β} (P : β → Prop)
    (h : P (update f a b x)) : (x = a ∧ P b) ∨ (x ≠ a ∧ P (f x)) := by
  by_cases hx : x = a
  · subst hx; exact .inl ⟨rfl, by rwa [update_same] at h⟩
  · exact .inr ⟨hx, by rwa [update_noteq hx] at h⟩

/-- The threads at a point after thread `t` moves to `p`. -/
theorem exists_update_eq {pc : Nat → Pc} {t : Nat} {p q : Pc} :
    (∃ t', update pc t p t' = q) ↔ p = q ∨ ∃ t', t' ≠ t ∧ pc t' = q := by
  constructor
  · rintro ⟨t', h⟩
    rcases update_cases (· = q) h with ⟨-, h⟩ | ⟨ht, h⟩
    exacts [.inl h, .inr ⟨t', ht, h⟩]
  · rintro (h | ⟨t', ht, h⟩)
    exacts [⟨t, by rw [update_same, h]⟩, ⟨t', by rw [update_noteq ht, h]⟩]

/-- A move of thread `t` that neither starts nor leaves a `close` of `fd` with `fd`
managed leaves the set of such closes as it was. -/
theorem exists_closing_update {pc : Nat → Pc} {t : Nat} {p : Pc} {fd : Int}
    (hp : p ≠ .closing fd true) (ht : pc t ≠ .closing fd true) :
    (∃ t', update pc t p t' = .closing fd true) ↔ ∃ t', pc t' = .closing fd true := by
  rw [exists_update_eq]
  exact ⟨fun h => h.elim (absurd · hp) fun ⟨t', _, h⟩ => ⟨t', h⟩,
    fun ⟨t', h⟩ => .inr ⟨t', fun he => ht (he ▸ h), h⟩⟩

/-- A move of thread `t` that keeps its descriptor keeps every thread's. -/
theorem fd?_update_of_eq {pc : Nat → Pc} {t : Nat} {p : Pc} (hp : p.fd? = (pc t).fd?) (t' : Nat) :
    (update pc t p t').fd? = (pc t').fd? := by
  by_cases ht : t' = t
  · subst ht; rw [update_same, hp]
  · rw [update_noteq ht]

/-- A thread that goes idle holds nothing. -/
theorem fd?_update_idle {pc : Nat → Pc} {t t' : Nat} {fd : Int}
    (h : (update pc t .idle t').fd? = some fd) : t' ≠ t ∧ (pc t').fd? = some fd := by
  rcases update_cases (fun q : Pc => q.fd? = some fd) h with ⟨-, h⟩ | h
  exacts [absurd h (by simp [Pc.fd?]), h]

section
variable {S S' : Lib} {t : Nat} {fd : Int}

theorem Inv.not_held_of_closed (I : Inv S) (h : S.isOpen fd = false) (t' : Nat) :
    (S.pc t').fd? ≠ some fd := fun h' => by simp [I.held_open t' fd h'] at h

theorem Inv.returned_of_closed (I : Inv S) (h : S.isOpen fd = false) : S.returned fd = none := by
  cases hr : S.returned fd with
  | none => rfl
  | some o => simp [I.returned_open fd o hr] at h

/-- Thread `t` moves to `p`: every descriptor stays in at most one thread's hands when
nobody else holds the descriptor `p` works on. -/
theorem Inv.held_unique_update (I : Inv S) {p : Pc}
    (hp : ∀ fd', p.fd? = some fd' → ∀ t', t' ≠ t → (S.pc t').fd? ≠ some fd') :
    ∀ t₁ t₂ fd', (update S.pc t p t₁).fd? = some fd' → (update S.pc t p t₂).fd? = some fd' →
      t₁ = t₂ := by
  intro t₁ t₂ fd' h₁ h₂
  rcases update_cases (fun q : Pc => q.fd? = some fd') h₁ with ⟨rfl, k₁⟩ | ⟨ht₁, k₁⟩ <;>
    rcases update_cases (fun q : Pc => q.fd? = some fd') h₂ with ⟨rfl, k₂⟩ | ⟨ht₂, k₂⟩
  · rfl
  · exact absurd k₂ (hp fd' k₁ t₂ ht₂)
  · exact absurd k₁ (hp fd' k₂ t₁ ht₁)
  · exact I.held_unique _ _ _ k₁ k₂

/-- Thread `t` moves to a point outside the socket exchange of `inotify_init_impl`: the
threads inside it are those that were. -/
theorem Inv.inflight_update (I : Inv S) {p : Pc}
    (hp : ∀ fd', p ≠ .connected fd' ∧ p ≠ .registering fd') :
    ∀ t' fd', update S.pc t p t' = .connected fd' ∨ update S.pc t p t' = .registering fd' →
      S.initialized = true := by
  intro t' fd' h'
  rcases update_cases (fun q : Pc => q = .connected fd' ∨ q = .registering fd') h' with
    ⟨-, h' | h'⟩ | ⟨-, h'⟩
  exacts [absurd h' (hp fd').1, absurd h' (hp fd').2, I.inflight_init _ _ h']

theorem Inv.connect (I : Inv S) (h : S.step (.connect t fd) = some S') : Inv S' := by
  obtain ⟨hpc, hinit, hclosed, rfl⟩ := step_connect h
  refine ⟨I.managed_isSome, fun _ _ _ => hinit, fun t' fd' h' => ?_, fun fd' o h' => ?_,
    fun t' fd' h' => ?_, I.held_unique_update ?_, fun fd' => ?_⟩
  · rcases update_cases (fun q : Pc => q.fd? = some fd') h' with ⟨-, h'⟩ | ⟨-, h'⟩
    · cases Option.some.inj h'; simp
    · simp [update_apply, I.held_open _ _ h']
  · simp [update_apply, I.returned_open _ _ h']
  · rcases update_cases (fun q : Pc => q.fd? = some fd') h' with ⟨-, h'⟩ | ⟨-, h'⟩
    · cases Option.some.inj h'; exact I.returned_of_closed hclosed
    · exact I.held_not_returned _ _ h'
  · rintro fd' h' t' -
    cases Option.some.inj h'
    exact I.not_held_of_closed hclosed t'
  · rw [exists_closing_update (by simp) (by simp [hpc])]
    exact I.managed_iff fd'

/-- Thread `t`, which holds `fd` and has not found it managed, closes it and goes
idle: a dropped stream, or the real `close`. -/
theorem Inv.release (I : Inv S) (hfd : (S.pc t).fd? = some fd)
    (hc : S.pc t ≠ .closing fd true) :
    Inv { S with isOpen := update S.isOpen fd false, pc := update S.pc t .idle } := by
  have other : ∀ t' fd', t' ≠ t → (S.pc t').fd? = some fd' → fd' ≠ fd := fun t' fd' ht h' he =>
    ht (I.held_unique t' t fd (he ▸ h') hfd)
  refine ⟨I.managed_isSome, I.inflight_update (by simp), fun t' fd' h' => ?_, fun fd' o h' => ?_,
    fun t' fd' h' => ?_, I.held_unique_update (by simp [Pc.fd?]), fun fd' => ?_⟩
  · obtain ⟨ht, h'⟩ := fd?_update_idle h'
    simp [update_noteq (other t' fd' ht h'), I.held_open t' fd' h']
  · have : fd' ≠ fd := fun he => by simp [he, I.held_not_returned t fd hfd] at h'
    simp [update_noteq this, I.returned_open fd' o h']
  · exact I.held_not_returned t' fd' (fd?_update_idle h').2
  · by_cases he : fd' = fd
    · subst he
      rw [exists_closing_update (by simp) hc]
      exact I.managed_iff fd'
    · rw [exists_closing_update (by simp) (fun h => he (by simpa [Pc.fd?, h, eq_comm] using hfd))]
      exact I.managed_iff fd'

theorem Inv.exchange (I : Inv S) {writeOk : Bool} {incoming : List UInt8}
    (h : S.step (.exchange t writeOk incoming) = some S') : Inv S' := by
  obtain ⟨fd, hpc, rfl | rfl⟩ := step_exchange h
  · have hfd := @fd?_update_of_eq S.pc t (.registering fd) (by simp [hpc, Pc.fd?])
    refine ⟨I.managed_isSome, fun _ _ _ => I.inflight_init t fd (.inl hpc), fun t' fd' h' => ?_,
      I.returned_open, fun t' fd' h' => ?_, fun t₁ t₂ fd' h₁ h₂ => ?_, fun fd' => ?_⟩
    · exact I.held_open t' fd' (by simpa [hfd] using h')
    · exact I.held_not_returned t' fd' (by simpa [hfd] using h')
    · exact I.held_unique t₁ t₂ fd' (by simpa [hfd] using h₁) (by simpa [hfd] using h₂)
    · rw [exists_closing_update (by simp) (by simp [hpc])]
      exact I.managed_iff fd'
  · exact I.release (by simp [hpc, Pc.fd?]) (by simp [hpc])

theorem Inv.register (I : Inv S) (h : S.step (.register t) = some S') : Inv S' := by
  obtain ⟨fd, hpc, rfl⟩ := step_register h
  have hfd : (S.pc t).fd? = some fd := by simp [hpc, Pc.fd?]
  have hinit := I.inflight_init t fd (.inr hpc)
  refine ⟨by simp [registerFd, I.managed_isSome], fun _ _ _ => hinit, fun t' fd' h' => ?_,
    fun fd' o h' => ?_, fun t' fd' h' => ?_, I.held_unique_update (by simp [Pc.fd?]), fun fd' => ?_⟩
  · exact I.held_open t' fd' (fd?_update_idle h').2
  · by_cases he : fd' = fd
    · subst he; exact I.held_open t fd' hfd
    · exact I.returned_open fd' o (by simpa [update_noteq he] using h')
  · obtain ⟨ht, h'⟩ := fd?_update_idle h'
    have he : fd' ≠ fd := fun he => ht (I.held_unique t' t fd (he ▸ h') hfd)
    simpa [update_noteq he] using I.held_not_returned t' fd' h'
  · rw [isManagedFd_registerFd (I.managed_isSome.trans hinit),
      exists_closing_update (by simp) (by simp [hpc])]
    by_cases he : fd' = fd
    · subst he; simp
    · simpa [he, update_noteq he] using I.managed_iff fd'

theorem Inv.give (I : Inv S) {o : Origin} (ho : o ≠ .daemon) (hclosed : S.isOpen fd = false) :
    Inv (S.give fd o) := by
  have unheld := I.not_held_of_closed hclosed
  refine ⟨I.managed_isSome, I.inflight_init, fun t' fd' h' => ?_, fun fd' o' h' => ?_,
    fun t' fd' h' => ?_, I.held_unique, fun fd' => ?_⟩
  · simp [Lib.give, update_apply, I.held_open t' fd' h']
  · by_cases he : fd' = fd
    · simp [Lib.give, he]
    · simpa [Lib.give, update_noteq he] using
        I.returned_open fd' o' (by simpa [Lib.give, update_noteq he] using h')
  · have he : fd' ≠ fd := fun he => unheld t' (he ▸ h')
    simpa [Lib.give, update_noteq he] using I.held_not_returned t' fd' h'
  · by_cases he : fd' = fd
    · subst he
      have hc : ∀ t', S.pc t' ≠ .closing fd' true := fun t' h => unheld t' (by simp [h, Pc.fd?])
      have hm : isManagedFd S.managed fd' = false := by
        simpa [I.returned_of_closed hclosed, hc] using I.managed_iff fd'
      simp [Lib.give, hm, ho, hc]
    · simpa [Lib.give, update_noteq he] using I.managed_iff fd'

/-- `close` on a descriptor the application holds. -/
theorem Inv.closeCheck (I : Inv S) (hown : (S.returned fd).isSome = true)
    (h : S.step (.closeCheck t fd) = some S') : Inv S' := by
  obtain ⟨hpc, rfl⟩ := step_closeCheck h
  obtain ⟨o, ho⟩ := Option.isSome_iff_exists.1 hown
  have unheld : ∀ t', (S.pc t').fd? ≠ some fd := fun t' h' => by
    simp [I.held_not_returned t' fd h'] at ho
  refine ⟨I.managed_isSome, I.inflight_update (by simp), fun t' fd' h' => ?_,
    fun fd' o' h' => ?_, fun t' fd' h' => ?_, I.held_unique_update ?_, fun fd' => ?_⟩
  · rcases update_cases (fun q : Pc => q.fd? = some fd') h' with ⟨-, h'⟩ | ⟨-, h'⟩
    · cases Option.some.inj h'; exact I.returned_open fd o ho
    · exact I.held_open t' fd' h'
  · have he : fd' ≠ fd := fun he => by subst he; simp at h'
    exact I.returned_open fd' o' (by simpa [update_noteq he] using h')
  · rcases update_cases (fun q : Pc => q.fd? = some fd') h' with ⟨-, h'⟩ | ⟨-, h'⟩
    · cases Option.some.inj h'; simp
    · have he : fd' ≠ fd := fun he => unheld t' (he ▸ h')
      simpa [update_noteq he] using I.held_not_returned t' fd' h'
  · rintro fd' h' t' -
    cases Option.some.inj h'
    exact unheld t'
  · by_cases he : fd' = fd
    · subst he
      have hc : ∀ t', S.pc t' ≠ .closing fd' true := fun t' h => unheld t' (by simp [h, Pc.fd?])
      simp [exists_update_eq, hc]
    · rw [exists_closing_update (by simp [Ne.symm he]) (by simp [hpc])]
      simpa [update_noteq he] using I.managed_iff fd'

theorem Inv.unregister (I : Inv S) (h : S.step (.unregister t) = some S') : Inv S' := by
  obtain ⟨fd, hpc, rfl⟩ := step_unregister h
  have hfd : (S.pc t).fd? = some fd := by simp [hpc, Pc.fd?]
  have same := @fd?_update_of_eq S.pc t (.unregistered fd) (by simp [hpc, Pc.fd?])
  refine ⟨by simp [unregisterFd, I.managed_isSome], I.inflight_update (by simp),
    fun t' fd' h' => I.held_open t' fd' (by simpa [same] using h'), I.returned_open,
    fun t' fd' h' => I.held_not_returned t' fd' (by simpa [same] using h'),
    fun t₁ t₂ fd' h₁ h₂ => I.held_unique t₁ t₂ fd' (by simpa [same] using h₁)
      (by simpa [same] using h₂), fun fd' => ?_⟩
  · rw [isManagedFd_unregisterFd]
    by_cases he : fd' = fd
    · subst he
      have hc : ∀ t', t' ≠ t → S.pc t' ≠ .closing fd' true := fun t' ht h =>
        ht (I.held_unique t' t fd' (by simp [h, Pc.fd?]) hfd)
      simpa [I.held_not_returned t fd' hfd, exists_update_eq] using hc
    · rw [exists_closing_update (by simp) (by simp [hpc, Ne.symm he])]
      simpa [he] using I.managed_iff fd'

theorem Inv.realClose (I : Inv S) (h : S.step (.realClose t) = some S') : Inv S' := by
  obtain ⟨fd, hpc, rfl⟩ := step_realClose h
  rcases hpc with hpc | hpc <;> exact I.release (by simp [hpc, Pc.fd?]) (by simp [hpc])

/-- Every action the application's discipline allows keeps the invariant. -/
theorem Inv.step (I : Inv S) {a : Action} (hown : Owned S a = true) (h : S.step a = some S') :
    Inv S' := by
  cases a with
  | connect => exact I.connect h
  | exchange => exact I.exchange h
  | register => exact I.register h
  | fallback => obtain ⟨o, ho, -, hc, rfl⟩ := step_give (.inl h); exact I.give ho hc
  | openOther => obtain ⟨o, ho, -, hc, rfl⟩ := step_give (.inr h); exact I.give ho hc
  | closeCheck => exact I.closeCheck hown h
  | unregister => exact I.unregister h
  | realClose => exact I.realClose h

end

theorem Lib.Reach.inv {initialized : Bool} {ok : Lib → Action → Bool}
    (hok : ∀ S a, ok S a = true → Owned S a = true) {S : Lib} (h : Lib.Reach initialized ok S) :
    Inv S := by
  induction h with
  | start => exact Inv.start initialized
  | step _ ha hs ih => exact ih.step (hok _ _ ha) hs

/-! ## `MANAGED_FDS` -/

/-- `MANAGED_FDS` when the application closes only the descriptors it holds, under any
interleaving and for any rule by which the kernel hands out free descriptors (lowest
free first among them). In every reachable state, a descriptor is managed iff it is
open, a daemon-backed `inotify_init*` returned it, and no `close` of it has taken
effect. A `close` of a managed descriptor takes effect at its `unregister_fd`, before
the real `close` frees the number. A descriptor that the real `inotify_init1` fallback
returned and that the application still holds is not managed. `inotify_add_watch` and
`inotify_rm_watch` on it are the real functions, called with the same arguments. -/
theorem managedFds_exact {initialized : Bool} {ok : Lib → Action → Bool}
    (hok : ∀ S a, ok S a = true → Owned S a = true) {S : Lib}
    (h : Lib.Reach initialized ok S) :
    (∀ fd, isManagedFd S.managed fd = true ↔ S.isOpen fd = true ∧
      (S.returned fd = some .daemon ∨ ∃ t, S.pc t = .closing fd true)) ∧
    ∀ fd, S.returned fd = some .real →
      isManagedFd S.managed fd = false ∧
      (∀ realAddWatch stream pathname mask,
        inotifyAddWatch S.managed realAddWatch stream fd pathname mask =
          callReal realAddWatch (fd, pathname, mask)) ∧
      ∀ realRmWatch stream wd,
        inotifyRmWatch S.managed realRmWatch stream fd wd = callReal realRmWatch (fd, wd) := by
  have I := h.inv hok
  refine ⟨fun fd => (I.managed_iff fd).trans ⟨fun hm => ⟨?_, hm⟩, And.right⟩, fun fd hr => ?_⟩
  · rcases hm with hm | ⟨t, hm⟩
    exacts [I.returned_open fd _ hm, I.held_open t fd (by simp [hm, Pc.fd?])]
  · have hm : isManagedFd S.managed fd = false := by
      have : ∀ t, S.pc t ≠ .closing fd true := fun t hc => by
        simp [I.held_not_returned t fd (by simp [hc, Pc.fd?])] at hr
      simpa [hr, this] using I.managed_iff fd
    exact ⟨hm, inotifyWatch_of_not_managed hm⟩

/-- The daemon's greeting, `ClientRegistered { client_id: 1 }`, framed. -/
def greeting : List UInt8 := FramedMessage.frame (Response.ClientRegistered 1).toBytes

/-- The kernel hands out the lowest free descriptor, and the application closes only
what it holds. -/
def ownedLowest (S : Lib) (a : Action) : Bool := Owned S a && Lowest S a

/-- Thread 1's `inotify_init` gets the daemon socket 0 and closes it; thread 2's
`inotify_init1` then falls back and gets 0 again. -/
def reuseRun : List Action :=
  [.connect 1 0, .exchange 1 true greeting, .register 1, .closeCheck 1 0, .unregister 1,
    .realClose 1, .fallback 2 0]

/-- The reused number is not managed. -/
theorem managedFds_exact_reuse :
    let S := (Lib.run ownedLowest (Lib.start true) reuseRun).getD (Lib.start true)
    S.returned 0 = some .real ∧ isManagedFd S.managed 0 = false :=
  ⟨rfl, ((managedFds_exact (fun _ _ h => by simp only [ownedLowest, Bool.and_eq_true] at h; exact h.1)
    (@Lib.Reach.run true ownedLowest _ _ reuseRun .start rfl)).2 0 rfl).1⟩

/-- Thread 2 opens 0 and closes it twice; between the two closes, thread 1's
`inotify_init` got the daemon socket 0 and its `send_request` succeeded. The second
`close` frees the socket before `register_fd(0)`, and thread 3's fallback
`inotify_init1` then gets 0. After `register_fd`, `MANAGED_FDS` holds 0 while 0 is
closed. In the end it holds the real inotify descriptor 0 that thread 3 holds, and
thread 3's `inotify_add_watch(0, "/tmp/x", IN_CREATE)` goes to the daemon path and
fails, where the real function would have returned its watch. -/
def doubleClose : List Action :=
  [.openOther 2 0, .closeCheck 2 0, .realClose 2, .connect 1 0, .exchange 1 true greeting,
    .closeCheck 2 0, .realClose 2, .register 1, .fallback 3 0]

theorem managedFds_doubleClose :
    let S₁ := (Lib.run Lowest (Lib.start true) (doubleClose.take 8)).getD (Lib.start true)
    let S₂ := (Lib.run Lowest (Lib.start true) doubleClose).getD (Lib.start true)
    Lib.Reach true Lowest S₁ ∧ isManagedFd S₁.managed 0 = true ∧ S₁.isOpen 0 = false ∧
    Lib.Reach true Lowest S₂ ∧ S₂.returned 0 = some .real ∧ isManagedFd S₂.managed 0 = true ∧
    inotifyAddWatch S₂.managed (some fun _ => ⟨1, none⟩) ⟨0, true, []⟩ 0 (utf8Bytes "/tmp/x")
      0x100 = ⟨-1, some EIO⟩ ∧
    callReal (some fun _ => ⟨1, none⟩) ((0 : Int), utf8Bytes "/tmp/x", (0x100 : BitVec 32)) =
      ⟨1, none⟩ :=
  ⟨@Lib.Reach.run true Lowest _ _ (doubleClose.take 8) .start rfl, rfl, rfl,
    @Lib.Reach.run true Lowest _ _ doubleClose .start rfl, rfl, rfl, rfl, rfl⟩

end fakenotify.preload
