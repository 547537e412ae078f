-- The registry under every interleaving of the daemon's tasks. A handler takes
-- the registry's locks for one method of `DaemonState` at a time, and the
-- dispatcher only reads, so each step of the daemon leaves the registry alone or
-- makes one call that `handle_client` makes. The registry the daemon reaches is
-- one that a sequential run reaches, and its invariant holds there. While every
-- write succeeds, the clients table holds exactly the connections whose handlers
-- have not returned; `Failures.lean` lets writes fail.
import FakeNotify.Daemon.Streams

namespace fakenotify.system

open Function
open fakenotify.bytes fakenotify.protocol fakenotify.state fakenotify.path fakenotify.event
  fakenotify.server fakenotify.watcher

/-- The steps at which no counter of the registry wraps: `next_wd` as an `i32` and
`next_client_id` as a `u64` do not go down. -/
def noCounterWrap (pathExists : PathBuf → Bool) (S : Sys) (st : Step) : Bool :=
  match S.step pathExists st with
  | some S' => decide (NoWrap S.reg S'.reg)
  | none => true

/-- The client `x` is the client of an accepted connection whose handler has not
returned. -/
def Connected (socks : Nat → Option Sock) (x : ClientId) : Prop :=
  ∃ k σ, socks k = some σ ∧ σ.id = x ∧ σ.phase ≠ .closed

/-- The clients table holds exactly the clients of the connections whose handlers have
not returned. -/
def Live (S : Sys) : Prop := ∀ x, (S.reg.clients x).isSome ↔ Connected S.socks x

/-- No request registers or forgets a client. -/
theorem handleRequest_clients_isSome {pathExists : PathBuf → Bool} {s : DaemonState PathKey}
    {c : ClientId} (req : Request) (x : ClientId) :
    ((handleRequest pathExists s c req).1.clients x).isSome = (s.clients x).isSome := by
  cases req with
  | AddWatch path mask =>
    simp only [handleRequest]
    split
    · rfl
    · exact addWatch_clients_isSome _ _ _
  | RemoveWatch wd => rw [handleRequest_removeWatch, removeWatch_clients_isSome]
  | _ => rfl

/-- A request is at most one registry call that `handle_client` may make for its own
registered client. -/
theorem handleRequest_op {pathExists : PathBuf → Bool} {s : DaemonState PathKey} {c : ClientId}
    (hc : (s.clients c).isSome) (req : Request) :
    (handleRequest pathExists s c req).1 = s ∨
      ∃ o : Op PathKey, o.Allowed s ∧ o.apply s = (handleRequest pathExists s c req).1 := by
  cases req with
  | AddWatch path mask =>
    simp only [handleRequest]
    split
    · exact .inl rfl
    · exact .inr ⟨.add c (components path) (fromBitsTruncate mask) true, hc, rfl⟩
  | RemoveWatch wd => exact .inr ⟨.remove c wd, hc, (handleRequest_removeWatch wd).symm⟩
  | _ => exact .inl rfl

/-! ## Connections -/

section
variable {socks : Nat → Option Sock} {k : Nat} {σ : Sock}

/-- Replacing a connection by one of the same client, returned iff it was, changes no
one's connection. -/
theorem connected_update {τ : Sock} (hσ : socks k = some σ) (hid : τ.id = σ.id)
    (hp : τ.phase = .closed ↔ σ.phase = .closed) (x : ClientId) :
    Connected (update socks k (some τ)) x ↔ Connected socks x := by
  constructor
  · rintro ⟨j, ρ, hj, rfl, hρ⟩
    rcases update_eq_some hj with ⟨rfl, rfl⟩ | ⟨-, hj⟩
    · exact ⟨j, σ, hσ, hid.symm, fun h => hρ (hp.2 h)⟩
    · exact ⟨j, ρ, hj, rfl, hρ⟩
  · rintro ⟨j, ρ, hj, rfl, hρ⟩
    by_cases hjk : j = k
    · subst hjk
      rw [hσ, Option.some.injEq] at hj
      subst hj
      exact ⟨j, τ, update_same _ _ _, hid, fun h => hρ (hp.1 h)⟩
    · exact ⟨j, ρ, by rwa [update_noteq hjk], rfl, hρ⟩

/-- A new connection at a free number connects its client. -/
theorem connected_accept (hfree : socks k = none) (id : ClientId) (cap : Nat) (x : ClientId) :
    Connected (update socks k (some (Sock.fresh id cap))) x ↔ x = id ∨ Connected socks x := by
  constructor
  · rintro ⟨j, ρ, hj, rfl, hρ⟩
    rcases update_eq_some hj with ⟨rfl, rfl⟩ | ⟨-, hj⟩
    · exact .inl rfl
    · exact .inr ⟨j, ρ, hj, rfl, hρ⟩
  · rintro (rfl | ⟨j, ρ, hj, rfl, hρ⟩)
    · exact ⟨k, _, update_same _ _ _, rfl, nofun⟩
    · have hjk : j ≠ k := by rintro rfl; rw [hfree] at hj; cases hj
      exact ⟨j, ρ, by rwa [update_noteq hjk], rfl, hρ⟩

/-- A handler that returns disconnects its client, and only it, when no other
connection has its id. -/
theorem connected_close {τ : Sock} (hσ : socks k = some σ)
    (hdist : ∀ j ρ, socks j = some ρ → ρ.id = σ.id → j = k) (hid : τ.id = σ.id)
    (hτ : τ.phase = .closed) (x : ClientId) :
    Connected (update socks k (some τ)) x ↔ x ≠ σ.id ∧ Connected socks x := by
  constructor
  · rintro ⟨j, ρ, hj, rfl, hρ⟩
    rcases update_eq_some hj with ⟨rfl, rfl⟩ | ⟨hjk, hj⟩
    · exact absurd hτ hρ
    · exact ⟨fun he => hjk (hdist j ρ hj he), j, ρ, hj, rfl, hρ⟩
  · rintro ⟨hx, j, ρ, hj, rfl, hρ⟩
    have hjk : j ≠ k := by rintro rfl; rw [hσ, Option.some.injEq] at hj; exact hx (hj ▸ rfl)
    exact ⟨j, ρ, by rwa [update_noteq hjk], rfl, hρ⟩

end

/-! ## Each step keeps the clients table exact -/

section
variable {pathExists : PathBuf → Bool} {S S' : Sys}

theorem live_init : Live Sys.init := fun x => by
  simp [Sys.init, DaemonState.new, Connected]

/-- A step that keeps the registry's clients and replaces one connection by one of the
same client, returned iff it was. -/
theorem Live.setSock (hL : Live S) {k : Nat} {σ τ : Sock} {S' : Sys}
    (hs : S'.socks = update S.socks k (some τ)) (hσ : S.socks k = some σ) (hid : τ.id = σ.id)
    (hp : τ.phase = .closed ↔ σ.phase = .closed)
    (hc : ∀ x, (S'.reg.clients x).isSome = (S.reg.clients x).isSome) : Live S' := fun x => by
  rw [hc, hs, connected_update hσ hid hp, hL]

theorem Live.step (hL : Live S) (hI : Inv S) {st : Step} (hs : S.step pathExists st = some S') :
    Live S' := by
  cases st with
  | accept cap =>
    rw [step_accept, Option.some.injEq] at hs
    subst hs
    intro x
    rw [registerClient_clients_isSome, hL, connected_accept (hI.unused _ le_rfl)]
  | greet k =>
    obtain ⟨σ, hσ, hp, rfl⟩ := step_greet hs
    exact hL.setSock rfl hσ rfl (by simp [hp]) (fun _ => rfl)
  | request k req =>
    obtain ⟨σ, hσ, -, -, rfl⟩ := step_request hs
    exact hL.setSock rfl hσ rfl Iff.rfl (handleRequest_clients_isSome req)
  | invalid k message =>
    obtain ⟨σ, hσ, -, -, rfl⟩ := step_invalid hs
    exact hL.setSock rfl hσ rfl Iff.rfl (fun _ => rfl)
  | close k =>
    obtain ⟨σ, hσ, -, -, rfl⟩ := step_close hs
    intro x
    have hd : ∀ j ρ, S.socks j = some ρ → ρ.id = σ.id → j = k :=
      fun j ρ hj he => hI.distinct j k ρ σ hj hσ he
    simp only [Sys.setSock_reg, Sys.setSock_socks]
    rw [unregisterClient_clients, connected_close (τ := { σ with phase := .closed }) hσ hd rfl rfl, ← hL]
    split <;> simp_all
  | take k =>
    obtain ⟨σ, f, hσ, -, -, rfl⟩ := step_take hs
    exact hL.setSock rfl hσ rfl Iff.rfl (fun _ => rfl)
  | event ev =>
    obtain ⟨-, rfl⟩ := step_event hs
    exact hL
  | send =>
    obtain ⟨k, f, t, σ, -, hσ, -, rfl⟩ := step_send hs
    exact hL.setSock rfl hσ rfl Iff.rfl (fun _ => rfl)
  | write k =>
    obtain ⟨σ, w, rest, hσ, -, -, rfl⟩ := step_write hs
    exact hL.setSock rfl hσ rfl Iff.rfl (fun _ => rfl)
  | read k n =>
    obtain ⟨σ, hσ, rfl⟩ := step_read hs
    exact hL.setSock rfl hσ rfl Iff.rfl (fun _ => rfl)

theorem Reach.live (hS : Reach pathExists noIdWrap S) : Live S := by
  induction hS with
  | init => exact live_init
  | step hR _ hs ih => exact ih.step hR.inv hs

/-! ## Each step is at most one registry call -/

/-- The simulation step: a step of the daemon leaves the registry alone or applies one
call that `handle_client` may make. -/
theorem Sys.reg_step (hc : ∀ k σ, S.socks k = some σ → σ.phase ≠ .closed → (S.reg.clients σ.id).isSome)
    {st : Step} (hs : S.step pathExists st = some S') :
    S'.reg = S.reg ∨ ∃ o : Op PathKey, o.Allowed S.reg ∧ o.apply S.reg = S'.reg := by
  cases st with
  | accept cap =>
    rw [step_accept, Option.some.injEq] at hs
    exact .inr ⟨.register, trivial, by rw [← hs]; rfl⟩
  | greet k => obtain ⟨σ, -, -, rfl⟩ := step_greet hs; exact .inl rfl
  | request k req =>
    obtain ⟨σ, hσ, hp, -, rfl⟩ := step_request hs
    exact handleRequest_op (hc k σ hσ (by rw [hp]; nofun)) req
  | invalid k message => obtain ⟨σ, -, -, -, rfl⟩ := step_invalid hs; exact .inl rfl
  | close k =>
    obtain ⟨σ, -, -, -, rfl⟩ := step_close hs
    exact .inr ⟨.unregister σ.id, trivial, rfl⟩
  | take k => obtain ⟨σ, f, -, -, -, rfl⟩ := step_take hs; exact .inl rfl
  | event ev => obtain ⟨-, rfl⟩ := step_event hs; exact .inl rfl
  | send => obtain ⟨k, f, t, σ, -, -, -, rfl⟩ := step_send hs; exact .inl rfl
  | write k => obtain ⟨σ, w, rest, -, -, -, rfl⟩ := step_write hs; exact .inl rfl
  | read k n => obtain ⟨σ, -, rfl⟩ := step_read hs; exact .inl rfl

theorem noWrap_of_noCounterWrap {st : Step} (hok : noCounterWrap pathExists S st = true)
    (hs : S.step pathExists st = some S') : NoWrap S.reg S'.reg := by
  simpa [noCounterWrap, hs] using hok

theorem noIdWrap_of_noCounterWrap {st : Step} (hok : noCounterWrap pathExists S st = true) :
    noIdWrap S st = true := by
  cases st with
  | accept cap =>
    have h := (noWrap_of_noCounterWrap hok (step_accept cap)).2
    have h1 := toNat_succ h
    have h2 := (S.reg.next_client_id + 1).isLt
    simp only [noIdWrap, decide_eq_true_eq]
    exact h1 ▸ h2
  | _ => rfl

theorem Reach.mono {ok ok' : Sys → Step → Bool} (hok : ∀ S st, ok S st = true → ok' S st = true)
    (hS : Reach pathExists ok S) : Reach pathExists ok' S := by
  induction hS with
  | init => exact .init
  | step _ h1 h2 ih => exact .step ih (hok _ _ h1) h2

/-- A step that wraps no counter, from a state whose open connections are registered,
keeps the registry reachable. -/
theorem reachable_step (ih : Reachable S.reg)
    (hc : ∀ k σ, S.socks k = some σ → σ.phase ≠ .closed → (S.reg.clients σ.id).isSome)
    {st : Step} (hok : noCounterWrap pathExists S st = true) (hs : S.step pathExists st = some S') :
    Reachable S'.reg := by
  rcases Sys.reg_step hc hs with he | ⟨o, ho, he⟩
  · exact he ▸ ih
  · have : Reachable (state.run _ [o]) :=
      ih.run ⟨ho, he ▸ noWrap_of_noCounterWrap hok hs, trivial⟩
    rwa [state.run, state.run, he] at this

theorem Reach.reachable (hS : Reach pathExists (noCounterWrap pathExists) S) : Reachable S.reg := by
  induction hS with
  | init => exact ⟨[], trivial, rfl⟩
  | step hR hok hs ih =>
    have hL := (hR.mono fun _ _ => noIdWrap_of_noCounterWrap).live
    exact reachable_step ih (fun k σ hσ hp => (hL σ.id).2 ⟨k, σ, hσ, rfl, hp⟩) hok hs

end

/-- The registry under any interleaving. Run the handlers of any connections, the
dispatcher and the peers' reads in any order, as long as no counter wraps: the
registry the daemon reaches is one that a sequential run of `handle_client`'s calls
reaches from `DaemonState::new`, and it keeps the registry invariant. -/
theorem interleaved_registry_sequential {pathExists : PathBuf → Bool} {S : Sys}
    (hS : Reach pathExists (noCounterWrap pathExists) S) : Reachable S.reg ∧ Registry S.reg :=
  ⟨hS.reachable, hS.reachable.registry⟩

/-- Connection 0's subscription to "/tmp/x" wraps no counter. -/
theorem reach_afterSubscribe :
    Reach (fun _ => true) (noCounterWrap fun _ => true) afterSubscribe :=
  Reach.run subscribeFirst .init rfl

theorem interleaved_registry_sequential_subscribe :
    Reachable afterSubscribe.reg ∧ Registry afterSubscribe.reg :=
  interleaved_registry_sequential reach_afterSubscribe

end fakenotify.system
