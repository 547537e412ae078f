-- Runs of the registry: the calls `handle_client` makes on `DaemonState`, one
-- after another from `DaemonState::new`. The invariant holds after every run
-- in which no counter wraps; `next_wd` does wrap after 2^31 - 1 new watches.
import FakeNotify.Daemon.Registry

namespace fakenotify.state

variable {P : Type} [DecidableEq P]

/-! ## Runs -/

/-- One call on the registry. -/
inductive Op (P : Type)
  | register
  | unregister (c : ClientId)
  | add (c : ClientId) (path : P) (mask : EventMask) (recursive : Bool)
  | remove (c : ClientId) (wd : WatchDescriptor)

/-- The state after the call. -/
def Op.apply (s : DaemonState P) : Op P → DaemonState P
  | .register => (registerClient s).1
  | .unregister c => unregisterClient s c
  | .add c path mask recursive => (addWatch s c path mask recursive).1
  | .remove c wd => (removeWatch s c wd).1

/-- `handle_client` calls `add_watch` and `remove_watch` only with its own, registered,
id. -/
def Op.Allowed (s : DaemonState P) : Op P → Prop
  | .add c .. => (s.clients c).isSome
  | .remove c _ => (s.clients c).isSome
  | _ => True

instance Op.decAllowed (s : DaemonState P) : (o : Op P) → Decidable (o.Allowed s)
  | .register => isTrue trivial
  | .unregister _ => isTrue trivial
  | .add c .. => inferInstanceAs (Decidable ((s.clients c).isSome = true))
  | .remove c _ => inferInstanceAs (Decidable ((s.clients c).isSome = true))

/-- Neither `fetch_add` wrapped: `next_wd` as an `i32` and `next_client_id` as a `u64`
did not go down. -/
def NoWrap (s s' : DaemonState P) : Prop :=
  s.next_wd.toInt ≤ s'.next_wd.toInt ∧ s.next_client_id.toNat ≤ s'.next_client_id.toNat

instance (s s' : DaemonState P) : Decidable (NoWrap s s') :=
  inferInstanceAs (Decidable (_ ∧ _))

/-- The state after a list of calls. -/
def run (s : DaemonState P) : List (Op P) → DaemonState P
  | [] => s
  | o :: os => run (o.apply s) os

/-- A run of allowed calls in which no counter wraps. -/
def GoodRun : DaemonState P → List (Op P) → Prop
  | _, [] => True
  | s, o :: os => o.Allowed s ∧ NoWrap s (o.apply s) ∧ GoodRun (o.apply s) os

instance decGoodRun : (s : DaemonState P) → (os : List (Op P)) → Decidable (GoodRun s os)
  | _, [] => isTrue trivial
  | s, o :: os =>
    have := decGoodRun (o.apply s) os
    inferInstanceAs (Decidable (_ ∧ _ ∧ _))

theorem run_append (s : DaemonState P) (a b : List (Op P)) : run s (a ++ b) = run (run s a) b := by
  induction a generalizing s with
  | nil => rfl
  | cons o os ih => exact ih _

/-! ## The invariant over runs -/

/-- Every allowed call that wraps no counter keeps the invariant. -/
theorem registry_apply {s : DaemonState P} (h : Registry s) {o : Op P} (ho : o.Allowed s)
    (hw : NoWrap s (o.apply s)) : Registry (o.apply s) := by
  cases o with
  | register => exact registry_registerClient h hw.2
  | unregister c => exact registry_unregisterClient h c
  | add c path mask recursive => exact registry_addWatch h ho path mask recursive hw.1
  | remove c wd => exact registry_removeWatch h ho wd

theorem registry_run {s : DaemonState P} (h : Registry s) {os : List (Op P)}
    (hr : GoodRun s os) : Registry (run s os) := by
  induction os generalizing s with
  | nil => exact h
  | cons o os ih => exact ih (registry_apply h hr.1 hr.2.1) hr.2.2

theorem registry_invariant (ops : List (Op P)) (h : GoodRun DaemonState.new ops) :
    Registry (run DaemonState.new ops) :=
  registry_run registry_new h

/-- The states that `handle_client`'s calls reach from `DaemonState::new` while no
counter wraps. -/
def Reachable (s : DaemonState P) : Prop :=
  ∃ ops, GoodRun DaemonState.new ops ∧ run DaemonState.new ops = s

theorem Reachable.registry {s : DaemonState P} (h : Reachable s) : Registry s := by
  obtain ⟨ops, hg, rfl⟩ := h
  exact registry_run registry_new hg

theorem GoodRun.append {s : DaemonState P} {a b : List (Op P)} (ha : GoodRun s a)
    (hb : GoodRun (run s a) b) : GoodRun s (a ++ b) := by
  induction a generalizing s with
  | nil => exact hb
  | cons o os ih => exact ⟨ha.1, ha.2.1, ih ha.2.2 hb⟩

/-- A good run from a reachable state ends in a reachable state. -/
theorem Reachable.run {s : DaemonState P} (h : Reachable s) {os : List (Op P)}
    (hr : GoodRun s os) : Reachable (run s os) := by
  obtain ⟨ops, hg, rfl⟩ := h
  exact ⟨ops ++ os, hg.append hr, run_append _ _ _⟩

/-- Two clients share a path; one removes its watch, the other disconnects. -/
def sharedRun : List (Op Nat) :=
  [.register, .add 1 7 2 true, .register, .add 2 7 4 true, .add 2 8 1 true, .remove 1 1,
    .unregister 2]

theorem registry_invariant_sharedRun :
    GoodRun DaemonState.new sharedRun ∧ Registry (run DaemonState.new sharedRun) :=
  ⟨by decide, registry_invariant sharedRun (by decide)⟩

/-! ## `next_wd` wraps -/

/-- Client 1 registers and adds `k` watches, on the paths `0, ..., k - 1`. -/
def creations (k : Nat) : List (Op Nat) :=
  .register :: (List.range k).map fun i => .add 1 i 0 true

/-- After `creations k` every path from `k` on is free, client 1 is registered, and
`next_wd` is `k + 1` modulo `2^32`. -/
theorem run_creations (k : Nat) :
    (∀ p, k ≤ p → (run DaemonState.new (creations k)).path_to_wd p = none) ∧
    ((run DaemonState.new (creations k)).clients 1).isSome ∧
    (run DaemonState.new (creations k)).next_wd = BitVec.ofNat 32 (k + 1) := by
  induction k with
  | zero => exact ⟨fun _ _ => rfl, rfl, rfl⟩
  | succ k ih =>
    obtain ⟨hp, hc, hn⟩ := ih
    have hrun : run DaemonState.new (creations (k + 1)) =
        (createWatch (run DaemonState.new (creations k)) 1 k 0 true).1 := by
      rw [creations, List.range_succ, List.map_append, ← List.cons_append, run_append]
      exact addWatch_of_none (hp k le_rfl) ▸ rfl
    rw [hrun]
    refine ⟨fun p hkp => ?_, ?_, ?_⟩
    · simp only [createWatch, Function.update_noteq (show p ≠ k by omega), hp p (by omega)]
    · simpa [createWatch, clientAddWatch_apply] using hc
    · show _ + 1 = _
      rw [hn]
      apply BitVec.eq_of_toNat_eq
      simp [BitVec.toNat_add, Nat.add_mod]

/-- The watch created after `2^31 - 1` others gets the descriptor `-2^31`, below 1 and
below every earlier one. -/
theorem addWatch_wd_wraps :
    (run DaemonState.new (creations (2 ^ 31 - 1))).path_to_wd (2 ^ 31 - 1) = none ∧
    (addWatch (run DaemonState.new (creations (2 ^ 31 - 1))) 1 (2 ^ 31 - 1) 0 true).2.toInt =
      -2 ^ 31 := by
  have h := run_creations (2 ^ 31 - 1)
  refine ⟨h.1 _ le_rfl, ?_⟩
  rw [addWatch_of_none (h.1 _ le_rfl), createWatch_wd, h.2.2]
  rfl

end fakenotify.state
