-- The daemon's registry (`state.rs`): clients, watches, and the map from paths
-- to watch descriptors. The locks of `DaemonState` make each method one atomic
-- step, so each is a function from the state before to the state after.
import Mathlib.Algebra.Group.Int
import Mathlib.Algebra.Group.Nat.Basic
import Mathlib.Logic.Function.Basic
import Mathlib.Data.List.Basic

namespace fakenotify.state

/-- `ClientId`, a `u64`. -/
abbrev ClientId := BitVec 64

/-- `WatchDescriptor`, an `i32`: its value is `toInt`. -/
abbrev WatchDescriptor := BitVec 32

/-- `EventMask`, the kernel's `u32` mask bits. -/
abbrev EventMask := BitVec 32

/-- `WatchInfo`. `P` is the type of paths as the registry compares them. -/
structure WatchInfo (P : Type) where
  wd : WatchDescriptor
  path : P
  mask : EventMask
  recursive : Bool
  clients : List ClientId
deriving DecidableEq

/-- `DaemonState`. A client is its list of watches: its id is its key, and its writer
belongs to the connection, not to the registry. -/
structure DaemonState (P : Type) where
  clients : ClientId → Option (List WatchDescriptor)
  watches : WatchDescriptor → Option (WatchInfo P)
  path_to_wd : P → Option WatchDescriptor
  next_client_id : ClientId
  next_wd : WatchDescriptor

variable {P : Type} [DecidableEq P]

open Function

/-- `DaemonState::new`. -/
def DaemonState.new : DaemonState P where
  clients := fun _ => none
  watches := fun _ => none
  path_to_wd := fun _ => none
  next_client_id := 1
  next_wd := 1

/-! ## The client's own list -/

/-- `client.add_watch(wd)` on the client `c`, when `clients.get(&c)` finds it. -/
def clientAddWatch (clients : ClientId → Option (List WatchDescriptor)) (c : ClientId)
    (wd : WatchDescriptor) : ClientId → Option (List WatchDescriptor) :=
  match clients c with
  | some ws => update clients c (some (ws ++ [wd]))
  | none => clients

/-- `client.remove_watch(wd)`, a `retain` of every other descriptor. -/
def clientRemoveWatch (clients : ClientId → Option (List WatchDescriptor)) (c : ClientId)
    (wd : WatchDescriptor) : ClientId → Option (List WatchDescriptor) :=
  match clients c with
  | some ws => update clients c (some (ws.filter (· ≠ wd)))
  | none => clients

/-! ## The operations -/

/-- `DaemonState::register_client`: the next id, with no watches. -/
def registerClient (s : DaemonState P) : DaemonState P × ClientId :=
  ({ s with
      clients := update s.clients s.next_client_id (some [])
      next_client_id := s.next_client_id + 1 }, s.next_client_id)

/-- `watch.clients.retain(|&c| c != client_id)` on the watch `w` at `wd`, and when no
client is left, the removal of the watch and of its path. `remove_watch` and
`unregister_client` both run this code. -/
def retainClient (s : DaemonState P) (c : ClientId) (wd : WatchDescriptor) (w : WatchInfo P) :
    DaemonState P :=
  let rest := w.clients.filter (· ≠ c)
  if rest.isEmpty then
    { s with
        watches := update s.watches wd none
        path_to_wd := update s.path_to_wd w.path none }
  else { s with watches := update s.watches wd (some { w with clients := rest }) }

/-- One turn of the loop of `unregister_client`: drop the client from the watch `wd`, if
the watch is live. -/
def dropFromWatch (c : ClientId) (s : DaemonState P) (wd : WatchDescriptor) : DaemonState P :=
  match s.watches wd with
  | some w => retainClient s c wd w
  | none => s

/-- `DaemonState::unregister_client`: drop the client from each watch of its own list,
then forget the client. An unknown client changes nothing. -/
def unregisterClient (s : DaemonState P) (c : ClientId) : DaemonState P :=
  match s.clients c with
  | some ws =>
    let s' := ws.foldl (dropFromWatch c) s
    { s' with clients := update s'.clients c none }
  | none => s

/-- The existing branch of `add_watch`: join the watch `w` at `wd` (once), merge the
mask, and record `wd` in the client's list. -/
def joinWatch (s : DaemonState P) (c : ClientId) (wd : WatchDescriptor) (w : WatchInfo P)
    (mask : EventMask) : DaemonState P × WatchDescriptor :=
  let w' := { w with
    clients := if c ∈ w.clients then w.clients else w.clients ++ [c]
    mask := w.mask ||| mask }
  ({ s with
      watches := update s.watches wd (some w')
      clients := clientAddWatch s.clients c wd }, wd)

/-- The new branch of `add_watch`: `next_wd.fetch_add(1)`, a watch with the client alone,
both tables, and the client's list. -/
def createWatch (s : DaemonState P) (c : ClientId) (path : P) (mask : EventMask)
    (recursive : Bool) : DaemonState P × WatchDescriptor :=
  let wd := s.next_wd
  ({ s with
      next_wd := wd + 1
      watches := update s.watches wd (some ⟨wd, path, mask, recursive, [c]⟩)
      path_to_wd := update s.path_to_wd path (some wd)
      clients := clientAddWatch s.clients c wd }, wd)

/-- `DaemonState::add_watch`: join the watch of `path` if there is a live one, else
create one. Returns the descriptor. -/
def addWatch (s : DaemonState P) (c : ClientId) (path : P) (mask : EventMask)
    (recursive : Bool) : DaemonState P × WatchDescriptor :=
  match s.path_to_wd path with
  | some wd =>
    match s.watches wd with
    | some w => joinWatch s c wd w mask
    | none => createWatch s c path mask recursive
  | none => createWatch s c path mask recursive

/-- A new watch gets the descriptor `next_wd` held before the call. -/
@[simp] theorem createWatch_wd (s : DaemonState P) (c : ClientId) (path : P) (mask : EventMask)
    (recursive : Bool) : (createWatch s c path mask recursive).2 = s.next_wd := rfl

theorem addWatch_of_live {s : DaemonState P} {c : ClientId} {path : P} {mask : EventMask}
    {recursive : Bool} {wd : WatchDescriptor} {w : WatchInfo P} (hp : s.path_to_wd path = some wd)
    (hw : s.watches wd = some w) : addWatch s c path mask recursive = joinWatch s c wd w mask := by
  simp [addWatch, hp, hw]

theorem addWatch_of_none {s : DaemonState P} {c : ClientId} {path : P} {mask : EventMask}
    {recursive : Bool} (hp : s.path_to_wd path = none) :
    addWatch s c path mask recursive = createWatch s c path mask recursive := by
  simp [addWatch, hp]

/-- `DaemonState::remove_watch`: `true` when the watch exists. The client is dropped from
it and it from the client, and a watch left without clients goes. -/
def removeWatch (s : DaemonState P) (c : ClientId) (wd : WatchDescriptor) :
    DaemonState P × Bool :=
  match s.watches wd with
  | some w => (retainClient { s with clients := clientRemoveWatch s.clients c wd } c wd w, true)
  | none => (s, false)

theorem removeWatch_of_live {s : DaemonState P} {c : ClientId} {wd : WatchDescriptor}
    {w : WatchInfo P} (hw : s.watches wd = some w) :
    removeWatch s c wd =
      (retainClient { s with clients := clientRemoveWatch s.clients c wd } c wd w, true) := by
  simp [removeWatch, hw]

theorem removeWatch_of_none {s : DaemonState P} {c : ClientId} {wd : WatchDescriptor}
    (hw : s.watches wd = none) : removeWatch s c wd = (s, false) := by
  simp [removeWatch, hw]

/-- `DaemonState::get_clients_for_watch`: the subscribers that are still registered, in
the watch's order (the model returns their ids, the code their handles). -/
def getClientsForWatch (s : DaemonState P) (wd : WatchDescriptor) : List ClientId :=
  match s.watches wd with
  | some w => w.clients.filter fun c => (s.clients c).isSome
  | none => []

/-! ## What each operation does to each table -/

theorem clientAddWatch_apply (cl : ClientId → Option (List WatchDescriptor)) (c c' : ClientId)
    (wd : WatchDescriptor) :
    clientAddWatch cl c wd c' = if c' = c then (cl c).map (· ++ [wd]) else cl c' := by
  unfold clientAddWatch
  cases h : cl c <;> by_cases hc : c' = c <;> simp_all [update_apply]

theorem clientRemoveWatch_apply (cl : ClientId → Option (List WatchDescriptor)) (c c' : ClientId)
    (wd : WatchDescriptor) :
    clientRemoveWatch cl c wd c' = if c' = c then (cl c).map (·.filter (· ≠ wd)) else cl c' := by
  unfold clientRemoveWatch
  cases h : cl c <;> by_cases hc : c' = c <;> simp_all [update_apply]

/-- What dropping the client `c` leaves of the entry of one descriptor. -/
def dropEntry (c : ClientId) : Option (WatchInfo P) → Option (WatchInfo P)
  | some w =>
    if (w.clients.filter (· ≠ c)).isEmpty then none
    else some { w with clients := w.clients.filter (· ≠ c) }
  | none => none

omit [DecidableEq P] in
theorem dropEntry_idem (c : ClientId) (x : Option (WatchInfo P)) :
    dropEntry c (dropEntry c x) = dropEntry c x := by
  rcases x with _ | w
  · rfl
  · have hF : (w.clients.filter (· ≠ c)).filter (· ≠ c) = w.clients.filter (· ≠ c) := by
      rw [List.filter_filter]; simp
    by_cases h : (w.clients.filter (· ≠ c)).isEmpty
    · simp only [dropEntry, h, if_true]
    · simp only [dropEntry, h, Bool.false_eq_true, if_false, hF]

omit [DecidableEq P] in
/-- A watch that `dropEntry` keeps is the old one with its other clients. -/
theorem dropEntry_eq_some {c : ClientId} {x : Option (WatchInfo P)} {w' : WatchInfo P}
    (h : dropEntry c x = some w') :
    ∃ w, x = some w ∧ w' = { w with clients := w.clients.filter (· ≠ c) } ∧
      w.clients.filter (· ≠ c) ≠ [] := by
  rcases x with _ | w
  · cases h
  · by_cases he : (w.clients.filter (· ≠ c)).isEmpty
    · simp only [dropEntry, he, if_true] at h
      cases h
    · simp only [dropEntry, he, Bool.false_eq_true, if_false, Option.some.injEq] at h
      exact ⟨w, rfl, h.symm, by simpa using he⟩

theorem retainClient_watches (s : DaemonState P) (c : ClientId) (wd : WatchDescriptor)
    (w : WatchInfo P) :
    (retainClient s c wd w).watches = update s.watches wd (dropEntry c (some w)) := by
  by_cases h : (w.clients.filter (· ≠ c)).isEmpty <;> simp only [retainClient, dropEntry, h] <;> rfl

theorem retainClient_path_to_wd (s : DaemonState P) (c : ClientId) (wd : WatchDescriptor)
    (w : WatchInfo P) :
    (retainClient s c wd w).path_to_wd =
      if dropEntry c (some w) = none then update s.path_to_wd w.path none else s.path_to_wd := by
  by_cases h : (w.clients.filter (· ≠ c)).isEmpty <;> simp only [retainClient, dropEntry, h] <;> rfl

@[simp] theorem retainClient_clients (s : DaemonState P) (c : ClientId) (wd : WatchDescriptor)
    (w : WatchInfo P) : (retainClient s c wd w).clients = s.clients := by
  by_cases h : (w.clients.filter (· ≠ c)).isEmpty <;> simp only [retainClient, h] <;> rfl

@[simp] theorem retainClient_next_wd (s : DaemonState P) (c : ClientId) (wd : WatchDescriptor)
    (w : WatchInfo P) : (retainClient s c wd w).next_wd = s.next_wd := by
  by_cases h : (w.clients.filter (· ≠ c)).isEmpty <;> simp only [retainClient, h] <;> rfl

@[simp] theorem retainClient_next_client_id (s : DaemonState P) (c : ClientId)
    (wd : WatchDescriptor) (w : WatchInfo P) :
    (retainClient s c wd w).next_client_id = s.next_client_id := by
  by_cases h : (w.clients.filter (· ≠ c)).isEmpty <;> simp only [retainClient, h] <;> rfl

theorem dropFromWatch_watches (c : ClientId) (s : DaemonState P) (wd : WatchDescriptor) :
    (dropFromWatch c s wd).watches = update s.watches wd (dropEntry c (s.watches wd)) := by
  unfold dropFromWatch
  split
  · next w h => rw [retainClient_watches, h]
  · next h => funext x; by_cases hx : x = wd <;> simp [update_apply, hx, h, dropEntry]

/-- The loop of `unregister_client` drops the client from each descriptor of the list,
once or more. -/
theorem foldl_dropFromWatch_watches (c : ClientId) (ws : List WatchDescriptor)
    (s : DaemonState P) (wd : WatchDescriptor) :
    (ws.foldl (dropFromWatch c) s).watches wd =
      if wd ∈ ws then dropEntry c (s.watches wd) else s.watches wd := by
  induction ws generalizing s with
  | nil => simp
  | cons x ws ih =>
    rw [List.foldl_cons, ih, dropFromWatch_watches]
    by_cases hx : wd = x
    · subst hx; simp [dropEntry_idem]
    · simp [update_apply, hx]

@[simp] theorem foldl_dropFromWatch_clients (c : ClientId) (ws : List WatchDescriptor)
    (s : DaemonState P) : (ws.foldl (dropFromWatch c) s).clients = s.clients := by
  induction ws generalizing s with
  | nil => rfl
  | cons x ws ih => rw [List.foldl_cons, ih]; unfold dropFromWatch; split <;> simp

@[simp] theorem foldl_dropFromWatch_next_wd (c : ClientId) (ws : List WatchDescriptor)
    (s : DaemonState P) : (ws.foldl (dropFromWatch c) s).next_wd = s.next_wd := by
  induction ws generalizing s with
  | nil => rfl
  | cons x ws ih => rw [List.foldl_cons, ih]; unfold dropFromWatch; split <;> simp

@[simp] theorem foldl_dropFromWatch_next_client_id (c : ClientId) (ws : List WatchDescriptor)
    (s : DaemonState P) : (ws.foldl (dropFromWatch c) s).next_client_id = s.next_client_id := by
  induction ws generalizing s with
  | nil => rfl
  | cons x ws ih => rw [List.foldl_cons, ih]; unfold dropFromWatch; split <;> simp

/-- `unregister_client` hands out no id. -/
@[simp] theorem unregisterClient_next_client_id (s : DaemonState P) (c : ClientId) :
    (unregisterClient s c).next_client_id = s.next_client_id := by
  unfold unregisterClient; split <;> simp

@[simp] theorem unregisterClient_next_wd (s : DaemonState P) (c : ClientId) :
    (unregisterClient s c).next_wd = s.next_wd := by
  unfold unregisterClient; split <;> simp

/-! ## The clients table and `next_wd`, call by call -/

section
variable {s : DaemonState P} {c x : ClientId}

omit [DecidableEq P] in
theorem registerClient_clients_isSome :
    ((registerClient s).1.clients x).isSome ↔ x = s.next_client_id ∨ (s.clients x).isSome := by
  by_cases hx : x = s.next_client_id <;> simp [registerClient, update_apply, hx]

theorem unregisterClient_clients (s : DaemonState P) (c x : ClientId) :
    (unregisterClient s c).clients x = if x = c then none else s.clients x := by
  unfold unregisterClient
  cases hc : s.clients c with
  | none => by_cases hx : x = c <;> simp [hx, hc]
  | some ws => simp [update_apply]

@[simp] theorem clientAddWatch_isSome (cl : ClientId → Option (List WatchDescriptor))
    (wd : WatchDescriptor) : (clientAddWatch cl c wd x).isSome = (cl x).isSome := by
  rw [clientAddWatch_apply]; split <;> simp_all

@[simp] theorem clientRemoveWatch_isSome (cl : ClientId → Option (List WatchDescriptor))
    (wd : WatchDescriptor) : (clientRemoveWatch cl c wd x).isSome = (cl x).isSome := by
  rw [clientRemoveWatch_apply]; split <;> simp_all

theorem addWatch_clients_isSome (path : P) (mask : EventMask) (recursive : Bool) :
    ((addWatch s c path mask recursive).1.clients x).isSome = (s.clients x).isSome := by
  simp only [addWatch]
  split
  · split <;> simp [joinWatch, createWatch]
  · simp [createWatch]

theorem removeWatch_clients_isSome (wd : WatchDescriptor) :
    ((removeWatch s c wd).1.clients x).isSome = (s.clients x).isSome := by
  simp only [removeWatch]
  split <;> simp

/-- `add_watch` touches only its own client's list. -/
theorem addWatch_clients_ne (hx : x ≠ c) (path : P) (mask : EventMask)
    (recursive : Bool) : (addWatch s c path mask recursive).1.clients x = s.clients x := by
  simp only [addWatch]
  split
  · split <;> simp [joinWatch, createWatch, clientAddWatch_apply, hx]
  · simp [createWatch, clientAddWatch_apply, hx]

/-- `add_watch` advances `next_wd` by one at most. -/
theorem addWatch_next_wd (c : ClientId) (path : P) (mask : EventMask) (recursive : Bool) :
    (addWatch s c path mask recursive).1.next_wd = s.next_wd ∨
      (addWatch s c path mask recursive).1.next_wd = s.next_wd + 1 := by
  simp only [addWatch]
  split
  · split
    · exact .inl rfl
    · exact .inr rfl
  · exact .inr rfl

end

end fakenotify.state
