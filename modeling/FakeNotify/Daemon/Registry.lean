-- The registry invariant of `state.rs`. Every state that `DaemonState::new`
-- reaches by the operations of `handle_client`, while no counter wraps, keeps
-- the two tables and the clients' own lists in step. Each operation keeps it.
import FakeNotify.Daemon.State
import Mathlib.Data.List.Nodup

namespace fakenotify.state

open Function

variable {P : Type}

/-! ## Who watches what -/

/-- `c` is a subscriber of the live watch `wd`. -/
def Subscribed (s : DaemonState P) (c : ClientId) (wd : WatchDescriptor) : Prop :=
  ∃ w, s.watches wd = some w ∧ c ∈ w.clients

/-- `wd` is in the list of the registered client `c`. -/
def Listed (s : DaemonState P) (c : ClientId) (wd : WatchDescriptor) : Prop :=
  ∃ ws, s.clients c = some ws ∧ wd ∈ ws

theorem subscribed_of_watches {s s' : DaemonState P} {wd : WatchDescriptor}
    {x : Option (WatchInfo P)} (h : s'.watches = update s.watches wd x) (c' : ClientId)
    (wd' : WatchDescriptor) :
    Subscribed s' c' wd' ↔ if wd' = wd then ∃ w, x = some w ∧ c' ∈ w.clients
      else Subscribed s c' wd' := by
  by_cases hw : wd' = wd
  · subst hw; simp [Subscribed, h]
  · simp [Subscribed, h, hw]

theorem listed_of_clients {s s' : DaemonState P} {c : ClientId} {x : Option (List WatchDescriptor)}
    (h : s'.clients = update s.clients c x) (c' : ClientId) (wd' : WatchDescriptor) :
    Listed s' c' wd' ↔ if c' = c then ∃ ws, x = some ws ∧ wd' ∈ ws else Listed s c' wd' := by
  by_cases hc : c' = c
  · subst hc; simp [Listed, h]
  · simp [Listed, h, hc]

theorem mem_dropEntry {c c' : ClientId} {x : Option (WatchInfo P)} :
    (∃ w', dropEntry c x = some w' ∧ c' ∈ w'.clients) ↔ c' ≠ c ∧ ∃ w, x = some w ∧ c' ∈ w.clients := by
  constructor
  · rintro ⟨w', hd, hm⟩
    obtain ⟨w, rfl, rfl, -⟩ := dropEntry_eq_some hd
    simp only [List.mem_filter, decide_eq_true_eq] at hm
    exact ⟨hm.2, w, rfl, hm.1⟩
  · rintro ⟨hne, w, rfl, hm⟩
    have hf : c' ∈ w.clients.filter (· ≠ c) := by simp [hm, hne]
    have he : (w.clients.filter (· ≠ c)).isEmpty = false := by
      cases hl : w.clients.filter (· ≠ c) with
      | nil => rw [hl] at hf; cases hf
      | cons _ _ => rfl
    exact ⟨{ w with clients := w.clients.filter (· ≠ c) },
      by simp only [dropEntry, he, Bool.false_eq_true, if_false], hf⟩

/-- A client that is not among a watch's clients leaves it as it is. -/
theorem dropEntry_of_not_mem {c : ClientId} {w : WatchInfo P} (hne : w.clients ≠ [])
    (hc : c ∉ w.clients) : dropEntry c (some w) = some w := by
  have hf : w.clients.filter (· ≠ c) = w.clients :=
    List.filter_eq_self.mpr fun a ha => decide_eq_true fun h => hc (h ▸ ha)
  have he : w.clients.isEmpty = false := by
    cases hl : w.clients with
    | nil => exact absurd hl hne
    | cons _ _ => rfl
  simp only [dropEntry, hf, he, Bool.false_eq_true, if_false]

/-! ## The invariant -/

/-- (a) and (b): live watches and the keys of `path_to_wd` match one to one. -/
structure Paired (s : DaemonState P) : Prop where
  watch_wd : ∀ wd w, s.watches wd = some w → w.wd = wd ∧ s.path_to_wd w.path = some wd
  path_watch : ∀ p wd, s.path_to_wd p = some wd → ∃ w, s.watches wd = some w ∧ w.path = p

/-- The registry invariant: (a) and (b) of `Paired`; (c) every watch has a client and
none twice; (d) a client subscribes to a watch iff the watch is in its list; (e) every
live or listed descriptor lies in `[1, next_wd)`. The last field keeps
`register_client` from reusing an id. -/
structure Registry (s : DaemonState P) extends Paired s : Prop where
  clients_ne_nil : ∀ wd w, s.watches wd = some w → w.clients ≠ []
  clients_nodup : ∀ wd w, s.watches wd = some w → w.clients.Nodup
  subscribed_iff : ∀ c wd, Subscribed s c wd ↔ Listed s c wd
  watch_range : ∀ wd w, s.watches wd = some w → 1 ≤ wd.toInt ∧ wd.toInt < s.next_wd.toInt
  listed_range : ∀ c wd, Listed s c wd → 1 ≤ wd.toInt ∧ wd.toInt < s.next_wd.toInt
  next_wd_pos : 1 ≤ s.next_wd.toInt
  client_range : ∀ c ws, s.clients c = some ws → c.toNat < s.next_client_id.toNat

theorem listed_range_of {s : DaemonState P} (hsub : ∀ c wd, Subscribed s c wd ↔ Listed s c wd)
    (hw : ∀ wd w, s.watches wd = some w → 1 ≤ wd.toInt ∧ wd.toInt < s.next_wd.toInt)
    (c : ClientId) (wd : WatchDescriptor) (hl : Listed s c wd) :
    1 ≤ wd.toInt ∧ wd.toInt < s.next_wd.toInt :=
  let ⟨w, hw', _⟩ := (hsub c wd).mpr hl
  hw wd w hw'

theorem registry_new : Registry (DaemonState.new : DaemonState P) where
  watch_wd := by simp [DaemonState.new]
  path_watch := by simp [DaemonState.new]
  clients_ne_nil := by simp [DaemonState.new]
  clients_nodup := by simp [DaemonState.new]
  subscribed_iff := by simp [Subscribed, Listed, DaemonState.new]
  watch_range := by simp [DaemonState.new]
  listed_range := by simp [Listed, DaemonState.new]
  next_wd_pos := show 1 ≤ (1 : BitVec 32).toInt by decide
  client_range := by simp [DaemonState.new]

/-! ## Counters that do not wrap -/

/-- `fetch_add(1)` on an unsigned counter below its maximum does not wrap. -/
theorem toNat_add_one {n : Nat} {x : BitVec (n + 1)} (h : x.toNat + 1 < 2 ^ (n + 1)) :
    (x + 1).toNat = x.toNat + 1 := by
  rw [BitVec.toNat_add, BitVec.ofNat_eq_ofNat, BitVec.toNat_ofNat, Nat.one_mod_two_pow (by omega),
    Nat.mod_eq_of_lt h]

/-- A step of `fetch_add(1)` on an unsigned counter (`next_client_id`, `COOKIE_COUNTER`)
that did not go down did not wrap. -/
theorem toNat_succ {n : Nat} {x : BitVec (n + 1)} (h : x.toNat ≤ (x + 1).toNat) :
    (x + 1).toNat = x.toNat + 1 := by
  refine toNat_add_one (lt_of_le_of_ne x.isLt fun he => ?_)
  rw [BitVec.toNat_add, BitVec.ofNat_eq_ofNat, BitVec.toNat_ofNat, Nat.one_mod_two_pow (by omega),
    he, Nat.mod_self] at h
  have : 2 ≤ 2 ^ (n + 1) := Nat.le_self_pow (by omega) 2
  omega

/-- `next_wd.fetch_add(1)` below `i32::MAX` does not wrap. -/
theorem toInt_add_one {x : BitVec 32} (h : x.toInt < 2 ^ 31 - 1) : (x + 1).toInt = x.toInt + 1 := by
  have h1 : (x + 1).toNat = (x.toNat + 1) % 2 ^ 32 := by
    rw [BitVec.toNat_add]; rfl
  have hx := x.isLt
  rw [BitVec.toInt_eq_toNat_cond, BitVec.toInt_eq_toNat_cond, h1] at *
  split_ifs at * <;> omega

/-- A step of `next_wd.fetch_add(1)` that did not go down did not wrap past `i32::MAX`. -/
theorem toInt_succ {x : BitVec 32} (h : x.toInt ≤ (x + 1).toInt) : (x + 1).toInt = x.toInt + 1 := by
  refine toInt_add_one (lt_of_not_le fun hx => ?_)
  -- only `i32::MAX` is left, and it steps to `i32::MIN`
  have hmax : x.toNat = 2 ^ 31 - 1 := by
    have := x.isLt
    rw [BitVec.toInt_eq_toNat_cond] at hx
    split_ifs at hx <;> omega
  obtain rfl : x = 0x7FFFFFFF#32 := BitVec.eq_of_toNat_eq hmax
  revert h; decide

/-! ## The two tables stay paired -/

variable [DecidableEq P]

/-- Removing a live watch together with its path keeps the tables paired. -/
theorem Paired.remove {s s' : DaemonState P} (h : Paired s) {wd : WatchDescriptor}
    {w : WatchInfo P} (hw : s.watches wd = some w) (hW : s'.watches = update s.watches wd none)
    (hP : s'.path_to_wd = update s.path_to_wd w.path none) : Paired s' where
  watch_wd wd' w' hw' := by
    have hne : wd' ≠ wd := by rintro rfl; simp [hW] at hw'
    rw [hW, update_noteq hne] at hw'
    obtain ⟨h1, h2⟩ := h.watch_wd wd' w' hw'
    have hpath : w'.path ≠ w.path := fun he => hne (by
      have := (h.watch_wd wd w hw).2
      rw [← he, h2] at this
      exact Option.some.inj this)
    exact ⟨h1, by rw [hP, update_noteq hpath, h2]⟩
  path_watch p' wd' hp' := by
    have hne : p' ≠ w.path := by rintro rfl; simp [hP] at hp'
    rw [hP, update_noteq hne] at hp'
    obtain ⟨w', hw', rfl⟩ := h.path_watch p' wd' hp'
    have hwd : wd' ≠ wd := by rintro rfl; rw [hw] at hw'; cases hw'; exact hne rfl
    exact ⟨w', by rw [hW, update_noteq hwd, hw'], rfl⟩

omit [DecidableEq P] in
/-- Pairing reads only the two tables. -/
theorem Paired.of_tables {s s' : DaemonState P} (h : Paired s) (hW : s'.watches = s.watches)
    (hP : s'.path_to_wd = s.path_to_wd) : Paired s' where
  watch_wd := by rw [hW, hP]; exact h.watch_wd
  path_watch := by rw [hW, hP]; exact h.path_watch

omit [DecidableEq P] in
/-- Replacing a live watch by one with the same descriptor and path keeps the tables
paired. -/
theorem Paired.replace {s s' : DaemonState P} (h : Paired s) {wd : WatchDescriptor}
    {w w' : WatchInfo P} (hw : s.watches wd = some w) (hW : s'.watches = update s.watches wd (some w'))
    (hwd : w'.wd = w.wd) (hp : w'.path = w.path) (hP : s'.path_to_wd = s.path_to_wd) :
    Paired s' where
  watch_wd wd' w'' hw'' := by
    rw [hW, update_apply] at hw''
    rw [hP]
    split at hw''
    · next he => subst he; cases hw''; rw [hwd, hp]; exact h.watch_wd _ w hw
    · exact h.watch_wd wd' w'' hw''
  path_watch p' wd' hp' := by
    rw [hP] at hp'
    obtain ⟨w'', hw'', rfl⟩ := h.path_watch p' wd' hp'
    by_cases he : wd' = wd
    · subst he; rw [hw] at hw''; cases hw''
      exact ⟨w', by rw [hW, update_same], hp⟩
    · exact ⟨w'', by rw [hW, update_noteq he, hw''], rfl⟩

/-- Adding a watch under a free descriptor and a free path keeps the tables paired. -/
theorem Paired.insert {s s' : DaemonState P} (h : Paired s) {n : WatchDescriptor} {p : P}
    {w' : WatchInfo P} (hn : s.watches n = none) (hp : s.path_to_wd p = none)
    (hW : s'.watches = update s.watches n (some w')) (hwd : w'.wd = n) (hpath : w'.path = p)
    (hP : s'.path_to_wd = update s.path_to_wd p (some n)) : Paired s' where
  watch_wd wd' w'' hw'' := by
    rw [hW, update_apply] at hw''
    rw [hP]
    split at hw''
    · next he => subst he; cases hw''; exact ⟨hwd, by rw [hpath, update_same]⟩
    · next hne =>
      obtain ⟨h1, h2⟩ := h.watch_wd wd' w'' hw''
      have hpp : w''.path ≠ p := by rintro rfl; rw [hp] at h2; cases h2
      exact ⟨h1, by rw [update_noteq hpp, h2]⟩
  path_watch p' wd' hp' := by
    rw [hP, update_apply] at hp'
    split at hp'
    · next he => subst he; cases hp'; exact ⟨w', by rw [hW, update_same], hpath⟩
    · obtain ⟨w'', hw'', rfl⟩ := h.path_watch p' wd' hp'
      have hne : wd' ≠ n := by rintro rfl; rw [hn] at hw''; cases hw''
      exact ⟨w'', by rw [hW, update_noteq hne, hw''], rfl⟩

theorem Paired.retain {s : DaemonState P} (h : Paired s) {c : ClientId}
    {wd : WatchDescriptor} {w : WatchInfo P} (hw : s.watches wd = some w) :
    Paired (retainClient s c wd w) := by
  cases hd : dropEntry c (some w) with
  | none =>
    exact h.remove hw (by rw [retainClient_watches, hd])
      (by rw [retainClient_path_to_wd, hd, if_pos rfl])
  | some w' =>
    obtain ⟨_, he, rfl, -⟩ := dropEntry_eq_some hd
    cases he
    have hW : (retainClient s c wd w).watches =
        update s.watches wd (some { w with clients := w.clients.filter (· ≠ c) }) := by
      rw [retainClient_watches, hd]
    exact h.replace hw hW rfl rfl (by rw [retainClient_path_to_wd, hd]; rfl)

theorem Paired.foldl_dropFromWatch {s : DaemonState P} (h : Paired s) (c : ClientId)
    (ws : List WatchDescriptor) : Paired (ws.foldl (dropFromWatch c) s) := by
  induction ws generalizing s with
  | nil => exact h
  | cons wd ws ih =>
    apply ih
    unfold dropFromWatch
    split
    · next w hw => exact h.retain hw
    · exact h

/-! ## Joining and leaving watches -/

omit [DecidableEq P] in
theorem subscribed_iff_mem {s : DaemonState P} {wd : WatchDescriptor} {w : WatchInfo P}
    (hw : s.watches wd = some w) (c : ClientId) : Subscribed s c wd ↔ c ∈ w.clients := by
  simp [Subscribed, hw]

/-- An entry of an updated map is the new value or an old entry. -/
theorem update_eq_some {α β : Type} [DecidableEq α] {f : α → Option β} {a a' : α} {b b' : β}
    (h : update f a (some b) a' = some b') : (a' = a ∧ b' = b) ∨ (a' ≠ a ∧ f a' = some b') := by
  by_cases he : a' = a
  · subst he
    rw [update_same, Option.some.injEq] at h
    exact .inl ⟨rfl, h.symm⟩
  · exact .inr ⟨he, by rwa [update_noteq he] at h⟩

omit [DecidableEq P] in
/-- A step in which the registered client `c` joins the watch at `wd`, in the watch's
list and in its own, keeps the invariant. Both branches of `add_watch` are such steps. -/
theorem Registry.subscribe {s s' : DaemonState P} (h : Registry s) (hP : Paired s')
    {c : ClientId} {ws : List WatchDescriptor} (hc : s.clients c = some ws)
    {wd : WatchDescriptor} {w' : WatchInfo P} (hW : s'.watches = update s.watches wd (some w'))
    (hC : s'.clients = update s.clients c (some (ws ++ [wd])))
    (hmem : ∀ c', c' ∈ w'.clients ↔ Subscribed s c' wd ∨ c' = c) (hnd : w'.clients.Nodup)
    (hwd : 1 ≤ wd.toInt ∧ wd.toInt < s'.next_wd.toInt)
    (hnext : s.next_wd.toInt ≤ s'.next_wd.toInt) (hid : s'.next_client_id = s.next_client_id) :
    Registry s' := by
  have hsub : ∀ c' wd', Subscribed s' c' wd' ↔ Subscribed s c' wd' ∨ (c' = c ∧ wd' = wd) := by
    intro c' wd'
    rw [subscribed_of_watches hW]
    split
    · next he => subst he; simp [hmem]
    · next he => simp [he]
  have hlst : ∀ c' wd', Listed s' c' wd' ↔ Listed s c' wd' ∨ (c' = c ∧ wd' = wd) := by
    intro c' wd'
    rw [listed_of_clients hC]
    split
    · next he => subst he; simp [Listed, hc]
    · next he => simp [he]
  have hiff : ∀ c' wd', Subscribed s' c' wd' ↔ Listed s' c' wd' := fun c' wd' => by
    rw [hsub, hlst, h.subscribed_iff]
  have hrange : ∀ wd' w'', s'.watches wd' = some w'' →
      1 ≤ wd'.toInt ∧ wd'.toInt < s'.next_wd.toInt := by
    intro wd' w'' hw''
    rcases update_eq_some (hW ▸ hw'') with ⟨rfl, -⟩ | ⟨-, hw''⟩
    · exact hwd
    · have := h.watch_range wd' w'' hw''; omega
  refine ⟨hP, ?_, ?_, hiff, hrange, listed_range_of hiff hrange,
    by have := h.next_wd_pos; omega, ?_⟩
  · intro wd' w'' hw''
    rcases update_eq_some (hW ▸ hw'') with ⟨-, rfl⟩ | ⟨-, hw''⟩
    · exact List.ne_nil_of_mem ((hmem c).2 (.inr rfl))
    · exact h.clients_ne_nil wd' w'' hw''
  · intro wd' w'' hw''
    rcases update_eq_some (hW ▸ hw'') with ⟨-, rfl⟩ | ⟨-, hw''⟩
    · exact hnd
    · exact h.clients_nodup wd' w'' hw''
  · intro c' ws' hc'
    rw [hid]
    rcases update_eq_some (hC ▸ hc') with ⟨rfl, -⟩ | ⟨-, hc'⟩
    · exact h.client_range _ ws hc
    · exact h.client_range c' ws' hc'

omit [DecidableEq P] in
/-- A step in which the client `c` leaves the watches of the descriptors in `D` (each
left without clients goes), and their descriptors leave its list, keeps the invariant.
`remove_watch` is such a step for one descriptor, `unregister_client` for all. -/
theorem Registry.unsubscribe {s s' : DaemonState P} (h : Registry s) (hP : Paired s')
    {c : ClientId} (D : WatchDescriptor → Prop) [DecidablePred D]
    (hW : ∀ wd, s'.watches wd = if D wd then dropEntry c (s.watches wd) else s.watches wd)
    (hL : ∀ c' wd, Listed s' c' wd ↔ Listed s c' wd ∧ ¬(c' = c ∧ D wd))
    (hcl : ∀ c' ws', s'.clients c' = some ws' → ∃ ws, s.clients c' = some ws)
    (hnext : s'.next_wd = s.next_wd) (hid : s'.next_client_id = s.next_client_id) :
    Registry s' := by
  have hkept : ∀ wd w', s'.watches wd = some w' → ∃ w, s.watches wd = some w ∧
      ((w'.clients = w.clients.filter (· ≠ c) ∧ w.clients.filter (· ≠ c) ≠ []) ∨
        w' = w) := by
    intro wd w' hw'
    rw [hW] at hw'
    split at hw'
    · obtain ⟨w, hw, rfl, hne⟩ := dropEntry_eq_some hw'
      exact ⟨w, hw, .inl ⟨rfl, hne⟩⟩
    · exact ⟨w', hw', .inr rfl⟩
  have hsub : ∀ c' wd, Subscribed s' c' wd ↔ Subscribed s c' wd ∧ ¬(c' = c ∧ D wd) := by
    intro c' wd
    simp only [Subscribed, hW]
    split
    · next hd => rw [mem_dropEntry]; simp [hd, and_comm]
    · next hd => simp [hd]
  have hiff : ∀ c' wd, Subscribed s' c' wd ↔ Listed s' c' wd := fun c' wd => by
    rw [hsub, hL, h.subscribed_iff]
  have hrange : ∀ wd w', s'.watches wd = some w' →
      1 ≤ wd.toInt ∧ wd.toInt < s'.next_wd.toInt := fun wd w' hw' => by
    obtain ⟨w, hw, -⟩ := hkept wd w' hw'
    rw [hnext]; exact h.watch_range wd w hw
  refine ⟨hP, ?_, ?_, hiff, hrange, listed_range_of hiff hrange, hnext ▸ h.next_wd_pos, ?_⟩
  · intro wd w' hw'
    obtain ⟨w, hw, ⟨he, hne⟩ | rfl⟩ := hkept wd w' hw'
    · rw [he]; exact hne
    · exact h.clients_ne_nil wd _ hw
  · intro wd w' hw'
    obtain ⟨w, hw, ⟨he, -⟩ | rfl⟩ := hkept wd w' hw'
    · rw [he]; exact (h.clients_nodup wd w hw).filter _
    · exact h.clients_nodup wd _ hw
  · intro c' ws' hc'
    obtain ⟨ws, hws⟩ := hcl c' ws' hc'
    rw [hid]; exact h.client_range c' ws hws

/-! ## Each operation keeps the invariant -/

omit [DecidableEq P] in
/-- `register_client` keeps the invariant when `next_client_id` does not wrap: the new
id is above every registered one, so it has no watches yet. -/
theorem registry_registerClient {s : DaemonState P} (h : Registry s)
    (hw : s.next_client_id.toNat ≤ (registerClient s).1.next_client_id.toNat) :
    Registry (registerClient s).1 := by
  have hn : (s.next_client_id + 1).toNat = s.next_client_id.toNat + 1 := toNat_succ hw
  have hfresh : s.clients s.next_client_id = none := by
    cases hc : s.clients s.next_client_id with
    | none => rfl
    | some ws => exact absurd (h.client_range _ _ hc) (lt_irrefl _)
  have hl : ∀ c wd, Listed (registerClient s).1 c wd ↔ Listed s c wd := fun c wd => by
    rw [listed_of_clients (s := s) rfl]
    split
    · next hc => subst hc; simp [Listed, hfresh]
    · rfl
  refine ⟨h.of_tables rfl rfl, h.clients_ne_nil, h.clients_nodup,
    fun c wd => (h.subscribed_iff c wd).trans (hl c wd).symm, h.watch_range,
    fun c wd hl' => h.listed_range c wd ((hl c wd).1 hl'), h.next_wd_pos, ?_⟩
  intro c ws hc
  show c.toNat < (s.next_client_id + 1).toNat
  rw [hn]
  rcases update_eq_some hc with ⟨rfl, -⟩ | ⟨-, hc⟩
  · omega
  · have := h.client_range c ws hc; omega

/-- `unregister_client` drops the client from every watch. It walks only the client's own
list, and by (d) that list holds every watch the client subscribes to. -/
theorem unregisterClient_watches {s : DaemonState P} (h : Registry s) (c : ClientId)
    (wd : WatchDescriptor) : (unregisterClient s c).watches wd = dropEntry c (s.watches wd) := by
  have hnot : ∀ w, s.watches wd = some w → (∀ ws, s.clients c = some ws → wd ∉ ws) →
      dropEntry c (some w) = some w := fun w hw hl =>
    dropEntry_of_not_mem (h.clients_ne_nil wd w hw) fun hm => by
      obtain ⟨ws, hws, hm'⟩ := (h.subscribed_iff c wd).mp ⟨w, hw, hm⟩
      exact hl ws hws hm'
  unfold unregisterClient
  cases hc : s.clients c with
  | none =>
    cases hw : s.watches wd with
    | none => rfl
    | some w => exact (hnot w hw fun _ h' => by cases hc ▸ h').symm
  | some ws =>
    show (ws.foldl (dropFromWatch c) s).watches wd = _
    rw [foldl_dropFromWatch_watches]
    split
    · rfl
    · next hwd =>
      cases hw : s.watches wd with
      | none => rfl
      | some w => exact (hnot w hw fun _ h' => by cases hc ▸ h'; exact hwd).symm

/-- `unregister_client` keeps the invariant. -/
theorem registry_unregisterClient {s : DaemonState P} (h : Registry s) (c : ClientId) :
    Registry (unregisterClient s c) := by
  have hW := unregisterClient_watches h c
  unfold unregisterClient at hW ⊢
  cases hc : s.clients c with
  | none => exact h
  | some ws =>
    simp only [hc] at hW
    refine h.unsubscribe ((h.toPaired.foldl_dropFromWatch c ws).of_tables rfl rfl)
      (fun _ => True) (fun wd => by simpa using hW wd) (fun c' wd => ?_) (fun c' ws' hc' => ?_)
      (by simp) (by simp)
    · rw [listed_of_clients (s := s) (c := c) (x := none) (by simp)]
      split
      · next he => simp [he]
      · next he => simp [he]
    · rcases eq_or_ne c' c with rfl | he
      · simp at hc'
      · simp only [foldl_dropFromWatch_clients, update_noteq he] at hc'
        exact ⟨ws', hc'⟩

omit [DecidableEq P] in
/-- The existing branch of `add_watch` keeps the invariant. -/
theorem registry_joinWatch {s : DaemonState P} (h : Registry s) {c : ClientId}
    {ws : List WatchDescriptor} (hc : s.clients c = some ws) {wd : WatchDescriptor}
    {w : WatchInfo P} (hw : s.watches wd = some w) (mask : EventMask) :
    Registry (joinWatch s c wd w mask).1 := by
  refine h.subscribe (h.replace hw rfl rfl rfl rfl) hc rfl
    (by simp [joinWatch, clientAddWatch, hc]) (fun c' => ?_) ?_ (h.watch_range wd w hw) (Int.le_refl _) rfl
  · rw [subscribed_iff_mem hw]
    dsimp only
    split
    · next hin => exact ⟨.inl, by rintro (h' | rfl) <;> assumption⟩
    · simp
  · dsimp only
    split
    · exact h.clients_nodup wd w hw
    · next hin => exact List.nodup_append.2 ⟨h.clients_nodup wd w hw, List.nodup_singleton c,
        List.disjoint_singleton.2 hin⟩

/-- The new branch of `add_watch` keeps the invariant when the path is not in
`path_to_wd` and `next_wd` does not wrap. -/
theorem registry_createWatch {s : DaemonState P} (h : Registry s) {c : ClientId}
    {ws : List WatchDescriptor} (hc : s.clients c = some ws) {path : P}
    (hp : s.path_to_wd path = none) (mask : EventMask) (recursive : Bool)
    (hwrap : s.next_wd.toInt ≤ (createWatch s c path mask recursive).1.next_wd.toInt) :
    Registry (createWatch s c path mask recursive).1 := by
  have hn : (s.next_wd + 1).toInt = s.next_wd.toInt + 1 := toInt_succ hwrap
  have hfree : s.watches s.next_wd = none := by
    cases hw : s.watches s.next_wd with
    | none => rfl
    | some w => exact absurd (h.watch_range _ w hw).2 (Int.lt_irrefl _)
  refine h.subscribe (h.insert hfree hp rfl rfl rfl rfl) hc rfl
    (by simp [createWatch, clientAddWatch, hc]) (fun c' => ?_) (List.nodup_singleton c) ?_ hwrap rfl
  · simp [Subscribed, hfree]
  · show 1 ≤ s.next_wd.toInt ∧ s.next_wd.toInt < (s.next_wd + 1).toInt
    have := h.next_wd_pos
    omega

/-- `add_watch` keeps the invariant for a registered client when `next_wd` does not
wrap. Under the invariant a path in `path_to_wd` always has its watch, so the second
`create` branch is never taken. -/
theorem registry_addWatch {s : DaemonState P} (h : Registry s) {c : ClientId}
    (hc : (s.clients c).isSome) (path : P) (mask : EventMask) (recursive : Bool)
    (hwrap : s.next_wd.toInt ≤ (addWatch s c path mask recursive).1.next_wd.toInt) :
    Registry (addWatch s c path mask recursive).1 := by
  obtain ⟨ws, hws⟩ := Option.isSome_iff_exists.1 hc
  cases hp : s.path_to_wd path with
  | some wd =>
    obtain ⟨w, hw, -⟩ := h.path_watch path wd hp
    rw [addWatch_of_live hp hw]
    exact registry_joinWatch h hws hw mask
  | none =>
    rw [addWatch_of_none hp] at hwrap ⊢
    exact registry_createWatch h hws hp mask recursive hwrap

/-- `remove_watch` keeps the invariant for a registered client. -/
theorem registry_removeWatch {s : DaemonState P} (h : Registry s) {c : ClientId}
    (hc : (s.clients c).isSome) (wd : WatchDescriptor) : Registry (removeWatch s c wd).1 := by
  obtain ⟨ws, hws⟩ := Option.isSome_iff_exists.1 hc
  cases hw : s.watches wd with
  | some w =>
    rw [removeWatch_of_live hw]
    have hP : Paired { s with clients := clientRemoveWatch s.clients c wd } :=
      h.toPaired.of_tables rfl rfl
    refine h.unsubscribe (c := c) (hP.retain hw) (· = wd) (fun wd' => ?_) (fun c' wd' => ?_)
      (fun c' ws' hc' => ?_) (by simp) (by simp)
    · rw [retainClient_watches, update_apply]
      split
      · next he => subst he; rw [hw]
      · rfl
    · simp only [Listed, retainClient_clients, clientRemoveWatch_apply]
      split
      · next he => subst he; simp [hws, and_comm]
      · next he => simp [he]
    · simp only [retainClient_clients, clientRemoveWatch_apply] at hc'
      split at hc'
      · next he => exact ⟨ws, he ▸ hws⟩
      · exact ⟨ws', hc'⟩
  | none => rw [removeWatch_of_none hw]; exact h

/-! ## Who can become a subscriber -/

-- Without the invariant: these hold in every state, also after a counter wrapped.

/-- `add_watch` subscribes its own client and nobody else. -/
theorem subscribed_addWatch {s : DaemonState P} {c x : ClientId} {path : P} {mask : EventMask}
    {recursive : Bool} {wd : WatchDescriptor} (h : Subscribed (addWatch s c path mask recursive).1 x wd) :
    x = c ∨ Subscribed s x wd := by
  have hcreate : ∀ (h : Subscribed (createWatch s c path mask recursive).1 x wd),
      x = c ∨ Subscribed s x wd := fun h => by
    rw [subscribed_of_watches (s := s) rfl] at h
    split at h
    · obtain ⟨w, hw, hm⟩ := h
      cases hw
      exact .inl (List.mem_singleton.1 hm)
    · exact .inr h
  unfold addWatch at h
  split at h
  · split at h
    · next wd0 _ w hw =>
      rw [subscribed_of_watches (s := s) rfl] at h
      split at h
      · next he =>
        obtain ⟨w', hw', hm⟩ := h
        cases hw'
        subst he
        by_cases hin : c ∈ w.clients
        · simp only [hin, if_true] at hm
          exact .inr ⟨w, hw, hm⟩
        · simp only [hin, if_false, List.mem_append, List.mem_singleton] at hm
          exact hm.elim (fun hm => .inr ⟨w, hw, hm⟩) .inl
      · exact .inr h
    · exact hcreate h
  · exact hcreate h

/-- `remove_watch` subscribes nobody. -/
theorem subscribed_removeWatch {s : DaemonState P} {c x : ClientId} {wd' wd : WatchDescriptor}
    (h : Subscribed (removeWatch s c wd').1 x wd) : Subscribed s x wd := by
  cases hw : s.watches wd' with
  | none => rwa [removeWatch_of_none hw] at h
  | some w =>
    rw [removeWatch_of_live hw, subscribed_of_watches (retainClient_watches _ c wd' w)] at h
    split at h
    · next he =>
      obtain ⟨-, w0, hw0, hm⟩ := mem_dropEntry.1 h
      cases hw0
      exact he ▸ ⟨w, hw, hm⟩
    · exact h

/-- `unregister_client` subscribes nobody. -/
theorem subscribed_unregisterClient {s : DaemonState P} {c x : ClientId} {wd : WatchDescriptor}
    (h : Subscribed (unregisterClient s c) x wd) : Subscribed s x wd := by
  unfold unregisterClient at h
  split at h
  · next ws _ =>
    obtain ⟨w, hw, hm⟩ := h
    change (ws.foldl (dropFromWatch c) s).watches wd = some w at hw
    rw [foldl_dropFromWatch_watches] at hw
    split at hw
    · exact (mem_dropEntry.1 ⟨w, hw, hm⟩).2
    · exact ⟨w, hw, hm⟩
  · exact h

end fakenotify.state
