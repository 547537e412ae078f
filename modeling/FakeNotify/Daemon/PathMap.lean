-- What the registry is for: a map from each watched path to its descriptor,
-- its merged mask and its set of subscribers. Each operation of `state.rs`
-- does to that map what the map's own operation does, on every state that
-- keeps the invariant.
import FakeNotify.Daemon.Run
import Mathlib.Data.Finset.Basic

namespace fakenotify.state

open Function

variable {P : Type}

/-! ## The abstract map -/

/-- What the registry holds for one path. -/
structure Entry where
  wd : WatchDescriptor
  mask : EventMask
  subs : Finset ClientId
deriving DecidableEq

/-- The entry of the watch `w` at `wd`. -/
def entryOf (wd : WatchDescriptor) (w : WatchInfo P) : Entry := ⟨wd, w.mask, w.clients.toFinset⟩

@[simp] theorem entryOf_wd (wd : WatchDescriptor) (w : WatchInfo P) : (entryOf wd w).wd = wd := rfl

@[simp] theorem entryOf_mask (wd : WatchDescriptor) (w : WatchInfo P) :
    (entryOf wd w).mask = w.mask := rfl

@[simp] theorem entryOf_subs (wd : WatchDescriptor) (w : WatchInfo P) :
    (entryOf wd w).subs = w.clients.toFinset := rfl

/-- The abstraction: each key of `path_to_wd`, with what `watches` holds for its
descriptor. -/
def pathMap (s : DaemonState P) (p : P) : Option Entry :=
  (s.path_to_wd p).bind fun wd => (s.watches wd).map (entryOf wd)

/-- Dropping a subscriber; an entry left without subscribers goes. -/
def Entry.drop (c : ClientId) (e : Entry) : Option Entry :=
  if e.subs.erase c = ∅ then none else some { e with subs := e.subs.erase c }

/-- A descriptor that no entry has. -/
def Unused (A : P → Option Entry) (wd : WatchDescriptor) : Prop :=
  ∀ q e, A q = some e → e.wd ≠ wd

variable [DecidableEq P]

/-- `add_watch` on the map: join the entry of `p`, or make one under the descriptor
`fresh`. Returns the entry's descriptor. -/
def absAdd (A : P → Option Entry) (c : ClientId) (p : P) (mask : EventMask)
    (fresh : WatchDescriptor) : (P → Option Entry) × WatchDescriptor :=
  match A p with
  | some e => (update A p (some ⟨e.wd, e.mask ||| mask, insert c e.subs⟩), e.wd)
  | none => (update A p (some ⟨fresh, mask, {c}⟩), fresh)

omit [DecidableEq P] in
/-- `remove_watch` on the map: drop `c` from the entry with descriptor `wd`. -/
def absRemove (A : P → Option Entry) (c : ClientId) (wd : WatchDescriptor) : P → Option Entry :=
  fun q => (A q).bind fun e => if e.wd = wd then e.drop c else some e

omit [DecidableEq P] in
/-- `unregister_client` on the map: drop `c` from every entry. -/
def absUnregister (A : P → Option Entry) (c : ClientId) : P → Option Entry :=
  fun q => (A q).bind (Entry.drop c)

/-- The mask that a call adds to the path `p`. -/
def opMask (p : P) : Op P → EventMask
  | .add _ q mask _ => if q = p then mask else 0
  | _ => 0

/-- The mask of the entry of `p`, or none. -/
def maskOf (A : P → Option Entry) (p : P) : EventMask := ((A p).map Entry.mask).getD 0

/-- The masks that a run adds to the path `p`, merged. -/
def maskAdded (p : P) : List (Op P) → EventMask
  | [] => 0
  | o :: os => opMask p o ||| maskAdded p os

/-! ## Reading the map through the invariant -/

section
omit [DecidableEq P]

theorem pathMap_eq_some {s : DaemonState P} (h : Paired s) {q : P} {e : Entry} :
    pathMap s q = some e ↔ ∃ wd w, s.watches wd = some w ∧ w.path = q ∧ e = entryOf wd w := by
  constructor
  · intro he
    simp only [pathMap, Option.bind_eq_some, Option.map_eq_some'] at he
    obtain ⟨wd, hp, w, hw, rfl⟩ := he
    obtain ⟨w', hw', hpath⟩ := h.path_watch q wd hp
    rw [hw] at hw'
    cases hw'
    exact ⟨wd, w, hw, hpath, rfl⟩
  · rintro ⟨wd, w, hw, rfl, rfl⟩
    simp [pathMap, (h.watch_wd wd w hw).2, hw]

/-- An entry is the entry of the live watch at its descriptor. -/
theorem watches_of_pathMap {s : DaemonState P} (h : Paired s) {q : P} {e : Entry}
    (he : pathMap s q = some e) : ∃ w, s.watches e.wd = some w ∧ w.path = q ∧ e = entryOf e.wd w := by
  obtain ⟨wd, w, hw, hp, rfl⟩ := (pathMap_eq_some h).1 he
  exact ⟨w, hw, hp, rfl⟩

theorem pathMap_of_watches {s : DaemonState P} (h : Paired s) {wd : WatchDescriptor}
    {w : WatchInfo P} (hw : s.watches wd = some w) : pathMap s w.path = some (entryOf wd w) :=
  (pathMap_eq_some h).2 ⟨wd, w, hw, rfl, rfl⟩

/-- Two paths with the same descriptor are one path. -/
theorem path_eq_of_wd {s : DaemonState P} (h : Paired s) {v wd : WatchDescriptor}
    {w w' : WatchInfo P} (hv : s.watches v = some w) (hw : s.watches wd = some w')
    (hp : w.path = w'.path) : v = wd := by
  have h1 := (h.watch_wd v w hv).2
  rw [hp, (h.watch_wd wd w' hw).2] at h1
  exact (Option.some.inj h1).symm

theorem drop_entryOf (c : ClientId) (wd : WatchDescriptor) (w : WatchInfo P) :
    (entryOf wd w).drop c = (dropEntry c (some w)).map (entryOf wd) := by
  have hf : (w.clients.filter (· ≠ c)).toFinset = w.clients.toFinset.erase c := by
    rw [List.toFinset_filter, ← Finset.filter_ne']
    simp
  by_cases he : (w.clients.filter (· ≠ c)).isEmpty
  · have : w.clients.toFinset.erase c = ∅ := by
      rw [← hf, List.toFinset_eq_empty_iff]; simpa using he
    simp only [Entry.drop, dropEntry, entryOf, he, this, if_true, Option.map_none']
  · have : w.clients.toFinset.erase c ≠ ∅ := by
      rw [← hf, Ne, List.toFinset_eq_empty_iff]; simpa using he
    simp only [Entry.drop, dropEntry, entryOf, he, this, if_false, Bool.false_eq_true,
      Option.map_some', hf]

theorem Entry.drop_eq_some {c : ClientId} {e e' : Entry} (h : e.drop c = some e') :
    e'.wd = e.wd ∧ e'.mask = e.mask := by
  unfold Entry.drop at h
  split at h
  · cases h
  · cases h; exact ⟨rfl, rfl⟩

/-- Dropping a client from every watch is dropping it from every entry. -/
theorem pathMap_dropAll {s s' : DaemonState P} (h : Paired s) (h' : Paired s') {c : ClientId}
    (hW : ∀ wd, s'.watches wd = dropEntry c (s.watches wd)) :
    pathMap s' = absUnregister (pathMap s) c := by
  funext q
  apply Option.ext
  intro e
  rw [Option.mem_def, Option.mem_def, pathMap_eq_some h', absUnregister, Option.bind_eq_some]
  simp only [pathMap_eq_some h, hW]
  constructor
  · rintro ⟨v, w', hv, hp, rfl⟩
    obtain ⟨w, hw, rfl, -⟩ := dropEntry_eq_some hv
    refine ⟨entryOf v w, ⟨v, w, hw, hp, rfl⟩, ?_⟩
    rw [drop_entryOf, ← hw, hv]
    rfl
  · rintro ⟨_, ⟨v, w, hw, hp, rfl⟩, hd⟩
    rw [drop_entryOf] at hd
    obtain ⟨w', hw', rfl⟩ := Option.map_eq_some'.1 hd
    obtain ⟨_, he, rfl, -⟩ := dropEntry_eq_some hw'
    cases he
    exact ⟨v, { w with clients := w.clients.filter (· ≠ c) }, by rw [hw, hw'], hp, rfl⟩

end

/-- A change of the watch at one descriptor, whose path is `p` before and after, is
the same change of the entry of `p`. -/
theorem pathMap_update {s s' : DaemonState P} (h : Paired s) (h' : Paired s')
    {wd : WatchDescriptor} {x : Option (WatchInfo P)} {p : P}
    (hW : s'.watches = update s.watches wd x) (hx : ∀ w, x = some w → w.path = p)
    (hold : ∀ w, s.watches wd = some w → w.path = p)
    (hfree : ∀ e, pathMap s p = some e → e.wd = wd) :
    pathMap s' = update (pathMap s) p (x.map (entryOf wd)) := by
  funext q
  apply Option.ext
  intro e
  rw [Option.mem_def, Option.mem_def, pathMap_eq_some h', update_apply]
  simp only [hW, update_apply]
  split
  · next hq =>
    subst hq
    constructor
    · rintro ⟨v, w, hv, hp, rfl⟩
      split at hv
      · next hvw => subst hvw; simp [hv]
      · next hvw =>
        exact absurd (hfree _ (pathMap_eq_some h |>.2 ⟨v, w, hv, hp, rfl⟩)) hvw
    · intro hxe
      obtain ⟨w, hxw, rfl⟩ := Option.map_eq_some'.1 hxe
      exact ⟨wd, w, by simp [hxw], hx w hxw, rfl⟩
  · next hq =>
    rw [pathMap_eq_some h]
    constructor
    · rintro ⟨v, w, hv, hp, rfl⟩
      split at hv
      · exact absurd (hp.symm.trans (hx w hv)) hq
      · exact ⟨v, w, hv, hp, rfl⟩
    · rintro ⟨v, w, hv, hp, rfl⟩
      refine ⟨v, w, ?_, hp, rfl⟩
      rwa [if_neg]
      rintro rfl
      exact hq (hp.symm.trans (hold w hv))

/-! ## Each operation refines its abstract one -/

omit [DecidableEq P] in
theorem pathMap_registerClient (s : DaemonState P) :
    pathMap (registerClient s).1 = pathMap s := rfl

omit [DecidableEq P] in
/-- `next_wd` is a descriptor no entry has. -/
theorem unused_next_wd {s : DaemonState P} (h : Registry s) : Unused (pathMap s) s.next_wd := by
  intro q e he hwd
  obtain ⟨w, hv, -⟩ := watches_of_pathMap h.toPaired he
  have := (h.watch_range _ w hv).2
  rw [hwd] at this
  exact Int.lt_irrefl _ this

theorem pathMap_addWatch {s : DaemonState P} (h : Registry s) {c : ClientId}
    (hc : (s.clients c).isSome) (path : P) (mask : EventMask) (recursive : Bool)
    (hwrap : s.next_wd.toInt ≤ (addWatch s c path mask recursive).1.next_wd.toInt) :
    (pathMap (addWatch s c path mask recursive).1, (addWatch s c path mask recursive).2) =
      absAdd (pathMap s) c path mask s.next_wd := by
  have h' := (registry_addWatch h hc path mask recursive hwrap).toPaired
  cases hp : s.path_to_wd path with
  | some wd =>
    obtain ⟨w, hw, rfl⟩ := h.path_watch _ wd hp
    rw [addWatch_of_live hp hw] at h' ⊢
    have hm : (if c ∈ w.clients then w.clients else w.clients ++ [c]).toFinset =
        insert c w.clients.toFinset := by
      split
      · next hin => exact (Finset.insert_eq_of_mem (List.mem_toFinset.2 hin)).symm
      · rw [List.toFinset_append, List.toFinset_cons, List.toFinset_nil, Finset.union_comm]
        rfl
    rw [absAdd, pathMap_of_watches h.toPaired hw, pathMap_update h.toPaired h' rfl
      (fun _ hx => by cases hx; rfl) (fun _ hx => by rw [hw] at hx; cases hx; rfl)
      (fun e he => by rw [pathMap_of_watches h.toPaired hw] at he; cases he; rfl)]
    simp [joinWatch, entryOf, hm]
  | none =>
    rw [addWatch_of_none hp] at h' ⊢
    have hfree : s.watches s.next_wd = none := by
      cases hw : s.watches s.next_wd with
      | none => rfl
      | some w => exact absurd (h.watch_range _ w hw).2 (Int.lt_irrefl _)
    have hnone : pathMap s path = none := by simp [pathMap, hp]
    rw [absAdd, hnone, pathMap_update h.toPaired h' rfl (fun _ hx => by cases hx; rfl)
      (fun _ hx => by rw [hfree] at hx; cases hx) (fun _ he => by rw [hnone] at he; cases he)]
    simp [createWatch, entryOf]

theorem pathMap_removeWatch {s : DaemonState P} (h : Registry s) {c : ClientId}
    (hc : (s.clients c).isSome) (wd : WatchDescriptor) :
    ((removeWatch s c wd).2 = true ↔ ∃ q e, pathMap s q = some e ∧ e.wd = wd) ∧
      pathMap (removeWatch s c wd).1 = absRemove (pathMap s) c wd := by
  have h' := (registry_removeWatch h hc wd).toPaired
  cases hw : s.watches wd with
  | some w =>
    rw [removeWatch_of_live hw] at h' ⊢
    refine ⟨iff_of_true rfl ⟨w.path, _, pathMap_of_watches h.toPaired hw, rfl⟩, ?_⟩
    rw [pathMap_update h.toPaired h' (retainClient_watches _ c wd w)
      (fun _ hx => (dropEntry_eq_some hx).elim fun _ ⟨he, hw', _⟩ => by cases he; rw [hw'])
      (fun _ hx => by rw [hw] at hx; cases hx; rfl)
      (fun e he => by
        obtain ⟨v, w', hv, hp, rfl⟩ := (pathMap_eq_some h.toPaired).1 he
        exact path_eq_of_wd h.toPaired hv hw hp)]
    funext q
    rw [update_apply]
    split
    · next hq =>
      subst hq
      simp [absRemove, pathMap_of_watches h.toPaired hw, drop_entryOf]
    · next hq =>
      cases he : pathMap s q with
      | none => simp [absRemove, he]
      | some e =>
        obtain ⟨w', hv, rfl, -⟩ := watches_of_pathMap h.toPaired he
        have hne : e.wd ≠ wd := by intro he'; rw [he', hw] at hv; cases hv; exact hq rfl
        simp [absRemove, he, hne]
  | none =>
    rw [removeWatch_of_none hw]
    have hno : ∀ q e, pathMap s q = some e → e.wd ≠ wd := by
      intro q e he hwd
      obtain ⟨w', hv, -⟩ := watches_of_pathMap h.toPaired he
      rw [hwd, hw] at hv
      cases hv
    refine ⟨iff_of_false Bool.false_ne_true fun ⟨q, e, he, hwd⟩ => hno q e he hwd, ?_⟩
    funext q
    cases he : pathMap s q with
    | none => simp [absRemove, he]
    | some e => simp [absRemove, he, hno q e he]

theorem pathMap_unregisterClient {s : DaemonState P} (h : Registry s) (c : ClientId) :
    pathMap (unregisterClient s c) = absUnregister (pathMap s) c :=
  pathMap_dropAll h.toPaired (registry_unregisterClient h c).toPaired
    (unregisterClient_watches h c)

omit [DecidableEq P] in
/-- `get_clients_for_watch` lists each registered subscriber of the entry once. -/
theorem getClientsForWatch_spec {s : DaemonState P} (h : Registry s) (wd : WatchDescriptor) :
    (getClientsForWatch s wd).Nodup ∧ ∀ c, c ∈ getClientsForWatch s wd ↔
      (∃ q e, pathMap s q = some e ∧ e.wd = wd ∧ c ∈ e.subs) ∧ (s.clients c).isSome := by
  unfold getClientsForWatch
  split
  · next w hw =>
    refine ⟨(h.clients_nodup wd w hw).filter _, fun c => ?_⟩
    have hsub : (∃ q e, pathMap s q = some e ∧ e.wd = wd ∧ c ∈ e.subs) ↔ c ∈ w.clients := by
      constructor
      · rintro ⟨q, e, he, rfl, hc⟩
        obtain ⟨w', hv, -, he'⟩ := watches_of_pathMap h.toPaired he
        rw [hw] at hv
        cases hv
        rw [he'] at hc
        exact List.mem_toFinset.1 hc
      · intro hc
        exact ⟨w.path, _, pathMap_of_watches h.toPaired hw, rfl, List.mem_toFinset.2 hc⟩
    simp [hsub]
  · next hw =>
    refine ⟨List.nodup_nil, fun c => ?_⟩
    simp only [List.not_mem_nil, false_iff, not_and]
    rintro ⟨q, e, he, rfl, -⟩
    obtain ⟨w', hv, -⟩ := watches_of_pathMap h.toPaired he
    rw [hw] at hv
    cases hv

/-! ## Masks over runs -/

/-- After any call, the mask of an entry is what the path had before, merged with what
the call adds. -/
theorem mask_apply {s : DaemonState P} (h : Registry s) {o : Op P} (ho : o.Allowed s)
    (hw : NoWrap s (o.apply s)) {p : P} {e' : Entry} (he' : pathMap (o.apply s) p = some e') :
    e'.mask = maskOf (pathMap s) p ||| opMask p o := by
  cases o with
  | register =>
    rw [Op.apply, pathMap_registerClient] at he'
    simp [maskOf, opMask, he']
  | unregister c =>
    rw [Op.apply, pathMap_unregisterClient h, absUnregister, Option.bind_eq_some] at he'
    obtain ⟨e, he, hd⟩ := he'
    simp [maskOf, opMask, he, (Entry.drop_eq_some hd).2]
  | add c q mask recursive =>
    have hA : pathMap (addWatch s c q mask recursive).1 = (absAdd (pathMap s) c q mask s.next_wd).1 :=
      congrArg Prod.fst (pathMap_addWatch h ho q mask recursive hw.1)
    simp only [Op.apply] at he' ⊢
    rw [hA, absAdd] at he'
    by_cases hq : q = p
    · subst hq
      split at he' <;> rename_i hpq <;> simp only [update_same, Option.some.injEq] at he' <;>
        subst he' <;> simp [maskOf, opMask, hpq]
    · split at he' <;> simp only [update_noteq (Ne.symm hq)] at he' <;>
        simp [maskOf, opMask, hq, he']
  | remove c wd =>
    have hA := (pathMap_removeWatch h ho wd).2
    simp only [Op.apply] at he' ⊢
    rw [hA, absRemove, Option.bind_eq_some] at he'
    obtain ⟨e, he, hd⟩ := he'
    split at hd
    · simp [maskOf, opMask, he, (Entry.drop_eq_some hd).2]
    · cases hd; simp [maskOf, opMask, he]

/-- Along a good run in which `p` keeps an entry after every call, its mask is the mask
it had, merged with every mask that the run adds to `p`. -/
theorem mask_run {s : DaemonState P} (h : Reachable s) {p : P} {os : List (Op P)}
    (hr : GoodRun s os)
    (hlive : ∀ k, 0 < k → k ≤ os.length → (pathMap (run s (os.take k)) p).isSome)
    {e : Entry} (he : pathMap (run s os) p = some e) :
    e.mask = maskOf (pathMap s) p ||| maskAdded p os := by
  induction os generalizing s with
  | nil => simp [run, he, maskOf, maskAdded] at *
  | cons o os ih =>
    have h1 : ∀ e', pathMap (o.apply s) p = some e' →
        e'.mask = maskOf (pathMap s) p ||| opMask p o := fun _ => mask_apply h.registry hr.1 hr.2.1
    cases os with
    | nil => simpa [maskAdded] using h1 e he
    | cons o' os' =>
      obtain ⟨e1, he1⟩ := Option.isSome_iff_exists.1 (hlive 1 (by omega) (by simp))
      have hm1 : maskOf (pathMap (o.apply s)) p = maskOf (pathMap s) p ||| opMask p o := by
        simp only [run, List.take] at he1
        simp [maskOf, he1, h1 e1 he1]
      have h1' : GoodRun s [o] := ⟨hr.1, hr.2.1, trivial⟩
      have := ih (h.run h1') hr.2.2
        (fun k hk hkl => by simpa using hlive (k + 1) (by omega) (by simpa using hkl)) he
      rw [this]
      show maskOf (pathMap (o.apply s)) p ||| _ = _
      rw [hm1, BitVec.or_assoc]
      rfl

/-! ## Refinement -/

/-- What the registry's operations do to the path map at the state `s`: each does what
the map's own operation does, and an entry that lives through a run that starts
without it has merged exactly the masks the run added to its path. -/
structure Refines (s : DaemonState P) : Prop where
  add : ∀ c path mask recursive, (s.clients c).isSome →
    s.next_wd.toInt ≤ (addWatch s c path mask recursive).1.next_wd.toInt →
    Unused (pathMap s) s.next_wd ∧
    (pathMap (addWatch s c path mask recursive).1, (addWatch s c path mask recursive).2) =
      absAdd (pathMap s) c path mask s.next_wd
  remove : ∀ c wd, (s.clients c).isSome →
    ((removeWatch s c wd).2 = true ↔ ∃ q e, pathMap s q = some e ∧ e.wd = wd) ∧
    pathMap (removeWatch s c wd).1 = absRemove (pathMap s) c wd
  unregister : ∀ c, pathMap (unregisterClient s c) = absUnregister (pathMap s) c
  get_clients : ∀ wd, (getClientsForWatch s wd).Nodup ∧ ∀ c, c ∈ getClientsForWatch s wd ↔
    (∃ q e, pathMap s q = some e ∧ e.wd = wd ∧ c ∈ e.subs) ∧ (s.clients c).isSome
  mask : ∀ p os, GoodRun s os → pathMap s p = none →
    (∀ k, 0 < k → k ≤ os.length → (pathMap (run s (os.take k)) p).isSome) →
    ∀ e, pathMap (run s os) p = some e → e.mask = maskAdded p os

theorem registry_refines {s : DaemonState P} (hs : Reachable s) : Refines s where
  add c path mask recursive hc hw :=
    ⟨unused_next_wd hs.registry, pathMap_addWatch hs.registry hc path mask recursive hw⟩
  remove c wd hc := pathMap_removeWatch hs.registry hc wd
  unregister := pathMap_unregisterClient hs.registry
  get_clients := getClientsForWatch_spec hs.registry
  mask p os hr hp hlive e he := by
    rw [mask_run hs hr hlive he]
    simp [maskOf, hp]

theorem registry_refines_sharedRun :
    Reachable (run DaemonState.new sharedRun) ∧ Refines (run DaemonState.new sharedRun) :=
  ⟨⟨sharedRun, by decide, rfl⟩, registry_refines ⟨sharedRun, by decide, rfl⟩⟩

end fakenotify.state
