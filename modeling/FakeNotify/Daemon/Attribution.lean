-- Which watch a raw event belongs to (`find_watch_for_path` of `state.rs`): the
-- watch of the path itself, else that of its nearest parent with a recursive
-- watch. Each parent is one component shorter, so the walk up the parents ends
-- before the fuel the model gives it runs out.
import FakeNotify.Daemon.Watcher

namespace fakenotify.watcher

open fakenotify.bytes fakenotify.state fakenotify.path fakenotify.server

/-! ## The parents of a path -/

/-- `q` is reached from `p` by one or more steps of `Path::parent`. -/
inductive Ancestor : PathKey → PathKey → Prop
  | direct {p q : PathKey} : parent p = some q → Ancestor p q
  | next {p q r : PathKey} : parent p = some q → Ancestor q r → Ancestor p r

/-- The watch at `q` when it is recursive: where the loop of `find_watch_for_path`
stops. -/
def recursiveWatch (s : DaemonState PathKey) (q : PathKey) : Option (WatchInfo PathKey) :=
  ((s.path_to_wd q).bind s.watches).filter (·.recursive)

/-- `q` is the deepest proper ancestor of `p` with a recursive watch: every other one
lies above it. -/
def Nearest (s : DaemonState PathKey) (p q : PathKey) : Prop :=
  Ancestor p q ∧ (recursiveWatch s q).isSome ∧
    ∀ q', Ancestor p q' → (recursiveWatch s q').isSome → q' = q ∨ Ancestor q q'

/-- `Path::parent` drops the last component of a path that has one. -/
theorem parent_eq_some {p q : PathKey} (h : parent p = some q) : p ≠ [] ∧ q = p.dropLast := by
  unfold parent at h
  split at h <;> cases h <;> exact ⟨fun he => by simp_all, rfl⟩

theorem length_of_parent {p q : PathKey} (h : parent p = some q) : q.length + 1 = p.length := by
  obtain ⟨hp, rfl⟩ := parent_eq_some h
  rw [List.length_dropLast, Nat.sub_add_cancel (List.length_pos.2 hp)]

theorem Ancestor.length_lt {p q : PathKey} (h : Ancestor p q) : q.length < p.length := by
  induction h with
  | direct hp => have := length_of_parent hp; omega
  | next hp _ ih => have := length_of_parent hp; omega

theorem ancestor_iff_of_parent {p q r : PathKey} (h : parent p = some q) :
    Ancestor p r ↔ r = q ∨ Ancestor q r := by
  constructor
  · rintro (⟨hp⟩ | ⟨hp, hr⟩) <;> rw [h, Option.some.injEq] at hp <;> subst hp
    exacts [.inl rfl, .inr hr]
  · rintro (rfl | hr)
    exacts [.direct h, .next h hr]

/-- Each parent is a prefix of its path, so every ancestor is. -/
theorem Ancestor.prefix {p q : PathKey} (h : Ancestor p q) : q <+: p := by
  have step : ∀ {p q : PathKey}, parent p = some q → q <+: p := fun hp =>
    (parent_eq_some hp).2 ▸ List.dropLast_prefix _
  induction h with
  | direct hp => exact step hp
  | next hp _ ih => exact ih.trans (step hp)

theorem not_ancestor_of_parent_none {p r : PathKey} (h : parent p = none) : ¬Ancestor p r := by
  rintro (⟨hp⟩ | ⟨hp, -⟩) <;> rw [h] at hp <;> cases hp

/-! ## The loop over the parents -/

section
variable {s : DaemonState PathKey}

/-- When the parent has a recursive watch, it is the nearest. -/
theorem nearest_parent {p q : PathKey} (hp : parent p = some q) (hq : (recursiveWatch s q).isSome) :
    ∀ q', Nearest s p q' ↔ q' = q := by
  intro q'
  constructor
  · rintro ⟨ha, -, hmin⟩
    rcases (ancestor_iff_of_parent hp).1 ha with rfl | ha
    · rfl
    · rcases hmin q (.direct hp) hq with rfl | hb
      · rfl
      · exact absurd (ha.length_lt.trans hb.length_lt) (lt_irrefl _)
  · rintro rfl
    exact ⟨.direct hp, hq, fun q' ha _ => (ancestor_iff_of_parent hp).1 ha⟩

/-- When the parent has none, the nearest of the path is the nearest of its parent. -/
theorem nearest_of_parent {p q : PathKey} (hp : parent p = some q) (hq : recursiveWatch s q = none) :
    ∀ q', Nearest s p q' ↔ Nearest s q q' := by
  have skip : ∀ r, Ancestor p r → (recursiveWatch s r).isSome → Ancestor q r := fun r ha hr =>
    ((ancestor_iff_of_parent hp).1 ha).resolve_left fun he => by simp [he, hq] at hr
  intro q'
  constructor
  · rintro ⟨ha, hr, hmin⟩
    exact ⟨skip q' ha hr, hr, fun r hr' hs => hmin r (.next hp hr') hs⟩
  · rintro ⟨ha, hr, hmin⟩
    exact ⟨.next hp ha, hr, fun r hr' hs => hmin r (skip r hr' hs) hs⟩

/-- A path without a parent has no ancestor, so `None` is the loop's right answer. -/
theorem findInParents_spec_root {cur : PathKey} (hp : parent cur = none) :
    (∀ w, (none : Option (WatchInfo PathKey)) = some w ↔
      ∃ q, Nearest s cur q ∧ recursiveWatch s q = some w) ∧
    ((none : Option (WatchInfo PathKey)) = none ↔ ∀ q, Ancestor cur q → recursiveWatch s q = none) :=
  ⟨fun _ => ⟨fun h => (nomatch h), fun ⟨_, hq, _⟩ => absurd hq.1 (not_ancestor_of_parent_none hp)⟩,
    ⟨fun _ _ hq => absurd hq (not_ancestor_of_parent_none hp), fun _ => rfl⟩⟩

/-- The loop of `find_watch_for_path`, with fuel at least the path's length, returns the
recursive watch of the nearest parent that has one, and `None` when no parent has one:
the walk ends at a path without a parent before the fuel does. -/
theorem findInParents_spec :
    ∀ (fuel : Nat) (cur : PathKey), cur.length ≤ fuel →
      (∀ w, findInParents s fuel cur = some w ↔ ∃ q, Nearest s cur q ∧ recursiveWatch s q = some w) ∧
      (findInParents s fuel cur = none ↔ ∀ q, Ancestor cur q → recursiveWatch s q = none)
  | 0, cur, hf => findInParents_spec_root (by rw [List.length_eq_zero.1 (Nat.le_zero.1 hf)]; rfl)
  | fuel + 1, cur, hf => by
    cases hp : parent cur with
    | none => simpa only [findInParents, hp] using findInParents_spec_root hp
    | some q =>
      have hq := length_of_parent hp
      have ih := findInParents_spec fuel q (by omega)
      cases hr : recursiveWatch s q with
      | some w =>
        have hw : (s.path_to_wd q).bind s.watches = some w ∧ w.recursive = true := by
          simpa [recursiveWatch, Option.filter_eq_some] using hr
        have hloop : findInParents s (fuel + 1) cur = some w := by
          simp [findInParents, hp, hw.1, hw.2]
        rw [hloop]
        refine ⟨fun w' => ?_, ⟨fun h => (nomatch h), fun h => ?_⟩⟩
        · have hnear := nearest_parent hp (s := s) (by simp [hr])
          simp only [hnear, exists_eq_left, hr]
        · simp [h q (.direct hp)] at hr
      | none =>
        have hrec : findInParents s (fuel + 1) cur = findInParents s fuel q := by
          simp only [findInParents, hp]
          split
          · next w hw =>
            have : w.recursive = false := by simpa [recursiveWatch, hw] using hr
            simp [this]
          · rfl
        rw [hrec]
        refine ⟨fun w => (ih.1 w).trans ?_, ih.2.trans ?_⟩
        · simp only [nearest_of_parent hp hr]
        · exact ⟨fun h r ha => ((ancestor_iff_of_parent hp).1 ha).elim (· ▸ hr) (h r),
            fun h r ha => h r (.next hp ha)⟩

end

/-! ## `find_watch_for_path` -/

/-- The watch behind a key of `path_to_wd` lies at that key, under its own
descriptor. -/
theorem watch_of_key {s : DaemonState PathKey} (h : Paired s) {q : PathKey}
    {w : WatchInfo PathKey} (hw : (s.path_to_wd q).bind s.watches = some w) :
    s.watches w.wd = some w ∧ w.path = q := by
  obtain ⟨wd, hq, hwd⟩ := Option.bind_eq_some.1 hw
  obtain ⟨w', hw', hp⟩ := h.path_watch q wd hq
  rw [hwd] at hw'
  cases hw'
  rw [(h.watch_wd wd w hwd).1]
  exact ⟨hwd, hp⟩

/-- The watch found for `p` is live under its descriptor, at `p` or above it. -/
theorem findWatchForPath_some {s : DaemonState PathKey} (h : Paired s) {p : PathKey}
    {w : WatchInfo PathKey} (hw : findWatchForPath s p = some w) :
    s.watches w.wd = some w ∧ (w.path = p ∨ Ancestor p w.path) := by
  unfold findWatchForPath at hw
  split at hw
  · next wd hp => exact (watch_of_key h (by simp [hp, hw])).imp_right .inl
  · obtain ⟨q, ⟨ha, -⟩, hq⟩ := ((findInParents_spec p.length p le_rfl).1 w).1 hw
    obtain ⟨hwd, hpath⟩ := watch_of_key h (Option.filter_eq_some.1 hq).1
    exact ⟨hwd, .inr (hpath ▸ ha)⟩

/-- Nearest-ancestor attribution. On a registry that keeps the invariant, for every path
`p`: a key of `path_to_wd` gets its own watch; any other path gets the watch of its
deepest proper ancestor, along `Path::parent`, whose watch is recursive, and `None` when
it has none. The walk ends (the answer is that of the unbounded walk), and the watch
returned lies at `p` or above it. -/
theorem findWatchForPath_nearest {s : DaemonState PathKey} (h : Registry s) (p : PathKey) :
    (∀ wd, s.path_to_wd p = some wd →
      ∃ w, findWatchForPath s p = some w ∧ s.watches wd = some w ∧ w.path = p) ∧
    (s.path_to_wd p = none → ∀ w,
      findWatchForPath s p = some w ↔ ∃ q, Nearest s p q ∧ recursiveWatch s q = some w) ∧
    (s.path_to_wd p = none →
      (findWatchForPath s p = none ↔ ∀ q, Ancestor p q → recursiveWatch s q = none)) ∧
    ∀ w, findWatchForPath s p = some w → w.path = p ∨ Ancestor p w.path := by
  have hspec := findInParents_spec (s := s) p.length p le_rfl
  refine ⟨fun wd hp => ?_, fun hp w => ?_, fun hp => ?_, fun w hw => (findWatchForPath_some h.1 hw).2⟩
  · obtain ⟨w, hw, hpath⟩ := h.path_watch p wd hp
    exact ⟨w, by simp [findWatchForPath, hp, hw], hw, hpath⟩
  · simpa [findWatchForPath, hp] using hspec.1 w
  · simpa [findWatchForPath, hp] using hspec.2

/-- "/tmp" watched recursively, "/tmp/x" not. -/
def nestedRun : List (Op PathKey) :=
  [.register, .add 1 (components (utf8Bytes "/tmp")) 0x100 true,
    .add 1 (components (utf8Bytes "/tmp/x")) 0x100 false]

/-- A file in "/tmp/x" belongs to the watch on "/tmp": the watch on "/tmp/x" is not
recursive. -/
theorem findWatchForPath_nearest_nested :
    (findWatchForPath (run DaemonState.new nestedRun) (components (utf8Bytes "/tmp/x/f"))).map
        (·.path) = some (components (utf8Bytes "/tmp")) ∧
      ∀ w, findWatchForPath (run DaemonState.new nestedRun) (components (utf8Bytes "/tmp/x/f")) =
        some w → w.path = components (utf8Bytes "/tmp/x/f") ∨
          Ancestor (components (utf8Bytes "/tmp/x/f")) w.path :=
  ⟨by decide, (findWatchForPath_nearest (registry_run registry_new (by decide))
    (components (utf8Bytes "/tmp/x/f"))).2.2.2⟩

end fakenotify.watcher
