-- The poll watcher's side of the daemon (`watcher.rs`): `WatcherManager` and
-- `start_watcher`. The manager polls the configured watches that `watch`
-- accepts. `main` keeps it and nothing calls it again, so a client's `AddWatch`
-- changes the registry and not what is polled.
import FakeNotify.Daemon.Streams

namespace fakenotify.poll

open Function
open fakenotify.bytes fakenotify.event fakenotify.state fakenotify.path fakenotify.server
  fakenotify.system

/-! ## `WatcherManager` -/

/-- `WatchConfig`; its `poll_interval` is only logged. -/
structure WatchConfig where
  path : PathBuf
  recursive : Bool
deriving DecidableEq

/-- `WatcherManager`: the paths it polls, keyed as `HashMap<PathBuf, _>` compares
them. -/
structure WatcherManager where
  watched_paths : PathKey → Option WatchConfig

/-- `WatcherManager::new`. -/
def WatcherManager.new : WatcherManager := ⟨fun _ => none⟩

/-- `WatcherManager::add_watch`: `watcher.watch(..)?`, where `watchOk` says whether the
`PollWatcher` accepts the configuration, then the configuration goes into
`watched_paths` under its path. -/
def WatcherManager.addWatch (watchOk : WatchConfig → Bool) (m : WatcherManager)
    (config : WatchConfig) : Option WatcherManager :=
  if watchOk config then some ⟨update m.watched_paths (components config.path) (some config)⟩
  else none

/-- `start_watcher`: `add_watch` on each configured watch in turn; one that fails is
logged and skipped. -/
def startWatcher (watchOk : WatchConfig → Bool) (initial : List WatchConfig) : WatcherManager :=
  initial.foldl (fun m c => (m.addWatch watchOk c).getD m) WatcherManager.new

/-- The poll watcher polls `p`: `p` is a watched path, or lies under one that is watched
recursively. -/
def Polled (m : WatcherManager) (p : PathKey) : Prop :=
  ∃ q c, m.watched_paths q = some c ∧ (q = p ∨ c.recursive = true ∧ q <+: p)

/-- The last configured watch for the path `q` that `watch` accepted. -/
def lastAccepted (watchOk : WatchConfig → Bool) (initial : List WatchConfig) (q : PathKey) :
    Option WatchConfig :=
  (initial.filter fun c => watchOk c && components c.path == q).getLast?

/-- What `start_watcher` leaves under each path, from any manager: the last accepted
configuration for it, else what was there. -/
theorem foldl_addWatch (watchOk : WatchConfig → Bool) (q : PathKey) :
    ∀ (initial : List WatchConfig) (m : WatcherManager),
      (initial.foldl (fun m c => (m.addWatch watchOk c).getD m) m).watched_paths q =
        (lastAccepted watchOk initial q).or (m.watched_paths q)
  | [], _ => rfl
  | c :: cs, m => by
    rw [List.foldl_cons, foldl_addWatch watchOk q cs]
    simp only [lastAccepted, List.filter_cons, WatcherManager.addWatch]
    by_cases hc : watchOk c = true
    · by_cases hq : components c.path = q
      · subst hq
        simp only [hc, beq_self_eq_true, Bool.and_self, if_true, Option.getD_some, update_same,
          List.getLast?_cons]
        cases (cs.filter fun c' => watchOk c' && components c'.path == components c.path).getLast?
          <;> rfl
      · simp [hc, hq, update_noteq (Ne.symm hq)]
    · simp [hc]

theorem startWatcher_watched (watchOk : WatchConfig → Bool) (initial : List WatchConfig) :
    (startWatcher watchOk initial).watched_paths = lastAccepted watchOk initial := by
  funext q
  rw [startWatcher, foldl_addWatch]
  cases lastAccepted watchOk initial q <;> rfl

/-! ## The running daemon -/

/-- The daemon after start-up: the manager that `main` holds, and the server with the
dispatcher. -/
structure Daemon where
  watcher : WatcherManager
  sys : Sys

/-- One step of the server or the dispatcher. None of them reaches the manager. -/
def Daemon.step (pathExists : PathBuf → Bool) (D : Daemon) (st : Step) : Option Daemon :=
  (D.sys.step pathExists st).map fun S => ⟨D.watcher, S⟩

/-- The states of the daemon started with the configured watches `initial`. -/
inductive DReach (watchOk : WatchConfig → Bool) (initial : List WatchConfig)
    (pathExists : PathBuf → Bool) (ok : Sys → Step → Bool) : Daemon → Prop
  | start : DReach watchOk initial pathExists ok ⟨startWatcher watchOk initial, Sys.init⟩
  | step {D D' : Daemon} {st : Step} : DReach watchOk initial pathExists ok D →
      ok D.sys st = true → D.step pathExists st = some D' → DReach watchOk initial pathExists ok D'

section
variable {watchOk : WatchConfig → Bool} {initial : List WatchConfig} {pathExists : PathBuf → Bool}
  {ok : Sys → Step → Bool}

theorem Daemon.step_watcher {D D' : Daemon} {st : Step} (h : D.step pathExists st = some D') :
    D'.watcher = D.watcher := by
  obtain ⟨S, -, rfl⟩ := Option.map_eq_some'.1 h
  rfl

/-- The manager stays as `start_watcher` left it. -/
theorem DReach.watcher {D : Daemon} (h : DReach watchOk initial pathExists ok D) :
    D.watcher = startWatcher watchOk initial := by
  induction h with
  | start => rfl
  | step _ _ hs ih => rw [Daemon.step_watcher hs, ih]

/-- Every run of the server and the dispatcher is a run of the daemon. -/
theorem DReach.of_reach {S : Sys} (h : Reach pathExists ok S) :
    DReach watchOk initial pathExists ok ⟨startWatcher watchOk initial, S⟩ := by
  induction h with
  | init => exact .start
  | step _ hok hs ih => exact .step ih hok (by simp [Daemon.step, hs])

end

/-- With no configured watch, a client adds a watch on "/tmp/x", which exists. The
registry then holds a live watch there, and the poll watcher polls "/tmp/x" neither then
nor in any later state, whatever the clients send. -/
theorem addWatch_unpolled :
    DReach (fun _ => true) [] (fun _ => true) (fun _ _ => true)
        ⟨startWatcher (fun _ => true) [], afterSubscribe⟩ ∧
      afterSubscribe.reg.watches 1 = some ⟨1, components tmpX, fromBitsTruncate 0x100, true, [1]⟩ ∧
      ∀ D, DReach (fun _ => true) [] (fun _ => true) (fun _ _ => true) D →
        ¬Polled D.watcher (components tmpX) := by
  refine ⟨DReach.of_reach (Reach.run subscribeFirst .init run_subscribeFirst),
    by rw [afterSubscribe_watches]; rfl, fun D hD hp => ?_⟩
  obtain ⟨q, c, hq, -⟩ := hp
  rw [hD.watcher, startWatcher_watched] at hq
  cases hq

end fakenotify.poll
