-- The event dispatcher (`watcher.rs`): what a raw event of the poll watcher
-- becomes. `handle_event` finds the watch (`find_watch_for_path` of `state.rs`),
-- classifies the event, picks a cookie, builds the kernel record, frames it,
-- and sends the frame to the watch's registered clients one after another.
import FakeNotify.Daemon.Server

namespace fakenotify.watcher

open Function
open fakenotify.bytes fakenotify.protocol fakenotify.state fakenotify.path fakenotify.event
  fakenotify.server

/-! ## Raw events -/

/-- `notify::event::RenameMode`. -/
inductive RenameMode
  | Any
  | To
  | From
  | Both
  | Other
deriving DecidableEq

/-- `notify::event::ModifyKind`; what a data or metadata change was is not read. -/
inductive ModifyKind
  | Any
  | Data
  | Metadata
  | Name (mode : RenameMode)
  | Other
deriving DecidableEq

/-- `notify::EventKind`; the sub-kinds of access, create and remove are not read. -/
inductive EventKind
  | Any
  | Access
  | Create
  | Modify (kind : ModifyKind)
  | Remove
  | Other
deriving DecidableEq

/-- `notify_to_inotify_mask`. -/
def notifyToInotifyMask (kind : EventKind) (is_dir : Bool) : Option (BitVec 32) :=
  let base : Option (BitVec 32) :=
    match kind with
    | .Create => some IN_CREATE
    | .Modify .Data => some IN_MODIFY
    | .Modify .Metadata => some IN_ATTRIB
    | .Modify (.Name .From) => some IN_MOVED_FROM
    | .Modify (.Name .To) => some IN_MOVED_TO
    | .Modify (.Name .Both) => some (IN_MOVED_FROM ||| IN_MOVED_TO)
    | .Modify (.Name _) => some IN_MOVE
    | .Modify .Any => some IN_MODIFY
    | .Modify .Other => some IN_MODIFY
    | .Remove => some IN_DELETE
    | .Access => some IN_ACCESS
    | .Other => none
    | .Any => some IN_ALL_EVENTS
  base.map fun m => if is_dir then m ||| IN_ISDIR else m

/-- `WatcherEvent`. -/
structure WatcherEvent where
  path : PathBuf
  kind : EventKind
  is_dir : Bool

/-! ## `find_watch_for_path` -/

/-- `Path::parent`: the path without its last component, when that is a name, `.` or
`..`. -/
def parent (p : PathKey) : Option PathKey :=
  match p.getLast? with
  | some (.Normal _) | some .CurDir | some .ParentDir => some p.dropLast
  | _ => none

/-- The loop of `find_watch_for_path` over the parents of `current`: the first one with
a live recursive watch. `fuel` bounds the parents visited. -/
def findInParents (s : DaemonState PathKey) : Nat → PathKey → Option (WatchInfo PathKey)
  | 0, _ => none
  | fuel + 1, current =>
    match parent current with
    | none => none
    | some p =>
      match (s.path_to_wd p).bind s.watches with
      | some w => if w.recursive then some w else findInParents s fuel p
      | none => findInParents s fuel p

/-- `DaemonState::find_watch_for_path`: the watch of the path itself, else the nearest
parent's recursive watch. Each parent is one component shorter, so the path's length
is fuel enough. -/
def findWatchForPath (s : DaemonState PathKey) (path : PathKey) : Option (WatchInfo PathKey) :=
  match s.path_to_wd path with
  | some wd => s.watches wd
  | none => findInParents s path.length path

/-! ## `handle_event` -/

/-- `Path::strip_prefix`: the components of `p` after those of `base`. -/
def stripPrefix (p base : PathKey) : Option PathKey :=
  if base.isPrefixOf p then some (p.drop base.length) else none

/-- The bytes of one component of a relative path. -/
def Component.bytes : Component → List UInt8
  | .RootDir => []
  | .CurDir => [46]
  | .ParentDir => [46, 46]
  | .Normal name => name

/-- The bytes of a relative path: its components joined by `/`. `Path::strip_prefix`
gives the rest of the event's path as written, with only leading and trailing
separators and `.` trimmed, so a `//` or an interior `.` past the watch's path stays in
the name, where `render` writes the normal form. The poll watcher builds event paths by
joining entry names to a configured path, so the two differ only when a configured path
has such a piece below the watch's path. -/
def render (comps : List Component) : List UInt8 := [47].intercalate (comps.map Component.bytes)

/-- `EventDispatcher`'s state, with the global `COOKIE_COUNTER`. -/
structure Dispatcher where
  pending_renames : PathKey → Option (BitVec 32)
  cookie : BitVec 32

/-- `EventDispatcher::new`, with the counter at its start. -/
def Dispatcher.new : Dispatcher := ⟨fun _ => none, 1⟩

/-- `next_cookie`: `fetch_add(1)` on the counter, which wraps. -/
def nextCookie (d : Dispatcher) : BitVec 32 × Dispatcher := (d.cookie, { d with cookie := d.cookie + 1 })

/-- The cookie of an event with mask `mask` on `key`: a new one for a move's source,
the source's for its target, 0 otherwise. -/
def pickCookie (d : Dispatcher) (key : PathKey) (mask : BitVec 32) : BitVec 32 × Dispatcher :=
  if intersects mask IN_MOVED_FROM then
    let (c, d) := nextCookie d
    (c, { d with pending_renames := update d.pending_renames key (some c) })
  else if intersects mask IN_MOVED_TO then
    match d.pending_renames key with
    | some c => (c, { d with pending_renames := update d.pending_renames key none })
    | none => nextCookie d
  else (0, d)

/-- The record of an event on `key` for the watch `watch`: with the name relative to the
watch when there is one and it is UTF-8, else the header alone. -/
def eventBytes (watch : WatchInfo PathKey) (key : PathKey) (mask cookie : BitVec 32) :
    List UInt8 :=
  let ev := InotifyEvent.new watch.wd mask cookie
  match (stripPrefix key watch.path).bind fun rest => PathBuf.toStr (render rest) with
  | some name => ev.toBytesWithName name.1
  | none => ev.headerToBytes

/-- `EventDispatcher::handle_event`: the dispatcher's next state, and the frame it sends
with the clients it sends it to, in order; `none` when it sends nothing. -/
def handleEvent (s : DaemonState PathKey) (d : Dispatcher) (ev : WatcherEvent) :
    Dispatcher × Option (List UInt8 × List ClientId) :=
  match findWatchForPath s (components ev.path) with
  | none => (d, none)
  | some watch =>
    match notifyToInotifyMask ev.kind ev.is_dir with
    | none => (d, none)
    | some mask =>
      if !intersects watch.mask mask then (d, none)
      else
        let (cookie, d) := pickCookie d (components ev.path) mask
        (d, some (FramedMessage.frame (eventBytes watch (components ev.path) mask cookie),
          getClientsForWatch s watch.wd))

/-- What `handle_event` sends is the frame of a kernel record, to the clients that
`get_clients_for_watch` returns for the watch found. -/
theorem handleEvent_sends {s : DaemonState PathKey} {d d' : Dispatcher} {ev : WatcherEvent}
    {f : List UInt8} {cs : List ClientId} (h : handleEvent s d ev = (d', some (f, cs))) :
    ∃ watch mask cookie, f = FramedMessage.frame (eventBytes watch (components ev.path) mask cookie) ∧
      cs = getClientsForWatch s watch.wd := by
  unfold handleEvent at h
  split at h
  · cases h
  · next watch _ =>
    split at h
    · cases h
    · next mask _ =>
      split at h
      · cases h
      · simp only [Prod.mk.injEq, Option.some.injEq] at h
        exact ⟨watch, mask, _, h.2.1.symm, h.2.2.symm⟩

/-! ## What `handle_event` reads of the registry -/

theorem findInParents_congr {s t : DaemonState PathKey} (hp : s.path_to_wd = t.path_to_wd)
    (hw : s.watches = t.watches) : ∀ fuel current, findInParents s fuel current = findInParents t fuel current
  | 0, _ => rfl
  | fuel + 1, current => by
    simp only [findInParents, hp, hw, findInParents_congr hp hw fuel]

/-- `handle_event` reads the two tables, and of the clients map only whether the
subscribers of a watch are registered. -/
theorem handleEvent_congr {s t : DaemonState PathKey} (hp : s.path_to_wd = t.path_to_wd)
    (hw : s.watches = t.watches)
    (hc : ∀ wd w c, t.watches wd = some w → c ∈ w.clients → (s.clients c).isSome = (t.clients c).isSome)
    (d : Dispatcher) (ev : WatcherEvent) : handleEvent s d ev = handleEvent t d ev := by
  have hf : findWatchForPath s = findWatchForPath t := by
    funext path
    simp only [findWatchForPath, hp, hw, findInParents_congr hp hw]
  have hg : getClientsForWatch s = getClientsForWatch t := by
    funext wd
    simp only [getClientsForWatch, hw]
    split
    · next w hwd => exact List.filter_congr fun c hc' => hc wd w c hwd hc'
    · rfl
  simp only [handleEvent, hf, hg]

end fakenotify.watcher
