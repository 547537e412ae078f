-- What the dispatcher sends for a raw event (`handle_event` of `watcher.rs`):
-- which events pass the watch's mask, who gets the frame, the name in the
-- record, and the cookies that pair the two halves of a rename.
import FakeNotify.Daemon.Attribution

namespace fakenotify.watcher

open Function
open fakenotify.bytes fakenotify.protocol fakenotify.state fakenotify.path fakenotify.event
  fakenotify.server

/-! ## `handle_event`, branch by branch -/

section
variable {s : DaemonState PathKey} {d : Dispatcher} {ev : WatcherEvent}

/-- The event reaches a watch whose mask it meets: the dispatcher picks the cookie and
sends the record's frame to the watch's registered clients. -/
theorem handleEvent_of_match {w : WatchInfo PathKey} {m : BitVec 32}
    (hw : findWatchForPath s (components ev.path) = some w)
    (hm : notifyToInotifyMask ev.kind ev.is_dir = some m) (hi : intersects w.mask m = true) :
    handleEvent s d ev = ((pickCookie d (components ev.path) m).2,
      some (FramedMessage.frame (eventBytes w (components ev.path) m
        (pickCookie d (components ev.path) m).1), getClientsForWatch s w.wd)) := by
  simp [handleEvent, hw, hm, hi]

/-- Otherwise it sends nothing and keeps its state. -/
theorem handleEvent_of_no_match
    (h : ∀ w m, findWatchForPath s (components ev.path) = some w →
      notifyToInotifyMask ev.kind ev.is_dir = some m → intersects w.mask m = false) :
    handleEvent s d ev = (d, none) := by
  unfold handleEvent
  split
  · rfl
  · next w hw =>
    split
    · rfl
    · next m hm => simp [h w m hw hm]

/-- `handle_event` sends a frame exactly when the path has a watch, the event's kind a
mask, and the two meet. -/
theorem handleEvent_sends_iff :
    (∃ d' f cs, handleEvent s d ev = (d', some (f, cs))) ↔
      ∃ w m, findWatchForPath s (components ev.path) = some w ∧
        notifyToInotifyMask ev.kind ev.is_dir = some m ∧ intersects w.mask m = true := by
  constructor
  · rintro ⟨d', f, cs, he⟩
    by_contra hn
    push_neg at hn
    rw [handleEvent_of_no_match fun w m hw hm => by simpa using hn w m hw hm] at he
    cases he
  · rintro ⟨w, m, hw, hm, hi⟩
    exact ⟨_, _, _, handleEvent_of_match hw hm hi⟩

end

/-! ## The record in the frame -/

/-- The record a client reads from a frame: the header after the four bytes of
length. -/
def recordOf (f : List UInt8) : Option InotifyEvent := InotifyEvent.fromBytes (f.drop 4)

/-- The record of an event carries the watch's descriptor, the event's mask and the
cookie, with a name or without one. -/
theorem recordOf_eventBytes (w : WatchInfo PathKey) (key : PathKey) (m c : BitVec 32) :
    ∃ len, recordOf (FramedMessage.frame (eventBytes w key m c)) = some ⟨w.wd, m, c, len⟩ := by
  simp only [recordOf, FramedMessage.drop_frame, eventBytes]
  split
  · exact ⟨_, fromBytes_toBytesWithName _ _⟩
  · exact ⟨0, by simpa using fromBytes_headerToBytes (InotifyEvent.new w.wd m c) []⟩

/-! ## Who gets the frame -/

section
variable {s : DaemonState PathKey} {d d' : Dispatcher} {ev : WatcherEvent}

/-- Under the registry invariant every subscriber of a live watch is registered, so
`get_clients_for_watch` returns the watch's own list. -/
theorem getClientsForWatch_of_registry (h : Registry s) {wd : WatchDescriptor}
    {w : WatchInfo PathKey} (hw : s.watches wd = some w) :
    getClientsForWatch s wd = w.clients ∧ ∀ c ∈ w.clients, (s.clients c).isSome := by
  have hreg : ∀ c ∈ w.clients, (s.clients c).isSome := fun c hc => by
    obtain ⟨ws, hws, -⟩ := (h.subscribed_iff c wd).1 ⟨w, hw, hc⟩
    simp [hws]
  refine ⟨?_, hreg⟩
  simp only [getClientsForWatch, hw]
  exact List.filter_eq_self.2 hreg

/-- Under the registry invariant a frame that `handle_event` sends goes once to each
client of the watch found, all registered, and to no other; its record has the watch's
descriptor and the event's mask, `IN_ISDIR` included for a directory. -/
theorem handleEvent_fanout (h : Registry s) {f : List UInt8} {cs : List ClientId}
    (he : handleEvent s d ev = (d', some (f, cs))) :
    ∃ w m, findWatchForPath s (components ev.path) = some w ∧
      notifyToInotifyMask ev.kind ev.is_dir = some m ∧ intersects w.mask m = true ∧
      cs = w.clients ∧ cs ≠ [] ∧ cs.Nodup ∧ (∀ c ∈ cs, (s.clients c).isSome) ∧
      ∃ e, recordOf f = some e ∧ e.wd = w.wd ∧ e.mask = m := by
  obtain ⟨w, m, hw, hm, hi⟩ := handleEvent_sends_iff.1 ⟨_, _, _, he⟩
  rw [handleEvent_of_match hw hm hi] at he
  simp only [Prod.mk.injEq, Option.some.injEq] at he
  obtain ⟨-, rfl, rfl⟩ := he
  have hwd := (findWatchForPath_some h.1 hw).1
  obtain ⟨hcl, hreg⟩ := getClientsForWatch_of_registry h hwd
  obtain ⟨len, hl⟩ := recordOf_eventBytes w (components ev.path) m
    (pickCookie d (components ev.path) m).1
  rw [hcl]
  exact ⟨w, m, hw, hm, hi, rfl, h.clients_ne_nil _ w hwd, h.clients_nodup _ w hwd, hreg, _, hl,
    rfl, rfl⟩

end

/-- "/tmp/x" watched by client 1 for `IN_MODIFY | IN_ISDIR`: `from_bits_truncate` keeps
both bits. -/
def isDirWatch : DaemonState PathKey :=
  (handleRequest (fun _ => true) (registerClient DaemonState.new).1 1
    (.AddWatch tmpX 0x40000002)).1

/-- A directory created in "/tmp/x" reaches a client that asked for modifications only.
Its kind's mask `IN_CREATE` misses the watch's `IN_MODIFY`, but `handle_event` tests the
mask with `IN_ISDIR` added, and the watch's mask has `IN_ISDIR` too. -/
theorem handleEvent_isDir_passes :
    (isDirWatch.watches 1).map (·.mask) = some (IN_MODIFY ||| IN_ISDIR) ∧
    notifyToInotifyMask .Create false = some IN_CREATE ∧
    intersects (IN_MODIFY ||| IN_ISDIR) IN_CREATE = false ∧
    (handleEvent isDirWatch Dispatcher.new ⟨tmpX ++ utf8Bytes "/d", .Create, true⟩).2 =
      some (FramedMessage.frame
        ((InotifyEvent.new 1 (IN_CREATE ||| IN_ISDIR) 0).toBytesWithName (utf8Bytes "d")), [1]) := by
  decide

/-! ## The name in the record -/

theorem stripPrefix_of_prefix {key base : PathKey} (h : base <+: key) :
    stripPrefix key base = some (key.drop base.length) := by
  simp [stripPrefix, List.isPrefixOf_iff_prefix.2 h]

/-- The record of an event on `key` for a watch at a prefix of `key`: the rest of the
path joined by '/', NUL-terminated and padded, when those bytes are UTF-8; the header
alone, `len = 0`, when they are not. At the watch's own path the rest is empty and the
record still has a name, of four NULs. -/
theorem eventBytes_of_prefix (w : WatchInfo PathKey) {key : PathKey} (h : w.path <+: key)
    (m c : BitVec 32) :
    eventBytes w key m c =
      if utf8Valid (render (key.drop w.path.length)) then
        (InotifyEvent.new w.wd m c).toBytesWithName (render (key.drop w.path.length))
      else (InotifyEvent.new w.wd m c).headerToBytes := by
  simp only [eventBytes, stripPrefix_of_prefix h, Option.some_bind, PathBuf.toStr]
  split_ifs <;> rfl

/-- Under the registry invariant every frame sent is for a watch at the event's path or
above it, so the record's name is the rest of the path when that is UTF-8. -/
theorem handleEvent_record {s : DaemonState PathKey} {d d' : Dispatcher} {ev : WatcherEvent}
    (h : Registry s) {f : List UInt8} {cs : List ClientId}
    (he : handleEvent s d ev = (d', some (f, cs))) :
    ∃ w m c, findWatchForPath s (components ev.path) = some w ∧
      w.path <+: components ev.path ∧
      f = FramedMessage.frame
        (if utf8Valid (render ((components ev.path).drop w.path.length)) then
          (InotifyEvent.new w.wd m c).toBytesWithName (render ((components ev.path).drop w.path.length))
        else (InotifyEvent.new w.wd m c).headerToBytes) := by
  obtain ⟨w, m, hw, hm, hi⟩ := handleEvent_sends_iff.1 ⟨_, _, _, he⟩
  rw [handleEvent_of_match hw hm hi] at he
  simp only [Prod.mk.injEq, Option.some.injEq] at he
  have hpre : w.path <+: components ev.path := by
    rcases (findWatchForPath_some h.1 hw).2 with hp | ha
    · exact hp ▸ List.prefix_refl _
    · exact ha.prefix
  exact ⟨w, m, _, hw, hpre, by rw [← he.2.1, eventBytes_of_prefix w hpre]⟩

/-- "/tmp/x" watched by client 1 for every event. -/
def allEventsWatch : DaemonState PathKey :=
  (handleRequest (fun _ => true) (registerClient DaemonState.new).1 1 (.AddWatch tmpX 0xFFF)).1

/-- An event on the watched directory itself gets a name of four NULs, `len = 4`; an
event on a file whose name is the byte `0xFF`, not UTF-8, gets no name, `len = 0`. -/
theorem handleEvent_names_diverge :
    (handleEvent allEventsWatch Dispatcher.new ⟨tmpX, .Modify .Metadata, true⟩).2 =
      some (FramedMessage.frame
        ((InotifyEvent.new 1 (IN_ATTRIB ||| IN_ISDIR) 0).toBytesWithName []), [1]) ∧
    recordOf (FramedMessage.frame
        ((InotifyEvent.new 1 (IN_ATTRIB ||| IN_ISDIR) 0).toBytesWithName [])) =
      some ⟨1, IN_ATTRIB ||| IN_ISDIR, 0, 4⟩ ∧
    (handleEvent allEventsWatch Dispatcher.new ⟨tmpX ++ [47, 0xFF], .Create, false⟩).2 =
      some (FramedMessage.frame (InotifyEvent.new 1 IN_CREATE 0).headerToBytes, [1]) ∧
    recordOf (FramedMessage.frame (InotifyEvent.new 1 IN_CREATE 0).headerToBytes) =
      some ⟨1, IN_CREATE, 0, 0⟩ := by
  decide

/-! ## Rename cookies -/

/-- The cookie of the record `handle_event` sent, if it sent one. -/
def sentCookie (out : Option (List UInt8 × List ClientId)) : Option (BitVec 32) :=
  out.bind fun p => (recordOf p.1).map (·.cookie)

/-- What the cookie choice can do: draw a new cookie from the counter (and perhaps
remember it for the path), take the cookie pending for the path, or give 0. -/
theorem pickCookie_cases (d : Dispatcher) (key : PathKey) (m : BitVec 32) :
    (∃ d', pickCookie d key m = (d.cookie, d') ∧ d'.cookie = d.cookie + 1 ∧
      ∀ k c, d'.pending_renames k = some c → c = d.cookie ∨ d.pending_renames k = some c) ∨
    (∃ c d', pickCookie d key m = (c, d') ∧ d.pending_renames key = some c ∧
      d'.cookie = d.cookie ∧ ∀ k c', d'.pending_renames k = some c' → d.pending_renames k = some c') ∨
    pickCookie d key m = (0, d) := by
  unfold pickCookie nextCookie
  split_ifs
  · refine .inl ⟨_, rfl, rfl, fun k c hk => ?_⟩
    rcases update_eq_some hk with ⟨-, h⟩ | ⟨-, h⟩
    exacts [.inl h, .inr h]
  · split
    · next c hc =>
      refine .inr (.inl ⟨c, _, rfl, hc, rfl, fun k c' hk => ?_⟩)
      by_cases hk' : k = key
      · subst hk'; simp at hk
      · simpa [update_noteq hk'] using hk
    · exact .inl ⟨_, rfl, rfl, fun k c hk => .inr hk⟩
  · exact .inr (.inr rfl)

/-- A `MOVED_FROM` half draws a new cookie and leaves it pending for its path. -/
theorem pickCookie_movedFrom {m : BitVec 32} (h : intersects m IN_MOVED_FROM = true)
    (d : Dispatcher) (key : PathKey) :
    pickCookie d key m =
      (d.cookie, ⟨update d.pending_renames key (some d.cookie), d.cookie + 1⟩) := by
  simp [pickCookie, nextCookie, h]

/-- A `MOVED_TO` half takes the cookie pending for its own path, or a new one. -/
theorem pickCookie_movedTo {m : BitVec 32} (hf : intersects m IN_MOVED_FROM = false)
    (ht : intersects m IN_MOVED_TO = true) (d : Dispatcher) (key : PathKey) :
    (pickCookie d key m).1 = (d.pending_renames key).getD d.cookie := by
  simp only [pickCookie, nextCookie, hf, ht, Bool.false_eq_true, if_false, if_true]
  split <;> simp_all

/-- A watch whose mask has every bit of `k` meets each mask that meets `k`. -/
theorem intersects_of_and_eq {a k m : BitVec 32} (h : a &&& k = k) (hm : k &&& m ≠ 0) :
    intersects a m = true := by
  simp only [intersects, bne_iff_ne, ne_eq]
  intro h0
  apply hm
  calc k &&& m = (a &&& k) &&& m := by rw [h]
    _ = k &&& (a &&& m) := by rw [BitVec.and_comm a k, BitVec.and_assoc]
    _ = 0 := by rw [h0]; simp

/-- The mask of a `MOVED_FROM` half: it draws a cookie, and meets every watch whose
mask has `IN_MOVE`. -/
theorem movedFrom_mask (dir : Bool) :
    ∃ m, notifyToInotifyMask (.Modify (.Name .From)) dir = some m ∧
      intersects m IN_MOVED_FROM = true ∧ ∀ a, a &&& IN_MOVE = IN_MOVE → intersects a m = true := by
  cases dir <;> exact ⟨_, rfl, by decide, fun a h => intersects_of_and_eq h (by decide)⟩

/-- The mask of a `MOVED_TO` half: it takes a pending cookie, and meets every watch whose
mask has `IN_MOVE`. -/
theorem movedTo_mask (dir : Bool) :
    ∃ m, notifyToInotifyMask (.Modify (.Name .To)) dir = some m ∧
      intersects m IN_MOVED_FROM = false ∧ intersects m IN_MOVED_TO = true ∧
      ∀ a, a &&& IN_MOVE = IN_MOVE → intersects a m = true := by
  cases dir <;> exact ⟨_, rfl, by decide, by decide, fun a h => intersects_of_and_eq h (by decide)⟩

/-- The record sent carries the cookie picked. -/
theorem sentCookie_of_match {s : DaemonState PathKey} {d : Dispatcher} {ev : WatcherEvent}
    {w : WatchInfo PathKey} {m : BitVec 32}
    (hw : findWatchForPath s (components ev.path) = some w)
    (hm : notifyToInotifyMask ev.kind ev.is_dir = some m) (hi : intersects w.mask m = true) :
    sentCookie (handleEvent s d ev).2 = some (pickCookie d (components ev.path) m).1 := by
  rw [handleEvent_of_match hw hm hi]
  obtain ⟨len, hl⟩ := recordOf_eventBytes w (components ev.path) m
    (pickCookie d (components ev.path) m).1
  simp [sentCookie, hl]

/-! ## Cookies over a run of the dispatcher -/

/-- The dispatcher over a sequence of raw events, each handled against the registry of
its moment (clients come and go between events): the dispatcher after them, and the
frames it sent, in order. -/
def dispatchAll : Dispatcher → List (DaemonState PathKey × WatcherEvent) →
    Dispatcher × List (List UInt8)
  | d, [] => (d, [])
  | d, (s, ev) :: rest =>
    let r := dispatchAll (handleEvent s d ev).1 rest
    (r.1, ((handleEvent s d ev).2.map Prod.fst).toList ++ r.2)

/-- A run in which `COOKIE_COUNTER` never wraps. -/
def CookieRun : Dispatcher → List (DaemonState PathKey × WatcherEvent) → Prop
  | _, [] => True
  | d, (s, ev) :: rest =>
    d.cookie.toNat ≤ (handleEvent s d ev).1.cookie.toNat ∧ CookieRun (handleEvent s d ev).1 rest

instance decCookieRun : (d : Dispatcher) → (evs : List (DaemonState PathKey × WatcherEvent)) →
    Decidable (CookieRun d evs)
  | _, [] => isTrue trivial
  | d, (s, ev) :: rest =>
    have := decCookieRun (handleEvent s d ev).1 rest
    inferInstanceAs (Decidable (_ ∧ _))

/-- Every cookie drawn so far is non-zero and below the counter: those pending and those
of the records sent. -/
structure CookiesBelow (d : Dispatcher) (fs : List (List UInt8)) : Prop where
  pos : 1 ≤ d.cookie.toNat
  pending : ∀ k c, d.pending_renames k = some c → 1 ≤ c.toNat ∧ c.toNat < d.cookie.toNat
  sent : ∀ f ∈ fs, ∀ e, recordOf f = some e →
    e.cookie = 0 ∨ 1 ≤ e.cookie.toNat ∧ e.cookie.toNat < d.cookie.toNat

theorem cookiesBelow_new : CookiesBelow Dispatcher.new [] :=
  ⟨by decide, (fun _ _ h => by cases h), (fun _ h => by cases h)⟩

/-- Each event that does not wrap the counter keeps every cookie below it. -/
theorem CookiesBelow.step {d : Dispatcher} {fs : List (List UInt8)} (hI : CookiesBelow d fs)
    {s : DaemonState PathKey} {ev : WatcherEvent}
    (hn : d.cookie.toNat ≤ (handleEvent s d ev).1.cookie.toNat) :
    CookiesBelow (handleEvent s d ev).1 (fs ++ ((handleEvent s d ev).2.map Prod.fst).toList) := by
  by_cases hmatch : ∃ w m, findWatchForPath s (components ev.path) = some w ∧
      notifyToInotifyMask ev.kind ev.is_dir = some m ∧ intersects w.mask m = true
  · obtain ⟨w, m, hw, hm, hi⟩ := hmatch
    rw [handleEvent_of_match hw hm hi] at hn ⊢
    obtain ⟨len, hl⟩ := recordOf_eventBytes w (components ev.path) m
      (pickCookie d (components ev.path) m).1
    -- the frames sent, the new one included, against a counter `n` at least `d`'s
    have hsent : ∀ n : Nat, d.cookie.toNat ≤ n → ((pickCookie d (components ev.path) m).1 = 0 ∨
          1 ≤ (pickCookie d (components ev.path) m).1.toNat ∧
            (pickCookie d (components ev.path) m).1.toNat < n) →
        ∀ f ∈ fs ++ [FramedMessage.frame (eventBytes w (components ev.path) m
          (pickCookie d (components ev.path) m).1)],
        ∀ e, recordOf f = some e → e.cookie = 0 ∨ 1 ≤ e.cookie.toNat ∧ e.cookie.toNat < n := by
      intro n hle hc f hf e he
      rcases List.mem_append.1 hf with hf | hf
      · rcases hI.sent f hf e he with h0 | ⟨h1, h2⟩
        exacts [.inl h0, .inr ⟨h1, by omega⟩]
      · rw [List.mem_singleton.1 hf, hl, Option.some.injEq] at he
        exact he ▸ hc
    simp only [Option.map_some', Option.toList_some]
    rcases pickCookie_cases d (components ev.path) m with ⟨d', hp, hc, hpend⟩ |
      ⟨c, d', hp, hpc, hc, hpend⟩ | hp
    · rw [hp] at hn hsent ⊢
      dsimp only at hn hsent ⊢
      have hsucc : d'.cookie.toNat = d.cookie.toNat + 1 := by
        rw [hc]; exact toNat_succ (hc ▸ hn)
      refine ⟨by omega, fun k c hk => ?_, hsent _ (by omega) (.inr ⟨hI.pos, by omega⟩)⟩
      rcases hpend k c hk with rfl | hk
      · exact ⟨hI.pos, by omega⟩
      · have := hI.pending k c hk; omega
    · rw [hp] at hn hsent ⊢
      dsimp only at hn hsent ⊢
      have hcp := hI.pending _ c hpc
      refine ⟨hc ▸ hI.pos, fun k c' hk => ?_, hsent _ (by rw [hc]) (.inr ⟨hcp.1, hc ▸ hcp.2⟩)⟩
      exact hc ▸ hI.pending k c' (hpend k c' hk)
    · rw [hp] at hsent ⊢
      dsimp only at hsent ⊢
      exact ⟨hI.pos, hI.pending, hsent _ le_rfl (.inl rfl)⟩
  · push_neg at hmatch
    rw [handleEvent_of_no_match fun w m hw hm => by simpa using hmatch w m hw hm]
    simpa using hI

theorem CookiesBelow.run : ∀ {d : Dispatcher} {fs : List (List UInt8)}
    {evs : List (DaemonState PathKey × WatcherEvent)}, CookiesBelow d fs → CookieRun d evs →
    CookiesBelow (dispatchAll d evs).1 (fs ++ (dispatchAll d evs).2)
  | _, _, [], hI, _ => by simpa [dispatchAll] using hI
  | _, _, (_, _) :: _, hI, hr => by
    simpa [dispatchAll] using (hI.step hr.1).run hr.2

/-- What the two halves of a rename carry. Take any registry, any dispatcher state and a
watch `w` whose mask has `IN_MOVE`; let `handle_event` take a `MOVED_FROM` for a path `X`
and then a `MOVED_TO` for a path `Y`, both under `w`. The first record carries the
counter's cookie `c`, which `pending_renames` keeps under `X`. The second looks its
cookie up under its own path `Y`, so it carries `c` only when `Y` is `X` (as `PathBuf`
compares). For a rename proper, where `Y` differs from `X`, it carries the cookie
pending for `Y`, or the fresh `c + 1` when none is. In a run from
`EventDispatcher::new` in which the counter has not wrapped, `c` is non-zero and no
record sent before carries it, so the two halves of a rename between two paths never
share a cookie. -/
theorem renameCookies {s : DaemonState PathKey} {w : WatchInfo PathKey}
    (hmove : w.mask &&& IN_MOVE = IN_MOVE) {X Y : PathBuf}
    (hX : findWatchForPath s (components X) = some w)
    (hY : findWatchForPath s (components Y) = some w) (dX dY : Bool) (d : Dispatcher) :
    let e1 := handleEvent s d ⟨X, .Modify (.Name .From), dX⟩;
    let e2 := handleEvent s e1.1 ⟨Y, .Modify (.Name .To), dY⟩;
    sentCookie e1.2 = some d.cookie ∧
    sentCookie e2.2 = some (if components Y = components X then d.cookie
      else (d.pending_renames (components Y)).getD (d.cookie + 1)) ∧
    ∀ evs, CookieRun Dispatcher.new evs → (dispatchAll Dispatcher.new evs).1 = d →
      d.cookie ≠ 0 ∧ (sentCookie e1.2 = sentCookie e2.2 ↔ components Y = components X) ∧
      ∀ f ∈ (dispatchAll Dispatcher.new evs).2, (recordOf f).map (·.cookie) ≠ some d.cookie := by
  intro e1 e2
  obtain ⟨mF, hmF, hfF, hwF⟩ := movedFrom_mask dX
  obtain ⟨mT, hmT, hfT, htT, hwT⟩ := movedTo_mask dY
  have hF : handleEvent s d ⟨X, .Modify (.Name .From), dX⟩ = _ :=
    handleEvent_of_match hX hmF (hwF _ hmove)
  -- the first half draws `d.cookie` and leaves it pending for `X`
  have hd1 : e1.1 = ⟨update d.pending_renames (components X) (some d.cookie), d.cookie + 1⟩ := by
    simp only [e1, hF, pickCookie_movedFrom hfF]
  have hc1 : sentCookie e1.2 = some d.cookie := by
    have h : sentCookie (handleEvent s d ⟨X, .Modify (.Name .From), dX⟩).2 = _ :=
      sentCookie_of_match hX hmF (hwF _ hmove)
    rwa [pickCookie_movedFrom hfF] at h
  -- the second half looks up its own path
  have hc2 : sentCookie e2.2 = some (if components Y = components X then d.cookie
      else (d.pending_renames (components Y)).getD (d.cookie + 1)) := by
    have h : sentCookie (handleEvent s e1.1 ⟨Y, .Modify (.Name .To), dY⟩).2 = _ :=
      sentCookie_of_match hY hmT (hwT _ hmove)
    rw [h, pickCookie_movedTo hfT htT, hd1]
    by_cases hk : components Y = components X
    · rw [if_pos hk]; dsimp only; rw [hk, update_same]; rfl
    · simp [hk, update_noteq hk]
  refine ⟨hc1, hc2, fun evs hrun hd => ?_⟩
  have hI := cookiesBelow_new.run hrun
  rw [hd, List.nil_append] at hI
  have hpos : d.cookie ≠ 0 := fun h0 => by simpa [h0] using hI.pos
  refine ⟨hpos, ?_, fun f hf hc => ?_⟩
  · rw [hc1, hc2]
    split_ifs with hk
    · exact iff_of_true rfl hk
    refine iff_of_false (fun he => ?_) hk
    rw [Option.some.injEq] at he
    cases hp : d.pending_renames (components Y) with
    | none =>
      rw [hp, Option.getD_none] at he
      bv_omega
    | some c =>
      rw [hp, Option.getD_some] at he
      have := (hI.pending _ c hp).2
      rw [← he] at this
      exact lt_irrefl _ this
  · obtain ⟨e, he, hce⟩ := Option.map_eq_some'.1 hc
    rcases hI.sent f hf e he with h0 | ⟨-, hlt⟩
    · exact hpos (hce ▸ h0)
    · rw [hce] at hlt
      exact lt_irrefl _ hlt

/-- "/tmp/x" watched by client 1 for `IN_MOVE`. -/
def moveWatch : DaemonState PathKey :=
  (handleRequest (fun _ => true) (registerClient DaemonState.new).1 1 (.AddWatch tmpX 0xC0)).1

/-- "/tmp/x/old.txt" and "/tmp/x/new.txt". -/
def oldTxt : PathBuf := tmpX ++ utf8Bytes "/old.txt"
def newTxt : PathBuf := tmpX ++ utf8Bytes "/new.txt"

/-- A file in the watched "/tmp/x" renamed from "old.txt" to "new.txt": the two records
carry the cookies 1 and 2, since the `MOVED_TO` half finds no cookie pending for
"new.txt". And with the counter at 0 (after a wrap) the first half's cookie is 0. -/
theorem renameCookies_oldNew :
    sentCookie (handleEvent moveWatch Dispatcher.new ⟨oldTxt, .Modify (.Name .From), false⟩).2 =
      some 1 ∧
    sentCookie (handleEvent moveWatch
      (handleEvent moveWatch Dispatcher.new ⟨oldTxt, .Modify (.Name .From), false⟩).1
      ⟨newTxt, .Modify (.Name .To), false⟩).2 = some 2 ∧
    sentCookie (handleEvent moveWatch ⟨fun _ => none, 0⟩ ⟨oldTxt, .Modify (.Name .From), false⟩).2 =
      some 0 := by
  decide

/-! ## What `pending_renames` keeps -/

end fakenotify.watcher
