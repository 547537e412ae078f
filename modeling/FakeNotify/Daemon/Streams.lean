-- What each client's socket receives, over every interleaving of the handlers
-- and the dispatcher: whole frames, the greeting first, then the event frames
-- in the order the dispatcher handled their events. It rests on two facts: a
-- client has no subscription before its greeting is begun, which holds while
-- `next_client_id` does not wrap, and the per-client mutex keeps each frame's
-- bytes together.
import FakeNotify.Daemon.System

namespace fakenotify.system

open Function
open fakenotify.bytes fakenotify.protocol fakenotify.state fakenotify.path fakenotify.event
  fakenotify.server fakenotify.watcher

/-- The steps under which `next_client_id` does not wrap: each `accept` finds it below
`u64::MAX`. -/
def noIdWrap (S : Sys) : Step → Bool
  | .accept _ => decide (S.reg.next_client_id.toNat + 1 < 2 ^ 64)
  | _ => true

/-- A frame of the protocol: a payload behind its length. -/
def IsFrame (f : List UInt8) : Prop := ∃ payload, f = FramedMessage.frame payload

/-- What the socket `k` of the daemon `S` keeps, in the state `σ`. Before its greeting
is begun, a client subscribes to nothing and is in no fan-out. -/
structure SockInv (S : Sys) (k : Nat) (σ : Sock) : Prop where
  whole : σ.out ++ σ.pending = (σ.log.map Sent.frame).flatten
  framed : ∀ e ∈ σ.log, IsFrame e.frame
  reply_framed : ∀ f, σ.reply = some f → IsFrame f
  greeted : σ.log.head? = some (.reply (greeting σ.id)) ∨
    σ.log = [] ∧ σ.lock = none ∧
      (σ.phase = .greet ∧ σ.reply = none ∨ σ.phase = .serve ∧ σ.reply = some (greeting σ.id))
  unsubscribed : σ.log = [] → (∀ wd, ¬Subscribed S.reg σ.id wd) ∧ ∀ p ∈ S.fanout, p.1 ≠ k
  id_lt : σ.id.toNat < S.reg.next_client_id.toNat
  nums_le : ∀ n ∈ σ.nums, n ≤ S.events
  nums_sorted : σ.nums.Pairwise (· ≤ ·)

/-- The daemon's invariant while `next_client_id` does not wrap: every socket keeps
`SockInv`; `owner` points at the connection of that id; ids are distinct and below
`next_client_id`, and so is every subscriber; the fan-out names accepted connections and
carries frames. -/
structure Inv (S : Sys) : Prop where
  sock : ∀ k σ, S.socks k = some σ → SockInv S k σ
  owner : ∀ id k, S.owner id = some k → ∃ σ, S.socks k = some σ ∧ σ.id = id
  distinct : ∀ k k' σ σ', S.socks k = some σ → S.socks k' = some σ' → σ.id = σ'.id → k = k'
  subscribed_lt : ∀ x wd, Subscribed S.reg x wd → x.toNat < S.reg.next_client_id.toNat
  unused : ∀ k, S.accepted ≤ k → S.socks k = none
  fanout_lt : ∀ p ∈ S.fanout, p.1 < S.accepted
  fanout_framed : ∀ p ∈ S.fanout, IsFrame p.2

section
variable {S S' : Sys} {k : Nat} {σ : Sock}

/-- A handler that serves with nothing to send has begun its greeting. -/
theorem SockInv.log_ne_nil_of_idle (h : SockInv S k σ) (hp : σ.phase = .serve) (hi : σ.handlerIdle) :
    σ.log ≠ [] := by
  rcases h.greeted with hg | ⟨-, -, ⟨hp', -⟩ | ⟨-, hr⟩⟩
  · intro he; simp [he] at hg
  · rw [hp] at hp'; cases hp'
  · rw [Sock.reply_of_handlerIdle hi] at hr; cases hr

/-- A socket whose mutex is held has begun its greeting. -/
theorem SockInv.log_ne_nil_of_lock (h : SockInv S k σ) {l : Writer × List UInt8}
    (hl : σ.lock = some l) : σ.log ≠ [] := by
  rcases h.greeted with hg | ⟨-, hl', -⟩
  · intro he; simp [he] at hg
  · rw [hl] at hl'; cases hl'

/-- After its greeting is begun, what the handler is and has to send can change. -/
theorem SockInv.handler (h : SockInv S k σ) (hlog : σ.log ≠ []) (p : Phase) (r : Option (List UInt8))
    (hr : ∀ f, r = some f → IsFrame f) : SockInv S k { σ with phase := p, reply := r } :=
  ⟨h.whole, h.framed, hr, .inl (h.greeted.resolve_right fun hl => hlog hl.1),
    fun hl => absurd hl hlog, h.id_lt, h.nums_le, h.nums_sorted⟩

/-- The invariant of a socket survives a step elsewhere that hands out no lower id,
handles no fewer events, and neither subscribes it nor puts it in the fan-out before its
greeting. -/
theorem SockInv.mono (h : SockInv S k σ)
    (hnext : S.reg.next_client_id.toNat ≤ S'.reg.next_client_id.toNat) (hev : S.events ≤ S'.events)
    (hfresh : σ.log = [] → (∀ wd, Subscribed S'.reg σ.id wd → Subscribed S.reg σ.id wd) ∧
      ∀ p ∈ S'.fanout, p.1 = k → p ∈ S.fanout) : SockInv S' k σ where
  whole := h.whole
  framed := h.framed
  reply_framed := h.reply_framed
  greeted := h.greeted
  unsubscribed hl := by
    obtain ⟨hsub, hfan⟩ := h.unsubscribed hl
    exact ⟨fun wd hs => hsub wd ((hfresh hl).1 wd hs),
      fun p hp he => hfan p ((hfresh hl).2 p hp he) he⟩
  id_lt := lt_of_lt_of_le h.id_lt hnext
  nums_le n hn := (h.nums_le n hn).trans hev
  nums_sorted := h.nums_sorted

/-- The same socket in a daemon with the same registry, events and fan-out. -/
theorem SockInv.same (h : SockInv S k σ) (hr : S'.reg = S.reg) (he : S'.events = S.events)
    (hf : S'.fanout = S.fanout) : SockInv S' k σ :=
  h.mono (by rw [hr]) (by rw [he]) fun _ => ⟨fun _ => by rw [hr]; exact id, fun _ hp _ => hf ▸ hp⟩

/-- A step that replaces one socket by one of the same client, and keeps the
registry, the events and the fan-out, keeps the invariant. -/
theorem Inv.setSock (h : Inv S) {τ : Sock} (hσ : S.socks k = some σ) (hid : τ.id = σ.id)
    (hτ : SockInv S k τ) : Inv (S.setSock k τ) where
  sock j ρ hj := by
    rcases update_eq_some hj with ⟨rfl, rfl⟩ | ⟨-, hj⟩
    · exact hτ.same rfl rfl rfl
    · exact (h.sock j ρ hj).same rfl rfl rfl
  owner id j hj := by
    obtain ⟨ρ, hρ, rfl⟩ := h.owner id j hj
    by_cases hjk : j = k
    · subst hjk; rw [hσ] at hρ; cases hρ; exact ⟨τ, by simp, hid⟩
    · exact ⟨ρ, by simpa [update_noteq hjk] using hρ, rfl⟩
  distinct j j' ρ ρ' hj hj' he := by
    have back : ∀ {i υ}, (S.setSock k τ).socks i = some υ → ∃ υ', S.socks i = some υ' ∧ υ'.id = υ.id :=
      fun hi => by
        rcases update_eq_some hi with ⟨rfl, rfl⟩ | ⟨-, hi⟩
        · exact ⟨σ, hσ, hid.symm⟩
        · exact ⟨_, hi, rfl⟩
    obtain ⟨υ, hυ, hυid⟩ := back hj
    obtain ⟨υ', hυ', hυid'⟩ := back hj'
    exact h.distinct j j' υ υ' hυ hυ' (by rw [hυid, hυid', he])
  subscribed_lt := h.subscribed_lt
  unused j hj := by
    have hk : k ≠ j := by rintro rfl; simp [h.unused k hj] at hσ
    simpa [update_noteq hk.symm] using h.unused j hj
  fanout_lt := h.fanout_lt
  fanout_framed := h.fanout_framed

/-- A daemon whose fan-out only lost sends keeps the invariant. -/
theorem Inv.sub_fanout (h : Inv S) (F : List (Nat × List UInt8)) (hF : ∀ p ∈ F, p ∈ S.fanout) :
    Inv { S with fanout := F } where
  sock j ρ hj := (h.sock j ρ hj).mono le_rfl le_rfl fun _ => ⟨fun _ => id, fun p hp _ => hF p hp⟩
  owner := h.owner
  distinct := h.distinct
  subscribed_lt := h.subscribed_lt
  unused := h.unused
  fanout_lt p hp := h.fanout_lt p (hF p hp)
  fanout_framed p hp := h.fanout_framed p (hF p hp)

theorem inv_init : Inv Sys.init where
  sock _ _ h := by cases h
  owner _ _ h := by cases h
  distinct _ _ _ _ h := by cases h
  subscribed_lt _ _ h := by obtain ⟨_, h, _⟩ := h; cases h
  unused _ _ := rfl
  fanout_lt _ h := by cases h
  fanout_framed _ h := by cases h

end

/-! ## Each step keeps the invariant -/

section
variable {pathExists : PathBuf → Bool} {S S' : Sys}

theorem greeting_framed (id : ClientId) : IsFrame (greeting id) := ⟨_, rfl⟩

/-- A frame begun on a socket whose mutex was free: the frame is the new pending. -/
theorem SockInv.begin {k : Nat} {σ : Sock} (h : SockInv S k σ) (hl : σ.lock = none) {w : Writer}
    {e : Sent} (he : IsFrame e.frame) (hne : σ.log ≠ [] ∨ e = .reply (greeting σ.id)) :
    let τ : Sock := { σ with lock := some (w, e.frame), log := σ.log ++ [e] }
    τ.out ++ τ.pending = (τ.log.map Sent.frame).flatten ∧ (∀ e' ∈ τ.log, IsFrame e'.frame) ∧
      τ.log.head? = some (.reply (greeting σ.id)) := by
  have hw := h.whole
  simp only [Sock.pending, hl, List.append_nil] at hw
  refine ⟨by simp [Sock.pending, hw], fun e' he' => ?_, ?_⟩
  · rcases List.mem_append.1 he' with he' | he'
    · exact h.framed e' he'
    · rw [List.mem_singleton.1 he']; exact he
  · rcases h.greeted with hg | ⟨hl', -⟩
    · rw [List.head?_append_of_ne_nil _ fun h' => by simp [h'] at hg]
      exact hg
    · rcases hne with hne | rfl
      · exact absurd hl' hne
      · simp [hl']

theorem inv_accept (h : Inv S) {cap : Nat} (hok : S.reg.next_client_id.toNat + 1 < 2 ^ 64) :
    Inv { S with
      reg := (registerClient S.reg).1
      socks := update S.socks S.accepted (some (Sock.fresh S.reg.next_client_id cap))
      accepted := S.accepted + 1
      owner := update S.owner S.reg.next_client_id (some S.accepted) } := by
  have hnext : (registerClient S.reg).1.next_client_id.toNat = S.reg.next_client_id.toNat + 1 :=
    toNat_add_one hok
  have hfree : S.socks S.accepted = none := h.unused _ le_rfl
  -- every connection of `S` has an id below the new one
  have hold : ∀ j ρ, S.socks j = some ρ → j ≠ S.accepted ∧ ρ.id ≠ S.reg.next_client_id := fun j ρ hj =>
    ⟨by rintro rfl; simp [hfree] at hj, fun he => by
      have := (h.sock j ρ hj).id_lt; rw [he] at this; exact lt_irrefl _ this⟩
  refine ⟨fun j ρ hj => ?_, fun x j hj => ?_, fun j j' ρ ρ' hj hj' he => ?_,
    fun x wd hx => ?_, fun j hj => ?_, fun p hp => ?_, h.fanout_framed⟩ <;> dsimp only at *
  · rcases update_eq_some hj with ⟨rfl, rfl⟩ | ⟨-, hj⟩
    · refine ⟨rfl, by simp [Sock.fresh], by simp [Sock.fresh], .inr ⟨rfl, rfl, .inl ⟨rfl, rfl⟩⟩,
        fun _ => ⟨fun wd hs => ?_, fun p hp he => ?_⟩, by simp [Sock.fresh, hnext],
        by simp [Sock.fresh, Sock.nums], by simp [Sock.fresh, Sock.nums]⟩
      · exact lt_irrefl _ (h.subscribed_lt _ wd hs)
      · exact absurd (he ▸ h.fanout_lt p hp) (lt_irrefl _)
    · exact (h.sock j ρ hj).mono (by dsimp only; omega) le_rfl fun _ => ⟨fun _ => id, fun p hp _ => hp⟩
  · rcases update_eq_some hj with ⟨rfl, rfl⟩ | ⟨hx, hj⟩
    · exact ⟨Sock.fresh S.reg.next_client_id cap, by simp, rfl⟩
    · obtain ⟨ρ, hρ, rfl⟩ := h.owner x j hj
      exact ⟨ρ, by rw [update_noteq (hold j ρ hρ).1]; exact hρ, rfl⟩
  · rcases update_eq_some hj with ⟨rfl, rfl⟩ | ⟨-, hj⟩ <;>
      rcases update_eq_some hj' with ⟨rfl, rfl⟩ | ⟨-, hj'⟩
    · rfl
    · exact absurd he.symm (hold j' ρ' hj').2
    · exact absurd he (hold j ρ hj).2
    · exact h.distinct j j' ρ ρ' hj hj' he
  · have := h.subscribed_lt x wd hx; omega
  · rw [update_noteq (by omega)]; exact h.unused j (by omega)
  · have := h.fanout_lt p hp; omega

theorem inv_greet (h : Inv S) {k : Nat} {σ : Sock} (hσ : S.socks k = some σ) (hp : σ.phase = .greet) :
    Inv (S.setSock k { σ with phase := .serve, reply := some (greeting σ.id) }) := by
  have hs := h.sock k σ hσ
  refine h.setSock hσ rfl { hs with
    reply_framed := fun f hf => (Option.some.inj hf) ▸ greeting_framed σ.id
    greeted := ?_ }
  rcases hs.greeted with hg | ⟨hl, hk, hp' | ⟨hp', -⟩⟩
  · exact .inl hg
  · exact .inr ⟨hl, hk, .inr ⟨rfl, rfl⟩⟩
  · rw [hp] at hp'; cases hp'

/-- The handler's first frame is its greeting. -/
theorem inv_take (h : Inv S) {k : Nat} {σ : Sock} {f : List UInt8} (hσ : S.socks k = some σ)
    (hr : σ.reply = some f) (hl : σ.lock = none) :
    Inv (S.setSock k { σ with reply := none, lock := some (.handler, f), log := σ.log ++ [.reply f] }) := by
  have hs := h.sock k σ hσ
  have hfirst : σ.log ≠ [] ∨ Sent.reply f = .reply (greeting σ.id) := by
    rcases hs.greeted with hg | ⟨-, -, ⟨-, hr'⟩ | ⟨-, hr'⟩⟩
    · exact .inl fun he => by simp [he] at hg
    · rw [hr] at hr'; cases hr'
    · rw [hr] at hr'; cases hr'; exact .inr rfl
  obtain ⟨hw, hfr, hg⟩ := hs.begin hl (w := .handler) (e := .reply f) (hs.reply_framed f hr) hfirst
  exact h.setSock hσ rfl ⟨hw, hfr, fun _ h' => (by cases h'), .inl hg, fun he => by simp at he,
    hs.id_lt, by simpa [Sock.nums, Sent.num?] using hs.nums_le,
    by simpa [Sock.nums, Sent.num?] using hs.nums_sorted⟩

theorem inv_request (h : Inv S) {k : Nat} {σ : Sock} (hσ : S.socks k = some σ)
    (hp : σ.phase = .serve) (hi : σ.handlerIdle) (req : Request) :
    Inv ({ S with reg := (handleRequest pathExists S.reg σ.id req).1 }.setSock k
      { σ with reply := some (FramedMessage.frame (handleRequest pathExists S.reg σ.id req).2.toBytes) }) := by
  have hlog := (h.sock k σ hσ).log_ne_nil_of_idle hp hi
  have h1 : Inv { S with reg := (handleRequest pathExists S.reg σ.id req).1 } := by
    refine ⟨fun j ρ hj => (h.sock j ρ hj).mono (by simp) le_rfl fun hl => ⟨fun wd hs => ?_,
      fun p hp _ => hp⟩, h.owner, h.distinct, fun x wd hx => ?_, h.unused, h.fanout_lt,
      h.fanout_framed⟩
    · rcases subscribed_handleRequest hs with he | hs
      · have hjk : j = k := h.distinct j k ρ σ hj hσ he
        subst hjk; rw [hσ] at hj; cases hj; exact absurd hl hlog
      · exact hs
    · simp only [handleRequest_next_client_id]
      rcases subscribed_handleRequest hx with rfl | hx
      · exact (h.sock k σ hσ).id_lt
      · exact h.subscribed_lt x wd hx
  exact h1.setSock hσ rfl ((h1.sock k σ hσ).handler hlog _ _ fun _ hf => ⟨_, (Option.some.inj hf).symm⟩)

theorem inv_close (h : Inv S) {k : Nat} {σ : Sock} (hσ : S.socks k = some σ)
    (hp : σ.phase = .serve) (hi : σ.handlerIdle) :
    Inv ({ S with reg := unregisterClient S.reg σ.id, owner := update S.owner σ.id none }.setSock k
      { σ with phase := .closed }) := by
  have hlog := (h.sock k σ hσ).log_ne_nil_of_idle hp hi
  have h1 : Inv { S with reg := unregisterClient S.reg σ.id, owner := update S.owner σ.id none } := by
    refine ⟨fun j ρ hj => (h.sock j ρ hj).mono (by simp) le_rfl fun _ =>
      ⟨fun _ hs => subscribed_unregisterClient hs, fun p hp _ => hp⟩, fun x j hj => ?_, h.distinct,
      fun x wd hx => by simpa using h.subscribed_lt x wd (subscribed_unregisterClient hx), h.unused,
      h.fanout_lt, h.fanout_framed⟩
    by_cases hx : x = σ.id
    · subst hx; simp at hj
    · exact h.owner x j (by simpa [update_noteq hx] using hj)
  have hs1 := h1.sock k σ hσ
  exact h1.setSock hσ rfl (hs1.handler hlog _ _ hs1.reply_framed)

theorem inv_event (h : Inv S) (ev : WatcherEvent) :
    Inv { S with
      disp := (handleEvent S.reg S.disp ev).1
      events := S.events + 1
      fanout := recipients S.owner (handleEvent S.reg S.disp ev).2 } := by
  -- a send of the event goes to the connection of a registered subscriber
  have hrec : ∀ p ∈ recipients S.owner (handleEvent S.reg S.disp ev).2,
      IsFrame p.2 ∧ ∃ ρ, S.socks p.1 = some ρ ∧ ∃ wd, Subscribed S.reg ρ.id wd := by
    intro p hp
    rcases he : handleEvent S.reg S.disp ev with ⟨d, _ | ⟨f, cs⟩⟩ <;> rw [he] at hp
    · cases hp
    obtain ⟨watch, mask, cookie, rfl, rfl⟩ := handleEvent_sends he
    simp only [recipients, List.mem_map, List.mem_filterMap] at hp
    obtain ⟨j, ⟨x, hx, hj⟩, rfl⟩ := hp
    obtain ⟨ρ, hρ, rfl⟩ := h.owner x j hj
    refine ⟨⟨_, rfl⟩, ρ, hρ, watch.wd, ?_⟩
    simp only [getClientsForWatch] at hx
    split at hx
    · next w hw => exact ⟨w, hw, (List.mem_filter.1 hx).1⟩
    · cases hx
  refine ⟨fun j ρ hj => (h.sock j ρ hj).mono le_rfl (Nat.le_succ _) fun hl =>
      ⟨fun _ => id, fun p hp he => ?_⟩, h.owner, h.distinct, h.subscribed_lt, h.unused,
    fun p hp => ?_, fun p hp => (hrec p hp).1⟩
  · obtain ⟨-, ρ', hρ', wd, hs⟩ := hrec p hp
    rw [he, hj] at hρ'; cases hρ'
    exact absurd hs (((h.sock j ρ hj).unsubscribed hl).1 wd)
  · obtain ⟨-, ρ, hρ, -⟩ := hrec p hp
    show p.1 < S.accepted
    by_contra hlt
    simp [h.unused p.1 (by omega)] at hρ

theorem inv_send (h : Inv S) {k : Nat} {f : List UInt8} {t : List (Nat × List UInt8)} {σ : Sock}
    (hf : S.fanout = (k, f) :: t) (hσ : S.socks k = some σ) (hl : σ.lock = none) :
    Inv (S.setSock k { σ with lock := some (.dispatcher, f), log := σ.log ++ [.event S.events f] }) := by
  have hs := h.sock k σ hσ
  have hlog : σ.log ≠ [] := fun he => (hs.unsubscribed he).2 (k, f) (by simp [hf]) rfl
  obtain ⟨hw, hfr, hg⟩ := hs.begin hl (w := .dispatcher) (e := .event S.events f)
    (h.fanout_framed (k, f) (by simp [hf])) (.inl hlog)
  refine h.setSock hσ rfl ⟨hw, hfr, hs.reply_framed, .inl hg, fun he => by simp at he, hs.id_lt,
    fun n hn => ?_, ?_⟩
  · simp only [Sock.nums, List.filterMap_append, Sent.num?, List.filterMap_cons,
      List.filterMap_nil, List.mem_append, List.mem_singleton] at hn
    rcases hn with hn | rfl
    · exact hs.nums_le n hn
    · exact le_rfl
  · simp only [Sock.nums, List.filterMap_append, Sent.num?, List.filterMap_cons, List.filterMap_nil]
    exact List.pairwise_append.2 ⟨hs.nums_sorted, List.pairwise_singleton _ _,
      fun a ha b hb => (List.mem_singleton.1 hb) ▸ hs.nums_le a ha⟩

theorem inv_write (h : Inv S) {k : Nat} {σ : Sock} {w : Writer} {rest : List UInt8}
    (hσ : S.socks k = some σ) (hl : σ.lock = some (w, rest)) :
    Inv { S.setSock k (σ.write w rest) with
      fanout := if w = .dispatcher ∧ (σ.write w rest).lock = none then S.fanout.tail
        else S.fanout } := by
  have hs := h.sock k σ hσ
  have hlog := hs.log_ne_nil_of_lock hl
  have hwhole : (σ.write w rest).out ++ (σ.write w rest).pending = σ.out ++ σ.pending := by
    by_cases hle : rest.length ≤ σ.cap - σ.buf.length
    · simp [Sock.write, Sock.pending, hl, hle, List.take_of_length_le hle]
    · simp [Sock.write, Sock.pending, hl, hle]
  refine (h.setSock (τ := σ.write w rest) hσ rfl ⟨hwhole.trans hs.whole, hs.framed, hs.reply_framed, ?_,
    fun he => absurd he hlog, hs.id_lt, hs.nums_le, hs.nums_sorted⟩).sub_fanout _ fun p hp => ?_
  · rcases hs.greeted with hg | ⟨he, -⟩; exacts [.inl hg, absurd he hlog]
  · split at hp
    · exact List.mem_of_mem_tail hp
    · exact hp

theorem Inv.step (h : Inv S) {st : Step} (hok : noIdWrap S st = true)
    (hs : S.step pathExists st = some S') : Inv S' := by
  cases st with
  | accept cap =>
    rw [step_accept, Option.some.injEq] at hs
    subst hs
    exact inv_accept h (by simpa [noIdWrap] using hok)
  | greet k =>
    obtain ⟨σ, hσ, hp, rfl⟩ := step_greet hs
    exact inv_greet h hσ hp
  | request k req =>
    obtain ⟨σ, hσ, hp, hi, rfl⟩ := step_request hs
    exact inv_request h hσ hp hi req
  | invalid k message =>
    obtain ⟨σ, hσ, hp, hi, rfl⟩ := step_invalid hs
    have hs := h.sock k σ hσ
    exact h.setSock hσ rfl (hs.handler (hs.log_ne_nil_of_idle hp hi) _ _
      fun _ hf => ⟨_, (Option.some.inj hf).symm⟩)
  | close k =>
    obtain ⟨σ, hσ, hp, hi, rfl⟩ := step_close hs
    exact inv_close h hσ hp hi
  | take k =>
    obtain ⟨σ, f, hσ, hr, hl, rfl⟩ := step_take hs
    exact inv_take h hσ hr hl
  | event ev =>
    obtain ⟨-, rfl⟩ := step_event hs
    exact inv_event h ev
  | send =>
    obtain ⟨k, f, t, σ, hf, hσ, hl, rfl⟩ := step_send hs
    exact inv_send h hf hσ hl
  | write k =>
    obtain ⟨σ, w, rest, hσ, hl, -, rfl⟩ := step_write hs
    exact inv_write h hσ hl
  | read k n =>
    obtain ⟨σ, hσ, rfl⟩ := step_read hs
    exact h.setSock hσ rfl { h.sock k σ hσ with }

theorem Reach.inv (hS : Reach pathExists noIdWrap S) : Inv S := by
  induction hS with
  | init => exact inv_init
  | step _ hok hs ih => exact ih.step hok hs

end

/-- Connection 0 subscribes to "/tmp/x" and is answered. -/
def subscribeFirst : List Step :=
  [.accept 64, .greet 0, .take 0, .write 0, .request 0 (.AddWatch tmpX 0x100), .take 0, .write 0]

/-- The daemon after `subscribeFirst`. -/
def afterSubscribe : Sys := (Sys.run (fun _ => true) (fun _ _ => true) Sys.init subscribeFirst).getD Sys.init

theorem run_subscribeFirst :
    Sys.run (fun _ => true) (fun _ _ => true) Sys.init subscribeFirst = some afterSubscribe := rfl

theorem afterSubscribe_watches : afterSubscribe.reg.watches =
    update (fun _ => none) 1 (some ⟨1, components tmpX, fromBitsTruncate 0x100, true, [1]⟩) := rfl

end fakenotify.system
