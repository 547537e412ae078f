-- The kernel's inotify record (`event.rs`): a 16-byte header of four native
-- (here little-endian) 32-bit words, then the name, its NUL and padding to a
-- multiple of four bytes. And the mask bits `bitflags!` names.
import FakeNotify.Protocol.Bytes

namespace fakenotify.event

open fakenotify.bytes

/-! ## `EventMask` -/

def IN_ACCESS : BitVec 32 := 0x00000001
def IN_MODIFY : BitVec 32 := 0x00000002
def IN_ATTRIB : BitVec 32 := 0x00000004
def IN_CLOSE_WRITE : BitVec 32 := 0x00000008
def IN_CLOSE_NOWRITE : BitVec 32 := 0x00000010
def IN_OPEN : BitVec 32 := 0x00000020
def IN_MOVED_FROM : BitVec 32 := 0x00000040
def IN_MOVED_TO : BitVec 32 := 0x00000080
def IN_CREATE : BitVec 32 := 0x00000100
def IN_DELETE : BitVec 32 := 0x00000200
def IN_DELETE_SELF : BitVec 32 := 0x00000400
def IN_MOVE_SELF : BitVec 32 := 0x00000800
def IN_CLOSE : BitVec 32 := IN_CLOSE_WRITE ||| IN_CLOSE_NOWRITE
def IN_MOVE : BitVec 32 := IN_MOVED_FROM ||| IN_MOVED_TO
def IN_ALL_EVENTS : BitVec 32 :=
  IN_ACCESS ||| IN_MODIFY ||| IN_ATTRIB ||| IN_CLOSE_WRITE ||| IN_CLOSE_NOWRITE ||| IN_OPEN |||
    IN_MOVED_FROM ||| IN_MOVED_TO ||| IN_CREATE ||| IN_DELETE ||| IN_DELETE_SELF ||| IN_MOVE_SELF
def IN_ONLYDIR : BitVec 32 := 0x01000000
def IN_DONT_FOLLOW : BitVec 32 := 0x02000000
def IN_MASK_ADD : BitVec 32 := 0x20000000
def IN_ONESHOT : BitVec 32 := 0x80000000
def IN_IGNORED : BitVec 32 := 0x00008000
def IN_ISDIR : BitVec 32 := 0x40000000
def IN_Q_OVERFLOW : BitVec 32 := 0x00004000
def IN_UNMOUNT : BitVec 32 := 0x00002000

/-- Every bit that some flag of `EventMask` names. -/
def namedBits : BitVec 32 :=
  IN_ALL_EVENTS ||| IN_ONLYDIR ||| IN_DONT_FOLLOW ||| IN_MASK_ADD ||| IN_ONESHOT ||| IN_IGNORED |||
    IN_ISDIR ||| IN_Q_OVERFLOW ||| IN_UNMOUNT

/-- `EventMask::from_bits_truncate`: the bits that a flag names. -/
def fromBitsTruncate (bits : BitVec 32) : BitVec 32 := bits &&& namedBits

/-- `EventMask::intersects`. -/
def intersects (a b : BitVec 32) : Bool := a &&& b != 0

/-! ## `InotifyEvent` -/

/-- `InotifyEvent`, `#[repr(C)]`: `wd` is an `i32`, the others `u32`. -/
structure InotifyEvent where
  wd : BitVec 32
  mask : BitVec 32
  cookie : BitVec 32
  len : BitVec 32
deriving DecidableEq

/-- `InotifyEvent::HEADER_SIZE`. -/
def HEADER_SIZE : Nat := 16

/-- `InotifyEvent::new`: no name. -/
def InotifyEvent.new (wd mask cookie : BitVec 32) : InotifyEvent := ⟨wd, mask, cookie, 0⟩

/-- `InotifyEvent::header_to_bytes`: the four fields, each `to_ne_bytes`. -/
def InotifyEvent.headerToBytes (e : InotifyEvent) : List UInt8 :=
  toLeBytes 4 e.wd.toNat ++ toLeBytes 4 e.mask.toNat ++ toLeBytes 4 e.cookie.toNat ++
    toLeBytes 4 e.len.toNat

/-- The name's length with its NUL, rounded up to four: `(n + 1 + 3) & !3`. -/
def paddedLen (n : Nat) : Nat := (n + 1 + 3) / 4 * 4

/-- `InotifyEvent::to_bytes_with_name`: the header with `len` the padded length, the
name, then zeros up to `HEADER_SIZE + padded_len`. -/
def InotifyEvent.toBytesWithName (e : InotifyEvent) (name : List UInt8) : List UInt8 :=
  let padded := paddedLen name.length
  let buf := { e with len := BitVec.ofNat 32 padded }.headerToBytes ++ name
  buf ++ List.replicate (HEADER_SIZE + padded - buf.length) 0

/-- `event_size_with_name`. -/
def eventSizeWithName (n : Nat) : Nat := HEADER_SIZE + paddedLen n

/-- `u32::from_ne_bytes` (and `i32`'s) on four bytes, taken little-endian. -/
def fromNeBytes (bs : List UInt8) : BitVec 32 := BitVec.ofNat 32 (fromLeBytes bs)

/-- `InotifyEvent::from_bytes`: the header's four words, or `none` when the buffer is
shorter than `HEADER_SIZE`. Past that check each slice `buf[i..i + 4]` converts. -/
def InotifyEvent.fromBytes (buf : List UInt8) : Option InotifyEvent :=
  if buf.length < HEADER_SIZE then none
  else some ⟨fromNeBytes (buf.take 4), fromNeBytes ((buf.drop 4).take 4),
    fromNeBytes ((buf.drop 8).take 4), fromNeBytes ((buf.drop 12).take 4)⟩

theorem length_headerToBytes (e : InotifyEvent) : e.headerToBytes.length = HEADER_SIZE := by
  simp [InotifyEvent.headerToBytes, length_toLeBytes, HEADER_SIZE]

theorem lt_paddedLen (n : Nat) : n < paddedLen n := by
  unfold paddedLen; omega

/-- A record with a name is as long as `event_size_with_name` says, a multiple of
four. -/
theorem length_toBytesWithName (e : InotifyEvent) (name : List UInt8) :
    (e.toBytesWithName name).length = eventSizeWithName name.length ∧
      eventSizeWithName name.length % 4 = 0 := by
  have hl := length_headerToBytes { e with len := BitVec.ofNat 32 (paddedLen name.length) }
  have hp := lt_paddedLen name.length
  constructor
  · simp only [InotifyEvent.toBytesWithName, List.length_append, List.length_replicate, hl,
      eventSizeWithName]
    omega
  · simp only [eventSizeWithName, paddedLen, HEADER_SIZE]
    omega

theorem fromNeBytes_toLeBytes (x : BitVec 32) : fromNeBytes (toLeBytes 4 x.toNat) = x := by
  apply BitVec.eq_of_toNat_eq
  have := x.isLt
  simp only [fromNeBytes, fromLeBytes_toLeBytes, BitVec.toNat_ofNat]
  omega

/-- `from_bytes` reads back the header that `header_to_bytes` wrote, whatever follows
it. -/
theorem fromBytes_headerToBytes (e : InotifyEvent) (rest : List UInt8) :
    InotifyEvent.fromBytes (e.headerToBytes ++ rest) = some e := by
  have hl := length_headerToBytes e
  have h4 : ∀ (x : Nat) (bs : List UInt8), (toLeBytes 4 x ++ bs).take 4 = toLeBytes 4 x ∧
      (toLeBytes 4 x ++ bs).drop 4 = bs := fun x bs =>
    ⟨List.take_left' (length_toLeBytes 4 x), List.drop_left' (length_toLeBytes 4 x)⟩
  simp only [InotifyEvent.headerToBytes, List.append_assoc] at hl ⊢
  rw [InotifyEvent.fromBytes, if_neg (by simp only [List.length_append] at hl ⊢; omega)]
  simp only [show (8 : Nat) = 4 + 4 from rfl, show (12 : Nat) = 4 + 4 + 4 from rfl,
    ← List.drop_drop, (h4 _ _).1, (h4 _ _).2, fromNeBytes_toLeBytes]

/-- `from_bytes` on a record with a name reads its header: `len` is the padded
length. -/
theorem fromBytes_toBytesWithName (e : InotifyEvent) (name : List UInt8) :
    InotifyEvent.fromBytes (e.toBytesWithName name) =
      some { e with len := BitVec.ofNat 32 (paddedLen name.length) } := by
  simp only [InotifyEvent.toBytesWithName, List.append_assoc, fromBytes_headerToBytes]

/-- The record that `to_bytes_with_name` writes. For every header and every name of `n`
bytes with `n + 4 ≤ u32::MAX` (so that `len` is exact): the record is
`event_size_with_name(n) = 16 + ((n + 4) & !3)` bytes long; `from_bytes` reads back
`wd`, `mask` and `cookie` with `len` the record's length less the header; the name
follows the header, and the rest, at least one byte, is zeros. Without a name,
`from_bytes` inverts `header_to_bytes`. -/
theorem toBytesWithName_layout (wd mask cookie : BitVec 32) (name : List UInt8)
    (hn : name.length + 4 ≤ 2 ^ 32 - 1) :
    (let b := (InotifyEvent.new wd mask cookie).toBytesWithName name;
      b.length = eventSizeWithName name.length ∧
      eventSizeWithName name.length = HEADER_SIZE + (name.length + 4) / 4 * 4 ∧
      (∃ e, InotifyEvent.fromBytes b = some e ∧ e.wd = wd ∧ e.mask = mask ∧
        e.cookie = cookie ∧ e.len.toNat = b.length - HEADER_SIZE) ∧
      (b.drop HEADER_SIZE).take name.length = name ∧
      HEADER_SIZE + name.length < b.length ∧ ∀ x ∈ b.drop (HEADER_SIZE + name.length), x = 0) ∧
    ∀ e : InotifyEvent, InotifyEvent.fromBytes e.headerToBytes = some e := by
  refine ⟨?_, fun e => by simpa using fromBytes_headerToBytes e []⟩
  intro b
  obtain ⟨hlen, -⟩ := length_toBytesWithName (InotifyEvent.new wd mask cookie) name
  have hp : name.length < paddedLen name.length ∧ paddedLen name.length ≤ name.length + 4 := by
    unfold paddedLen; omega
  -- the record is the header, the name, then zeros
  have hb : b = { InotifyEvent.new wd mask cookie with
      len := BitVec.ofNat 32 (paddedLen name.length) }.headerToBytes ++
      (name ++ List.replicate (paddedLen name.length - name.length) 0) := by
    simp only [b, InotifyEvent.toBytesWithName, List.append_assoc, List.length_append,
      length_headerToBytes]
    congr 3
    omega
  have hdrop : b.drop HEADER_SIZE = name ++ List.replicate (paddedLen name.length - name.length) 0 := by
    rw [hb]; exact List.drop_left' (length_headerToBytes _)
  refine ⟨hlen, by simp only [eventSizeWithName, paddedLen], ⟨_, fromBytes_toBytesWithName _ _,
    rfl, rfl, rfl, ?_⟩, by rw [hdrop, List.take_left], ?_, ?_⟩
  · simp only [BitVec.toNat_ofNat, hlen, eventSizeWithName]
    omega
  · rw [hlen, eventSizeWithName]; omega
  · intro x hx
    rw [← List.drop_drop, hdrop, List.drop_left, List.mem_replicate] at hx
    exact hx.2

/-- `(wd = 1, mask = IN_CREATE, cookie = 0, name = "a.txt")`: the header, the five
bytes, a NUL and two bytes of padding. -/
theorem toBytesWithName_layout_aTxt :
    ((InotifyEvent.new 1 IN_CREATE 0).toBytesWithName (utf8Bytes "a.txt")).length = 24 :=
  (toBytesWithName_layout 1 IN_CREATE 0 (utf8Bytes "a.txt") (by decide)).1.1.trans (by decide)

end fakenotify.event
