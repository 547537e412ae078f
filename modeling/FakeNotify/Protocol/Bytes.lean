-- Bytes as the protocol crate writes and reads them: little-endian integers,
-- the UTF-8 check that every Rust `String` passes, and the lossy text that
-- `Path::display` prints. Each reader gives back what its writer wrote.
import Mathlib.Algebra.Group.Nat.Basic
import Mathlib.Data.List.Basic

namespace fakenotify.bytes

/-! ## Little-endian integers -/

/-- The `n` low bytes of `x`, lowest first: `to_le_bytes` of an `n`-byte integer. -/
def toLeBytes : Nat → Nat → List UInt8
  | 0, _ => []
  | n + 1, x => UInt8.ofNat x :: toLeBytes n (x / 256)

/-- The number that bytes spell, lowest first: `from_le_bytes`. -/
def fromLeBytes : List UInt8 → Nat
  | [] => 0
  | b :: bs => b.toNat + 256 * fromLeBytes bs

@[simp] theorem length_toLeBytes (n x : Nat) : (toLeBytes n x).length = n := by
  induction n generalizing x <;> simp [toLeBytes, *]

theorem fromLeBytes_toLeBytes (n x : Nat) : fromLeBytes (toLeBytes n x) = x % 256 ^ n := by
  induction n generalizing x with
  | zero => simp [toLeBytes, fromLeBytes, Nat.mod_one]
  | succ n ih =>
    rw [toLeBytes, fromLeBytes, ih, Nat.pow_succ', Nat.mod_mul]
    rfl

/-- The `n`-byte little-endian integer at the front of `bs` and the bytes after it, or
`none` when fewer than `n` bytes are left: a `read_exact` into an `n`-byte buffer. -/
def readLe (n : Nat) (bs : List UInt8) : Option (Nat × List UInt8) :=
  if n ≤ bs.length then some (fromLeBytes (bs.take n), bs.drop n) else none

theorem readLe_toLeBytes (n x : Nat) (rest : List UInt8) :
    readLe n (toLeBytes n x ++ rest) = some (x % 256 ^ n, rest) := by
  simp [readLe, List.take_left', List.drop_left', fromLeBytes_toLeBytes]

/-! ## UTF-8 -/

/-- Where the UTF-8 check stands: at the start of a character, or inside one, waiting
for a byte in `lo..=hi` and then `more` continuation bytes. -/
inductive Utf8State
  | start
  | within (lo hi : UInt8) (more : Nat)
deriving DecidableEq

/-- One byte of `str::from_utf8`'s check (Unicode Table 3-7). The lead byte fixes the
width and the range of the second byte: after `0xE0` and `0xF0` it excludes the
overlong forms, after `0xED` the surrogates, after `0xF4` the code points past
`U+10FFFF`. `none` is a byte that cannot stand here. -/
def utf8Next : Utf8State → UInt8 → Option Utf8State
  | .start, b =>
    if b < 0x80 then some .start
    else if 0xC2 ≤ b && b ≤ 0xDF then some (.within 0x80 0xBF 0)
    else if b = 0xE0 then some (.within 0xA0 0xBF 1)
    else if b = 0xED then some (.within 0x80 0x9F 1)
    else if 0xE1 ≤ b && b ≤ 0xEF then some (.within 0x80 0xBF 1)
    else if b = 0xF0 then some (.within 0x90 0xBF 2)
    else if b = 0xF4 then some (.within 0x80 0x8F 2)
    else if 0xF1 ≤ b && b ≤ 0xF3 then some (.within 0x80 0xBF 2)
    else none
  | .within lo hi more, c =>
    if lo ≤ c && c ≤ hi then
      some (match more with
        | 0 => .start
        | n + 1 => .within 0x80 0xBF n)
    else none

/-- The check run from state `s` over `bs`: every byte fits, and the last character
is complete. -/
def utf8Run : Utf8State → List UInt8 → Bool
  | s, [] => s = .start
  | s, b :: bs =>
    match utf8Next s b with
    | some s' => utf8Run s' bs
    | none => false

/-- Well-formed UTF-8, as `str::from_utf8` checks it. -/
def utf8Valid (bs : List UInt8) : Bool := utf8Run .start bs

theorem utf8Run_append {s : Utf8State} {a b : List UInt8} (ha : utf8Run s a = true)
    (hb : utf8Valid b = true) : utf8Run s (a ++ b) = true := by
  induction a generalizing s with
  | nil => simp only [utf8Run, decide_eq_true_eq] at ha; subst ha; exact hb
  | cons x a ih =>
    simp only [utf8Run, List.cons_append] at ha ⊢
    cases h : utf8Next s x with
    | none => simp [h] at ha
    | some s' => simp only [h] at ha ⊢; exact ih ha

theorem utf8Valid_append {a b : List UInt8} (ha : utf8Valid a = true) (hb : utf8Valid b = true) :
    utf8Valid (a ++ b) = true :=
  utf8Run_append ha hb

/-- ASCII bytes are valid UTF-8. -/
theorem utf8Valid_of_ascii {bs : List UInt8} (h : ∀ b ∈ bs, b < 0x80) : utf8Valid bs = true := by
  induction bs with
  | nil => rfl
  | cons b bs ih =>
    have hb : utf8Next .start b = some .start := by simp [utf8Next, h b (List.mem_cons_self b bs)]
    simp only [utf8Valid, utf8Run, hb]
    exact ih fun x hx => h x (List.mem_cons_of_mem b hx)

/-- The three bytes of `U+FFFD`, which stands for each invalid sequence. -/
def replacement : List UInt8 := [0xEF, 0xBF, 0xBD]

theorem utf8Valid_replacement : utf8Valid replacement = true := by decide

/-- One byte of `String::from_utf8_lossy`: the bytes it emits, the new state and the
bytes of the character begun so far. A finished character is copied; a byte that
cannot stand here cuts the character begun short, which becomes one `U+FFFD`, and is
read again as the start of the next one. -/
def lossyStep (s : Utf8State) (pending : List UInt8) (b : UInt8) :
    List UInt8 × Utf8State × List UInt8 :=
  match utf8Next s b with
  | some s' => if s' = .start then (pending ++ [b], .start, []) else ([], s', pending ++ [b])
  | none =>
    if s = .start then (replacement, .start, [])
    else
      match utf8Next .start b with
      | some s' => if s' = .start then (replacement ++ [b], .start, []) else (replacement, s', [b])
      | none => (replacement ++ replacement, .start, [])

/-- `String::from_utf8_lossy` from state `s` with the bytes `pending` begun: a
character cut short by the end becomes one `U+FFFD`. -/
def lossyRun : Utf8State → List UInt8 → List UInt8 → List UInt8
  | s, _, [] => if s = .start then [] else replacement
  | s, pending, b :: bs =>
    let (out, s', pending') := lossyStep s pending b
    out ++ lossyRun s' pending' bs

/-- `String::from_utf8_lossy`, the text that `Path::display` prints. -/
def fromUtf8Lossy (bs : List UInt8) : List UInt8 := lossyRun .start [] bs

/-- The bytes `pending` begun in state `s` make valid text with any finish from `s`. -/
def Begun (s : Utf8State) (pending : List UInt8) : Prop :=
  ∀ rest, utf8Run s rest = true → utf8Valid (pending ++ rest) = true

theorem begun_start : Begun .start [] := fun _ h => h

theorem begun_next {s s' : Utf8State} {pending : List UInt8} {b : UInt8} (h : Begun s pending)
    (hb : utf8Next s b = some s') : Begun s' (pending ++ [b]) := fun rest hr => by
  simpa using h (b :: rest) (by simp [utf8Run, hb, hr])

/-- A lossy step emits valid text and leaves a begun character. -/
theorem lossyStep_valid {s : Utf8State} {pending : List UInt8} {b : UInt8} (h : Begun s pending) :
    utf8Valid (lossyStep s pending b).1 = true ∧
      Begun (lossyStep s pending b).2.1 (lossyStep s pending b).2.2 := by
  unfold lossyStep
  cases hb : utf8Next s b with
  | some s' =>
    by_cases hs : s' = .start
    · subst hs
      exact ⟨by simpa using h [b] (by simp [utf8Run, hb]), begun_start⟩
    · simp only [hs, if_false]
      exact ⟨rfl, begun_next h hb⟩
  | none =>
    have hr := utf8Valid_replacement
    by_cases hs : s = .start
    · simp only [hs, if_true]
      exact ⟨hr, begun_start⟩
    · simp only [hs, if_false]
      cases hb' : utf8Next .start b with
      | some s' =>
        by_cases hs' : s' = .start
        · subst hs'
          exact ⟨utf8Valid_append hr (by simp [utf8Valid, utf8Run, hb']), begun_start⟩
        · simp only [hs', if_false]
          exact ⟨hr, by simpa using begun_next begun_start hb'⟩
      | none => exact ⟨utf8Valid_append hr hr, begun_start⟩

theorem utf8Valid_lossyRun (s : Utf8State) (pending bs : List UInt8) (h : Begun s pending) :
    utf8Valid (lossyRun s pending bs) = true := by
  induction bs generalizing s pending with
  | nil => unfold lossyRun; split
           · rfl
           · exact utf8Valid_replacement
  | cons b bs ih =>
    have hs := lossyStep_valid (b := b) h
    exact utf8Valid_append hs.1 (ih _ _ hs.2)

theorem utf8Valid_fromUtf8Lossy (bs : List UInt8) : utf8Valid (fromUtf8Lossy bs) = true :=
  utf8Valid_lossyRun _ _ _ begun_start

theorem lossyRun_of_utf8Run {s : Utf8State} {pending bs : List UInt8} (h : utf8Run s bs = true)
    (hp : s = .start → pending = []) : lossyRun s pending bs = pending ++ bs := by
  induction bs generalizing s pending with
  | nil =>
    simp only [utf8Run, decide_eq_true_eq] at h
    simp [lossyRun, h, hp h]
  | cons b bs ih =>
    simp only [utf8Run] at h
    cases hb : utf8Next s b with
    | none => simp [hb] at h
    | some s' =>
      simp only [hb] at h
      simp only [lossyRun, lossyStep, hb]
      by_cases hs : s' = .start
      · subst hs
        simp [ih h (fun _ => rfl)]
      · simp [hs, ih h (fun h' => absurd h' hs)]

/-- Valid text reads back unchanged. -/
theorem fromUtf8Lossy_of_utf8Valid {bs : List UInt8} (h : utf8Valid bs = true) :
    fromUtf8Lossy bs = bs :=
  lossyRun_of_utf8Run h fun _ => rfl

/-! ## Rust strings and paths -/

/-- The UTF-8 bytes of a Lean string, as `String.toUTF8` writes them: the bytes of a
string literal of the source. -/
def utf8Bytes (s : String) : List UInt8 := s.data.flatMap String.utf8EncodeChar

/-- A Rust `String`: bytes that are well-formed UTF-8. -/
def RustString : Type := {bs : List UInt8 // utf8Valid bs = true}

instance : DecidableEq RustString :=
  inferInstanceAs (DecidableEq {bs : List UInt8 // utf8Valid bs = true})

namespace RustString

/-- A string literal of the source, checked once by evaluation. -/
def lit (s : String) (h : utf8Valid (utf8Bytes s) = true := by decide) : RustString :=
  ⟨utf8Bytes s, h⟩

/-- Two pieces of a `format!` string, one after the other. -/
def append (a b : RustString) : RustString := ⟨a.1 ++ b.1, utf8Valid_append a.2 b.2⟩

instance : Append RustString := ⟨append⟩

@[simp] theorem val_append (a b : RustString) : (a ++ b).1 = a.1 ++ b.1 := rfl

/-- The decimal digits of `n` put before `acc`, most significant first; `fuel` bounds
their number. -/
def digits : Nat → Nat → List UInt8 → List UInt8
  | 0, _, acc => acc
  | fuel + 1, n, acc =>
    let acc := UInt8.ofNat (48 + n % 10) :: acc
    if n < 10 then acc else digits fuel (n / 10) acc

theorem digits_ascii (fuel n : Nat) (acc : List UInt8) (h : ∀ b ∈ acc, b < 0x80) :
    ∀ b ∈ digits fuel n acc, b < 0x80 := by
  have hd : ∀ m : Nat, UInt8.ofNat (48 + m % 10) < 0x80 := fun m => by
    rw [UInt8.lt_def, BitVec.lt_def]
    show (48 + m % 10) % 256 < 128
    omega
  induction fuel generalizing n acc with
  | zero => exact h
  | succ fuel ih =>
    have h' : ∀ b ∈ UInt8.ofNat (48 + n % 10) :: acc, b < 0x80 := by
      simpa [hd n] using h
    unfold digits
    split
    · exact h'
    · exact ih _ _ h'

/-- `{}` of an integer: its decimal digits, after a `-` when it is negative. -/
def ofInt (x : Int) : RustString :=
  ⟨if x < 0 then 45 :: digits (x.natAbs + 1) x.natAbs [] else digits (x.toNat + 1) x.toNat [],
    by
      apply utf8Valid_of_ascii
      have hn := digits_ascii (x.natAbs + 1) x.natAbs [] (by simp)
      have ht := digits_ascii (x.toNat + 1) x.toNat [] (by simp)
      split
      · intro b hb
        rcases List.mem_cons.mp hb with rfl | hb
        · decide
        · exact hn b hb
      · exact ht⟩

end RustString

/-- A Unix `PathBuf`: the bytes of an `OsString`, UTF-8 or not. -/
abbrev PathBuf := List UInt8

/-- `Path::to_str`: the path as a string when its bytes are UTF-8. -/
def PathBuf.toStr (p : PathBuf) : Option RustString :=
  if h : utf8Valid p = true then some ⟨p, h⟩ else none

/-- `Path::display`: the path's bytes, read lossily. -/
def PathBuf.display (p : PathBuf) : RustString := ⟨fromUtf8Lossy p, utf8Valid_fromUtf8Lossy p⟩

theorem PathBuf.display_of_utf8Valid {p : PathBuf} (h : utf8Valid p = true) :
    (PathBuf.display p).1 = p :=
  fromUtf8Lossy_of_utf8Valid h

end fakenotify.bytes
