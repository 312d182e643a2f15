import Mathlib.Data.Nat.Bitwise
import Mathlib.Tactic.IntervalCases

/-!
# Bytes, buffers and the frame header

The vocabulary both halves of the model share: bytes, the packet types of the wire protocol,
the client's return codes, stack buffers as memory, C strings, and the two header helpers of
`protocol.c`, `store_length` and `compute_length`.

## Buffers are memory, not lists

A stack buffer is modelled as a total map from offsets to bytes, `Mem`, and the offsets past the
end of the buffer belong to it too. That is what lets a statement say "nothing outside
`buffer[0, size)` was written": with buffers as lists of their own length a store past the end
would silently be dropped, and the safety property would hold by construction rather than by
the code's checks. Uninitialised stack bytes are the initial contents of the map, so a theorem
that quantifies over the initial `Mem` quantifies over whatever the stack held.

## The header

Bytes 2 and 3 of every frame hold its total length, high byte first. `store_length` masks with
`0xFF00` and `0xFF` and the store into a `char` keeps the low eight bits; `compute_length` reads
the two bytes back as `unsigned char`. `computeLength_storeLength` is the identity on every
length below `2 ^ 16`, which is all the codec ever needs.

## Main results

* `Mem.load_store_self`, `Mem.load_store_of_disjoint`, `Mem.store_apply_of_not_mem` — stores
* `computeLength_storeLength` — the header round trip
-/

namespace Twopence

/-- The byte a C character literal stands for. -/
def byte (c : Char) : UInt8 := c.toNat.toUInt8

/-! ## Packet types

The ASCII codes of the protocol, as `protocol.h` names them for the transaction code and as
`protocol.c` spells them as character literals. -/

/-- `TWOPENCE_PROTO_TYPE_MAJOR`, `'M'`. -/
def protoTypeMajor : UInt8 := byte 'M'
/-- `TWOPENCE_PROTO_TYPE_MINOR`, `'m'`. -/
def protoTypeMinor : UInt8 := byte 'm'
/-- `TWOPENCE_PROTO_TYPE_EOF`, `'E'`. -/
def protoTypeEof : UInt8 := byte 'E'
/-- `TWOPENCE_PROTO_TYPE_TIMEOUT`, `'T'`. -/
def protoTypeTimeout : UInt8 := byte 'T'

/-! ## Return codes -/

/-- The `TWOPENCE_*_ERROR` codes of the client library. -/
inductive Error
  | parameter | openSession | sendCommand | forwardInput | receiveResults | localFile
  | remoteFile | sendFile | receiveFile | interruptCommand | protocol
  deriving DecidableEq, Repr

/-- Modelled from the spec: `twopence.h`, which gives the `TWOPENCE_*_ERROR` codes their values,
is not under `src/`. The spec fixes only that they are distinct and negative; they are numbered
here in the order the spec lists them. -/
def Error.code : Error → Int
  | parameter => -1
  | openSession => -2
  | sendCommand => -3
  | forwardInput => -4
  | receiveResults => -5
  | localFile => -6
  | remoteFile => -7
  | sendFile => -8
  | receiveFile => -9
  | interruptCommand => -10
  | protocol => -11

theorem Error.code_neg (e : Error) : e.code < 0 := by
  cases e <;> decide

theorem Error.code_injective : Function.Injective Error.code := by
  intro a b h
  cases a <;> cases b <;> first | rfl | exact absurd h (by decide)

/-! ## Memory -/

/-- The bytes of a stack buffer, addressed from its start. Offsets past its end are part of the
map too, so that a store outside the buffer shows up in it. -/
abbrev Mem := Nat → UInt8

/-- Copy `bytes` into memory at offset `pos`. -/
def Mem.store (mem : Mem) (pos : Nat) (bytes : List UInt8) : Mem := fun i =>
  if pos ≤ i ∧ i < pos + bytes.length then bytes.getD (i - pos) 0 else mem i

/-- The `n` bytes at offset `pos`. -/
def Mem.load (mem : Mem) (pos : Nat) : Nat → List UInt8
  | 0 => []
  | n + 1 => mem pos :: mem.load (pos + 1) n

namespace Mem

variable {mem mem' : Mem} {pos q n : Nat} {bytes : List UInt8}

@[simp] theorem store_nil (mem : Mem) (pos : Nat) : mem.store pos [] = mem := by
  funext i; simp [store]

@[simp] theorem length_load (mem : Mem) (pos n : Nat) : (mem.load pos n).length = n := by
  induction n generalizing pos with
  | zero => rfl
  | succ n ih => simp [load, ih]

/-- A store leaves every offset outside its range alone. -/
theorem store_apply_of_not_mem {i : Nat} (h : i < pos ∨ pos + bytes.length ≤ i) :
    mem.store pos bytes i = mem i := by
  simp only [store]; rw [if_neg (by omega)]

theorem store_apply_of_mem {i : Nat} (h₁ : pos ≤ i) (h₂ : i < pos + bytes.length) :
    mem.store pos bytes i = bytes.getD (i - pos) 0 := by
  simp only [store]; rw [if_pos ⟨h₁, h₂⟩]

/-- Two memories that agree on `[pos, pos + n)` load the same bytes there. -/
theorem load_congr (h : ∀ i, pos ≤ i → i < pos + n → mem i = mem' i) :
    mem.load pos n = mem'.load pos n := by
  induction n generalizing pos with
  | zero => rfl
  | succ n ih =>
    simp only [load, h pos (le_refl _) (by omega),
      @ih (pos + 1) fun i h₁ h₂ => h i (by omega) (by omega)]

theorem getD_load (mem : Mem) (pos : Nat) {i n : Nat} (h : i < n) :
    (mem.load pos n).getD i 0 = mem (pos + i) := by
  induction n generalizing pos i with
  | zero => omega
  | succ n ih =>
    cases i with
    | zero => rfl
    | succ i =>
      rw [load, List.getD_cons_succ, ih (pos + 1) (by omega), Nat.add_assoc, Nat.add_comm 1 i]

theorem load_add (mem : Mem) (pos m n : Nat) :
    mem.load pos (m + n) = mem.load pos m ++ mem.load (pos + m) n := by
  induction m generalizing pos with
  | zero => simp [load]
  | succ m ih =>
    rw [Nat.succ_add, load, load, ih, List.cons_append, show pos + 1 + m = pos + (m + 1) by omega]

/-- Loading two adjacent ranges is loading each. -/
theorem load_append_iff {a b : List UInt8} :
    mem.load pos (a.length + b.length) = a ++ b ↔
      mem.load pos a.length = a ∧ mem.load (pos + a.length) b.length = b := by
  rw [load_add]
  exact ⟨fun h => List.append_inj h (length_load _ _ _), fun h => by rw [h.1, h.2]⟩

/-- **Read after write.** -/
@[simp] theorem load_store_self (mem : Mem) (pos : Nat) (bytes : List UInt8) :
    (mem.store pos bytes).load pos bytes.length = bytes := by
  induction bytes generalizing pos mem with
  | nil => rfl
  | cons b bs ih =>
    have htail : (mem.store pos (b :: bs)).load (pos + 1) bs.length
        = ((mem.store pos (b :: bs)).store (pos + 1) bs).load (pos + 1) bs.length :=
      load_congr fun i h₁ h₂ => by
        rw [store_apply_of_mem h₁ h₂,
          store_apply_of_mem (by omega) (by simp only [List.length_cons]; omega),
          show i - pos = i - (pos + 1) + 1 by omega]
        rfl
    have hhead : mem.store pos (b :: bs) pos = b := by
      rw [store_apply_of_mem (le_refl pos) (by simp only [List.length_cons]; omega), Nat.sub_self]
      rfl
    simp only [List.length_cons, load, htail, ih, hhead]

/-- **Read elsewhere.** A store does not change what is loaded from a disjoint range. -/
theorem load_store_of_disjoint (h : q + n ≤ pos ∨ pos + bytes.length ≤ q) :
    (mem.store pos bytes).load q n = mem.load q n :=
  load_congr fun _ _ _ => store_apply_of_not_mem (by omega)

/-- Two adjacent stores are one store of the concatenation. -/
theorem store_append (mem : Mem) (pos : Nat) (a b : List UInt8) :
    (mem.store pos a).store (pos + a.length) b = mem.store pos (a ++ b) := by
  funext i
  by_cases h₁ : pos + a.length ≤ i ∧ i < pos + a.length + b.length
  · rw [store_apply_of_mem h₁.1 h₁.2, store_apply_of_mem (by omega) (by simp; omega),
      List.getD_eq_getElem?_getD, List.getD_eq_getElem?_getD, List.getElem?_append_right (by omega)]
    congr 2; omega
  · rw [store_apply_of_not_mem (by omega)]
    by_cases h₂ : pos ≤ i ∧ i < pos + a.length
    · rw [store_apply_of_mem h₂.1 h₂.2, store_apply_of_mem h₂.1 (by simp; omega),
        List.getD_eq_getElem?_getD, List.getD_eq_getElem?_getD,
        List.getElem?_append_left (by omega)]
    · rw [store_apply_of_not_mem (by omega), store_apply_of_not_mem (by simp; omega)]

end Mem

/-! ## C strings -/

/-- A `const char *` argument: its bytes up to, and not including, the terminating NUL. -/
structure CStr where
  /-- The bytes of the string. -/
  bytes : List UInt8
  /-- A C string holds no NUL before its end. -/
  no_nul : 0 ∉ bytes
  deriving DecidableEq

/-! ## The header length -/

/-- `store_length`: the frame length, high byte first, into bytes 2 and 3 of the buffer. -/
def storeLength (length : Nat) (buffer : Mem) : Mem :=
  buffer.store 2 [((length &&& 0xFF00) >>> 8).toUInt8, (length &&& 0xFF).toUInt8]

/-- `compute_length`: bytes 2 and 3 of the buffer, read as `unsigned char`, high byte first. -/
def computeLength (data : Mem) : Nat :=
  (data 2).toNat <<< 8 ||| (data 3).toNat

/-- The announced length of a frame whose first bytes are `bytes`: what `compute_length` reads
from a buffer holding them. -/
def announcedLength (bytes : List UInt8) : Nat :=
  (bytes.getD 2 0).toNat * 256 + (bytes.getD 3 0).toNat

theorem byte_toNat_lt (b : UInt8) : b.toNat < 256 := b.toNat_lt_size

theorem computeLength_eq (data : Mem) :
    computeLength data = (data 2).toNat * 256 + (data 3).toNat := by
  rw [computeLength, Nat.shiftLeft_eq, Nat.mul_comm, show (2 : Nat) ^ 8 = 256 from rfl,
    ← show (2 : Nat) ^ 8 = 256 from rfl, Nat.mul_add_lt_is_or (byte_toNat_lt _)]

private theorem mask_high (n : Nat) : (n &&& 0xFF00) >>> 8 = n / 256 % 256 := by
  apply Nat.eq_of_testBit_eq; intro i
  rw [Nat.testBit_shiftRight, Nat.testBit_and, show (256 : Nat) = 2 ^ 8 from rfl,
    Nat.testBit_mod_two_pow, ← Nat.shiftRight_eq_div_pow, Nat.testBit_shiftRight]
  by_cases hi : i < 8
  · have : (0xFF00 : Nat).testBit (8 + i) = true := by interval_cases i <;> decide
    simp [this, hi]
  · have : (0xFF00 : Nat).testBit (8 + i) = false := Nat.testBit_eq_false_of_lt
      (lt_of_lt_of_le (by norm_num) (Nat.pow_le_pow_right (by norm_num) (by omega : 16 ≤ 8 + i)))
    simp [this, hi]

@[simp] theorem storeLength_apply_two (length : Nat) (buffer : Mem) :
    (storeLength length buffer 2).toNat = length / 256 % 256 := by
  rw [storeLength, Mem.store_apply_of_mem (by omega) (by simp)]
  simp [mask_high, Nat.toUInt8, UInt8.toNat, UInt8.ofNat]

@[simp] theorem storeLength_apply_three (length : Nat) (buffer : Mem) :
    (storeLength length buffer 3).toNat = length % 256 := by
  rw [storeLength, Mem.store_apply_of_mem (by omega) (by simp)]
  simp [Nat.toUInt8, UInt8.toNat, UInt8.ofNat,
    show length &&& 0xFF = length % 2 ^ 8 from Nat.and_pow_two_sub_one_eq_mod length 8]

/-- `store_length` writes bytes 2 and 3 and nothing else. -/
theorem storeLength_apply_of_ne {i : Nat} (h₂ : i ≠ 2) (h₃ : i ≠ 3) (length : Nat) (buffer : Mem) :
    storeLength length buffer i = buffer i :=
  Mem.store_apply_of_not_mem (by simp; omega)

/-- **Header round trip.** `compute_length` after `store_length` is the identity below `2 ^ 16`. -/
theorem computeLength_storeLength {length : Nat} (h : length < 65536) (buffer : Mem) :
    computeLength (storeLength length buffer) = length := by
  rw [computeLength_eq, storeLength_apply_two, storeLength_apply_three]
  omega

theorem computeLength_lt (data : Mem) : computeLength data < 65536 := by
  have := byte_toNat_lt (data 2); have := byte_toNat_lt (data 3)
  rw [computeLength_eq]; omega

/-- `compute_length` reads the announced length of whatever bytes were loaded at the start. -/
theorem computeLength_of_load {data : Mem} {bytes : List UInt8} (h : data.load 0 4 = bytes) :
    computeLength data = announcedLength bytes := by
  subst h; simp [computeLength_eq, announcedLength, Mem.load]

end Twopence
