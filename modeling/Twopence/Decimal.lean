import Twopence.Client

/-!
# Numbers on the wire

The status codes and the file size travel as decimal text: the server formats them, and
`_twopence_read_major`, `_twopence_read_minor` and `_twopence_read_size` read them back with
`sscanf(buffer + 4, "%d", ...)`. The client formats a number itself once, `st_size` with `"%ld"`
in the inject request, which `formatLong` models.

This module shows that the two directions agree. The digits `formatLong` writes, followed by a NUL,
are read back by `sscanfInt` as the number they spell, for every integer, and stored as the `int`
`%d` makes of it (`sscanfInt_formatLong`), which within the range of an `int` is the number
itself (`scannedInt_of_lt`). So a status frame whose payload is a number followed by a NUL hands
that `int` to the reader, whatever the link does with the frame's bytes and whatever the reader's
stack buffer held (`readStatus_formatLong`, `readSize_formatLong`).

## Implementation notes

`formatLong` takes its digits from `Nat.toDigits 10`, for which core has no lemma. The one fact
needed is `toDigitsCore_digits`: with enough fuel, `Nat.toDigitsCore 10` puts before its
accumulator a non-empty run of digit characters whose value, read left to right as `scanDigits`
reads it, is the number.

## Main results

* `sscanfInt_formatLong` — `sscanf` reads back what `%ld` wrote
* `readStatus_formatLong`, `readSize_formatLong` — a status frame carrying a number
-/

namespace Twopence

/-! ## Digits -/

/-- `Nat.digitChar` of a decimal digit is a digit byte, which `- '0'` takes back, and neither
white space nor a sign. -/
theorem digitChar_digit (d : Nat) (h : d < 10) :
    isDigit (byte (Nat.digitChar d)) ∧ (byte (Nat.digitChar d)).toNat - 48 = d ∧
      isSpace (byte (Nat.digitChar d)) = false ∧ (byte (Nat.digitChar d) == byte '-') = false ∧
      (byte (Nat.digitChar d) == byte '+') = false := by
  interval_cases d <;> decide

/-- Read a run of digit bytes left to right onto `acc`, as `scanDigits` accumulates them. -/
theorem digits_foldl_append (ds : List UInt8) (d : UInt8) (acc : Nat) :
    (ds ++ [d]).foldl (fun a d => a * 10 + (d.toNat - 48)) acc =
      ds.foldl (fun a d => a * 10 + (d.toNat - 48)) acc * 10 + (d.toNat - 48) := by
  rw [List.foldl_append]; rfl

/-- With enough fuel, `Nat.toDigitsCore 10` puts the decimal digits of `n` before `ds`: a
non-empty run of digits whose value, read left to right onto `acc`, is `acc * 10 ^ length + n`. -/
theorem toDigitsCore_digits : ∀ (fuel n : Nat) (ds : List Char), n < fuel →
    ∃ D : List Char, Nat.toDigitsCore 10 fuel n ds = D ++ ds ∧ D ≠ [] ∧
      (∀ c ∈ D, ∃ d < 10, c = Nat.digitChar d) ∧
      ∀ acc, (D.map byte).foldl (fun a d => a * 10 + (d.toNat - 48)) acc = acc * 10 ^ D.length + n
  | 0, n, _, h => absurd h (Nat.not_lt_zero n)
  | fuel + 1, n, ds, h => by
    have hmod : n % 10 < 10 := Nat.mod_lt _ (by decide)
    have hval := (digitChar_digit (n % 10) hmod).2.1
    have hdm := Nat.div_add_mod n 10
    have hstep : Nat.toDigitsCore 10 (fuel + 1) n ds = if n / 10 = 0 then Nat.digitChar (n % 10) :: ds
        else Nat.toDigitsCore 10 fuel (n / 10) (Nat.digitChar (n % 10) :: ds) := rfl
    rw [hstep]
    split
    · refine ⟨[Nat.digitChar (n % 10)], rfl, List.cons_ne_nil _ _, by simpa using ⟨_, hmod, rfl⟩,
        fun acc => ?_⟩
      simp only [List.map_cons, List.map_nil, List.foldl_cons, List.foldl_nil, hval,
        List.length_singleton, pow_one]
      omega
    · obtain ⟨D, hD, -, hdigD, hvalD⟩ := toDigitsCore_digits fuel (n / 10) _ (by omega)
      refine ⟨D ++ [Nat.digitChar (n % 10)], by rw [hD, List.append_assoc]; rfl, by simp,
        fun c hc => ?_, fun acc => ?_⟩
      · rcases List.mem_append.mp hc with hc | hc
        · exact hdigD c hc
        · exact ⟨_, hmod, List.mem_singleton.mp hc⟩
      · rw [List.map_append, List.map_singleton, digits_foldl_append, hvalD, hval,
          List.length_append, List.length_singleton, pow_succ, ← Nat.mul_assoc]
        generalize acc * 10 ^ D.length = x
        omega

/-- The digits `Nat.toDigits 10 n`, as bytes: a non-empty run of digits worth `n`. -/
theorem toDigits_digits (n : Nat) :
    literal (Nat.toDigits 10 n) ≠ [] ∧
      (∀ c ∈ literal (Nat.toDigits 10 n), ∃ d < 10, c = byte (Nat.digitChar d)) ∧
      (literal (Nat.toDigits 10 n)).foldl (fun a d => a * 10 + (d.toNat - 48)) 0 = n := by
  obtain ⟨D, hD, hne, hdig, hval⟩ := toDigitsCore_digits (n + 1) n [] (Nat.lt_succ_self n)
  rw [List.append_nil] at hD
  rw [literal, show Nat.toDigits 10 n = Nat.toDigitsCore 10 (n + 1) n [] from rfl, hD]
  refine ⟨by simpa using hne, fun c hc => ?_, by rw [hval]; simp⟩
  obtain ⟨c', hc', rfl⟩ := List.mem_map.mp hc
  obtain ⟨d, hd, rfl⟩ := hdig c' hc'
  exact ⟨d, hd, rfl⟩

/-! ## `sscanf` -/

section Scan

variable {mem : Mem}

/-- `scanDigits` over a run of digits that stops before its fuel does, at a byte that is not a
digit: the run's value and its length. -/
theorem scanDigits_run : ∀ (bs : List UInt8) (fuel pos acc : Nat),
    mem.load pos bs.length = bs → (∀ b ∈ bs, isDigit b) → bs.length < fuel →
    isDigit (mem (pos + bs.length)) = false →
    scanDigits mem fuel pos acc = (bs.foldl (fun a d => a * 10 + (d.toNat - 48)) acc, bs.length)
  | [], fuel + 1, pos, acc, _, _, _, hstop => by
    rw [List.length_nil, Nat.add_zero] at hstop; simp [scanDigits, hstop]
  | b :: bs, fuel + 1, pos, acc, hl, hd, hlt, hstop => by
    simp only [List.length_cons, Mem.load, List.cons.injEq] at hl hlt hstop
    obtain ⟨rfl, hl⟩ := hl
    rw [scanDigits, if_pos (hd _ (List.mem_cons_self _ _))]
    rw [scanDigits_run bs fuel (pos + 1) _ hl (fun x hx => hd x (List.mem_cons_of_mem _ hx))
      (by omega) (by rwa [show pos + (bs.length + 1) = pos + 1 + bs.length by omega] at hstop)]
    rfl

/-- `sscanf` skips nothing before a byte that is not white space. -/
theorem skipSpace_of_not_space {n pos : Nat} (hn : 0 < n) (h : isSpace (mem pos) = false) :
    skipSpace mem n pos = pos := by
  obtain ⟨j, rfl⟩ : ∃ j, n = j + 1 := ⟨n - 1, by omega⟩
  rw [skipSpace, h]; rfl

/-- A range followed by a NUL. -/
theorem load_nul_iff {pos : Nat} {l : List UInt8} :
    mem.load pos (l.length + 1) = l ++ [0] ↔
      mem.load pos l.length = l ∧ mem (pos + l.length) = 0 := by
  rw [← List.length_singleton (a := (0 : UInt8)), Mem.load_append_iff]
  simp [Mem.load]

/-- **`sscanf` reads back what `%ld` wrote.** A buffer holding `formatLong v` and a NUL at `pos`,
within the buffer, converts to the `int` `%d` stores for `v`, for every integer `v`. -/
theorem sscanfInt_formatLong {pos : Nat} (v : Int)
    (h : mem.load pos ((formatLong v).length + 1) = formatLong v ++ [0])
    (hfit : pos + (formatLong v).length + 1 ≤ bufferSize) :
    sscanfInt mem pos = some (scannedInt v) := by
  obtain ⟨hne, hdig, hval⟩ := toDigits_digits v.natAbs
  have hdig' : ∀ c ∈ literal (Nat.toDigits 10 v.natAbs), isDigit c := fun c hc => by
    obtain ⟨d, hd, rfl⟩ := hdig c hc; exact (digitChar_digit d hd).1
  obtain ⟨hl, hnul⟩ := load_nul_iff.mp h
  rw [formatLong, List.length_append, Mem.load_append_iff] at hl
  rw [formatLong, List.length_append, ← Nat.add_assoc] at hnul
  rw [formatLong, List.length_append] at hfit
  generalize literal (Nat.toDigits 10 v.natAbs) = D at hne hdig hdig' hval hl hnul hfit
  obtain ⟨d, ds, rfl⟩ := List.exists_cons_of_ne_nil hne
  obtain ⟨k, hk, hd⟩ := hdig d (List.mem_cons_self _ _)
  obtain ⟨-, -, hsp, hminus, hplus⟩ := digitChar_digit k hk
  rw [← hd] at hsp hminus hplus
  have hnd :
      isDigit (mem (pos + (if v < 0 then [byte '-'] else []).length + (d :: ds).length)) = false := by
    rw [hnul]; rfl
  unfold sscanfInt
  by_cases hv : v < 0
  · simp only [hv, if_true, List.length_singleton, List.length_cons] at hl hnd hfit
    have hminus' : mem pos = byte '-' := (List.cons.inj hl.1).1
    have hskip : skipSpace mem (bufferSize - pos) pos = pos :=
      skipSpace_of_not_space (by omega) (by rw [hminus']; decide)
    simp only [hskip, hminus', beq_self_eq_true, Bool.true_or, if_true]
    rw [scanDigits_run (d :: ds) _ (pos + 1) 0 hl.2 hdig' (by rw [List.length_cons]; omega) hnd,
      if_neg (by simp), hval]
    simp only [if_true]
    rw [show -(v.natAbs : Int) = v by omega]
  · simp only [hv, if_false, List.length_nil, Nat.add_zero, List.length_cons] at hl hnd hfit
    have hfirst : mem pos = d := (List.cons.inj hl.2).1
    have hskip : skipSpace mem (bufferSize - pos) pos = pos :=
      skipSpace_of_not_space (by omega) (by rw [hfirst, hsp])
    simp only [hskip, hfirst, hminus, hplus, Bool.false_or, Bool.false_eq_true, if_false]
    rw [scanDigits_run (d :: ds) _ pos 0 hl.2 hdig' (by rw [List.length_cons]; omega) hnd,
      if_neg (by simp), hval]
    simp only [if_false]
    rw [show (v.natAbs : Int) = v by omega]

end Scan

/-! ## Status frames -/

section Frames

variable {w : World} {f s : List UInt8} {v : Int}

/-- A buffer that holds a well-formed frame whose payload is `formatLong v` and a NUL: its type
at offset 0, and the `int` of `v` for `sscanf` at offset 4. -/
theorem sscanfInt_frame {mem : Mem} (hf : WellFormed bufferSize f)
    (hpay : f.drop 4 = formatLong v ++ [0]) (hb : mem.load 0 f.length = f) :
    mem 0 = f.headD 0 ∧ sscanfInt mem 4 = some (scannedInt v) := by
  obtain ⟨h0, -, hload⟩ := load_frame hf.1 hf.2.2 hb
  have hlen : f.length - 4 = (formatLong v).length + 1 := by
    rw [← List.length_drop, hpay, List.length_append, List.length_singleton]
  rw [hlen, hpay] at hload
  exact ⟨h0, sscanfInt_formatLong v hload (by have := hf.2.1; omega)⟩

/-- The frame a reply's reader takes off a link that delivers such a frame. -/
theorem readFrame_formatLong (hf : WellFormed bufferSize f) (hpay : f.drop 4 = formatLong v ++ [0])
    (hd : Delivers w.rx (f ++ s)) (buffer : Mem) :
    (w.readFrame buffer).1 = 0 ∧ (w.readFrame buffer).2.1 0 = f.headD 0 ∧
      sscanfInt (w.readFrame buffer).2.1 4 = some (scannedInt v) ∧
      ∃ rest, (w.readFrame buffer).2.2 = { w with rx := rest } ∧ Delivers rest s := by
  obtain ⟨h₁, h₂, h₃⟩ := pipeReadFrame_wellFormed buffer hf hd
  exact ⟨h₁, sscanfInt_frame hf hpay h₃ |>.1, sscanfInt_frame hf hpay h₃ |>.2, _, rfl, h₂⟩

/-- **A status frame carrying a number.** On a link that delivers a well-formed frame of type
`type` whose payload is `formatLong v` and a NUL, `_twopence_read_major` (`'M'`) and
`_twopence_read_minor` (`'m'`) return 0 and report the `int` `%d` stores for `v`, whatever their
stack buffer held, and leave the bytes after the frame on the link. -/
theorem readStatus_formatLong {type : UInt8} (hf : WellFormed bufferSize f)
    (hty : f.headD 0 = type) (hpay : f.drop 4 = formatLong v ++ [0])
    (hd : Delivers w.rx (f ++ s)) (buffer : Mem) (value : Int) :
    ∃ rest, readStatus type w buffer value = (0, scannedInt v, { w with rx := rest }) ∧
      Delivers rest s := by
  obtain ⟨h₁, h₀, hv, rest, hw, hrest⟩ := readFrame_formatLong hf hpay hd buffer
  refine ⟨rest, ?_, hrest⟩
  rw [readStatus, if_neg (not_not.mpr h₁), if_neg (not_not.mpr (h₀.trans hty)), hv, hw]
  rfl

/-- **A size frame carrying a number.** The same for `_twopence_read_size` and an `'s'` frame: it
returns 0 and reports the `int` of `v` as the size, and leaves `*remote_rc` as it was. -/
theorem readSize_formatLong (hf : WellFormed bufferSize f) (hty : f.headD 0 = byte 's')
    (hpay : f.drop 4 = formatLong v ++ [0]) (hd : Delivers w.rx (f ++ s)) (buffer : Mem)
    (size remote_rc : Int) :
    ∃ rest, readSize w buffer size remote_rc = (0, scannedInt v, remote_rc, { w with rx := rest }) ∧
      Delivers rest s := by
  obtain ⟨h₁, h₀, hv, rest, hw, hrest⟩ := readFrame_formatLong hf hpay hd buffer
  refine ⟨rest, ?_, hrest⟩
  rw [readSize, if_neg (not_not.mpr h₁), if_pos (h₀.trans hty), hv, hw]
  rfl

end Frames

end Twopence
