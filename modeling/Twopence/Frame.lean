import Twopence.Link

/-!
# Reading one frame

`__twopence_pipe_read_frame` receives the four header bytes, decodes the announced length, and
receives the rest of the frame into the same buffer. Its two length checks are the client's only
defence against a peer that announces more than the buffer holds, and this module proves what
they buy: whatever the link does, nothing outside `buffer[0, size)` is written
(`pipeReadFrame_apply_of_le`), and on a link that delivers a byte stream the function consumes
exactly one frame of it, or exactly its header when the announced length is out of range
(`pipeReadFrame_stream`).

## Frames in sequence

`readFrames` calls the reader again and again on one buffer, as every caller in `protocol.c`
does, and collects what each caller looks at: the type byte `buffer[0]` and the payload
`buffer[4, compute_length(buffer))`. `readFrames_wellFormed` is the decoder half of the codec round
trip: any sequence of frames whose headers announce their own lengths comes back out, type and
payload, however the stream is chunked.

## Main results

* `pipeReadFrame_apply_of_le` — memory safety against every link
* `pipeReadFrame_stream` — what is consumed and stored, for every stream and every length
* `pipeReadFrame_frame` — a frame read whole is a well-formed frame at the head of the stream
* `readFrames_wellFormed` — well-formed frames come back out in order
-/

namespace Twopence

/-- `__twopence_pipe_read_frame`: the four header bytes, then the rest of the frame as its header
announces it, into `buffer[0, size)`. Returns 0, or the negative code of the failure. -/
def pipeReadFrame (size : Nat) (mem : Mem) (rounds : List RecvRound) : Received :=
  let hdr := pipeRecvbuf 0 4 0 mem rounds
  if hdr.rc < 0 then hdr
  else
    let length := computeLength hdr.mem
    if length > size then ⟨Error.protocol.code, hdr.mem, hdr.rest⟩
    else if length < 4 then ⟨Error.protocol.code, hdr.mem, hdr.rest⟩
    else
      let body := pipeRecvbuf 4 (length - 4) 0 hdr.mem hdr.rest
      if body.rc < 0 then body else ⟨0, body.mem, body.rest⟩

section ReadFrame

variable {size : Nat} {mem : Mem}

theorem announcedLength_append {f : List UInt8} (hf : 4 ≤ f.length) (s : List UInt8) :
    announcedLength (f ++ s) = announcedLength f := by
  simp only [announcedLength, List.getD_eq_getElem?_getD,
    List.getElem?_append_left (show 2 < f.length by omega),
    List.getElem?_append_left (show 3 < f.length by omega)]

theorem announcedLength_take {n : Nat} (hn : 4 ≤ n) (s : List UInt8) :
    announcedLength (s.take n) = announcedLength s := by
  simp only [announcedLength, List.getD_eq_getElem?_getD, List.getElem?_take_of_lt
    (show 2 < n by omega), List.getElem?_take_of_lt (show 3 < n by omega)]

/-- **Memory safety.** Whatever the link does, the reader writes nothing at or past `size`. -/
theorem pipeReadFrame_apply_of_le (h4 : 4 ≤ size) (rounds : List RecvRound) {i : Nat}
    (hi : size ≤ i) : (pipeReadFrame size mem rounds).mem i = mem i := by
  have hhdr : (pipeRecvbuf 0 4 0 mem rounds).mem i = mem i :=
    pipeRecvbuf_apply_of_not_mem rounds (by omega)
  simp only [pipeReadFrame]
  split
  · exact hhdr
  split
  · exact hhdr
  split
  · exact hhdr
  rename_i hlen _
  have hbody : (pipeRecvbuf 4 (computeLength (pipeRecvbuf 0 4 0 mem rounds).mem - 4) 0
      (pipeRecvbuf 0 4 0 mem rounds).mem (pipeRecvbuf 0 4 0 mem rounds).rest).mem i
      = (pipeRecvbuf 0 4 0 mem rounds).mem i :=
    pipeRecvbuf_apply_of_not_mem _ (by omega)
  split <;> simp only [hbody, hhdr]

/-- The header of a stream that holds at least four bytes: the reader takes exactly them. -/
private theorem pipeRecvbuf_header (mem : Mem) {rounds : List RecvRound} {s : List UInt8}
    (hd : Delivers rounds s) (hs : 4 ≤ s.length) :
    (pipeRecvbuf 0 4 0 mem rounds).rc = 4 ∧
      (pipeRecvbuf 0 4 0 mem rounds).mem = mem.store 0 (s.take 4) ∧
      Delivers (pipeRecvbuf 0 4 0 mem rounds).rest (s.drop 4) := by
  obtain ⟨h₁, h₂, rest, h₃, h₄⟩ :=
    pipeRecvbuf_delivers 0 4 0 mem hd (Nat.zero_le 4) (by omega) []
  simp only [List.append_nil] at h₁ h₂ h₃
  exact ⟨h₁, h₂, by rw [h₃]; simpa using h₄⟩

private theorem computeLength_header (mem : Mem) (s : List UInt8) (hs : 4 ≤ s.length) :
    computeLength (mem.store 0 (s.take 4)) = announcedLength s := by
  have h : (mem.store 0 (s.take 4)).load 0 4 = s.take 4 := by
    simpa [Nat.min_eq_left hs] using Mem.load_store_self mem 0 (s.take 4)
  rw [computeLength_of_load h, announcedLength_take (le_refl 4)]

/-- **Reading from a stream.** Take any byte stream the link delivers and any buffer of at least
four bytes, and let `L` be the length the stream's first four bytes announce.

* If `L` is below 4 or above `size`, the reader returns `TWOPENCE_PROTOCOL_ERROR` having consumed
  exactly the four header bytes.
* Otherwise, when the stream holds `L` bytes, it returns 0 having consumed exactly them, and they
  are `buffer[0, L)`.
* When the stream ends sooner — before the header or before the frame is complete — it returns
  `TWOPENCE_PROTOCOL_ERROR`. -/
theorem pipeReadFrame_stream (size : Nat) (mem : Mem) {rounds : List RecvRound} {s : List UInt8}
    (hd : Delivers rounds s) :
    (s.length < 4 → (pipeReadFrame size mem rounds).rc = Error.protocol.code) ∧
    (4 ≤ s.length → announcedLength s < 4 ∨ size < announcedLength s →
      (pipeReadFrame size mem rounds).rc = Error.protocol.code ∧
        Delivers (pipeReadFrame size mem rounds).rest (s.drop 4)) ∧
    (4 ≤ announcedLength s → announcedLength s ≤ size → s.length < announcedLength s →
      (pipeReadFrame size mem rounds).rc = Error.protocol.code) ∧
    (4 ≤ announcedLength s → announcedLength s ≤ size → announcedLength s ≤ s.length →
      (pipeReadFrame size mem rounds).rc = 0 ∧
        Delivers (pipeReadFrame size mem rounds).rest (s.drop (announcedLength s)) ∧
        (pipeReadFrame size mem rounds).mem.load 0 (announcedLength s)
          = s.take (announcedLength s)) := by
  have hshort4 : s.length < 4 → (pipeReadFrame size mem rounds).rc = Error.protocol.code := by
    intro hs
    have h := pipeRecvbuf_short 0 4 0 mem hd (by omega)
    simp only [pipeReadFrame, h, if_pos (Error.code_neg _)]
  refine ⟨hshort4, fun hs hbad => ?_, fun hL hLs hshort => ?_, fun hL hLs hlong => ?_⟩
  · obtain ⟨h₁, h₂, h₃⟩ := pipeRecvbuf_header mem hd hs
    simp only [pipeReadFrame, h₁, h₂, computeLength_header mem s hs]
    rcases hbad with hbad | hbad
    · by_cases hgt : announcedLength s > size <;> simp [hgt, hbad, h₃]
    · simp [hbad, h₃]
  · by_cases hs : s.length < 4
    · exact hshort4 hs
    obtain ⟨h₁, h₂, h₃⟩ := pipeRecvbuf_header mem hd (by omega)
    have hb := pipeRecvbuf_short 4 (announcedLength s - 4) 0 (mem.store 0 (s.take 4)) h₃
      (by simp; omega)
    simp [pipeReadFrame, h₁, h₂, computeLength_header mem s (by omega), hb, Error.code_neg,
      show ¬ size < announcedLength s by omega, show ¬ announcedLength s < 4 by omega]
  · obtain ⟨h₁, h₂, h₃⟩ := pipeRecvbuf_header mem hd (by omega)
    obtain ⟨b₁, b₂, rest, b₃, b₄⟩ := pipeRecvbuf_delivers 4 (announcedLength s - 4)
      0 (mem.store 0 (s.take 4)) h₃ (Nat.zero_le _)
      (by simp; omega) []
    simp only [List.append_nil] at b₁ b₂ b₃
    have htake : s.take 4 ++ (s.drop 4).take (announcedLength s - 4) = s.take (announcedLength s) := by
      rw [← List.take_add]; congr 1; omega
    have hmem : (mem.store 0 (s.take 4)).store 4 ((s.drop 4).take (announcedLength s - 4))
        = mem.store 0 (s.take (announcedLength s)) := by
      have h := Mem.store_append mem 0 (s.take 4) ((s.drop 4).take (announcedLength s - 4))
      rw [List.length_take, Nat.min_eq_left (by omega), Nat.zero_add] at h
      rw [h, htake]
    simp only [pipeReadFrame, h₁, h₂, computeLength_header mem s (by omega), b₁, b₂, b₃, hmem,
      Nat.sub_zero]
    simp only [show ¬ ((4 : Nat) : Int) < 0 by omega, if_false, gt_iff_lt,
      show ¬ size < announcedLength s by omega, show ¬ announcedLength s < 4 by omega,
      show ¬ (((announcedLength s - 4 : Nat)) : Int) < 0 by omega]
    refine ⟨rfl, by simpa [List.drop_drop, show 4 + (announcedLength s - 4)
      = announcedLength s by omega] using b₄, ?_⟩
    simpa [Nat.min_eq_left hlong] using Mem.load_store_self mem 0 (s.take (announcedLength s))

/-- **The length checks.** For every buffer of at least four bytes: whatever the link does, the
reader stores nothing at or past `size`; and for every byte stream the link delivers, however it
is chunked, an announced length `L` below 4 or above `size` is refused with
`TWOPENCE_PROTOCOL_ERROR` after exactly the four header bytes, while any other `L` is read whole:
the call returns 0 after consuming exactly `L` bytes, which are then `buffer[0, L)`. A stream that
ends before its frame does is refused with `TWOPENCE_PROTOCOL_ERROR`. -/
theorem pipeReadFrame_guarded (h4 : 4 ≤ size) (mem : Mem) (rounds : List RecvRound) :
    (∀ i, size ≤ i → (pipeReadFrame size mem rounds).mem i = mem i) ∧
    ∀ s, Delivers rounds s →
      (s.length < 4 → (pipeReadFrame size mem rounds).rc = Error.protocol.code) ∧
      (4 ≤ s.length → announcedLength s < 4 ∨ size < announcedLength s →
        (pipeReadFrame size mem rounds).rc = Error.protocol.code ∧
          Delivers (pipeReadFrame size mem rounds).rest (s.drop 4)) ∧
      (4 ≤ announcedLength s → announcedLength s ≤ size → s.length < announcedLength s →
        (pipeReadFrame size mem rounds).rc = Error.protocol.code) ∧
      (4 ≤ announcedLength s → announcedLength s ≤ size → announcedLength s ≤ s.length →
        (pipeReadFrame size mem rounds).rc = 0 ∧
          Delivers (pipeReadFrame size mem rounds).rest (s.drop (announcedLength s)) ∧
          (pipeReadFrame size mem rounds).mem.load 0 (announcedLength s)
            = s.take (announcedLength s)) :=
  ⟨fun _ hi => pipeReadFrame_apply_of_le h4 rounds hi, fun _ hd => pipeReadFrame_stream size mem hd⟩

/-- A five-byte `'M'` frame with payload `"0"`, arriving in one piece, is read into a buffer of
eight bytes, which nothing past the buffer sees. -/
theorem pipeReadFrame_guarded_four :
    4 ≤ 8 ∧ (pipeReadFrame 8 (fun _ => 0) [.recv [77, 0, 0, 5, 48]]).rc = 0 ∧
      (pipeReadFrame 8 (fun _ => 0) [.recv [77, 0, 0, 5, 48]]).mem 8 = 0 := by
  have hd : Delivers [.recv [77, 0, 0, 5, 48]] [77, 0, 0, 5, 48] :=
    by simpa using Delivers.cons (by simp) Delivers.nil
  obtain ⟨hsafe, hstream⟩ := pipeReadFrame_guarded (by decide : 4 ≤ 8) (fun _ => 0)
    [.recv [77, 0, 0, 5, 48]]
  exact ⟨by decide, ((hstream _ hd).2.2.2 (by decide) (by decide) (by decide)).1,
    hsafe 8 (le_refl 8)⟩

/-- A frame read whole takes at least its four header bytes off the link. -/
theorem pipeReadFrame_pending (mem : Mem) (rounds : List RecvRound)
    (h : (pipeReadFrame size mem rounds).rc = 0) :
    pendingBytes (pipeReadFrame size mem rounds).rest + 4 ≤ pendingBytes rounds := by
  have hneg := (Error.code_neg .protocol).ne
  unfold pipeReadFrame at h ⊢
  dsimp only at h ⊢
  set hdr := pipeRecvbuf 0 4 0 mem rounds
  set body := pipeRecvbuf 4 (computeLength hdr.mem - 4) 0 hdr.mem hdr.rest
  have hhdr : hdr.rc = 4 ∨ hdr.rc < 0 := pipeRecvbuf_rc rounds (Nat.zero_le 4)
  have hbody : body.rc = ↑(computeLength hdr.mem - 4) ∨ body.rc < 0 :=
    pipeRecvbuf_rc hdr.rest (Nat.zero_le _)
  by_cases h₁ : hdr.rc < 0
  · rw [if_pos h₁] at h; omega
  by_cases h₂ : computeLength hdr.mem > size
  · rw [if_neg h₁, if_pos h₂] at h; exact absurd h hneg
  by_cases h₃ : computeLength hdr.mem < 4
  · rw [if_neg h₁, if_neg h₂, if_pos h₃] at h; exact absurd h hneg
  by_cases h₄ : body.rc < 0
  · rw [if_neg h₁, if_neg h₂, if_neg h₃, if_pos h₄] at h; omega
  rw [if_neg h₁, if_neg h₂, if_neg h₃, if_neg h₄]
  have p₁ : pendingBytes hdr.rest + (4 - 0) = pendingBytes rounds :=
    pipeRecvbuf_pending rounds (Nat.zero_le 4) (show hdr.rc = 4 by omega)
  have p₂ : pendingBytes body.rest + (computeLength hdr.mem - 4 - 0) = pendingBytes hdr.rest :=
    pipeRecvbuf_pending hdr.rest (Nat.zero_le _) (show body.rc = _ by omega)
  dsimp only
  omega

end ReadFrame

/-! ## Frames in sequence -/

/-- A frame whose header announces its own length and fits a buffer of `size` bytes. -/
def WellFormed (size : Nat) (f : List UInt8) : Prop :=
  4 ≤ f.length ∧ f.length ≤ size ∧ announcedLength f = f.length

instance (size : Nat) (f : List UInt8) : Decidable (WellFormed size f) :=
  inferInstanceAs (Decidable (_ ∧ _ ∧ _))

/-- Successive `__twopence_pipe_read_frame` calls on one buffer of `size` bytes: for each frame,
what the callers read from the buffer — the type byte `buffer[0]` and the payload
`buffer[4, compute_length(buffer))` — or `none` as soon as a call fails. -/
def readFrames (size : Nat) : Nat → Mem → List RecvRound → Option (List (UInt8 × List UInt8))
  | 0, _, _ => some []
  | n + 1, mem, rounds =>
    let r := pipeReadFrame size mem rounds
    if r.rc = 0 then
      (readFrames size n r.mem r.rest).map ((r.mem 0, r.mem.load 4 (computeLength r.mem - 4)) :: ·)
    else none

/-- A well-formed frame at the head of the stream is read whole, and the rest of the stream stays
on the link. -/
theorem pipeReadFrame_wellFormed {size : Nat} (mem : Mem) {rounds : List RecvRound}
    {f s : List UInt8} (hf : WellFormed size f) (hd : Delivers rounds (f ++ s)) :
    (pipeReadFrame size mem rounds).rc = 0 ∧ Delivers (pipeReadFrame size mem rounds).rest s ∧
      (pipeReadFrame size mem rounds).mem.load 0 f.length = f := by
  obtain ⟨hf4, hfs, hfa⟩ := hf
  have hL : announcedLength (f ++ s) = f.length := by rw [announcedLength_append hf4, hfa]
  obtain ⟨-, -, -, hgood⟩ := pipeReadFrame_stream size mem hd
  obtain ⟨h₁, h₂, h₃⟩ := hgood (by omega) (by omega) (by simp [hL])
  rw [hL] at h₂ h₃
  simpa using And.intro h₁ (And.intro h₂ h₃)

/-- **A frame read whole was a well-formed frame.** When the reader returns 0 on a link that
delivers `s`, the bytes it took are a well-formed frame at the head of `s`, the rest stays on the
link, and the frame is in the buffer. -/
theorem pipeReadFrame_frame {size : Nat} (mem : Mem) {rounds : List RecvRound} {s : List UInt8}
    (hd : Delivers rounds s) (h : (pipeReadFrame size mem rounds).rc = 0) :
    ∃ f rest, s = f ++ rest ∧ WellFormed size f ∧ Delivers (pipeReadFrame size mem rounds).rest rest ∧
      (pipeReadFrame size mem rounds).mem.load 0 f.length = f := by
  have hne := (Error.code_neg .protocol).ne
  obtain ⟨hshort, hbad, hlong, hgood⟩ := pipeReadFrame_stream size mem hd
  have h4 : 4 ≤ s.length := by
    by_contra hs; exact hne ((hshort (by omega)).symm.trans h)
  have hL : 4 ≤ announcedLength s ∧ announcedLength s ≤ size := by
    by_contra hn; exact hne ((hbad h4 (by omega)).1.symm.trans h)
  have hLs : announcedLength s ≤ s.length := by
    by_contra hn; exact hne ((hlong hL.1 hL.2 (by omega)).symm.trans h)
  have hlen : (s.take (announcedLength s)).length = announcedLength s := by
    rw [List.length_take, min_eq_left hLs]
  obtain ⟨-, hrest, hload⟩ := hgood hL.1 hL.2 hLs
  refine ⟨_, _, (List.take_append_drop (announcedLength s) s).symm,
    ⟨by omega, by omega, by rw [announcedLength_take hL.1, hlen]⟩, hrest, by rwa [hlen]⟩

/-- What the callers read from a buffer that holds a well-formed frame: the type byte
`buffer[0]`, the length `compute_length(buffer)`, and the payload `buffer[4, length)`. -/
theorem load_frame {mem : Mem} {f : List UInt8} (hf : 4 ≤ f.length)
    (hl : announcedLength f = f.length) (h : mem.load 0 f.length = f) :
    mem 0 = f.headD 0 ∧ computeLength mem = f.length ∧ mem.load 4 (f.length - 4) = f.drop 4 := by
  have hsplit := Mem.load_add mem 0 4 (f.length - 4)
  rw [show 4 + (f.length - 4) = f.length by omega, h] at hsplit
  have hhdr : mem.load 0 4 = f.take 4 := by
    rw [← List.take_left' (Mem.length_load mem 0 4), ← hsplit]
  refine ⟨?_, by rw [computeLength_of_load hhdr, announcedLength_take (le_refl 4), hl], ?_⟩
  · obtain ⟨b, bs, rfl⟩ :=
      List.exists_cons_of_ne_nil (List.ne_nil_of_length_pos (by omega : 0 < f.length))
    simpa [Mem.load] using congrArg (List.headD · 0) h
  · have := congrArg (List.drop 4) hsplit
    rw [List.drop_left' (Mem.length_load mem 0 4), Nat.zero_add] at this
    exact this.symm

/-- The type byte and the payload of a buffer that holds a well-formed frame. -/
theorem typePayload_of_load {mem : Mem} {f : List UInt8} (hf : 4 ≤ f.length)
    (hl : announcedLength f = f.length) (h : mem.load 0 f.length = f) :
    (mem 0, mem.load 4 (computeLength mem - 4)) = (f.headD 0, f.drop 4) := by
  obtain ⟨h₀, hlen, hpay⟩ := load_frame hf hl h
  rw [h₀, hlen, hpay]

/-- **Frames in order.** However a stream of well-formed frames is chunked by the link,
successive reads return each frame's type byte and payload, in order. -/
theorem readFrames_wellFormed {size : Nat} (fs : List (List UInt8))
    (hfs : ∀ f ∈ fs, WellFormed size f) {rounds : List RecvRound} (hd : Delivers rounds fs.flatten)
    (mem : Mem) : readFrames size fs.length mem rounds = some (fs.map fun f => (f.headD 0, f.drop 4)) := by
  induction fs generalizing rounds mem with
  | nil => rfl
  | cons f fs ih =>
    have hf := hfs f (List.mem_cons_self f fs)
    obtain ⟨h₁, h₂, h₃⟩ := pipeReadFrame_wellFormed mem hf (by simpa using hd)
    simp only [List.length_cons, readFrames, h₁, if_true,
      ih (fun g hg => hfs g (List.mem_cons_of_mem f hg)) h₂, Option.map_some', List.map_cons,
      typePayload_of_load hf.1 hf.2.2 h₃]

end Twopence
