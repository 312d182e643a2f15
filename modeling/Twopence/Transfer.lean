import Twopence.Session

/-!
# File transfer

`_twopence_receive_file` takes a file off the link as `'d'` frames and writes each payload to the
local file; `_twopence_send_file` reads the local file in chunks and sends each as a `'d'` frame.
Both loop while `remaining > 0`, where `remaining` starts as the file's size: the size the server
announces, for extract, and `st_size` converted to `int`, for inject.

## Receiving

`fileBytes` reads the bytes written to the local file off the trace. On a link that delivers a
byte stream, a turn of the receive loop on a well-formed frame does what `receiveFileStep_frame`
says: it checks the frame's type and payload length against what remains and writes the payload.
A turn that goes on consumed such a frame (`receiveFileStep_ok`), so the frames a successful run
consumed are data frames whose payloads add up to the size, and the file holds their payloads in
order. The bound on what is written needs no assumption on the link at all.

`_twopence_extract_virtio_serial` takes the size from `_twopence_read_size`, which sets it only
for an `'s'` reply: after an `'M'` reply the size is whatever the uninitialised variable held, and
the file is received with that.

## Sending

`__twopence_pipe_sendbuf` returns the count or a negative code, and `_twopence_send_file` tests it
with `!`, which is false for both: a turn fails only when the local file does
(`sendFileStep_eq`), so what the function returns does not depend on the link at all. It builds
each data frame in a stack buffer whose byte 1 it never sets, and `_twopence_inject_virtio_serial`
hands it `st_size` through an `int`.

## Main results

* `receiveFile_payloads` — what `_twopence_receive_file` consumes, writes and returns
* `extractVirtioSerial_after_major` — after an `'M'` reply, the file is received with the
  uninitialised size
* `sendFile_ignores_send_errors` — the link's failures do not reach the return value
* `sendFile_leaks_stack` — byte 1 of a data frame is a stack byte, and of a request `'.'`
* `injectVirtioSerial_truncated_size` — a size past `int` sends nothing
-/

namespace Twopence

/-! ## The local file's bytes -/

/-- The bytes written to the local file, in order. -/
def fileBytes (trace : List ClientEvent) : List UInt8 :=
  trace.flatMap fun
    | .fileWrite bytes => bytes
    | _ => []

@[simp] theorem fileBytes_append (a b : List ClientEvent) :
    fileBytes (a ++ b) = fileBytes a ++ fileBytes b :=
  List.flatMap_append a b _

/-- The payload length of a frame. -/
def payloadLength (f : List UInt8) : Nat := f.length - 4

/-- A well-formed `'d'` frame. -/
def DataFrame (f : List UInt8) : Prop := WellFormed bufferSize f ∧ f.headD 0 = byte 'd'

instance (f : List UInt8) : Decidable (DataFrame f) := inferInstanceAs (Decidable (_ ∧ _))

section World

variable {w : World}

@[simp] theorem fileBytes_pipeOutput (c : UInt8) :
    fileBytes (w.pipeOutput c).2.trace = fileBytes w.trace := by
  unfold World.pipeOutput World.sinkWrite
  split
  · simp [World.record, fileBytes]
  · split_ifs <;> simp [World.record, fileBytes]

@[simp] theorem fileOut_pipeOutput (c : UInt8) : (w.pipeOutput c).2.fileOut = w.fileOut := by
  unfold World.pipeOutput World.sinkWrite
  split
  · rfl
  · split_ifs <;> rfl

/-- `write` puts on the file as many of the bytes as it returns. -/
theorem fileBytes_writeFile (bytes : List UInt8) :
    fileBytes (w.writeFile bytes).2.trace =
      fileBytes w.trace ++ bytes.take (w.writeFile bytes).1.toNat := by
  unfold World.writeFile
  split <;> simp [World.record, fileBytes]

@[simp] theorem fileBytes_close (fd : Int) : fileBytes (w.close fd).trace = fileBytes w.trace := by
  simp [World.close, World.record, fileBytes]

/-- Once the outcomes of `write` are used up, every write takes every byte. -/
theorem writeFile_of_fileOut (h : w.fileOut = []) (bytes : List UInt8) :
    w.writeFile bytes = ((bytes.length : Int), w.record (.fileWrite bytes)) := by
  unfold World.writeFile; rw [h]

end World

/-! ## One turn of the receive loop -/

section ReceiveStep

variable {buffer : Mem} {remaining : Int} {w : World}

/-- **One turn on a frame.** On a link that delivers a well-formed frame `f` and then `rest`, the
turn takes `f` off the link and checks its type and payload length against what remains; a data
frame that fits has its payload written, and the turn goes on with what remains after it. -/
theorem receiveFileStep_frame {f rest : List UInt8} (hf : WellFormed bufferSize f)
    (hd : Delivers w.rx (f ++ rest)) :
    let r := pipeReadFrame bufferSize buffer w.rx
    let w₁ := { w with rx := r.rest }
    Delivers w₁.rx rest ∧
      receiveFileStep buffer remaining w =
        if f.headD 0 ≠ byte 'd' ∨ remaining < payloadLength f then
          .error (Error.receiveFile.code, (w₁.pipeOutput (byte '\n')).2)
        else if 0 < payloadLength f then
          let wr := w₁.writeFile (f.drop 4)
          if wr.1 ≠ (payloadLength f : Int) then
            .error (Error.localFile.code, (wr.2.pipeOutput (byte '\n')).2)
          else .ok (r.mem, remaining - payloadLength f, (wr.2.pipeOutput (byte '.')).2)
        else .ok (r.mem, remaining, w₁) := by
  obtain ⟨h₁, h₂, h₃⟩ := pipeReadFrame_wellFormed buffer hf hd
  obtain ⟨h0, hlen, hpay⟩ := load_frame hf.1 hf.2.2 h₃
  have hrec : (computeLength (pipeReadFrame bufferSize buffer w.rx).mem : Int) - 4 =
      (payloadLength f : Int) := by
    rw [hlen]; unfold payloadLength; have := hf.1; omega
  have hpl : (pipeReadFrame bufferSize buffer w.rx).mem.load 4 (payloadLength f) = f.drop 4 := hpay
  have hnn : ¬((payloadLength f : Int) < 0) := by omega
  refine ⟨h₂, ?_⟩
  unfold receiveFileStep World.readFrame
  simp only [h₁, h0, hrec, ne_eq, not_true_eq_false, if_false, Int.toNat_natCast, hpl, hnn,
    false_or, gt_iff_lt, Nat.cast_pos]

/-- Every turn that fails returns a negative code. -/
theorem receiveFileStep_error_neg {r : Int × World}
    (h : receiveFileStep buffer remaining w = .error r) : r.1 < 0 := by
  unfold receiveFileStep at h
  dsimp only at h
  split_ifs at h <;> cases h <;> dsimp only <;> exact Error.code_neg _

/-- **A turn that goes on consumed a data frame.** On a link that delivers `s`, a turn that does
not end the loop took a data frame `f` no longer than what remained off the head of `s`, and wrote
its payload. -/
theorem receiveFileStep_ok {s : List UInt8} {r : Mem × Int × World} (hd : Delivers w.rx s)
    (h : receiveFileStep buffer remaining w = .ok r) :
    ∃ f rest, s = f ++ rest ∧ DataFrame f ∧ (payloadLength f : Int) ≤ remaining ∧
      r.2.1 = remaining - payloadLength f ∧ Delivers r.2.2.rx rest ∧
      fileBytes r.2.2.trace = fileBytes w.trace ++ f.drop 4 := by
  have hrc : (pipeReadFrame bufferSize buffer w.rx).rc = 0 := by
    by_contra hne
    unfold receiveFileStep World.readFrame at h
    rw [if_pos hne] at h
    cases h
  obtain ⟨f, rest, rfl, hf, -⟩ := pipeReadFrame_frame buffer hd hrc
  obtain ⟨hrest, heq⟩ := @receiveFileStep_frame buffer remaining w _ _ hf hd
  rw [heq] at h
  by_cases hbad : f.headD 0 ≠ byte 'd' ∨ remaining < payloadLength f
  · rw [if_pos hbad] at h; cases h
  rw [if_neg hbad] at h
  push_neg at hbad
  refine ⟨f, rest, rfl, ⟨hf, hbad.1⟩, hbad.2, ?_⟩
  by_cases hpos : 0 < payloadLength f
  · rw [if_pos hpos] at h
    dsimp only at h
    set wr := World.writeFile { w with rx := (pipeReadFrame bufferSize buffer w.rx).rest } (f.drop 4)
    have hw := fileBytes_writeFile (w := { w with rx := (pipeReadFrame bufferSize buffer w.rx).rest })
      (f.drop 4)
    by_cases hn : wr.1 ≠ payloadLength f
    · rw [if_pos hn] at h; cases h
    rw [if_neg hn] at h
    cases h
    rw [not_not] at hn
    refine ⟨rfl, ?_, ?_⟩
    · rw [(World.keepsInput_pipeOutput _ _).rx, (World.keepsInput_writeFile _ _).rx]; exact hrest
    · rw [fileBytes_pipeOutput, hw, hn, Int.toNat_natCast, List.take_of_length_le
        (by simp [payloadLength])]
  · rw [if_neg hpos] at h
    cases h
    have h4 : f.length = 4 := by unfold payloadLength at hpos; have := hf.1; omega
    refine ⟨by simp [Nat.le_zero.mp (Nat.not_lt.mp hpos)], hrest, ?_⟩
    simp [List.drop_eq_nil_of_le h4.le]

end ReceiveStep

/-- **No turn writes more than remains.** Whatever the link and the file do, a turn that fails
wrote at most what remained, and a turn that goes on lowered what remains by what it wrote. -/
theorem receiveFileStep_bound (buffer : Mem) (remaining : Int) (w : World) :
    match receiveFileStep buffer remaining w with
    | .error r => (fileBytes r.2.trace).length ≤ (fileBytes w.trace).length + remaining.toNat
    | .ok r => (fileBytes r.2.2.trace).length + r.2.1.toNat ≤
        (fileBytes w.trace).length + remaining.toNat := by
  unfold receiveFileStep
  dsimp only
  have htr : (w.readFrame buffer).2.2.trace = w.trace := rfl
  generalize w.readFrame buffer = r at htr ⊢
  generalize (computeLength r.2.1 : Int) - 4 = received
  by_cases h₁ : r.1 ≠ 0
  · rw [if_pos h₁]; simp only [fileBytes_pipeOutput, htr]; omega
  rw [if_neg h₁]
  by_cases h₂ : r.2.1 0 ≠ byte 'd' ∨ received < 0 ∨ received > remaining
  · rw [if_pos h₂]; simp only [fileBytes_pipeOutput, htr]; omega
  rw [if_neg h₂]
  push_neg at h₂
  by_cases h₃ : 0 < received
  · rw [if_pos h₃]
    have hw := congrArg List.length (fileBytes_writeFile (w := r.2.2) (r.2.1.load 4 received.toNat))
    generalize r.2.2.writeFile (r.2.1.load 4 received.toNat) = wr at hw ⊢
    rw [htr, List.length_append, List.length_take, Mem.length_load] at hw
    by_cases h₄ : wr.1 ≠ received
    · rw [if_pos h₄]; simp only [fileBytes_pipeOutput]; omega
    · rw [if_neg h₄]; simp only [fileBytes_pipeOutput]; omega
  · rw [if_neg h₃]; dsimp only; rw [htr]

/-- The bound over the loop. -/
theorem receiveFileLoop_bound :
    ∀ (fuel : Nat) (buffer : Mem) (remaining : Int) (w : World),
      (fileBytes (receiveFileLoop fuel buffer remaining w).2.trace).length ≤
        (fileBytes w.trace).length + remaining.toNat
  | 0, _, _, _ => by simp [receiveFileLoop]
  | fuel + 1, buffer, remaining, w => by
    have hb := receiveFileStep_bound buffer remaining w
    rw [receiveFileLoop]
    split_ifs
    · rcases hstep : receiveFileStep buffer remaining w with r | ⟨b', rem', w'⟩ <;>
        rw [hstep] at hb <;> dsimp only at hb ⊢
      · exact hb
      · exact (receiveFileLoop_bound fuel b' rem' w').trans (by omega)
    · simp

/-- A run of the loop that returns 0, on a link that delivers `s`: it consumed data frames off the
head of `s` whose payloads add up to what remained, every one before the last with something still
remaining, and wrote their payloads in order. -/
theorem receiveFileLoop_zero :
    ∀ (fuel : Nat) (buffer : Mem) (remaining : Int) (w : World) (s : List UInt8),
      0 ≤ remaining → Delivers w.rx s → (receiveFileLoop fuel buffer remaining w).1 = 0 →
      ∃ fs r, s = fs.flatten ++ r ∧ fs.Forall DataFrame ∧
        ((fs.map payloadLength).sum : Int) = remaining ∧
        (fs = [] ∨ ((fs.dropLast.map payloadLength).sum : Int) < remaining) ∧
        Delivers (receiveFileLoop fuel buffer remaining w).2.rx r ∧
        fileBytes (receiveFileLoop fuel buffer remaining w).2.trace =
          fileBytes w.trace ++ (fs.map (·.drop 4)).flatten
  | 0, buffer, remaining, w, s, h0, hd, h => by
    rw [receiveFileLoop] at h ⊢
    have hr : ¬0 < remaining := fun hr => (Error.code_neg _).ne (by simpa [hr] using h)
    refine ⟨[], s, rfl, trivial, by simp; omega, .inl rfl, ?_, by simp⟩
    rw [(World.keepsInput_pipeOutput _ _).rx]; exact hd
  | fuel + 1, buffer, remaining, w, s, h0, hd, h => by
    rw [receiveFileLoop] at h ⊢
    by_cases hr : 0 < remaining
    · rw [if_pos hr] at h ⊢
      rcases hstep : receiveFileStep buffer remaining w with r | ⟨b', rem', w'⟩ <;>
        rw [hstep] at h <;> dsimp only at h ⊢
      · exact absurd h (receiveFileStep_error_neg hstep).ne
      obtain ⟨f, rest, rfl, hf, hle, hrem, hrest, hfile⟩ := receiveFileStep_ok hd hstep
      dsimp only at hrem hrest hfile
      obtain ⟨fs, r, rfl, hfs, hsum, hlast, hdr, hfb⟩ :=
        receiveFileLoop_zero fuel b' rem' w' rest (by omega) hrest h
      refine ⟨f :: fs, r, by simp, (List.forall_cons _ _ _).mpr ⟨hf, hfs⟩, ?_, .inr ?_, hdr, ?_⟩
      · simp only [List.map_cons, List.sum_cons, Nat.cast_add]; omega
      · cases fs with
        | nil => simpa using hr
        | cons g gs =>
          simp only [List.dropLast_cons₂, List.map_cons, List.sum_cons, Nat.cast_add]
          have := hlast.resolve_left (List.cons_ne_nil g gs)
          omega
      · rw [hfb, hfile]; simp
    · rw [if_neg hr] at h ⊢
      refine ⟨[], s, rfl, trivial, by simp; omega, .inl rfl, ?_, by simp⟩
      rw [(World.keepsInput_pipeOutput _ _).rx]; exact hd

/-- A run of the loop that meets a frame it must refuse, after data frames that leave something
remaining, with every write taking every byte: it returns `TWOPENCE_RECEIVE_FILE_ERROR`. -/
theorem receiveFileLoop_reject {f s : List UInt8} (hf : WellFormed bufferSize f) :
    ∀ (pre : List (List UInt8)) (fuel : Nat) (buffer : Mem) (remaining : Int) (w : World),
      pre.length < fuel → w.fileOut = [] → Delivers w.rx (pre.flatten ++ f ++ s) →
      pre.Forall DataFrame → ((pre.map payloadLength).sum : Int) < remaining →
      f.headD 0 ≠ byte 'd' ∨ remaining - (pre.map payloadLength).sum < payloadLength f →
      (receiveFileLoop fuel buffer remaining w).1 = Error.receiveFile.code
  | _, 0, _, _, _, hfuel, _, _, _, _, _ => absurd hfuel (Nat.not_lt_zero _)
  | [], fuel + 1, buffer, remaining, w, _, _, hd, _, hsum, hbad => by
    simp only [List.map_nil, List.sum_nil, Nat.cast_zero, sub_zero] at hsum hbad
    obtain ⟨-, heq⟩ := @receiveFileStep_frame buffer remaining w _ s hf (by simpa using hd)
    rw [receiveFileLoop, if_pos hsum, heq, if_pos hbad]
  | g :: pre, fuel + 1, buffer, remaining, w, hfuel, hout, hd, hpre, hsum, hbad => by
    obtain ⟨hg, hpre⟩ := (List.forall_cons _ _ _).mp hpre
    simp only [List.map_cons, List.sum_cons, Nat.cast_add] at hsum hbad
    obtain ⟨hrest, heq⟩ := @receiveFileStep_frame buffer remaining w _ (pre.flatten ++ f ++ s) hg.1
      (by simpa [List.append_assoc] using hd)
    have hnext : f.headD 0 ≠ byte 'd' ∨
        remaining - payloadLength g - (pre.map payloadLength).sum < payloadLength f :=
      hbad.imp_right fun h => by omega
    rw [receiveFileLoop, if_pos (by omega), heq, if_neg (by push_neg; exact ⟨hg.2, by omega⟩)]
    by_cases hz : 0 < payloadLength g
    · rw [if_pos hz]
      dsimp only
      rw [writeFile_of_fileOut (w := { w with rx := (pipeReadFrame bufferSize buffer w.rx).rest })
        hout, if_neg (by simp [payloadLength])]
      exact receiveFileLoop_reject hf pre fuel _ _ _ (by simpa using hfuel)
        (by simp [World.record, hout]) (by rw [(World.keepsInput_pipeOutput _ _).rx]; exact hrest)
        hpre (by omega) hnext
    · rw [if_neg hz]
      exact receiveFileLoop_reject hf pre fuel _ _ _ (by simpa using hfuel) hout hrest hpre
        (by omega) (by simpa [Nat.eq_zero_of_not_pos hz] using hnext)

theorem length_le_flatten_of_dataFrames :
    ∀ {fs : List (List UInt8)}, fs.Forall DataFrame → fs.length ≤ fs.flatten.length
  | [], _ => le_refl _
  | f :: fs, h => by
    obtain ⟨hf, hfs⟩ := (List.forall_cons _ _ _).mp h
    have := length_le_flatten_of_dataFrames hfs
    have := hf.1.1
    simp only [List.length_cons, List.flatten_cons, List.length_append]
    omega

/-- **What `_twopence_receive_file` writes.** Whatever the link delivers, it writes at most
`remaining` bytes. On a link that delivers a stream `s`, it returns 0 only after taking data
frames off the head of `s` whose payload lengths add up to `remaining`, the last of them the one
that brings the total there, and the file then holds their payloads in order. And when the writes
take every byte, a frame of another type, or one whose payload is longer than what is left, after
data frames that leave something remaining, makes it return `TWOPENCE_RECEIVE_FILE_ERROR`. -/
theorem receiveFile_payloads :
    (∀ (buffer : Mem) (remaining : Int) (w : World),
      (fileBytes (receiveFile buffer remaining w).2.trace).length ≤
        (fileBytes w.trace).length + remaining.toNat) ∧
    (∀ (buffer : Mem) (remaining : Int) (w : World) (s : List UInt8),
      0 ≤ remaining → Delivers w.rx s → (receiveFile buffer remaining w).1 = 0 →
      ∃ fs r, s = fs.flatten ++ r ∧ fs.Forall DataFrame ∧
        ((fs.map payloadLength).sum : Int) = remaining ∧
        (fs = [] ∨ ((fs.dropLast.map payloadLength).sum : Int) < remaining) ∧
        Delivers (receiveFile buffer remaining w).2.rx r ∧
        fileBytes (receiveFile buffer remaining w).2.trace =
          fileBytes w.trace ++ (fs.map (·.drop 4)).flatten) ∧
    (∀ (buffer : Mem) (remaining : Int) (w : World) (pre : List (List UInt8)) (f s : List UInt8),
      w.fileOut = [] → Delivers w.rx (pre.flatten ++ f ++ s) → pre.Forall DataFrame →
      ((pre.map payloadLength).sum : Int) < remaining → WellFormed bufferSize f →
      f.headD 0 ≠ byte 'd' ∨ remaining - (pre.map payloadLength).sum < payloadLength f →
      (receiveFile buffer remaining w).1 = Error.receiveFile.code) :=
  ⟨fun buffer remaining w => receiveFileLoop_bound _ buffer remaining w,
    fun buffer remaining w s => receiveFileLoop_zero _ buffer remaining w s,
    fun buffer remaining w pre f s hout hd hpre hsum hf hbad =>
      receiveFileLoop_reject hf pre _ buffer remaining w
        (by
          have := length_le_flatten_of_dataFrames hpre
          rw [hd.pendingBytes_eq, List.length_append, List.length_append]
          omega)
        hout hd hpre hsum hbad⟩

/-- A link that delivers the data frame with payload `"xy"`. -/
def xyWorld : World :=
  ⟨3, 0, 0, [.recv [100, 0, 0, 6, 120, 121]], [], [], [], [], [], [], []⟩

/-- The frame received whole when two bytes remain, and refused when one does. -/
theorem receiveFile_payloads_xy :
    Delivers xyWorld.rx [100, 0, 0, 6, 120, 121] ∧ (receiveFile (fun _ => 0) 2 xyWorld).1 = 0 ∧
      (∃ fs r, [100, 0, 0, 6, 120, 121] = fs.flatten ++ r ∧ fs.Forall DataFrame ∧
        ((fs.map payloadLength).sum : Int) = 2 ∧
        (fs = [] ∨ ((fs.dropLast.map payloadLength).sum : Int) < 2) ∧
        Delivers (receiveFile (fun _ => 0) 2 xyWorld).2.rx r ∧
        fileBytes (receiveFile (fun _ => 0) 2 xyWorld).2.trace =
          fileBytes xyWorld.trace ++ (fs.map (·.drop 4)).flatten) ∧
      (receiveFile (fun _ => 0) 1 xyWorld).1 = Error.receiveFile.code :=
  have hd : Delivers xyWorld.rx [100, 0, 0, 6, 120, 121] := .cons (by decide) .nil
  ⟨hd, rfl, receiveFile_payloads.2.1 _ 2 xyWorld _ (by decide) hd rfl,
    receiveFile_payloads.2.2 _ 1 xyWorld [] [100, 0, 0, 6, 120, 121] [] rfl hd trivial (by decide)
      (by decide) (.inr (by decide))⟩

/-! ## Extract after an `'M'` reply -/

/-- `_twopence_read_size` on an `'M'` frame sets `*remote_rc` and leaves `*size` as it was. -/
theorem readSize_major {w : World} {fM s : List UInt8} (hM : WellFormed bufferSize fM)
    (hty : fM.headD 0 = byte 'M') (hd : Delivers w.rx (fM ++ s)) (buffer : Mem)
    (size remote_rc : Int) :
    ∃ rc, readSize w buffer size remote_rc =
      (0, size, rc, { w with rx := (pipeReadFrame bufferSize buffer w.rx).rest }) ∧
      Delivers (pipeReadFrame bufferSize buffer w.rx).rest s := by
  obtain ⟨h₁, h₂, h₃⟩ := pipeReadFrame_wellFormed buffer hM hd
  obtain ⟨h0, -, -⟩ := load_frame hM.1 hM.2.2 h₃
  have hMs : byte 'M' ≠ byte 's' := by decide
  refine ⟨(sscanfInt (pipeReadFrame bufferSize buffer w.rx).mem 4).getD remote_rc, ?_, h₂⟩
  unfold readSize World.readFrame
  simp only [h₁, h0, hty, ne_eq, not_true_eq_false, if_false, if_neg hMs, if_true]

/-- **After an `'M'` reply the file is received with the uninitialised size.** When the request
has gone out whole and the first reply is a well-formed `'M'` frame, `_twopence_read_size` leaves
`size` as it was on entry, and whenever that is not negative `_twopence_extract_virtio_serial`
receives the file with it as `remaining`: what it writes to the local file is what
`_twopence_receive_file` writes from the rest of the link. -/
theorem extractVirtioSerial_after_major {st : ExtractStack} {username remote_filename : CStr}
    {w : World} {command : Mem} {fM s : List UInt8} (hu : invalidUsername username = false)
    (hreq : prepareRequest st.command (extractText username remote_filename) = some command)
    (ho : 0 ≤ w.openResult)
    (hsend : (w.openLink.2.sendbuf command ((extractText username remote_filename).length + 1)).1
      = (extractText username remote_filename).length + 1)
    (hM : WellFormed bufferSize fM) (hty : fM.headD 0 = byte 'M') (hd : Delivers w.rx (fM ++ s))
    (hsize : 0 ≤ st.sizeValue) :
    ∃ w₁ : World, Delivers w₁.rx s ∧ w₁.fileOut = w.fileOut ∧ fileBytes w₁.trace = fileBytes w.trace ∧
      fileBytes (extractVirtioSerial st username remote_filename w).2.2.trace =
        fileBytes (receiveFile st.file st.sizeValue w₁).2.trace := by
  set w₀ := (w.openLink.2.sendbuf command ((extractText username remote_filename).length + 1)).2
  obtain ⟨rc, hr, hd₁⟩ := readSize_major (w := w₀) hM hty hd st.size st.sizeValue 0
  refine ⟨{ w₀ with rx := (pipeReadFrame bufferSize st.size w₀.rx).rest }, hd₁, rfl,
    by simp [w₀, World.openLink, World.sendbuf, World.record, fileBytes], ?_⟩
  rw [extractVirtioSerial, hu, if_neg Bool.false_ne_true, hreq]
  dsimp only
  rw [World.openLink_fst, if_neg (not_lt.mpr ho), if_neg (not_not.mpr hsend), hr]
  dsimp only
  rw [if_neg (lt_irrefl 0), if_pos hsize]
  split <;> simp

/-- The stack buffers of extract, with `size` holding 1 on entry. -/
def oneByteStack : ExtractStack := ⟨fun _ => 0, fun _ => 0, fun _ => 0, 1⟩

/-- A link that takes the request whole and answers `'M'` with the status `"2"`, then holds a data
frame with the byte `x`. -/
def majorWorld : World :=
  ⟨3, 0, 0, [.recv [77, 0, 0, 6, 50, 0, 100, 0, 0, 5, 120]], [.sent 100], [], [], [], [], [], []⟩

/-- Extract of `f` for `root` on `majorWorld`: the server reports status 2, and the byte after it
is still written to the local file. -/
theorem extractVirtioSerial_after_major_two :
    invalidUsername ⟨[114, 111, 111, 116], by decide⟩ = false ∧
      (∃ w₁ : World, Delivers w₁.rx [100, 0, 0, 5, 120] ∧ w₁.fileOut = majorWorld.fileOut ∧
        fileBytes w₁.trace = fileBytes majorWorld.trace ∧
        fileBytes (extractVirtioSerial oneByteStack ⟨[114, 111, 111, 116], by decide⟩
          ⟨[102], by decide⟩ majorWorld).2.2.trace =
          fileBytes (receiveFile oneByteStack.file oneByteStack.sizeValue w₁).2.trace) ∧
      ∃ w', extractVirtioSerial oneByteStack ⟨[114, 111, 111, 116], by decide⟩ ⟨[102], by decide⟩
        majorWorld = (0, 2, w') ∧ fileBytes w'.trace = [120] :=
  ⟨rfl, @extractVirtioSerial_after_major _ _ _ _ _ [77, 0, 0, 6, 50, 0] _ rfl rfl (by decide) rfl
    (by decide) rfl (.cons (by decide) .nil) (by decide), _, rfl, rfl⟩

/-! ## Sending -/

/-- The bytes the client put on the link, in order. -/
def wireBytes (trace : List ClientEvent) : List UInt8 :=
  trace.flatMap fun
    | .sent bytes => bytes
    | _ => []

@[simp] theorem wireBytes_append (a b : List ClientEvent) :
    wireBytes (a ++ b) = wireBytes a ++ wireBytes b :=
  List.flatMap_append a b _

theorem wireBytes_mono {a b : List ClientEvent} (h : a <+: b) : wireBytes a <+: wireBytes b := by
  obtain ⟨t, rfl⟩ := h
  rw [wireBytes_append]
  exact List.prefix_append _ _

section SendStep

variable {w : World}

theorem trace_prefix_pipeOutput (c : UInt8) : w.trace <+: (w.pipeOutput c).2.trace := by
  unfold World.pipeOutput World.sinkWrite
  split
  · exact List.prefix_append _ _
  · split_ifs
    · exact List.prefix_append _ _
    · exact List.prefix_refl _

theorem readFile_congr {w₁ w₂ : World} (h : w₁.fileIn = w₂.fileIn) (size : Nat) :
    (w₁.readFile size).1 = (w₂.readFile size).1 ∧ (w₁.readFile size).2.1 = (w₂.readFile size).2.1 ∧
      (w₁.readFile size).2.2.fileIn = (w₂.readFile size).2.2.fileIn := by
  unfold World.readFile
  rw [h]
  split <;> simp [h]

/-- **The send's result is never looked at.** `__twopence_pipe_sendbuf` returns the count or a
negative code, and `!` of either is false, so a turn of `_twopence_send_file` fails only when the
local file does, and otherwise goes on whatever the link did. -/
theorem sendFileStep_eq (buffer : Mem) (remaining : Int) (w : World) :
    sendFileStep buffer remaining w =
      let size := min remaining.toNat (bufferSize - 4)
      let r := w.readFile size
      if r.1 ≠ size then .error (Error.localFile.code, (r.2.2.pipeOutput (byte '\n')).2)
      else
        let s := r.2.2.sendbuf (dataFrame buffer r.2.1) (r.2.1.length + 4)
        .ok (dataFrame buffer r.2.1, remaining - r.1, (s.2.pipeOutput (byte '.')).2) := by
  unfold sendFileStep
  dsimp only
  split_ifs with h₁ h₂
  · rfl
  · exfalso
    set r := w.readFile (min remaining.toNat (bufferSize - 4))
    have := @pipeSendbuf_rc 0 (r.2.1.length + 4) (dataFrame buffer r.2.1) 0 r.2.2.tx (Nat.zero_le _)
    simp only [World.sendbuf] at h₂
    omega
  · rfl

/-- The return value of the send loop depends on the local file only: the link's outcomes do not
change it. -/
theorem sendFileLoop_rc : ∀ (fuel : Nat) (buffer : Mem) (remaining : Int) (w₁ w₂ : World),
    w₁.fileIn = w₂.fileIn →
      (sendFileLoop fuel buffer remaining w₁).1 = (sendFileLoop fuel buffer remaining w₂).1
  | 0, _, _, _, _, _ => rfl
  | fuel + 1, buffer, remaining, w₁, w₂, h => by
    rw [sendFileLoop, sendFileLoop]
    split_ifs with hr
    · obtain ⟨h₁, h₂, h₃⟩ := readFile_congr h (min remaining.toNat (bufferSize - 4))
      rw [sendFileStep_eq, sendFileStep_eq]
      dsimp only
      rw [h₁, h₂]
      split_ifs
      · rfl
      · exact sendFileLoop_rc fuel _ _ _ _ (by
          rw [(World.keepsInput_pipeOutput _ _).fileIn, (World.keepsInput_pipeOutput _ _).fileIn,
            (World.keepsInput_sendbuf _ _ _).fileIn, (World.keepsInput_sendbuf _ _ _).fileIn, h₃])
    · rfl

/-- A link whose first send fails with `EPIPE`, and a local file of one byte. -/
def brokenLinkWorld : World :=
  ⟨3, 0, 1, [], [.sendError ⟨-32, by decide⟩], [], [], [.data [120]], [], [], []⟩

/-- **Send failures are not reported.** The value `_twopence_send_file` returns is the same
whatever the link does with its sends, and on `brokenLinkWorld` it returns 0 having put nothing on
the link. -/
theorem sendFile_ignores_send_errors :
    (∀ (buffer : Mem) (remaining : Int) (w : World) (tx₁ tx₂ : List SendRound),
      (sendFile buffer remaining { w with tx := tx₁ }).1 =
        (sendFile buffer remaining { w with tx := tx₂ }).1) ∧
    ∃ w', sendFile (fun _ => 0) 1 brokenLinkWorld = (0, w') ∧ wireBytes w'.trace = [] :=
  ⟨fun buffer remaining _ _ _ => sendFileLoop_rc _ buffer remaining _ _ rfl, _, rfl, rfl⟩

/-- What the send loop records comes after what was there. -/
theorem sendFileLoop_extends_trace : ∀ (fuel : Nat) (buffer : Mem) (remaining : Int) (w : World),
    w.trace <+: (sendFileLoop fuel buffer remaining w).2.trace
  | 0, _, _, _ => trace_prefix_pipeOutput _
  | fuel + 1, buffer, remaining, w => by
    rw [sendFileLoop]
    split_ifs
    · rw [sendFileStep_eq]
      dsimp only
      split_ifs
      · simpa using trace_prefix_pipeOutput (w := (w.readFile _).2.2) _
      · refine List.IsPrefix.trans ?_
          ((trace_prefix_pipeOutput _).trans (sendFileLoop_extends_trace fuel _ _ _))
        simp [World.sendbuf]
    · exact trace_prefix_pipeOutput _

/-- `_twopence_send_file` sets the type and the length of a data frame, and never its byte 1. -/
@[simp] theorem dataFrame_apply_one (buffer : Mem) (chunk : List UInt8) :
    dataFrame buffer chunk 1 = buffer 1 := by
  simp [dataFrame, storeLength_apply_of_ne, Mem.store]

/-- **The first frame carries the stack byte.** When a chunk is read whole and the first send
takes at least two bytes, the first bytes `_twopence_send_file` puts on the link have at offset 1
the byte its buffer held there on entry. -/
theorem sendFile_first_frame (buffer : Mem) {remaining : Int} {w : World} {chunk : List UInt8}
    {rest : List FileRead} {n : Nat} {more : List SendRound} (hr : 0 < remaining)
    (hin : w.fileIn = .data chunk :: rest)
    (hc : min remaining.toNat (bufferSize - 4) ≤ chunk.length) (hn : 2 ≤ n)
    (htx : w.tx = .sent n :: more) :
    ∃ wire, w.trace ++ [.sent wire] <+: (sendFile buffer remaining w).2.trace ∧
      wire[1]? = some (buffer 1) := by
  set size := min remaining.toNat (bufferSize - 4)
  have hread : w.readFile size = ((size : Int), chunk.take size, { w with fileIn := rest }) := by
    simp only [World.readFile, hin, List.length_take, min_eq_left hc]
  rw [sendFile, hin, List.length_cons, sendFileLoop, if_pos hr, sendFileStep_eq]
  dsimp only
  rw [hread, if_neg (not_not.mpr rfl)]
  dsimp only
  have hcount : 0 < (chunk.take size).length + 4 := by omega
  refine ⟨(pipeSendbuf 0 ((chunk.take size).length + 4) (dataFrame buffer (chunk.take size)) 0
    w.tx).wire, (trace_prefix_pipeOutput (w := (({ w with fileIn := rest } : World).sendbuf
      (dataFrame buffer (chunk.take size)) ((chunk.take size).length + 4)).2) _).trans
    (sendFileLoop_extends_trace _ _ _ _), ?_⟩
  rw [htx, pipeSendbuf_sent_wire hcount]
  obtain ⟨k, hk⟩ : ∃ k, min n ((chunk.take size).length + 4) = k + 2 := ⟨_, (Nat.sub_add_cancel
    (le_min hn (by omega))).symm⟩
  rw [hk]
  simp [Mem.load]

end SendStep

/-! ## Byte 1 -/

/-- A link that takes every send, and a local file of one byte. -/
def leakWorld : World :=
  ⟨3, 0, 1, [], [.sent 100], [], [], [.data [120]], [], [], []⟩

/-- **Byte 1 is not the protocol's padding.** For every two stack buffers that differ at offset
1, the same `_twopence_send_file` run puts different bytes on the link, as soon as a chunk is read
whole and the first send takes two bytes: byte 1 of every data frame is the byte the buffer held
there. And byte 1 of the command request is the `'.'` of `"c..."`, not 0. -/
theorem sendFile_leaks_stack :
    (∀ (b₁ b₂ : Mem) (remaining : Int) (w : World) (chunk : List UInt8) (rest : List FileRead)
        (n : Nat) (more : List SendRound),
      b₁ 1 ≠ b₂ 1 → 0 < remaining → w.fileIn = .data chunk :: rest →
      min remaining.toNat (bufferSize - 4) ≤ chunk.length → 2 ≤ n → w.tx = .sent n :: more →
      wireBytes (sendFile b₁ remaining w).2.trace ≠ wireBytes (sendFile b₂ remaining w).2.trace) ∧
    (∀ (buffer : Mem) (chunk : List UInt8),
      ((dataFrame buffer chunk).load 0 (chunk.length + 4)).getD 1 0 = buffer 1) ∧
    (∀ (command buf : Mem) (username linux_command : CStr),
      prepareRequest command (commandText username linux_command) = some buf →
      (buf.load 0 ((commandText username linux_command).length + 1)).getD 1 0 = byte '.') := by
  refine ⟨fun b₁ b₂ remaining w chunk rest n more hb hr hin hc hn htx heq => hb ?_,
    fun buffer chunk => ?_, fun command buf username linux_command h => ?_⟩
  · obtain ⟨wire₁, hp₁, hw₁⟩ := sendFile_first_frame b₁ hr hin hc hn htx
    obtain ⟨wire₂, hp₂, hw₂⟩ := sendFile_first_frame b₂ hr hin hc hn htx
    have at_one {b : Mem} {wire : List UInt8} (hp : w.trace ++ [.sent wire] <+: (sendFile b remaining w).2.trace)
        (hw : wire[1]? = some (b 1)) :
        (wireBytes (sendFile b remaining w).2.trace)[(wireBytes w.trace).length + 1]? = some (b 1) := by
      obtain ⟨t, ht⟩ := wireBytes_mono hp
      have hlen : 1 < wire.length := by
        by_contra h; rw [List.getElem?_eq_none (by omega)] at hw; cases hw
      rw [← ht]
      simp only [wireBytes_append, List.append_assoc, List.getElem?_append_right
        (Nat.le_add_right _ 1), Nat.add_sub_cancel_left]
      rw [show wireBytes [.sent wire] = wire by simp [wireBytes], List.getElem?_append_left hlen, hw]
    exact Option.some.inj ((at_one hp₁ hw₁).symm.trans (heq ▸ at_one hp₂ hw₂))
  · rw [Mem.getD_load _ _ (by omega), Nat.zero_add, dataFrame_apply_one]
  · rw [Mem.getD_load _ _ (by simp [commandText, literal]), Nat.zero_add,
      prepareRequest_apply_one (by simp [commandText, literal]) h]
    rfl

/-- Two stack buffers that differ at offset 1, and the command `ls` for `root`. -/
theorem sendFile_leaks_stack_leakWorld :
    (fun _ => 0 : Mem) 1 ≠ (fun i => if i = 1 then 7 else 0 : Mem) 1 ∧
      wireBytes (sendFile (fun _ => 0) 1 leakWorld).2.trace ≠
        wireBytes (sendFile (fun i => if i = 1 then 7 else 0) 1 leakWorld).2.trace ∧
      wireBytes (sendFile (fun _ => 0) 1 leakWorld).2.trace = [100, 0, 0, 5, 120] ∧
      wireBytes (sendFile (fun i => if i = 1 then 7 else 0) 1 leakWorld).2.trace =
        [100, 7, 0, 5, 120] ∧
      ∃ buf, prepareRequest (fun _ => 0)
          (commandText ⟨[114, 111, 111, 116], by decide⟩ ⟨[108, 115], by decide⟩) = some buf ∧
        (buf.load 0 12).getD 1 0 = byte '.' :=
  ⟨by decide, sendFile_leaks_stack.1 _ _ 1 leakWorld [120] [] 100 [] (by decide) (by decide) rfl
    (by decide) (by decide) rfl, rfl, rfl, _, rfl, sendFile_leaks_stack.2.2 (fun _ => 0) _
      ⟨[114, 111, 111, 116], by decide⟩ ⟨[108, 115], by decide⟩ rfl⟩

/-! ## Sizes past `int` -/

theorem intOfOffT_lt (v : Int) : intOfOffT v < 2 ^ 31 := by
  unfold intOfOffT intOfLong; split <;> omega

theorem intOfOffT_of_lt {v : Int} (h₀ : 0 ≤ v) (h : v < 2 ^ 31) : intOfOffT v = v :=
  intOfLong_of_lt (by omega) h

theorem intOfOffT_neg {v : Int} (h : 2 ^ 31 ≤ v % 2 ^ 32) : intOfOffT v < 0 := by
  unfold intOfOffT intOfLong; split <;> omega

/-- The stack buffers of inject. -/
def zeroInjectStack : InjectStack := ⟨fun _ => 0, fun _ => 0, fun _ => 0, fun _ => 0⟩

/-- A local file of `2 ^ 31` bytes, and a link that takes the request whole and answers with the
major status `"0"` and the minor status `"0"`. -/
def bigFileWorld : World :=
  ⟨3, 0, 2147483648, [.recv [77, 0, 0, 6, 48, 0, 109, 0, 0, 6, 48, 0]], [.sent 100], [], [],
    [.data [120]], [], [], []⟩

/-- **A size past `int` sends nothing.** `st_size` is converted to the `int` parameter
`remaining`, which keeps the size only below `2 ^ 31`; when the size modulo `2 ^ 32` is at least
`2 ^ 31` the parameter is negative and `_twopence_send_file` returns 0 at once, having sent
nothing. Inject of a file of `2 ^ 31` bytes then completes without error while the request line
announces all of them and no data frame follows it. -/
theorem injectVirtioSerial_truncated_size :
    (∀ (S : Int) (buffer : Mem) (w : World), 0 ≤ S → 2 ^ 31 ≤ S % 2 ^ 32 →
      sendFile buffer (intOfOffT S) w = (0, (w.pipeOutput (byte '\n')).2)) ∧
    (∀ S : Int, 0 ≤ S → (intOfOffT S = S ↔ S < 2 ^ 31)) ∧
    ∃ w' req, injectVirtioSerial zeroInjectStack ⟨[114, 111, 111, 116], by decide⟩
        ⟨[102], by decide⟩ bigFileWorld = (0, 0, w') ∧
      w'.trace = [.openLink 3, .sent req, .stdout (byte '\n'), .close 3] ∧
      req.drop 4 = literal ['r', 'o', 'o', 't', ' '] ++ formatLong 2147483648 ++
        literal [' ', 'f'] ++ [0] := by
  refine ⟨fun S buffer _ _ hS => ?_, fun S h₀ => ⟨fun h => h ▸ intOfOffT_lt S, intOfOffT_of_lt h₀⟩,
    _, _, rfl, rfl, rfl⟩
  rw [sendFile, sendFileLoop, if_neg (not_lt.mpr (intOfOffT_neg hS).le)]

/-- The size `2 ^ 31`. -/
theorem injectVirtioSerial_truncated_size_two31 :
    (0 : Int) ≤ 2147483648 ∧ (2 : Int) ^ 31 ≤ 2147483648 % 2 ^ 32 ∧
      sendFile (fun _ => 0) (intOfOffT 2147483648) bigFileWorld =
        (0, (bigFileWorld.pipeOutput (byte '\n')).2) ∧
      (intOfOffT 2147483648 = 2147483648 ↔ (2147483648 : Int) < 2 ^ 31) :=
  ⟨by decide, by decide, injectVirtioSerial_truncated_size.1 _ _ _ (by decide) (by decide),
    injectVirtioSerial_truncated_size.2.1 _ (by decide)⟩

end Twopence
