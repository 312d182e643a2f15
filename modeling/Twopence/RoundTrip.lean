import Twopence.Transfer

/-!
# The file transfer round trip

`_twopence_send_file` and `_twopence_receive_file` are the two ends of the same format: the first
cuts a local file into `'d'` frames, the second writes the payloads of `'d'` frames to a local
file. This module shows that they agree. Whatever a regular file holds, the bytes the sender puts
on a link that takes every send are data frames carrying the file's chunks, in order
(`sendFileLoop_chunks`); and on a link that delivers such frames, however it cuts them into
`recv` results, the receiver returns 0 and writes exactly their payloads
(`receiveFileLoop_frames`). Composed, the file comes out as it went in (`sendFile_receiveFile`).

## The sender's file

`_twopence_send_file` asks each `read` for `min(remaining, BUFFER_SIZE - 4)` bytes and fails when
it returns fewer. A regular file answers every such read in full, so its reads are a list of
chunks of `BUFFER_SIZE - 4` bytes followed by one shorter, non-empty chunk: `FileChunks` says so.

## Main results

* `sendFileLoop_chunks`, `sendFile_chunks` — the sender on a regular file and a link that takes
  every send
* `sendFileLoop_rx` — the sender never reads from the link
* `receiveFileLoop_frames`, `receiveFile_frames` — the receiver on a stream of data frames
* `sendFile_receiveFile` — the round trip
-/

namespace Twopence

/-! ## The world's bookkeeping -/

section World

variable {w : World}

@[simp] theorem wireBytes_pipeOutput (c : UInt8) :
    wireBytes (w.pipeOutput c).2.trace = wireBytes w.trace := by
  unfold World.pipeOutput World.sinkWrite
  split
  · simp [World.record, wireBytes]
  · split_ifs <;> simp [World.record, wireBytes]

@[simp] theorem tx_pipeOutput (c : UInt8) : (w.pipeOutput c).2.tx = w.tx := by
  unfold World.pipeOutput World.sinkWrite
  split
  · rfl
  · split_ifs <;> rfl

end World

/-! ## Data frames -/

/-- The frame `_twopence_send_file` sends for a chunk that fits its buffer: a data frame whose
payload is the chunk. -/
theorem dataFrame_frame (buffer : Mem) {c : List UInt8} (hc : c.length ≤ bufferSize - 4) :
    DataFrame ((dataFrame buffer c).load 0 (c.length + 4)) ∧
      ((dataFrame buffer c).load 0 (c.length + 4)).drop 4 = c := by
  have hpay : (dataFrame buffer c).load 4 c.length = c := by
    calc (dataFrame buffer c).load 4 c.length = (buffer.store 4 c).load 4 c.length :=
          Mem.load_congr fun i h₁ _ => by
            rw [dataFrame, storeLength_apply_of_ne (by omega) (by omega),
              Mem.store_apply_of_not_mem (by simp; omega)]
      _ = c := Mem.load_store_self _ _ _
  have hsplit := Mem.load_add (dataFrame buffer c) 0 4 c.length
  rw [Nat.add_comm 4, hpay] at hsplit
  refine ⟨⟨(ClientFrame.data buffer c hc).wellFormed, ?_⟩, ?_⟩
  · rw [hsplit]
    simp [Mem.load, dataFrame, storeLength_apply_of_ne, Mem.store]
  · rw [hsplit, List.drop_left' (Mem.length_load _ _ _)]

/-! ## Sending a regular file -/

/-- The reads of a regular file by `_twopence_send_file`: every read returns all it asked for, so
every chunk is non-empty and fits the buffer, and every chunk with more after it is a full
`BUFFER_SIZE - 4` bytes. -/
inductive FileChunks : List (List UInt8) → Prop
  /-- Nothing more to read. -/
  | nil : FileChunks []
  /-- A chunk, and the reads after it. -/
  | cons {c : List UInt8} {cs : List (List UInt8)} : 0 < c.length → c.length ≤ bufferSize - 4 →
      (cs = [] ∨ c.length = bufferSize - 4) → FileChunks cs → FileChunks (c :: cs)

section Send

variable {buffer : Mem} {remaining : Int} {w : World}

/-- **One turn on a chunk.** A read that returns the chunk `c` it asked for, and a send that takes a
whole buffer: the turn sends `c` as a data frame and goes on. -/
theorem sendFileStep_chunk {c : List UInt8} {more : List FileRead} {m : Nat}
    {tx : List SendRound} (hin : w.fileIn = .data c :: more) (htx : w.tx = .sent m :: tx)
    (hm : bufferSize ≤ m) (hsize : min remaining.toNat (bufferSize - 4) = c.length) :
    ∃ w', sendFileStep buffer remaining w = .ok (dataFrame buffer c, remaining - c.length, w') ∧
      w'.fileIn = more ∧ w'.tx = tx ∧
      wireBytes w'.trace = wireBytes w.trace ++ (dataFrame buffer c).load 0 (c.length + 4) := by
  have hread : w.readFile c.length = ((c.length : Int), c, { w with fileIn := more }) := by
    simp [World.readFile, hin]
  have hc : c.length ≤ bufferSize - 4 := hsize ▸ min_le_right _ _
  have hsend : ({ w with fileIn := more } : World).sendbuf (dataFrame buffer c) (c.length + 4) =
      (((c.length + 4 : Nat) : Int),
        { w with
          fileIn := more
          tx := tx
          trace := w.trace ++ [.sent ((dataFrame buffer c).load 0 (c.length + 4))] }) := by
    simp only [World.sendbuf, htx, pipeSendbuf_whole (n := m) (by omega : 0 < c.length + 4)
      (by simp only [bufferSize] at hc hm; omega)]
  refine ⟨(((({ w with fileIn := more } : World).sendbuf (dataFrame buffer c)
    (c.length + 4)).2).pipeOutput (byte '.')).2, ?_, ?_, ?_, ?_⟩
  · rw [sendFileStep_eq]
    dsimp only
    rw [hsize, hread, if_neg (not_not.mpr rfl)]
  · rw [(World.keepsInput_pipeOutput _ _).fileIn, hsend]
  · rw [tx_pipeOutput, hsend]
  · rw [wireBytes_pipeOutput, hsend]
    simp [wireBytes]

/-- **Sending a regular file.** On a regular file and a link that takes every send whole, the loop
of `_twopence_send_file` returns 0 and puts on the link one data frame per chunk, carrying the
chunk, in order. -/
theorem sendFileLoop_chunks {cs : List (List UInt8)} (hcs : FileChunks cs) :
    ∀ (fuel : Nat) (buffer : Mem) (w : World) (more : List FileRead),
      cs.length < fuel → w.fileIn = cs.map .data ++ more →
      (∀ r ∈ w.tx, ∃ m, bufferSize ≤ m ∧ r = .sent m) → cs.length ≤ w.tx.length →
      (sendFileLoop fuel buffer ((cs.map List.length).sum : Int) w).1 = 0 ∧
      ∃ fs : List (List UInt8),
        wireBytes (sendFileLoop fuel buffer ((cs.map List.length).sum : Int) w).2.trace =
          wireBytes w.trace ++ fs.flatten ∧
        fs.Forall (fun f => DataFrame f ∧ 0 < payloadLength f) ∧ fs.map (·.drop 4) = cs := by
  induction hcs with
  | nil =>
    intro fuel buffer w more hfuel _ _ _
    obtain ⟨fuel, rfl⟩ : ∃ k, fuel = k + 1 := ⟨fuel - 1, by simp at hfuel; omega⟩
    exact ⟨by simp [sendFileLoop], [], by simp [sendFileLoop], by simp, rfl⟩
  | @cons c cs hpos hfit hlast _ ih =>
    intro fuel buffer w more hfuel hin htx hlen
    obtain ⟨fuel, rfl⟩ : ∃ k, fuel = k + 1 := ⟨fuel - 1, by simp at hfuel; omega⟩
    obtain ⟨r, tx, hw⟩ := List.exists_cons_of_length_pos (by simp at hlen; omega : 0 < w.tx.length)
    obtain ⟨m, hm, rfl⟩ := htx r (by rw [hw]; exact List.mem_cons_self _ _)
    have hsum : ((c :: cs).map List.length).sum = c.length + (cs.map List.length).sum := rfl
    have hsize : min (((c :: cs).map List.length).sum : Int).toNat (bufferSize - 4) = c.length := by
      rw [hsum, Int.toNat_natCast]
      rcases hlast with rfl | h
      · rw [List.map_nil, List.sum_nil, Nat.add_zero]; exact Nat.min_eq_left hfit
      · omega
    obtain ⟨w', hstep, hin', htx', hwire⟩ := @sendFileStep_chunk buffer _ w c
      (cs.map .data ++ more) m tx (by rw [hin]; rfl) hw hm hsize
    obtain ⟨hrc, fs, hfs, hdf, hdrop⟩ := ih fuel (dataFrame buffer c) w' more
      (Nat.lt_of_succ_lt_succ hfuel) hin'
      (fun r hr => htx r (by rw [hw]; exact List.mem_cons_of_mem _ (htx' ▸ hr)))
      (by rw [htx']; rw [hw] at hlen; exact Nat.le_of_succ_le_succ hlen)
    have hrem : (((c :: cs).map List.length).sum : Int) - c.length = (cs.map List.length).sum := by
      rw [hsum, Nat.cast_add]; omega
    have hpos' : (0 : Int) < ((c :: cs).map List.length).sum := by rw [hsum, Nat.cast_add]; omega
    obtain ⟨hdf₀, hdrop₀⟩ := dataFrame_frame buffer hfit
    rw [sendFileLoop, if_pos hpos', hstep]
    dsimp only
    rw [hrem]
    refine ⟨hrc, (dataFrame buffer c).load 0 (c.length + 4) :: fs, ?_, ?_, ?_⟩
    · rw [hfs, hwire, List.flatten_cons, List.append_assoc]
    · exact (List.forall_cons _ _ _).mpr
        ⟨⟨hdf₀, by rw [payloadLength, Mem.length_load]; omega⟩, hdf⟩
    · rw [List.map_cons, hdrop₀, hdrop]

/-- `_twopence_send_file` with its fuel: the same on a regular file. -/
theorem sendFile_chunks {cs : List (List UInt8)} (hcs : FileChunks cs) (buffer : Mem)
    {more : List FileRead} (hin : w.fileIn = cs.map .data ++ more)
    (htx : ∀ r ∈ w.tx, ∃ m, bufferSize ≤ m ∧ r = .sent m) (hlen : cs.length ≤ w.tx.length) :
    (sendFile buffer ((cs.map List.length).sum : Int) w).1 = 0 ∧
      ∃ fs : List (List UInt8),
        wireBytes (sendFile buffer ((cs.map List.length).sum : Int) w).2.trace =
          wireBytes w.trace ++ fs.flatten ∧
        fs.Forall (fun f => DataFrame f ∧ 0 < payloadLength f) ∧ fs.map (·.drop 4) = cs :=
  sendFileLoop_chunks hcs _ buffer w more (by rw [hin]; simp; omega) hin htx hlen

theorem readFile_rx (w : World) (size : Nat) : (w.readFile size).2.2.rx = w.rx := by
  unfold World.readFile; split <;> rfl

/-- `_twopence_send_file` never reads from the link. -/
theorem sendFileLoop_rx : ∀ (fuel : Nat) (buffer : Mem) (remaining : Int) (w : World),
    (sendFileLoop fuel buffer remaining w).2.rx = w.rx
  | 0, _, _, w => (World.keepsInput_pipeOutput w _).rx
  | fuel + 1, buffer, remaining, w => by
    rw [sendFileLoop]
    split_ifs
    · rw [sendFileStep_eq]
      dsimp only
      split_ifs
      · rw [(World.keepsInput_pipeOutput _ _).rx, readFile_rx]
      · rw [sendFileLoop_rx, (World.keepsInput_pipeOutput _ _).rx,
          (World.keepsInput_sendbuf _ _ _).rx, readFile_rx]
    · exact (World.keepsInput_pipeOutput w _).rx

end Send

/-! ## Receiving data frames -/

/-- **Receiving a stream of data frames.** On a link that delivers data frames with non-empty
payloads, then anything, and a file that takes every write, the loop of `_twopence_receive_file`
for the total of their payload lengths returns 0, writes their payloads in order and leaves what
follows the frames on the link, however the link cuts the bytes into `recv` results. -/
theorem receiveFileLoop_frames :
    ∀ (fs : List (List UInt8)) (fuel : Nat) (buffer : Mem) (w : World) (s : List UInt8),
      fs.Forall (fun f => DataFrame f ∧ 0 < payloadLength f) → fs.length < fuel →
      Delivers w.rx (fs.flatten ++ s) → w.fileOut = [] →
      (receiveFileLoop fuel buffer ((fs.map payloadLength).sum : Int) w).1 = 0 ∧
      fileBytes (receiveFileLoop fuel buffer ((fs.map payloadLength).sum : Int) w).2.trace =
        fileBytes w.trace ++ (fs.map (·.drop 4)).flatten ∧
      Delivers (receiveFileLoop fuel buffer ((fs.map payloadLength).sum : Int) w).2.rx s ∧
      wireBytes (receiveFileLoop fuel buffer ((fs.map payloadLength).sum : Int) w).2.trace =
        wireBytes w.trace
  | _, 0, _, _, _, _, hfuel, _, _ => absurd hfuel (Nat.not_lt_zero _)
  | [], fuel + 1, buffer, w, s, _, _, hd, _ => by
    rw [List.map_nil, List.sum_nil, Nat.cast_zero, receiveFileLoop, if_neg (lt_irrefl 0)]
    exact ⟨rfl, by simp, by rw [(World.keepsInput_pipeOutput _ _).rx]; simpa using hd,
      wireBytes_pipeOutput _⟩
  | f :: fs, fuel + 1, buffer, w, s, hfs, hfuel, hd, hout => by
    obtain ⟨⟨hf, hp⟩, hfs⟩ := (List.forall_cons _ _ _).mp hfs
    have hsum : (((f :: fs).map payloadLength).sum : Int) =
        payloadLength f + (fs.map payloadLength).sum := by
      rw [List.map_cons, List.sum_cons, Nat.cast_add]
    obtain ⟨hrest, heq⟩ := @receiveFileStep_frame buffer (((f :: fs).map payloadLength).sum) w _
      (fs.flatten ++ s) hf.1 (by simpa [List.append_assoc] using hd)
    rw [receiveFileLoop, if_pos (by rw [hsum]; omega), heq,
      if_neg (by push_neg; exact ⟨hf.2, by rw [hsum]; omega⟩), if_pos (by exact_mod_cast hp)]
    dsimp only
    rw [writeFile_of_fileOut (w := { w with rx := (pipeReadFrame bufferSize buffer w.rx).rest })
      hout, if_neg (by simp [payloadLength])]
    dsimp only
    rw [show (((f :: fs).map payloadLength).sum : Int) - payloadLength f =
      (fs.map payloadLength).sum by rw [hsum]; omega]
    obtain ⟨h₁, h₂, h₃, h₄⟩ := receiveFileLoop_frames fs fuel
      (pipeReadFrame bufferSize buffer w.rx).mem
      ((({ w with rx := (pipeReadFrame bufferSize buffer w.rx).rest } : World).record
        (.fileWrite (f.drop 4))).pipeOutput (byte '.')).2 s hfs (Nat.lt_of_succ_lt_succ hfuel)
      (by rw [(World.keepsInput_pipeOutput _ _).rx]; exact hrest) (by simp [World.record, hout])
    refine ⟨h₁, ?_, h₃, ?_⟩
    · rw [h₂, fileBytes_pipeOutput]
      simp [World.record, fileBytes]
    · rw [h₄, wireBytes_pipeOutput]
      simp [World.record, wireBytes]

/-- `_twopence_receive_file` with its fuel: the same on a stream of data frames. -/
theorem receiveFile_frames {fs : List (List UInt8)}
    (hfs : fs.Forall (fun f => DataFrame f ∧ 0 < payloadLength f)) (buffer : Mem) {w : World}
    {s : List UInt8} (hd : Delivers w.rx (fs.flatten ++ s)) (hout : w.fileOut = []) :
    (receiveFile buffer ((fs.map payloadLength).sum : Int) w).1 = 0 ∧
      fileBytes (receiveFile buffer ((fs.map payloadLength).sum : Int) w).2.trace =
        fileBytes w.trace ++ (fs.map (·.drop 4)).flatten ∧
      Delivers (receiveFile buffer ((fs.map payloadLength).sum : Int) w).2.rx s ∧
      wireBytes (receiveFile buffer ((fs.map payloadLength).sum : Int) w).2.trace =
        wireBytes w.trace := by
  have hfuel : fs.length < pendingBytes w.rx + 1 := by
    have := @length_le_flatten_of_dataFrames fs
      (List.forall_iff_forall_mem.mpr fun f hf => (List.forall_iff_forall_mem.mp hfs f hf).1)
    rw [hd.pendingBytes_eq, List.length_append]
    omega
  exact receiveFileLoop_frames fs _ buffer w s hfs hfuel hd hout

/-! ## The round trip -/

theorem payloadLengths_of_drop {fs cs : List (List UInt8)} (h : fs.map (·.drop 4) = cs) :
    fs.map payloadLength = cs.map List.length := by
  rw [← h, List.map_map]
  exact List.map_congr_left fun f _ => (List.length_drop 4 f).symm

/-- **The file transfer round trip.** When `_twopence_send_file` sends a regular file, which every
read answers in full, over a link that takes every send, it returns 0 and puts bytes `x` on the
link. Then `_twopence_receive_file`, told the same size and fed `x` followed by anything, on a
link that cuts the bytes into `recv` results in any way and a file that takes every write, returns
0, writes the file's bytes in order and leaves what followed `x` on the link. -/
theorem sendFile_receiveFile {cs : List (List UInt8)} (hcs : FileChunks cs) {buffer : Mem}
    {w : World} {more : List FileRead} (hin : w.fileIn = cs.map .data ++ more)
    (htx : ∀ r ∈ w.tx, ∃ m, bufferSize ≤ m ∧ r = .sent m) (hlen : cs.length ≤ w.tx.length) :
    (sendFile buffer ((cs.map List.length).sum : Int) w).1 = 0 ∧
    ∃ x, wireBytes (sendFile buffer ((cs.map List.length).sum : Int) w).2.trace =
        wireBytes w.trace ++ x ∧
      ∀ (buffer' : Mem) (w' : World) (s : List UInt8), Delivers w'.rx (x ++ s) → w'.fileOut = [] →
        (receiveFile buffer' ((cs.map List.length).sum : Int) w').1 = 0 ∧
        fileBytes (receiveFile buffer' ((cs.map List.length).sum : Int) w').2.trace =
          fileBytes w'.trace ++ cs.flatten ∧
        Delivers (receiveFile buffer' ((cs.map List.length).sum : Int) w').2.rx s := by
  obtain ⟨hrc, fs, hwire, hfs, hdrop⟩ := sendFile_chunks hcs buffer hin htx hlen
  refine ⟨hrc, fs.flatten, hwire, fun buffer' w' s hd hout => ?_⟩
  rw [← payloadLengths_of_drop hdrop, ← hdrop]
  obtain ⟨h₁, h₂, h₃, -⟩ := receiveFile_frames hfs buffer' hd hout
  exact ⟨h₁, h₂, h₃⟩

/-- A one-byte file `[7]`, and a link that takes a whole buffer. -/
def oneByteSender : World := ⟨0, 0, 0, [], [.sent 32768], [], [], [.data [7]], [], [], []⟩

/-- A one-byte file goes through. -/
theorem sendFile_receiveFile_oneByte :
    FileChunks [[7]] ∧ (sendFile (fun _ => 0) 1 oneByteSender).1 = 0 ∧
      ∃ x, wireBytes (sendFile (fun _ => 0) 1 oneByteSender).2.trace = [] ++ x ∧
        ∀ (buffer' : Mem) (w' : World) (s : List UInt8), Delivers w'.rx (x ++ s) →
          w'.fileOut = [] →
          (receiveFile buffer' 1 w').1 = 0 ∧
          fileBytes (receiveFile buffer' 1 w').2.trace = fileBytes w'.trace ++ [7] ∧
          Delivers (receiveFile buffer' 1 w').2.rx s :=
  have hcs : FileChunks [[7]] := .cons (by decide) (by decide) (.inl rfl) .nil
  ⟨hcs, @sendFile_receiveFile _ hcs _ _ [] rfl (by simp [oneByteSender, bufferSize]) (by decide)⟩

end Twopence
