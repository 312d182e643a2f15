import Twopence.Frame

/-!
# The client's frame builders

Every frame the client puts on the link is built the same way: bytes go into a stack buffer from
offset 0, `store_length` stamps the total into bytes 2 and 3, and the first `length` bytes of the
buffer are handed to `__twopence_pipe_sendbuf`. There are three builders:

* the five request senders (`__twopence_pipe_command`, `_twopence_inject_virtio_serial`,
  `_twopence_extract_virtio_serial`, `_twopence_exit_virtio_serial`,
  `_twopence_interrupt_virtio_serial`) format a request line with `snprintf` into the
  `COMMAND_BUFFER_SIZE` command buffer; its first four characters are the type and three
  placeholder bytes, two of which `store_length` overwrites. They share `prepareRequest` and differ
  only in the text they format;
* `_twopence_send_file` reads a chunk of at most `BUFFER_SIZE - 4` bytes into `buffer + 4` and
  writes the type `'d'` into `buffer[0]` (`dataFrame`);
* `__twopence_pipe_recvbuf_both` reads standard input the same way, typed `'0'` or `'E'`
  (`stdinFrame`).

None of them writes `buffer[1]`: the request buffers hold the `'.'` that `snprintf` put there, the
other two whatever the stack held.

## Main results

* `wellFormed_storeLength_load` — the one fact every builder reduces to: a buffer stamped with
  `store_length(length)` and sent for `length` bytes announces exactly its own length
* `clientFrame_roundTrip` — every frame the builders produce is well formed and fits the
  receive buffer, and any sequence of them comes back out of `__twopence_pipe_read_frame` in
  order, however the link chunks it
-/

namespace Twopence

/-- `BUFFER_SIZE`, the receive buffer and the file-chunk buffer. -/
def bufferSize : Nat := 32768

/-- `COMMAND_BUFFER_SIZE`, the buffer request lines are formatted into. -/
def commandBufferSize : Nat := 8192

/-- The bytes of a string literal. -/
def literal (cs : List Char) : List UInt8 := cs.map byte

/-- `%ld`: the decimal digits of `v`, after a minus sign when it is negative. -/
def formatLong (v : Int) : List UInt8 :=
  (if v < 0 then [byte '-'] else []) ++ literal (Nat.toDigits 10 v.natAbs)

/-! ## Request lines -/

/-- The text of `"c...%s %s"` with the user name and the command. -/
def commandText (username linux_command : CStr) : List UInt8 :=
  literal ['c', '.', '.', '.'] ++ username.bytes ++ literal [' '] ++ linux_command.bytes

/-- The text of `"i...%s %ld %s"` with the user name, the file size and the remote file name. -/
def injectText (username : CStr) (st_size : Int) (remote_filename : CStr) : List UInt8 :=
  literal ['i', '.', '.', '.'] ++ username.bytes ++ literal [' '] ++ formatLong st_size ++
    literal [' '] ++ remote_filename.bytes

/-- The text of `"e...%s %s"` with the user name and the remote file name. -/
def extractText (username remote_filename : CStr) : List UInt8 :=
  literal ['e', '.', '.', '.'] ++ username.bytes ++ literal [' '] ++ remote_filename.bytes

/-- The text of `"q..."`. -/
def exitText : List UInt8 := literal ['q', '.', '.', '.']

/-- The text of `"I..."`. -/
def interruptText : List UInt8 := literal ['I', '.', '.', '.']

/-- `n = snprintf(command, COMMAND_BUFFER_SIZE, ...)`, the check
`n < 0 || n >= COMMAND_BUFFER_SIZE` and `store_length(n + 1, command)`, shared by the five request
senders. `snprintf` writes at most `COMMAND_BUFFER_SIZE - 1` characters of `text` and a NUL and
returns the full length `n`; the request is the first `n + 1` bytes of the buffer, NUL included,
and `none` stands for the `TWOPENCE_PARAMETER_ERROR` return. -/
def prepareRequest (command : Mem) (text : List UInt8) : Option Mem :=
  if text.length < commandBufferSize then
    some (storeLength (text.length + 1) (command.store 0 (text.take (commandBufferSize - 1) ++ [0])))
  else none

/-! ## Data frames -/

/-- The buffer of `_twopence_send_file` once a chunk is ready: `read(file_fd, buffer + 4, size)`
returned `chunk`, then `buffer[0] = 'd'` and `store_length(received + 4, buffer)`. -/
def dataFrame (buffer : Mem) (chunk : List UInt8) : Mem :=
  storeLength (chunk.length + 4) ((buffer.store 4 chunk).store 0 [byte 'd'])

/-- The buffer of `__twopence_pipe_recvbuf_both` once standard input was read:
`read(stdin_fd, buffer + 4, size - 4)` returned `chunk`, the type is `'E'` for end of file and
`'0'` otherwise, then `store_length(count + 4, buffer)`. -/
def stdinFrame (buffer : Mem) (chunk : List UInt8) : Mem :=
  storeLength (chunk.length + 4)
    ((buffer.store 4 chunk).store 0 [if chunk.length = 0 then byte 'E' else byte '0'])

/-! ## What the builders produce -/

/-- The frames the client's builders put on the link: the bytes each one hands to
`__twopence_pipe_sendbuf`, under the bound the code checks (requests) or reads under (data). -/
inductive ClientFrame : List UInt8 → Prop
  | command (command : Mem) (username linux_command : CStr) (buf : Mem)
      (h : prepareRequest command (commandText username linux_command) = some buf) :
      ClientFrame (buf.load 0 ((commandText username linux_command).length + 1))
  | inject (command : Mem) (username : CStr) (st_size : Int) (remote_filename : CStr) (buf : Mem)
      (h : prepareRequest command (injectText username st_size remote_filename) = some buf) :
      ClientFrame (buf.load 0 ((injectText username st_size remote_filename).length + 1))
  | extract (command : Mem) (username remote_filename : CStr) (buf : Mem)
      (h : prepareRequest command (extractText username remote_filename) = some buf) :
      ClientFrame (buf.load 0 ((extractText username remote_filename).length + 1))
  | exit (command : Mem) (buf : Mem) (h : prepareRequest command exitText = some buf) :
      ClientFrame (buf.load 0 (exitText.length + 1))
  | interrupt (command : Mem) (buf : Mem) (h : prepareRequest command interruptText = some buf) :
      ClientFrame (buf.load 0 (interruptText.length + 1))
  | data (buffer : Mem) (chunk : List UInt8) (h : chunk.length ≤ bufferSize - 4) :
      ClientFrame ((dataFrame buffer chunk).load 0 (chunk.length + 4))
  | stdin (buffer : Mem) (chunk : List UInt8) (h : chunk.length ≤ bufferSize - 4) :
      ClientFrame ((stdinFrame buffer chunk).load 0 (chunk.length + 4))

/-- **Stamped frames announce their own length.** A buffer stamped with
`store_length(length)` and sent for `length` bytes, `4 ≤ length ≤ size < 2 ^ 16`, is a
well-formed frame. -/
theorem wellFormed_storeLength_load {size length : Nat} (h₁ : 4 ≤ length) (h₂ : length ≤ size)
    (h₃ : size < 65536) (buffer : Mem) :
    WellFormed size ((storeLength length buffer).load 0 length) := by
  refine ⟨by simpa using h₁, by simpa using h₂, ?_⟩
  have hsplit := Mem.load_add (storeLength length buffer) 0 4 (length - 4)
  rw [show 4 + (length - 4) = length by omega] at hsplit
  have hhdr : (storeLength length buffer).load 0 4 = ((storeLength length buffer).load 0 length).take 4 := by
    rw [hsplit, List.take_left' (Mem.length_load _ 0 4)]
  rw [← announcedLength_take (le_refl 4), ← hhdr, ← computeLength_of_load rfl,
    computeLength_storeLength (by omega), Mem.length_load]

theorem prepareRequest_length {command buf : Mem} {text : List UInt8}
    (h : prepareRequest command text = some buf) : text.length < commandBufferSize := by
  unfold prepareRequest at h; split at h
  · assumption
  · cases h

/-- Byte 1 of a request is the request text's second character: `store_length` writes bytes 2
and 3 only. -/
theorem prepareRequest_apply_one {command buf : Mem} {text : List UInt8} (h2 : 2 ≤ text.length)
    (h : prepareRequest command text = some buf) : buf 1 = text.getD 1 0 := by
  have hlt := prepareRequest_length h
  simp only [prepareRequest, if_pos hlt, Option.some.injEq] at h
  subst h
  rw [storeLength_apply_of_ne (by decide) (by decide), Mem.store_apply_of_mem (Nat.zero_le 1)
    (by simp [commandBufferSize]; omega)]
  rw [Nat.sub_zero, List.getD_eq_getElem?_getD, List.getD_eq_getElem?_getD,
    List.getElem?_append_left (by simp [commandBufferSize]; omega),
    List.getElem?_take_of_lt (by simp [commandBufferSize])]

theorem wellFormed_prepareRequest {command buf : Mem} {text : List UInt8} (h4 : 4 ≤ text.length)
    (h : prepareRequest command text = some buf) :
    WellFormed bufferSize (buf.load 0 (text.length + 1)) := by
  have hlt := prepareRequest_length h
  simp only [prepareRequest, if_pos hlt, Option.some.injEq] at h
  subst h
  exact wellFormed_storeLength_load (by omega)
    (by simp only [commandBufferSize, bufferSize] at hlt ⊢; omega) (by decide) _

/-- Every frame the client's builders produce is well formed for the receive buffer: the length
`store_length` writes is the number of bytes sent, between 4 and `BUFFER_SIZE`. -/
theorem ClientFrame.wellFormed {f : List UInt8} (hf : ClientFrame f) : WellFormed bufferSize f := by
  cases hf with
  | command _ u c _ h => exact wellFormed_prepareRequest (by simp [commandText, literal]) h
  | inject _ u v r _ h => exact wellFormed_prepareRequest (by simp [injectText, literal]) h
  | extract _ u r _ h => exact wellFormed_prepareRequest (by simp [extractText, literal]) h
  | exit _ _ h => exact wellFormed_prepareRequest (by decide) h
  | interrupt _ _ h => exact wellFormed_prepareRequest (by decide) h
  | data _ chunk h | stdin _ chunk h =>
    exact wellFormed_storeLength_load (by omega)
      (by simp only [bufferSize] at h ⊢; omega) (by decide) _

/-- **The codec round trip.** Every frame the client's builders produce stores, in bytes 2 and 3,
exactly the number of bytes it puts on the link, and that number lies in `[4, BUFFER_SIZE]`. So
however the concatenation of any sequence of such frames is split by the link, successive
`__twopence_pipe_read_frame` calls with a `BUFFER_SIZE` buffer all succeed and give back each
frame's type byte and payload bytes, in order. -/
theorem clientFrame_roundTrip :
    (∀ f, ClientFrame f → 4 ≤ f.length ∧ f.length ≤ bufferSize ∧ announcedLength f = f.length) ∧
    ∀ fs : List (List UInt8), (∀ f ∈ fs, ClientFrame f) →
      ∀ rounds, Delivers rounds fs.flatten → ∀ mem : Mem,
        readFrames bufferSize fs.length mem rounds = some (fs.map fun f => (f.headD 0, f.drop 4)) :=
  ⟨fun _ hf => hf.wellFormed,
    fun fs hfs _ hd mem => readFrames_wellFormed fs (fun f hf => (hfs f hf).wellFormed) hd mem⟩

/-- The exit request `"q..."` and a data frame carrying the byte `x`, which the link delivers in
three `recv` results that cut across both frames, come back in order. -/
theorem clientFrame_roundTrip_exitData :
    ∃ buf, prepareRequest (fun _ => 0) exitText = some buf ∧
      buf.load 0 (exitText.length + 1) = [113, 46, 0, 5, 0] ∧
      readFrames bufferSize 2 (fun _ => 0)
          [.recv [113, 46], .recv [0, 5, 0, 100], .recv [0, 0, 5, 120]] =
        some [(113, [0]), (100, [120])] :=
  ⟨_, rfl, rfl, clientFrame_roundTrip.2
    [(storeLength 5 (Mem.store (fun _ => 0) 0 [113, 46, 46, 46, 0])).load 0 5,
      (dataFrame (fun _ => 0) [120]).load 0 5]
    (by
      simp only [List.mem_cons, List.mem_singleton, List.not_mem_nil, or_false]
      rintro f (rfl | rfl)
      · exact .exit (fun _ => 0) _ rfl
      · exact .data (fun _ => 0) [120] (by decide))
    [.recv [113, 46], .recv [0, 5, 0, 100], .recv [0, 0, 5, 120]]
    (.cons (by decide) (.cons (by decide) (.cons (by decide) .nil))) _⟩

end Twopence
