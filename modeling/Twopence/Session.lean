import Twopence.Results

/-!
# The client's sessions

The calls of the top layer of `protocol.c`, each of which opens a link of its own for one
request: `__twopence_pipe_command`, `_twopence_inject_virtio_serial`,
`_twopence_extract_virtio_serial`, `_twopence_exit_virtio_serial` and
`_twopence_interrupt_virtio_serial`, with the file transfer loops `_twopence_send_file` and
`_twopence_receive_file` that inject and extract run.

## Session events

Opening the link, closing a descriptor and tuning standard input are the *session events*. Every
function below the top layer records none of them (the `sessionEvents_*` lemmas), so the session
events of a top-layer call are the ones its own body records. That is how the opening of the link
is found in the trace of each call (`pipeCommand_opensLink` and its siblings), and how a path
that returns with the link open is seen (`extractVirtioSerial_leaks`).

## Loops

`_twopence_send_file` and `_twopence_receive_file` loop while bytes remain. A turn of the first
that does not end the loop uses up one outcome of `read` on the local file, and a turn of the
second reads a frame, at least four bytes off the link. So the models give the first one turn
more than there are outcomes, and the second one turn more than there are bytes on the link;
`sendFileLoop_fuel` and `receiveFileLoop_fuel` show that more turns would change nothing.

## Main results

* `sessionEvents_readResults`, `sessionEvents_sendFile`, `sessionEvents_receiveFile` — the
  functions below the top layer record no session event
* `pipeCommand_sent` — a command whose request the link takes whole leaves
  `__twopence_pipe_command` to `_twopence_read_results`
* `invalidUsername_accepts_empty` — the empty user name passes the check, and each call opens
  the link with it
* `extractVirtioSerial_leaks` — a failed file transfer leaves the link open
* `injectVirtioSerial_unchecked_major` — the file is sent after a reply that is not a major status
-/

namespace Twopence

/-! ## The local file -/

namespace World

/-- `read(file_fd, buffer + 4, size)`: the return value and the bytes read. -/
def readFile (w : World) (size : Nat) : Int × List UInt8 × World :=
  match w.fileIn with
  | [] => (0, [], w)
  | .error _ :: rest => (-1, [], { w with fileIn := rest })
  | .data chunk :: rest => ((chunk.take size).length, chunk.take size, { w with fileIn := rest })

/-- `write(file_fd, buffer + 4, received)`: the return value. -/
def writeFile (w : World) (bytes : List UInt8) : Int × World :=
  match w.fileOut with
  | [] => (bytes.length, w.record (.fileWrite bytes))
  | n :: rest =>
    let n := min n bytes.length
    (n, { w with fileOut := rest }.record (.fileWrite (bytes.take n.toNat)))

end World

/-! ## File transfer -/

/-- The conversion of `off_t` to the `int` parameter `remaining` of `_twopence_send_file`. -/
def intOfOffT (v : Int) : Int := intOfLong v

/-- One turn of the loop of `_twopence_send_file`, with `remaining > 0`: read a chunk after the
header, send it as a `'d'` frame and print a dot. The send's result is tested with `!`, which is
false for a negative code. -/
def sendFileStep (buffer : Mem) (remaining : Int) (w : World) :
    Except (Int × World) (Mem × Int × World) :=
  let size := min remaining.toNat (bufferSize - 4)
  let r := w.readFile size
  if r.1 ≠ size then .error (Error.localFile.code, (r.2.2.pipeOutput (byte '\n')).2)
  else
    let buffer := dataFrame buffer r.2.1
    let s := r.2.2.sendbuf buffer (r.2.1.length + 4)
    if s.1 = 0 then .error (Error.sendFile.code, (s.2.pipeOutput (byte '\n')).2)
    else .ok (buffer, remaining - r.1, (s.2.pipeOutput (byte '.')).2)

/-- The loop `while (remaining > 0)` of `_twopence_send_file`. -/
def sendFileLoop : Nat → Mem → Int → World → Int × World
  | 0, _, remaining, w =>
    (if 0 < remaining then Error.localFile.code else 0, (w.pipeOutput (byte '\n')).2)
  | fuel + 1, buffer, remaining, w =>
    if 0 < remaining then
      match sendFileStep buffer remaining w with
      | .error r => r
      | .ok (buffer, remaining, w) => sendFileLoop fuel buffer remaining w
    else (0, (w.pipeOutput (byte '\n')).2)

/-- `_twopence_send_file(handle, file_fd, link_fd, remaining)`. -/
def sendFile (buffer : Mem) (remaining : Int) (w : World) : Int × World :=
  sendFileLoop (w.fileIn.length + 1) buffer remaining w

/-- One turn of the loop of `_twopence_receive_file`, with `remaining > 0`: read a frame, check
that it is a `'d'` frame no longer than what remains, and write its payload to the file. -/
def receiveFileStep (buffer : Mem) (remaining : Int) (w : World) :
    Except (Int × World) (Mem × Int × World) :=
  let r := w.readFrame buffer
  if r.1 ≠ 0 then .error (Error.receiveFile.code, (r.2.2.pipeOutput (byte '\n')).2)
  else
    let buffer := r.2.1
    let received : Int := computeLength buffer - 4
    if buffer 0 ≠ byte 'd' ∨ received < 0 ∨ received > remaining then
      .error (Error.receiveFile.code, (r.2.2.pipeOutput (byte '\n')).2)
    else if 0 < received then
      let wr := r.2.2.writeFile (buffer.load 4 received.toNat)
      if wr.1 ≠ received then .error (Error.localFile.code, (wr.2.pipeOutput (byte '\n')).2)
      else .ok (buffer, remaining - received, (wr.2.pipeOutput (byte '.')).2)
    else .ok (buffer, remaining, r.2.2)

/-- The loop `while (remaining > 0)` of `_twopence_receive_file`. -/
def receiveFileLoop : Nat → Mem → Int → World → Int × World
  | 0, _, remaining, w =>
    (if 0 < remaining then Error.receiveFile.code else 0, (w.pipeOutput (byte '\n')).2)
  | fuel + 1, buffer, remaining, w =>
    if 0 < remaining then
      match receiveFileStep buffer remaining w with
      | .error r => r
      | .ok (buffer, remaining, w) => receiveFileLoop fuel buffer remaining w
    else (0, (w.pipeOutput (byte '\n')).2)

/-- `_twopence_receive_file(handle, file_fd, link_fd, remaining)`. -/
def receiveFile (buffer : Mem) (remaining : Int) (w : World) : Int × World :=
  receiveFileLoop (pendingBytes w.rx + 1) buffer remaining w

/-! ## The top layer -/

/-- `_twopence_invalid_username`: a byte other than a digit, a letter or `'_'`. -/
def invalidUsername (username : CStr) : Bool :=
  username.bytes.any fun c =>
    !((byte '0' ≤ c && c ≤ byte '9') || (byte 'A' ≤ c && c ≤ byte 'Z') ||
      (byte 'a' ≤ c && c ≤ byte 'z') || c == byte '_')

/-- `__twopence_pipe_command(handle, username, linux_command, major, minor)`: the return value
and the final `*major` and `*minor`. `command` is the request buffer and `buffer` the one of
`_twopence_read_results`, as they are on entry. -/
def pipeCommand (command buffer : Mem) (username linux_command : CStr) (w : World) :
    Int × Int × Int × World :=
  if invalidUsername username then (Error.parameter.code, 0, 0, w)
  else if linux_command.bytes = [] then (Error.parameter.code, 0, 0, w)
  else
    match prepareRequest command (commandText username linux_command) with
    | none => (Error.parameter.code, 0, 0, w)
    | some command =>
      let n := (commandText username linux_command).length
      let t := w.tuneStdin false
      if t.1 < 0 then (Error.openSession.code, 0, 0, t.2)
      else
        let o := t.2.openLink
        if o.1 < 0 then (Error.openSession.code, 0, 0, (o.2.tuneStdin true).2)
        else
          let s := o.2.sendbuf command (n + 1)
          if s.1 ≠ n + 1 then (Error.sendCommand.code, 0, 0, (s.2.tuneStdin true).2.close o.1)
          else
            let r := readResults buffer 0 0 s.2
            ((if r.1 < 0 then Error.receiveResults.code else 0), r.2.1, r.2.2.1,
              (r.2.2.2.tuneStdin true).2.close o.1)

/-- The stack buffers of `_twopence_inject_virtio_serial` and of the calls it makes, as they are
on entry. -/
structure InjectStack where
  /-- `command`. -/
  command : Mem
  /-- The buffer of `_twopence_read_major`. -/
  major : Mem
  /-- The buffer of `_twopence_send_file`. -/
  file : Mem
  /-- The buffer of `_twopence_read_minor`. -/
  minor : Mem

/-- `_twopence_inject_virtio_serial(handle, username, file_fd, remote_filename, remote_rc)`: the
return value and the final `*remote_rc`. The return code of `_twopence_read_major` is not looked
at; only `*remote_rc` is. -/
def injectVirtioSerial (st : InjectStack) (username remote_filename : CStr) (w : World) :
    Int × Int × World :=
  if invalidUsername username then (Error.parameter.code, 0, w)
  else
    match prepareRequest st.command (injectText username w.stSize remote_filename) with
    | none => (Error.parameter.code, 0, w)
    | some command =>
      let n := (injectText username w.stSize remote_filename).length
      let o := w.openLink
      if o.1 < 0 then (Error.openSession.code, 0, o.2)
      else
        let s := o.2.sendbuf command (n + 1)
        if s.1 ≠ n + 1 then (Error.sendCommand.code, 0, s.2.close o.1)
        else
          let m := readMajor s.2 st.major 0
          if m.2.1 ≠ 0 then (Error.sendFile.code, m.2.1, m.2.2.close o.1)
          else
            let f := sendFile st.file (intOfOffT w.stSize) m.2.2
            if f.1 < 0 then (Error.sendFile.code, m.2.1, f.2.close o.1)
            else
              let mi := readMinor f.2 st.minor m.2.1
              ((if mi.1 < 0 then Error.sendFile.code else 0), mi.2.1, mi.2.2.close o.1)

/-- The stack buffers of `_twopence_extract_virtio_serial` and of the calls it makes, and its
variable `size`, which it does not initialise, as they are on entry. -/
structure ExtractStack where
  /-- `command`. -/
  command : Mem
  /-- The buffer of `_twopence_read_size`. -/
  size : Mem
  /-- The buffer of `_twopence_receive_file`. -/
  file : Mem
  /-- `size`. -/
  sizeValue : Int

/-- `_twopence_extract_virtio_serial(handle, username, file_fd, remote_filename, remote_rc)`: the
return value and the final `*remote_rc`. When `_twopence_receive_file` fails, it returns without
closing the link. -/
def extractVirtioSerial (st : ExtractStack) (username remote_filename : CStr) (w : World) :
    Int × Int × World :=
  if invalidUsername username then (Error.parameter.code, 0, w)
  else
    match prepareRequest st.command (extractText username remote_filename) with
    | none => (Error.parameter.code, 0, w)
    | some command =>
      let n := (extractText username remote_filename).length
      let o := w.openLink
      if o.1 < 0 then (Error.openSession.code, 0, o.2)
      else
        let s := o.2.sendbuf command (n + 1)
        if s.1 ≠ n + 1 then (Error.sendCommand.code, 0, s.2.close o.1)
        else
          let r := readSize s.2 st.size st.sizeValue 0
          if r.1 < 0 then (Error.receiveFile.code, r.2.2.1, r.2.2.2.close o.1)
          else if 0 ≤ r.2.1 then
            let f := receiveFile st.file r.2.1 r.2.2.2
            if f.1 < 0 then (Error.receiveFile.code, r.2.2.1, f.2)
            else (0, r.2.2.1, f.2.close o.1)
          else (0, r.2.2.1, r.2.2.2.close o.1)

/-- The body `_twopence_exit_virtio_serial` and `_twopence_interrupt_virtio_serial` share: send a
request `text` that has no reply, and return `sendError` when the send falls short. -/
def sendRequest (text : List UInt8) (sendError : Error) (command : Mem) (w : World) :
    Int × World :=
  match prepareRequest command text with
  | none => (Error.parameter.code, w)
  | some command =>
    let o := w.openLink
    if o.1 < 0 then (Error.openSession.code, o.2)
    else
      let s := o.2.sendbuf command (text.length + 1)
      if s.1 ≠ text.length + 1 then (sendError.code, s.2.close o.1)
      else (0, s.2.close o.1)

/-- `_twopence_exit_virtio_serial(handle)`. -/
def exitVirtioSerial (command : Mem) (w : World) : Int × World :=
  sendRequest exitText .sendCommand command w

/-- `_twopence_interrupt_virtio_serial(handle)`. -/
def interruptVirtioSerial (command : Mem) (w : World) : Int × World :=
  sendRequest interruptText .interruptCommand command w

/-! ## The loops' fuel -/

section Fuel

theorem World.keepsInput_writeFile (w : World) (bytes : List UInt8) :
    World.KeepsInput w (w.writeFile bytes).2 := by
  unfold World.writeFile; split <;> exact ⟨rfl, rfl, rfl⟩

/-- A `read` that returns all it was asked for, and that was something, took one outcome. -/
theorem readFile_fileIn {w : World} {size : Nat} (hs : 0 < size) (h : (w.readFile size).1 = size) :
    (w.readFile size).2.2.fileIn.length < w.fileIn.length := by
  unfold World.readFile at h ⊢
  split at h
  · omega
  · omega
  · rename_i heq; simp [heq]

/-- A turn of `_twopence_send_file` that does not end the loop takes one outcome of `read`. -/
theorem sendFileStep_fileIn {buffer : Mem} {remaining : Int} {w : World} {r : Mem × Int × World}
    (hr : 0 < remaining) (h : sendFileStep buffer remaining w = .ok r) :
    r.2.2.fileIn.length < w.fileIn.length := by
  unfold sendFileStep at h
  dsimp only at h
  split_ifs at h with h₁ h₂
  obtain rfl := Except.ok.inj h
  rw [(World.keepsInput_pipeOutput _ _).fileIn, (World.keepsInput_sendbuf _ _ _).fileIn]
  exact readFile_fileIn (by unfold bufferSize; omega) (not_not.mp h₁)

/-- A turn of `_twopence_receive_file` that does not end the loop reads a frame, at least four
bytes off the link. -/
theorem receiveFileStep_pending {buffer : Mem} {remaining : Int} {w : World}
    {r : Mem × Int × World} (h : receiveFileStep buffer remaining w = .ok r) :
    pendingBytes r.2.2.rx + 4 ≤ pendingBytes w.rx := by
  have hp : (w.readFrame buffer).1 = 0 →
      pendingBytes (w.readFrame buffer).2.2.rx + 4 ≤ pendingBytes w.rx :=
    pipeReadFrame_pending buffer w.rx
  unfold receiveFileStep at h
  generalize w.readFrame buffer = q at h hp
  dsimp only at h
  by_cases h₁ : q.1 = 0
  · rw [if_neg (not_not.mpr h₁)] at h
    generalize (computeLength q.2.1 : Int) - 4 = n at h
    by_cases h₂ : q.2.1 0 ≠ byte 'd' ∨ n < 0 ∨ n > remaining
    · rw [if_pos h₂] at h; cases h
    rw [if_neg h₂] at h
    by_cases h₃ : 0 < n
    · rw [if_pos h₃] at h
      by_cases h₄ : (q.2.2.writeFile (q.2.1.load 4 n.toNat)).1 ≠ n
      · rw [if_pos h₄] at h; cases h
      · rw [if_neg h₄] at h; cases h
        rw [(World.keepsInput_pipeOutput _ _).rx, (World.keepsInput_writeFile _ _).rx]
        exact hp h₁
    · rw [if_neg h₃] at h; cases h; exact hp h₁
  · rw [if_pos h₁] at h; cases h

/-- **The send loop's fuel is enough.** -/
theorem sendFileLoop_fuel :
    ∀ (fuel k : Nat) (buffer : Mem) (remaining : Int) (w : World), w.fileIn.length < fuel →
      sendFileLoop (fuel + k) buffer remaining w = sendFileLoop fuel buffer remaining w
  | 0, _, _, _, _, h => absurd h (Nat.not_lt_zero _)
  | fuel + 1, k, buffer, remaining, w, h => by
    rw [show fuel + 1 + k = fuel + k + 1 by omega, sendFileLoop, sendFileLoop]
    split_ifs with hr
    · split
      · rfl
      · rename_i heq
        have := sendFileStep_fileIn hr heq
        exact sendFileLoop_fuel fuel k _ _ _ (by simp only at this; omega)
    · rfl

/-- **The receive loop's fuel is enough.** -/
theorem receiveFileLoop_fuel :
    ∀ (fuel k : Nat) (buffer : Mem) (remaining : Int) (w : World), pendingBytes w.rx < fuel →
      receiveFileLoop (fuel + k) buffer remaining w = receiveFileLoop fuel buffer remaining w
  | 0, _, _, _, _, h => absurd h (Nat.not_lt_zero _)
  | fuel + 1, k, buffer, remaining, w, h => by
    rw [show fuel + 1 + k = fuel + k + 1 by omega, receiveFileLoop, receiveFileLoop]
    split_ifs with hr
    · split
      · rfl
      · rename_i heq
        have := receiveFileStep_pending heq
        exact receiveFileLoop_fuel fuel k _ _ _ (by simp only at this; omega)
    · rfl

end Fuel

/-! ## Session events -/

/-- Opening the link, closing a descriptor and tuning standard input. -/
def ClientEvent.isSession : ClientEvent → Bool
  | .openLink _ | .close _ | .tuneStdin _ => true
  | _ => false

/-- The session events of a trace, in order. -/
def sessionEvents (trace : List ClientEvent) : List ClientEvent :=
  trace.filter ClientEvent.isSession

section Keeps

variable {w : World}

@[simp] theorem sessionEvents_record (e : ClientEvent) :
    sessionEvents (w.record e).trace = sessionEvents w.trace ++ if e.isSession then [e] else [] := by
  simp only [sessionEvents, World.record, List.filter_append, List.filter_cons, List.filter_nil]

@[simp] theorem sessionEvents_sendbuf (buffer : Mem) (count : Nat) :
    sessionEvents (w.sendbuf buffer count).2.trace = sessionEvents w.trace := by
  simp [World.sendbuf, sessionEvents, ClientEvent.isSession]

@[simp] theorem sessionEvents_sinkWrite {e : ClientEvent} (he : e.isSession = false) :
    sessionEvents (w.sinkWrite e).2.trace = sessionEvents w.trace := by
  unfold World.sinkWrite
  split
  · simp [he]
  · split_ifs <;> simp [he]

@[simp] theorem sessionEvents_pipeOutput (c : UInt8) :
    sessionEvents (w.pipeOutput c).2.trace = sessionEvents w.trace :=
  sessionEvents_sinkWrite rfl

theorem sessionEvents_outputLoop (toStderr : Bool) :
    ∀ (bytes : List UInt8) (w : World),
      sessionEvents (World.outputLoop toStderr bytes w).2.trace = sessionEvents w.trace
  | [], w => rfl
  | c :: cs, w => by
    have hr : sessionEvents (if toStderr then w.pipeError c else w.pipeOutput c).2.trace
        = sessionEvents w.trace := by
      split <;> exact sessionEvents_sinkWrite rfl
    rw [World.outputLoop]
    generalize (if toStderr then w.pipeError c else w.pipeOutput c) = r at hr ⊢
    split
    · rw [sessionEvents_outputLoop toStderr cs, hr]
    · exact hr

@[simp] theorem trace_readFile (size : Nat) : (w.readFile size).2.2.trace = w.trace := by
  unfold World.readFile; split <;> rfl

@[simp] theorem sessionEvents_writeFile (bytes : List UInt8) :
    sessionEvents (w.writeFile bytes).2.trace = sessionEvents w.trace := by
  unfold World.writeFile; split <;> simp [ClientEvent.isSession]

/-- `__twopence_pipe_recvbuf_both` leaves the trace as it was. -/
theorem trace_pipeRecvbufBoth (stdinOpen : Bool) (size : Nat) (buffer : Mem) :
    ∀ (polls : List BothPoll) (w : World),
      (pipeRecvbufBoth stdinOpen size buffer w polls).2.2.trace = w.trace
  | [], _ => rfl
  | .error eintr :: polls, w => by
    rw [pipeRecvbufBoth]; split
    · exact trace_pipeRecvbufBoth stdinOpen size buffer polls w
    · rfl
  | .timeout :: _, _ => rfl
  | .ready link _ :: polls, w => by
    rw [pipeRecvbufBoth]
    split
    · rfl
    · split
      · split
        · split
          · exact trace_pipeRecvbufBoth stdinOpen size buffer polls _
          · rfl
        · rfl
        · rfl
      · exact trace_pipeRecvbufBoth stdinOpen size buffer polls w

theorem sessionEvents_resultsSwitch (state : Nat) (stdinOpen : Bool) (major minor : Int)
    (buffer : Mem) :
    match resultsSwitch state stdinOpen major minor buffer w with
    | .error r => sessionEvents r.2.trace = sessionEvents w.trace
    | .ok r => sessionEvents r.2.2.2.2.trace = sessionEvents w.trace :=
  resultsSwitch_world (P := fun w' => sessionEvents w'.trace = sessionEvents w.trace) state
    stdinOpen major minor buffer rfl (sessionEvents_sendbuf _ _) (sessionEvents_outputLoop · · w)

/-- `_twopence_read_results` records no session event. -/
@[simp] theorem sessionEvents_readResultsLoop :
    ∀ (fuel state : Nat) (stdinOpen : Bool) (major minor : Int) (buffer : Mem) (w : World),
      sessionEvents (readResultsLoop fuel state stdinOpen major minor buffer w).2.2.2.trace
        = sessionEvents w.trace
  | 0, _, _, _, _, _, _ => rfl
  | fuel + 1, state, stdinOpen, major, minor, buffer, w => by
    have hr := trace_pipeRecvbufBoth stdinOpen bufferSize buffer w.polls w
    rw [readResultsLoop]
    dsimp only
    split_ifs
    · rfl
    · rw [hr]
    · have hs := sessionEvents_resultsSwitch state stdinOpen major minor
        (pipeRecvbufBoth stdinOpen bufferSize buffer w w.polls).2.1
        (w := (pipeRecvbufBoth stdinOpen bufferSize buffer w w.polls).2.2)
      split <;> rename_i heq <;> rw [heq] at hs
      · rw [← hr]; exact hs
      · rw [sessionEvents_readResultsLoop, ← hr]; exact hs

@[simp] theorem sessionEvents_readResults (buffer : Mem) (major minor : Int) :
    sessionEvents (readResults buffer major minor w).2.2.2.trace = sessionEvents w.trace :=
  sessionEvents_readResultsLoop _ _ _ _ _ _ _

@[simp] theorem trace_readStatus (type : UInt8) (buffer : Mem) (value : Int) :
    (readStatus type w buffer value).2.2.trace = w.trace := by
  unfold readStatus; dsimp only; split_ifs <;> rfl

@[simp] theorem trace_readMajor (buffer : Mem) (major : Int) :
    (readMajor w buffer major).2.2.trace = w.trace :=
  trace_readStatus _ _ _

@[simp] theorem trace_readMinor (buffer : Mem) (minor : Int) :
    (readMinor w buffer minor).2.2.trace = w.trace :=
  trace_readStatus _ _ _

@[simp] theorem trace_readSize (buffer : Mem) (size remote_rc : Int) :
    (readSize w buffer size remote_rc).2.2.2.trace = w.trace := by
  unfold readSize; dsimp only; split_ifs <;> rfl

theorem sessionEvents_sendFileStep (buffer : Mem) (remaining : Int) :
    match sendFileStep buffer remaining w with
    | .error r => sessionEvents r.2.trace = sessionEvents w.trace
    | .ok r => sessionEvents r.2.2.trace = sessionEvents w.trace := by
  unfold sendFileStep
  dsimp only
  split_ifs <;> simp

/-- `_twopence_send_file` records no session event. -/
@[simp] theorem sessionEvents_sendFileLoop :
    ∀ (fuel : Nat) (buffer : Mem) (remaining : Int) (w : World),
      sessionEvents (sendFileLoop fuel buffer remaining w).2.trace = sessionEvents w.trace
  | 0, _, _, _ => by simp [sendFileLoop]
  | fuel + 1, buffer, remaining, w => by
    rw [sendFileLoop]
    split_ifs
    · have hs := sessionEvents_sendFileStep buffer remaining (w := w)
      split <;> rename_i heq <;> rw [heq] at hs
      · exact hs
      · rw [sessionEvents_sendFileLoop]; exact hs
    · simp

@[simp] theorem sessionEvents_sendFile (buffer : Mem) (remaining : Int) :
    sessionEvents (sendFile buffer remaining w).2.trace = sessionEvents w.trace :=
  sessionEvents_sendFileLoop _ _ _ _

theorem sessionEvents_receiveFileStep (buffer : Mem) (remaining : Int) :
    match receiveFileStep buffer remaining w with
    | .error r => sessionEvents r.2.trace = sessionEvents w.trace
    | .ok r => sessionEvents r.2.2.trace = sessionEvents w.trace := by
  unfold receiveFileStep
  dsimp only
  split_ifs <;> simp [World.readFrame]

/-- `_twopence_receive_file` records no session event. -/
@[simp] theorem sessionEvents_receiveFileLoop :
    ∀ (fuel : Nat) (buffer : Mem) (remaining : Int) (w : World),
      sessionEvents (receiveFileLoop fuel buffer remaining w).2.trace = sessionEvents w.trace
  | 0, _, _, _ => by simp [receiveFileLoop]
  | fuel + 1, buffer, remaining, w => by
    rw [receiveFileLoop]
    split_ifs
    · have hs := sessionEvents_receiveFileStep buffer remaining (w := w)
      split <;> rename_i heq <;> rw [heq] at hs
      · exact hs
      · rw [sessionEvents_receiveFileLoop]; exact hs
    · simp

@[simp] theorem sessionEvents_receiveFile (buffer : Mem) (remaining : Int) :
    sessionEvents (receiveFile buffer remaining w).2.trace = sessionEvents w.trace :=
  sessionEvents_receiveFileLoop _ _ _ _

end Keeps

/-! ## The session events of the top layer -/

section TopLayer

variable {w : World}

@[simp] theorem sessionEvents_close (fd : Int) :
    sessionEvents (w.close fd).trace = sessionEvents w.trace ++ [.close fd] := by
  simp [World.close, ClientEvent.isSession]

@[simp] theorem sessionEvents_openLink :
    sessionEvents w.openLink.2.trace = sessionEvents w.trace ++ [.openLink w.openResult] := by
  simp [World.openLink, ClientEvent.isSession]

@[simp] theorem sessionEvents_tuneStdin (blocking : Bool) :
    sessionEvents (w.tuneStdin blocking).2.trace = sessionEvents w.trace ++ [.tuneStdin blocking] := by
  simp [World.tuneStdin, ClientEvent.isSession]

end TopLayer

/-! ## User names -/

/-- Modelled from the spec ("only characters in `[A-Za-z0-9_]` make a user name valid"): a byte
a valid user name may hold. -/
def wordByte (c : UInt8) : Bool :=
  (byte 'A' ≤ c && c ≤ byte 'Z') || (byte 'a' ≤ c && c ≤ byte 'z') ||
    (byte '0' ≤ c && c ≤ byte '9') || c == byte '_'

/-- Modelled from the spec ("a user name is valid iff it is non-empty and consists only of
`[A-Za-z0-9_]`"). -/
def validUsername (username : CStr) : Bool := !username.bytes.isEmpty && username.bytes.all wordByte

/-- `_twopence_invalid_username` accepts exactly the names made of `[A-Za-z0-9_]`, the empty one
included. -/
theorem invalidUsername_eq_false_iff (username : CStr) :
    invalidUsername username = false ↔ validUsername username ∨ username.bytes = [] := by
  have hword (c : UInt8) : (!((byte '0' ≤ c && c ≤ byte '9') || (byte 'A' ≤ c && c ≤ byte 'Z') ||
      (byte 'a' ≤ c && c ≤ byte 'z') || c == byte '_')) = !wordByte c := by
    simp only [wordByte]; cases (byte '0' ≤ c && c ≤ byte '9') <;> simp
  rw [invalidUsername, List.any_eq_false, validUsername]
  cases username.bytes with
  | nil => simp
  | cons b bs => simp [hword]

theorem mem_of_mem_sessionEvents {e : ClientEvent} {trace : List ClientEvent}
    (h : e ∈ sessionEvents trace) : e ∈ trace :=
  List.mem_of_mem_filter h

section Opens

variable {username : CStr} (hu : invalidUsername username = false) {w : World} {cmd : Mem}
include hu

/-- A name `_twopence_invalid_username` accepts, a non-empty command that fits the buffer and
standard input tuned: `__twopence_pipe_command` opens the link. -/
theorem pipeCommand_opensLink {command buffer : Mem} {linux_command : CStr}
    (hc : linux_command.bytes ≠ [])
    (hreq : prepareRequest command (commandText username linux_command) = some cmd)
    (ht : 0 ≤ w.tuneResult) :
    .openLink w.openResult ∈ (pipeCommand command buffer username linux_command w).2.2.2.trace := by
  rw [pipeCommand, hu, if_neg Bool.false_ne_true, if_neg hc, hreq]
  dsimp only
  rw [World.tuneStdin_fst, if_neg (not_lt.mpr ht), World.openLink_fst,
    World.tuneStdin_snd_openResult]
  refine mem_of_mem_sessionEvents ?_
  simp only [apply_ite Prod.snd, apply_ite World.trace, apply_ite sessionEvents,
    sessionEvents_close, sessionEvents_tuneStdin, sessionEvents_sendbuf, sessionEvents_openLink,
    sessionEvents_readResults, World.tuneStdin_snd_openResult,
    apply_ite (fun l => ClientEvent.openLink w.openResult ∈ l)]
  simp

/-- A name `_twopence_invalid_username` accepts and a request that fits the buffer:
`_twopence_inject_virtio_serial` opens the link. -/
theorem injectVirtioSerial_opensLink {st : InjectStack} {remote_filename : CStr}
    (hreq : prepareRequest st.command (injectText username w.stSize remote_filename) = some cmd) :
    .openLink w.openResult ∈ (injectVirtioSerial st username remote_filename w).2.2.trace := by
  rw [injectVirtioSerial, hu, if_neg Bool.false_ne_true, hreq]
  dsimp only
  refine mem_of_mem_sessionEvents ?_
  simp only [apply_ite Prod.snd, apply_ite World.trace, apply_ite sessionEvents,
    sessionEvents_close, sessionEvents_sendbuf, sessionEvents_openLink, trace_readMajor,
    trace_readMinor, sessionEvents_sendFile,
    apply_ite (fun l => ClientEvent.openLink w.openResult ∈ l)]
  simp

/-- A name `_twopence_invalid_username` accepts and a request that fits the buffer:
`_twopence_extract_virtio_serial` opens the link. -/
theorem extractVirtioSerial_opensLink {st : ExtractStack} {remote_filename : CStr}
    (hreq : prepareRequest st.command (extractText username remote_filename) = some cmd) :
    .openLink w.openResult ∈ (extractVirtioSerial st username remote_filename w).2.2.trace := by
  rw [extractVirtioSerial, hu, if_neg Bool.false_ne_true, hreq]
  dsimp only
  refine mem_of_mem_sessionEvents ?_
  simp only [apply_ite Prod.snd, apply_ite World.trace, apply_ite sessionEvents,
    sessionEvents_close, sessionEvents_sendbuf, sessionEvents_openLink, trace_readSize,
    sessionEvents_receiveFile,
    apply_ite (fun l => ClientEvent.openLink w.openResult ∈ l)]
  simp

end Opens

/-- **The empty user name is accepted.** `_twopence_invalid_username` accepts exactly the names
made of `[A-Za-z0-9_]`, and so, besides the valid names, the empty one, which the spec calls
invalid. With it, `__twopence_pipe_command`, `_twopence_inject_virtio_serial` and
`_twopence_extract_virtio_serial` do not return `TWOPENCE_PARAMETER_ERROR` at the check: they open
the link. -/
theorem invalidUsername_accepts_empty :
    (∀ username : CStr, invalidUsername username = false ↔
      validUsername username ∨ username.bytes = []) ∧
    ∀ username : CStr, username.bytes = [] →
      validUsername username = false ∧ invalidUsername username = false ∧
      (∀ (command buffer cmd : Mem) (linux_command : CStr) (w : World),
        linux_command.bytes ≠ [] →
        prepareRequest command (commandText username linux_command) = some cmd →
        0 ≤ w.tuneResult →
        .openLink w.openResult ∈ (pipeCommand command buffer username linux_command w).2.2.2.trace) ∧
      (∀ (st : InjectStack) (remote_filename : CStr) (w : World) (cmd : Mem),
        prepareRequest st.command (injectText username w.stSize remote_filename) = some cmd →
        .openLink w.openResult ∈ (injectVirtioSerial st username remote_filename w).2.2.trace) ∧
      (∀ (st : ExtractStack) (remote_filename : CStr) (w : World) (cmd : Mem),
        prepareRequest st.command (extractText username remote_filename) = some cmd →
        .openLink w.openResult ∈ (extractVirtioSerial st username remote_filename w).2.2.trace) := by
  refine ⟨invalidUsername_eq_false_iff, fun username he => ?_⟩
  have hu : invalidUsername username = false := (invalidUsername_eq_false_iff username).mpr (.inr he)
  refine ⟨by simp [validUsername, he], hu, fun _ _ _ _ _ hc hreq ht => pipeCommand_opensLink hu hc hreq ht,
    fun _ _ _ _ hreq => injectVirtioSerial_opensLink hu hreq,
    fun _ _ _ _ hreq => extractVirtioSerial_opensLink hu hreq⟩

/-- The empty name, the command `ls` and the file name `f`, standard input tuned and the link
opened as descriptor 3: each of the three calls opens the link. -/
theorem invalidUsername_accepts_empty_ls :
    ClientEvent.openLink 3 ∈ (pipeCommand (fun _ => 0) (fun _ => 0) ⟨[], List.not_mem_nil 0⟩
      ⟨[108, 115], by decide⟩ ⟨3, 0, 0, [], [], [], [], [], [], [], []⟩).2.2.2.trace ∧
    ClientEvent.openLink 3 ∈ (injectVirtioSerial ⟨fun _ => 0, fun _ => 0, fun _ => 0, fun _ => 0⟩
      ⟨[], List.not_mem_nil 0⟩ ⟨[102], by decide⟩ ⟨3, 0, 0, [], [], [], [], [], [], [], []⟩).2.2.trace ∧
    ClientEvent.openLink 3 ∈ (extractVirtioSerial ⟨fun _ => 0, fun _ => 0, fun _ => 0, 0⟩
      ⟨[], List.not_mem_nil 0⟩ ⟨[102], by decide⟩ ⟨3, 0, 0, [], [], [], [], [], [], [], []⟩).2.2.trace :=
  have h := (invalidUsername_accepts_empty.2 ⟨[], List.not_mem_nil 0⟩ rfl).2.2
  ⟨h.1 _ _ _ _ _ (by decide) rfl (by decide), h.2.1 _ _ _ _ rfl, h.2.2 _ _ _ _ rfl⟩

/-! ## A command that runs -/

/-- With a valid username, a non-empty command whose request fits the buffer, standard input tuned,
the link opened and a send that takes the request whole, `__twopence_pipe_command` is
`_twopence_read_results` on the world the request left. -/
theorem pipeCommand_sent {command buffer cmd : Mem} {username linux_command : CStr} {w : World}
    {big : Nat} {tx : List SendRound}
    (hu : invalidUsername username = false) (hc : linux_command.bytes ≠ [])
    (hreq : prepareRequest command (commandText username linux_command) = some cmd)
    (ht : 0 ≤ w.tuneResult) (ho : 0 ≤ w.openResult)
    (hbig : (commandText username linux_command).length + 1 ≤ big) (htx : w.tx = .sent big :: tx) :
    pipeCommand command buffer username linux_command w =
      let r := readResults buffer 0 0
        { w with
          tx := tx
          trace := w.trace ++ [.tuneStdin false, .openLink w.openResult,
            .sent (cmd.load 0 ((commandText username linux_command).length + 1))] }
      ((if r.1 < 0 then Error.receiveResults.code else 0), r.2.1, r.2.2.1,
        (r.2.2.2.tuneStdin true).2.close w.openResult) := by
  set L := (commandText username linux_command).length
  have hsend : (w.tuneStdin false).2.openLink.2.sendbuf cmd (L + 1) =
      (((L + 1 : Nat) : Int),
        { w with
          tx := tx
          trace := w.trace ++
            [.tuneStdin false, .openLink w.openResult, .sent (cmd.load 0 (L + 1))] }) := by
    simp only [World.sendbuf, World.openLink, World.tuneStdin, World.record, htx,
      pipeSendbuf_whole L.succ_pos hbig, List.append_assoc, List.singleton_append]
    rfl
  rw [pipeCommand, hu, if_neg Bool.false_ne_true, if_neg hc, hreq]
  dsimp only
  rw [World.tuneStdin_fst, if_neg (not_lt.mpr ht), World.openLink_fst,
    World.tuneStdin_snd_openResult, if_neg (not_lt.mpr ho), hsend]
  simp only [Nat.cast_add, Nat.cast_one, ne_eq, not_true_eq_false, if_false]

/-- A link that answers an extract request with the size 5 and then falls silent. -/
def silentAfterSize : World :=
  ⟨3, 0, 0, [.recv [115, 0, 0, 6, 53, 0]], [.sent commandBufferSize], [], [], [], [], [], []⟩

/-- **A failed transfer leaves the link open.** The server announces five bytes and sends none:
`_twopence_receive_file` fails, and `_twopence_extract_virtio_serial` returns
`TWOPENCE_RECEIVE_FILE_ERROR` with descriptor 3 opened and never closed. -/
theorem extractVirtioSerial_leaks :
    ∃ w', extractVirtioSerial ⟨fun _ => 0, fun _ => 0, fun _ => 0, 0⟩
        ⟨[114, 111, 111, 116], by decide⟩ ⟨[102], by decide⟩ silentAfterSize
        = (Error.receiveFile.code, 0, w') ∧ sessionEvents w'.trace = [.openLink 3] :=
  ⟨_, rfl, rfl⟩

/-! ## The file is sent after any first reply -/

/-- The world of an inject of the one-byte file `"x"` whose link answers with `reply`. -/
def injectWorld (reply : List RecvRound) : World :=
  ⟨3, 0, 1, reply, [.sent commandBufferSize, .sent bufferSize], [], [], [.data [120]], [], [], []⟩

/-- **The first reply is not checked.** `_twopence_inject_virtio_serial` ignores what
`_twopence_read_major` returns and tests only `*remote_rc`, which stays 0 unless an `'M'` frame
carries a number. So after a first reply that is a minor status, no reply at all, or a major
status with no number, it sends the file's `'d'` frame. -/
theorem injectVirtioSerial_unchecked_major :
    [[RecvRound.recv [109, 0, 0, 6, 48, 0]], [], [.recv [77, 0, 0, 6, 120, 0]]].Forall fun reply =>
      ClientEvent.sent [100, 0, 0, 5, 120] ∈
        (injectVirtioSerial ⟨fun _ => 0, fun _ => 0, fun _ => 0, fun _ => 0⟩
          ⟨[114, 111, 111, 116], by decide⟩ ⟨[102], by decide⟩ (injectWorld reply)).2.2.trace := by
  decide

end Twopence
