import Twopence.Encode

/-!
# The client's view of the link

The functions of `protocol.c` that read the server's replies: `__twopence_pipe_recvbuf_both`,
`_twopence_read_results`, `_twopence_read_major`, `_twopence_read_minor` and
`_twopence_read_size`, with the operations of the world they call into.

## The world

Everything outside the client's own variables that these functions read or change is a `World`:
the rounds of the link's receive and send loops (as in `Twopence.Link`), the outcomes of the
`poll` in `__twopence_pipe_recvbuf_both`, what `read` returns on standard input and on the local
file, what `write` returns, whether the output sink takes each byte, and the descriptors the link
plug-in opens. Each is a list consumed one call at a time, so that a theorem over all worlds holds
for every schedule of the operating system and every peer. What the client does that outlives the
call — bytes put on the link, output, descriptors opened and closed, the mode of standard input —
is recorded in `World.trace`.

## Stack buffers

Each C function works in a `char buffer[BUFFER_SIZE]` on its own stack frame, which it does not
clear. The model takes the buffer's contents on entry as an argument: whatever an earlier call
left there. `_twopence_read_results` keeps one buffer for all the frames of a command.

## `sscanf`

`sscanf(buffer + 4, "%d", &v)` reads a C string: it skips white space, takes a sign and a run of
digits, and stops at the first other byte. The frame's payload is not terminated by the protocol,
so the digits may run on into bytes the frame did not write. `sscanfInt` reads at most to the end
of the buffer; past it, C reads other memory. C leaves a conversion that overflows the `int`
undefined; glibc's `%d` converts the digits with `strtol`, which saturates at the range of a
64-bit `long`, and assigns that `long` to the `int`, which keeps its low 32 bits (`scannedInt`).
-/

namespace Twopence

/-- One `poll` in `__twopence_pipe_recvbuf_both`. -/
inductive BothPoll
  /-- `poll` failed; `eintr` says whether `errno` is `EINTR`. -/
  | error (eintr : Bool)
  /-- `poll` timed out. -/
  | timeout
  /-- `poll` returned; `link` and `stdin` say which descriptors report `POLLIN`. -/
  | ready (link stdin : Bool)
  deriving DecidableEq, Repr

/-- What one `read` on a local descriptor returns. -/
inductive FileRead
  /-- `-1`; `eintr` says whether `errno` is `EINTR`. -/
  | error (eintr : Bool)
  /-- The bytes read (the call returns no more than it was asked for); `[]` is end of file. -/
  | data (chunk : List UInt8)
  deriving DecidableEq, Repr

/-- What the client does that outlives the call. -/
inductive ClientEvent
  /-- `link_ops->open` returned `fd`. -/
  | openLink (fd : Int)
  /-- `close(fd)`. -/
  | close (fd : Int)
  /-- `twopence_tune_stdin(blocking)`. -/
  | tuneStdin (blocking : Bool)
  /-- One `__twopence_pipe_sendbuf` call put `bytes` on the link. -/
  | sent (bytes : List UInt8)
  /-- The sink took a byte of standard output. -/
  | stdout (c : UInt8)
  /-- The sink took a byte of standard error. -/
  | stderr (c : UInt8)
  /-- `write` on the local file took `bytes`. -/
  | fileWrite (bytes : List UInt8)
  deriving DecidableEq, Repr

/-- Everything outside the client that its calls read or change. -/
structure World where
  /-- What `link_ops->open` returns. -/
  openResult : Int
  /-- What `twopence_tune_stdin` returns. -/
  tuneResult : Int
  /-- `st_size` as `fstat` reports it for the local file. -/
  stSize : Int
  /-- The rounds of `__twopence_pipe_recvbuf`. -/
  rx : List RecvRound
  /-- The rounds of `__twopence_pipe_sendbuf`. -/
  tx : List SendRound
  /-- The outcomes of the `poll` in `__twopence_pipe_recvbuf_both`. -/
  polls : List BothPoll
  /-- What `read` on standard input returns; end of file once these are used up. -/
  stdin : List FileRead
  /-- What `read` on the local file returns; end of file once these are used up. -/
  fileIn : List FileRead
  /-- What `write` on the local file returns; every byte is taken once these are used up. -/
  fileOut : List Int
  /-- Whether the sink takes each byte; every byte is taken once these are used up. -/
  sink : List Bool
  /-- What the client did, in order. -/
  trace : List ClientEvent
  deriving Repr

namespace World

/-- Record an event. -/
def record (w : World) (e : ClientEvent) : World := { w with trace := w.trace ++ [e] }

/-- `__twopence_pipe_open_link`. -/
def openLink (w : World) : Int × World := (w.openResult, w.record (.openLink w.openResult))

/-- `close(fd)`. -/
def close (w : World) (fd : Int) : World := w.record (.close fd)

/-- `twopence_tune_stdin(blocking)`. -/
def tuneStdin (w : World) (blocking : Bool) : Int × World :=
  (w.tuneResult, w.record (.tuneStdin blocking))

@[simp] theorem record_openResult (w : World) (e : ClientEvent) :
    (w.record e).openResult = w.openResult := rfl

@[simp] theorem record_tuneResult (w : World) (e : ClientEvent) :
    (w.record e).tuneResult = w.tuneResult := rfl

@[simp] theorem openLink_fst (w : World) : w.openLink.1 = w.openResult := rfl

@[simp] theorem openLink_snd_openResult (w : World) : w.openLink.2.openResult = w.openResult := rfl

@[simp] theorem tuneStdin_fst (w : World) (blocking : Bool) :
    (w.tuneStdin blocking).1 = w.tuneResult := rfl

@[simp] theorem tuneStdin_snd_openResult (w : World) (blocking : Bool) :
    (w.tuneStdin blocking).2.openResult = w.openResult := rfl

/-- `__twopence_pipe_read_frame(handle, link_fd, buffer, sizeof(buffer))`. -/
def readFrame (w : World) (buffer : Mem) : Int × Mem × World :=
  let r := pipeReadFrame bufferSize buffer w.rx
  (r.rc, r.mem, { w with rx := r.rest })

/-- `__twopence_pipe_sendbuf(handle, link_fd, buffer, count)`. -/
def sendbuf (w : World) (buffer : Mem) (count : Nat) : Int × World :=
  let r := pipeSendbuf 0 count buffer 0 w.tx
  (r.rc, { w with tx := r.rest, trace := w.trace ++ [.sent r.wire] })

/-- Modelled from the spec: `__twopence_sink_write_stdout` and `__twopence_sink_write_stderr`
return `0` when the sink takes the byte and `-1` when it refuses it. -/
def sinkWrite (w : World) (e : ClientEvent) : Bool × World :=
  match w.sink with
  | [] => (true, w.record e)
  | ok :: rest => (ok, if ok then { w with sink := rest }.record e else { w with sink := rest })

/-- `__twopence_pipe_output`. -/
def pipeOutput (w : World) (c : UInt8) : Bool × World := w.sinkWrite (.stdout c)

/-- `__twopence_pipe_error`. -/
def pipeError (w : World) (c : UInt8) : Bool × World := w.sinkWrite (.stderr c)

/-- The loop `for (p = buffer + 4; received > 4; received--)` of `_twopence_read_results`, which
hands each payload byte to `__twopence_pipe_output` (or `__twopence_pipe_error`) and stops at the
first the sink refuses. -/
def outputLoop (toStderr : Bool) : List UInt8 → World → Bool × World
  | [], w => (true, w)
  | c :: cs, w =>
    let r := if toStderr then w.pipeError c else w.pipeOutput c
    if r.1 then outputLoop toStderr cs r.2 else (false, r.2)

/-- `w'` differs from `w` at most in what the client sent, output and wrote: the rounds of the
link's receive loop, the `poll` outcomes and the reads of the local file are still those of
`w`. -/
structure KeepsInput (w w' : World) : Prop where
  /-- The receive rounds. -/
  rx : w'.rx = w.rx
  /-- The `poll` outcomes. -/
  polls : w'.polls = w.polls
  /-- The reads of the local file. -/
  fileIn : w'.fileIn = w.fileIn

namespace KeepsInput

theorem refl (w : World) : KeepsInput w w := ⟨rfl, rfl, rfl⟩

theorem trans {w₁ w₂ w₃ : World} (h₁ : KeepsInput w₁ w₂) (h₂ : KeepsInput w₂ w₃) :
    KeepsInput w₁ w₃ :=
  ⟨h₂.rx.trans h₁.rx, h₂.polls.trans h₁.polls, h₂.fileIn.trans h₁.fileIn⟩

end KeepsInput

theorem keepsInput_record (w : World) (e : ClientEvent) : KeepsInput w (w.record e) :=
  ⟨rfl, rfl, rfl⟩

theorem keepsInput_sendbuf (w : World) (buffer : Mem) (count : Nat) :
    KeepsInput w (w.sendbuf buffer count).2 :=
  ⟨rfl, rfl, rfl⟩

theorem keepsInput_sinkWrite (w : World) (e : ClientEvent) : KeepsInput w (w.sinkWrite e).2 := by
  unfold sinkWrite; split
  · exact ⟨rfl, rfl, rfl⟩
  · split <;> exact ⟨rfl, rfl, rfl⟩

theorem keepsInput_pipeOutput (w : World) (c : UInt8) : KeepsInput w (w.pipeOutput c).2 :=
  keepsInput_sinkWrite w _

theorem keepsInput_outputLoop (toStderr : Bool) :
    ∀ (bytes : List UInt8) (w : World), KeepsInput w (outputLoop toStderr bytes w).2
  | [], w => .refl w
  | c :: cs, w => by
    have hr : KeepsInput w (if toStderr then w.pipeError c else w.pipeOutput c).2 := by
      split <;> exact keepsInput_sinkWrite w _
    rw [outputLoop]
    generalize (if toStderr then w.pipeError c else w.pipeOutput c) = r at hr ⊢
    split
    · exact hr.trans (keepsInput_outputLoop toStderr cs r.2)
    · exact hr

end World

/-! ## `sscanf` -/

/-- `isspace` in the "C" locale. -/
def isSpace (c : UInt8) : Bool := c == 32 || (9 ≤ c && c ≤ 13)

/-- `isdigit`. -/
def isDigit (c : UInt8) : Bool := 48 ≤ c && c ≤ 57

/-- The white space `sscanf` skips: the position of the first other byte from `pos` on, looking
at most `n` bytes ahead. -/
def skipSpace (mem : Mem) : Nat → Nat → Nat
  | 0, pos => pos
  | n + 1, pos => if isSpace (mem pos) then skipSpace mem n (pos + 1) else pos

/-- The run of at most `n` digits at `pos`: its value, accumulated onto `acc`, and its length. -/
def scanDigits (mem : Mem) : Nat → Nat → Nat → Nat × Nat
  | 0, _, acc => (acc, 0)
  | n + 1, pos, acc =>
    if isDigit (mem pos) then
      let r := scanDigits mem n (pos + 1) (acc * 10 + ((mem pos).toNat - 48))
      (r.1, r.2 + 1)
    else (acc, 0)

/-- The `int` C stores when it assigns a wider signed integer, a `long` or an `off_t`, to an
`int`: gcc keeps the value modulo `2 ^ 32` and reads it in two's complement. -/
def intOfLong (v : Int) : Int :=
  if v % 2 ^ 32 < 2 ^ 31 then v % 2 ^ 32 else v % 2 ^ 32 - 2 ^ 32

/-- The `int` that `%d` stores for the number `v` its digits spell: glibc converts them with
`strtol`, which returns `LONG_MIN` or `LONG_MAX` for a number out of the range of a 64-bit
`long`, and assigns that `long` to the `int`. -/
def scannedInt (v : Int) : Int := intOfLong (max (-2 ^ 63) (min v (2 ^ 63 - 1)))

/-- An assignment within the range of an `int` keeps the value. -/
theorem intOfLong_of_lt {v : Int} (h₀ : -2 ^ 31 ≤ v) (h : v < 2 ^ 31) : intOfLong v = v := by
  unfold intOfLong; split <;> omega

/-- `%d` stores a number within the range of an `int` as it is. -/
theorem scannedInt_of_lt {v : Int} (h₀ : -2 ^ 31 ≤ v) (h : v < 2 ^ 31) : scannedInt v = v := by
  rw [scannedInt, min_eq_left (by omega), max_eq_right (by omega), intOfLong_of_lt h₀ h]

/-- Past the range: `2 ^ 32 + 1` and `2 ^ 32` keep their low 32 bits, and `10 ^ 20` saturates to
`LONG_MAX`, whose low 32 bits are `-1`. -/
example : scannedInt 4294967297 = 1 ∧ scannedInt 4294967296 = 0 ∧ scannedInt (10 ^ 20) = -1 := by
  decide

/-- `sscanf(buffer + pos, "%d", &value)` in a `BUFFER_SIZE` buffer: white space, an optional sign
and at least one digit, read no further than the end of the buffer. `none` is a failed
conversion, which leaves `value` as it was; otherwise `value` is the `int` glibc stores for the
digits. -/
def sscanfInt (buffer : Mem) (pos : Nat) : Option Int :=
  let p := skipSpace buffer (bufferSize - pos) pos
  let neg := buffer p == byte '-'
  let q := if neg || buffer p == byte '+' then p + 1 else p
  let r := scanDigits buffer (bufferSize - q) q 0
  if r.2 = 0 then none else some (scannedInt (if neg then -(r.1 : Int) else r.1))

/-! ## Reading replies -/

/-- `__twopence_pipe_recvbuf_both(handle, link_fd, stdin_fd, buffer, size)` from the given `poll`
outcomes; `stdinOpen` is `stdin_fd >= 0`. As soon as the link reports input the whole frame is
read. The branch for standard input tests `pfd[0]`, the link, a second time, after the branch
before it has returned for every poll in which the link reported input. -/
def pipeRecvbufBoth (stdinOpen : Bool) (size : Nat) (buffer : Mem) (w : World) :
    List BothPoll → Int × Mem × World
  | [] => (Error.protocol.code, buffer, { w with polls := [] })
  | .error eintr :: polls =>
    if eintr then pipeRecvbufBoth stdinOpen size buffer w polls
    else (Error.protocol.code, buffer, { w with polls := polls })
  | .timeout :: polls => (Error.protocol.code, buffer, { w with polls := polls })
  | .ready link _ :: polls =>
    if link then
      let r := w.readFrame buffer
      (r.1, r.2.1, { r.2.2 with polls := polls })
    else if stdinOpen && link then
      match w.stdin with
      | .error eintr :: rest =>
        if eintr then pipeRecvbufBoth stdinOpen size buffer { w with stdin := rest } polls
        else (-1, buffer, { w with stdin := rest, polls := polls })
      | .data chunk :: rest =>
        let chunk := chunk.take (size - 4)
        (chunk.length + 4, stdinFrame buffer chunk, { w with stdin := rest, polls := polls })
      | [] => (4, stdinFrame buffer [], { w with polls := polls })
    else pipeRecvbufBoth stdinOpen size buffer w polls

/-- The `switch (buffer[0])` of `_twopence_read_results`, on the frame just read, in `state` 0
(results), 1 (major received) or 2 (minor received), with `stdinOpen` for `stdin_fd >= 0` and the
values of `*major` and `*minor`. It returns from the function with a code (`.error`), or goes on
with the loop's next state (`.ok`). -/
def resultsSwitch (state : Nat) (stdinOpen : Bool) (major minor : Int) (buffer : Mem) (w : World) :
    Except (Int × World) (Nat × Bool × Int × Int × World) :=
  let received := computeLength buffer
  let type := buffer 0
  if type = byte 'E' ∨ type = byte '0' then
    if state ≠ 0 then .error (Error.forwardInput.code, w)
    else
      let s := w.sendbuf buffer received
      if s.1 < 0 then .error (Error.forwardInput.code, s.2)
      else .ok (state, stdinOpen && type ≠ byte 'E', major, minor, s.2)
  else if type = byte '1' ∨ type = byte '2' then
    if state ≠ 0 then .error (Error.receiveResults.code, w)
    else
      let o := World.outputLoop (type = byte '2') (buffer.load 4 (received - 4)) w
      if o.1 then .ok (state, stdinOpen, major, minor, o.2)
      else .error (Error.receiveResults.code, o.2)
  else if type = byte 'M' then
    if state ≠ 0 then .error (Error.receiveResults.code, w)
    else .ok (1, stdinOpen, (sscanfInt buffer 4).getD major, minor, w)
  else if type = byte 'm' then
    if state ≠ 1 then .error (Error.receiveResults.code, w)
    else .ok (2, stdinOpen, major, (sscanfInt buffer 4).getD minor, w)
  else .error (Error.receiveResults.code, w)

/-- What the switch does to the world: nothing, one send of the buffer, or the output of bytes
to the sink. So the world it leaves has every property that these three have. -/
theorem resultsSwitch_world {P : World → Prop} (state : Nat) (stdinOpen : Bool)
    (major minor : Int) (buffer : Mem) {w : World} (hw : P w)
    (hsend : P (w.sendbuf buffer (computeLength buffer)).2)
    (hout : ∀ toStderr bytes, P (World.outputLoop toStderr bytes w).2) :
    match resultsSwitch state stdinOpen major minor buffer w with
    | .error r => P r.2
    | .ok r => P r.2.2.2.2 := by
  unfold resultsSwitch
  dsimp only
  by_cases h₁ : buffer 0 = byte 'E' ∨ buffer 0 = byte '0'
  · rw [if_pos h₁]; split_ifs <;> first | exact hw | exact hsend
  rw [if_neg h₁]
  by_cases h₂ : buffer 0 = byte '1' ∨ buffer 0 = byte '2'
  · rw [if_pos h₂]; split_ifs <;> first | exact hw | exact hout _ _
  rw [if_neg h₂]
  split_ifs <;> exact hw

/-- The loop `while (state != 2)` of `_twopence_read_results`: read a frame from the link (or
standard input), then take it through `resultsSwitch`. Each turn takes at least one `poll`
outcome, so `readResults` gives the loop one turn more than there are outcomes; the turn that
would come after that finds the outcomes used up, as the loop does. -/
def readResultsLoop : Nat → Nat → Bool → Int → Int → Mem → World → Int × Int × Int × World
  | 0, state, _, major, minor, _, w =>
    (if state = 2 then 0 else Error.receiveResults.code, major, minor, w)
  | fuel + 1, state, stdinOpen, major, minor, buffer, w =>
    if state = 2 then (0, major, minor, w)
    else
      let r := pipeRecvbufBoth stdinOpen bufferSize buffer w w.polls
      if r.1 ≠ 0 then (Error.receiveResults.code, major, minor, r.2.2)
      else
        match resultsSwitch state stdinOpen major minor r.2.1 r.2.2 with
        | .error (rc, w) => (rc, major, minor, w)
        | .ok (state, stdinOpen, major, minor, w) =>
          readResultsLoop fuel state stdinOpen major minor r.2.1 w

/-- `_twopence_read_results(handle, link_fd, major, minor)`: the return value and the final
`*major` and `*minor`. Standard input is polled from the start (`stdin_fd = 0`). -/
def readResults (buffer : Mem) (major minor : Int) (w : World) : Int × Int × Int × World :=
  readResultsLoop (w.polls.length + 1) 0 true major minor buffer w

/-- `_twopence_read_major` and `_twopence_read_minor`: one frame, which must have the given type;
the number `sscanf` finds in it, if any, is the new value of the out-parameter. -/
def readStatus (type : UInt8) (w : World) (buffer : Mem) (value : Int) : Int × Int × World :=
  let r := w.readFrame buffer
  if r.1 ≠ 0 then (Error.receiveFile.code, value, r.2.2)
  else if r.2.1 0 ≠ type then (Error.receiveFile.code, value, r.2.2)
  else (0, (sscanfInt r.2.1 4).getD value, r.2.2)

/-- `_twopence_read_major`. -/
def readMajor (w : World) (buffer : Mem) (major : Int) : Int × Int × World :=
  readStatus (byte 'M') w buffer major

/-- `_twopence_read_minor`. -/
def readMinor (w : World) (buffer : Mem) (minor : Int) : Int × Int × World :=
  readStatus (byte 'm') w buffer minor

/-- `_twopence_read_size`: an `'s'` frame sets `*size`, an `'M'` frame `*remote_rc`. -/
def readSize (w : World) (buffer : Mem) (size remote_rc : Int) : Int × Int × Int × World :=
  let r := w.readFrame buffer
  if r.1 ≠ 0 then (Error.receiveFile.code, size, remote_rc, r.2.2)
  else if r.2.1 0 = byte 's' then (0, (sscanfInt r.2.1 4).getD size, remote_rc, r.2.2)
  else if r.2.1 0 = byte 'M' then (0, size, (sscanfInt r.2.1 4).getD remote_rc, r.2.2)
  else (Error.receiveFile.code, size, remote_rc, r.2.2)

end Twopence
