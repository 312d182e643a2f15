import Twopence.RoundTrip
import Twopence.Decimal

/-!
# The public interface

`twopence_pipe_test_and_*`, `twopence_pipe_inject_file` and `twopence_pipe_extract_file` are what
a program calls through `struct twopence_target`. Each sets up the sink, opens the local file where
there is one, calls the layer below and turns what it returns into one code. This module models
them over that layer and follows whole calls through every layer down to the link: a command whose
server answers with status frames carrying numbers, a file the server sends, and a file sent to
it.

## What is deliberately absent

`twopence_sink_init` and `twopence_sink_init_none` choose where the sink puts the bytes; whether
it takes each one is the oracle `World.sink`. So `twopence_pipe_test_and_print_results` and
`twopence_pipe_test_and_drop_results` are `pipeCommand` itself, and
`twopence_pipe_interrupt_command` and `twopence_pipe_exit_remote` are `interruptVirtioSerial` and
`exitVirtioSerial`. `twopence_pipe_end` frees the handle, which no model holds.

## The local file

`open` and `creat` are not run: their outcome is a parameter, a descriptor or a failure that says
whether `errno` was `ENAMETOOLONG` (`LocalOpen`). What reads and writes of the file then return is
the world's, as for `_twopence_send_file` and `_twopence_receive_file`.

## Main definitions

* `testAndStoreResultsTogether`, `testAndStoreResultsSeparately` — a command, and the final NULs
* `transferFile` — the body the two file wrappers share
* `injectFile`, `extractFile`

## Main results

* `testAndStoreResults_status` — a command the server runs: both store wrappers return 0 and the
  `int`s `%d` stores for the status values the server sent, and their final NULs come last
* `extractFile_frames` — a file the server sends arrives whole, and both descriptors are closed
* `injectFile_regularFile` — a regular file goes out as data frames carrying its chunks, and the
  minor status decides the code
* `injectFile_refused` — a major status other than 0 stops the call before the file is read
-/

namespace Twopence

/-! ## Storing the results -/

/-- `twopence_pipe_test_and_store_results_together`: run the command and, when that returns 0,
store the final NUL through `__twopence_pipe_output`. The sink is the buffer `buffer_out`. -/
def testAndStoreResultsTogether (command buffer : Mem) (username linux_command : CStr)
    (w : World) : Int × Int × Int × World :=
  let r := pipeCommand command buffer username linux_command w
  if r.1 = 0 then
    let o := r.2.2.2.pipeOutput 0
    ((if o.1 then r.1 else Error.receiveResults.code), r.2.1, r.2.2.1, o.2)
  else r

/-- `twopence_pipe_test_and_store_results_separately`: the same with two buffers, and a final NUL
for each; the second is stored only when the first was. -/
def testAndStoreResultsSeparately (command buffer : Mem) (username linux_command : CStr)
    (w : World) : Int × Int × Int × World :=
  let r := pipeCommand command buffer username linux_command w
  if r.1 = 0 then
    let o := r.2.2.2.pipeOutput 0
    if o.1 then
      let e := o.2.pipeError 0
      ((if e.1 then r.1 else Error.receiveResults.code), r.2.1, r.2.2.1, e.2)
    else (Error.receiveResults.code, r.2.1, r.2.2.1, o.2)
  else r

/-- **The status values.** After the frames `pre`, a major and then a minor status carrying numbers
in decimal with a NUL make `_twopence_read_results` return 0 and the `int`s `%d` stores for those
two numbers, whatever its buffer held on entry. -/
theorem readResults_status (buffer : Mem) (major minor : Int) {w : World}
    {pre : List (List UInt8)} {n m : Nat}
    (hpre : ∀ f ∈ pre, WellFormed bufferSize f ∧ isResultData (f.headD 0))
    (hw : Cooperative (pre.length + (n + 2)) (m + echoes pre) w) {fM fm s : List UInt8}
    {vM vm : Int} (hM : WellFormed bufferSize fM) (hM₀ : fM.headD 0 = byte 'M')
    (hMv : fM.drop 4 = formatLong vM ++ [0]) (hm : WellFormed bufferSize fm)
    (hm₀ : fm.headD 0 = byte 'm') (hmv : fm.drop 4 = formatLong vm ++ [0])
    (hd : Delivers w.rx (pre.flatten ++ fM ++ fm ++ s)) :
    ∃ w', readResults buffer major minor w = (0, scannedInt vM, scannedInt vm, w') ∧
      w'.trace = w.trace ++ pre.flatMap resultEvents ∧ Delivers w'.rx s ∧ w'.sink = [] := by
  obtain ⟨so, buf, w₁, h, hw₁, hd₁, htr⟩ :=
    readResults_after_pre buffer major minor hpre hw (by simpa only [List.append_assoc] using hd)
  obtain ⟨buf₂, rx₂, hd₂, hb₂, h₂⟩ := readResultsLoop_frame (n + 2) so major minor buf
    (show (0 : Nat) ≠ 2 by decide) hw₁.polls hM hd₁
  obtain ⟨ht₂, hv₂⟩ := sscanfInt_frame hM hMv hb₂
  obtain ⟨buf₃, rx₃, hd₃, hb₃, h₃⟩ := readResultsLoop_frame (n + 1) so (scannedInt vM) minor buf₂
    (w := { w₁ with rx := rx₂, polls := List.replicate (n + 1) (.ready true false) })
    (show (1 : Nat) ≠ 2 by decide) rfl hm hd₂
  obtain ⟨ht₃, hv₃⟩ := sscanfInt_frame hm hmv hb₃
  simp only [resultsSwitch_major _ _ _ (ht₂.trans hM₀), hv₂, Option.getD_some] at h₂
  simp only [resultsSwitch_minor _ _ _ (ht₃.trans hm₀), hv₃, Option.getD_some,
    readResultsLoop_done] at h₃
  rw [h, h₂, h₃]
  exact ⟨_, rfl, htr, hd₃, hw₁.sink⟩

/-- **A command the server runs.** A valid username and a non-empty command whose request fits
the buffer, standard input tuned and the link opened, a link that takes the request in one send
and then delivers result frames `pre` of types `'0'`, `'E'`, `'1'` and `'2'`, a major status
`vM` and a minor status `vm` in decimal with a NUL, with the polls, sends and sink of
`readResults_language`. Both `twopence_pipe_test_and_store_results_together` and
`twopence_pipe_test_and_store_results_separately` return 0 with the `int`s `%d` stores for `vM`
and `vm` as major and minor, which are `vM` and `vm` within the range of an `int`. Their
traces are the command's: the request, what `pre` made, standard input tuned back and the link
closed; and after them the final NUL, one for standard output and, for the second, one for
standard error. -/
theorem testAndStoreResults_status {command buffer cmd : Mem} {username linux_command : CStr}
    {w : World} {pre : List (List UInt8)} {n m big : Nat} {fM fm s : List UInt8} {vM vm : Int}
    (hu : invalidUsername username = false) (hc : linux_command.bytes ≠ [])
    (hreq : prepareRequest command (commandText username linux_command) = some cmd)
    (ht : 0 ≤ w.tuneResult) (ho : 0 ≤ w.openResult)
    (hbig : (commandText username linux_command).length + 1 ≤ big)
    (htx : w.tx = .sent big :: List.replicate (m + echoes pre) (.sent bufferSize))
    (hpolls : w.polls = List.replicate (pre.length + (n + 2)) (.ready true false))
    (hsink : w.sink = [])
    (hpre : ∀ f ∈ pre, WellFormed bufferSize f ∧ isResultData (f.headD 0))
    (hM : WellFormed bufferSize fM) (hM₀ : fM.headD 0 = byte 'M')
    (hMv : fM.drop 4 = formatLong vM ++ [0])
    (hm : WellFormed bufferSize fm) (hm₀ : fm.headD 0 = byte 'm')
    (hmv : fm.drop 4 = formatLong vm ++ [0])
    (hd : Delivers w.rx (pre.flatten ++ fM ++ fm ++ s)) :
    (∃ w', testAndStoreResultsTogether command buffer username linux_command w =
        (0, scannedInt vM, scannedInt vm, w') ∧
      w'.trace = w.trace ++ [.tuneStdin false, .openLink w.openResult,
        .sent (cmd.load 0 ((commandText username linux_command).length + 1))] ++
        pre.flatMap resultEvents ++ [.tuneStdin true, .close w.openResult, .stdout 0]) ∧
    ∃ w', testAndStoreResultsSeparately command buffer username linux_command w =
        (0, scannedInt vM, scannedInt vm, w') ∧
      w'.trace = w.trace ++ [.tuneStdin false, .openLink w.openResult,
        .sent (cmd.load 0 ((commandText username linux_command).length + 1))] ++
        pre.flatMap resultEvents ++
        [.tuneStdin true, .close w.openResult, .stdout 0, .stderr 0] := by
  set w₁ : World :=
    { w with
      tx := List.replicate (m + echoes pre) (.sent bufferSize)
      trace := w.trace ++ [.tuneStdin false, .openLink w.openResult,
        .sent (cmd.load 0 ((commandText username linux_command).length + 1))] }
  obtain ⟨w', hr, htr, -, hsink'⟩ :=
    readResults_status buffer 0 0 (w := w₁) hpre ⟨hpolls, rfl, hsink⟩ hM hM₀ hMv hm hm₀ hmv hd
  have hcmd : pipeCommand command buffer username linux_command w = _ :=
    pipeCommand_sent hu hc hreq ht ho hbig htx
  simp only [w₁] at hr
  simp only [hr, lt_irrefl, if_false] at hcmd
  rw [testAndStoreResultsTogether, testAndStoreResultsSeparately, hcmd]
  simp [World.pipeOutput, World.pipeError, World.sinkWrite, World.tuneStdin, World.close,
    World.record, hsink', htr, w₁]

/-- The user name `root`. -/
def rootName : CStr := ⟨[114, 111, 111, 116], by decide⟩

/-- The command `ls`. -/
def lsCommand : CStr := ⟨[108, 115], by decide⟩

/-- The file name `f`. -/
def fName : CStr := ⟨[102], by decide⟩

/-- A link that takes the request whole and answers with the major status 0 and the minor status
2, with input at both polls. -/
def statusReply : World :=
  ⟨3, 0, 0, [.recv [77, 0, 0, 6, 48, 0, 109, 0, 0, 6, 50, 0]], [.sent 100],
    [.ready true false, .ready true false], [], [], [], [], []⟩

/-- `ls` for `root`, answered with major 0 and minor 2. -/
theorem testAndStoreResults_status_ls :
    ∃ cmd, prepareRequest (fun _ => 0) (commandText rootName lsCommand) = some cmd ∧
      (∃ w', testAndStoreResultsTogether (fun _ => 0) (fun _ => 0) rootName lsCommand
          statusReply = (0, 0, 2, w') ∧
        w'.trace = statusReply.trace ++ [.tuneStdin false, .openLink statusReply.openResult,
          .sent (cmd.load 0 ((commandText rootName lsCommand).length + 1))] ++
          ([] : List (List UInt8)).flatMap resultEvents ++
          [.tuneStdin true, .close statusReply.openResult, .stdout 0]) ∧
      ∃ w', testAndStoreResultsSeparately (fun _ => 0) (fun _ => 0) rootName lsCommand
          statusReply = (0, 0, 2, w') ∧
        w'.trace = statusReply.trace ++ [.tuneStdin false, .openLink statusReply.openResult,
          .sent (cmd.load 0 ((commandText rootName lsCommand).length + 1))] ++
          ([] : List (List UInt8)).flatMap resultEvents ++
          [.tuneStdin true, .close statusReply.openResult, .stdout 0, .stderr 0] :=
  ⟨_, rfl, @testAndStoreResults_status _ _ _ _ _ _ [] 0 0 _ [77, 0, 0, 6, 48, 0]
    [109, 0, 0, 6, 50, 0] [] 0 2 rfl (by decide) rfl (by decide)
    (by decide) (by decide) rfl rfl rfl (by simp) (by decide) rfl (by decide) (by decide) rfl
    (by decide) (.cons (by decide) .nil)⟩

/-! ## Files -/

/-- What `open` (or `creat`) on the local file returned. -/
inductive LocalOpen
  /-- A descriptor. -/
  | opened (fd : Int)
  /-- `-1`, with `errno` `ENAMETOOLONG` or another. -/
  | failed (nameTooLong : Bool)
  deriving DecidableEq, Repr

/-- The body `twopence_pipe_inject_file` and `twopence_pipe_extract_file` share around the call
`transfer` of the layer below, which returns its code, `*remote_rc` and the world: a remote
failure reported with a 0 code becomes `TWOPENCE_REMOTE_FILE_ERROR`, and the local file is closed
after the call. When the file did not open, `*remote_rc` is left as it was. -/
def transferFile (transfer : World → Int × Int × World) (file : LocalOpen) (remote_rc : Int)
    (w : World) : Int × Int × World :=
  match file with
  | .failed nameTooLong =>
    ((if nameTooLong then Error.parameter.code else Error.localFile.code), remote_rc, w)
  | .opened fd =>
    let r := transfer w
    ((if r.1 = 0 ∧ r.2.1 ≠ 0 then Error.remoteFile.code else r.1), r.2.1, r.2.2.close fd)

/-- `twopence_pipe_inject_file(handle, username, local_filename, remote_filename, remote_rc,
dots)`, with `file` what `open(local_filename, O_RDONLY)` returned. -/
def injectFile (st : InjectStack) (username : CStr) (file : LocalOpen) (remote_filename : CStr)
    (remote_rc : Int) (w : World) : Int × Int × World :=
  transferFile (injectVirtioSerial st username remote_filename) file remote_rc w

/-- `twopence_pipe_extract_file(handle, username, remote_filename, local_filename, remote_rc,
dots)`, with `file` what `creat(local_filename, 00660)` returned. -/
def extractFile (st : ExtractStack) (username remote_filename : CStr) (file : LocalOpen)
    (remote_rc : Int) (w : World) : Int × Int × World :=
  transferFile (extractVirtioSerial st username remote_filename) file remote_rc w

theorem transferFile_opened {transfer : World → Int × Int × World} {fd remote_rc rc : Int}
    {w w₁ : World} (h : transfer w = (0, rc, w₁)) :
    transferFile transfer (.opened fd) remote_rc w =
      ((if rc = 0 then 0 else Error.remoteFile.code), rc, w₁.close fd) := by
  by_cases hrc : rc = 0 <;> simp [transferFile, h, hrc]

/-! ## The request -/

section Request

variable {w : World} {cmd : Mem} {L big : Nat} {tx : List SendRound}

/-- A link that opens and takes the request in one send: the request goes out whole. -/
theorem openLink_sendbuf (hbig : L + 1 ≤ big) (htx : w.tx = .sent big :: tx) :
    w.openLink.2.sendbuf cmd (L + 1) =
      (((L + 1 : Nat) : Int),
        { w with
          tx := tx
          trace := w.trace ++ [.openLink w.openResult, .sent (cmd.load 0 (L + 1))] }) := by
  simp only [World.sendbuf, World.openLink, World.record, htx, pipeSendbuf_whole L.succ_pos hbig,
    List.append_assoc, List.singleton_append]

theorem close_rx (fd : Int) : (w.close fd).rx = w.rx := rfl

theorem close_trace (fd : Int) : (w.close fd).trace = w.trace ++ [.close fd] := rfl

/-- Two closes end the trace. -/
theorem closes_suffix (fd₁ fd₂ : Int) :
    [.close fd₁, .close fd₂] <:+ ((w.close fd₁).close fd₂).trace :=
  ⟨w.trace, by rw [close_trace, close_trace, List.append_assoc]; rfl⟩

end Request

/-! ## Extracting a file -/

/-- **A file the server sends arrives whole.** Take a valid username and a request that fits its
buffer, a link that opens and takes the request in one send, and a server that answers with a
size frame carrying, in decimal and with a NUL, the total length of the data frames it then sends,
below `2 ^ 31` so that the `int` `%d` stores for it is the length itself. However the link cuts
those bytes into `recv` results, and whatever the stack buffers held, if the
local file opened and takes every write, `twopence_pipe_extract_file` returns 0 with remote code
0. The local file then holds the frames' payloads in order, the link has nothing left of the reply,
nothing but the request went out, and the link and then the local file were closed last. -/
theorem extractFile_frames {st : ExtractStack} {username remote_filename : CStr}
    {fd remote_rc : Int} {w : World} {cmd : Mem} {big : Nat} {tx : List SendRound}
    {fs : List (List UInt8)} {fsz s : List UInt8}
    (hu : invalidUsername username = false)
    (hreq : prepareRequest st.command (extractText username remote_filename) = some cmd)
    (ho : 0 ≤ w.openResult) (hbig : (extractText username remote_filename).length + 1 ≤ big)
    (htx : w.tx = .sent big :: tx)
    (hsz : WellFormed bufferSize fsz) (hsz₀ : fsz.headD 0 = byte 's')
    (hszv : fsz.drop 4 = formatLong ((fs.map payloadLength).sum : Int) ++ [0])
    (hsmall : (fs.map payloadLength).sum < 2 ^ 31)
    (hfs : fs.Forall (fun f => DataFrame f ∧ 0 < payloadLength f))
    (hd : Delivers w.rx (fsz ++ fs.flatten ++ s)) (hout : w.fileOut = []) :
    ∃ w', extractFile st username remote_filename (.opened fd) remote_rc w = (0, 0, w') ∧
      fileBytes w'.trace = fileBytes w.trace ++ (fs.map (·.drop 4)).flatten ∧
      Delivers w'.rx s ∧
      wireBytes w'.trace =
        wireBytes w.trace ++ cmd.load 0 ((extractText username remote_filename).length + 1) ∧
      [.close w.openResult, .close fd] <:+ w'.trace := by
  set L := (extractText username remote_filename).length
  set n : Int := ((fs.map payloadLength).sum : Int)
  set w₁ : World :=
    { w with
      tx := tx
      trace := w.trace ++ [.openLink w.openResult, .sent (cmd.load 0 (L + 1))] }
  obtain ⟨rest, hsize, hrest⟩ := readSize_formatLong (w := w₁) hsz hsz₀ hszv
    (by simpa only [List.append_assoc] using hd) st.size st.sizeValue 0
  rw [scannedInt_of_lt (by omega) (by omega)] at hsize
  obtain ⟨h₁, h₂, h₃, h₄⟩ := receiveFile_frames hfs st.file (w := { w₁ with rx := rest }) hrest hout
  have hext : extractVirtioSerial st username remote_filename w =
      (0, 0, (receiveFile st.file n { w₁ with rx := rest }).2.close w.openResult) := by
    rw [extractVirtioSerial, hu, if_neg Bool.false_ne_true, hreq]
    dsimp only
    rw [World.openLink_fst, if_neg (not_lt.mpr ho), openLink_sendbuf hbig htx, if_neg (by simp),
      hsize]
    dsimp only
    rw [if_neg (lt_irrefl 0), if_pos (Int.natCast_nonneg _), if_neg (by rw [h₁]; exact lt_irrefl 0)]
  refine ⟨((receiveFile st.file n { w₁ with rx := rest }).2.close w.openResult).close fd,
    by rw [extractFile, transferFile_opened hext, if_pos rfl], ?_,
    by rw [close_rx, close_rx]; exact h₃, ?_, closes_suffix _ _⟩
  · rw [fileBytes_close, fileBytes_close, h₂]
    simp [w₁, fileBytes]
  · rw [close_trace, close_trace, wireBytes_append, wireBytes_append, h₄]
    simp [w₁, wireBytes]

/-- A link that takes an extract request whole and answers with the size 1 and a data frame
holding the byte `x`. -/
def oneByteReply : World :=
  ⟨3, 0, 0, [.recv [115, 0, 0, 6, 49, 0, 100, 0, 0, 5, 120]], [.sent 100], [], [], [], [], [], []⟩

/-- Extract of `f` for `root` into descriptor 4: the file gets the byte `x`. -/
theorem extractFile_frames_oneByte :
    ∃ cmd, prepareRequest (fun _ => 0) (extractText rootName fName) = some cmd ∧
      ∃ w', extractFile ⟨fun _ => 0, fun _ => 0, fun _ => 0, 0⟩ rootName fName (.opened 4) 0
          oneByteReply = (0, 0, w') ∧
        fileBytes w'.trace =
          fileBytes oneByteReply.trace ++ ([[100, 0, 0, 5, 120]].map (·.drop 4)).flatten ∧
        Delivers w'.rx [] ∧
        wireBytes w'.trace = wireBytes oneByteReply.trace ++
          cmd.load 0 ((extractText rootName fName).length + 1) ∧
        [.close oneByteReply.openResult, .close 4] <:+ w'.trace :=
  ⟨_, rfl, @extractFile_frames _ _ _ _ _ _ _ _ _ [[100, 0, 0, 5, 120]] [115, 0, 0, 6, 49, 0] []
    rfl rfl (by decide) (by decide) rfl (by decide) rfl (by decide) (by decide) (by decide)
    (.cons (by decide) .nil) rfl⟩

/-! ## Injecting a file -/

/-- With a valid username, a request that fits its buffer, the link opened and a send that takes
the request whole, `_twopence_inject_virtio_serial` goes on from the major status, read on the
world the request left. -/
theorem injectVirtioSerial_sent {st : InjectStack} {username remote_filename : CStr} {w : World}
    {cmd : Mem} {big : Nat} {tx : List SendRound} (hu : invalidUsername username = false)
    (hreq : prepareRequest st.command (injectText username w.stSize remote_filename) = some cmd)
    (ho : 0 ≤ w.openResult) (hbig : (injectText username w.stSize remote_filename).length + 1 ≤ big)
    (htx : w.tx = .sent big :: tx) :
    injectVirtioSerial st username remote_filename w =
      let m := readMajor
        { w with
          tx := tx
          trace := w.trace ++ [.openLink w.openResult,
            .sent (cmd.load 0 ((injectText username w.stSize remote_filename).length + 1))] }
        st.major 0
      if m.2.1 ≠ 0 then (Error.sendFile.code, m.2.1, m.2.2.close w.openResult)
      else
        let f := sendFile st.file (intOfOffT w.stSize) m.2.2
        if f.1 < 0 then (Error.sendFile.code, m.2.1, f.2.close w.openResult)
        else
          let mi := readMinor f.2 st.minor m.2.1
          ((if mi.1 < 0 then Error.sendFile.code else 0), mi.2.1, mi.2.2.close w.openResult) := by
  rw [injectVirtioSerial, hu, if_neg Bool.false_ne_true, hreq]
  dsimp only
  rw [World.openLink_fst, if_neg (not_lt.mpr ho), openLink_sendbuf hbig htx, if_neg (by simp)]

/-- **A regular file goes out whole.** Take a valid username and a request that fits its buffer, a
link that opens and takes the request in one send and then every send whole, a regular local file
shorter than `2 ^ 31` bytes, and a server that answers with a major status 0 and then a minor
status `v`, each in decimal with a NUL. Whatever the stack buffers held, if the local file opened,
`twopence_pipe_inject_file` reports as the remote code the `int` `%d` stores for `v`, and returns 0
when that is 0 and `TWOPENCE_REMOTE_FILE_ERROR` otherwise. After the request it put on the link
data frames carrying
the file's chunks in order, the link has nothing left of the reply, and the link and then the
local file were closed last. -/
theorem injectFile_regularFile {st : InjectStack} {username remote_filename : CStr}
    {fd remote_rc v : Int} {w : World} {cmd : Mem} {big : Nat} {tx : List SendRound}
    {cs : List (List UInt8)} {more : List FileRead} {fM fm s : List UInt8}
    (hu : invalidUsername username = false)
    (hreq : prepareRequest st.command (injectText username w.stSize remote_filename) = some cmd)
    (ho : 0 ≤ w.openResult) (hbig : (injectText username w.stSize remote_filename).length + 1 ≤ big)
    (htx : w.tx = .sent big :: tx) (hwhole : ∀ r ∈ tx, ∃ m, bufferSize ≤ m ∧ r = .sent m)
    (hlen : cs.length ≤ tx.length)
    (hcs : FileChunks cs) (hin : w.fileIn = cs.map .data ++ more)
    (hsize : w.stSize = (cs.map List.length).sum) (hsmall : w.stSize < 2 ^ 31)
    (hM : WellFormed bufferSize fM) (hM₀ : fM.headD 0 = byte 'M')
    (hMv : fM.drop 4 = formatLong 0 ++ [0])
    (hm : WellFormed bufferSize fm) (hm₀ : fm.headD 0 = byte 'm')
    (hmv : fm.drop 4 = formatLong v ++ [0])
    (hd : Delivers w.rx (fM ++ fm ++ s)) :
    ∃ w', injectFile st username (.opened fd) remote_filename remote_rc w =
        ((if scannedInt v = 0 then 0 else Error.remoteFile.code), scannedInt v, w') ∧
      (∃ fs : List (List UInt8),
        wireBytes w'.trace = wireBytes w.trace ++
          cmd.load 0 ((injectText username w.stSize remote_filename).length + 1) ++ fs.flatten ∧
        fs.Forall (fun f => DataFrame f ∧ 0 < payloadLength f) ∧ fs.map (·.drop 4) = cs) ∧
      Delivers w'.rx s ∧ [.close w.openResult, .close fd] <:+ w'.trace := by
  set L := (injectText username w.stSize remote_filename).length
  set w₁ : World :=
    { w with
      tx := tx
      trace := w.trace ++ [.openLink w.openResult, .sent (cmd.load 0 (L + 1))] }
  obtain ⟨rest₁, hmajor, hrest₁⟩ := readStatus_formatLong (w := w₁) hM hM₀ hMv
    (by simpa only [List.append_assoc] using hd) st.major 0
  rw [scannedInt_of_lt (by omega) (by omega)] at hmajor
  have hoff : intOfOffT w.stSize = ((cs.map List.length).sum : Int) := by
    rw [intOfOffT_of_lt (by rw [hsize]; exact Int.natCast_nonneg _) hsmall, hsize]
  set f := sendFile st.file ((cs.map List.length).sum : Int) { w₁ with rx := rest₁ }
  obtain ⟨hf, fs, hwire, hfs, hdrop⟩ := sendFile_chunks (w := { w₁ with rx := rest₁ }) hcs st.file
    hin hwhole hlen
  obtain ⟨rest₂, hminor, hrest₂⟩ := readStatus_formatLong (w := f.2) hm hm₀ hmv
    (by simp only [f, sendFile, sendFileLoop_rx]; exact hrest₁) st.minor 0
  have hinj : injectVirtioSerial st username remote_filename w =
      (0, scannedInt v, ({ f.2 with rx := rest₂ } : World).close w.openResult) := by
    rw [injectVirtioSerial_sent hu hreq ho hbig htx]
    dsimp only
    rw [readMajor, hmajor]
    dsimp only
    rw [if_neg (not_not.mpr rfl), hoff, if_neg (by rw [hf]; exact lt_irrefl 0), readMinor, hminor]
    rfl
  refine ⟨(({ f.2 with rx := rest₂ } : World).close w.openResult).close fd,
    by rw [injectFile, transferFile_opened hinj], ⟨fs, ?_, hfs, hdrop⟩, hrest₂, closes_suffix _ _⟩
  rw [close_trace, close_trace, wireBytes_append, wireBytes_append,
    show ({ f.2 with rx := rest₂ } : World).trace = f.2.trace from rfl, hwire]
  simp [w₁, wireBytes]

/-- A one-byte local file `x`, a link that takes the request and then a whole buffer, and a server
that answers with the major status 0 and then the minor status 0. -/
def oneByteFile : World :=
  ⟨3, 0, 1, [.recv [77, 0, 0, 6, 48, 0, 109, 0, 0, 6, 48, 0]], [.sent 100, .sent 32768], [], [],
    [.data [120]], [], [], []⟩

/-- Inject of `x` as `f` for `root` from descriptor 4: it returns 0 with remote code 0. -/
theorem injectFile_regularFile_oneByte :
    ∃ cmd, prepareRequest (fun _ => 0) (injectText rootName 1 fName) = some cmd ∧
      ∃ w', injectFile ⟨fun _ => 0, fun _ => 0, fun _ => 0, fun _ => 0⟩ rootName (.opened 4) fName 0
          oneByteFile = ((if (0 : Int) = 0 then 0 else Error.remoteFile.code), 0, w') ∧
        (∃ fs : List (List UInt8),
          wireBytes w'.trace = wireBytes oneByteFile.trace ++
            cmd.load 0 ((injectText rootName 1 fName).length + 1) ++ fs.flatten ∧
          fs.Forall (fun f => DataFrame f ∧ 0 < payloadLength f) ∧ fs.map (·.drop 4) = [[120]]) ∧
        Delivers w'.rx [] ∧ [.close oneByteFile.openResult, .close 4] <:+ w'.trace :=
  have hcs : FileChunks [[120]] := .cons (by decide) (by decide) (.inl rfl) .nil
  ⟨_, rfl, @injectFile_regularFile _ _ _ _ _ 0 _ _ _ [.sent 32768] _ [] [77, 0, 0, 6, 48, 0]
    [109, 0, 0, 6, 48, 0] [] rfl rfl (by decide) (by decide) rfl
    (by simp [bufferSize]) (by decide) hcs rfl rfl (by decide) (by decide) rfl (by decide)
    (by decide) rfl (by decide) (.cons (by decide) .nil)⟩

/-- **A refusal stops the transfer.** With the request and link of `injectFile_regularFile`, a
server whose first answer is a major status `v`, in decimal with a NUL, that `%d` stores as an
`int` other than 0: whatever the stack buffers held, if the local file opened,
`twopence_pipe_inject_file` returns `TWOPENCE_SEND_FILE_ERROR` with that `int` as the remote code.
It has read nothing of the local file and put
nothing on the link after the request, the link has nothing left of the reply, and the link and
then the local file were closed last. -/
theorem injectFile_refused {st : InjectStack} {username remote_filename : CStr}
    {fd remote_rc v : Int} {w : World} {cmd : Mem} {big : Nat} {tx : List SendRound}
    {fM s : List UInt8} (hu : invalidUsername username = false)
    (hreq : prepareRequest st.command (injectText username w.stSize remote_filename) = some cmd)
    (ho : 0 ≤ w.openResult) (hbig : (injectText username w.stSize remote_filename).length + 1 ≤ big)
    (htx : w.tx = .sent big :: tx)
    (hM : WellFormed bufferSize fM) (hM₀ : fM.headD 0 = byte 'M')
    (hMv : fM.drop 4 = formatLong v ++ [0]) (hv : scannedInt v ≠ 0) (hd : Delivers w.rx (fM ++ s)) :
    ∃ w', injectFile st username (.opened fd) remote_filename remote_rc w =
        (Error.sendFile.code, scannedInt v, w') ∧
      wireBytes w'.trace = wireBytes w.trace ++
        cmd.load 0 ((injectText username w.stSize remote_filename).length + 1) ∧
      w'.fileIn = w.fileIn ∧ Delivers w'.rx s ∧ [.close w.openResult, .close fd] <:+ w'.trace := by
  set w₁ : World :=
    { w with
      tx := tx
      trace := w.trace ++ [.openLink w.openResult,
        .sent (cmd.load 0 ((injectText username w.stSize remote_filename).length + 1))] }
  obtain ⟨rest, hmajor, hrest⟩ := readStatus_formatLong (w := w₁) hM hM₀ hMv hd st.major 0
  have hinj : injectVirtioSerial st username remote_filename w =
      (Error.sendFile.code, scannedInt v, ({ w₁ with rx := rest } : World).close w.openResult) := by
    rw [injectVirtioSerial_sent hu hreq ho hbig htx]
    dsimp only
    rw [readMajor, hmajor]
    exact if_pos hv
  refine ⟨(({ w₁ with rx := rest } : World).close w.openResult).close fd, ?_, ?_, rfl, hrest,
    closes_suffix _ _⟩
  · rw [injectFile, transferFile, hinj]
    simp [Error.code]
  · rw [close_trace, close_trace]
    simp [w₁, wireBytes]

/-- A one-byte local file and a server that refuses it with the major status 2. -/
def refusingServer : World :=
  ⟨3, 0, 1, [.recv [77, 0, 0, 6, 50, 0]], [.sent 100], [], [], [.data [120]], [], [], []⟩

/-- Inject for `root` to `f` from descriptor 4, refused with 2. -/
theorem injectFile_refused_two :
    ∃ cmd, prepareRequest (fun _ => 0) (injectText rootName 1 fName) = some cmd ∧
      ∃ w', injectFile ⟨fun _ => 0, fun _ => 0, fun _ => 0, fun _ => 0⟩ rootName (.opened 4) fName 0
          refusingServer = (Error.sendFile.code, 2, w') ∧
        wireBytes w'.trace = wireBytes refusingServer.trace ++
          cmd.load 0 ((injectText rootName 1 fName).length + 1) ∧
        w'.fileIn = refusingServer.fileIn ∧ Delivers w'.rx [] ∧
        [.close refusingServer.openResult, .close 4] <:+ w'.trace :=
  ⟨_, rfl, @injectFile_refused _ _ _ _ _ 2 _ _ _ _ [77, 0, 0, 6, 50, 0] [] rfl rfl (by decide)
    (by decide) rfl (by decide) rfl (by decide) (by decide) (.cons (by decide) .nil)⟩

end Twopence
