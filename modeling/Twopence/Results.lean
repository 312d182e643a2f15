import Twopence.Client

/-!
# What `_twopence_read_results` accepts

The frames a command's results arrive in, taken whole: for every sequence of well-formed frames
the link delivers, when standard input has nothing to say, every send on the link goes through
and the sink takes every byte, `_twopence_read_results` returns 0 exactly when the frame types
begin with a word of `('0' | 'E' | '1' | '2')* 'M' 'm'`, and reads nothing after the `'m'`.

The `'0'` and `'E'` frames are those `__twopence_pipe_recvbuf_both` makes from standard input. The
switch cannot tell them from frames of the same types arriving on the link, so a link frame typed
`'0'` or `'E'` is sent straight back to the link, header and all. And since the branch of
`__twopence_pipe_recvbuf_both` that reads standard input tests the link's poll result a second
time, no frame is ever made from standard input: the only `'0'` and `'E'` frames the switch sees
come from the link.

## Main results

* `resultsSwitch_data`, `resultsSwitch_major`, `resultsSwitch_minor`,
  `resultsSwitch_reject` — the switch on one frame
* `readResultsLoop_fuel` — the loop's fuel is enough: more turns change nothing
* `readResultsLoop_prefix` — the loop over the frames before the major status
* `readResults_accept` — the frames before the major status and both status frames: return 0
* `readResults_language` — the language, the output and the echoes
* `readResults_echo` — a `'0'` frame from the link is sent back, and the results are still read
* `readResults_stale` — the status values depend on bytes the frames did not write
* `readResults_ignores_stdin` — a `poll` that finds standard input readable and the link not is
  passed over, and no run reads standard input at all
-/

namespace Twopence

/-! ## Frames the switch takes before the major status -/

/-- A frame type `_twopence_read_results` sends back on the link: `'0'` and `'E'`. -/
def isEcho (ty : UInt8) : Bool := ty == byte '0' || ty == byte 'E'

/-- A frame type the switch takes before the major status: `'0'`, `'E'`, `'1'` and `'2'`. -/
def isResultData (ty : UInt8) : Bool := isEcho ty || ty == byte '1' || ty == byte '2'

/-- What taking a frame before the major status leaves in the trace: a `'0'` or `'E'` frame is
sent back whole, the payload of a `'1'` frame goes to standard output and that of a `'2'` frame
to standard error. -/
def resultEvents (f : List UInt8) : List ClientEvent :=
  if isEcho (f.headD 0) then [.sent f]
  else if f.headD 0 = byte '1' then (f.drop 4).map .stdout
  else if f.headD 0 = byte '2' then (f.drop 4).map .stderr
  else []

/-- How many of the frames are sent back. -/
def echoes (fs : List (List UInt8)) : Nat := (fs.filter fun f => isEcho (f.headD 0)).length

/-- A refused run: a negative code, and nothing in the trace past `evs`, what the frames taken
before the refused one made. -/
def Refused (w : World) (evs : List ClientEvent) (r : Int × Int × Int × World) : Prop :=
  r.1 < 0 ∧ r.2.2.2.trace = w.trace ++ evs

/-- A world that gets in the reader's way nowhere, with `n` polls and `m` sends left: the link
has input at every poll and standard input never does, every send takes a whole buffer, and the
sink takes every byte. -/
structure Cooperative (n m : Nat) (w : World) : Prop where
  /-- The polls. -/
  polls : w.polls = List.replicate n (.ready true false)
  /-- The sends. -/
  tx : w.tx = List.replicate m (.sent bufferSize)
  /-- The sink. -/
  sink : w.sink = []

/-! ## The world's operations on a cooperative world -/

/-- A send that takes a whole buffer puts the `count` bytes on the link at once. -/
theorem pipeSendbuf_whole {count n : Nat} (h0 : 0 < count) (hc : count ≤ n) (mem : Mem)
    (rest : List SendRound) :
    pipeSendbuf 0 count mem 0 (.sent n :: rest) = ⟨count, mem.load 0 count, rest⟩ := by
  rw [pipeSendbuf, if_pos h0]
  simp [Nat.min_eq_right hc]

theorem outputLoop_sink_nil (toStderr : Bool) :
    ∀ (bytes : List UInt8) {w : World}, w.sink = [] →
      World.outputLoop toStderr bytes w = (true, { w with trace := w.trace ++
        (bytes.map fun c => if toStderr then ClientEvent.stderr c else .stdout c) })
  | [], w, _ => by simp [World.outputLoop]
  | c :: cs, w, hs => by
    have hw : (if toStderr then w.pipeError c else w.pipeOutput c)
        = (true, w.record (if toStderr then .stderr c else .stdout c)) := by
      cases toStderr <;> simp [World.pipeError, World.pipeOutput, World.sinkWrite, hs]
    rw [World.outputLoop, hw]
    simp only [if_true]
    rw [outputLoop_sink_nil toStderr cs (w := w.record _) hs]
    cases toStderr <;> simp [World.record]

/-! ## The switch on one frame -/

section Switch

variable {state : Nat} (stdinOpen : Bool) (major minor : Int) {buffer : Mem} {w : World}
  {f : List UInt8}

/-- **A frame before the major status.** In state 0, a `'0'`, `'E'`, `'1'` or `'2'` frame keeps
the state and the status values, sends the frame back or outputs its payload, and uses one send
for each frame it sends back. -/
theorem resultsSwitch_data {n m : Nat} (hf : WellFormed bufferSize f)
    (hb : buffer.load 0 f.length = f) (hty : isResultData (f.headD 0))
    (hw : Cooperative n (m + (echoes [f])) w) :
    ∃ stdinOpen' w', resultsSwitch 0 stdinOpen major minor buffer w
        = .ok (0, stdinOpen', major, minor, w') ∧
      Cooperative n m w' ∧ w'.rx = w.rx ∧ w'.trace = w.trace ++ resultEvents f := by
  obtain ⟨h₀, hlen, hpay⟩ := load_frame hf.1 hf.2.2 hb
  have hpos : 0 < f.length := by have := hf.1; omega
  by_cases he : isEcho (f.headD 0)
  · have hcond : buffer 0 = byte 'E' ∨ buffer 0 = byte '0' := by
      simp only [isEcho, Bool.or_eq_true, beq_iff_eq] at he; rw [h₀]; tauto
    have hone : echoes [f] = 1 := by simp only [echoes, List.filter, he]; rfl
    have htx : w.tx = .sent bufferSize :: List.replicate m (.sent bufferSize) := by
      rw [hw.tx, hone]; rfl
    have hsw : resultsSwitch 0 stdinOpen major minor buffer w = .ok (0,
        stdinOpen && buffer 0 ≠ byte 'E', major, minor,
        { w with tx := List.replicate m (.sent bufferSize), trace := w.trace ++ [.sent f] }) := by
      simp only [resultsSwitch, hcond, if_true, ne_eq, not_true_eq_false, if_false, World.sendbuf,
        htx, hlen, pipeSendbuf_whole hpos hf.2.1, hb]
      rw [if_neg (by omega)]
    exact ⟨_, _, hsw, ⟨hw.polls, rfl, hw.sink⟩, rfl, by rw [resultEvents, if_pos he]⟩
  · have he' : isEcho (f.headD 0) = false := by simpa using he
    have hne : ¬ (buffer 0 = byte 'E' ∨ buffer 0 = byte '0') := by
      simp only [isEcho, Bool.or_eq_false_iff, beq_eq_false_iff_ne] at he'; rw [h₀]; tauto
    have hzero : echoes [f] = 0 := by simp only [echoes, List.filter, he']; rfl
    have hout : buffer 0 = byte '1' ∨ buffer 0 = byte '2' := by
      simp only [isResultData, he', Bool.false_or, Bool.or_eq_true, beq_iff_eq] at hty
      rw [h₀]; exact hty
    have hsw : resultsSwitch 0 stdinOpen major minor buffer w = .ok (0, stdinOpen, major, minor,
        { w with trace := w.trace ++ ((f.drop 4).map fun c =>
          if decide (buffer 0 = byte '2') then .stderr c else .stdout c) }) := by
      simp only [resultsSwitch, if_neg hne, if_pos hout, ne_eq, not_true_eq_false, if_false, hlen,
        hpay, outputLoop_sink_nil _ _ hw.sink, if_true]
    refine ⟨_, _, hsw, ⟨hw.polls, by rw [hw.tx, hzero]; rfl, hw.sink⟩, rfl, ?_⟩
    rw [resultEvents, if_neg he, ← h₀]
    have h12 : byte '2' ≠ byte '1' := by decide
    rcases hout with h | h <;> simp [h, h12, h12.symm]

/-- The major status, in state 0. -/
theorem resultsSwitch_major (h : buffer 0 = byte 'M') :
    resultsSwitch 0 stdinOpen major minor buffer w
      = .ok (1, stdinOpen, (sscanfInt buffer 4).getD major, minor, w) := by
  simp +decide [resultsSwitch, h]

/-- The minor status, in state 1. -/
theorem resultsSwitch_minor (h : buffer 0 = byte 'm') :
    resultsSwitch 1 stdinOpen major minor buffer w
      = .ok (2, stdinOpen, major, (sscanfInt buffer 4).getD minor, w) := by
  simp +decide [resultsSwitch, h]

/-- **Everything else is refused.** In state 0 a frame of any type but `'0'`, `'E'`, `'1'`, `'2'`
and `'M'`, and in state 1 a frame of any type but `'m'`, makes the function return a negative
code, with nothing sent and nothing output. -/
theorem resultsSwitch_reject
    (h : (state = 0 ∧ isResultData (buffer 0) = false ∧ buffer 0 ≠ byte 'M') ∨
      (state = 1 ∧ buffer 0 ≠ byte 'm')) :
    ∃ rc, resultsSwitch state stdinOpen major minor buffer w = .error (rc, w) ∧ rc < 0 := by
  unfold resultsSwitch
  dsimp only
  rcases h with ⟨rfl, hd, hM⟩ | ⟨rfl, hm⟩
  · simp only [isResultData, isEcho, Bool.or_eq_false_iff, beq_eq_false_iff_ne] at hd
    rw [if_neg (by tauto), if_neg (by tauto), if_neg hM]
    simp only [ne_eq, zero_ne_one, not_false_eq_true, if_true]
    split_ifs <;> exact ⟨_, rfl, Error.code_neg _⟩
  · simp only [hm, ne_eq, one_ne_zero, not_false_eq_true, if_true, if_false]
    split_ifs <;> exact ⟨_, rfl, Error.code_neg _⟩

end Switch

/-! ## The loop -/

section Loop

variable (fuel : Nat) {state : Nat} (stdinOpen : Bool) (major minor : Int) (buffer : Mem)
  {w : World}

/-- A `__twopence_pipe_read_frame` that finds no well-formed frame at the head of the stream
fails. -/
theorem pipeReadFrame_rc_of_not_frame {size : Nat} (mem : Mem) {rounds : List RecvRound}
    {r : List UInt8} (hd : Delivers rounds r) (hno : ∀ f s, WellFormed size f → r ≠ f ++ s) :
    (pipeReadFrame size mem rounds).rc ≠ 0 := by
  obtain ⟨hshort, hbad, htrunc, hgood⟩ := pipeReadFrame_stream size mem hd
  have hp : Error.protocol.code ≠ 0 := (Error.code_neg _).ne
  by_cases h4 : r.length < 4
  · rw [hshort h4]; exact hp
  by_cases hL : announcedLength r < 4 ∨ size < announcedLength r
  · rw [(hbad (by omega) hL).1]; exact hp
  by_cases hlong : announcedLength r ≤ r.length
  · refine absurd (List.take_append_drop (announcedLength r) r).symm (hno _ _ ⟨?_, ?_, ?_⟩) <;>
      simp only [List.length_take, Nat.min_eq_left hlong]
    · omega
    · omega
    · rw [announcedLength_take (by omega)]
  · rw [htrunc (by omega) (by omega) (by omega)]; exact hp

/-- A call of `__twopence_pipe_recvbuf_both` that returns 0 has taken at least one `poll`
outcome. -/
theorem pipeRecvbufBoth_polls (size : Nat) :
    ∀ (polls : List BothPoll) (w : World), (pipeRecvbufBoth stdinOpen size buffer w polls).1 = 0 →
      (pipeRecvbufBoth stdinOpen size buffer w polls).2.2.polls.length < polls.length
  | [], _, h => absurd h (Error.code_neg .protocol).ne
  | .error eintr :: polls, w, h => by
    rw [pipeRecvbufBoth] at h ⊢
    split at h
    · rw [if_pos ‹_›]
      exact Nat.lt_succ_of_lt (pipeRecvbufBoth_polls size polls w h)
    · exact absurd h (Error.code_neg .protocol).ne
  | .timeout :: _, _, h => absurd h (Error.code_neg .protocol).ne
  | .ready link _ :: polls, w, h => by
    rw [pipeRecvbufBoth] at h ⊢
    split
    · exact Nat.lt_succ_self _
    · rename_i hl
      rw [if_neg hl] at h
      have hs : (stdinOpen && link) = false := by simp [Bool.eq_false_iff.mpr hl]
      rw [if_neg (by simp [hs])] at h ⊢
      exact Nat.lt_succ_of_lt (pipeRecvbufBoth_polls size polls w h)

/-- **The loop's fuel is enough.** A turn that does not end the loop takes at least one `poll`
outcome, so once there are more turns than outcomes, more turns change nothing: `readResults`
computes what the loop does, however many outcomes it is given. -/
theorem readResultsLoop_fuel :
    ∀ (fuel k state : Nat) (stdinOpen : Bool) (major minor : Int) (buffer : Mem) (w : World),
      w.polls.length < fuel →
      readResultsLoop (fuel + k) state stdinOpen major minor buffer w
        = readResultsLoop fuel state stdinOpen major minor buffer w
  | 0, _, _, _, _, _, _, _, h => absurd h (Nat.not_lt_zero _)
  | fuel + 1, k, state, stdinOpen, major, minor, buffer, w, h => by
    rw [show fuel + 1 + k = fuel + k + 1 by omega, readResultsLoop, readResultsLoop]
    dsimp only
    split_ifs with h₂ hr
    · rfl
    · rfl
    · have hp := pipeRecvbufBoth_polls stdinOpen buffer bufferSize w.polls w (not_not.mp hr)
      have hk := resultsSwitch_world state stdinOpen major minor
        (pipeRecvbufBoth stdinOpen bufferSize buffer w w.polls).2.1
        (w := (pipeRecvbufBoth stdinOpen bufferSize buffer w w.polls).2.2) (.refl _)
        (World.keepsInput_sendbuf _ _ _) (World.keepsInput_outputLoop · · _)
      split
      · rfl
      · rename_i heq
        rw [heq] at hk
        exact readResultsLoop_fuel fuel k _ _ _ _ _ _ (by rw [hk.polls]; omega)

/-- A finished loop returns 0. -/
@[simp] theorem readResultsLoop_done (w : World) :
    readResultsLoop fuel 2 stdinOpen major minor buffer w = (0, major, minor, w) := by
  cases fuel <;> rfl

/-- One turn of the loop on a poll that reports the link, and a well-formed frame at the head of
the stream: the frame is read whole into the buffer and taken through the switch. -/
theorem readResultsLoop_frame {ps : List BothPoll} {f s : List UInt8} (hst : state ≠ 2)
    (hp : w.polls = .ready true false :: ps) (hf : WellFormed bufferSize f)
    (hd : Delivers w.rx (f ++ s)) :
    ∃ buffer' rx', Delivers rx' s ∧ buffer'.load 0 f.length = f ∧
      readResultsLoop (fuel + 1) state stdinOpen major minor buffer w =
        match resultsSwitch state stdinOpen major minor buffer' { w with rx := rx', polls := ps } with
        | .error (rc, w) => (rc, major, minor, w)
        | .ok (state, stdinOpen, major, minor, w) =>
          readResultsLoop fuel state stdinOpen major minor buffer' w := by
  obtain ⟨h₁, h₂, h₃⟩ := pipeReadFrame_wellFormed buffer hf hd
  refine ⟨_, _, h₂, h₃, ?_⟩
  rw [readResultsLoop, if_neg hst, hp]
  exact if_neg (by simp [pipeRecvbufBoth, World.readFrame, h₁])

/-- One turn of the loop on a poll that reports the link, when no well-formed frame is at the
head of the stream: the function returns `TWOPENCE_RECEIVE_RESULTS_ERROR`, and nothing else
happens. -/
theorem readResultsLoop_no_frame {ps : List BothPoll} {r : List UInt8} (hst : state ≠ 2)
    (hp : w.polls = .ready true false :: ps) (hd : Delivers w.rx r)
    (hno : ∀ f s, WellFormed bufferSize f → r ≠ f ++ s) :
    (readResultsLoop (fuel + 1) state stdinOpen major minor buffer w).1
        = Error.receiveResults.code ∧
      (readResultsLoop (fuel + 1) state stdinOpen major minor buffer w).2.2.2.trace = w.trace := by
  rw [readResultsLoop, if_neg hst, hp]
  simp only [pipeRecvbufBoth, if_true, World.readFrame]
  rw [if_pos (pipeReadFrame_rc_of_not_frame buffer hd hno)]
  exact ⟨rfl, rfl⟩

/-- **The frames before the major status.** In state 0, a run of well-formed `'0'`, `'E'`, `'1'`
and `'2'` frames is taken one per turn: each `'0'` and `'E'` frame is sent back and each payload
output, and the loop is left in state 0 with the status values as they were. -/
theorem readResultsLoop_prefix (pre : List (List UInt8))
    (hpre : ∀ f ∈ pre, WellFormed bufferSize f ∧ isResultData (f.headD 0)) :
    ∀ (stdinOpen : Bool) (buffer : Mem) {n m : Nat} {w : World} {s : List UInt8},
      Cooperative (pre.length + n) (m + echoes pre) w → Delivers w.rx (pre.flatten ++ s) →
      ∃ stdinOpen' buffer' w',
        readResultsLoop (fuel + pre.length) 0 stdinOpen major minor buffer w
          = readResultsLoop fuel 0 stdinOpen' major minor buffer' w' ∧
        Cooperative n m w' ∧ Delivers w'.rx s ∧ w'.trace = w.trace ++ pre.flatMap resultEvents := by
  induction pre with
  | nil =>
    intro so buf n m w s hw hd
    exact ⟨so, buf, w, rfl, by simpa using hw, by simpa using hd, by simp⟩
  | cons f pre ih =>
    intro so buf n m w s hw hd
    obtain ⟨hf, hty⟩ := hpre f (List.mem_cons_self _ _)
    have hp : w.polls
        = .ready true false :: List.replicate (pre.length + n) (.ready true false) := by
      rw [hw.polls, List.length_cons, show pre.length + 1 + n = (pre.length + n) + 1 by omega]; rfl
    obtain ⟨buf₁, rx₁, hd₁, hb₁, hloop⟩ := readResultsLoop_frame (fuel + pre.length) so major
      minor buf (show (0 : Nat) ≠ 2 by decide) hp hf (by simpa using hd)
    have hecho : echoes (f :: pre) = echoes pre + echoes [f] := by
      simp only [echoes, List.filter_cons, List.filter_nil]
      split <;> simp [Nat.add_comm]
    obtain ⟨so₁, w₂, hsw, hw₂, hrx₂, htr₂⟩ := resultsSwitch_data so major minor
      (w := { w with rx := rx₁, polls := _ }) (m := m + echoes pre) hf hb₁ hty
      ⟨rfl, by rw [hw.tx, hecho, Nat.add_assoc], hw.sink⟩
    rw [show fuel + (f :: pre).length = fuel + pre.length + 1 by simp; omega, hloop, hsw]
    obtain ⟨so', buf', w', heq, hw', hd', htr'⟩ := ih (fun g hg => hpre g (List.mem_cons_of_mem _ hg))
      so₁ buf₁ hw₂ (by rw [hrx₂]; exact hd₁)
    exact ⟨so', buf', w', heq, hw', hd',
      by rw [htr', htr₂, List.flatMap_cons, List.append_assoc]⟩

/-- The major status, in state 0, moves the loop to state 1 and sets the major value from the
frame's payload. -/
theorem readResultsLoop_major {n m : Nat} {fM r : List UInt8} (hM : WellFormed bufferSize fM)
    (hM₀ : fM.headD 0 = byte 'M') (hw : Cooperative (n + 1) m w)
    (hd : Delivers w.rx (fM ++ r)) :
    ∃ buffer' w', readResultsLoop (fuel + 1) 0 stdinOpen major minor buffer w
        = readResultsLoop fuel 1 stdinOpen ((sscanfInt buffer' 4).getD major) minor buffer' w' ∧
      Cooperative n m w' ∧ Delivers w'.rx r ∧ w'.trace = w.trace := by
  obtain ⟨buf₁, rx₁, hd₁, hb₁, h₁⟩ :=
    readResultsLoop_frame fuel stdinOpen major minor buffer (show (0 : Nat) ≠ 2 by decide)
      hw.polls hM hd
  rw [h₁, resultsSwitch_major _ _ _ ((load_frame hM.1 hM.2.2 hb₁).1.trans hM₀)]
  exact ⟨buf₁, _, rfl, ⟨rfl, hw.tx, hw.sink⟩, hd₁, rfl⟩

/-- The minor status, in state 1, ends the loop with 0; nothing after it is read. -/
theorem readResultsLoop_minor {n m : Nat} {fm s : List UInt8} (hm : WellFormed bufferSize fm)
    (hm₀ : fm.headD 0 = byte 'm') (hw : Cooperative (n + 1) m w)
    (hd : Delivers w.rx (fm ++ s)) :
    ∃ major' minor' w', readResultsLoop (fuel + 1) 1 stdinOpen major minor buffer w
        = (0, major', minor', w') ∧ w'.trace = w.trace ∧ Delivers w'.rx s := by
  obtain ⟨buf₁, rx₁, hd₁, hb₁, h₁⟩ :=
    readResultsLoop_frame fuel stdinOpen major minor buffer (show (1 : Nat) ≠ 2 by decide)
      hw.polls hm hd
  rw [h₁, resultsSwitch_minor _ _ _ ((load_frame hm.1 hm.2.2 hb₁).1.trans hm₀)]
  exact ⟨_, _, _, readResultsLoop_done .., rfl, hd₁⟩

/-- A well-formed frame the switch refuses ends the loop with a negative code, with nothing sent
and nothing output. -/
theorem readResultsLoop_refused {ps : List BothPoll} {f s : List UInt8}
    (hp : w.polls = .ready true false :: ps) (hf : WellFormed bufferSize f)
    (hd : Delivers w.rx (f ++ s))
    (hty : (state = 0 ∧ isResultData (f.headD 0) = false ∧ f.headD 0 ≠ byte 'M') ∨
      (state = 1 ∧ f.headD 0 ≠ byte 'm')) :
    (readResultsLoop (fuel + 1) state stdinOpen major minor buffer w).1 < 0 ∧
      (readResultsLoop (fuel + 1) state stdinOpen major minor buffer w).2.2.2.trace
        = w.trace := by
  have hst : state ≠ 2 := by rcases hty with ⟨rfl, -⟩ | ⟨rfl, -⟩ <;> decide
  obtain ⟨buf₁, rx₁, -, hb₁, h₁⟩ :=
    readResultsLoop_frame fuel stdinOpen major minor buffer hst hp hf hd
  rw [← (load_frame hf.1 hf.2.2 hb₁).1] at hty
  obtain ⟨rc, hsw, hrc⟩ :=
    resultsSwitch_reject stdinOpen major minor (w := { w with rx := rx₁, polls := ps }) hty
  rw [h₁, hsw]
  exact ⟨hrc, rfl⟩

end Loop

/-! ## The language -/

section Language

variable (buffer : Mem) (major minor : Int) {w : World} {pre : List (List UInt8)} {n m : Nat}

/-- After the frames `pre`, `_twopence_read_results` is in state 0 with the status values as
they were, and `pre` has made its events. -/
theorem readResults_after_pre
    (hpre : ∀ f ∈ pre, WellFormed bufferSize f ∧ isResultData (f.headD 0))
    (hw : Cooperative (pre.length + (n + 2)) (m + echoes pre) w) {r : List UInt8}
    (hd : Delivers w.rx (pre.flatten ++ r)) :
    ∃ so buf w₁,
      readResults buffer major minor w = readResultsLoop (n + 2 + 1) 0 so major minor buf w₁ ∧
        Cooperative (n + 2) m w₁ ∧ Delivers w₁.rx r ∧
        w₁.trace = w.trace ++ pre.flatMap resultEvents := by
  have hfuel : w.polls.length + 1 = n + 2 + 1 + pre.length := by
    rw [hw.polls, List.length_replicate]; omega
  rw [readResults, hfuel]
  exact readResultsLoop_prefix (n + 2 + 1) major minor pre hpre true buffer hw hd

/-- After the frames `pre`, a major and then a minor status make `_twopence_read_results` return
0, reading nothing after them. -/
theorem readResults_accept
    (hpre : ∀ f ∈ pre, WellFormed bufferSize f ∧ isResultData (f.headD 0))
    (hw : Cooperative (pre.length + (n + 2)) (m + echoes pre) w) {fM fm s : List UInt8}
    (hM : WellFormed bufferSize fM) (hM₀ : fM.headD 0 = byte 'M')
    (hm : WellFormed bufferSize fm) (hm₀ : fm.headD 0 = byte 'm')
    (hd : Delivers w.rx (pre.flatten ++ fM ++ fm ++ s)) :
    ∃ major' minor' w', readResults buffer major minor w = (0, major', minor', w') ∧
      w'.trace = w.trace ++ pre.flatMap resultEvents ∧ Delivers w'.rx s := by
  obtain ⟨so, buf, w₁, h, hw₁, hd₁, htr⟩ :=
    readResults_after_pre buffer major minor hpre hw (by simpa only [List.append_assoc] using hd)
  obtain ⟨buf₂, w₂, h₂, hw₂, hd₂, htr₂⟩ :=
    readResultsLoop_major (n + 2) so major minor buf hM hM₀ hw₁ hd₁
  obtain ⟨major', minor', w₃, h₃, htr₃, hd₃⟩ :=
    readResultsLoop_minor (n + 1) so _ minor buf₂ hm hm₀ hw₂ hd₂
  exact ⟨major', minor', w₃, by rw [h, h₂, h₃], by rw [htr₃, htr₂, htr], hd₃⟩

/-- **What `_twopence_read_results` accepts.** Take a world where the link has input at every
poll and standard input never does, every send takes a whole buffer and the sink every byte, and
frames `pre` of types `'0'`, `'E'`, `'1'` and `'2'` first on the link. Then:
* a major and then a minor status make the function return 0, reading nothing after them;
* a frame of any other type, a frame other than the minor status after the major one, or no
  well-formed frame where one is due, makes it return a negative code.

In every case the trace holds what `pre` made and nothing else: the `'0'` and `'E'` frames sent
back to the link, and the payloads of the `'1'` and `'2'` frames output in order. -/
theorem readResults_language
    (hpre : ∀ f ∈ pre, WellFormed bufferSize f ∧ isResultData (f.headD 0))
    (hw : Cooperative (pre.length + (n + 2)) (m + echoes pre) w) :
    (∀ fM fm s, WellFormed bufferSize fM → fM.headD 0 = byte 'M' →
      WellFormed bufferSize fm → fm.headD 0 = byte 'm' →
      Delivers w.rx (pre.flatten ++ fM ++ fm ++ s) →
      ∃ major' minor' w', readResults buffer major minor w = (0, major', minor', w') ∧
        w'.trace = w.trace ++ pre.flatMap resultEvents ∧ Delivers w'.rx s) ∧
    (∀ f s, WellFormed bufferSize f → isResultData (f.headD 0) = false →
      f.headD 0 ≠ byte 'M' → Delivers w.rx (pre.flatten ++ f ++ s) →
      Refused w (pre.flatMap resultEvents) (readResults buffer major minor w)) ∧
    (∀ fM g s, WellFormed bufferSize fM → fM.headD 0 = byte 'M' →
      WellFormed bufferSize g → g.headD 0 ≠ byte 'm' →
      Delivers w.rx (pre.flatten ++ fM ++ g ++ s) →
      Refused w (pre.flatMap resultEvents) (readResults buffer major minor w)) ∧
    (∀ r, Delivers w.rx (pre.flatten ++ r) → (∀ f s, WellFormed bufferSize f → r ≠ f ++ s) →
      Refused w (pre.flatMap resultEvents) (readResults buffer major minor w)) ∧
    (∀ fM r, WellFormed bufferSize fM → fM.headD 0 = byte 'M' →
      Delivers w.rx (pre.flatten ++ fM ++ r) → (∀ f s, WellFormed bufferSize f → r ≠ f ++ s) →
      Refused w (pre.flatMap resultEvents) (readResults buffer major minor w)) := by
  have hpre' := @readResults_after_pre buffer major minor w pre n m hpre hw
  refine ⟨fun _ _ _ hM hM₀ hm hm₀ hd =>
    readResults_accept buffer major minor hpre hw hM hM₀ hm hm₀ hd,
    ?refused, ?afterMajor, ?noFrame, ?noFrameAfterMajor⟩
  case refused =>
    intro f s hf hty hM hd
    obtain ⟨so, buf, w₁, h, hw₁, hd₁, htr⟩ :=
      hpre' (by simpa only [List.append_assoc] using hd)
    have hr := readResultsLoop_refused (n + 2) so major minor buf hw₁.polls hf hd₁
      (.inl ⟨rfl, hty, hM⟩)
    rw [h]; exact ⟨hr.1, by rw [hr.2, htr]⟩
  case afterMajor =>
    intro fM g s hM hM₀ hg hg₀ hd
    obtain ⟨so, buf, w₁, h, hw₁, hd₁, htr⟩ :=
      hpre' (by simpa only [List.append_assoc] using hd)
    obtain ⟨buf₂, w₂, h₂, hw₂, hd₂, htr₂⟩ :=
      readResultsLoop_major (n + 2) so major minor buf hM hM₀ hw₁ hd₁
    have hr := readResultsLoop_refused (n + 1) so ((sscanfInt buf₂ 4).getD major) minor buf₂
      hw₂.polls hg hd₂ (.inr ⟨rfl, hg₀⟩)
    rw [h, h₂]; exact ⟨hr.1, by rw [hr.2, htr₂, htr]⟩
  case noFrame =>
    intro r hd hno
    obtain ⟨so, buf, w₁, h, hw₁, hd₁, htr⟩ := hpre' hd
    have hr := readResultsLoop_no_frame (n + 2) so major minor buf (show (0 : Nat) ≠ 2 by decide)
      hw₁.polls hd₁ hno
    rw [h]; exact ⟨by rw [hr.1]; exact Error.code_neg _, by rw [hr.2, htr]⟩
  case noFrameAfterMajor =>
    intro fM r hM hM₀ hd hno
    obtain ⟨so, buf, w₁, h, hw₁, hd₁, htr⟩ :=
      hpre' (by simpa only [List.append_assoc] using hd)
    obtain ⟨buf₂, w₂, h₂, hw₂, hd₂, htr₂⟩ :=
      readResultsLoop_major (n + 2) so major minor buf hM hM₀ hw₁ hd₁
    have hr := readResultsLoop_no_frame (n + 1) so ((sscanfInt buf₂ 4).getD major) minor buf₂
      (show (1 : Nat) ≠ 2 by decide) hw₂.polls hd₂ hno
    rw [h, h₂]; exact ⟨by rw [hr.1]; exact Error.code_neg _, by rw [hr.2, htr₂, htr]⟩

end Language

/-- A world with a `'1'` frame, a major and a minor status on the link, and three polls. -/
def outputWorld : World :=
  ⟨3, 0, 0, [.recv [49, 0, 0, 5, 104, 77, 0, 0, 6, 48, 0, 109, 0, 0, 6, 48, 0]], [],
    List.replicate 3 (.ready true false), [], [], [], [], []⟩

theorem readResults_language_output :
    ∃ major' minor' w', readResults (fun _ => 0) 0 0 outputWorld = (0, major', minor', w') ∧
      w'.trace = [.stdout 104] ∧ Delivers w'.rx [] := by
  have hpre : ∀ f ∈ [[(49 : UInt8), 0, 0, 5, 104]],
      WellFormed bufferSize f ∧ isResultData (f.headD 0) := by
    intro f hf
    rw [List.mem_singleton.mp hf]
    exact ⟨by decide, rfl⟩
  obtain ⟨major', minor', w', h, htr, hd⟩ :=
    (readResults_language (fun _ => 0) 0 0 (w := outputWorld) (n := 0) (m := 0) hpre
      ⟨rfl, rfl, rfl⟩).1 [77, 0, 0, 6, 48, 0] [109, 0, 0, 6, 48, 0] [] (by decide) rfl
      (by decide) rfl (.cons (by decide) .nil)
  exact ⟨major', minor', w', h, by rw [htr]; rfl, hd⟩

/-- A world with a `'0'` frame, a major and a minor status on the link, three polls, and one
send. -/
def echoWorld : World :=
  ⟨3, 0, 0, [.recv [48, 0, 0, 5, 120, 77, 0, 0, 6, 48, 0, 109, 0, 0, 6, 48, 0]],
    [.sent bufferSize], List.replicate 3 (.ready true false), [], [], [], [], []⟩

/-- **A data frame from the link is sent back.** A `'0'` frame arriving on the link before the
status frames is not refused: it goes back out on the link whole, and the function returns 0. -/
theorem readResults_echo :
    ∃ w', readResults (fun _ => 0) 7 7 echoWorld = (0, 0, 0, w') ∧
      w'.trace = [.sent [48, 0, 0, 5, 120]] :=
  ⟨_, rfl, rfl⟩

/-! ## Bytes the frame did not write -/

/-- A world with the major status frame `'M'` with payload `"1"`, unterminated, and then the minor
status `"0"`, on the link. -/
def staleWorld : World :=
  ⟨3, 0, 0, [.recv [77, 0, 0, 5, 49, 109, 0, 0, 6, 48, 0]], [],
    List.replicate 2 (.ready true false), [], [], [], [], []⟩

/-- **The status values read stale bytes.** The frames are the same, and only the receive buffer
differs beforehand, at the byte after the major status's one-byte payload: `sscanf` reads on
into it, and `_twopence_read_major` and `_twopence_read_results` report 17 where the frame says
1. -/
theorem readResults_stale :
    (readResults (fun i => if i = 5 then byte '7' else 0) 0 0 staleWorld).2.1 = 17 ∧
      (readResults (fun _ => 0) 0 0 staleWorld).2.1 = 1 ∧
      (readMajor staleWorld (fun i => if i = 5 then byte '7' else 0) 0).2.1 = 17 ∧
      (readMajor staleWorld (fun _ => 0) 0).2.1 = 1 :=
  ⟨rfl, rfl, rfl, rfl⟩

/-! ## Standard input

Each function of the reply loop commutes with a change of the world's standard input: no branch
that runs reads it. -/

section Stdin

variable (x : List FileRead)

theorem sendbuf_stdin (w : World) (buffer : Mem) (count : Nat) :
    { w with stdin := x }.sendbuf buffer count =
      ((w.sendbuf buffer count).1, { (w.sendbuf buffer count).2 with stdin := x }) :=
  rfl

theorem sinkWrite_stdin (w : World) (e : ClientEvent) :
    { w with stdin := x }.sinkWrite e = ((w.sinkWrite e).1, { (w.sinkWrite e).2 with stdin := x }) := by
  obtain ⟨_, _, _, _, _, _, _, _, _, _ | ⟨_ | _, _⟩, _⟩ := w <;> rfl

theorem outputLoop_stdin (toStderr : Bool) : ∀ (bytes : List UInt8) (w : World),
    World.outputLoop toStderr bytes { w with stdin := x } =
      ((World.outputLoop toStderr bytes w).1, { (World.outputLoop toStderr bytes w).2 with stdin := x })
  | [], _ => rfl
  | c :: cs, w => by
    have hr : (if toStderr then { w with stdin := x }.pipeError c else { w with stdin := x }.pipeOutput c) =
        ((if toStderr then w.pipeError c else w.pipeOutput c).1,
          { (if toStderr then w.pipeError c else w.pipeOutput c).2 with stdin := x }) := by
      cases toStderr <;> exact sinkWrite_stdin x w _
    rw [World.outputLoop, World.outputLoop, hr]
    generalize (if toStderr then w.pipeError c else w.pipeOutput c) = r
    obtain ⟨_ | _, w'⟩ := r
    · rfl
    · exact outputLoop_stdin toStderr cs w'

theorem pipeRecvbufBoth_stdin (stdinOpen : Bool) (size : Nat) (buffer : Mem) :
    ∀ (polls : List BothPoll) (w : World),
      pipeRecvbufBoth stdinOpen size buffer { w with stdin := x } polls =
        let r := pipeRecvbufBoth stdinOpen size buffer w polls
        (r.1, r.2.1, { r.2.2 with stdin := x })
  | [], _ => rfl
  | .error true :: polls, w => pipeRecvbufBoth_stdin stdinOpen size buffer polls w
  | .error false :: _, _ => rfl
  | .timeout :: _, _ => rfl
  | .ready true _ :: _, _ => rfl
  | .ready false _ :: polls, w => by
    simp only [pipeRecvbufBoth, Bool.false_eq_true, if_false, Bool.and_false]
    exact pipeRecvbufBoth_stdin stdinOpen size buffer polls w

theorem resultsSwitch_stdin (state : Nat) (stdinOpen : Bool) (major minor : Int) (buffer : Mem)
    (w : World) :
    resultsSwitch state stdinOpen major minor buffer { w with stdin := x } =
      ((resultsSwitch state stdinOpen major minor buffer w).map
        fun r => (r.1, r.2.1, r.2.2.1, r.2.2.2.1, { r.2.2.2.2 with stdin := x })).mapError
        fun r => (r.1, { r.2 with stdin := x }) := by
  unfold resultsSwitch
  simp only [sendbuf_stdin, outputLoop_stdin, apply_ite (Except.map _),
    apply_ite (Except.mapError _)]
  rfl

theorem readResultsLoop_stdin : ∀ (fuel state : Nat) (stdinOpen : Bool) (major minor : Int)
    (buffer : Mem) (w : World),
    readResultsLoop fuel state stdinOpen major minor buffer { w with stdin := x } =
      let r := readResultsLoop fuel state stdinOpen major minor buffer w
      (r.1, r.2.1, r.2.2.1, { r.2.2.2 with stdin := x })
  | 0, _, _, _, _, _, _ => rfl
  | fuel + 1, state, stdinOpen, major, minor, buffer, w => by
    rw [readResultsLoop, readResultsLoop]
    by_cases h2 : state = 2
    · simp only [if_pos h2]
    rw [if_neg h2, if_neg h2]
    dsimp only
    rw [pipeRecvbufBoth_stdin]
    dsimp only
    by_cases hrc : (pipeRecvbufBoth stdinOpen bufferSize buffer w w.polls).1 ≠ 0
    · rw [if_pos hrc, if_pos hrc]
    rw [if_neg hrc, if_neg hrc, resultsSwitch_stdin]
    rcases resultsSwitch state stdinOpen major minor _ _ with ⟨rc, w'⟩ | ⟨state', stdinOpen', major', minor', w'⟩
    · rfl
    · exact readResultsLoop_stdin fuel state' stdinOpen' major' minor' _ w'

end Stdin

/-- Standard input holds the chunk `"hi"`; `poll` finds it readable and the link not, then the link
readable twice, with the major status `"0"` and the minor status `"0"`. -/
def stdinWorld : World :=
  ⟨3, 0, 0, [.recv [77, 0, 0, 6, 48, 0, 109, 0, 0, 6, 48, 0]], [],
    [.ready false true, .ready true false, .ready true false], [.data [104, 105]], [], [], [], []⟩

/-- **Standard input is never forwarded.** A `poll` that reports standard input readable and the
link not is passed over like a timeout that is retried, whatever standard input holds; and every
run of `_twopence_read_results` with other standard input is the same run, so no chunk of it is
ever sent. On `stdinWorld` the chunk stays unread and nothing is sent, and the results are still
read. -/
theorem readResults_ignores_stdin :
    (∀ (stdinOpen : Bool) (size : Nat) (buffer : Mem) (w : World) (stdinReady : Bool)
        (polls : List BothPoll),
      pipeRecvbufBoth stdinOpen size buffer w (.ready false stdinReady :: polls) =
        pipeRecvbufBoth stdinOpen size buffer w polls) ∧
    (∀ (buffer : Mem) (major minor : Int) (w : World) (stdin : List FileRead),
      readResults buffer major minor { w with stdin := stdin } =
        let r := readResults buffer major minor w
        (r.1, r.2.1, r.2.2.1, { r.2.2.2 with stdin := stdin })) ∧
    ∃ w', readResults (fun _ => 0) 7 7 stdinWorld = (0, 0, 0, w') ∧ w'.trace = [] ∧
      w'.stdin = [.data [104, 105]] := by
  refine ⟨fun stdinOpen size buffer w _ polls => ?_, fun buffer major minor w stdin =>
    readResultsLoop_stdin stdin _ 0 true major minor buffer w, _, rfl, rfl, rfl⟩
  simp only [pipeRecvbufBoth, Bool.false_eq_true, if_false, Bool.and_false]

end Twopence
