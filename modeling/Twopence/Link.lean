import Twopence.Wire

/-!
# The link: receive and send loops

`__twopence_pipe_recvbuf` and `__twopence_pipe_sendbuf`, the two loops every client frame goes
through. Each runs rounds of "poll, then one call of the plug-in's `recv` or `send`" until the
requested count is reached or a round fails.

## What the operating system says is an input

The outcome of every round is an input of the model: a list of rounds, consumed one per loop
iteration, as the operating system would hand them out. Quantifying over the list quantifies over
every schedule the link can produce — every way the peer's bytes are split into `recv` results,
every timeout, every error. Two conventions make this total:

* a `recv` result carries the bytes the link has ready, and returns only as many as were asked
  for; the surplus stays at the head of the link for the next round, exactly as a byte pipe keeps
  unread input. So every chunking of a stream is a list of rounds, and a list of rounds never
  hands back more than was requested;
* once the listed rounds are used up the link stays silent, and the next poll times out.

The second convention is also what makes the loops total. A `send` that keeps accepting zero
bytes keeps the send loop where it was (`pipeSendbuf_sent_zero`); only a round of another kind
moves it on. A link that never falls silent is a function from the round's number to the round;
`sendbufRun` runs the send loop on it one iteration at a time, and agrees with `pipeSendbuf` on
every list followed by silence (`sendbufRun_getD`).

## Main results

* `pipeRecvbuf_delivers` — on a link that delivers enough bytes, the loop stores exactly the
  next `size - received` of them and leaves the rest of the stream on the link
* `pipeRecvbuf_apply_of_not_mem` — whatever the link does, the loop stores only into
  `buffer[received, size)`
* `pipeRecvbuf_rc` — it returns the full count or a negative code
* `pipeSendbuf_wire` — a send that returns a count put exactly the buffer on the link
* `sendbufRun_progress` — on a link whose sends all make progress the send loop returns within
  `count + 1` iterations; `sendbufRun_sent_zero` — on one whose sends accept nothing it never does
-/

namespace Twopence

/-! ## Receiving -/

/-- One round of the loop in `__twopence_pipe_recvbuf`: the poll for input and, when it reports
the link readable, the one call of the plug-in's `recv` that follows. -/
inductive RecvRound
  /-- `poll` failed. -/
  | pollError
  /-- `poll` timed out, or reported the link without input. -/
  | timeout
  /-- `recv` failed with the negative code `rc`. -/
  | recvError (rc : {r : Int // r < 0})
  /-- The link had `chunk` ready; `recv` returns as much of it as was asked for, and `[]` is the
  end of the stream. -/
  | recv (chunk : List UInt8)
  deriving DecidableEq, Repr

/-- What a receive on the link leaves behind: the C function's return value, the buffer, and the
rounds the link has not played yet. -/
structure Received where
  /-- The return value. -/
  rc : Int
  /-- The buffer. -/
  mem : Mem
  /-- The rest of the link. -/
  rest : List RecvRound

/-- `__twopence_pipe_recvbuf`: receive into `buffer` until `size` bytes are there, `received` of
which already are. The loop ends with `received = size`, which it returns; a failed round returns
its negative code at once. -/
def pipeRecvbuf (buffer size : Nat) : Nat → Mem → List RecvRound → Received
  | received, mem, rounds =>
    if received < size then
      match rounds with
      | [] => ⟨Error.protocol.code, mem, []⟩
      | .pollError :: rest => ⟨Error.protocol.code, mem, rest⟩
      | .timeout :: rest => ⟨Error.protocol.code, mem, rest⟩
      | .recvError rc :: rest => ⟨rc.1, mem, rest⟩
      | .recv [] :: rest => ⟨Error.protocol.code, mem, rest⟩
      | .recv (b :: bs) :: rest =>
        let mem' := mem.store (buffer + received) ((b :: bs).take (size - received))
        if (b :: bs).length < size - received then
          pipeRecvbuf buffer size (received + (b :: bs).length) mem' rest
        else
          ⟨size, mem', if size - received < (b :: bs).length
            then .recv ((b :: bs).drop (size - received)) :: rest else rest⟩
    else ⟨received, mem, rounds⟩

/-- `Delivers rounds s`: in these rounds the link hands over exactly the bytes `s`, every round a
`recv` of at least one byte. -/
inductive Delivers : List RecvRound → List UInt8 → Prop
  | nil : Delivers [] []
  | cons {chunk : List UInt8} {rounds : List RecvRound} {s : List UInt8} :
      chunk ≠ [] → Delivers rounds s → Delivers (.recv chunk :: rounds) (chunk ++ s)

/-- The bytes the link still holds in `rounds`. -/
def pendingBytes (rounds : List RecvRound) : Nat :=
  (rounds.map fun | .recv chunk => chunk.length | _ => 0).sum

/-- A link that delivers `s` holds exactly its bytes. -/
theorem Delivers.pendingBytes_eq {rounds : List RecvRound} {s : List UInt8} (hd : Delivers rounds s) :
    pendingBytes rounds = s.length := by
  induction hd with
  | nil => rfl
  | cons _ _ ih =>
    simp only [pendingBytes, List.map_cons, List.sum_cons] at ih ⊢
    rw [ih, List.length_append]

section Recv

variable {buffer size received : Nat} {mem : Mem}

@[simp] theorem pipeRecvbuf_of_le (h : size ≤ received) (rounds : List RecvRound) :
    pipeRecvbuf buffer size received mem rounds = ⟨received, mem, rounds⟩ := by
  rw [pipeRecvbuf.eq_def]; exact if_neg (by omega)

/-- Whatever the link does, the loop returns the full count or a negative code. -/
theorem pipeRecvbuf_rc (rounds : List RecvRound) (h : received ≤ size) :
    (pipeRecvbuf buffer size received mem rounds).rc = size ∨
      (pipeRecvbuf buffer size received mem rounds).rc < 0 := by
  induction rounds generalizing received mem with
  | nil =>
    rcases Nat.lt_or_ge received size with hlt | hge
    · simp [pipeRecvbuf, hlt, Error.code_neg]
    · simp [pipeRecvbuf_of_le hge, show received = size by omega]
  | cons round rest ih =>
    rcases Nat.lt_or_ge received size with hlt | hge
    · rcases round with _ | _ | ⟨rc, hrc⟩ | _ | ⟨b, bs⟩
      all_goals rw [pipeRecvbuf, if_pos hlt]
      · simp [Error.code_neg]
      · simp [Error.code_neg]
      · exact .inr hrc
      · simp [Error.code_neg]
      · dsimp only; split
        · exact ih (by omega)
        · simp
    · simp [pipeRecvbuf_of_le hge, show received = size by omega]

/-- **Memory safety.** Whatever the link does, the loop stores only into
`buffer[received, size)`. -/
theorem pipeRecvbuf_apply_of_not_mem (rounds : List RecvRound) {i : Nat}
    (hi : i < buffer + received ∨ buffer + size ≤ i) :
    (pipeRecvbuf buffer size received mem rounds).mem i = mem i := by
  induction rounds generalizing received mem with
  | nil => rw [pipeRecvbuf]; split <;> rfl
  | cons round rest ih =>
    rcases round with _ | _ | _ | _ | ⟨b, bs⟩
    all_goals rw [pipeRecvbuf]; split
    iterate 8 rfl
    · dsimp only; split
      · rw [ih (by omega), Mem.store_apply_of_not_mem (by simp only [List.length_take]; omega)]
      · exact Mem.store_apply_of_not_mem (by simp only [List.length_take]; omega)
    · rfl

/-- **Receiving from a stream.** On a link that delivers at least the missing `size - received`
bytes, the loop stores exactly the next ones, returns `size`, and leaves the remainder of the
stream on the link, followed by whatever came after it. -/
theorem pipeRecvbuf_delivers (buffer size received : Nat) (mem : Mem)
    {rounds : List RecvRound} {s : List UInt8} (hd : Delivers rounds s)
    (hr : received ≤ size) (hs : size - received ≤ s.length) (tail : List RecvRound) :
    (pipeRecvbuf buffer size received mem (rounds ++ tail)).rc = size ∧
      (pipeRecvbuf buffer size received mem (rounds ++ tail)).mem
        = mem.store (buffer + received) (s.take (size - received)) ∧
      ∃ rest, (pipeRecvbuf buffer size received mem (rounds ++ tail)).rest = rest ++ tail ∧
        Delivers rest (s.drop (size - received)) := by
  induction hd generalizing received mem with
  | nil =>
    obtain rfl : received = size := by simp at hs; omega
    rw [List.nil_append, pipeRecvbuf_of_le (le_refl _)]
    exact ⟨rfl, by simp, [], rfl, by simpa using Delivers.nil⟩
  | @cons chunk rounds s hc hd ih =>
    rcases Nat.lt_or_ge received size with hlt | hge
    · obtain ⟨b, bs, rfl⟩ := List.exists_cons_of_ne_nil hc
      have hlen : (b :: bs).length = bs.length + 1 := rfl
      simp only [List.length_append, hlen] at hs
      rw [List.cons_append, pipeRecvbuf, if_pos hlt]
      dsimp only
      split
      · rename_i hshort
        have ht : (b :: bs).take (size - received) = b :: bs := List.take_of_length_le (by omega)
        obtain ⟨h₁, h₂, rest, h₃, h₄⟩ := ih (received + (b :: bs).length)
          (mem.store (buffer + received) ((b :: bs).take (size - received))) (by omega)
          (by omega)
        have hsub : size - received - (b :: bs).length = size - (received + (b :: bs).length) := by
          omega
        refine ⟨h₁, ?_, rest, h₃, ?_⟩
        · rw [h₂, ht, ← Nat.add_assoc, Mem.store_append, List.take_append_eq_append_take, ht, hsub]
        · rwa [List.drop_append_eq_append_drop, List.drop_of_length_le (by omega), List.nil_append,
            hsub]
      · refine ⟨rfl, by rw [List.take_append_of_le_length (by omega)], ?_⟩
        rw [List.drop_append_of_le_length (by omega)]
        split
        · exact ⟨_, rfl, .cons (by simp; omega) hd⟩
        · rw [List.drop_of_length_le (by omega)]; exact ⟨_, rfl, hd⟩
    · obtain rfl : received = size := by omega
      rw [List.cons_append, pipeRecvbuf_of_le (le_refl _)]
      exact ⟨rfl, by simp, _, rfl, by simpa using Delivers.cons hc hd⟩

/-- **A stream that ends too soon.** When the link delivers fewer bytes than are missing and then
falls silent, the loop returns `TWOPENCE_PROTOCOL_ERROR`. -/
theorem pipeRecvbuf_short (buffer size received : Nat) (mem : Mem) {rounds : List RecvRound}
    {s : List UInt8} (hd : Delivers rounds s)
    (hs : s.length < size - received) :
    (pipeRecvbuf buffer size received mem rounds).rc = Error.protocol.code := by
  induction hd generalizing received mem with
  | nil => rw [pipeRecvbuf, if_pos (by simp at hs; omega)]
  | @cons chunk rounds s hc hd ih =>
    obtain ⟨b, bs, rfl⟩ := List.exists_cons_of_ne_nil hc
    rw [pipeRecvbuf, if_pos (by simp at hs; omega)]
    dsimp only
    rw [if_pos (by simp at hs ⊢; omega)]
    exact ih (received + (b :: bs).length) _ (by simp at hs ⊢; omega)

/-- A receive that fills the buffer takes exactly the missing bytes off the link. -/
theorem pipeRecvbuf_pending (rounds : List RecvRound) (hr : received ≤ size)
    (h : (pipeRecvbuf buffer size received mem rounds).rc = size) :
    pendingBytes (pipeRecvbuf buffer size received mem rounds).rest + (size - received)
      = pendingBytes rounds := by
  induction rounds generalizing received mem with
  | nil =>
    rcases Nat.lt_or_ge received size with hlt | hge
    · rw [pipeRecvbuf, if_pos hlt] at h; have := Error.code_neg .protocol; dsimp only at h; omega
    · rw [pipeRecvbuf_of_le hge]; simp [show size - received = 0 by omega]
  | cons round rest ih =>
    rcases Nat.lt_or_ge received size with hlt | hge
    · have hneg := Error.code_neg .protocol
      rcases round with _ | _ | ⟨rc, hrc⟩ | _ | ⟨b, bs⟩
      all_goals rw [pipeRecvbuf, if_pos hlt] at h ⊢
      · dsimp only at h; omega
      · dsimp only at h; omega
      · dsimp only at h; omega
      · dsimp only at h; omega
      · dsimp only at h ⊢
        split at h
        · rw [if_pos ‹_›]
          have := ih (by omega) h
          simp only [pendingBytes, List.map_cons, List.sum_cons] at this ⊢
          omega
        · rw [if_neg ‹_›]
          simp only [pendingBytes, List.map_cons, List.sum_cons]
          split
          · simp only [List.map_cons, List.sum_cons, List.length_drop]; omega
          · omega
    · rw [pipeRecvbuf_of_le hge]; simp [show size - received = 0 by omega]

end Recv

/-! ## Sending -/

/-- One round of the loop in `__twopence_pipe_sendbuf`: the poll for output and, when it reports
the link writable, the one call of the plug-in's `send` that follows. -/
inductive SendRound
  /-- `poll` failed. -/
  | pollError
  /-- `poll` timed out, or reported the link not writable. -/
  | timeout
  /-- `send` failed with the negative code `rc`. -/
  | sendError (rc : {r : Int // r < 0})
  /-- `send` accepted `n` bytes, or all it was offered if that is fewer. -/
  | sent (n : Nat)
  deriving DecidableEq, Repr

/-- What a send on the link leaves behind: the C function's return value, the bytes the link
accepted, in order, and the rounds it has not played yet. -/
structure Sent where
  /-- The return value. -/
  rc : Int
  /-- The bytes that went out on the link. -/
  wire : List UInt8
  /-- The rest of the link. -/
  rest : List SendRound

/-- `__twopence_pipe_sendbuf`: send `buffer[sent, count)`. The loop ends with `sent = count`, which
it returns; a failed round returns its negative code at once. -/
def pipeSendbuf (buffer count : Nat) (mem : Mem) : Nat → List SendRound → Sent
  | sent, rounds =>
    if sent < count then
      match rounds with
      | [] => ⟨Error.protocol.code, [], []⟩
      | .pollError :: rest => ⟨Error.protocol.code, [], rest⟩
      | .timeout :: rest => ⟨Error.protocol.code, [], rest⟩
      | .sendError rc :: rest => ⟨rc.1, [], rest⟩
      | .sent n :: rest =>
        let r := pipeSendbuf buffer count mem (sent + min n (count - sent)) rest
        ⟨r.rc, mem.load (buffer + sent) (min n (count - sent)) ++ r.wire, r.rest⟩
    else ⟨sent, [], rounds⟩

section Send

variable {buffer count sent : Nat} {mem : Mem}

@[simp] theorem pipeSendbuf_of_le (h : count ≤ sent) (rounds : List SendRound) :
    pipeSendbuf buffer count mem sent rounds = ⟨sent, [], rounds⟩ := by
  rw [pipeSendbuf.eq_def]; exact if_neg (by omega)

/-- **The send returns the count or a negative code.** So it never returns 0 when there is
something to send. -/
theorem pipeSendbuf_rc : ∀ (sent : Nat) (rounds : List SendRound), sent ≤ count →
    (pipeSendbuf buffer count mem sent rounds).rc = count ∨
      (pipeSendbuf buffer count mem sent rounds).rc < 0 := by
  intro sent rounds h
  induction rounds generalizing sent with
  | nil =>
    rw [pipeSendbuf.eq_def]; dsimp only
    split_ifs with hs
    · exact .inr (Error.code_neg .protocol)
    · exact .inl (by rw [Nat.le_antisymm h (Nat.not_lt.mp hs)])
  | cons r rest ih =>
    rw [pipeSendbuf.eq_def]; dsimp only
    split_ifs with hs
    · cases r with
      | pollError => exact .inr (Error.code_neg .protocol)
      | timeout => exact .inr (Error.code_neg .protocol)
      | sendError rc => exact .inr rc.2
      | sent n => exact ih _ (by omega)
    · exact .inl (by rw [Nat.le_antisymm h (Nat.not_lt.mp hs)])

/-- The bytes a first `send` of `n` bytes puts on the link, before those of the rounds after it. -/
theorem pipeSendbuf_sent_wire (h : 0 < count) (n : Nat) (rest : List SendRound) :
    (pipeSendbuf buffer count mem 0 (.sent n :: rest)).wire =
      mem.load buffer (min n count) ++ (pipeSendbuf buffer count mem (min n count) rest).wire := by
  rw [pipeSendbuf, if_pos h]
  simp

/-- A `send` that accepts nothing leaves the loop where it was. -/
theorem pipeSendbuf_sent_zero (h : sent < count) (rest : List SendRound) :
    pipeSendbuf buffer count mem sent (.sent 0 :: rest) = pipeSendbuf buffer count mem sent rest := by
  rw [pipeSendbuf, if_pos h]; simp [Mem.load]

/-- **A send that returns a count put exactly the buffer on the link.** A non-negative return
value is `count`, and then the byte ranges `send` accepted, in order, make up `buffer[sent, count)`. -/
theorem pipeSendbuf_wire (rounds : List SendRound) (h : sent ≤ count)
    (hrc : 0 ≤ (pipeSendbuf buffer count mem sent rounds).rc) :
    (pipeSendbuf buffer count mem sent rounds).rc = count ∧
      (pipeSendbuf buffer count mem sent rounds).wire = mem.load (buffer + sent) (count - sent) := by
  induction rounds generalizing sent with
  | nil =>
    rcases Nat.lt_or_ge sent count with hlt | hge
    · rw [pipeSendbuf, if_pos hlt] at hrc; exact absurd hrc (not_le.mpr (Error.code_neg .protocol))
    · simp [pipeSendbuf_of_le hge, Mem.load, show sent = count by omega]
  | cons r rest ih =>
    rcases Nat.lt_or_ge sent count with hlt | hge
    · cases r with
      | pollError =>
        rw [pipeSendbuf, if_pos hlt] at hrc; exact absurd hrc (not_le.mpr (Error.code_neg .protocol))
      | timeout =>
        rw [pipeSendbuf, if_pos hlt] at hrc; exact absurd hrc (not_le.mpr (Error.code_neg .protocol))
      | sendError rc => rw [pipeSendbuf, if_pos hlt] at hrc; exact absurd hrc (not_le.mpr rc.2)
      | sent n =>
        rw [pipeSendbuf, if_pos hlt] at hrc ⊢
        obtain ⟨h₁, h₂⟩ := ih (by omega : sent + min n (count - sent) ≤ count) hrc
        refine ⟨h₁, ?_⟩
        dsimp only
        rw [h₂, ← Nat.add_assoc, ← Mem.load_add]
        congr 1; omega
    · simp [pipeSendbuf_of_le hge, Mem.load, show sent = count by omega]

end Send

/-! ## The send loop on a link that never falls silent

A list of rounds is finite, and the link falls silent after it. A link can also keep answering
forever: the round it plays is then a function of the round's number, and the loop need not
return at all. So on such a link the loop is run one iteration at a time. -/

/-- Where the loop of `__twopence_pipe_sendbuf` stands between two iterations. -/
inductive SendLoop
  /-- Still in the loop, with `sent` bytes out. -/
  | sending (sent : Nat)
  /-- The function returned `rc`. -/
  | returned (rc : Int)
  deriving DecidableEq, Repr

/-- One test of `while (sent < count)` and, when it holds, one poll and one `send`. -/
def sendbufStep (count : Nat) (round : SendRound) : SendLoop → SendLoop
  | .sending sent =>
    if sent < count then
      match round with
      | .pollError => .returned Error.protocol.code
      | .timeout => .returned Error.protocol.code
      | .sendError rc => .returned rc.1
      | .sent n => .sending (sent + min n (count - sent))
    else .returned sent
  | .returned rc => .returned rc

/-- The loop after `k` iterations on the link `link`, which plays `link i` in iteration `i`. -/
def sendbufRun (count : Nat) : (Nat → SendRound) → Nat → SendLoop → SendLoop
  | _, 0, s => s
  | link, k + 1, s => sendbufRun count (fun i => link (i + 1)) k (sendbufStep count (link 0) s)

section Run

variable {count : Nat}

@[simp] theorem sendbufRun_returned (link : Nat → SendRound) (k : Nat) (rc : Int) :
    sendbufRun count link k (.returned rc) = .returned rc := by
  induction k generalizing link with
  | zero => rfl
  | succ k ih => exact ih _

/-- **Finite links refine.** On the list `rounds` followed by silence, the loop has returned after
`rounds.length + 1` iterations, and what it returned is `pipeSendbuf`'s value. -/
theorem sendbufRun_getD (buffer : Nat) (mem : Mem) (rounds : List SendRound) (sent : Nat) :
    sendbufRun count (fun i => rounds.getD i .timeout) (rounds.length + 1) (.sending sent) =
      .returned (pipeSendbuf buffer count mem sent rounds).rc := by
  induction rounds generalizing sent with
  | nil => by_cases h : sent < count <;> simp [sendbufRun, sendbufStep, pipeSendbuf, h]
  | cons r rest ih =>
    rw [List.length_cons, sendbufRun]
    by_cases h : sent < count
    · cases r <;> simp only [List.getD_cons_zero, List.getD_cons_succ, sendbufStep, if_pos h, ih,
        sendbufRun_returned] <;> rw [pipeSendbuf, if_pos h]
    · simp only [sendbufStep, if_neg h, sendbufRun_returned, pipeSendbuf_of_le (not_lt.mp h)]

/-- The invariant of the loop: while it runs, at most `count` bytes are out; once it has returned,
the value is the count or a negative code. `sendbufRun_ok` keeps it however long the link plays. -/
def SendLoop.Ok (count : Nat) : SendLoop → Prop
  | .sending sent => sent ≤ count
  | .returned rc => rc = count ∨ rc < 0

theorem sendbufStep_ok (round : SendRound) {s : SendLoop} (h : s.Ok count) :
    (sendbufStep count round s).Ok count := by
  cases s with
  | sending sent =>
    simp only [sendbufStep]
    by_cases hs : sent < count
    · rw [if_pos hs]
      cases round with
      | pollError => exact .inr (Error.code_neg _)
      | timeout => exact .inr (Error.code_neg _)
      | sendError rc => exact .inr rc.2
      | sent n => simp only [SendLoop.Ok]; omega
    · rw [if_neg hs]; exact .inl (by simp only [SendLoop.Ok] at h; omega)
  | returned rc => exact h

theorem sendbufRun_ok (link : Nat → SendRound) (k : Nat) {s : SendLoop} (h : s.Ok count) :
    (sendbufRun count link k s).Ok count := by
  induction k generalizing link s with
  | zero => exact h
  | succ k ih => exact ih _ (sendbufStep_ok _ h)

/-- **Progress ends the loop.** On a link whose every `send` accepts at least one byte, the loop
has returned after `count - sent + 1` iterations. -/
theorem sendbufRun_progress (link : Nat → SendRound) (hl : ∀ i n, link i = .sent n → 0 < n)
    (k sent : Nat) (hk : count - sent < k) :
    ∃ rc, sendbufRun count link k (.sending sent) = .returned rc := by
  induction k generalizing link sent with
  | zero => omega
  | succ k ih =>
    rw [sendbufRun]
    by_cases hs : sent < count
    · cases h : link 0 with
      | sent n =>
        have := hl 0 n h
        simp only [sendbufStep, if_pos hs]
        exact ih _ (fun i => hl (i + 1)) _ (by omega)
      | _ => simp [sendbufStep, hs]
    · simp [sendbufStep, hs]

/-- A `send` that keeps accepting nothing keeps the loop where it is, for ever. -/
theorem sendbufRun_sent_zero (k sent : Nat) (h : sent < count) :
    sendbufRun count (fun _ => .sent 0) k (.sending sent) = .sending sent := by
  induction k with
  | zero => rfl
  | succ k ih => simpa [sendbufRun, sendbufStep, h] using ih

/-- **The send loop returns.** On a link whose every `send` accepts at least one byte, whatever its
polls, timeouts and errors, the loop started with `sent ≤ count` bytes out has returned after
`count - sent + 1` iterations, and what it returned is `count` or a negative code. -/
theorem sendbufRun_returns (link : Nat → SendRound) (hl : ∀ i n, link i = .sent n → 0 < n)
    {sent : Nat} (hs : sent ≤ count) :
    ∃ rc, sendbufRun count link (count - sent + 1) (.sending sent) = .returned rc ∧
      (rc = count ∨ rc < 0) := by
  obtain ⟨rc, h⟩ := sendbufRun_progress link hl (count - sent + 1) sent (Nat.lt_succ_self _)
  have hok := sendbufRun_ok link (count - sent + 1) (s := .sending sent) hs
  rw [h] at hok
  exact ⟨rc, h, hok⟩

/-- A link that accepts one byte per `send`. -/
theorem sendbufRun_returns_oneByteSends :
    (∀ (i n : Nat), (fun _ => SendRound.sent 1) i = .sent n → 0 < n) ∧ 0 ≤ 3 ∧
      ∃ rc, sendbufRun 3 (fun _ => .sent 1) (3 - 0 + 1) (.sending 0) = .returned rc ∧
        (rc = (3 : Nat) ∨ rc < 0) :=
  have hl : ∀ (i n : Nat), (fun _ => SendRound.sent 1) i = .sent n → 0 < n := by
    rintro i n ⟨⟩; exact Nat.one_pos
  ⟨hl, Nat.zero_le _, sendbufRun_returns _ hl (Nat.zero_le _)⟩

end Run

/-- **A link that accepts nothing keeps the send loop for ever.** Whatever the link does, a
non-negative return of `__twopence_pipe_sendbuf` is `count`, and comes after `send` took exactly
`buffer[0, count)`. But on a link that is always writable and whose `send` always accepts zero
bytes, never more than it was offered, the loop is still at `sent = 0` after any number of
iterations; `__twopence_pipe_recvbuf` returns `TWOPENCE_PROTOCOL_ERROR` at the first `recv` of zero
bytes. -/
theorem pipeSendbuf_spins_on_zero_sends (buffer count : Nat) (mem : Mem) (hc : 0 < count) :
    (∀ rounds, 0 ≤ (pipeSendbuf buffer count mem 0 rounds).rc →
        (pipeSendbuf buffer count mem 0 rounds).rc = count ∧
          (pipeSendbuf buffer count mem 0 rounds).wire = mem.load buffer count) ∧
      (∀ k, sendbufRun count (fun _ => .sent 0) k (.sending 0) = .sending 0) ∧
      ∀ rest, (pipeRecvbuf buffer count 0 mem (.recv [] :: rest)).rc = Error.protocol.code :=
  ⟨fun rounds hrc => by simpa using pipeSendbuf_wire rounds (Nat.zero_le _) hrc,
    fun k => sendbufRun_sent_zero k 0 hc, fun rest => by rw [pipeRecvbuf, if_pos hc]⟩

theorem pipeSendbuf_spins_on_zero_sends_one :
    0 < 1 ∧ (∀ rounds, 0 ≤ (pipeSendbuf 0 1 (fun _ => 0) 0 rounds).rc →
        (pipeSendbuf 0 1 (fun _ => 0) 0 rounds).rc = 1 ∧
          (pipeSendbuf 0 1 (fun _ => 0) 0 rounds).wire = [0]) ∧
      (∀ k, sendbufRun 1 (fun _ => .sent 0) k (.sending 0) = .sending 0) ∧
      ∀ rest, (pipeRecvbuf 0 1 0 (fun _ => 0) (.recv [] :: rest)).rc = Error.protocol.code :=
  ⟨by decide, pipeSendbuf_spins_on_zero_sends 0 1 (fun _ => 0) (by decide)⟩

end Twopence
