import Twopence.Wire

/-!
# Sockets and channels

The data a transaction of `transaction.c` owns: its channels, each wrapping a non-blocking socket,
kept in two singly linked lists. The lists become Lean lists in the same order: attaching
prepends, as the C code links the new channel in at the head.

## Sockets are modelled from the spec

`twopence_sock_t` and its operations are not under `src/`. What `transaction.c` relies on is
modelled from the spec's contract for them (§3, §4.2): a socket has `dead`, `read_eof` and
`write_eof` flags, at most one posted receive buffer, and a send queue. `twopence_sock_doio`
fails, or reads into the posted buffer (a zero-byte read sets `read_eof`) and writes some queued
buffers; which of these happens is an input of the model, `SockIo`, so that a theorem over all of
them holds for every outcome of the real I/O. A `doio` never posts a buffer: only
`twopence_transaction_channel_poll` does, and that is what the plugging of a source rests on.

## Identity

The C code names a channel by its address. A `Channel` carries that address as `handle`, so that a
statement can follow one channel through a run while other channels come and go around it.

## Main definitions

* `Sock`, `SockIo`, `Sock.doio`, `Sock.takeRecvbuf` — the socket contract
* `Channel`, `Transaction.channelFromFd` — a channel and its creation
* `Transaction.channelListPurge`, `Transaction.channelListClose`, `Transaction.findSink` — the lists
* `Transaction.channelPoll`, `Transaction.pollChannels` — one channel's poll, and a list's
-/

namespace Twopence

/-! ## The protocol state and packets -/

/-- Modelled from the spec: `twopence_protocol_state_t`, "a small record with link version and
transaction id", is declared outside `src/`. -/
structure ProtocolState where
  /-- The link version negotiated when the link was opened. -/
  linkVersion : Nat
  /-- The transaction id, 0 on a legacy link. -/
  xid : Nat
  deriving DecidableEq, Repr

/-- A packet queued on a socket: its type, the protocol state its header was built from (`none` for
a packet built by a builder that is given no state), and its payload. -/
structure Packet where
  /-- The packet type, the first header byte. -/
  type : UInt8
  /-- The state handed to the header builder. -/
  ps : Option ProtocolState
  /-- The payload. -/
  payload : List UInt8
  deriving DecidableEq, Repr

/-- Modelled from the spec ("integer payloads are decimal ASCII"): the payload of
`twopence_protocol_build_uint_packet` and its `_ps` variant. -/
def uintPayload (value : Nat) : List UInt8 := (Nat.toDigits 10 value).map byte

/-- Modelled from the spec: `twopence_protocol_build_uint_packet_ps`, a packet of the given type
whose header is built from `ps` and whose payload is `value` in decimal. -/
def buildUintPacketPs (ps : ProtocolState) (type : UInt8) (value : Nat) : Packet :=
  ⟨type, some ps, uintPayload value⟩

/-- Modelled from the spec: `twopence_protocol_build_uint_packet`, the same packet built without a
protocol state. -/
def buildUintPacket (type : UInt8) (value : Nat) : Packet :=
  ⟨type, none, uintPayload value⟩

/-- The conversion of an `int` argument to `unsigned int`. -/
def uintValue (code : Int) : Nat := (code % 4294967296).toNat

/-! ## Sockets -/

/-- Modelled from the spec: `twopence_sock_t`. -/
structure Sock where
  /-- The file descriptor. -/
  fd : Int
  /-- An unrecoverable I/O error was seen. -/
  dead : Bool
  /-- A read returned zero bytes (or the socket only ever writes). -/
  readEof : Bool
  /-- The write side was shut down. -/
  writeEof : Bool
  /-- The posted receive buffer and the data read into it so far. -/
  recvbuf : Option (List UInt8)
  /-- The buffers waiting to be written. -/
  xmitQueue : List (List UInt8)
  deriving DecidableEq, Repr

/-- What one `twopence_sock_doio` call does. -/
inductive SockIo
  /-- It fails with `errno`. -/
  | error (errno : Int)
  /-- The read into the posted buffer, if one is posted, returns `rx` (`none` when no data is
  ready, `some []` at end of file), and the first `written` queued buffers are written out. -/
  | ok (rx : Option (List UInt8)) (written : Nat)
  deriving DecidableEq, Repr

namespace Sock

/-- Modelled from the spec: `twopence_sock_new_flags`, a live socket on `fd`; one opened write-only
has `read_eof` set at once, so that no receive buffer is ever posted to it. -/
def newFlags (fd : Int) (writeOnly : Bool) : Sock :=
  ⟨fd, false, writeOnly, false, none, []⟩

/-- The read of `twopence_sock_doio`, into the posted buffer if there is one. -/
def read (s : Sock) : Option (List UInt8) → Sock
  | none => s
  | some data =>
    match s.recvbuf with
    | none => s
    | some buf =>
      if data = [] then { s with readEof := true } else { s with recvbuf := some (buf ++ data) }

/-- Modelled from the spec: `twopence_sock_doio`; a negative return, with its `errno`, is an
error. -/
def doio (s : Sock) : SockIo → Except Int Sock
  | .error errno => .error errno
  | .ok rx written => .ok { s.read rx with xmitQueue := (s.read rx).xmitQueue.drop written }

/-- Modelled from the spec: `twopence_sock_take_recvbuf`, the posted buffer if data was read into
it, which is then no longer posted. -/
def takeRecvbuf (s : Sock) : Option (List UInt8) × Sock :=
  match s.recvbuf with
  | some (b :: bs) => (some (b :: bs), { s with recvbuf := none })
  | _ => (none, s)

/-- Modelled from the spec: `twopence_sock_fill_poll`. The socket asks for input while a receive
buffer is posted and it has not seen end of file, for output while its send queue is not empty,
and fills the slot when it asks for either. -/
def wantsPoll (s : Sock) : Bool :=
  (s.recvbuf.isSome && !s.readEof) || !s.xmitQueue.isEmpty

/-- A `doio` never posts a receive buffer. -/
theorem doio_recvbuf_none {s s' : Sock} {io : SockIo} (h : s.doio io = .ok s')
    (hs : s.recvbuf = none) : s'.recvbuf = none := by
  cases io with
  | error => cases h
  | ok rx written =>
    simp only [doio, Except.ok.injEq] at h
    subst h
    cases rx <;> simp [read, hs]

@[simp] theorem takeRecvbuf_none {s : Sock} (hs : s.recvbuf = none) : s.takeRecvbuf = (none, s) := by
  simp [takeRecvbuf, hs]

theorem takeRecvbuf_snd_recvbuf (s : Sock) (h : s.recvbuf.isNone) :
    s.takeRecvbuf.2.recvbuf = none := by
  cases hr : s.recvbuf <;> simp_all [takeRecvbuf]

/-- A `doio` keeps end of file. -/
theorem doio_readEof {s s' : Sock} {io : SockIo} (h : s.doio io = .ok s') (hs : s.readEof) :
    s'.readEof := by
  cases io with
  | error => cases h
  | ok rx written =>
    simp only [doio, Except.ok.injEq] at h
    subst h
    rcases rx with _ | data
    · exact hs
    · simp only [read]
      split
      · exact hs
      · split <;> simp [hs]

/-- A receive buffer after a `doio` was posted before it. -/
theorem doio_posted {s s' : Sock} {io : SockIo} (h : s.doio io = .ok s')
    (hs' : s'.recvbuf.isSome) : s.recvbuf.isSome := by
  cases hs : s.recvbuf
  · rw [doio_recvbuf_none h hs] at hs'; exact hs'
  · rfl

@[simp] theorem takeRecvbuf_readEof (s : Sock) : s.takeRecvbuf.2.readEof = s.readEof := by
  unfold takeRecvbuf; split <;> rfl

@[simp] theorem takeRecvbuf_dead (s : Sock) : s.takeRecvbuf.2.dead = s.dead := by
  unfold takeRecvbuf; split <;> rfl

/-- Taking the buffer never posts one. -/
theorem takeRecvbuf_posted (s : Sock) (h : s.takeRecvbuf.2.recvbuf.isSome) : s.recvbuf.isSome := by
  unfold takeRecvbuf at h; split at h <;> simp_all

/-- Data is taken only from a posted buffer. -/
theorem takeRecvbuf_fst_posted (s : Sock) (h : s.takeRecvbuf.1.isSome) : s.recvbuf.isSome := by
  unfold takeRecvbuf at h; split at h <;> simp_all

end Sock

/-! ## Channels -/

/-- A callback installed on a channel, named by the function it points to. What it does is code
outside `src/`; the model records its invocation. -/
abbrev Callback := Nat

/-- `struct twopence_trans_channel`. The `sync` flag is left out: nothing in `transaction.c` reads
it. -/
structure Channel where
  /-- The channel's address. -/
  handle : Nat
  /-- The packet type of the stream, such as `'0'` or `'d'`. -/
  id : UInt8
  /-- The socket, `NULL` once freed. -/
  socket : Option Sock
  /-- No receive buffer is posted while the channel is plugged. -/
  plugged : Bool
  /-- `callbacks.read_eof`. -/
  readEof : Option Callback
  /-- `callbacks.write_eof`. -/
  writeEof : Option Callback
  deriving DecidableEq, Repr

namespace Transaction

/-- `twopence_transaction_channel_from_fd`: a new channel at `handle` on a new socket for `fd`. -/
def channelFromFd (handle : Nat) (fd : Int) (writeOnly : Bool) : Channel :=
  ⟨handle, 0, some (Sock.newFlags fd writeOnly), false, none, none⟩

/-- `twopence_transaction_channel_list_purge`: unlink every channel whose socket is dead. Returns
the list left and the channels freed, in order. -/
def channelListPurge : List Channel → List Channel × List Channel
  | [] => ([], [])
  | c :: cs =>
    let r := channelListPurge cs
    if c.socket.any (·.dead) then (r.1, c :: r.2) else (c :: r.1, r.2)

/-- **The purge is a filter.** It keeps, in order, exactly the channels whose socket is `NULL` or
not dead, and frees, in order, exactly the others. -/
theorem channelListPurge_eq (cs : List Channel) :
    channelListPurge cs =
      (cs.filter fun c => c.socket.all fun s => !s.dead, cs.filter fun c => c.socket.any (·.dead)) := by
  induction cs with
  | nil => rfl
  | cons c cs ih =>
    rcases hs : c.socket with _ | s
    · simp [channelListPurge, ih, hs]
    · cases hd : s.dead <;> simp [channelListPurge, ih, hs, hd]

theorem channelListPurge_subset (cs : List Channel) : ∀ c ∈ (channelListPurge cs).1, c ∈ cs := by
  rw [channelListPurge_eq]; exact fun _ => List.mem_of_mem_filter

/-- `twopence_transaction_channel_list_close`: unlink every channel with the given id, every
channel when the id is 0. Returns the list left and the channels freed, in order. -/
def channelListClose (id : UInt8) : List Channel → List Channel × List Channel
  | [] => ([], [])
  | c :: cs =>
    let r := channelListClose id cs
    if id = 0 ∨ c.id = id then (r.1, c :: r.2) else (c :: r.1, r.2)

/-- **Closing by id is a filter.** It keeps, in order, exactly the channels whose id differs from
`id`, none when `id` is 0, and frees, in order, exactly the others. -/
theorem channelListClose_eq (id : UInt8) (cs : List Channel) :
    channelListClose id cs =
      if id = 0 then ([], cs) else (cs.filter (·.id ≠ id), cs.filter (·.id = id)) := by
  induction cs with
  | nil => split <;> rfl
  | cons c cs ih =>
    by_cases h0 : id = 0
    · subst h0; simp [channelListClose, ih]
    · by_cases hc : c.id = id <;> simp [channelListClose, ih, h0, hc]

theorem channelListClose_subset (id : UInt8) (cs : List Channel) :
    ∀ c ∈ (channelListClose id cs).1, c ∈ cs := by
  rw [channelListClose_eq]
  split
  · exact fun _ h => absurd h (List.not_mem_nil _)
  · exact fun _ => List.mem_of_mem_filter

/-- `twopence_transaction_find_sink` and `twopence_transaction_find_source`: the first channel with
the given id, and its position. -/
def findChannel (id : UInt8) : List Channel → Option (Nat × Channel)
  | [] => none
  | c :: cs => if c.id = id then some (0, c) else (findChannel id cs).map fun r => (r.1 + 1, r.2)

theorem findChannel_mem {id : UInt8} {i : Nat} {c : Channel} :
    ∀ {cs : List Channel}, findChannel id cs = some (i, c) → c ∈ cs
  | [], h => by cases h
  | d :: cs, h => by
    simp only [findChannel] at h
    split at h
    · cases h; exact List.mem_cons_self _ _
    · obtain ⟨⟨j, e⟩, he, hr⟩ := Option.map_eq_some'.mp h
      cases hr
      exact List.mem_cons_of_mem _ (findChannel_mem he)

/-- One slot of a `struct pollfd` array: the descriptor and the events asked for. -/
structure PollSlot where
  /-- `pfd->fd`. -/
  fd : Int
  /-- `POLLIN` is asked for. -/
  input : Bool
  /-- `POLLOUT` is asked for. -/
  output : Bool
  deriving DecidableEq, Repr

/-- `twopence_transaction_channel_poll`: on a live socket, post a fresh receive buffer unless the
channel is plugged, the socket has seen end of file or a buffer is already posted; then let the
socket fill the slot. Returns the channel and the slot, if one was filled. -/
def channelPoll (c : Channel) : Channel × Option PollSlot :=
  match c.socket with
  | some s =>
    if s.dead then (c, none)
    else
      let s := if !c.plugged && !s.readEof && s.recvbuf.isNone then { s with recvbuf := some [] }
        else s
      ({ c with socket := some s },
        if s.wantsPoll then some ⟨s.fd, s.recvbuf.isSome && !s.readEof, !s.xmitQueue.isEmpty⟩
        else none)
  | none => (c, none)

/-- The loop of `twopence_transaction_fill_poll` over one list: poll each channel while fewer than
`max` slots are filled, appending the slots it fills. -/
def pollChannels (max : Nat) : List PollSlot → List Channel → List Channel × List PollSlot
  | slots, [] => ([], slots)
  | slots, c :: cs =>
    if slots.length < max then
      let r := pollChannels max (slots ++ (channelPoll c).2.toList) cs
      ((channelPoll c).1 :: r.1, r.2)
    else
      let r := pollChannels max slots cs
      (c :: r.1, r.2)

/-- The loop adds to the slots already filled the slots of its channels, in order, up to `max` in
all: the first `max - slots.length` of the channels whose poll fills one. -/
theorem pollChannels_slots (max : Nat) (slots : List PollSlot) (cs : List Channel) :
    (pollChannels max slots cs).2 =
      slots ++ (cs.filterMap fun c => (channelPoll c).2).take (max - slots.length) := by
  induction cs generalizing slots with
  | nil => simp [pollChannels]
  | cons c cs ih =>
    rw [pollChannels]
    by_cases h : slots.length < max
    · rw [if_pos h, ih]
      cases hc : (channelPoll c).2 with
      | none => simp [hc]
      | some p =>
        obtain ⟨m, hm⟩ : ∃ m, max - slots.length = m + 1 := ⟨_, (Nat.succ_pred_eq_of_pos
          (Nat.sub_pos_of_lt h)).symm⟩
        simp [hc, hm, show max - (slots.length + 1) = m by omega]
    · rw [if_neg h, ih, show max - slots.length = 0 by omega]; simp

end Transaction

end Twopence
