import Twopence.Channel

/-!
# Transactions

The operations of `transaction.c` on one transaction: the status senders, the I/O step, the
packet dispatcher and the poll step, and the run of any sequence of them from a new transaction.

## What is observable

A transaction queues packets on the client socket, which it borrows, and calls into code outside
`src/`: the callbacks of its channels and the kind-specific `recv` and `send` hooks. Both are
recorded, in order, in `Transaction.trace`. A packet is recorded with the path that queued it:
`queue` for `twopence_transaction_send_client` (every status packet), `forward` for the data a
channel read. What a callback or hook does is not modelled inside the call; it is a sequence of
the same transaction operations, and a run lists those operations as steps of their own.

## Failures of the code itself

`assert(!trans->major_sent)`, `assert(!trans->minor_sent)` and the `abort()` of
`twopence_transaction_fail` end the process. The operations return `Except Crash`, so that a run
that reaches one of them stops there and says which.

## Main definitions

* `Transaction.sendMajor`, `sendMinor`, `sendStatus`, `fail`, `fail2`, `sendTimeout`
* `Transaction.channelDoio`, `Transaction.doio`, `Transaction.recvPacket`, `Transaction.fillPoll`
* `Transaction.Op`, `Transaction.step`, `Transaction.run`, `Transaction.Reachable`
-/

namespace Twopence

/-- What a transaction makes observable. -/
inductive Event
  /-- `twopence_transaction_send_client` queued the packet on the client socket. -/
  | queue (p : Packet)
  /-- `twopence_transaction_channel_doio` queued the data read from the channel at `handle`. -/
  | forward (handle : Nat) (p : Packet)
  /-- The channel at `handle` called its `read_eof` callback. -/
  | readEofCallback (handle : Nat) (cb : Callback)
  /-- The channel at `handle` called its `write_eof` callback. -/
  | writeEofCallback (handle : Nat) (cb : Callback)
  /-- `trans->recv` was called with a packet. -/
  | recvHook (type : UInt8) (payload : List UInt8)
  /-- `trans->send` was called. -/
  | sendHook
  deriving DecidableEq, Repr

/-- The packet an event queued on the client socket, if it queued one. -/
def Event.packet? : Event → Option Packet
  | .queue p => some p
  | .forward _ p => some p
  | _ => none

/-- The assertion failures and the `abort()` of `transaction.c`. -/
inductive Crash
  /-- `assert(!trans->major_sent)` failed. -/
  | majorSent
  /-- `assert(!trans->minor_sent)` failed. -/
  | minorSent
  /-- `twopence_transaction_fail` found both statuses sent. -/
  | abort
  deriving DecidableEq, Repr

/-- `twopence_transaction_t`. The borrowed client socket is the part of `trace` that queued packets;
`id` and `type` are left out, as only the debug text of `twopence_transaction_describe` reads them. -/
structure Transaction where
  /-- `trans->ps`. -/
  ps : ProtocolState
  /-- `trans->local_sink`. -/
  localSink : List Channel
  /-- `trans->local_source`. -/
  localSource : List Channel
  /-- `trans->major_sent`. -/
  majorSent : Bool
  /-- `trans->minor_sent`. -/
  minorSent : Bool
  /-- `trans->done`. -/
  done : Bool
  /-- `trans->recv` is set. -/
  recv : Bool
  /-- `trans->send` is set. -/
  send : Bool
  /-- What the transaction did, in order. -/
  trace : List Event
  deriving DecidableEq, Repr

/-- `EPROTO`, the `errno` of an unexpected packet. -/
def EPROTO : Int := 71

namespace Transaction

/-- `twopence_transaction_new`. -/
def new (ps : ProtocolState) : Transaction :=
  ⟨ps, [], [], false, false, false, false, false, []⟩

/-- `twopence_transaction_free`: close the sink list and the source list with id 0, which frees
every channel on them; the client socket is borrowed and stays. The channels freed, in order. -/
def free (t : Transaction) : List Channel :=
  (channelListClose 0 t.localSink).2 ++ (channelListClose 0 t.localSource).2

/-- The packets queued on the client socket, in order. -/
def queued (t : Transaction) : List Packet := t.trace.filterMap Event.packet?

/-! ## Status -/

/-- `twopence_transaction_send_client`. -/
def sendClient (t : Transaction) (p : Packet) : Transaction :=
  { t with trace := t.trace ++ [.queue p] }

/-- `twopence_transaction_send_major`. -/
def sendMajor (t : Transaction) (code : Nat) : Except Crash Transaction :=
  if t.majorSent then .error .majorSent
  else .ok { t.sendClient (buildUintPacketPs t.ps protoTypeMajor code) with majorSent := true }

/-- `twopence_transaction_send_minor`. -/
def sendMinor (t : Transaction) (code : Nat) : Except Crash Transaction :=
  if t.minorSent then .error .minorSent
  else .ok { t.sendClient (buildUintPacketPs t.ps protoTypeMinor code) with minorSent := true }

/-- `twopence_transaction_send_status`. -/
def sendStatus (t : Transaction) (major minor : Int) : Transaction :=
  if t.done then t
  else { (t.sendClient (buildUintPacket protoTypeMajor (uintValue major))).sendClient
      (buildUintPacket protoTypeMinor (uintValue minor)) with done := true }

/-- `twopence_transaction_fail`. -/
def fail (t : Transaction) (code : Int) : Except Crash Transaction :=
  let t := { t with done := true }
  if !t.majorSent then t.sendMajor (uintValue code)
  else if !t.minorSent then t.sendMinor (uintValue code)
  else .error .abort

/-- `twopence_transaction_fail2`. -/
def fail2 (t : Transaction) (major minor : Int) : Except Crash Transaction := do
  let t ← t.sendMajor (uintValue major)
  let t ← t.sendMinor (uintValue minor)
  pure { t with done := true }

/-- `twopence_transaction_send_timeout`: a header-only packet of type `'T'`. -/
def sendTimeout (t : Transaction) : Transaction :=
  { t.sendClient ⟨protoTypeTimeout, some t.ps, []⟩ with done := true }

/-! ## I/O -/

/-- The middle block of `twopence_transaction_channel_doio`: a receive buffer holding data is taken
from the socket, stamped with `trans->ps` and the channel id, and queued on the client socket. -/
def channelForward (t : Transaction) (c : Channel) (sock : Sock) : Transaction :=
  match sock.takeRecvbuf.1 with
  | some data => { t with trace := t.trace ++ [.forward c.handle ⟨c.id, some t.ps, data⟩] }
  | none => t

@[simp] theorem channelForward_localSink (t : Transaction) (c : Channel) (sock : Sock) :
    (channelForward t c sock).localSink = t.localSink := by
  unfold channelForward; split <;> rfl

@[simp] theorem channelForward_localSource (t : Transaction) (c : Channel) (sock : Sock) :
    (channelForward t c sock).localSource = t.localSource := by
  unfold channelForward; split <;> rfl

/-- The last block of `twopence_transaction_channel_doio`: once the socket has seen end of file,
the `read_eof` callback is called, and cleared. -/
def channelReadEof (t : Transaction) (c : Channel) (sock : Sock) : Transaction × Channel :=
  match sock.readEof, c.readEof with
  | true, some cb =>
    ({ t with trace := t.trace ++ [.readEofCallback c.handle cb] },
      { c with socket := some sock, readEof := none })
  | _, _ => (t, { c with socket := some sock })

@[simp] theorem channelReadEof_socket (t : Transaction) (c : Channel) (sock : Sock) :
    (channelReadEof t c sock).2.socket = some sock := by
  unfold channelReadEof; split <;> rfl

@[simp] theorem channelReadEof_handle (t : Transaction) (c : Channel) (sock : Sock) :
    (channelReadEof t c sock).2.handle = c.handle := by
  unfold channelReadEof; split <;> rfl

@[simp] theorem channelReadEof_plugged (t : Transaction) (c : Channel) (sock : Sock) :
    (channelReadEof t c sock).2.plugged = c.plugged := by
  unfold channelReadEof; split <;> rfl

@[simp] theorem channelReadEof_localSink (t : Transaction) (c : Channel) (sock : Sock) :
    (channelReadEof t c sock).1.localSink = t.localSink := by
  unfold channelReadEof; split <;> rfl

@[simp] theorem channelReadEof_localSource (t : Transaction) (c : Channel) (sock : Sock) :
    (channelReadEof t c sock).1.localSource = t.localSource := by
  unfold channelReadEof; split <;> rfl

/-- `twopence_transaction_channel_doio`: the socket's I/O; on failure, fail the transaction and
mark the socket dead; otherwise forward the data read, and call the `read_eof` callback once the
socket has seen end of file. Returns the transaction and the channel. -/
def channelDoio (t : Transaction) (c : Channel) (io : SockIo) :
    Except Crash (Transaction × Channel) :=
  match c.socket with
  | none => .ok (t, c)
  | some sock =>
    match sock.doio io with
    | .error errno => do
      let t ← t.fail errno
      pure (t, { c with socket := some { sock with dead := true } })
    | .ok sock => .ok (channelReadEof (channelForward t c sock) c sock.takeRecvbuf.2)

/-- The loop of `twopence_transaction_doio` over one list: `channel_doio` on each channel in turn,
each taking the next I/O outcome, or an idle one once they are used up. -/
def channelsDoio : Transaction → List Channel → List SockIo →
    Except Crash (Transaction × List Channel × List SockIo)
  | t, [], ios => .ok (t, [], ios)
  | t, c :: cs, ios => do
    let (t, c) ← channelDoio t c (ios.headD (.ok none 0))
    let (t, cs, ios) ← channelsDoio t cs ios.tail
    pure (t, c :: cs, ios)

/-- `if (trans->send) trans->send(trans)`. -/
def callSend (t : Transaction) : Transaction :=
  if t.send then { t with trace := t.trace ++ [.sendHook] } else t

@[simp] theorem callSend_localSink (t : Transaction) : t.callSend.localSink = t.localSink := by
  unfold callSend; split <;> rfl

@[simp] theorem callSend_localSource (t : Transaction) : t.callSend.localSource = t.localSource := by
  unfold callSend; split <;> rfl

/-- The call of `trans->send`, if there is one, is the only event. -/
theorem callSend_trace (t : Transaction) :
    t.callSend.trace = t.trace ∨ t.callSend.trace = t.trace ++ [.sendHook] := by
  unfold callSend; split
  · exact .inr rfl
  · exact .inl rfl

/-- `twopence_transaction_doio`: the sinks, the purge of dead sinks, the sources, `trans->send`,
and the purge of dead sources. -/
def doio (t : Transaction) (ios : List SockIo) : Except Crash Transaction := do
  let (t, sinks, ios) ← channelsDoio t t.localSink ios
  let t := { t with localSink := (channelListPurge sinks).1 }
  let (t, sources, _) ← channelsDoio t t.localSource ios
  let t := callSend { t with localSource := sources }
  pure { t with localSource := (channelListPurge t.localSource).1 }

/-- `twopence_transaction_channel_write_data`: queue a copy of the payload on the sink's socket,
which refuses it with an `errno` when `refused` says so; a channel without a socket drops it. -/
def channelWriteData (c : Channel) (payload : List UInt8) (refused : Option Int) :
    Except Int Channel :=
  match c.socket, refused with
  | none, _ => .ok c
  | some _, some errno => .error errno
  | some s, none => .ok { c with socket := some { s with xmitQueue := s.xmitQueue ++ [payload] } }

/-- `twopence_transaction_channel_write_eof`: shut down the write side of the sink's socket. -/
def channelWriteEof (c : Channel) : Channel :=
  { c with socket := c.socket.map fun s => { s with writeEof := true } }

/-- The last branch of `twopence_transaction_recv_packet`: hand the packet to `trans->recv`, or fail
with `EPROTO` when there is none. -/
def recvOther (t : Transaction) (type : UInt8) (payload : List UInt8) : Except Crash Transaction :=
  if t.recv then .ok { t with trace := t.trace ++ [.recvHook type payload] } else t.fail EPROTO

/-- `twopence_transaction_recv_packet`. `refused` is what the sink's socket says to the write. -/
def recvPacket (t : Transaction) (type : UInt8) (payload : List UInt8) (refused : Option Int) :
    Except Crash Transaction :=
  if t.done then .ok t
  else
    match findChannel type t.localSink with
    | some (i, sink) =>
      match channelWriteData sink payload refused with
      | .ok sink => .ok { t with localSink := t.localSink.set i sink }
      | .error errno => t.fail errno
    | none =>
      match t.localSink with
      | sink :: rest =>
        match sink.writeEof with
        | some cb =>
          if type = protoTypeEof then
            .ok { t with
              localSink := { channelWriteEof sink with writeEof := none } :: rest
              trace := t.trace ++ [.writeEofCallback sink.handle cb] }
          else t.recvOther type payload
        | none => t.recvOther type payload
      | [] => t.recvOther type payload

/-- `twopence_transaction_fill_poll`: the sinks, then the sources if the client socket's queue
allows more (`allowed` is `twopence_sock_xmit_queue_allowed`), into at most `max` slots. -/
def fillPoll (t : Transaction) (max : Nat) (allowed : Bool) : Transaction × List PollSlot :=
  let sinks := pollChannels max [] t.localSink
  if allowed then
    let sources := pollChannels max sinks.2 t.localSource
    ({ t with localSink := sinks.1, localSource := sources.1 }, sources.2)
  else ({ t with localSink := sinks.1 }, sinks.2)

/-- **`fill_poll` stays inside `pfd[0, max)`.** Slot `k` of the list is `pfd[k]`: the loop writes a
channel's slot at `pfd + nfds`, the end of the list. There are at most `max` of them, and they
are the slots of the first channels whose poll fills one, sinks first, then sources when the
client socket's queue allows. -/
theorem fillPoll_slots (t : Transaction) (max : Nat) (allowed : Bool) :
    (t.fillPoll max allowed).2.length ≤ max ∧
      (t.fillPoll max allowed).2 = ((t.localSink ++ if allowed then t.localSource else []).filterMap
        fun c => (channelPoll c).2).take max := by
  have hslots : (t.fillPoll max allowed).2 = ((t.localSink ++ if allowed then t.localSource
      else []).filterMap fun c => (channelPoll c).2).take max := by
    cases allowed with
    | false => simp [fillPoll, pollChannels_slots]
    | true => simp [fillPoll, pollChannels_slots, List.take_append_eq_append_take]; omega
  exact ⟨hslots ▸ List.length_take_le _ _, hslots⟩

/-! ## Channels -/

/-- Apply `f` to the channels at `handle`. -/
def updateChannel (handle : Nat) (f : Channel → Channel) (cs : List Channel) : List Channel :=
  cs.map fun c => if c.handle = handle then f c else c

/-- `twopence_transaction_attach_local_sink`: a write-only channel at the head of the sink list. -/
def attachLocalSink (t : Transaction) (handle : Nat) (fd : Int) (id : UInt8) : Transaction :=
  { t with localSink := { channelFromFd handle fd true with id := id } :: t.localSink }

/-- `twopence_transaction_attach_local_source`: a read-only channel at the head of the source
list. -/
def attachLocalSource (t : Transaction) (handle : Nat) (fd : Int) (channel_id : UInt8) :
    Transaction :=
  { t with localSource := { channelFromFd handle fd false with id := channel_id } :: t.localSource }

/-- **Closing, purging and freeing.** For every list and every id, closing by id keeps exactly the
channels whose id differs from it (none when it is 0) and frees exactly the others, each list
order kept; the purge keeps exactly the channels whose socket is `NULL` or not dead and frees the
others. Every channel of the list ends up in exactly one of the two lists, so each removed one is
freed exactly once; and `twopence_transaction_free` frees the sinks and then the sources, all of
them, each once. -/
theorem channelList_close_purge_free :
    (∀ (id : UInt8) (cs : List Channel),
      (channelListClose id cs).1 = (if id = 0 then [] else cs.filter (·.id ≠ id)) ∧
      (channelListClose id cs).2 = (if id = 0 then cs else cs.filter (·.id = id)) ∧
      ((channelListClose id cs).1 ++ (channelListClose id cs).2).Perm cs) ∧
    (∀ cs : List Channel,
      (channelListPurge cs).1 = cs.filter (fun c => c.socket.all fun s => !s.dead) ∧
      (channelListPurge cs).2 = cs.filter (fun c => c.socket.any (·.dead)) ∧
      ((channelListPurge cs).1 ++ (channelListPurge cs).2).Perm cs) ∧
    ∀ t : Transaction, t.free = t.localSink ++ t.localSource := by
  refine ⟨fun id cs => ?close, fun cs => ?purge, fun t => ?free⟩
  case close =>
    rw [channelListClose_eq]
    split
    · exact ⟨rfl, rfl, .refl cs⟩
    · refine ⟨rfl, rfl, ?_⟩
      simpa using List.perm_append_comm.trans (List.filter_append_perm (·.id = id) cs)
  case purge =>
    rw [channelListPurge_eq]
    have hlive (c : Channel) : (!c.socket.any (·.dead)) = c.socket.all fun s => !s.dead := by
      cases c.socket <;> rfl
    refine ⟨rfl, rfl, ?_⟩
    simpa only [hlive] using
      List.perm_append_comm.trans (List.filter_append_perm (fun c => c.socket.any (·.dead)) cs)
  case free =>
    simp [free, channelListClose_eq]

/-- The operations of the transaction API, as a run takes them. -/
inductive Op
  | sendMajor (code : Nat)
  | sendMinor (code : Nat)
  | sendStatus (major minor : Int)
  | fail (code : Int)
  | fail2 (major minor : Int)
  | sendTimeout
  | recvPacket (type : UInt8) (payload : List UInt8) (refused : Option Int)
  | doio (ios : List SockIo)
  | fillPoll (max : Nat) (allowed : Bool)
  | attachLocalSink (handle : Nat) (fd : Int) (id : UInt8)
  | attachLocalSource (handle : Nat) (fd : Int) (id : UInt8)
  | closeSink (id : UInt8)
  | closeSource (id : UInt8)
  | setPlugged (handle : Nat) (plugged : Bool)
  | setCallbackReadEof (handle : Nat) (cb : Option Callback)
  | setCallbackWriteEof (handle : Nat) (cb : Option Callback)
  | setHooks (recv send : Bool)
  deriving DecidableEq, Repr

/-- One operation. -/
def step (t : Transaction) : Op → Except Crash Transaction
  | .sendMajor code => t.sendMajor code
  | .sendMinor code => t.sendMinor code
  | .sendStatus major minor => .ok (t.sendStatus major minor)
  | .fail code => t.fail code
  | .fail2 major minor => t.fail2 major minor
  | .sendTimeout => .ok t.sendTimeout
  | .recvPacket type payload refused => t.recvPacket type payload refused
  | .doio ios => t.doio ios
  | .fillPoll max allowed => .ok (t.fillPoll max allowed).1
  | .attachLocalSink handle fd id => .ok (t.attachLocalSink handle fd id)
  | .attachLocalSource handle fd id => .ok (t.attachLocalSource handle fd id)
  | .closeSink id => .ok { t with localSink := (channelListClose id t.localSink).1 }
  | .closeSource id => .ok { t with localSource := (channelListClose id t.localSource).1 }
  | .setPlugged handle plugged =>
    .ok { t with
      localSink := updateChannel handle (fun c => { c with plugged := plugged }) t.localSink
      localSource := updateChannel handle (fun c => { c with plugged := plugged }) t.localSource }
  | .setCallbackReadEof handle cb =>
    .ok { t with
      localSink := updateChannel handle (fun c => { c with readEof := cb }) t.localSink
      localSource := updateChannel handle (fun c => { c with readEof := cb }) t.localSource }
  | .setCallbackWriteEof handle cb =>
    .ok { t with
      localSink := updateChannel handle (fun c => { c with writeEof := cb }) t.localSink
      localSource := updateChannel handle (fun c => { c with writeEof := cb }) t.localSource }
  | .setHooks recv send => .ok { t with recv := recv, send := send }

/-- A sequence of operations, stopping at the first crash. -/
def run (t : Transaction) : List Op → Except Crash Transaction
  | [] => .ok t
  | op :: ops => (t.step op).bind fun t => run t ops

theorem run_append (t : Transaction) (xs ys : List Op) :
    t.run (xs ++ ys) = (t.run xs).bind fun t => t.run ys := by
  induction xs generalizing t with
  | nil => rfl
  | cons op xs ih =>
    simp only [List.cons_append, run]
    cases t.step op with
    | error => rfl
    | ok t₁ => exact ih t₁

/-- What every operation allowed by `ok` preserves holds after a run of such operations. -/
theorem run_preserves {P : Transaction → Prop} {ok : Op → Prop}
    (hstep : ∀ {t t' : Transaction} {op : Op}, ok op → P t → t.step op = .ok t' → P t') :
    ∀ {ops : List Op} {t t' : Transaction}, (∀ op ∈ ops, ok op) → P t → t.run ops = .ok t' → P t'
  | [], _, _, _, hp, h => by cases h; exact hp
  | op :: ops, t, _, hok, hp, h => by
    simp only [run] at h
    cases hs : t.step op with
    | error e => rw [hs] at h; cases h
    | ok t₁ =>
      rw [hs] at h
      exact run_preserves hstep (fun o ho => hok o (List.mem_cons_of_mem _ ho))
        (hstep (hok op (List.mem_cons_self _ _)) hp hs) h

/-- The states a new transaction reaches by operations that neither fail an assertion nor
abort. -/
inductive Reachable : Transaction → Prop
  | new (ps : ProtocolState) : Reachable (Transaction.new ps)
  | step {t t' : Transaction} (op : Op) : Reachable t → t.step op = .ok t' → Reachable t'

theorem run_reachable {t t' : Transaction} (ht : Reachable t) :
    ∀ {ops : List Op}, t.run ops = .ok t' → Reachable t'
  | [], h => by cases h; exact ht
  | op :: ops, h => by
    simp only [run] at h
    cases hs : t.step op with
    | error e => rw [hs] at h; cases h
    | ok t₁ => rw [hs] at h; exact run_reachable (ht.step op hs) h

end Transaction

end Twopence
