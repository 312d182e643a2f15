import Twopence.Transaction

/-!
# The status handshake

What the flags `major_sent`, `minor_sent` and `done` guarantee about the packets a transaction
queues, over every run of its operations and every outcome of its sockets' I/O.

## One relation for every operation

Every operation except `send_status` *advances* a transaction (`Advances`): it keeps the protocol
state, never clears `done`, keeps the status invariant, and only appends to the trace, every
packet it queues being built from `trans->ps`. The relation is reflexive and transitive, so it is
proved once per operation of `transaction.c` and lifted over the channel loops of `doio` by
induction on the list. `send_status` is the one operation that does not advance: it builds its two
packets without the protocol state (`sendStatus_queued`).

## The status invariant

`StatusInv`: the trace holds exactly one `'M'` packet built from `trans->ps` when `major_sent` is
set and none otherwise, and likewise for `'m'` and `minor_sent`. `send_major` and `send_minor` are
the only code that queues such a packet, and each asserts its flag clear and sets it. The
invariant says nothing about the pair `send_status` queues, since those carry no protocol state
and leave both flags as they were.

## Main results

* `step_advances`, `reachable_statusInv` — the invariant on every reachable transaction
* `status_latched` — what the flags guarantee, over every run
* `status_run_counterexample` — a run that queues two `'M'` packets, an `'m'` before any `'M'`,
  and a packet after `done`
* `sendStatus_queued` — `send_status` builds its packets without `trans->ps`
* `doio_aborts_on_third_failure` — three channels failing in one `doio` reach `abort()`
-/

namespace Twopence

namespace Transaction

theorem except_bind_eq_ok {α β ε : Type} {x : Except ε α} {f : α → Except ε β} {b : β} :
    x >>= f = .ok b ↔ ∃ a, x = .ok a ∧ f a = .ok b := by
  cases x <;> simp [bind, Except.bind]

/-- The event queues a status packet of type `ty` built from `ps`. -/
def isStatusOf (ps : ProtocolState) (ty : UInt8) : Event → Bool
  | .queue p => p.type == ty && p.ps == some ps
  | _ => false

/-- The status packets built from the transaction's own state, by type. -/
def statusCount (t : Transaction) (ty : UInt8) : Nat := t.trace.countP (isStatusOf t.ps ty)

/-- The status invariant: one `'M'` from `trans->ps` exactly when `major_sent`, one `'m'` exactly
when `minor_sent`. -/
structure StatusInv (t : Transaction) : Prop where
  /-- The major status. -/
  major : t.statusCount protoTypeMajor = if t.majorSent then 1 else 0
  /-- The minor status. -/
  minor : t.statusCount protoTypeMinor = if t.minorSent then 1 else 0

/-- What every operation but `send_status` does to a transaction. -/
structure Advances (t t' : Transaction) : Prop where
  /-- The protocol state stays. -/
  ps : t'.ps = t.ps
  /-- `done` is never cleared. -/
  done : t.done → t'.done
  /-- The status invariant is kept. -/
  inv : StatusInv t → StatusInv t'
  /-- The trace only grows, and every packet added is built from `trans->ps`. -/
  trace : ∃ new, t'.trace = t.trace ++ new ∧ ∀ e ∈ new, ∀ p, e.packet? = some p → p.ps = some t.ps

theorem Advances.refl (t : Transaction) : Advances t t :=
  ⟨rfl, id, id, [], by simp, by simp⟩

theorem Advances.trans {t₁ t₂ t₃ : Transaction} (h₁ : Advances t₁ t₂) (h₂ : Advances t₂ t₃) :
    Advances t₁ t₃ := by
  obtain ⟨n₁, e₁, s₁⟩ := h₁.trace
  obtain ⟨n₂, e₂, s₂⟩ := h₂.trace
  refine ⟨h₂.ps.trans h₁.ps, h₂.done ∘ h₁.done, h₂.inv ∘ h₁.inv, n₁ ++ n₂,
    by rw [e₂, e₁, List.append_assoc], ?_⟩
  intro e he p hp
  rcases List.mem_append.mp he with he | he
  · exact s₁ e he p hp
  · rw [s₂ e he p hp, h₁.ps]

/-- A step that changes only the channel lists and the hooks, sets `done` at most, and appends
events that queue no status packet, and forward only data stamped with `trans->ps`, advances the
transaction. -/
theorem Advances.of_quiet {t t' : Transaction} (hps : t'.ps = t.ps) (hdone : t.done → t'.done)
    (hmaj : t'.majorSent = t.majorSent) (hmin : t'.minorSent = t.minorSent) (new : List Event)
    (htr : t'.trace = t.trace ++ new)
    (hnew : ∀ e ∈ new, (∀ p, e ≠ .queue p) ∧ ∀ p, e.packet? = some p → p.ps = some t.ps) :
    Advances t t' := by
  have hcount : ∀ ty, new.countP (isStatusOf t.ps ty) = 0 := fun ty =>
    List.countP_eq_zero.mpr fun e he => by
      cases e with
      | queue p => exact absurd rfl ((hnew _ he).1 p)
      | _ => simp [isStatusOf]
  refine ⟨hps, hdone, fun ⟨h₁, h₂⟩ => ⟨?_, ?_⟩, new, htr, fun e he => (hnew e he).2⟩
  · rw [statusCount, hps, htr, List.countP_append, hcount, hmaj, ← h₁]; rfl
  · rw [statusCount, hps, htr, List.countP_append, hcount, hmin, ← h₂]; rfl

@[simp] theorem sendClient_ps (t : Transaction) (p : Packet) : (t.sendClient p).ps = t.ps := rfl
@[simp] theorem sendClient_majorSent (t : Transaction) (p : Packet) :
    (t.sendClient p).majorSent = t.majorSent := rfl
@[simp] theorem sendClient_minorSent (t : Transaction) (p : Packet) :
    (t.sendClient p).minorSent = t.minorSent := rfl
@[simp] theorem sendClient_done (t : Transaction) (p : Packet) : (t.sendClient p).done = t.done := rfl
@[simp] theorem sendClient_trace (t : Transaction) (p : Packet) :
    (t.sendClient p).trace = t.trace ++ [.queue p] := rfl

theorem protoTypeMajor_ne_minor : protoTypeMajor ≠ protoTypeMinor := by decide

@[simp] theorem statusCount_sendClient (t : Transaction) (p : Packet) (ty : UInt8) :
    (t.sendClient p).statusCount ty
      = t.statusCount ty + if p.type = ty ∧ p.ps = some t.ps then 1 else 0 := by
  simp only [statusCount, sendClient, List.countP_append, List.countP_singleton, isStatusOf,
    Bool.and_eq_true, beq_iff_eq]

@[simp] theorem statusCount_setMajorSent (t : Transaction) (b : Bool) (ty : UInt8) :
    ({ t with majorSent := b } : Transaction).statusCount ty = t.statusCount ty := rfl

@[simp] theorem statusCount_setMinorSent (t : Transaction) (b : Bool) (ty : UInt8) :
    ({ t with minorSent := b } : Transaction).statusCount ty = t.statusCount ty := rfl

@[simp] theorem statusCount_setDone (t : Transaction) (b : Bool) (ty : UInt8) :
    ({ t with done := b } : Transaction).statusCount ty = t.statusCount ty := rfl

/-- A status packet of type `ty` that was not built from `ps`. -/
def isForeignStatusOf (ps : ProtocolState) (ty : UInt8) : Event → Bool
  | .queue p => p.type == ty && p.ps != some ps
  | _ => false

/-- The status packets of type `ty` queued without the transaction's own state. -/
def foreignCount (t : Transaction) (ty : UInt8) : Nat :=
  t.trace.countP (isForeignStatusOf t.ps ty)

@[simp] theorem foreignCount_sendClient (t : Transaction) (p : Packet) (ty : UInt8) :
    (t.sendClient p).foreignCount ty
      = t.foreignCount ty + if p.type = ty ∧ p.ps ≠ some t.ps then 1 else 0 := by
  simp only [foreignCount, sendClient, List.countP_append, List.countP_singleton, isForeignStatusOf,
    Bool.and_eq_true, beq_iff_eq, bne_iff_ne, ne_eq]

@[simp] theorem foreignCount_setDone (t : Transaction) (b : Bool) (ty : UInt8) :
    ({ t with done := b } : Transaction).foreignCount ty = t.foreignCount ty := rfl

/-! ## Each operation advances the transaction -/

section Ops

variable {t t' : Transaction}

/-- `send_major` either trips its assertion or queues the packet and sets the flag. -/
theorem sendMajor_eq_ok {code : Nat} (h : t.sendMajor code = .ok t') :
    t.majorSent = false ∧
      t' = { t.sendClient (buildUintPacketPs t.ps protoTypeMajor code) with majorSent := true } := by
  unfold sendMajor at h
  split at h
  · cases h
  · rename_i hm; cases h; exact ⟨by simpa using hm, rfl⟩

/-- `send_minor` either trips its assertion or queues the packet and sets the flag. -/
theorem sendMinor_eq_ok {code : Nat} (h : t.sendMinor code = .ok t') :
    t.minorSent = false ∧
      t' = { t.sendClient (buildUintPacketPs t.ps protoTypeMinor code) with minorSent := true } := by
  unfold sendMinor at h
  split at h
  · cases h
  · rename_i hm; cases h; exact ⟨by simpa using hm, rfl⟩

/-- `fail` sets `done` and sends the major status, or, once that is sent, the minor one. -/
theorem fail_eq_ok {code : Int} (h : t.fail code = .ok t') :
    ({ t with done := true } : Transaction).sendMajor (uintValue code) = .ok t' ∨
      t.majorSent = true ∧ ({ t with done := true } : Transaction).sendMinor (uintValue code) = .ok t' := by
  dsimp only [fail] at h
  split at h
  · exact .inl h
  rename_i hM
  split at h
  · exact .inr ⟨by simpa using hM, h⟩
  · cases h

/-- `fail` queues one packet and changes neither channel list. -/
theorem fail_trace {code : Int} (h : t.fail code = .ok t') :
    (∃ p, t'.trace = t.trace ++ [.queue p]) ∧
      t'.localSink = t.localSink ∧ t'.localSource = t.localSource := by
  rcases fail_eq_ok h with h | ⟨-, h⟩
  · obtain ⟨-, rfl⟩ := sendMajor_eq_ok h; exact ⟨⟨_, rfl⟩, rfl, rfl⟩
  · obtain ⟨-, rfl⟩ := sendMinor_eq_ok h; exact ⟨⟨_, rfl⟩, rfl, rfl⟩

theorem sendMajor_advances {code : Nat} (h : t.sendMajor code = .ok t') : Advances t t' := by
  obtain ⟨hm, rfl⟩ := sendMajor_eq_ok h
  refine ⟨rfl, id, fun ⟨h₁, h₂⟩ => ⟨?_, ?_⟩, _, rfl, by simp [Event.packet?, buildUintPacketPs]⟩
  · rw [statusCount_setMajorSent, statusCount_sendClient, h₁]; simp [hm, buildUintPacketPs]
  · rw [statusCount_setMajorSent, statusCount_sendClient, h₂]
    simp [buildUintPacketPs, protoTypeMajor_ne_minor]

theorem sendMinor_advances {code : Nat} (h : t.sendMinor code = .ok t') : Advances t t' := by
  obtain ⟨hm, rfl⟩ := sendMinor_eq_ok h
  refine ⟨rfl, id, fun ⟨h₁, h₂⟩ => ⟨?_, ?_⟩, _, rfl, by simp [Event.packet?, buildUintPacketPs]⟩
  · rw [statusCount_setMinorSent, statusCount_sendClient, h₁]
    simp [buildUintPacketPs, protoTypeMajor_ne_minor.symm]
  · rw [statusCount_setMinorSent, statusCount_sendClient, h₂]; simp [hm, buildUintPacketPs]

/-- Setting `done` advances the transaction. -/
theorem advances_setDone (t : Transaction) : Advances t { t with done := true } :=
  .of_quiet rfl (fun _ => rfl) rfl rfl [] (by simp) (by simp)

theorem fail_advances {code : Int} (h : t.fail code = .ok t') : Advances t t' := by
  rcases fail_eq_ok h with h | ⟨-, h⟩
  · exact (advances_setDone t).trans (sendMajor_advances h)
  · exact (advances_setDone t).trans (sendMinor_advances h)

theorem fail2_advances {major minor : Int} (h : t.fail2 major minor = .ok t') : Advances t t' := by
  obtain ⟨t₁, h₁, h⟩ := except_bind_eq_ok.mp h
  obtain ⟨t₂, h₂, h⟩ := except_bind_eq_ok.mp h
  cases h
  exact (sendMajor_advances h₁).trans ((sendMinor_advances h₂).trans (advances_setDone t₂))

theorem sendTimeout_advances (t : Transaction) : Advances t t.sendTimeout := by
  refine ⟨rfl, fun _ => rfl, fun ⟨h₁, h₂⟩ => ⟨?_, ?_⟩, _, rfl, by simp [Event.packet?]⟩
  · rw [sendTimeout, statusCount_setDone, statusCount_sendClient, h₁]; simp; decide
  · rw [sendTimeout, statusCount_setDone, statusCount_sendClient, h₂]; simp; decide

/-- Replacing the channel lists advances the transaction. -/
theorem advances_setLists (t : Transaction) (sinks sources : List Channel) :
    Advances t { t with localSink := sinks, localSource := sources } :=
  .of_quiet rfl id rfl rfl [] (List.append_nil _).symm (by simp)

/-- Recording an event that queues no status packet, and forwards only data stamped with
`trans->ps`, advances the transaction. -/
theorem advances_record (t : Transaction) (e : Event) (he : ∀ p, e ≠ .queue p)
    (hp : ∀ p, e.packet? = some p → p.ps = some t.ps) :
    Advances t { t with trace := t.trace ++ [e] } :=
  .of_quiet rfl id rfl rfl [e] rfl (by simpa using ⟨he, hp⟩)

theorem channelForward_advances (t : Transaction) (c : Channel) (sock : Sock) :
    Advances t (channelForward t c sock) := by
  unfold channelForward
  split
  · exact advances_record _ _ (fun _ => Event.noConfusion) (by simp [Event.packet?])
  · exact .refl t

theorem channelReadEof_advances (t : Transaction) (c : Channel) (sock : Sock) :
    Advances t (channelReadEof t c sock).1 := by
  unfold channelReadEof
  split
  · exact advances_record _ _ (fun _ => Event.noConfusion) (by simp [Event.packet?])
  · exact .refl t

theorem channelDoio_advances {c c' : Channel} {io : SockIo}
    (h : t.channelDoio c io = .ok (t', c')) : Advances t t' := by
  unfold channelDoio at h
  split at h
  · cases h; exact .refl t
  split at h
  · obtain ⟨t₁, h₁, h⟩ := except_bind_eq_ok.mp h
    cases h
    exact fail_advances h₁
  · obtain ⟨rfl, -⟩ := Prod.mk.inj_iff.mp (Except.ok.inj h)
    exact (channelForward_advances t c _).trans (channelReadEof_advances _ c _)

theorem channelsDoio_advances {cs cs' : List Channel} {ios ios' : List SockIo}
    (h : channelsDoio t cs ios = .ok (t', cs', ios')) : Advances t t' := by
  induction cs generalizing t cs' ios with
  | nil => cases h; exact .refl _
  | cons c cs ih =>
    rw [channelsDoio] at h
    obtain ⟨⟨t₁, c₁⟩, h₁, h⟩ := except_bind_eq_ok.mp h
    obtain ⟨⟨t₂, cs₂, ios₂⟩, h₂, h⟩ := except_bind_eq_ok.mp h
    cases h
    exact (channelDoio_advances h₁).trans (ih h₂)

theorem callSend_advances (t : Transaction) : Advances t t.callSend := by
  unfold callSend
  split
  · exact advances_record _ _ (fun _ => Event.noConfusion) (by simp [Event.packet?])
  · exact .refl t

theorem doio_advances {ios : List SockIo} (h : t.doio ios = .ok t') : Advances t t' := by
  obtain ⟨⟨t₁, sinks, ios₁⟩, h₁, h⟩ := except_bind_eq_ok.mp h
  obtain ⟨⟨t₂, sources, ios₂⟩, h₂, h⟩ := except_bind_eq_ok.mp h
  cases h
  exact (channelsDoio_advances h₁).trans ((advances_setLists _ _ _).trans
    ((channelsDoio_advances h₂).trans ((advances_setLists _ _ sources).trans
      ((callSend_advances _).trans (advances_setLists _ _ _)))))

theorem recvOther_advances {type : UInt8} {payload : List UInt8}
    (h : t.recvOther type payload = .ok t') : Advances t t' := by
  unfold recvOther at h
  split at h
  · cases h
    exact advances_record _ _ (fun _ => Event.noConfusion) (by simp [Event.packet?])
  · exact fail_advances h

theorem recvPacket_advances {type : UInt8} {payload : List UInt8} {refused : Option Int}
    (h : t.recvPacket type payload refused = .ok t') : Advances t t' := by
  unfold recvPacket at h
  split at h
  · cases h; exact .refl t
  split at h
  · split at h
    · cases h; exact advances_setLists _ _ _
    · exact fail_advances h
  · split at h
    · split at h
      · split at h
        · cases h
          exact .of_quiet rfl id rfl rfl [_] rfl (by simp [Event.packet?])
        · exact recvOther_advances h
      · exact recvOther_advances h
    · exact recvOther_advances h

/-- **Every operation but `send_status` advances the transaction.** -/
theorem step_advances {op : Op} (hop : ∀ major minor, op ≠ .sendStatus major minor)
    (h : t.step op = .ok t') : Advances t t' := by
  cases op with
  | sendMajor => exact sendMajor_advances h
  | sendMinor => exact sendMinor_advances h
  | sendStatus major minor => exact absurd rfl (hop major minor)
  | fail => exact fail_advances h
  | fail2 => exact fail2_advances h
  | sendTimeout => cases h; exact sendTimeout_advances t
  | recvPacket => exact recvPacket_advances h
  | doio => exact doio_advances h
  | fillPoll => cases h; unfold fillPoll; split <;> exact advances_setLists _ _ _
  | setHooks => cases h; exact .of_quiet rfl id rfl rfl [] (List.append_nil _).symm (by simp)
  | _ => cases h; exact advances_setLists _ _ _

end Ops

/-! ## `send_status` -/

theorem Advances.foreignCount_eq {t t' : Transaction} (h : Advances t t') (ty : UInt8) :
    t'.foreignCount ty = t.foreignCount ty := by
  obtain ⟨new, htr, hnew⟩ := h.trace
  have hzero : new.countP (isForeignStatusOf t.ps ty) = 0 :=
    List.countP_eq_zero.mpr fun e he => by
      cases e with
      | queue p => simp [isForeignStatusOf, hnew _ he p rfl]
      | _ => simp [isForeignStatusOf]
  rw [foreignCount, foreignCount, h.ps, htr, List.countP_append, hzero, Nat.add_zero]

/-- `send_status` on a transaction that is not done: two packets built without the protocol
state, and `done`; the flags stay as they were. -/
theorem sendStatus_of_not_done {t : Transaction} (h : t.done = false) (major minor : Int) :
    t.sendStatus major minor = { t with
      done := true
      trace := t.trace ++ [.queue (buildUintPacket protoTypeMajor (uintValue major)),
        .queue (buildUintPacket protoTypeMinor (uintValue minor))] } := by
  simp [sendStatus, h, sendClient]

@[simp] theorem sendStatus_of_done {t : Transaction} (h : t.done = true) (major minor : Int) :
    t.sendStatus major minor = t := by
  simp [sendStatus, h]

/-! ## The invariant on reachable transactions -/

/-- What the flags say about the status packets: the status invariant, and at most one pair from
`send_status`, none while `done` is clear. -/
structure Latched (t : Transaction) : Prop where
  /-- The packets built from `trans->ps`. -/
  status : StatusInv t
  /-- The `'M'` packets built without it. -/
  foreignMajor : t.foreignCount protoTypeMajor ≤ if t.done then 1 else 0
  /-- The `'m'` packets built without it. -/
  foreignMinor : t.foreignCount protoTypeMinor ≤ if t.done then 1 else 0

theorem Advances.latched {t t' : Transaction} (h : Advances t t') (hl : Latched t) : Latched t' := by
  have hbound : ∀ ty, t.foreignCount ty ≤ (if t.done then 1 else 0) →
      t'.foreignCount ty ≤ if t'.done then 1 else 0 := fun ty hty => by
    rw [h.foreignCount_eq]
    by_cases hd : t.done <;> simp_all [h.done]
  exact ⟨h.inv hl.status, hbound _ hl.foreignMajor, hbound _ hl.foreignMinor⟩

theorem sendStatus_latched {t : Transaction} (hl : Latched t) (major minor : Int) :
    Latched (t.sendStatus major minor) := by
  cases hd : t.done
  · obtain ⟨⟨h₁, h₂⟩, h₃, h₄⟩ := hl
    rw [hd, if_neg Bool.false_ne_true, Nat.le_zero] at h₃ h₄
    simp only [statusCount, foreignCount] at h₁ h₂ h₃ h₄
    rw [sendStatus_of_not_done hd]
    refine ⟨⟨?_, ?_⟩, ?_, ?_⟩ <;>
      simp only [statusCount, foreignCount, List.countP_append, h₁, h₂, h₃, h₄]
    · simp [isStatusOf, buildUintPacket]
    · simp [isStatusOf, buildUintPacket]
    · simp [isForeignStatusOf, buildUintPacket, protoTypeMajor_ne_minor.symm]
    · simp [isForeignStatusOf, buildUintPacket, protoTypeMajor_ne_minor]
  · rwa [sendStatus_of_done hd]

theorem step_latched {t t' : Transaction} {op : Op} (hl : Latched t) (h : t.step op = .ok t') :
    Latched t' := by
  cases op with
  | sendStatus major minor => cases h; exact sendStatus_latched hl major minor
  | _ => exact (step_advances (fun _ _ => Op.noConfusion) h).latched hl

theorem reachable_latched {t : Transaction} (ht : Reachable t) : Latched t := by
  induction ht with
  | new ps => exact ⟨⟨rfl, rfl⟩, Nat.zero_le _, Nat.zero_le _⟩
  | step op _ h ih => exact step_latched ih h

/-! ## What the flags guarantee -/

section Guarantees

variable {t t' : Transaction}

/-- No operation clears `done`. -/
theorem step_done {op : Op} (h : t.step op = .ok t') (hd : t.done) : t'.done := by
  cases op with
  | sendStatus major minor =>
    cases h
    rw [sendStatus_of_done hd]
    exact hd
  | _ => exact (step_advances (fun _ _ => Op.noConfusion) h).done hd

/-- `twopence_transaction_fail` queues one status packet, and an `'m'` only once the `'M'` built
from `trans->ps` is queued. -/
theorem fail_queues {code : Int} (hi : StatusInv t) (h : t.fail code = .ok t') :
    ∃ p, t'.trace = t.trace ++ [.queue p] ∧
      (p.type = protoTypeMinor → t.statusCount protoTypeMajor = 1) := by
  rcases fail_eq_ok h with h | ⟨hM, h⟩
  · obtain ⟨-, rfl⟩ := sendMajor_eq_ok h
    exact ⟨_, rfl, fun hp => absurd hp protoTypeMajor_ne_minor⟩
  · obtain ⟨-, rfl⟩ := sendMinor_eq_ok h
    exact ⟨_, rfl, fun _ => by rw [hi.major, if_pos hM]⟩

/-- A done transaction takes no packet from `recv_packet` and queues none by `send_status`. -/
theorem done_quiet (hd : t.done) :
    (∀ type payload refused, t.recvPacket type payload refused = .ok t) ∧
      ∀ major minor, t.sendStatus major minor = t :=
  ⟨fun _ _ _ => by simp [recvPacket, hd], fun _ _ => sendStatus_of_done hd _ _⟩

end Guarantees

/-- **What the status flags guarantee.** After every sequence of operations from a new transaction
that fails no assertion and does not abort, the status packets built from `trans->ps` are one
`'M'` exactly when `major_sent` is set and one `'m'` exactly when `minor_sent` is set;
`send_status` has added at most one `'M'` and one `'m'` built without it, and none unless `done`
is set; a `fail` queues an `'m'` only after the `'M'`; no operation clears `done`; and a done
transaction takes nothing from `recv_packet` or `send_status`. -/
theorem status_latched {ps : ProtocolState} {ops : List Op} {t : Transaction}
    (h : (Transaction.new ps).run ops = .ok t) :
    t.statusCount protoTypeMajor = (if t.majorSent then 1 else 0) ∧
    t.statusCount protoTypeMinor = (if t.minorSent then 1 else 0) ∧
    t.foreignCount protoTypeMajor ≤ (if t.done then 1 else 0) ∧
    t.foreignCount protoTypeMinor ≤ (if t.done then 1 else 0) ∧
    (∀ code t', t.fail code = .ok t' → ∃ p, t'.trace = t.trace ++ [.queue p] ∧
      (p.type = protoTypeMinor → t.statusCount protoTypeMajor = 1)) ∧
    (∀ op t', t.step op = .ok t' → t.done → t'.done) ∧
    (t.done → (∀ type payload refused, t.recvPacket type payload refused = .ok t) ∧
      ∀ major minor, t.sendStatus major minor = t) :=
  have hl := reachable_latched (run_reachable (.new ps) h)
  ⟨hl.status.major, hl.status.minor, hl.foreignMajor, hl.foreignMinor,
    fun _ _ => fail_queues hl.status, fun _ _ => step_done, done_quiet⟩

theorem status_latched_sendStatus :
    ∃ t, (Transaction.new ⟨1, 7⟩).run [.sendMajor 0, .sendStatus 0 0] = .ok t ∧
      t.statusCount protoTypeMajor = 1 ∧ t.foreignCount protoTypeMajor ≤ 1 :=
  have h : (Transaction.new ⟨1, 7⟩).run [.sendMajor 0, .sendStatus 0 0] = .ok _ := rfl
  ⟨_, h, (status_latched h).1, (status_latched h).2.2.1⟩

/-- The flags do not give the order or the latch one might expect: `send_minor` does not check
`major_sent`, `send_status` sets neither flag, and `fail` does not look at `done`. After
`send_minor`, `send_status` (which sets `done`) and `fail`, the queue holds `'m'`, `'M'`, `'m'`,
`'M'`: two of each, an `'m'` first, and a packet queued after `done` was set. -/
theorem status_run_counterexample :
    ∃ t₁ t₂, (Transaction.new ⟨0, 0⟩).run [.sendMinor 0, .sendStatus 0 0] = .ok t₁ ∧
      t₁.done = true ∧ t₁.queued.length = 3 ∧ t₁.step (.fail 5) = .ok t₂ ∧
      t₂.queued.map Packet.type = [protoTypeMinor, protoTypeMajor, protoTypeMinor, protoTypeMajor] :=
  ⟨_, _, rfl, rfl, rfl, rfl, rfl⟩

/-! ## Packets built without the protocol state -/

/-- **`send_status` does not stamp its packets.** On a link with transaction id 7, the two packets
`send_status` queues carry no protocol state, while every other operation builds its packets from
`trans->ps` (`step_advances`). -/
theorem sendStatus_unstamped :
    ∃ t, (Transaction.new ⟨1, 7⟩).run [.sendStatus 0 0] = .ok t ∧
      t.queued = [buildUintPacket protoTypeMajor 0, buildUintPacket protoTypeMinor 0] ∧
      ∀ p ∈ t.queued, p.ps ≠ some t.ps :=
  ⟨_, rfl, rfl, by decide⟩

/-! ## Crashes on I/O errors -/

/-- **I/O errors reach `abort()`.** Three channels whose sockets fail in one `doio` fail the
transaction three times, and the third `fail` finds both statuses sent; likewise a failing sink
write after `send_major` and `send_minor`, which leave `done` clear. -/
theorem doio_aborts_on_third_failure :
    (Transaction.new ⟨1, 7⟩).run [.attachLocalSink 1 10 (byte '0'),
      .attachLocalSource 2 11 (byte '1'), .attachLocalSource 3 12 (byte '2'),
      .doio [.error 5, .error 5, .error 5]] = .error .abort ∧
    (Transaction.new ⟨1, 7⟩).run [.attachLocalSink 1 10 (byte '0'), .sendMajor 0, .sendMinor 0,
      .recvPacket (byte '0') [1] (some 32)] = .error .abort :=
  ⟨rfl, rfl⟩

end Transaction

end Twopence
