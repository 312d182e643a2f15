import Twopence.Status

/-!
# Plugged sources

A source channel is read only through a receive buffer posted to its socket, and only
`twopence_transaction_channel_poll` posts one, and only to an unplugged channel whose socket is live
and has not seen end of file. `twopence_transaction_channel_doio` queues on the client socket only
what was read into such a buffer. So a source that is plugged before the first `fill_poll` after it
was attached forwards nothing until it is unplugged.

## Channels by address

The C code names a channel by its address, and an address is not reused while the channel is
linked. A statement about one channel is therefore a statement about the channels at one
`handle`; the theorem that follows a channel through a run assumes, as `malloc` guarantees, that
its address is fresh when it is attached and that nothing else is attached there while it is
followed.

## The sinks never read

"Only source channels will even have a recv buffer posted to them", says `channel_doio`. A sink
is attached write-only, with `read_eof` already set, and `channel_poll` posts to no socket that has
seen end of file; `reachable_sinksDrained` proves the comment.

## Main results

* `step_sources` — everything one operation can do to a source channel
* `step_forward` — a step forwards data only from a channel with a posted buffer
* `reachable_sinksDrained` — every sink of a reachable transaction is drained
* `plugging_holds_back` — buffers are posted only at `fill_poll`, and a plugged source is quiet
-/

namespace Twopence

namespace Channel

/-- A receive buffer is posted to the channel's socket. -/
def posted (c : Channel) : Bool := c.socket.any (·.recvbuf.isSome)

/-- The channel's socket has seen end of file and holds no receive buffer: it never reads again. -/
def drained (c : Channel) : Bool := c.socket.all fun s => s.readEof && s.recvbuf.isNone

/-- What `twopence_transaction_channel_poll` asks of a channel before it posts a buffer: unplugged,
with a live socket that has not seen end of file. -/
def pollable (c : Channel) : Bool := !c.plugged && c.socket.any fun s => !s.dead && !s.readEof

theorem posted_of_drained {c : Channel} (h : c.drained) : c.posted = false := by
  cases hs : c.socket <;> simp_all [posted, drained]

end Channel

namespace Transaction

/-! ## What an operation does to one channel -/

/-- What an operation may do to a channel it keeps: the address, the plugging and end of file stay,
and a buffer is posted only where `post` allows. -/
structure Moves (post : Channel → Prop) (c c' : Channel) : Prop where
  /-- The address stays. -/
  handle : c'.handle = c.handle
  /-- The plugging stays. -/
  plugged : c'.plugged = c.plugged
  /-- A posted buffer was posted before, or `post` allowed it. -/
  posted : c'.posted → c.posted ∨ post c
  /-- A drained channel stays drained. -/
  drained : c.drained → c'.drained

theorem Moves.refl (post : Channel → Prop) (c : Channel) : Moves post c c :=
  ⟨rfl, rfl, .inl, id⟩

/-- A channel whose socket and plugging stay moves. -/
theorem Moves.of_socket {post : Channel → Prop} {c c' : Channel} (hh : c'.handle = c.handle)
    (hp : c'.plugged = c.plugged) (hs : c'.socket = c.socket) : Moves post c c' :=
  ⟨hh, hp, fun h => .inl (by rwa [Channel.posted, ← hs]),
    fun h => by rwa [Channel.drained, hs]⟩

/-- Every channel of `cs'` comes from one of `cs` by `R`. -/
def Descends (R : Channel → Channel → Prop) (cs cs' : List Channel) : Prop :=
  ∀ c' ∈ cs', ∃ c ∈ cs, R c c'

theorem Descends.cons {R : Channel → Channel → Prop} {c c' : Channel} {cs cs' : List Channel}
    (hc : R c c') (h : Descends R cs cs') : Descends R (c :: cs) (c' :: cs') := by
  intro d hd
  rcases List.mem_cons.mp hd with rfl | hd
  · exact ⟨c, List.mem_cons_self _ _, hc⟩
  · obtain ⟨e, he, hr⟩ := h d hd
    exact ⟨e, List.mem_cons_of_mem _ he, hr⟩

theorem Descends.of_subset {R : Channel → Channel → Prop} (hR : ∀ c, R c c) {cs cs' : List Channel}
    (h : ∀ c ∈ cs', c ∈ cs) : Descends R cs cs' :=
  fun c hc => ⟨c, h c hc, hR c⟩

theorem channelPoll_moves (c : Channel) : Moves (fun c => c.pollable) c (channelPoll c).1 := by
  unfold channelPoll
  split
  · rename_i s hs
    split
    · exact .refl _ _
    · rename_i hdead
      by_cases hc : (!c.plugged && !s.readEof && s.recvbuf.isNone) = true
      · simp only [hc, if_true]
        refine ⟨rfl, rfl, fun _ => .inr ?_, fun hd => ?_⟩
        · simp_all [Channel.pollable]
        · simp_all [Channel.drained]
      · simp only [hc, if_false, Bool.false_eq_true]
        exact .of_socket rfl rfl hs.symm
  · exact .refl _ _

theorem pollChannels_moves (max : Nat) (slots : List PollSlot) (cs : List Channel) :
    Descends (Moves fun c => c.pollable) cs (pollChannels max slots cs).1 := by
  induction cs generalizing slots with
  | nil => intro c hc; simp [pollChannels] at hc
  | cons c cs ih =>
    unfold pollChannels
    split
    · exact .cons (channelPoll_moves c) (ih _)
    · exact .cons (.refl _ c) (ih _)

/-! ## `channel_doio` -/

/-- `t'` extends the trace of `t`, and every data packet it forwards comes from an address that
satisfies `src`. -/
def ForwardsOnly (src : Nat → Prop) (t t' : Transaction) : Prop :=
  ∃ new, t'.trace = t.trace ++ new ∧ ∀ handle p, Event.forward handle p ∈ new → src handle

theorem ForwardsOnly.refl (src : Nat → Prop) (t : Transaction) : ForwardsOnly src t t :=
  ⟨[], by simp, by simp⟩

theorem ForwardsOnly.trans {src : Nat → Prop} {t₁ t₂ t₃ : Transaction}
    (h₁ : ForwardsOnly src t₁ t₂) (h₂ : ForwardsOnly src t₂ t₃) : ForwardsOnly src t₁ t₃ := by
  obtain ⟨n₁, e₁, s₁⟩ := h₁
  obtain ⟨n₂, e₂, s₂⟩ := h₂
  refine ⟨n₁ ++ n₂, by rw [e₂, e₁, List.append_assoc], fun handle p hp => ?_⟩
  rcases List.mem_append.mp hp with hp | hp
  · exact s₁ handle p hp
  · exact s₂ handle p hp

theorem ForwardsOnly.mono {src src' : Nat → Prop} (hs : ∀ h, src h → src' h) {t t' : Transaction}
    (h : ForwardsOnly src t t') : ForwardsOnly src' t t' :=
  let ⟨new, e, s⟩ := h
  ⟨new, e, fun handle p hp => hs handle (s handle p hp)⟩

/-- Recording an event that forwards nothing. -/
theorem ForwardsOnly.record (src : Nat → Prop) (t t' : Transaction) (e : Event)
    (he : ∀ handle p, e ≠ .forward handle p) (ht : t'.trace = t.trace ++ [e]) :
    ForwardsOnly src t t' :=
  ⟨[e], ht, fun handle p hp => absurd (List.mem_singleton.mp hp).symm (he handle p)⟩

theorem ForwardsOnly.of_trace {src : Nat → Prop} {t t' : Transaction} (ht : t'.trace = t.trace) :
    ForwardsOnly src t t' :=
  ⟨[], by simp [ht], by simp⟩

theorem fail_forwardsOnly (src : Nat → Prop) {t t' : Transaction} {code : Int}
    (h : t.fail code = .ok t') : ForwardsOnly src t t' :=
  let ⟨⟨_, hp⟩, _⟩ := fail_trace h
  .record src t t' _ (fun _ _ => Event.noConfusion) hp

theorem channelForward_forwardsOnly (t : Transaction) (c : Channel) (sock : Sock) :
    ForwardsOnly (fun h => h = c.handle ∧ sock.recvbuf.isSome) t (channelForward t c sock) := by
  unfold channelForward
  split
  · rename_i data hd
    refine ⟨_, rfl, fun handle p hp => ?_⟩
    cases List.mem_singleton.mp hp
    exact ⟨rfl, Sock.takeRecvbuf_fst_posted sock (by rw [hd]; rfl)⟩
  · exact .refl _ t

theorem channelReadEof_forwardsOnly (src : Nat → Prop) (t : Transaction) (c : Channel)
    (sock : Sock) : ForwardsOnly src t (channelReadEof t c sock).1 := by
  unfold channelReadEof
  split
  · exact .record src _ _ _ (fun _ _ => Event.noConfusion) rfl
  · exact .refl _ t

/-- What `channel_doio` does: the channel moves without a buffer being posted, the channel lists
stay, and data is forwarded only from this channel, and only if it had a posted buffer. -/
theorem channelDoio_effect {t t' : Transaction} {c c' : Channel} {io : SockIo}
    (h : t.channelDoio c io = .ok (t', c')) :
    Moves (fun _ => False) c c' ∧ t'.localSink = t.localSink ∧ t'.localSource = t.localSource ∧
      ForwardsOnly (fun handle => handle = c.handle ∧ c.posted) t t' := by
  unfold channelDoio at h
  split at h
  · cases h; exact ⟨.refl _ _, rfl, rfl, .refl _ _⟩
  rename_i sock hs
  split at h
  · obtain ⟨t₁, h₁, h⟩ := except_bind_eq_ok.mp h
    cases h
    obtain ⟨-, hsink, hsource⟩ := fail_trace h₁
    refine ⟨⟨rfl, rfl, fun hp => .inl ?_, fun hd => ?_⟩, hsink, hsource, fail_forwardsOnly _ h₁⟩
    · simpa [Channel.posted, hs] using hp
    · simpa [Channel.drained, hs] using hd
  · rename_i sock₁ hio
    obtain ⟨ht, hc⟩ := Prod.ext_iff.mp (Except.ok.inj h)
    dsimp only at ht hc
    subst ht hc
    have hposted : sock₁.recvbuf.isSome → c.posted := fun hp => by
      simpa [Channel.posted, hs] using Sock.doio_posted hio hp
    refine ⟨⟨by simp, by simp, fun hp => .inl (hposted ?_), fun hd => ?_⟩, by simp, by simp,
      ((channelForward_forwardsOnly t c sock₁).trans (channelReadEof_forwardsOnly _ _ c _)).mono
        fun handle ⟨he, hp⟩ => ⟨he, hposted hp⟩⟩
    · exact Sock.takeRecvbuf_posted sock₁ (by simpa [Channel.posted] using hp)
    · simp only [Channel.drained, hs, Option.all_some, Bool.and_eq_true,
        Option.isNone_iff_eq_none] at hd
      have hnone := Sock.doio_recvbuf_none hio hd.2
      simp [Channel.drained, Sock.doio_readEof hio hd.1,
        Sock.takeRecvbuf_snd_recvbuf sock₁ (by simp [hnone])]

theorem channelsDoio_effect {t t' : Transaction} {cs cs' : List Channel} {ios ios' : List SockIo}
    (h : channelsDoio t cs ios = .ok (t', cs', ios')) :
    Descends (Moves fun _ => False) cs cs' ∧ t'.localSink = t.localSink ∧
      t'.localSource = t.localSource ∧
      ForwardsOnly (fun handle => ∃ c ∈ cs, c.handle = handle ∧ c.posted) t t' := by
  induction cs generalizing t cs' ios with
  | nil => cases h; exact ⟨(fun _ h => by cases h), rfl, rfl, .refl _ _⟩
  | cons c cs ih =>
    rw [channelsDoio] at h
    obtain ⟨⟨t₁, c₁⟩, h₁, h⟩ := except_bind_eq_ok.mp h
    obtain ⟨⟨t₂, cs₂, ios₂⟩, h₂, h⟩ := except_bind_eq_ok.mp h
    cases h
    obtain ⟨m₁, k₁, s₁, f₁⟩ := channelDoio_effect h₁
    obtain ⟨m₂, k₂, s₂, f₂⟩ := ih h₂
    refine ⟨.cons m₁ m₂, k₂.trans k₁, s₂.trans s₁, ?_⟩
    refine (f₁.mono ?_).trans (f₂.mono ?_)
    · rintro _ ⟨rfl, hp⟩; exact ⟨c, List.mem_cons_self _ _, rfl, hp⟩
    · rintro _ ⟨d, hd, rfl, hp⟩; exact ⟨d, List.mem_cons_of_mem _ hd, rfl, hp⟩

/-- What `doio` does to the channel lists and the trace. -/
theorem doio_effect {t t' : Transaction} {ios : List SockIo} (h : t.doio ios = .ok t') :
    Descends (Moves fun _ => False) t.localSink t'.localSink ∧
      Descends (Moves fun _ => False) t.localSource t'.localSource ∧
      ForwardsOnly (fun handle => ∃ c ∈ t.localSink ++ t.localSource, c.handle = handle ∧ c.posted)
        t t' := by
  obtain ⟨⟨t₁, sinks, ios₁⟩, h₁, h⟩ := except_bind_eq_ok.mp h
  obtain ⟨⟨t₂, sources, ios₂⟩, h₂, h⟩ := except_bind_eq_ok.mp h
  cases h
  obtain ⟨m₁, -, s₁, f₁⟩ := channelsDoio_effect h₁
  obtain ⟨m₂, k₂, -, f₂⟩ := channelsDoio_effect h₂
  have f₃ : ForwardsOnly (fun _ => False) { t₂ with localSource := sources }
      (callSend { t₂ with localSource := sources }) := by
    rcases callSend_trace { t₂ with localSource := sources } with h | h
    · exact .of_trace h
    · exact .record _ _ _ _ (fun _ _ => Event.noConfusion) h
  refine ⟨?_, ?_, ?_⟩
  · rw [callSend_localSink]
    simp only [k₂]
    exact fun c hc => m₁ c (channelListPurge_subset _ c hc)
  · rw [callSend_localSource]
    simp only [s₁] at m₂
    exact fun c hc => m₂ c (channelListPurge_subset _ c hc)
  · refine (f₁.mono ?_).trans ((f₂.mono ?_).trans ((f₃.mono fun _ h => h.elim).trans
      (.of_trace rfl)))
    · rintro _ ⟨c, hc, rfl, hp⟩; exact ⟨c, List.mem_append_left _ hc, rfl, hp⟩
    · rintro _ ⟨c, hc, rfl, hp⟩
      simp only [s₁] at hc
      exact ⟨c, List.mem_append_right _ hc, rfl, hp⟩

theorem Moves.mono {post post' : Channel → Prop} (hp : ∀ c, post c → post' c) {c c' : Channel}
    (h : Moves post c c') : Moves post' c c' :=
  ⟨h.handle, h.plugged, fun hc => (h.posted hc).imp_right (hp c), h.drained⟩

theorem Descends.mono {R R' : Channel → Channel → Prop} (hR : ∀ c c', R c c' → R' c c')
    {cs cs' : List Channel} (h : Descends R cs cs') : Descends R' cs cs' :=
  fun c' hc' => let ⟨c, hc, hr⟩ := h c' hc'; ⟨c, hc, hR c c' hr⟩

/-- Updating the channels at one address with a function that keeps the socket and the plugging
moves every channel. -/
theorem updateChannel_descends (post : Channel → Prop) (handle : Nat) (f : Channel → Channel)
    (hf : ∀ c, (f c).handle = c.handle ∧ (f c).plugged = c.plugged ∧ (f c).socket = c.socket)
    (cs : List Channel) : Descends (Moves post) cs (updateChannel handle f cs) := by
  intro c' hc'
  obtain ⟨c, hc, rfl⟩ := List.mem_map.mp hc'
  refine ⟨c, hc, ?_⟩
  split
  · exact .of_socket (hf c).1 (hf c).2.1 (hf c).2.2
  · exact .refl _ c

/-! ## `recv_packet` -/

theorem channelWriteData_moves {post : Channel → Prop} {c c' : Channel} {payload : List UInt8}
    {refused : Option Int} (h : channelWriteData c payload refused = .ok c') : Moves post c c' := by
  unfold channelWriteData at h
  split at h
  · cases h; exact .refl _ c
  · cases h
  · cases h
    rename_i s _ hs
    exact ⟨rfl, rfl, fun hp => .inl (by simpa [Channel.posted, hs] using hp),
      fun hd => by simpa [Channel.drained, hs] using hd⟩

theorem channelWriteEof_moves (post : Channel → Prop) (c : Channel) :
    Moves post c { channelWriteEof c with writeEof := none } := by
  refine ⟨rfl, rfl, fun hp => .inl ?_, fun hd => ?_⟩ <;> cases hs : c.socket <;>
    simp_all [channelWriteEof, Channel.posted, Channel.drained]

theorem recvOther_effect {t t' : Transaction} {type : UInt8} {payload : List UInt8}
    (h : t.recvOther type payload = .ok t') :
    t'.localSink = t.localSink ∧ t'.localSource = t.localSource ∧
      ForwardsOnly (fun _ => False) t t' := by
  unfold recvOther at h
  split at h
  · cases h; exact ⟨rfl, rfl, .record _ _ _ _ (fun _ _ => Event.noConfusion) rfl⟩
  · exact ⟨(fail_trace h).2.1, (fail_trace h).2.2, fail_forwardsOnly _ h⟩

/-- What `recv_packet` does: a sink it writes to moves without a buffer being posted, the sources
stay, and nothing is forwarded. -/
theorem recvPacket_effect {t t' : Transaction} {type : UInt8} {payload : List UInt8}
    {refused : Option Int} (h : t.recvPacket type payload refused = .ok t') :
    Descends (Moves fun _ => False) t.localSink t'.localSink ∧
      t'.localSource = t.localSource ∧ ForwardsOnly (fun _ => False) t t' := by
  have hsame : ∀ {u : Transaction}, u.localSink = t.localSink →
      Descends (Moves fun _ => False) t.localSink u.localSink := fun hu =>
    .of_subset (Moves.refl _) (by rw [hu]; exact fun _ => id)
  unfold recvPacket at h
  split at h
  · cases h; exact ⟨hsame rfl, rfl, .refl _ _⟩
  split at h
  · rename_i i sink hfind
    split at h
    · cases h
      rename_i sink' hw
      refine ⟨fun c' hc' => ?_, rfl, .of_trace rfl⟩
      rcases List.mem_or_eq_of_mem_set hc' with hc' | rfl
      · exact ⟨c', hc', .refl _ _⟩
      · exact ⟨sink, findChannel_mem hfind, channelWriteData_moves hw⟩
    · exact ⟨hsame (fail_trace h).2.1, (fail_trace h).2.2, fail_forwardsOnly _ h⟩
  · have hother : ∀ {u : Transaction}, t.recvOther type payload = .ok u →
        Descends (Moves fun _ => False) t.localSink u.localSink ∧
          u.localSource = t.localSource ∧ ForwardsOnly (fun _ => False) t u := fun hu =>
      let ⟨hk, hs, hf⟩ := recvOther_effect hu
      ⟨hsame hk, hs, hf⟩
    split at h
    · rename_i sink rest hl
      split at h
      · split at h
        · cases h
          refine ⟨?_, rfl, .record _ _ _ _ (fun _ _ => Event.noConfusion) rfl⟩
          rw [hl]
          exact .cons (channelWriteEof_moves _ sink) (.of_subset (Moves.refl _) fun _ h => h)
        · exact hother h
      · exact hother h
    · exact hother h

/-! ## One operation -/

/-- What an operation that attaches no channel and leaves the plugging alone does: every sink and
every source it keeps moves, a source getting a buffer only where `post` allows, and it forwards
data only from addresses satisfying `src`. -/
structure Keeps (post : Channel → Prop) (src : Nat → Prop) (t t' : Transaction) : Prop where
  /-- The sinks move. -/
  sinks : Descends (Moves fun _ => True) t.localSink t'.localSink
  /-- The sources move. -/
  sources : Descends (Moves post) t.localSource t'.localSource
  /-- The data forwarded. -/
  forwards : ForwardsOnly src t t'

theorem Keeps.of_lists {post : Channel → Prop} {src : Nat → Prop} {t t' : Transaction}
    (hk : t'.localSink = t.localSink) (hs : t'.localSource = t.localSource)
    (hf : ForwardsOnly src t t') : Keeps post src t t' :=
  ⟨.of_subset (Moves.refl _) (by rw [hk]; exact fun _ => id),
    .of_subset (Moves.refl _) (by rw [hs]; exact fun _ => id), hf⟩

/-- Closing channels keeps the ones left. -/
theorem Keeps.of_lists' {post : Channel → Prop} {src : Nat → Prop} {t t' : Transaction}
    (hk : ∀ c ∈ t'.localSink, c ∈ t.localSink) (hs : ∀ c ∈ t'.localSource, c ∈ t.localSource)
    (ht : t'.trace = t.trace) : Keeps post src t t' :=
  ⟨.of_subset (Moves.refl _) hk, .of_subset (Moves.refl _) hs, .of_trace ht⟩

/-- The addresses of the channels of `t` with a posted buffer. -/
def PostedAt (t : Transaction) (handle : Nat) : Prop :=
  ∃ c ∈ t.localSink ++ t.localSource, c.handle = handle ∧ c.posted

/-- **Every operation but `attach` and `set_plugged` keeps the channels.** Only a `fill_poll` with
the client socket's queue open posts a buffer to a source, and only to a pollable one; data is
forwarded only from a channel with a posted buffer. -/
theorem step_keeps {t t' : Transaction} {op : Op} (h : t.step op = .ok t')
    (hattach : ∀ handle fd id, op ≠ .attachLocalSink handle fd id ∧
      op ≠ .attachLocalSource handle fd id)
    (hplug : ∀ handle b, op ≠ .setPlugged handle b) :
    Keeps (fun c => (∃ max, op = .fillPoll max true) ∧ c.pollable) t.PostedAt t t' := by
  have hnone : ∀ {u : Transaction}, ForwardsOnly (fun _ => False) t u →
      ForwardsOnly t.PostedAt t u := (·.mono fun _ h => h.elim)
  cases op with
  | sendMajor =>
    obtain ⟨-, rfl⟩ := sendMajor_eq_ok h
    exact .of_lists rfl rfl (.record _ _ _ _ (fun _ _ => Event.noConfusion) rfl)
  | sendMinor =>
    obtain ⟨-, rfl⟩ := sendMinor_eq_ok h
    exact .of_lists rfl rfl (.record _ _ _ _ (fun _ _ => Event.noConfusion) rfl)
  | sendStatus major minor =>
    cases h
    cases hd : t.done
    · rw [sendStatus_of_not_done hd]; exact .of_lists rfl rfl ⟨_, rfl, by simp⟩
    · rw [sendStatus_of_done hd]; exact .of_lists rfl rfl (.refl _ _)
  | fail => exact .of_lists (fail_trace h).2.1 (fail_trace h).2.2 (fail_forwardsOnly _ h)
  | fail2 =>
    obtain ⟨t₁, h₁, h⟩ := except_bind_eq_ok.mp h
    obtain ⟨t₂, h₂, h⟩ := except_bind_eq_ok.mp h
    cases h
    obtain ⟨-, rfl⟩ := sendMajor_eq_ok h₁
    obtain ⟨-, rfl⟩ := sendMinor_eq_ok h₂
    exact .of_lists rfl rfl ⟨_, List.append_assoc _ _ _, by simp⟩
  | sendTimeout =>
    cases h
    exact .of_lists rfl rfl (.record _ _ _ _ (fun _ _ => Event.noConfusion) rfl)
  | recvPacket =>
    obtain ⟨hk, hs, hf⟩ := recvPacket_effect h
    exact ⟨hk.mono fun _ _ m => m.mono fun _ _ => trivial,
      .of_subset (Moves.refl _) (by rw [hs]; exact fun _ => id), hnone hf⟩
  | doio =>
    obtain ⟨hk, hs, hf⟩ := doio_effect h
    exact ⟨hk.mono fun _ _ m => m.mono fun _ _ => trivial, hs.mono fun _ _ m => m.mono
      fun _ h => h.elim, hf⟩
  | fillPoll max allowed =>
    cases h
    unfold fillPoll
    split
    · rename_i hallowed
      subst hallowed
      exact ⟨(pollChannels_moves _ _ _).mono fun _ _ m => m.mono fun _ _ => trivial,
        (pollChannels_moves _ _ _).mono fun _ _ m => m.mono fun c hc => ⟨⟨max, rfl⟩, hc⟩,
        .of_trace rfl⟩
    · exact ⟨(pollChannels_moves _ _ _).mono fun _ _ m => m.mono fun _ _ => trivial,
        .of_subset (Moves.refl _) fun _ => id, .of_trace rfl⟩
  | attachLocalSink handle fd id => exact absurd rfl (hattach handle fd id).1
  | attachLocalSource handle fd id => exact absurd rfl (hattach handle fd id).2
  | closeSink =>
    cases h
    exact .of_lists' (channelListClose_subset _ _) (fun _ h => h) rfl
  | closeSource =>
    cases h
    exact .of_lists' (fun _ h => h) (channelListClose_subset _ _) rfl
  | setPlugged handle b => exact absurd rfl (hplug handle b)
  | setCallbackReadEof handle cb =>
    cases h
    have hf := fun post => updateChannel_descends post handle
      (fun c => { c with readEof := cb }) (fun _ => ⟨rfl, rfl, rfl⟩)
    exact ⟨hf _ _, hf _ _, .of_trace rfl⟩
  | setCallbackWriteEof handle cb =>
    cases h
    have hf := fun post => updateChannel_descends post handle
      (fun c => { c with writeEof := cb }) (fun _ => ⟨rfl, rfl, rfl⟩)
    exact ⟨hf _ _, hf _ _, .of_trace rfl⟩
  | setHooks => cases h; exact .of_lists rfl rfl (.of_trace rfl)

section Step

variable {t t' : Transaction} {op : Op}

/-- **Everything one operation can do to a source channel.** A source after the step is one of
before it that moved, getting a buffer only at a `fill_poll` with the client socket's queue open
and only if it was pollable; or one that `set_plugged` at its address plugged or unplugged; or a
new one, attached at its address with no buffer and unplugged. -/
theorem step_sources (h : t.step op = .ok t') :
    ∀ c' ∈ t'.localSource,
      (∃ c ∈ t.localSource, Moves (fun c => (∃ max, op = .fillPoll max true) ∧ c.pollable) c c') ∨
      (∃ c ∈ t.localSource, c'.handle = c.handle ∧ c'.posted = c.posted ∧
        op = .setPlugged c.handle c'.plugged) ∨
      (∃ fd id, op = .attachLocalSource c'.handle fd id ∧ c'.posted = false ∧
        c'.plugged = false) := by
  cases op with
  | attachLocalSink => cases h; exact fun c' hc' => .inl ⟨c', hc', .refl _ _⟩
  | attachLocalSource handle fd id =>
    cases h
    intro c' hc'
    rcases List.mem_cons.mp hc' with rfl | hc'
    · exact .inr (.inr ⟨fd, id, rfl, rfl, rfl⟩)
    · exact .inl ⟨c', hc', .refl _ _⟩
  | setPlugged handle b =>
    cases h
    intro c' hc'
    obtain ⟨c, hc, rfl⟩ := List.mem_map.mp hc'
    by_cases hh : c.handle = handle
    · rw [if_pos hh]
      exact .inr (.inl ⟨c, hc, rfl, rfl, by rw [hh]⟩)
    · rw [if_neg hh]
      exact .inl ⟨c, hc, .refl _ _⟩
  | _ => exact fun c' hc' => .inl ((step_keeps h (by simp) (by simp)).sources c' hc')

/-- A buffer appears at an address of the sources only at a `fill_poll` with the client socket's
queue open, at which a source at that address was unplugged, with a live socket that had not
seen end of file. -/
theorem posted_only_at_fillPoll (h : t.step op = .ok t') {c' : Channel}
    (hc' : c' ∈ t'.localSource) (hp : c'.posted)
    (hnone : ∀ c ∈ t.localSource, c.handle = c'.handle → c.posted = false) :
    ∃ max, op = .fillPoll max true ∧ ∃ c ∈ t.localSource, c.handle = c'.handle ∧
      c.plugged = false ∧ c.socket.any (fun s => !s.dead && !s.readEof) := by
  rcases step_sources h c' hc' with ⟨c, hc, m⟩ | ⟨c, hc, hh, hpc, -⟩ | ⟨-, -, -, hpc, -⟩
  · rcases m.posted hp with hpc | ⟨⟨max, rfl⟩, hpoll⟩
    · rw [hnone c hc m.handle.symm] at hpc; cases hpc
    · simp only [Channel.pollable, Bool.and_eq_true, Bool.not_eq_true'] at hpoll
      exact ⟨max, rfl, c, hc, m.handle.symm, hpoll⟩
  · rw [hnone c hc hh.symm, hp] at hpc; cases hpc
  · rw [hp] at hpc; cases hpc

/-- Every sink is drained. -/
def SinksDrained (t : Transaction) : Prop := ∀ c ∈ t.localSink, c.drained

theorem step_sinksDrained (hs : SinksDrained t) (h : t.step op = .ok t') : SinksDrained t' := by
  cases op with
  | attachLocalSink =>
    cases h
    intro c hc
    rcases List.mem_cons.mp hc with rfl | hc
    · rfl
    · exact hs c hc
  | attachLocalSource => cases h; exact hs
  | setPlugged handle b =>
    cases h
    intro c' hc'
    obtain ⟨c, hc, rfl⟩ := List.mem_map.mp hc'
    split
    · exact hs c hc
    · exact hs c hc
  | _ =>
    intro c' hc'
    obtain ⟨c, hc, m⟩ := (step_keeps h (by simp) (by simp)).sinks c' hc'
    exact m.drained (hs c hc)

/-- A step forwards data only from a channel that had a buffer posted. -/
theorem step_forward (h : t.step op = .ok t') : ForwardsOnly t.PostedAt t t' := by
  cases op with
  | attachLocalSink => cases h; exact .of_trace rfl
  | attachLocalSource => cases h; exact .of_trace rfl
  | setPlugged => cases h; exact .of_trace rfl
  | _ => exact (step_keeps h (by simp) (by simp)).forwards

end Step

/-- **Only source channels have a receive buffer posted.** -/
theorem reachable_sinksDrained {t : Transaction} (ht : Reachable t) : SinksDrained t := by
  induction ht with
  | new => intro c hc; cases hc
  | step _ _ h ih => exact step_sinksDrained ih h

/-! ## A plugged source over a run -/

/-- The operation is a `fill_poll`. -/
def Op.isFillPoll : Op → Bool
  | .fillPoll _ _ => true
  | _ => false

/-- The operation attaches a source channel at `handle`. -/
def Op.attachesSource (handle : Nat) : Op → Bool
  | .attachLocalSource h _ _ => h == handle
  | _ => false

/-- No source at `handle` has a buffer posted. -/
def UnpostedAt (handle : Nat) (t : Transaction) : Prop :=
  ∀ c ∈ t.localSource, c.handle = handle → c.posted = false

/-- Every source at `handle` is plugged and has no buffer posted. -/
def PluggedAt (handle : Nat) (t : Transaction) : Prop :=
  ∀ c ∈ t.localSource, c.handle = handle → c.plugged = true ∧ c.posted = false

/-- No data from `handle` was forwarded after the first `n` events of the trace. -/
def QuietSince (handle n : Nat) (t : Transaction) : Prop :=
  n ≤ t.trace.length ∧ ∀ p, Event.forward handle p ∉ t.trace.drop n

section Run

variable {handle n : Nat} {t t' : Transaction} {op : Op}

theorem QuietSince.step (hq : QuietSince handle n t) (hs : SinksDrained t)
    (hu : UnpostedAt handle t) (h : t.step op = .ok t') : QuietSince handle n t' := by
  obtain ⟨new, htr, hsrc⟩ := step_forward h
  have hnew : ∀ p, Event.forward handle p ∉ new := fun p hp => by
    obtain ⟨c, hc, hh, hpc⟩ := hsrc handle p hp
    rcases List.mem_append.mp hc with hc | hc
    · rw [Channel.posted_of_drained (hs c hc)] at hpc; cases hpc
    · rw [hu c hc hh] at hpc; cases hpc
  refine ⟨by rw [htr, List.length_append]; exact le_add_right hq.1, fun p hp => ?_⟩
  rw [htr, List.drop_append_of_le_length hq.1] at hp
  rcases List.mem_append.mp hp with hp | hp
  · exact hq.2 p hp
  · exact hnew p hp

theorem unpostedAt_step (hu : UnpostedAt handle t) (hop : op.isFillPoll = false)
    (h : t.step op = .ok t') : UnpostedAt handle t' := by
  intro c' hc' hh
  cases hp : c'.posted
  · rfl
  · obtain ⟨max, rfl, -⟩ := posted_only_at_fillPoll h hc' hp
      fun c hc hch => hu c hc (hch.trans hh)
    cases hop

theorem PluggedAt.unposted (hpl : PluggedAt handle t) : UnpostedAt handle t :=
  fun c hc hh => (hpl c hc hh).2

theorem pluggedAt_step (hpl : PluggedAt handle t) (hop₁ : op ≠ .setPlugged handle false)
    (hop₂ : op.attachesSource handle = false) (h : t.step op = .ok t') : PluggedAt handle t' := by
  intro c' hc' hh
  rcases step_sources h c' hc' with ⟨c, hc, m⟩ | ⟨c, hc, hch, hpc, hop⟩ | ⟨fd, id, rfl, -, -⟩
  · obtain ⟨hplug, hpost⟩ := hpl c hc (m.handle.symm.trans hh)
    refine ⟨m.plugged.trans hplug, ?_⟩
    cases hp : c'.posted
    · rfl
    · rcases m.posted hp with hp | ⟨-, hpoll⟩
      · rw [hpost] at hp; cases hp
      · simp [Channel.pollable, hplug] at hpoll
  · obtain ⟨hplug, hpost⟩ := hpl c hc (hch.symm.trans hh)
    refine ⟨?_, hpc.trans hpost⟩
    cases hb : c'.plugged
    · rw [hb, ← hch, hh] at hop; exact absurd hop hop₁
    · rfl
  · simp [Op.attachesSource, hh] at hop₂

/-- `set_plugged(channel, true)` plugs every source at the address. -/
theorem pluggedAt_setPlugged (hu : UnpostedAt handle t)
    (h : t.step (.setPlugged handle true) = .ok t') : PluggedAt handle t' := by
  cases h
  intro c' hc' hh
  obtain ⟨c, hc, rfl⟩ := List.mem_map.mp hc'
  by_cases hch : c.handle = handle
  · rw [if_pos hch]; exact ⟨rfl, hu c hc hch⟩
  · rw [if_neg hch] at hh; exact absurd hh hch

end Run

/-- **Plugging holds a source back.** A receive buffer appears on a source's socket only at a
`fill_poll` with the client socket's queue open (`twopence_sock_xmit_queue_allowed`), at which a
source at that address is unplugged and its socket live and not at end of file. So a source
attached at a fresh address and plugged before any `fill_poll` forwards nothing until
`set_plugged(channel, false)`, whatever the other operations and socket I/O outcomes, as long as
nothing else is attached at its address. -/
theorem plugging_holds_back :
    (∀ {t t' : Transaction} {op : Op}, t.step op = .ok t' → ∀ c' ∈ t'.localSource, c'.posted →
      (∀ c ∈ t.localSource, c.handle = c'.handle → c.posted = false) →
      ∃ max, op = .fillPoll max true ∧ ∃ c ∈ t.localSource, c.handle = c'.handle ∧
        c.plugged = false ∧ c.socket.any (fun s => !s.dead && !s.readEof)) ∧
    ∀ {t t₁ : Transaction} (handle : Nat) (fd : Int) (id : UInt8) (before after : List Op),
      Reachable t → (∀ c ∈ t.localSource, c.handle ≠ handle) →
      (∀ op ∈ before, op.isFillPoll = false) →
      (∀ op ∈ after, op ≠ .setPlugged handle false ∧ op.attachesSource handle = false) →
      t.run (.attachLocalSource handle fd id :: before ++ .setPlugged handle true :: after) =
        .ok t₁ →
      ∀ p, Event.forward handle p ∉ t₁.trace.drop t.trace.length := by
  refine ⟨fun h c' hc' hp hnone => posted_only_at_fillPoll h hc' hp hnone, ?_⟩
  intro t t₁ handle fd id before after ht hfresh hbefore hafter hrun
  rw [run_append] at hrun
  obtain ⟨t₂, h₂, hrun⟩ := except_bind_eq_ok.mp hrun
  obtain ⟨t₃, h₃, hrun⟩ := except_bind_eq_ok.mp hrun
  -- Attached: no source at the address has a buffer, and nothing was forwarded yet.
  have hA : Reachable (t.attachLocalSource handle fd id) ∧
      UnpostedAt handle (t.attachLocalSource handle fd id) ∧
      QuietSince handle t.trace.length (t.attachLocalSource handle fd id) := by
    refine ⟨ht.step (.attachLocalSource handle fd id) rfl, fun c hc hh => ?_, le_refl _,
      by simp [attachLocalSource]⟩
    rcases List.mem_cons.mp hc with rfl | hc
    · rfl
    · exact absurd hh (hfresh c hc)
  -- Before the first `fill_poll`: still no buffer.
  obtain ⟨hr₂, hu₂, hq₂⟩ := run_preserves
    (P := fun u => Reachable u ∧ UnpostedAt handle u ∧ QuietSince handle t.trace.length u)
    (fun hop ⟨hr, hu, hq⟩ h =>
      ⟨hr.step _ h, unpostedAt_step hu hop h, hq.step (reachable_sinksDrained hr) hu h⟩)
    hbefore hA h₂
  -- Plugged: no buffer until unplugged, so nothing forwarded.
  have hB := run_preserves
    (P := fun u => Reachable u ∧ PluggedAt handle u ∧ QuietSince handle t.trace.length u)
    (fun hop ⟨hr, hpl, hq⟩ h => ⟨hr.step _ h, pluggedAt_step hpl hop.1 hop.2 h,
      hq.step (reachable_sinksDrained hr) hpl.unposted h⟩)
    hafter ⟨hr₂.step _ h₃, pluggedAt_setPlugged hu₂ h₃,
      hq₂.step (reachable_sinksDrained hr₂) hu₂ h₃⟩ hrun
  exact hB.2.2.2

theorem plugging_holds_back_readable :
    ∃ t₁, (Transaction.new ⟨1, 7⟩).run [.attachLocalSource 1 11 (byte '1'), .setPlugged 1 true,
        .fillPoll 4 true, .doio [.ok (some [1]) 0]] = .ok t₁ ∧
      ∀ p, Event.forward 1 p ∉ t₁.trace.drop 0 :=
  have h : (Transaction.new ⟨1, 7⟩).run ([.attachLocalSource 1 11 (byte '1')] ++
      .setPlugged 1 true :: [.fillPoll 4 true, .doio [.ok (some [1]) 0]]) = .ok _ := rfl
  ⟨_, h, plugging_holds_back.2 1 11 (byte '1') [] [.fillPoll 4 true, .doio [.ok (some [1]) 0]]
    (.new _) (fun _ hc => by cases hc) (fun _ hc => by cases hc) (by decide) h⟩

end Transaction

end Twopence
