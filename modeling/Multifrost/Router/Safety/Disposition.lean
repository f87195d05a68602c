import Multifrost.Router.Safety.Reply

/-!
# One disposition per frame

What becomes of a frame that a registered connection sends: it is written once to the sink found
for its target, or it is answered by one frame of the router with its id, and never both
(`frame_disposed_once`).  The registry is any, and other connections may do anything in between.

`Handling pc n` says that the task is busy with the frame and has at most `n` awaits left to take;
each of them takes it on with nothing written, or finishes with one write (`Handling.step`).
-/

namespace Multifrost.Router

open TransitionSystem

variable {m : RmpSerde} {me : Session} {raw : Bytes} {parts : FrameParts}
  {found found' : PeerSender → Prop}

/-! ### Being busy with a frame -/

/-- The frame with the bytes `raw` as a handler routes it. -/
def routeOf (me : Session) (raw : Bytes) (parts : FrameParts) (kind : String) : Route :=
  ⟨me, parts.envelope, raw, kind⟩

/-- The task is busy with the frame and has `n` awaits left at most; `found` are the sinks that have
been found for its target. -/
inductive Handling (me : Session) (raw : Bytes) (parts : FrameParts) (found : PeerSender → Prop) :
    Pc m → Nat → Prop
  | reply {f : RouterFrame m} {after : After} (hid : f.envelope.msgId = parts.envelope.msgId)
      (hafter : after = .loop ∨ parts.envelope.kind = kindDisconnect) :
      Handling me raw parts found (.reply me f after) 1
  | lookup (body : QueryBody) : Handling me raw parts found (.lookup me parts.envelope body) 2
  | disconnect (h : parts.envelope.kind = kindDisconnect) :
      Handling me raw parts found (.disconnect me parts.envelope) 2
  | evict (kind : String) (target : PeerSender) :
      Handling me raw parts found (.evict (routeOf me raw parts kind) target) 2
  | forward (kind : String) {target : PeerSender} (h : found target) :
      Handling me raw parts found (.forward (routeOf me raw parts kind) target) 3
  | targetSender (kind : String) :
      Handling me raw parts found (.targetSender (routeOf me raw parts kind)) 4
  | targetExists (kind : String) :
      Handling me raw parts found (.targetExists (routeOf me raw parts kind)) 5
  | targetClass (kind : String) :
      Handling me raw parts found (.targetClass (routeOf me raw parts kind)) 6
  | heartbeatTarget (kind : String) :
      Handling me raw parts found (.heartbeatTarget (routeOf me raw parts kind)) 6
  | markHeartbeat (kind : String) :
      Handling me raw parts found (.markHeartbeat (routeOf me raw parts kind)) 7

/-- The task is done with the frame: it waits for the next one, or was told to disconnect. -/
def Finished (me : Session) (parts : FrameParts) (pc : Pc m) : Prop :=
  pc = .loop me ∨ parts.envelope.kind = kindDisconnect ∧ pc.leaving = true

/-- The frame was written once to a sink found for its target, or answered once. -/
def Disposed (c : ConnId) (raw : Bytes) (parts : FrameParts) (found : PeerSender → Prop)
    (ws : List (PeerSender × Outbound m)) : Prop :=
  (∃ sink, found sink ∧ ws = [(sink, .forwarded raw)]) ∨
    ∃ f, f.envelope.msgId = parts.envelope.msgId ∧ ws = [(c, .generated f)]

theorem Handling.mono {pc : Pc m} {n : Nat} (h : Handling me raw parts found pc n)
    (hfound : ∀ sink, found sink → found' sink) : Handling me raw parts found' pc n := by
  cases h with
  | reply hid hafter => exact .reply hid hafter
  | lookup body => exact .lookup body
  | disconnect hkind => exact .disconnect hkind
  | evict kind target => exact .evict kind target
  | forward kind htarget => exact .forward kind (hfound _ htarget)
  | targetSender kind => exact .targetSender kind
  | targetExists kind => exact .targetExists kind
  | targetClass kind => exact .targetClass kind
  | heartbeatTarget kind => exact .heartbeatTarget kind
  | markHeartbeat kind => exact .markHeartbeat kind

theorem Disposed.mono {c : ConnId} {ws : List (PeerSender × Outbound m)}
    (h : Disposed c raw parts found ws) (hfound : ∀ sink, found sink → found' sink) :
    Disposed c raw parts found' ws := by
  rcases h with ⟨sink, hsink, hws⟩ | hanswered
  · exact Or.inl ⟨sink, hfound sink hsink, hws⟩
  · exact Or.inr hanswered

theorem Handling.pos {pc : Pc m} {n : Nat} (h : Handling me raw parts found pc n) : 0 < n := by
  cases h <;> decide

theorem Handling.reading {pc : Pc m} {n : Nat} (h : Handling me raw parts found pc n) :
    pc.reading = false := by
  cases h <;> rfl

theorem Handling.isReturned {pc : Pc m} {n : Nat} (h : Handling me raw parts found pc n) :
    pc.isReturned = false := by
  cases h <;> rfl

/-- Until it has returned, a connection can always go on. -/
theorem isSome_connStep {pc : Pc m} (h : pc.isReturned = false) (i : Input) (reg : PeerRegistry) :
    (connStep m i reg pc).isSome = true := by
  cases pc with
  | returned res => cases h
  | insert envelope register =>
    simp only [connStep]
    split <;> rfl
  | reject f => simp only [connStep]; split <;> rfl
  | ack me f => simp only [connStep]; split <;> rfl
  | reply me f after => simp only [connStep]; split <;> rfl
  | forward r target => simp only [connStep]; split <;> rfl
  | _ => rfl

/-! ### One await -/

/-- A reply that carries the message id of the frame is an answer to it. -/
theorem handling_of_replies (hencodes : m.Encodes) {after : After} {envelope : Envelope}
    {pc : Pc m} (h : Replies me after envelope pc) (hid : envelope.msgId = parts.envelope.msgId)
    (hafter : after = .loop ∨ parts.envelope.kind = kindDisconnect) :
    Handling me raw parts found pc 1 := by
  obtain ⟨f, rfl, rfl⟩ := h.reply hencodes
  exact .reply hid hafter

/-- An error is an answer to the frame. -/
theorem handling_replyError (hencodes : m.Encodes) (now : Float64) (code message : String) :
    Handling me raw parts found
      (orLeave m (some me) (replyError m now me parts.envelope.msgId code message)) 1 :=
  handling_of_replies hencodes (replies_replyError now me parts.envelope.msgId code message) rfl
    (Or.inl rfl)

/-- What the message loop does with a frame. -/
theorem handling_onFrame (hencodes : m.Encodes)
    (hquery : parts.envelope.kind = kindQuery →
      ∃ body, decodeQueryBody m parts.bodyBytes = .ok body) (now : Float64) :
    ∃ n ≤ 7, Handling me raw parts found (orLeave m (some me) (onFrame m now me raw parts)) n := by
  unfold onFrame
  dsimp only
  split_ifs with hfrom hkind hcall hresponse herror hheartbeat hdisconnect
  · exact ⟨1, by decide, handling_replyError hencodes ..⟩
  · obtain ⟨body, hbody⟩ := hquery hkind
    unfold handleQuery
    rw [hbody]
    exact ⟨2, by decide, .lookup body⟩
  · unfold handleCall
    split_ifs
    · exact ⟨1, by decide, handling_replyError hencodes ..⟩
    · exact ⟨6, by decide, .targetClass "call"⟩
  · unfold handleResponse
    split_ifs
    · exact ⟨1, by decide, handling_replyError hencodes ..⟩
    · exact ⟨5, by decide, .targetExists "response"⟩
  · unfold handleError
    split_ifs
    · exact ⟨1, by decide, handling_replyError hencodes ..⟩
    · exact ⟨6, by decide, .targetClass "error"⟩
  · exact ⟨7, by decide, .markHeartbeat "heartbeat"⟩
  · exact ⟨2, by decide, .disconnect hdisconnect⟩
  · exact ⟨1, by decide, handling_replyError hencodes ..⟩

/-- **One await** of a busy task: it stays busy with nothing written and fewer awaits to take, or is
done with one write. -/
theorem Handling.step (hencodes : m.Encodes) {pc pc' : Pc m} {n : Nat}
    (h : Handling me raw parts found pc n) {i : Input} {reg reg' : PeerRegistry}
    {evs : List (Event m)} (hok : pc.answering = true → i.ok = true)
    (hfound : ∀ sink, reg.senderByPeerId parts.envelope.toPeer = some sink → found sink)
    (hstep : connStep m i reg pc = some (reg', pc', evs)) :
    (∃ n' < n, Handling me raw parts found pc' n' ∧ writesBy i.conn evs = []) ∨
      Finished me parts pc' ∧ Disposed i.conn raw parts found (writesBy i.conn evs) := by
  cases h with
  -- the answer goes out, since the own sink takes it
  | reply hid hafter =>
    rename_i f after
    simp only [connStep, hok rfl, if_true, Option.some.injEq, Prod.mk.injEq] at hstep
    obtain ⟨rfl, rfl, rfl⟩ := hstep
    refine Or.inr ⟨?_, Or.inr ⟨f, hid, writesBy_wrote ..⟩⟩
    cases after with
    | loop => exact Or.inl rfl
    | finish =>
      rcases hafter with hloop | hkind
      · cases hloop
      · exact Or.inr ⟨hkind, rfl⟩
  | lookup body =>
    simp only [connStep, Option.some.injEq, Prod.mk.injEq] at hstep
    obtain ⟨rfl, rfl, rfl⟩ := hstep
    refine Or.inl ⟨1, by decide, ?_, rfl⟩
    exact handling_of_replies hencodes (replies_onLookup me parts.envelope body _) rfl (Or.inl rfl)
  | disconnect hkind =>
    simp only [connStep, Option.some.injEq, Prod.mk.injEq] at hstep
    obtain ⟨rfl, rfl, rfl⟩ := hstep
    refine Or.inl ⟨1, by decide, ?_, rfl⟩
    exact handling_of_replies hencodes (replies_onDisconnected me parts.envelope) rfl (Or.inr hkind)
  | evict kind target =>
    simp only [connStep, Option.some.injEq, Prod.mk.injEq] at hstep
    obtain ⟨rfl, rfl, rfl⟩ := hstep
    exact Or.inl ⟨1, by decide, handling_replyError hencodes .., rfl⟩
  | forward kind htarget =>
    simp only [connStep] at hstep
    split_ifs at hstep with hsent
    · simp only [Option.some.injEq, Prod.mk.injEq] at hstep
      obtain ⟨rfl, rfl, rfl⟩ := hstep
      exact Or.inr ⟨Or.inl rfl, Or.inl ⟨_, htarget, writesBy_wrote ..⟩⟩
    -- a send that fails writes nothing: the frame is still to be answered
    · simp only [Option.some.injEq, Prod.mk.injEq] at hstep
      obtain ⟨rfl, rfl, rfl⟩ := hstep
      exact Or.inl ⟨2, by decide, .evict kind _, rfl⟩
  | targetSender kind =>
    simp only [connStep, Option.some.injEq, Prod.mk.injEq] at hstep
    obtain ⟨rfl, rfl, rfl⟩ := hstep
    show (∃ n' < 4, Handling me raw parts found (orLeave m (some me) (onTargetSender m i.now
      (routeOf me raw parts kind) (reg.senderByPeerId parts.envelope.toPeer))) n' ∧ _) ∨ _
    -- the sink is found in the registry as it is now
    cases hsender : reg.senderByPeerId parts.envelope.toPeer with
    | none => exact Or.inl ⟨1, by decide, handling_replyError hencodes .., rfl⟩
    | some sink => exact Or.inl ⟨3, by decide, .forward kind (hfound sink hsender), rfl⟩
  | targetExists kind =>
    simp only [connStep, Option.some.injEq, Prod.mk.injEq] at hstep
    obtain ⟨rfl, rfl, rfl⟩ := hstep
    unfold onTargetExists
    split_ifs
    · exact Or.inl ⟨4, by decide, .targetSender kind, rfl⟩
    · exact Or.inl ⟨1, by decide, handling_replyError hencodes .., rfl⟩
  | targetClass kind =>
    simp only [connStep, Option.some.injEq, Prod.mk.injEq] at hstep
    obtain ⟨rfl, rfl, rfl⟩ := hstep
    unfold onTargetClass
    split
    · exact Or.inl ⟨5, by decide, .targetExists kind, rfl⟩
    · exact Or.inl ⟨1, by decide, handling_replyError hencodes .., rfl⟩
  | heartbeatTarget kind =>
    simp only [connStep, Option.some.injEq, Prod.mk.injEq] at hstep
    obtain ⟨rfl, rfl, rfl⟩ := hstep
    cases hexist : reg.snapshotPeerExists parts.envelope.toPeer with
    | true =>
      refine Or.inl ⟨5, by decide, ?_, rfl⟩
      show Handling me raw parts found (orLeave m (some me) (onHeartbeatTarget m
        (routeOf me raw parts kind) (reg.snapshotPeerExists parts.envelope.toPeer))) 5
      rw [hexist]
      exact .targetExists kind
    | false =>
      refine Or.inl ⟨1, by decide, ?_, rfl⟩
      show Handling me raw parts found (orLeave m (some me) (onHeartbeatTarget m
        (routeOf me raw parts kind) (reg.snapshotPeerExists parts.envelope.toPeer))) 1
      rw [hexist]
      exact handling_of_replies hencodes (replies_onHeartbeatTarget (routeOf me raw parts kind)) rfl
        (Or.inl rfl)
  | markHeartbeat kind =>
    simp only [connStep, Option.some.injEq, Prod.mk.injEq] at hstep
    obtain ⟨rfl, rfl, rfl⟩ := hstep
    exact Or.inl ⟨6, by decide, .heartbeatTarget kind, rfl⟩

/-- Once it is done with the frame, the task writes nothing before it reads again. -/
theorem Finished.step {pc pc' : Pc m} (h : Finished me parts pc) (hread : pc.reading = false)
    {i : Input} {reg reg' : PeerRegistry} {evs : List (Event m)}
    (hstep : connStep m i reg pc = some (reg', pc', evs)) :
    Finished me parts pc' ∧ writesBy i.conn evs = [] := by
  rcases h with rfl | ⟨hkind, hleaving⟩
  · cases hread
  · obtain ⟨hleaving', hevs⟩ := leaving_of_connStep hleaving hstep
    exact ⟨Or.inr ⟨hkind, hleaving'⟩, hevs⟩

/-! ### All awaits -/

/-- Some state on the way had `sink` for the target of the frame. -/
def FoundSink (c : ConnId) (parts : FrameParts) (s : State m) (is : List Input)
    (tr : List (Event m)) (s' : State m) (sink : PeerSender) : Prop :=
  (serve m).Passes (Undisturbed c)
    (fun s => s.registry.senderByPeerId parts.envelope.toPeer = some sink) s is tr s'

/-- Where a task that has read a frame can be: busy with it, with nothing written, or done, with one
disposition. -/
def Progress (c : ConnId) (me : Session) (raw : Bytes) (parts : FrameParts) (s : State m)
    (is : List Input) (tr : List (Event m)) (s' : State m) : Prop :=
  (∃ n, Handling me raw parts (FoundSink c parts s is tr s') (s'.conns c) n ∧
      is.countP (fun i => i.conn = c) + n ≤ 7 ∧ writesBy c tr = []) ∨
    Finished me parts (s'.conns c) ∧
      Disposed c raw parts (FoundSink c parts s is tr s') (writesBy c tr)

theorem Progress.snoc (hencodes : m.Encodes) {c : ConnId} {s s₁ s₂ : State m} {is : List Input}
    {tr evs : List (Event m)} {i : Input} (hpath : (serve m).Path (Undisturbed c) s is tr s₁)
    (hguard : Undisturbed c s₁ i) (hs : (serve m).step i s₁ = some (s₂, evs))
    (h : Progress c me raw parts s is tr s₁) :
    Progress c me raw parts s (is ++ [i]) (tr ++ evs) s₂ := by
  have hfound : ∀ sink, FoundSink c parts s is tr s₁ sink →
      FoundSink c parts s (is ++ [i]) (tr ++ evs) s₂ sink := fun sink h => h.snoc hguard hs
  by_cases hc : i.conn = c
  -- the task itself takes an await
  · subst hc
    obtain ⟨hread, hok⟩ := hguard rfl
    have hcount : (is ++ [i]).countP (fun j => j.conn = i.conn) =
        is.countP (fun j => j.conn = i.conn) + 1 := by simp
    have hstep := connStep_of_serve hs
    rcases h with ⟨n, hhandling, hn, hnone⟩ | ⟨hfinished, hdisposed⟩
    · have hlast : ∀ sink, s₁.registry.senderByPeerId parts.envelope.toPeer = some sink →
          FoundSink i.conn parts s is tr s₁ sink := fun sink hsink => hpath.passes hsink
      rcases hhandling.step hencodes hok hlast hstep with ⟨n', hlt, hbusy, hevs⟩ | ⟨hdone, hws⟩
      · refine Or.inl ⟨n', hbusy.mono hfound, ?_, ?_⟩
        · rw [hcount]
          omega
        · rw [writesBy_append, hnone, hevs]
          rfl
      · refine Or.inr ⟨hdone, ?_⟩
        rw [writesBy_append, hnone]
        exact hws.mono hfound
    · obtain ⟨hdone, hevs⟩ := hfinished.step hread hstep
      refine Or.inr ⟨hdone, ?_⟩
      rw [writesBy_append, hevs, List.append_nil]
      exact hdisposed.mono hfound
  -- another task does: nothing of this one changes
  · obtain ⟨hconns, hevs⟩ := step_of_ne hs hc
    have hcount : (is ++ [i]).countP (fun j => j.conn = c) = is.countP (fun j => j.conn = c) := by
      simp [hc]
    unfold Progress
    rw [hconns, hcount, writesBy_append, hevs, List.append_nil]
    rcases h with ⟨n, hhandling, hn, hnone⟩ | ⟨hfinished, hdisposed⟩
    · exact Or.inl ⟨n, hhandling.mono hfound, hn, hnone⟩
    · exact Or.inr ⟨hfinished, hdisposed.mono hfound⟩

/-- The progress of a connection that has read a frame, by induction on the path from the await after
the read on. -/
theorem progress_of_read (hencodes : m.Encodes) {s s₁ s₂ : State m} {i : Input} {me : Session}
    {raw : Bytes} {parts : FrameParts} {evs tr : List (Event m)} {is : List Input}
    (hloop : s.conns i.conn = .loop me) (hnext : i.next = some (.ok (.binary raw)))
    (hdecoded : decodeFrame m raw = .ok parts)
    (hquery : parts.envelope.kind = kindQuery →
      ∃ body, decodeQueryBody m parts.bodyBytes = .ok body)
    (hread : (serve m).step i s = some (s₁, evs))
    (hpath : (serve m).Path (Undisturbed i.conn) s₁ is tr s₂) :
    Progress i.conn me raw parts s₁ is tr s₂ := by
  have hpc := (conns_of_read hloop hnext hdecoded hread).1
  refine hpath.invariant (P := fun is tr s' => Progress i.conn me raw parts s₁ is tr s') ?_ ?_
  · obtain ⟨n, hn, hhandling⟩ : ∃ n ≤ 7, Handling me raw parts (FoundSink i.conn parts s₁ [] [] s₁)
        (orLeave m (some me) (onFrame m i.now me raw parts)) n :=
      handling_onFrame hencodes hquery i.now
    refine Or.inl ⟨n, ?_, ?_, rfl⟩
    · rw [hpc]
      exact hhandling
    · rw [List.countP_nil]
      omega
  · exact fun hpath hguard hs h => h.snoc hencodes hpath hguard hs

/-- A task that is busy has awaits left to take, and can take them. -/
theorem goes_on_of_busy {c : ConnId} {s₂ : State m} {is : List Input} {tr : List (Event m)}
    (h : ∃ n, Handling me raw parts found (s₂.conns c) n ∧
      is.countP (fun i => i.conn = c) + n ≤ 7 ∧ writesBy c tr = []) :
    is.countP (fun i => i.conn = c) < 7 ∧
      ∀ j : Input, j.conn = c → ((serve m).step j s₂).isSome = true := by
  obtain ⟨n, hhandling, hn, -⟩ := h
  refine ⟨?_, fun j hj => ?_⟩
  · have hpos := hhandling.pos
    omega
  · show ((connStep m j s₂.registry (s₂.conns j.conn)).map _).isSome = true
    rw [Option.isSome_map, hj]
    exact isSome_connStep hhandling.isReturned j s₂.registry

/-- **Exactly one disposition.**  Connection `i.conn` reads a frame that decodes, in any state, and
then any tasks take any awaits, except that this one does not read again and its answers are sent.
As long as the task has taken fewer than seven awaits it may be busy, with nothing written, and it
can always go on.  Otherwise it waits for the next frame, or leaves after a disconnect, and has
written exactly one frame: the received bytes, to the sink found for the target on the way, or a
frame of the router with the id of the frame, to its own sink. -/
theorem frame_disposed_once (hencodes : m.Encodes) {s s₁ s₂ : State m} {i : Input} {me : Session}
    {raw : Bytes} {parts : FrameParts} {evs tr : List (Event m)} {is : List Input}
    (hloop : s.conns i.conn = .loop me) (hnext : i.next = some (.ok (.binary raw)))
    (hdecoded : decodeFrame m raw = .ok parts)
    (hquery : parts.envelope.kind = kindQuery →
      ∃ body, decodeQueryBody m parts.bodyBytes = .ok body)
    (hread : (serve m).step i s = some (s₁, evs))
    (hpath : (serve m).Path (Undisturbed i.conn) s₁ is tr s₂) :
    (is.countP (fun j => j.conn = i.conn) < 7 ∧ writesBy i.conn (evs ++ tr) = [] ∧
        (s₂.conns i.conn).reading = false ∧
        ∀ j : Input, j.conn = i.conn → ((serve m).step j s₂).isSome = true) ∨
      (s₂.conns i.conn = .loop me ∨
          parts.envelope.kind = kindDisconnect ∧ (s₂.conns i.conn).leaving = true) ∧
        ((∃ sink, FoundSink i.conn parts s₁ is tr s₂ sink ∧
            writesBy i.conn (evs ++ tr) = [(sink, .forwarded raw)]) ∨
          ∃ f, f.envelope.msgId = parts.envelope.msgId ∧
            writesBy i.conn (evs ++ tr) = [(i.conn, .generated f)]) := by
  have hevs := (conns_of_read hloop hnext hdecoded hread).2
  rw [writesBy_append, hevs, List.nil_append]
  rcases progress_of_read hencodes hloop hnext hdecoded hquery hread hpath with
    hbusy | ⟨hfinished, hdisposed⟩
  · obtain ⟨hcount, hgoes⟩ := goes_on_of_busy hbusy
    obtain ⟨n, hhandling, -, hnone⟩ := hbusy
    exact Or.inl ⟨hcount, hnone, hhandling.reading, hgoes⟩
  · exact Or.inr ⟨hfinished, hdisposed⟩

/-- Connection `0`, a caller, in its message loop, and a service `"b"` on connection `1`. -/
def callerLooping : State msgPackSerde :=
  ⟨⟨fun x => if x = "b" then some ⟨"b", .service, 1, true, none⟩ else none⟩,
    fun c => if c = 0 then .loop ⟨"a", .caller⟩ else .accept⟩

/-- A call is forwarded or answered, though the connection of the service starts to move. -/
theorem frame_disposed_once_of_call : ∃ s₁ evs s₂ tr,
    (serve msgPackSerde).step (recv 0 (callBytes "a" "b")) callerLooping = some (s₁, evs) ∧
    (serve msgPackSerde).Path (Undisturbed 0) s₁ [go 0, go 0, go 1, go 0, go 0] tr s₂ ∧
    s₂.conns 0 = .loop ⟨"a", .caller⟩ ∧
    ((∃ sink, writesBy 0 (evs ++ tr) = [(sink, .forwarded (callBytes "a" "b"))]) ∨
      ∃ f, f.envelope.msgId = "n" ∧ writesBy 0 (evs ++ tr) = [(0, .generated f)]) := by
  obtain ⟨s₁, evs, s₂, tr, hread, hpath, hp⟩ := exists_path_of_exec (T := serve msgPackSerde)
    (C := Undisturbed 0) (recv 0 (callBytes "a" "b")) [go 0, go 0, go 1, go 0, go 0]
    (s := callerLooping) (fun s _ => (s.conns 0).reading) (by decide +kernel)
  have hdecoded : decodeFrame msgPackSerde (callBytes "a" "b") =
      .ok ⟨buildEnvelope kindCall "n" "a" "b" .one, MsgPack.encode (.map
        [(.str "function", .str "f"), (.str "args", .array [])])⟩ := by decide +kernel
  have hquery : kindCall = kindQuery → ∃ body, decodeQueryBody msgPackSerde (MsgPack.encode (.map
      [(.str "function", .str "f"), (.str "args", .array [])])) = .ok body := by
    intro h
    exact absurd h (by decide)
  refine ⟨s₁, evs, s₂, tr, hread, hpath, ?_⟩
  rcases frame_disposed_once encodes_msgPackSerde rfl rfl hdecoded hquery hread hpath with
    ⟨-, -, hbusy, -⟩ | ⟨hloop | ⟨hkind, -⟩, hdisposed⟩
  · exact absurd (hp.symm.trans hbusy) (by decide)
  · refine ⟨hloop, ?_⟩
    rcases hdisposed with ⟨sink, -, hws⟩ | hanswered
    · exact Or.inl ⟨sink, hws⟩
    · exact Or.inr hanswered
  · exact absurd hkind (by decide)

end Multifrost.Router
