import Multifrost.JavaScript.Safety.Restart
import Multifrost.JavaScript.Safety.StartStop

/-!
# The promises of requests

A request is settled by its response, an error frame, its timer, a failed send or the end of a
transport, and whoever settles it takes its entry and its timer away.  Two ways out miss that.  The
callback of an error frame takes both away before it reads the body: where the body cannot be read,
or is `null`, the listener throws and the promise is left to nobody.  And what `encodeBody` throws
in the executor rejects the promise while its entry stays.
-/

namespace Multifrost.JavaScript.Handle

open Router (kindError kindResponse)

variable {cfg : Config}

/-! ### Listeners and bodies -/

/-- The message listener throws: `resolvePending` catches what its decoder throws, `rejectPending`
does not. -/
def listenerThrows (cfg : Config) (incoming : Incoming) (s : State) : Bool :=
  match incoming with
  | .text => false
  | .binary bytes =>
    match toFrame cfg.msgpack bytes with
    | .error _ => false
    | .ok frame =>
      if frame.envelope.kind = kindResponse then false
      else if frame.envelope.kind = kindError then
        (s.pendingRequests.lookup frame.envelope.msgId).isSome && !cfg.readsError frame.bodyBytes
      else false

/-- The messages whose listeners throw. -/
def thrown (cfg : Config) (s : State) : Input → List Incoming
  | .message _ incoming => if listenerThrows cfg incoming s then [incoming] else []
  | _ => []

/-- The body of an error frame for a pending request can be read. -/
def ErrorReadable (cfg : Config) (s : State) : Incoming → Prop
  | .text => True
  | .binary bytes => ∀ frame ∈ (toFrame cfg.msgpack bytes).toOption,
      frame.envelope.kind = kindError → s.pendingRequests.lookup frame.envelope.msgId ≠ none →
      cfg.readsError frame.bodyBytes = true

instance (s : State) : ∀ incoming, Decidable (ErrorReadable cfg s incoming)
  | .text => inferInstanceAs (Decidable True)
  | .binary bytes => inferInstanceAs (Decidable (∀ frame ∈ (toFrame cfg.msgpack bytes).toOption,
      _ = _ → _ ≠ _ → _ = _))

/-- The body of an error frame for a pending request can be read, and the body of a request that is
sent can be encoded. -/
def Codable (cfg : Config) (s : State) : Input → Prop
  | .message _ incoming => ErrorReadable cfg s incoming
  | .request _ encoded =>
    s.transport.isSome = true → s.started = true ∧ s.callerPeerId = true → encoded = true
  | _ => True

instance (s : State) : ∀ i, Decidable (Codable cfg s i)
  | .message _ incoming => inferInstanceAs (Decidable (ErrorReadable cfg s incoming))
  | .request _ encoded => inferInstanceAs (Decidable (_ = _ → _ ∧ _ → encoded = true))
  | .start _ | .bootstrapped .. | .registered .. | .activated _ | .assigned _ | .validated ..
  | .startThrows _ | .stop _ | .stopSent _ | .stopClosed _ | .socketClosed _ | .socketError _
  | .requestSent .. | .timeout _ => inferInstanceAs (Decidable True)

def Outcome.settled : Outcome → Bool
  | .resolved | .rejected => true
  | .unsent | .pending => false

/-- The promises of the requests, and what the next step does to them. -/
structure SettledInTime (cfg : Config) (s : State) : Prop where
  /-- A promise is settled once. -/
  once : ∀ i o r, (handle cfg).step i s = some o → (s.requests r).outcome.settled = true →
    (o.1.requests r).outcome = (s.requests r).outcome
  /-- The timer of a promise that is not settled will settle it. -/
  timer : ∀ r, (s.requests r).outcome = .pending → (s.requests r).timer = true
  timeout : ∀ o r, (handle cfg).step (.timeout r) s = some o →
    (o.1.requests r).outcome ≠ .pending
  /-- A transport that is closed settles its requests; a `stop` does so when it ends. -/
  closed : ∀ i o t r, (handle cfg).step i s = some o → (∀ w, i ≠ .stopSent w) →
    (s.transports t).closed = false → (o.1.transports t).closed = true →
    (o.1.requests r).sentOn = some t → (o.1.requests r).outcome ≠ .pending
  stopped : ∀ w o r, (handle cfg).step (.stopClosed w) s = some o →
    (o.1.requests r).outcome ≠ .pending
  /-- A promise that is settled has no entry. -/
  gone : ∀ r, (s.requests r).outcome.settled = true →
    s.pendingRequests.lookup (cfg.msgId r) = none

/-! ### A promise is settled once -/

/-- No request is sent, and no promise is settled again. -/
def Advances (s s' : State) : Prop :=
  ∀ r, (s'.requests r).outcome = (s.requests r).outcome ∨ (s.requests r).outcome = .pending

theorem Advances.of_eq {s s' : State} (h : s'.requests = s.requests) : Advances s s' := by
  intro r
  rw [h]
  exact Or.inl rfl

theorem Advances.trans {s₁ s₂ s₃ : State} (h : Advances s₁ s₂) (h' : Advances s₂ s₃) :
    Advances s₁ s₃ := by
  intro r
  rcases h r with hr | hr
  · rw [← hr]
    exact h' r
  · exact Or.inr hr

theorem advances_setRequest {s : State} {r : ReqId} {f : Request → Request}
    (h : (f (s.requests r)).outcome = (s.requests r).outcome ∨ (s.requests r).outcome = .pending) :
    Advances s (s.setRequest r f) := by
  intro q
  dsimp only [State.setRequest]
  by_cases hq : q = r
  · subst hq
    rw [Function.update_self]
    exact h
  · rw [Function.update_of_ne hq]
    exact Or.inl rfl

theorem advances_clearTimeout (r : ReqId) (s : State) : Advances s (clearTimeout r s) :=
  advances_setRequest (Or.inl rfl)

/-- A pending request has been taken out. -/
theorem advances_cleared (r : ReqId) (msgId : String) (s : State) :
    Advances s (clearTimeout r { s with pendingRequests := s.pendingRequests.erase msgId }) :=
  (Advances.of_eq rfl).trans (advances_clearTimeout r _)

theorem advances_reject (r : ReqId) (cause : Cause) (s : State) :
    Advances s (reject r cause s).1 := by
  unfold reject
  split_ifs with hpending
  · show Advances s (s.setRequest r fun q => { q with outcome := .rejected })
    exact advances_setRequest (Or.inr hpending)
  · exact Advances.of_eq rfl

theorem advances_resolve (r : ReqId) (s : State) : Advances s (resolve r s) := by
  unfold resolve
  split_ifs with hpending
  · exact advances_setRequest (Or.inr hpending)
  · exact Advances.of_eq rfl

theorem advances_rejectEach (cause : Cause) (rs : List ReqId) :
    ∀ s, Advances s (rejectEach cause rs s).1 := by
  induction rs with
  | nil => exact fun s => Advances.of_eq rfl
  | cons r rs ih =>
    intro s
    exact ((advances_clearTimeout r s).trans (advances_reject r cause _)).trans (ih _)

theorem advances_rejectAllPending (cause : Cause) (s : State) :
    Advances s (rejectAllPending cause s).1 :=
  (advances_rejectEach cause _ s).trans (Advances.of_eq rfl)

theorem advances_failTransport (t : StartId) (s : State) : Advances s (failTransport t s).1 := by
  unfold failTransport
  split_ifs
  · exact Advances.of_eq rfl
  · have hclosed : Advances s (s.setTransport t fun transport =>
        { transport with closed := true, active := false }) := Advances.of_eq rfl
    exact hclosed.trans (advances_rejectAllPending _ _)

theorem advances_resolvePending (msgId : String) (bodyBytes : Bytes) (s : State) :
    Advances s (resolvePending cfg msgId bodyBytes s).1 := by
  unfold resolvePending
  split
  · exact Advances.of_eq rfl
  · rename_i r _
    have hcleared := advances_cleared r msgId s
    dsimp only
    split_ifs
    · exact hcleared.trans (advances_resolve r _)
    · exact hcleared.trans (advances_reject r _ _)

theorem advances_rejectPending (msgId : String) (bodyBytes : Bytes) (s : State) :
    Advances s (rejectPending cfg msgId bodyBytes s).1 := by
  unfold rejectPending
  split
  · exact Advances.of_eq rfl
  · rename_i r _
    have hcleared := advances_cleared r msgId s
    dsimp only
    split_ifs
    · exact hcleared.trans (advances_reject r _ _)
    · exact hcleared

theorem advances_message (t : StartId) (incoming : Incoming) (s : State) :
    Advances s (message cfg t incoming s).1 := by
  cases incoming with
  | text => exact advances_failTransport t s
  | binary bytes =>
    unfold message
    dsimp only
    cases toFrame cfg.msgpack bytes with
    | error err => exact advances_failTransport t s
    | ok frame =>
      dsimp only
      split_ifs
      · exact advances_resolvePending _ _ s
      · exact advances_rejectPending _ _ s
      · exact Advances.of_eq rfl

theorem advances_beginStop (w : Stopper) (s : State) : Advances s (beginStop w s).1 := by
  unfold beginStop
  dsimp only
  split
  · have htaken : Advances s { s with transport := none, started := false } := Advances.of_eq rfl
    exact (htaken.trans (advances_rejectAllPending _ _)).trans (Advances.of_eq rfl)
  · split_ifs <;> exact Advances.of_eq rfl

theorem advances_failStart (k : StartId) (s : State) : Advances s (failStart k s).1 := by
  have hstops : Advances s (s.setStart k .stop) := Advances.of_eq rfl
  exact hstops.trans (advances_beginStop _ _)

theorem outcome_of_step {s : State} {i : Input} {o : State × List Event} {r : ReqId}
    (h : Step cfg s i o) (hsettled : (s.requests r).outcome.settled = true) :
    (o.1.requests r).outcome = (s.requests r).outcome := by
  have hadvances : Advances s o.1 → (o.1.requests r).outcome = (s.requests r).outcome := by
    intro hadvances
    rcases hadvances r with hsame | hpending
    · exact hsame
    · rw [hpending] at hsettled
      cases hsettled
  cases h with
  | connectThrows => exact hadvances (advances_failStart _ _)
  | validateThrows => exact hadvances (advances_failStart _ _)
  | stop => exact hadvances (advances_beginStop _ _)
  | stopSent =>
    refine hadvances (Advances.of_eq ?_)
    unfold closeTransport
    split_ifs <;> rfl
  | stopClosed => exact hadvances ((advances_rejectAllPending _ _).trans (Advances.of_eq rfl))
  | message => exact hadvances (advances_message _ _ _)
  | @socketClosed t =>
    have hclosed : Advances s (s.setTransport t fun transport =>
        { transport with closed := true, active := false, closeEmitted := true }) :=
      Advances.of_eq rfl
    exact hadvances (hclosed.trans (advances_rejectAllPending _ _))
  | socketError => exact hadvances (advances_failTransport _ _)
  | @request q encoded hunsent =>
    -- the request that is sent has not been settled
    have hq : r ≠ q := by
      rintro rfl
      rw [hunsent] at hsettled
      cases hsettled
    unfold sendRequest
    split
    · split_ifs
      · exact congrArg Request.outcome (Function.update_of_ne hq ..)
      · dsimp only
        rcases advances_reject q .sendFailure _ r with hsame | hpending
        · exact hsame.trans (congrArg Request.outcome (Function.update_of_ne hq ..))
        · dsimp only at hpending
          rw [Function.update_of_ne hq] at hpending
          rw [hpending] at hsettled
          cases hsettled
      · exact congrArg Request.outcome (Function.update_of_ne hq ..)
    · exact congrArg Request.outcome (Function.update_of_ne hq ..)
  | @requestSent q =>
    have hsent : Advances s (s.setRequest q fun p => { p with sending := false }) :=
      advances_setRequest (Or.inl rfl)
    exact hadvances hsent
  | @sendFails q =>
    have hsent : Advances s (s.setRequest q fun p => { p with sending := false }) :=
      advances_setRequest (Or.inl rfl)
    have hcleared := (hsent.trans (Advances.of_eq rfl)).trans (advances_clearTimeout q
      { s.setRequest q fun p => { p with sending := false } with
        pendingRequests := s.pendingRequests.erase (cfg.msgId q) })
    exact hadvances (hcleared.trans (advances_reject q _ _))
  | @timeout q =>
    have hcleared : Advances s
        (clearTimeout q { s with pendingRequests := s.pendingRequests.erase (cfg.msgId q) }) :=
      (Advances.of_eq rfl).trans (advances_clearTimeout q _)
    exact hadvances (hcleared.trans (advances_reject q _ _))
  | _ => exact hadvances (Advances.of_eq rfl)

/-! ### Entries and timers -/

/-- The map has an entry for a request that waits, and for nobody else. -/
structure Kept (cfg : Config) (s : State) : Prop where
  keyed : ∀ k r, s.pendingRequests.lookup k = some r →
    k = cfg.msgId r ∧ (s.requests r).outcome = .pending
  waits : ∀ r, (s.requests r).outcome = .pending →
    (s.requests r).timer = true ∧ s.pendingRequests.lookup (cfg.msgId r) = some r

theorem Kept.of_eq {s s' : State} (h : Kept cfg s) (hrequests : s'.requests = s.requests)
    (hpending : s'.pendingRequests = s.pendingRequests) : Kept cfg s' := by
  refine ⟨?_, ?_⟩
  · rw [hrequests, hpending]
    exact h.keyed
  · rw [hrequests, hpending]
    exact h.waits

/-- A step that touches neither the outcome nor the timer of any request. -/
theorem Kept.setRequest {s : State} (h : Kept cfg s) (r : ReqId) (f : Request → Request)
    (houtcome : (f (s.requests r)).outcome = (s.requests r).outcome)
    (htimer : (f (s.requests r)).timer = (s.requests r).timer) : Kept cfg (s.setRequest r f) := by
  have hrequests : ∀ q, ((s.setRequest r f).requests q).outcome = (s.requests q).outcome ∧
      ((s.setRequest r f).requests q).timer = (s.requests q).timer := by
    intro q
    dsimp only [State.setRequest]
    by_cases hq : q = r
    · subst hq
      rw [Function.update_self]
      exact ⟨houtcome, htimer⟩
    · rw [Function.update_of_ne hq]
      exact ⟨rfl, rfl⟩
  refine ⟨fun k q hlookup => ?_, fun q hpending => ?_⟩
  · rw [(hrequests q).1]
    exact h.keyed k q hlookup
  · rw [(hrequests q).1] at hpending
    rw [(hrequests q).2]
    exact h.waits q hpending

/-- One request is settled, and its entry is taken away. -/
theorem Kept.settle {s s' : State} (h : Kept cfg s) (hids : Function.Injective cfg.msgId)
    {r : ReqId} (hpending : s'.pendingRequests = s.pendingRequests.erase (cfg.msgId r))
    (hrequests : ∀ q, q ≠ r → s'.requests q = s.requests q)
    (hsettled : (s'.requests r).outcome ≠ .pending) : Kept cfg s' := by
  refine ⟨fun k q hlookup => ?_, fun q hq => ?_⟩
  · rw [hpending] at hlookup
    have hk : k ≠ cfg.msgId r := by
      rintro rfl
      rw [AList.lookup_erase] at hlookup
      cases hlookup
    rw [AList.lookup_erase_ne hk] at hlookup
    obtain ⟨rfl, houtcome⟩ := h.keyed k q hlookup
    have hne : q ≠ r := fun heq => hk (congrArg cfg.msgId heq)
    rw [hrequests q hne]
    exact ⟨rfl, houtcome⟩
  · have hne : q ≠ r := by
      rintro rfl
      exact hsettled hq
    rw [hrequests q hne] at hq ⊢
    rw [hpending, AList.lookup_erase_ne fun heq => hne (hids heq)]
    exact h.waits q hq

/-- Nobody waits, and the map is empty. -/
theorem kept_of_empty {s : State} (hpending : s.pendingRequests = ∅)
    (hsettled : ∀ r, (s.requests r).outcome ≠ .pending) : Kept cfg s := by
  refine ⟨fun k r hlookup => ?_, fun r hr => absurd hr (hsettled r)⟩
  rw [hpending, AList.lookup_empty] at hlookup
  cases hlookup

theorem Kept.gone {s : State} (h : Kept cfg s) {r : ReqId} (hids : Function.Injective cfg.msgId)
    (hsettled : (s.requests r).outcome.settled = true) :
    s.pendingRequests.lookup (cfg.msgId r) = none := by
  by_contra hsome
  obtain ⟨q, hq⟩ := Option.ne_none_iff_exists'.mp hsome
  obtain ⟨hmsgId, hpending⟩ := h.keyed _ q hq
  rw [← hids hmsgId] at hpending
  rw [hpending] at hsettled
  cases hsettled

/-! ### Settling one request -/

theorem requests_setRequest_of_ne {s : State} {r q : ReqId} (f : Request → Request) (hq : q ≠ r) :
    (s.setRequest r f).requests q = s.requests q :=
  Function.update_of_ne hq ..

theorem requests_reject_of_ne {s : State} {r q : ReqId} {cause : Cause} (hq : q ≠ r) :
    (reject r cause s).1.requests q = s.requests q := by
  unfold reject
  split_ifs
  · show (s.setRequest r fun p => { p with outcome := .rejected }).requests q = s.requests q
    exact requests_setRequest_of_ne _ hq
  · rfl

theorem requests_resolve_of_ne {s : State} {r q : ReqId} (hq : q ≠ r) :
    (resolve r s).requests q = s.requests q := by
  unfold resolve
  split_ifs
  · exact requests_setRequest_of_ne _ hq
  · rfl

theorem outcome_reject (r : ReqId) (cause : Cause) (s : State) :
    ((reject r cause s).1.requests r).outcome ≠ .pending := by
  unfold reject
  split_ifs with hpending
  · dsimp only [State.setRequest]
    rw [Function.update_self]
    rintro ⟨⟩
  · exact hpending

theorem outcome_resolve (r : ReqId) (s : State) :
    ((resolve r s).requests r).outcome ≠ .pending := by
  unfold resolve
  split_ifs with hpending
  · dsimp only [State.setRequest]
    rw [Function.update_self]
    rintro ⟨⟩
  · exact hpending

theorem pendingRequests_reject (r : ReqId) (cause : Cause) (s : State) :
    (reject r cause s).1.pendingRequests = s.pendingRequests := by
  unfold reject
  split_ifs <;> rfl

theorem pendingRequests_resolve (r : ReqId) (s : State) :
    (resolve r s).pendingRequests = s.pendingRequests := by
  unfold resolve
  split_ifs <;> rfl

/-- The entry and the timer of a request are taken away, and its promise is rejected. -/
theorem Kept.reject {s s₀ : State} (h : Kept cfg s) (hids : Function.Injective cfg.msgId)
    {r : ReqId} (cause : Cause)
    (hpending : s₀.pendingRequests = s.pendingRequests.erase (cfg.msgId r))
    (hrequests : ∀ q, q ≠ r → s₀.requests q = s.requests q) :
    Kept cfg (reject r cause (clearTimeout r s₀)).1 := by
  refine h.settle hids (r := r) ?_ (fun q hq => ?_) (outcome_reject r cause _)
  · rw [pendingRequests_reject]
    exact hpending
  · rw [requests_reject_of_ne hq]
    exact (requests_setRequest_of_ne _ hq).trans (hrequests q hq)

theorem Kept.resolvePending {s : State} (h : Kept cfg s) (hids : Function.Injective cfg.msgId)
    (msgId : String) (bodyBytes : Bytes) :
    Kept cfg (resolvePending cfg msgId bodyBytes s).1 := by
  unfold Handle.resolvePending
  split
  · exact h
  · rename_i r hlookup
    obtain ⟨rfl, -⟩ := h.keyed msgId r hlookup
    dsimp only
    split_ifs
    · refine h.settle hids (r := r) (pendingRequests_resolve ..) (fun q hq => ?_)
        (outcome_resolve r _)
      rw [requests_resolve_of_ne hq]
      exact requests_setRequest_of_ne _ hq
    · exact h.reject hids _ rfl fun q _ => rfl

theorem Kept.rejectPending {s : State} (h : Kept cfg s) (hids : Function.Injective cfg.msgId)
    (msgId : String) (bodyBytes : Bytes)
    (hreads : s.pendingRequests.lookup msgId ≠ none → cfg.readsError bodyBytes = true) :
    Kept cfg (rejectPending cfg msgId bodyBytes s).1 := by
  unfold Handle.rejectPending
  split
  · exact h
  · rename_i r hlookup
    obtain ⟨rfl, -⟩ := h.keyed msgId r hlookup
    have hsome : s.pendingRequests.lookup (cfg.msgId r) ≠ none := by
      rw [hlookup]
      rintro ⟨⟩
    dsimp only
    rw [if_pos (hreads hsome)]
    exact h.reject hids _ rfl fun q _ => rfl

/-! ### Settling all requests -/

theorem outcome_rejectEach {cause : Cause} {r : ReqId} (rs : List ReqId) :
    ∀ {s : State}, ((rejectEach cause rs s).1.requests r).outcome = .pending →
      (s.requests r).outcome = .pending ∧ r ∉ rs := by
  induction rs with
  | nil => exact fun h => ⟨h, List.not_mem_nil⟩
  | cons q rs ih =>
    intro s h
    obtain ⟨hpending, hnotMem⟩ := ih h
    have hne : r ≠ q := by
      rintro rfl
      exact outcome_reject r cause _ hpending
    rw [requests_reject_of_ne hne] at hpending
    have hbefore : (clearTimeout q s).requests r = s.requests r := requests_setRequest_of_ne _ hne
    rw [hbefore] at hpending
    refine ⟨hpending, fun hmem => ?_⟩
    rcases List.mem_cons.mp hmem with heq | hmem
    · exact hne heq
    · exact hnotMem hmem

/-- Everybody who waits is in the map, and rejected. -/
theorem Kept.outcome_rejectAllPending {s : State} (h : Kept cfg s) (cause : Cause) (r : ReqId) :
    ((rejectAllPending cause s).1.requests r).outcome ≠ .pending := by
  intro hpending
  obtain ⟨hbefore, hnotMem⟩ := outcome_rejectEach _ hpending
  have hlookup := (h.waits r hbefore).2
  exact hnotMem (List.mem_map_of_mem (AList.mem_lookup_iff.mp hlookup))

theorem Kept.rejectAllPending {s : State} (h : Kept cfg s) (cause : Cause) :
    Kept cfg (rejectAllPending cause s).1 :=
  kept_of_empty rfl (h.outcome_rejectAllPending cause)

theorem Kept.failTransport {s : State} (h : Kept cfg s) (t : StartId) :
    Kept cfg (failTransport t s).1 := by
  unfold Handle.failTransport
  split_ifs
  · exact h
  · have hclosed : Kept cfg (s.setTransport t fun transport =>
        { transport with closed := true, active := false }) := h.of_eq rfl rfl
    exact hclosed.rejectAllPending (.closed t)

theorem Kept.message {s : State} (h : Kept cfg s) (hids : Function.Injective cfg.msgId)
    (t : StartId) {incoming : Incoming} (hreads : ErrorReadable cfg s incoming) :
    Kept cfg (message cfg t incoming s).1 := by
  cases incoming with
  | text => exact h.failTransport t
  | binary bytes =>
    unfold Handle.message
    unfold ErrorReadable at hreads
    dsimp only at hreads ⊢
    cases hframe : toFrame cfg.msgpack bytes with
    | error err => exact h.failTransport t
    | ok frame =>
      rw [hframe] at hreads
      dsimp only
      split_ifs with hresponse herror
      · exact h.resolvePending hids _ _
      · exact h.rejectPending hids _ _ (hreads frame rfl herror)
      · exact h

theorem Kept.beginStop {s : State} (h : Kept cfg s) (w : Stopper) : Kept cfg (beginStop w s).1 := by
  have htaken : Kept cfg { s with transport := none, started := false } := h.of_eq rfl rfl
  unfold Handle.beginStop
  dsimp only
  split
  · exact (htaken.rejectAllPending (.stop w)).of_eq rfl rfl
  · split_ifs
    · exact htaken.of_eq rfl rfl
    · exact htaken.of_eq rfl rfl

theorem Kept.failStart {s : State} (h : Kept cfg s) (k : StartId) : Kept cfg (failStart k s).1 := by
  have hset : Kept cfg (s.setStart k .stop) := h.of_eq rfl rfl
  exact hset.beginStop (.start k)

/-- A request is sent if its body can be encoded, or else rejected before it has an entry. -/
theorem Kept.sendRequest {s : State} (h : Kept cfg s) (hids : Function.Injective cfg.msgId)
    {r : ReqId} {encoded : Bool} (hunsent : (s.requests r).outcome = .unsent)
    (hencoded : Codable cfg s (.request r encoded)) : Kept cfg (sendRequest cfg r encoded s).1 := by
  have hothers : ∀ k q, s.pendingRequests.lookup k = some q → q ≠ r := by
    rintro k q hlookup rfl
    have hpending := (h.keyed k q hlookup).2
    rw [hunsent] at hpending
    cases hpending
  have hrejected : Kept cfg (s.setRequest r fun q => { q with outcome := .rejected }) := by
    refine ⟨fun k q hlookup => ?_, fun q hpending => ?_⟩
    · rw [requests_setRequest_of_ne _ (hothers k q hlookup)]
      exact h.keyed k q hlookup
    · have hne : q ≠ r := by
        rintro rfl
        dsimp only [State.setRequest] at hpending
        rw [Function.update_self] at hpending
        cases hpending
      rw [requests_setRequest_of_ne _ hne] at hpending ⊢
      exact h.waits q hpending
  have hsent : ∀ t, Kept cfg
      { s with
        pendingRequests := s.pendingRequests.insert (cfg.msgId r) r
        requests := Function.update s.requests r ⟨.pending, true, encoded, some t⟩ } := by
    intro t
    refine ⟨fun k q hlookup => ?_, fun q hpending => ?_⟩
    · dsimp only at hlookup ⊢
      by_cases hk : k = cfg.msgId r
      · subst hk
        rw [AList.lookup_insert] at hlookup
        cases hlookup
        rw [Function.update_self]
        exact ⟨rfl, rfl⟩
      · rw [AList.lookup_insert_ne hk] at hlookup
        rw [Function.update_of_ne (hothers k q hlookup)]
        exact h.keyed k q hlookup
    · dsimp only at hpending ⊢
      by_cases hq : q = r
      · subst hq
        rw [Function.update_self, AList.lookup_insert]
        exact ⟨rfl, rfl⟩
      · rw [Function.update_of_ne hq] at hpending ⊢
        rw [AList.lookup_insert_ne fun heq => hq (hids heq)]
        exact h.waits q hpending
  unfold Handle.sendRequest
  cases htransport : s.transport with
  | none => exact hrejected
  | some t =>
    dsimp only
    by_cases hstarted : s.started = true ∧ s.callerPeerId = true
    · have hsome : s.transport.isSome = true := by
        rw [htransport]
        rfl
      have hok : encoded = true := hencoded hsome hstarted
      rw [if_pos hstarted, if_pos hok]
      exact (hsent t).of_eq rfl rfl
    · rw [if_neg hstarted]
      exact hrejected

theorem Kept.step {s : State} {i : Input} {o : State × List Event} (h : Kept cfg s)
    (hids : Function.Injective cfg.msgId) (hc : Codable cfg s i) (hs : Step cfg s i o) :
    Kept cfg o.1 := by
  cases hs with
  | connectThrows => exact h.failStart _
  | validateThrows => exact h.failStart _
  | stop => exact h.beginStop _
  | stopSent =>
    refine h.of_eq ?_ ?_
    · unfold closeTransport
      split_ifs <;> rfl
    · unfold closeTransport
      split_ifs <;> rfl
  | stopClosed => exact (h.rejectAllPending _).of_eq rfl rfl
  | message => exact h.message hids _ hc
  | @socketClosed t =>
    have hclosed : Kept cfg (s.setTransport t fun transport =>
        { transport with closed := true, active := false, closeEmitted := true }) :=
      h.of_eq rfl rfl
    exact hclosed.rejectAllPending _
  | socketError => exact h.failTransport _
  | request hunsent => exact h.sendRequest hids hunsent hc
  | @requestSent r =>
    exact h.setRequest r (fun q => { q with sending := false }) rfl rfl
  | sendFails => exact h.reject hids _ rfl fun q hq => Function.update_of_ne hq ..
  | timeout => exact h.reject hids _ rfl fun q _ => rfl
  | _ => exact h.of_eq rfl rfl

/-! ### The end of a transport -/

/-- The transports that are closed are the same. -/
def SameClosed (s s' : State) : Prop := ∀ t, (s'.transports t).closed = (s.transports t).closed

theorem Same.closed {s s' : State} (h : Same s s') : SameClosed s s' := by
  intro t
  rw [h.2.2.2.2]

theorem sameClosed_setTransport {s : State} {t : StartId} {f : Transport → Transport}
    (h : (f (s.transports t)).closed = (s.transports t).closed) :
    SameClosed s (s.setTransport t f) := by
  intro q
  dsimp only [State.setTransport]
  by_cases hq : q = t
  · subst hq
    rw [Function.update_self]
    exact h
  · rw [Function.update_of_ne hq]

theorem sameClosed_beginStop (w : Stopper) (s : State) : SameClosed s (beginStop w s).1 := by
  unfold beginStop
  dsimp only
  split
  · exact (same_rejectAllPending (.stop w) { s with transport := none, started := false }).closed
  · split_ifs <;> exact fun t => rfl

/-- A failure of a transport settles all requests, unless it was closed. -/
theorem Kept.closed_failTransport {s : State} (h : Kept cfg s) {t : StartId} :
    SameClosed s (Handle.failTransport t s).1 ∨
      ∀ r, ((Handle.failTransport t s).1.requests r).outcome ≠ .pending := by
  unfold Handle.failTransport
  split_ifs
  · exact Or.inl fun _ => rfl
  · right
    have hclosed : Kept cfg (s.setTransport t fun transport =>
        { transport with closed := true, active := false }) := h.of_eq rfl rfl
    exact hclosed.outcome_rejectAllPending (.closed t)

theorem Kept.closed_message {s : State} (h : Kept cfg s) {t : StartId} {incoming : Incoming} :
    SameClosed s (Handle.message cfg t incoming s).1 ∨
      ∀ r, ((Handle.message cfg t incoming s).1.requests r).outcome ≠ .pending := by
  cases incoming with
  | text => exact h.closed_failTransport
  | binary bytes =>
    unfold Handle.message
    dsimp only
    cases toFrame cfg.msgpack bytes with
    | error err => exact h.closed_failTransport
    | ok frame =>
      left
      dsimp only
      split_ifs
      · exact (same_resolvePending _ _ s).closed
      · exact (same_rejectPending _ _ s).closed
      · exact fun _ => rfl

/-- Only the first part of a `stop` closes a transport and leaves the requests to wait. -/
theorem Kept.closed_step {s : State} {i : Input} {o : State × List Event} (h : Kept cfg s)
    (hs : Step cfg s i o) (hi : ∀ w, i ≠ .stopSent w) :
    SameClosed s o.1 ∨ ∀ r, (o.1.requests r).outcome ≠ .pending := by
  cases hs with
  | @registered k =>
    have hset : SameClosed s (s.setTransport k fun transport =>
        { transport with listening := true }) := sameClosed_setTransport rfl
    exact Or.inl hset
  | connectThrows => exact Or.inl (sameClosed_beginStop _ _)
  | @activated k =>
    have hset : SameClosed s (s.setTransport k fun transport =>
        { transport with active := true }) := sameClosed_setTransport rfl
    exact Or.inl hset
  | validateThrows => exact Or.inl (sameClosed_beginStop _ _)
  | stop => exact Or.inl (sameClosed_beginStop _ _)
  | @stopSent w => exact absurd rfl (hi w)
  | stopClosed => exact Or.inr (h.outcome_rejectAllPending _)
  | message => exact h.closed_message
  | @socketClosed t =>
    right
    have hclosed : Kept cfg (s.setTransport t fun transport =>
        { transport with closed := true, active := false, closeEmitted := true }) :=
      h.of_eq rfl rfl
    exact hclosed.outcome_rejectAllPending _
  | socketError => exact h.closed_failTransport
  | request => exact Or.inl (same_sendRequest _ _ s).closed
  | sendFails => exact Or.inl ((same_requests s _ _).trans (same_reject _ _ _)).closed
  | timeout => exact Or.inl ((same_requests s _ _).trans (same_reject _ _ _)).closed
  | _ => exact Or.inl fun _ => rfl

/-! ### Runs -/

theorem Kept.settledInTime {s : State} (h : Kept cfg s) (hids : Function.Injective cfg.msgId) :
    SettledInTime cfg s where
  once i o r hs hsettled := outcome_of_step (step_of_handle hs) hsettled
  timer r hpending := (h.waits r hpending).1
  timeout o r hs := by
    cases step_of_handle hs
    exact outcome_reject r _ _
  closed i o t r hs hi hopen hclosed _ := by
    rcases h.closed_step (step_of_handle hs) hi with hsame | hsettled
    · rw [hsame t, hopen] at hclosed
      cases hclosed
    · exact hsettled r
  stopped w o r hs := by
    cases step_of_handle hs
    exact h.outcome_rejectAllPending _ r
  gone r hsettled := h.gone hids hsettled

/-- The listener throws at no message whose body can be read. -/
theorem thrown_of_codable {s : State} {i : Input} (hc : Codable cfg s i) : thrown cfg s i = [] := by
  cases i with
  | message t incoming =>
    have hnot : listenerThrows cfg incoming s = false := by
      cases incoming with
      | text => rfl
      | binary bytes =>
        unfold listenerThrows
        have hreads : ErrorReadable cfg s (.binary bytes) := hc
        unfold ErrorReadable at hreads
        dsimp only at hreads ⊢
        cases hframe : toFrame cfg.msgpack bytes with
        | error err => rfl
        | ok frame =>
          rw [hframe] at hreads
          dsimp only
          split_ifs with hresponse herror
          · rfl
          · cases hlookup : s.pendingRequests.lookup frame.envelope.msgId with
            | none => rfl
            | some r =>
              have hsome : s.pendingRequests.lookup frame.envelope.msgId ≠ none := by
                rw [hlookup]
                rintro ⟨⟩
              rw [hreads frame rfl herror hsome]
              rfl
          · rfl
    unfold thrown
    dsimp only
    rw [hnot]
    rfl
  | _ => rfl

/-- **Every request is settled once and in time, and no message makes the listener throw**, in a run
in which the error frames for pending requests can be read and the bodies of requests encoded. -/
theorem requests_settled (hids : Function.Injective cfg.msgId) {s : State}
    {tr : List (Incoming ⊕ Event)}
    (h : ((handle cfg).observed (thrown cfg)).Run (fun s _ i => Codable cfg s i) s tr) :
    SettledInTime cfg s ∧ ∀ incoming, Sum.inl incoming ∉ tr := by
  have hkept : Kept cfg s ∧ ∀ incoming, Sum.inl incoming ∉ tr := by
    refine TransitionSystem.Run.invariant
      (P := fun s tr => Kept cfg s ∧ ∀ incoming, Sum.inl incoming ∉ tr) ?_ ?_ h
    · exact ⟨kept_of_empty rfl fun _ => by rintro ⟨⟩, fun _ => List.not_mem_nil⟩
    · intro s s' tr evs i _ hc hs ih
      obtain ⟨evs₀, hs₀, rfl⟩ := TransitionSystem.step_observed.mp hs
      refine ⟨ih.1.step hids hc (step_of_handle hs₀), fun incoming hmem => ?_⟩
      rw [thrown_of_codable hc, List.map_nil, List.nil_append] at hmem
      rcases List.mem_append.mp hmem with hmem | hmem
      · exact ih.2 incoming hmem
      · obtain ⟨e, -, heq⟩ := List.mem_map.mp hmem
        cases heq
  exact ⟨hkept.1.settledInTime hids, hkept.2⟩

section Sample

theorem localConfig_msgId_injective : Function.Injective localConfig.msgId := by
  intro r q h
  have hlength : r + 1 = q + 1 := by
    simpa [localConfig] using congrArg (fun s : String => s.toList.length) h
  exact Nat.succ.inj hlength

/-- A frame of the target for the request `r` comes on the transport `0`. -/
def answers (kind : String) (r : ReqId) (bodyBytes : Bytes) : Input :=
  .message 0 (.binary (Router.frameBytes
    (Router.buildEnvelope kind (localConfig.msgId r) "service" "caller" .one) bodyBytes))

/-- Two requests are answered, by a response and by an error, and one is rejected when the socket is
closed. -/
theorem requests_settled_of_answers : ∃ s tr,
    (localHandle.observed (thrown localConfig)).Run (fun s _ i => Codable localConfig s i) s tr ∧
    (s.requests 0).outcome = .resolved ∧ (s.requests 1).outcome = .rejected ∧
    (s.requests 2).outcome = .rejected ∧ SettledInTime localConfig s ∧
    ∀ incoming, Sum.inl incoming ∉ tr := by
  obtain ⟨s, tr, hrun, hp⟩ :=
    (localHandle.observed (thrown localConfig)).exists_run_of_exec
      (fun s _ i => Codable localConfig s i)
      (connects 0 ++ [.request 0 true, .request 1 true, .request 2 true,
        answers kindResponse 0 (MsgPack.encode (.map [])),
        answers kindError 1 (MsgPack.encode (.map [])), .socketClosed 0])
      (fun s _ => (s.requests 0).outcome = .resolved ∧ (s.requests 1).outcome = .rejected ∧
        (s.requests 2).outcome = .rejected) (by decide +kernel)
  obtain ⟨h0, h1, h2⟩ := of_decide_eq_true hp
  exact ⟨s, tr, hrun, h0, h1, h2, requests_settled localConfig_msgId_injective hrun⟩

/-- The body of an error frame is nil: the listener throws, and the request has neither an entry nor
a timer any more. -/
theorem unsettled_of_nil_error :
    ¬ ∀ s tr, (localHandle.observed (thrown localConfig)).Reachable s tr →
      SettledInTime localConfig s ∧ ∀ incoming, Sum.inl incoming ∉ tr := by
  obtain ⟨s, tr, hrun, hp⟩ :=
    (localHandle.observed (thrown localConfig)).exists_reachable_of_exec
      (connects 0 ++ [.request 0 true, answers kindError 0 [0xc0]])
      (fun s _ => (s.requests 0).outcome = .pending ∧ (s.requests 0).timer = false)
      (by decide +kernel)
  obtain ⟨hpending, htimer⟩ := of_decide_eq_true hp
  intro h
  rw [(h s tr hrun).1.timer 0 hpending] at htimer
  cases htimer

end Sample

end Multifrost.JavaScript.Handle
