import Multifrost.Php.Transport

/-!
# The caller handle of the PHP binding

`Handle` of `php/src/Connection.php`.  Its methods block and run one after the other; what the
router, the socket and the libraries do in one of them is an input.  `start` tests `started` alone,
assigns the transport before it asks for the target, and sets `started` at its end.
-/

namespace Multifrost.Php.Handle

open MsgPack (Value)
open PeerTransport (Libraries QueryResponseBody Received Sends)

/-! ### The state -/

/-- The transports are numbered in the order in which they are dialed. -/
structure Transport where
  id : Nat
  state : PeerTransport.State

/-- The options of a connection, with its target. -/
structure Options where
  peerId : Option String
  validateTarget : Bool
  defaultTargetPeerId : String

structure State where
  transport : Option Transport
  started : Bool
  peerId : String
  /-- how many transports have been dialed -/
  dials : Nat
  /-- the transports that the handle has given up -/
  past : List Transport

inductive Exception
  /-- what `ensureRouter` throws -/
  | bootstrap (message : String)
  | peer (exception : PeerTransport.Exception)

/-- What happens to a call of `start`. -/
structure Starting where
  ensureRouter : Except String Unit
  /-- an id that `newMsgId` gives, for the peer -/
  newPeerId : String
  client : Except String Unit
  registerMsgId : String
  registerSends : Sends
  /-- what the socket will yield -/
  inbound : List Received
  queryMsgId : String
  querySends : Sends

inductive Input
  | start (starting : Starting)
  | stop (written : Except String Unit)
  | call (function : String) (args : List Value) (msgId : String) (sends : Sends)
  | queryPeerExists (peerId msgId : String) (sends : Sends)
  | queryPeerGet (peerId msgId : String) (sends : Sends)

/-- A method has come back. -/
inductive Event
  | start (outcome : Except Exception Unit)
  | stop
  | call (outcome : Except Exception Value)
  | queryPeerExists (outcome : Except Exception Bool)
  | queryPeerGet (outcome : Except Exception QueryResponseBody)

variable (l : Libraries) (o : Options)

/-! ### Starting and stopping -/

def Options.resolvePeerId (newPeerId : String) : String :=
  match o.peerId with
  | none => newPeerId
  | some peerId => if peerId = "" then newPeerId else peerId

/-- `$this->transport = null` -/
def State.giveUp (s : State) (t : Transport) : State :=
  { s with transport := none, past := t :: s.past }

/-- `start` after the dial, with the transport assigned. -/
def validate (starting : Starting) (t : Transport) (s : State) :
    Option (Except Exception Unit × State) :=
  if o.validateTarget && o.defaultTargetPeerId != "" then
    (PeerTransport.queryGet l o.defaultTargetPeerId starting.queryMsgId starting.querySends
      t.state).map fun done =>
      match done.outcome with
      | .error exception =>
        (.error (.peer exception), { s with transport := some ⟨t.id, done.state⟩ })
      | .ok details =>
        if !details.exist || !details.connected then
          (.error (.peer (.multifrost (.routerError "peer_not_found"
            ("target peer \"" ++ o.defaultTargetPeerId ++ "\" not found")))),
            s.giveUp ⟨t.id, PeerTransport.close done.state⟩)
        else if details.peerClass ≠ some .service then
          (.error (.peer (.multifrost (.routerError "invalid_target_class"
            ("target peer \"" ++ o.defaultTargetPeerId ++ "\" is not a service")))),
            s.giveUp ⟨t.id, PeerTransport.close done.state⟩)
        else (.ok (), { s with transport := some ⟨t.id, done.state⟩, started := true })
  else some (.ok (), { s with started := true })

def start (starting : Starting) (s : State) : Option (Except Exception Unit × State) :=
  if s.started then some (.ok (), s)
  else
    match starting.ensureRouter with
    | .error message => some (.error (.bootstrap message), s)
    | .ok () =>
      let peerId := o.resolvePeerId starting.newPeerId
      match PeerTransport.dial l peerId .caller starting.client starting.registerMsgId
        starting.registerSends starting.inbound with
      | none => none
      | some (.error exception) => some (.error (.peer exception), s)
      | some (.ok state) =>
        validate l o starting ⟨s.dials, state⟩
          { s with
            transport := some ⟨s.dials, state⟩
            peerId := peerId
            dials := s.dials + 1
            -- a transport that is still there is overwritten
            past := s.transport.toList ++ s.past }

def stop (written : Except String Unit) (s : State) : State :=
  match s.transport with
  | none => s
  | some t =>
    if s.started then
      { s with started := false }.giveUp
        ⟨t.id, PeerTransport.close (PeerTransport.disconnect written t.state)⟩
    else s

/-- A method that needs the transport. -/
def withTransport {α : Type} (s : State)
    (method : PeerTransport.State → Option (PeerTransport.Done α)) :
    Option (Except Exception α × State) :=
  match s.transport with
  | none => some (.error (.peer (.transportError "handle not started")), s)
  | some t =>
    if s.started then
      (method t.state).map fun done =>
        (done.outcome.mapError .peer, { s with transport := some ⟨t.id, done.state⟩ })
    else some (.error (.peer (.transportError "handle not started")), s)

def call (function : String) (args : List Value) (msgId : String) (sends : Sends) (s : State) :
    Option (Except Exception Value × State) :=
  withTransport s (PeerTransport.call l o.defaultTargetPeerId function args msgId sends)

def queryPeerExists (peerId msgId : String) (sends : Sends) (s : State) :
    Option (Except Exception Bool × State) :=
  (withTransport s (PeerTransport.queryExists l peerId msgId sends)).map fun r =>
    (r.1.map QueryResponseBody.exist, r.2)

def queryPeerGet (peerId msgId : String) (sends : Sends) (s : State) :
    Option (Except Exception QueryResponseBody × State) :=
  withTransport s (PeerTransport.queryGet l peerId msgId sends)

/-- A handle of which nothing has been called yet. -/
def handle : TransitionSystem State Input Event where
  init := ⟨none, false, "", 0, []⟩
  step
    | .start starting, s => (start l o starting s).map fun r => (r.2, [.start r.1])
    | .stop written, s => some (stop written s, [.stop])
    | .call function args msgId sends, s =>
      (call l o function args msgId sends s).map fun r => (r.2, [.call r.1])
    | .queryPeerExists peerId msgId sends, s =>
      (queryPeerExists l peerId msgId sends s).map fun r => (r.2, [.queryPeerExists r.1])
    | .queryPeerGet peerId msgId sends, s =>
      (queryPeerGet l peerId msgId sends s).map fun r => (r.2, [.queryPeerGet r.1])

end Multifrost.Php.Handle
