import MiniGames.Network.SendPath
import MiniGames.Shared.Runs

set_option autoImplicit false

namespace MiniGames

open Circular Runs Server

-- The statements of DisconnectSessionInternal.
inductive DisconnectPc where
  | exchange
  | close
  | clearSending
  | pushPending
  | readSessionId
  | pushEvent (sessionId : SessionId)
  deriving DecidableEq

-- The stores of Initialize.
inductive InitializePc where
  | socket
  | sessionId
  | valid
  | sending
  | recvQ
  | sendQ
  | overlapped
  deriving DecidableEq

-- A thread is a stack of these, and a turn runs the statement that the top one stands at. The
-- `CSession*` arguments are slot indices: nothing ties them to the session that was found there.
inductive Frame where
  -- FindSession inside RequestSendMsg and RequestDisconnectSession
  | findSend (sessionId : SessionId) (payload : Payload)
  | findDisconnect (sessionId : SessionId)
  -- RequestSendMsg, PostSend or ProcessSend; not in the source: the id RequestSendMsg was given.
  | send (index : Index) (target : Option SessionId) (pc : SendPc)
  -- DisconnectSessionInternal; not in the source: the id of the session whose `_valid` it cleared.
  | disconnect (index : Index) (pc : DisconnectPc) (cleared : SessionId)
  -- WorkerThread
  | dispatch (completion : Completion)
  | checkId (completion : Completion)
  -- ProcessRecv; not in the source: the incarnation that the completed receive was posted for.
  | moveWritePtr (index : Index) (incarnation bytesTransferred : Nat)
  | parse (index : Index) (incarnation : Nat)
  | deliver (index : Index) (incarnation : Nat) (bytes : List UInt8)
  | postRecv (index : Index) (incarnation : Nat)
  | wsaRecv (index : Index) (incarnation : Nat)
  -- AcceptThread, ReleaseSession and ProcessAccept
  | releaseSession
  | release (sessionId : SessionId)
  | processAccept (clientSocket : Socket)
  | initializeSession (pc : InitializePc) (index : Index) (clientSocket : Socket) (sessionId : SessionId)
  | bindIOCP (index : Index) (clientSocket : Socket) (sessionId : SessionId)
  | announceConnect (index : Index) (clientSocket : Socket) (sessionId : SessionId)
  deriving DecidableEq

namespace InitializePc

def store (clientSocket : Socket) (sessionId : SessionId) : InitializePc → CSession → CSession
  | .socket => CSession.storeSocket (some clientSocket) clientSocket
  | .sessionId => CSession.storeSessionId sessionId
  | .valid => CSession.storeValid true
  | .sending => CSession.storeSending false
  | .recvQ => CSession.clearRecvQ
  | .sendQ => CSession.clearSendQ
  | .overlapped => CSession.storeOverlapped sessionId

def next : InitializePc → Option InitializePc
  | .socket => some .sessionId
  | .sessionId => some .valid
  | .valid => some .sending
  | .sending => some .recvQ
  | .recvQ => some .sendQ
  | .sendQ => some .overlapped
  | .overlapped => none

end InitializePc

namespace Frame

variable (env : Environment)

def startDisconnect (index : Index) : Frame := .disconnect index .exchange 0

-- The frames that take over from a send frame.
def resume (index : Index) (target : Option SessionId) : SendPc → List Frame
  | .idle => []
  | .disconnect => [startDisconnect index]
  | pc => [.send index target pc]

def sendTurn (server : Server) (index : Index) (pc : SendPc) : Server × SendPc :=
  let session := server.sessions index
  let accepted := session.socket.isSome && env.accepts server.calls
  let turn := pc.turn session accepted (env.garbage server.calls)
  let moved := server.modify index fun _ => turn.session
  match turn.called with
  | some segments => ((moved.post env index .send segments).1, turn.next)
  | none => (moved, turn.next)

def disconnectTurn (server : Server) (index : Index) (cleared : SessionId) :
    DisconnectPc → Server × List Frame
  | .exchange =>
      if (server.sessions index).valid then
        (server.modify index (CSession.storeValid false),
          [.disconnect index .close (server.sessions index).sessionId])
      else (server, [])
  | .close => (server.close index, [.disconnect index .clearSending cleared])
  | .clearSending =>
      (server.modify index (CSession.storeSending false), [.disconnect index .pushPending cleared])
  | .pushPending => (server.pushPending index, [.disconnect index .readSessionId cleared])
  | .readSessionId =>
      (server, [.disconnect index (.pushEvent (server.sessions index).sessionId) cleared])
  | .pushEvent sessionId => (server.announceDisconnect env sessionId, [])

def checkIdTurn (server : Server) (completion : Completion) : List Frame :=
  let index := completion.request.index
  let overlappedEx := (server.sessions index).overlapped completion.request.operation
  if overlappedEx.sessionId ≠ (server.sessions index).sessionId then []
  else
    match overlappedEx.operation with
    | .recv => [.moveWritePtr index completion.request.incarnation completion.bytesTransferred]
    | .send => [.send index none (.sentValid completion.bytesTransferred)]
    | .accept => []

def moveWritePtrTurn (server : Server) (index : Index) (incarnation bytesTransferred : Nat) :
    Server × List Frame :=
  if bytesTransferred = 0 then (server, [startDisconnect index])
  else
    let moved := (server.sessions index).recvQ.moveWritePtr bytesTransferred
    (server.modify index (CSession.storeRecvQ moved.1),
      if moved.2.returned ≠ bytesTransferred then [startDisconnect index]
      else [.parse index incarnation, .postRecv index incarnation])

def parseTurn (server : Server) (index : Index) (incarnation : Nat) : Server × List Frame :=
  match Server.parseTurn env (server.sessions index).recvQ with
  | .stop => (server, [])
  | .reject => (server, [startDisconnect index])
  | .packet rest bytes =>
      (server.modify index (CSession.storeRecvQ rest),
        [.deliver index incarnation bytes, .parse index incarnation])

def deliverTurn (server : Server) (index : Index) (bytes : List UInt8) : Server × List Frame :=
  match env.architectureType with
  | .echoTest => (server, [.findSend (server.sessions index).sessionId (.ofBytes bytes)])
  | .centralized =>
      (server.pushNetworkEvent ⟨.received, (server.sessions index).sessionId, bytes⟩, [])
  | _ => (server, [])

def wsaRecvTurn (server : Server) (index : Index) : Server × List Frame :=
  let armed := server.modify index CSession.armRecv
  let segments := recvBuffers (armed.sessions index).recvQ
  if segments.isEmpty then (armed, [startDisconnect index])
  else
    let posted := armed.post env index .recv segments
    (posted.1, if posted.2 then [] else [startDisconnect index])

def processAcceptTurn (server : Server) (clientSocket : Socket) : Server × List Frame :=
  match server.availableIndices with
  | [] => (server.closesocket clientSocket, [])
  | index :: rest =>
      let uniqueId := server.sessionIdCounter &&& sessionUniqueMask
      ({ server with
          availableIndices := rest
          sessionIdCounter := server.sessionIdCounter + 1 },
        [.initializeSession .socket index clientSocket (makeSessionId index uniqueId)])

def bindTurn (server : Server) (bound : Bool) (index : Index) (clientSocket : Socket)
    (sessionId : SessionId) : Server × List Frame :=
  if bound then (server, [.announceConnect index clientSocket sessionId])
  else
    let server := server.close index
    ({ server with availableIndices := server.availableIndices ++ [index] }.closesocket clientSocket,
      [])

/-- One statement: the server after it and the frames that take this one's place. -/
def turn (server : Server) (bound : Bool) : Frame → Server × List Frame
  | .findSend sessionId payload =>
      (server, match server.findSession env sessionId with
        | some index => [.send index (some sessionId) (.checkValid payload)]
        | none => [])
  | .findDisconnect sessionId =>
      (server, match server.findSession env sessionId with
        | some index => [startDisconnect index]
        | none => [])
  | .send index target pc =>
      let turned := sendTurn env server index pc
      (turned.1, resume index target turned.2)
  | .disconnect index pc cleared => disconnectTurn env server index cleared pc
  | .dispatch completion =>
      (server,
        if completion.result = false ∨ completion.bytesTransferred = 0 then
          [startDisconnect completion.request.index]
        else if (server.sessions completion.request.index).valid then [.checkId completion]
        else [])
  | .checkId completion => (server, checkIdTurn server completion)
  | .moveWritePtr index incarnation bytesTransferred =>
      moveWritePtrTurn server index incarnation bytesTransferred
  | .parse index incarnation => parseTurn env server index incarnation
  | .deliver index _ bytes => deliverTurn env server index bytes
  | .postRecv index incarnation =>
      (server, if (server.sessions index).valid then [.wsaRecv index incarnation] else [])
  | .wsaRecv index _ => wsaRecvTurn env server index
  | .releaseSession =>
      match server.pendingDisconStack with
      | [] => (server, [])
      | sessionId :: rest =>
          ({ server with pendingDisconStack := rest }, [.release sessionId, .releaseSession])
  | .release sessionId => (server.releaseOne env sessionId, [])
  | .processAccept clientSocket => processAcceptTurn server clientSocket
  | .initializeSession pc index clientSocket sessionId =>
      (server.modify index (pc.store clientSocket sessionId),
        match pc.next with
        | some pc => [.initializeSession pc index clientSocket sessionId]
        | none => [.bindIOCP index clientSocket sessionId])
  | .bindIOCP index clientSocket sessionId => bindTurn server bound index clientSocket sessionId
  | .announceConnect index clientSocket sessionId =>
      (server.announceConnect env sessionId, [.postRecv index clientSocket])

end Frame

/-- Not in the source: what a run has done so far. -/
structure History where
  -- The id that ProcessAccept made for a socket.
  ids : Socket → SessionId
  -- The ids of the sessions whose `_valid` a DisconnectSessionInternal has cleared.
  cleared : List SessionId
  -- The argument of the RequestSendMsg whose payload a cell of a slot's `_sendQ` was last given.
  origin : Index → Nat → Option SessionId
  -- What Winsock has received on a socket.
  received : Socket → List UInt8

def Frame.record (server : Server) (history : History) : Frame → History
  | .processAccept clientSocket =>
      match server.availableIndices with
      | [] => history
      | index :: _ =>
          { history with
            ids := Function.update history.ids clientSocket
              (makeSessionId index (server.sessionIdCounter &&& sessionUniqueMask)) }
  | .disconnect index .exchange _ =>
      if (server.sessions index).valid then
        { history with cleared := history.cleared ++ [(server.sessions index).sessionId] }
      else history
  | .send index target (.enqueue payload) =>
      let ring := (server.sessions index).sendQ
      if (ring.enqueue payload.data payload.size).2.returned = 0 then history
      else
        { history with
          origin := fun other cell =>
            if other = index ∧ ∃ segment ∈ ring.copySegments ring.writePos payload.size,
              segment.covers cell then target
            else history.origin other cell }
  | _ => history

/-- `none` is the accept thread. -/
structure Machine (Thread : Type) where
  server : Server
  threads : Option Thread → List Frame
  history : History

inductive Turn (Thread : Type) where
  | run (thread : Option Thread) (bound : Bool)
  | accept
  | acceptFailed
  | receive (position : Nat) (bytes : List UInt8)
  | transmit (position count : Nat)
  | fail (position : Nat)
  | worker (thread : Thread) (position : Nat)
  | requestSendMsg (thread : Thread) (sessionId : SessionId) (payload : Payload)
  | requestDisconnectSession (thread : Thread) (sessionId : SessionId)

namespace Machine

variable (env : Environment) {Thread : Type} [DecidableEq Thread]

def start : Machine Thread :=
  { server := .start env
    threads := fun _ => []
    history :=
      { ids := fun _ => 0
        cleared := []
        origin := fun _ _ => none
        received := fun _ => [] } }

-- An idle thread begins with `frames`.
def begin (machine : Machine Thread) (thread : Option Thread) (frames : List Frame) :
    Option (Machine Thread) := do
  guard (machine.threads thread = [])
  pure { machine with threads := Function.update machine.threads thread frames }

def runFrame (machine : Machine Thread) (thread : Option Thread) (bound : Bool) (frame : Frame)
    (rest : List Frame) : Machine Thread :=
  let turned := frame.turn env machine.server bound
  { server := turned.1
    threads := Function.update machine.threads thread (turned.2 ++ rest)
    history := frame.record machine.server machine.history }

def step (machine : Machine Thread) : Turn Thread → Option (Machine Thread)
  | .run thread bound =>
      match machine.threads thread with
      | [] => none
      | frame :: rest => some (machine.runFrame env thread bound frame rest)
  | .accept =>
      let clientSocket := machine.server.accepted + 1
      begin { machine with server := { machine.server with accepted := clientSocket } } none
        [.releaseSession, .processAccept clientSocket]
  | .acceptFailed => machine.begin none [.releaseSession]
  | .receive position bytes => do
      let request ← machine.server.outstanding[position]?
      let server ← machine.server.step env (.receive position bytes)
      pure { machine with
        server := server
        history := { machine.history with
          received := Function.update machine.history.received request.socket
            (machine.history.received request.socket ++ bytes) } }
  | .transmit position count => do
      let server ← machine.server.step env (.transmit position count)
      pure { machine with server := server }
  | .fail position => do
      let server ← machine.server.step env (.fail position)
      pure { machine with server := server }
  | .worker thread position => do
      let completion ← machine.server.completions[position]?
      begin { machine with server := machine.server.dequeueCompletion position } (some thread)
        [.dispatch completion]
  | .requestSendMsg thread sessionId payload =>
      machine.begin (some thread) [.findSend sessionId payload]
  | .requestDisconnectSession thread sessionId =>
      machine.begin (some thread) [.findDisconnect sessionId]

end Machine

end MiniGames
