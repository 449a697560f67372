import MiniGames.Network.Protocol
import MiniGames.Network.Session
import Mathlib.Logic.Function.Basic

set_option autoImplicit false

namespace MiniGames

open Circular

-- Winsock answers the calls; when and how an accepted I/O completes is a step of its own.
structure Environment where
  maxClients : Nat
  architectureType : ServerArchitectureType
  header : HeaderLayout
  -- What the allocations of a session's two rings returned.
  recvMemory : Index → Option (Nat → UInt8)
  sendMemory : Index → Option (Nat → UInt8)
  -- Whether the n-th WSARecv or WSASend on an open socket goes ahead.
  accepts : Nat → Bool
  -- What an unset WSABUF length holds at the n-th such call.
  garbage : Nat → Nat

inductive EventType where
  | connected
  | disconnected
  | received
  deriving DecidableEq, Repr

structure NetworkEvent where
  type : EventType
  sessionId : SessionId
  data : List UInt8
  deriving DecidableEq, Repr

/-- A WSARecv or WSASend in flight; the completion key and the OverlappedEx pointer name a slot. -/
structure IORequest where
  index : Index
  operation : IOOperation
  socket : Socket
  segments : List Segment
  -- Not in the source: the incarnation of the slot that posted it.
  incarnation : Nat
  deriving DecidableEq, Repr

structure Completion where
  request : IORequest
  result : Bool
  bytesTransferred : Nat
  deriving DecidableEq, Repr

structure Server where
  sessions : Index → CSession
  availableIndices : List Index
  pendingDisconStack : List SessionId
  sessionIdCounter : BitVec 64
  -- Every event ever pushed; pops by the game thread do not remove from this history.
  eventQueue : List NetworkEvent
  outstanding : List IORequest
  completions : List Completion
  accepted : Nat
  -- The handles passed to closesocket, and the number of WSARecv and WSASend calls so far.
  closed : List Socket
  calls : Nat

variable (env : Environment)

def Server.start : Server :=
  { sessions := fun index => .new (env.recvMemory index) (env.sendMemory index)
    availableIndices := (List.range env.maxClients).map (BitVec.ofNat 16)
    pendingDisconStack := []
    sessionIdCounter := 1
    eventQueue := []
    outstanding := []
    completions := []
    accepted := 0
    closed := []
    calls := 0 }

namespace Server

def modify (server : Server) (index : Index) (change : CSession → CSession) : Server :=
  { server with sessions := Function.update server.sessions index (change (server.sessions index)) }

def pushNetworkEvent (server : Server) (event : NetworkEvent) : Server :=
  { server with eventQueue := server.eventQueue ++ [event] }

def closesocket (server : Server) (socket : Socket) : Server :=
  { server with
    closed := server.closed ++ [socket]
    outstanding := server.outstanding.filter fun request => request.socket ≠ socket
    completions := server.completions ++
      (server.outstanding.filter fun request => request.socket = socket).map (⟨·, false, 0⟩) }

/-- `CSession::Close`, and the same statements inside DisconnectSessionInternal. -/
def close (server : Server) (index : Index) : Server :=
  match (server.sessions index).socket with
  | some socket =>
      (server.closesocket socket).modify index fun session => { session with socket := none }
  | none => server

def findSession (server : Server) (sessionId : SessionId) : Option Index :=
  let index := extractIndex sessionId
  if index.toNat ≥ env.maxClients then none
  else if extractUniqueId (server.sessions index).sessionId = extractUniqueId sessionId then
    some index
  else none

-- The last two statements of DisconnectSessionInternal each read `session->_sessionId` anew.
def pushPending (server : Server) (index : Index) : Server :=
  { server with
    pendingDisconStack := (server.sessions index).sessionId :: server.pendingDisconStack }

def announceDisconnect (server : Server) (sessionId : SessionId) : Server :=
  match env.architectureType with
  | .centralized => server.pushNetworkEvent ⟨.disconnected, sessionId, []⟩
  | _ => server

def disconnectSessionInternal (server : Server) (index : Index) : Server × Bool :=
  if (server.sessions index).valid then
    let server := server.modify index (CSession.storeValid false)
    let server := server.close index
    let server := server.modify index (CSession.storeSending false)
    let server := server.pushPending index
    (server.announceDisconnect env (server.sessions index).sessionId, true)
  else (server, false)

/-- `WSARecv` and `WSASend`; the flag is false for an error other than WSA_IO_PENDING. -/
def post (server : Server) (index : Index) (operation : IOOperation) (segments : List Segment) :
    Server × Bool :=
  let called := { server with calls := server.calls + 1 }
  match (server.sessions index).socket with
  | some socket =>
      if env.accepts server.calls then
        ({ called with
            outstanding := server.outstanding ++
              [⟨index, operation, socket, segments, (server.sessions index).incarnation⟩] }, true)
      else (called, false)
  | none => (called, false)

def recvBuffers (ring : CRingBufferT) : List Segment :=
  let directWriteSize := ring.getDirectWriteSize
  if directWriteSize > 0 then
    let freeSize := ring.getFreeSize
    ⟨ring.getWritePtr, toULong directWriteSize⟩ ::
      if freeSize > directWriteSize then [⟨0, toULong (sizeSub freeSize directWriteSize)⟩] else []
  else []

def postRecv (server : Server) (index : Index) : Server :=
  if (server.sessions index).valid then
    let server := server.modify index CSession.armRecv
    let segments := recvBuffers (server.sessions index).recvQ
    if segments.isEmpty then (server.disconnectSessionInternal env index).1
    else
      let posted := server.post env index .recv segments
      if posted.2 then posted.1 else (posted.1.disconnectSessionInternal env index).1
  else server

def sendBuffers (info : SendInfo) : List Segment :=
  if info.directReadSize > 0 then
    ⟨info.readPtr, toULong info.directReadSize⟩ ::
      if info.dataSize > info.directReadSize then
        [⟨0, toULong (sizeSub info.dataSize info.directReadSize)⟩]
      else []
  else []

/-- `wsaBuf[0].len == 0 && wsaBuf[1].len == 0`; an entry that was not filled holds garbage. -/
def lengthsZero (segments : List Segment) (garbage : Nat) : Bool :=
  ((segments[0]?.map Segment.length).getD garbage == 0) &&
    ((segments[1]?.map Segment.length).getD garbage == 0)

def postSend (server : Server) (index : Index) : Server :=
  if (server.sessions index).valid then
    if (server.sessions index).sending then server
    else
      let server := server.modify index (CSession.storeSending true)
      let info := (server.sessions index).sendQ.getSendInfo
      if info.dataSize = 0 then server.modify index (CSession.storeSending false)
      else
        let server := server.modify index CSession.armSend
        let segments := sendBuffers info
        if segments.isEmpty || lengthsZero segments (env.garbage server.calls) then
          server.modify index (CSession.storeSending false)
        else
          let posted := server.post env index .send segments
          if posted.2 then posted.1
          else
            ((posted.1.modify index (CSession.storeSending false)).disconnectSessionInternal
              env index).1
  else server

def intToSize (length : Int) : Nat := (length % 2 ^ 64).toNat

def requestSendMsg (server : Server) (sessionId : SessionId) (data : Option (List UInt8))
    (length : Int) : Server :=
  match server.findSession env sessionId with
  | some index =>
      if (server.sessions index).valid then
        let enqueued := (server.sessions index).sendQ.enqueue data (intToSize length)
        let server := server.modify index (CSession.storeSendQ enqueued.1)
        if enqueued.2.returned ≠ intToSize length then
          (server.disconnectSessionInternal env index).1
        else server.postSend env index
      else server
  | none => server

def sizeToInt (size : Nat) : Int := (BitVec.ofNat 32 size).toInt

def echoTestSend (server : Server) (index : Index) (data : List UInt8) : Server :=
  server.requestSendMsg env (server.sessions index).sessionId (some data) (sizeToInt data.length)

def requestDisconnectSession (server : Server) (sessionId : SessionId) : Server × Bool :=
  match server.findSession env sessionId with
  | some index => server.disconnectSessionInternal env index
  | none => (server, false)

inductive ParseTurn where
  | stop
  | reject
  | packet (rest : CRingBufferT) (bytes : List UInt8)

/-- One turn of the loop in ParsePackets, up to the point where a packet is handed on. -/
def parseTurn (ring : CRingBufferT) : ParseTurn :=
  let sizeofMsgHeader := env.header.sizeofMsgHeader
  let dataSize := ring.getDataSize
  if dataSize < sizeofMsgHeader then .stop
  else
    let peeked := ring.peek true sizeofMsgHeader
    if peeked.returned ≠ sizeofMsgHeader then .stop
    else
      let size :=
        match env.architectureType with
        | .echoTest => (headerSize peeked.copied + sizeofMsgHeader) % 2 ^ 16
        | _ => headerSize peeked.copied
      if size < sizeofMsgHeader ∨ size > 65536 then .reject
      else if dataSize < size then .stop
      else
        let dequeued := ring.dequeue true size
        if dequeued.2.returned ≠ size then .reject
        else .packet dequeued.1 dequeued.2.copied

def deliverPacket (server : Server) (index : Index) (bytes : List UInt8) : Server :=
  match env.architectureType with
  | .echoTest => server.echoTestSend env index bytes
  | .centralized =>
      server.pushNetworkEvent ⟨.received, (server.sessions index).sessionId, bytes⟩
  | _ => server

/-- The `while (true)` of ParsePackets, cut off after `turns` turns. -/
def parseLoop : (turns : Nat) → (server : Server) → (index : Index) → Server
  | 0, server, _ => server
  | turns + 1, server, index =>
      match parseTurn env (server.sessions index).recvQ with
      | .stop => server
      | .reject => (server.disconnectSessionInternal env index).1
      | .packet rest bytes =>
          parseLoop turns ((server.modify index (CSession.storeRecvQ rest)).deliverPacket env index
            bytes) index

-- Every turn that goes on takes at least one byte, so the loop ends within that many turns.
def parsePackets (server : Server) (index : Index) : Server :=
  parseLoop env ((server.sessions index).recvQ.getDataSize + 1) server index

def processRecv (server : Server) (index : Index) (bytesTransferred : Nat) : Server :=
  if bytesTransferred = 0 then (server.disconnectSessionInternal env index).1
  else
    let moved := (server.sessions index).recvQ.moveWritePtr bytesTransferred
    let server := server.modify index (CSession.storeRecvQ moved.1)
    if moved.2.returned ≠ bytesTransferred then (server.disconnectSessionInternal env index).1
    else (server.parsePackets env index).postRecv env index

/-- ProcessSend from the test of `bufCount` on. -/
def resumeSend (server : Server) (index : Index) (segments : List Segment) : Server :=
  if segments.isEmpty then
    let server := server.modify index (CSession.storeSending false)
    if (server.sessions index).sendQ.getDataSize > 0 then server.postSend env index else server
  else
    let posted := server.post env index .send segments
    if posted.2 then posted.1
    else
      ((posted.1.modify index (CSession.storeSending false)).disconnectSessionInternal env index).1

def processSend (server : Server) (index : Index) (bytesTransferred : Nat) : Server :=
  if (server.sessions index).valid then
    let consumed := (server.sessions index).sendQ.consume bytesTransferred
    let server := server.modify index (CSession.storeSendQ consumed.1)
    if consumed.2.returned ≠ bytesTransferred then (server.disconnectSessionInternal env index).1
    else
      let info := (server.sessions index).sendQ.getSendInfo
      if info.dataSize > 0 then
        (server.modify index CSession.armSend).resumeSend env index (sendBuffers info)
      else server.resumeSend env index []
  else server

inductive Dispatch where
  | disconnect
  | ignore
  | processRecv
  | processSend
  deriving DecidableEq, Repr

def dispatch (server : Server) (completion : Completion) : Dispatch :=
  let session := server.sessions completion.request.index
  -- The OVERLAPPED pointer leads into the session that now occupies the slot.
  let overlappedEx := session.overlapped completion.request.operation
  if completion.result = false ∨ completion.bytesTransferred = 0 then .disconnect
  else if session.valid = false then .ignore
  else if overlappedEx.sessionId ≠ session.sessionId then .ignore
  else
    match overlappedEx.operation with
    | .recv => .processRecv
    | .send => .processSend
    | .accept => .ignore

def workerThread (server : Server) (completion : Completion) : Server :=
  let index := completion.request.index
  match server.dispatch completion with
  | .disconnect => (server.disconnectSessionInternal env index).1
  | .ignore => server
  | .processRecv => server.processRecv env index completion.bytesTransferred
  | .processSend => server.processSend env index completion.bytesTransferred

def releaseOne (server : Server) (sessionId : SessionId) : Server :=
  match server.findSession env sessionId with
  | some index =>
      let server := server.close index
      { server with availableIndices := server.availableIndices ++ [extractIndex sessionId] }
  | none => server

def releaseAll : (stack : List SessionId) → (server : Server) → Server
  | [], server => server
  | sessionId :: rest, server =>
      releaseAll rest (releaseOne env { server with pendingDisconStack := rest } sessionId)

def releaseSession (server : Server) : Server :=
  releaseAll env server.pendingDisconStack server

def announceConnect (server : Server) (sessionId : SessionId) : Server :=
  match env.architectureType with
  | .centralized => server.pushNetworkEvent ⟨.connected, sessionId, []⟩
  | _ => server

/-- `bound` is the outcome of BindIOCP. -/
def processAccept (server : Server) (clientSocket : Socket) (bound : Bool) : Server :=
  match server.availableIndices with
  | [] => server.closesocket clientSocket
  | index :: rest =>
      let uniqueId := server.sessionIdCounter &&& sessionUniqueMask
      let sessionId := makeSessionId index uniqueId
      let server :=
        { server with
          availableIndices := rest
          sessionIdCounter := server.sessionIdCounter + 1 }
      let server := server.modify index
        (CSession.initializeSession (some clientSocket) sessionId clientSocket)
      if bound then (server.announceConnect env sessionId).postRecv env index
      else
        let server := server.close index
        { server with availableIndices := server.availableIndices ++ [index] }.closesocket
          clientSocket

/-- One turn of AcceptThread in which `accept` returned a new handle. -/
def acceptThread (server : Server) (bound : Bool) : Server :=
  let clientSocket := server.accepted + 1
  let server := { server with accepted := clientSocket }
  (server.releaseSession env).processAccept env clientSocket bound

inductive Action where
  | accept (bound : Bool)
  -- `accept` returned INVALID_SOCKET.
  | acceptFailed
  -- Winsock fills the posted buffers of an outstanding receive and queues its completion.
  | receive (position : Nat) (bytes : List UInt8)
  | transmit (position : Nat) (count : Nat)
  | fail (position : Nat)
  -- A worker dequeues the completion at a position and handles it.
  | worker (position : Nat)
  | requestSendMsg (sessionId : SessionId) (data : Option (List UInt8)) (length : Int)
  | requestDisconnectSession (sessionId : SessionId)

def complete (server : Server) (position : Nat) (completion : Completion) : Server :=
  { server with
    outstanding := server.outstanding.eraseIdx position
    completions := server.completions ++ [completion] }

/-- GetQueuedCompletionStatus, which may take any queued completion. -/
def dequeueCompletion (server : Server) (position : Nat) : Server :=
  { server with completions := server.completions.eraseIdx position }

def fill (ring : CRingBufferT) (segments : List Segment) (bytes : List UInt8) : CRingBufferT :=
  { ring with buffer := ring.buffer.map fun cells => scatter cells segments bytes }

def step (server : Server) : Action → Option Server
  | .accept bound => some (server.acceptThread env bound)
  | .acceptFailed => some (server.releaseSession env)
  | .receive position bytes => do
      let request ← server.outstanding[position]?
      guard (request.operation = .recv ∧ bytes.length ≤ total request.segments)
      let filled := server.modify request.index fun session =>
        { session with recvQ := fill session.recvQ request.segments bytes }
      pure (filled.complete position ⟨request, true, bytes.length⟩)
  | .transmit position count => do
      let request ← server.outstanding[position]?
      guard (request.operation = .send ∧ 0 < count ∧ count ≤ total request.segments)
      pure (server.complete position ⟨request, true, count⟩)
  | .fail position => do
      let request ← server.outstanding[position]?
      pure (server.complete position ⟨request, false, 0⟩)
  | .worker position => do
      let completion ← server.completions[position]?
      pure ((server.dequeueCompletion position).workerThread env completion)
  | .requestSendMsg sessionId data length => some (server.requestSendMsg env sessionId data length)
  | .requestDisconnectSession sessionId =>
      some (server.requestDisconnectSession env sessionId).1

end Server

end MiniGames
