import MiniGames.Network.Identities
import MiniGames.Shared.Token

set_option autoImplicit false

namespace MiniGames

open Circular Runs Token

def IORequest.receives (incarnation : Nat) (request : IORequest) : Bool :=
  request.operation ≠ .send ∧ request.incarnation = incarnation

def Completion.receives (incarnation : Nat) (completion : Completion) : Bool :=
  completion.request.receives incarnation

def Server.receives (server : Server) (incarnation : Nat) : Nat :=
  server.outstanding.countP (IORequest.receives incarnation) +
    server.completions.countP (Completion.receives incarnation)

def Frame.receives (incarnation : Nat) : Frame → Bool
  | .dispatch completion | .checkId completion => completion.receives incarnation
  | .moveWritePtr _ poster _ | .postRecv _ poster | .wsaRecv _ poster => poster = incarnation
  | .processAccept clientSocket | .initializeSession _ _ clientSocket _
  | .bindIOCP _ clientSocket _ | .announceConnect _ clientSocket _ => clientSocket = incarnation
  | _ => false

def carries (incarnation : Nat) (frames : List Frame) : Bool :=
  frames.any (Frame.receives incarnation)

namespace Server

theorem countP_eraseIdx {α : Type*} (holds : α → Bool) {items : List α} {position : Nat} {item : α}
    (found : items[position]? = some item) :
    items.countP holds = (items.eraseIdx position).countP holds + (holds item).toNat := by
  induction items generalizing position with
  | nil => simp at found
  | cons head rest ih =>
    cases position with
    | zero =>
      cases found
      cases kept : holds item <;> simp [kept]
    | succ position =>
      simp only [List.getElem?_cons_succ] at found
      simp only [List.eraseIdx_cons_succ, List.countP_cons, ih found]
      omega

variable {env : Environment} {server : Server} (incarnation : Nat)

@[simp] theorem receives_modify (index : Index) (change : CSession → CSession) :
    (server.modify index change).receives incarnation = server.receives incarnation := rfl

theorem receives_closesocket (socket : Socket) :
    (server.closesocket socket).receives incarnation = server.receives incarnation := by
  have cut : server.outstanding.countP (IORequest.receives incarnation) =
      (server.outstanding.filter fun request => request.socket ≠ socket).countP
        (IORequest.receives incarnation) +
      (server.outstanding.filter fun request => request.socket = socket).countP
        (IORequest.receives incarnation) := by
    induction server.outstanding with
    | nil => rfl
    | cons request rest ih =>
      by_cases same : request.socket = socket <;>
        simp [List.countP_cons, same] at ih ⊢ <;> omega
  have closed : ((server.outstanding.filter fun request => request.socket = socket).map
        fun request => (⟨request, false, 0⟩ : Completion)).countP (Completion.receives incarnation) =
      (server.outstanding.filter fun request => request.socket = socket).countP
        (IORequest.receives incarnation) := by
    rw [List.countP_map]
    rfl
  simp only [receives, closesocket, List.countP_append, closed, cut]
  omega

theorem receives_close (index : Index) :
    (server.close index).receives incarnation = server.receives incarnation := by
  simp only [close]
  split
  · exact receives_closesocket incarnation _
  · rfl

theorem receives_complete {position : Nat} {request : IORequest} (result : Bool) (bytes : Nat)
    (found : server.outstanding[position]? = some request) :
    (server.complete position ⟨request, result, bytes⟩).receives incarnation =
      server.receives incarnation := by
  have removed := countP_eraseIdx (IORequest.receives incarnation) found
  have added : List.countP (Completion.receives incarnation) [⟨request, result, bytes⟩] =
      (request.receives incarnation).toNat := by
    rcases Bool.eq_false_or_eq_true (request.receives incarnation) with posted | posted <;>
      simp [Completion.receives, posted]
  simp only [receives, complete, List.countP_append, removed, added]
  omega

theorem receives_dequeueCompletion {position : Nat} {completion : Completion}
    (found : server.completions[position]? = some completion) :
    server.receives incarnation = (server.dequeueCompletion position).receives incarnation +
      (completion.receives incarnation).toNat := by
  have removed := countP_eraseIdx (Completion.receives incarnation) found
  simp only [receives, dequeueCompletion, removed]
  omega

theorem receives_post_send (index : Index) (segments : List Segment) :
    (server.post env index .send segments).1.receives incarnation =
      server.receives incarnation := by
  simp only [post]
  split
  · split
    · simp [receives, IORequest.receives]
    · rfl
  · rfl

theorem receives_post_recv (env : Environment) (server : Server) (incarnation : Nat)
    (index : Index) (segments : List Segment) :
    (server.post env index .recv segments).1.receives incarnation = server.receives incarnation +
      ((server.post env index .recv segments).2 &&
        decide ((server.sessions index).incarnation = incarnation)).toNat := by
  simp only [post]
  split
  · split
    · by_cases posted : (server.sessions index).incarnation = incarnation <;>
        simp [receives, IORequest.receives, posted]
      omega
    · simp [receives]
  · simp [receives]

end Server

namespace Frame

variable {env : Environment} {server : Server} (incarnation : Nat)

/-- What a turn does with the token of an incarnation: the frames that take over hold it only if
the frame did, or the frame gave it to the receive it posted. -/
def Passes (server : Server) (frame : Frame) (turned : Server × List Frame) : Prop :=
  (turned.1.receives incarnation = server.receives incarnation ∧
      (carries incarnation turned.2 = true → frame.receives incarnation = true)) ∨
    (turned.1.receives incarnation = server.receives incarnation + 1 ∧
      frame.receives incarnation = true ∧ carries incarnation turned.2 = false)

variable {incarnation} in
theorem Passes.idle {frame : Frame} {turned : Server × List Frame}
    (same : turned.1.receives incarnation = server.receives incarnation)
    (dropped : carries incarnation turned.2 = false) : Passes incarnation server frame turned := by
  refine .inl ⟨same, fun carried => ?_⟩
  rw [dropped] at carried
  cases carried

theorem sendTurn_receives (index : Index) (pc : SendPc) :
    (sendTurn env server index pc).1.receives incarnation = server.receives incarnation := by
  simp only [sendTurn]
  split
  · exact Server.receives_post_send incarnation index _
  · rfl

theorem resume_carries (index : Index) (target : Option SessionId) (pc : SendPc) :
    carries incarnation (resume index target pc) = false := by
  cases pc <;> rfl

theorem disconnectTurn_passes (index : Index) (cleared : SessionId) (pc : DisconnectPc) :
    Passes incarnation server (.disconnect index pc cleared)
      (disconnectTurn env server index cleared pc) := by
  cases pc with
  | exchange =>
    simp only [disconnectTurn]
    split
    · exact .idle rfl rfl
    · exact .idle rfl rfl
  | close => exact .idle (Server.receives_close incarnation index) rfl
  | clearSending => exact .idle rfl rfl
  | pushPending => exact .idle rfl rfl
  | readSessionId => exact .idle rfl rfl
  | pushEvent sessionId =>
    simp only [disconnectTurn, Server.announceDisconnect]
    split
    · exact .idle rfl rfl
    · exact .idle rfl rfl

theorem checkIdTurn_carries (every : server.Every Server.Linked) (completion : Completion)
    (carried : carries incarnation (checkIdTurn server completion) = true) :
    completion.receives incarnation = true := by
  have operation := (every completion.request.index).operation
  simp only [checkIdTurn] at carried
  split at carried
  · cases carried
  · split at carried
    · next received =>
      have kind : completion.request.operation ≠ .send := by
        intro send
        simp [send, CSession.overlapped, operation] at received
      simpa [carries, Frame.receives, Completion.receives, IORequest.receives, kind] using carried
    · simp [carries, Frame.receives] at carried
    · cases carried

theorem wsaRecvTurn_passes (index : Index) (poster : Nat)
    (steady : (server.sessions index).socket = none ∨
      (server.sessions index).incarnation = poster) :
    Passes incarnation server (.wsaRecv index poster) (wsaRecvTurn env server index) := by
  simp only [wsaRecvTurn]
  split
  · exact .idle rfl rfl
  · have count := Server.receives_post_recv env (server.modify index CSession.armRecv) incarnation
      index (Server.recvBuffers ((server.modify index CSession.armRecv).sessions index).recvQ)
    have opened : (Server.post env (server.modify index CSession.armRecv) index .recv
        (Server.recvBuffers ((server.modify index CSession.armRecv).sessions index).recvQ)).2 =
        true → (server.sessions index).socket ≠ none := by
      intro accepted closed
      simp [Server.post, CSession.armRecv, closed] at accepted
    generalize Server.post env (server.modify index CSession.armRecv) index .recv _ = posted
      at count opened ⊢
    obtain ⟨after, accepted⟩ := posted
    cases accepted with
    | false => exact .idle (by simpa using count) rfl
    | true =>
      have current := steady.resolve_left (opened rfl)
      by_cases same : poster = incarnation
      · exact .inr ⟨by simpa [current, same, CSession.armRecv] using count,
          by simpa [Frame.receives] using same, rfl⟩
      · exact .idle (by simpa [current, same, CSession.armRecv] using count) rfl

theorem turn_passes (every : server.Every Server.Linked) (bound : Bool) (frame : Frame)
    (steady : ∀ index poster, frame = .wsaRecv index poster →
      (server.sessions index).socket = none ∨ (server.sessions index).incarnation = poster) :
    Passes incarnation server frame (frame.turn env server bound) := by
  cases frame with
  | findSend sessionId payload =>
    simp only [turn]
    split <;> exact .idle rfl rfl
  | findDisconnect sessionId =>
    simp only [turn]
    split <;> exact .idle rfl rfl
  | send index target pc =>
    exact .idle (sendTurn_receives incarnation index pc) (resume_carries incarnation index target _)
  | disconnect index pc cleared => exact disconnectTurn_passes incarnation index cleared pc
  | dispatch completion =>
    simp only [turn]
    split
    · exact .idle rfl rfl
    · split
      · exact .inl ⟨rfl, fun carried => by simpa [carries, Frame.receives] using carried⟩
      · exact .idle rfl rfl
  | checkId completion => exact .inl ⟨rfl, checkIdTurn_carries incarnation every completion⟩
  | moveWritePtr index poster size =>
    simp only [turn, moveWritePtrTurn]
    split
    · exact .idle rfl rfl
    · refine .inl ⟨rfl, fun carried => ?_⟩
      simp only at carried
      split at carried
      · cases carried
      · simpa [carries, Frame.receives] using carried
  | parse index poster =>
    simp only [turn, parseTurn]
    split <;> exact .idle rfl rfl
  | deliver index poster bytes =>
    simp only [turn, deliverTurn]
    split <;> exact .idle rfl rfl
  | postRecv index poster =>
    simp only [turn]
    split
    · exact .inl ⟨rfl, fun carried => by simpa [carries, Frame.receives] using carried⟩
    · exact .idle rfl rfl
  | wsaRecv index poster => exact wsaRecvTurn_passes incarnation index poster (steady _ _ rfl)
  | releaseSession =>
    simp only [turn]
    split <;> exact .idle rfl rfl
  | release sessionId =>
    apply Passes.idle ?_ rfl
    simp only [turn, Server.releaseOne]
    split
    · exact Server.receives_close incarnation _
    · rfl
  | processAccept clientSocket =>
    simp only [turn, processAcceptTurn]
    split
    · exact .idle (Server.receives_closesocket incarnation _) rfl
    · exact .inl ⟨rfl, fun carried => by simpa [carries, Frame.receives] using carried⟩
  | initializeSession pc index clientSocket sessionId =>
    refine .inl ⟨rfl, fun carried => ?_⟩
    simp only [turn] at carried
    split at carried <;> simpa [carries, Frame.receives] using carried
  | bindIOCP index clientSocket sessionId =>
    simp only [turn, bindTurn]
    split
    · exact .inl ⟨rfl, fun carried => by simpa [carries, Frame.receives] using carried⟩
    · apply Passes.idle ?_ rfl
      rw [Server.receives_closesocket]
      exact Server.receives_close incarnation index
  | announceConnect index clientSocket sessionId =>
    refine .inl ⟨?_, fun carried => by simpa [turn, carries, Frame.receives] using carried⟩
    simp only [turn, Server.announceConnect]
    split <;> rfl

end Frame

end MiniGames
