import MiniGames.Client.GameInstance

set_option autoImplicit false

namespace MiniGames.Client

-- Initialize has set `_gameInstance` before the first connection.
def handleServerMessage (data : List UInt8) : Option Handler :=
  if data.length < sizeofMsgHeader then none
  else if headerSize data > data.length then none
  else
    match headerType data with
    | some .s2cRoomList =>
        if data.length ≥ sizeofRoomList then some .onRoomListReceived else none
    | some .s2cRoomCreated => if data.length ≥ sizeofRoomCreated then some .onRoomCreated else none
    | some .s2cRoomJoined => if data.length ≥ sizeofRoomJoined then some .onRoomJoined else none
    | some .s2cRoomLeft => if data.length ≥ sizeofRoomLeft then some .onRoomLeft else none
    | some .s2cError => if data.length ≥ sizeofError then some .onError else none
    | _ => none

-- A call of a handler, with the message at its pointer.
abbrev HandlerCall := Handler × List UInt8

def calls (data : List UInt8) : List HandlerCall :=
  match handleServerMessage data with
  | some handler => [(handler, data.take (headerSize data))]
  | none => []

/-- The calls that RecvThread makes, given what its calls of `recv` put into the buffer; `recv`
returns 0 for an empty chunk. -/
def recvThread : List (List UInt8) → List HandlerCall
  | [] => []
  | chunk :: rest => if chunk = [] then [] else calls chunk ++ recvThread rest

def handlerOf : ServerMessage → Handler
  | .roomList _ => .onRoomListReceived
  | .roomCreated _ _ => .onRoomCreated
  | .roomJoined _ _ => .onRoomJoined
  | .roomLeft _ => .onRoomLeft
  | .error _ => .onError

theorem handleServerMessage_encode {message : ServerMessage} (fits : message.size < 2 ^ 16) :
    handleServerMessage message.encode = some (handlerOf message) := by
  have stated : headerSize message.encode = message.size := by
    rw [ServerMessage.encode, headerSize_header, Nat.mod_eq_of_lt fits]
  have type : headerType message.encode = some message.type := headerType_header ..
  have length := message.encode_length
  cases message <;>
    simp [handleServerMessage, stated, type, length, ServerMessage.type, ServerMessage.size,
      handlerOf, sizeofMsgHeader, typedHeader, sizeofRoomList, sizeofRoomCreated,
      sizeofRoomJoined, sizeofRoomLeft, sizeofError]
  omega

def dispatchedAs (message : ServerMessage) : HandlerCall := (handlerOf message, message.encode)

theorem calls_encode {message : ServerMessage} (fits : message.size < 2 ^ 16) :
    calls message.encode = [dispatchedAs message] := by
  have stated : headerSize message.encode = message.encode.length := by
    rw [message.encode_length, ServerMessage.encode, headerSize_header, Nat.mod_eq_of_lt fits]
  rw [calls, handleServerMessage_encode fits, stated, List.take_length]
  rfl

-- The bytes that a list of calls is about.
def handled (calls : List HandlerCall) : Nat := (calls.map fun call => call.2.length).sum

theorem handled_append (first second : List HandlerCall) :
    handled (first ++ second) = handled first + handled second := by
  simp [handled]

theorem handled_calls_le (chunk : List UInt8) : handled (calls chunk) ≤ chunk.length := by
  rw [calls]
  split
  · simp only [handled, List.map_cons, List.map_nil, List.sum_cons, List.sum_nil, Nat.add_zero]
    exact List.length_take_le' ..
  · exact Nat.zero_le _

theorem recvThread_eq {chunks : List (List UInt8)} (nonempty : ∀ chunk ∈ chunks, chunk ≠ []) :
    recvThread chunks = chunks.flatMap calls := by
  induction chunks with
  | nil => rfl
  | cons chunk rest ih =>
    rw [recvThread, if_neg (nonempty chunk List.mem_cons_self), List.flatMap_cons,
      ih fun other member => nonempty other (List.mem_cons_of_mem _ member)]

theorem handled_flatMap_le (chunks : List (List UInt8)) :
    handled (chunks.flatMap calls) ≤ chunks.flatten.length := by
  induction chunks with
  | nil => exact Nat.le_refl _
  | cons chunk rest ih =>
    have first := handled_calls_le chunk
    rw [List.flatMap_cons, handled_append, List.flatten_cons, List.length_append]
    omega

theorem calls_whole {chunk : List UInt8} (nonempty : chunk ≠ [])
    (whole : chunk.length ≤ handled (calls chunk)) : (calls chunk).map Prod.snd = [chunk] := by
  have positive := List.length_pos_iff.mpr nonempty
  simp only [calls] at whole ⊢
  split
  · next handler called =>
    simp only [called, handled, List.map_cons, List.map_nil, List.sum_cons, List.sum_nil,
      Nat.add_zero, List.length_take] at whole
    rw [List.map_cons, List.map_nil, List.take_of_length_le (by omega)]
  · next ignored =>
    simp only [ignored, handled, List.map_nil, List.sum_nil] at whole
    omega

theorem flatMap_calls_whole {chunks : List (List UInt8)}
    (nonempty : ∀ chunk ∈ chunks, chunk ≠ [])
    (whole : chunks.flatten.length ≤ handled (chunks.flatMap calls)) :
    (chunks.flatMap calls).map Prod.snd = chunks := by
  induction chunks with
  | nil => rfl
  | cons chunk rest ih =>
    have first := handled_calls_le chunk
    have others := handled_flatMap_le rest
    rw [List.flatMap_cons, handled_append, List.flatten_cons, List.length_append] at whole
    rw [List.flatMap_cons, List.map_append, calls_whole (nonempty chunk List.mem_cons_self)
      (by omega), ih (fun other member => nonempty other (List.mem_cons_of_mem _ member))
      (by omega), List.singleton_append]

/-- The handlers are called once per message, in order, exactly when every chunk is one message; a
message longer than the buffer of RecvThread never is. -/
theorem dispatched_once_iff {messages : List ServerMessage} {chunks : List (List UInt8)}
    (fits : ∀ message ∈ messages, message.size < 2 ^ 16)
    (cut : chunks.flatten = (messages.map ServerMessage.encode).flatten)
    (nonempty : ∀ chunk ∈ chunks, chunk ≠ []) :
    recvThread chunks = messages.map dispatchedAs ↔
      chunks = messages.map ServerMessage.encode := by
  rw [recvThread_eq nonempty]
  have bytes : (messages.map dispatchedAs).map Prod.snd = messages.map ServerMessage.encode := by
    rw [List.map_map]
    rfl
  constructor
  · intro once
    have whole : chunks.flatten.length ≤ handled (chunks.flatMap calls) := by
      rw [cut, once, handled, List.length_flatten, ← bytes, List.map_map]
      exact Nat.le_refl _
    rw [← bytes, ← once]
    exact (flatMap_calls_whole nonempty whole).symm
  · intro aligned
    rw [aligned]
    clear cut nonempty bytes aligned
    induction messages with
    | nil => rfl
    | cons message rest ih =>
      rw [List.map_cons, List.map_cons, List.flatMap_cons,
        calls_encode (fits message List.mem_cons_self),
        ih fun other member => fits other (List.mem_cons_of_mem _ member), List.singleton_append]

-- A list with one room and the answer to a leave, in two chunks.
theorem dispatched_once_two_messages :
    let room : RoomInfo := ⟨1, .zeros 64, 1, 2, 0⟩
    recvThread [(ServerMessage.roomList [room]).encode, (ServerMessage.roomLeft true).encode] =
      [.roomList [room], .roomLeft true].map dispatchedAs := by
  intro room
  have once : recvThread ([.roomList [room], .roomLeft true].map ServerMessage.encode) =
      [.roomList [room], .roomLeft true].map dispatchedAs ↔
        [.roomList [room], .roomLeft true].map ServerMessage.encode =
          [.roomList [room], .roomLeft true].map ServerMessage.encode :=
    dispatched_once_iff (by decide) rfl (by decide +kernel)
  exact once.mpr rfl

-- The two replies to a refused JOIN_ROOM come in one chunk.
theorem coalesced_error_lost : ∃ (messages : List ServerMessage) (chunks : List (List UInt8)),
    (∀ message ∈ messages, message.size < 2 ^ 16) ∧
    chunks.flatten = (messages.map ServerMessage.encode).flatten ∧
    (∀ chunk ∈ chunks, chunk ≠ []) ∧ (∀ chunk ∈ chunks, chunk.length ≤ 4096) ∧
    recvThread chunks = [dispatchedAs (.roomJoined 7 false)] ∧
    recvThread chunks ≠ messages.map dispatchedAs := by
  let refusal : ServerMessage := .roomJoined 7 false
  let error : ServerMessage := .error (.zeros 256)
  refine ⟨[refusal, error], [refusal.encode ++ error.encode], ?_, ?_, ?_, ?_, ?_, ?_⟩
  · decide
  · simp
  · decide +kernel
  · decide +kernel
  · decide +kernel
  · decide +kernel

end MiniGames.Client
