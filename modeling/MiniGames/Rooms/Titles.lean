import MiniGames.Rooms.Decoding
import MiniGames.Rooms.Terms
import MiniGames.Shared.Logs
import MiniGames.Shared.Traced

set_option autoImplicit false

namespace MiniGames

open Logs

namespace CRoomManager

section Registry

variable {Player : Type} {manager before after : CRoomManager Player}

def titles (manager : CRoomManager Player) : List (List UInt8) := manager.listed.map CRoom.title

-- No room is made, and no title changes.
structure Shrunk (before after : CRoomManager Player) : Prop where
  roomList : after.roomList.Sublist before.roomList
  title : ∀ ptr, (after.rooms ptr).title = (before.rooms ptr).title
  allocated : after.allocated = before.allocated

theorem Shrunk.refl (manager : CRoomManager Player) : Shrunk manager manager :=
  ⟨.refl _, fun _ => rfl, rfl⟩

theorem Shrunk.titles (shrunk : Shrunk before after) : after.titles.Sublist before.titles := by
  have kept := shrunk.roomList.map fun ptr => (before.rooms ptr).title
  simp only [CRoomManager.titles, listed, List.map_map, Function.comp_def, shrunk.title]
  exact kept

structure Aged (manager : CRoomManager Player) : Prop where
  decreasing : manager.roomList.Pairwise (· > ·)
  made : ∀ ptr ∈ manager.roomList, ptr < manager.allocated

theorem Aged.shrunk (aged : before.Aged) (shrunk : Shrunk before after) : after.Aged where
  decreasing := aged.decreasing.sublist shrunk.roomList
  made := by
    intro ptr member
    rw [shrunk.allocated]
    exact aged.made ptr (shrunk.roomList.subset member)

theorem Aged.createRoom (aged : manager.Aged) (title : List UInt8) (maxPlayers : Int32) :
    (manager.createRoom title maxPlayers).1.Aged where
  decreasing := List.pairwise_cons.mpr ⟨aged.made, aged.decreasing⟩
  made := by
    intro ptr member
    rcases List.mem_cons.mp member with rfl | earlier
    · exact Nat.lt_succ_self _
    · exact Nat.lt_succ_of_lt (aged.made ptr earlier)

theorem Aged.createRoom_titles (aged : manager.Aged) (title : List UInt8) (maxPlayers : Int32) :
    (manager.createRoom title maxPlayers).1.titles = title :: manager.titles := by
  have others (ptr : Nat) (member : ptr ∈ manager.roomList) :
      (manager.createRoom title maxPlayers).1.rooms ptr = manager.rooms ptr := by
    have differs := Nat.ne_of_lt (aged.made ptr member)
    simp [CRoomManager.createRoom, store, differs]
  have first : ((manager.createRoom title maxPlayers).1.rooms manager.allocated).title = title := by
    simp [CRoomManager.createRoom, store, CRoom.new]
  have rooms : (manager.createRoom title maxPlayers).1.roomList =
      manager.allocated :: manager.roomList := rfl
  rw [titles, listed, rooms, List.map_cons, List.map_cons, first, List.map_congr_left others]
  rfl

variable [DecidableEq Player]

theorem joinRoom_roomList (manager : CRoomManager Player) (roomId : Int32)
    (player : Option Player) : (manager.joinRoom roomId player).1.roomList = manager.roomList := by
  rcases manager.joinRoom_cases roomId player with ⟨_, _, _, _, joined⟩ | ⟨_, refused⟩
  · rw [joined]
    rfl
  · rw [refused]

theorem joinRoom_title (manager : CRoomManager Player) (roomId : Int32) (player : Option Player)
    (ptr : Nat) :
    ((manager.joinRoom roomId player).1.rooms ptr).title = (manager.rooms ptr).title :=
  CRoom.title_of_terms (manager.joinRoom_terms roomId player ptr)

theorem joinRoom_shrunk (manager : CRoomManager Player) (roomId : Int32) (player : Option Player) :
    Shrunk manager (manager.joinRoom roomId player).1 where
  roomList := by rw [joinRoom_roomList]
  title := joinRoom_title manager roomId player
  allocated := joinRoom_allocated ..

theorem joinRoom_titles (manager : CRoomManager Player) (roomId : Int32) (player : Option Player) :
    (manager.joinRoom roomId player).1.titles = manager.titles := by
  simp only [titles, listed, List.map_map, Function.comp_def, joinRoom_roomList, joinRoom_title]

theorem vacate_title (manager : CRoomManager Player) (player : Player) (room ptr : Nat) :
    ((manager.vacate player room).rooms ptr).title = (manager.rooms ptr).title :=
  CRoom.title_of_terms (manager.vacate_terms player room ptr)

theorem deleteRoom_shrunk (manager : CRoomManager Player) (roomId : Int32) :
    Shrunk manager (manager.deleteRoom roomId).1 := by
  simp only [deleteRoom]
  split
  · exact .refl manager
  · exact ⟨List.filter_sublist, fun _ => rfl, rfl⟩

theorem leaveRoom_shrunk (manager : CRoomManager Player) (player : Option Player) :
    Shrunk manager (manager.leaveRoom player).1 := by
  cases player with
  | none => exact .refl manager
  | some player =>
    cases placed : manager.playerToRoomMap.lookup player with
    | none =>
      rw [leaveRoom_unplaced placed]
      exact .refl manager
    | some roomId =>
      cases found : manager.findRoom roomId with
      | none =>
        rw [leaveRoom_missing placed found]
        exact ⟨.refl _, fun _ => rfl, rfl⟩
      | some room =>
        rw [leaveRoom_found placed found]
        simp only [depart]
        split
        · have gone := deleteRoom_shrunk (manager.vacate player room) roomId
          exact ⟨gone.roomList, fun ptr => (gone.title ptr).trans (manager.vacate_title ..),
            gone.allocated⟩
        · exact ⟨.refl _, manager.vacate_title player room, rfl⟩

end Registry

end CRoomManager

namespace CCentralizedServer

section Field

open Traced

variable {data : List UInt8}

-- The constructor of `std::string` on `msg->title`.
def loadTitle (memory : List UInt8) : Traced (List UInt8) :=
  scan (· ≠ 0) memory sizeofMsgHeader

structure FieldBound (data beyond : List UInt8) : Prop where
  within : (loadTitle (data ++ beyond)).Within (sizeofMsgHeader + 64)
  alone : ∀ memory : List UInt8, (memory.drop sizeofMsgHeader).take 64 =
    (data.drop sizeofMsgHeader).take 64 → (loadTitle memory).value = (loadTitle (data ++ beyond)).value
  short : (loadTitle (data ++ beyond)).value.length ≤ 63

theorem createRoom_length (admitted : dispatched data = some .c2sCreateRoom) :
    sizeofCreateRoom ≤ data.length := by
  simp only [dispatched] at admitted
  split at admitted
  · cases admitted
  split at admitted
  · cases admitted
  split at admitted
  · split at admitted <;> cases admitted
  · split at admitted
    · next long => exact long
    · cases admitted
  · split at admitted <;> cases admitted
  · cases admitted
  · cases admitted

theorem loadTitle_field {memory : List UInt8}
    (terminated : 0 ∈ (memory.drop sizeofMsgHeader).take 64) :
    (loadTitle memory).value = fieldTitle memory := requestedTitle_eq terminated

theorem requestedTitle_short (admitted : dispatched data = some .c2sCreateRoom)
    (terminated : 0 ∈ (data.drop sizeofMsgHeader).take 64) : (requestedTitle data).length ≤ 63 := by
  have long : sizeofMsgHeader + 64 ≤ data.length :=
    Nat.le_trans (by decide) (createRoom_length admitted)
  have sized : ((data.drop sizeofMsgHeader).take 64).length = 64 := by
    rw [List.length_take, List.length_drop]
    omega
  rw [requestedTitle_eq terminated]
  apply Nat.le_of_lt_succ
  apply (takeWhile_lt_iff (Nat.le_of_eq sized.symm)).mpr
  rw [List.take_take]
  exact ⟨0, terminated, rfl⟩

/-- The scan of an admitted title keeps to its field if and only if the field holds a NUL. -/
theorem title_field_bound (admitted : dispatched data = some .c2sCreateRoom)
    (beyond : List UInt8) : FieldBound data beyond ↔ 0 ∈ (data.drop sizeofMsgHeader).take 64 := by
  have long : sizeofMsgHeader + 64 ≤ data.length :=
    Nat.le_trans (by decide) (createRoom_length admitted)
  have bound : sizeofMsgHeader + 64 ≤ (data ++ beyond).length := by
    rw [List.length_append]
    omega
  have field : ((data ++ beyond).drop sizeofMsgHeader).take 64 =
      (data.drop sizeofMsgHeader).take 64 := by
    have room : 64 ≤ (data.drop sizeofMsgHeader).length := by
      rw [List.length_drop]
      omega
    rw [List.drop_append_of_le_length (by omega), List.take_append_of_le_length room]
  have within : (loadTitle (data ++ beyond)).Within (sizeofMsgHeader + 64) ↔
      0 ∈ (data.drop sizeofMsgHeader).take 64 := by
    rw [loadTitle, within_scan (Nat.le_add_right ..) bound, List.drop_take, Nat.add_sub_cancel_left,
      field]
    simp
  constructor
  · intro kept
    exact within.mp kept.within
  · intro terminated
    have title := loadTitle_field (field.symm ▸ terminated)
    constructor
    case within => exact within.mpr terminated
    case alone =>
      intro memory same
      rw [title, loadTitle_field (same.symm ▸ terminated), fieldTitle, fieldTitle, same, field]
    case short =>
      rw [title, fieldTitle, field, ← fieldTitle, ← requestedTitle_eq terminated]
      exact requestedTitle_short admitted terminated

theorem title_field_bound_a :
    FieldBound (ClientMessage.createRoom ((CharArray.zeros 64).strncpy [97]) 2).encode [1] :=
  (title_field_bound (ClientMessage.dispatched_encode _) [1]).mpr (by decide +kernel)

-- 64 times "a", and then the first byte of `maxPlayers`.
def longTitle (maxPlayers : Int32) : List UInt8 :=
  ClientMessage.encode (.createRoom ⟨.replicate 64 97, List.length_replicate⟩ maxPlayers)

-- The first byte of `maxPlayers` is part of the title.
theorem title_out_of_field : ∃ data beyond, dispatched data = some .c2sCreateRoom ∧
    ¬ FieldBound data beyond := by
  refine ⟨longTitle 2, [], by decide +kernel, fun kept => ?_⟩
  have short := kept.short
  revert short
  decide +kernel

end Field

structure Creates (server : CCentralizedServer) (event : NetworkEvent) : Prop where
  received : event.type = .received
  known : (server.getPlayer event.sessionId).isSome
  routed : dispatched event.data = some .c2sCreateRoom
  valid : validParameters (requestedTitle event.data) (requestedMaxPlayers event.data) = true
  unused : server.roomManager.findRoomByTitle (requestedTitle event.data) = none

theorem dispatch_rooms (stale : Stale) (server : CCentralizedServer) (event : NetworkEvent) :
    (Creates server event ∧ ∃ player, (dispatch stale server event).1.roomManager =
      (createAndJoin server.roomManager (requestedTitle event.data)
        (requestedMaxPlayers event.data) player).1) ∨
    (¬ Creates server event ∧
      server.roomManager.Shrunk (dispatch stale server event).1.roomManager) := by
  cases type : event.type with
  | connected =>
    have other : ¬ Creates server event := fun creates => by
      cases type.symm.trans creates.received
    simp only [dispatch, type]
    exact .inr ⟨other, .refl _⟩
  | disconnected =>
    have other : ¬ Creates server event := fun creates => by
      cases type.symm.trans creates.received
    simp only [dispatch, type, dispatchClientDisconnected]
    split
    · exact .inr ⟨other, .refl _⟩
    · exact .inr ⟨other, CRoomManager.leaveRoom_shrunk ..⟩
  | received =>
    cases known : server.getPlayer event.sessionId with
    | none =>
      have other : ¬ Creates server event := fun creates => by
        have there := creates.known
        rw [known] at there
        cases there
      simp only [dispatch, type, dispatchDataReceived, known]
      exact .inr ⟨other, .refl _⟩
    | some player =>
      rw [dispatch_request stale type known]
      by_cases create : dispatched event.data = some .c2sCreateRoom
      · simp only [handleRequest, create]
        rcases handleCreateRoom_cases stale server player event.data with
          ⟨valid, unused, handled⟩ | ⟨invalid, _, handled⟩
        · rw [handled]
          exact .inl ⟨⟨type, Option.isSome_of_eq_some known, create, valid, unused⟩, player, rfl⟩
        · rw [handled]
          exact .inr ⟨fun creates => invalid ⟨creates.valid, creates.unused⟩, .refl _⟩
      · refine .inr ⟨fun creates => create creates.routed, ?_⟩
        simp only [handleRequest]
        split
        · exact .refl _
        · next routed => exact absurd routed create
        · exact CRoomManager.joinRoom_shrunk ..
        · exact CRoomManager.leaveRoom_shrunk ..
        · exact .refl _

structure Named (server : CCentralizedServer) : Prop where
  aged : server.roomManager.Aged
  filled : ∀ title ∈ server.roomManager.titles, title ≠ []
  clean : ∀ title ∈ server.roomManager.titles, 0 ∉ title

theorem new_named : new.Named where
  aged := ⟨.nil, fun _ member => absurd member List.not_mem_nil⟩
  filled := fun _ member => absurd member List.not_mem_nil
  clean := fun _ member => absurd member List.not_mem_nil

variable {server : CCentralizedServer} {event : NetworkEvent}

theorem Named.created_titles (named : server.Named) (stale : Stale)
    (creates : Creates server event) : (dispatch stale server event).1.roomManager.titles =
      requestedTitle event.data :: server.roomManager.titles := by
  rcases dispatch_rooms stale server event with ⟨_, player, rooms⟩ | ⟨other, _⟩
  · rw [rooms, createAndJoin, CRoomManager.joinRoom_titles, named.aged.createRoom_titles]
  · exact absurd creates other

theorem Named.dispatch (named : server.Named) (stale : Stale) :
    (dispatch stale server event).1.Named := by
  rcases dispatch_rooms stale server event with ⟨creates, player, rooms⟩ | ⟨_, shrunk⟩
  · have titles := named.created_titles stale creates
    obtain ⟨filled, _, _⟩ := validParameters_iff.mp creates.valid
    constructor
    case aged =>
      rw [rooms]
      exact (named.aged.createRoom ..).shrunk (CRoomManager.joinRoom_shrunk ..)
    case filled =>
      rw [titles]
      exact List.forall_mem_cons.mpr ⟨filled, named.filled⟩
    case clean =>
      rw [titles]
      exact List.forall_mem_cons.mpr ⟨cString_no_zero _, named.clean⟩
  · constructor
    case aged => exact named.aged.shrunk shrunk
    case filled => exact fun title member => named.filled title (shrunk.titles.subset member)
    case clean => exact fun title member => named.clean title (shrunk.titles.subset member)

theorem after_named (inputs : List Input) : (after inputs).Named := by
  induction inputs using List.reverseRecOn with
  | nil => exact new_named
  | append_singleton inputs input ih =>
    rw [after_append]
    exact ih.dispatch input.stale

-- The strings in the `RoomInfo.title` fields of SendRoomList.
def advertised (server : CCentralizedServer) : List (List UInt8) :=
  server.roomManager.listed.map fun room => cString (roomInfo room).title.bytes

theorem cString_roomInfo {room : CRoom CPlayer} (clean : 0 ∉ room.title) :
    cString (roomInfo room).title.bytes = room.title.take 63 := by
  rw [roomInfo, CharArray.cString_strncpy, cString_clean clean]

theorem Named.advertised_eq (named : server.Named) :
    server.advertised = server.roomManager.titles.map (List.take 63) := by
  rw [advertised, CRoomManager.titles, List.map_map]
  apply List.map_congr_left
  intro room member
  exact cString_roomInfo (named.clean _ (List.mem_map_of_mem member))

structure Distinct (server : CCentralizedServer) : Prop where
  filled : ∀ title ∈ server.advertised, title ≠ []
  nodup : server.advertised.Nodup

-- An accepted CREATE_ROOM that has its first 63 bytes from a listed title, one of the two being
-- longer.
def Collides (server : CCentralizedServer) (event : NetworkEvent) : Prop :=
  Creates server event ∧ ∃ room ∈ server.roomManager.listed,
    (63 < room.title.length ∨ 63 < (requestedTitle event.data).length) ∧
      room.title.take 63 = (requestedTitle event.data).take 63

/-- HandleCreateRoom refuses a listed title, so only a longer one can be shown like it. -/
theorem Creates.shown_alike {server : CCentralizedServer} {event : NetworkEvent}
    (creates : Creates server event) : Collides server event ↔
      (requestedTitle event.data).take 63 ∈ server.roomManager.titles.map (List.take 63) := by
  constructor
  · rintro ⟨_, room, member, _, same⟩
    rw [← same]
    exact List.mem_map_of_mem (List.mem_map_of_mem member)
  · intro shown
    obtain ⟨title, listed, same⟩ := List.mem_map.mp shown
    obtain ⟨room, member, rfl⟩ := List.mem_map.mp listed
    refine ⟨creates, room, member, ?_, same⟩
    by_contra short
    push Not at short
    rw [List.take_of_length_le short.1, List.take_of_length_le short.2] at same
    exact findRoomByTitle_eq_none.mp creates.unused room member same

theorem Named.advertised_filled (named : server.Named) : ∀ title ∈ server.advertised, title ≠ [] := by
  rw [named.advertised_eq, List.forall_mem_map]
  intro title member
  have filled := named.filled title member
  simpa using filled

theorem Named.distinct_dispatch (named : server.Named) (distinct : server.Distinct)
    (stale : Stale) : (CCentralizedServer.dispatch stale server event).1.Distinct ↔
      ¬ Collides server event := by
  have next : (CCentralizedServer.dispatch stale server event).1.Named := named.dispatch stale
  have nodup := distinct.nodup
  rw [named.advertised_eq] at nodup
  have iff : (CCentralizedServer.dispatch stale server event).1.Distinct ↔
      ((CCentralizedServer.dispatch stale server event).1.roomManager.titles.map
        (List.take 63)).Nodup := by
    rw [← next.advertised_eq]
    exact ⟨Distinct.nodup, fun nodup => ⟨next.advertised_filled, nodup⟩⟩
  rw [iff]
  rcases dispatch_rooms stale server event with ⟨creates, _⟩ | ⟨other, shrunk⟩
  · rw [named.created_titles stale creates, List.map_cons, List.nodup_cons]
    simp only [nodup, and_true, creates.shown_alike]
  · exact iff_of_true (nodup.sublist (shrunk.titles.map _)) fun collides => other collides.1

theorem distinct_iff_apart (inputs : List Input) :
    (∀ earlier, earlier <+: inputs → (after earlier).Distinct) ↔
      Ordered (fun earlier input => ¬ Collides (after earlier) input.event) inputs := by
  induction inputs using List.reverseRecOn with
  | nil =>
    apply iff_of_true _ ordered_nil
    intro earlier none
    rw [List.prefix_nil.mp none]
    exact ⟨fun _ member => absurd member List.not_mem_nil, .nil⟩
  | append_singleton inputs input ih =>
    have named := after_named inputs
    constructor
    · intro distinct
      have before (earlier : List Input) (first : earlier <+: inputs) : (after earlier).Distinct :=
        distinct earlier (first.trans (List.prefix_append ..))
      have last := distinct (inputs ++ [input]) (List.prefix_refl _)
      rw [after_append] at last
      exact (ih.mp before).append
        ((named.distinct_dispatch (before inputs (List.prefix_refl _)) input.stale).mp last)
    · intro apart earlier first
      obtain ⟨before, last⟩ := apart.of_append
      have distinct := ih.mpr before
      rcases List.prefix_concat_iff.mp first with rfl | first
      · rw [after_append]
        exact (named.distinct_dispatch (distinct inputs (List.prefix_refl _)) input.stale).mpr last
      · exact distinct earlier first

section Terminated

variable {inputs : List Input}

theorem short_titles (terminated : ∀ input ∈ inputs,
    dispatched input.event.data = some .c2sCreateRoom →
      0 ∈ (input.event.data.drop sizeofMsgHeader).take 64) :
    ∀ title ∈ (after inputs).roomManager.titles, title.length ≤ 63 := by
  induction inputs using List.reverseRecOn with
  | nil => exact fun _ member => absurd member List.not_mem_nil
  | append_singleton inputs input ih =>
    have before := ih fun other member => terminated other (List.mem_append_left _ member)
    rw [after_append]
    rcases dispatch_rooms input.stale (after inputs) input.event with ⟨creates, _⟩ | ⟨_, shrunk⟩
    · have ended := terminated input List.mem_concat_self creates.routed
      rw [(after_named inputs).created_titles input.stale creates]
      exact List.forall_mem_cons.mpr ⟨requestedTitle_short creates.routed ended, before⟩
    · exact fun title member => before title (shrunk.titles.subset member)

-- Titles that end in their fields do not collide.
theorem apart_of_terminated (terminated : ∀ input ∈ inputs,
    dispatched input.event.data = some .c2sCreateRoom →
      0 ∈ (input.event.data.drop sizeofMsgHeader).take 64) :
    Ordered (fun earlier input => ¬ Collides (after earlier) input.event) inputs := by
  intro earlier input later split
  rw [split] at terminated
  rintro ⟨creates, room, member, long, _⟩
  have ended := terminated input (List.mem_append_right _ List.mem_cons_self) creates.routed
  have new := requestedTitle_short creates.routed ended
  have old : room.title.length ≤ 63 :=
    short_titles (fun other before => terminated other (List.mem_append_left _ before)) room.title
      (List.mem_map_of_mem member)
  omega

end Terminated

/-- The list shows distinct titles throughout a run if and only if none of its events collides, and
none does when every title ends in its field. -/
theorem advertised_distinct (inputs : List Input) :
    ((∀ earlier, earlier <+: inputs → (after earlier).Distinct) ↔
      Ordered (fun earlier input => ¬ Collides (after earlier) input.event) inputs) ∧
    ((∀ input ∈ inputs, dispatched input.event.data = some .c2sCreateRoom →
        0 ∈ (input.event.data.drop sizeofMsgHeader).take 64) →
      ∀ earlier, earlier <+: inputs → (after earlier).Distinct) :=
  ⟨distinct_iff_apart inputs, fun terminated =>
    (distinct_iff_apart inputs).mpr (apart_of_terminated terminated)⟩

theorem advertised_twice : ∃ inputs : List Input, ¬ (after inputs).Distinct := by
  let stale : Stale := .zeros 256
  refine ⟨[⟨⟨.connected, 5, []⟩, stale⟩, ⟨⟨.received, 5, longTitle 2⟩, stale⟩,
    ⟨⟨.received, 5, longTitle 3⟩, stale⟩], fun distinct => ?_⟩
  have nodup := distinct.nodup
  revert nodup
  decide +kernel

end CCentralizedServer

end MiniGames
