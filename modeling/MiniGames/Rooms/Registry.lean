import MiniGames.Rooms.RoomManager
import MiniGames.Shared.Runs

set_option autoImplicit false

namespace MiniGames

open Runs

theorem ofNat_inj {first second : Nat} (small : first < 2 ^ 32) (little : second < 2 ^ 32)
    (same : Int32.ofNat first = Int32.ofNat second) : first = second := by
  have bits := congrArg (fun value : Int32 => value.toBitVec.toNat) same
  simp only [Int32.toBitVec_ofNat', BitVec.toNat_ofNat] at bits
  rwa [Nat.mod_eq_of_lt small, Nat.mod_eq_of_lt little] at bits

namespace CRoomManager

variable {Player : Type} [DecidableEq Player]

theorem lookup_foldl_erase (players : List Player) (rooms : AList fun _ : Player => Int32)
    (player : Player) :
    (players.foldl (fun rooms member => rooms.erase member) rooms).lookup player =
      if player ∈ players then none else rooms.lookup player := by
  induction players generalizing rooms with
  | nil => simp
  | cons first rest ih =>
    rw [List.foldl_cons, ih]
    by_cases later : player ∈ rest
    · simp [later]
    · by_cases same : player = first
      · subst same
        simp
      · simp [later, same, AList.lookup_erase_ne same]

structure Consistent (manager : CRoomManager Player) : Prop where
  counter : manager.roomIdCounter = Int32.ofNat (manager.allocated + 1)
  few : manager.allocated < 2 ^ 31
  ids : ∀ ptr < manager.allocated, (manager.rooms ptr).roomId = Int32.ofNat (ptr + 1)
  made : ∀ ptr ∈ manager.roomList, ptr < manager.allocated
  newest : manager.roomList.Pairwise (· > ·)
  mapped : ∀ roomId ptr, manager.roomMap.lookup roomId = some ptr ↔
    ptr ∈ manager.roomList ∧ (manager.rooms ptr).roomId = roomId
  placed : ∀ player roomId, manager.playerToRoomMap.lookup player = some roomId ↔
    ∃ ptr ∈ manager.roomList, (manager.rooms ptr).roomId = roomId ∧
      player ∈ (manager.rooms ptr).players
  sound : ∀ ptr ∈ manager.roomList, (manager.rooms ptr).Sound

theorem new_consistent : (new : CRoomManager Player).Consistent where
  counter := rfl
  few := Nat.two_pow_pos 31
  ids _ early := absurd early (Nat.not_lt_zero _)
  made _ member := absurd member List.not_mem_nil
  newest := List.Pairwise.nil
  mapped _ _ := by simp [new]
  placed _ _ := by simp [new]
  sound _ member := absurd member List.not_mem_nil

namespace Consistent

variable {manager : CRoomManager Player} (consistent : manager.Consistent)

include consistent

theorem toInt_roomId {ptr : Nat} (early : ptr < manager.allocated) :
    (manager.rooms ptr).roomId.toInt = ptr + 1 := by
  have few := consistent.few
  rw [consistent.ids ptr early, Int32.toInt_ofNat_of_lt (by omega)]
  rfl

theorem same_ptr {ptr other : Nat} (early : ptr < manager.allocated)
    (soon : other < manager.allocated)
    (same : (manager.rooms ptr).roomId = (manager.rooms other).roomId) : ptr = other := by
  have values := congrArg Int32.toInt same
  rw [consistent.toInt_roomId early, consistent.toInt_roomId soon] at values
  omega

theorem find {roomId : Int32} {ptr : Nat} (found : manager.findRoom roomId = some ptr) :
    ptr ∈ manager.roomList ∧ (manager.rooms ptr).roomId = roomId :=
  (consistent.mapped roomId ptr).mp found

theorem id_eq_iff {ptr other : Nat} (member : ptr ∈ manager.roomList)
    (present : other ∈ manager.roomList) :
    (manager.rooms other).roomId = (manager.rooms ptr).roomId ↔ other = ptr :=
  ⟨consistent.same_ptr (consistent.made other present) (consistent.made ptr member),
    fun same => by rw [same]⟩

theorem alone {ptr other : Nat} {player : Player} (member : ptr ∈ manager.roomList)
    (present : other ∈ manager.roomList) (here : player ∈ (manager.rooms ptr).players)
    (there : player ∈ (manager.rooms other).players) : ptr = other := by
  have first := (consistent.placed player _).mpr ⟨ptr, member, rfl, here⟩
  have second := (consistent.placed player _).mpr ⟨other, present, rfl, there⟩
  rw [first] at second
  exact (consistent.id_eq_iff present member).mp (Option.some.inj second)

theorem unplaced_iff {player : Player} : manager.playerToRoomMap.lookup player = none ↔
    ∀ ptr ∈ manager.roomList, player ∉ (manager.rooms ptr).players := by
  constructor
  · intro none ptr member here
    have placed := (consistent.placed player _).mpr ⟨ptr, member, rfl, here⟩
    rw [none] at placed
    cases placed
  · intro nowhere
    cases placed : manager.playerToRoomMap.lookup player with
    | none => rfl
    | some roomId =>
      obtain ⟨ptr, member, _, here⟩ := (consistent.placed player roomId).mp placed
      exact absurd here (nowhere ptr member)

theorem change {ptr : Nat} (member : ptr ∈ manager.roomList) {room : CRoom Player}
    (same : room.roomId = (manager.rooms ptr).roomId) (sound : room.Sound)
    {players : AList fun _ : Player => Int32}
    (placed : ∀ player roomId, players.lookup player = some roomId ↔
      (roomId = room.roomId ∧ player ∈ room.players) ∨
        ∃ other ∈ manager.roomList, other ≠ ptr ∧ (manager.rooms other).roomId = roomId ∧
          player ∈ (manager.rooms other).players) :
    ({ manager.store ptr room with playerToRoomMap := players }).Consistent where
  counter := consistent.counter
  few := consistent.few
  ids other early := by
    simp only [store, Function.update_apply]
    split
    · next here => rw [same, here, consistent.ids ptr (here ▸ early)]
    · exact consistent.ids other early
  made := consistent.made
  newest := consistent.newest
  mapped roomId other := by
    simp only [store, consistent.mapped, Function.update_apply]
    split
    · next here => rw [same, here]
    · rfl
  placed player roomId := by
    rw [placed]
    simp only [store, Function.update_apply]
    constructor
    · rintro (⟨rfl, here⟩ | ⟨other, present, differs, named, there⟩)
      · exact ⟨ptr, member, by simp, by simpa using here⟩
      · exact ⟨other, present, by simpa [differs] using named, by simpa [differs] using there⟩
    · rintro ⟨other, present, named, there⟩
      by_cases here : other = ptr
      · rw [if_pos here] at named there
        exact .inl ⟨named.symm, there⟩
      · rw [if_neg here] at named there
        exact .inr ⟨other, present, here, named, there⟩
  sound other present := by
    simp only [store, Function.update_apply]
    split
    · exact sound
    · exact consistent.sound other present

theorem fresh {ptr : Nat} (made : ptr < manager.allocated) :
    (manager.rooms ptr).roomId ≠ manager.roomIdCounter := by
  have few := consistent.few
  rw [consistent.ids ptr made, consistent.counter]
  intro same
  have same := ofNat_inj (by omega) (by omega) same
  omega

theorem createRoom (room : manager.allocated + 1 < 2 ^ 31) (title : List UInt8)
    {maxPlayers : Int32} (positive : 0 < maxPlayers) :
    (manager.createRoom title maxPlayers).1.Consistent := by
  have old {ptr : Nat} (member : ptr ∈ manager.roomList) :
      ptr ≠ manager.allocated := Nat.ne_of_lt (consistent.made ptr member)
  have created : (manager.createRoom title maxPlayers).1.rooms manager.allocated =
      .new manager.roomIdCounter title maxPlayers := Function.update_self ..
  have kept {ptr : Nat} (differs : ptr ≠ manager.allocated) :
      (manager.createRoom title maxPlayers).1.rooms ptr = manager.rooms ptr :=
    Function.update_of_ne differs ..
  have listed : (manager.createRoom title maxPlayers).1.roomList =
      manager.allocated :: manager.roomList := rfl
  constructor
  case counter =>
    have next : (manager.createRoom title maxPlayers).1.roomIdCounter =
      manager.roomIdCounter + 1 := rfl
    rw [next, consistent.counter]
    exact (Int32.ofNat_add (manager.allocated + 1) 1).symm
  case few => exact room
  case ids =>
    intro ptr early
    by_cases same : ptr = manager.allocated
    · rw [same, created]
      exact consistent.counter
    · rw [kept same]
      exact consistent.ids ptr (Nat.lt_of_le_of_ne (Nat.le_of_lt_succ early) same)
  case made =>
    intro ptr member
    rcases List.mem_cons.mp member with rfl | member
    · exact Nat.lt_succ_self _
    · exact Nat.lt_succ_of_lt (consistent.made ptr member)
  case newest => exact List.pairwise_cons.mpr ⟨consistent.made, consistent.newest⟩
  case mapped =>
    intro roomId ptr
    change AList.lookup roomId (manager.roomMap.insert _ _) = some ptr ↔ _
    by_cases same : roomId = manager.roomIdCounter
    · rw [same, AList.lookup_insert, listed, List.mem_cons]
      constructor
      · intro here
        cases here
        exact ⟨.inl rfl, by rw [created]; rfl⟩
      · rintro ⟨member, named⟩
        rcases member with rfl | member
        · rfl
        · rw [kept (old member)] at named
          exact absurd named (consistent.fresh (consistent.made ptr member))
    · rw [AList.lookup_insert_ne same, consistent.mapped, listed, List.mem_cons]
      constructor
      · rintro ⟨member, named⟩
        exact ⟨.inr member, by rw [kept (old member)]; exact named⟩
      · rintro ⟨member, named⟩
        rcases member with rfl | member
        · rw [created] at named
          exact absurd named.symm same
        · rw [kept (old member)] at named
          exact ⟨member, named⟩
  case placed =>
    intro player roomId
    change AList.lookup player manager.playerToRoomMap = some roomId ↔ _
    rw [consistent.placed, listed]
    constructor
    · rintro ⟨ptr, member, held⟩
      exact ⟨ptr, List.mem_cons_of_mem _ member, by rw [kept (old member)]; exact held⟩
    · rintro ⟨ptr, member, held⟩
      rcases List.mem_cons.mp member with rfl | member
      · rw [created] at held
        exact absurd held.2 List.not_mem_nil
      · rw [kept (old member)] at held
        exact ⟨ptr, member, held⟩
  case sound =>
    intro ptr member
    rcases List.mem_cons.mp member with rfl | member
    · rw [created]
      exact CRoom.Sound.new_sound _ _ positive
    · rw [kept (old member)]
      exact consistent.sound ptr member

theorem deleteRoom (roomId : Int32) : (manager.deleteRoom roomId).1.Consistent := by
  simp only [CRoomManager.deleteRoom]
  split
  · exact consistent
  · next room found =>
    obtain ⟨here, named⟩ := consistent.find found
    constructor
    case counter => exact consistent.counter
    case few => exact consistent.few
    case ids => exact consistent.ids
    case made =>
      intro ptr member
      exact consistent.made ptr (List.mem_of_mem_filter member)
    case newest => exact consistent.newest.sublist List.filter_sublist
    case mapped =>
      intro other ptr
      simp only [List.mem_filter, decide_eq_true_eq]
      by_cases same : other = roomId
      · subst same
        simp only [AList.lookup_erase, reduceCtorEq, false_iff]
        rintro ⟨⟨member, differs⟩, called⟩
        exact differs ((consistent.id_eq_iff here member).mp (called.trans named.symm))
      · rw [AList.lookup_erase_ne same, consistent.mapped]
        constructor
        · rintro ⟨member, called⟩
          refine ⟨⟨member, fun away => same ?_⟩, called⟩
          rw [← called, away, named]
        · rintro ⟨⟨member, _⟩, called⟩
          exact ⟨member, called⟩
    case placed =>
      intro player other
      simp only [lookup_foldl_erase, List.mem_filter, decide_eq_true_eq]
      split
      · next gone =>
        simp only [reduceCtorEq, false_iff]
        rintro ⟨ptr, ⟨member, differs⟩, _, held⟩
        exact differs (consistent.alone member here held gone)
      · next stays =>
        rw [consistent.placed]
        constructor
        · rintro ⟨ptr, member, called, held⟩
          exact ⟨ptr, ⟨member, fun away => stays (away ▸ held)⟩, called, held⟩
        · rintro ⟨ptr, ⟨member, _⟩, called, held⟩
          exact ⟨ptr, member, called, held⟩
    case sound =>
      intro ptr member
      exact consistent.sound ptr (List.mem_of_mem_filter member)

theorem seat {roomId : Int32} {player : Player} {ptr : Nat}
    (joinable : manager.Joinable roomId player ptr) :
    (manager.seat roomId player ptr).Consistent := by
  obtain ⟨member, named⟩ := consistent.find joinable.found
  have nowhere := consistent.unplaced_iff.mp joinable.unplaced
  refine consistent.change member (CRoom.append_roomId ..)
    ((consistent.sound ptr member).append joinable.roomy (nowhere ptr member)) fun other called => ?_
  rw [CRoom.append_roomId, CRoom.append_players, List.mem_append, List.mem_singleton, named]
  by_cases same : other = player
  · subst same
    rw [AList.lookup_insert]
    constructor
    · intro here
      cases here
      exact .inl ⟨rfl, .inr rfl⟩
    · intro held
      rcases held with ⟨rfl, _⟩ | ⟨there, present, _, _, held⟩
      · rfl
      · exact absurd held (nowhere there present)
  · rw [AList.lookup_insert_ne same, consistent.placed]
    constructor
    · rintro ⟨there, present, placed, held⟩
      by_cases here : there = ptr
      · subst here
        exact .inl ⟨placed.symm.trans named, .inl held⟩
      · exact .inr ⟨there, present, here, placed, held⟩
    · intro held
      rcases held with ⟨rfl, held⟩ | ⟨there, present, _, named, held⟩
      · exact ⟨ptr, member, named, held.resolve_right same⟩
      · exact ⟨there, present, named, held⟩

theorem joinRoom (roomId : Int32) (player : Option Player) :
    (manager.joinRoom roomId player).1.Consistent := by
  rcases manager.joinRoom_cases roomId player with ⟨_, _, _, joinable, joined⟩ | ⟨_, refused⟩
  · rw [joined]
    exact consistent.seat joinable
  · rw [refused]
    exact consistent

theorem findRoom_isSome {player : Player} {roomId : Int32}
    (placed : manager.playerToRoomMap.lookup player = some roomId) :
    (manager.findRoom roomId).isSome := by
  obtain ⟨ptr, member, named, _⟩ := (consistent.placed player roomId).mp placed
  have found : manager.findRoom roomId = some ptr := (consistent.mapped roomId ptr).mpr ⟨member, named⟩
  rw [found]
  rfl

theorem present {player : Player} {roomId : Int32} {ptr : Nat}
    (placed : manager.playerToRoomMap.lookup player = some roomId)
    (found : manager.findRoom roomId = some ptr) : player ∈ (manager.rooms ptr).players := by
  obtain ⟨member, named⟩ := consistent.find found
  obtain ⟨there, present, called, held⟩ := (consistent.placed player roomId).mp placed
  cases (consistent.id_eq_iff member present).mp (called.trans named.symm)
  exact held

theorem vacate {roomId : Int32} {player : Player} {ptr : Nat}
    (placed : manager.playerToRoomMap.lookup player = some roomId)
    (found : manager.findRoom roomId = some ptr) :
    (manager.vacate player ptr).Consistent := by
  obtain ⟨member, named⟩ := consistent.find found
  have seated := consistent.present placed found
  have only (other : Nat) (present : other ∈ manager.roomList) (differs : other ≠ ptr) :
      player ∉ (manager.rooms other).players := fun here =>
    differs (consistent.alone present member here seated)
  have nodup := (consistent.sound ptr member).nodup
  rw [CRoomManager.vacate, CRoom.removePlayer_member seated]
  refine consistent.change member (CRoom.remove_roomId ..)
    ((consistent.sound ptr member).remove player) fun other called => ?_
  rw [CRoom.remove_roomId, CRoom.remove_players, nodup.mem_erase_iff]
  by_cases same : other = player
  · subst same
    simp only [AList.lookup_erase, reduceCtorEq, ne_eq, not_true_eq_false, false_and, and_false,
      false_or, false_iff]
    rintro ⟨there, present, differs, _, held⟩
    exact only there present differs held
  · rw [AList.lookup_erase_ne same, consistent.placed]
    constructor
    · rintro ⟨there, present, placed, held⟩
      by_cases here : there = ptr
      · subst here
        exact .inl ⟨placed.symm, same, held⟩
      · exact .inr ⟨there, present, here, placed, held⟩
    · intro held
      rcases held with ⟨rfl, _, held⟩ | ⟨there, present, _, placed, held⟩
      · exact ⟨ptr, member, rfl, held⟩
      · exact ⟨there, present, placed, held⟩

theorem seated {player : Player} {roomId : Int32}
    (placed : manager.playerToRoomMap.lookup player = some roomId) :
    ∃ ptr, manager.Seated player roomId ptr := by
  obtain ⟨ptr, found⟩ := Option.isSome_iff_exists.mp (consistent.findRoom_isSome placed)
  exact ⟨ptr, placed, found, consistent.present placed found⟩

/-- The branch of LeaveRoom for a missing room is not taken. -/
theorem leaveRoom_cases (player : Option Player) :
    (∃ leaving roomId ptr, player = some leaving ∧ manager.Seated leaving roomId ptr ∧
      manager.leaveRoom player = (manager.depart leaving roomId ptr, true)) ∨
    ((∀ leaving, player = some leaving → manager.playerToRoomMap.lookup leaving = none) ∧
      manager.leaveRoom player = (manager, false)) := by
  cases player with
  | none => exact .inr ⟨by simp, rfl⟩
  | some player =>
    cases placed : manager.playerToRoomMap.lookup player with
    | none =>
      apply Or.inr
      constructor
      · intro leaving same
        cases same
        exact placed
      · exact leaveRoom_unplaced placed
    | some roomId =>
      obtain ⟨ptr, seated⟩ := consistent.seated placed
      exact .inl ⟨player, roomId, ptr, rfl, seated, leaveRoom_found seated.placed seated.found⟩

theorem depart {player : Player} {roomId : Int32} {ptr : Nat}
    (seated : manager.Seated player roomId ptr) :
    (manager.depart player roomId ptr).Consistent := by
  have vacated := consistent.vacate seated.placed seated.found
  simp only [CRoomManager.depart]
  split
  · exact vacated.deleteRoom roomId
  · exact vacated

theorem leaveRoom (player : Option Player) : (manager.leaveRoom player).1.Consistent := by
  rcases consistent.leaveRoom_cases player with ⟨_, _, _, _, seated, left⟩ | ⟨_, refused⟩
  · rw [left]
    exact consistent.depart seated
  · rw [refused]
    exact consistent

end Consistent

end CRoomManager

end MiniGames
