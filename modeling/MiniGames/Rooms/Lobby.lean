import Mathlib.Data.List.Basic
import Mathlib.Data.List.Nodup
import Mathlib.Logic.Function.Basic
import Mathlib.Tactic.Common

set_option autoImplicit false

namespace MiniGames

variable {Client Title : Type}

structure Lobby.Room (Client Title : Type) where
  number : Nat
  title : Title
  capacity : Nat
  members : List Client
  deriving DecidableEq

structure Lobby (Client Title : Type) where
  online : Client → Bool
  rooms : List (Lobby.Room Client Title)
  created : Nat

namespace Lobby

def empty : Lobby Client Title :=
  { online := fun _ => false
    rooms := []
    created := 0 }

section Operations

variable [DecidableEq Client]

/-- The room without a client. A room that its last member leaves closes. -/
def Room.without (client : Client) (room : Room Client Title) : Option (Room Client Title) :=
  if client ∈ room.members then
    let staying := room.members.filter fun member => member ≠ client
    if staying = [] then none else some { room with members := staying }
  else some room

def Room.join (number : Nat) (client : Client) (room : Room Client Title) : Room Client Title :=
  if room.number = number then { room with members := room.members ++ [client] } else room

variable (lobby : Lobby Client Title)

def placed (client : Client) : Bool := lobby.rooms.any fun room => client ∈ room.members

def titled [DecidableEq Title] (title : Title) : Bool :=
  lobby.rooms.any fun room => room.title = title

def connect (client : Client) : Lobby Client Title :=
  { lobby with online := Function.update lobby.online client true }

def leave (client : Client) : Lobby Client Title × Bool :=
  ({ lobby with rooms := lobby.rooms.filterMap (Room.without client) }, lobby.placed client)

def disconnect (client : Client) : Lobby Client Title :=
  { (lobby.leave client).1 with online := Function.update lobby.online client false }

def joinable (number : Nat) (client : Client) : Bool :=
  !lobby.placed client &&
    lobby.rooms.any fun room => room.number = number ∧ room.members.length < room.capacity

def join (number : Nat) (client : Client) : Lobby Client Title × Bool :=
  if lobby.joinable number client then
    ({ lobby with rooms := lobby.rooms.map (Room.join number client) }, true)
  else (lobby, false)

/-- A client in a room opens one that nobody is in. -/
def create (title : Title) (capacity : Nat) (client : Client) : Lobby Client Title × Bool :=
  let room : Room Client Title :=
    { number := lobby.created + 1
      title := title
      capacity := capacity
      members := if lobby.placed client then [] else [client] }
  ({ lobby with rooms := room :: lobby.rooms, created := lobby.created + 1 },
    !lobby.placed client)

end Operations

structure Orderly (lobby : Lobby Client Title) : Prop where
  numbered : lobby.rooms.Pairwise fun newer older => older.number < newer.number
  made : ∀ room ∈ lobby.rooms, 0 < room.number ∧ room.number ≤ lobby.created
  titles : (lobby.rooms.map Room.title).Nodup
  once : ∀ room ∈ lobby.rooms, room.members.Nodup
  alone : lobby.rooms.Pairwise fun newer older => newer.members.Disjoint older.members
  present : ∀ room ∈ lobby.rooms, ∀ client ∈ room.members, lobby.online client = true
  within : ∀ room ∈ lobby.rooms, room.members.length ≤ room.capacity

theorem empty_orderly : (empty : Lobby Client Title).Orderly where
  numbered := .nil
  made _ member := absurd member List.not_mem_nil
  titles := .nil
  once _ member := absurd member List.not_mem_nil
  alone := .nil
  present _ member := absurd member List.not_mem_nil
  within _ member := absurd member List.not_mem_nil

variable [DecidableEq Client] {lobby : Lobby Client Title} {client : Client}

theorem placed_iff : lobby.placed client = true ↔ ∃ room ∈ lobby.rooms, client ∈ room.members := by
  simp [placed]

theorem not_placed (unplaced : lobby.placed client = false) {room : Room Client Title}
    (member : room ∈ lobby.rooms) : client ∉ room.members := fun inside => by
  have there := placed_iff.mpr ⟨room, member, inside⟩
  rw [unplaced] at there
  cases there

theorem Room.without_some {room left : Room Client Title}
    (stays : room.without client = some left) :
    left.number = room.number ∧ left.title = room.title ∧ left.capacity = room.capacity ∧
      left.members = room.members.filter fun member => member ≠ client := by
  simp only [Room.without] at stays
  split at stays
  · split at stays
    · cases stays
    · cases stays
      exact ⟨rfl, rfl, rfl, rfl⟩
  · next outside =>
    cases stays
    refine ⟨rfl, rfl, rfl, (List.filter_eq_self.mpr fun member inside => ?_).symm⟩
    have differs : member ≠ client := fun same => outside (same ▸ inside)
    simpa using differs

theorem Room.without_outside {room : Room Client Title} (outside : client ∉ room.members) :
    room.without client = some room := if_neg outside

namespace Orderly

variable (orderly : lobby.Orderly)

include orderly

theorem leave : (lobby.leave client).1.Orderly where
  numbered := by
    refine orderly.numbered.filterMap _ fun newer older later first kept second left => ?_
    rw [(Room.without_some kept).1, (Room.without_some left).1]
    exact later
  made := by
    rintro room member
    obtain ⟨before, listed, stays⟩ := List.mem_filterMap.mp member
    rw [(Room.without_some stays).1]
    exact orderly.made before listed
  titles := by
    have sub : ((lobby.leave client).1.rooms.map Room.title).Sublist
        (lobby.rooms.map Room.title) := by
      simp only [Lobby.leave]
      induction lobby.rooms with
      | nil => exact .slnil
      | cons room rest ih =>
        cases stays : room.without client with
        | none =>
          rw [List.filterMap_cons_none stays]
          exact ih.cons _
        | some left =>
          rw [List.filterMap_cons_some stays, List.map_cons, List.map_cons,
            (Room.without_some stays).2.1]
          exact ih.cons_cons _
    exact orderly.titles.sublist sub
  once := by
    rintro room member
    obtain ⟨before, listed, stays⟩ := List.mem_filterMap.mp member
    rw [(Room.without_some stays).2.2.2]
    exact (orderly.once before listed).filter _
  alone := by
    refine orderly.alone.filterMap _ fun newer older apart first kept second left => ?_
    rw [(Room.without_some kept).2.2.2, (Room.without_some left).2.2.2]
    exact fun member here there =>
      apart (List.mem_of_mem_filter here) (List.mem_of_mem_filter there)
  present := by
    rintro room member other inside
    obtain ⟨before, listed, stays⟩ := List.mem_filterMap.mp member
    rw [(Room.without_some stays).2.2.2] at inside
    exact orderly.present before listed other (List.mem_of_mem_filter inside)
  within := by
    rintro room member
    obtain ⟨before, listed, stays⟩ := List.mem_filterMap.mp member
    rw [(Room.without_some stays).2.2.2, (Room.without_some stays).2.2.1]
    exact Nat.le_trans (List.length_filter_le ..) (orderly.within before listed)

theorem connect : (lobby.connect client).Orderly where
  numbered := orderly.numbered
  made := orderly.made
  titles := orderly.titles
  once := orderly.once
  alone := orderly.alone
  present room member other inside := by
    simp only [Lobby.connect, Function.update_apply]
    split
    · rfl
    · exact orderly.present room member other inside
  within := orderly.within

theorem disconnect : (lobby.disconnect client).Orderly where
  numbered := orderly.leave.numbered
  made := orderly.leave.made
  titles := orderly.leave.titles
  once := orderly.leave.once
  alone := orderly.leave.alone
  present := by
    rintro room member other inside
    have online := orderly.leave.present room member other inside
    obtain ⟨before, listed, stays⟩ := List.mem_filterMap.mp member
    rw [(Room.without_some stays).2.2.2] at inside
    have differs : other ≠ client := by simpa using List.of_mem_filter inside
    simp only [Lobby.disconnect, Function.update_of_ne differs]
    exact online
  within := orderly.leave.within

theorem create [DecidableEq Title] {title : Title} {capacity : Nat}
    (online : lobby.online client = true) (unused : lobby.titled title = false)
    (positive : 0 < capacity) : (lobby.create title capacity client).1.Orderly where
  numbered := List.pairwise_cons.mpr
    ⟨fun room member => Nat.lt_succ_of_le (orderly.made room member).2, orderly.numbered⟩
  made := List.forall_mem_cons.mpr ⟨⟨Nat.succ_pos _, Nat.le_refl _⟩, fun room member =>
    ⟨(orderly.made room member).1, Nat.le_succ_of_le (orderly.made room member).2⟩⟩
  titles := by
    refine List.nodup_cons.mpr ⟨fun used => ?_, orderly.titles⟩
    obtain ⟨room, member, same⟩ := List.mem_map.mp used
    have there : lobby.titled title = true :=
      List.any_eq_true.mpr ⟨room, member, decide_eq_true same⟩
    rw [unused] at there
    cases there
  once := List.forall_mem_cons.mpr ⟨by simp only; split <;> simp, orderly.once⟩
  alone := by
    refine List.pairwise_cons.mpr ⟨fun room member => ?_, orderly.alone⟩
    cases placed : lobby.placed client with
    | true => simp
    | false => simpa using not_placed placed member
  present := by
    refine List.forall_mem_cons.mpr ⟨fun other inside => ?_, orderly.present⟩
    simp only at inside
    split at inside
    · cases inside
    · rw [List.mem_singleton.mp inside]
      exact online
  within := by
    refine List.forall_mem_cons.mpr ⟨?_, orderly.within⟩
    simp only
    split
    · exact Nat.zero_le _
    · exact positive

end Orderly

omit [DecidableEq Client] in
theorem Room.join_members {number : Nat} {room : Room Client Title} :
    (room.join number client).members =
      if room.number = number then room.members ++ [client] else room.members := by
  simp only [Room.join]
  split <;> rfl

omit [DecidableEq Client] in
theorem Room.join_terms (number : Nat) (room : Room Client Title) :
    (room.join number client).number = room.number ∧ (room.join number client).title = room.title ∧
      (room.join number client).capacity = room.capacity := by
  simp only [Room.join]
  split <;> exact ⟨rfl, rfl, rfl⟩

theorem joinable_iff {number : Nat} : lobby.joinable number client = true ↔
    lobby.placed client = false ∧
      ∃ room ∈ lobby.rooms, room.number = number ∧ room.members.length < room.capacity := by
  simp [joinable]

namespace Orderly

omit [DecidableEq Client] in
theorem same_room (orderly : lobby.Orderly) {room other : Room Client Title}
    (member : room ∈ lobby.rooms) (listed : other ∈ lobby.rooms)
    (same : room.number = other.number) : room = other := by
  have numbers : (lobby.rooms.map Room.number).Nodup :=
    List.pairwise_map.mpr (orderly.numbered.imp fun later => Nat.ne_of_gt later)
  exact List.inj_on_of_nodup_map numbers member listed same

theorem join (orderly : lobby.Orderly) {number : Nat} (online : lobby.online client = true) :
    (lobby.join number client).1.Orderly := by
  simp only [Lobby.join]
  split
  case isFalse => exact orderly
  case isTrue joinable =>
    obtain ⟨unplaced, room, listed, named, roomy⟩ := joinable_iff.mp joinable
    have outside {room : Room Client Title} (member : room ∈ lobby.rooms) :=
      not_placed unplaced member
    constructor
    case numbered =>
      refine List.pairwise_map.mpr (orderly.numbered.imp fun {newer older} later => ?_)
      rw [(Room.join_terms number newer).1, (Room.join_terms number older).1]
      exact later
    case made =>
      rw [List.forall_mem_map]
      intro room member
      rw [(Room.join_terms number room).1]
      exact orderly.made room member
    case titles =>
      have same : Room.title ∘ Room.join number client = (Room.title : Room Client Title → Title) :=
        funext fun room => (Room.join_terms number room).2.1
      rw [List.map_map, same]
      exact orderly.titles
    case once =>
      rw [List.forall_mem_map]
      intro room member
      rw [Room.join_members]
      split
      · exact (orderly.once room member).append (List.nodup_singleton client)
          (List.disjoint_singleton.mpr (outside member))
      · exact orderly.once room member
    case alone =>
      refine List.pairwise_map.mpr ((orderly.alone.and orderly.numbered).imp_of_mem
        fun {newer older} here there apart => ?_)
      obtain ⟨apart, later⟩ := apart
      rw [Room.join_members, Room.join_members]
      split
      · next first =>
        rw [if_neg (first ▸ Nat.ne_of_lt later), List.disjoint_append_left]
        exact ⟨apart, List.singleton_disjoint.mpr (outside there)⟩
      · split
        · rw [List.disjoint_append_right]
          exact ⟨apart, List.disjoint_singleton.mpr (outside here)⟩
        · exact apart
    case present =>
      rw [List.forall_mem_map]
      intro room member other inside
      rw [Room.join_members] at inside
      split at inside
      · rcases List.mem_append.mp inside with old | new
        · exact orderly.present room member other old
        · rw [List.mem_singleton.mp new]
          exact online
      · exact orderly.present room member other inside
    case within =>
      rw [List.forall_mem_map]
      intro other member
      rw [Room.join_members, (Room.join_terms number other).2.2]
      split
      · next same =>
        rw [orderly.same_room member listed (same.trans named.symm), List.length_append]
        exact roomy
      · exact orderly.within other member

end Orderly

end Lobby

end MiniGames
