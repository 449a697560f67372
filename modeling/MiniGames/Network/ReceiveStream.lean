import MiniGames.Network.Incarnations
import MiniGames.Network.ReceiveWindow
import MiniGames.Shared.Framing

set_option autoImplicit false

namespace MiniGames

open Framing

/-- What a reader of length-prefixed messages decides from the first bytes of a stream. -/
def HeaderLayout.classify (header : HeaderLayout) (bytes : List UInt8) : Verdict :=
  if bytes.length < header.sizeofMsgHeader then .wait
  else if headerSize bytes < header.sizeofMsgHeader then .reject
  else if bytes.length < headerSize bytes then .wait
  else .frame (headerSize bytes)

theorem HeaderLayout.classify_eq (header : HeaderLayout) (bytes : List UInt8) :
    header.classify bytes =
      announce header.sizeofMsgHeader headerSize (· < header.sizeofMsgHeader) bytes := rfl

theorem HeaderLayout.headerSize_early (header : HeaderLayout) (bytes more : List UInt8)
    (whole : header.sizeofMsgHeader ≤ bytes.length) :
    headerSize (bytes ++ more) = headerSize bytes := by
  have := header.holdsSize
  exact headerSize_append more (by omega)

def HeaderLayout.framer (header : HeaderLayout) : Framer UInt8 where
  classify := header.classify
  fits := by
    intro bytes length verdict
    have := header.holdsSize
    rw [header.classify_eq] at verdict
    obtain ⟨_, accepted, fits, _⟩ := announce_frame verdict
    omega
  stable := by
    intro bytes reached more
    rw [header.classify_eq] at reached ⊢
    rw [header.classify_eq]
    exact announce_stable header.headerSize_early reached more

/-- The two size checks at the head of DispatchDataReceived. -/
def HeaderLayout.passesSizeChecks (header : HeaderLayout) (data : List UInt8) : Bool :=
  !(data.length < header.sizeofMsgHeader) && headerSize data == data.length

theorem framer_frame {header : HeaderLayout} {bytes : List UInt8} {length : Nat}
    (verdict : header.framer.classify bytes = .frame length) :
    headerSize (bytes.take length) = (bytes.take length).length ∧
      header.sizeofMsgHeader ≤ (bytes.take length).length := by
  have whole := header.holdsSize
  have announced := verdict
  simp only [HeaderLayout.framer, header.classify_eq] at announced
  obtain ⟨size, accepted, fits, _⟩ := announce_frame announced
  rw [headerSize_take (by omega), List.length_take, Nat.min_eq_left fits]
  exact ⟨size.symm, by omega⟩

theorem framer_wait_short {header : HeaderLayout} {bytes : List UInt8}
    (verdict : header.framer.classify bytes = .wait) : bytes.length < 2 ^ 16 - 1 := by
  have small := header.small
  have := headerSize_lt bytes
  simp only [HeaderLayout.framer, HeaderLayout.classify] at verdict
  split at verdict
  · omega
  split at verdict
  · cases verdict
  split at verdict
  · omega
  · cases verdict

/-- The size of the packet that begins with `bytes`, added without the wrap of 16 bits. -/
def Environment.announced (env : Environment) (bytes : List UInt8) : Nat :=
  match env.architectureType with
  | .echoTest => headerSize bytes + env.header.sizeofMsgHeader
  | _ => headerSize bytes

theorem Environment.announced_early (env : Environment) (bytes more : List UInt8)
    (whole : env.header.sizeofMsgHeader ≤ bytes.length) :
    env.announced (bytes ++ more) = env.announced bytes := by
  simp only [announced, env.header.headerSize_early bytes more whole]

/-- How the size check of ParsePackets cuts a stream in either mode. -/
def Environment.framer (env : Environment) : Framer UInt8 where
  classify :=
    announce env.header.sizeofMsgHeader env.announced
      fun size => size < env.header.sizeofMsgHeader ∨ 65535 < size
  fits := by
    intro bytes length verdict
    have := env.header.holdsSize
    obtain ⟨_, accepted, fits, _⟩ := announce_frame verdict
    omega
  stable := fun reached more => announce_stable env.announced_early reached more

theorem Environment.framer_centralized {env : Environment}
    (mode : env.architectureType = .centralized) (bytes : List UInt8) :
    env.framer.classify bytes = env.header.framer.classify bytes := by
  have small := headerSize_lt bytes
  have within : ¬ 65535 < headerSize bytes := by omega
  simp [framer, HeaderLayout.framer, HeaderLayout.classify, announce, announced, mode, within]

theorem Environment.waits_short {env : Environment} {bytes : List UInt8}
    (verdict : env.framer.classify bytes = .wait) : bytes.length < 65535 := by
  have small := env.header.small
  simp only [framer, announce] at verdict
  split at verdict
  · omega
  split at verdict
  · cases verdict
  split at verdict
  · omega
  · cases verdict

namespace Server

open Circular Runs CRingBufferT

variable {env : Environment}

/-- The 16-bit size fails the check of ParsePackets exactly when the true one does. -/
theorem parseTurn_framer {ring : CRingBufferT} (sound : ring.Sound)
    (allocated : ring.buffer.isSome) :
    parseTurn env ring =
      match env.framer.classify ring.contents with
      | .wait => .stop
      | .reject => .reject
      | .frame length => .packet (ring.drained length) (ring.contents.take length) := by
  have whole := env.header.holdsSize
  have bounded := headerSize_lt ring.contents
  simp only [parseTurn, Environment.framer, announce, contents_length]
  by_cases short : ring.getDataSize < env.header.sizeofMsgHeader
  · simp [short]
  have peeked : ring.peek true env.header.sizeofMsgHeader =
      ⟨env.header.sizeofMsgHeader, ring.contents.take env.header.sizeofMsgHeader⟩ := by
    rw [peek_eq_dequeue, sound.dequeue_accepted allocated (by omega) (by omega)]
  have reach : env.announced ring.contents < 2 ^ 16 + env.header.sizeofMsgHeader := by
    simp only [Environment.announced]
    split <;> omega
  have small := env.header.small
  -- `size` is the 16-bit size that the check reads.
  have turned (size : Nat) (wrapped : size = env.announced ring.contents % 2 ^ 16) :
      (if size < env.header.sizeofMsgHeader ∨ size > 65536 then ParseTurn.reject
        else if ring.getDataSize < size then .stop
        else if ¬ (ring.dequeue true size).2.returned = size then .reject
        else .packet (ring.dequeue true size).1 (ring.dequeue true size).2.copied) =
      match (if env.announced ring.contents < env.header.sizeofMsgHeader ∨
          65535 < env.announced ring.contents then Verdict.reject
        else if ring.getDataSize < env.announced ring.contents then .wait
        else .frame (env.announced ring.contents)) with
      | .wait => .stop
      | .reject => .reject
      | .frame length => .packet (ring.drained length) (ring.contents.take length) := by
    by_cases rejected : env.announced ring.contents < env.header.sizeofMsgHeader ∨
        65535 < env.announced ring.contents
    · have refused : size < env.header.sizeofMsgHeader := by omega
      simp [rejected, refused]
    · have same : size = env.announced ring.contents := by omega
      have accepted : ¬ (env.announced ring.contents < env.header.sizeofMsgHeader ∨
          env.announced ring.contents > 65536) := by omega
      rw [same]
      simp only [rejected, accepted, if_false]
      by_cases partly : ring.getDataSize < env.announced ring.contents
      · simp [partly]
      · simp only [partly, if_false, sound.dequeue_accepted allocated
          (show 0 < env.announced ring.contents by omega) (by omega), not_true]
  simp only [short, peeked, headerSize_take whole, if_false, ne_eq, not_true]
  apply turned
  cases mode : env.architectureType <;> simp only [Environment.announced, mode] <;> omega

theorem parseTurn_unallocated (ring : CRingBufferT) (sound : ring.Sound)
    (missing : ring.buffer = none) : parseTurn env ring = .stop := by
  have whole := env.header.holdsSize
  have empty := contents_length ring
  rw [sound.unallocated_contents missing, List.length_nil] at empty
  simp only [parseTurn]
  rw [if_pos (by omega)]

theorem parseTurn_classify {ring : CRingBufferT} (sound : ring.Sound) :
    parseTurn env ring =
      match env.framer.classify ring.contents with
      | .wait => .stop
      | .reject => .reject
      | .frame length => .packet (ring.drained length) (ring.contents.take length) := by
  cases missing : ring.buffer with
  | none =>
    have whole := env.header.holdsSize
    have waits : env.framer.classify [] = .wait := by
      have short : 0 < env.header.sizeofMsgHeader := by omega
      simp [Environment.framer, announce, short]
    rw [parseTurn_unallocated ring sound missing, sound.unallocated_contents missing, waits]
  | some memory => exact parseTurn_framer sound (by simp [missing])

theorem parseTurn_eq (mode : env.architectureType = .centralized) {ring : CRingBufferT}
    (sound : ring.Sound) (allocated : ring.buffer.isSome) :
    parseTurn env ring =
      match env.header.framer.classify ring.contents with
      | .wait => .stop
      | .reject => .reject
      | .frame length => .packet (ring.drained length) (ring.contents.take length) := by
  rw [parseTurn_framer sound allocated, env.framer_centralized mode]

theorem parseTurn_parses (mode : env.architectureType = .centralized) {ring rest : CRingBufferT}
    {bytes : List UInt8} (sound : ring.Sound) (turned : parseTurn env ring = .packet rest bytes) :
    env.header.framer.parse ring.contents =
      (env.header.framer.parse rest.contents).after [bytes] := by
  cases buffer : ring.buffer with
  | none =>
    rw [parseTurn_unallocated ring sound buffer] at turned
    cases turned
  | some memory =>
    have allocated : ring.buffer.isSome := by simp [buffer]
    rw [parseTurn_eq mode sound allocated] at turned
    split at turned
    · cases turned
    · cases turned
    · next length verdict =>
      cases turned
      have bound := (env.header.framer.fits verdict).2
      rw [contents_length] at bound
      obtain ⟨_, _, contents⟩ := sound.drained_spec allocated bound
      rw [parse_frame verdict, contents]
      rfl

def parsed (server : Server) (index : Index) (ring : CRingBufferT) (frames : List (List UInt8)) :
    Server :=
  { server.modify index (CSession.storeRecvQ ring) with
    eventQueue := server.eventQueue ++
      frames.map (⟨.received, (server.sessions index).sessionId, ·⟩) }

theorem parsed_nil (server : Server) (index : Index) :
    server.parsed index (server.sessions index).recvQ [] = server := by
  simp [parsed, modify, CSession.storeRecvQ]

theorem parsed_parsed (server : Server) (index : Index) (first second : CRingBufferT)
    (frames more : List (List UInt8)) :
    (server.parsed index first frames).parsed index second more =
      server.parsed index second (frames ++ more) := by
  simp [parsed, modify, CSession.storeRecvQ, Function.update_idem]

structure Parses (env : Environment) (server : Server) (index : Index) (ring : CRingBufferT)
    (next : Server) : Prop where
  sound : ring.Sound
  allocated : ring.buffer.isSome
  capacity : ring.capacity = (server.sessions index).recvQ.capacity
  stopped : ∀ rest, (env.header.framer.parse (server.sessions index).recvQ.contents).ending =
    .residue rest → ring.contents = rest ∧
      next = server.parsed index ring
        (env.header.framer.parse (server.sessions index).recvQ.contents).frames
  rejected : (env.header.framer.parse (server.sessions index).recvQ.contents).ending = .rejected →
    next = ((server.parsed index ring
      (env.header.framer.parse (server.sessions index).recvQ.contents).frames
        ).disconnectSessionInternal env index).1

theorem parseLoop_parses (mode : env.architectureType = .centralized) (turns : Nat)
    (server : Server) (index : Index) (sound : (server.sessions index).recvQ.Sound)
    (allocated : (server.sessions index).recvQ.buffer.isSome)
    (enough : (server.sessions index).recvQ.getDataSize < turns) :
    ∃ ring, Parses env server index ring (parseLoop env turns server index) := by
  induction turns generalizing server with
  | zero => omega
  | succ turns ih =>
    have turn := parseTurn_eq mode sound allocated
    rw [parseLoop]
    cases verdict : env.header.framer.classify (server.sessions index).recvQ.contents with
    | wait =>
      simp only [verdict] at turn
      rw [turn]
      refine ⟨_, sound, allocated, rfl, ?_, ?_⟩ <;> rw [parse_wait verdict]
      · rintro rest ending
        exact ⟨Ending.residue.inj ending, (parsed_nil server index).symm⟩
      · intro ending
        cases ending
    | reject =>
      simp only [verdict] at turn
      rw [turn]
      refine ⟨_, sound, allocated, rfl, ?_, ?_⟩ <;> rw [parse_reject verdict]
      · intro rest ending
        cases ending
      · intro _
        rw [parsed_nil]
    | frame length =>
      simp only [verdict] at turn
      have bound := env.header.framer.fits verdict
      rw [contents_length] at bound
      obtain ⟨kept, size, contents⟩ := sound.drained_spec allocated bound.2
      let next := server.parsed index ((server.sessions index).recvQ.drained length)
        [(server.sessions index).recvQ.contents.take length]
      have ringNext : (next.sessions index).recvQ = (server.sessions index).recvQ.drained length := by
        simp [next, parsed, CSession.storeRecvQ]
      have delivered : (server.modify index (CSession.storeRecvQ
          ((server.sessions index).recvQ.drained length))).deliverPacket env index
            ((server.sessions index).recvQ.contents.take length) = next := by
        simp [next, deliverPacket, mode, parsed, pushNetworkEvent, modify, CSession.storeRecvQ]
      obtain ⟨ring, later⟩ :=
        ih next (ringNext ▸ kept) (ringNext ▸ allocated) (by rw [ringNext, size]; omega)
      obtain ⟨ringSound, ringAllocated, ringCapacity, stopped, rejected⟩ := later
      rw [ringNext, contents] at stopped rejected
      rw [turn]
      simp only [delivered]
      refine ⟨ring, ringSound, ringAllocated, ?_, ?_, ?_⟩
      · rw [ringCapacity, ringNext]; rfl
      · rw [parse_frame verdict]
        intro rest ending
        obtain ⟨residue, final⟩ := stopped rest ending
        refine ⟨residue, final.trans ?_⟩
        rw [parsed_parsed, List.singleton_append]
      · rw [parse_frame verdict]
        intro ending
        rw [rejected ending, parsed_parsed, List.singleton_append]

theorem parsePackets_parses (mode : env.architectureType = .centralized) (server : Server)
    (index : Index) (sound : (server.sessions index).recvQ.Sound)
    (allocated : (server.sessions index).recvQ.buffer.isSome) :
    ∃ ring, Parses env server index ring (server.parsePackets env index) :=
  parseLoop_parses mode _ server index sound allocated (Nat.lt_succ_self _)

end Server

end MiniGames
