import MiniGames.Shared.Runs
import MiniGames.Shared.Framing
import MiniGames.Network.RingRefinement
import MiniGames.Network.SessionInvariants
import MiniGames.Network.Incarnations
import MiniGames.Network.ReceiveWindow
import MiniGames.Network.ReceiveStream
import MiniGames.Network.ReceiveChunks
import MiniGames.Network.SendPath
import MiniGames.Network.SendThreads
import MiniGames.Network.SendIntegrity
import MiniGames.Network.SendWakeup
import MiniGames.Network.Threads
import MiniGames.Network.ReceiveTokens
import MiniGames.Network.SingleReceive
import MiniGames.Network.DisconnectEvents
import MiniGames.Network.SessionRings
import MiniGames.Network.SendConfinement
import MiniGames.Network.Handlers
import MiniGames.Network.Slots
import MiniGames.Network.Lifetime
import MiniGames.Network.Sockets
import MiniGames.Rooms.RegistryRuns
import MiniGames.Rooms.Requests
import MiniGames.Rooms.Messages
import MiniGames.Rooms.CentralizedServer
import MiniGames.Rooms.RegistryEffects
import MiniGames.Rooms.GameTurns
import MiniGames.Rooms.Population
import MiniGames.Rooms.Refusals
import MiniGames.Rooms.Decoding
import MiniGames.Rooms.RoomListing
import MiniGames.Client.ClientNetwork
import MiniGames.Client.Agreement
import MiniGames.Network.EventOrder
import MiniGames.Network.EventPayloads
import MiniGames.Network.ZeroCopy
import MiniGames.Network.SessionRuns
import MiniGames.Network.ReceiveRuns
import MiniGames.Network.EchoStream
import MiniGames.Client.Reading
import MiniGames.Client.RoomLists
import MiniGames.Rooms.Packets
import MiniGames.Client.Packets
import MiniGames.Network.LiveIds
import MiniGames.Rooms.Membership
import MiniGames.Network.Startup
import MiniGames.Network.RingSizes
import MiniGames.Client.ProtocolCopies
import MiniGames.Client.Connection
import MiniGames.Client.Creation
import MiniGames.Rooms.LobbyRefinement
import MiniGames.Client.Party
import MiniGames.Network.SessionSends
import MiniGames.Network.Uninterrupted
import MiniGames.Network.HandlerCosts
import MiniGames.Network.Shutdown
import MiniGames.Process.Conversation
import MiniGames.Process.Transport
import MiniGames.Process.EndToEnd
import MiniGames.Process.Answers
import MiniGames.Process.GameThread
import MiniGames.Process.Stopping
