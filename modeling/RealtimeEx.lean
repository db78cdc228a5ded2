import RealtimeEx.Support.Transition
import RealtimeEx.Support.Publication
import RealtimeEx.Support.Codec
import RealtimeEx.Support.Crc
import RealtimeEx.Support.LeftmostPieces
import RealtimeEx.Support.Ring
import RealtimeEx.Support.Transducer
import RealtimeEx.Support.Framing
import RealtimeEx.Support.LinkLists
import RealtimeEx.Support.DoublyLinked
import RealtimeEx.Support.BlockHash
import RealtimeEx.Support.StdContainers
import RealtimeEx.Support.Grouping
import RealtimeEx.Support.Lexer
import RealtimeEx.Support.Schedule
import RealtimeEx.Support.History
import RealtimeEx.Support.InverseTables
import RealtimeEx.Support.IndexTable
import RealtimeEx.Support.Search
import RealtimeEx.Support.MemoryReader
import RealtimeEx.Support.Monitor
import RealtimeEx.Base.Base64
import RealtimeEx.Base.BufFile
import RealtimeEx.Base.CircleQueue
import RealtimeEx.Base.Crc32
import RealtimeEx.Base.Encryptor
import RealtimeEx.Base.ReadBuf
import RealtimeEx.Base.TickerMgr
import RealtimeEx.Base.TokenParser
import RealtimeEx.Base.Utf8
import RealtimeEx.Base.CsvParser
import RealtimeEx.Base.StringUtil
import RealtimeEx.Base.StringReplace
import RealtimeEx.Base.RwLock
import RealtimeEx.Base.Sha1
import RealtimeEx.Base.Link
import RealtimeEx.Base.StringFormat
import RealtimeEx.Base.TickerMgrInvariant
import RealtimeEx.Base.TickerMgrSchedule
import RealtimeEx.Base.TickerMgrContext
import RealtimeEx.Core.LogicMessageQueue
import RealtimeEx.Core.LogicMessageQueueInvariant
import RealtimeEx.Core.LogicMessageQueueProtocol
import RealtimeEx.Core.CoreConnection
import RealtimeEx.Core.Transporter
import RealtimeEx.Core.NetRunnable
import RealtimeEx.Core.HttpRequest
import RealtimeEx.Core.HttpRequestBounds
import RealtimeEx.Core.HttpRequestExact
import RealtimeEx.Core.WebsocketFrame
import RealtimeEx.Core.WebsocketRoundTrip
import RealtimeEx.Core.CoreWebsocketConnection
import RealtimeEx.Core.WebsocketAcceptKey
import RealtimeEx.Core.WebsocketReceiveLoop
import RealtimeEx.Core.CondemnedConnection
import RealtimeEx.Core.HandshakeSplit
import RealtimeEx.Core.CoreConnectionRecv
import RealtimeEx.Network.NetConnecter
import RealtimeEx.Core.NodeLink
import RealtimeEx.Core.NodeLinkDelivery
import RealtimeEx.Core.ProtoSystem
import RealtimeEx.Core.ProtoSystemRoundTrip
import RealtimeEx.Core.NativeMessage
import RealtimeEx.Core.NativeMessageRoundTrip
import RealtimeEx.Core.GlobalServiceRegistryProxy
import RealtimeEx.Core.GlobalServiceRegistryProxyConsistent
import RealtimeEx.Core.GlobalServiceRegistryProxyChanges
import RealtimeEx.Core.GlobalServiceRegistryProxyActive
import RealtimeEx.Core.RoundRobinServiceSelector
import RealtimeEx.Master.ServiceRegistry
import RealtimeEx.Master.ServiceRegistryIndex
import RealtimeEx.Master.Cluster
import RealtimeEx.Master.ClusterLivePeers
import RealtimeEx.Master.ConnectionFromNode
import RealtimeEx.Master.ServiceRegistryConnect
import RealtimeEx.Gate.GateClientMessageDispatcher
import RealtimeEx.Gate.GateClientSession
import RealtimeEx.Gate.GateClientSessionTables
import RealtimeEx.Gate.GateClientSessionSteps
import RealtimeEx.Gate.GateClientSessionInverse
import RealtimeEx.Gate.GateClientSessionLogin
import RealtimeEx.Gate.GateClientSessionAssigned
import RealtimeEx.Gate.GateClientSessionHalfOpen
import RealtimeEx.Gate.GateBroadcast
import RealtimeEx.Gate.ClientBroadcast
import RealtimeEx.Core.PendingResponse
import RealtimeEx.Core.PendingResponseInvariant
import RealtimeEx.Core.PendingResponseDiscipline
import RealtimeEx.Db.Protobuf
import RealtimeEx.Db.DbConnection
import RealtimeEx.Db.DbCommandHandler
import RealtimeEx.Db.DbServiceMessageHandler
import RealtimeEx.Db.DbThread
import RealtimeEx.Db.DbThreadQueue
import RealtimeEx.Db.DbThreadOwnership
import RealtimeEx.Db.LostConnection
import RealtimeEx.Db.Database
import RealtimeEx.Db.DbThreadMgr
import RealtimeEx.Db.DbThreadMgrRun
import RealtimeEx.Db.DbThreadMgrOrder
import RealtimeEx.Db.DbCache
import RealtimeEx.Db.MessageText
import RealtimeEx.Db.DbCacheMgr
import RealtimeEx.Db.DbCacheFlush
import RealtimeEx.Db.DbThreadMgrExit
import RealtimeEx.Db.DbThreadMgrDrain
import RealtimeEx.Network.NetConnecterProgress
import RealtimeEx.Network.NetConnecterSend
import RealtimeEx.Network.NetConnecterCallbacks
import RealtimeEx.Network.SendList
import RealtimeEx.Network.PendingOutput
import RealtimeEx.Network.EventLoop
import RealtimeEx.Core.TransporterLocal
import RealtimeEx.Core.CoreConnectionDispatch
import RealtimeEx.Core.DispatchInFrame
import RealtimeEx.Core.DispatchFrameSafe
import RealtimeEx.Core.DeliveryPaths
import RealtimeEx.Core.Coroutine
import RealtimeEx.Core.CoroutineIdentity
import RealtimeEx.Core.BroadcastPacking
import RealtimeEx.Core.CallbackLifetime
import RealtimeEx.Core.CallbackOutlives
import RealtimeEx.Core.Future
import RealtimeEx.Core.FutureInvariant
import RealtimeEx.Core.FutureChain
import RealtimeEx.Core.FutureWait
import RealtimeEx.Core.WhenAll
import RealtimeEx.Core.DeliveryAgreement
import RealtimeEx.Core.CoreConnectionLifetime
import RealtimeEx.Core.CoreConnectionLifetimeInvariant
import RealtimeEx.Core.CoreConnectionIndex
import RealtimeEx.Support.OpenClose
import RealtimeEx.Core.BaseConnectionOtherNode
import RealtimeEx.Core.BaseConnectionOtherNodeTable
import RealtimeEx.Core.BaseConnectionOtherNodeNotices
import RealtimeEx.Core.NodePair
import RealtimeEx.Core.NodePairNotices
import RealtimeEx.Core.LinkArbitration
import RealtimeEx.Core.LinkArbitrationSurvivor
import RealtimeEx.Core.BaseConnectionOtherNodeStanding
import RealtimeEx.Core.NodePairLinks
import RealtimeEx.Core.NodePairSteps
import RealtimeEx.Core.NodePairAgreement
import RealtimeEx.Core.LocalServiceRegistryProxy
import RealtimeEx.UserCenter.UserInfo
import RealtimeEx.UserCenter.UserInfoAssignment
import RealtimeEx.UserCenter.UserInfoTimeout
import RealtimeEx.Game.Player
import RealtimeEx.Game.PlayerInvariant
import RealtimeEx.Game.PlayerStaleGate
import RealtimeEx.Game.PlayerAttributeArithmetic
import RealtimeEx.Game.PlayerItemCount
import RealtimeEx.Game.EventDispatcher
import RealtimeEx.Game.PlayerBackup
import RealtimeEx.Game.PlayerLoad
import RealtimeEx.Support.ReadFront
import RealtimeEx.Db.NumberText
import RealtimeEx.Game.PlayerAttributeModule
import RealtimeEx.Game.PlayerHeroMessageHandler
import RealtimeEx.Game.PlayerItemModule
import RealtimeEx.Game.PlayerItemFormat
import RealtimeEx.Dispatch.ValidateLogin
import RealtimeEx.Dispatch.ValidateLoginAccount
import RealtimeEx.Dispatch.ValidateLoginAnswer
import RealtimeEx.Dispatch.ValidateLoginLive
import RealtimeEx.Login.LoginClientMessageHandler
import RealtimeEx.Login.LoginAnswer
import RealtimeEx.Core.SyncInvokeResumable
import RealtimeEx.Core.HolderIndex
import RealtimeEx.Core.FixMemoryPool
import RealtimeEx.Base.TickerMgrReturns
import RealtimeEx.Base.TickerMgrDispatch
import RealtimeEx.Core.WebsocketFrameBounds
import RealtimeEx.Db.Placeholder
import RealtimeEx.Db.SqlText
import RealtimeEx.Db.RecordsetFields
import RealtimeEx.Db.MessageRoundTrip
import RealtimeEx.Db.DbCacheFailure
import RealtimeEx.Db.DbCacheSizesExact
import RealtimeEx.Db.DbCacheKept
import RealtimeEx.Master.NodeAnnouncement
