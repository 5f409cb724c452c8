import LiveBroadcast.Utils.Bytes
import LiveBroadcast.Foundation.Segmentation
import LiveBroadcast.Codec.RtmpPack
import LiveBroadcast.Codec.RtmpCodec
import LiveBroadcast.Codec.PackDecoding
import LiveBroadcast.Codec.Chunking
import LiveBroadcast.Foundation.ChunkedTransfer
import LiveBroadcast.Foundation.Runs
import LiveBroadcast.Codec.FlvCodec
import LiveBroadcast.Codec.DeclaredLength
import LiveBroadcast.Network.Channel
import LiveBroadcast.Network.TcpConnection
import LiveBroadcast.Network.PendingOutput
import LiveBroadcast.Live.StreamRegistry
import LiveBroadcast.Utils.Format
import LiveBroadcast.Codec.RtmpManager
import LiveBroadcast.Codec.DataDecoding
import LiveBroadcast.Codec.PartialChunking
import LiveBroadcast.Codec.Delivery
import LiveBroadcast.Codec.RtmpReplies
import LiveBroadcast.Codec.Timestamps
import LiveBroadcast.Live.HttpPullConnection
import LiveBroadcast.Live.RtmpPushConnection
import LiveBroadcast.Live.ViewerStream
import LiveBroadcast.Live.Broadcast
import LiveBroadcast.Live.RtmpPushServer
import LiveBroadcast.Live.HeaderReadiness
import LiveBroadcast.Live.Authentication
import LiveBroadcast.Foundation.EarlyReturn
import LiveBroadcast.Codec.ChunkCalls
import LiveBroadcast.Live.HandshakeRoute
import LiveBroadcast.Live.HandshakeSegments
import LiveBroadcast.Live.AnnouncedChunkSize
import LiveBroadcast.Codec.StoredBody
import LiveBroadcast.Live.Timeline
import LiveBroadcast.Live.PublisherRuns
import LiveBroadcast.Live.MediaTypes
import LiveBroadcast.Live.CommandBodies
import LiveBroadcast.Live.Ownership
import LiveBroadcast.Live.TagOrder
import LiveBroadcast.Foundation.Amf0
import LiveBroadcast.Live.Credentials
import LiveBroadcast.Codec.ChunkStreams
import LiveBroadcast.Codec.Demultiplexing
import LiveBroadcast.Codec.ExtendedTimestamps
import LiveBroadcast.Codec.TimestampExtension
import LiveBroadcast.Codec.UnsetMembers
import LiveBroadcast.Live.Addresses
import LiveBroadcast.Utils.Buffer
import LiveBroadcast.Live.ReceiveBuffer
import LiveBroadcast.Network.Calls
import LiveBroadcast.Network.OutputOrder
import LiveBroadcast.Network.GracefulShutdown
import LiveBroadcast.Network.Ending
import LiveBroadcast.Live.PullServer
import LiveBroadcast.Live.AttachedOnce
import LiveBroadcast.Live.ClosedViewers
import LiveBroadcast.Foundation.Loops
import LiveBroadcast.Live.DecodingLoops
import LiveBroadcast.Codec.FirstHeaders
import LiveBroadcast.Live.HandshakeOrder
import LiveBroadcast.Live.RequestBytes
import LiveBroadcast.Utils.LoggerStream
import LiveBroadcast.Live.LogRecords
import LiveBroadcast.Live.LoggedServers
import LiveBroadcast.Utils.LoggerTime
import LiveBroadcast.Codec.FlvManager
import LiveBroadcast.Codec.ParsedTags
import LiveBroadcast.Utils.RawBuffer
import LiveBroadcast.Codec.FailedReads
import LiveBroadcast.Mysql.QueryResult
import LiveBroadcast.Mapper.UserMapper
import LiveBroadcast.Mysql.DbMysql
import LiveBroadcast.Mysql.HandleSafety
import LiveBroadcast.Foundation.LittleEndian
import LiveBroadcast.Codec.TimestampBytes
import LiveBroadcast.Foundation.Ledgers
import LiveBroadcast.Utils.BufferCalls
import LiveBroadcast.Utils.BufferQueues
import LiveBroadcast.Foundation.FairRounds
import LiveBroadcast.Live.Relay
import LiveBroadcast.Live.ThreadedBroadcast
import LiveBroadcast.Foundation.Refinement
import LiveBroadcast.Live.WholeServer
import LiveBroadcast.Foundation.ContentLength
import LiveBroadcast.Live.HttpServer
import LiveBroadcast.Thread.ThreadPool
import LiveBroadcast.Thread.PoolTasks
import LiveBroadcast.Thread.PoolMutex
import LiveBroadcast.Thread.PoolStop
import LiveBroadcast.Network.EventLoopThread
import LiveBroadcast.Network.LoopLifetime
import LiveBroadcast.Network.Epoll
import LiveBroadcast.Foundation.TaskQueue
import LiveBroadcast.Network.EventLoop
import LiveBroadcast.Network.TcpServer
import LiveBroadcast.Live.PendingSends
import LiveBroadcast.Live.CommandRoute
import LiveBroadcast.Live.HandshakeCompletion
import LiveBroadcast.Live.Publication
