import XAuto.Run
import XAuto.Lines
import XAuto.Paging
import XAuto.Window
import XAuto.Intervals
import XAuto.BitFields
import XAuto.Rotation
import XAuto.LogBuffer
import XAuto.LogQuery
import XAuto.LogFilter
import XAuto.LogSpec
import XAuto.LogHistory
import XAuto.LogRetention
import XAuto.LogPolling
import XAuto.LogReset
import XAuto.LogDrain
import XAuto.LogFaults
import XAuto.LogArithmetic
import XAuto.Effect
import XAuto.MsgPack
import XAuto.Registers
import XAuto.RegisterReply
import XAuto.Bridge
import XAuto.Handlers
import XAuto.Dispatch
import XAuto.Requests
import XAuto.HandlerRules
import XAuto.DecodedWords
import XAuto.FpuView
import XAuto.Answers
import XAuto.Calls
import XAuto.CallResults
import XAuto.CallSpecs
import XAuto.ServerThread
import XAuto.CallbackSafety
import XAuto.UninitialisedReads
import XAuto.DialogConfig
import XAuto.BlockLedger
import XAuto.SettingBuffers
import XAuto.SessionFiles
import XAuto.Conversations
import XAuto.RemoteCalls
import XAuto.RemoteSettings
import XAuto.RemoteMemory
import XAuto.Notices
import XAuto.Publications
import XAuto.PluginSystem
import XAuto.LogDelivery
import XAuto.Schedule
import XAuto.HookThreads
import XAuto.HookSafety
import XAuto.HookProgress
import XAuto.HookSequential
import XAuto.Host
import XAuto.HostSessions
import XAuto.DialogRuns
import XAuto.RemoteClients
import XAuto.Network
import XAuto.LogWords
