import IotgoFirmware.Library.LoopRules
import IotgoFirmware.Library.StepRuns
import IotgoFirmware.Library.StreamFraming
import IotgoFirmware.Library.CStrings
import IotgoFirmware.Library.CollectingReads
import IotgoFirmware.Library.SlotTables
import IotgoFirmware.Receive.SproEvents
import IotgoFirmware.Receive.WebsocketReassembly
import IotgoFirmware.Receive.WebsocketOverflow
import IotgoFirmware.Receive.HttpProgress
import IotgoFirmware.Receive.BufferInvariant
import IotgoFirmware.Receive.HttpReassembly
import IotgoFirmware.Receive.PackageTimer
import IotgoFirmware.Receive.ConnectionReuse
import IotgoFirmware.Receive.FrameDispatch
import IotgoFirmware.Library.StopAndWait
import IotgoFirmware.Send.SendQueue
import IotgoFirmware.Send.SendJson
import IotgoFirmware.Send.SendProtocol
import IotgoFirmware.Send.SendHead
import IotgoFirmware.Send.SendWakeup
import IotgoFirmware.Mcu.TcQueue
import IotgoFirmware.Mcu.TcStall
import IotgoFirmware.Mcu.TcDelivery
import IotgoFirmware.Library.NorFlash
import IotgoFirmware.Library.TwoSlotStore
import IotgoFirmware.Storage.FlashParam
import IotgoFirmware.Library.ByteCodecs
import IotgoFirmware.Timers.TimerLayout
import IotgoFirmware.Timers.TimerFlash
import IotgoFirmware.Timers.TimerClock
import IotgoFirmware.Timers.TimerRequests
import IotgoFirmware.Library.SlotMaps
import IotgoFirmware.Timers.TimerMap
import IotgoFirmware.Timers.TimerRuns
import IotgoFirmware.Library.RingQueues
import IotgoFirmware.Uart.U2artSchedule
import IotgoFirmware.Uart.U2artQueue
import IotgoFirmware.Uart.FrameDecode
import IotgoFirmware.Uart.FrameRecovery
import IotgoFirmware.Uart.PreambleSearch
import IotgoFirmware.Upgrade.UpgradeSession
import IotgoFirmware.Upgrade.UpgradeSteps
import IotgoFirmware.Upgrade.UpgradeRegion
import IotgoFirmware.Upgrade.UpgradePlacement
import IotgoFirmware.Upgrade.UpgradeRecord
import IotgoFirmware.Upgrade.UpgradeLifetime
import IotgoFirmware.Core.PkgScan
import IotgoFirmware.Core.PkgNesting
import IotgoFirmware.Core.CoreTask
import IotgoFirmware.Library.TraceLaws
import IotgoFirmware.Core.CoreSteps
import IotgoFirmware.Core.Registration
import IotgoFirmware.Core.OwnerRequests
import IotgoFirmware.Core.SettingMode
import IotgoFirmware.Setting.SettingServer
import IotgoFirmware.Setting.ServerBuffers
import IotgoFirmware.Core.Heartbeat
import IotgoFirmware.Library.CJsonItems
import IotgoFirmware.Mcu.FlowControl
import IotgoFirmware.Timers.TimerTicks
import IotgoFirmware.Core.DistorResults
import IotgoFirmware.Library.CFaults
import IotgoFirmware.Send.SendBudget
import IotgoFirmware.Timers.TimerJson
import IotgoFirmware.Timers.TimerProc
import IotgoFirmware.Timers.TimerAccess
import IotgoFirmware.Timers.TimerBuffers
import IotgoFirmware.Timers.TimerReplies
import IotgoFirmware.Timers.TimerQueries
import IotgoFirmware.Mcu.SwitchCallbacks
import IotgoFirmware.Mcu.CmdDispatch
import IotgoFirmware.Mcu.TimerTraffic
import IotgoFirmware.Library.ReflectedCrc
import IotgoFirmware.Uart.Crc32
import IotgoFirmware.Uart.SerialRing
import IotgoFirmware.Uart.PayloadReader
import IotgoFirmware.Uart.FrameEncoders
import IotgoFirmware.Library.LinkedLists
import IotgoFirmware.Mcu.HeapQueues
import IotgoFirmware.Library.GregorianClock
import IotgoFirmware.Library.PeriodicEvents
import IotgoFirmware.Timers.TimerCalendar
import IotgoFirmware.Timers.TimerMonitor
import IotgoFirmware.Timers.DurationTimers
import IotgoFirmware.Library.GregorianDays
import IotgoFirmware.Timers.TimerSeconds
import IotgoFirmware.Timers.ClockAdvance
import IotgoFirmware.Timers.WeekDays
import IotgoFirmware.Timers.TimerOrigins
import IotgoFirmware.Timers.TimeObjects
import IotgoFirmware.Timers.TimerOffers
import IotgoFirmware.Timers.TimerReadings
import IotgoFirmware.Timers.TimersAlone
import IotgoFirmware.Timers.TimerArrays
import IotgoFirmware.Timers.WholeTimers
import IotgoFirmware.Timers.TimerUpdates
import IotgoFirmware.Timers.IntervalGuards
import IotgoFirmware.Library.JsonGrammar
import IotgoFirmware.Mcu.TimerActions
import IotgoFirmware.Upgrade.UpgradeVerify
import IotgoFirmware.Upgrade.DownloadUrl
import IotgoFirmware.Library.WebsocketFrames
import IotgoFirmware.Send.NetworkFrames
import IotgoFirmware.Timers.CronGrammar
import IotgoFirmware.Timers.GmtGrammar
import IotgoFirmware.Factory.MacTexts
import IotgoFirmware.Device.KeyDebounce
import IotgoFirmware.Library.WalkDeletes
import IotgoFirmware.Mcu.PrivateFields
import IotgoFirmware.Mcu.TimerCommands
import IotgoFirmware.Core.PingPeriod
import IotgoFirmware.Library.LineBuffers
import IotgoFirmware.Library.CheckedRuns
import IotgoFirmware.Factory.TestLines
import IotgoFirmware.Factory.LineReaders
import IotgoFirmware.Library.CJsonTrees
import IotgoFirmware.Library.Doubles
import IotgoFirmware.Json.StringTexts
import IotgoFirmware.Json.StringSafety
import IotgoFirmware.Json.ItemPrinting
import IotgoFirmware.Json.ItemParsing
import IotgoFirmware.Json.ParseSafety
import IotgoFirmware.Json.RoundTrips
import IotgoFirmware.Json.PrintedGrammar
import IotgoFirmware.Json.UnicodeTexts
import IotgoFirmware.Timers.TimerTexts
import IotgoFirmware.Library.BlockStreams
import IotgoFirmware.Upgrade.Sha256
import IotgoFirmware.Upgrade.NewBinCheck
import IotgoFirmware.Library.DurableStores
import IotgoFirmware.Device.SwitchMemory
import IotgoFirmware.Device.SwitchRestarts
import IotgoFirmware.Upgrade.UpgradeRequest
import IotgoFirmware.Upgrade.UpgradeOffers
import IotgoFirmware.Upgrade.UpgradeImages
import IotgoFirmware.Upgrade.UpgradeRestarts
import IotgoFirmware.Uart.FrameStreams
import IotgoFirmware.Library.SharedFlash
import IotgoFirmware.Storage.FlashCipher
import IotgoFirmware.Storage.FlashLayout
import IotgoFirmware.Storage.FlashSharing
import IotgoFirmware.Core.RssiReports
import IotgoFirmware.Core.ModeMonitor
import IotgoFirmware.Device.ModeIndicator
import IotgoFirmware.Mcu.McuRestarts
import IotgoFirmware.Mcu.WatchDog
