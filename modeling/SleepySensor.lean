import SleepySensor.Lib.Prog
import SleepySensor.Lib.Seqlock
import SleepySensor.Lib.Runs
import SleepySensor.Lib.History
import SleepySensor.Lib.Chunks
import SleepySensor.Lib.DropOldest
import SleepySensor.Lib.Acks
import SleepySensor.Lib.Ranking
import SleepySensor.Base
import SleepySensor.Cadence
import SleepySensor.Nvs
import SleepySensor.TxPower
import SleepySensor.TxPowerBoots
import SleepySensor.RuntimeConfig
import SleepySensor.CfgTopic
import SleepySensor.LiveConfig
import SleepySensor.LpRange
import SleepySensor.EchoExchange
import SleepySensor.ConfigAgreement
import SleepySensor.LpCore
import SleepySensor.LpTiming
import SleepySensor.Snapshot
import SleepySensor.LpCycles
import SleepySensor.SkipBudget
import SleepySensor.FlagMarks
import SleepySensor.Ota
import SleepySensor.OtaIntegrity
import SleepySensor.OtaSteps
import SleepySensor.RetryBudget
import SleepySensor.FreshImage
import SleepySensor.OtaArithmetic
import SleepySensor.Staging
import SleepySensor.KeptDownload
import SleepySensor.HistoryLog
import SleepySensor.HistoryQueue
import SleepySensor.Battery
import SleepySensor.MqttSender
import SleepySensor.SensorsTask
import SleepySensor.HpSystem
import SleepySensor.HpSteps
import SleepySensor.HpInvariant
import SleepySensor.AckSoundness
import SleepySensor.AckWindow
import SleepySensor.TxTrial
import SleepySensor.TxRetry
import SleepySensor.TxEvidence
import SleepySensor.TxRevert
import SleepySensor.ProvenImage
import SleepySensor.PinWindow
import SleepySensor.TxRadio
import SleepySensor.CadenceLimits
import SleepySensor.BatteryGate
import SleepySensor.FlaggedReading
import SleepySensor.SubscribeDecision
import SleepySensor.StallTiming
import SleepySensor.FlagService
import SleepySensor.HeaterSchedule
import SleepySensor.AckBaseline
import SleepySensor.Lib.FreshRead
import SleepySensor.FreshSnapshot
import SleepySensor.Lib.RoundedMean
import SleepySensor.ColdCalibration
import SleepySensor.IdleHandshake
import SleepySensor.BacklogRace
import SleepySensor.CycleReads
import SleepySensor.RealReadings
import SleepySensor.ManifestText
import SleepySensor.Lib.JsonObject
import SleepySensor.MqttTexts
import SleepySensor.BufferBounds
import SleepySensor.StatePayload
import SleepySensor.Lib.CharConv
import SleepySensor.Lib.FixedArray
import SleepySensor.Ipv4
import SleepySensor.DatasetTlvs
import SleepySensor.BatteryCurve
import SleepySensor.BootCadence
import SleepySensor.SubscribeWindow
import SleepySensor.PollWindows
import SleepySensor.HaHistory
import SleepySensor.AnchorMerge
import SleepySensor.Reconstruction
import SleepySensor.ExportLoad
import SleepySensor.Lib.LineSearch
import SleepySensor.SecretsText
import SleepySensor.SecretsAgreement
import SleepySensor.Lib.Interference
import SleepySensor.LiveChange
import SleepySensor.Lib.FixedWidth
import SleepySensor.Lib.Calendar
import SleepySensor.BrokerLog
import SleepySensor.BrokerDates
import SleepySensor.RtcRepro
import SleepySensor.ClockDrift
import SleepySensor.ClockCapture
import SleepySensor.ClientLifecycle
import SleepySensor.Lib.Latest
import SleepySensor.ThreadLink
import SleepySensor.CycleDeltas
import SleepySensor.Lib.Crc
import SleepySensor.SensorFrames
import SleepySensor.BootRecord
import SleepySensor.AdcLifecycle
import SleepySensor.WifiLink
import SleepySensor.PowerModel
import SleepySensor.Lib.LeastSquares
import SleepySensor.BatteryHistory
import SleepySensor.HaMetrics
import SleepySensor.StagedUpdate
import SleepySensor.Inbound
