import DataConcentrator.Lib.BitSet
import DataConcentrator.Lib.ByteStore
import DataConcentrator.Lib.CLoop
import DataConcentrator.Lib.InPlaceReverse
import DataConcentrator.Lib.Reassembly
import DataConcentrator.Lib.ReflectedCrc
import DataConcentrator.Common.Crc
import DataConcentrator.Common.Bytes
import DataConcentrator.Common.Text
import DataConcentrator.Common.Strstr
import DataConcentrator.Eeprom.AddressMap
import DataConcentrator.Eeprom.Config
import DataConcentrator.Eeprom.NonInterference
import DataConcentrator.Eeprom.Indexed
import DataConcentrator.Protocol.Escape
import DataConcentrator.Protocol.ServerFrame
import DataConcentrator.Protocol.RoundTrip
import DataConcentrator.Protocol.ParameterLoops
import DataConcentrator.Protocol.Fragments
import DataConcentrator.Protocol.Stream
import DataConcentrator.Protocol.Dispatch
import DataConcentrator.Protocol.Receive
import DataConcentrator.Firmware.Download
import DataConcentrator.Firmware.Safety
import DataConcentrator.Firmware.ImageCrc
import DataConcentrator.Plc.Task
import DataConcentrator.Plc.UserFrame
import DataConcentrator.Plc.Execute
import DataConcentrator.Lib.IndexScan
import DataConcentrator.Plc.Run
import DataConcentrator.Plc.GroupRun
import DataConcentrator.Plc.BottomFrame
import DataConcentrator.Plc.Receive
import DataConcentrator.Plc.Send
import DataConcentrator.Plc.AllLamps
import DataConcentrator.Plc.SceneSync
import DataConcentrator.Plc.ConfigSync
import DataConcentrator.Plc.FirmwareUpdate
import DataConcentrator.Plc.StrategySync
import DataConcentrator.Plc.Control
import DataConcentrator.Common.Print
import DataConcentrator.Lamp.GroupCount
import DataConcentrator.Lamp.StrategyText
import DataConcentrator.Lamp.Query
import DataConcentrator.Relay.GroupSelect
import DataConcentrator.Relay.StrategyOrder
import DataConcentrator.Relay.InForce
import DataConcentrator.Relay.Collect
import DataConcentrator.Relay.ForceOff
import DataConcentrator.Relay.Lifecycle
import DataConcentrator.InputCollector.Alarms
import DataConcentrator.ElectricityMeter.Readings
import DataConcentrator.Report.AlarmReport
import DataConcentrator.Report.AlarmState
import DataConcentrator.AlarmConfig.OwnValues
import DataConcentrator.Memory.Fifo
import DataConcentrator.Lib.Walk
import DataConcentrator.Modem.Demultiplex
import DataConcentrator.Lib.Batching
import DataConcentrator.History.Upload
import DataConcentrator.Lib.TextScan
import DataConcentrator.Concentrator.Location
import DataConcentrator.Relay.ActionTime
import DataConcentrator.Relay.YearTable
import DataConcentrator.Common.Reader
import DataConcentrator.Common.Hex
import DataConcentrator.Common.Itoa
import DataConcentrator.Scene.Text
import DataConcentrator.Scene.Appointments
import DataConcentrator.Relay.AppointmentText
import DataConcentrator.Relay.StrategyText
import DataConcentrator.Relay.UpdateFrame
import DataConcentrator.Relay.LoopCommand
import DataConcentrator.Relay.GroupCommand
import DataConcentrator.Lamp.AppointmentText
import DataConcentrator.Lamp.ConfigText
import DataConcentrator.Lib.Gregorian
import DataConcentrator.History.Retention
import DataConcentrator.Lib.WhileLoop
import DataConcentrator.Clock.Rx8010s
import DataConcentrator.Lib.SerialEeprom
import DataConcentrator.Eeprom.Cat25x
import DataConcentrator.Eeprom.RunMode
import DataConcentrator.Concentrator.ServerAddress
import DataConcentrator.Eeprom.ResetRecord
import DataConcentrator.Lib.Debounce
import DataConcentrator.Report.TaskAlarm
import DataConcentrator.Report.ConfirmTime
import DataConcentrator.Relay.BasicConfig
import DataConcentrator.Common.Bounds
import DataConcentrator.Protocol.TextBounds
import DataConcentrator.Lib.FirstMatch
import DataConcentrator.Lib.BubbleSort
import DataConcentrator.Lib.EachIndex
import DataConcentrator.Lib.DayBook
import DataConcentrator.Lumeter.Frame
import DataConcentrator.Lumeter.Average
import DataConcentrator.Lumeter.Query
import DataConcentrator.Lumeter.Threshold
import DataConcentrator.Lumeter.Unchanged
import DataConcentrator.ElectricityMeter.Frame
import DataConcentrator.ElectricityMeter.Threshold
import DataConcentrator.BuiltOut.StatusFrame
import DataConcentrator.Report.StateChanges
import DataConcentrator.Report.ChannelCounts
import DataConcentrator.History.Store
import DataConcentrator.History.DayFiles
import DataConcentrator.ElectricityMeter.BuiltIn
import DataConcentrator.Plc.StopRequest
import DataConcentrator.Lamp.AlarmText
import DataConcentrator.Lamp.StateReport
import DataConcentrator.Concentrator.FrontPanel
import DataConcentrator.Common.Entries
import DataConcentrator.Lib.Puts
import DataConcentrator.Lumeter.AlarmText
import DataConcentrator.Lumeter.NoResponse
import DataConcentrator.ElectricityMeter.AlarmText
import DataConcentrator.InputCollector.AlarmText
import DataConcentrator.Modem.AtWait
import DataConcentrator.Modem.Fragments
import DataConcentrator.Lamp.NumList
import DataConcentrator.Lib.RetryTimer
import DataConcentrator.Lamp.OtaDialogue
import DataConcentrator.Protocol.Link
import DataConcentrator.Clock.Synchronize
import DataConcentrator.Rs485.Collect
import DataConcentrator.Rs485.Prompt
import DataConcentrator.Rs485.Bridge
import DataConcentrator.Modem.Connection
import DataConcentrator.Clock.NetTime
