import CryoController.Foundations.Transition
import CryoController.Foundations.Saturation
import CryoController.Foundations.Rounds
import CryoController.Foundations.Cadence
import CryoController.Foundations.Conversion
import CryoController.Foundations.Framing
import CryoController.Foundations.Latch
import CryoController.Foundations.LineTalk
import CryoController.Foundations.MovingAverage
import CryoController.Foundations.Rounding
import CryoController.Foundations.Numeral
import CryoController.Foundations.Decimal
import CryoController.Foundations.Printing
import CryoController.Foundations.WireFormat
import CryoController.PID
import CryoController.ControlDatabase
import CryoController.CryoControlSM
import CryoController.Actuation
import CryoController.Interlock
import CryoController.DriveBounds
import CryoController.StateDecision
import CryoController.TemperatureRanges
import CryoController.HandOver
import CryoController.ControllerSweep
import CryoController.Gains
import CryoController.ControlAction
import CryoController.DisconnectedRTD
import CryoController.OverTemperature
import CryoController.RateEstimate
import CryoController.UnsetMemory
import CryoController.FaultPublication
import CryoController.SharedRow
import CryoController.SerialDevice
import CryoController.LineReaders
import CryoController.LineFraming
import CryoController.BufferBounds
import CryoController.Cryocooler
import CryoController.CCDrone
import CryoController.CoolerSweep
import CryoController.PowerLimits
import CryoController.SwitchPacing
import CryoController.CryocoolerTalk
import CryoController.ReplyPairing
import CryoController.CryocoolerQueries
import CryoController.ShutdownHandshake
import CryoController.SRSPowerSupply
import CryoController.SRSReadings
import CryoController.SRSServer
import CryoController.LakeShore
import CryoController.LSHDrone
import CryoController.WatchdogLog
import CryoController.LSHReadings
import CryoController.HeaterPath
import CryoController.HeaterShutdown
import CryoController.CoolerPath
import CryoController.CCReadings
import CryoController.SerialSections
import CryoController.PIDCalls
import CryoController.Accumulator
import CryoController.TemperatureControl
import CryoController.LostContact
import CryoController.CoolerShutdown
import CryoController.CoolerFollows
import CryoController.SupplyPath
import CryoController.SupplyShutdown
import CryoController.HeaterAtRest
import CryoController.LateReplies
import CryoController.SerialTraffic
import CryoController.IntegralAction
import CryoController.Regulator
