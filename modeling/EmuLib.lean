import EmuLib.AlctController.SettingsRoundTrip
import EmuLib.Base.FactFinder
import EmuLib.ChamberUtilities.AlctPhases
import EmuLib.ChamberUtilities.CableDelay
import EmuLib.ChamberUtilities.CfebPhases
import EmuLib.ChamberUtilities.CfebTiming
import EmuLib.ChamberUtilities.HalfStrips
import EmuLib.ChamberUtilities.SpecialRegion
import EmuLib.ChamberUtilities.WindowSearch
import EmuLib.DaqManager.AppStates
import EmuLib.DaqManager.CrashReports
import EmuLib.DaqManager.WatchdogRuns
import EmuLib.Daqmb.Buckeye
import EmuLib.Daqmb.BuckeyeFlash
import EmuLib.Daqmb.CfebCheck
import EmuLib.Daqmb.EpromReadback
import EmuLib.Daqmb.FirmwareFile
import EmuLib.DaqmbJtag.JtagAccess
import EmuLib.FastDaq.Checksums
import EmuLib.FastDaq.UnpackedEvents
import EmuLib.Fed.BoardRegisters
import EmuLib.Fed.FmmDecision
import EmuLib.Fed.InputMasks
import EmuLib.Fed.IrqThreadsEnd
import EmuLib.Fed.LockBalance
import EmuLib.Fed.PromWords
import EmuLib.Fed.RegisterTransfer
import EmuLib.Fed.RepeatedErrors
import EmuLib.Fed.ResetBarrier
import EmuLib.Fed.VmeLock
import EmuLib.Fu.HeaderLifetime
import EmuLib.Fu.Reassembly
import EmuLib.Jtag.UserPromFile
import EmuLib.Jtag.XsvfAgreement
import EmuLib.Jtag.XsvfPlayer
import EmuLib.LevelOne.ErrorsWin
import EmuLib.LevelOne.TtsTests
import EmuLib.Lib.Checksums
import EmuLib.Reader.FileBuffer
import EmuLib.Reader.FileProgress
import EmuLib.Reader.MissingPackets
import EmuLib.Reader.Padding
import EmuLib.Reader.RingLimits
import EmuLib.Rui.BadEventContext
import EmuLib.Rui.EventCounting
import EmuLib.Rui.EventNumbers
import EmuLib.Rui.EventQueue
import EmuLib.Rui.Inspection
import EmuLib.Rui.RunFile
import EmuLib.Rui.SuperFragments
import EmuLib.Semaphore.Discipline
import EmuLib.Server.Backlog
import EmuLib.Server.Counters
import EmuLib.Server.EventDelivery
import EmuLib.Server.MessageFrames
import EmuLib.Soap.RoundTrip
import EmuLib.Step.Balance
import EmuLib.Step.DataCompleteness
import EmuLib.Step.StoppedTests
import EmuLib.Step.TestRuns
import EmuLib.Supervisor.StateTable
import EmuLib.Svf.Verification
import EmuLib.Ta.Credits
import EmuLib.Tmb.Checksum
import EmuLib.Tmb.ConfigurationCheck
import EmuLib.Vme.McsRecords
import EmuLib.VmeController.JtagScans
import EmuLib.VmeController.Recovery
import EmuLib.VmeController.ShiftCommands
import EmuLib.VmeDriver.ReplyQueue
import EmuLib.Writer.RateLimiter
import EmuLib.X2p.PowerCommands
