import DualSenseMitm.Bluetooth.AclAccounting
import DualSenseMitm.Bluetooth.CommandDelivery
import DualSenseMitm.Runs.ChannelOpening
import DualSenseMitm.Runs.ConsolePairing
import DualSenseMitm.Runs.DeadLinks
import DualSenseMitm.Runs.InputOrder
import DualSenseMitm.Runs.LinkKeys
import DualSenseMitm.Runs.OutputReads
import DualSenseMitm.Runs.GetReports
import DualSenseMitm.Runs.OwnAnswers
import DualSenseMitm.Runs.OwnLinks
import DualSenseMitm.Runs.PagingOn
import DualSenseMitm.Runs.PlayLink
import DualSenseMitm.Runs.FeatureAnswers
import DualSenseMitm.Runs.FeatureWrites
import DualSenseMitm.Runs.OpaqueFrames
import DualSenseMitm.Runs.PayloadReads
import DualSenseMitm.Runs.PacketReads
import DualSenseMitm.Runs.Fragments
import DualSenseMitm.Runs.ClosedChannels
import DualSenseMitm.Runs.HeldReports
import DualSenseMitm.Runs.FreeBuffers
import DualSenseMitm.Bluetooth.AclCalls
import DualSenseMitm.Bluetooth.FrameRoundTrip
import DualSenseMitm.Bluetooth.FailedEvents
import DualSenseMitm.Input.PressLog
import DualSenseMitm.Input.EventRing
import DualSenseMitm.Input.LatestState
import DualSenseMitm.Runs.FrameSizes
import DualSenseMitm.Runs.SinglePage
import DualSenseMitm.Bluetooth.GapBuckets
import DualSenseMitm.Input.InputView
import DualSenseMitm.Bluetooth.ConfOptions
import DualSenseMitm.Bluetooth.CommandBundles
import DualSenseMitm.Runs.RequestIdents
import DualSenseMitm.Input.Restarts
import DualSenseMitm.Runs.OutputReports
import DualSenseMitm.Runs.ReportGaps
import DualSenseMitm.Runs.UsbInput
import DualSenseMitm.Runs.ServiceRecord
import DualSenseMitm.Runs.TwoLinks
import DualSenseMitm.Runs.ReportFormats
import DualSenseMitm.Runs.AskedAnswers
import DualSenseMitm.Main
import DualSenseMitm.Runs.Accounts
import DualSenseMitm.Runs.Cable
import DualSenseMitm.Runs.Feed
import DualSenseMitm.Runs.Transports
import DualSenseMitm.Runs.Sessions
import DualSenseMitm.Runs.Responses
import DualSenseMitm.Runs.HostAnswers
import DualSenseMitm.Runs.Provenance
