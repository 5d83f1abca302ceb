import Robofw.Soundness.EncoderDisplacement
import Robofw.Soundness.EncoderOverflow
import Robofw.Soundness.EncoderTiming
import Robofw.Soundness.EncoderTracking
import Robofw.Soundness.MailboxDelivery
import Robofw.Soundness.MotionLimit
import Robofw.Soundness.PidAntiWindup
import Robofw.Soundness.RcDeadline
import Robofw.Soundness.RcWatchdog
import Robofw.Soundness.RccarCommand
import Robofw.Soundness.RccarReplay
import Robofw.Soundness.RccarStartup
import Robofw.Soundness.RccarStop
import Robofw.Soundness.RccarThrottle
import Robofw.Soundness.ReceiverFailsafe
import Robofw.Soundness.SbusChannels
import Robofw.Soundness.SbusResync
import Robofw.Soundness.SbusWakeup
import Robofw.Soundness.TbotArbitration
import Robofw.Soundness.TbotCommand
import Robofw.Soundness.TbotDecoding
import Robofw.Soundness.TbotEcho
import Robofw.Soundness.TbotEstop
import Robofw.Soundness.TbotFreshness
import Robofw.Soundness.TbotInitialised
import Robofw.Soundness.TbotLayout
import Robofw.Soundness.TbotOverflow
import Robofw.Soundness.TbotPacing
import Robofw.Soundness.TbotPipeline
import Robofw.Soundness.TbotProgress
import Robofw.Soundness.TbotRefinement
import Robofw.Soundness.TbotReports
import Robofw.Soundness.TbotSilence
import Robofw.Soundness.TbotStandstill
import Robofw.Soundness.TbotStartup
import Robofw.Soundness.TbotStop
import Robofw.Soundness.TbotSurge
import Robofw.Soundness.TbotWheels
import Robofw.Soundness.UartDelivery
import Robofw.Soundness.UartProgress
import Robofw.Soundness.UartRefinement
import Robofw.Soundness.VescEncoding
import Robofw.Soundness.VescParser
import Robofw.Soundness.VescSend
