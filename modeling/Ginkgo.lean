import Ginkgo.CText.Terse
import Ginkgo.Transition.Run
import Ginkgo.Transition.Chase
import Ginkgo.Hud.Poll
import Ginkgo.Hud.Informs
import Ginkgo.Hud.Quiet
import Ginkgo.Hud.Handles
import Ginkgo.Hud.Contact
import Ginkgo.Join.Calls
import Ginkgo.Join.Refine
import Ginkgo.Join.Steps
import Ginkgo.Join.Spinner
import Ginkgo.Join.Arguments
import Ginkgo.Join.PasswordTarget
import Ginkgo.Join.PasswordOwner
import Ginkgo.Join.Security
import Ginkgo.CText.Decimal
import Ginkgo.Script.Arguments
import Ginkgo.Script.Nmcli
import Ginkgo.Script.Recognise
import Ginkgo.Reports.ScanList
import Ginkgo.Reports.DeviceList
import Ginkgo.Reports.DeviceStates
import Ginkgo.Reports.LinkReport
import Ginkgo.Reports.LinkValues
import Ginkgo.Reports.Signal
import Ginkgo.Reports.Confirm
import Ginkgo.Reports.Decoders
import Ginkgo.CText.Table
import Ginkgo.Reports.Bounds
import Ginkgo.Transition.Draft
import Ginkgo.Transition.Feed
import Ginkgo.Transition.Batch
import Ginkgo.Transition.Gauge
import Ginkgo.Touch.Aside
import Ginkgo.Touch.Stream
import Ginkgo.Touch.Slots
import Ginkgo.Touch.Gesture
import Ginkgo.Touch.Follow
import Ginkgo.Touch.Mirror
import Ginkgo.Touch.Landing
import Ginkgo.Touch.Swipe
import Ginkgo.Touch.Waking
import Ginkgo.Touch.Brightness
import Ginkgo.Touch.Timely
import Ginkgo.Touch.Batching
import Ginkgo.Touch.Scroll
import Ginkgo.Display.Panel
import Ginkgo.Display.Sleep
import Ginkgo.Display.Supplies
import Ginkgo.Raster.Shelf
import Ginkgo.Text.Font
import Ginkgo.Text.Utf8
import Ginkgo.Text.Draw
import Ginkgo.Text.Fit
import Ginkgo.Display.Atlas
import Ginkgo.Display.Batches
import Ginkgo.Display.RoundRect
import Ginkgo.Display.ListSheet
import Ginkgo.Display.CpuLoad
import Ginkgo.Display.HomeCard
import Ginkgo.Display.Gpu
import Ginkgo.Display.Ownership
import Ginkgo.Files.Tree
import Ginkgo.Overlay.Deploy
import Ginkgo.Overlay.Faithful
import Ginkgo.Overlay.SwitchRoot
import Ginkgo.Flow.View
import Ginkgo.Flow.Request
import Ginkgo.Flow.Effect
import Ginkgo.Flow.Connects
import Ginkgo.Flow.Exclusive
import Ginkgo.Flow.Concealed
import Ginkgo.Flow.FailedForget
import Ginkgo.Flow.ForgetSlot
import Ginkgo.Flow.Leftover
import Ginkgo.Flow.HeldOffline
import Ginkgo.Flow.HeldKey
import Ginkgo.Flow.Retries
import Ginkgo.Flow.JoinWait
import Ginkgo.Join.Typing
import Ginkgo.Script.Forget
import Ginkgo.Script.Waiting
import Ginkgo.Display.Backlight
import Ginkgo.Display.Governor
import Ginkgo.Text.Baked
import Ginkgo.Touch.Drain
import Ginkgo.Touch.Devices
import Ginkgo.Touch.Restart
import Ginkgo.Display.Fbdev
import Ginkgo.Display.NetSpeed
import Ginkgo.Supply.Battery
import Ginkgo.Text.Bake
