import VioGpu.Device.StartupRuns
import VioGpu.Device.CommitRuns
import VioGpu.Device.IdrRuns
import VioGpu.Device.CursorRuns
import VioGpu.Device.BackingRuns
import VioGpu.Device.HostRuns
import VioGpu.Device.PresentHost
import VioGpu.Device.CommitFailure
import VioGpu.Device.CustomMode
import VioGpu.Device.QueueUseRuns
import VioGpu.VirtIO.SessionRuns
import VioGpu.Queue.Exhaustion
import VioGpu.Device.InterruptRuns
import VioGpu.Device.PciResourcesRuns
import VioGpu.Device.Features
import VioGpu.Device.VgaMapping
import VioGpu.Device.ObjectReads
import VioGpu.Device.RotationRuns
import VioGpu.Device.ObjectLife
import VioGpu.Device.AttachBacking
import VioGpu.Device.BlitPaths
import VioGpu.Device.EnumVidPnChanges
import VioGpu.Device.CommitAnswers
import VioGpu.Device.DisplayInfo
import VioGpu.VirtIO.Refinement
import VioGpu.VirtIO.NotificationRuns
import VioGpu.VirtIO.FindQueuesRuns
import VioGpu.VirtIO.CapabilityWalk
import VioGpu.VirtIO.ModernInitRuns
import VioGpu.VirtIO.CapabilityList
import VioGpu.VirtIO.NotifyAddress
import VioGpu.VirtIO.RingCreation
import VioGpu.VirtIO.ConfigRead
import VioGpu.Device.BarIndex
import VioGpu.Device.Centering
import VioGpu.Device.CursorBlit
import VioGpu.Device.VgaModeCount
import VioGpu.Device.VideoModeInfo
import VioGpu.Transport.Life
import VioGpu.Transport.LegacyQueues
import VioGpu.VirtIO.UsedEventRuns
import VioGpu.Device.ScreenRuns
import VioGpu.Device.HotPlugRuns
import VioGpu.Device.DisplayAnswer
