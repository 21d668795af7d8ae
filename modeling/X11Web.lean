import X11Web.Atoms
import X11Web.BitGravity
import X11Web.Bresenham
import X11Web.BrowserBridge
import X11Web.CaptureOrder
import X11Web.ChunkChannel
import X11Web.ClipSelection
import X11Web.ClipboardTransfers
import X11Web.ColorCells
import X11Web.ColorProbe
import X11Web.ConfigureSizes
import X11Web.Confinement
import X11Web.ControlChannel
import X11Web.DamageDrains
import X11Web.DamageSubtract
import X11Web.DeferredRequests
import X11Web.DestroyTraces
import X11Web.EffectiveClips
import X11Web.EventFields
import X11Web.ExplicitGrabs
import X11Web.ExposeCounts
import X11Web.FocusPaths
import X11Web.FrozenEvents
import X11Web.GrabCrossings
import X11Web.IncrTransfers
import X11Web.LateFrontend
import X11Web.Maximise
import X11Web.MenuLabels
import X11Web.PassiveGrabs
import X11Web.PcfSafety
import X11Web.PixelReplay
import X11Web.PremultipliedAlpha
import X11Web.PresentPixmap
import X11Web.PropertyAppend
import X11Web.Reconnection
import X11Web.RecordedRuns
import X11Web.SaveSet
import X11Web.SeatFocus
import X11Web.SegmentFrames
import X11Web.Segmentation
import X11Web.SelectionClears
import X11Web.ServerTime
import X11Web.SetupReply
import X11Web.ShapeRequests
import X11Web.SharedImages
import X11Web.SidecarBridge
import X11Web.SidecarCleanup
import X11Web.StackingOrder
import X11Web.StalePixels
import X11Web.SyncKick
import X11Web.TextRendering
import X11Web.Visibility
import X11Web.WaylandKeys
import X11Web.WindowLifecycle
import X11Web.WindowMirror
import X11Web.WorkArea
import X11Web.WorkspaceSync
import X11Web.XcMisc
import X11Web.XimPreedit
import X11Web.XkbModifiers
