import PlanarCrop.Settings.Reader
import PlanarCrop.Proofs.PlannedCropper
import PlanarCrop.Proofs.CaptureCrop
import PlanarCrop.Proofs.CaptureContract
import PlanarCrop.Proofs.PictureShift
import PlanarCrop.Proofs.BorderAbsence
import PlanarCrop.Proofs.MemoryRequests
import PlanarCrop.Proofs.ResolutionProduct
import PlanarCrop.Proofs.RunLog
import PlanarCrop.Proofs.RepeatedCrop
import PlanarCrop.Proofs.FrameDefects
import PlanarCrop.Proofs.SecondCall
import PlanarCrop.Proofs.MarginWarnings
import PlanarCrop.Proofs.QuarterTurn
import PlanarCrop.Proofs.WindowBounds
import PlanarCrop.Proofs.PlaneTiling
import PlanarCrop.Proofs.WindowShape
import PlanarCrop.Proofs.CompactTokens
import PlanarCrop.Proofs.LibraryRules
import PlanarCrop.Proofs.DeclaredRecords
import PlanarCrop.Proofs.SettingsText
