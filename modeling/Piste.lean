import Piste.Host.Installed
import Piste.Host.Sink
import Piste.Main
import Piste.Proofs.Diagram.LabelRow
import Piste.Proofs.Diagram.BusRows
import Piste.Proofs.Diagram.Solvable
import Piste.Proofs.Diagram.Shift
import Piste.Proofs.Diagram.Anchoring
import Piste.Proofs.Diagram.SingleBus
import Piste.Proofs.Diagram.Order
import Piste.Proofs.Diagram.Superseded
import Piste.Proofs.Diagram.Admissible
import Piste.Proofs.Diagram.Words
import Piste.Proofs.Diagram.StrokeLog
import Piste.Proofs.Command.Render
import Piste.Proofs.Firmware.ByteArray
import Piste.Proofs.Firmware.LineNormal
import Piste.Proofs.LayoutFile.Distances
import Piste.Proofs.LayoutFile.Selection
import Piste.Proofs.LayoutFile.Spelling
import Piste.Proofs.LayoutFile.Validation
import Piste.Proofs.Host.Watched
import Piste.Proofs.Firmware.Embedding
import Piste.Proofs.Firmware.Packaging
import Piste.Proofs.Firmware.History
import Piste.Proofs.Command.ReadBack
import Piste.Proofs.Report
import Piste.Proofs.Command.Positions
