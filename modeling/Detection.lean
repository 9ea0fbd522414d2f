import Detection.Number.Line
import Detection.Settings.Lines
import Detection.Settings.Classes
import Detection.Labels
import Detection.Picture.Mapping
import Detection.Tensor
import Detection.Yolo.Decoder
import Detection.FasterRcnn.Decoder
import Detection.Ctpn.Linking
import Detection.Detector
import Detection.Json.Reading
import Detection.Json.Writing
import Detection.Address
import Detection.Settings.Json
import Detection.Recording.Text
import Detection.Settings.File
import Detection.Run.Job
import Detection.Machine
import Detection.Main
import Detection.Proofs.Calendar
import Detection.Proofs.Ctpn.Forest
import Detection.Proofs.Box.Clipping
import Detection.Proofs.Ctpn.Components
import Detection.Proofs.FasterRcnn.Thresholds
import Detection.Proofs.Yolo.Grids
import Detection.Proofs.Number.Truncation
import Detection.Proofs.Tensor
import Detection.Proofs.FasterRcnn.Regions
import Detection.Proofs.FasterRcnn.Classes
import Detection.Proofs.FasterRcnn.Outputs
import Detection.Proofs.Number.Rank
import Detection.Proofs.Box.Filtering
import Detection.Proofs.Ctpn.Rounds
import Detection.Proofs.Yolo.Candidates
import Detection.Proofs.Yolo.CommonThreshold
import Detection.Proofs.Number.Missing
import Detection.Proofs.Settings.Ranges
import Detection.Proofs.Ctpn.Survivors
import Detection.Proofs.Box.Ties
import Detection.Proofs.Box.Removal
import Detection.Proofs.Box.Symmetry
import Detection.Proofs.Yolo.Order
import Detection.Proofs.Faults
import Detection.Proofs.Yolo.Reads
import Detection.Proofs.FasterRcnn.Addresses
import Detection.Proofs.FasterRcnn.Padding
import Detection.Proofs.Ctpn.Alignment
import Detection.Proofs.Number.Scaling
import Detection.Proofs.Picture.Landing
import Detection.Proofs.Picture.Dropping
import Detection.Proofs.Ctpn.Rivals
import Detection.Proofs.Ctpn.Numbering
import Detection.Proofs.Yolo.ShortCut
import Detection.Proofs.Number.Intervals
import Detection.Proofs.Yolo.Extremes
import Detection.Proofs.ClassChoice
import Detection.Proofs.Number.Logarithm
import Detection.Proofs.Yolo.Pyramid
import Detection.Proofs.Yolo.EmptyGrids
import Detection.Proofs.Box.Repetition
import Detection.Proofs.Number.Error
import Detection.Proofs.Box.Duplicates
import Detection.Proofs.Number.Wide
import Detection.Proofs.Number.LevelLine
import Detection.Proofs.Ctpn.TextLines
import Detection.Proofs.Settings.Lines
import Detection.Proofs.Settings.Lists
import Detection.Proofs.Recording.Frames
import Detection.Proofs.Recording.Integers
import Detection.Proofs.Run.Calls
import Detection.Proofs.Run.Folder
import Detection.Proofs.Run.Jobs
import Detection.Proofs.Number.Exact
import Detection.Proofs.Picture.RoundTrip
import Detection.Proofs.Ctpn.Strips
import Detection.Proofs.Number.LeastSquares
