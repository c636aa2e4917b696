import Flipbook.Host.Easel
import Flipbook.Host.Recorder
import Flipbook.Session.Step
import Flipbook.Proofs.Raster.Coverage
import Flipbook.Proofs.Raster.Compositing
import Flipbook.Proofs.Raster.Painting
import Flipbook.Proofs.Raster.Cropping
import Flipbook.Proofs.Raster.Opacity
import Flipbook.Proofs.Geometry.Cells
import Flipbook.Proofs.Atlas.Indexing
import Flipbook.Proofs.Atlas.Tiling
import Flipbook.Proofs.Atlas.Walking
import Flipbook.Proofs.Atlas.Partition
import Flipbook.Proofs.Atlas.Winding
import Flipbook.Proofs.Playback.Timing
import Flipbook.Proofs.Number.Rounding
import Flipbook.Proofs.Host.Placing
import Flipbook.Proofs.Session.History
import Flipbook.Proofs.Session.Opacity
import Flipbook.Proofs.Session.Refusal
import Flipbook.Proofs.Atlas.Nesting
import Flipbook.Proofs.Raster.Sampling
import Flipbook.Proofs.Playback.Pacing
import Flipbook.Proofs.Geometry.Reading
import Flipbook.Proofs.Host.Copying
import Flipbook.Proofs.Session.Interchange
