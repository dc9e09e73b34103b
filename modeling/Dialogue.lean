import Dialogue.Files.System
import Dialogue.Main
import Dialogue.Proofs.Dollar
import Dialogue.Proofs.Grammar
import Dialogue.Proofs.Reimport
import Dialogue.Proofs.Readback
import Dialogue.Proofs.Skeleton
import Dialogue.Proofs.Session
import Dialogue.Proofs.Composition
import Dialogue.Proofs.FileSystem
import Dialogue.Proofs.Jobs
import Dialogue.Proofs.Batch
import Dialogue.Proofs.Collect
import Dialogue.Proofs.Path
import Dialogue.Proofs.Rebuild
import Dialogue.Proofs.BatchExport
import Dialogue.Proofs.Lines
import Dialogue.Proofs.ImportFailure
import Dialogue.Proofs.Isolation
import Dialogue.Proofs.Extension
import Dialogue.Proofs.Independence
import Dialogue.Proofs.Walk
import Dialogue.Proofs.Utf8
import Dialogue.Proofs.Pattern
import Dialogue.Proofs.WellFormed
import Dialogue.Proofs.PathOrder
import Dialogue.Proofs.Child
import Dialogue.Proofs.Following
import Dialogue.Proofs.Folder
import Dialogue.Proofs.Report
import Dialogue.Proofs.Truncation
import Dialogue.Proofs.ArtifactGrammar
import Dialogue.Proofs.Noise
import Dialogue.Proofs.Listing
import Dialogue.Proofs.Effect
import Dialogue.Proofs.Shortcut
import Dialogue.Proofs.Tiling
import Dialogue.Proofs.Access
import Dialogue.Proofs.Concatenation
