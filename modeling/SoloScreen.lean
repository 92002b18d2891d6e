import SoloScreen.Main
import SoloScreen.Proofs.Configuration
import SoloScreen.Proofs.Ownership
import SoloScreen.Proofs.Settling
import SoloScreen.Proofs.Status
import SoloScreen.Proofs.RestorePolicy
import SoloScreen.Proofs.Notices
import SoloScreen.Proofs.Revival
import SoloScreen.Proofs.PollingLoop
import SoloScreen.Proofs.DetectorRun
import SoloScreen.Proofs.EventProtocol
import SoloScreen.Proofs.FirstSighting
import SoloScreen.Proofs.LostFocus
import SoloScreen.Proofs.Episode
import SoloScreen.Proofs.Sweep
import SoloScreen.Proofs.Pass
import SoloScreen.Proofs.KnownNames
import SoloScreen.Proofs.Search
import SoloScreen.Proofs.LetterCase
import SoloScreen.Proofs.Naming
import SoloScreen.Proofs.Acceptance
import SoloScreen.Proofs.Canonical
import SoloScreen.Proofs.FileNames
import SoloScreen.Proofs.Overlap
import SoloScreen.Proofs.Loading
import SoloScreen.Proofs.Delivery
import SoloScreen.Proofs.Rectangles
import SoloScreen.Proofs.WatchList
