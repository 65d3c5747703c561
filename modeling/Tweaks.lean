import Tweaks.Assembly.Standard
import Tweaks.Main
import Tweaks.Proofs.CallGraph
import Tweaks.Proofs.Knowing
import Tweaks.Proofs.Memo
import Tweaks.Proofs.Machine
import Tweaks.Proofs.Failure
import Tweaks.Proofs.Outcome
import Tweaks.Proofs.Scope
import Tweaks.Proofs.Origin
import Tweaks.Proofs.Flattening
import Tweaks.Proofs.Skeleton
import Tweaks.Proofs.Verbatim
import Tweaks.Proofs.Safety
import Tweaks.Proofs.Nesting
import Tweaks.Proofs.Pointing
import Tweaks.Proofs.Acceptance
import Tweaks.Proofs.Buildable
import Tweaks.Proofs.Listing
import Tweaks.Proofs.Opening
import Tweaks.Proofs.Marking
import Tweaks.Proofs.Checking
import Tweaks.Proofs.Executing
import Tweaks.Proofs.Emitting
import Tweaks.Proofs.Covering
import Tweaks.Proofs.Inlining
import Tweaks.Proofs.Parsing
import Tweaks.Proofs.Showing
import Tweaks.Proofs.Quoting
import Tweaks.Proofs.Globals
import Tweaks.Proofs.Referring
import Tweaks.Proofs.Stacking
import Tweaks.Proofs.Naming
import Tweaks.Proofs.Omission
import Tweaks.Proofs.Trimming
import Tweaks.Proofs.LineEndings
import Tweaks.Proofs.Settling
import Tweaks.Proofs.Banners
import Tweaks.Proofs.Traversing
import Tweaks.Proofs.Relocating
import Tweaks.Proofs.Turning
