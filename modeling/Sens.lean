import Sens.Lib.Channels
import Sens.Lib.Custody
import Sens.Lib.Decode
import Sens.Lib.Runs
import Sens.Lib.Scan
import Sens.Lib.Separator
import Sens.Lib.Heap
import Sens.Lib.Menu
import Sens.Lib.Removal
import Sens.Lib.Trap
import Sens.Lib.Trim
import Sens.Lib.Regex
import Sens.Spec.Foundation
import Sens.Spec.Utilities
import Sens.Spec.Firestore
import Sens.Spec.Objects
import Sens.Spec.AddFeeling
import Sens.Spec.Cells
import Sens.Spec.Geocoder
import Sens.Spec.Home
import Sens.Spec.App
import Sens.Spec.SignUp
import Sens.Spec.Accounts
import Sens.Spec.System
import Sens.Spec.LocationSearch
import Sens.Purpose.Draft
import Sens.Purpose.Post
import Sens.Purpose.Profile
import Sens.Purpose.Reader
import Sens.Purpose.Session
import Sens.Purpose.Search
import Sens.Purpose.SignUp
import Sens.Purpose.Colour
import Sens.Purpose.Palette
import Sens.Purpose.Accounts
import Sens.Purpose.Address
import Sens.Purpose.Geocoder
import Sens.Proof.AddFeeling
import Sens.Proof.Home
import Sens.Proof.App
import Sens.Proof.Reader
import Sens.Proof.Stops
import Sens.Proof.Unseen
import Sens.Proof.World
import Sens.Proof.Interleaving
import Sens.Proof.Provenance
import Sens.Proof.Views
import Sens.Proof.Presses
import Sens.Proof.Lockout
import Sens.Proof.Map
import Sens.Proof.Session
import Sens.Proof.Testimonial
import Sens.Proof.Tags
import Sens.Proof.Ready
import Sens.Proof.SignUp
import Sens.Proof.Accounts
import Sens.Proof.Credentials
import Sens.Proof.Lifecycle
import Sens.Proof.Loss
import Sens.Proof.SignIn
import Sens.Proof.System
import Sens.Proof.Progress
import Sens.Proof.Colour
import Sens.Proof.Palette
import Sens.Proof.Address
import Sens.Proof.Geocoder
import Sens.Proof.Search
