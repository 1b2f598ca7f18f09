import Bistro.Backend.Probe
import Bistro.Backend.Script
import Bistro.Main
import Bistro.Proofs.Escape
import Bistro.Proofs.Flow
import Bistro.Proofs.Run
import Bistro.Proofs.Report
import Bistro.Proofs.Markup
import Bistro.Proofs.PageMarkup
import Bistro.Proofs.PageTags
import Bistro.Proofs.WriteFirst
import Bistro.Proofs.ReviewForms
import Bistro.Proofs.Details
import Bistro.Proofs.Posting
import Bistro.Proofs.Routes
import Bistro.Proofs.Reload
import Bistro.Proofs.PageForms
import Bistro.Proofs.Printed
import Bistro.Proofs.RoundTrip
import Bistro.Proofs.FormNumbers
import Bistro.Proofs.ReadBack
import Bistro.Proofs.Results
import Bistro.Proofs.LogEntries
import Bistro.Proofs.Selected
import Bistro.Proofs.Grants
import Bistro.Proofs.Grammar
import Bistro.Proofs.Scanning
import Bistro.Proofs.Skipping
import Bistro.Proofs.Decoding
import Bistro.Proofs.Models
import Bistro.Proofs.Joining
