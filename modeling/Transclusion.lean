import Transclusion.Main
import Transclusion.Proofs.Text.Search
import Transclusion.Web.Server
import Transclusion.Proofs.Catalogue.Seam
import Transclusion.Proofs.Template.Evaluation
import Transclusion.Proofs.Publication
import Transclusion.Proofs.Site.Containment
import Transclusion.Proofs.Inspection
import Transclusion.Proofs.Web.Serving
import Transclusion.Proofs.Republication
import Transclusion.Proofs.Text.Bytes
import Transclusion.Proofs.Markup.Scan
import Transclusion.Proofs.Catalogue.Independence
import Transclusion.Proofs.Session.Course
import Transclusion.Proofs.Session.Upkeep
import Transclusion.Proofs.Catalogue.Keys
import Transclusion.Proofs.Catalogue.Rendering
import Transclusion.Proofs.Catalogue.Reload
import Transclusion.Proofs.Catalogue.Circle
import Transclusion.Proofs.Template.Cutting
import Transclusion.Proofs.Template.Nesting
import Transclusion.Proofs.Template.Tidying
import Transclusion.Proofs.Template.Joining
import Transclusion.Proofs.Site.Placeholder
import Transclusion.Proofs.Request.Parameters
import Transclusion.Proofs.Renaming
import Transclusion.Proofs.Markup.Renamed
import Transclusion.Proofs.Defaults.Listing
import Transclusion.Proofs.Defaults.Merging
import Transclusion.Proofs.Defaults.Sharing
