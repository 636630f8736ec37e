import ComponentReference.CommandLine.Run
import ComponentReference.Config.Load
import ComponentReference.Document.OfJson
import ComponentReference.Json.Printer
import ComponentReference.Json.Reader
import ComponentReference.Main
import ComponentReference.Page.Index
import ComponentReference.Machine.Shell.Launch
import ComponentReference.Site.Parser
import ComponentReference.Site.Run
import ComponentReference.Proofs.Site.Accounting
import ComponentReference.Proofs.Site.Containment
import ComponentReference.Proofs.Site.Rerun
import ComponentReference.Proofs.Json.RoundTrip
import ComponentReference.Proofs.Document.RoundTrip
import ComponentReference.Proofs.Text.Utf8
import ComponentReference.Proofs.Config.Failing
import ComponentReference.Proofs.Config.Reloading
import ComponentReference.Proofs.Page.Agreement
import ComponentReference.Proofs.SideBySide
import ComponentReference.Proofs.Site.Skipping
import ComponentReference.Proofs.CommandLine.Exits
import ComponentReference.Proofs.Host.Joined
import ComponentReference.Proofs.Site.Ordering
import ComponentReference.Proofs.Page.Escaping
import ComponentReference.Proofs.Page.Markup
import ComponentReference.Proofs.Page.Rows
import ComponentReference.Proofs.Site.Linking
import ComponentReference.Proofs.Site.Extracting
import ComponentReference.Proofs.Page.TypeText
import ComponentReference.Proofs.Config.Merging
import ComponentReference.Proofs.CommandLine.Verbosity
import ComponentReference.Proofs.Document.Overriding
import ComponentReference.Proofs.Document.Cleaning
import ComponentReference.Proofs.Site.Finding
import ComponentReference.Proofs.Host.NormalForm
import ComponentReference.Proofs.Page.Headings
import ComponentReference.Proofs.Page.Fences
import ComponentReference.Proofs.Page.CodeSpan
import ComponentReference.Proofs.Page.IndexLayout
import ComponentReference.Proofs.CommandLine.AnyOrder
import ComponentReference.Proofs.Site.Telling
