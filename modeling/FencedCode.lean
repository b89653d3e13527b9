import FencedCode.Editor.Widget
import FencedCode.Language.Offset
import FencedCode.Main
import FencedCode.Proofs.Editor.Saving
import FencedCode.Proofs.Fence.RoundTrip
import FencedCode.Proofs.Language.Segmentation
import FencedCode.Proofs.Markup.Decoding
import FencedCode.Proofs.Editor.View
import FencedCode.Proofs.Registry.Lookup
import FencedCode.Proofs.Registry.Extension
import FencedCode.Proofs.TypeErasure.Deletion
import FencedCode.Proofs.Execution.Outcome
import FencedCode.Proofs.Editor.Panel
import FencedCode.Proofs.Editor.Choice
import FencedCode.Proofs.Editor.Reopening
import FencedCode.Proofs.Language.Resumption
import FencedCode.Proofs.Pattern.Completeness
import FencedCode.Proofs.Json.Recognition
import FencedCode.Proofs.Language.Dialects
import FencedCode.Proofs.Terminal.Display
import FencedCode.Proofs.TypeErasure.Parameters
import FencedCode.Proofs.Language.Literals
import FencedCode.Proofs.CommandLine.Outcome
import FencedCode.Proofs.Text.Lines
import FencedCode.Proofs.TypeErasure.Declarations
import FencedCode.Proofs.Language.Headings
import FencedCode.Proofs.Language.Dimensions
import FencedCode.Proofs.Fence.Unfenced
import FencedCode.Proofs.Editor.Delivery
import FencedCode.Proofs.Language.Entries
import FencedCode.Proofs.Language.Words
import FencedCode.Proofs.Settings.Fields
import FencedCode.Proofs.Language.Slices
import FencedCode.Proofs.Settings.Height
import FencedCode.Proofs.Script.Reporting
import FencedCode.Proofs.Script.Quoting
import FencedCode.Proofs.Script.Sorting
import FencedCode.Proofs.Script.Properties
