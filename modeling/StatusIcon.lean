import StatusIcon.Bitmap
import StatusIcon.Binary.Decimal
import StatusIcon.Text.Blank
import StatusIcon.Json.Reader
import StatusIcon.Json.Skip
import StatusIcon.Json.Shape
import StatusIcon.Json.Printer
import StatusIcon.Base64
import StatusIcon.Deflate.Zlib
import StatusIcon.Png.Chunk
import StatusIcon.Png.Scanline
import StatusIcon.Png.Sample
import StatusIcon.Png.Interlace
import StatusIcon.Png.Reader
import StatusIcon.Png.Writer
import StatusIcon.Netpbm.Reader
import StatusIcon.Netpbm.Writer
import StatusIcon.Farbfeld
import StatusIcon.Folder.Basic
import StatusIcon.Image.Format
import StatusIcon.Image.Library
import StatusIcon.Icon.Error
import StatusIcon.Icon.Text
import StatusIcon.Silhouette.Filter
import StatusIcon.Grayscale.Basic
import StatusIcon.Override.MemoryStore
import StatusIcon.Override.FileStore
import StatusIcon.Fixer.Basic
import StatusIcon.CommandLine.Run
import StatusIcon.Main
import StatusIcon.Proofs.Base64.Groups
import StatusIcon.Proofs.Deflate.Stored
import StatusIcon.Proofs.Png.Chunk
import StatusIcon.Proofs.Png.Scanline
import StatusIcon.Proofs.Png.RoundTrip
import StatusIcon.Proofs.Base64.Lenient
import StatusIcon.Proofs.Icon.RoundTrip
import StatusIcon.Proofs.Silhouette.Scan
import StatusIcon.Proofs.Silhouette.Pixels
import StatusIcon.Proofs.Grayscale.Copy
import StatusIcon.Proofs.Grayscale.Grey
import StatusIcon.Proofs.Silhouette.Projection
import StatusIcon.Proofs.Fixer.Steps
import StatusIcon.Proofs.Silhouette.Edges
import StatusIcon.Proofs.Fixer.Settling
import StatusIcon.Proofs.Fixer.Fallback
import StatusIcon.Proofs.Silhouette.Visibility
import StatusIcon.Proofs.Override.History
import StatusIcon.Proofs.Json.Grammar
import StatusIcon.Proofs.Json.Strings
import StatusIcon.Proofs.Json.Numbers
import StatusIcon.Proofs.Json.Skipping
import StatusIcon.Proofs.Json.Reading
import StatusIcon.Proofs.Json.Records
import StatusIcon.Proofs.Json.Writing
import StatusIcon.Proofs.Override.Records
import StatusIcon.Proofs.Override.Refinement
import StatusIcon.Proofs.Binary.Rounding
import StatusIcon.Proofs.Json.Numerals
import StatusIcon.Proofs.Json.Scalars
import StatusIcon.Proofs.Binary.Shortest
import StatusIcon.Proofs.Json.Decimals
import StatusIcon.Proofs.Fixer.Texts
import StatusIcon.Proofs.Fixer.Overlay
import StatusIcon.Proofs.Json.Printed
import StatusIcon.Proofs.Fixer.Printing
import StatusIcon.Proofs.Fixer.Lookup
import StatusIcon.Proofs.Fixer.Frame
import StatusIcon.Proofs.Fixer.Notes
import StatusIcon.Proofs.Silhouette.Ratio
import StatusIcon.Proofs.Fixer.Settings
import StatusIcon.Proofs.Image.Sizes
import StatusIcon.Proofs.Icon.Rewriting
import StatusIcon.Proofs.Folder.Writing
import StatusIcon.Proofs.Fixer.Files
import StatusIcon.Proofs.CommandLine.Fixing
import StatusIcon.Proofs.CommandLine.Failing
import StatusIcon.Proofs.Silhouette.Profile
import StatusIcon.Proofs.Binary.Values
import StatusIcon.Proofs.Silhouette.Threshold
import StatusIcon.Proofs.Silhouette.Darkening
import StatusIcon.Proofs.Silhouette.Averaging
import StatusIcon.Proofs.Silhouette.Plate
import StatusIcon.Proofs.Grayscale.Channels
import StatusIcon.Proofs.Grayscale.Emptiness
import StatusIcon.Proofs.Fixer.Tolerance
import StatusIcon.Proofs.Base64.Acceptance
import StatusIcon.Proofs.Base64.Bits
import StatusIcon.Proofs.Icon.Acceptance
import StatusIcon.Proofs.Override.Uri
import StatusIcon.Proofs.Override.Rows
