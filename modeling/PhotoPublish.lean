import PhotoPublish.Albums.CheckList
import PhotoPublish.Albums.Drain
import PhotoPublish.Albums.Offers
import PhotoPublish.Backlink.Basic
import PhotoPublish.Backlink.Conversion
import PhotoPublish.Backlink.Summary
import PhotoPublish.Calendar.Date
import PhotoPublish.Calendar.Display
import PhotoPublish.Calendar.Format
import PhotoPublish.Calendar.IsoDate
import PhotoPublish.Calendar.Parts
import PhotoPublish.Calendar.Timestamp
import PhotoPublish.Calendar.Zone
import PhotoPublish.Collection.Default
import PhotoPublish.Collection.Folder
import PhotoPublish.Collection.Lineage
import PhotoPublish.Config.Basic
import PhotoPublish.Config.Load
import PhotoPublish.Config.Order
import PhotoPublish.Failure
import PhotoPublish.Keyword
import PhotoPublish.Log
import PhotoPublish.Number.Binary64
import PhotoPublish.Number.Numeral
import PhotoPublish.Number.Reading
import PhotoPublish.Number.Shortest
import PhotoPublish.Path.Extension
import PhotoPublish.Path.Relative
import PhotoPublish.Path.Segments
import PhotoPublish.Pattern.CharClass
import PhotoPublish.Pattern.CharacterName
import PhotoPublish.Pattern.Match
import PhotoPublish.Pattern.Reader
import PhotoPublish.Pattern.Syntax
import PhotoPublish.Photo.Basic
import PhotoPublish.Photo.CaptureDate
import PhotoPublish.Progress
import PhotoPublish.Template.Arguments
import PhotoPublish.Template.Basic
import PhotoPublish.Template.Placeholder
import PhotoPublish.Template.Snapshot
import PhotoPublish.Template.Substitution
import PhotoPublish.Text.Alphanumeric
import PhotoPublish.Text.Basic
import PhotoPublish.Text.Blank
import PhotoPublish.Text.Case
import PhotoPublish.Text.CaseTables
import PhotoPublish.Text.CodeRanges
import PhotoPublish.Text.Digit
import PhotoPublish.Text.Identifier
import PhotoPublish.Text.Printable
import PhotoPublish.Text.Quoted
import PhotoPublish.Transaction
import PhotoPublish.Upload.Batch
import PhotoPublish.Upload.Destination
import PhotoPublish.Value
import PhotoPublish.Yaml.Cursor
import PhotoPublish.Yaml.Document
import PhotoPublish.Yaml.Node
import PhotoPublish.Yaml.Scalar
import PhotoPublish.Yaml.Tag
import PhotoPublish.Yaml.Token
import PhotoPublish.Proofs.Template.Token
import PhotoPublish.Proofs.Template.Scan
import PhotoPublish.Proofs.Path.Segments
import PhotoPublish.Proofs.Photo.CaptureDate
import PhotoPublish.Proofs.Template.Evaluation
import PhotoPublish.Proofs.Template.Keeping
import PhotoPublish.Proofs.Template.Matching
import PhotoPublish.Proofs.Albums.CheckList
import PhotoPublish.Proofs.Number.Reading
import PhotoPublish.Proofs.Template.Failing
import PhotoPublish.Proofs.Template.Junction
import PhotoPublish.Proofs.Albums.Drain
import PhotoPublish.Proofs.Backlink.Recognition
import PhotoPublish.Proofs.Backlink.Photo
import PhotoPublish.Proofs.Backlink.Accounts
import PhotoPublish.Proofs.Backlink.Breaking
import PhotoPublish.Proofs.Backlink.Course
import PhotoPublish.Proofs.Backlink.Turns
import PhotoPublish.Proofs.Backlink.Coverage
import PhotoPublish.Proofs.Backlink.Resumption
import PhotoPublish.Proofs.Backlink.Interruption
import PhotoPublish.Proofs.Backlink.Batch
import PhotoPublish.Proofs.Path.Separators
import PhotoPublish.Proofs.Calendar.Separators
import PhotoPublish.Proofs.Template.Filename
import PhotoPublish.Proofs.Template.Calls
import PhotoPublish.Proofs.Number.Numeral
import PhotoPublish.Proofs.Number.Binary64
import PhotoPublish.Proofs.Calendar.Date
import PhotoPublish.Proofs.Calendar.LocalTime
import PhotoPublish.Proofs.Calendar.IsoDate
import PhotoPublish.Proofs.Template.RecordedDate
import PhotoPublish.Proofs.Path.Extension
import PhotoPublish.Proofs.Upload.Extension
import PhotoPublish.Proofs.Path.Tidy
import PhotoPublish.Proofs.Calendar.Slashed
import PhotoPublish.Proofs.Template.Tidy
import PhotoPublish.Proofs.Template.Alike
import PhotoPublish.Proofs.Collection.Path
import PhotoPublish.Proofs.Collection.UploadPath
import PhotoPublish.Proofs.Keyword.Addition
import PhotoPublish.Proofs.Collection.Order
import PhotoPublish.Proofs.Backlink.Visits
import PhotoPublish.Proofs.Config.Loading
import PhotoPublish.Proofs.Keyword.Runs
import PhotoPublish.Proofs.Text.Run
import PhotoPublish.Proofs.Template.Grammar
import PhotoPublish.Proofs.Template.Arguments
import PhotoPublish.Proofs.Template.Extraction
import PhotoPublish.Proofs.Template.Collection
import PhotoPublish.Proofs.Template.Origin
import PhotoPublish.Proofs.Template.Level
import PhotoPublish.Proofs.Pattern.Arguments
import PhotoPublish.Proofs.Calendar.Margins
import PhotoPublish.Proofs.Calendar.Denotation
import PhotoPublish.Proofs.Photo.DateText
import PhotoPublish.Proofs.Calendar.ZonedDate
import PhotoPublish.Proofs.Photo.Precedence
import PhotoPublish.Proofs.Upload.FlatName
import PhotoPublish.Proofs.Keyword.Removal
import PhotoPublish.Proofs.Albums.PhotoAlbum
import PhotoPublish.Proofs.Path.Relative
import PhotoPublish.Proofs.Upload.SourceTree
import PhotoPublish.Proofs.Upload.CopyName
import PhotoPublish.Proofs.Path.NormalForm
import PhotoPublish.Proofs.Config.Entries
import PhotoPublish.Proofs.Config.Completion
