import Phrasebook.Book.Basic
import Phrasebook.Book.Flaw
import Phrasebook.Book.Position
import Phrasebook.Book.Reader
import Phrasebook.Book.Rekey
import Phrasebook.Book.Update
import Phrasebook.Book.Writer
import Phrasebook.Build.Basic
import Phrasebook.Build.Edit
import Phrasebook.Build.Element
import Phrasebook.CommandLine.Call
import Phrasebook.CommandLine.Option
import Phrasebook.CommandLine.Report
import Phrasebook.Difference.Block
import Phrasebook.Difference.Unified
import Phrasebook.Disk.Basic
import Phrasebook.Disk.Path
import Phrasebook.Disk.Specifier
import Phrasebook.Exchange.Document
import Phrasebook.Exchange.Export
import Phrasebook.Exchange.Import
import Phrasebook.Exchange.Markup
import Phrasebook.Exchange.Slot
import Phrasebook.Exchange.Validation
import Phrasebook.Json.Literal
import Phrasebook.Json.Reader
import Phrasebook.Json.Writer
import Phrasebook.Main
import Phrasebook.Markup.Cursor
import Phrasebook.Markup.Element
import Phrasebook.Markup.Grammar
import Phrasebook.Markup.Kind
import Phrasebook.Markup.Lexeme
import Phrasebook.Markup.Literal
import Phrasebook.Markup.Measure
import Phrasebook.Markup.Pattern
import Phrasebook.Markup.Script
import Phrasebook.Markup.Site
import Phrasebook.Markup.Tree
import Phrasebook.Number.Double
import Phrasebook.Number.Numeral
import Phrasebook.Number.Shortest
import Phrasebook.Phrase.Basic
import Phrasebook.Phrase.Dependency
import Phrasebook.Phrase.Extraction
import Phrasebook.Phrase.Key
import Phrasebook.Phrase.Normal
import Phrasebook.Phrase.Usage
import Phrasebook.Place
import Phrasebook.PlaceStore
import Phrasebook.Project.Basic
import Phrasebook.Project.Build
import Phrasebook.Project.Exchange
import Phrasebook.Project.Failure
import Phrasebook.Project.Log
import Phrasebook.Project.Observation
import Phrasebook.Project.Revision
import Phrasebook.Project.Start
import Phrasebook.Scan.Basic
import Phrasebook.Scan.Glob
import Phrasebook.Scan.Ignore
import Phrasebook.Settings.Basic
import Phrasebook.Settings.Reader
import Phrasebook.Starter
import Phrasebook.Text.Base64
import Phrasebook.Text.Cased
import Phrasebook.Text.Digit
import Phrasebook.Text.Half
import Phrasebook.Text.Lines
import Phrasebook.Text.Lowercase
import Phrasebook.Text.Printable
import Phrasebook.Text.Quoted
import Phrasebook.Text.Reference
import Phrasebook.Text.ReferenceNames
import Phrasebook.Text.Replace
import Phrasebook.Text.Sha256
import Phrasebook.Text.Source
import Phrasebook.Text.Space
import Phrasebook.Text.Stride
import Phrasebook.Text.Uppercase
import Phrasebook.Value
import Phrasebook.Yaml.Content
import Phrasebook.Yaml.Cursor
import Phrasebook.Yaml.Date
import Phrasebook.Yaml.Node
import Phrasebook.Yaml.Scalar
import Phrasebook.Yaml.Tag
import Phrasebook.Yaml.Token
import Phrasebook.Proofs.Addressing
import Phrasebook.Proofs.Between
import Phrasebook.Proofs.Brackets
import Phrasebook.Proofs.BuiltBook
import Phrasebook.Proofs.Capture
import Phrasebook.Proofs.Characters
import Phrasebook.Proofs.Closure
import Phrasebook.Proofs.CommonBlocks
import Phrasebook.Proofs.Confinement
import Phrasebook.Proofs.Conversion
import Phrasebook.Proofs.Coverage
import Phrasebook.Proofs.Dependencies
import Phrasebook.Proofs.Difference
import Phrasebook.Proofs.DocumentText
import Phrasebook.Proofs.Draft
import Phrasebook.Proofs.DraftKey
import Phrasebook.Proofs.Edits
import Phrasebook.Proofs.Elements
import Phrasebook.Proofs.Encoding
import Phrasebook.Proofs.Exclusion
import Phrasebook.Proofs.Extraction
import Phrasebook.Proofs.Filling
import Phrasebook.Proofs.Growth
import Phrasebook.Proofs.History
import Phrasebook.Proofs.Identity
import Phrasebook.Proofs.Indentation
import Phrasebook.Proofs.Insertion
import Phrasebook.Proofs.Inventory
import Phrasebook.Proofs.JsonDocument
import Phrasebook.Proofs.JsonText
import Phrasebook.Proofs.KeyChange
import Phrasebook.Proofs.Listing
import Phrasebook.Proofs.Literals
import Phrasebook.Proofs.Migration
import Phrasebook.Proofs.NamedPlaces
import Phrasebook.Proofs.Names
import Phrasebook.Proofs.Nesting
import Phrasebook.Proofs.NormalForm
import Phrasebook.Proofs.Observation
import Phrasebook.Proofs.Outcome
import Phrasebook.Proofs.PartialScan
import Phrasebook.Proofs.PlaceText
import Phrasebook.Proofs.Places
import Phrasebook.Proofs.Position
import Phrasebook.Proofs.Preamble
import Phrasebook.Proofs.Provenance
import Phrasebook.Proofs.Pruning
import Phrasebook.Proofs.Quoting
import Phrasebook.Proofs.Reading
import Phrasebook.Proofs.Refusal
import Phrasebook.Proofs.Rekeying
import Phrasebook.Proofs.Renaming
import Phrasebook.Proofs.Repetition
import Phrasebook.Proofs.Replacement
import Phrasebook.Proofs.Rescan
import Phrasebook.Proofs.Runs
import Phrasebook.Proofs.Scanning
import Phrasebook.Proofs.Signature
import Phrasebook.Proofs.SlotSpans
import Phrasebook.Proofs.SortedSet
import Phrasebook.Proofs.SourceOrder
import Phrasebook.Proofs.SourceTree
import Phrasebook.Proofs.Specifiers
import Phrasebook.Proofs.StoreRun
import Phrasebook.Proofs.Stored
import Phrasebook.Proofs.Substitution
import Phrasebook.Proofs.Tiling
import Phrasebook.Proofs.Trial
import Phrasebook.Proofs.UpdateEffect
import Phrasebook.Proofs.UpdateReturn
import Phrasebook.Proofs.Walk
import Phrasebook.Proofs.Writing
import Phrasebook.Proofs.WrittenForm
