import TypedSteps.Builtin
import TypedSteps.Calendar.Date
import TypedSteps.Calendar.DateFormat
import TypedSteps.Calendar.Instant
import TypedSteps.Calendar.Zone
import TypedSteps.Calendar.ZoneDescription
import TypedSteps.Conversion
import TypedSteps.Decimal.Nearest
import TypedSteps.Decimal.Shortest
import TypedSteps.Decimal.Whole
import TypedSteps.Escaping
import TypedSteps.Language.Basic
import TypedSteps.Language.Error
import TypedSteps.Language.Message
import TypedSteps.Language.Scopes
import TypedSteps.Matching
import TypedSteps.Regex.Basic
import TypedSteps.Regex.Class
import TypedSteps.Regex.Escape
import TypedSteps.Regex.Flags
import TypedSteps.Regex.Normal
import TypedSteps.Regex.Pattern
import TypedSteps.Regex.Program
import TypedSteps.Regex.Reading
import TypedSteps.Regex.Search
import TypedSteps.Registry.Basic
import TypedSteps.Registry.Transforms
import TypedSteps.Session
import TypedSteps.Step
import TypedSteps.Template.GroupName
import TypedSteps.Template.Parameter
import TypedSteps.Template.Source
import TypedSteps.Template.Token
import TypedSteps.Text.Basic
import TypedSteps.Text.Hexadecimal
import TypedSteps.Text.Quoted
import TypedSteps.Unicode.Age
import TypedSteps.Unicode.Alphabetic
import TypedSteps.Unicode.BooleanProperty
import TypedSteps.Unicode.CaseFolding
import TypedSteps.Unicode.CharSet
import TypedSteps.Unicode.DecimalDigit
import TypedSteps.Unicode.GeneralCategory
import TypedSteps.Unicode.Printable
import TypedSteps.Unicode.Property
import TypedSteps.Unicode.Script
import TypedSteps.Unicode.Segmentation
import TypedSteps.Unicode.SetRule
import TypedSteps.Unicode.WhiteSpace
import TypedSteps.Unicode.WordCharacter
import TypedSteps.Value
import TypedSteps.Proofs.Template.GroupNames
import TypedSteps.Proofs.Template.Slots
import TypedSteps.Proofs.Registry.Ownership
import TypedSteps.Proofs.Regex.Code
import TypedSteps.Proofs.Registry.Histories
import TypedSteps.Proofs.Unicode.Sets
import TypedSteps.Proofs.Regex.Alternatives
import TypedSteps.Proofs.Regex.Search
import TypedSteps.Proofs.Regex.Reading
import TypedSteps.Proofs.Template.Reading
import TypedSteps.Proofs.Builtin.Reading
import TypedSteps.Proofs.Builtin.Shapes
import TypedSteps.Proofs.Template.Instances
import TypedSteps.Proofs.Matching
import TypedSteps.Proofs.Outcome
import TypedSteps.Proofs.Builtin.Denotation
import TypedSteps.Proofs.Extraction
import TypedSteps.Proofs.Compilation
import TypedSteps.Proofs.Regex.Lookahead.Bounds
import TypedSteps.Proofs.Regex.Lookahead.Classes
import TypedSteps.Proofs.Regex.Context
import TypedSteps.Proofs.Template.Occurrences
import TypedSteps.Proofs.Template.Copies
import TypedSteps.Proofs.Registry.Usable
import TypedSteps.Proofs.Template.Tables
import TypedSteps.Proofs.Agreement
import TypedSteps.Proofs.Verbatim
import TypedSteps.Proofs.Registry.Order
import TypedSteps.Proofs.Registry.Extension
import TypedSteps.Proofs.Registry.Snapshot
import TypedSteps.Proofs.Language.Scopes
import TypedSteps.Proofs.Builtin.Whole
import TypedSteps.Proofs.Calendar.Dates
import TypedSteps.Proofs.Calendar.Instants
import TypedSteps.Proofs.Decimal.Digits
import TypedSteps.Proofs.Calendar.Numerals
import TypedSteps.Proofs.Calendar.Formats
import TypedSteps.Proofs.Calendar.DateTexts
import TypedSteps.Proofs.TruthValues
import TypedSteps.Proofs.Calendar.Changes
import TypedSteps.Proofs.Calendar.LocalDates
import TypedSteps.Proofs.Calendar.DateZones
import TypedSteps.Proofs.Template.Lexing
import TypedSteps.Proofs.Template.Numbering
import TypedSteps.Proofs.Regex.Preference
import TypedSteps.Proofs.Regex.Priority
import TypedSteps.Proofs.Regex.CodeChoices
import TypedSteps.Proofs.Regex.AllMatches
import TypedSteps.Proofs.Template.Scans
import TypedSteps.Proofs.Text.Runs
import TypedSteps.Proofs.Template.Adjacent
import TypedSteps.Proofs.SingleKeywords
import TypedSteps.Proofs.CharacterGroups
import TypedSteps.Proofs.QuotedTexts
import TypedSteps.Proofs.Template.Detection
import TypedSteps.Proofs.Template.Recovery
import TypedSteps.Proofs.Language.Messages
import TypedSteps.Proofs.Text.Pieces
import TypedSteps.Proofs.Template.Closing
import TypedSteps.Proofs.CommaLists
import TypedSteps.Proofs.Registry.EscapingModes
import TypedSteps.Proofs.Template.GroupNumerals
