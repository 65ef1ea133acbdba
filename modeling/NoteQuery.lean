import NoteQuery.Binary64.Reader
import NoteQuery.Main
import NoteQuery.Proofs.Text.Lines
import NoteQuery.Proofs.Note.LineKinds
import NoteQuery.Proofs.Note.BodyFields
import NoteQuery.Proofs.Note.Draft
import NoteQuery.Proofs.Note.RoundTrip
import NoteQuery.Proofs.Value.NumberTexts
import NoteQuery.Proofs.Value.Comparators
import NoteQuery.Proofs.Value.Comparability
import NoteQuery.Proofs.MergeSort
import NoteQuery.Proofs.Query.Sorting
import NoteQuery.Proofs.Value.Transitivity
import NoteQuery.Proofs.Query.Filtering
import NoteQuery.Proofs.Query.Projection
import NoteQuery.Proofs.Value.Reversal
import NoteQuery.Proofs.Query.SortKeys
import NoteQuery.Proofs.Query.Rerunning
import NoteQuery.Proofs.CommandLine.RepeatedConditions
import NoteQuery.Proofs.Value.CalendarDays
import NoteQuery.Proofs.Value.PlainDates
import NoteQuery.Proofs.Condition.ExpressionForms
import NoteQuery.Proofs.Query.MentionedFields
import NoteQuery.Proofs.Query.Composing
import NoteQuery.Proofs.Query.FilterFailures
import NoteQuery.Proofs.Vault.ViewColumns
import NoteQuery.Proofs.Settings.LoadFailures
import NoteQuery.Proofs.Vault.BadConditions
import NoteQuery.Proofs.Vault.ScanAccounts
import NoteQuery.Proofs.Note.TrailingBlanks
import NoteQuery.Proofs.Note.LineEndings
import NoteQuery.Proofs.Note.Blocks
import NoteQuery.Proofs.Note.ValueModel
import NoteQuery.Proofs.Value.Antisymmetry
import NoteQuery.Proofs.Value.Agreement
import NoteQuery.Proofs.Condition.OperatorAlgebra
import NoteQuery.Proofs.Text.Search
import NoteQuery.Proofs.Condition.TextSearch
import NoteQuery.Proofs.Binary64.Rounding
import NoteQuery.Proofs.Text.Digits
import NoteQuery.Proofs.Binary64.ShortDecimals
import NoteQuery.Proofs.Value.TypedNumbers
import NoteQuery.Proofs.Condition.TypedTargets
import NoteQuery.Proofs.Report.Alignment
import NoteQuery.Proofs.Report.ReadingTables
import NoteQuery.Proofs.Report.PrintedTables
import NoteQuery.Proofs.Vault.FoundNotes
import NoteQuery.Proofs.Note.Rows
import NoteQuery.Proofs.Value.Equality
import NoteQuery.Proofs.Settings.Overlays
import NoteQuery.Proofs.Settings.EnvironmentTables
import NoteQuery.Proofs.Settings.LayeredSources
import NoteQuery.Proofs.Settings.SparseSettings
import NoteQuery.Proofs.Note.CanonicalTexts
import NoteQuery.Proofs.Settings.NearestFile
