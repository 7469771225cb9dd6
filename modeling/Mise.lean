import Mise.FileTree
import Mise.Main
import Mise.Proofs.Dependency.Search
import Mise.Proofs.Dependency.Cycle
import Mise.Proofs.Dependency.Order
import Mise.Proofs.Resolution.Item
import Mise.Proofs.Resolution.Walk
import Mise.Proofs.Schedule.Timeline
import Mise.Proofs.Resolution.Content
import Mise.Proofs.Resolution.Listing
import Mise.Proofs.Resolution.Single
import Mise.Proofs.Resolution.Turn
import Mise.Proofs.Preparation.History
import Mise.Proofs.Preparation.Tracking
import Mise.Proofs.Preparation.Completion
import Mise.Proofs.Ledger.Group
import Mise.Proofs.Shopping.Partition
import Mise.Proofs.Shopping.Marking
import Mise.Proofs.Shopping.Copies
import Mise.Proofs.Registry.Naming
import Mise.Proofs.Registry.Document
import Mise.Proofs.Resolution.Place
import Mise.Proofs.Resolution.Visit
import Mise.Proofs.Share.Source
import Mise.Proofs.Warning.Account
import Mise.Proofs.Warning.Undefined
import Mise.Proofs.Registry.Growth
import Mise.Proofs.Resolution.Append
import Mise.Proofs.Warning.Redeclared
import Mise.Proofs.Usage.Form
import Mise.Proofs.Preparation.Total
import Mise.Proofs.Thinning.Walk
import Mise.Proofs.Weighing.Agreement
import Mise.Proofs.Thinning.Compilation
import Mise.Proofs.Weighing.Override
import Mise.Proofs.Coverage.Step
import Mise.Proofs.Ingredient.Extension
import Mise.Proofs.Text.Part
import Mise.Proofs.Override.Numeral
import Mise.Proofs.Override.Entry
import Mise.Proofs.Path.Name
import Mise.Proofs.FileTree.Following
import Mise.Proofs.FileTree.Change
import Mise.Proofs.Batch.Loading
import Mise.Proofs.FileTree.Request
import Mise.Proofs.Batch.Document
import Mise.Proofs.Batch.Finding
import Mise.Proofs.Batch.Writing
import Mise.Proofs.Batch.Stem
import Mise.Proofs.Batch.Agreement
import Mise.Proofs.Document.RoundTrip
import Mise.Proofs.Document.Note
import Mise.Proofs.Preparation.Incomplete
import Mise.Proofs.Metrics.Total
import Mise.Proofs.Preparation.Mention
import Mise.Proofs.Schedule.Timer
import Mise.Proofs.Coverage.Sentence
import Mise.Proofs.FileTree.Place
import Mise.Proofs.Batch.Repeat
import Mise.Proofs.Data.Pruning
import Mise.Proofs.Unit.Class
import Mise.Proofs.Weighing.Rule
import Mise.Proofs.Decimal.Sum
import Mise.Proofs.Shopping.Entry
import Mise.Proofs.Decimal.Order
import Mise.Proofs.Shopping.Parent
import Mise.Proofs.Dictionary.Insertion
import Mise.Proofs.Override.Layer
import Mise.Proofs.Ingredient.Row
import Mise.Proofs.Decimal.Number
import Mise.Proofs.Ingredient.Weight
import Mise.Proofs.Text.Lowercase
import Mise.Proofs.Text.Spacing
import Mise.Proofs.Unit.Spelling
import Mise.Proofs.Metrics.PreparationTime
import Mise.Proofs.Metrics.Nutrition
import Mise.Proofs.Share.Itself
import Mise.Proofs.Unit.Agreement
import Mise.Proofs.Slug.Identity
import Mise.Proofs.Usage.Figure
