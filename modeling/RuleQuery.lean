import RuleQuery.Text.Blank
import RuleQuery.Text.Casing
import RuleQuery.Binary64.Notation
import RuleQuery.Binary64.Numeral
import RuleQuery.Decimal.Binary
import RuleQuery.Instant.Reader
import RuleQuery.Json.Document
import RuleQuery.Json.Writer
import RuleQuery.Value.Order
import RuleQuery.Value.Text
import RuleQuery.Operator
import RuleQuery.Schema
import RuleQuery.Text.ClassTables
import RuleQuery.Text.Script
import RuleQuery.Pattern.Reader
import RuleQuery.Pattern.Count
import RuleQuery.Condition
import RuleQuery.Aggregation
import RuleQuery.Error
import RuleQuery.Parameters
import RuleQuery.Text.Search
import RuleQuery.Value.Match
import RuleQuery.Literal
import RuleQuery.Predicate.Basic
import RuleQuery.Json.Parts
import RuleQuery.Rule.Basic
import RuleQuery.Rule.Reader
import RuleQuery.Rule.Writer
import RuleQuery.Rule.Validation
import RuleQuery.Rule.Compiled
import RuleQuery.Grouping.Key
import RuleQuery.Grouping.ShapeCache
import RuleQuery.Grouping.Output
import RuleQuery.Grouping.Plan
import RuleQuery.User.Basic
import RuleQuery.User.Reader
import RuleQuery.User.Writer
import RuleQuery.Service.Error
import RuleQuery.Service.MediaType
import RuleQuery.Service.Evaluation
import RuleQuery.Service.Http
import RuleQuery.Text.Digits
import RuleQuery.Toml.Scalar
import RuleQuery.Toml.Tables
import RuleQuery.Toml.Reader
import RuleQuery.Settings.Tree
import RuleQuery.Settings.Basic
import RuleQuery.Settings.Sources
import RuleQuery.Proofs.Sequence
import RuleQuery.Proofs.Predicate.Tree
import RuleQuery.Proofs.Schema
import RuleQuery.Proofs.Predicate.Nested
import RuleQuery.Proofs.Rule.Validation
import RuleQuery.Proofs.Text.Casing
import RuleQuery.Proofs.Grouping.Cached
import RuleQuery.Proofs.Grouping.ShapeCache
import RuleQuery.Proofs.Rule.Compiled
import RuleQuery.Proofs.Rule.Names
import RuleQuery.Proofs.Distinct
import RuleQuery.Proofs.Grouping.Settled
import RuleQuery.Proofs.Value.Identity
import RuleQuery.Proofs.Rule.Union
import RuleQuery.Proofs.Text.Digits
import RuleQuery.Proofs.Decimal.RoundTrip
import RuleQuery.Proofs.Instant.Calendar
import RuleQuery.Proofs.Instant.RoundTrip
import RuleQuery.Proofs.Literal.RoundTrip
import RuleQuery.Proofs.Grouping.Count
import RuleQuery.Proofs.Grouping.Key
import RuleQuery.Proofs.Rule.DrillDown
import RuleQuery.Proofs.Parameters
import RuleQuery.Proofs.Predicate.Dynamic
import RuleQuery.Proofs.Grouping.Transparency
import RuleQuery.Proofs.Grouping.Interleaving
import RuleQuery.Proofs.Rule.Purity
import RuleQuery.Proofs.Rule.Faults
import RuleQuery.Proofs.Service.Evaluation
import RuleQuery.Proofs.Service.Blame
import RuleQuery.Proofs.Service.Endpoints
import RuleQuery.Proofs.Json.Spelling
import RuleQuery.Proofs.Json.Arranged
import RuleQuery.Proofs.Instant.Lenient
import RuleQuery.Proofs.Rule.Spelling
import RuleQuery.Proofs.Rule.Disjunction
import RuleQuery.Proofs.Decimal.Binary
import RuleQuery.Proofs.Value.Order
import RuleQuery.Proofs.Grouping.Select
import RuleQuery.Proofs.Rule.Batches
import RuleQuery.Proofs.Predicate.Respelled
import RuleQuery.Proofs.Rule.Respelled
import RuleQuery.Proofs.Grouping.Winners
import RuleQuery.Proofs.Grouping.Slots
import RuleQuery.Proofs.Grouping.FirstBest
import RuleQuery.Proofs.Grouping.Partition
import RuleQuery.Proofs.Rule.Demands
import RuleQuery.Proofs.Predicate.Rewriting
import RuleQuery.Proofs.Grouping.SameFields
import RuleQuery.Proofs.Predicate.Implication
import RuleQuery.Proofs.Binary64.Rounding
import RuleQuery.Proofs.Literal.Integer
import RuleQuery.Proofs.Predicate.Required
import RuleQuery.Proofs.Decimal.Rounded
import RuleQuery.Proofs.Value.Number
import RuleQuery.Proofs.Value.Equality
import RuleQuery.Proofs.Value.Kind
import RuleQuery.Proofs.Predicate.Comparison
import RuleQuery.Proofs.Predicate.Typing
import RuleQuery.Proofs.Value.Hash
import RuleQuery.Proofs.Grouping.Table
import RuleQuery.Proofs.Predicate.Complement
import RuleQuery.Proofs.Predicate.Membership
import RuleQuery.Proofs.Binary64.Natural
import RuleQuery.Proofs.Predicate.Threshold
import RuleQuery.Proofs.Binary64.Magnitude
import RuleQuery.Proofs.Value.Coincidence
