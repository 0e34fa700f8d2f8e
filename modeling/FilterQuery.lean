import FilterQuery.Main
import FilterQuery.Record.Truth
import FilterQuery.Keyset.Change
import FilterQuery.Proofs.Filter.StandsFor
import FilterQuery.Proofs.Filter.Cutoff
import FilterQuery.Proofs.Sql.Placeholders
import FilterQuery.Proofs.Sql.UniqueReading
import FilterQuery.Proofs.Keyset.FixedTable
import FilterQuery.Proofs.Keyset.ChangingTable
import FilterQuery.Proofs.Keyset.Skeleton
import FilterQuery.Proofs.Record.Rejection
import FilterQuery.Proofs.Record.ThreeValued
import FilterQuery.Proofs.Keyset.Vocabulary
import FilterQuery.Proofs.Keyset.Resume
import FilterQuery.Proofs.Keyset.UniqueReading
import FilterQuery.Proofs.Keyset.Refusal
import FilterQuery.Proofs.Keyset.Arguments
import FilterQuery.Proofs.Settings.Limits
import FilterQuery.Proofs.Keyset.Limits
import FilterQuery.Proofs.Double.Fields
import FilterQuery.Proofs.Double.Rounding
import FilterQuery.Proofs.Value.Numbers
import FilterQuery.Proofs.Filter.NodeFaults
import FilterQuery.Proofs.Filter.Visit
import FilterQuery.Proofs.Sql.Faults
import FilterQuery.Proofs.Record.Rewriting
import FilterQuery.Proofs.Record.Comparisons
import FilterQuery.Proofs.Value.Order
import FilterQuery.Proofs.Value.Finite
import FilterQuery.Proofs.Keyset.Changes
import FilterQuery.Proofs.Keyset.CursorRange
import FilterQuery.Proofs.Row.Decode
import FilterQuery.Proofs.Row.DecodeAll
import FilterQuery.Proofs.Row.Cell
import FilterQuery.Proofs.Filter.Optional
import FilterQuery.Proofs.Filter.JsonDepth
import FilterQuery.Proofs.Filter.Respelling
import FilterQuery.Proofs.Value.Written
import FilterQuery.Proofs.Row.AttributeJson
import FilterQuery.Proofs.Settings.Layers
import FilterQuery.Proofs.Sql.ColumnExprs
import FilterQuery.Proofs.Filter.Operator
import FilterQuery.Proofs.Sql.Quoting
import FilterQuery.Proofs.Failure.Positions
