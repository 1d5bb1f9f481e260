import RelationPaging.Config
import RelationPaging.Proofs.Planner.Qualifier
import RelationPaging.Proofs.Planner.WhereClause
import RelationPaging.Proofs.Session.AppendOnly
import RelationPaging.Relation.Inspect
import RelationPaging.Session
import RelationPaging.Proofs.Base64
import RelationPaging.Proofs.Json.Members
import RelationPaging.Proofs.Json.RoundTrip
import RelationPaging.Proofs.Cursor
import RelationPaging.Proofs.Paging.Walk
import RelationPaging.Proofs.Paging.OffsetWalk
import RelationPaging.Proofs.Sql.Truth
import RelationPaging.Proofs.Sql.Evaluation
import RelationPaging.Proofs.Sql.CursorCondition
import RelationPaging.Proofs.Paging.Table
import RelationPaging.Proofs.Paging.KeysetWalk
import RelationPaging.Proofs.Sql.Backslash
import RelationPaging.Proofs.Assembly
import RelationPaging.Proofs.Base64.Canonical
import RelationPaging.Proofs.Cursor.Offset
import RelationPaging.Proofs.Json.Nesting
import RelationPaging.Proofs.Cursor.Keyset
import RelationPaging.Proofs.Sql.CursorSplit
import RelationPaging.Proofs.Planner.Fallbacks
import RelationPaging.Proofs.Planner.Predicates
import RelationPaging.Proofs.Planner.Success
import RelationPaging.Proofs.Planner.BatchAgreement
import RelationPaging.Proofs.Planner.JoinConditions
import RelationPaging.Proofs.Planner.DialectAgreement
import RelationPaging.Proofs.Planner.CasedOnce
import RelationPaging.Proofs.Planner.UsedInputs
import RelationPaging.Proofs.Planner.Skipping
import RelationPaging.Proofs.Toml.Assignment
import RelationPaging.Proofs.Config
import RelationPaging.Proofs.Sql.Db2
import RelationPaging.Proofs.Paging.OffsetArguments
import RelationPaging.Proofs.Paging.KeysetArguments
import RelationPaging.Proofs.Sql.ConditionTokens
import RelationPaging.Proofs.Sql.TableReading
import RelationPaging.Proofs.Cursor.Exactness
import RelationPaging.Proofs.Paging.Count
import RelationPaging.Proofs.Sql.LimitClause
import RelationPaging.Proofs.Sql.SelectTail
import RelationPaging.Proofs.Planner.Ordered
import RelationPaging.Proofs.Planner.BatchCast
import RelationPaging.Proofs.Sql.Identifier
