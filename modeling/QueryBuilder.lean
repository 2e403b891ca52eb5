import QueryBuilder.AliasClash
import QueryBuilder.Clause
import QueryBuilder.Condition
import QueryBuilder.Decimal.Basic
import QueryBuilder.Decimal.Double
import QueryBuilder.Definition
import QueryBuilder.Entity
import QueryBuilder.Error
import QueryBuilder.Join
import QueryBuilder.Json.Basic
import QueryBuilder.Json.Literal
import QueryBuilder.Json.Mismatch
import QueryBuilder.Json.Numeral
import QueryBuilder.Json.Reader
import QueryBuilder.Json.Record
import QueryBuilder.Json.Token
import QueryBuilder.Json.Tree
import QueryBuilder.Json.Writer
import QueryBuilder.OrderedMap
import QueryBuilder.Param.Fragment
import QueryBuilder.Param.Fresh
import QueryBuilder.Param.Key
import QueryBuilder.Param.Kind
import QueryBuilder.Param.Table
import QueryBuilder.Proofs.AliasClash
import QueryBuilder.Proofs.Clause
import QueryBuilder.Proofs.Condition
import QueryBuilder.Proofs.Definition
import QueryBuilder.Proofs.DefinitionText
import QueryBuilder.Proofs.Handoff
import QueryBuilder.Proofs.Json.Literal
import QueryBuilder.Proofs.Json.Numeral
import QueryBuilder.Proofs.Json.Reader
import QueryBuilder.Proofs.Json.Record
import QueryBuilder.Proofs.Json.Spelled
import QueryBuilder.Proofs.Json.Tree
import QueryBuilder.Proofs.Json.Written
import QueryBuilder.Proofs.OrderedMap
import QueryBuilder.Proofs.Param.Fresh
import QueryBuilder.Proofs.Param.Key
import QueryBuilder.Proofs.Param.Search
import QueryBuilder.Proofs.Param.Table
import QueryBuilder.Proofs.RoundTrip
import QueryBuilder.Proofs.Select.Binding
import QueryBuilder.Proofs.Select.Blank
import QueryBuilder.Proofs.Select.Chain
import QueryBuilder.Proofs.Select.Clauses
import QueryBuilder.Proofs.Select.Edit
import QueryBuilder.Proofs.Select.Failure
import QueryBuilder.Proofs.Select.Independence
import QueryBuilder.Proofs.Select.Kept
import QueryBuilder.Proofs.Select.Minted
import QueryBuilder.Proofs.Select.Mirror
import QueryBuilder.Proofs.Select.Part
import QueryBuilder.Proofs.Select.Policy
import QueryBuilder.Proofs.Select.Reset
import QueryBuilder.Proofs.Select.Text
import QueryBuilder.Proofs.Select.Warning
import QueryBuilder.Proofs.Sources
import QueryBuilder.Select.Basic
import QueryBuilder.Select.Call
import QueryBuilder.Select.Criteria
import QueryBuilder.Select.Event
import QueryBuilder.Select.Outline
import QueryBuilder.Select.Page
import QueryBuilder.Settings
import QueryBuilder.Sources
import QueryBuilder.Text.Blank
import QueryBuilder.Text.Quoted
import QueryBuilder.Text.Unprinted
