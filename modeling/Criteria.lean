import Criteria.Main
import Criteria.Proofs.Condition.Meaning
import Criteria.Proofs.Expansion.Arguments
import Criteria.Proofs.Expansion.Termination
import Criteria.Proofs.Call.Base
import Criteria.Proofs.Expansion.Chain
import Criteria.Proofs.Expansion.Limit
import Criteria.Proofs.Expansion.Filter
import Criteria.Proofs.Expansion.Order
import Criteria.Proofs.Expansion.Entry
import Criteria.Proofs.Expansion.RelationReference
import Criteria.Proofs.Call.Reading
import Criteria.Proofs.Call.Spelling
import Criteria.Proofs.Config.Schema
import Criteria.Proofs.Config.Usable
import Criteria.Proofs.Expansion.Handler
import Criteria.Proofs.Config.Pivot
import Criteria.Proofs.Condition.Language
import Criteria.Proofs.Expansion.Modifiers
import Criteria.Proofs.Relation.Prefix
import Criteria.Proofs.Relation.Grouping
import Criteria.Proofs.Relation.Base
import Criteria.Proofs.Call.Priority
import Criteria.Proofs.Condition.Texts
import Criteria.Proofs.Expansion.Applicable
import Criteria.Proofs.Schema.Elements
import Criteria.Proofs.Json.Numeral
import Criteria.Proofs.Json.Token
import Criteria.Proofs.Json.Doc
import Criteria.Proofs.Console
import Criteria.Proofs.Json.ReadBack
import Criteria.Proofs.Config.Record
import Criteria.Proofs.Config.Canonical
import Criteria.Proofs.Config.Reload
import Criteria.Proofs.Word.Segmentation
import Criteria.Proofs.Significance
