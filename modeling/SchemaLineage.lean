import SchemaLineage.Json.Reader
import SchemaLineage.Json.Writer
import SchemaLineage.Service.Server
import SchemaLineage.Proofs.Extraction.Agreement
import SchemaLineage.Proofs.Extraction.Failure
import SchemaLineage.Proofs.Extraction.Interference
import SchemaLineage.Proofs.Extraction.Skeleton
import SchemaLineage.Proofs.Extraction.Dependencies
import SchemaLineage.Proofs.Extraction.Skipped
import SchemaLineage.Proofs.Schema.RowOrder
import SchemaLineage.Proofs.Schema.Modifiers
import SchemaLineage.Proofs.Schema.TypeNames
import SchemaLineage.Proofs.Schema.Untagged
import SchemaLineage.Proofs.Service.Addresses
import SchemaLineage.Proofs.Service.Reach
import SchemaLineage.Proofs.Catalog.Answers
import SchemaLineage.Proofs.Service.Extractions
import SchemaLineage.Proofs.Lineage.Schedule
import SchemaLineage.Proofs.View.WellFormed
import SchemaLineage.Proofs.View.ClauseOrder
import SchemaLineage.Proofs.View.Qualifiers
import SchemaLineage.Proofs.View.Aliases
import SchemaLineage.Proofs.View.OtherSchemas
import SchemaLineage.Proofs.Lineage.Paths
import SchemaLineage.Proofs.Remarks.Written
