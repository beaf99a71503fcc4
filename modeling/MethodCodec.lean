import MethodCodec.Main
import MethodCodec.Workspace.Directory
import MethodCodec.Proofs.Bits
import MethodCodec.Proofs.Repair
import MethodCodec.Proofs.Encoding
import MethodCodec.Proofs.OnePass
import MethodCodec.Proofs.Plan
import MethodCodec.Proofs.Codec
import MethodCodec.Proofs.Canonical
import MethodCodec.Proofs.Truncation
import MethodCodec.Proofs.Structure
import MethodCodec.Proofs.Resolution
import MethodCodec.Proofs.MethodTable
import MethodCodec.Proofs.Collision
import MethodCodec.Proofs.Statement
import MethodCodec.Proofs.FileScope
import MethodCodec.Proofs.Abbreviation
import MethodCodec.Proofs.Validation
import MethodCodec.Proofs.JsonWriting
import MethodCodec.Proofs.SnakeCase
import MethodCodec.Proofs.LegalIdentifier
import MethodCodec.Proofs.Extension
import MethodCodec.Proofs.Hygiene
import MethodCodec.Proofs.Session
import MethodCodec.Proofs.MaximalRuns
import MethodCodec.Proofs.FirstCollision
import MethodCodec.Proofs.PlainDocument
import MethodCodec.Proofs.Prelude
import MethodCodec.Proofs.PlanPair
import MethodCodec.Proofs.FittingPlan
import MethodCodec.Proofs.Acceptance
import MethodCodec.Proofs.Import
import MethodCodec.Proofs.QualifiedName
import MethodCodec.Proofs.FirstViolation
import MethodCodec.Proofs.DomainTable
import MethodCodec.Proofs.Comment
import MethodCodec.Proofs.Payload
import MethodCodec.Proofs.Journal
import MethodCodec.Proofs.Summary
