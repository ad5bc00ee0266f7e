import ShaderMarkup.Proofs.Session
import ShaderMarkup.Proofs.Showing
import ShaderMarkup.Proofs.Containment
import ShaderMarkup.Proofs.Isolation
import ShaderMarkup.Proofs.NewDeclaration
import ShaderMarkup.Proofs.Reload
import ShaderMarkup.Proofs.RoundTrip
import ShaderMarkup.Proofs.Slots
import ShaderMarkup.Proofs.Duality
import ShaderMarkup.Proofs.Conservation
import ShaderMarkup.Proofs.Rational
import ShaderMarkup.Proofs.WellFormed
import ShaderMarkup.Proofs.Grammar
import ShaderMarkup.Proofs.Spelling
import ShaderMarkup.Proofs.Denotation
import ShaderMarkup.Proofs.Account
import ShaderMarkup.Proofs.Workgroup
import ShaderMarkup.Proofs.Stage
import ShaderMarkup.Proofs.Completion
import ShaderMarkup.Proofs.Broadcast
import ShaderMarkup.Proofs.Target
import ShaderMarkup.Proofs.DeclaredPiece
import ShaderMarkup.Proofs.Occurrence
import ShaderMarkup.Proofs.EntryCall
import ShaderMarkup.Proofs.Comma
import ShaderMarkup.Proofs.Juncture
import ShaderMarkup.Proofs.EntryForm
import ShaderMarkup.Proofs.UniformLayout
import ShaderMarkup.Proofs.TypeTerm
import ShaderMarkup.Proofs.StructBody
import ShaderMarkup.Proofs.TypeSize
import ShaderMarkup.Proofs.Blame
import ShaderMarkup.Proofs.Partition
import ShaderMarkup.Proofs.Tiling
import ShaderMarkup.Proofs.Removal
import ShaderMarkup.Proofs.StatementRange
