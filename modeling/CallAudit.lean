import CallAudit.Main
import CallAudit.Node.Forest
import CallAudit.Proofs.Subtrees
import CallAudit.Proofs.Walks
import CallAudit.Proofs.Conversion
import CallAudit.Proofs.Shape
import CallAudit.Proofs.CalleeSpine
import CallAudit.Proofs.BuiltShape
import CallAudit.Proofs.CallSites
import CallAudit.Proofs.SitePreservation
import CallAudit.Proofs.Spelling
import CallAudit.Proofs.Respelling
import CallAudit.Proofs.FileStamps
import CallAudit.Proofs.RecursiveWalk
import CallAudit.Proofs.Selection
import CallAudit.Proofs.Batches
import CallAudit.Proofs.MalformedTrees
import CallAudit.Proofs.DecodedTexts
import CallAudit.Proofs.ExitCodes
import CallAudit.Proofs.Ownership
import CallAudit.Proofs.Parentheses
import CallAudit.Proofs.Preparations
import CallAudit.Proofs.ConstantTexts
import CallAudit.Proofs.KeyValues
import CallAudit.Proofs.LiteralValues
import CallAudit.Proofs.PropertyChains
import CallAudit.Proofs.StoredConstants
import CallAudit.Proofs.SyntaxProblems
import CallAudit.Proofs.RegistryHistories
import CallAudit.Proofs.NodeNumbers
import CallAudit.Proofs.NeededTexts
import CallAudit.Proofs.GrownForests
import CallAudit.Proofs.EscapedSpellings
import CallAudit.Proofs.FlagFiles
import CallAudit.Proofs.FileNames
import CallAudit.Proofs.NameFiles
import CallAudit.Proofs.SourceExtensions
import CallAudit.Proofs.SourceSearch
import CallAudit.Proofs.IntegerLiterals
import CallAudit.Proofs.QuotedTexts
import CallAudit.Proofs.Listings
import CallAudit.Proofs.MarkupEscapes
import CallAudit.Proofs.PlainTerminals
import CallAudit.Proofs.PrintedSurrogates
import CallAudit.Proofs.FitTexts
