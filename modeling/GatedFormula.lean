/-
  Formulas that read only what they may:
  a small expression language with a policy before every read, its evaluation in virtual time, its static
  analysis, and the validation of its calls against signatures.
-/
import GatedFormula.Evaluation.Sequence
import GatedFormula.Evaluation.Timeline
import GatedFormula.Formula.Encoding
import GatedFormula.Formula.Printer
import GatedFormula.Proofs.Acceptance
import GatedFormula.Proofs.Noninterference
import GatedFormula.Proofs.Permission
import GatedFormula.Signature.Reading
import GatedFormula.Signature.Standard
import GatedFormula.Signature.Validation
import GatedFormula.Value.Reading
import GatedFormula.Proofs.Skipping
import GatedFormula.Proofs.Completeness
import GatedFormula.Proofs.Sites
import GatedFormula.Proofs.Refinement
import GatedFormula.Proofs.CallInventory
import GatedFormula.Proofs.Encodings
import GatedFormula.Proofs.StandardArguments
import GatedFormula.Proofs.Unstarted
import GatedFormula.Proofs.Counters
import GatedFormula.Proofs.AcceptanceOrder
import GatedFormula.Proofs.Blame
import GatedFormula.Proofs.Bucketing
import GatedFormula.Proofs.Equality
import GatedFormula.Proofs.Unlikeness
import GatedFormula.Proofs.Denotation
import GatedFormula.Proofs.Presence
import GatedFormula.Proofs.Literal
import GatedFormula.Proofs.Occurrence
import GatedFormula.Proofs.Bytes
import GatedFormula.Proofs.LiteralRun
import GatedFormula.Proofs.Searching
import GatedFormula.Proofs.Splitting
import GatedFormula.Proofs.Operands
import GatedFormula.Proofs.Rounding
import GatedFormula.Proofs.Radix
import GatedFormula.Proofs.Comparison
import GatedFormula.Proofs.WholePart
import GatedFormula.Proofs.Cutting
import GatedFormula.Proofs.Padding
import GatedFormula.Proofs.FlagCheck
import GatedFormula.Proofs.Merging
import GatedFormula.Proofs.SiteShape
import GatedFormula.Proofs.Remainder
import GatedFormula.Proofs.Residue
