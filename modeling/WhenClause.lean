import WhenClause.Main
import WhenClause.Session
import WhenClause.Proofs.Built
import WhenClause.Proofs.Saturation
import WhenClause.Proofs.Equivalence
import WhenClause.Proofs.Negation
import WhenClause.Proofs.Parsing
import WhenClause.Proofs.Nesting
import WhenClause.Proofs.RoundTrip
import WhenClause.Proofs.Duality
import WhenClause.Proofs.Folding
import WhenClause.Proofs.Reparse
import WhenClause.Proofs.Exceeding
import WhenClause.Proofs.Rounds
import WhenClause.Proofs.Substitution
import WhenClause.Proofs.History
import WhenClause.Proofs.Exclusion
import WhenClause.Proofs.Raising
import WhenClause.Proofs.Order
import WhenClause.Proofs.Renaming
import WhenClause.Proofs.Regrouping
import WhenClause.Proofs.Dependence
import WhenClause.Proofs.Independence
import WhenClause.Proofs.GroupDepth
import WhenClause.Proofs.RenamingLaws
import WhenClause.Proofs.Pairing
import WhenClause.Proofs.Tree
import WhenClause.Proofs.PatternRoundTrip
import WhenClause.Proofs.Opening
import WhenClause.Proofs.Membership
import WhenClause.Proofs.NumberForm
import WhenClause.Proofs.WordComparison
import WhenClause.Proofs.FirstSeen
import WhenClause.Proofs.Place
import WhenClause.Proofs.Quotation
import WhenClause.Proofs.Resolvent
