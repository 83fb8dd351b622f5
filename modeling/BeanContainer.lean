import BeanContainer.Derivation.Expansion
import BeanContainer.Proofs.Configuration.Waiting
import BeanContainer.Proofs.Context.Backtracking
import BeanContainer.Proofs.Context.Conservation
import BeanContainer.Proofs.Context.Copies
import BeanContainer.Proofs.Context.DepthFirst
import BeanContainer.Proofs.Context.Escapes
import BeanContainer.Proofs.Context.Filings
import BeanContainer.Proofs.Context.FirstUse
import BeanContainer.Proofs.Context.Overlap
import BeanContainer.Proofs.Context.Promises
import BeanContainer.Proofs.Context.Sharing
import BeanContainer.Proofs.Context.SoleProviders
import BeanContainer.Proofs.Context.Staging
import BeanContainer.Proofs.Derivation.Entries
import BeanContainer.Proofs.Derivation.Markers
import BeanContainer.Proofs.Derivation.Requirements
import BeanContainer.Proofs.Registry.CallChain
import BeanContainer.Proofs.Registry.History
import BeanContainer.Proofs.Registry.Interleaving
import BeanContainer.Proofs.Registry.MadeOnce
import BeanContainer.Proofs.Registry.NestingDepth
import BeanContainer.Proofs.Registry.OneBean
import BeanContainer.Scenario.Session
import BeanContainer.Proofs.Registry.Insertions
