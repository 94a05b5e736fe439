import GraphQLTree.Query
import GraphQLTree.Session
import GraphQLTree.Visitor.Script
import GraphQLTree.Proofs.Trace
import GraphQLTree.Proofs.Nesting
import GraphQLTree.Proofs.View
import GraphQLTree.Proofs.Course
import GraphQLTree.Proofs.CallSequence
import GraphQLTree.Proofs.Reading
import GraphQLTree.Proofs.Tree
import GraphQLTree.Proofs.Plain
import GraphQLTree.Proofs.LockstepCourse
import GraphQLTree.Proofs.Tally
import GraphQLTree.Proofs.LockstepCalls
import GraphQLTree.Proofs.Unwinding
import GraphQLTree.Proofs.Report
import GraphQLTree.Proofs.FailureReport
import GraphQLTree.Proofs.Simulation
import GraphQLTree.Proofs.Reuse
import GraphQLTree.Proofs.Watching
import GraphQLTree.Proofs.Bookkeeping
import GraphQLTree.Proofs.Containment
import GraphQLTree.Proofs.Failing
import GraphQLTree.Proofs.Following
import GraphQLTree.Proofs.LockstepFailure
import GraphQLTree.Proofs.FirstFailure
import GraphQLTree.Proofs.Alongside
import GraphQLTree.Proofs.OutcomeClass
import GraphQLTree.Proofs.Grouping
import GraphQLTree.Proofs.GroupSteps
import GraphQLTree.Proofs.GroupWalk
import GraphQLTree.Proofs.Flattening
import GraphQLTree.Proofs.Making
import GraphQLTree.Proofs.Equality
import GraphQLTree.Proofs.Atoms
import GraphQLTree.Proofs.Clonable
import GraphQLTree.Proofs.DeepCopy
import GraphQLTree.Proofs.Changes
import GraphQLTree.Proofs.HookKinds
import GraphQLTree.Proofs.Isomorphism
import GraphQLTree.Proofs.Dictionaries
import GraphQLTree.Proofs.Faithfulness
import GraphQLTree.Proofs.Rejection
import GraphQLTree.Proofs.Breadcrumbs
import GraphQLTree.Proofs.NodeMethods
import GraphQLTree.Proofs.BuildHistory
import GraphQLTree.Proofs.RegularNames
import GraphQLTree.Proofs.Collections
import GraphQLTree.Proofs.DescriptionBound
import GraphQLTree.Proofs.WrittenForms
import GraphQLTree.Proofs.HashHistory
import GraphQLTree.Proofs.TracedPairs
import GraphQLTree.Proofs.DebugLog
import GraphQLTree.Proofs.Digests
import GraphQLTree.Proofs.Hashing
import GraphQLTree.Proofs.WordStarts
import GraphQLTree.Proofs.VersionTexts
import GraphQLTree.Proofs.ObjectLiterals
