import LessonVariants.Catalog
import LessonVariants.Draft.Select
import LessonVariants.Draft.Signal
import LessonVariants.Guard.EvalMessage
import LessonVariants.Guard.Template
import LessonVariants.Json.Reader
import LessonVariants.Json.Writer
import LessonVariants.Selection
import LessonVariants.Session.Create
import LessonVariants.Session.Update
import LessonVariants.Signal
import LessonVariants.Command.Arguments
import LessonVariants.Command.Markup
import LessonVariants.Command.Run
import LessonVariants.Main
import LessonVariants.Proofs.Guard.Composition
import LessonVariants.Proofs.Guard.Quoting
import LessonVariants.Proofs.Selection.Account
import LessonVariants.Proofs.Selection.FailClosed
import LessonVariants.Proofs.Selection.Stickiness
import LessonVariants.Proofs.Selection.Precedence
import LessonVariants.Proofs.Ranking.Best
import LessonVariants.Proofs.Ranking.Permutation
import LessonVariants.Proofs.Selection.OwnVariants
import LessonVariants.Proofs.Selection.Interleaving
import LessonVariants.Proofs.Selection.Reloading
import LessonVariants.Proofs.Session.Opening
import LessonVariants.Proofs.Guard.WirePaths
import LessonVariants.Proofs.Selection.Deadline
import LessonVariants.Proofs.Selection.Observation
import LessonVariants.Proofs.Selection.Explanation
import LessonVariants.Proofs.Selection.InPlace
import LessonVariants.Proofs.Guard.EarliestError
import LessonVariants.Proofs.Guard.Tiling
import LessonVariants.Proofs.Selection.FirstDeclared
import LessonVariants.Proofs.Session.Attempts
import LessonVariants.Proofs.Session.Accuracy
import LessonVariants.Proofs.Session.Latency
import LessonVariants.Proofs.Session.CorruptSticky
import LessonVariants.Proofs.Guard.CacheIdentity
import LessonVariants.Proofs.Guard.Equality
import LessonVariants.Proofs.Guard.Ordering
import LessonVariants.Proofs.Guard.Authoring
import LessonVariants.Proofs.Guard.Levels
import LessonVariants.Proofs.Guard.Exhaustion
import LessonVariants.Guard.Depth
