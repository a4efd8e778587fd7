import LessonText.Main
import LessonText.Proofs.Authoring.Programs
import LessonText.Proofs.Authoring.Wording
import LessonText.Proofs.Code.ByteRanges
import LessonText.Proofs.Code.LineMatches
import LessonText.Proofs.CommandLine.Copying
import LessonText.Proofs.Copying.Confirming
import LessonText.Proofs.Display.Layout
import LessonText.Proofs.Markup.Fences
import LessonText.Proofs.Markup.LineEndings
import LessonText.Proofs.Prose.Delimiters
import LessonText.Proofs.Prose.LineEndings
import LessonText.Proofs.Settings.Keeping
import LessonText.Proofs.Settings.KeyFile
import LessonText.Proofs.Settings.Resolving
