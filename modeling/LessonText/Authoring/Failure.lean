import LessonText.Storage.Cause
import LessonText.Text.Quoted

namespace LessonText

inductive ExitStatus
  | code (n : Nat)
  | signal (n : Nat)
  deriving DecidableEq, Repr

namespace ExitStatus

def succeeded (s : ExitStatus) : Bool :=
  s == .code 0

def signalNames : List Text :=
  ["SIGHUP", "SIGINT", "SIGQUIT", "SIGILL", "SIGTRAP", "SIGABRT", "SIGBUS", "SIGFPE", "SIGKILL",
    "SIGUSR1", "SIGSEGV", "SIGUSR2", "SIGPIPE", "SIGALRM", "SIGTERM", "SIGSTKFLT", "SIGCHLD",
    "SIGCONT", "SIGSTOP", "SIGTSTP", "SIGTTIN", "SIGTTOU", "SIGURG", "SIGXCPU", "SIGXFSZ",
    "SIGVTALRM", "SIGPROF", "SIGWINCH", "SIGIO", "SIGPWR", "SIGSYS"].map String.toList

def signalName? (n : Nat) : Option Text :=
  if n = 0 then none else signalNames[n - 1]?

def message : ExitStatus → Text
  | .code n => "exit status: " ++ Nat.toDigits 10 n
  | .signal n =>
    match signalName? n with
    | some name => "signal: " ++ Nat.toDigits 10 n ++ " (".toList ++ name ++ ")".toList
    | none => "signal: " ++ Nat.toDigits 10 n

end ExitStatus

inductive Failure
  | invalidRequest (detail : Text)
  | noBackend
  | notStarted (program : Text) (cause : Cause)
  | promptNotSent (program : Text) (cause : Cause)
  | exited (status : ExitStatus) (complaint : Text)
  | notUtf8
  | noContent
  deriving DecidableEq, Repr

def Failure.message : Failure → Text
  | .invalidRequest detail => "Invalid generation request: " ++ detail
  | .noBackend => "No generator backend is configured"
  | .notStarted program cause =>
    "Failed to run generator command " ++ Quoted.encode program ++ ": ".toList ++ cause.message
  | .promptNotSent program cause =>
    "Failed to send the prompt to generator command " ++ Quoted.encode program ++ ": ".toList ++
      cause.message
  | .exited status complaint =>
    "Generator command exited with " ++ status.message ++ ": ".toList ++ complaint
  | .notUtf8 => "Generator output is not valid UTF-8"
  | .noContent => "Generator returned no content"

end LessonText
