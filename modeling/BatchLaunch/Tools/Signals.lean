import BatchLaunch.Tools.Basic

/-!
Signals by name.
-/
namespace BatchLaunch.Tools

open Host (Signal)

def signalNames : List (Signal × String) := [
  (1, "HUP"), (2, "INT"), (3, "QUIT"), (4, "ILL"), (5, "TRAP"), (6, "ABRT"), (7, "BUS"), (8, "FPE"),
  (9, "KILL"), (10, "USR1"), (11, "SEGV"), (12, "USR2"), (13, "PIPE"), (14, "ALRM"), (15, "TERM"),
  (17, "CHLD"), (18, "CONT"), (19, "STOP"), (20, "TSTP"), (21, "TTIN"), (22, "TTOU"), (23, "URG"),
  (24, "XCPU"), (25, "XFSZ"), (26, "VTALRM"), (27, "PROF"), (28, "WINCH"), (29, "IO"), (30, "PWR"),
  (31, "SYS"), (34, "RTMIN"), (64, "RTMAX")]

def lastSignal : Signal := 64

/-- The name of a signal. Those without one of their own are named from either end of their range,
or by their number. -/
def signalName (signal : Signal) : Chars :=
  match ((0, "EXIT") :: signalNames).lookup signal with
  | some name => name.toList
  | none =>
      if 34 < signal && signal < 50 then "RTMIN+".toList ++ Nat.toDigits 10 (signal - 34)
      else if 50 ≤ signal && signal < 64 then "RTMAX-".toList ++ Nat.toDigits 10 (64 - signal)
      else Nat.toDigits 10 signal

def signals : List Signal := (List.range lastSignal).map (· + 1)

/-- The signal that a word means, as its number or as its name in either case. Zero, which is none,
stands for the end of a program. -/
def signal? (word : Chars) : Option Signal :=
  match natural? word with
  | some n => if n ≤ lastSignal then some n else none
  | none => (0 :: signals).find? fun signal => signalName signal = word.map Char.toUpper

def terminate : Signal := 15

def signalText (signal : Signal) : String :=
  match signal with
  | 1 => "Hangup"
  | 3 => "Quit"
  | 4 => "Illegal instruction"
  | 5 => "Trace/breakpoint trap"
  | 6 => "Aborted"
  | 7 => "Bus error"
  | 8 => "Floating point exception"
  | 9 => "Killed"
  | 10 => "User defined signal 1"
  | 11 => "Segmentation fault"
  | 12 => "User defined signal 2"
  | 14 => "Alarm clock"
  | 15 => "Terminated"
  | 16 => "Stack fault"
  | 24 => "CPU time limit exceeded"
  | 25 => "File size limit exceeded"
  | 26 => "Virtual timer expired"
  | 27 => "Profiling timer expired"
  | 29 => "I/O possible"
  | 30 => "Power failure"
  | 31 => "Bad system call"
  | n => "Real-time signal " ++ toString (n - 34)

end BatchLaunch.Tools
