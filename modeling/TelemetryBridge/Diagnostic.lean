import TelemetryBridge.Failure

/-!
# Terminal diagnostics

A fatal failure as it is shown to the operator: a title with the message, a suggestion or a hint,
and on request the stack trace.
-/

namespace TelemetryBridge

/-- The escape sequences that switch a style on and off. -/
structure Style where
  start : String
  stop : String

namespace Style

def ofCodes (on off : Nat) : Style :=
  ⟨"\x1b[" ++ toString on ++ "m", "\x1b[" ++ toString off ++ "m"⟩

def red : Style := ofCodes 31 39
def bold : Style := ofCodes 1 22
def yellow : Style := ofCodes 33 39
def dim : Style := ofCodes 2 22

/-- Puts `again` behind every occurrence of `stop`. -/
def reopen (stop again : List Char) : Nat → List Char → List Char
  | 0, cs => cs
  | _, [] => []
  | fuel + 1, c :: cs =>
    if stop.isPrefixOf (c :: cs) then
      stop ++ again ++ reopen stop again fuel ((c :: cs).drop stop.length)
    else c :: reopen stop again fuel cs

/-- Switches off before every line break and on again behind it. -/
def perLine (on off : List Char) : List Char → List Char
  | [] => []
  | '\r' :: '\n' :: cs => off ++ '\r' :: '\n' :: on ++ perLine on off cs
  | '\n' :: cs => off ++ '\n' :: on ++ perLine on off cs
  | c :: cs => c :: perLine on off cs

/-- Applies styles, the outermost first, when the terminal has colours. -/
def apply (color : Bool) (styles : List Style) (s : String) : String :=
  if color = false ∨ s = "" then s
  else
    let on := String.join (styles.map start)
    let off := String.join (styles.reverse.map stop)
    let inner := styles.reverse.foldl
      (fun cs style => reopen style.stop.toList style.start.toList cs.length cs) s.toList
    on ++ .ofList (perLine on.toList off.toList inner) ++ off

end Style

namespace FailureCode

def title : FailureCode → String
  | config => "Configuration Error"
  | dial => "Connection Error"
  | stream => "Stream Error"
  | cancelled => "Cancelled"

/-- What is hinted at when the failure suggests nothing. -/
def hint : FailureCode → String
  | config => "Check the command-line flags, the config file and the TLS files they name."
  | dial => "Check the target and collector addresses and that both are reachable."
  | stream =>
    "The target or collector closed a stream; the bridge retries these on its own."
  | cancelled => "The bridge was stopped."

end FailureCode

/-- How diagnostics are shown. -/
structure DiagnosticForm where
  color : Bool := false
  verbose : Bool := false

namespace Failure

/-- The lines below the message: a suggestion, else a hint; none for errors from outside. -/
def advice (form : DiagnosticForm) (failure : Failure) : List String :=
  match failure.code? with
  | none => []
  | some code =>
    match failure.suggestion?.filter (· ≠ "") with
    | some suggestion => [Style.apply form.color [.yellow] "Suggestion: " ++ suggestion]
    | none => [Style.apply form.color [.dim] ("Hint: " ++ code.hint)]

/-- The stack trace of an error, if it is wanted and known. -/
def traceLines (form : DiagnosticForm) (failure : Failure) (trace : Option String) : List String :=
  match failure.className?, trace.filter (· ≠ "") with
  | some _, some trace =>
    if form.verbose then
      [Style.apply form.color [.dim] "\nStack trace:", Style.apply form.color [.dim] trace]
    else []
  | _, _ => []

/-- A failure as shown to the operator. -/
def diagnostic (form : DiagnosticForm) (failure : Failure) (trace : Option String) : String :=
  let title := (failure.code?.map FailureCode.title).getD "Error"
  "\n".intercalate <|
    (Style.apply form.color [.red, .bold] (title ++ ": ") ++ failure.message) ::
      (failure.advice form ++ failure.traceLines form trace)

end Failure

/-- What a handled command leaves: its result, the diagnostics written, and the exit code. -/
structure Handled (α : Type) where
  result : Option α
  written : List String
  exitCode : Nat

/-- A failing command writes its diagnostic and exits with code 1. -/
def handleFailure {α : Type} (form : DiagnosticForm) (trace : Option String) :
    Except Failure α → Handled α
  | .ok a => ⟨some a, [], 0⟩
  | .error failure => ⟨none, [failure.diagnostic form trace], 1⟩

end TelemetryBridge
