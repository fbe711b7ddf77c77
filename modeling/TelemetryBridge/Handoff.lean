import TelemetryBridge.Failure

/-!
# Hand-off

An unbuffered hand-over of values between callers that send and callers that receive. A send is
fulfilled only when a receive takes its value. Every call names a signal; when the signal is
aborted, the calls waiting with it are cancelled and a value whose send was cancelled is dropped.
-/

namespace TelemetryBridge

/-- How a call ends. -/
inductive CallOutcome (α : Type) where
  | sent
  | received (value : α)
  | cancelled (reason : Failure)

structure WaitingSend (κ σ α : Type) where
  call : κ
  signal : σ
  value : α

structure WaitingReceive (κ σ : Type) where
  call : κ
  signal : σ

/-- The waiting calls, the calls that listen to each signal, and the signals that are aborted.
Calls are named by `κ`, signals by `σ`. -/
structure Handoff (κ σ α : Type) where
  senders : List (WaitingSend κ σ α) := []
  receivers : List (WaitingReceive κ σ) := []
  listeners : List (σ × κ) := []
  aborted : List (σ × Failure) := []

namespace Handoff

variable {κ σ α : Type} [DecidableEq κ] [DecidableEq σ]

def reason? (h : Handoff κ σ α) (signal : σ) : Option Failure :=
  h.aborted.lookup signal

/-- Offers a value. It goes to the receive that waits longest; without one the send waits. The
second part lists the calls that end, in order. -/
def send (h : Handoff κ σ α) (call : κ) (value : α) (signal : σ) :
    Handoff κ σ α × List (κ × CallOutcome α) :=
  match h.reason? signal with
  | some reason => (h, [(call, .cancelled reason)])
  | none =>
    match h.receivers with
    | waiting :: rest =>
      ({ h with
          receivers := rest
          listeners := h.listeners.filter (· ≠ (waiting.signal, waiting.call)) },
        [(waiting.call, .received value), (call, .sent)])
    | [] =>
      ({ h with
          senders := h.senders ++ [⟨call, signal, value⟩]
          listeners := h.listeners ++ [(signal, call)] }, [])

/-- Asks for a value. It comes from the send that waits longest; without one the receive waits. -/
def receive (h : Handoff κ σ α) (call : κ) (signal : σ) :
    Handoff κ σ α × List (κ × CallOutcome α) :=
  match h.reason? signal with
  | some reason => (h, [(call, .cancelled reason)])
  | none =>
    match h.senders with
    | waiting :: rest =>
      ({ h with
          senders := rest
          listeners := h.listeners.filter (· ≠ (waiting.signal, waiting.call)) },
        [(waiting.call, .sent), (call, .received waiting.value)])
    | [] =>
      ({ h with
          receivers := h.receivers ++ [⟨call, signal⟩]
          listeners := h.listeners ++ [(signal, call)] }, [])

/-- The calls that listen to a signal, in the order in which they began to. -/
def listening (h : Handoff κ σ α) (signal : σ) : List κ :=
  (h.listeners.filter (·.1 = signal)).map (·.2)

/-- Aborts a signal: the calls that listen to it are cancelled. A signal is aborted only once. -/
def abort (h : Handoff κ σ α) (signal : σ) (reason : Failure) :
    Handoff κ σ α × List (κ × CallOutcome α) :=
  match h.reason? signal with
  | some _ => (h, [])
  | none =>
    let calls := h.listening signal
    ({ senders := h.senders.filter (·.call ∉ calls)
       receivers := h.receivers.filter (·.call ∉ calls)
       listeners := h.listeners.filter (·.1 ≠ signal)
       aborted := h.aborted ++ [(signal, reason)] },
      calls.map fun call => (call, .cancelled reason))

end Handoff

end TelemetryBridge
