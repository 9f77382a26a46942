import TradeResearch.Lib.Text
import TradeResearch.Lib.Method

/-!
# The order state machine

`backend/app/oms/state.py`: twelve states, the legal moves between them, and the three sets the
rest of the platform asks about. `Exn` lists the exceptions the order path raises or handles, and
`Answer` is what awaiting a call gives: its value, or what it raised.
-/

namespace TradeResearch.Oms

inductive OrderStatus where
  | intent
  | submitting
  | submitted
  | accepted
  | partiallyFilled
  | filled
  | cancelRequested
  | cancelled
  | rejected
  | expired
  | failed
  | unknown
  deriving DecidableEq, Repr

namespace OrderStatus

def name : OrderStatus → String
  | intent => "intent"
  | submitting => "submitting"
  | submitted => "submitted"
  | accepted => "accepted"
  | partiallyFilled => "partially_filled"
  | filled => "filled"
  | cancelRequested => "cancel_requested"
  | cancelled => "cancelled"
  | rejected => "rejected"
  | expired => "expired"
  | failed => "failed"
  | unknown => "unknown"

def transitions : OrderStatus → List OrderStatus
  | intent => [submitting, submitted, rejected, cancelled, failed]
  | submitting => [submitted, rejected, failed, unknown, accepted]
  | submitted =>
    [accepted, partiallyFilled, filled, cancelRequested, rejected, expired, unknown]
  | accepted =>
    [partiallyFilled, filled, cancelRequested, cancelled, rejected, expired, unknown]
  | partiallyFilled => [partiallyFilled, filled, cancelRequested, cancelled, expired, unknown]
  | cancelRequested => [cancelled, filled, partiallyFilled, accepted, unknown]
  | filled => []
  | rejected => []
  | cancelled => []
  | expired => []
  | failed => []
  | unknown => [filled, partiallyFilled, cancelled, rejected, expired, failed, accepted]

def terminal (s : OrderStatus) : Bool :=
  s ∈ [filled, rejected, cancelled, expired, failed]

def needsReconciliation (s : OrderStatus) : Bool := s ∈ [unknown, submitting]

def canResend (s : OrderStatus) : Bool := s ∈ [failed]

theorem needsReconciliation_iff {s : OrderStatus} :
    s.needsReconciliation = true ↔ s = unknown ∨ s = submitting := by
  cases s <;> decide

theorem terminal_iff_transitions_nil (s : OrderStatus) :
    s.terminal = true ↔ s.transitions = [] := by
  cases s <;> decide

end OrderStatus

inductive Exn where
  | illegalOrderTransition (current wanted : OrderStatus)
  | fillError (reason : Text)
  | orderRefused (reason : Text)
  | reconciliationRequired (reason : Text)
  | brokerError (type : String) (reason : Text)
  | other (type : String) (reason : Text)

abbrev Answer (α : Type) := Except Exn α

namespace Exn

def broker : Exn → Bool
  | brokerError _ _ => true
  | _ => false

def typeName : Exn → String
  | illegalOrderTransition _ _ => "IllegalOrderTransition"
  | fillError _ => "FillError"
  | orderRefused _ => "OrderRefused"
  | reconciliationRequired _ => "ReconciliationRequired"
  | brokerError type _ => type
  | other type _ => type

def message : Exn → Text
  | illegalOrderTransition current wanted =>
    Text.lit s!"a {current.name} order cannot become {wanted.name}; it may become " ++
      if current.transitions.isEmpty then Text.lit "nothing"
      else Text.lit (", ".intercalate
        ((current.transitions.map OrderStatus.name).mergeSort fun a b => decide (a ≤ b)))
  | fillError reason => reason
  | orderRefused reason => reason
  | reconciliationRequired reason => reason
  | brokerError _ reason => reason
  | other _ reason => reason

def describe (e : Exn) : Text := Text.lit (e.typeName ++ ": ") ++ e.message

end Exn

def checkTransition {σ : Type} (current wanted : OrderStatus) : Method Exn σ Unit :=
  if wanted ∈ current.transitions then pure ()
  else throw (.illegalOrderTransition current wanted)

end TradeResearch.Oms
