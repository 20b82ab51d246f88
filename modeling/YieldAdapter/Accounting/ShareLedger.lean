import Mathlib.Order.Basic

/-!
# Share ledgers

A ledger books shares. Beside the number booked stands the record of what was ever
reported minted and burned. The record explains the ledger exactly as long as no
burn exceeds what is booked; a burn that does empties the ledger, and from then on
the record only bounds it.
-/

set_option autoImplicit false

namespace Accounting

/-- What one step posts. -/
inductive Posting where
  | none
  | mint (shares : Nat)
  | burn (shares : Nat)
  deriving DecidableEq

/-- The shares booked, and the totals on record. -/
structure ShareLedger where
  booked : Nat
  minted : Nat
  burned : Nat
  deriving DecidableEq

namespace ShareLedger

/-- Nothing is booked and nothing is on record. -/
def empty : ShareLedger := ⟨0, 0, 0⟩

def post (l : ShareLedger) : Posting → ShareLedger
  | .none => l
  | .mint shares => { l with booked := l.booked + shares, minted := l.minted + shares }
  -- truncated: a burn of more than is booked leaves nothing
  | .burn shares => { l with booked := l.booked - shares, burned := l.burned + shares }

/-- The posting burns no more than is booked. -/
def Covers (l : ShareLedger) : Posting → Prop
  | .burn shares => shares ≤ l.booked
  | _ => True

/-- What was minted is what was burned and what is booked. -/
def Balanced (l : ShareLedger) : Prop := l.minted = l.burned + l.booked

/-- Whatever was minted was burned or is booked. -/
def Backed (l : ShareLedger) : Prop := l.minted ≤ l.burned + l.booked

variable {l : ShareLedger} {posting : Posting}

@[simp] theorem post_none : l.post .none = l := rfl

theorem balanced_empty : empty.Balanced := rfl

theorem Balanced.backed (h : l.Balanced) : l.Backed := Nat.le_of_eq h

theorem Backed.post (h : l.Backed) (posting : Posting) : (l.post posting).Backed := by
  unfold Backed at *
  cases posting with
  | none => exact h
  | mint shares =>
    simp only [ShareLedger.post]
    omega
  | burn shares =>
    simp only [ShareLedger.post]
    omega

theorem Balanced.post (h : l.Balanced) (hcovered : l.Covers posting) :
    (l.post posting).Balanced := by
  unfold Balanced at *
  cases posting with
  | none => exact h
  | mint shares =>
    simp only [ShareLedger.post]
    omega
  | burn shares =>
    have hle : shares ≤ l.booked := hcovered
    simp only [ShareLedger.post]
    omega

end ShareLedger

end Accounting
