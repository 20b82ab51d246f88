import Mathlib.Logic.Function.Basic
import Mathlib.Data.List.Basic

/-!
# Addresses and program-derived addresses

Addresses are symbolic. A keypair address is its 32 bytes read as a number; a
program-derived address is the term recording the program, the seeds and the
bump that the hash was taken of. Two derivations give one address only when
they are the same derivation, and no derived address has a private key.

Whether a derivation is usable depends on the hash lying off the curve, which
no program can predict, so it is a parameter. `findProgramAddress` searches the
bumps downwards for the first usable one, the *canonical* bump.
-/

set_option autoImplicit false

namespace Solana

mutual

/-- An address: a keypair's, or one derived for a program. -/
inductive Pubkey where
  | key (bytes : Nat)
  | pda (program : Pubkey) (seeds : Seeds) (bump : UInt8)
  deriving DecidableEq

/-- A list of seeds, each a byte string or an address. -/
inductive Seeds where
  | nil
  | text (bytes : String) (rest : Seeds)
  | addr (address : Pubkey) (rest : Seeds)
  deriving DecidableEq

end

/-- The all-zero address, which is also the System program's. -/
instance : Inhabited Pubkey := ⟨.key 0⟩

/-- Which derivations fall off the curve. -/
abbrev Curve := Pubkey → Seeds → UInt8 → Bool

/-- The address derived for `program` from `seeds` and an explicit bump. -/
def createProgramAddress (curve : Curve) (program : Pubkey) (seeds : Seeds) (bump : UInt8) :
    Option Pubkey :=
  if curve program seeds bump then some (.pda program seeds bump) else none

/-- The bumps in the order the search tries them: 255 down to 1. -/
def bumpOrder : List UInt8 := (List.range' 1 255).reverse.map UInt8.ofNat

/-- The first usable derivation together with its canonical bump. -/
def findProgramAddress (curve : Curve) (program : Pubkey) (seeds : Seeds) :
    Option (Pubkey × UInt8) :=
  bumpOrder.findSome? fun bump =>
    (createProgramAddress curve program seeds bump).map fun address => (address, bump)

section Derivation

variable {curve : Curve} {program program' address : Pubkey} {seeds seeds' : Seeds}
variable {bump bump' : UInt8}

theorem createProgramAddress_eq_some :
    createProgramAddress curve program seeds bump = some address ↔
      curve program seeds bump = true ∧ address = .pda program seeds bump := by
  unfold createProgramAddress
  split_ifs with husable <;> simp [husable, eq_comm]

/-- Derivation is injective in program, seeds and bump together. -/
theorem createProgramAddress_inj
    (h : createProgramAddress curve program seeds bump = some address)
    (h' : createProgramAddress curve program' seeds' bump' = some address) :
    program = program' ∧ seeds = seeds' ∧ bump = bump' := by
  obtain ⟨-, rfl⟩ := createProgramAddress_eq_some.mp h
  obtain ⟨-, hsame⟩ := createProgramAddress_eq_some.mp h'
  simpa using hsame

/-- The search returns a derivation it can create. -/
theorem findProgramAddress_create
    (h : findProgramAddress curve program seeds = some (address, bump)) :
    createProgramAddress curve program seeds bump = some address := by
  obtain ⟨candidate, -, hfound⟩ := List.exists_of_findSome?_eq_some h
  obtain ⟨created, hcreated, hpair⟩ := Option.map_eq_some_iff.mp hfound
  obtain ⟨rfl, rfl⟩ := Prod.mk.inj hpair
  exact hcreated

/-- The searched address is the term of its own derivation. -/
theorem findProgramAddress_eq_pda
    (h : findProgramAddress curve program seeds = some (address, bump)) :
    address = .pda program seeds bump :=
  (createProgramAddress_eq_some.mp (findProgramAddress_create h)).2

end Derivation

end Solana
