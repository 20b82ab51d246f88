import YieldAdapter.Solana.Bytes
import Mathlib.Data.List.Nodup

/-!
# Byte formats

A format writes the values of a type as bytes and reads one off the front of a byte string.
It accepts what can be written and nothing else, so a written value is recognised whatever
follows it. Formats are made from those of their parts: words, byte strings with their length
in front, pairs, and alternatives that are told apart by a tag.
-/

set_option autoImplicit false

namespace Solana

/-- How the values of a type are written and read. What was read is what is written, and the
rest is left over. -/
structure Format (α : Type) where
  Valid : α → Prop
  write : α → Bytes
  read : Bytes → Option (α × Bytes)
  read_eq_some : ∀ {data : Bytes} {a : α} {rest : Bytes},
    read data = some (a, rest) ↔ Valid a ∧ data = write a ++ rest

namespace Format

variable {α β κ : Type}

/-- What was written is read back, whatever follows it. -/
theorem read_write (f : Format α) {a : α} (h : f.Valid a) (rest : Bytes) :
    f.read (f.write a ++ rest) = some (a, rest) :=
  f.read_eq_some.mpr ⟨h, rfl⟩

/-! ### Parts -/

/-- Nothing is written. -/
def unit : Format Unit where
  Valid _ := True
  write _ := []
  read data := some ((), data)
  read_eq_some := by simp [eq_comm]

/-- A number in `width` bytes. -/
def word (width : Nat) : Format Nat where
  Valid n := n < 256 ^ width
  write := leBytes width
  read data := (readLE width data 0).map fun n => (n, data.drop width)
  read_eq_some := by
    intro data n rest
    simp only [Option.map_eq_some_iff, Prod.mk.injEq, readLE_zero_eq_some]
    constructor
    · rintro ⟨m, ⟨hlt, hdata⟩, rfl, rfl⟩
      exact ⟨hlt, hdata⟩
    · rintro ⟨hlt, rfl⟩
      have hdrop : (leBytes width n ++ rest).drop width = rest :=
        List.drop_left' (leBytes_length ..)
      exact ⟨n, ⟨hlt, by rw [hdrop]⟩, rfl, hdrop⟩

/-- Exactly `n` bytes. -/
def fixed (n : Nat) : Format (Vector UInt8 n) where
  Valid _ := True
  write := Vector.toList
  read data :=
    if h : n ≤ data.length then
      some (⟨(data.take n).toArray, by simp [h]⟩, data.drop n)
    else none
  read_eq_some := by
    intro data a rest
    constructor
    · intro h
      split_ifs at h with hlong
      obtain ⟨rfl, rfl⟩ := Prod.mk.inj (Option.some.inj h)
      exact ⟨trivial, by simp [Vector.toList]⟩
    · rintro ⟨-, rfl⟩
      have htake : (a.toList ++ rest).take n = a.toList := List.take_left' a.length_toList
      have hdrop : (a.toList ++ rest).drop n = rest := List.drop_left' a.length_toList
      rw [dif_pos (by simp)]
      simp only [hdrop, Option.some.injEq, Prod.mk.injEq, and_true]
      exact Vector.toList_inj.mp htake

/-- A byte string behind its length in `width` bytes. -/
def prefixed (width : Nat) : Format Bytes where
  Valid content := content.length < 256 ^ width
  write content := leBytes width content.length ++ content
  read data := do
    let (length, rest) ← (word width).read data
    if length ≤ rest.length then some (rest.take length, rest.drop length) else none
  read_eq_some := by
    intro data content rest
    simp only [Option.bind_eq_bind, Option.bind_eq_some_iff, Prod.exists, (word width).read_eq_some]
    constructor
    · rintro ⟨length, tail, ⟨hlt, rfl⟩, htake⟩
      split_ifs at htake with hlong
      obtain ⟨rfl, rfl⟩ := Prod.mk.inj (Option.some.inj htake)
      rw [List.length_take_of_le hlong, List.append_assoc, List.take_append_drop]
      exact ⟨hlt, rfl⟩
    · rintro ⟨hshort, rfl⟩
      refine ⟨content.length, content ++ rest, ⟨hshort, List.append_assoc ..⟩, ?_⟩
      rw [if_pos (by simp), List.take_left, List.drop_left]

/-! ### Compounds -/

/-- One value after the other. -/
def pair (f : Format α) (g : Format β) : Format (α × β) where
  Valid a := f.Valid a.1 ∧ g.Valid a.2
  write a := f.write a.1 ++ g.write a.2
  read data := do
    let (a, rest) ← f.read data
    let (b, rest) ← g.read rest
    some ((a, b), rest)
  read_eq_some := by
    rintro data ⟨a, b⟩ rest
    simp only [Option.bind_eq_bind, Option.bind_eq_some_iff, Prod.exists, f.read_eq_some,
      g.read_eq_some, Option.some.injEq, Prod.mk.injEq]
    constructor
    · rintro ⟨a, tail, ⟨ha, rfl⟩, b, rest, ⟨hb, rfl⟩, ⟨rfl, rfl⟩, rfl⟩
      exact ⟨⟨ha, hb⟩, (List.append_assoc ..).symm⟩
    · rintro ⟨⟨ha, hb⟩, rfl⟩
      exact ⟨a, _, ⟨ha, List.append_assoc ..⟩, b, rest, ⟨hb, rfl⟩, ⟨rfl, rfl⟩, rfl⟩

/-- The values of another type, of which each is written as one of the first. -/
def convert (f : Format α) (ofRaw : α → Option β) (toRaw : β → α)
    (h : ∀ {a b}, f.Valid a → (ofRaw a = some b ↔ a = toRaw b)) : Format β where
  Valid b := f.Valid (toRaw b)
  write b := f.write (toRaw b)
  read data := do
    let (a, rest) ← f.read data
    let b ← ofRaw a
    some (b, rest)
  read_eq_some := by
    intro data b rest
    simp only [Option.bind_eq_bind, Option.bind_eq_some_iff, Prod.exists, f.read_eq_some,
      Option.some.injEq, Prod.mk.injEq]
    constructor
    · rintro ⟨a, rest, ⟨ha, rfl⟩, b, hb, rfl, rfl⟩
      obtain rfl := (h ha).mp hb
      exact ⟨ha, rfl⟩
    · rintro ⟨hb, rfl⟩
      exact ⟨_, rest, ⟨hb, rfl⟩, b, (h hb).mpr rfl, rfl, rfl⟩

/-- Alternatives, each behind a tag of its own. -/
structure Tags (κ : Type) where
  kinds : List κ
  tag : κ → Bytes
  width : Nat
  length_tag : ∀ k ∈ kinds, (tag k).length = width
  tag_inj : ∀ k ∈ kinds, ∀ k' ∈ kinds, tag k = tag k' → k = k'

/-- The alternative whose tag the data begins with. -/
def Tags.find (tags : Tags κ) (data : Bytes) : Option κ :=
  tags.kinds.find? fun k => tags.tag k = data.take tags.width

theorem Tags.find_eq_some (tags : Tags κ) {data : Bytes} {k : κ} :
    tags.find data = some k ↔ k ∈ tags.kinds ∧ tags.tag k = data.take tags.width := by
  constructor
  · intro h
    exact ⟨List.mem_of_find?_eq_some h, by simpa using List.find?_some h⟩
  · rintro ⟨hmem, htag⟩
    cases hfound : tags.find data with
    | none =>
      have hnone := List.find?_eq_none.mp hfound k hmem
      simp [htag] at hnone
    | some k' =>
      have htag' : tags.tag k' = data.take tags.width := by simpa using List.find?_some hfound
      rw [tags.tag_inj k' (List.mem_of_find?_eq_some hfound) k hmem (htag'.trans htag.symm)]

/-- Data that begins with a tag is of its kind. -/
theorem Tags.find_append (tags : Tags κ) {k : κ} (h : k ∈ tags.kinds) {rest : Bytes} :
    tags.find (tags.tag k ++ rest) = some k := by
  rw [tags.find_eq_some, List.take_left' (tags.length_tag k h)]
  exact ⟨h, rfl⟩

/-- A tag, and what it announces. -/
def tagged (tags : Tags κ) {τ : κ → Type} (body : (k : κ) → Format (τ k)) :
    Format ((k : κ) × τ k) where
  Valid a := a.1 ∈ tags.kinds ∧ (body a.1).Valid a.2
  write a := tags.tag a.1 ++ (body a.1).write a.2
  read data := do
    let k ← tags.find data
    let (a, rest) ← (body k).read (data.drop tags.width)
    some (⟨k, a⟩, rest)
  read_eq_some := by
    rintro data ⟨k, a⟩ rest
    simp only [Option.bind_eq_bind, Option.bind_eq_some_iff, Prod.exists, tags.find_eq_some,
      (body _).read_eq_some, Option.some.injEq, Prod.mk.injEq, Sigma.mk.injEq]
    constructor
    · rintro ⟨k', ⟨hmem, htag⟩, a', rest', ⟨hvalid, hrest⟩, ⟨rfl, ha⟩, rfl⟩
      obtain rfl := eq_of_heq ha
      refine ⟨⟨hmem, hvalid⟩, ?_⟩
      rw [htag, List.append_assoc, ← hrest, List.take_append_drop]
    · rintro ⟨⟨hmem, hvalid⟩, rfl⟩
      have hlength := tags.length_tag k hmem
      refine ⟨k, ⟨hmem, ?_⟩, a, rest, ⟨hvalid, ?_⟩, ⟨rfl, HEq.rfl⟩, rfl⟩
      · rw [List.append_assoc, List.take_left' hlength]
      · rw [List.append_assoc, List.drop_left' hlength]

/-! ### Borsh -/

def u8 : Format UInt8 :=
  (word 1).convert (fun n => some (UInt8.ofNat n)) UInt8.toNat fun {n b} hn => by
    rw [Option.some_inj, ← UInt8.toNat_inj, UInt8.toNat_ofNat_of_lt' hn]

def u32 : Format UInt32 :=
  (word 4).convert (fun n => some (UInt32.ofNat n)) UInt32.toNat fun {n b} hn => by
    rw [Option.some_inj, ← UInt32.toNat_inj, UInt32.toNat_ofNat_of_lt' hn]

def u64 : Format UInt64 :=
  (word 8).convert (fun n => some (UInt64.ofNat n)) UInt64.toNat fun {n b} hn => by
    rw [Option.some_inj, ← UInt64.toNat_inj, UInt64.toNat_ofNat_of_lt' hn]

def i64 : Format Int64 :=
  u64.convert (fun n => some n.toInt64) Int64.toUInt64 fun {n b} _ => by
    constructor
    · intro h
      rw [← Option.some.inj h, UInt64.toUInt64_toInt64]
    · rintro rfl
      rw [Int64.toInt64_toUInt64]

/-- One byte, of which only 0 and 1 are read. -/
def bool : Format Bool :=
  u8.convert (fun b => if b = 0 then some false else if b = 1 then some true else none)
    (fun b => if b then 1 else 0) fun {n b} _ => by
    cases b <;> split_ifs <;> simp_all

/-- UTF-8 behind the number of its bytes. -/
def string : Format String :=
  (prefixed 4).convert
    (fun content =>
      if h : ByteArray.IsValidUTF8 ⟨content.toArray⟩ then some (.ofByteArray _ h) else none)
    (fun s => s.toByteArray.data.toList) fun {content s} _ => by
    constructor
    · intro h
      split_ifs at h with hvalid
      rw [← Option.some.inj h]
    · rintro rfl
      rw [dif_pos s.isValidUTF8]

/-! ### Sizes -/

section Sizes

@[simp] theorem length_write_fixed {n : Nat} (a : Vector UInt8 n) :
    ((fixed n).write a).length = n := a.length_toList

@[simp] theorem length_write_pair (f : Format α) (g : Format β) (a : α × β) :
    ((f.pair g).write a).length = (f.write a.1).length + (g.write a.2).length :=
  List.length_append

@[simp] theorem length_write_u8 (a : UInt8) : (u8.write a).length = 1 := leBytes_length ..

@[simp] theorem length_write_u32 (a : UInt32) : (u32.write a).length = 4 := leBytes_length ..

@[simp] theorem length_write_u64 (a : UInt64) : (u64.write a).length = 8 := leBytes_length ..

@[simp] theorem length_write_i64 (a : Int64) : (i64.write a).length = 8 := leBytes_length ..

@[simp] theorem length_write_bool (a : Bool) : (bool.write a).length = 1 := leBytes_length ..

@[simp] theorem length_write_string (s : String) :
    (string.write s).length = 4 + s.utf8ByteSize := by
  have hlength : (string.write s).length = 4 + s.toByteArray.data.toList.length := by
    simp [string, convert, prefixed]
  rw [hlength]
  rfl

end Sizes

/-! ### What is valid -/

section Valid

@[simp] theorem valid_unit (a : Unit) : unit.Valid a := trivial

@[simp] theorem valid_fixed {n : Nat} (a : Vector UInt8 n) : (fixed n).Valid a := trivial

@[simp] theorem valid_pair (f : Format α) (g : Format β) (a : α × β) :
    (f.pair g).Valid a ↔ f.Valid a.1 ∧ g.Valid a.2 := Iff.rfl

@[simp] theorem valid_u8 (a : UInt8) : u8.Valid a := a.toNat_lt

@[simp] theorem valid_u32 (a : UInt32) : u32.Valid a := a.toNat_lt

@[simp] theorem valid_u64 (a : UInt64) : u64.Valid a := a.toNat_lt

@[simp] theorem valid_i64 (a : Int64) : i64.Valid a := valid_u64 _

@[simp] theorem valid_bool (a : Bool) : bool.Valid a := valid_u8 _

@[simp] theorem valid_string (s : String) : string.Valid s ↔ s.utf8ByteSize < 2 ^ 32 := Iff.rfl

end Valid

end Format

end Solana
