import YieldAdapter.Interface

/-!
# The instruction format, in both directions

The dispatcher writes instructions by hand and the adapters read them with the decoder
Anchor generates. The decoder is restated with the bytes it leaves unread, and is shown
to accept exactly the encodings: of a byte string that begins with one it returns the
instruction and the rest.
-/

set_option autoImplicit false

namespace YieldAdapter

open Solana

/-! ### The decoder and what it leaves -/

/-- Borsh `Vec<u8>`, and the bytes after it. -/
def readVec (data : Bytes) : Option (Bytes × Bytes) := do
  let length ← readLE 4 data 0
  if 4 + length ≤ data.length then
    some ((data.drop 4).take length, data.drop (4 + length))
  else none

/-- Borsh `u64` and `Vec<u8>`, and the bytes after them. -/
def readU64Vec (data : Bytes) : Option ((UInt64 × Bytes) × Bytes) := do
  let n ← readLE 8 data 0
  let (adapterData, rest) ← readVec (data.drop 8)
  pure ((UInt64.ofNat n, adapterData), rest)

namespace AdapterInstruction

/-- `decode`, keeping the bytes it does not look at. -/
def read (data : Bytes) : Except Error (AdapterInstruction × Bytes) :=
  let arguments (decoded : Option (AdapterInstruction × Bytes)) :
      Except Error (AdapterInstruction × Bytes) :=
    decoded.elim (.error (.anchor .instructionDidNotDeserialize)) .ok
  if data.take 8 = Discriminator.adapterInitialize.bytes then
    arguments ((readVec (data.drop 8)).map fun a => (.init a.1, a.2))
  else if data.take 8 = Discriminator.adapterDeposit.bytes then
    arguments ((readU64Vec (data.drop 8)).map fun a => (.deposit a.1.1 a.1.2, a.2))
  else if data.take 8 = Discriminator.adapterWithdraw.bytes then
    arguments ((readU64Vec (data.drop 8)).map fun a => (.withdraw a.1.1 a.1.2, a.2))
  else if data.take 8 = Discriminator.adapterCurrentValue.bytes then
    arguments ((readVec (data.drop 8)).map fun a => (.currentValue a.1, a.2))
  else .error (.anchor .instructionFallbackNotFound)

/-- The dispatcher's encoder of each instruction. -/
def encode : AdapterInstruction → Bytes
  | .init adapterData => encodeInitialize adapterData
  | .deposit amount adapterData => encodeDeposit amount adapterData
  | .withdraw shares adapterData => encodeWithdraw shares adapterData
  | .currentValue adapterData => encodeCurrentValue adapterData

/-- The opaque bytes an instruction carries. -/
def adapterData : AdapterInstruction → Bytes
  | .init adapterData => adapterData
  | .deposit _ adapterData => adapterData
  | .withdraw _ adapterData => adapterData
  | .currentValue adapterData => adapterData

end AdapterInstruction

section Read

variable {data content rest : Bytes} {n : UInt64}

theorem decodeVec_eq_map : decodeVec data = (readVec data).map Prod.fst := by
  unfold decodeVec readVec
  cases readLE 4 data 0 with
  | none => rfl
  | some length =>
    change (if _ then _ else _) = Option.map _ (if _ then _ else _)
    split_ifs <;> rfl

theorem decodeU64Vec_eq_map : decodeU64Vec data = (readU64Vec data).map Prod.fst := by
  unfold decodeU64Vec readU64Vec
  rw [decodeVec_eq_map]
  cases readLE 8 data 0 with
  | none => rfl
  | some n => cases readVec (data.drop 8) <;> rfl

/-- The adapters' decoder is this one with the rest dropped. -/
theorem decode_eq_map : AdapterInstruction.decode data =
    (AdapterInstruction.read data).map Prod.fst := by
  unfold AdapterInstruction.decode AdapterInstruction.read
  rw [decodeVec_eq_map, decodeU64Vec_eq_map]
  split_ifs
  · cases readVec (data.drop 8) <;> rfl
  · cases readU64Vec (data.drop 8) <;> rfl
  · cases readU64Vec (data.drop 8) <;> rfl
  · cases readVec (data.drop 8) <;> rfl
  · rfl

theorem readVec_eq_some : readVec data = some (content, rest) ↔
    content.length < 2 ^ 32 ∧ data = leBytes 4 content.length ++ (content ++ rest) := by
  unfold readVec
  constructor
  · intro h
    -- the length read is the length of what is taken
    obtain ⟨length, hlength, htake⟩ := Option.bind_eq_some_iff.mp h
    obtain ⟨hlt, hdata⟩ := readLE_zero_eq_some.mp hlength
    split_ifs at htake with hlong
    obtain ⟨rfl, rfl⟩ := Prod.mk.inj (Option.some.inj htake)
    have hcontent : ((data.drop 4).take length).length = length := by
      rw [List.length_take_of_le]
      rw [List.length_drop]
      omega
    rw [hcontent, ← List.drop_drop, List.take_append_drop]
    exact ⟨hlt, hdata⟩
  · rintro ⟨hshort, rfl⟩
    have hdrop : (leBytes 4 content.length ++ (content ++ rest)).drop 4 = content ++ rest :=
      List.drop_left' (leBytes_length ..)
    have hlength : readLE 4 (leBytes 4 content.length ++ (content ++ rest)) 0 =
        some content.length := by
      rw [readLE_zero_eq_some, hdrop]
      exact ⟨hshort, rfl⟩
    rw [hlength]
    change (if _ then _ else _) = _
    rw [if_pos (by simp), ← List.drop_drop, hdrop, List.take_left, List.drop_left]

theorem readU64Vec_eq_some : readU64Vec data = some ((n, content), rest) ↔
    content.length < 2 ^ 32 ∧
      data = leBytes64 n ++ (leBytes 4 content.length ++ (content ++ rest)) := by
  unfold readU64Vec
  constructor
  · intro h
    -- first the word, then a vector as above
    obtain ⟨m, hm, hvec⟩ := Option.bind_eq_some_iff.mp h
    obtain ⟨⟨content', rest'⟩, hread, hpure⟩ := Option.bind_eq_some_iff.mp hvec
    obtain ⟨hpair, rfl⟩ := Prod.mk.inj (Option.some.inj hpure)
    obtain ⟨rfl, rfl⟩ := Prod.mk.inj hpair
    obtain ⟨hlt, hdata⟩ := readLE_zero_eq_some.mp hm
    obtain ⟨hshort, htail⟩ := readVec_eq_some.mp hread
    refine ⟨hshort, ?_⟩
    rw [leBytes64, UInt64.toNat_ofNat_of_lt' (by simpa using hlt), ← htail]
    exact hdata
  · rintro ⟨hshort, rfl⟩
    have hdrop : (leBytes64 n ++ (leBytes 4 content.length ++ (content ++ rest))).drop 8 =
        leBytes 4 content.length ++ (content ++ rest) := List.drop_left' (leBytes64_length n)
    have hword : readLE 8 (leBytes64 n ++ (leBytes 4 content.length ++ (content ++ rest))) 0 =
        some n.toNat := by
      rw [readLE_zero_eq_some, hdrop]
      exact ⟨by have := n.toNat_lt; omega, rfl⟩
    have hvec : readVec (leBytes 4 content.length ++ (content ++ rest)) = some (content, rest) :=
      readVec_eq_some.mpr ⟨hshort, rfl⟩
    rw [hword, hdrop, hvec]
    simp

/-- The arguments of an accepted instruction follow its eight bytes. -/
theorem eq_append_of_take {head : Bytes} (hhead : data.take 8 = head)
    (htail : data.drop 8 = content) : data = head ++ content := by
  rw [← hhead, ← htail, List.take_append_drop]

theorem elim_eq_ok {α : Type} {decoded : Option α} {a : α} {e : Error} :
    decoded.elim (.error e) Except.ok = .ok a ↔ decoded = some a := by
  cases decoded <;> simp

/-- The decoder accepts what begins with an encoding, and nothing else. -/
theorem read_ok {i : AdapterInstruction} : AdapterInstruction.read data = .ok (i, rest) ↔
    i.adapterData.length < 2 ^ 32 ∧ data = i.encode ++ rest := by
  constructor
  · intro h
    unfold AdapterInstruction.read at h
    split_ifs at h with hinit hdeposit hwithdraw hvalue
    · obtain ⟨⟨content, rest'⟩, hread, hpair⟩ := Option.map_eq_some_iff.mp (elim_eq_ok.mp h)
      obtain ⟨rfl, rfl⟩ := Prod.mk.inj hpair
      obtain ⟨hshort, htail⟩ := readVec_eq_some.mp hread
      refine ⟨hshort, (eq_append_of_take hinit htail).trans ?_⟩
      simp [AdapterInstruction.encode, encodeInitialize, encodeVec]
    · obtain ⟨⟨⟨n, content⟩, rest'⟩, hread, hpair⟩ := Option.map_eq_some_iff.mp (elim_eq_ok.mp h)
      obtain ⟨rfl, rfl⟩ := Prod.mk.inj hpair
      obtain ⟨hshort, htail⟩ := readU64Vec_eq_some.mp hread
      refine ⟨hshort, (eq_append_of_take hdeposit htail).trans ?_⟩
      simp [AdapterInstruction.encode, encodeDeposit, encodeU64Vec]
    · obtain ⟨⟨⟨n, content⟩, rest'⟩, hread, hpair⟩ := Option.map_eq_some_iff.mp (elim_eq_ok.mp h)
      obtain ⟨rfl, rfl⟩ := Prod.mk.inj hpair
      obtain ⟨hshort, htail⟩ := readU64Vec_eq_some.mp hread
      refine ⟨hshort, (eq_append_of_take hwithdraw htail).trans ?_⟩
      simp [AdapterInstruction.encode, encodeWithdraw, encodeU64Vec]
    · obtain ⟨⟨content, rest'⟩, hread, hpair⟩ := Option.map_eq_some_iff.mp (elim_eq_ok.mp h)
      obtain ⟨rfl, rfl⟩ := Prod.mk.inj hpair
      obtain ⟨hshort, htail⟩ := readVec_eq_some.mp hread
      refine ⟨hshort, (eq_append_of_take hvalue htail).trans ?_⟩
      simp [AdapterInstruction.encode, encodeCurrentValue, encodeVec]
  · rintro ⟨hshort, rfl⟩
    -- each branch reads its arguments back; the earlier ones are not taken
    cases i with
    | init content =>
      have hvec := @readVec_eq_some _ content rest |>.mpr ⟨hshort, rfl⟩
      simp [AdapterInstruction.read, AdapterInstruction.encode, encodeInitialize, encodeVec,
        Discriminator.bytes, hvec]
    | deposit n content =>
      have hargs := @readU64Vec_eq_some _ content rest n |>.mpr ⟨hshort, rfl⟩
      simp [AdapterInstruction.read, AdapterInstruction.encode, encodeDeposit, encodeU64Vec,
        Discriminator.bytes, hargs]
    | withdraw n content =>
      have hargs := @readU64Vec_eq_some _ content rest n |>.mpr ⟨hshort, rfl⟩
      simp [AdapterInstruction.read, AdapterInstruction.encode, encodeWithdraw, encodeU64Vec,
        Discriminator.bytes, hargs]
    | currentValue content =>
      have hvec := @readVec_eq_some _ content rest |>.mpr ⟨hshort, rfl⟩
      simp [AdapterInstruction.read, AdapterInstruction.encode, encodeCurrentValue, encodeVec,
        Discriminator.bytes, hvec]

end Read

/-! ### Distinct instructions -/

theorem encodeVec_inj {disc disc' : Discriminator} {data data' : Bytes}
    (h : encodeVec disc data = encodeVec disc' data') :
    disc.bytes = disc'.bytes ∧ data = data' := by
  obtain ⟨hdisc, htail⟩ := List.append_inj h (by cases disc <;> cases disc' <;> rfl)
  exact ⟨hdisc, (List.append_inj htail (by simp)).2⟩

theorem encodeU64Vec_inj {disc disc' : Discriminator} {n n' : UInt64} {data data' : Bytes}
    (h : encodeU64Vec disc n data = encodeU64Vec disc' n' data') :
    disc.bytes = disc'.bytes ∧ n = n' ∧ data = data' := by
  obtain ⟨hdisc, hargs⟩ := List.append_inj h (by cases disc <;> cases disc' <;> rfl)
  obtain ⟨hword, htail⟩ := List.append_inj hargs (by simp)
  exact ⟨hdisc, leBytes64_inj hword, (List.append_inj htail (by simp)).2⟩

/-- The eight bytes an instruction begins with. -/
def AdapterInstruction.discriminator : AdapterInstruction → Discriminator
  | .init _ => .adapterInitialize
  | .deposit _ _ => .adapterDeposit
  | .withdraw _ _ => .adapterWithdraw
  | .currentValue _ => .adapterCurrentValue

theorem Discriminator.bytes_injective : Function.Injective Discriminator.bytes := by
  intro d d' h
  cases d <;> cases d' <;> first | rfl | exact absurd h (by decide)

/-- Equal encodings begin with equal bytes. -/
theorem discriminator_eq_of_encode {i j : AdapterInstruction} (h : i.encode = j.encode) :
    i.discriminator = j.discriminator := by
  have hhead : ∀ i : AdapterInstruction, i.encode.take 8 = i.discriminator.bytes := by
    intro i
    cases i <;> rfl
  apply Discriminator.bytes_injective
  rw [← hhead, ← hhead, h]

theorem encode_injective : Function.Injective AdapterInstruction.encode := by
  intro i j h
  have hdisc := discriminator_eq_of_encode h
  cases i with
  | init data => cases j with
    | init data' => rw [(encodeVec_inj h).2]
    | _ => cases hdisc
  | deposit n data => cases j with
    | deposit n' data' => rw [(encodeU64Vec_inj h).2.1, (encodeU64Vec_inj h).2.2]
    | _ => cases hdisc
  | withdraw n data => cases j with
    | withdraw n' data' => rw [(encodeU64Vec_inj h).2.1, (encodeU64Vec_inj h).2.2]
    | _ => cases hdisc
  | currentValue data => cases j with
    | currentValue data' => rw [(encodeVec_inj h).2]
    | _ => cases hdisc

/-- The encoders and the decoder agree on the whole format. -/
theorem codec_agrees :
    (∀ data : Bytes, AdapterInstruction.decode data =
      (AdapterInstruction.read data).map Prod.fst) ∧
    (∀ (n : UInt64) (data : Bytes), data.length < 2 ^ 32 →
      AdapterInstruction.read (encodeInitialize data) = .ok (.init data, []) ∧
      AdapterInstruction.read (encodeDeposit n data) = .ok (.deposit n data, []) ∧
      AdapterInstruction.read (encodeWithdraw n data) = .ok (.withdraw n data, []) ∧
      AdapterInstruction.read (encodeCurrentValue data) = .ok (.currentValue data, [])) ∧
    (Function.Injective encodeInitialize ∧
      Function.Injective (fun a : UInt64 × Bytes => encodeDeposit a.1 a.2) ∧
      Function.Injective (fun a : UInt64 × Bytes => encodeWithdraw a.1 a.2) ∧
      Function.Injective encodeCurrentValue ∧ Function.Injective AdapterInstruction.encode) ∧
    ∀ (bytes : Bytes) (i : AdapterInstruction),
      AdapterInstruction.read bytes = .ok (i, []) → i.encode = bytes := by
  have hwhole : ∀ i : AdapterInstruction, i.adapterData.length < 2 ^ 32 →
      AdapterInstruction.read i.encode = .ok (i, []) := by
    intro i hshort
    rw [read_ok, List.append_nil]
    exact ⟨hshort, rfl⟩
  -- each encoder is a case of `encode`
  refine ⟨fun _ => decode_eq_map, ?_, ⟨?_, ?_, ?_, ?_, encode_injective⟩, ?_⟩
  · intro n data hshort
    exact ⟨hwhole (.init data) hshort, hwhole (.deposit n data) hshort,
      hwhole (.withdraw n data) hshort, hwhole (.currentValue data) hshort⟩
  · exact fun data data' h => (encodeVec_inj h).2
  · exact fun a b h => Prod.ext (encodeU64Vec_inj h).2.1 (encodeU64Vec_inj h).2.2
  · exact fun a b h => Prod.ext (encodeU64Vec_inj h).2.1 (encodeU64Vec_inj h).2.2
  · exact fun data data' h => (encodeVec_inj h).2
  · intro bytes i h
    have hbytes := (read_ok.mp h).2
    rw [hbytes, List.append_nil]

end YieldAdapter
