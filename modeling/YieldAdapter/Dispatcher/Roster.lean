import YieldAdapter.Dispatcher.Governance

/-!
# The registry and its entries

The registry counts the whitelist entries, which are accounts of their own. One step
founds the registry, lists an adapter under the admin's signature, switches an entry on
or off under it, or leaves both kinds of account alone. Along any run the count is the
number of entries, and of what is written once only an entry's switch ever moves.
-/

set_option autoImplicit false

namespace YieldAdapter.Dispatcher

open Solana

/-! ### What one step does -/

/-- How one step changes the registry and the entries; `signed` are its signers. -/
inductive Enrolled (curve : Curve) (signed : Pubkey → Prop) (w w' : Chain) : Prop
  | unchanged (after : ∀ key, w'.typed? dispatcherId key = w.typed? dispatcherId key)
  | founded {registry : Pubkey} {r : Registry}
      (found : findProgramAddress curve dispatcherId registrySeeds = some (registry, r.bump))
      (vacant : w.typed? dispatcherId registry = none) (none_yet : r.adapterCount = 0)
      (after : ∀ key, w'.typed? dispatcherId key =
        if key = registry then some (.registry r) else w.typed? dispatcherId key)
  | listed {registry entry : Pubkey} {r : Registry} {e : AdapterEntry} {adapterCount : UInt32}
      (stored : w.typed? dispatcherId registry = some (.registry r)) (admin : signed r.admin)
      (found : findProgramAddress curve dispatcherId (entrySeeds e.adapterProgram) =
        some (entry, e.bump))
      (vacant : w.typed? dispatcherId entry = none)
      (version : e.interfaceVersion = adapterInterfaceVersion)
      (short : e.name.utf8ByteSize ≤ maxNameLen) (room : r.adapterCount < maxAdapters)
      (counted : checkedAddU32 r.adapterCount 1 = some adapterCount)
      (after : ∀ key, w'.typed? dispatcherId key =
        if key = entry then some (.adapterEntry e)
        else if key = registry then some (.registry { r with adapterCount })
        else w.typed? dispatcherId key)
  | switched {registry entry : Pubkey} {r : Registry} {e : AdapterEntry} (isActive : Bool)
      (stored : w.typed? dispatcherId registry = some (.registry r)) (admin : signed r.admin)
      (listed : w.typed? dispatcherId entry = some (.adapterEntry e))
      (after : ∀ key, w'.typed? dispatcherId key =
        if key = entry then some (.adapterEntry { e with isActive })
        else w.typed? dispatcherId key)
  | opened {position : Pubkey} {p : Position}
      (vacant : w.typed? dispatcherId position = none)
      (after : ∀ key, w'.typed? dispatcherId key =
        if key = position then some (.position p) else w.typed? dispatcherId key)

section Step

variable {curve : Curve} {w w' : Chain}

/-- What a request does to the registry and the entries, with the signatures it carried. -/
theorem enrolled_of_request {request : Request}
    (hexec : Lawful (· = dispatcherId) request.exec) :
    Enrolled curve request.ctx.Signer w (request.apply curve w) := by
  rcases request.apply_cases curve w with ⟨-, hunchanged⟩ | ⟨-, hcompleted⟩
  · rw [hunchanged]
    exact .unchanged fun _ => rfl
  have hprogram := request.program
  generalize request.apply curve w = w' at hcompleted
  generalize request.ix = ix at hcompleted
  cases hcompleted with
  | @initializeRegistry accounts bump w₁ loaded created owned =>
    obtain ⟨found, vacant, -⟩ := initState_ok created
    rw [hprogram] at found
    refine .founded (r := { admin := accounts.admin.key, adapterCount := 0, bump }) found
      (World.typed?_of_vacant vacant) rfl fun key => ?_
    rw [typed?_written hprogram, typed?_of_initState created]
    rfl
  | @whitelistAdapter name interfaceVersion bump adapterCount addedAt accounts w₁ loaded passed
      created short version room counted ownedRegistry ownedEntry =>
    obtain ⟨found, vacant, -⟩ := initState_ok created
    obtain ⟨⟨_, hslots⟩, hsigned, hregistry⟩ := WhitelistAdapter.load_ok loaded
    obtain ⟨-, hadmin, -⟩ := WhitelistAdapter.constraints_ok passed
    rw [hprogram] at found
    have hsigner : request.ctx.Signer accounts.registry.data.admin := by
      rw [hadmin]
      exact ⟨accounts.admin, by simp [hslots], rfl, hsigned⟩
    refine .listed (e :=
      { adapterProgram := accounts.adapterProgram.key, interfaceVersion, name
        isActive := true, addedAt, bump })
      (World.state?_eq_some_iff_typed?.mp hregistry) hsigner found
      (World.typed?_of_vacant vacant) version short room counted fun key => ?_
    rw [typed?_written hprogram, typed?_written hprogram, typed?_announced,
      typed?_of_initState created]
    rfl
  | @pauseAdapter paused accounts loaded passed owned =>
    obtain ⟨⟨_, hslots⟩, hsigned, hregistry, hentry⟩ := PauseAdapter.load_ok loaded
    obtain ⟨-, hadmin, -⟩ := PauseAdapter.constraints_ok passed
    have hsigner : request.ctx.Signer accounts.registry.data.admin := by
      rw [hadmin]
      exact ⟨accounts.admin, by simp [hslots], rfl, hsigned⟩
    refine .switched (!paused) (World.state?_eq_some_iff_typed?.mp hregistry) hsigner
      (World.state?_eq_some_iff_typed?.mp hentry) fun key => ?_
    rw [typed?_written hprogram, typed?_announced]
    rfl
  | openPosition loaded gate version created pooled routed owned =>
    exact .opened (World.typed?_of_vacant (initState_ok created).2.1)
      (typed?_of_opening (w := w.fresh) hprogram hexec created pooled routed)
  -- the three that move funds or price write neither
  | deposit accepted positive version funded routed returned owned =>
    exact .unchanged (typed?_of_deposit (w := w.fresh) hprogram hexec accepted funded routed)
  | withdraw accepted positive version routed returned paid owned =>
    exact .unchanged (typed?_of_withdraw (w := w.fresh) hprogram hexec accepted routed paid)
  | currentValue accepted version routed returned =>
    exact .unchanged ((invokeSigned_framed hexec routed).typed?_eq rfl)

/-- So does any step of a run; one outside the dispatcher needs no signature for it. -/
theorem enrolled_of_step {label : Option Request}
    (hstep : Step curve (Lawful (· = dispatcherId)) (· = dispatcherId) w label w') :
    ∃ signed, Enrolled curve signed w w' := by
  cases hstep with
  | request request hexec => exact ⟨_, enrolled_of_request hexec⟩
  | outside hframed => exact ⟨fun _ => False, .unchanged (hframed.typed?_eq rfl)⟩

end Step

/-! ### The roster -/

/-- The bytes of an entry: discriminator, address, version, length-prefixed name, switch,
time and bump. -/
def entryBytes (e : AdapterEntry) : Nat := 8 + 32 + 1 + (4 + e.name.utf8ByteSize) + 1 + 8 + 1

/-- `8 + AdapterEntry::INIT_SPACE`, the bytes allocated for one. -/
def entrySpace : Nat := 8 + (32 + 1 + (4 + maxNameLen) + 1 + 8 + 1)

/-- An entry as it must be stored, at the address of its adapter. -/
structure Entered (curve : Curve) (key : Pubkey) (e : AdapterEntry) : Prop where
  found : findProgramAddress curve dispatcherId (entrySeeds e.adapterProgram) = some (key, e.bump)
  version : e.interfaceVersion = adapterInterfaceVersion
  short : e.name.utf8ByteSize ≤ maxNameLen

theorem Entered.fits {curve : Curve} {key : Pubkey} {e : AdapterEntry} (h : Entered curve key e) :
    entryBytes e ≤ entrySpace := by
  have hshort := h.short
  unfold entryBytes entrySpace
  omega

/-- `entries` are the addresses of the entries, and the registry, if there is one, stands at
its own address and counts them. -/
structure Roster (curve : Curve) (w : Chain) (entries : List Pubkey) : Prop where
  nodup : entries.Nodup
  mem_iff : ∀ key, key ∈ entries ↔ ∃ e, w.typed? dispatcherId key = some (.adapterEntry e)
  entered : ∀ key e, w.typed? dispatcherId key = some (.adapterEntry e) → Entered curve key e
  governed : ∀ key e, w.typed? dispatcherId key = some (.adapterEntry e) →
    ∃ registry r, w.typed? dispatcherId registry = some (.registry r)
  founded : ∀ key r, w.typed? dispatcherId key = some (.registry r) →
    findProgramAddress curve dispatcherId registrySeeds = some (key, r.bump)
  counted : ∀ key r, w.typed? dispatcherId key = some (.registry r) →
    r.adapterCount.toNat = entries.length
  bounded : ∀ key r, w.typed? dispatcherId key = some (.registry r) → r.adapterCount ≤ maxAdapters

section Roster

variable {curve : Curve} {w w' : Chain} {entries : List Pubkey} {signed : Pubkey → Prop}

/-- Where the registry's address is vacant there are no entries. -/
theorem Roster.eq_nil (h : Roster curve w entries) {registry : Pubkey} {bump : UInt8}
    (hfound : findProgramAddress curve dispatcherId registrySeeds = some (registry, bump))
    (hvacant : w.typed? dispatcherId registry = none) : entries = [] := by
  apply List.eq_nil_iff_forall_not_mem.mpr
  intro key hmem
  obtain ⟨e, hentry⟩ := (h.mem_iff key).mp hmem
  obtain ⟨registry', r, hstored⟩ := h.governed key e hentry
  have hkey := h.founded registry' r hstored
  rw [hfound, Option.some_inj] at hkey
  rw [← (Prod.mk.inj hkey).1, hvacant] at hstored
  cases hstored

/-- Founding the registry starts the count at nothing. -/
theorem Roster.founding (h : Roster curve w entries) {registry : Pubkey} {r : Registry}
    (hfound : findProgramAddress curve dispatcherId registrySeeds = some (registry, r.bump))
    (hvacant : w.typed? dispatcherId registry = none) (hnone : r.adapterCount = 0)
    (hafter : ∀ key, w'.typed? dispatcherId key =
      if key = registry then some (.registry r) else w.typed? dispatcherId key) :
    Roster curve w' [] := by
  obtain rfl := h.eq_nil hfound hvacant
  -- without a registry there was no entry, and founding adds none
  have hentries : ∀ key e, w'.typed? dispatcherId key ≠ some (.adapterEntry e) := by
    intro key e hentry
    rw [hafter] at hentry
    split_ifs at hentry with hkey
    · cases hentry
    · exact List.not_mem_nil ((h.mem_iff key).mpr ⟨e, hentry⟩)
  have hregistry : ∀ key r', w'.typed? dispatcherId key = some (.registry r') →
      key = registry ∧ r' = r := by
    intro key r' hstored
    rw [hafter] at hstored
    split_ifs at hstored with hkey
    · cases hstored
      exact ⟨hkey, rfl⟩
    · have hother := h.founded key r' hstored
      rw [hfound, Option.some_inj] at hother
      exact absurd (Prod.mk.inj hother).1.symm hkey
  refine ⟨.nil, fun key => ?_, fun key e hentry => absurd hentry (hentries key e),
    fun key e hentry => absurd hentry (hentries key e), ?_, ?_, ?_⟩
  · simp only [List.not_mem_nil, false_iff, not_exists]
    exact hentries key
  · rintro key r' hstored
    obtain ⟨rfl, rfl⟩ := hregistry key r' hstored
    exact hfound
  · rintro key r' hstored
    obtain ⟨-, rfl⟩ := hregistry key r' hstored
    rw [hnone]
    rfl
  · rintro key r' hstored
    obtain ⟨-, rfl⟩ := hregistry key r' hstored
    rw [hnone]
    decide

/-- Counting one more, while there is room, is exact and keeps within the limit. -/
theorem counted_succ {n count : UInt32} (hroom : n < maxAdapters)
    (hcounted : checkedAddU32 n 1 = some count) :
    count.toNat = n.toNat + 1 ∧ count ≤ maxAdapters := by
  have hlt : n.toNat < maxAdapters.toNat := UInt32.lt_iff_toNat_lt.mp hroom
  have hmax : maxAdapters.toNat = 256 := by decide
  unfold checkedAddU32 at hcounted
  split_ifs at hcounted with hfits
  obtain rfl := Option.some.inj hcounted
  have hval : (n + 1).toNat = n.toNat + 1 := by
    rw [UInt32.toNat_add]
    exact Nat.mod_eq_of_lt hfits
  exact ⟨hval, by rw [UInt32.le_iff_toNat_le]; omega⟩

/-- Listing an adapter adds its entry and counts it. -/
theorem Roster.listing (h : Roster curve w entries) {registry entry : Pubkey} {r : Registry}
    {e : AdapterEntry} {adapterCount : UInt32}
    (hstored : w.typed? dispatcherId registry = some (.registry r))
    (hentered : Entered curve entry e) (hvacant : w.typed? dispatcherId entry = none)
    (hroom : r.adapterCount < maxAdapters)
    (hcounted : checkedAddU32 r.adapterCount 1 = some adapterCount)
    (hafter : ∀ key, w'.typed? dispatcherId key =
      if key = entry then some (.adapterEntry e)
      else if key = registry then some (.registry { r with adapterCount })
      else w.typed? dispatcherId key) :
    Roster curve w' (entry :: entries) := by
  -- what is in the roster is stored, and this address was vacant
  have hfresh : entry ∉ entries := by
    intro hmem
    obtain ⟨e', hentry⟩ := (h.mem_iff entry).mp hmem
    rw [hvacant] at hentry
    cases hentry
  have hne : registry ≠ entry := World.ne_of_vacant hvacant hstored
  have hregistry : w'.typed? dispatcherId registry =
      some (.registry { r with adapterCount }) := by
    rw [hafter, if_neg hne, if_pos rfl]
  -- an entry is the new one or an old one, the registry the one that was there
  have hentries : ∀ key e', w'.typed? dispatcherId key = some (.adapterEntry e') →
      key = entry ∧ e' = e ∨ w.typed? dispatcherId key = some (.adapterEntry e') := by
    intro key e' hentry
    rw [hafter] at hentry
    split_ifs at hentry with hkey hregistry
    · cases hentry
      exact .inl ⟨hkey, rfl⟩
    · cases hentry
    · exact .inr hentry
  have hregistries : ∀ key r', w'.typed? dispatcherId key = some (.registry r') →
      key = registry ∧ r' = { r with adapterCount } := by
    intro key r' hother
    rw [hafter] at hother
    split_ifs at hother with hentry hkey
    · cases hother
    · cases hother
      exact ⟨hkey, rfl⟩
    · have hkey' := h.founded key r' hother
      rw [h.founded registry r hstored, Option.some_inj] at hkey'
      exact absurd (Prod.mk.inj hkey').1.symm hkey
  obtain ⟨hcount, hbound⟩ := counted_succ hroom hcounted
  refine ⟨List.nodup_cons.mpr ⟨hfresh, h.nodup⟩, fun key => ?_, ?_, ?_, ?_, ?_, ?_⟩
  · rw [List.mem_cons, h.mem_iff, hafter]
    by_cases hkey : key = entry
    · simp [hkey]
    by_cases hkey' : key = registry
    · subst hkey'
      simp [hne, hstored]
    · simp [hkey, hkey']
  · intro key e' hentry
    rcases hentries key e' hentry with ⟨rfl, rfl⟩ | hold
    · exact hentered
    · exact h.entered key e' hold
  · exact fun _ _ _ => ⟨registry, _, hregistry⟩
  · intro key r' hother
    obtain ⟨rfl, rfl⟩ := hregistries key r' hother
    exact h.founded key r hstored
  · intro key r' hother
    obtain ⟨rfl, rfl⟩ := hregistries key r' hother
    rw [List.length_cons, ← h.counted key r hstored]
    exact hcount
  · intro key r' hother
    obtain ⟨-, rfl⟩ := hregistries key r' hother
    exact hbound

/-- A roster outlives whatever keeps the registry and moves at most the entries' switches. -/
theorem Roster.of_switches (h : Roster curve w entries)
    (hregistry : ∀ key r, w'.typed? dispatcherId key = some (.registry r) ↔
      w.typed? dispatcherId key = some (.registry r))
    (hentry : ∀ key e, w'.typed? dispatcherId key = some (.adapterEntry e) →
      ∃ isActive, w.typed? dispatcherId key = some (.adapterEntry { e with isActive }))
    (hkept : ∀ key e, w.typed? dispatcherId key = some (.adapterEntry e) →
      ∃ isActive, w'.typed? dispatcherId key = some (.adapterEntry { e with isActive })) :
    Roster curve w' entries := by
  refine ⟨h.nodup, fun key => ?_, ?_, ?_, ?_, ?_, ?_⟩
  · rw [h.mem_iff]
    constructor
    · rintro ⟨e, hold⟩
      obtain ⟨isActive, hnew⟩ := hkept key e hold
      exact ⟨_, hnew⟩
    · rintro ⟨e, hnew⟩
      obtain ⟨isActive, hold⟩ := hentry key e hnew
      exact ⟨_, hold⟩
  · intro key e hnew
    obtain ⟨isActive, hold⟩ := hentry key e hnew
    have hentered := h.entered key _ hold
    exact ⟨hentered.found, hentered.version, hentered.short⟩
  · intro key e hnew
    obtain ⟨isActive, hold⟩ := hentry key e hnew
    obtain ⟨registry, r, hstored⟩ := h.governed key _ hold
    exact ⟨registry, r, (hregistry registry r).mpr hstored⟩
  · exact fun key r hstored => h.founded key r ((hregistry key r).mp hstored)
  · exact fun key r hstored => h.counted key r ((hregistry key r).mp hstored)
  · exact fun key r hstored => h.bounded key r ((hregistry key r).mp hstored)

/-- One step keeps a roster, with at most one entry more. -/
theorem Roster.step (h : Roster curve w entries) (hstep : Enrolled curve signed w w') :
    ∃ entries', Roster curve w' entries' := by
  cases hstep with
  | unchanged after =>
    refine ⟨entries, h.of_switches (fun key r => by rw [after]) (fun key e hnew => ?_)
      fun key e hold => ?_⟩
    · exact ⟨e.isActive, by rw [← after]; exact hnew⟩
    · exact ⟨e.isActive, by rw [after]; exact hold⟩
  | founded found vacant none_yet after => exact ⟨[], h.founding found vacant none_yet after⟩
  | listed stored admin found vacant version short room counted after =>
    exact ⟨_, h.listing stored ⟨found, version, short⟩ vacant room counted after⟩
  -- a pause moves one switch, an opening nothing that the roster speaks of
  | @switched registry entry r e isActive stored admin listed after =>
    refine ⟨entries, h.of_switches (fun key r' => ?_) (fun key e' hnew => ?_)
      fun key e' hold => ?_⟩
    · rw [after]
      split_ifs with hkey
      · simp [hkey, listed]
      · rfl
    · rw [after] at hnew
      split_ifs at hnew with hkey
      · cases hnew
        exact ⟨e.isActive, by rw [hkey]; exact listed⟩
      · exact ⟨e'.isActive, hnew⟩
    · rw [after]
      split_ifs with hkey
      · rw [hkey, listed] at hold
        cases hold
        exact ⟨isActive, rfl⟩
      · exact ⟨e'.isActive, hold⟩
  | @opened position p vacant after =>
    refine ⟨entries, h.of_switches (fun key r => ?_) (fun key e hnew => ?_) fun key e hold => ?_⟩
    · rw [after]
      split_ifs with hkey
      · simp [hkey, vacant]
      · rfl
    · rw [after] at hnew
      split_ifs at hnew with hkey
      · cases hnew
      · exact ⟨e.isActive, hnew⟩
    · rw [after, if_neg (World.ne_of_vacant vacant hold)]
      exact ⟨e.isActive, hold⟩

/-! ### What is fixed for good -/

/-- The registry keeps its admin and never counts down; of an entry only the switch moves. -/
structure Kept (w w' : Chain) : Prop where
  registry : ∀ key r, w.typed? dispatcherId key = some (.registry r) →
    ∃ adapterCount, w'.typed? dispatcherId key = some (.registry { r with adapterCount }) ∧
      r.adapterCount ≤ adapterCount
  entry : ∀ key e, w.typed? dispatcherId key = some (.adapterEntry e) →
    ∃ isActive, w'.typed? dispatcherId key = some (.adapterEntry { e with isActive })

theorem Kept.refl (w : Chain) : Kept w w :=
  ⟨fun _ r h => ⟨r.adapterCount, h, UInt32.le_refl _⟩, fun _ e h => ⟨e.isActive, h⟩⟩

theorem Kept.trans {w'' : Chain} (h : Kept w w') (h' : Kept w' w'') : Kept w w'' := by
  refine ⟨fun key r hr => ?_, fun key e he => ?_⟩
  · obtain ⟨n, hn, hle⟩ := h.registry key r hr
    obtain ⟨n', hn', hle'⟩ := h'.registry key _ hn
    exact ⟨n', hn', UInt32.le_trans hle hle'⟩
  · obtain ⟨a, ha⟩ := h.entry key e he
    obtain ⟨a', ha'⟩ := h'.entry key _ ha
    exact ⟨a', ha'⟩

/-- One step moves nothing that is fixed. -/
theorem Enrolled.kept (h : Enrolled curve signed w w') : Kept w w' := by
  cases h with
  | unchanged after =>
    refine ⟨fun key r hr => ⟨r.adapterCount, ?_, UInt32.le_refl _⟩,
      fun key e he => ⟨e.isActive, ?_⟩⟩
    · rw [after]
      exact hr
    · rw [after]
      exact he
  | founded found vacant none_yet after =>
    refine ⟨fun key r hr => ⟨r.adapterCount, ?_, UInt32.le_refl _⟩,
      fun key e he => ⟨e.isActive, ?_⟩⟩
    · rw [after, if_neg (World.ne_of_vacant vacant hr)]
      exact hr
    · rw [after, if_neg (World.ne_of_vacant vacant he)]
      exact he
  | @listed registry entry r e adapterCount stored admin found vacant version short room counted
      after =>
    refine ⟨fun key r' hr => ?_, fun key e' he => ⟨e'.isActive, ?_⟩⟩
    · rw [after, if_neg (World.ne_of_vacant vacant hr)]
      split_ifs with hkey
      · rw [hkey, stored] at hr
        cases hr
        -- the count moves in this step alone, and up
        have hcount := (counted_succ room counted).1
        exact ⟨adapterCount, rfl, by rw [UInt32.le_iff_toNat_le]; omega⟩
      · exact ⟨r'.adapterCount, hr, UInt32.le_refl _⟩
    · have hne : key ≠ registry := World.ne_of_stored (by simp) he stored
      rw [after, if_neg (World.ne_of_vacant vacant he), if_neg hne]
      exact he
  | @switched registry entry r e isActive stored admin listed after =>
    refine ⟨fun key r' hr => ⟨r'.adapterCount, ?_, UInt32.le_refl _⟩, fun key e' he => ?_⟩
    · have hne : key ≠ entry := World.ne_of_stored (by simp) hr listed
      rw [after, if_neg hne]
      exact hr
    · rw [after]
      split_ifs with hkey
      · rw [hkey, listed] at he
        cases he
        exact ⟨isActive, rfl⟩
      · exact ⟨e'.isActive, he⟩
  | opened vacant after =>
    refine ⟨fun key r hr => ⟨r.adapterCount, ?_, UInt32.le_refl _⟩,
      fun key e he => ⟨e.isActive, ?_⟩⟩
    · rw [after, if_neg (World.ne_of_vacant vacant hr)]
      exact hr
    · rw [after, if_neg (World.ne_of_vacant vacant he)]
      exact he

/-- No registry and no entry exists yet. -/
def Unfounded (w : Chain) : Prop :=
  ∀ key, (∀ r, w.typed? dispatcherId key ≠ some (.registry r)) ∧
    ∀ e, w.typed? dispatcherId key ≠ some (.adapterEntry e)

theorem Unfounded.roster (h : Unfounded w) : Roster curve w [] where
  nodup := .nil
  mem_iff key := by simpa using (h key).2
  entered key e hentry := absurd hentry ((h key).2 e)
  governed key e hentry := absurd hentry ((h key).2 e)
  founded key r hstored := absurd hstored ((h key).1 r)
  counted key r hstored := absurd hstored ((h key).1 r)
  bounded key r hstored := absurd hstored ((h key).1 r)

/-- Every state of every run from an unfounded chain has a roster. -/
theorem roster_of_run {past : List (Chain × Option Request)}
    (run : HostileRun curve Unfounded past w) : ∃ entries, Roster curve w entries := by
  refine run.invariant (fun _ w => ∃ entries, Roster curve w entries) ?_ ?_
  · exact fun w₀ hunfounded => ⟨[], hunfounded.roster⟩
  · rintro past w₁ label w₂ - ⟨entries, hroster⟩ hstep
    obtain ⟨signed, henrolled⟩ := enrolled_of_step hstep
    exact hroster.step henrolled

/-- Along every run what is fixed stays. -/
theorem kept_of_run {past : List (Chain × Option Request)}
    (run : HostileRun curve (· = w) past w') : Kept w w' := by
  refine run.invariant (fun _ w' => Kept w w') ?_ ?_
  · rintro _ rfl
    exact .refl _
  · intro past w₁ label w₂ _ hkept hstep
    obtain ⟨signed, henrolled⟩ := enrolled_of_step hstep
    exact hkept.trans henrolled.kept

/-- An existing registry cannot be initialised again. -/
theorem Roster.not_done_initializeRegistry (h : Roster curve w entries) {request : Request}
    (hix : request.ix = .initializeRegistry) {registry : Pubkey} {r : Registry}
    (hstored : w.typed? dispatcherId registry = some (.registry r)) : ¬ request.Done curve w := by
  intro hdone
  have hfound := h.founded registry r hstored
  have hcompleted := Request.completed_of_done hdone
  rw [hix] at hcompleted
  generalize request.apply curve w = w' at hcompleted
  cases hcompleted with
  | initializeRegistry loaded created owned =>
    obtain ⟨found, vacant, -⟩ := initState_ok created
    rw [request.program, hfound, Option.some_inj] at found
    rw [← (Prod.mk.inj found).1] at vacant
    exact World.ne_of_vacant (World.typed?_of_vacant vacant) hstored rfl

/-- An entry appears or changes only under the signature of the registry's admin. -/
theorem Enrolled.signed_of_entry_changed (h : Enrolled curve signed w w') {key : Pubkey}
    {e : AdapterEntry} (hnew : w'.typed? dispatcherId key = some (.adapterEntry e))
    (hchanged : w.typed? dispatcherId key ≠ some (.adapterEntry e)) :
    ∃ registry r, w.typed? dispatcherId registry = some (.registry r) ∧ signed r.admin := by
  cases h with
  | unchanged after =>
    rw [after] at hnew
    exact absurd hnew hchanged
  | founded found vacant none_yet after =>
    rw [after] at hnew
    split_ifs at hnew
    · cases hnew
    · exact absurd hnew hchanged
  | listed stored admin found vacant version short room counted after => exact ⟨_, _, stored, admin⟩
  | switched isActive stored admin listed after => exact ⟨_, _, stored, admin⟩
  | opened vacant after =>
    rw [after] at hnew
    split_ifs at hnew
    · cases hnew
    · exact absurd hnew hchanged

end Roster

/-! ### The counter -/

section Counter

variable {curve : Curve} {ctx : Context} {w : Chain}

theorem WhitelistAdapter.load_ne_mathOverflow :
    WhitelistAdapter.load ctx w ≠ .error DispatcherError.mathOverflow := by
  unfold WhitelistAdapter.load
  split
  · refine except_bind_ne (check_ne (by decide)) fun _ => except_bind_ne ?_ fun _ => ?_
    · unfold loadState
      split
      · exact fun h => nomatch h
      · unfold loadError
        split
        · exact fun h => nomatch h
        · split_ifs <;> exact fun h => nomatch h
    · refine except_bind_ne ?_ fun _ h => nomatch h
      exact except_bind_ne (check_ne (by decide)) fun _ => check_ne (by decide)
  · exact fun h => nomatch h

theorem WhitelistAdapter.constraints_ne_mathOverflow (accounts : WhitelistAdapter) :
    accounts.constraints curve ctx w ≠ .error DispatcherError.mathOverflow := by
  refine except_bind_ne (check_ne (by decide)) fun _ => ?_
  refine except_bind_ne (check_ne (by decide)) fun _ => ?_
  refine except_bind_ne (check_ne (by decide)) fun _ => ?_
  exact except_bind_ne (check_ne (by decide)) fun _ => check_ne (by decide)

theorem initState_avoids {payer info : AccountInfo} {seeds : Seeds} :
    Exec.Avoids DispatcherError.mathOverflow.toError (initState curve ctx payer seeds info) w := by
  refine (Exec.avoids_ofOption _ (by decide)).bind fun _ _ _ => ?_
  refine (Exec.avoids_require _ (by decide)).bind fun _ _ _ => ?_
  refine Exec.Avoids.bind ?_ fun _ _ _ => ?_
  · refine (Exec.avoids_ofOption _ (by decide)).bind fun _ _ _ => ?_
    refine (Exec.avoids_require _ (by decide)).bind fun _ _ _ => ?_
    refine (Exec.avoids_require _ (by decide)).bind fun _ _ _ => ?_
    exact (Exec.avoids_modify _).bind fun _ _ _ => Exec.avoids_pure _
  · refine Exec.avoids_read.bind fun _ _ _ => ?_
    refine (Exec.avoids_require _ (by decide)).bind fun _ _ _ => ?_
    exact (Exec.avoids_modify _).bind fun _ _ _ => Exec.avoids_pure _

theorem store_avoids {τ : Type} [AnchorState ProgramState τ] {key : Pubkey} {state : τ} :
    Exec.Avoids DispatcherError.mathOverflow.toError (store τ ctx key state) w :=
  Exec.avoids_read.bind fun _ _ _ =>
    (Exec.avoids_require _ (by decide)).bind fun _ _ _ => Exec.avoids_modify _

/-- The limit is checked before the count, so the count never overflows. -/
theorem whitelistAdapter_avoids (name : String) (interfaceVersion : UInt8) :
    Exec.Avoids DispatcherError.mathOverflow.toError
      (whitelistAdapter curve ctx name interfaceVersion) w := by
  refine Exec.avoids_read.bind fun w _ _ => ?_
  refine (Exec.avoids_ofExcept WhitelistAdapter.load_ne_mathOverflow).bind fun accounts _ _ => ?_
  refine initState_avoids.bind fun bump _ _ => ?_
  refine (Exec.avoids_ofExcept (accounts.constraints_ne_mathOverflow)).bind fun _ _ _ => ?_
  refine (Exec.avoids_require _ (by decide)).bind fun _ _ _ => ?_
  refine (Exec.avoids_require _ (by decide)).bind fun _ _ _ => ?_
  refine (Exec.avoids_require _ (by decide)).bind fun _ _ hroom => ?_
  refine Exec.avoids_read.bind fun _ _ _ => ?_
  have hlt := UInt32.lt_iff_toNat_lt.mp (Exec.require_ok.mp hroom).1
  have hmax : maxAdapters.toNat = 256 := by decide
  have hcounted : checkedAddU32 accounts.registry.data.adapterCount 1 =
      some (accounts.registry.data.adapterCount + 1) :=
    if_pos (by rw [UInt32.toNat_one]; omega)
  rw [hcounted]
  refine Exec.Avoids.bind (fun h => nomatch h) fun adapterCount _ _ => ?_
  refine (Exec.avoids_modify _).bind fun _ _ _ => ?_
  exact store_avoids.bind fun _ _ _ => store_avoids

end Counter

/-- In every state of every run that starts without a registry, and on the way from it to any
later one: there is at most one registry, it counts the entries and cannot be initialised
again; each entry stands at its adapter's address with the fields it was listed with; and
nothing but a request the admin signed lists an adapter or moves an entry's switch. -/
theorem registry_invariant {curve : Curve} {past later : List (Chain × Option Request)}
    {w w' : Chain} (run : HostileRun curve Unfounded past w)
    (onward : HostileRun curve (· = w) later w') :
    (∃ entries, Roster curve w entries) ∧ Kept w w' ∧
    (∀ key key' e e', w.typed? dispatcherId key = some (.adapterEntry e) →
      w.typed? dispatcherId key' = some (.adapterEntry e') →
      (e.adapterProgram = e'.adapterProgram ↔ key = key')) ∧
    (∀ key e, w.typed? dispatcherId key = some (.adapterEntry e) → entryBytes e ≤ entrySpace) ∧
    (∀ request : Request,
      (request.ix = .initializeRegistry →
        (∃ key r, w.typed? dispatcherId key = some (.registry r)) → ¬ request.Done curve w) ∧
      ∀ name interfaceVersion, request.ix = .whitelistAdapter name interfaceVersion →
        (request.run curve w).1 ≠ .error DispatcherError.mathOverflow) ∧
    ∀ label next, Step curve (Lawful (· = dispatcherId)) (· = dispatcherId) w label next →
      ∀ key e, next.typed? dispatcherId key = some (.adapterEntry e) →
        w.typed? dispatcherId key ≠ some (.adapterEntry e) →
        ∃ request registry r, label = some request ∧
          w.typed? dispatcherId registry = some (.registry r) ∧ request.ctx.Signer r.admin := by
  obtain ⟨entries, hroster⟩ := roster_of_run run
  refine ⟨⟨entries, hroster⟩, kept_of_run onward, ?_, ?_, ?_, ?_⟩
  · intro key key' e e' he he'
    have hfound := (hroster.entered key e he).found
    have hfound' := (hroster.entered key' e' he').found
    -- one address an adapter, since the entry's address is derived from the adapter's
    constructor
    · intro hsame
      rw [hsame, hfound', Option.some_inj] at hfound
      exact (Prod.mk.inj hfound).1.symm
    · rintro rfl
      rw [he] at he'
      cases he'
      rfl
  · exact fun key e he => (hroster.entered key e he).fits
  · refine fun request => ⟨?_, ?_⟩
    · rintro hix ⟨key, r, hstored⟩
      exact hroster.not_done_initializeRegistry hix hstored
    · intro name interfaceVersion hix
      unfold Request.run
      rw [hix]
      exact whitelistAdapter_avoids name interfaceVersion
  · intro label next hstep key e hnew hchanged
    cases hstep with
    | request request hexec =>
      obtain ⟨registry, r, hstored, hsigned⟩ :=
        (enrolled_of_request hexec).signed_of_entry_changed hnew hchanged
      exact ⟨request, registry, r, rfl, hstored, hsigned⟩
    -- nothing outside the dispatcher writes its accounts
    | outside hframed =>
      rw [hframed.typed?_eq rfl] at hnew
      exact absurd hnew hchanged

namespace Sample

theorem unused_unfounded : Unfounded unused := by
  intro key
  rw [unused_unused key]
  simp

/-- A registry founded, an adapter listed in it, and its entry switched off and on again:
the entry of the moment it was listed is the one there now. -/
theorem registry_invariant_resumed :
    (∃ entries, Roster curve admitted entries) ∧ Kept admitted resumed ∧
      (admitted.typed? dispatcherId registryKey).isSome = true ∧
      (admitted.typed? dispatcherId (entryKey (.key 6))).isSome = true ∧
      admitted.typed? dispatcherId (entryKey (.key 6)) ≠
        suspended.typed? dispatcherId (entryKey (.key 6)) := by
  have hrun : HostileRun curve Unfounded [(founded, some listing), (unused, some founding)]
      admitted :=
    .step (.step (.start unused_unfounded) (.request _ idle_lawful)) (.request _ idle_lawful)
  have honward : HostileRun curve (· = admitted)
      [(suspended, some (pausing false)), (admitted, some (pausing true))] resumed :=
    .step (.step (.start rfl) (.request _ idle_lawful)) (.request _ idle_lawful)
  obtain ⟨hroster, hkept, -⟩ := registry_invariant hrun honward
  exact ⟨hroster, hkept, by decide +kernel, by decide +kernel, by decide +kernel⟩

end Sample

end YieldAdapter.Dispatcher
