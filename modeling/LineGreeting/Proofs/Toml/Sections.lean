import LineGreeting.Toml.Decode
import LineGreeting.Proofs.Toml.Keys

/-! # What a section says

A section is read entry by entry over its default. Each entry is about the field of its key
and leaves the other fields alone, so with no key twice a field is what the section says under
its key, wherever that stands, or else its default. The reading succeeds exactly if there is
a value of the right kind under each known key.
-/

namespace LineGreeting

section Attempts

variable {α β ε ε' : Type} {attempt : Except ε α}

theorem map_eq_ok_iff {f : α → β} {result : β} :
    attempt.map f = .ok result ↔ ∃ a, attempt = .ok a ∧ f a = result := by
  cases attempt <;> simp [Except.map]

theorem exists_map_eq_ok_iff {f : α → β} :
    (∃ result, attempt.map f = .ok result) ↔ ∃ a, attempt = .ok a := by
  cases attempt <;> simp [Except.map]

theorem mapError_eq_ok_iff {f : ε → ε'} {result : α} :
    attempt.mapError f = .ok result ↔ attempt = .ok result := by
  cases attempt <;> simp [Except.mapError]

theorem bind_eq_ok_iff {next : α → Except ε β} {result : β} :
    attempt >>= next = .ok result ↔ ∃ a, attempt = .ok a ∧ next a = .ok result := by
  cases attempt <;> simp [bind, Except.bind]

end Attempts

namespace Toml

/-! ## Kinds of values -/

/-- A value that is a text. -/
def Value.IsString (text : String) (value : Value) : Prop :=
  value = .string text

/-- A value that is a truth value. -/
def Value.IsBoolean (truth : Bool) (value : Value) : Prop :=
  value = .boolean truth

/-- A value that is a number without a sign. -/
def Value.IsNatural (number : Nat) (value : Value) : Prop :=
  value = .integer number

/-- A table or an array with nothing in it. -/
inductive Value.IsEmpty : Value → Prop
  | table : IsEmpty (.table [])
  | array : IsEmpty (.array [])
  | tables : IsEmpty (.tables [])

/-- A value that chooses by a name: the name, or a table with only the name and nothing
under it. -/
inductive Value.IsChoice (name : String) : Value → Prop
  | name : IsChoice name (.string name)
  | table {value : Value} (hempty : value.IsEmpty) : IsChoice name (.table [(name, value)])

variable {α β ε : Type} {value : Value}

theorem expectString_eq_ok_iff {text : String} :
    expectString value = .ok text ↔ value.IsString text := by
  cases value <;> simp [expectString, Value.IsString]

theorem expectBool_eq_ok_iff {truth : Bool} :
    expectBool value = .ok truth ↔ value.IsBoolean truth := by
  cases value <;> simp [expectBool, Value.IsBoolean]

theorem expectNat_eq_ok_iff {bound number : Nat} {kind : String} :
    expectNat bound kind value = .ok number ↔ number < bound ∧ value.IsNatural number := by
  unfold expectNat Value.IsNatural
  split
  next found =>
    split
    next hrange =>
      simp only [Except.ok.injEq, Value.integer.injEq]
      omega
    next hrange =>
      simp only [reduceCtorEq, Value.integer.injEq, false_iff]
      omega
  next hother =>
    simp only [reduceCtorEq, false_iff, not_and]
    rintro - rfl
    exact hother _ rfl

theorem expectVariant_eq_ok_iff {variants : List (String × α)} {name : String} {variant : α} :
    expectVariant variants name = .ok variant ↔ variants.lookup name = some variant := by
  unfold expectVariant
  cases variants.lookup name <;> simp

theorem expectChoice_eq_ok_iff {variants : List (String × α)} {variant : α} :
    expectChoice variants value = .ok variant ↔
      ∃ name, variants.lookup name = some variant ∧ value.IsChoice name := by
  constructor
  · intro hexpect
    unfold expectChoice at hexpect
    split at hexpect
    next name => exact ⟨name, expectVariant_eq_ok_iff.mp hexpect, .name⟩
    next => cases hexpect
    next name under =>
      obtain ⟨found, hvariant, hexpect⟩ := bind_eq_ok_iff.mp hexpect
      have hlookup := expectVariant_eq_ok_iff.mp hvariant
      split at hexpect <;> cases hexpect
      · exact ⟨name, hlookup, .table .table⟩
      · exact ⟨name, hlookup, .table .array⟩
      · exact ⟨name, hlookup, .table .tables⟩
    next => cases hexpect
    next => cases hexpect
  · rintro ⟨name, hlookup, _ | hempty⟩
    · exact expectVariant_eq_ok_iff.mpr hlookup
    · rw [expectChoice, expectVariant_eq_ok_iff.mpr hlookup]
      cases hempty <;> rfl

theorem map_expectString {put : String → β} {next : β} :
    (expectString value).map put = .ok next ↔ ∃ text, value.IsString text ∧ put text = next := by
  simp [map_eq_ok_iff, expectString_eq_ok_iff]

theorem map_expectBool {put : Bool → β} {next : β} :
    (expectBool value).map put = .ok next ↔ ∃ truth, value.IsBoolean truth ∧ put truth = next := by
  simp [map_eq_ok_iff, expectBool_eq_ok_iff]

theorem map_expectNat {put : Nat → β} {next : β} {size : Nat} {kind : String} {toNat : α → Nat}
    (hrange : ∀ number, number < size ↔ ∃ word, toNat word = number) :
    (expectNat size kind value).map put = .ok next ↔
      ∃ word, value.IsNatural (toNat word) ∧ put (toNat word) = next := by
  simp only [map_eq_ok_iff, expectNat_eq_ok_iff, hrange]
  constructor
  · rintro ⟨_, ⟨⟨word, rfl⟩, hvalue⟩, rfl⟩
    exact ⟨word, hvalue, rfl⟩
  · rintro ⟨word, hvalue, rfl⟩
    exact ⟨_, ⟨⟨word, rfl⟩, hvalue⟩, rfl⟩

theorem map_expectUInt16 {put : Nat → β} {next : β} {kind : String} :
    (expectNat UInt16.size kind value).map put = .ok next ↔
      ∃ word : UInt16, value.IsNatural word.toNat ∧ put word.toNat = next :=
  map_expectNat fun number =>
    ⟨fun hlt => ⟨.ofNat number, UInt16.toNat_ofNat_of_lt' hlt⟩,
      fun ⟨word, hword⟩ => hword ▸ word.toNat_lt_size⟩

theorem map_expectUInt32 {put : Nat → β} {next : β} {kind : String} :
    (expectNat UInt32.size kind value).map put = .ok next ↔
      ∃ word : UInt32, value.IsNatural word.toNat ∧ put word.toNat = next :=
  map_expectNat fun number =>
    ⟨fun hlt => ⟨.ofNat number, UInt32.toNat_ofNat_of_lt' hlt⟩,
      fun ⟨word, hword⟩ => hword ▸ word.toNat_lt_size⟩

theorem map_expectUInt64 {put : Nat → β} {next : β} {kind : String} :
    (expectNat UInt64.size kind value).map put = .ok next ↔
      ∃ word : UInt64, value.IsNatural word.toNat ∧ put word.toNat = next :=
  map_expectNat fun number =>
    ⟨fun hlt => ⟨.ofNat number, UInt64.toNat_ofNat_of_lt' hlt⟩,
      fun ⟨word, hword⟩ => hword ▸ word.toNat_lt_size⟩

theorem exists_ok_iff {attempt : Except ε β} {tells : α → Prop} {put : α → β}
    (hattempt : ∀ next, attempt = .ok next ↔ ∃ told, tells told ∧ put told = next) :
    (∃ next, attempt = .ok next) ↔ ∃ told, tells told := by
  simp only [hattempt]
  exact ⟨fun ⟨_, told, htells, _⟩ => ⟨told, htells⟩, fun ⟨told, htells⟩ => ⟨_, told, htells, rfl⟩⟩

/-! ## Reading a table -/

/-- What a field is if so much is said of it: its default if nothing is. -/
inductive Told (tells : α → Value → Prop) (default : α) : Option Value → α → Prop
  | nothing : Told tells default none default
  | value {value : Value} {result : α} (htells : tells result value) :
      Told tells default (some value) result

/-- A field that has been given by a value. -/
def Gives (tells : α → Value → Prop) (given : Option α) (value : Value) : Prop :=
  ∃ told, given = some told ∧ tells told value

theorem Told.getD {tells : α → Value → Prop} {said : Option Value} {given : Option α}
    (htold : Told (Gives tells) none said given) (default : α) :
    Told tells default said (given.getD default) := by
  cases htold with
  | nothing => exact .nothing
  | value hgives =>
      obtain ⟨told, rfl, htells⟩ := hgives
      exact .value htells

namespace Layout

variable {σ : Type} {layout : Layout σ} {key : String} {field : σ → α}
variable {tells : α → Value → Prop}

/-- The keys that a section knows. -/
def keys (layout : Layout σ) : List String :=
  layout.fields.map (·.name)

theorem setEntry_of_not_mem {sect : σ} {entry : String × Value}
    (hunknown : entry.1 ∉ layout.keys) : layout.setEntry sect entry = .ok sect := by
  have hnone : layout.fields.find? (·.name = entry.1) = none := by
    simpa [keys] using hunknown
  rw [setEntry, hnone]

/-- Whether a field is about one key: the entry of that key sets it to what its value tells,
and all other entries leave it alone. -/
structure Reads (layout : Layout σ) (key : String) (field : σ → α) (tells : α → Value → Prop) :
    Prop where
  here {sect next : σ} {value : Value} (hset : layout.setEntry sect (key, value) = .ok next) :
    tells (field next) value
  elsewhere {sect next : σ} {entry : String × Value} (hother : entry.1 ≠ key)
    (hset : layout.setEntry sect entry = .ok next) : field next = field sect

theorem reads {Sets : σ → String × Value → σ → Prop} (hkey : key ∈ layout.keys)
    (hsets : ∀ {sect entry next}, entry.1 ∈ layout.keys →
      layout.setEntry sect entry = .ok next → Sets sect entry next)
    (hfield : ∀ {sect entry next}, Sets sect entry next →
      (entry.1 = key → tells (field next) entry.2) ∧
      (entry.1 ≠ key → field next = field sect)) : layout.Reads key field tells where
  here hset := (hfield (hsets hkey hset)).1 rfl
  elsewhere {sect next entry} hother hset := by
    by_cases hknown : entry.1 ∈ layout.keys
    · exact (hfield (hsets hknown hset)).2 hother
    · rw [setEntry_of_not_mem hknown] at hset
      cases hset
      rfl

theorem read_cons_eq_ok_iff {entry : String × Value} {rest : Table} {start sect : σ} :
    layout.read start (.table (entry :: rest)) = .ok sect ↔
      ∃ next, layout.setEntry start entry = .ok next ∧
        layout.read next (.table rest) = .ok sect := by
  simp only [read, List.foldlM_cons, bind_eq_ok_iff]

theorem read_of_unknown {entries : Table} (hkeys : ∀ key ∈ layout.keys, key ∉ entries.map Prod.fst)
    (start : σ) : layout.read start (.table entries) = .ok start := by
  induction entries with
  | nil => rfl
  | cons entry rest ih =>
      simp only [List.map_cons, List.mem_cons, not_or] at hkeys
      have hunknown : entry.1 ∉ layout.keys := fun hmem => (hkeys _ hmem).1 rfl
      exact read_cons_eq_ok_iff.mpr ⟨start, setEntry_of_not_mem hunknown,
        ih fun key hkey => (hkeys key hkey).2⟩

theorem Reads.elsewhere_read (hreads : layout.Reads key field tells) {entries : Table}
    (hkey : key ∉ entries.map Prod.fst) {start sect : σ}
    (hread : layout.read start (.table entries) = .ok sect) : field sect = field start := by
  induction entries generalizing start with
  | nil =>
      cases hread
      rfl
  | cons entry rest ih =>
      rw [List.map_cons, List.mem_cons, not_or] at hkey
      obtain ⟨next, hset, hrest⟩ := read_cons_eq_ok_iff.mp hread
      rw [ih hkey.2 hrest, hreads.elsewhere (Ne.symm hkey.1) hset]

/-- With no key twice, a field is what the table says under its key, or as before. -/
theorem Reads.told (hreads : layout.Reads key field tells) {entries : Table}
    (hkeys : (entries.map Prod.fst).Nodup) {start sect : σ}
    (hread : layout.read start (.table entries) = .ok sect) :
    Told tells (field start) (entries.lookup key) (field sect) := by
  induction entries generalizing start with
  | nil =>
      cases hread
      exact .nothing
  | cons entry rest ih =>
      obtain ⟨name, value⟩ := entry
      rw [List.map_cons, List.nodup_cons] at hkeys
      obtain ⟨next, hset, hrest⟩ := read_cons_eq_ok_iff.mp hread
      by_cases hname : key = name
      · subst hname
        rw [List.lookup_cons_self, hreads.elsewhere_read hkeys.1 hrest]
        exact .value (hreads.here hset)
      · rw [List.lookup_cons, beq_false_of_ne hname,
          ← hreads.elsewhere (Ne.symm hname) hset]
        exact ih hkeys.2 hrest

/-- The keys of a section, and what each of their values has to be. -/
abbrev Kinds := List (String × (Value → Prop))

/-- Whether a value is of the right kind for its key, if the key is known. -/
def Kinds.Fits (kinds : Kinds) (entry : String × Value) : Prop :=
  ∀ kind ∈ kinds, kind.1 = entry.1 → kind.2 entry.2

/-- Whether an entry with a known key can be read exactly if its value is of the right kind. -/
structure HasKinds (layout : Layout σ) (kinds : Kinds) : Prop where
  keys : kinds.map Prod.fst = layout.keys
  setEntry : ∀ kind ∈ kinds, ∀ {sect value},
    (∃ next, layout.setEntry sect (kind.1, value) = .ok next) ↔ kind.2 value

variable {kinds : Kinds}

theorem HasKinds.exists_setEntry_iff (hkinds : layout.HasKinds kinds)
    {sect : σ} {entry : String × Value} :
    (∃ next, layout.setEntry sect entry = .ok next) ↔ kinds.Fits entry := by
  obtain ⟨key, value⟩ := entry
  constructor
  · rintro hset kind hmem rfl
    exact (hkinds.setEntry kind hmem).mp hset
  · intro hfits
    by_cases hknown : key ∈ layout.keys
    · rw [← hkinds.keys, List.mem_map] at hknown
      obtain ⟨kind, hmem, rfl⟩ := hknown
      exact (hkinds.setEntry kind hmem).mpr (hfits kind hmem rfl)
    · exact ⟨sect, setEntry_of_not_mem hknown⟩

/-- A table is read exactly if no known key has a value of a wrong kind. -/
theorem HasKinds.exists_read_iff (hkinds : layout.HasKinds kinds)
    {entries : Table} {start : σ} :
    (∃ sect, layout.read start (.table entries) = .ok sect) ↔
      ∀ entry ∈ entries, kinds.Fits entry := by
  induction entries generalizing start with
  | nil => exact ⟨fun _ => List.forall_mem_nil _, fun _ => ⟨start, rfl⟩⟩
  | cons entry rest ih =>
      rw [List.forall_mem_cons, ← hkinds.exists_setEntry_iff]
      constructor
      · rintro ⟨sect, hread⟩
        obtain ⟨next, hset, hrest⟩ := read_cons_eq_ok_iff.mp hread
        exact ⟨⟨next, hset⟩, ih.mp ⟨sect, hrest⟩⟩
      · rintro ⟨⟨next, hset⟩, hrest⟩
        obtain ⟨sect, hrest⟩ := ih.mpr hrest
        exact ⟨sect, read_cons_eq_ok_iff.mpr ⟨next, hset, hrest⟩⟩

end Layout

theorem forall_fits_iff {entries : Table} (hkeys : (entries.map Prod.fst).Nodup)
    {kinds : Layout.Kinds} :
    (∀ entry ∈ entries, kinds.Fits entry) ↔
      ∀ kind ∈ kinds, ∀ value, entries.lookup kind.1 = some value → kind.2 value := by
  constructor
  · intro hfits kind hmem value hlookup
    exact hfits (kind.1, value) (mem_of_lookup_eq_some hlookup) kind hmem rfl
  · rintro hall ⟨key, value⟩ hentry kind hmem rfl
    exact hall kind hmem value (lookup_of_mem hkeys hentry)

/-! ## The value under a key of a section -/

/-- The value under a key of a section, if the section is a table. -/
def Table.at? (table : Table) (name key : String) : Option Value :=
  match table.lookup name with
  | some (.table entries) => entries.lookup key
  | _ => none

theorem Table.at?_eq_some_iff {table : Table} {name key : String} {value : Value} :
    table.at? name key = some value ↔
      ∃ entries, table.lookup name = some (.table entries) ∧ entries.lookup key = some value := by
  unfold Table.at?
  split
  next entries hlookup => simp [hlookup]
  next hother =>
    simp only [reduceCtorEq, false_iff]
    rintro ⟨entries, hlookup, -⟩
    exact hother entries hlookup

/-- Whether each section with one of some names is a table, if it is there. -/
def Table.HasTables (table : Table) (names : List String) : Prop :=
  ∀ name ∈ names, ∀ value, table.lookup name = some value → ∃ entries, value = .table entries

section

variable {σ : Type} {layout : Layout σ} {table : Table} {name key : String}
variable {field : σ → α} {tells : α → Value → Prop} {start sect : σ}

theorem Layout.Reads.told_at (hreads : layout.Reads key field tells)
    (hdistinct : (Value.table table).Distinct)
    (htable : ∀ value, table.lookup name = some value → ∃ entries, value = .table entries)
    (htold : Told (fun sect value => layout.read start value = .ok sect) start
      (table.lookup name) sect) :
    Told tells (field start) (table.at? name key) (field sect) := by
  unfold Table.at?
  cases hlookup : table.lookup name with
  | none =>
      rw [hlookup] at htold
      cases htold
      exact .nothing
  | some value =>
      obtain ⟨entries, rfl⟩ := htable value hlookup
      rw [hlookup] at htold
      cases htold with
      | value hread => exact hreads.told (hdistinct.lookup hlookup).keys hread

/-- A section comes from its entries, and a missing one from none: that both have the same
defaults is what this takes. -/
theorem Told.exists_entries {τ : Type} {complete : σ → τ} {default : τ} {said : Option Value}
    {given : Option τ} (hdefault : complete start = default)
    (htold : Told (Gives fun sect value => (layout.read start value).map complete = .ok sect) none
      said given) :
    ∃ entries, given.getD default = complete entries ∧
      Told (fun entries value => layout.read start value = .ok entries) start said entries := by
  cases htold with
  | nothing => exact ⟨start, hdefault.symm, .nothing⟩
  | value hgives =>
      obtain ⟨sect, rfl, hread⟩ := hgives
      obtain ⟨entries, hentries, rfl⟩ := map_eq_ok_iff.mp hread
      exact ⟨entries, rfl, .value hentries⟩

variable {kinds : Layout.Kinds}

theorem Layout.HasKinds.of_read (hkinds : layout.HasKinds kinds)
    (hread : ∀ value, table.lookup name = some value → ∃ sect, layout.read start value = .ok sect) :
    ∀ kind ∈ kinds, ∀ value, table.at? name kind.1 = some value → kind.2 value := by
  intro kind hmem value hat
  obtain ⟨entries, hlookup, hentry⟩ := Table.at?_eq_some_iff.mp hat
  have hfits := hkinds.exists_read_iff.mp (hread _ hlookup)
  exact hfits (kind.1, value) (mem_of_lookup_eq_some hentry) kind hmem rfl

theorem Layout.HasKinds.exists_read (hkinds : layout.HasKinds kinds)
    (hdistinct : (Value.table table).Distinct)
    (htable : ∀ value, table.lookup name = some value → ∃ entries, value = .table entries)
    (hall : ∀ kind ∈ kinds, ∀ value, table.at? name kind.1 = some value → kind.2 value)
    (value : Value) (hlookup : table.lookup name = some value) :
    ∃ sect, layout.read start value = .ok sect := by
  obtain ⟨entries, rfl⟩ := htable value hlookup
  rw [hkinds.exists_read_iff, forall_fits_iff (hdistinct.lookup hlookup).keys]
  intro kind hmem value hentry
  exact hall kind hmem value (Table.at?_eq_some_iff.mpr ⟨entries, hlookup, hentry⟩)

end

end Toml

end LineGreeting
