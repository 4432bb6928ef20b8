import LineGreeting.Toml.Document
import Mathlib.Data.List.Nodup

/-! # No key twice

A table may be put together in many places of a document. Wherever they are, no two of them
give the same key, so what a table says under a key is one value and never depends on the
order of its entries.
-/

namespace LineGreeting.Toml

/-- Whether no table in a value has a key twice. -/
inductive Value.Distinct : Value → Prop
  | string (text : String) : Distinct (.string text)
  | integer (number : Int) : Distinct (.integer number)
  | float (number : Decimal.Binary64) : Distinct (.float number)
  | boolean (truth : Bool) : Distinct (.boolean truth)
  | date : Distinct .date
  | array {values : List Value} (hvalues : ∀ value ∈ values, Distinct value) :
      Distinct (.array values)
  | tables {elements : List Value} (helements : ∀ element ∈ elements, Distinct element) :
      Distinct (.tables elements)
  | table {entries : Table} (hkeys : (entries.map Prod.fst).Nodup)
      (hvalues : ∀ entry ∈ entries, Distinct entry.2) : Distinct (.table entries)

section Lookup

variable {α : Type} {entries : List (String × α)} {key : String} {a : α}

theorem mem_of_lookup_eq_some (hlookup : entries.lookup key = some a) : (key, a) ∈ entries := by
  obtain ⟨front, rest, rfl, -⟩ := List.lookup_eq_some_iff.mp hlookup
  exact List.mem_append_right _ List.mem_cons_self

theorem lookup_of_mem (hkeys : (entries.map Prod.fst).Nodup) (hmem : (key, a) ∈ entries) :
    entries.lookup key = some a := by
  induction entries with
  | nil => cases hmem
  | cons entry rest ih =>
      obtain ⟨name, value⟩ := entry
      rw [List.map_cons, List.nodup_cons] at hkeys
      rcases List.mem_cons.mp hmem with hhere | hrest
      · cases hhere
        exact List.lookup_cons_self
      · have hname : key ≠ name := by
          rintro rfl
          exact hkeys.1 (List.mem_map.mpr ⟨_, hrest, rfl⟩)
        rw [List.lookup_cons, beq_false_of_ne hname]
        exact ih hkeys.2 hrest

end Lookup

theorem Value.Distinct.keys {entries : Table} (hdistinct : (Value.table entries).Distinct) :
    (entries.map Prod.fst).Nodup := by
  cases hdistinct with | table hkeys _ => exact hkeys

theorem Value.Distinct.lookup {table : Table} (hdistinct : (Value.table table).Distinct)
    {name : String} {value : Value} (hlookup : table.lookup name = some value) :
    value.Distinct := by
  cases hdistinct with | table _ hvalues => exact hvalues _ (mem_of_lookup_eq_some hlookup)

/-- Whether no table in a draft will have a key twice. -/
structure Entries.Distinct (entries : Entries) : Prop where
  keys : (entries.map Prod.fst).Nodup
  items : ∀ entry ∈ entries, entry.2.finish.Distinct

theorem finishEntries_eq_map (entries : Entries) :
    finishEntries entries = entries.map fun entry => (entry.1, entry.2.finish) := by
  induction entries with
  | nil => rw [finishEntries, List.map_nil]
  | cons entry rest ih =>
      obtain ⟨key, item⟩ := entry
      rw [finishEntries, ih, List.map_cons]

theorem finishElements_eq_map (elements : List Entries) :
    finishElements elements = elements.map fun entries => .table (finishEntries entries) := by
  induction elements with
  | nil => rw [finishElements, List.map_nil]
  | cons entries rest ih => rw [finishElements, ih, List.map_cons]

namespace Entries

variable {entries after inner : Entries} {key : String} {item : Item} {path : List String}
variable {value : Value}

theorem distinct_iff : entries.Distinct ↔ (Value.table (finishEntries entries)).Distinct := by
  have hkeys : (finishEntries entries).map Prod.fst = entries.map Prod.fst := by
    rw [finishEntries_eq_map, List.map_map]
    rfl
  have hitems : (∀ entry ∈ finishEntries entries, entry.2.Distinct) ↔
      ∀ entry ∈ entries, entry.2.finish.Distinct := by
    rw [finishEntries_eq_map, List.forall_mem_map]
  constructor
  · rintro ⟨hnodup, hdistinct⟩
    exact .table (hkeys ▸ hnodup) (hitems.mpr hdistinct)
  · rintro (_ | _ | _ | _ | _ | _ | _ | ⟨hnodup, hdistinct⟩)
    exact ⟨hkeys ▸ hnodup, hitems.mp hdistinct⟩

theorem distinct_table_iff {origin : Origin} :
    (Item.table origin inner).finish.Distinct ↔ inner.Distinct := by
  rw [Item.finish, distinct_iff]

theorem distinct_tables_iff {elements : List Entries} :
    (Item.tables elements).finish.Distinct ↔ ∀ element ∈ elements, element.Distinct := by
  rw [Item.finish, finishElements_eq_map]
  constructor
  · rintro (_ | _ | _ | _ | _ | _ | helements)
    intro element hmem
    rw [distinct_iff]
    exact helements _ (List.mem_map_of_mem hmem)
  · intro helements
    refine .tables ?_
    rw [List.forall_mem_map]
    exact fun element hmem => distinct_iff.mp (helements element hmem)

theorem distinct_nil : Distinct [] := ⟨List.nodup_nil, List.forall_mem_nil _⟩

theorem not_mem_keys (hnone : entries.lookup key = none) : key ∉ entries.map Prod.fst := by
  intro hmem
  obtain ⟨entry, hentry, rfl⟩ := List.mem_map.mp hmem
  simpa using List.lookup_eq_none_iff.mp hnone entry hentry

theorem Distinct.concat (hdistinct : entries.Distinct) (hnone : entries.lookup key = none)
    (hitem : item.finish.Distinct) : Distinct (entries ++ [(key, item)]) where
  keys := by
    rw [List.map_append, List.map_cons, List.map_nil, ← List.concat_eq_append,
      List.nodup_concat]
    exact ⟨not_mem_keys hnone, hdistinct.keys⟩
  items := by
    intro entry hmem
    rcases List.mem_append.mp hmem with hold | hnew
    · exact hdistinct.items entry hold
    · rw [List.mem_singleton] at hnew
      subst hnew
      exact hitem

theorem Distinct.replace (hdistinct : entries.Distinct) (hitem : item.finish.Distinct) :
    (entries.replace key item).Distinct where
  keys := by
    have hkeys : (entries.replace key item).map Prod.fst = entries.map Prod.fst := by
      rw [Entries.replace, List.map_map]
      refine List.map_congr_left fun entry _ => ?_
      rw [Function.comp_apply]
      split
      next heq => exact heq.symm
      · rfl
    exact hkeys ▸ hdistinct.keys
  items := by
    rw [Entries.replace, List.forall_mem_map]
    intro entry hmem
    split
    · exact hitem
    · exact hdistinct.items entry hmem

theorem Distinct.lookup (hdistinct : entries.Distinct) (hsome : entries.lookup key = some item) :
    item.finish.Distinct :=
  hdistinct.items (key, item) (mem_of_lookup_eq_some hsome)

/-- What keeps the table at the end of a path free of repetitions keeps all tables so. -/
theorem Distinct.alter {byPoints : Bool} {change : Origin → Entries → Option Entries}
    {origin : Origin} (hchange : ∀ origin inner after, change origin inner = some after →
      inner.Distinct → after.Distinct)
    (halter : entries.alter byPoints change path origin = some after)
    (hdistinct : entries.Distinct) : after.Distinct := by
  -- What the first key of the path leads to is new, a table, or the last of some tables.
  induction path generalizing entries origin after with
  | nil => exact hchange _ _ _ halter hdistinct
  | cons key path ih =>
      rw [Entries.alter] at halter
      split at halter
      next hnone =>
        obtain ⟨inner, hinner, hafter⟩ := Option.bind_eq_some_iff.mp halter
        cases hafter
        exact hdistinct.concat hnone (distinct_table_iff.mpr (ih hinner distinct_nil))
      · cases halter
      next origin inner hsome =>
        split at halter
        · cases halter
        · obtain ⟨inner', hinner, hafter⟩ := Option.bind_eq_some_iff.mp halter
          cases hafter
          have hbefore := distinct_table_iff.mp (hdistinct.lookup hsome)
          exact hdistinct.replace (distinct_table_iff.mpr (ih hinner hbefore))
      next elements hsome =>
        obtain ⟨last, hlast, hrest⟩ := Option.bind_eq_some_iff.mp halter
        obtain ⟨inner, hinner, hafter⟩ := Option.bind_eq_some_iff.mp hrest
        cases hafter
        have hbefore := distinct_tables_iff.mp (hdistinct.lookup hsome)
        refine hdistinct.replace (distinct_tables_iff.mpr ?_)
        intro element hmem
        rcases List.mem_append.mp hmem with hold | hnew
        · exact hbefore element ((List.dropLast_sublist elements).subset hold)
        · rw [List.mem_singleton] at hnew
          subst hnew
          exact ih hinner (hbefore last (List.mem_of_getLast? hlast))

theorem Distinct.add (hadd : entries.add key item = some after) (hitem : item.finish.Distinct)
    (hdistinct : entries.Distinct) : after.Distinct := by
  rw [Entries.add] at hadd
  split at hadd
  next hnone =>
    cases hadd
    exact hdistinct.concat hnone hitem
  · cases hadd

theorem Distinct.insert (hinsert : entries.insert path key value = some after)
    (hvalue : value.Distinct) (hdistinct : entries.Distinct) : after.Distinct := by
  have hitem : (Item.value value).finish.Distinct := by rwa [Item.finish]
  cases path with
  | nil => exact hdistinct.add hinsert hitem
  | cons first path =>
      rw [Entries.insert] at hinsert
      · refine hdistinct.alter ?_ hinsert
        intro origin inner after hadd hinner
        split at hadd
        · exact hinner.add hadd hitem
        · cases hadd
      · nofun

section Fill

variable {fill : Entries → Option Entries}
variable (hfill : ∀ {start filled : Entries}, fill start = some filled →
  start.Distinct → filled.Distinct)

include hfill

theorem Distinct.declare (hdeclare : entries.declare path key fill = some after)
    (hdistinct : entries.Distinct) : after.Distinct := by
  refine hdistinct.alter ?_ hdeclare
  intro origin inner after hchange hinner
  obtain ⟨start, filled, hstart, hfilled, rfl⟩ : ∃ start filled, start.Distinct ∧
      fill start = some filled ∧
      inner.filter (·.1 ≠ key) ++ [(key, .table .declared filled)] = after := by
    simp only [Option.bind_eq_bind, Option.bind_some, Option.pure_def] at hchange
    split at hchange
    · obtain ⟨filled, hfilled, hafter⟩ := Option.bind_eq_some_iff.mp hchange
      exact ⟨[], filled, distinct_nil, hfilled, Option.some.inj hafter⟩
    next start hsome =>
      obtain ⟨filled, hfilled, hafter⟩ := Option.bind_eq_some_iff.mp hchange
      have hstart := distinct_table_iff.mp (hinner.lookup hsome)
      exact ⟨start, filled, hstart, hfilled, Option.some.inj hafter⟩
    · cases hchange
  refine Distinct.concat ?_ ?_ (distinct_table_iff.mpr (hfill hfilled hstart))
  · constructor
    case keys => exact hinner.keys.sublist (List.filter_sublist.map Prod.fst)
    case items => exact fun entry hmem => hinner.items entry (List.mem_of_mem_filter hmem)
  · rw [List.lookup_eq_none_iff]
    intro entry hmem
    have hne := List.of_mem_filter hmem
    rw [decide_eq_true_eq] at hne
    exact bne_iff_ne.mpr hne.symm

theorem Distinct.append (happend : entries.append path key fill = some after)
    (hdistinct : entries.Distinct) : after.Distinct := by
  refine hdistinct.alter ?_ happend
  intro origin inner after hchange hinner
  split at hchange
  next hnone =>
    obtain ⟨filled, hfilled, hafter⟩ := Option.bind_eq_some_iff.mp hchange
    cases hafter
    refine hinner.concat hnone (distinct_tables_iff.mpr ?_)
    simpa using hfill hfilled distinct_nil
  next elements hsome =>
    obtain ⟨filled, hfilled, hafter⟩ := Option.bind_eq_some_iff.mp hchange
    cases hafter
    have hbefore := distinct_tables_iff.mp (hinner.lookup hsome)
    refine hinner.replace (distinct_tables_iff.mpr ?_)
    intro element hmem
    rcases List.mem_append.mp hmem with hold | hnew
    · exact hbefore element hold
    · rw [List.mem_singleton] at hnew
      subst hnew
      exact hfill hfilled distinct_nil
  · cases hchange

end Fill

end Entries

/-! ## Reading -/

variable {text rest : List Char} {value : Value} {readValue : ValueReader}

/-- Whether a reader of values gives tables without repetitions only. -/
def ValueReader.Distinct (readValue : ValueReader) : Prop :=
  ∀ {text rest value}, readValue text = some (value, rest) → value.Distinct

theorem distinct_of_readPair (hreader : readValue.Distinct) {pair : Pair}
    (hread : readPair readValue text = some (pair, rest)) : pair.value.Distinct := by
  obtain ⟨⟨path, key, afterKey⟩, -, hread⟩ := Option.bind_eq_some_iff.mp hread
  obtain ⟨afterMark, -, hread⟩ := Option.bind_eq_some_iff.mp hread
  obtain ⟨⟨value, afterValue⟩, hvalue, hread⟩ := Option.bind_eq_some_iff.mp hread
  cases hread
  exact hreader hvalue

theorem distinct_of_readElements (hreader : readValue.Distinct) {fuel : Nat} {found : List Value}
    (hfound : ∀ value ∈ found, value.Distinct)
    (hread : readElements readValue fuel found text = some (value, rest)) : value.Distinct := by
  induction fuel generalizing found text with
  | zero => cases hread
  | succ fuel ih =>
      rw [readElements] at hread
      split at hread
      · cases hread
        exact .array (by simpa using hfound)
      · obtain ⟨⟨element, afterElement⟩, helement, hread⟩ := Option.bind_eq_some_iff.mp hread
        have hmore : ∀ value ∈ element :: found, value.Distinct :=
          List.forall_mem_cons.mpr ⟨hreader helement, hfound⟩
        dsimp only at hread
        split at hread
        · exact ih hmore hread
        · cases hread
          refine .array fun value hmem => hmore value ?_
          rwa [List.mem_reverse] at hmem
        · cases hread

theorem distinct_of_readEntries (hreader : readValue.Distinct) {fuel : Nat} {found : Entries}
    (hfound : found.Distinct)
    (hread : readEntries readValue fuel found text = some (value, rest)) : value.Distinct := by
  induction fuel generalizing found text with
  | zero => cases hread
  | succ fuel ih =>
      rw [readEntries] at hread
      obtain ⟨⟨pair, afterPair⟩, hpair, hread⟩ := Option.bind_eq_some_iff.mp hread
      obtain ⟨more, hmore, hread⟩ := Option.bind_eq_some_iff.mp hread
      have hdistinct := hfound.insert hmore (distinct_of_readPair hreader hpair)
      split at hread
      · exact ih hdistinct hread
      · cases hread
        exact Entries.distinct_iff.mp hdistinct
      · cases hread

theorem distinct_of_integer? {negative : Bool} {magnitude : Nat}
    (hread : integer? negative magnitude = some value) : value.Distinct := by
  rw [integer?] at hread
  split at hread <;> split at hread <;> cases hread <;> exact .integer _

theorem distinct_of_float? {negative : Bool} {digits : List Char} {exponent : Int}
    (hread : float? negative digits exponent = some value) : value.Distinct := by
  rw [float?] at hread
  split at hread
  · cases hread
  · cases hread
    exact .float _

theorem distinct_of_readBased {base : Nat} (hread : readBased base text = some (value, rest)) :
    value.Distinct := by
  obtain ⟨⟨digits, afterDigits⟩, -, hread⟩ := Option.bind_eq_some_iff.mp hread
  obtain ⟨number, hnumber, hread⟩ := Option.bind_eq_some_iff.mp hread
  cases hread
  exact distinct_of_integer? hnumber

theorem distinct_of_readInteger (hread : readInteger text = some (value, rest)) :
    value.Distinct := by
  unfold readInteger at hread
  split at hread
  · exact distinct_of_readBased hread
  · exact distinct_of_readBased hread
  · exact distinct_of_readBased hread
  · obtain ⟨⟨digits, afterDigits⟩, -, hread⟩ := Option.bind_eq_some_iff.mp hread
    obtain ⟨number, hnumber, hread⟩ := Option.bind_eq_some_iff.mp hread
    cases hread
    exact distinct_of_integer? hnumber

theorem distinct_of_readSpecial {negative : Bool}
    (hread : readSpecial negative text = some (value, rest)) : value.Distinct := by
  unfold readSpecial at hread
  split at hread <;> cases hread <;> exact .float _

theorem distinct_of_readFloat (hread : readFloat text = some (value, rest)) :
    value.Distinct := by
  rw [readFloat] at hread
  dsimp only at hread
  split at hread
  · exact distinct_of_readSpecial hread
  · split at hread
    · obtain ⟨number, hnumber, hread⟩ := Option.bind_eq_some_iff.mp hread
      cases hread
      exact distinct_of_float? hnumber
    · obtain ⟨⟨fraction, afterFraction⟩, -, hread⟩ := Option.bind_eq_some_iff.mp hread
      obtain ⟨number, hnumber, hread⟩ := Option.bind_eq_some_iff.mp hread
      cases hread
      exact distinct_of_float? hnumber

theorem distinct_of_readPlain (hread : readPlain text = some (value, rest)) :
    value.Distinct := by
  rw [readPlain] at hread
  split at hread
  · cases hread
    exact .date
  · split at hread
    next hfloat =>
      cases hread
      exact distinct_of_readFloat hfloat
    · exact distinct_of_readInteger hread

theorem distinct_readValue (room : Nat) : ValueReader.Distinct (Toml.readValue room) := by
  -- Only arrays and tables read on, with less room.
  induction room using Nat.strongRecOn with
  | ind room ih =>
      intro text rest value hread
      unfold Toml.readValue at hread
      split at hread
      · obtain ⟨⟨string, behind⟩, -, hvalue⟩ := Option.map_eq_some_iff.mp hread
        cases hvalue
        exact .string _
      · obtain ⟨⟨string, behind⟩, -, hvalue⟩ := Option.map_eq_some_iff.mp hread
        cases hvalue
        exact .string _
      · split at hread
        · cases hread
        next room =>
          exact distinct_of_readElements (ih room room.lt_succ_self) (List.forall_mem_nil _) hread
      · split at hread
        · cases hread
        next room =>
          split at hread
          · cases hread
            exact .table List.nodup_nil (List.forall_mem_nil _)
          · exact distinct_of_readEntries (ih room room.lt_succ_self) Entries.distinct_nil hread
      · cases hread
        exact .boolean _
      · cases hread
        exact .boolean _
      · exact distinct_of_readPlain hread

/-- Whether a statement gives only values without repetitions. -/
def Statement.Distinct : Statement → Prop
  | .pair given => given.value.Distinct
  | .header _ => True

theorem distinct_of_readStatement {statement : Statement}
    (hread : readStatement text = some (statement, rest)) : statement.Distinct := by
  unfold readStatement at hread
  split at hread
  · obtain ⟨⟨path, key, behind⟩, -, hread⟩ := Option.bind_eq_some_iff.mp hread
    obtain ⟨afterMark, -, hread⟩ := Option.bind_eq_some_iff.mp hread
    obtain ⟨afterMarks, -, hread⟩ := Option.bind_eq_some_iff.mp hread
    obtain ⟨lineEnd, -, hread⟩ := Option.bind_eq_some_iff.mp hread
    cases hread
    trivial
  · obtain ⟨⟨path, key, behind⟩, -, hread⟩ := Option.bind_eq_some_iff.mp hread
    obtain ⟨afterMark, -, hread⟩ := Option.bind_eq_some_iff.mp hread
    obtain ⟨lineEnd, -, hread⟩ := Option.bind_eq_some_iff.mp hread
    cases hread
    trivial
  · obtain ⟨⟨pair, behind⟩, hpair, hread⟩ := Option.bind_eq_some_iff.mp hread
    obtain ⟨lineEnd, -, hread⟩ := Option.bind_eq_some_iff.mp hread
    cases hread
    exact distinct_of_readPair (distinct_readValue maxDepth) hpair

theorem distinct_of_readStatements {fuel : Nat} {found statements : List Statement}
    (hfound : ∀ statement ∈ found, statement.Distinct)
    (hread : readStatements fuel found text = some statements) :
    ∀ statement ∈ statements, statement.Distinct := by
  induction fuel generalizing found text with
  | zero => cases hread
  | succ fuel ih =>
      rw [readStatements] at hread
      split at hread
      · cases hread
        simpa using hfound
      · split at hread
        · exact ih hfound hread
        · cases hread
      · split at hread
        next hstatement =>
          have hnew := distinct_of_readStatement hstatement
          exact ih (List.forall_mem_cons.mpr ⟨hnew, hfound⟩) hread
        · cases hread

/-! ## Putting a table together -/

theorem distinct_fill {pairs : List Pair} (hpairs : ∀ pair ∈ pairs, pair.value.Distinct)
    {entries after : Entries} (hfill : fill pairs entries = some after)
    (hdistinct : entries.Distinct) : after.Distinct := by
  induction pairs generalizing entries with
  | nil =>
      cases hfill
      exact hdistinct
  | cons pair rest ih =>
      obtain ⟨hpair, hrest⟩ := List.forall_mem_cons.mp hpairs
      rw [fill, List.foldlM_cons] at hfill
      obtain ⟨middle, hmiddle, hfill⟩ := Option.bind_eq_some_iff.mp hfill
      exact ih hrest hfill (hdistinct.insert hmiddle hpair)

theorem distinct_addSection {pairs : List Pair} (hpairs : ∀ pair ∈ pairs, pair.value.Distinct)
    {header : Header} {entries after : Entries}
    (hadd : addSection entries header pairs = some after) (hdistinct : entries.Distinct) :
    after.Distinct := by
  rw [addSection] at hadd
  split at hadd
  · exact hdistinct.append (distinct_fill hpairs) hadd
  · exact hdistinct.declare (distinct_fill hpairs) hadd

theorem distinct_sections {statements : List Statement}
    (hstatements : ∀ statement ∈ statements, statement.Distinct) :
    (∀ pair ∈ (sections statements).1, pair.value.Distinct) ∧
      ∀ part ∈ (sections statements).2, ∀ pair ∈ part.2, pair.value.Distinct := by
  induction statements with
  | nil => exact ⟨List.forall_mem_nil _, List.forall_mem_nil _⟩
  | cons statement rest ih =>
      obtain ⟨hstatement, hrest⟩ := List.forall_mem_cons.mp hstatements
      obtain ⟨hpairs, hparts⟩ := ih hrest
      cases statement with
      | pair pair => exact ⟨List.forall_mem_cons.mpr ⟨hstatement, hpairs⟩, hparts⟩
      | header header => exact ⟨List.forall_mem_nil _, List.forall_mem_cons.mpr ⟨hpairs, hparts⟩⟩

theorem distinct_addSections {parts : List (Header × List Pair)}
    (hparts : ∀ part ∈ parts, ∀ pair ∈ part.2, pair.value.Distinct) {entries after : Entries}
    (hadd : parts.foldlM (fun entries (header, pairs) => addSection entries header pairs) entries =
      some after) (hdistinct : entries.Distinct) : after.Distinct := by
  induction parts generalizing entries with
  | nil =>
      cases hadd
      exact hdistinct
  | cons part rest ih =>
      obtain ⟨hpart, hrest⟩ := List.forall_mem_cons.mp hparts
      rw [List.foldlM_cons] at hadd
      obtain ⟨middle, hmiddle, hadd⟩ := Option.bind_eq_some_iff.mp hadd
      exact ih hrest hadd (distinct_addSection hpart hmiddle hdistinct)

/-- No table of a document has a key twice. -/
theorem distinct_of_parse? {text : String} {table : Table} (hparse : parse? text = some table) :
    (Value.table table).Distinct := by
  obtain ⟨statements, hread, hparse⟩ := Option.bind_eq_some_iff.mp hparse
  obtain ⟨hpairs, hparts⟩ := distinct_sections
    (distinct_of_readStatements (List.forall_mem_nil _) hread)
  cases hsections : sections statements with
  | mk pairs parts =>
      rw [hsections] at hparse hpairs hparts
      obtain ⟨front, hfront, hparse⟩ := Option.bind_eq_some_iff.mp hparse
      obtain ⟨entries, hentries, hparse⟩ := Option.bind_eq_some_iff.mp hparse
      cases hparse
      rw [← Entries.distinct_iff]
      exact distinct_addSections hparts hentries
        (distinct_fill hpairs hfront Entries.distinct_nil)

end LineGreeting.Toml
