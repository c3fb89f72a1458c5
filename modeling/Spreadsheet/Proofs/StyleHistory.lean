/-
# Style tables after any history

A style table is filled by cell formats and number formats, in any order and any number of
times. What it answers can be told from its history alone: the identifiers that the cell
formats were given, one after the other, and for every identifier the format that came last.

* `StyleTable.Indexed` — the index gives the place of every entry, and nothing else.
* `StyleTable.records_after` — after any history the table holds what the history says.
* `StyleTable.answers_after` — so do its answers, down to the text of a cell.
-/

import Mathlib.Data.List.Induction
import Mathlib.Data.List.Nodup
import Spreadsheet.Format.Styles

namespace Spreadsheet

/-! ### Histories -/

/-- What a style table is told: a cell format that uses the number format of an identifier,
or the number format of an identifier. -/
inductive StyleStep where
  | cellFormat (formatId : Nat)
  | numberFormat (id : Nat) (format : ResolvedFormat)

namespace StyleStep

/-- The table after the step. -/
def apply (table : StyleTable) : StyleStep → StyleTable
  | cellFormat formatId => (table.addCellFormat formatId).1
  | numberFormat id format => table.addNumberFormat id format

/-- The identifier that a cell format is given. -/
def formatId? : StyleStep → Option Nat
  | cellFormat formatId => some formatId
  | numberFormat _ _ => none

/-- The identifier and the format that are registered. -/
def registration? : StyleStep → Option (Nat × ResolvedFormat)
  | cellFormat _ => none
  | numberFormat id format => some (id, format)

end StyleStep

namespace StyleTable

/-- The table after a history, from the initial one on. -/
def after (steps : List StyleStep) : StyleTable :=
  steps.foldl StyleStep.apply initial

theorem after_append (steps later : List StyleStep) :
    after (steps ++ later) = later.foldl StyleStep.apply (after steps) :=
  List.foldl_append

/-! ### What a history says -/

/-- The identifiers of the cell formats, in the order of their styles. -/
def formatIds (steps : List StyleStep) : List Nat :=
  generalId :: steps.filterMap StyleStep.formatId?

/-- The number formats that were registered, the general one before all others. -/
def registrations (steps : List StyleStep) : List (Nat × ResolvedFormat) :=
  (generalId, .general) :: steps.filterMap StyleStep.registration?

/-- The format that was last registered under an identifier. -/
def lastFormat? (steps : List StyleStep) (id : Nat) : Option ResolvedFormat :=
  (registrations steps).reverse.lookup id

/-- The identifiers in the order in which they were first registered. -/
def firstIds (steps : List StyleStep) : List Nat :=
  ((registrations steps).map (·.1)).eraseDups

theorem formatIds_append (steps later : List StyleStep) :
    formatIds (steps ++ later) = formatIds steps ++ later.filterMap StyleStep.formatId? := by
  rw [formatIds, List.filterMap_append]
  rfl

theorem registrations_cellFormat (steps : List StyleStep) (formatId : Nat) :
    registrations (steps ++ [.cellFormat formatId]) = registrations steps := by
  simp [registrations, StyleStep.registration?]

theorem registrations_numberFormat (steps : List StyleStep) (id : Nat) (format : ResolvedFormat) :
    registrations (steps ++ [.numberFormat id format]) = registrations steps ++ [(id, format)] := by
  simp [registrations, StyleStep.registration?]

/-- The last registration counts, and the others under its identifier no more. -/
theorem lastFormat?_numberFormat (steps : List StyleStep) (id : Nat) (format : ResolvedFormat)
    (other : Nat) :
    lastFormat? (steps ++ [.numberFormat id format]) other =
      if other = id then some format else lastFormat? steps other := by
  rw [lastFormat?, registrations_numberFormat, List.reverse_append, List.reverse_singleton,
    List.singleton_append, List.lookup_cons]
  by_cases h : other = id
  · rw [if_pos h, beq_iff_eq.mpr h]
  · rw [if_neg h, beq_eq_false_iff_ne.mpr h, lastFormat?]

/-- An identifier has its place from its first registration on. -/
theorem firstIds_numberFormat (steps : List StyleStep) (id : Nat) (format : ResolvedFormat) :
    firstIds (steps ++ [.numberFormat id format]) =
      if id ∈ firstIds steps then firstIds steps else firstIds steps ++ [id] := by
  have hmem : id ∈ firstIds steps ↔ id ∈ (registrations steps).map (·.1) := List.mem_eraseDups
  have happend : firstIds (steps ++ [.numberFormat id format]) =
      firstIds steps ++ ([id].removeAll ((registrations steps).map (·.1))).eraseDups := by
    rw [firstIds, registrations_numberFormat, List.map_append, List.eraseDups_append]
    rfl
  rw [happend]
  by_cases h : id ∈ firstIds steps
  · have hold : [id].removeAll ((registrations steps).map (·.1)) = [] := by
      simpa [List.removeAll] using hmem.mp h
    rw [if_pos h, hold, List.eraseDups_nil, List.append_nil]
  · have hnew : [id].removeAll ((registrations steps).map (·.1)) = [id] := by
      simpa [List.removeAll] using fun format hformat =>
        h (hmem.mpr (List.mem_map.mpr ⟨_, hformat, rfl⟩))
    rw [if_neg h, hnew]
    rfl

/-! ### The index -/

/-- The identifiers of the entries, in their order. -/
def ids (table : StyleTable) : List Nat :=
  table.entries.map (·.id)

/-- The index gives every identifier the place of its entry, and has nothing else. -/
def Indexed (table : StyleTable) : Prop :=
  ∀ id place : Nat, table.index[id]? = some place ↔ table.ids[place]? = some id

section Indexed

variable {table : StyleTable} {id : Nat}

/-- A known identifier is known at one place. -/
theorem Indexed.place_unique (h : table.Indexed) {i j : Nat} (hi : table.ids[i]? = some id)
    (hj : table.ids[j]? = some id) : i = j := by
  have hfirst := (h id i).mpr hi
  rw [(h id j).mpr hj] at hfirst
  exact (Option.some.inj hfirst).symm

theorem Indexed.nodup (h : table.Indexed) : table.ids.Nodup := by
  rw [List.nodup_iff_injective_getElem]
  intro i j hij
  refine Fin.ext (h.place_unique (List.getElem?_eq_getElem i.isLt) ?_)
  rw [List.getElem?_eq_getElem j.isLt]
  exact congrArg some hij.symm

/-- The identifiers that the index does not have are those of no entry. -/
theorem Indexed.getElem?_eq_none_iff (h : table.Indexed) :
    table.index[id]? = none ↔ id ∉ table.ids := by
  rw [List.mem_iff_getElem?, Option.eq_none_iff_forall_ne_some, not_exists]
  exact forall_congr' fun place => not_congr (h id place)

/-- A format under a known identifier takes the place of the one before. -/
theorem addNumberFormat_known (h : table.Indexed) {place : Nat} (hplace : table.ids[place]? = some id)
    (format : ResolvedFormat) :
    table.addNumberFormat id format =
      { table with
        entries := table.entries.modify place fun entry => { entry with format := format } } := by
  rw [addNumberFormat, (h id place).mpr hplace]

/-- A format under a new identifier comes after all others. -/
theorem addNumberFormat_new (h : table.Indexed) (hid : id ∉ table.ids) (format : ResolvedFormat) :
    table.addNumberFormat id format =
      { table with
        entries := table.entries ++ [⟨id, format⟩]
        index := table.index.insert id table.ids.length } := by
  rw [addNumberFormat, h.getElem?_eq_none_iff.mpr hid, ids, List.length_map]

/-- A format that replaces another leaves the identifiers as they are. -/
theorem map_id_modify (entries : List NumberFormatEntry) (place : Nat) (format : ResolvedFormat) :
    (entries.modify place fun entry => { entry with format := format }).map (·.id) =
      entries.map (·.id) := by
  refine List.ext_getElem? fun i => ?_
  rw [List.getElem?_map, List.getElem?_map, List.getElem?_modify]
  cases entries[i]? with
  | none => rfl
  | some entry => by_cases hplace : place = i <;> simp [hplace]

/-- Registering an identifier keeps its place, or gives it the one after all others. -/
theorem ids_addNumberFormat (h : table.Indexed) (id : Nat) (format : ResolvedFormat) :
    (table.addNumberFormat id format).ids =
      if id ∈ table.ids then table.ids else table.ids ++ [id] := by
  by_cases hid : id ∈ table.ids
  · obtain ⟨place, hplace⟩ := List.mem_iff_getElem?.mp hid
    rw [if_pos hid, addNumberFormat_known h hplace]
    exact map_id_modify _ _ _
  · rw [if_neg hid, addNumberFormat_new h hid]
    exact List.map_append

/-- An element at a place of a list that has grown by one. -/
theorem getElem?_concat_eq_some_iff {α : Type} {list : List α} {last a : α} {i : Nat} :
    (list ++ [last])[i]? = some a ↔ list[i]? = some a ∨ i = list.length ∧ last = a := by
  rcases Nat.lt_trichotomy i list.length with h | h | h
  · rw [List.getElem?_append_left h]
    exact (or_iff_left fun hi => absurd hi.1 (Nat.ne_of_lt h)).symm
  · rw [h, List.getElem?_concat_length, List.getElem?_eq_none (Nat.le_refl _)]
    simp
  · rw [List.getElem?_eq_none (by rw [List.length_append]; exact h),
      List.getElem?_eq_none (Nat.le_of_lt h)]
    simp [Nat.ne_of_gt h]

/-- Registering keeps the index in step with the entries. -/
theorem Indexed.addNumberFormat (h : table.Indexed) (id : Nat) (format : ResolvedFormat) :
    (table.addNumberFormat id format).Indexed := by
  intro other place
  rw [ids_addNumberFormat h]
  by_cases hid : id ∈ table.ids
  · obtain ⟨old, hold⟩ := List.mem_iff_getElem?.mp hid
    rw [if_pos hid, addNumberFormat_known h hold]
    exact h other place
  · rw [if_neg hid, addNumberFormat_new h hid, Std.HashMap.getElem?_insert,
      getElem?_concat_eq_some_iff]
    by_cases hother : id = other
    · -- the new identifier stands at the end and nowhere else
      have hbefore : table.ids[place]? ≠ some other := fun hplace =>
        hid (hother ▸ List.mem_of_getElem? hplace)
      rw [if_pos (beq_iff_eq.mpr hother), or_iff_right hbefore, Option.some.injEq, eq_comm,
        and_iff_left hother]
    · rw [if_neg (fun heq => hother (beq_iff_eq.mp heq)), h other place]
      exact (or_iff_left fun hlast => hother hlast.2).symm

/-- An entry is found through the place that the index gives. -/
theorem numberFormat?_eq (table : StyleTable) (id : Nat) :
    table.numberFormat? id =
      table.index[id]?.bind fun place => (table.entries[place]?).map (·.format) := by
  simp only [numberFormat?, Option.map_eq_bind]
  rfl

/-- There is an entry at the place of an identifier. -/
theorem exists_entry {place : Nat} (hplace : table.ids[place]? = some id) :
    ∃ entry, table.entries[place]? = some entry := by
  rw [ids, List.getElem?_map] at hplace
  obtain ⟨entry, hentry, -⟩ := Option.map_eq_some_iff.mp hplace
  exact ⟨entry, hentry⟩

theorem cellFormats_addNumberFormat (table : StyleTable) (id : Nat) (format : ResolvedFormat) :
    (table.addNumberFormat id format).cellFormats = table.cellFormats := by
  unfold addNumberFormat
  split <;> rfl

/-- Registering changes what is found under the identifier, and under no other. -/
theorem numberFormat?_addNumberFormat (h : table.Indexed) (id : Nat) (format : ResolvedFormat)
    (other : Nat) :
    (table.addNumberFormat id format).numberFormat? other =
      if other = id then some format else table.numberFormat? other := by
  by_cases hid : id ∈ table.ids
  · obtain ⟨old, hold⟩ := List.mem_iff_getElem?.mp hid
    obtain ⟨entry, hentry⟩ := exists_entry hold
    rw [addNumberFormat_known h hold, numberFormat?_eq, numberFormat?_eq]
    by_cases hother : other = id
    · rw [if_pos hother, hother, (h id old).mpr hold, Option.bind_some, List.getElem?_modify, hentry]
      simp
    · rw [if_neg hother]
      refine Option.bind_congr fun place hplace => ?_
      have hne : old ≠ place := by
        rintro rfl
        exact hother (Option.some.inj (((h other old).mp hplace).symm.trans hold))
      rw [List.getElem?_modify]
      simp [hne]
  · rw [addNumberFormat_new h hid, numberFormat?_eq, numberFormat?_eq, Std.HashMap.getElem?_insert]
    have hlength : table.ids.length = table.entries.length := List.length_map _
    by_cases hother : other = id
    · rw [if_pos hother, if_pos (beq_iff_eq.mpr hother.symm), Option.bind_some, hlength,
        List.getElem?_concat_length]
      rfl
    · rw [if_neg hother, if_neg fun heq => hother (beq_iff_eq.mp heq).symm]
      refine Option.bind_congr fun place hplace => ?_
      obtain ⟨entry, hentry⟩ := exists_entry ((h other place).mp hplace)
      rw [List.getElem?_append_left (List.getElem?_eq_some_iff.mp hentry).1]

/-! ### Steps and runs -/

/-- The table holds what a history says. -/
structure Records (table : StyleTable) (steps : List StyleStep) : Prop where
  indexed : table.Indexed
  cellFormats : table.cellFormats = formatIds steps
  ids : table.ids = firstIds steps
  formats : ∀ id, table.numberFormat? id = lastFormat? steps id

/-- One more step, and the table holds what the longer history says. -/
theorem Records.step {steps : List StyleStep} (h : table.Records steps) (step : StyleStep) :
    (step.apply table).Records (steps ++ [step]) := by
  cases step with
  | cellFormat formatId =>
    have hregistrations := registrations_cellFormat steps formatId
    refine ⟨h.indexed, ?_, ?_, fun id => ?_⟩
    · rw [formatIds_append, ← h.cellFormats]
      rfl
    · rw [firstIds, hregistrations]
      exact h.ids
    · rw [lastFormat?, hregistrations]
      exact h.formats id
  | numberFormat id format =>
    refine ⟨h.indexed.addNumberFormat id format, ?_, ?_, fun other => ?_⟩
    · rw [formatIds_append, ← h.cellFormats]
      exact (cellFormats_addNumberFormat table id format).trans (List.append_nil _).symm
    · rw [firstIds_numberFormat, ← h.ids]
      exact ids_addNumberFormat h.indexed id format
    · rw [lastFormat?_numberFormat, ← h.formats]
      exact numberFormat?_addNumberFormat h.indexed id format other

end Indexed

theorem records_initial : initial.Records [] where
  indexed id place := by
    rw [initial, Std.HashMap.getElem?_insert, Std.HashMap.getElem?_empty, ids, List.map_singleton,
      List.getElem?_singleton]
    by_cases hid : generalId = id
    · rw [if_pos (beq_iff_eq.mpr hid), Option.some.injEq]
      by_cases hplace : place = 0 <;> simp [hplace, hid, eq_comm]
    · rw [if_neg fun heq => hid (beq_iff_eq.mp heq)]
      by_cases hplace : place = 0 <;> simp [hplace, hid]
  cellFormats := rfl
  ids := rfl
  formats id := by
    rw [numberFormat?_eq, initial, Std.HashMap.getElem?_insert, Std.HashMap.getElem?_empty,
      lastFormat?, registrations, List.filterMap_nil, List.reverse_singleton, List.lookup_cons]
    by_cases hid : id = generalId
    · rw [if_pos (beq_iff_eq.mpr hid.symm), beq_iff_eq.mpr hid]
      rfl
    · rw [if_neg fun heq => hid (beq_iff_eq.mp heq).symm, beq_eq_false_iff_ne.mpr hid]
      rfl

/-- After any history the table holds what the history says. -/
theorem records_after (steps : List StyleStep) : (after steps).Records steps := by
  induction steps using List.reverseRecOn with
  | nil => exact records_initial
  | append_singleton steps step ih =>
    rw [after_append]
    exact ih.step step

/-! ### Answers -/

/-- The general identifier is the first of all. -/
theorem head?_firstIds (steps : List StyleStep) : (firstIds steps).head? = some generalId := by
  rw [firstIds, registrations, List.map_cons, List.eraseDups_cons, List.head?_cons]

/-- The first number format is the one that was last registered under the general identifier. -/
theorem Records.lastFormat?_general {table : StyleTable} {steps : List StyleStep}
    (h : table.Records steps) : lastFormat? steps generalId = some table.general := by
  have hfirst : table.ids[0]? = some generalId := by
    rw [h.ids, ← List.head?_eq_getElem?, head?_firstIds]
  obtain ⟨entry, hentry⟩ := exists_entry hfirst
  rw [← h.formats, numberFormat?_eq, (h.indexed generalId 0).mpr hfirst, Option.bind_some, hentry,
    Option.map_some, general]
  cases hentries : table.entries with
  | nil =>
    rw [hentries] at hentry
    cases hentry
  | cons first rest =>
    rw [hentries] at hentry
    cases hentry
    rfl

/-- A style denotes its cell format for ever. -/
theorem cellFormat?_after_append {steps : List StyleStep} {style formatId : Nat}
    (h : (after steps).cellFormat? style = some formatId) (later : List StyleStep) :
    (after (steps ++ later)).cellFormat? style = some formatId := by
  rw [cellFormat?, (records_after steps).cellFormats] at h
  rw [cellFormat?, (records_after _).cellFormats, formatIds_append,
    List.getElem?_append_left (List.getElem?_eq_some_iff.mp h).1, h]

/-- **A style table answers from its history.** The entries come in the order in which their
identifiers were first registered, each once and the general one first, and the index gives
their places and nothing else. A style denotes its cell format for ever, an identifier the
format that was last registered under it. A style with a known identifier means the format of
that identifier, any other style the one last registered under the general identifier; and the
text of a cell under a style is the cell under that format. -/
theorem answers_after (steps : List StyleStep) :
    (after steps).cellFormats = formatIds steps ∧
    (after steps).ids.head? = some generalId ∧
    (after steps).ids.Nodup ∧
    (after steps).ids = firstIds steps ∧
    (∀ id place : Nat,
      (after steps).index[id]? = some place ↔ (after steps).ids[place]? = some id) ∧
    (∀ formatId later,
      (after (steps ++ .cellFormat formatId :: later)).cellFormat?
        ((after steps).addCellFormat formatId).2 = some formatId) ∧
    (∀ id, (after steps).numberFormat? id = lastFormat? steps id) ∧
    (∃ general, lastFormat? steps generalId = some general ∧
      ∀ style, (after steps).resolve style =
        ((formatIds steps)[style]?.bind (lastFormat? steps)).getD general) ∧
    ∀ style override value,
      (after steps).formattedText style false override value =
        render ((after steps).resolve style) override value := by
  have hrecords := records_after steps
  refine ⟨hrecords.cellFormats, ?_, hrecords.indexed.nodup, hrecords.ids, hrecords.indexed,
    fun formatId later => ?_, hrecords.formats,
    ⟨(after steps).general, hrecords.lastFormat?_general, fun style => ?_⟩,
    formattedText_display (after steps)⟩
  · rw [hrecords.ids, head?_firstIds]
  · have hreturned : (after (steps ++ [.cellFormat formatId])).cellFormat?
        ((after steps).addCellFormat formatId).2 = some formatId := by
      rw [after_append]
      exact (cellFormat?_addCellFormat _ _ _).trans (if_pos rfl)
    rw [List.append_cons]
    exact cellFormat?_after_append hreturned later
  · rw [resolve, cellFormat?, hrecords.cellFormats, funext hrecords.formats]

end StyleTable

end Spreadsheet
