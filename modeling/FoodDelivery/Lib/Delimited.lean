import Mathlib.Data.List.DropRight
import Mathlib.Data.List.TakeWhile
import Mathlib.Tactic.Common

namespace Delimited

variable {α : Type*} {blank : α → Bool} {sep : α} {text field : List α} {row : List (List α)}

def trim (blank : α → Bool) (text : List α) : List α := (text.dropWhile blank).rdropWhile blank

theorem mem_of_mem_trim {x : α} (member : x ∈ trim blank text) : x ∈ text :=
  (List.dropWhile_suffix blank).mem ((List.rdropWhile_prefix blank _).mem member)

/-- Trimming removes nothing but blanks. -/
theorem mem_trim_or {x : α} (member : x ∈ text) : x ∈ trim blank text ∨ blank x := by
  rw [← List.takeWhile_append_dropWhile (p := blank) (l := text), List.mem_append] at member
  rcases member with leading | member
  · exact Or.inr (List.mem_takeWhile_imp leading)
  · rw [← @List.rdropWhile_append_rtakeWhile _ blank (text.dropWhile blank), List.mem_append] at member
    exact member.imp_right List.mem_rtakeWhile_imp

/-- What is left of a trimmed text starts where the text without its leading
blanks does. -/
theorem dropWhile_trim : (trim blank text).dropWhile blank = trim blank text := by
  obtain ⟨rest, whole⟩ := List.rdropWhile_prefix blank (text.dropWhile blank)
  rw [← trim] at whole
  cases shape : trim blank text with
  | nil => rfl
  | cons first others =>
    have first_kept := List.head?_dropWhile_not blank text
    rw [← whole, shape] at first_kept
    exact List.dropWhile_cons_of_neg (Bool.eq_false_iff.mp first_kept)

@[simp] theorem trim_trim : trim blank (trim blank text) = trim blank text := by
  rw [trim, dropWhile_trim]
  exact List.rdropWhile_idempotent blank _

theorem mem_intercalate {x : α} (member : x ∈ [sep].intercalate row) : x = sep ∨ ∃ field ∈ row, x ∈ field := by
  induction row with
  | nil => cases member
  | cons first rest ih =>
    cases rest with
    | nil =>
      rw [List.intercalate_singleton] at member
      exact Or.inr ⟨first, List.mem_cons_self .., member⟩
    | cons second others =>
      rw [List.intercalate_cons_cons, List.append_assoc, List.mem_append, List.mem_append] at member
      rcases member with inFirst | separator | later
      · exact Or.inr ⟨first, List.mem_cons_self .., inFirst⟩
      · exact Or.inl (List.mem_singleton.mp separator)
      · refine (ih later).imp_right ?_
        rintro ⟨field, inRest, inField⟩
        exact ⟨field, List.mem_cons_of_mem _ inRest, inField⟩

/-- A text is cut at its first separator in one way. -/
theorem append_sep_inj {xs ys rest rest' : List α} (free : sep ∉ xs) (free' : sep ∉ ys) (same : xs ++ sep :: rest = ys ++ sep :: rest') :
    xs = ys ∧ rest = rest' := by
  induction xs generalizing ys with
  | nil =>
    cases ys with
    | nil => exact ⟨rfl, List.tail_eq_of_cons_eq same⟩
    | cons y ys => exact absurd (List.mem_cons.mpr (Or.inl (List.head_eq_of_cons_eq same))) free'
  | cons x xs ih =>
    cases ys with
    | nil => exact absurd (List.mem_cons.mpr (Or.inl (List.head_eq_of_cons_eq same).symm)) free
    | cons y ys =>
      injection same with first others
      obtain ⟨prefixes, rests⟩ := ih (fun inXs => free (List.mem_cons_of_mem _ inXs)) (fun inYs => free' (List.mem_cons_of_mem _ inYs)) others
      exact ⟨by rw [first, prefixes], rests⟩

variable [DecidableEq α]

/-- A text has the separators of its fields and one before every field but the first. -/
theorem count_intercalate (nonempty : row ≠ []) : ([sep].intercalate row).count sep + 1 = row.flatten.count sep + row.length := by
  induction row with
  | nil => exact absurd rfl nonempty
  | cons first rest ih =>
    cases rest with
    | nil => simp
    | cons second others =>
      have tail := ih (List.cons_ne_nil _ _)
      rw [List.intercalate_cons_cons, List.append_assoc, List.count_append, List.count_append, List.count_singleton_self,
        List.flatten_cons, List.count_append, List.length_cons]
      omega

theorem count_flatten_of_intercalate {other : List (List α)} (free : ∀ field ∈ row, sep ∉ field) (nonempty : row ≠ [])
    (nonempty' : other ≠ []) (same : [sep].intercalate other = [sep].intercalate row) :
    other.flatten.count sep + other.length = row.length := by
  have none : row.flatten.count sep = 0 := by
    refine List.count_eq_zero_of_not_mem fun member => ?_
    obtain ⟨field, inRow, inField⟩ := List.mem_flatten.mp member
    exact free field inRow inField
  have counted := @count_intercalate _ sep row _ nonempty
  have counted' := @count_intercalate _ sep other _ nonempty'
  rw [same] at counted'
  omega

/-- Fields without separators are told from as many other fields. -/
theorem intercalate_inj {other : List (List α)} (free : ∀ field ∈ row, sep ∉ field) (nonempty : row ≠ [])
    (number : other.length = row.length) (same : [sep].intercalate other = [sep].intercalate row) : other = row := by
  have nonempty' : other ≠ [] := by
    rintro rfl
    exact nonempty (List.length_eq_zero_iff.mp number.symm)
  have counted := count_flatten_of_intercalate free nonempty nonempty' same
  have free' : ∀ field ∈ other, sep ∉ field := by
    intro field member separator
    have some := List.count_pos_iff.mpr (List.mem_flatten.mpr ⟨field, member, separator⟩)
    omega
  rw [← List.splitOn_intercalate sep free' nonempty', same, List.splitOn_intercalate sep free nonempty]

/-- What a text with separators is read as: trimmed parts, the empty ones
dropped. -/
def fields (blank : α → Bool) (sep : α) (text : List α) : List (List α) :=
  ((text.splitOn sep).map (trim blank)).filter (· ≠ [])

/-- A field that is read back as it was written. -/
structure Plain (blank : α → Bool) (sep : α) (field : List α) : Prop where
  nonempty : field ≠ []
  free : sep ∉ field
  trimmed : trim blank field = field

instance : Decidable (Plain blank sep field) :=
  decidable_of_iff (field ≠ [] ∧ sep ∉ field ∧ trim blank field = field)
    ⟨fun ⟨nonempty, free, trimmed⟩ => ⟨nonempty, free, trimmed⟩,
      fun plain => ⟨plain.nonempty, plain.free, plain.trimmed⟩⟩

theorem not_mem_of_mem_splitOn (member : field ∈ text.splitOn sep) : sep ∉ field := by
  induction text generalizing field with
  | nil =>
    rw [List.splitOn_nil, List.mem_singleton] at member
    simp [member]
  | cons x rest ih =>
    rw [List.splitOn_cons_eq_if_modifyHead] at member
    split at member
    · rcases List.mem_cons.mp member with rfl | later
      · exact List.not_mem_nil
      · exact ih later
    · rename_i different
      obtain ⟨first, others, parts⟩ := List.exists_cons_of_ne_nil (List.splitOn_ne_nil sep rest)
      rw [parts] at ih member
      rcases List.mem_cons.mp member with rfl | later
      · intro separator
        rcases List.mem_cons.mp separator with rfl | inFirst
        · exact different (beq_self_eq_true _)
        · exact ih (List.mem_cons_self ..) inFirst
      · exact ih (List.mem_cons_of_mem _ later)

theorem Plain.of_mem_fields (member : field ∈ fields blank sep text) : Plain blank sep field := by
  obtain ⟨cut, nonempty⟩ := List.mem_filter.mp member
  obtain ⟨part, ofText, rfl⟩ := List.mem_map.mp cut
  exact ⟨of_decide_eq_true nonempty, fun separator => not_mem_of_mem_splitOn ofText (mem_of_mem_trim separator), trim_trim⟩

theorem fields_eq_of_plain (plain : ∀ field ∈ row, Plain blank sep field)
    (parts : text.splitOn sep = row) : fields blank sep text = row := by
  have trimmed : row.map (trim blank) = row.map id :=
    List.map_congr_left fun field member => (plain field member).trimmed
  rw [fields, parts, trimmed, List.map_id, List.filter_eq_self]
  intro field member
  exact decide_eq_true (plain field member).nonempty

theorem fields_nil : fields blank sep [] = [] := by
  simp [fields, trim]

theorem fields_intercalate (plain : ∀ field ∈ row, Plain blank sep field) :
    fields blank sep ([sep].intercalate row) = row := by
  cases row with
  | nil => exact fields_nil
  | cons first rest =>
    exact fields_eq_of_plain plain
      (List.splitOn_intercalate sep (fun field member => (plain field member).free) (List.cons_ne_nil _ _))

theorem splitOn_append_sep (before after : List α) :
    (before ++ sep :: after).splitOn sep = before.splitOn sep ++ after.splitOn sep := by
  simp only [List.splitOn_eq_splitOnP]
  exact List.splitOnP_append_cons before after (beq_self_eq_true sep)

/-- Flattening makes no field that is not of one of its parts. -/
theorem exists_of_mem_fields_intercalate (member : field ∈ fields blank sep ([sep].intercalate row)) :
    ∃ part ∈ row, field ∈ fields blank sep part := by
  induction row with
  | nil => simp [fields_nil] at member
  | cons first rest ih =>
    cases rest with
    | nil => exact ⟨first, List.mem_singleton_self _, by simpa using member⟩
    | cons second others =>
      rw [List.intercalate_cons_cons, List.append_assoc, List.singleton_append, fields, splitOn_append_sep, List.map_append,
        List.filter_append, List.mem_append] at member
      rcases member with here | later
      · exact ⟨first, List.mem_cons_self .., here⟩
      · obtain ⟨part, among, inPart⟩ := ih later
        exact ⟨part, List.mem_cons_of_mem _ among, inPart⟩

/-- Flattening keeps the set of fields exactly when each of them can be read
back: whatever reading yields can be. -/
theorem mem_fields_intercalate_iff :
    (∀ field, field ∈ fields blank sep ([sep].intercalate row) ↔ field ∈ row) ↔
      ∀ field ∈ row, Plain blank sep field := by
  constructor
  · intro same field member
    exact Plain.of_mem_fields ((same field).mpr member)
  · intro plain field
    rw [fields_intercalate plain]

end Delimited
