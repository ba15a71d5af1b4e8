import FoodDelivery.Lib.History
import FoodDelivery.Config.Store

namespace FoodDelivery.Config

open CommitLog Tenancy

variable {In V : Type} {setting : Setting In V}

section listing

variable {entries : List (ConfigEntry V)} {items : List (ConfigValueListItem V)} {item other : ConfigValueListItem V}
  {tenantId : Uuid} {entry : ConfigEntry V}

/-- The entry is the tenant's own, or the tenant has none of its own under the key. -/
def ConfigEntry.ShownIn (entry : ConfigEntry V) (entries : List (ConfigEntry V)) : Prop :=
  entry ∈ entries ∧ (entry.tenantId = none → ∀ other ∈ entries, other.key = entry.key → other.tenantId = none)

/-- The items are those of the entries that are shown. -/
def Merged (entries : List (ConfigEntry V)) (items : List (ConfigValueListItem V)) : Prop :=
  ∀ item, item ∈ items ↔ ∃ entry : ConfigEntry V, entry.ShownIn entries ∧ entry.listItem = item

theorem mem_setItem : other ∈ setItem items item ↔ other = item ∨ other ∈ items ∧ other.key ≠ item.key := by
  unfold setItem
  split
  · rename_i present
    obtain ⟨old, stands, same⟩ := present
    rw [List.mem_map]
    constructor
    · rintro ⟨before, member, rfl⟩
      split
      · exact Or.inl rfl
      · rename_i apart
        exact Or.inr ⟨member, apart⟩
    · rintro (rfl | ⟨member, apart⟩)
      · exact ⟨old, stands, if_pos same⟩
      · exact ⟨other, member, if_neg apart⟩
  · rename_i absent
    rw [List.mem_append, List.mem_singleton, or_comm]
    exact or_congr_right ⟨fun member => ⟨member, fun same => absent ⟨other, member, same⟩⟩, And.left⟩

theorem listItem_scope : entry.listItem.scope = .tenant ↔ entry.tenantId ≠ none := by
  unfold ConfigEntry.listItem
  split
  · rename_i isGlobal
    exact iff_of_false nofun (fun own => own isGlobal)
  · rename_i own
    exact iff_of_true rfl own

/-- Every key of the entries has an item. -/
theorem Merged.covers (merged : Merged entries items) (member : entry ∈ entries) : ∃ item ∈ items, item.key = entry.key := by
  by_cases own : ∃ other ∈ entries, other.key = entry.key ∧ other.tenantId ≠ none
  · obtain ⟨other, stands, same, own⟩ := own
    exact ⟨other.listItem, (merged _).mpr ⟨other, ⟨stands, fun isGlobal => absurd isGlobal own⟩, rfl⟩, same⟩
  · have shown : entry.ShownIn entries :=
      ⟨member, fun _ other stands same => Decidable.byContradiction fun owned => own ⟨other, stands, same, owned⟩⟩
    exact ⟨entry.listItem, (merged _).mpr ⟨entry, shown, rfl⟩, rfl⟩

theorem Merged.step (merged : Merged entries items) (apart : ∀ old ∈ entries, old.slot ≠ entry.slot)
    (inScope : ∀ old ∈ entries ++ [entry], old.tenantId = some tenantId ∨ old.tenantId = none) :
    Merged (entries ++ [entry]) (mergeEntry items entry) := by
  have atEnd : entry ∈ entries ++ [entry] := List.mem_append_right _ (List.mem_singleton_self _)
  have older {old : ConfigEntry V} (member : old ∈ entries) : old ∈ entries ++ [entry] := List.mem_append_left _ member
  intro item
  unfold mergeEntry
  split
  · rename_i replaces
    have shown : entry.ShownIn (entries ++ [entry]) := by
      refine ⟨atEnd, fun isGlobal other member same => ?_⟩
      rcases List.mem_append.mp member with stands | last
      · obtain ⟨item, listed, key⟩ := merged.covers stands
        rcases replaces with unlisted | own
        · exact absurd (key.trans same) (unlisted item listed)
        · exact absurd isGlobal (listItem_scope.mp own)
      · rw [List.mem_singleton.mp last, isGlobal]
    rw [mem_setItem]
    constructor
    · rintro (rfl | ⟨listed, other⟩)
      · exact ⟨entry, shown, rfl⟩
      · obtain ⟨old, ⟨stands, alone⟩, rfl⟩ := (merged item).mp listed
        refine ⟨old, ⟨older stands, fun isGlobal next member same => ?_⟩, rfl⟩
        rcases List.mem_append.mp member with stands | last
        · exact alone isGlobal next stands same
        · rw [List.mem_singleton.mp last] at same
          exact absurd same.symm other
    · rintro ⟨old, ⟨member, alone⟩, rfl⟩
      rcases List.mem_append.mp member with stands | last
      · have shownBefore : old.ShownIn entries := ⟨stands, fun isGlobal next before => alone isGlobal next (older before)⟩
        have listed := (merged _).mpr ⟨old, shownBefore, rfl⟩
        refine Or.inr ⟨listed, fun same => ?_⟩
        rcases replaces with unlisted | own
        · exact unlisted _ listed same
        · -- Both are the tenant's own and have one slot.
          have owned := listItem_scope.mp own
          have ownedBefore : old.tenantId ≠ none := fun isGlobal => owned (alone isGlobal entry atEnd same.symm)
          have first := (inScope old member).resolve_right ownedBefore
          have second := (inScope entry atEnd).resolve_right owned
          exact apart old stands (Prod.ext (first.trans second.symm) same)
      · exact Or.inl (congrArg _ (List.mem_singleton.mp last))
  · rename_i keeps
    obtain ⟨listed, isGlobal⟩ := not_or.mp keeps
    rw [listItem_scope, not_not] at isGlobal
    rw [merged item]
    refine exists_congr fun old => and_congr_left fun _ => ?_
    constructor
    · rintro ⟨stands, alone⟩
      refine ⟨older stands, fun oldGlobal next member same => ?_⟩
      rcases List.mem_append.mp member with before | last
      · exact alone oldGlobal next before same
      · rw [List.mem_singleton.mp last, isGlobal]
    · rintro ⟨member, alone⟩
      rcases List.mem_append.mp member with stands | last
      · exact ⟨stands, fun oldGlobal next before => alone oldGlobal next (older before)⟩
      · rw [List.mem_singleton.mp last] at alone
        refine absurd (fun other member same => ?_) listed
        obtain ⟨first, ⟨stands, -⟩, rfl⟩ := (merged other).mp member
        exact apart first stands (Prod.ext ((alone isGlobal first (older stands) same).trans isGlobal.symm) same)

theorem merged_foldl (entries : List (ConfigEntry V)) (unique : (entries.map ConfigEntry.slot).Nodup)
    (inScope : ∀ entry ∈ entries, entry.tenantId = some tenantId ∨ entry.tenantId = none) :
    Merged entries (entries.foldl mergeEntry []) := by
  induction entries using List.reverseRecOn with
  | nil => exact fun _ => ⟨nofun, fun ⟨_, ⟨member, _⟩, _⟩ => nomatch member⟩
  | append_singleton entries entry ih =>
    rw [List.map_append, List.nodup_append] at unique
    obtain ⟨before, -, apart⟩ := unique
    rw [List.foldl_append]
    refine Merged.step (ih before fun old member => inScope old (List.mem_append_left _ member)) (fun old member => ?_) inScope
    exact apart _ (List.mem_map_of_mem member) _ (List.mem_singleton_self _)

variable {rows rows' : ConfigRows V} {key : String} {value : V}

theorem mem_findAllForTenant :
    entry ∈ findAllForTenant rows tenantId ↔ entry ∈ rows.rows ∧ (entry.tenantId = some tenantId ∨ entry.tenantId = none) := by
  simp only [findAllForTenant, List.mem_filter, decide_eq_true_eq]

theorem mem_listEntries {le : String → String → Bool} :
    item ∈ listEntries le rows tenantId ↔
      ∃ entry : ConfigEntry V, entry.ShownIn (findAllForTenant rows tenantId) ∧ entry.listItem = item := by
  unfold listEntries
  rw [List.mem_mergeSort]
  have own : ∀ entry ∈ findAllForTenant rows tenantId, entry.tenantId = some tenantId ∨ entry.tenantId = none :=
    fun entry member => (mem_findAllForTenant.mp member).2
  exact merged_foldl _ (rows.unique.sublist (List.filter_sublist.map _)) own item

/-- The list shows what a lookup resolves. -/
theorem shown_iff_resolved :
    entry.ShownIn (findAllForTenant rows tenantId) ∧ entry.key = key ↔
      Settings.resolve (rows.find (some tenantId, key)) (rows.find (none, key)) = some entry := by
  constructor
  · rintro ⟨⟨member, alone⟩, rfl⟩
    obtain ⟨stands, own | isGlobal⟩ := mem_findAllForTenant.mp member
    · have found : rows.find (some tenantId, entry.key) = some entry :=
        IndexedRows.find_eq_some.mpr ⟨stands, Prod.ext own rfl⟩
      rw [found]
      rfl
    · have lacks : rows.find (some tenantId, entry.key) = none := by
        refine IndexedRows.find_eq_none.mpr fun other stands slot => ?_
        obtain ⟨owner, same⟩ := Prod.mk.inj slot
        cases owner.symm.trans (alone isGlobal other (mem_findAllForTenant.mpr ⟨stands, Or.inl owner⟩) same)
      have found : rows.find (none, entry.key) = some entry :=
        IndexedRows.find_eq_some.mpr ⟨stands, Prod.ext isGlobal rfl⟩
      rw [lacks, found]
      rfl
  · intro resolved
    cases own : rows.find (some tenantId, key) with
    | some mine =>
      rw [own] at resolved
      cases resolved
      obtain ⟨stands, slot⟩ := IndexedRows.find_eq_some.mp own
      obtain ⟨owner, same⟩ := Prod.mk.inj slot
      exact ⟨⟨mem_findAllForTenant.mpr ⟨stands, Or.inl owner⟩, fun isGlobal => nomatch owner.symm.trans isGlobal⟩, same⟩
    | none =>
      rw [own] at resolved
      obtain ⟨stands, slot⟩ := IndexedRows.find_eq_some.mp resolved
      obtain ⟨isGlobal, same⟩ := Prod.mk.inj slot
      refine ⟨⟨mem_findAllForTenant.mpr ⟨stands, Or.inr isGlobal⟩, fun _ other member alike => ?_⟩, same⟩
      obtain ⟨otherStands, owner | isGlobal⟩ := mem_findAllForTenant.mp member
      · exact absurd (Prod.ext owner (alike.trans same)) (IndexedRows.find_eq_none.mp own other otherStands)
      · exact isGlobal

/-- The list gives for every key what a lookup of the key gives. -/
theorem listed_iff {le : String → String → Bool} :
    (∃ item ∈ listEntries le rows tenantId, item.key = key ∧ item.value = value) ↔
      getEntry setting rows tenantId key = .ok value := by
  rw [getEntry_ok]
  constructor
  · rintro ⟨item, member, same, rfl⟩
    obtain ⟨entry, shown, rfl⟩ := mem_listEntries.mp member
    exact ⟨entry, shown_iff_resolved.mp ⟨shown, same⟩, rfl⟩
  · rintro ⟨entry, resolved, rfl⟩
    obtain ⟨shown, same⟩ := shown_iff_resolved.mpr resolved
    exact ⟨entry.listItem, mem_listEntries.mpr ⟨entry, shown, rfl⟩, same, rfl⟩

theorem getEntry_congr (same : ∀ entry, entry ∈ rows.rows ↔ entry ∈ rows'.rows) :
    getEntry setting rows tenantId key = getEntry setting rows' tenantId key := by
  rw [getEntry, getEntry, findTenantEntry, findTenantEntry, findGlobalEntry, findGlobalEntry,
    IndexedRows.find_congr same, IndexedRows.find_congr same]

end listing

theorem ConfigEntry.create_ok {id : Uuid} {tenantId : Option Uuid} {key : String} {value : In} {entry : ConfigEntry V}
    (created : ConfigEntry.create setting id tenantId key value = .ok entry) : entry.id = id ∧ entry.key = trim key := by
  unfold ConfigEntry.create at created
  split at created
  · cases created
  · split at created
    · cases created
    · split at created
      · cases created
        exact ⟨rfl, rfl⟩
      · cases created

theorem ConfigEntry.withValue_ok {entry entry' : ConfigEntry V} {value : In}
    (changed : entry.withValue setting value = .ok entry') : entry'.id = entry.id ∧ entry'.slot = entry.slot := by
  unfold ConfigEntry.withValue at changed
  split at changed
  · cases changed
    exact ⟨rfl, rfl⟩
  · cases changed

namespace ConfigStore

variable {s s' : ConfigStore V} {action : Action In}

section step

variable {call : Nat} {context : TenantRequestContext} {command : UpsertCommand In} {id : Uuid} {key : String} {found : Bool}
  {entry : ConfigEntry V} {rows : ConfigRows V}

theorem prepare_found (prepared : s.prepare setting context command id = .saving key true entry) :
    entry.key = key ∧ ∃ row ∈ s.rows.rows, row.id = entry.id ∧ row.slot = entry.slot := by
  unfold prepare at prepared
  split at prepared
  · cases prepared
  · split at prepared
    · rename_i existing known
      obtain ⟨stands, slot⟩ := IndexedRows.find_eq_some.mp known
      split at prepared
      · rename_i entry changed
        cases prepared
        obtain ⟨sameId, sameSlot⟩ := ConfigEntry.withValue_ok changed
        exact ⟨(Prod.mk.inj (sameSlot.trans slot)).2, existing, stands, sameId.symm, sameSlot.symm⟩
      · cases prepared
    · split at prepared
      · cases prepared
      · cases prepared

theorem prepare_fresh (prepared : s.prepare setting context command id = .saving key false entry) :
    entry.id = id ∧ entry.key = trim key := by
  unfold prepare at prepared
  split at prepared
  · cases prepared
  · split at prepared
    · split at prepared
      · cases prepared
      · cases prepared
    · split at prepared
      · rename_i entry created
        cases prepared
        exact ConfigEntry.create_ok created
      · cases prepared

/-- What a step does: it looks up and prepares, saves, or gives up. -/
theorem step_cases (step : s.step setting action = some s') :
    (∃ call context command id, action = .upsert call context command id ∧ s.calls call = .idle ∧ id ∉ s.ids ∧
      s' = { s.setCall call (s.prepare setting context command id) with ids := id :: s.ids }) ∨
    (∃ call key found entry, action = .save call ∧ s.calls call = .saving key found entry ∧ s' = s.save call key entry) ∨
    ∃ call, action = .abandon call ∧ (∀ value, s.calls call ≠ .returned value) ∧
      s' = s.setCall call (.failed .unavailable) := by
  cases action with
  | upsert call context command id =>
    simp only [ConfigStore.step] at step
    split at step
    · rename_i idle
      split at step
      · cases step
      · rename_i unused
        cases step
        exact Or.inl ⟨call, context, command, id, rfl, idle, unused, rfl⟩
    · cases step
  | save call =>
    simp only [ConfigStore.step] at step
    split at step
    · rename_i key found entry saving
      cases step
      exact Or.inr (Or.inl ⟨call, key, found, entry, rfl, saving, rfl⟩)
    · cases step
  | abandon call =>
    simp only [ConfigStore.step] at step
    split at step
    · cases step
    · rename_i unsaved
      cases step
      exact Or.inr (Or.inr ⟨call, rfl, unsaved, rfl⟩)

theorem save_some (saved : s.rows.save entry = some rows) :
    s.save call key entry =
      { s with
        rows
        calls := Function.update s.calls call (.returned entry.value)
        answers := Function.update s.answers (entry.tenantId, key) (some entry.value) } := by
  simp only [save, saved]

theorem save_none (refused : s.rows.save entry = none) : s.save call key entry = s.setCall call (.failed .duplicateKey) := by
  simp only [save, refused]

theorem setCall_self (stage : UpsertCall V) : (s.setCall call stage).calls call = stage := Function.update_self ..

theorem setCall_other (stage : UpsertCall V) {other : Nat} (apart : other ≠ call) :
    (s.setCall call stage).calls other = s.calls other := Function.update_of_ne apart ..

end step

/-- What the calls that are about to save know: the entry that they found is
still stored, or their own has an identifier that nothing else has. -/
structure Prepared (s : ConfigStore V) : Prop where
  known : ∀ row ∈ s.rows.rows, row.id ∈ s.ids
  found : ∀ call key entry, s.calls call = .saving key true entry →
    entry.key = key ∧ ∃ row ∈ s.rows.rows, row.id = entry.id ∧ row.slot = entry.slot
  fresh : ∀ call key entry, s.calls call = .saving key false entry →
    entry.key = trim key ∧ entry.id ∈ s.ids ∧ ∀ row ∈ s.rows.rows, row.id ≠ entry.id
  distinct : ∀ call other key key' entry entry', s.calls call = .saving key false entry →
    s.calls other = .saving key' false entry' → entry.id = entry'.id → call = other

namespace Prepared

theorem empty : Prepared (.empty : ConfigStore V) where
  known _ member := nomatch member
  found _ _ _ absurd := nomatch absurd
  fresh _ _ _ absurd := nomatch absurd
  distinct _ _ _ _ _ _ absurd := nomatch absurd

variable {call : Nat} {key : String} {found : Bool} {entry : ConfigEntry V} {rows : ConfigRows V}

/-- A call comes to a stage of which the same is known. -/
theorem setCall (prepared : Prepared s) {stage : UpsertCall V} {ids : List Uuid} (grows : s.ids ⊆ ids)
    (stored : ∀ key entry, stage = .saving key true entry →
      entry.key = key ∧ ∃ row ∈ s.rows.rows, row.id = entry.id ∧ row.slot = entry.slot)
    (unused : ∀ key entry, stage = .saving key false entry → entry.key = trim key ∧ entry.id ∈ ids ∧ entry.id ∉ s.ids) :
    Prepared { s.setCall call stage with ids } where
  known row member := grows (prepared.known row member)
  found other key entry saving := by
    by_cases same : other = call
    · subst same
      exact stored key entry ((setCall_self stage).symm.trans saving)
    · exact prepared.found other key entry ((setCall_other stage same).symm.trans saving)
  fresh other key entry saving := by
    by_cases same : other = call
    · subst same
      obtain ⟨trimmed, member, new⟩ := unused key entry ((setCall_self stage).symm.trans saving)
      exact ⟨trimmed, member, fun row stands here => new (here ▸ prepared.known row stands)⟩
    · obtain ⟨trimmed, member, new⟩ := prepared.fresh other key entry ((setCall_other stage same).symm.trans saving)
      exact ⟨trimmed, grows member, new⟩
  distinct first second key key' entry entry' saving saving' sameId := by
    by_cases isFirst : first = call
    · by_cases isSecond : second = call
      · exact isFirst.trans isSecond.symm
      · subst isFirst
        obtain ⟨-, -, new⟩ := unused key entry ((setCall_self stage).symm.trans saving)
        obtain ⟨-, member, -⟩ := prepared.fresh second key' entry' ((setCall_other stage isSecond).symm.trans saving')
        exact absurd (sameId ▸ member) new
    · have before := (setCall_other stage isFirst).symm.trans saving
      by_cases isSecond : second = call
      · subst isSecond
        obtain ⟨-, -, new⟩ := unused key' entry' ((setCall_self stage).symm.trans saving')
        obtain ⟨-, member, -⟩ := prepared.fresh first key entry before
        exact absurd (sameId ▸ member) new
      · exact prepared.distinct first second key key' entry entry' before ((setCall_other stage isSecond).symm.trans saving')
          sameId

theorem failed (prepared : Prepared s) (error : ConfigError) : Prepared (s.setCall call (.failed error)) :=
  prepared.setCall (List.Subset.refl _) (fun _ _ absurd => nomatch absurd) (fun _ _ absurd => nomatch absurd)

/-- A row with the identifier of an entry to be saved has its slot. -/
theorem stays (prepared : Prepared s) (saving : s.calls call = .saving key found entry) :
    ∀ old ∈ s.rows.rows, old.id = entry.id → old.slot = entry.slot := by
  intro old member same
  cases found with
  | true =>
    obtain ⟨-, row, stands, sameId, sameSlot⟩ := prepared.found call key entry saving
    rw [s.rows.same_of_id member stands (same.trans sameId.symm), sameSlot]
  | false =>
    obtain ⟨-, -, new⟩ := prepared.fresh call key entry saving
    exact absurd same (new old member)

theorem known_entry (prepared : Prepared s) (saving : s.calls call = .saving key found entry) : entry.id ∈ s.ids := by
  cases found with
  | true =>
    obtain ⟨-, row, stands, sameId, -⟩ := prepared.found call key entry saving
    exact sameId ▸ prepared.known row stands
  | false => exact (prepared.fresh call key entry saving).2.1

/-- No other call has prepared a new entry under the identifier of one that is saved. -/
theorem apart (prepared : Prepared s) (saving : s.calls call = .saving key found entry) {other : Nat} (isOther : other ≠ call)
    {key' : String} {entry' : ConfigEntry V} (fresh : s.calls other = .saving key' false entry') : entry.id ≠ entry'.id := by
  intro same
  cases found with
  | true =>
    obtain ⟨-, row, stands, sameId, -⟩ := prepared.found call key entry saving
    exact (prepared.fresh other key' entry' fresh).2.2 row stands (sameId.trans same)
  | false => exact isOther (prepared.distinct other call key' key entry' entry fresh saving same.symm)

theorem saved (prepared : Prepared s) (saving : s.calls call = .saving key found entry)
    (saved : s.rows.save entry = some rows) : Prepared (s.save call key entry) := by
  have others {other : Nat} {key' : String} {found' : Bool} {entry' : ConfigEntry V}
      (later : (s.save call key entry).calls other = .saving key' found' entry') :
      other ≠ call ∧ s.calls other = .saving key' found' entry' := by
    rw [save_some saved] at later
    by_cases same : other = call
    · subst same
      cases (Function.update_self ..).symm.trans later
    · exact ⟨same, (Function.update_of_ne same ..).symm.trans later⟩
  have stands {row : ConfigEntry V} :
      row ∈ (s.save call key entry).rows.rows ↔ row = entry ∨ row ∈ s.rows.rows ∧ row.id ≠ entry.id := by
    rw [save_some saved]
    exact IndexedRows.mem_save saved
  have sameIds : (s.save call key entry).ids = s.ids := by rw [save_some saved]
  constructor
  · intro row member
    rw [sameIds]
    rcases stands.mp member with rfl | ⟨before, -⟩
    · exact prepared.known_entry saving
    · exact prepared.known row before
  · intro other key' entry' later
    obtain ⟨-, before⟩ := others later
    obtain ⟨sameKey, row, member, sameId, sameSlot⟩ := prepared.found other key' entry' before
    refine ⟨sameKey, ?_⟩
    by_cases replaced : row.id = entry.id
    · have slot := prepared.stays saving row member replaced
      exact ⟨entry, stands.mpr (Or.inl rfl), replaced.symm.trans sameId, slot.symm.trans sameSlot⟩
    · exact ⟨row, stands.mpr (Or.inr ⟨member, replaced⟩), sameId, sameSlot⟩
  · intro other key' entry' later
    obtain ⟨isOther, before⟩ := others later
    obtain ⟨trimmed, member, new⟩ := prepared.fresh other key' entry' before
    rw [sameIds]
    refine ⟨trimmed, member, fun row stored => ?_⟩
    rcases stands.mp stored with rfl | ⟨old, -⟩
    · exact prepared.apart saving isOther before
    · exact new row old
  · intro first second key' key'' entry' entry'' later later' sameId
    exact prepared.distinct first second key' key'' entry' entry'' (others later).2 (others later').2 sameId

theorem step (prepared : Prepared s) (step : s.step setting action = some s') : Prepared s' := by
  obtain ⟨call, context, command, id, rfl, -, unused, rfl⟩ | ⟨call, key, found, entry, rfl, saving, rfl⟩ |
    ⟨call, rfl, -, rfl⟩ := step_cases step
  · refine prepared.setCall (List.subset_cons_self _ _) (fun key entry saving => prepare_found saving) fun key entry saving => ?_
    obtain ⟨rfl, trimmed⟩ := prepare_fresh saving
    exact ⟨trimmed, List.mem_cons_self .., unused⟩
  · cases saved : s.rows.save entry with
    | some rows => exact prepared.saved saving saved
    | none =>
      rw [save_none saved]
      exact prepared.failed _
  · exact prepared.failed _

end Prepared

/-- What was last returned for a slot stands in it. -/
def Answered (s : ConfigStore V) : Prop :=
  ∀ scope key value, s.answers (scope, key) = some value → ∃ entry, s.rows.find (scope, key) = some entry ∧ entry.value = value

variable (setting) in
/-- What was last returned for a key is read by its tenant or, written for all,
by every tenant without an entry of its own. -/
def ReadsBack (s : ConfigStore V) : Prop :=
  ∀ scope key value, s.answers (scope, key) = some value → ∀ tenantId,
    scope = some tenantId ∨ scope = none ∧ findTenantEntry s.rows tenantId key = none →
      getEntry setting s.rows tenantId key = .ok value

variable (setting) in
/-- A further call for a key comes to save the value that it is given, and can. -/
structure Rewritable (s : ConfigStore V) : Prop where
  prepares : ∀ (context : TenantRequestContext) (command : UpsertCommand In) (id : Uuid) (value : V),
    (s.answers (command.targetTenantId context, command.key)).isSome → command.Permitted context →
    setting.assertValid command.value = .ok value →
      ∃ entry, s.prepare setting context command id = .saving command.key true entry ∧ entry.value = value
  saves : ∀ call key entry, s.calls call = .saving key true entry → (s.rows.save entry).isSome

/-- A call that adds an entry was given its key without any space around it. -/
def KeepsKey (commit : Commit (ConfigStore V) (Action In)) : Prop :=
  ∀ call key entry, commit.act = .save call → commit.before.calls call = .saving key false entry →
    (commit.before.rows.save entry).isSome → trim key = key

theorem Answered.readsBack (answered : s.Answered) : s.ReadsBack setting := by
  intro scope key value answer tenantId reader
  obtain ⟨entry, found, rfl⟩ := answered scope key value answer
  refine getEntry_ok.mpr ⟨entry, ?_, rfl⟩
  rcases reader with rfl | ⟨rfl, lacks⟩
  · rw [found]
    rfl
  · rw [findTenantEntry] at lacks
    rw [lacks, found]
    rfl

theorem Answered.rewritable (answered : s.Answered) (prepared : s.Prepared) : s.Rewritable setting where
  prepares context command id value answer permitted valid := by
    obtain ⟨stored, answer⟩ := Option.isSome_iff_exists.mp answer
    obtain ⟨entry, found, -⟩ := answered _ _ stored answer
    refine ⟨{ entry with value }, ?_, rfl⟩
    simp only [prepare, permitted, not_true, if_false, found, ConfigEntry.withValue, valid]
    rfl
  saves call key entry saving := by
    obtain ⟨-, row, stands, sameId, sameSlot⟩ := prepared.found call key entry saving
    refine IndexedRows.save_isSome fun old member same => ?_
    rw [← sameId, s.rows.same_of_index member stands (same.trans sameSlot.symm)]

theorem Answered.step (answered : s.Answered) (prepared : s.Prepared) (step : s.step setting action = some s')
    (keeps : KeepsKey ⟨s, action, s'⟩) : s'.Answered := by
  obtain ⟨call, context, command, id, rfl, -, -, rfl⟩ | ⟨call, key, found, entry, rfl, saving, rfl⟩ |
    ⟨call, rfl, -, rfl⟩ := step_cases step
  · exact answered
  · cases saved : s.rows.save entry with
    | none =>
      rw [save_none saved]
      exact answered
    | some rows =>
      have sameKey : entry.key = key := by
        cases found with
        | true => exact (prepared.found call key entry saving).1
        | false =>
          have kept : trim key = key := keeps call key entry rfl saving (Option.isSome_iff_exists.mpr ⟨rows, saved⟩)
          exact (prepared.fresh call key entry saving).1.trans kept
      rw [save_some saved]
      intro scope key' value answer
      have stored : rows.find (scope, key') = if (scope, key') = entry.slot then some entry else s.rows.find (scope, key') :=
        IndexedRows.find_save saved (prepared.stays saving)
      have answers : Function.update s.answers (entry.tenantId, key) (some entry.value) (scope, key') =
          if (scope, key') = (entry.tenantId, key) then some entry.value else s.answers (scope, key') :=
        Function.update_apply ..
      have sameSlot : entry.slot = (entry.tenantId, key) := Prod.ext rfl sameKey
      replace answer := answers.symm.trans answer
      rw [sameSlot] at stored
      split at answer
      · rename_i here
        rw [if_pos here] at stored
        exact ⟨entry, stored, Option.some.inj answer⟩
      · rename_i other
        rw [if_neg other] at stored
        obtain ⟨old, found, same⟩ := answered scope key' value answer
        exact ⟨old, stored.trans found, same⟩
  · exact answered

/-- Where an answer can be read, it was given for a key without space around it. -/
theorem ReadsBack.keepsKey (reads : s'.ReadsBack setting) (step : s.step setting action = some s') :
    KeepsKey ⟨s, action, s'⟩ := by
  intro call key entry act saving stores
  cases act
  replace saving : s.calls call = .saving key false entry := saving
  obtain ⟨rows, saved⟩ : ∃ rows, s.rows.save entry = some rows := Option.isSome_iff_exists.mp stores
  simp only [ConfigStore.step, saving, Option.some.injEq] at step
  subst step
  rw [save_some saved] at reads
  have trimmed {tenantId : Uuid} {value : V} (read : getEntry setting rows tenantId key = .ok value) : trim key = key := by
    obtain ⟨row, resolved, -⟩ := getEntry_ok.mp read
    exact (resolve_entry resolved).2 ▸ row.trimmed
  have answer : Function.update s.answers (entry.tenantId, key) (some entry.value) (entry.tenantId, key) = some entry.value :=
    Function.update_self ..
  cases scope : entry.tenantId with
  | some tenantId => exact trimmed (reads _ key entry.value answer tenantId (Or.inl scope))
  | none =>
    cases own : findTenantEntry rows "" key with
    | none => exact trimmed (reads _ key entry.value answer "" (Or.inr ⟨scope, own⟩))
    | some row =>
      obtain ⟨-, slot⟩ := IndexedRows.find_eq_some.mp own
      exact (Prod.mk.inj slot).2 ▸ row.trimmed

theorem step_returned {call : Nat} {value : V} (step : s.step setting action = some s')
    (returned : s.calls call = .returned value) : s'.calls call = .returned value := by
  have other {caller : Nat} {stage : UpsertCall V} (different : s.calls caller ≠ .returned value) :
      (s.setCall caller stage).calls call = .returned value := by
    have apart : call ≠ caller := by
      rintro rfl
      exact different returned
    rw [setCall_other stage apart, returned]
  obtain ⟨caller, context, command, id, rfl, idle, -, rfl⟩ | ⟨caller, key, found, entry, rfl, saving, rfl⟩ |
    ⟨caller, rfl, unsaved, rfl⟩ := step_cases step
  · exact other (by rw [idle]; exact nofun)
  · have different : s.calls caller ≠ .returned value := by
      rw [saving]
      exact nofun
    cases saved : s.rows.save entry with
    | none =>
      rw [save_none saved]
      exact other different
    | some rows =>
      rw [save_some saved]
      exact @other caller (.returned entry.value) different
  · exact other (unsaved value)

/-- A step changes the entries only where its call returns. -/
theorem step_rows (step : s.step setting action = some s') :
    s'.rows = s.rows ∨ ∃ value, s'.calls action.call = .returned value := by
  obtain ⟨call, context, command, id, rfl, -, -, rfl⟩ | ⟨call, key, found, entry, rfl, -, rfl⟩ |
    ⟨call, rfl, -, rfl⟩ := step_cases step
  · exact Or.inl rfl
  · cases saved : s.rows.save entry with
    | none =>
      rw [save_none saved]
      exact Or.inl rfl
    | some rows =>
      rw [save_some saved]
      exact Or.inr ⟨entry.value, Function.update_self ..⟩
  · exact Or.inl rfl

variable (setting) in
/-- The runs of the config service, from an empty store. -/
abbrev Run := History (· = (ConfigStore.empty : ConfigStore V)) fun _ (action : Action In) s s' => s.step setting action = some s'

variable {log : List (Commit (ConfigStore V) (Action In))}

/-- A commit that changes the entries is of a call that has returned for good. -/
theorem Run.returned_or_unchanged (run : Run setting log s) :
    ∀ commit ∈ log, commit.after.rows = commit.before.rows ∨ ∃ value, s.calls commit.act.call = .returned value := by
  induction run with
  | start => exact fun _ member => nomatch member
  | commit _ step ih =>
    rw [List.forall_mem_cons]
    refine ⟨step_rows step, fun commit member => (ih commit member).imp_right ?_⟩
    rintro ⟨value, returned⟩
    exact ⟨value, step_returned step returned⟩

/-- There is one entry in a slot, the list shows what lookups give and a call
that fails has changed nothing, in every run; what was returned is read back and
can be written again exactly where the keys of new entries came trimmed. -/
theorem Run.reads_back_iff (run : Run setting log s) :
    (∀ p, Seen log s p → (p.rows.rows.map ConfigEntry.slot).Nodup ∧
      ∀ (rows : ConfigRows V) (le : String → String → Bool) (tenantId : Uuid) (key : String) (value : V),
        (∀ entry, entry ∈ rows.rows ↔ entry ∈ p.rows.rows) →
          ((∃ item ∈ listEntries le rows tenantId, item.key = key ∧ item.value = value) ↔
            getEntry setting p.rows tenantId key = .ok value)) ∧
    (∀ commit ∈ log, (∃ error, s.calls commit.act.call = .failed error) → commit.after.rows = commit.before.rows) ∧
    ((∀ p, Seen log s p → p.ReadsBack setting ∧ p.Rewritable setting) ↔ ∀ commit ∈ log, KeepsKey commit) := by
  refine ⟨fun p _ => ⟨p.rows.unique, fun rows le tenantId key value same => ?_⟩, ?_, ?_⟩
  · rw [← getEntry_congr same]
    exact listed_iff
  · rintro commit member ⟨error, failed⟩
    refine (run.returned_or_unchanged commit member).resolve_right ?_
    rintro ⟨value, returned⟩
    cases failed.symm.trans returned
  · refine run.forall_iff_of_invariant (I := fun s => s.Prepared ∧ s.Answered) ?_ ?_ ?_ ?_
    · rintro _ rfl
      exact ⟨.empty, nofun⟩
    · rintro s ⟨prepared, answered⟩
      exact ⟨answered.readsBack, answered.rewritable prepared⟩
    · rintro _ action s s' step keeps ⟨prepared, answered⟩
      exact ⟨prepared.step step, answered.step prepared step keeps⟩
    · rintro _ action s s' step - ⟨reads, -⟩
      exact reads.keepsKey step

end ConfigStore

def sampleContext : TenantRequestContext where
  tenantId := "11111111-1111-4111-8111-111111111111"
  actor := "merchant-1"
  roles := ["merchant-admin"]

def sampleCommand (key : String) : UpsertCommand Rat where
  key
  value := 990
  global := false

/-- A fee is written twice, and its call answers each time. -/
theorem reads_back_of_written_sample :
    ∃ log s, ConfigStore.Run configValue log s ∧ s.calls 1 = .returned 990 ∧ s.ReadsBack configValue ∧
      s.Rewritable configValue := by
  have start : ConfigStore.Run configValue [] .empty := .start rfl
  have first := (start.commit (a := .upsert 0 sampleContext (sampleCommand "order.delivery_fee_cents") "e1") rfl).commit
    (a := .save 0) rfl
  have run := (first.commit (a := .upsert 1 sampleContext (sampleCommand "order.delivery_fee_cents") "e2") rfl).commit
    (a := .save 1) rfl
  refine ⟨_, _, run, rfl, (ConfigStore.Run.reads_back_iff run).2.2.mpr ?_ _ Seen.current⟩
  simp only [List.forall_mem_cons]
  refine ⟨?_, ?_, ?_, ?_, by simp⟩
  · rintro call key entry act saving -
    cases act
    cases saving
  · intro _ _ _ act
    cases act
  · rintro call key entry act saving -
    cases act
    cases saving
    rfl
  · intro _ _ _ act
    cases act

/-- A value is returned for a key with a space before it, which then is not
found and cannot be written again. -/
theorem spaced_key_lost :
    ∃ log s, ConfigStore.Run configValue log s ∧ s.calls 0 = .returned 990 ∧ s.calls 1 = .failed .duplicateKey ∧
      getEntry configValue s.rows sampleContext.tenantId " order.delivery_fee_cents" =
        .error (.notFound "No config value set for key \" order.delivery_fee_cents\"") := by
  have start : ConfigStore.Run configValue [] .empty := .start rfl
  have first := (start.commit (a := .upsert 0 sampleContext (sampleCommand " order.delivery_fee_cents") "e1") rfl).commit
    (a := .save 0) rfl
  have run := (first.commit (a := .upsert 1 sampleContext (sampleCommand " order.delivery_fee_cents") "e2") rfl).commit
    (a := .save 1) rfl
  exact ⟨_, _, run, rfl, rfl, rfl⟩

end FoodDelivery.Config
