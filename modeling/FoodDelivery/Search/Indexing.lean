import FoodDelivery.Search.RestaurantIndex

namespace FoodDelivery.Search

open CommitLog Catalog

variable {feed : Feed} {log : List (Commit Index Action)} {index index' : Index} {slot : Slot}

def Feed.lastSnapshot (feed : Feed) : Restaurant := (feed.updates.getLast?.getD feed.created).2

def Feed.lastRating (feed : Feed) : Rat := feed.ratings.getLast?.getD 0

abbrev Run (feed : Feed) : List (Commit Index Action) → Index → Prop :=
  History (· = Index.empty) fun _ action index index' => index.step feed action = some index'

/-- The last event of a topic that was delivered. -/
def delivery (act : Action) (log : List (Commit Index Action)) : Option (Commit Index Action) :=
  log.find? fun commit => commit.act = act

/-- The index shows the last catalog event and the last rating. -/
structure Index.Converged (feed : Feed) (index : Index) : Prop where
  shown : feed.deleted = none →
    index.slot.source = some { toRestaurantDetails := detailsOf feed.lastSnapshot, rating := feed.lastRating }
  removed : feed.deleted.isSome → index.slot.source = none

/-- The document was there when a rating was last delivered. -/
def RatingFound (log : List (Commit Index Action)) : Prop :=
  ∃ commit, delivery .deliverRating log = some commit ∧ commit.before.slot.source.isSome

/-- The document had a later version when the deletion was last delivered. -/
def DeletionRefused (feed : Feed) (log : List (Commit Index Action)) : Prop :=
  ∃ commit deletion source version, delivery .deliverCatalog log = some commit ∧ feed.deleted = some deletion ∧
    commit.before.slot = .live source version ∧ deletion.1 < version

theorem delivery_same {act : Action} {before after : Index} :
    delivery act (⟨before, act, after⟩ :: log) = some ⟨before, act, after⟩ := by
  simp [delivery]

theorem delivery_other {act other : Action} {before after : Index} (different : other ≠ act) :
    delivery act (⟨before, other, after⟩ :: log) = delivery act log := by
  simp [delivery, different]

@[simp] theorem Slot.source_merge (change : RestaurantIndexSource → RestaurantIndexSource) (slot : Slot) :
    (slot.merge change).source = slot.source.map change := by
  cases slot with
  | live source version =>
    simp only [Slot.merge]
    split
    · rename_i same
      simp [Slot.source, same]
    · rfl
  | _ => rfl

@[simp] theorem source_upsert (document : RestaurantSearchDocument) (slot : Slot) : (upsert document slot).source =
    some { toRestaurantDetails := document.toRestaurantDetails, rating := (slot.source.map (·.rating)).getD 0 } := by
  unfold upsert
  cases found : slot.source with
  | some source => simp [found]
  | none => rfl

theorem source_remove {version : Nat} (accepted : ∀ source current, slot = .live source current → current ≤ version) :
    (remove version slot).source = none := by
  cases slot with
  | live source current => simp [remove, accepted source current rfl, Slot.source]
  | missing => rfl
  | tombstone current =>
    simp only [remove]
    split <;> rfl

/-- The events of a restaurant that is not deleted carry its snapshots, the last one at the end. -/
theorem Feed.catalog_undeleted (undeleted : feed.deleted = none) {offset occurredAt : Nat} {event : CatalogEvent}
    (next : feed.catalog[offset]? = some (occurredAt, event)) :
    ∃ restaurant, (event = .restaurantCreated restaurant ∨ event = .restaurantUpdated restaurant) ∧
      (offset + 1 = feed.catalog.length → restaurant = feed.lastSnapshot) := by
  have events : feed.catalog =
      feed.created.map id .restaurantCreated :: feed.updates.map (·.map id .restaurantUpdated) := by
    simp [Feed.catalog, undeleted]
  rw [events] at next ⊢
  cases offset with
  | zero =>
    cases next
    refine ⟨feed.created.2, Or.inl rfl, fun last => ?_⟩
    have none : feed.updates = [] := by simpa using last
    simp [Feed.lastSnapshot, none]
  | succ offset =>
    rw [List.getElem?_cons_succ, List.getElem?_map] at next
    obtain ⟨update, atOffset, same⟩ := Option.map_eq_some_iff.mp next
    cases same
    refine ⟨update.2, Or.inr rfl, fun last => ?_⟩
    have here : feed.updates.getLast? = some update := by
      have length : offset = feed.updates.length - 1 := by
        simp only [List.length_cons, List.length_map] at last
        omega
      rw [List.getLast?_eq_getElem?, ← length, atOffset]
    simp [Feed.lastSnapshot, here]

theorem Feed.catalog_deleted {deletion : Nat × Restaurant} (deleted : feed.deleted = some deletion) {offset : Nat}
    {next : Nat × CatalogEvent} (found : feed.catalog[offset]? = some next) (last : offset + 1 = feed.catalog.length) :
    next = (deletion.1, .restaurantDeleted deletion.2) := by
  have final : feed.catalog.getLast? = some (deletion.1, .restaurantDeleted deletion.2) := by
    rw [Feed.catalog, deleted]
    exact List.getLast?_concat ..
  have length : offset = feed.catalog.length - 1 := by omega
  rw [List.getLast?_eq_getElem?, ← length, found] at final
  exact Option.some.inj final

theorem ratings_last {offset : Nat} {avgRating : Rat} (next : feed.ratings[offset]? = some avgRating)
    (last : offset + 1 = feed.ratings.length) : avgRating = feed.lastRating := by
  have length : offset = feed.ratings.length - 1 := by omega
  rw [Feed.lastRating, List.getLast?_eq_getElem?, ← length, next, Option.getD_some]

/-- What holds of a restaurant that is not deleted: its document stays once it
is there, with the rating of the last delivery that found it. -/
structure Index.Shown (feed : Feed) (log : List (Commit Index Action)) (index : Index) : Prop where
  missing : index.slot.source = none → index.catalogOffset = 0
  details : ∀ source, index.slot.source = some source → index.catalogOffset = feed.catalog.length →
    source.toRestaurantDetails = detailsOf feed.lastSnapshot
  unrated : ¬ RatingFound log → ∀ source, index.slot.source = some source → source.rating = 0
  rated : RatingFound log → ∃ source, index.slot.source = some source ∧
    (index.ratingOffset = feed.ratings.length → source.rating = feed.lastRating)

namespace Index

theorem Shown.empty : Index.empty.Shown feed [] where
  missing _ := rfl
  details _ found := by cases found
  unrated _ _ found := by cases found
  rated found := by
    obtain ⟨commit, member, -⟩ := found
    cases member

/-- A step that delivers no rating leaves it open whether the last one found the document. -/
theorem ratingFound_other {act : Action} (other : act ≠ .deliverRating) :
    RatingFound (⟨index, act, index'⟩ :: log) ↔ RatingFound log := by
  unfold RatingFound
  rw [delivery_other other]

theorem ratingFound_delivered : RatingFound (⟨index, .deliverRating, index'⟩ :: log) ↔ index.slot.source.isSome := by
  unfold RatingFound
  rw [delivery_same]
  simp

/-- The offsets stay within the topics. -/
structure Within (feed : Feed) (index : Index) : Prop where
  catalog : index.catalogOffset ≤ feed.catalog.length
  ratings : index.ratingOffset ≤ feed.ratings.length

theorem Within.step {action : Action} (within : index.Within feed) (step : index.step feed action = some index') :
    index'.Within feed := by
  cases action with
  | deliverCatalog =>
    simp only [Index.step] at step
    split at step <;> cases step
    rename_i next
    have bound := (List.getElem?_eq_some_iff.mp next).1
    exact ⟨bound, within.ratings⟩
  | deliverRating =>
    simp only [Index.step] at step
    split at step <;> cases step
    rename_i next
    have bound := (List.getElem?_eq_some_iff.mp next).1
    exact ⟨within.catalog, bound⟩
  | restartCatalog offset =>
    simp only [Index.step] at step
    split at step <;> cases step
    rename_i earlier
    exact ⟨Nat.le_trans earlier within.catalog, within.ratings⟩
  | restartRating offset =>
    simp only [Index.step] at step
    split at step <;> cases step
    rename_i earlier
    exact ⟨within.catalog, Nat.le_trans earlier within.ratings⟩
  | collectTombstone =>
    simp only [Index.step] at step
    split at step <;> cases step
    exact ⟨within.catalog, within.ratings⟩

theorem Shown.upserted (shown : index.Shown feed log) {document : RestaurantSearchDocument} {offset : Nat}
    (details : offset = feed.catalog.length → document.toRestaurantDetails = detailsOf feed.lastSnapshot) {act : Action}
    (other : act ≠ .deliverRating) :
    ({ index with slot := upsert document index.slot, catalogOffset := offset } : Index).Shown feed
      (⟨index, act, index'⟩ :: log) where
  missing gone := by simp at gone
  details source found last := by
    rw [source_upsert] at found
    cases found
    exact details last
  unrated unfound source found := by
    rw [source_upsert] at found
    cases found
    rw [ratingFound_other other] at unfound
    cases before : index.slot.source with
    | none => rfl
    | some old => exact shown.unrated unfound old before
  rated found := by
    rw [ratingFound_other other] at found
    obtain ⟨old, before, rating⟩ := shown.rated found
    exact ⟨_, source_upsert .., fun last => by simpa [before] using rating last⟩

theorem Shown.step {action : Action} (shown : index.Shown feed log) (within : index.Within feed)
    (undeleted : feed.deleted = none) (step : index.step feed action = some index') :
    index'.Shown feed (⟨index, action, index'⟩ :: log) := by
  cases action with
  | deliverCatalog =>
    simp only [Index.step] at step
    split at step <;> cases step
    rename_i occurredAt event next
    obtain ⟨restaurant, kind, last⟩ := Feed.catalog_undeleted undeleted next
    rcases kind with rfl | rfl
    · exact shown.upserted (fun ends => congrArg detailsOf (last ends)) nofun
    · exact shown.upserted (fun ends => congrArg detailsOf (last ends)) nofun
  | deliverRating =>
    simp only [Index.step] at step
    split at step <;> cases step
    rename_i avgRating next
    have source : (applyReviewRatingEvent avgRating index.slot).source = index.slot.source.map fun source =>
        { source with rating := avgRating } := Slot.source_merge ..
    refine ⟨fun gone => ?_, fun after found last => ?_, fun unfound after found => ?_, fun found => ?_⟩
    · exact shown.missing (Option.map_eq_none_iff.mp (source.symm.trans gone))
    · obtain ⟨before, there, rfl⟩ := Option.map_eq_some_iff.mp (source.symm.trans found)
      exact shown.details before there last
    · obtain ⟨before, there, -⟩ := Option.map_eq_some_iff.mp (source.symm.trans found)
      exact absurd (ratingFound_delivered.mpr (by simp [there])) unfound
    · obtain ⟨before, there⟩ := Option.isSome_iff_exists.mp (ratingFound_delivered.mp found)
      refine ⟨_, source.trans (by rw [there, Option.map_some]), fun last => ?_⟩
      exact ratings_last next last
  | restartCatalog offset =>
    simp only [Index.step] at step
    split at step <;> cases step
    rename_i earlier
    refine ⟨fun gone => ?_, fun source found last => ?_, fun unfound => ?_, fun found => ?_⟩
    · have start := shown.missing gone
      exact Nat.le_zero.mp (start ▸ earlier)
    · have bound := within.catalog
      exact shown.details source found (by simp only at last; omega)
    · rw [ratingFound_other (by simp)] at unfound
      exact shown.unrated unfound
    · rw [ratingFound_other (by simp)] at found
      exact shown.rated found
  | restartRating offset =>
    simp only [Index.step] at step
    split at step <;> cases step
    rename_i earlier
    refine ⟨shown.missing, shown.details, fun unfound => ?_, fun found => ?_⟩
    · rw [ratingFound_other (by simp)] at unfound
      exact shown.unrated unfound
    · rw [ratingFound_other (by simp)] at found
      obtain ⟨source, there, rating⟩ := shown.rated found
      have bound := within.ratings
      exact ⟨source, there, fun last => rating (by simp only at last; omega)⟩
  | collectTombstone =>
    simp only [Index.step] at step
    split at step <;> cases step
    rename_i version tombstone
    have gone : index.slot.source = none := by rw [tombstone]; rfl
    refine ⟨fun _ => shown.missing gone, nofun, nofun, fun found => ?_⟩
    rw [ratingFound_other (by simp)] at found
    obtain ⟨source, there, -⟩ := shown.rated found
    cases gone.symm.trans there

/-- What holds of a deleted restaurant: the document is gone with a deletion that was not refused. -/
theorem removed_step {action : Action} (within : index.Within feed)
    (gone : index.catalogOffset = feed.catalog.length → ¬ DeletionRefused feed log → index.slot.source = none)
    (deleted : feed.deleted.isSome) (step : index.step feed action = some index')
    (last : index'.catalogOffset = feed.catalog.length)
    (accepted : ¬ DeletionRefused feed (⟨index, action, index'⟩ :: log)) : index'.slot.source = none := by
  have before (other : action ≠ .deliverCatalog) : ¬ DeletionRefused feed log := by
    unfold DeletionRefused at accepted ⊢
    rwa [delivery_other other] at accepted
  cases action with
  | deliverCatalog =>
    simp only [Index.step] at step
    split at step <;> cases step
    rename_i occurredAt event next
    obtain ⟨deletion, told⟩ := Option.isSome_iff_exists.mp deleted
    cases Feed.catalog_deleted told next last
    refine source_remove fun source current live => Nat.le_of_not_lt fun later => accepted ?_
    exact ⟨_, deletion, source, current, delivery_same, told, live, later⟩
  | deliverRating =>
    simp only [Index.step] at step
    split at step <;> cases step
    have source := gone last (before nofun)
    simp [applyReviewRatingEvent, updateRating, source]
  | restartCatalog offset =>
    simp only [Index.step] at step
    split at step <;> cases step
    rename_i earlier
    have bound := within.catalog
    exact gone (by simp only at last; omega) (before nofun)
  | restartRating offset =>
    simp only [Index.step] at step
    split at step <;> cases step
    exact gone last (before nofun)
  | collectTombstone =>
    simp only [Index.step] at step
    split at step <;> cases step
    rfl

/-- What the index ends up with: the last snapshot of a restaurant that is not
deleted, rated if the last rating found its document, and nothing of a deleted
one unless its deletion was refused. -/
structure Settled (feed : Feed) (log : List (Commit Index Action)) (index : Index) : Prop where
  shown : feed.deleted = none → ∃ source, index.slot.source = some source ∧
    source.toRestaurantDetails = detailsOf feed.lastSnapshot ∧
    (RatingFound log → source.rating = feed.lastRating) ∧ (¬ RatingFound log → source.rating = 0)
  removed : feed.deleted.isSome → ¬ DeletionRefused feed log → index.slot.source = none

theorem within_of_run (run : Run feed log index) : index.Within feed := by
  refine run.invariant ?_ fun _ _ _ _ step within => within.step step
  rintro _ rfl
  exact ⟨Nat.zero_le _, Nat.zero_le _⟩

theorem shown_of_run (run : Run feed log index) (undeleted : feed.deleted = none) : index.Shown feed log := by
  induction run with
  | start first =>
    cases first
    exact Shown.empty
  | commit previous step ih => exact ih.step (within_of_run previous) undeleted step

theorem removed_of_run (run : Run feed log index) (deleted : feed.deleted.isSome)
    (last : index.catalogOffset = feed.catalog.length) (accepted : ¬ DeletionRefused feed log) :
    index.slot.source = none := by
  induction run with
  | start first =>
    cases first
    rfl
  | commit previous step ih => exact removed_step (within_of_run previous) ih deleted step last accepted

end Index

theorem settled_once_delivered (run : Run feed log index) (delivered : index.Delivered feed) : index.Settled feed log where
  shown undeleted := by
    have shown := Index.shown_of_run run undeleted
    cases found : index.slot.source with
    | none =>
      have start := shown.missing found
      simp [delivered.catalog, Feed.catalog] at start
    | some source =>
      refine ⟨source, rfl, shown.details source found delivered.catalog, fun rated => ?_, fun unrated => ?_⟩
      · obtain ⟨same, there, rating⟩ := shown.rated rated
        cases Option.some.inj (found.symm.trans there)
        exact rating delivered.ratings
      · exact shown.unrated unrated source found
  removed deleted accepted := Index.removed_of_run run deleted delivered.catalog accepted

def sampleRestaurant (name : String) : Restaurant where
  id := "restaurant-1"
  tenantId := "tenant-1"
  name := name
  description := none
  isActive := true
  createdAt := 1
  updatedAt := 1
  deletedAt := none
  version := 1

def sampleFeed : Feed where
  created := (1000, sampleRestaurant "Phở Hà Nội")
  updates := [(2000, sampleRestaurant "Phở Sài Gòn")]
  deleted := none
  ratings := [5, 4]

def deletedFeed : Feed := { sampleFeed with updates := [], deleted := some (3000, sampleRestaurant "Phở Hà Nội") }

/-- An update is delivered twice, or the deletion is. -/
theorem settled_once_delivered_sample :
    (∃ log index, Run sampleFeed log index ∧ index.Delivered sampleFeed ∧
      index.Settled sampleFeed log ∧ index.slot.source.map (·.rating) = some 4) ∧
    ∃ log index, Run deletedFeed log index ∧ index.Delivered deletedFeed ∧ index.slot.source = none := by
  constructor
  · have start : Run sampleFeed [] Index.empty := History.start rfl
    have rated := (start.commit (a := .deliverCatalog) rfl).commit (a := .deliverRating) rfl
    have restarted := ((rated.commit (a := .deliverCatalog) rfl).commit (a := .deliverRating) rfl).commit
      (a := .restartCatalog 0) rfl
    have delivered := (restarted.commit (a := .deliverCatalog) rfl).commit (a := .deliverCatalog) rfl
    exact ⟨_, _, delivered, ⟨rfl, rfl⟩, settled_once_delivered delivered ⟨rfl, rfl⟩, by decide⟩
  · have start : Run deletedFeed [] Index.empty := History.start rfl
    have created := start.commit (a := .deliverCatalog) rfl
    have rated := (created.commit (a := .deliverRating) rfl).commit (a := .deliverRating) rfl
    have removed := (rated.commit (a := .deliverCatalog) rfl).commit (a := .restartCatalog 1) rfl
    have again := removed.commit (a := .deliverCatalog) rfl
    refine ⟨_, _, again, ⟨rfl, rfl⟩, (settled_once_delivered again ⟨rfl, rfl⟩).removed rfl ?_⟩
    rintro ⟨commit, deletion, source, version, last, -, live, -⟩
    rw [delivery_same] at last
    cases last
    cases live

/-- A rating that comes before the document is dropped. -/
theorem rating_dropped : ∃ log index, Run sampleFeed log index ∧ index.Delivered sampleFeed ∧
    ¬ index.Converged sampleFeed := by
  obtain ⟨log, index, run, delivered, unrated⟩ : ∃ log index, Run sampleFeed log index ∧ index.Delivered sampleFeed ∧
      index.slot.source.map (·.rating) = some 0 :=
    History.replayed [.deliverRating, .deliverRating, .deliverCatalog, .deliverCatalog] ⟨_, rfl, ⟨rfl, rfl⟩, by decide⟩
  refine ⟨log, index, run, delivered, fun converged => ?_⟩
  rw [converged.shown rfl] at unrated
  revert unrated
  decide

/-- A restart from before a deletion restores the document with a version that
refuses the deletion, unless Elasticsearch has forgotten it meanwhile. -/
theorem resurrected_by_restart : ∃ log index, Run deletedFeed log index ∧ index.Delivered deletedFeed ∧
    index.slot.source.isSome ∧ DeletionRefused deletedFeed log := by
  have start : Run deletedFeed [] Index.empty := History.start rfl
  have rated := (start.commit (a := .deliverRating) rfl).commit (a := .deliverRating) rfl
  have removed := (rated.commit (a := .deliverCatalog) rfl).commit (a := .deliverCatalog) rfl
  have restored := (removed.commit (a := .restartCatalog 0) rfl).commit (a := .deliverCatalog) rfl
  have refused := restored.commit (a := .deliverCatalog) rfl
  exact ⟨_, _, refused, ⟨rfl, rfl⟩, rfl, _, _, _, 3001, delivery_same, rfl, rfl, by decide⟩

theorem index_diverges :
    (∃ log index, Run sampleFeed log index ∧ index.Delivered sampleFeed ∧ ¬ index.Converged sampleFeed) ∧
      ∃ log index, Run deletedFeed log index ∧ index.Delivered deletedFeed ∧ ¬ index.Converged deletedFeed := by
  obtain ⟨log, index, run, delivered, back, -⟩ := resurrected_by_restart
  refine ⟨rating_dropped, log, index, run, delivered, fun converged => ?_⟩
  rw [converged.removed rfl] at back
  cases back

end FoodDelivery.Search
