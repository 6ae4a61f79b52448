import Conform.Proofs.Listing
import Conform.Watch

/-! # What a listener is told

Of every batch with an event that matters the listener is told once, of any
other batch never, whatever telling it of the batches before came to.
-/

namespace Conform.Watch

variable {isRelevant : FilePath → Bool} {events : List Event} {file : FilePath}

/-! ## Batches -/

/-- Some event of a batch is about a file that matters. -/
def Matters (isRelevant : FilePath → Bool) (events : List Event) : Prop :=
  ∃ event ∈ events, isRelevant event.file = true

instance (isRelevant : FilePath → Bool) (events : List Event) :
    Decidable (Matters isRelevant events) :=
  List.decidableBEx (fun event : Event => isRelevant event.file = true) events

namespace Batch

theorem mem_filesOf_iff {wanted : Event → Bool} :
    file ∈ filesOf wanted events ↔
      ∃ event ∈ events, event.file = file ∧ wanted event = true := by
  simp only [filesOf, List.mem_eraseDups, List.mem_map, List.mem_filter]
  constructor
  · rintro ⟨event, ⟨hmem, hwanted⟩, hfile⟩
    exact ⟨event, hmem, hfile, hwanted⟩
  · rintro ⟨event, hmem, hfile, hwanted⟩
    exact ⟨event, ⟨hmem, hwanted⟩, hfile⟩

theorem nodup_filesOf (wanted : Event → Bool) (events : List Event) :
    (filesOf wanted events).Nodup :=
  nodup_eraseDups _

theorem mem_changed_iff : file ∈ (ofEvents isRelevant events).changed ↔
    isRelevant file = true ∧
      ∃ event ∈ events, event.file = file ∧ (event.change = .added ∨ event.change = .modified) := by
  have hchange (change : Change) :
      (change != .deleted) = true ↔ change = .added ∨ change = .modified := by
    cases change <;> decide
  simp only [ofEvents, mem_filesOf_iff, Bool.and_eq_true, hchange]
  constructor
  · rintro ⟨event, hmem, rfl, hrelevant, hkind⟩
    exact ⟨hrelevant, event, hmem, rfl, hkind⟩
  · rintro ⟨hrelevant, event, hmem, rfl, hkind⟩
    exact ⟨event, hmem, rfl, hrelevant, hkind⟩

theorem mem_deleted_iff : file ∈ (ofEvents isRelevant events).deleted ↔
    isRelevant file = true ∧ ∃ event ∈ events, event.file = file ∧ event.change = .deleted := by
  simp only [ofEvents, mem_filesOf_iff, Bool.and_eq_true, beq_iff_eq]
  constructor
  · rintro ⟨event, hmem, rfl, hrelevant, hkind⟩
    exact ⟨hrelevant, event, hmem, rfl, hkind⟩
  · rintro ⟨hrelevant, event, hmem, rfl, hkind⟩
    exact ⟨event, hmem, rfl, hrelevant, hkind⟩

/-- There is nothing to tell of a batch exactly if none of its events matters. -/
theorem isEmpty_ofEvents_iff : (ofEvents isRelevant events).isEmpty = true ↔
    ¬Matters isRelevant events := by
  rw [isEmpty, Bool.and_eq_true, List.isEmpty_iff, List.isEmpty_iff,
    List.eq_nil_iff_forall_not_mem, List.eq_nil_iff_forall_not_mem]
  constructor
  · rintro ⟨hchanged, hdeleted⟩ ⟨event, hmem, hrelevant⟩
    cases hchange : event.change with
    | added => exact hchanged _ (mem_changed_iff.mpr ⟨hrelevant, event, hmem, rfl, .inl hchange⟩)
    | modified => exact hchanged _ (mem_changed_iff.mpr ⟨hrelevant, event, hmem, rfl, .inr hchange⟩)
    | deleted => exact hdeleted _ (mem_deleted_iff.mpr ⟨hrelevant, event, hmem, rfl, hchange⟩)
  · intro hnone
    constructor
    · intro file hfile
      obtain ⟨hrelevant, event, hmem, rfl, _⟩ := mem_changed_iff.mp hfile
      exact hnone ⟨event, hmem, hrelevant⟩
    · intro file hfile
      obtain ⟨hrelevant, event, hmem, rfl, _⟩ := mem_deleted_iff.mp hfile
      exact hnone ⟨event, hmem, hrelevant⟩

end Batch

/-! ## Runs -/

section Runs

variable {σ : Type}

/-- The listener that does the same and, before it does so, writes down what it
is told. -/
def Listener.recording (listener : Listener σ) : Listener (List Batch × σ) where
  tell batch := fun (told, s) =>
    let (outcome, s) := listener.tell batch s
    (outcome, told ++ [batch], s)
  log entry := fun (told, s) => (told, listener.log entry s)

/-- A listener is told once of a batch with an event that matters, also if
telling breaks down, and not at all of another batch. -/
theorem Listener.deliver_recording (listener : Listener σ) (isRelevant : FilePath → Bool)
    (events : List Event) (told : List Batch) (s : σ) :
    listener.recording.deliver isRelevant events (told, s) =
      (told ++ if Matters isRelevant events then [Batch.ofEvents isRelevant events] else [],
        listener.deliver isRelevant events s) := by
  by_cases hmatters : Matters isRelevant events
  · have hempty : ¬(Batch.ofEvents isRelevant events).isEmpty = true :=
      fun h => Batch.isEmpty_ofEvents_iff.mp h hmatters
    obtain ⟨outcome, after, htell⟩ : ∃ outcome after,
        listener.tell (Batch.ofEvents isRelevant events)
          (listener.log (.detected (Batch.ofEvents isRelevant events).changed.length
            (Batch.ofEvents isRelevant events).deleted.length) s) = (outcome, after) :=
      ⟨_, _, rfl⟩
    rw [if_pos hmatters, deliver, deliver]
    cases outcome <;> simp [if_neg hempty, recording, htell]
  · have hempty : (Batch.ofEvents isRelevant events).isEmpty = true :=
      Batch.isEmpty_ofEvents_iff.mpr hmatters
    rw [if_neg hmatters, deliver, deliver]
    simp only [if_pos hempty, List.append_nil]

/-- A run tells of exactly the batches with an event that matters, of each of
them once and in the order in which they came: of the files that were added or
modified and of those that were deleted, as far as they matter. Neither how
often telling breaks down nor what it leaves behind makes a difference. -/
theorem run_recording (isRelevant : FilePath → Bool) (deliveries : List (Listener σ × List Event))
    (s : σ) :
    run isRelevant (deliveries.map fun (listener, events) => (listener.recording, events)) ([], s) =
        (((deliveries.map (·.2)).filter (Matters isRelevant ·)).map (Batch.ofEvents isRelevant),
          run isRelevant deliveries s) ∧
      ∀ events : List Event,
        (Batch.ofEvents isRelevant events).changed.Nodup ∧
          (Batch.ofEvents isRelevant events).deleted.Nodup ∧
          ∀ file,
            (file ∈ (Batch.ofEvents isRelevant events).changed ↔ isRelevant file = true ∧
              ∃ event ∈ events, event.file = file ∧
                (event.change = .added ∨ event.change = .modified)) ∧
            (file ∈ (Batch.ofEvents isRelevant events).deleted ↔ isRelevant file = true ∧
              ∃ event ∈ events, event.file = file ∧ event.change = .deleted) := by
  constructor
  · -- The record only grows, so the induction is on runs that start with some record.
    suffices htold : ∀ told : List Batch,
        run isRelevant (deliveries.map fun (listener, events) => (listener.recording, events))
            (told, s) =
          (told ++
            ((deliveries.map (·.2)).filter (Matters isRelevant ·)).map (Batch.ofEvents isRelevant),
            run isRelevant deliveries s) by
      simpa using htold []
    intro told
    induction deliveries generalizing told s with
    | nil => simp [run]
    | cons delivery rest ih =>
        obtain ⟨listener, events⟩ := delivery
        rw [List.map_cons, run, run, Listener.deliver_recording, ih]
        by_cases hmatters : Matters isRelevant events <;> simp [hmatters]
  · intro events
    exact ⟨Batch.nodup_filesOf _ _, Batch.nodup_filesOf _ _,
      fun file => ⟨Batch.mem_changed_iff, Batch.mem_deleted_iff⟩⟩

end Runs

end Conform.Watch
