import AuditFeed.Instant.Basic

/-!
# The order of instants

Instants are ordered by their seconds and then by their nanoseconds, which is a linear order, in
leap seconds too. `Instant.latest` is the least upper bound of a time and a list of times, and it is
what a cursor keeps of the times of the activities that it has seen.

## Bounds

A bound is known by what lies above it (`Instant.eq_of_forall_le_iff`), and what lies above the
latest of many is what lies above each of them (`Instant.latest_le_iff`). So two lists with the same
members have the same latest time, whatever their order and repetition, and nothing of the fold that
computes it has to be looked at.

## Main statements

* `Instant.latest_le_iff`: the latest time is the least upper bound.
* `Instant.latest_eq_of_mem_iff`: neither order nor repetition matters.
-/

namespace AuditFeed.Instant

variable {s t u : Instant}

protected theorem le_refl (t : Instant) : t ≤ t := by
  rw [le_def]
  omega

protected theorem le_trans (h : s ≤ t) (h' : t ≤ u) : s ≤ u := by
  rw [le_def] at *
  omega

protected theorem le_antisymm (h : s ≤ t) (h' : t ≤ s) : s = t := by
  rw [le_def] at *
  exact eq_of_parts (by omega) (by omega)

protected theorem le_total (s t : Instant) : s ≤ t ∨ t ≤ s := by
  rw [le_def, le_def]
  omega

/-- The later of two instants is known by what lies above it. -/
theorem max_le_iff : max s t ≤ u ↔ s ≤ u ∧ t ≤ u := by
  rw [max_def]
  split
  · rename_i h
    exact ⟨fun h' ↦ ⟨Instant.le_trans h h', h'⟩, And.right⟩
  · rename_i h
    have hts : t ≤ s := (Instant.le_total s t).resolve_left h
    exact ⟨fun h' ↦ ⟨h', Instant.le_trans hts h'⟩, And.left⟩

theorem le_max_left (s t : Instant) : s ≤ max s t :=
  (max_le_iff.1 (Instant.le_refl _)).1

/-- The later of two instants is one of them. -/
theorem max_mem (s t : Instant) : max s t = s ∨ max s t = t := by
  rw [max_def]
  split
  · exact .inr rfl
  · exact .inl rfl

/-- Two instants with the same upper bounds are one. -/
theorem eq_of_forall_le_iff (h : ∀ u : Instant, s ≤ u ↔ t ≤ u) : s = t :=
  Instant.le_antisymm ((h t).2 (Instant.le_refl t)) ((h s).1 (Instant.le_refl s))

/-! ### The latest of many -/

/-- The latest of a time and a list of times. -/
def latest (t : Instant) (ts : List Instant) : Instant :=
  ts.foldl max t

@[simp] theorem latest_nil (t : Instant) : latest t [] = t := rfl

/-- The first of the times counts as one more to start from. -/
theorem latest_cons (t u : Instant) (ts : List Instant) :
    latest t (u :: ts) = latest (max t u) ts := rfl

/-- The latest of two lists is found by going on with the second one. -/
theorem latest_append (t : Instant) (ts us : List Instant) :
    latest t (ts ++ us) = latest (latest t ts) us :=
  List.foldl_append

/-- **The latest time is the least that is at or after all of them.** -/
theorem latest_le_iff (t : Instant) (ts : List Instant) (u : Instant) :
    latest t ts ≤ u ↔ t ≤ u ∧ ∀ s ∈ ts, s ≤ u := by
  induction ts generalizing t with
  | nil => simp
  | cons s ts ih =>
    rw [latest_cons, ih, max_le_iff, List.forall_mem_cons, and_assoc]

/-- The latest time is one of them. -/
theorem latest_mem (t : Instant) (ts : List Instant) : latest t ts ∈ t :: ts := by
  induction ts generalizing t with
  | nil => exact List.mem_singleton.2 rfl
  | cons s ts ih =>
    rw [latest_cons]
    rcases List.mem_cons.1 (ih (max t s)) with h | h
    · rw [h]
      rcases max_mem t s with h' | h' <;> simp [h']
    · exact List.mem_cons_of_mem _ (List.mem_cons_of_mem _ h)

/-- Neither the order of the times nor their repetition changes the latest one. -/
theorem latest_eq_of_mem_iff {t : Instant} {ts us : List Instant} (h : ∀ s, s ∈ ts ↔ s ∈ us) :
    latest t ts = latest t us := by
  refine eq_of_forall_le_iff fun u ↦ ?_
  rw [latest_le_iff, latest_le_iff]
  exact and_congr_right fun _ ↦ forall_congr' fun s ↦ by rw [h s]

end AuditFeed.Instant
