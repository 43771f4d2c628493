import Mathlib
import CellSearch.Proofs.Column.Binding

/-!
# What the cache remembers

A cache serves requests for prepared forms and is cleared now and then. What it holds is a prefix
of the descriptors in the order of their last use (`PreparedCache.held_run`): a request moves its
descriptor to the front of that order, whether it is answered from the cache or not. So the form of
a descriptor is handed out again exactly if fewer other descriptors than the cache has room for
were asked for in between (`PreparedCache.mem_held_iff`); and it is the same form, with the ticket
of the request before (`PreparedCache.ticket_eq_iff`).
-/

namespace CellSearch.PreparedCache

variable {c : PreparedCache} {d x : Descriptor} {e : SharedPrepared} {capacity n : Nat}

/-- What a cache is asked for. -/
inductive Request where
  | get (d : Descriptor)
  | clear
deriving DecidableEq, Repr

/-- The descriptors that are asked for, in order. -/
def asked (requests : List Request) : List Descriptor :=
  requests.filterMap fun
    | .get d => some d
    | .clear => none

/-- The requests behind the last clearing. -/
def sinceClear (requests : List Request) : List Request :=
  requests.rtakeWhile (· != .clear)

/-- The cache after a request. -/
def serve (c : PreparedCache) : Request → PreparedCache
  | .get d => (c.get d).2
  | .clear => c.clear

/-- The cache of a capacity after a run of requests. -/
def run (capacity : Nat) (requests : List Request) : PreparedCache :=
  requests.foldl serve (.ofCapacity capacity)

/-- The descriptors whose forms are in the cache. -/
def held (c : PreparedCache) : List Descriptor :=
  c.entries.map fun e => e.prepared.descriptor

variable {requests front between : List Request} {r : Request}

@[simp] theorem asked_nil : asked [] = [] := rfl

@[simp] theorem asked_concat_get :
    asked (requests ++ [.get d]) = asked requests ++ [d] := by
  simp [asked]

@[simp] theorem asked_concat_clear : asked (requests ++ [.clear]) = asked requests := by
  simp [asked]

theorem mem_asked : d ∈ asked requests ↔ Request.get d ∈ requests := by
  constructor
  · intro h
    obtain ⟨r, hr, heq⟩ := List.mem_filterMap.mp h
    cases r with
    | get x =>
      cases heq
      exact hr
    | clear => cases heq
  · intro h
    exact List.mem_filterMap.mpr ⟨_, h, rfl⟩

@[simp] theorem run_concat : run capacity (requests ++ [r]) = (run capacity requests).serve r := by
  simp [run]

/-! ## One request -/

/-- What is held is handed out as it is, and comes to the front. -/
theorem get_of_mem_held (h : d ∈ c.held) :
    ∃ e ∈ c.entries, e.prepared.descriptor = d ∧ c.get d = (e, { c with
      entries := e :: c.entries.filter fun other => other.prepared.descriptor != d
      hits := c.hits + 1 }) := by
  obtain ⟨e, he, hd⟩ := List.mem_map.mp h
  cases hfind : c.entries.find? fun e => e.prepared.descriptor == d with
  | none =>
    have hnone := List.find?_eq_none.mp hfind e he
    simp [hd] at hnone
  | some found =>
    refine ⟨found, List.mem_of_find?_eq_some hfind, ?_, ?_⟩
    · simpa using List.find?_some hfind
    · rw [get, hfind]

/-- What is not held is prepared, with a new ticket. -/
theorem get_of_not_mem_held (h : d ∉ c.held) :
    c.get d = (⟨c.misses, .ofDescriptor d⟩, { c with
      entries := (⟨c.misses, .ofDescriptor d⟩ :: c.entries).take c.capacity
      misses := c.misses + 1 }) := by
  have hfind : (c.entries.find? fun e => e.prepared.descriptor == d) = none := by
    rw [List.find?_eq_none]
    intro e he hd
    exact h (List.mem_map.mpr ⟨e, he, by simpa using hd⟩)
  rw [get, hfind]

/-- A request for what is held is a hit, any other a miss. -/
theorem counts_get (c : PreparedCache) (d : Descriptor) :
    d ∈ c.held ∧ (c.get d).2.hits = c.hits + 1 ∧ (c.get d).2.misses = c.misses ∨
      d ∉ c.held ∧ (c.get d).2.hits = c.hits ∧ (c.get d).2.misses = c.misses + 1 := by
  by_cases h : d ∈ c.held
  · obtain ⟨e, -, -, hget⟩ := get_of_mem_held h
    rw [hget]
    exact Or.inl ⟨h, rfl, rfl⟩
  · rw [get_of_not_mem_held h]
    exact Or.inr ⟨h, rfl, rfl⟩

/-- The form that is handed out belongs to the descriptor. -/
theorem descriptor_get (c : PreparedCache) (d : Descriptor) :
    (c.get d).1.prepared.descriptor = d := by
  by_cases h : d ∈ c.held
  · obtain ⟨e, -, hd, hget⟩ := get_of_mem_held h
    rw [hget]
    exact hd
  · rw [get_of_not_mem_held h]
    rfl

/-- Behind the form that was handed out, there are only forms of other descriptors that were there
before. -/
theorem mem_entries_get (he : e ∈ (c.get d).2.entries) :
    e = (c.get d).1 ∨ e ∈ c.entries ∧ e.prepared.descriptor ≠ d := by
  by_cases h : d ∈ c.held
  · obtain ⟨found, -, -, hget⟩ := get_of_mem_held h
    rw [hget] at he ⊢
    rcases List.mem_cons.mp he with rfl | he
    · exact Or.inl rfl
    · obtain ⟨hmem, hne⟩ := List.mem_filter.mp he
      exact Or.inr ⟨hmem, by simpa using hne⟩
  · rw [get_of_not_mem_held h] at he ⊢
    rcases List.mem_cons.mp (List.mem_of_mem_take he) with rfl | he
    · exact Or.inl rfl
    · exact Or.inr ⟨he, fun hd => h (List.mem_map.mpr ⟨e, he, hd⟩)⟩

@[simp] theorem serve_capacity (c : PreparedCache) (r : Request) :
    (c.serve r).capacity = c.capacity := by
  cases r with
  | get d =>
    by_cases h : d ∈ c.held
    · obtain ⟨e, -, -, hget⟩ := get_of_mem_held h
      rw [serve, hget]
    · rw [serve, get_of_not_mem_held h]
  | clear => rfl

/-- A descriptor that is asked for comes to the front, and the last of the others may have to
go. -/
theorem held_get (hroom : c.held.length ≤ c.capacity) :
    (c.get d).2.held = (d :: c.held.filter (· != d)).take c.capacity := by
  by_cases h : d ∈ c.held
  · obtain ⟨e, -, hd, hget⟩ := get_of_mem_held h
    have hfilter : (c.entries.filter fun other => other.prepared.descriptor != d).map
        (fun e => e.prepared.descriptor) = c.held.filter (· != d) := by
      rw [held, List.filter_map]
      rfl
    have hshorter : (c.held.filter (· != d)).length < c.held.length :=
      List.length_filter_lt_length_iff_exists.mpr ⟨d, h, by simp⟩
    rw [hget, held, List.map_cons, hd, hfilter, List.take_of_length_le]
    rw [List.length_cons]
    omega
  · have hfilter : c.held.filter (· != d) = c.held := by
      rw [List.filter_eq_self]
      intro x hx
      have hne : x ≠ d := fun hxd => h (hxd ▸ hx)
      simpa using hne
    rw [get_of_not_mem_held h, hfilter, held, List.map_take]
    rfl

/-! ## The order of last use -/

/-- The order of last use after a request, the most recent first. -/
def touch (recent : List Descriptor) : Request → List Descriptor
  | .get d => d :: recent.filter (· != d)
  | .clear => []

/-- The descriptors asked for since the last clearing, in the order of their last use. -/
def recency (requests : List Request) : List Descriptor :=
  requests.foldl touch []

@[simp] theorem recency_concat : recency (requests ++ [r]) = touch (recency requests) r := by
  simp [recency]

theorem nodup_recency (requests : List Request) : (recency requests).Nodup := by
  induction requests using List.reverseRecOn with
  | nil => exact List.nodup_nil
  | append_singleton requests r ih =>
    rw [recency_concat]
    cases r with
    | get d => exact List.nodup_cons.mpr ⟨by simp, ih.filter _⟩
    | clear => exact List.nodup_nil

theorem get_mem_of_mem_recency (h : d ∈ recency requests) : Request.get d ∈ requests := by
  induction requests using List.reverseRecOn with
  | nil => cases h
  | append_singleton requests r ih =>
    rw [recency_concat] at h
    cases r with
    | get x =>
      rcases List.mem_cons.mp h with rfl | h
      · simp
      · exact List.mem_append_left _ (ih (List.mem_filter.mp h).1)
    | clear => cases h

/-- Without a clearing, what was used last stands before what was used earlier. -/
theorem foldl_touch (recent : List Descriptor) (hclear : .clear ∉ between) :
    between.foldl touch recent =
      recency between ++ recent.filter fun x => decide (x ∉ asked between) := by
  induction between using List.reverseRecOn with
  | nil => simp [recency]
  | append_singleton between r ih =>
    simp only [List.mem_append, List.mem_singleton, not_or] at hclear
    cases r with
    | get d =>
      have hlast : (fun x => x != d && decide (x ∉ asked between)) =
          fun x => decide (x ∉ asked (between ++ [.get d])) := by
        funext x
        by_cases hx : x = d
        · simp [hx]
        · by_cases hasked : x ∈ asked between <;> simp [hx, hasked]
      rw [List.foldl_append, ih hclear.1, recency_concat]
      simp only [List.foldl_cons, List.foldl_nil, touch, List.filter_append, List.filter_filter,
        hlast, List.cons_append]
    | clear => exact absurd rfl hclear.2

theorem mem_recency (hclear : .clear ∉ requests) : d ∈ recency requests ↔ d ∈ asked requests := by
  constructor
  · intro h
    exact mem_asked.mpr (get_mem_of_mem_recency h)
  · intro h
    induction requests using List.reverseRecOn with
    | nil => cases h
    | append_singleton requests r ih =>
      simp only [List.mem_append, List.mem_singleton, not_or] at hclear
      cases r with
      | get x =>
        rw [recency_concat, touch]
        by_cases hx : d = x
        · rw [hx]
          exact List.mem_cons_self
        · have hasked : d ∈ asked requests := by simpa [hx] using h
          exact List.mem_cons_of_mem _ (List.mem_filter.mpr ⟨ih hclear.1 hasked, by simpa using hx⟩)
      | clear => exact absurd rfl hclear.2

/-- How many different descriptors were asked for. -/
theorem length_recency (hclear : .clear ∉ requests) :
    (recency requests).length = (asked requests).toFinset.card := by
  rw [← List.toFinset_card_of_nodup (nodup_recency requests)]
  congr 1
  ext d
  simp [mem_recency hclear]

theorem clear_not_mem_sinceClear (requests : List Request) : .clear ∉ sinceClear requests := by
  intro h
  have hkept := List.mem_rtakeWhile_imp h
  simp at hkept

/-- What was asked for before a clearing is forgotten. -/
theorem recency_sinceClear (requests : List Request) :
    recency (sinceClear requests) = recency requests := by
  induction requests using List.reverseRecOn with
  | nil => rfl
  | append_singleton requests r ih =>
    cases r with
    | get d =>
      rw [sinceClear, List.rtakeWhile_concat_pos _ _ _ (by rfl), recency_concat, recency_concat]
      exact congrArg (touch · (.get d)) ih
    | clear =>
      rw [sinceClear, List.rtakeWhile_concat_neg _ _ _ (by decide), recency_concat]
      rfl

/-- A descriptor stands behind those that were asked for after it. -/
theorem recency_of_last (front : List Request) (hlast : .get d ∉ between)
    (hclear : .clear ∉ between) :
    ∃ older, recency (front ++ .get d :: between) = recency between ++ d :: older := by
  have hkept : decide (d ∉ asked between) = true := by simpa [mem_asked] using hlast
  rw [recency, List.foldl_append, List.foldl_cons, foldl_touch _ hclear, touch,
    List.filter_cons_of_pos (p := fun x => decide (x ∉ asked between)) hkept]
  exact ⟨_, rfl⟩

theorem not_mem_recency_of_clear (front : List Request) (hlast : .get d ∉ between)
    (hclear : .clear ∈ between) :
    d ∉ recency (front ++ between) := by
  obtain ⟨before, behind, rfl⟩ := List.append_of_mem hclear
  have hforgotten : recency (front ++ (before ++ .clear :: behind)) = recency behind := by
    simp only [recency, List.foldl_append, List.foldl_cons, touch]
  rw [hforgotten]
  intro h
  exact hlast (List.mem_append_right _ (List.mem_cons_of_mem _ (get_mem_of_mem_recency h)))

/-! ## What is held -/

/-- Of a list without repetitions that is cut short, one entry more than needed makes up for the
one that is taken out. -/
theorem take_filter_take {recent : List Descriptor} (hnodup : recent.Nodup) :
    ((recent.take (n + 1)).filter (· != d)).take n = (recent.filter (· != d)).take n := by
  induction recent generalizing n with
  | nil => rfl
  | cons x rest ih =>
    obtain ⟨hx, hrest⟩ := List.nodup_cons.mp hnodup
    rw [List.take_succ_cons]
    by_cases hxd : x = d
    · -- nothing else is taken out
      have hkept : ∀ y ∈ rest, (y != d) = true := by
        intro y hy
        have hne : y ≠ d := fun hyd => hx (hxd ▸ hyd ▸ hy)
        simpa using hne
      have hdrop : ¬(x != d) = true := by simpa using hxd
      rw [List.filter_cons_of_neg (p := (· != d)) hdrop,
        List.filter_cons_of_neg (p := (· != d)) hdrop, List.filter_eq_self.mpr hkept,
        List.filter_eq_self.mpr fun y hy => hkept y (List.mem_of_mem_take hy), List.take_take,
        Nat.min_self]
    · have hkeep : (x != d) = true := by simpa using hxd
      rw [List.filter_cons_of_pos (p := (· != d)) hkeep,
        List.filter_cons_of_pos (p := (· != d)) hkeep]
      cases n with
      | zero => rfl
      | succ n => rw [List.take_succ_cons, List.take_succ_cons, ih hrest]

theorem capacity_run (capacity : Nat) (requests : List Request) :
    (run capacity requests).capacity = (ofCapacity capacity).capacity := by
  induction requests using List.reverseRecOn with
  | nil => rfl
  | append_singleton requests r ih => rw [run_concat, serve_capacity, ih]

theorem capacity_pos (capacity : Nat) : 0 < (ofCapacity capacity).capacity := by
  simp only [ofCapacity]
  split
  · decide
  · omega

/-- The cache holds the descriptors that were used last. -/
theorem held_run (capacity : Nat) (requests : List Request) :
    (run capacity requests).held =
      (recency requests).take (ofCapacity capacity).capacity := by
  induction requests using List.reverseRecOn with
  | nil => simp [run, ofCapacity, held, recency]
  | append_singleton requests r ih =>
    rw [run_concat, recency_concat]
    cases r with
    | clear => simp [serve, clear, held, touch]
    | get d =>
      have hroom : (run capacity requests).held.length ≤ (run capacity requests).capacity := by
        rw [ih, capacity_run, List.length_take]
        exact Nat.min_le_left _ _
      -- the cache takes the descriptor out of a list that was cut, the order of last use out of
      -- the whole one
      obtain ⟨n, hn⟩ := Nat.exists_eq_succ_of_ne_zero (capacity_pos capacity).ne'
      rw [serve, held_get hroom, capacity_run, ih, hn, touch, List.take_succ_cons,
        List.take_succ_cons, take_filter_take (nodup_recency requests)]

/-- A descriptor is held as long as the cache was not cleared and fewer others were asked for than
it has room for. -/
theorem mem_held_iff (hlast : .get d ∉ between) :
    d ∈ (run capacity (front ++ .get d :: between)).held ↔
      .clear ∉ between ∧ (asked between).toFinset.card < (ofCapacity capacity).capacity := by
  rw [held_run]
  by_cases hclear : .clear ∈ between
  · have hforgotten : d ∉ recency (front ++ .get d :: between) := by
      have h := not_mem_recency_of_clear (front ++ [.get d]) hlast hclear
      rwa [List.append_assoc] at h
    simp only [hclear, not_true_eq_false, false_and, iff_false]
    exact fun h => hforgotten (List.mem_of_mem_take h)
  · -- its place in the order is the number of others that were asked for after it
    obtain ⟨older, hrecency⟩ := recency_of_last front hlast hclear
    have hnot : d ∉ recency between := fun h => hlast (get_mem_of_mem_recency h)
    simp only [hclear, not_false_eq_true, true_and]
    rw [← length_recency hclear, hrecency, List.take_append]
    constructor
    · intro h
      rcases List.mem_append.mp h with h | h
      · exact absurd (List.mem_of_mem_take h) hnot
      · by_contra hfull
        rw [Nat.sub_eq_zero_of_le (Nat.le_of_not_lt hfull)] at h
        cases h
    · intro hroom
      obtain ⟨k, hk⟩ := Nat.exists_eq_add_of_lt hroom
      rw [hk, Nat.add_assoc, Nat.add_sub_cancel_left, List.take_succ_cons]
      exact List.mem_append_right _ List.mem_cons_self

/-- Only what was asked for is held. -/
theorem get_mem_of_mem_held (h : d ∈ (run capacity requests).held) : .get d ∈ requests := by
  rw [held_run] at h
  exact get_mem_of_mem_recency (List.mem_of_mem_take h)

/-- The descriptor was asked for, and then the cache was not cleared and fewer others were asked for
than there is room for. -/
def Remembered (room : Nat) (requests : List Request) (d : Descriptor) : Prop :=
  ∃ front between, requests = front ++ .get d :: between ∧ .get d ∉ between ∧
    .clear ∉ between ∧ (asked between).toFinset.card < room

theorem mem_held_iff_remembered : d ∈ (run capacity requests).held ↔
    Remembered (ofCapacity capacity).capacity requests d := by
  constructor
  · intro h
    -- the last request for it is the first one from behind
    obtain ⟨behind, before, hcut, hlast⟩ :=
      List.eq_append_cons_of_mem (List.mem_reverse.mpr (get_mem_of_mem_held h))
    have hrequests : requests = before.reverse ++ .get d :: behind.reverse := by
      rw [← List.reverse_reverse requests, hcut]
      simp
    have hlast' : .get d ∉ behind.reverse := by simpa using hlast
    rw [hrequests, mem_held_iff hlast'] at h
    exact ⟨before.reverse, behind.reverse, hrequests, hlast', h⟩
  · rintro ⟨front, between, rfl, hlast, hheld⟩
    exact (mem_held_iff hlast).mpr hheld

/-! ## Tickets -/

theorem misses_le_serve (c : PreparedCache) (r : Request) : c.misses ≤ (c.serve r).misses := by
  cases r with
  | get d =>
    have hcounts := counts_get c d
    rw [serve]
    omega
  | clear => exact le_refl _

/-- No ticket is given out twice. -/
def Numbered (c : PreparedCache) : Prop :=
  ∀ e ∈ c.entries, e.ticket < c.misses

theorem Numbered.ticket_get (h : c.Numbered) (d : Descriptor) :
    (c.get d).1.ticket < (c.get d).2.misses := by
  by_cases hd : d ∈ c.held
  · obtain ⟨e, he, -, hget⟩ := get_of_mem_held hd
    rw [hget]
    exact h e he
  · rw [get_of_not_mem_held hd]
    exact Nat.lt_succ_self _

theorem Numbered.serve (h : c.Numbered) (r : Request) : (c.serve r).Numbered := by
  cases r with
  | get d =>
    intro e he
    rcases mem_entries_get he with rfl | ⟨he, -⟩
    · exact h.ticket_get d
    · exact lt_of_lt_of_le (h e he) (misses_le_serve c (.get d))
  | clear =>
    intro e he
    cases he

theorem numbered_run (capacity : Nat) (requests : List Request) :
    (run capacity requests).Numbered := by
  induction requests using List.reverseRecOn with
  | nil =>
    intro e he
    cases he
  | append_singleton requests r ih =>
    rw [run_concat]
    exact ih.serve r

theorem misses_le_run (capacity : Nat) (front between : List Request) :
    (run capacity front).misses ≤ (run capacity (front ++ between)).misses := by
  induction between using List.reverseRecOn with
  | nil => simp
  | append_singleton between r ih =>
    rw [← List.append_assoc, run_concat]
    exact ih.trans (misses_le_serve _ r)

/-- The form of a descriptor that a cache still holds is the one that was handed out last. -/
theorem eq_of_mem_entries (hlast : .get d ∉ between)
    (he : e ∈ (run capacity (front ++ .get d :: between)).entries)
    (hd : e.prepared.descriptor = d) : e = ((run capacity front).get d).1 := by
  induction between using List.reverseRecOn with
  | nil =>
    rw [run_concat] at he
    rcases mem_entries_get he with rfl | ⟨-, hne⟩
    · rfl
    · exact absurd hd hne
  | append_singleton between r ih =>
    simp only [List.mem_append, List.mem_singleton, not_or] at hlast
    apply ih hlast.1
    rw [← List.cons_append, ← List.append_assoc, run_concat] at he
    cases r with
    | clear => cases he
    | get x =>
      -- a request for another descriptor adds no form of this one
      rcases mem_entries_get he with rfl | ⟨he, -⟩
      · rw [descriptor_get] at hd
        exact absurd (congrArg Request.get hd.symm) hlast.2
      · exact he

/-- The form that was handed out last is handed out again if and only if it is held. -/
theorem ticket_eq_iff (hlast : .get d ∉ between) :
    ((run capacity (front ++ .get d :: between)).get d).1.ticket =
        ((run capacity front).get d).1.ticket ↔
      d ∈ (run capacity (front ++ .get d :: between)).held := by
  constructor
  · intro hsame
    by_contra h
    -- a form that is prepared anew has a ticket that was not given out before
    have hold : ((run capacity front).get d).1.ticket <
        (run capacity (front ++ [.get d])).misses := by
      rw [run_concat]
      exact (numbered_run capacity front).ticket_get d
    have hlater := misses_le_run capacity (front ++ [.get d]) between
    rw [List.append_assoc, List.singleton_append] at hlater
    rw [get_of_not_mem_held h] at hsame
    dsimp only at hsame
    omega
  · intro h
    obtain ⟨e, he, hd, hget⟩ := get_of_mem_held h
    rw [hget, eq_of_mem_entries hlast he hd]

/-! ## Counts -/

/-- Every request for a form is a hit or a miss; a clearing is neither. -/
theorem hits_add_misses_run (capacity : Nat) (requests : List Request) :
    (run capacity requests).hits + (run capacity requests).misses =
      (asked requests).length := by
  induction requests using List.reverseRecOn with
  | nil => rfl
  | append_singleton requests r ih =>
    rw [run_concat]
    cases r with
    | get d =>
      have hcounts := counts_get (run capacity requests) d
      rw [serve, asked_concat_get, List.length_append, List.length_singleton]
      omega
    | clear =>
      rw [asked_concat_clear, ← ih]
      rfl

theorem size_run (capacity : Nat) (requests : List Request) :
    (run capacity requests).size =
      min (ofCapacity capacity).capacity (asked (sinceClear requests)).toFinset.card := by
  rw [← length_recency (clear_not_mem_sinceClear requests), recency_sinceClear,
    ← List.length_take, ← held_run, held, List.length_map, size]

theorem faithful_run (capacity : Nat) (requests : List Request) :
    (run capacity requests).Faithful := by
  induction requests using List.reverseRecOn with
  | nil => exact faithful_ofCapacity capacity
  | append_singleton requests r ih =>
    rw [run_concat]
    cases r with
    | get d => exact (get_prepared ih d).2
    | clear => simp [serve, clear, Faithful]

end CellSearch.PreparedCache
