import LkRequest.Library.Bytes
import LkRequest.Library.Machine

/-!
# The dynamic table of the HPACK encoder

`DynamicTable` of `hpack_enc/table.rs`.
-/

namespace LkRequest.H2

open Library List

/-- The oldest entry comes first. -/
structure DynamicTable where
  entries : List (Bytes × Bytes)
  size : Nat
  maxSize : Nat

inductive TableCall where
  | insert (entry : Bytes × Bytes)
  | setMaxSize (newMax : Nat)

namespace DynamicTable

def entrySize (entry : Bytes × Bytes) : Nat :=
  entry.1.length + entry.2.length + 32

/-- The loop that makes room. It has no result if a subtraction underflows or if nothing is left to
pop, when it goes on for ever. -/
def evict (room maxSize : Nat) : List (Bytes × Bytes) → Nat → Option DynamicTable
  | [], size => if size + room ≤ maxSize then some ⟨[], size, maxSize⟩ else none
  | oldest :: entries, size =>
    if size + room ≤ maxSize then some ⟨oldest :: entries, size, maxSize⟩
    else if size < entrySize oldest then none
    else evict room maxSize entries (size - entrySize oldest)

def insert (table : DynamicTable) (entry : Bytes × Bytes) : Option DynamicTable :=
  let entrySz := entrySize entry
  if table.maxSize < entrySz then some { table with entries := [], size := 0 }
  else (evict entrySz table.maxSize table.entries table.size).map fun table =>
    { table with entries := table.entries ++ [entry], size := table.size + entrySz }

def setMaxSize (table : DynamicTable) (newMax : Nat) : Option DynamicTable :=
  evict 0 newMax table.entries table.size

def calls (maxSize : Nat) : Machine DynamicTable TableCall where
  start := ⟨[], 0, maxSize⟩
  step table
    | .insert entry => table.insert entry
    | .setMaxSize newMax => table.setMaxSize newMax

/-- The size is that of the entries, and there is room. -/
structure Balanced (room : Nat) (table : DynamicTable) : Prop where
  size_eq : table.size = (table.entries.map entrySize).sum
  size_le : table.size + room ≤ table.maxSize

/-- The sizes of the entries, added up. -/
def total (entries : List (Bytes × Bytes)) : Nat := (entries.map entrySize).sum

/-! ## What the table is for -/

/-- As many of the newest entries as fit: the longest tail within the limit. -/
def newest (limit : Nat) (entries : List (Bytes × Bytes)) : List (Bytes × Bytes) :=
  (entries.tails.find? (total · ≤ limit)).getD []

/-- The limit after a call. -/
def limitAfter (limit : Nat) : TableCall → Nat
  | .insert _ => limit
  | .setMaxSize newMax => newMax

def inserted : TableCall → List (Bytes × Bytes)
  | .insert entry => [entry]
  | .setMaxSize _ => []

/-- The limit and the entries of a cache that keeps, after each call, as many of the newest entries
as fit. -/
def cache (maxSize : Nat) (events : List TableCall) : Nat × List (Bytes × Bytes) :=
  events.foldl (fun (limit, entries) call =>
    (limitAfter limit call, newest (limitAfter limit call) (entries ++ inserted call)))
    (maxSize, [])

variable {limit room maxSize size : Nat} {entry oldest : Bytes × Bytes}
  {entries : List (Bytes × Bytes)}

theorem newest_of_le (hfits : total entries ≤ limit) : newest limit entries = entries := by
  cases entries with
  | nil => simp [newest, hfits]
  | cons oldest entries => simp [newest, hfits]

theorem newest_cons_of_lt (hlarge : limit < total (oldest :: entries)) :
    newest limit (oldest :: entries) = newest limit entries := by
  simp [newest, hlarge]

theorem newest_suffix : newest limit entries <:+ entries := by
  induction entries with
  | nil =>
    have hall : newest limit [] = [] := newest_of_le (Nat.zero_le limit)
    simp only [hall, suffix_rfl]
  | cons oldest entries ih =>
    rcases Nat.lt_or_ge limit (total (oldest :: entries)) with hlarge | hfits
    · rw [newest_cons_of_lt hlarge]
      exact ih.trans (suffix_cons ..)
    · simp only [newest_of_le hfits, suffix_rfl]

theorem total_newest_le : total (newest limit entries) ≤ limit := by
  induction entries with
  | nil =>
    rw [newest_of_le (Nat.zero_le limit)]
    exact Nat.zero_le limit
  | cons oldest entries ih =>
    rcases Nat.lt_or_ge limit (total (oldest :: entries)) with hlarge | hfits
    · rwa [newest_cons_of_lt hlarge]
    · rwa [newest_of_le hfits]

theorem total_concat : total (entries ++ [entry]) = total entries + entrySize entry := by
  simp [total]

/-- A newer entry takes its room from the older ones. -/
theorem newest_concat (hroom : entrySize entry ≤ limit) :
    newest limit (entries ++ [entry]) = newest (limit - entrySize entry) entries ++ [entry] := by
  induction entries with
  | nil =>
    have hfits : total ([] ++ [entry]) ≤ limit := hroom
    rw [newest_of_le hfits, newest_of_le (Nat.zero_le _)]
  | cons oldest entries ih =>
    have htotal := @total_concat entry (oldest :: entries)
    rw [cons_append] at htotal ⊢
    rcases Nat.lt_or_ge limit (total (oldest :: (entries ++ [entry]))) with hlarge | hfits
    · rw [newest_cons_of_lt hlarge, ih, newest_cons_of_lt (by omega)]
    · rw [newest_of_le hfits, newest_of_le (by omega), cons_append]

/-- An entry above the limit leaves no room at all. -/
theorem newest_concat_of_lt (hlarge : limit < entrySize entry) :
    newest limit (entries ++ [entry]) = [] := by
  have htotal : ∀ older, limit < total (older ++ [entry]) := fun older => by
    rw [total_concat]
    omega
  induction entries with
  | nil =>
    rw [nil_append, newest_cons_of_lt (htotal []), newest_of_le (Nat.zero_le limit)]
  | cons oldest entries ih => exact (newest_cons_of_lt (htotal (oldest :: entries))).trans ih

/-! ## Single calls -/

/-- The loop ends, since the size of an empty table is zero. -/
theorem evict_eq (hroom : room ≤ maxSize) :
    evict room maxSize entries (total entries) =
      some ⟨newest (maxSize - room) entries, total (newest (maxSize - room) entries), maxSize⟩ := by
  induction entries with
  | nil =>
    have henough : total [] + room ≤ maxSize := (Nat.zero_add room).trans_le hroom
    rw [evict, if_pos henough, newest_of_le (Nat.zero_le _)]
  | cons oldest entries ih =>
    have htotal : total (oldest :: entries) = entrySize oldest + total entries := by simp [total]
    rw [evict]
    split
    next henough => rw [newest_of_le (by omega)]
    next hfull =>
      rw [if_neg (by omega), newest_cons_of_lt (by omega), ← ih]
      congr 1
      omega

/-- A call keeps as many of the newest entries as fit. -/
theorem step_eq {table : DynamicTable} (hsize : table.size = total table.entries)
    (call : TableCall) :
    let limit := limitAfter table.maxSize call
    let kept := newest limit (table.entries ++ inserted call)
    (calls maxSize).step table call = some ⟨kept, total kept, limit⟩ := by
  cases call with
  | insert entry =>
    change (if _ then _ else _) = _
    split
    next hlarge =>
      rw [limitAfter, inserted, newest_concat_of_lt hlarge]
      rfl
    next hroom =>
      rw [hsize, evict_eq (Nat.not_lt.mp hroom), limitAfter, inserted,
        newest_concat (Nat.not_lt.mp hroom), total_concat]
      rfl
  | setMaxSize newMax =>
    change evict 0 newMax table.entries table.size = _
    rw [hsize, evict_eq (Nat.zero_le newMax), limitAfter, inserted, append_nil, Nat.sub_zero]

theorem Balanced.step {table : DynamicTable} (hbalanced : table.Balanced 0) (call : TableCall) :
    ∃ next ∈ (calls maxSize).step table call, next.Balanced 0 :=
  ⟨_, step_eq hbalanced.size_eq call, rfl, total_newest_le⟩

/-! ## Runs -/

/-- Every sequence of calls ends, with a size that is the sum over the entries and within the
limit, and an entry above the limit empties the table. -/
theorem books_kept (maxSize : Nat) (events : List TableCall) :
    ∃ table ∈ (calls maxSize).run events, table.Balanced 0 ∧
      ∀ entry, table.maxSize < entrySize entry →
        table.insert entry = some ⟨[], 0, table.maxSize⟩ := by
  suffices ∃ table ∈ (calls maxSize).run events, table.Balanced 0 by
    obtain ⟨table, hrun, hbalanced⟩ := this
    exact ⟨table, hrun, hbalanced, fun _ hlarge => if_pos hlarge⟩
  induction events using reverseRecOn with
  | nil => exact ⟨⟨[], 0, maxSize⟩, rfl, rfl, Nat.zero_le _⟩
  | append_singleton events call ih =>
    obtain ⟨table, hrun, hbalanced⟩ := ih
    obtain ⟨next, hstep, hnext⟩ := hbalanced.step call
    exact ⟨next, Machine.run_concat_iff.mpr ⟨table, hrun, hstep⟩, hnext⟩

/-- Every sequence of calls ends with the limit that was set last and the entries of the cache that
keeps as many of the newest as fit. They are the newest insertions, none of them left out and in
their order. -/
theorem holds_newest (maxSize : Nat) (events : List TableCall) :
    ∃ table ∈ (calls maxSize).run events, table.Balanced 0 ∧
      (table.maxSize, table.entries) = cache maxSize events ∧
      table.entries <:+ events.flatMap inserted := by
  induction events using reverseRecOn with
  | nil => exact ⟨⟨[], 0, maxSize⟩, rfl, ⟨rfl, Nat.zero_le _⟩, rfl, suffix_rfl⟩
  | append_singleton events call ih =>
    obtain ⟨table, hrun, hbalanced, hcache, hrecent⟩ := ih
    have hstep := @step_eq maxSize table hbalanced.size_eq call
    refine ⟨_, Machine.run_concat_iff.mpr ⟨table, hrun, hstep⟩, ⟨rfl, total_newest_le⟩, ?_, ?_⟩
    · rw [cache, foldl_append, ← cache, ← hcache]
      rfl
    · rw [flatMap_append, flatMap_singleton]
      have hlater := (suffix_append_inj_of_length_eq rfl).mpr ⟨hrecent, @rfl _ (inserted call)⟩
      exact newest_suffix.trans hlater

end DynamicTable

end LkRequest.H2
