import LkRequest.Client.Policy
import Mathlib.Data.List.Sort

/-!
# The selection of an HTTPS record

`select_https_record` of `dns.rs` merges all records of the lowest priority value into one. A record
of priority 0 is an alias, which has a target and no service parameters.
-/

namespace LkRequest.Client

open Library List

/-- A record with its address hints. -/
structure HintedRecord extends HttpsRecord where
  ipv4Hints : List (BitVec 32)
  ipv6Hints : List (BitVec 128)
  deriving DecidableEq

/-- Pushes the items that are not there yet. -/
def pushNew {α : Type} [DecidableEq α] (seen items : List α) : List α :=
  items.foldl (fun seen item => if item ∈ seen then seen else seen ++ [item]) seen

def mergeHttpsRecord (target candidate : HintedRecord) : HintedRecord where
  echConfigList := target.echConfigList.or candidate.echConfigList
  target := target.target.or candidate.target
  port := target.port.or candidate.port
  alpn := pushNew target.alpn candidate.alpn
  ipv4Hints := pushNew target.ipv4Hints candidate.ipv4Hints
  ipv6Hints := pushNew target.ipv6Hints candidate.ipv6Hints

def emptyRecord : HintedRecord := ⟨⟨none, [], none, none⟩, [], []⟩

/-- Records with their priorities. -/
abbrev Candidates := List (Nat × HintedRecord)

abbrev ByPriority (left right : Nat × HintedRecord) : Prop :=
  left.1 ≤ right.1

instance : Std.Total ByPriority := ⟨fun left right => Nat.le_total left.1 right.1⟩

instance : IsTrans _ ByPriority := ⟨fun _ _ _ => Nat.le_trans⟩

def selectHttpsRecord (candidates : Candidates) : Option HintedRecord :=
  match candidates.insertionSort ByPriority with
  | [] => none
  | best :: rest => some (((best :: rest).takeWhile (·.1 == best.1)).foldl
    (fun merged candidate => mergeHttpsRecord merged candidate.2) emptyRecord)

/-- The candidates of the lowest priority value, in the order of the answer. -/
def lowest (candidates : Candidates) : Candidates :=
  candidates.filter fun candidate => candidates.all (candidate.1 ≤ ·.1)

/-- The first value there is of each parameter, and the items of the lists without repetition. -/
def mergeOf (start : HintedRecord) (records : List HintedRecord) : HintedRecord where
  echConfigList := start.echConfigList.or (records.findSome? (·.echConfigList))
  target := start.target.or (records.findSome? (·.target))
  port := start.port.or (records.findSome? (·.port))
  alpn := pushNew start.alpn (records.flatMap (·.alpn))
  ipv4Hints := pushNew start.ipv4Hints (records.flatMap (·.ipv4Hints))
  ipv6Hints := pushNew start.ipv6Hints (records.flatMap (·.ipv6Hints))

/-- The record has no service parameters. -/
def HintedRecord.IsAlias (record : HintedRecord) : Prop :=
  record = { emptyRecord with target := record.target }

theorem isAlias_mergeOf {records : List HintedRecord}
    (haliases : ∀ record ∈ records, record.IsAlias) : (mergeOf emptyRecord records).IsAlias := by
  have hempty (record : HintedRecord) (hrecord : record ∈ records) :
      record.echConfigList = none ∧ record.port = none ∧ record.alpn = [] ∧
        record.ipv4Hints = [] ∧ record.ipv6Hints = [] := by
    rw [haliases record hrecord]
    exact ⟨rfl, rfl, rfl, rfl, rfl⟩
  have hech := findSome?_eq_none_iff.mpr fun record hrecord => (hempty record hrecord).1
  have hport := findSome?_eq_none_iff.mpr fun record hrecord => (hempty record hrecord).2.1
  have halpn := flatMap_eq_nil_iff.mpr fun record hrecord => (hempty record hrecord).2.2.1
  have hipv4 := flatMap_eq_nil_iff.mpr fun record hrecord => (hempty record hrecord).2.2.2.1
  have hipv6 := flatMap_eq_nil_iff.mpr fun record hrecord => (hempty record hrecord).2.2.2.2
  rw [mergeOf, hech, hport, halpn, hipv4, hipv6]
  rfl

theorem foldl_merge (candidates : Candidates) (start : HintedRecord) :
    candidates.foldl (fun merged candidate => mergeHttpsRecord merged candidate.2) start =
      mergeOf start (candidates.map Prod.snd) := by
  induction candidates generalizing start with
  | nil => simp [mergeOf, pushNew]
  | cons candidate candidates ih =>
    rw [foldl_cons, ih]
    simp only [mergeOf, mergeHttpsRecord, pushNew, map_cons, findSome?_cons, flatMap_cons,
      foldl_append]
    grind

variable (candidates : Candidates) (priority : Nat)

/-- Sorting keeps the candidates of one priority in their order. -/
theorem filter_insertionSort : (candidates.insertionSort ByPriority).filter (·.1 == priority) =
    candidates.filter (·.1 == priority) := by
  have hequal : (candidates.filter (·.1 == priority)).Pairwise ByPriority := by
    rw [pairwise_iff_forall_sublist]
    intro left right hpair
    have hboth := hpair.subset
    grind
  have hsublist := (sublist_insertionSort hequal filter_sublist).filter (·.1 == priority)
  have hperm := (perm_insertionSort ByPriority candidates).filter (·.1 == priority)
  rw [filter_filter, funext fun candidate => Bool.and_self _] at hsublist
  exact (hsublist.eq_of_length hperm.length_eq.symm).symm

/-- In a sorted list the candidates of the lowest priority value are in front. -/
theorem takeWhile_eq_filter {sorted : Candidates} {priority : Nat}
    (hsorted : sorted.Pairwise ByPriority) (hleast : ∀ candidate ∈ sorted, priority ≤ candidate.1) :
    sorted.takeWhile (·.1 == priority) = sorted.filter (·.1 == priority) := by
  induction sorted with
  | nil => rfl
  | cons first sorted ih =>
    obtain ⟨hfirst, hsorted⟩ := pairwise_cons.mp hsorted
    have hrest := ih hsorted (forall_mem_cons.mp hleast).2
    by_cases hequal : first.1 = priority
    · simp [hequal, hrest]
    · have hnone : sorted.filter (·.1 == priority) = [] := by grind [filter_eq_nil_iff]
      simp [hequal, hnone]

theorem selectHttpsRecord_eq_mergeOf :
    selectHttpsRecord candidates = if candidates = [] then none
      else some (mergeOf emptyRecord ((lowest candidates).map Prod.snd)) := by
  have hmem {candidate : Nat × HintedRecord} : candidate ∈ candidates.insertionSort ByPriority ↔
      candidate ∈ candidates := mem_insertionSort _
  have hsorted := pairwise_insertionSort ByPriority candidates
  have hfilter := filter_insertionSort candidates
  rw [selectHttpsRecord]
  cases hsort : candidates.insertionSort ByPriority with
  | nil =>
    have hlength := length_insertionSort ByPriority candidates
    rw [hsort] at hlength
    rw [if_pos (eq_nil_of_length_eq_zero hlength.symm)]
  | cons best rest =>
    rw [hsort] at hmem hsorted hfilter
    have hbest : ∀ candidate ∈ best :: rest, best.1 ≤ candidate.1 :=
      forall_mem_cons.mpr ⟨le_rfl, (pairwise_cons.mp hsorted).1⟩
    have hlowest : candidates.filter (·.1 == best.1) = lowest candidates := by
      apply filter_congr
      intro candidate hcandidate
      grind
    rw [if_neg (ne_nil_of_mem (hmem.mp mem_cons_self))]
    dsimp only
    rw [foldl_merge, takeWhile_eq_filter hsorted hbest, hfilter, hlowest]

/-- If the aliases of the list have a target only, then the selected record is the merge of the
records of the lowest priority value and of no other, and with an alias in the list it is one. -/
theorem selectHttpsRecord_eq (candidates : Candidates)
    (haliases : ∀ candidate ∈ candidates, candidate.1 = 0 → candidate.2.IsAlias) :
    (selectHttpsRecord candidates = if candidates = [] then none
      else some (mergeOf emptyRecord ((lowest candidates).map Prod.snd))) ∧
      ((∃ candidate ∈ candidates, candidate.1 = 0) →
        ∀ selected ∈ selectHttpsRecord candidates, selected.IsAlias) := by
  refine ⟨selectHttpsRecord_eq_mergeOf candidates, ?_⟩
  rintro ⟨aliased, hmem, hzero⟩ selected hselected
  rw [selectHttpsRecord_eq_mergeOf, if_neg (ne_nil_of_mem hmem)] at hselected
  cases hselected
  apply isAlias_mergeOf
  intro record hrecord
  obtain ⟨candidate, hlowest, rfl⟩ := mem_map.mp hrecord
  obtain ⟨hcandidate, hleast⟩ := mem_filter.mp hlowest
  have hbelow := all_eq_true.mp hleast aliased hmem
  rw [hzero, decide_eq_true_iff] at hbelow
  exact haliases candidate hcandidate (Nat.le_zero.mp hbelow)

/-- An alias is selected before a service, of which nothing is taken. -/
theorem alias_before_service :
    let service : HintedRecord := ⟨⟨some [7], ["h3".toList], none, some 8443⟩, [1], [2]⟩
    let other : HintedRecord := ⟨⟨none, [], some "other.example".toList, none⟩, [], []⟩
    selectHttpsRecord [(1, service), (0, other)] = some other ∧ other.IsAlias := by
  intro service other
  have haliases : ∀ candidate ∈ [(1, service), (0, other)],
      candidate.1 = 0 → candidate.2.IsAlias := by
    simp [other, HintedRecord.IsAlias, emptyRecord]
  obtain ⟨hmerge, halias⟩ := selectHttpsRecord_eq [(1, service), (0, other)] haliases
  have hselected : selectHttpsRecord [(1, service), (0, other)] = some other := by
    rw [hmerge]
    decide +kernel
  exact ⟨hselected, halias ⟨(0, other), by simp, rfl⟩ other hselected⟩

/-- The name of one provider comes with the port of another. -/
theorem merged_across_providers :
    let first : HintedRecord := ⟨⟨none, ["h3".toList], some "a.example".toList, none⟩, [], []⟩
    let second : HintedRecord :=
      ⟨⟨none, ["h3".toList], some "b.example".toList, some 8443⟩, [], []⟩
    selectHttpsRecord [(1, first), (1, second)] =
      some ⟨⟨none, ["h3".toList], some "a.example".toList, some 8443⟩, [], []⟩ := by
  decide +kernel

end LkRequest.Client
