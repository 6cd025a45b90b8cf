import LkRequest.Client.Headers

/-!
# Where header values come from

Every value in a merged header map comes from the headers it was started with, from the defaults,
from the request, or is a cookie or a host that the merge wrote.
-/

namespace LkRequest.Client

open Library List

/-- The map has this value under this name. -/
def HeaderMap.Has (headers : HeaderMap) (name value : Text) : Prop :=
  ∃ entry ∈ headers, entry.1 = name ∧ value ∈ entry.2

theorem mem_of_mem_swapRemove {α : Type} {items : List α} {index : Nat} {item : α}
    (hitem : item ∈ swapRemove items index) : item ∈ items := by
  induction items generalizing index with
  | nil => exact hitem
  | cons first rest ih =>
    cases index with
    | succ index =>
      rcases mem_cons.mp hitem with rfl | hrest
      · exact mem_cons_self
      · exact mem_cons_of_mem _ (ih hrest)
    | zero =>
      rw [swapRemove] at hitem
      split at hitem
      · rename_i last hlast
        rcases mem_cons.mp hitem with rfl | hrest
        · exact mem_cons_of_mem _ (mem_of_getLast? hlast)
        · exact mem_cons_of_mem _ (mem_of_mem_dropLast hrest)
      · cases hitem

namespace HeaderMap

variable {headers : HeaderMap} {name value : Text} {inserted text : Text}

theorem Has.subset {headers' : HeaderMap} (hhas : Has headers name value)
    (hsubset : ∀ entry ∈ headers, entry ∈ headers') : Has headers' name value := by
  obtain ⟨entry, hentry, hvalue⟩ := hhas
  exact ⟨entry, hsubset entry hentry, hvalue⟩

theorem Has.of_remove {removed : Text} (hhas : (headers.remove removed).Has name value) :
    headers.Has name value :=
  hhas.subset fun _ => mem_of_mem_swapRemove

theorem Has.of_adjust {changed : Text} {change : List Text → List Text}
    (hhas : (headers.adjust changed change).Has name value) :
    headers.Has name value ∨ (name = changed ∧ ∃ values, value ∈ change values ∧
      ∀ earlier ∈ values, headers.Has name earlier) := by
  induction headers with
  | nil =>
    obtain ⟨entry, hentry, hname, hvalue⟩ := hhas
    obtain rfl := mem_singleton.mp hentry
    exact .inr ⟨hname.symm, [], hvalue, fun _ hmem => absurd hmem not_mem_nil⟩
  | cons first rest ih =>
    rw [adjust] at hhas
    split at hhas
    · rename_i hfirst
      obtain ⟨entry, hentry, hname, hvalue⟩ := hhas
      rcases mem_cons.mp hentry with rfl | hrest
      · refine .inr ⟨hname.symm, first.2, hvalue, fun earlier hmem => ?_⟩
        exact ⟨first, mem_cons_self, hfirst.trans hname, hmem⟩
      · exact .inl ⟨entry, mem_cons_of_mem _ hrest, hname, hvalue⟩
    · obtain ⟨entry, hentry, hname, hvalue⟩ := hhas
      rcases mem_cons.mp hentry with rfl | hrest
      · exact .inl ⟨entry, mem_cons_self, hname, hvalue⟩
      · have hkeep : ∀ text, Has rest name text → Has (first :: rest) name text :=
          fun _ hrest => hrest.subset fun _ => mem_cons_of_mem _
        rcases ih ⟨entry, hrest, hname, hvalue⟩ with hrest | ⟨hname, values, hvalue, hvalues⟩
        · exact .inl (hkeep _ hrest)
        · exact .inr ⟨hname, values, hvalue, fun earlier hmem => hkeep _ (hvalues earlier hmem)⟩

theorem Has.of_insert (hhas : (headers.insert inserted text).Has name value) :
    headers.Has name value ∨ (name = inserted ∧ value = text) := by
  rcases hhas.of_adjust with hhas | ⟨hname, values, hvalue, -⟩
  · exact .inl hhas
  · exact .inr ⟨hname, mem_singleton.mp hvalue⟩

theorem Has.of_append {appended : Text} (hhas : (headers.append appended text).Has name value) :
    headers.Has name value ∨ name = appended := by
  rcases hhas.of_adjust with hhas | ⟨hname, -⟩
  · exact .inl hhas
  · exact .inr hname

theorem Has.of_insertText (hhas : (headers.insertText inserted text).Has name value) :
    headers.Has name value ∨ (name = inserted ∧ value = text) := by
  rw [insertText] at hhas
  split at hhas
  · rename_i valid hvalid
    obtain rfl : text = valid := by
      rw [headerText] at hvalid
      split at hvalid
      · exact Option.some.inj hvalid
      · cases hvalid
    exact hhas.of_insert
  · exact .inl hhas

theorem has_of_mem_entries {entry : Text × Text} (hentry : entry ∈ headers.entries) :
    headers.Has entry.1 entry.2 := by
  obtain ⟨stored, hstored, hvalues⟩ := mem_flatMap.mp hentry
  obtain ⟨text, htext, rfl⟩ := mem_map.mp hvalues
  exact ⟨stored, hstored, rfl, htext⟩

/-- A fold of insertions only adds the entries that it goes over. -/
theorem Has.of_foldl {entries : List (Text × Text)} {step : HeaderMap → Text × Text → HeaderMap}
    (hstep : ∀ headers entry, (step headers entry).Has name value →
      headers.Has name value ∨ (name = entry.1 ∧ value = entry.2))
    (hhas : (entries.foldl step headers).Has name value) :
    headers.Has name value ∨ (name, value) ∈ entries := by
  induction entries generalizing headers with
  | nil => exact .inl hhas
  | cons entry rest ih =>
    rcases ih hhas with hfirst | hrest
    · rcases hstep headers entry hfirst with hhas | ⟨rfl, rfl⟩
      · exact .inl hhas
      · exact .inr mem_cons_self
    · exact .inr (mem_cons_of_mem _ hrest)

end HeaderMap

variable {headers extra : HeaderMap} {name value : Text} {isH1 : Bool} {url : Url}

theorem HeaderMap.Has.of_mergeNames {defaults : HeaderMap}
    (hhas : (mergeNames headers defaults extra).Has name value) :
    headers.Has name value ∨ defaults.Has name value ∨ extra.Has name value := by
  rcases Has.of_foldl (fun headers entry => Has.of_insert) hhas with hhas | hextra
  · have hstep : ∀ (headers : HeaderMap) (entry : Text × Text),
        (if extra.containsKey entry.1 then headers
          else headers.insert entry.1 entry.2).Has name value →
          headers.Has name value ∨ (name = entry.1 ∧ value = entry.2) := by
      intro headers entry hhas
      split at hhas
      · exact .inl hhas
      · exact hhas.of_insert
    rcases Has.of_foldl hstep hhas with hhas | hdefault
    · exact .inl hhas
    · exact .inr (.inl (has_of_mem_entries hdefault))
  · exact .inr (.inr (has_of_mem_entries hextra))

theorem HeaderMap.Has.of_writeCookies {split : Bool} {pairs : List (Text × Text)}
    (hhas : (writeCookies headers split pairs).Has name value) :
    headers.Has name value ∨ name = "cookie".toList := by
  rw [writeCookies] at hhas
  split at hhas
  · exact .inl hhas
  · split at hhas
    · clear * - hhas
      induction pairs generalizing headers with
      | nil => exact .inl hhas
      | cons pair rest ih =>
        rcases ih hhas with hfirst | hname
        · dsimp only at hfirst
          split at hfirst
          · exact hfirst.of_append
          · exact .inl hfirst
        · exact .inr hname
    · exact hhas.of_insertText.imp_right And.left

theorem HeaderMap.Has.of_reorderHeaders {order : List Text}
    (hhas : (reorderHeaders headers order).Has name value) : headers.Has name value := by
  induction order generalizing headers with
  | nil => exact hhas
  | cons first order ih =>
    obtain ⟨entry, hentry, hvalue⟩ := hhas
    rcases mem_append.mp hentry with hfirst | hrest
    · exact ⟨entry, (mem_filter.mp hfirst).1, hvalue⟩
    · exact (ih ⟨entry, hrest, hvalue⟩).subset fun _ hmem => (mem_filter.mp hmem).1

theorem HeaderMap.Has.of_dropHost
    (hhas : (dropHost isH1 headers).Has name value) : headers.Has name value := by
  rw [dropHost] at hhas
  split at hhas
  · exact hhas
  · exact hhas.of_remove

theorem HeaderMap.Has.of_addHost (hhas : (addHost isH1 url headers).Has name value) :
    headers.Has name value ∨ name = "host".toList := by
  rw [addHost] at hhas
  split at hhas
  · split at hhas
    · exact hhas.of_insertText.imp_right And.left
    · exact .inl hhas
  · exact .inl hhas

/-- Where a value of a merged header comes from. -/
theorem HeaderMap.Has.of_mergeHeadersCommon {settings : MergeSettings} {jar : List (Text × Text)}
    (hhas : (mergeHeadersCommon headers settings extra url isH1 jar).Has name value)
    (hcookie : name ≠ "cookie".toList) (hhost : name ≠ "host".toList) :
    headers.Has name value ∨ settings.defaultHeaders.Has name value ∨ extra.Has name value := by
  have hwritten : ∀ {written : HeaderMap} {order : List Text},
      HeaderMap.Has (if order.isEmpty then written else reorderHeaders written order) name value →
        written.Has name value := by
    intro written order hhas
    split at hhas
    · exact hhas
    · exact hhas.of_reorderHeaders
  have hnamed := (hwritten hhas).of_addHost.resolve_right hhost
  exact (hnamed.of_writeCookies.resolve_right hcookie).of_remove.of_dropHost.of_mergeNames

end LkRequest.Client
