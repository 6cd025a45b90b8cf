import LkRequest.Client.RedirectRuns

/-!
# Credentials and other origins

Two runs of a chain whose requests differ only in credentials. The two are alike up to the first
redirect to another origin, and the same from there on.
-/

namespace LkRequest.Client

open Library List

/-! ## Header maps with hidden values -/

theorem forall₂_swapRemove {α β : Type} {R : α → β → Prop} {left : List α} {right : List β}
    (hrelated : List.Forall₂ R left right) (index : Nat) :
    List.Forall₂ R (swapRemove left index) (swapRemove right index) := by
  induction hrelated generalizing index with
  | nil => exact .nil
  | @cons first second left right hfirst hrest ih =>
    cases index with
    | succ index => exact .cons hfirst (ih index)
    | zero =>
      -- The last elements take the places of the first ones.
      have hreverse := forall₂_reverse_iff.mpr hrest
      rw [← reverse_reverse left, ← reverse_reverse right]
      generalize left.reverse = ending at hreverse ⊢
      generalize right.reverse = ending' at hreverse ⊢
      cases hreverse with
      | nil => exact .nil
      | cons hlast hbefore =>
        rw [swapRemove, swapRemove, getLast?_reverse, getLast?_reverse,
          dropLast_reverse, dropLast_reverse]
        exact .cons hlast (forall₂_reverse_iff.mpr hbefore)

theorem swapRemove_perm {α : Type} {values : List α} (index : Nat) :
    (swapRemove values index).Perm (values.eraseIdx index) := by
  induction values generalizing index with
  | nil => exact .nil
  | cons first rest ih =>
    cases index with
    | succ index => exact (ih index).cons first
    | zero =>
      rw [swapRemove, eraseIdx_cons_zero]
      cases hlast : rest.getLast? with
      | none => rw [getLast?_eq_none_iff.mp hlast]
      | some last =>
        have hsplit := dropLast_append_getLast? last hlast
        nth_rewrite 2 [← hsplit]
        exact (perm_append_singleton last rest.dropLast).symm

namespace HeaderMap

/-- The names of a map. A header map has each of them once. -/
def names (headers : HeaderMap) : List Text := headers.map Prod.fst

/-- Two maps that differ at most in the values of the hidden names. -/
def Masked (hidden : List Text) (left right : HeaderMap) : Prop :=
  List.Forall₂ (fun first second => first.1 = second.1 ∧ (first.1 ∉ hidden → first.2 = second.2))
    left right

variable {hidden : List Text} {left right : HeaderMap}

variable (hmasked : Masked hidden left right)
include hmasked

variable {name : Text}

theorem Masked.findIdx_eq :
    left.findIdx (fun entry => entry.1 == name) = right.findIdx (fun entry => entry.1 == name) := by
  induction hmasked with
  | nil => rfl
  | cons hfirst hrest ih =>
    rw [findIdx_cons, findIdx_cons, hfirst.1, ih]

theorem Masked.remove (name : Text) : Masked hidden (left.remove name) (right.remove name) := by
  rw [HeaderMap.remove, HeaderMap.remove, hmasked.findIdx_eq]
  exact forall₂_swapRemove hmasked _

theorem Masked.removeAll (names : List Text) :
    Masked hidden (left.removeAll names) (right.removeAll names) := by
  induction names generalizing left right with
  | nil => exact hmasked
  | cons name names ih => exact ih (hmasked.remove name)

/-- With no hidden name the two maps are the same. -/
theorem Masked.eq (hvisible : ∀ name ∈ hidden, name ∉ left.names) : left = right := by
  induction hmasked with
  | nil => rfl
  | @cons first second left right hfirst hrest ih =>
    have hshown : first.1 ∉ hidden := fun hhidden => hvisible _ hhidden mem_cons_self
    rw [Prod.ext hfirst.1 (hfirst.2 hshown),
      ih fun name hname hmem => hvisible name hname (mem_cons_of_mem _ hmem)]

omit hmasked

theorem names_eraseIdx (headers : HeaderMap) (name : Text) :
    HeaderMap.names (headers.eraseIdx (headers.findIdx fun entry => entry.1 == name)) =
      headers.names.erase name := by
  induction headers with
  | nil => rfl
  | cons entry headers ih =>
    show _ = (entry.1 :: HeaderMap.names headers).erase name
    rw [findIdx_cons, erase_cons]
    by_cases hname : entry.1 == name
    · rw [hname]
      rfl
    · rw [Bool.eq_false_iff.mpr hname]
      exact congrArg (cons entry.1) ih

theorem names_remove_perm (headers : HeaderMap) :
    (headers.remove name).names.Perm (headers.names.erase name) := by
  rw [← names_eraseIdx]
  exact (swapRemove_perm _).map _

variable {headers : HeaderMap}

theorem names_remove_nodup (hnodup : headers.names.Nodup) : (headers.remove name).names.Nodup :=
  (names_remove_perm headers).nodup_iff.mpr (hnodup.erase name)

variable {other : Text}

theorem mem_names_remove (hnodup : headers.names.Nodup) :
    other ∈ (headers.remove name).names ↔ other ≠ name ∧ other ∈ headers.names :=
  (names_remove_perm headers).mem_iff.trans hnodup.mem_erase_iff

variable {names : List Text}

theorem names_removeAll_nodup (hnodup : headers.names.Nodup) :
    (headers.removeAll names).names.Nodup := by
  induction names generalizing headers with
  | nil => exact hnodup
  | cons name names ih => exact ih (names_remove_nodup hnodup)

theorem mem_names_removeAll (hnodup : headers.names.Nodup) :
    other ∈ (headers.removeAll names).names ↔ other ∉ names ∧ other ∈ headers.names := by
  induction names generalizing headers with
  | nil => exact ⟨fun hmem => ⟨not_mem_nil, hmem⟩, fun hmem => hmem.2⟩
  | cons name names ih =>
    show other ∈ ((headers.remove name).removeAll names).names ↔ _
    rw [ih (names_remove_nodup hnodup), mem_names_remove hnodup, mem_cons, not_or]
    tauto

end HeaderMap

/-! ## States with different credentials -/

/-- The headers that hold credentials. -/
def credentialHeaders : List Text := ["authorization".toList, "cookie".toList]

/-- Two requests that differ at most in the values of the `Authorization` and `Cookie` headers and
in their cookies. -/
structure RequestBuilder.Alike (left right : RequestBuilder) : Prop where
  rest : right = { left with
    headers := right.headers
    extraCookies := right.extraCookies
    cookieOverrides := right.cookieOverrides }
  headers : left.headers.Masked credentialHeaders right.headers

/-- Two states of a chain that differ at most in credentials. -/
structure RedirectState.Alike (left right : RedirectState) : Prop where
  url : left.url = right.url
  method : left.method = right.method
  body : left.body = right.body
  headers : left.headers.Masked credentialHeaders right.headers
  nodup : left.headers.names.Nodup
  request : right.request = { left.request with
    headers := right.request.headers
    extraCookies := right.request.extraCookies
    cookieOverrides := right.request.cookieOverrides }

/-- Two states that the rest of the client cannot tell apart: it reads the headers of the hop, not
those of the request. -/
structure RedirectState.Same (left right : RedirectState) : Prop where
  url : left.url = right.url
  method : left.method = right.method
  body : left.body = right.body
  headers : left.headers = right.headers
  request : right.request = { left.request with headers := right.request.headers }

/-- The names of the headers that a redirect takes away. -/
def strippedNames (status : Nat) (base target : Url) : List Text :=
  (if becomesGet status then bodyHeaders else []) ++
    ((if redirectIsCrossOrigin base target then ["authorization".toList, "host".toList] else []) ++
      ((if base.scheme = "https".toList ∧ target.scheme = "http".toList
        then ["referer".toList] else []) ++ ["cookie".toList]))

theorem HeaderMap.removeAll_append (headers : HeaderMap) (first second : List Text) :
    headers.removeAll (first ++ second) = (headers.removeAll first).removeAll second :=
  foldl_append

theorem HeaderMap.removeAll_ite (headers : HeaderMap) (condition : Prop) [Decidable condition]
    (names : List Text) :
    headers.removeAll (if condition then names else []) =
      if condition then headers.removeAll names else headers := by
  split
  · rfl
  · rfl

theorem nextHeaders_eq (headers : HeaderMap) (status : Nat) (base target : Url) :
    nextHeaders headers status base target =
      headers.removeAll (strippedNames status base target) := by
  rw [nextHeaders, strippedNames, HeaderMap.removeAll_append, HeaderMap.removeAll_append,
    HeaderMap.removeAll_append, HeaderMap.removeAll_ite, HeaderMap.removeAll_ite,
    HeaderMap.removeAll_ite]
  rfl

section Next

variable {left right : RedirectState} {status : Nat} {base target : Url} {location : Text}
  {history history' : List RedirectRecord}

theorem RedirectState.Alike.next (halike : left.Alike right) :
    (left.next status base target location history).Alike
      (right.next status base target location history') where
  url := rfl
  method := by rw [RedirectState.next, RedirectState.next, halike.method]
  body := by rw [RedirectState.next, RedirectState.next, halike.body]
  headers := by
    show HeaderMap.Masked _ (nextHeaders _ _ _ _) (nextHeaders _ _ _ _)
    rw [nextHeaders_eq, nextHeaders_eq]
    exact halike.headers.removeAll _
  nodup := by
    show (HeaderMap.names (nextHeaders _ _ _ _)).Nodup
    rw [nextHeaders_eq]
    exact HeaderMap.names_removeAll_nodup halike.nodup
  request := by
    rw [RedirectState.next, RedirectState.next]
    dsimp only
    split
    · rw [halike.request]
    · exact halike.request

theorem redirectIsCrossOrigin_iff :
    redirectIsCrossOrigin base target = true ↔ base.scheme ≠ target.scheme ∨
      base.host ≠ target.host ∨ base.portOrKnownDefault ≠ target.portOrKnownDefault := by
  rw [redirectIsCrossOrigin, Bool.or_eq_true, Bool.or_eq_true, bne_iff_ne, bne_iff_ne, bne_iff_ne,
    or_assoc]

/-- A redirect to another origin takes the credentials away. -/
theorem RedirectState.Alike.next_same (halike : left.Alike right)
    (hcrossing : redirectIsCrossOrigin base target = true) :
    (left.next status base target location history).Same
      (right.next status base target location history') where
  url := rfl
  method := halike.next.method
  body := halike.next.body
  headers := by
    apply halike.next.headers.eq
    intro name hname hmem
    rw [RedirectState.next] at hmem
    dsimp only at hmem
    rw [nextHeaders_eq, HeaderMap.mem_names_removeAll halike.nodup, strippedNames,
      if_pos hcrossing] at hmem
    apply hmem.1
    simp only [credentialHeaders, mem_cons, not_mem_nil, or_false] at hname
    simp only [mem_append, mem_cons, not_mem_nil, or_false]
    tauto
  request := by
    rw [RedirectState.next, RedirectState.next]
    dsimp only
    rw [if_pos hcrossing, if_pos hcrossing, halike.request]

theorem RedirectState.Same.next (hsame : left.Same right) :
    (left.next status base target location history).Same
      (right.next status base target location history') where
  url := rfl
  method := by rw [RedirectState.next, RedirectState.next, hsame.method]
  body := by rw [RedirectState.next, RedirectState.next, hsame.body]
  headers := by rw [RedirectState.next, RedirectState.next, hsame.headers]
  request := by
    rw [RedirectState.next, RedirectState.next]
    dsimp only
    split
    · rw [hsame.request]
    · exact hsame.request

end Next

/-! ## Two chains -/

section Chains

variable {session : Session} {remaining remaining' : Nat} {state left right : RedirectState}
  {outcome outcome' : Option (Except Error Response)}

variable {hops : List ChainHop} {first second : ChainHop}

variable {hop : ChainHop}

theorem Hops.issues (hhops : Hops session remaining state (hop :: hops) outcome) :
    hop.Issues state := by
  cases hhops with
  | last hissues | followed hissues => exact hissues

/-- The next state of a chain that has another hop. -/
theorem Hops.next (hhops : Hops session remaining state (hop :: hops) outcome) (hmore : hops ≠ []) :
    ∃ left response base target history, hop.answer = .ok response ∧
      redirectTarget session hop.sent response = .ok (base, target) ∧
      Hops session left (hop.sent.next response.status base target (session.urls.render target)
        history) hops outcome := by
  cases hhops with
  | last => exact absurd rfl hmore
  | followed hissues response hanswer hdecides hrest =>
    cases hdecides with
    | followed base target hremaining hpolicy htarget =>
      exact ⟨_, response, base, target, _, hanswer, htarget, hrest⟩

/-- Two hops with the same upgrade and the same answer. -/
def ChainHop.SameAnswer (first second : ChainHop) : Prop :=
  first.upgraded = second.upgraded ∧ first.answer = second.answer

/-- The redirect of the hop leads to another origin. -/
def ChainHop.Crosses (session : Session) (hop : ChainHop) : Prop :=
  ∃ response base target, hop.answer = .ok response ∧
    redirectTarget session hop.sent response = .ok (base, target) ∧
    (base.scheme ≠ target.scheme ∨ base.host ≠ target.host ∨
      base.portOrKnownDefault ≠ target.portOrKnownDefault)

theorem ChainHop.Issues.alike (hfirst : first.Issues left)
    (hsecond : second.Issues right) (hupgraded : first.upgraded = second.upgraded)
    (halike : left.Alike right) : first.sent.Alike second.sent := by
  rw [hfirst.sent, hsecond.sent, hupgraded, halike.url]
  exact { halike with url := rfl }

theorem ChainHop.Issues.same (hfirst : first.Issues left)
    (hsecond : second.Issues right) (hupgraded : first.upgraded = second.upgraded)
    (hsame : left.Same right) : first.sent.Same second.sent := by
  rw [hfirst.sent, hsecond.sent, hupgraded, hsame.url]
  exact { hsame with url := rfl }

theorem redirectTarget_congr {response : Response} (hurl : left.url = right.url) :
    redirectTarget session left response = redirectTarget session right response := by
  rw [redirectTarget, redirectTarget, hurl]

/-- The next states of two chains with the same answers so far: the redirect is the same. -/
theorem Hops.next_both {hops' : List ChainHop}
    (hleft : Hops session remaining left (first :: hops) outcome)
    (hright : Hops session remaining' right (second :: hops') outcome') (hmore : hops ≠ [])
    (hmore' : hops' ≠ []) (hanswer : first.SameAnswer second)
    (hurl : first.sent.url = second.sent.url) :
    ∃ remaining remaining' response base target history history', first.answer = .ok response ∧
      redirectTarget session first.sent response = .ok (base, target) ∧
      Hops session remaining (first.sent.next response.status base target
        (session.urls.render target) history) hops outcome ∧
      Hops session remaining' (second.sent.next response.status base target
        (session.urls.render target) history') hops' outcome' := by
  obtain ⟨_, response, base, target, history, hfirst, htarget, hrest⟩ := hleft.next hmore
  obtain ⟨_, response', base', target', history', hsecond, htarget', hrest'⟩ := hright.next hmore'
  cases hfirst.symm.trans (hanswer.2.trans hsecond)
  rw [redirectTarget_congr hurl] at htarget
  cases htarget.symm.trans htarget'
  exact ⟨_, _, response, base, target, history, history', hfirst,
    (redirectTarget_congr hurl).trans htarget, hrest, hrest'⟩

section Pair

variable {before before' after after' : List ChainHop} {hop hop' : ChainHop}
  (hanswers : List.Forall₂ ChainHop.SameAnswer before before')
  (hupgraded : hop.upgraded = hop'.upgraded)
  (hleft : Hops session remaining left (before ++ hop :: after) outcome)
  (hright : Hops session remaining' right (before' ++ hop' :: after') outcome')
include hanswers hupgraded hleft hright

theorem Hops.same_of_same (hsame : left.Same right) : hop.sent.Same hop'.sent := by
  induction hanswers generalizing remaining remaining' left right with
  | nil => exact hleft.issues.same hright.issues hupgraded hsame
  | @cons first second before before' hfirst hrest ih =>
    have hsent := hleft.issues.same hright.issues hfirst.1 hsame
    obtain ⟨_, _, response, base, target, history, history', _, _, hleft', hright'⟩ :=
      hleft.next_both hright (by simp) (by simp) hfirst hsent.url
    exact ih hleft' hright' hsent.next

/-- From a redirect to another origin on, two chains that differ in credentials are the same. -/
theorem Hops.same_of_crossed (halike : left.Alike right)
    (hcrossed : ∃ earlier ∈ before, earlier.Crosses session) : hop.sent.Same hop'.sent := by
  induction hanswers generalizing remaining remaining' left right with
  | nil =>
    obtain ⟨earlier, hearlier, -⟩ := hcrossed
    cases hearlier
  | @cons first second before before' hfirst hrest ih =>
    have hsent := hleft.issues.alike hright.issues hfirst.1 halike
    obtain ⟨_, _, response, base, target, history, history', hanswer, htarget, hleft', hright'⟩ :=
      hleft.next_both hright (by simp) (by simp) hfirst hsent.url
    by_cases hcrossing : redirectIsCrossOrigin base target = true
    · exact Hops.same_of_same hrest hupgraded hleft' hright' (hsent.next_same hcrossing)
    · apply ih hleft' hright' hsent.next
      obtain ⟨earlier, hearlier, hcrosses⟩ := hcrossed
      rcases mem_cons.mp hearlier with rfl | hearlier
      · obtain ⟨response', base', target', hanswer', htarget', horigin⟩ := hcrosses
        cases hanswer.symm.trans hanswer'
        cases htarget.symm.trans htarget'
        exact absurd (redirectIsCrossOrigin_iff.mpr horigin) hcrossing
      · exact ⟨earlier, hearlier, hcrosses⟩

end Pair

end Chains

/-! ## The rest of the client -/

section Requests

variable (session : Session) (request : RequestBuilder) (headers : HeaderMap) (hop : RequestHop)

theorem sendOnConnection_congr :
    sendOnConnection session { request with headers := headers } hop =
      sendOnConnection session request hop := by
  show (Prog.perform (Op.tryAcquire hop.target.key (request.httpVersion session)) _ : Task _) =
    Prog.perform (Op.tryAcquire hop.target.key (request.httpVersion session)) _
  apply congrArg (Prog.perform _)
  funext connection
  match connection with
  | none => rfl
  | some ⟨.h3, _⟩ => rfl
  | some ⟨.h2, _⟩ | some ⟨.http11, _⟩ =>
    apply congrArg (Prog.perform _)
    funext ready
    match ready with
    | .ok () => rfl
    | .error _ => rfl

/-- The headers of the request itself are not read for a hop. -/
theorem sendSingleRequest_congr (url method : Text) (sent : HeaderMap) (body : Option Bytes) :
    sendSingleRequest session { request with headers := headers } url method sent body =
      sendSingleRequest session request url method sent body := by
  rw [sendSingleRequest, sendSingleRequest]
  simp only [sendOnConnection_congr]
  rfl

end Requests

/-- The client does the same for two states that are the same. -/
theorem RedirectState.Same.handler {session : Session} {left right : RedirectState}
    (hsame : left.Same right) :
    chainHandler session (.single left) = chainHandler session (.single right) := by
  rw [chainHandler, chainHandler, hsame.url, hsame.method, hsame.body, hsame.headers, hsame.request]
  exact (congrArg ExceptT.run (sendSingleRequest_congr ..)).symm

/-- The credentials of a request do not influence what is sent from the first redirect to another
origin on: with the same answers so far the hop is the same, and so is all that the client does for
it. -/
theorem credentials_stay {session : Session} {left right : RequestBuilder}
    (halike : left.Alike right) (hnames : left.headers.names.Nodup)
    {events events' : List ChainEvent} {outcome outcome' : Option (Except Error Response)}
    (hleft : (sendWithRedirects session left).run.Trace events outcome)
    (hright : (sendWithRedirects session right).run.Trace events' outcome')
    {before before' after after' : List ChainHop} {hop hop' : ChainHop}
    (hhops : chainHops events = before ++ hop :: after)
    (hhops' : chainHops events' = before' ++ hop' :: after')
    (hanswers : List.Forall₂ ChainHop.SameAnswer before before')
    (hupgraded : hop.upgraded = hop'.upgraded)
    (hcrossed : ∃ earlier ∈ before, earlier.Crosses session) :
    hop.sent.method = hop'.sent.method ∧ hop.sent.url = hop'.sent.url ∧
      hop.sent.headers = hop'.sent.headers ∧ hop.sent.body = hop'.sent.body ∧
      ∀ environment choices past,
        (chainHandler session (.single hop.sent)).run environment choices past =
          (chainHandler session (.single hop'.sent)).run environment choices past := by
  obtain ⟨url, hurl, hchain⟩ := sendWithRedirects_hops hleft
  obtain ⟨url', hurl', hchain'⟩ := sendWithRedirects_hops hright
  rw [hhops] at hurl hchain
  rw [hhops'] at hurl' hchain'
  have hstart : requestUrl session left = requestUrl session right := by rw [halike.rest]; rfl
  have hsame : url = url' := by
    obtain ⟨first, hfirst⟩ : ∃ first, first ∈ (before ++ hop :: after).head? := by
      cases before with
      | nil => exact ⟨hop, rfl⟩
      | cons first before => exact ⟨first, rfl⟩
    obtain ⟨second, hsecond⟩ : ∃ second, second ∈ (before' ++ hop' :: after').head? := by
      cases before' with
      | nil => exact ⟨hop', rfl⟩
      | cons second before' => exact ⟨second, rfl⟩
    exact Except.ok.inj ((hurl first hfirst).symm.trans (hstart.trans (hurl' second hsecond)))
  have halike' : RedirectState.Alike ⟨url, left.method, left.headers, left.body, left, []⟩
      ⟨url', right.method, right.headers, right.body, right, []⟩ := by
    refine ⟨hsame, ?_, ?_, halike.headers, hnames, halike.rest⟩
    · rw [halike.rest]
    · rw [halike.rest]
  have hsent := Hops.same_of_crossed hanswers hupgraded hchain hchain' halike' hcrossed
  refine ⟨hsent.method, hsent.url, hsent.headers, hsent.body, fun environment choices past => ?_⟩
  rw [hsent.handler]

def shopUrl : Url :=
  ⟨"https".toList, [], none, some "shop.test".toList, none, "/".toList, none, none⟩

def partnerUrl : Url := { shopUrl with host := some "partner.test".toList }

/-- A session for two hosts that follows redirects. -/
def partnerSession : Session :=
  { Session.plain (.ofTable [("https://shop.test/".toList, shopUrl),
      ("https://partner.test/".toList, partnerUrl)]) with redirectPolicy := .follow 10 }

def bearerRequest (token : Text) : RequestBuilder :=
  { shopRequest with
    headers := [("authorization".toList, [token])]
    extraCookies := [("id".toList, token)] }

def toPartner : Response :=
  plainResponse 302 [("location".toList, ["https://partner.test/".toList])]

/-- A run that is sent on to the other host. -/
def partnerRun (token : Text) : List ChainEvent × Except Error Response :=
  (sendWithRedirects partnerSession (bearerRequest token)).run.run
    (scripted [toPartner, plainResponse 200 []]) [] []

def partnerHops (token : Text) : List ChainHop := chainHops (partnerRun token).1

theorem credentials_stay_partner :
    ∃ first second hop hop', partnerHops "Bearer 1".toList = [first, hop] ∧
      partnerHops "Bearer 2".toList = [second, hop'] ∧
      first.sent.headers ≠ second.sent.headers ∧ hop.sent.headers = hop'.sent.headers := by
  have hlength : ∀ token ∈ ["Bearer 1".toList, "Bearer 2".toList],
      (partnerHops token).length = 2 := by decide +kernel
  have hanswers : (partnerHops "Bearer 1".toList).map (fun hop => (hop.upgraded, hop.answer)) =
      (partnerHops "Bearer 2".toList).map (fun hop => (hop.upgraded, hop.answer)) := by
    decide +kernel
  have hheaders : (partnerHops "Bearer 1".toList).map (fun hop => hop.sent.headers) =
      [[("authorization".toList, ["Bearer 1".toList])], []] := by
    decide +kernel
  have hheaders' : (partnerHops "Bearer 2".toList).map (fun hop => hop.sent.headers) =
      [[("authorization".toList, ["Bearer 2".toList])], []] := by
    decide +kernel
  have hcrosses : ∀ hop ∈ (partnerHops "Bearer 1".toList).head?, hop.answer = .ok toPartner ∧
      redirectTarget partnerSession hop.sent toPartner = .ok (shopUrl, partnerUrl) := by
    decide +kernel
  obtain ⟨first, hop, hhops⟩ := length_eq_two.mp (hlength _ mem_cons_self)
  obtain ⟨second, hop', hhops'⟩ := length_eq_two.mp
    (hlength _ (mem_cons_of_mem _ mem_cons_self))
  rw [hhops] at hanswers hheaders hcrosses
  rw [hhops'] at hanswers hheaders'
  simp only [map_cons, map_nil, cons.injEq, Prod.mk.injEq, and_true] at hanswers
  obtain ⟨hfirst, hhop⟩ := hanswers
  have halike : (bearerRequest "Bearer 1".toList).Alike (bearerRequest "Bearer 2".toList) :=
    ⟨rfl, .cons ⟨rfl, fun hhidden => absurd mem_cons_self hhidden⟩ .nil⟩
  have hrun : ∀ token, (sendWithRedirects partnerSession (bearerRequest token)).run.Trace
      (partnerRun token).1 (some (partnerRun token).2) := fun _ => Prog.trace_run _ _ _ _
  have hcrossed : ∃ earlier ∈ [first], earlier.Crosses partnerSession :=
    ⟨first, mem_cons_self, toPartner, shopUrl, partnerUrl, (hcrosses first rfl).1,
      (hcrosses first rfl).2, .inr (.inl (by decide))⟩
  have hanswers : List.Forall₂ ChainHop.SameAnswer [first] [second] := .cons hfirst .nil
  have hsplit : chainHops (partnerRun "Bearer 1".toList).1 = [first] ++ hop :: [] := hhops
  have hsplit' : chainHops (partnerRun "Bearer 2".toList).1 = [second] ++ hop' :: [] := hhops'
  have hsame := credentials_stay halike (nodup_singleton _) (hrun _) (hrun _) hsplit
    hsplit' hanswers hhop.1 hcrossed
  refine ⟨first, second, hop, hop', hhops, hhops', ?_, hsame.2.2.1⟩
  have hleft : first.sent.headers = _ := (cons.inj hheaders).1
  have hright : second.sent.headers = _ := (cons.inj hheaders').1
  rw [hleft, hright]
  decide

end LkRequest.Client
