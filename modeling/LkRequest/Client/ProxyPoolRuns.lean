import LkRequest.Client.ProxyPool

/-!
# What the pools hand out

Every guard and session that is handed out in a run has a proxy of the list, unless no proxy of the
list could be used. An acquire that ends before it has looked at the whole list is left out: draws
of other tasks, the buffer and the random strategy make it miss proxies.
-/

namespace LkRequest.Client

open Library List Option

variable {setup : PoolSetup}

/-! ## The invariant -/

/-- A proxy of the list was passed over for a reason: it is removed, which lasts, or the cooldown
was running when it was looked at. -/
def Skip.Genuine (setup : PoolSetup) (removed : Finset Text) : Skip → Prop
  | .removed proxy => proxy ∈ setup.proxies ∧ proxy.identity ∈ removed
  | .cooling proxy now expires => proxy ∈ setup.proxies ∧ now < expires

def Skip.proxy : Skip → ProxyConfig
  | .removed proxy | .cooling proxy _ _ => proxy

/-- The proxy could not be used: it is removed, or the acquire found its cooldown running. -/
def Handed.Unusable (removed : Finset Text) (handed : Handed) (proxy : ProxyConfig) : Prop :=
  proxy.identity ∈ removed ∨
    ∃ now expires, Skip.cooling proxy now expires ∈ handed.skipped ∧ now < expires

theorem Skip.Genuine.mem {setup : PoolSetup} {removed : Finset Text} {skip : Skip}
    (hgenuine : skip.Genuine setup removed) : skip.proxy ∈ setup.proxies := by
  cases skip with
  | removed proxy => exact hgenuine.1
  | cooling proxy now expires => exact hgenuine.1

theorem Skip.Genuine.unusable {setup : PoolSetup} {removed : Finset Text} {handed : Handed}
    {skip : Skip} (hgenuine : skip.Genuine setup removed) (hskip : skip ∈ handed.skipped) :
    handed.Unusable removed skip.proxy := by
  cases skip with
  | removed proxy => exact .inl hgenuine.2
  | cooling proxy now expires => exact .inr ⟨now, expires, hskip, hgenuine.2⟩

/-- The state of an acquire: it has passed over proxies for a reason, and has a pass left unless it
is about to end. -/
def AcquireStage.Sound (setup : PoolSetup) (removed : Finset Text) : AcquireStage → Prop
  | .waiting => True
  | .drawing skipped => (∀ skip ∈ skipped, skip.Genuine setup removed) ∧
      skipped.length ≤ setup.passes
  | .drawingDirect skipped => (∀ skip ∈ skipped, skip.Genuine setup removed) ∧
      skipped.length < setup.passes
  | .checkingRemoved skipped proxy => (∀ skip ∈ skipped, skip.Genuine setup removed) ∧
      skipped.length < setup.passes ∧ proxy ∈ setup.proxies
  | .checkingCooldown skipped proxy => (∀ skip ∈ skipped, skip.Genuine setup removed) ∧
      skipped.length < setup.passes ∧ proxy ∈ setup.proxies

/-- What is handed out: a session has the proxy of its guard, and there is none only after every
pass of the loop has passed over a proxy. -/
structure Handed.Sound (setup : PoolSetup) (removed : Finset Text) (handed : Handed) : Prop where
  session : ∀ proxy ∈ handed.session, proxy = handed.proxy
  proxy : ∀ proxy ∈ handed.proxy, proxy ∈ setup.proxies
  none : handed.proxy = none → handed.skipped.length = setup.passes
  skipped : ∀ skip ∈ handed.skipped, skip.Genuine setup removed

structure Pool.Sound (setup : PoolSetup) (pool : Pool) : Prop where
  buffer : ∀ proxy ∈ pool.buffer, proxy ∈ setup.proxies
  filling : ∀ proxy ∈ pool.filling, proxy ∈ setup.proxies
  acquires : ∀ task, ∀ acquire ∈ pool.acquires task, acquire.stage.Sound setup pool.removed
  handed : ∀ task, ∀ handed ∈ pool.handed task, handed.Sound setup pool.removed
  returning : ∀ task, ∀ handed ∈ pool.returning task, handed.Sound setup pool.removed
  idle : ∀ entry ∈ pool.idle, entry.entry.Sound setup pool.removed

/-! ## Removal lasts -/

variable {before after : Finset Text}

theorem Skip.Genuine.mono (hsubset : before ⊆ after) {skip : Skip}
    (hgenuine : skip.Genuine setup before) : skip.Genuine setup after := by
  cases skip with
  | removed proxy => exact ⟨hgenuine.1, hsubset hgenuine.2⟩
  | cooling => exact hgenuine

variable {stage : AcquireStage}

theorem AcquireStage.Sound.mono (hsubset : before ⊆ after) (hsound : stage.Sound setup before) :
    stage.Sound setup after := by
  cases stage with
  | waiting => trivial
  | drawing skipped | drawingDirect skipped =>
    exact ⟨fun skip hskip => (hsound.1 skip hskip).mono hsubset, hsound.2⟩
  | checkingRemoved skipped proxy | checkingCooldown skipped proxy =>
    exact ⟨fun skip hskip => (hsound.1 skip hskip).mono hsubset, hsound.2⟩

variable {handed : Handed}

theorem Handed.Sound.mono (hsubset : before ⊆ after) (hsound : handed.Sound setup before) :
    handed.Sound setup after :=
  { hsound with skipped := fun skip hskip => (hsound.skipped skip hskip).mono hsubset }

namespace Pool

theorem sound_start (setup : PoolSetup) : (start setup).Sound setup where
  buffer := by simp [start]
  filling := by simp [start]
  acquires := by simp [start]
  handed := by simp [start]
  returning := by simp [start]
  idle := by simp [start]

variable {after pool : Pool} {skipped : List Skip} {word : UInt64} {event : Event}

/-! ## Drawing -/

variable {proxy : ProxyConfig}

theorem mem_of_rotate (hproxy : proxy ∈ (pool.rotate setup word).1) : proxy ∈ setup.proxies := by
  rw [rotate] at hproxy
  split at hproxy
  · split at hproxy
    · cases hproxy
    · exact mem_of_getElem? hproxy
  · exact mem_of_getElem? hproxy

/-- A pool with a non-empty list always draws a proxy. -/
theorem isSome_rotate (hproxies : setup.proxies ≠ []) (pool : Pool) (word : UInt64) :
    (pool.rotate setup word).1.isSome := by
  have hindex : ∀ n : Nat, (setup.proxies[n % setup.proxies.length]?).isSome := by
    intro n
    rw [List.getElem?_eq_getElem (Nat.mod_lt n (length_pos_iff.mpr hproxies))]
    rfl
  rw [rotate]
  split
  · rw [if_neg hproxies]
    exact hindex pool.next
  · exact hindex word.toNat

theorem rotate_snd (setup : PoolSetup) (pool : Pool) (word : UInt64) :
    ∃ next, (pool.rotate setup word).2 = { pool with next := next } := by
  rw [rotate]
  split
  · split
    · exact ⟨pool.next, rfl⟩
    · exact ⟨_, rfl⟩
  · exact ⟨pool.next, rfl⟩

theorem removed_rotate (pool : Pool) (word : UInt64) :
    (pool.rotate setup word).2.removed = pool.removed := by
  obtain ⟨next, hnext⟩ := rotate_snd setup pool word
  rw [hnext]

/-- The expired entries are the first ones. -/
theorem popExpired_eq (timeout now : Nat) (entries : List IdleEntry) :
    ∃ expired, entries = expired ++ (popExpired timeout now entries).1 ∧
      (popExpired timeout now entries).2 = expired.length := by
  induction entries with
  | nil => exact ⟨[], rfl, rfl⟩
  | cons first rest ih =>
    rw [popExpired]
    split
    · exact ⟨[], rfl, rfl⟩
    · obtain ⟨expired, hrest, hcount⟩ := ih
      exact ⟨first :: expired, congrArg (first :: ·) hrest, congrArg (· + 1) hcount⟩

theorem mem_popExpired {timeout now : Nat} {entries : List IdleEntry} {entry : IdleEntry}
    (hentry : entry ∈ (popExpired timeout now entries).1) : entry ∈ entries := by
  obtain ⟨expired, hentries, -⟩ := popExpired_eq timeout now entries
  rw [hentries]
  exact mem_append_right expired hentry

/-! ## Changes that hand out nothing new -/

section Sound

variable (hsound : pool.Sound setup)
include hsound

/-- A change of the counters, the cooldowns, the failures and the reports. -/
theorem Sound.bookkeeping {next permits : Nat} {cooldown : Text → Option Nat}
    {failures : Text → List Nat} {counts : Text → Nat} {records : TaskId → Option Record}
    {probing : List ProxyConfig} : { pool with
      next := next, permits := permits, cooldown := cooldown, failures := failures
      cooldownCounts := counts, records := records, probing := probing }.Sound setup :=
  { hsound with }

theorem Sound.setAcquire (task : TaskId) {acquire : Option Acquire}
    (hstage : ∀ started ∈ acquire, started.stage.Sound setup pool.removed) :
    (pool.setAcquire task acquire).Sound setup where
  __ := hsound
  acquires := forall_update hstage hsound.acquires

theorem Sound.setStage (task : TaskId) (forSession : Bool)
    (hstage : stage.Sound setup pool.removed) :
    (pool.setAcquire task (some ⟨forSession, stage⟩)).Sound setup :=
  hsound.setAcquire task (forall_mem_some hstage)

theorem Sound.hand (task : TaskId) (hhanded : handed.Sound setup pool.removed) :
    { pool with handed := Function.update pool.handed task (some handed) }.Sound setup where
  __ := hsound
  handed := forall_update (forall_mem_some hhanded) hsound.handed

theorem Sound.finish (task : TaskId) (acquire : Acquire)
    {proxy : Option ProxyConfig} (hproxy : ∀ found ∈ proxy, found ∈ setup.proxies)
    (hnone : proxy = none → skipped.length = setup.passes)
    (hskipped : ∀ skip ∈ skipped, skip.Genuine setup pool.removed) :
    (pool.finish task acquire proxy skipped).Sound setup := by
  have hcleared : (pool.setAcquire task none).Sound setup := hsound.setAcquire task (by simp)
  refine hcleared.hand task ⟨?_, hproxy, hnone, hskipped⟩
  intro found hfound
  split at hfound
  · exact (some.inj hfound).symm
  · cases hfound

theorem Sound.rotate (word : UInt64) : (pool.rotate setup word).2.Sound setup := by
  obtain ⟨next, hnext⟩ := rotate_snd setup pool word
  rw [hnext]
  exact hsound.bookkeeping

/-- A drawn proxy goes to its first check. -/
theorem Sound.drawn {drawn : Pool} (hrotate : pool.rotate setup word = (some proxy, drawn))
    (task : TaskId) (forSession : Bool)
    (hskipped : ∀ skip ∈ skipped, skip.Genuine setup pool.removed)
    (hpasses : skipped.length < setup.passes) :
    (drawn.setAcquire task (some ⟨forSession, .checkingRemoved skipped proxy⟩)).Sound setup := by
  have hproxy : proxy ∈ (pool.rotate setup word).1 := by
    rw [hrotate]
    rfl
  obtain rfl : (pool.rotate setup word).2 = drawn := by rw [hrotate]
  apply (hsound.rotate word).setStage
  rw [removed_rotate]
  exact ⟨hskipped, hpasses, mem_of_rotate hproxy⟩

theorem Sound.passOver {task : TaskId} {forSession : Bool} {last : Skip}
    (hskipped : ∀ skip ∈ skipped, skip.Genuine setup pool.removed)
    (hpasses : skipped.length < setup.passes) (hlast : last.Genuine setup pool.removed) :
    (pool.setAcquire task (some ⟨forSession, .drawing (skipped ++ [last])⟩)).Sound setup := by
  apply hsound.setStage
  refine ⟨forall_mem_append.mpr ⟨hskipped, forall_mem_singleton.mpr hlast⟩, ?_⟩
  rw [length_append]
  exact hpasses

end Sound

/-! ## One event -/

theorem Sound.stepAcquire (hproxies : setup.proxies ≠ []) (hsound : pool.Sound setup) :
    ∀ after ∈ pool.stepAcquire setup event, after.Sound setup := by
  fun_cases Pool.stepAcquire setup pool event with
  | case2 task => exact forall_mem_some (hsound.setStage task false trivial)
  | case4 task now _ expired _ entry rest hpop =>
    have hmem : ∀ found ∈ entry :: rest, found ∈ pool.idle := fun found hfound =>
      mem_popExpired (by rw [hpop]; exact hfound)
    have hpopped : { pool with permits := pool.permits + expired, idle := rest }.Sound setup :=
      { hsound with
        idle := fun found hfound => hsound.idle found (hmem found (mem_cons_of_mem _ hfound)) }
    exact forall_mem_some (hpopped.hand task (hsound.idle entry (hmem entry mem_cons_self)))
  | case5 task now _ expired =>
    have hpopped : { pool with permits := pool.permits + expired, idle := [] }.Sound setup :=
      { hsound with idle := nofun }
    exact forall_mem_some (hpopped.setStage task true trivial)
  | case7 task =>
    apply forall_mem_some
    apply Sound.setStage hsound.bookkeeping
    exact ⟨nofun, Nat.zero_le _⟩
  | case9 task _ _ skipped hacquire hend =>
    have hskipped := (hsound.acquires task _ hacquire).1
    exact forall_mem_some (hsound.finish task _ nofun (fun _ => hend) hskipped)
  | case10 task _ forSession skipped hacquire hmore _ proxy rest hbuffer =>
    obtain ⟨hskipped, hlength⟩ := hsound.acquires task _ hacquire
    have hmem : ∀ found ∈ proxy :: rest, found ∈ setup.proxies :=
      fun found hfound => hsound.buffer found (by rw [hbuffer]; exact hfound)
    have hpopped : { pool with buffer := rest }.Sound setup :=
      { hsound with buffer := (forall_mem_cons.mp hmem).2 }
    exact forall_mem_some (hpopped.setStage task forSession
      ⟨hskipped, lt_of_le_of_ne hlength hmore, hmem proxy mem_cons_self⟩)
  | case11 task _ forSession skipped hacquire hmore =>
    obtain ⟨hskipped, hlength⟩ := hsound.acquires task _ hacquire
    exact forall_mem_some
      (hsound.setStage task forSession ⟨hskipped, lt_of_le_of_ne hlength hmore⟩)
  | case12 task _ forSession skipped hacquire hmore _ proxy drawn hrotate =>
    obtain ⟨hskipped, hlength⟩ := hsound.acquires task _ hacquire
    exact forall_mem_some
      (hsound.drawn hrotate task forSession hskipped (lt_of_le_of_ne hlength hmore))
  | case15 task _ forSession skipped hacquire proxy drawn hrotate =>
    obtain ⟨hskipped, hpasses⟩ := hsound.acquires task _ hacquire
    exact forall_mem_some (hsound.drawn hrotate task forSession hskipped hpasses)
  -- A pool with a non-empty list draws a proxy.
  | case13 _ word _ _ _ _ _ _ hrotate | case16 _ word _ _ _ _ hrotate =>
    have hsome := isSome_rotate hproxies pool word
    rw [hrotate] at hsome
    cases hsome
  | case18 task forSession skipped proxy hacquire hremoved =>
    obtain ⟨hskipped, hpasses, hproxy⟩ := hsound.acquires task _ hacquire
    exact forall_mem_some (hsound.passOver hskipped hpasses ⟨hproxy, hremoved⟩)
  | case19 task forSession skipped proxy hacquire =>
    exact forall_mem_some (hsound.setStage task forSession (hsound.acquires task _ hacquire))
  | case21 task now forSession skipped proxy hacquire _ _ hcooling =>
    obtain ⟨hskipped, hpasses, hproxy⟩ := hsound.acquires task _ hacquire
    exact forall_mem_some (hsound.passOver hskipped hpasses ⟨hproxy, hcooling⟩)
  | case22 task _ _ _ _ hacquire | case23 task _ _ _ _ hacquire =>
    obtain ⟨hskipped, hpasses, hproxy⟩ := hsound.acquires task _ hacquire
    exact forall_mem_some (hsound.finish task _ (forall_mem_some hproxy) nofun hskipped)
  | _ => exact nofun

theorem Sound.stepRecord (hsound : pool.Sound setup) (task : TaskId) (now : Nat)
    (record : Record) : (pool.stepRecord setup task now record).Sound setup := by
  obtain ⟨identity, stage⟩ := record
  cases stage with
  | checking | counting | countingCooldowns =>
    simp only [Pool.stepRecord]
    split
    · exact hsound.bookkeeping
    · exact hsound.bookkeeping
  | clearing reported | cooling reported => exact hsound.bookkeeping
  | removing =>
    have hmore : pool.removed ⊆ insert identity pool.removed := Finset.subset_insert _ _
    exact { hsound with
      acquires := fun other started h => (hsound.acquires other started h).mono hmore
      handed := fun other found h => (hsound.handed other found h).mono hmore
      returning := fun other found h => (hsound.returning other found h).mono hmore
      idle := fun entry h => (hsound.idle entry h).mono hmore }

theorem Sound.stepBackground (hsound : pool.Sound setup) :
    ∀ after ∈ pool.stepBackground setup event, after.Sound setup := by
  fun_cases Pool.stepBackground setup pool event with
  | case2 | case4 | case5 | case8 | case9 => exact forall_mem_some hsound.bookkeeping
  | case3 task now =>
    intro after hstep
    obtain ⟨record, -, rfl⟩ := map_eq_some_iff.mp hstep
    exact hsound.stepRecord task now record
  | case10 word =>
    exact forall_mem_some
      { hsound.rotate word with filling := fun proxy hproxy => mem_of_rotate hproxy }
  | case13 capacity proxy hfilling =>
    apply forall_mem_some
    refine { hsound with buffer := ?_, filling := nofun }
    split
    · have hfilled := forall_mem_singleton.mpr (hsound.filling proxy hfilling)
      exact forall_mem_append.mpr ⟨hsound.buffer, hfilled⟩
    · exact hsound.buffer
  | case15 task =>
    exact forall_mem_some { hsound with handed := forall_update nofun hsound.handed }
  | case17 task handed _ hhanded =>
    apply forall_mem_some
    have hreturned := forall_mem_some (hsound.handed task handed hhanded)
    exact { hsound with
      handed := forall_update nofun hsound.handed
      returning := forall_update hreturned hsound.returning }
  | case20 task now =>
    intro after hstep
    obtain ⟨handed, hhanded, rfl⟩ := map_eq_some_iff.mp hstep
    have hreturned := hsound.returning task handed hhanded
    exact { hsound with
      returning := forall_update nofun hsound.returning
      idle := forall_mem_append.mpr ⟨hsound.idle, forall_mem_singleton.mpr hreturned⟩ }
  | case21 now =>
    exact forall_mem_some
      { hsound with idle := fun entry h => hsound.idle entry (mem_filter.mp h).1 }
  | _ => exact nofun

theorem Sound.step (hproxies : setup.proxies ≠ [])
    (hsound : pool.Sound setup) (hstep : pool.step setup event = some after) :
    after.Sound setup := by
  rw [Pool.step] at hstep
  split at hstep
  · next hacquire =>
    obtain rfl := some.inj hstep
    exact hsound.stepAcquire hproxies _ hacquire
  · exact hsound.stepBackground _ hstep

theorem Sound.run (hproxies : setup.proxies ≠ []) {events : List Event}
    (hsound : pool.Sound setup) (hrun : pool.run setup events = some after) :
    after.Sound setup := by
  induction events generalizing pool with
  | nil =>
    obtain rfl := some.inj hrun
    exact hsound
  | cons event rest ih =>
    obtain ⟨next, hnext, hrest⟩ := bind_eq_some_iff.mp hrun
    exact ih (hsound.step hproxies hnext) hrest

/-! ## Guards and sessions -/

/-- A pool with one proxy that a single failure sends into cooldown. -/
def lone : PoolSetup where
  proxies := [.single ⟨.http "proxy".toList 8080, none⟩]
  strategy := .roundRobin
  bufferCapacity := none
  maxProxies := 1
  badProxy := ⟨1, 60, 300, 5⟩
  idleTimeout := 300

/-- A report that the proxy is bad, up to its cooldown, and then an acquire of a session. -/
def reportThenAcquire : List Event :=
  [.markBad 0 "proxy:8080".toList, .record 0 7, .record 0 7, .record 0 7, .record 0 7,
    .record 0 7, .acquireSession 1 8, .takePermit 1, .draw 1 0, .checkRemoved 1,
    .checkCooldown 1 8, .draw 1 0]

theorem run_reportThenAcquire :
    ((start lone).run lone reportThenAcquire).bind (fun after => (after.handed 1).map fun handed =>
      (handed.proxy.isSome, handed.session.map isSome, handed.skipped.length)) =
      some (false, some false, 1) := by
  decide +kernel

end Pool

end LkRequest.Client
