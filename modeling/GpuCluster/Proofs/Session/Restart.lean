import Mathlib
import GpuCluster.Proofs.Session.Holdings
import GpuCluster.Proofs.Session.Renumbering

/-!
# Starting again

A shutdown leaves nothing behind but numbers that have been given and announcements that can still be
received. A session that is started again runs in step with a new one of the same configuration: it is
always the new one with numbers that are ahead.
-/

namespace GpuCluster.Session

open Sampling

variable {s t : Session} {lead : Lead} {past : Table Nat Announcements} {n : Nat} {α σ : Type}

/-! ## Steps -/

/-- What can happen to a session, with the type of what it answers. -/
inductive Step : Type → Type 1
  | perform {α : Type} (call : Call α) : Step (Except Error α)
  | completePlacement (id : AssignmentId) : Step (Option (Except Error Placement.Assignment))
  | giveBack (permit : Thermal.Permit) : Step Unit
  | advance (ms : Nat) : Step Unit
  | beginShutdown : Step Unit
  | completeShutdown : Step Unit
  | receiveChanges (subscription : Subscription) : Step (Delivery Telemetry.Change × Subscription)
  | receiveTransitions (subscription : Subscription) :
      Step (Delivery Thermal.Transition × Subscription)

/-- Takes a step, with a source of samples beside the session. -/
def take (pull : DeviceId → σ → Option (Sample Float) × σ) (state : Session × σ) :
    {α : Type} → Step α → (Session × σ) × α
  | _, .perform call =>
    let (s, answer) := state.1.perform call
    ((s, state.2), answer)
  | _, .completePlacement id =>
    match state.1.completePlacement id with
    | none => (state, none)
    | some (s, answer) => ((s, state.2), some answer)
  | _, .giveBack permit => ((state.1.giveBack permit, state.2), ())
  | _, .advance ms => (state.1.advance pull ms state.2, ())
  | _, .beginShutdown => ((state.1.beginShutdown, state.2), ())
  | _, .completeShutdown => (state.1.completeShutdown pull state.2, ())
  | _, .receiveChanges subscription => (state, state.1.receive (·.changes) subscription)
  | _, .receiveTransitions subscription => (state, state.1.receive (·.transitions) subscription)

/-- Takes steps one after the other. -/
def walk (pull : DeviceId → σ → Option (Sample Float) × σ) :
    Session × σ → List ((α : Type) × Step α) → Session × σ
  | state, [] => state
  | state, step :: rest => walk pull (take pull state step.2).1 rest

theorem Reachable.take (h : Reachable s) (pull : DeviceId → σ → Option (Sample Float) × σ)
    (source : σ) (step : Step α) : Reachable (take pull (s, source) step).1.1 := by
  cases step with
  | perform call => exact h.perform call
  | completePlacement id =>
    rw [Session.take]
    split
    · exact h
    · rename_i hreply
      exact h.completePlacement hreply
  | giveBack permit => exact h.giveBack permit
  | advance ms => exact h.advance pull ms source
  | beginShutdown => exact h.beginShutdown
  | completeShutdown => exact h.completeShutdown pull source
  | receiveChanges | receiveTransitions => exact h

theorem Reachable.nextAssignment_take_le (h : Reachable s)
    (pull : DeviceId → σ → Option (Sample Float) × σ) (source : σ) (step : Step α) :
    (Session.take pull (s, source) step).1.1.nextAssignment ≤ s.nextAssignment + 1 := by
  have haligned := h.coherent.aligned
  cases step with
  | perform call => exact (change_perform h.coherent call).nextAssignment_le
  | completePlacement id =>
    rw [Session.take]
    split
    · exact Nat.le_succ _
    · rename_i hreply
      exact (change_completePlacement hreply).nextAssignment_le
  | giveBack permit => exact (Change.same (.giveBack s permit)).nextAssignment_le
  | advance ms => exact (Change.same (.advance pull haligned ms source)).nextAssignment_le
  | beginShutdown => exact (change_beginShutdown s).nextAssignment_le
  | completeShutdown => exact (change_completeShutdown haligned pull source).nextAssignment_le
  | receiveChanges | receiveTransitions => exact Nat.le_succ _

/--
The step with the numbers that it means in the session behind. A permit or a subscription from before the
lead means nothing there.
-/
def Step.behind (lead : Lead) (n : Nat) : {α : Type} → Step α → Option (Step α)
  | _, .perform call => some (.perform (call.behind lead n))
  | _, .completePlacement id => some (.completePlacement (lead.behind n id))
  | _, .giveBack ⟨device, issuer⟩ =>
    if issuer < lead.executor then none else some (.giveBack ⟨device, issuer - lead.executor⟩)
  | _, .receiveChanges ⟨era, receiver⟩ =>
    if era < lead.era then none else some (.receiveChanges ⟨era - lead.era, receiver⟩)
  | _, .receiveTransitions ⟨era, receiver⟩ =>
    if era < lead.era then none else some (.receiveTransitions ⟨era - lead.era, receiver⟩)
  | _, step => some step

/-- An answer of the session behind, with numbers that are ahead. -/
def Step.ahead (lead : Lead) : {α : Type} → Step α → α → α
  | _, .perform call => Except.map (call.ahead lead)
  | _, .receiveChanges _ => Prod.map id (·.ahead lead.era)
  | _, .receiveTransitions _ => Prod.map id (·.ahead lead.era)
  | _, _ => fun answer => answer

/-! ## Eras -/

/-- The first session is the second one with numbers that are ahead, and keeps the same announcements of
the eras that both have been through. -/
def Leads (lead : Lead) (t s : Session) : Prop :=
  ∃ past, t = s.ahead lead past ∧ ∀ era, past.get? (era + lead.era) = s.past.get? era

theorem announcements_ahead (hpast : ∀ era, past.get? (era + lead.era) = s.past.get? era) (era : Nat) :
    (s.ahead lead past).announcements (era + lead.era) = s.announcements era := by
  rw [announcements, show (s.ahead lead past).past = past from rfl, hpast]
  rfl

theorem isOpen_ahead (era : Nat) :
    (s.ahead lead past).isOpen (era + lead.era) = s.isOpen era := by
  simp only [isOpen, ahead, Table.values_shift, Table.values_map, List.any_map, Function.comp_def,
    PendingPlacement.ahead, Nat.add_right_cancel_iff]

theorem receive_ahead {ε : Type} (channel : Announcements → Channel ε)
    (hpast : ∀ era, past.get? (era + lead.era) = s.past.get? era) (subscription : Subscription) :
    (s.ahead lead past).receive channel (subscription.ahead lead.era) =
      (s.receive channel subscription).map id (·.ahead lead.era) := by
  simp only [receive, Subscription.ahead, announcements_ahead hpast, isOpen_ahead]
  rfl

theorem leads_forget (hpast : ∀ era, past.get? (era + lead.era) = s.past.get? era) :
    Leads lead (s.ahead lead past).forget s.forget := by
  refine ⟨past.insert (s.era + lead.era) (s.announcements s.era), ?_, fun era => ?_⟩
  · have hannounced :
        (s.ahead lead past).announcements (s.ahead lead past).era = s.announcements s.era :=
      announcements_ahead hpast s.era
    rw [forget, hannounced]
    simp only [forget, ahead, Nat.add_right_comm]
    rfl
  · rw [show s.forget.past = s.past.insert s.era (s.announcements s.era) from rfl, Table.get?_insert,
      Table.get?_insert, hpast]
    simp only [Nat.add_right_cancel_iff]

/-- A session is ahead of itself by nothing. -/
theorem ahead_zero (s : Session) : s.ahead ⟨0, 0, 0⟩ s.past = s := by
  have hmonitor : s.monitor.ahead 0 = s.monitor := by
    rw [Thermal.Monitor.ahead]
    exact congrArg (fun executors => { s.monitor with executors }) (Table.map_id _)
  have hpending : (s.pending.map fun _ p => p.ahead 0) = s.pending := Table.map_id _
  simp only [ahead, hmonitor, hpending, Table.shift_zero, Nat.add_zero]

theorem past_perform (hfree : ∀ id ∈ s.assignments, id < n) (call : Call α) :
    (s.perform call).1.past = s.past := by
  have h : (s.ahead ⟨0, 0, 0⟩ s.past).perform call =
      aheadReply ⟨0, 0, 0⟩ s.past (call.ahead ⟨0, 0, 0⟩) (s.perform (call.behind ⟨0, 0, 0⟩ n)) :=
    perform_ahead hfree call
  rw [ahead_zero] at h
  exact congrArg (·.1.past) h

theorem past_advance (s : Session) (pull : DeviceId → σ → Option (Sample Float) × σ) (ms : Nat)
    (source : σ) : (s.advance pull ms source).1.past = s.past := by
  have h : (s.ahead ⟨0, 0, 0⟩ s.past).advance pull ms source =
      ((s.advance pull ms source).1.ahead ⟨0, 0, 0⟩ s.past, (s.advance pull ms source).2) :=
    advance_ahead pull ms source
  rw [ahead_zero] at h
  exact congrArg (·.1.past) h

/-! ## Steps in step -/

theorem Reachable.free (h : Reachable s) (hn : s.nextAssignment ≤ n) :
    (∀ id ∈ s.assignments, id < n) ∧ ∀ id ∈ s.pending, id < n := by
  obtain ⟨log, hrun⟩ := h.exists_run
  refine ⟨fun id hid => ?_, fun id hid => ?_⟩
  · exact Nat.lt_of_lt_of_le (hrun.booked.lt_next id (Or.inl hid)) hn
  · exact Nat.lt_of_lt_of_le (hrun.booked.lt_next id (Or.inr hid)) hn

theorem isEmpty_pending_ahead :
    (s.ahead lead past).pending.entries.isEmpty = s.pending.entries.isEmpty := by
  simp only [ahead, Table.shift, Table.map, List.isEmpty_map]

theorem Leads.beginShutdown (h : Leads lead t s) : Leads lead t.beginShutdown s.beginShutdown := by
  obtain ⟨past, rfl, hpast⟩ := h
  simp only [Session.beginShutdown, isEmpty_pending_ahead, show (s.ahead lead past).phase = s.phase from rfl,
    show (s.ahead lead past).config = s.config from rfl]
  split
  · split
    · exact leads_forget hpast
    · exact ⟨past, rfl, hpast⟩
  · exact ⟨past, rfl, hpast⟩

theorem Leads.completeShutdown (h : Leads lead t s)
    (pull : DeviceId → σ → Option (Sample Float) × σ) (source : σ) :
    Leads lead (t.completeShutdown pull source).1 (s.completeShutdown pull source).1 ∧
      (t.completeShutdown pull source).2 = (s.completeShutdown pull source).2 := by
  obtain ⟨past, rfl, hpast⟩ := h
  simp only [Session.completeShutdown, isEmpty_pending_ahead, show (s.ahead lead past).phase = s.phase from rfl,
    show (s.ahead lead past).graceLeft = s.graceLeft from rfl, advance_ahead]
  split
  · split
    · exact ⟨leads_forget hpast, rfl⟩
    · refine ⟨leads_forget fun era => ?_, rfl⟩
      rw [hpast, past_advance]
  · exact ⟨⟨past, rfl, hpast⟩, rfl⟩

/-- Two sessions of which one leads, with their sources of samples in the same state. -/
def Abreast (lead : Lead) (state state' : Session × σ) : Prop :=
  Leads lead state.1 state'.1 ∧ state.2 = state'.2

/-- A step that means something in the session behind is answered alike, and keeps the lead. -/
theorem Abreast.take {state state' : Session × σ} (h : Abreast lead state state')
    (hs : Reachable state'.1) (hn : state'.1.nextAssignment ≤ n)
    (pull : DeviceId → σ → Option (Sample Float) × σ) {step step' : Step α}
    (hbehind : step.behind lead n = some step') :
    Abreast lead (Session.take pull state step).1 (Session.take pull state' step').1 ∧
      (Session.take pull state step).2 = step.ahead lead (Session.take pull state' step').2 := by
  obtain ⟨hassignments, hpending⟩ := hs.free hn
  obtain ⟨t, source⟩ := state
  obtain ⟨s, source'⟩ := state'
  obtain ⟨h, rfl : source = source'⟩ := h
  cases step with
  | perform call =>
    obtain rfl := Option.some.inj hbehind
    obtain ⟨past, rfl, hpast⟩ := h
    simp only [Session.take, perform_ahead hassignments, aheadReply]
    refine ⟨⟨⟨past, rfl, fun era => ?_⟩, rfl⟩, rfl⟩
    rw [hpast, past_perform hassignments]
  | completePlacement id =>
    obtain rfl := Option.some.inj hbehind
    obtain ⟨past, rfl, hpast⟩ := h
    simp only [Session.take, completePlacement_ahead hpending]
    cases hreply : s.completePlacement (lead.behind n id) with
    | none => exact ⟨⟨⟨past, rfl, hpast⟩, rfl⟩, rfl⟩
    | some reply =>
      have hkept : reply.1.past = s.past := by
        obtain ⟨placement, -, rfl⟩ := Option.map_eq_some_iff.mp hreply
        dsimp only
        split <;> rfl
      have hanswer : reply.2.map (fun a => a) = reply.2 := by
        cases reply.2 <;> rfl
      refine ⟨⟨⟨past, rfl, fun era => ?_⟩, rfl⟩, congrArg some hanswer⟩
      rw [hpast, ← hkept]
  | giveBack permit =>
    obtain ⟨device, issuer⟩ := permit
    rw [Step.behind] at hbehind
    split at hbehind
    · cases hbehind
    · rename_i hissuer
      obtain rfl := Option.some.inj hbehind
      obtain ⟨past, rfl, hpast⟩ := h
      have hpermit : (⟨device, issuer⟩ : Thermal.Permit) =
          Thermal.Permit.ahead ⟨device, issuer - lead.executor⟩ lead.executor := by
        rw [Thermal.Permit.ahead, Nat.sub_add_cancel (Nat.le_of_not_lt hissuer)]
      refine ⟨⟨⟨past, ?_, hpast⟩, rfl⟩, rfl⟩
      simp only [Session.take, hpermit, giveBack_ahead]
  | advance ms =>
    obtain rfl := Option.some.inj hbehind
    obtain ⟨past, rfl, hpast⟩ := h
    simp only [Session.take, advance_ahead]
    refine ⟨⟨⟨past, rfl, fun era => ?_⟩, rfl⟩, trivial⟩
    rw [hpast, past_advance]
  | beginShutdown =>
    obtain rfl := Option.some.inj hbehind
    exact ⟨⟨h.beginShutdown, rfl⟩, rfl⟩
  | completeShutdown =>
    obtain rfl := Option.some.inj hbehind
    obtain ⟨hleads, hsource⟩ := h.completeShutdown pull source
    exact ⟨⟨hleads, hsource⟩, rfl⟩
  | receiveChanges subscription | receiveTransitions subscription =>
    obtain ⟨era, receiver⟩ := subscription
    rw [Step.behind] at hbehind
    split at hbehind
    · cases hbehind
    · rename_i hera
      obtain rfl := Option.some.inj hbehind
      obtain ⟨past, rfl, hpast⟩ := h
      have hsubscription : (⟨era, receiver⟩ : Subscription) =
          Subscription.ahead ⟨era - lead.era, receiver⟩ lead.era := by
        rw [Subscription.ahead, Nat.sub_add_cancel (Nat.le_of_not_lt hera)]
      refine ⟨⟨⟨past, rfl, hpast⟩, rfl⟩, ?_⟩
      simp only [Session.take, hsubscription, receive_ahead _ hpast]
      rfl

/-- A step that means nothing in the session behind changes nothing. -/
theorem Leads.take_of_none {state : Session × σ} (h : Leads lead state.1 s)
    (pull : DeviceId → σ → Option (Sample Float) × σ) {step : Step α}
    (hbehind : step.behind lead n = none) : (Session.take pull state step).1 = state := by
  cases step with
  | giveBack permit =>
    rw [Step.behind] at hbehind
    split at hbehind
    · rename_i hissuer
      obtain ⟨past, heq, -⟩ := h
      refine Prod.ext ?_ rfl
      show state.1.giveBack permit = state.1
      rw [heq, giveBack_ahead_of_lt hissuer]
    · cases hbehind
  | receiveChanges | receiveTransitions => rfl
  | _ => cases hbehind

/-- The steps that mean something in the session behind, with the numbers that they mean there. -/
def stepsBehind (lead : Lead) (n : Nat) (steps : List ((α : Type) × Step α)) :
    List ((α : Type) × Step α) :=
  steps.filterMap fun step => (step.2.behind lead n).map (⟨step.1, ·⟩)

/-- Along all steps the lead is kept. -/
theorem Abreast.walk {state state' : Session × σ} (h : Abreast lead state state')
    (hs : Reachable state'.1) (pull : DeviceId → σ → Option (Sample Float) × σ)
    (steps : List ((α : Type) × Step α)) (hn : state'.1.nextAssignment + steps.length ≤ n) :
    let out := Session.walk pull state steps
    let out' := Session.walk pull state' (stepsBehind lead n steps)
    Abreast lead out out' ∧ Reachable out'.1 ∧ out'.1.nextAssignment ≤ n := by
  induction steps generalizing state state' with
  | nil => exact ⟨h, hs, hn⟩
  | cons step rest ih =>
    obtain ⟨α, step⟩ := step
    rw [List.length_cons] at hn
    rw [stepsBehind, List.filterMap_cons, Session.walk]
    dsimp only
    cases hbehind : step.behind lead n with
    | none =>
      rw [h.1.take_of_none pull hbehind]
      exact ih h hs (Nat.le_of_succ_le hn)
    | some step' =>
      have hbound : state'.1.nextAssignment ≤ n := (Nat.le_add_right ..).trans hn
      have hgrowth := hs.nextAssignment_take_le pull state'.2 step'
      exact ih (h.take hs hbound pull hbehind).1 (hs.take pull state'.2 step')
        ((Nat.add_le_add_right hgrowth _).trans ((Nat.add_right_comm ..).le.trans hn))

/-! ## Shutdown and restart -/

/-- No device is registered, nothing is known and nothing goes on. -/
structure Blank (s : Session) : Prop where
  phase : s.phase = .uninitialized
  registry : s.registry = .empty
  lanes : s.lanes = .empty
  slots : s.collector.slots = .empty
  executors : s.monitor.executors = .empty
  assignments : s.assignments = .empty
  sampler : s.sampler = none

theorem Blank.forget (s : Session) : Blank s.forget := ⟨rfl, rfl, rfl, rfl, rfl, rfl, rfl⟩

theorem phase_forget_ne_shuttingDown (s : Session) : s.forget.phase ≠ .shuttingDown :=
  Phase.noConfusion

theorem Blank.shutdown (hready : s.phase = .ready)
    (pull : DeviceId → σ → Option (Sample Float) × σ) (source : σ) :
    Blank (s.shutdown pull source).1 := by
  rw [Session.shutdown, if_pos hready, Session.beginShutdown, if_pos hready]
  dsimp only
  split
  · rw [Session.completeShutdown, if_neg s.phase_forget_ne_shuttingDown]
    exact .forget s
  · rw [Session.completeShutdown, if_pos rfl]
    split
    · exact .forget _
    · exact .forget _

theorem shutdown_of_idle (hready : s.phase = .ready) (hpending : s.pending = .empty)
    (pull : DeviceId → σ → Option (Sample Float) × σ) (source : σ) :
    s.shutdown pull source = (s.forget, source) := by
  have hempty : (s.pending.entries.isEmpty || s.config.shutdown.gracePeriodMs = 0) = true := by
    rw [hpending]
    rfl
  rw [Session.shutdown, if_pos hready, Session.beginShutdown, if_pos hready]
  dsimp only
  rw [if_pos hempty, Session.completeShutdown, if_neg s.phase_forget_ne_shuttingDown]

/-- A session that has forgotten everything is a new one with numbers that are ahead. -/
theorem leads_new_forget (h : Reachable s) (hpending : s.pending = .empty) :
    Leads ⟨s.forget.era, s.forget.nextAssignment, s.forget.monitor.nextSerial⟩ s.forget
      (new s.config) := by
  refine ⟨s.forget.past, ?_, fun era => Table.get?_eq_none_iff.mpr fun hmem => ?_⟩
  · simp only [forget, ahead, new, hpending, Thermal.Monitor.ahead, Thermal.Monitor.start, Nat.zero_add]
    rfl
  -- The announcements that are kept are of eras that are over.
  · obtain ⟨log, hrun⟩ := h.exists_run
    have hle : era + (s.era + 1) ≤ s.era := by
      rcases Table.mem_insert.mp hmem with heq | hmem
      · exact Nat.le_of_eq heq
      · exact Nat.le_of_lt (hrun.past_lt _ hmem)
    omega

/-- The permits that the executor of a device has out, if the device is tracked. -/
def permitsOut? (s : Session) (id : DeviceId) : Option Nat :=
  (s.monitor.executors.get? id).map (·.inFlight)

theorem Leads.permitsOut? (h : Leads lead t s) (id : DeviceId) :
    t.permitsOut? id = s.permitsOut? id := by
  obtain ⟨past, rfl, -⟩ := h
  rw [Session.permitsOut?, Session.permitsOut?,
    show (s.ahead lead past).monitor = s.monitor.ahead lead.executor from rfl,
    Thermal.Monitor.get?_ahead, Option.map_map]
  rfl

theorem Leads.phase (h : Leads lead t s) : t.phase = s.phase := by
  obtain ⟨past, rfl, -⟩ := h
  rfl

theorem Leads.config (h : Leads lead t s) : t.config = s.config := by
  obtain ⟨past, rfl, -⟩ := h
  rfl

/--
A shutdown makes a session blank. If all calls had been answered, so that no placement was under way, all
that happens from then on, beginning with another start, happens as in a new session of the same
configuration, with numbers that are ahead: every step is answered alike, the sources of samples are used
alike, and permits from before the shutdown can be given back at any time without being counted. Numbers
of assignments from before the shutdown stand for numbers that the new session does not give, from `n` on.
-/
theorem restarts_as_new (h : Reachable s) (hready : s.phase = .ready)
    (pull : DeviceId → σ → Option (Sample Float) × σ) (source : σ) :
    let t := (s.shutdown pull source).1
    let lead : Lead := ⟨t.era, t.nextAssignment, t.monitor.nextSerial⟩
    Blank t ∧
    (s.pending = .empty →
      ∀ {τ : Type} (pull' : DeviceId → τ → Option (Sample Float) × τ) (source' : τ)
        (steps : List ((α : Type) × Step α)) (n : Nat), steps.length ≤ n →
      let again := walk pull' (t, source') steps
      let fresh := walk pull' (new s.config, source') (stepsBehind lead n steps)
      again.2 = fresh.2 ∧ again.1.phase = fresh.1.phase ∧ again.1.config = fresh.1.config ∧
      (∀ id, again.1.permitsOut? id = fresh.1.permitsOut? id) ∧
      ∀ {α : Type} (step step' : Step α), step.behind lead n = some step' →
        (take pull' again step).2 = step.ahead lead (take pull' fresh step').2) := by
  refine ⟨.shutdown hready pull source, fun hpending τ pull' source' steps n hn => ?_⟩
  have hforget : (s.shutdown pull source).1 = s.forget :=
    congrArg Prod.fst (shutdown_of_idle hready hpending pull source)
  rw [hforget]
  have habreast : Abreast _ (s.forget, source') (new s.config, source') :=
    ⟨leads_new_forget h hpending, rfl⟩
  obtain ⟨⟨hleads, hsource⟩, hreachable, hbound⟩ :=
    habreast.walk (.new s.config) pull' steps ((Nat.zero_add _).le.trans hn)
  refine ⟨hsource, hleads.phase, hleads.config, hleads.permitsOut?, fun step step' hbehind => ?_⟩
  exact (Abreast.take ⟨hleads, hsource⟩ hreachable hbound pull' hbehind).2

/-- A permit from before the shutdown is not counted for the executor that the device has now. -/
theorem restarts_as_new_of_held_permit :
    let pull : DeviceId → Unit → Option (Sample Float) × Unit := fun _ source => (none, source)
    let gpu : Device := ⟨"gpu", "A", .nvidia, "ada", 16, 4, [.fp32], .desktop, 900, none⟩
    let started := (((new {}).perform .start).1.perform (.registerDevice gpu)).1
    let s := (started.perform (.beginCompute "gpu")).1
    let held : Thermal.Permit := ⟨"gpu", 0⟩
    let steps : List ((α : Type) × Step α) :=
      [⟨_, .perform .start⟩, ⟨_, .perform (.registerDevice gpu)⟩, ⟨_, .perform (.beginCompute "gpu")⟩,
        ⟨_, .giveBack held⟩]
    let again := walk pull ((s.shutdown pull ()).1, ()) steps
    (started.perform (.beginCompute "gpu")).2.toOption = some held ∧ s.permitsOut? "gpu" = some 1 ∧
      Blank (s.shutdown pull ()).1 ∧ again.1.permitsOut? "gpu" = some 1 ∧
      (take pull again (.perform (.beginCompute "gpu"))).2.toOption = some ⟨"gpu", 1⟩ := by
  intro pull gpu started s held steps again
  have hreachable : Reachable s :=
    (((Reachable.new {}).perform .start).perform (.registerDevice gpu)).perform (.beginCompute "gpu")
  have hready : s.phase = .ready := by decide +kernel
  obtain ⟨hblank, hsame⟩ := restarts_as_new hreachable hready pull ()
  have hpending : s.pending = .empty := Table.ext_entries (List.isEmpty_iff.mp (by decide +kernel))
  obtain ⟨-, -, -, hpermits, hanswer⟩ := hsame hpending pull () steps 4 (Nat.le_refl 4)
  refine ⟨by decide +kernel, by decide +kernel, hblank, (hpermits "gpu").trans ?_, ?_⟩
  · decide +kernel
  · rw [hanswer (.perform (.beginCompute "gpu")) (.perform (.beginCompute "gpu")) rfl]
    decide +kernel

end GpuCluster.Session
