import FastVoice.Async.Party
import FastVoice.Sql.Table
import FastVoice.Webhooks.Delivery

/-! # Sweeps over the deliveries

The row of one delivery stands among the rows of the others, which change in any way between two
steps. A sweep reads the due rows page by page, each page behind the last row of the one before.
-/
namespace FastVoice.Webhooks
open Async

@[simp] theorem id_execute (command : DeliveryCommand) (s : DeliveryStore) :
    (s.execute command).2.row.id = s.row.id := by
  cases command with
  | claim now leaseUntil =>
    rw [DeliveryStore.execute]
    split <;> rfl
  | _ => rfl

theorem id_environment {move : DeliveryMove} {s s' : DeliveryStore}
    (h : DeliveryStore.environment move s = some s') : s'.row = s.row := by
  cases move with
  | tick now =>
    rw [DeliveryStore.environment] at h
    split at h
    · cases h
      rfl
    · cases h
  | answer response =>
    cases h
    rfl

structure DeliveryTable where
  delivery : DeliveryStore
  others : List WebhookDelivery
  /-- The ids are the values of a sequence. -/
  positive : 0 < delivery.row.id
  distinct : ((delivery.row :: others).map WebhookDelivery.id).Nodup

inductive TableCommand where
  | own (command : DeliveryCommand)
  | getDue (now : UnixTime) (limit afterId : Nat)
  | enqueue (deliveryId : Nat) (job : DeliveryJob)

abbrev TableCommand.Reply : TableCommand → Type
  | .own command => command.Reply
  | .getDue _ _ _ => List WebhookDelivery
  | .enqueue _ _ => Unit

inductive TableMove where
  | own (move : DeliveryMove)
  | others (rows : List WebhookDelivery)

namespace DeliveryTable

def withDelivery (s : DeliveryTable) (delivery : DeliveryStore)
    (h : delivery.row.id = s.delivery.row.id) : DeliveryTable where
  delivery
  others := s.others
  positive := h ▸ s.positive
  distinct := by
    rw [List.map_cons, h, ← List.map_cons]
    exact s.distinct

def due (s : DeliveryTable) (now : UnixTime) (limit afterId : Nat) : List WebhookDelivery :=
  Sql.page WebhookDelivery.id ((s.delivery.row :: s.others).filter (·.isDue now)) limit afterId

def execute : (command : TableCommand) → DeliveryTable → command.Reply × DeliveryTable
  | .own command, s =>
    ((s.delivery.execute command).1, s.withDelivery (s.delivery.execute command).2 (id_execute _ _))
  | .getDue now limit afterId, s => (s.due now limit afterId, s)
  | .enqueue _ job, s =>
    ((), s.withDelivery { s.delivery with jobs := job :: s.delivery.jobs } rfl)

def environment : TableMove → DeliveryTable → Option DeliveryTable
  | .own move, s =>
    match h : DeliveryStore.environment move s.delivery with
    | some delivery => some (s.withDelivery delivery (congrArg WebhookDelivery.id (id_environment h)))
    | none => none
  | .others rows, s =>
    if h : ((s.delivery.row :: rows).map WebhookDelivery.id).Nodup then
      some ⟨s.delivery, rows, s.positive, h⟩
    else none

end DeliveryTable

theorem id_moved {move : TableMove} {s s' : DeliveryTable}
    (h : DeliveryTable.environment move s = some s') : s'.delivery.row.id = s.delivery.row.id := by
  cases move with
  | own move =>
    rw [DeliveryTable.environment] at h
    split at h
    · rename_i delivery hMove
      cases h
      exact congrArg WebhookDelivery.id (id_environment hMove)
    · cases h
  | others rows =>
    rw [DeliveryTable.environment] at h
    split at h
    · cases h
      rfl
    · cases h

def deliveryTable (ι : Type) :
    System ι TableCommand.Reply DeliveryError DeliveryTable TableMove :=
  .ofServer DeliveryTable.execute DeliveryTable.environment

abbrev TableMethod := Program TableCommand.Reply DeliveryError

def reenqueue (delivery : WebhookDelivery) : TableMethod Unit :=
  let reclaimToken := delivery.scheduledFor.elim 0 fun lease => ⌊lease.val⌋₊
  Program.call (TableCommand.enqueue delivery.id
    ⟨s!"webhook-delivery-reclaim-{delivery.id}-{reclaimToken}", 0⟩)

def reenqueueAll : List WebhookDelivery → TableMethod Unit
  | [] => return ()
  | delivery :: due => do
    reenqueue delivery
    reenqueueAll due

def sweepPages (pageSize : Nat) : Nat → Nat → TableMethod Unit
  | 0, _ => return ()
  | pages + 1, afterId => do
    let now ← Program.call (TableCommand.own .now)
    let due ← Program.call (TableCommand.getDue now pageSize afterId)
    match due.getLast? with
    | none => return ()
    | some last =>
      reenqueueAll due
      if due.length < pageSize then return () else sweepPages pageSize pages last.id

def sweepDeliveries (pages : Nat) : TableMethod Unit := sweepPages 100 pages 0

section Pass

variable {ι : Type} [DecidableEq ι]

abbrev TableRecord (ι : Type) := Recorded ι TableCommand DeliveryError DeliveryTable TableMove

abbrev TableCall := TableCommand × Outcome DeliveryError × DeliveryTable

def enqueues (id : Nat) (call : TableCall) : Bool :=
  match call.1 with
  | .enqueue deliveryId _ => decide (deliveryId = id)
  | _ => false

/-- A page that the row has not been passed at finds it due. -/
def FindsDue (call : TableCall) : Prop :=
  match call.1 with
  | .getDue now _ afterId =>
    afterId < call.2.2.delivery.row.id → call.2.2.delivery.row.isDue now = true
  | _ => True

def sweeper (proc : ι) : Party ι TableCommand.Reply DeliveryError (TableRecord ι) TableMove where
  system := (deliveryTable ι).recorded
  proc
  allows _ _ := True
  relies s s' := s'.own proc = s.own proc ∧ s'.state.delivery.row.id = s.state.delivery.row.id
  refl _ := ⟨rfl, rfl⟩
  trans h h' := ⟨h'.1.trans h.1, h'.2.trans h.2⟩

variable {proc : ι} {id : Nat} {s : TableRecord ι}

theorem sweeper_call (proc : ι) (command : TableCommand) (outcome : Outcome DeliveryError) (s : TableRecord ι) :
    ((sweeper proc).system.perform proc command outcome s).2.own proc =
        (command, outcome, s.state) :: s.own proc ∧
      ((sweeper proc).system.perform proc command outcome s).2.state.delivery.row.id =
        s.state.delivery.row.id := by
  constructor
  · exact own_perform command outcome
  · have hId : (DeliveryTable.execute command s.state).2.delivery.row.id =
        s.state.delivery.row.id := by
      cases command with
      | own command => exact id_execute command s.state.delivery
      | getDue now limit afterId => rfl
      | enqueue deliveryId job => rfl
    cases outcome with
    | reply => exact hId
    | fail error applied =>
      cases applied with
      | false => rfl
      | true => exact hId

/-- The calls after the earlier ones enqueue the row this often at most, and exactly this often once they
have returned and found it due. -/
def Swept (proc : ι) (id : Nat) (earlier : List TableCall) (times : Nat)
    (result : Except DeliveryError Unit) (s : TableRecord ι) : Prop :=
  s.state.delivery.row.id = id ∧ ∃ calls, s.own proc = calls ++ earlier ∧
    calls.countP (enqueues id) ≤ times ∧
    (result = .ok () → (∀ call ∈ calls, FindsDue call) → calls.countP (enqueues id) = times)

theorem Swept.append {calls earlier : List TableCall} {times times' : Nat}
    {result : Except DeliveryError Unit} (hBound : calls.countP (enqueues id) ≤ times)
    (hExact : (∀ call ∈ calls, FindsDue call) → calls.countP (enqueues id) = times)
    (h : Swept proc id (calls ++ earlier) times' result s) :
    Swept proc id earlier (times + times') result s := by
  obtain ⟨hId, later, hOwn, hLater, hLaterExact⟩ := h
  refine ⟨hId, later ++ calls, by rw [hOwn, List.append_assoc], ?_, fun hResult hDue => ?_⟩
  · rw [List.countP_append]
    omega
  · have hCalls := hExact fun call hCall => hDue call (List.mem_append_right _ hCall)
    have hMore := hLaterExact hResult fun call hCall => hDue call (List.mem_append_left _ hCall)
    rw [List.countP_append]
    omega

theorem ensures_call_bind {command : TableCommand} {next : command.Reply → TableMethod Unit}
    {total : Nat} (hId : s.state.delivery.row.id = id)
    (h : ∀ (found : DeliveryTable) (outcome : Outcome DeliveryError), found.delivery.row.id = id →
      ∃ times times', times + times' = total ∧ [(command, outcome, found)].countP (enqueues id) ≤ times ∧
        (FindsDue (command, outcome, found) → [(command, outcome, found)].countP (enqueues id) = times) ∧
        ∀ after : TableRecord ι, after.state.delivery.row.id = id →
          (next (found.execute command).1).Ensures (sweeper proc)
            (Swept proc id (after.own proc) times') after) :
    (Program.call command >>= next).Ensures (sweeper proc) (Swept proc id (s.own proc) total) s := by
  rw [Program.call_bind]
  rintro s' ⟨hOwn, hSame⟩ outcome -
  obtain ⟨hAfter, hAfterId⟩ := sweeper_call proc command outcome s'
  obtain ⟨times, times', hTotal, hBound, hExact, hNext⟩ := h s'.state outcome (hSame.trans hId)
  rw [hOwn] at hAfter
  cases outcome with
  | reply =>
    apply (hNext _ (hAfterId.trans (hSame.trans hId))).weaken
    intro result last hSwept
    rw [hAfter] at hSwept
    rw [← hTotal]
    apply Swept.append hBound _ hSwept
    intro hDue
    exact hExact (hDue _ List.mem_cons_self)
  | fail error applied =>
    refine ⟨hAfterId.trans (hSame.trans hId), [_], hAfter, by omega, ?_⟩
    intro hResult
    cases hResult

theorem reenqueueAll_ensures (due : List WebhookDelivery) (s : TableRecord ι)
    (hId : s.state.delivery.row.id = id) : (reenqueueAll due).Ensures (sweeper proc)
      (Swept proc id (s.own proc) (due.countP fun row => row.id = id)) s := by
  induction due generalizing s with
  | nil => exact ⟨hId, [], rfl, Nat.le_refl _, fun _ _ => rfl⟩
  | cons delivery due ih =>
    apply ensures_call_bind hId
    intro found outcome hFound
    refine ⟨if delivery.id = id then 1 else 0, due.countP fun row => row.id = id, ?_, ?_, ?_, ?_⟩
    · rw [List.countP_cons]
      simp only [decide_eq_true_eq]
      omega
    · simp [enqueues]
    · simp [enqueues]
    · intro after hAfter
      exact ih after hAfter

def toCome (id afterId : Nat) : Nat := if afterId < id then 1 else 0

omit [DecidableEq ι] in
theorem page_finds (s : DeliveryTable) (now : UnixTime) (limit afterId : Nat) :
    let id := s.delivery.row.id
    let due := s.due now limit afterId
    (due.countP fun row => row.id = id) ≤ toCome id afterId ∧
      ((afterId < id → s.delivery.row.isDue now = true) → due.length < limit →
        (due.countP fun row => row.id = id) = toCome id afterId) ∧
      ∀ last, due.getLast? = some last → afterId < last.id ∧
        (due.countP fun row => row.id = id) + toCome id last.id ≤ toCome id afterId ∧
        ((afterId < id → s.delivery.row.isDue now = true) →
          (due.countP fun row => row.id = id) + toCome id last.id = toCome id afterId) := by
  intro id due
  have hDistinct : ((((s.delivery.row :: s.others).filter (·.isDue now))).map
      WebhookDelivery.id).Nodup := s.distinct.sublist (List.filter_sublist.map _)
  have hOnce : (due.countP fun row => row.id = id) ≤ 1 := Sql.count_page_le_one hDistinct _ _ _
  have hFound : 0 < (due.countP fun row => row.id = id) → afterId < id ∧
      ∀ last, due.getLast? = some last → id ≤ last.id := by
    intro hPos
    obtain ⟨row, hRow, hSame⟩ := List.countP_pos_iff.mp hPos
    have hSame : row.id = id := of_decide_eq_true hSame
    rw [← hSame]
    exact ⟨(Sql.mem_of_mem_page hRow).2, fun last hLast =>
      Sql.key_le_getLast hDistinct _ _ hLast hRow⟩
  have hCovers : s.delivery.row.isDue now = true → afterId < id →
      0 < (due.countP fun row => row.id = id) ∨ due.length = limit ∧ ∀ row ∈ due, row.id < id := by
    intro hDue hAfter
    have hMem : s.delivery.row ∈ (s.delivery.row :: s.others).filter (·.isDue now) :=
      List.mem_filter.mpr ⟨List.mem_cons_self, hDue⟩
    obtain hHere | hFull := Sql.page_covers hDistinct limit afterId hMem hAfter
    · exact .inl (List.countP_pos_iff.mpr ⟨_, hHere, decide_eq_true rfl⟩)
    · exact .inr hFull
  have hEarlier : ∀ last, due.getLast? = some last → afterId < last.id := fun last hLast =>
    (Sql.mem_of_mem_page (List.mem_of_getLast? hLast)).2
  refine ⟨?_, ?_, fun last hLast => ⟨hEarlier last hLast, ?_, ?_⟩⟩
  · grind [toCome]
  · grind [toCome]
  · grind [toCome]
  · intro hDue
    have hLastDue := List.mem_of_getLast? hLast
    grind [toCome]

theorem sweepPages_ensures {pageSize : Nat} (hPositive : 0 < pageSize) (pages afterId : Nat)
    (s : TableRecord ι) (hId : s.state.delivery.row.id = id) (hPages : id ≤ afterId + pages) :
    (sweepPages pageSize pages afterId).Ensures (sweeper proc)
      (Swept proc id (s.own proc) (toCome id afterId)) s := by
  induction pages generalizing afterId s with
  | zero =>
    have hPassed : toCome id afterId = 0 := if_neg (by omega)
    rw [hPassed]
    exact ⟨hId, [], rfl, Nat.le_refl _, fun _ _ => rfl⟩
  | succ pages ih =>
    rw [sweepPages]
    apply ensures_call_bind hId
    intro found outcome hFound
    refine ⟨0, toCome id afterId, Nat.zero_add _, Nat.le_refl _, fun _ => rfl, fun after hAfter => ?_⟩
    apply ensures_call_bind hAfter
    intro found' outcome' hFound'
    obtain ⟨hBound, hWhole, hRest⟩ := page_finds found' found.delivery.clock pageSize afterId
    simp only [hFound'] at hBound hWhole hRest
    have hDue : FindsDue (.getDue found.delivery.clock pageSize afterId, outcome', found') →
        afterId < id → found'.delivery.row.isDue found.delivery.clock = true :=
      fun hFinds hBehind => hFinds (by rw [hFound']; exact hBehind)
    show ∃ times times', times + times' = _ ∧ 0 ≤ times ∧ (_ → 0 = times) ∧
      ∀ after : TableRecord ι, _ → (match (found'.due found.delivery.clock pageSize afterId).getLast? with
        | none => _
        | some last => reenqueueAll (found'.due found.delivery.clock pageSize afterId) >>= fun _ =>
          if (found'.due found.delivery.clock pageSize afterId).length < pageSize then _ else _ :
          TableMethod Unit).Ensures _ _ after
    cases hLast : (found'.due found.delivery.clock pageSize afterId).getLast? with
    | none =>
      rw [List.getLast?_eq_none_iff.mp hLast] at hWhole
      refine ⟨toCome id afterId, 0, rfl, Nat.zero_le _, fun hFinds => ?_, fun after hAfter => ?_⟩
      · exact hWhole (hDue hFinds) hPositive
      · exact ⟨hAfter, [], rfl, Nat.le_refl _, fun _ _ => rfl⟩
    | some last =>
      obtain ⟨hFurther, hFew, hExact⟩ := hRest last hLast
      by_cases hShort : (found'.due found.delivery.clock pageSize afterId).length < pageSize
      · -- The last page.
        refine ⟨_, _, Nat.sub_add_cancel hBound, Nat.zero_le _, fun hFinds => ?_, fun after hAfter => ?_⟩
        · rw [hWhole (hDue hFinds) hShort, Nat.sub_self]
        · apply (reenqueueAll_ensures _ after hAfter).bind
          · intro _ s' hSwept
            rw [if_pos hShort]
            exact hSwept
          · intro error s' hSwept
            exact hSwept
      · refine ⟨_, _, Nat.sub_add_cancel hFew, Nat.zero_le _, fun hFinds => ?_, fun after hAfter => ?_⟩
        · rw [hExact (hDue hFinds), Nat.sub_self]
        · apply (reenqueueAll_ensures _ after hAfter).bind
          · rintro _ s' ⟨hSame, calls, hOwn, hCalls, hAll⟩
            rw [if_neg hShort]
            apply (ih last.id s' hSame (by omega)).weaken
            intro result s'' hSwept
            rw [hOwn] at hSwept
            exact hSwept.append hCalls (hAll rfl)
          · rintro error s' ⟨hSame, calls, hOwn, hCalls, -⟩
            refine ⟨hSame, calls, hOwn, by omega, ?_⟩
            intro hResult
            cases hResult

theorem sweep_enqueues_once {pages : Nat}
    {cfg last : Config ι TableCommand.Reply DeliveryError Unit (TableRecord ι)}
    {events : List (Event ι DeliveryError TableMove)} {result : Except DeliveryError Unit}
    (hRun : (deliveryTable ι).recorded.run cfg events = some last)
    (hSweep : cfg.procs proc = sweepDeliveries pages) (hFresh : cfg.shared.own proc = [])
    (hPages : cfg.shared.state.delivery.row.id ≤ pages) (hResult : (last.procs proc).result? = some result) :
    let calls := last.shared.own proc
    let times := calls.countP (enqueues cfg.shared.state.delivery.row.id)
    times ≤ 1 ∧ (result = .ok () → (∀ call ∈ calls, FindsDue call) → times = 1) := by
  have hToCome : toCome cfg.shared.state.delivery.row.id 0 = 1 :=
    if_pos cfg.shared.state.positive
  have hEnsures : (sweepPages 100 pages 0).Ensures (sweeper proc)
      (Swept proc cfg.shared.state.delivery.row.id (cfg.shared.own proc)
        (toCome cfg.shared.state.delivery.row.id 0)) cfg.shared :=
    sweepPages_ensures (by decide) pages 0 cfg.shared rfl (by omega)
  have hFollows : (deliveryTable ι).recorded.Follows (sweeper proc).discipline cfg events := by
    apply (System.follows_free _ cfg events).mono
    · intro caller command outcome s _
      by_cases hOwn : caller = proc
      · subst hOwn
        exact (sweeper caller).discipline_own.mpr trivial
      · exact (if_neg hOwn).mpr ⟨own_perform_of_ne (Ne.symm hOwn) command outcome,
          (sweeper_call proc command outcome s).2⟩
    · rintro move s - s' hMove
      refine ⟨own_environment hMove proc, ?_⟩
      exact id_moved (environment_recorded hMove)
  rw [hFresh, hToCome, ← sweepDeliveries, ← hSweep] at hEnsures
  have hSwept := Party.run_ensures (P := sweeper proc) ?_ hFollows hRun hEnsures hResult
  · obtain ⟨-, calls, hOwn, hBound, hExact⟩ := hSwept
    rw [List.append_nil] at hOwn
    subst hOwn
    exact ⟨hBound, hExact⟩
  · rintro result s s' ⟨hId, calls, hOwn, hCalls⟩ ⟨hSameOwn, hSameId⟩
    exact ⟨hSameId.trans hId, calls, hSameOwn.trans hOwn, hCalls⟩

end Pass

end FastVoice.Webhooks
