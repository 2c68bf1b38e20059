import FastVoice.Redis.Volatile
import FastVoice.Runtime.Machine
import FastVoice.Telephony.TransferEvents
import Mathlib.Data.List.Nodup
import Mathlib.Tactic.Linarith

/-! # Finding the transfer of a call

A stored context has a key of its own, and the call that is transferred has an index key with the id of the
transfer. Removing a transfer deletes the index key of its call, whatever it holds.
-/
namespace FastVoice.Telephony.TransferLookup
open Redis

inductive TransferKey where
  | context (transferId : String)
  | byCallSid (originalCallSid : String)
  deriving DecidableEq

def TransferKey.text : TransferKey → String
  | .context transferId => "transfer:context:" ++ transferId
  | .byCallSid originalCallSid => "transfer:by_call_sid:" ++ originalCallSid

theorem text_injective : Function.Injective TransferKey.text := by
  have hDifferent : ∀ a b : String, "transfer:context:" ++ a ≠ "transfer:by_call_sid:" ++ b := by
    intro a b hEq
    have hChars := congrArg (fun text => text.toList[9]?) hEq
    simp at hChars
  intro key key' h
  cases key <;> cases key'
  · exact congrArg TransferKey.context (String.append_right_inj _ |>.mp h)
  · exact absurd h (hDifferent _ _)
  · exact absurd h.symm (hDifferent _ _)
  · exact congrArg TransferKey.byCallSid (String.append_right_inj _ |>.mp h)

inductive TransferValue where
  | json (context : TransferContext)
  | transferId (id : String)
  deriving DecidableEq

abbrev TransferRedis := Expiring TransferKey TransferValue

namespace TransferRedis

/-- A failed command is logged, and nothing follows it. -/
def storeTransferContext (redis : TransferRedis) (context : TransferContext) (ttl : Int) : TransferRedis :=
  match redis.setex (.context context.transferId) ttl (.json context) with
  | none => redis
  | some stored =>
    if context.originalCallSid = "" then stored
    else (stored.setex (.byCallSid context.originalCallSid) ttl (.transferId context.transferId)).getD stored

def getTransferContext (redis : TransferRedis) (transferId : String) : Option TransferContext :=
  match redis.get (.context transferId) with
  | some (.json context) => some context
  | _ => none

def removeTransferContext (redis : TransferRedis) (transferId : String) : TransferRedis :=
  match redis.getTransferContext transferId with
  | some context =>
    if context.originalCallSid = "" then redis.delete (.context transferId)
    else (redis.delete (.context transferId)).delete (.byCallSid context.originalCallSid)
  | none => redis.delete (.context transferId)

def findTransferContextForCall (redis : TransferRedis) (callerChannelId : String) : Option TransferContext :=
  match redis.get (.byCallSid callerChannelId) with
  | some (.transferId transferId) =>
    if transferId = "" then none
    else (redis.getTransferContext transferId).filter fun context => context.originalCallSid = callerChannelId
  | _ => none

end TransferRedis

/-! ## Histories -/

/-- Redis, and what has been stored and not removed, with its deadline, the last one first. -/
structure Transfers where
  redis : TransferRedis
  stored : List (TransferContext × ℚ)

inductive TransferStep where
  | elapse (seconds : ℚ)
  | store (context : TransferContext) (ttl : Int)
  | remove (transferId : String)

namespace Transfers

def empty : Transfers := ⟨⟨0, fun _ => none⟩, []⟩

def without (s : Transfers) (transferId : String) : List (TransferContext × ℚ) :=
  s.stored.filter fun entry => entry.1.transferId ≠ transferId

def step (s : Transfers) : TransferStep → Option Transfers
  | .elapse seconds =>
    if 0 ≤ seconds then some { s with redis := { s.redis with clock := s.redis.clock + seconds } } else none
  | .store context ttl => some
    ⟨s.redis.storeTransferContext context ttl,
      if 0 < ttl then (context, s.redis.clock + ttl) :: s.without context.transferId else s.stored⟩
  | .remove transferId => some ⟨s.redis.removeTransferContext transferId, s.without transferId⟩

def ofCall (s : Transfers) (originalCallSid : String) : List (TransferContext × ℚ) :=
  s.stored.filter fun entry => s.redis.clock < entry.2 && entry.1.originalCallSid = originalCallSid

/-- Every call finds the context that was stored last for it. -/
def LookupsAgree (s : Transfers) : Prop :=
  ∀ originalCallSid, s.redis.findTransferContextForCall originalCallSid =
    (s.ofCall originalCallSid).head?.map Prod.fst

/-- No step leaves a call with an older context of its own: a transfer is removed, stored for another call, or
expires only while it is not the last of several. Neither id is empty. -/
def Alone (s : Transfers) : TransferStep → Prop
  | .elapse seconds => ∀ originalCallSid, ∀ last ∈ (s.ofCall originalCallSid).head?,
    last.2 ≤ s.redis.clock + seconds → ∀ other ∈ s.ofCall originalCallSid, other.2 ≤ s.redis.clock + seconds
  | .store context ttl => 0 < ttl → context.transferId ≠ "" ∧ context.originalCallSid ≠ "" ∧
    ∀ originalCallSid, originalCallSid ≠ context.originalCallSid → ∀ last ∈ (s.ofCall originalCallSid).head?,
      last.1.transferId = context.transferId → s.ofCall originalCallSid = [last]
  | .remove transferId => ∀ entry ∈ s.stored, entry.1.transferId = transferId → s.redis.clock < entry.2 →
    s.ofCall entry.1.originalCallSid = [entry]

end Transfers

def transfers : Machine Transfers TransferStep := ⟨Transfers.step⟩

end FastVoice.Telephony.TransferLookup

/-! # Lookups agree with what is stored

The index of a call points to the context that was stored last for it, as long as no step removes that context
and leaves an older one behind.
-/
namespace FastVoice.Telephony.TransferLookup
open Redis

structure Indexed (s : Transfers) : Prop where
  distinct : (s.stored.map fun entry => entry.1.transferId).Nodup
  contexts : ∀ transferId value deadline, s.redis.entries (.context transferId) = some (value, deadline) ↔
    ∃ context, value = .json context ∧ context.transferId = transferId ∧ (context, deadline) ∈ s.stored
  index : ∀ originalCallSid value deadline, s.redis.entries (.byCallSid originalCallSid) = some (value, deadline) →
    originalCallSid ≠ "" ∧ ∃ transferId, value = .transferId transferId ∧ ∀ entry ∈ s.stored,
      entry.1.transferId = transferId → entry.1.originalCallSid = originalCallSid → entry.2 = deadline

def Names (s : Transfers) (originalCallSid : String) (entry : TransferContext × ℚ) : Prop :=
  entry.1.transferId ≠ "" ∧
    s.redis.entries (.byCallSid originalCallSid) = some (.transferId entry.1.transferId, entry.2)

section Lookups

variable {s : Transfers} {originalCallSid transferId : String} {context : TransferContext}
  {entry last : TransferContext × ℚ}

theorem mem_ofCall : entry ∈ s.ofCall originalCallSid ↔
    entry ∈ s.stored ∧ s.redis.clock < entry.2 ∧ entry.1.originalCallSid = originalCallSid := by
  simp [Transfers.ofCall]

theorem mem_without : entry ∈ s.without transferId ↔ entry ∈ s.stored ∧ entry.1.transferId ≠ transferId := by
  simp [Transfers.without]

theorem Indexed.eq_of_transferId (h : Indexed s) (hEntry : entry ∈ s.stored) (hLast : last ∈ s.stored)
    (hId : entry.1.transferId = last.1.transferId) : entry = last :=
  List.inj_on_of_nodup_map h.distinct hEntry hLast hId

theorem Indexed.getTransferContext (h : Indexed s) : s.redis.getTransferContext transferId = some context ↔
    ∃ deadline, (context, deadline) ∈ s.stored ∧ s.redis.clock < deadline ∧ context.transferId = transferId := by
  have hGet : s.redis.getTransferContext transferId = some context ↔
      s.redis.get (.context transferId) = some (.json context) := by
    unfold TransferRedis.getTransferContext
    split
    · rename_i found hFound
      rw [hFound]
      simp
    · rename_i hOther
      exact ⟨fun hNone => absurd hNone (by simp), fun hFound => absurd hFound (hOther context)⟩
  rw [hGet, Expiring.get_eq_some_iff]
  constructor
  · rintro ⟨deadline, hEntry, hLive⟩
    obtain ⟨other, hValue, hId, hStored⟩ := (h.contexts _ _ _).mp hEntry
    obtain rfl := TransferValue.json.inj hValue
    exact ⟨deadline, hStored, hLive, hId⟩
  · rintro ⟨deadline, hStored, hLive, hId⟩
    exact ⟨deadline, (h.contexts _ _ _).mpr ⟨context, rfl, hId, hStored⟩, hLive⟩

theorem Indexed.find_eq_some_iff (h : Indexed s) :
    s.redis.findTransferContextForCall originalCallSid = some context ↔
      ∃ deadline, (context, deadline) ∈ s.ofCall originalCallSid ∧ Names s originalCallSid (context, deadline) := by
  unfold TransferRedis.findTransferContextForCall
  constructor
  · intro hFind
    split at hFind
    · rename_i found hIndex
      obtain ⟨deadline, hEntry, hLive⟩ := Expiring.get_eq_some_iff.mp hIndex
      split at hFind
      · cases hFind
      · rename_i hNonempty
        obtain ⟨hGet, hSid⟩ := Option.filter_eq_some_iff.mp hFind
        obtain ⟨stored, hStored, hStoredLive, rfl⟩ := h.getTransferContext.mp hGet
        have hCall : context.originalCallSid = originalCallSid := of_decide_eq_true hSid
        obtain ⟨-, id, hId, hDeadline⟩ := h.index _ _ _ hEntry
        obtain rfl : stored = deadline := hDeadline _ hStored (TransferValue.transferId.inj hId) hCall
        exact ⟨stored, mem_ofCall.mpr ⟨hStored, hStoredLive, hCall⟩, hNonempty, hEntry⟩
    · cases hFind
  · rintro ⟨deadline, hOfCall, hNonempty, hEntry⟩
    obtain ⟨hStored, hLive, hCall⟩ := mem_ofCall.mp hOfCall
    have hIndex : s.redis.get (.byCallSid originalCallSid) = some (.transferId context.transferId) :=
      Expiring.get_eq_some_iff.mpr ⟨deadline, hEntry, hLive⟩
    have hGet : s.redis.getTransferContext context.transferId = some context :=
      h.getTransferContext.mpr ⟨deadline, hStored, hLive, rfl⟩
    simp only [hIndex]
    rw [if_neg hNonempty, hGet]
    exact Option.filter_eq_some_iff.mpr ⟨rfl, decide_eq_true hCall⟩

theorem Indexed.agree_iff (h : Indexed s) : s.LookupsAgree ↔
    ∀ originalCallSid, ∀ last ∈ (s.ofCall originalCallSid).head?, Names s originalCallSid last := by
  apply forall_congr'
  intro originalCallSid
  cases hLast : (s.ofCall originalCallSid).head? with
  | none =>
    have hEmpty := List.head?_eq_none_iff.mp hLast
    constructor
    · exact fun _ last hMem => nomatch hMem
    · intro _
      apply Option.eq_none_iff_forall_ne_some.mpr
      intro context hFind
      obtain ⟨deadline, hOfCall, -⟩ := h.find_eq_some_iff.mp hFind
      rw [hEmpty] at hOfCall
      cases hOfCall
  | some last =>
    have hMem := List.mem_of_head? hLast
    rw [Option.map_some, h.find_eq_some_iff]
    constructor
    · rintro ⟨deadline, hOfCall, hNames⟩ other hOther
      obtain rfl := Option.some.inj hOther
      obtain hSame : (last.1, deadline) = last :=
        h.eq_of_transferId (mem_ofCall.mp hOfCall).1 (mem_ofCall.mp hMem).1 rfl
      exact hSame ▸ hNames
    · intro hNames
      exact ⟨last.2, hMem, hNames last rfl⟩

theorem Names.unique (h : Indexed s) (hEntry : entry ∈ s.stored) (hLast : last ∈ s.stored)
    (hNames : Names s originalCallSid entry) (hOther : Names s originalCallSid last) : entry = last := by
  have hSame := hNames.2.symm.trans hOther.2
  apply h.eq_of_transferId hEntry hLast
  exact TransferValue.transferId.inj (Prod.mk.inj (Option.some.inj hSame)).1

theorem Indexed.head_filter (h : Indexed s) (hNames : ∀ last ∈ (s.ofCall originalCallSid).head?,
    Names s originalCallSid last) (kept : TransferContext × ℚ → Bool) :
    (∀ last ∈ ((s.ofCall originalCallSid).filter kept).head?, Names s originalCallSid last) ↔
      ∀ last ∈ (s.ofCall originalCallSid).head?, kept last = false →
        ∀ other ∈ s.ofCall originalCallSid, kept other = false := by
  have hMem : ∀ entry ∈ s.ofCall originalCallSid, entry ∈ s.stored := fun entry hEntry => (mem_ofCall.mp hEntry).1
  cases hCalls : s.ofCall originalCallSid with
  | nil => simp
  | cons last older =>
    rw [hCalls] at hMem hNames
    have hNamed := hNames last rfl
    simp only [List.head?_cons, Option.mem_some_iff, forall_eq']
    cases hKept : kept last with
    | true =>
      rw [List.filter_cons_of_pos hKept]
      constructor
      · exact fun _ hGone => nomatch hGone
      · intro _ other hOther
        obtain rfl := Option.some.inj hOther
        exact hNamed
    | false =>
      rw [List.filter_cons_of_neg (by rw [hKept]; exact Bool.false_ne_true)]
      constructor
      · intro hAll _ other hOther
        obtain rfl | hOlder := List.mem_cons.mp hOther
        · exact hKept
        · by_contra hNot
          have hIn : other ∈ older.filter kept := List.mem_filter.mpr ⟨hOlder, by simpa using hNot⟩
          obtain ⟨next, hHead⟩ := Option.ne_none_iff_exists'.mp
            (mt List.head?_eq_none_iff.mp (List.ne_nil_of_mem hIn))
          -- the index names one context, the one that is gone
          obtain ⟨hNext, hNextKept⟩ := List.mem_filter.mp (List.mem_of_head? hHead)
          have hSame := Names.unique h (hMem next (List.mem_cons_of_mem _ hNext)) (hMem last List.mem_cons_self)
            (hAll next hHead) hNamed
          rw [hSame, hKept] at hNextKept
          cases hNextKept
      · intro hAll next hNext
        obtain ⟨hOlder, hLive⟩ := List.mem_filter.mp (List.mem_of_head? hNext)
        rw [hAll rfl next (List.mem_cons_of_mem _ hOlder)] at hLive
        cases hLive

theorem Indexed.ofCall_eq_singleton (h : Indexed s) (hEntry : entry ∈ s.ofCall originalCallSid) :
    (∀ other ∈ s.ofCall originalCallSid, other.1.transferId = entry.1.transferId) ↔
      s.ofCall originalCallSid = [entry] := by
  constructor
  · intro hAll
    have hNodup : (s.ofCall originalCallSid).Nodup := (List.Nodup.of_map _ h.distinct).filter _
    apply List.Perm.eq_singleton
    apply (List.perm_ext_iff_of_nodup hNodup (List.nodup_singleton _)).mpr
    intro other
    rw [List.mem_singleton]
    constructor
    · intro hOther
      exact h.eq_of_transferId (mem_ofCall.mp hOther).1 (mem_ofCall.mp hEntry).1 (hAll other hOther)
    · rintro rfl
      exact hEntry
  · intro hAlone other hOther
    rw [hAlone] at hOther
    rw [List.mem_singleton.mp hOther]

end Lookups

/-! ## Steps -/

section Steps

variable {s : Transfers} {originalCallSid transferId : String} {context : TransferContext} {ttl : Int}

theorem entries_store (redis : TransferRedis) (context : TransferContext) (hTtl : 0 < ttl) (key : TransferKey) :
    (redis.storeTransferContext context ttl).entries key =
      if key = .context context.transferId then some (.json context, redis.clock + ttl)
      else if key = .byCallSid context.originalCallSid ∧ context.originalCallSid ≠ "" then
        some (.transferId context.transferId, redis.clock + ttl) else redis.entries key := by
  unfold TransferRedis.storeTransferContext Expiring.setex
  by_cases hSid : context.originalCallSid = ""
  · simp [hTtl, hSid, Function.update_apply]
  · cases key with
    | context id => simp [hTtl, hSid, Function.update_apply]
    | byCallSid sid => simp [hTtl, hSid, Function.update_apply]

@[simp] theorem clock_store (redis : TransferRedis) (context : TransferContext) (ttl : Int) :
    (redis.storeTransferContext context ttl).clock = redis.clock := by
  unfold TransferRedis.storeTransferContext Expiring.setex
  split_ifs <;> rfl

theorem store_refused (redis : TransferRedis) (context : TransferContext) (hTtl : ¬0 < ttl) :
    redis.storeTransferContext context ttl = redis := by
  simp only [TransferRedis.storeTransferContext, Expiring.setex, hTtl, if_false]

theorem entries_remove (redis : TransferRedis) (transferId : String) (key : TransferKey) :
    (redis.removeTransferContext transferId).entries key =
      if key = .context transferId ∨ ∃ context, redis.getTransferContext transferId = some context ∧
        context.originalCallSid ≠ "" ∧ key = .byCallSid context.originalCallSid then none
      else redis.entries key := by
  unfold TransferRedis.removeTransferContext
  cases hGet : redis.getTransferContext transferId with
  | none => simp [Expiring.delete, Function.update_apply]
  | some context =>
    by_cases hSid : context.originalCallSid = ""
    · simp [Expiring.delete, Function.update_apply, hSid]
    · cases key <;> simp [Expiring.delete, Function.update_apply, hSid]

@[simp] theorem clock_remove (redis : TransferRedis) (transferId : String) :
    (redis.removeTransferContext transferId).clock = redis.clock := by
  unfold TransferRedis.removeTransferContext
  split
  · split_ifs <;> rfl
  · rfl

/-! ### Time -/

section Elapse

variable {seconds : ℚ}

def elapsed (s : Transfers) (seconds : ℚ) : Transfers :=
  { s with redis := { s.redis with clock := s.redis.clock + seconds } }

theorem Indexed.elapse (h : Indexed s) (seconds : ℚ) : Indexed (elapsed s seconds) := ⟨h.distinct, h.contexts, h.index⟩

theorem ofCall_elapsed (hSeconds : 0 ≤ seconds) : (elapsed s seconds).ofCall originalCallSid =
    (s.ofCall originalCallSid).filter fun entry => s.redis.clock + seconds < entry.2 := by
  unfold Transfers.ofCall elapsed
  rw [List.filter_filter]
  apply List.filter_congr
  intro entry _
  rw [Bool.eq_iff_iff]
  simp only [Bool.and_eq_true, decide_eq_true_eq]
  constructor
  · rintro ⟨hLive, hCall⟩
    exact ⟨hLive, by linarith, hCall⟩
  · rintro ⟨hLive, -, hCall⟩
    exact ⟨hLive, hCall⟩

theorem agree_elapsed_iff (h : Indexed s) (hAgree : s.LookupsAgree) (hSeconds : 0 ≤ seconds) :
    (elapsed s seconds).LookupsAgree ↔ s.Alone (.elapse seconds) := by
  rw [(h.elapse seconds).agree_iff]
  apply forall_congr'
  intro originalCallSid
  rw [ofCall_elapsed hSeconds]
  apply (h.head_filter (h.agree_iff.mp hAgree originalCallSid) _).trans
  simp only [decide_eq_false_iff_not, not_lt]

end Elapse

/-! ### Storing -/

section Store

def stored (s : Transfers) (context : TransferContext) (ttl : Int) : Transfers :=
  ⟨s.redis.storeTransferContext context ttl, (context, s.redis.clock + ttl) :: s.without context.transferId⟩

theorem Indexed.store (h : Indexed s) (context : TransferContext) (hTtl : 0 < ttl) :
    Indexed (stored s context ttl) where
  distinct := by
    rw [stored, List.map_cons, List.nodup_cons]
    constructor
    · rw [List.mem_map]
      rintro ⟨entry, hEntry, hId⟩
      exact (mem_without.mp hEntry).2 hId
    · exact h.distinct.sublist (List.filter_sublist.map _)
  contexts transferId value deadline := by
    simp only [stored, entries_store _ _ hTtl, TransferKey.context.injEq, reduceCtorEq, false_and, if_false,
      List.mem_cons, mem_without]
    by_cases hId : transferId = context.transferId
    · rw [if_pos hId]
      constructor
      · rintro ⟨⟩
        exact ⟨context, rfl, hId.symm, .inl rfl⟩
      · rintro ⟨other, rfl, hOther, hNew | hOld⟩
        · obtain ⟨rfl, rfl⟩ := Prod.mk.inj hNew
          rfl
        · exact absurd (hOther.trans hId) hOld.2
    · rw [if_neg hId, h.contexts]
      constructor
      · rintro ⟨other, rfl, rfl, hStored⟩
        exact ⟨other, rfl, rfl, .inr ⟨hStored, hId⟩⟩
      · rintro ⟨other, rfl, rfl, hNew | hOld⟩
        · exact absurd (congrArg (fun entry => entry.1.transferId) hNew) hId
        · exact ⟨other, rfl, rfl, hOld.1⟩
  index originalCallSid value deadline := by
    simp only [stored, entries_store _ _ hTtl, TransferKey.byCallSid.injEq, reduceCtorEq, if_false]
    split
    · rename_i hSid
      rintro ⟨⟩
      refine ⟨hSid.1 ▸ hSid.2, context.transferId, rfl, fun entry hEntry hId _ => ?_⟩
      obtain rfl | hOld := List.mem_cons.mp hEntry
      · rfl
      · exact absurd hId (mem_without.mp hOld).2
    · rename_i hSid
      intro hEntry
      obtain ⟨hNonempty, transferId, rfl, hDeadline⟩ := h.index _ _ _ hEntry
      refine ⟨hNonempty, transferId, rfl, fun entry hEntry hId hCall => ?_⟩
      obtain rfl | hOld := List.mem_cons.mp hEntry
      · exact absurd ⟨hCall.symm, hCall ▸ hNonempty⟩ hSid
      · exact hDeadline entry (mem_without.mp hOld).1 hId hCall

theorem ofCall_stored (hTtl : 0 < ttl) : (stored s context ttl).ofCall originalCallSid =
    if context.originalCallSid = originalCallSid then (context, s.redis.clock + ttl) ::
      (s.ofCall originalCallSid).filter fun entry => entry.1.transferId ≠ context.transferId
    else (s.ofCall originalCallSid).filter fun entry => entry.1.transferId ≠ context.transferId := by
  have hLive : s.redis.clock < s.redis.clock + ttl := lt_add_of_pos_right _ (Int.cast_pos.mpr hTtl)
  have hOld : ((s.without context.transferId).filter fun entry =>
      s.redis.clock < entry.2 && entry.1.originalCallSid = originalCallSid) =
      (s.ofCall originalCallSid).filter fun entry => entry.1.transferId ≠ context.transferId :=
    List.filter_comm _ _ _
  unfold Transfers.ofCall stored
  simp only [clock_store]
  split
  · rename_i hCall
    rw [List.filter_cons_of_pos (by simp [hLive, hCall]), hOld]
    rfl
  · rename_i hCall
    rw [List.filter_cons_of_neg (by simp [hCall]), hOld]
    rfl

theorem agree_stored_iff (h : Indexed s) (hAgree : s.LookupsAgree) (hTtl : 0 < ttl) :
    (stored s context ttl).LookupsAgree ↔ s.Alone (.store context ttl) := by
  have hOwn : (∀ last ∈ ((stored s context ttl).ofCall context.originalCallSid).head?,
      Names (stored s context ttl) context.originalCallSid last) ↔
        context.transferId ≠ "" ∧ context.originalCallSid ≠ "" := by
    rw [ofCall_stored hTtl, if_pos rfl]
    simp only [List.head?_cons, Option.mem_some_iff, forall_eq']
    constructor
    · rintro ⟨hId, hEntry⟩
      exact ⟨hId, ((h.store context hTtl).index _ _ _ hEntry).1⟩
    · rintro ⟨hId, hSid⟩
      refine ⟨hId, ?_⟩
      simp [stored, entries_store _ _ hTtl, hSid]
  have hOthers : ∀ originalCallSid, originalCallSid ≠ context.originalCallSid →
      ((∀ last ∈ ((stored s context ttl).ofCall originalCallSid).head?,
        Names (stored s context ttl) originalCallSid last) ↔
      ∀ last ∈ (s.ofCall originalCallSid).head?, last.1.transferId = context.transferId →
        s.ofCall originalCallSid = [last]) := by
    intro originalCallSid hOther
    have hNames : ∀ entry, Names (stored s context ttl) originalCallSid entry ↔ Names s originalCallSid entry := by
      intro entry
      simp [Names, stored, entries_store _ _ hTtl, hOther]
    simp only [hNames]
    rw [ofCall_stored hTtl, if_neg hOther.symm, h.head_filter (h.agree_iff.mp hAgree originalCallSid)]
    apply forall₂_congr
    intro last hLast
    simp only [decide_eq_false_iff_not, not_not]
    apply imp_congr_right
    intro hId
    rw [← hId, h.ofCall_eq_singleton (List.mem_of_head? hLast)]
  rw [(h.store context hTtl).agree_iff]
  constructor
  · intro hAll _
    obtain ⟨hId, hSid⟩ := hOwn.mp (hAll _)
    exact ⟨hId, hSid, fun originalCallSid hOther => (hOthers _ hOther).mp (hAll originalCallSid)⟩
  · intro hAlone originalCallSid
    obtain ⟨hId, hSid, hRest⟩ := hAlone hTtl
    by_cases hCall : originalCallSid = context.originalCallSid
    · rw [hCall]
      exact hOwn.mpr ⟨hId, hSid⟩
    · exact (hOthers _ hCall).mpr (hRest originalCallSid hCall)

end Store

/-! ### Removing -/

section Remove

def removed (s : Transfers) (transferId : String) : Transfers :=
  ⟨s.redis.removeTransferContext transferId, s.without transferId⟩

theorem Indexed.remove (h : Indexed s) (transferId : String) : Indexed (removed s transferId) where
  distinct := h.distinct.sublist (List.filter_sublist.map _)
  contexts other value deadline := by
    simp only [removed, entries_remove, TransferKey.context.injEq, reduceCtorEq, and_false, exists_false, or_false,
      mem_without]
    by_cases hId : other = transferId
    · rw [if_pos hId]
      constructor
      · exact fun hNone => nomatch hNone
      · rintro ⟨context, rfl, hContext, -, hOther⟩
        exact absurd (hContext.trans hId) hOther
    · rw [if_neg hId, h.contexts]
      constructor
      · rintro ⟨context, rfl, rfl, hStored⟩
        exact ⟨context, rfl, rfl, hStored, hId⟩
      · rintro ⟨context, rfl, rfl, hStored, -⟩
        exact ⟨context, rfl, rfl, hStored⟩
  index originalCallSid value deadline := by
    simp only [removed, entries_remove]
    split
    · exact fun hNone => nomatch hNone
    · intro hEntry
      obtain ⟨hNonempty, id, hValue, hDeadline⟩ := h.index _ _ _ hEntry
      exact ⟨hNonempty, id, hValue, fun entry hEntry => hDeadline entry (mem_without.mp hEntry).1⟩

theorem ofCall_removed : (removed s transferId).ofCall originalCallSid =
    (s.ofCall originalCallSid).filter fun entry => entry.1.transferId ≠ transferId := by
  unfold Transfers.ofCall removed
  simp only [clock_remove]
  exact List.filter_comm _ _ _

theorem names_removed (h : Indexed s) (hOther : ∀ entry ∈ s.ofCall originalCallSid, entry.1.transferId ≠ transferId)
    (entry : TransferContext × ℚ) :
    Names (removed s transferId) originalCallSid entry ↔ Names s originalCallSid entry := by
  have hKept : ¬∃ context, s.redis.getTransferContext transferId = some context ∧ context.originalCallSid ≠ "" ∧
      TransferKey.byCallSid originalCallSid = .byCallSid context.originalCallSid := by
    rintro ⟨context, hGet, -, hCall⟩
    obtain ⟨deadline, hStored, hLive, hId⟩ := h.getTransferContext.mp hGet
    exact hOther _ (mem_ofCall.mpr ⟨hStored, hLive, (TransferKey.byCallSid.inj hCall).symm⟩) hId
  simp only [Names, removed, entries_remove, reduceCtorEq, false_or, hKept, if_false]

theorem not_names_removed (h : Indexed s) {entry : TransferContext × ℚ} (hStored : entry ∈ s.stored)
    (hLive : s.redis.clock < entry.2) (other : TransferContext × ℚ) :
    ¬Names (removed s entry.1.transferId) entry.1.originalCallSid other := by
  rintro ⟨-, hEntry⟩
  have hNonempty := ((h.remove entry.1.transferId).index _ _ _ hEntry).1
  have hGet : s.redis.getTransferContext entry.1.transferId = some entry.1 :=
    h.getTransferContext.mpr ⟨entry.2, hStored, hLive, rfl⟩
  simp [removed, entries_remove, hGet, hNonempty] at hEntry

theorem agree_removed_iff (h : Indexed s) (hAgree : s.LookupsAgree) :
    (removed s transferId).LookupsAgree ↔ s.Alone (.remove transferId) := by
  have hOthers : ∀ originalCallSid, (∀ entry ∈ s.ofCall originalCallSid, entry.1.transferId ≠ transferId) →
      ∀ last ∈ ((removed s transferId).ofCall originalCallSid).head?,
        Names (removed s transferId) originalCallSid last := by
    intro originalCallSid hOther
    simp only [names_removed h hOther]
    rw [ofCall_removed, List.filter_eq_self.mpr fun entry hEntry => decide_eq_true (hOther entry hEntry)]
    exact h.agree_iff.mp hAgree originalCallSid
  rw [(h.remove transferId).agree_iff]
  constructor
  · rintro hAll entry hStored rfl hLive
    have hMem : entry ∈ s.ofCall entry.1.originalCallSid := mem_ofCall.mpr ⟨hStored, hLive, rfl⟩
    apply (h.ofCall_eq_singleton hMem).mp
    cases hHead : ((removed s entry.1.transferId).ofCall entry.1.originalCallSid).head? with
    | some last => exact absurd (hAll _ last hHead) (not_names_removed h hStored hLive last)
    | none =>
      rw [ofCall_removed, List.head?_eq_none_iff, List.filter_eq_nil_iff] at hHead
      simpa using hHead
  · intro hAlone originalCallSid
    by_cases hOther : ∀ entry ∈ s.ofCall originalCallSid, entry.1.transferId ≠ transferId
    · exact hOthers originalCallSid hOther
    · push Not at hOther
      obtain ⟨entry, hMem, hId⟩ := hOther
      obtain ⟨hStored, hLive, rfl⟩ := mem_ofCall.mp hMem
      have hNone : (removed s transferId).ofCall entry.1.originalCallSid = [] := by
        rw [ofCall_removed, hAlone entry hStored hId hLive, List.filter_cons_of_neg (by simpa using hId)]
        rfl
      rw [hNone]
      exact fun last hLast => nomatch hLast

end Remove

end Steps

/-! ## Histories -/

theorem indexed_empty : Indexed .empty where
  distinct := List.nodup_nil
  contexts _ _ _ := by simp [Transfers.empty]
  index _ _ _ h := nomatch h

theorem agree_empty : Transfers.empty.LookupsAgree := fun _ => rfl

theorem agree_step_iff {s next : Transfers} {event : TransferStep} (h : Indexed s) (hAgree : s.LookupsAgree)
    (hStep : transfers.step s event = some next) :
    (next.LookupsAgree ↔ s.Alone event) ∧ (next.LookupsAgree → Indexed next) := by
  cases event with
  | elapse seconds =>
    simp only [transfers, Transfers.step] at hStep
    split at hStep
    · rename_i hSeconds
      obtain rfl := Option.some.inj hStep
      exact ⟨agree_elapsed_iff h hAgree hSeconds, fun _ => h.elapse seconds⟩
    · cases hStep
  | store context ttl =>
    obtain rfl := Option.some.inj hStep
    by_cases hTtl : 0 < ttl
    · rw [if_pos hTtl]
      exact ⟨agree_stored_iff h hAgree hTtl, fun _ => h.store context hTtl⟩
    · rw [if_neg hTtl, store_refused _ _ hTtl]
      exact ⟨iff_of_true hAgree fun hPositive => absurd hPositive hTtl, fun _ => h⟩
  | remove transferId =>
    obtain rfl := Option.some.inj hStep
    exact ⟨agree_removed_iff h hAgree, fun _ => h.remove transferId⟩

/-- Throughout a history every call finds the context that was stored last for it, if and only if no step leaves a
call with an older one. -/
theorem lookups_agree_iff {events : List TransferStep} {s : Transfers}
    (hRun : transfers.run .empty events = some s) :
    (∀ n mid, transfers.run .empty (events.take n) = some mid → mid.LookupsAgree) ↔
      transfers.Follows Transfers.Alone .empty events :=
  Machine.throughout_iff (fun _ _ _ => agree_step_iff) hRun indexed_empty agree_empty

/-! Two transfers of one call, the second one after the first. -/

def transferTo (transferId targetNumber : String) : TransferContext :=
  ⟨transferId, none, targetNumber, "CA-customer", "conference"⟩

def secondAttempt : List TransferStep :=
  [.store (transferTo "first" "+15550001") 300, .elapse 20, .store (transferTo "second" "+15550002") 300]

def afterFirst : Transfers := stored .empty (transferTo "first" "+15550001") 300

def afterSecond : Transfers := stored (elapsed afterFirst 20) (transferTo "second" "+15550002") 300

theorem run_secondAttempt : transfers.run .empty secondAttempt = some afterSecond := by
  simp [secondAttempt, afterSecond, afterFirst, Machine.run, transfers, Transfers.step, stored, elapsed]

theorem mem_afterFirst {sid : String} {last : TransferContext × ℚ} (h : last ∈ afterFirst.ofCall sid) :
    last = (transferTo "first" "+15550001", 300) := by
  simpa [afterFirst, stored, Transfers.without, Transfers.empty] using (mem_ofCall.mp h).1

theorem secondAttempt_alone : transfers.Follows Transfers.Alone .empty secondAttempt := by
  apply Machine.Follows.cons (rfl : _ = some afterFirst)
  · exact fun _ => ⟨by decide, by decide, fun _ _ last hLast => nomatch hLast⟩
  apply Machine.Follows.cons (rfl : _ = some (elapsed afterFirst 20))
  · intro sid last hLast hExpired
    obtain rfl := mem_afterFirst (List.mem_of_head? hLast)
    exact absurd hExpired (by decide +kernel)
  apply Machine.Follows.cons (rfl : _ = some afterSecond)
  · intro _
    refine ⟨by decide, by decide, fun sid _ last hLast hId => ?_⟩
    rw [ofCall_elapsed (by decide +kernel)] at hLast
    obtain rfl := mem_afterFirst (List.mem_filter.mp (List.mem_of_head? hLast)).1
    exact absurd hId (by decide)
  trivial

theorem second_attempt_found : afterSecond.LookupsAgree ∧
    afterSecond.redis.findTransferContextForCall "CA-customer" = some (transferTo "second" "+15550002") :=
  ⟨(lookups_agree_iff run_secondAttempt).mpr secondAttempt_alone 3 afterSecond run_secondAttempt, by decide +kernel⟩

theorem second_attempt_lost : ∃ s, transfers.run .empty (secondAttempt ++ [.remove "first"]) = some s ∧
    (s.ofCall "CA-customer").map Prod.fst = [transferTo "second" "+15550002"] ∧
    s.redis.findTransferContextForCall "CA-customer" = none ∧ ¬s.LookupsAgree := by
  have hNone : (removed afterSecond "first").redis.findTransferContextForCall "CA-customer" = none := by
    decide +kernel
  have hLeft : ((removed afterSecond "first").ofCall "CA-customer").map Prod.fst =
      [transferTo "second" "+15550002"] := by
    decide +kernel
  refine ⟨removed afterSecond "first", ?_, hLeft, hNone, fun hAgree => ?_⟩
  · simp [secondAttempt, afterSecond, afterFirst, Machine.run, transfers, Transfers.step, stored, elapsed, removed]
  · have hFound := hAgree "CA-customer"
    rw [hNone, ← List.head?_map, hLeft] at hFound
    cases hFound

end FastVoice.Telephony.TransferLookup
