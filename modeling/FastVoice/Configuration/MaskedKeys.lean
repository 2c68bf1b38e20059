import FastVoice.Configuration.Masking
import Mathlib.Data.List.Nodup
import Mathlib.Data.List.Perm.Subperm

/-! # Masked lists of keys

Each mask that comes back takes the first stored key with it that is not given out yet. The masks never outnumber the
stored keys behind them, so that the search does not fail before the last one.
-/
namespace FastVoice.Configuration
open Python Json

def unused (existing : List String) (used : List Nat) : List (String × Nat) :=
  existing.zipIdx.filter fun real => real.2 ∉ used

theorem find?_unused (existing : List String) (used : List Nat) (key : String) :
    (existing.zipIdx.find? fun real => decide (real.2 ∉ used) && isMaskOf key real.1) =
      (unused existing used).find? fun real => isMaskOf key real.1 := by
  rw [unused, List.find?_filter]
  simp only [Bool.decide_and, Bool.decide_eq_true]

theorem nodup_unused (existing : List String) (used : List Nat) :
    ((unused existing used).map Prod.snd).Nodup := by
  have hAll : (existing.zipIdx.map Prod.snd).Nodup := by
    rw [List.zipIdx_map_snd]
    exact List.nodup_range'
  exact hAll.sublist (List.filter_sublist.map _)

theorem unused_perm {existing : List String} {used : List Nat} {real : String × Nat}
    (hReal : real ∈ unused existing used) :
    (unused existing used).Perm (real :: unused existing (real.2 :: used)) := by
  have hNodup := List.Nodup.of_map _ (nodup_unused existing used)
  have hErase : (unused existing used).erase real = unused existing (real.2 :: used) := by
    rw [hNodup.erase_eq_filter, unused, List.filter_filter, unused]
    refine List.filter_congr fun other hOther => ?_
    rw [Bool.eq_iff_iff]
    simp only [bne_iff_ne, Bool.and_eq_true, decide_eq_true_eq, List.mem_cons, not_or]
    refine and_congr_left fun hFree => not_congr ⟨fun hSame => congrArg Prod.snd hSame, fun hSame => ?_⟩
    exact List.inj_on_of_nodup_map (nodup_unused existing used)
      (List.mem_filter.mpr ⟨hOther, decide_eq_true hFree⟩) hReal hSame
  rw [← hErase]
  exact List.perm_cons_erase hReal

theorem getElem?_of_mem_unused {existing : List String} {used : List Nat} {real : String × Nat}
    (hReal : real ∈ unused existing used) : existing[real.2]? = some real.1 ∧ real.2 ∉ used := by
  obtain ⟨hMem, hFree⟩ := List.mem_filter.mp hReal
  exact ⟨List.mk_mem_zipIdx_iff_getElem?.mp hMem, of_decide_eq_true hFree⟩

/-- The incoming list has masks of stored keys, each as often as there are keys with it at most, and new keys that are
no such masks, in any order. -/
def Edits (existing incoming : List String) : Prop :=
  ∃ kept new, kept.Subperm (existing.map maskKey) ∧ (∀ key ∈ new, key ∉ existing.map maskKey) ∧
    incoming.Perm (kept ++ new)

/-- A new key stays, and a mask is replaced by the stored key of a position. -/
inductive Fills (existing : List String) : String → Option Nat × String → Prop where
  | new {key : String} (h : key ∉ existing.map maskKey) : Fills existing key (none, key)
  | stored {key real : String} {position : Nat} (hReal : existing[position]? = some real)
      (hMask : maskKey real = key) : Fills existing key (some position, real)

def Enough (existing : List String) (used : List Nat) (incoming : List String) : Prop :=
  ∀ mask ∈ existing.map maskKey,
    incoming.count mask ≤ ((unused existing used).map fun real => maskKey real.1).count mask

theorem map_unused_nil (existing : List String) :
    (unused existing []).map (fun real => maskKey real.1) = existing.map maskKey := by
  have hAll : unused existing [] = existing.zipIdx := List.filter_eq_self.mpr fun _ _ => by simp
  rw [hAll]
  have hFirst := congrArg (List.map maskKey) (List.zipIdx_map_fst 0 existing)
  rwa [List.map_map] at hFirst

theorem enough_of_edits {existing incoming : List String} (h : Edits existing incoming) :
    Enough existing [] incoming := by
  obtain ⟨kept, new, hKept, hNew, hPerm⟩ := h
  intro mask hMask
  have hNone : new.count mask = 0 := List.count_eq_zero.mpr fun hMem => hNew mask hMem hMask
  rw [map_unused_nil, hPerm.count_eq, List.count_append, hNone, Nat.add_zero]
  exact hKept.count_le mask

theorem Enough.found {existing : List String} {used : List Nat} {key : String} {incoming : List String}
    (h : Enough existing used (key :: incoming)) (hMask : key ∈ existing.map maskKey) :
    ∃ real ∈ unused existing used, maskKey real.1 = key ∧
      (existing.zipIdx.find? fun real => decide (real.2 ∉ used) && isMaskOf key real.1) = some real ∧
      Enough existing (real.2 :: used) incoming := by
  have hPositive : 0 < ((unused existing used).map fun real => maskKey real.1).count key :=
    Nat.lt_of_lt_of_le (by rw [List.count_cons_self]; exact Nat.succ_pos _) (h key hMask)
  obtain ⟨other, hOther, hSame⟩ := List.mem_map.mp (List.count_pos_iff.mp hPositive)
  obtain ⟨real, hFound⟩ := Option.isSome_iff_exists.mp
    (List.find?_isSome.mpr ⟨other, hOther, decide_eq_true hSame⟩ :
      ((unused existing used).find? fun real => isMaskOf key real.1).isSome = true)
  have hReal := List.mem_of_find?_eq_some hFound
  have hKey : maskKey real.1 = key := by simpa [isMaskOf] using List.find?_some hFound
  refine ⟨real, hReal, hKey, (find?_unused existing used key).trans hFound, fun mask hStored => ?_⟩
  have hHere := h mask hStored
  rw [((unused_perm hReal).map fun real => maskKey real.1).count_eq, List.map_cons, hKey, List.count_cons,
    List.count_cons] at hHere
  omega

theorem not_found {existing : List String} {used : List Nat} {key : String} (hNew : key ∉ existing.map maskKey) :
    (existing.zipIdx.find? fun real => decide (real.2 ∉ used) && isMaskOf key real.1) = none := by
  rw [List.find?_eq_none]
  rintro ⟨real, position⟩ hReal hMask
  rw [Bool.and_eq_true, isMaskOf, decide_eq_true_eq, decide_eq_true_eq] at hMask
  have hMem : real ∈ existing := List.mem_of_getElem? (List.mk_mem_zipIdx_iff_getElem?.mp hReal)
  exact hNew (List.mem_map.mpr ⟨real, hMem, hMask.2⟩)

theorem resolveKeys_fills {existing : List String} {incoming : List String} : ∀ {used : List Nat},
    Enough existing used incoming → ∃ entries : List (Option Nat × String),
      resolveKeys existing used incoming = entries.map Prod.snd ∧
      List.Forall₂ (Fills existing) incoming entries ∧
      (entries.filterMap Prod.fst).Nodup ∧ ∀ position ∈ entries.filterMap Prod.fst, position ∉ used := by
  induction incoming with
  | nil => exact fun _ => ⟨[], rfl, .nil, List.nodup_nil, fun _ h => absurd h List.not_mem_nil⟩
  | cons key incoming ih =>
    intro used hEnough
    by_cases hMask : key ∈ existing.map maskKey
    · obtain ⟨real, hReal, hKey, hFound, hRest⟩ := hEnough.found hMask
      obtain ⟨hStored, hFree⟩ := getElem?_of_mem_unused hReal
      obtain ⟨entries, hResult, hFills, hNodup, hUnused⟩ := ih hRest
      refine ⟨(some real.2, real.1) :: entries, ?_, .cons (.stored hStored hKey) hFills, ?_, ?_⟩
      · rw [resolveKeys, hFound]
        exact congrArg (real.1 :: ·) hResult
      · refine List.nodup_cons.mpr ?_
        exact ⟨fun hMem => hUnused _ hMem List.mem_cons_self, hNodup⟩
      · exact List.forall_mem_cons.mpr ⟨hFree,
          fun position hMem hUsed => hUnused position hMem (List.mem_cons_of_mem _ hUsed)⟩
    · have hRest : Enough existing used incoming := fun mask hStored =>
        Nat.le_trans (List.sublist_cons_self key incoming |>.count_le mask) (hEnough mask hStored)
      obtain ⟨entries, hResult, hFills, hNodup, hUnused⟩ := ih hRest
      refine ⟨(none, key) :: entries, ?_, .cons (.new hMask) hFills, ?_, ?_⟩
      · rw [resolveKeys, not_found hMask]
        exact congrArg (key :: ·) hResult
      · exact hNodup
      · exact hUnused

theorem resolveKeys_perm {existing : List String} {incoming : List String} : ∀ {used : List Nat},
    incoming.Perm ((unused existing used).map fun real => maskKey real.1) →
      (resolveKeys existing used incoming).Perm ((unused existing used).map Prod.fst) := by
  induction incoming with
  | nil =>
    intro used hPerm
    rw [List.map_eq_nil_iff.mp (List.nil_perm.mp hPerm)]
    exact .nil
  | cons key incoming ih =>
    intro used hPerm
    have hEnough : Enough existing used (key :: incoming) := fun mask _ => Nat.le_of_eq (hPerm.count_eq mask)
    have hMask : key ∈ existing.map maskKey := by
      obtain ⟨real, hReal, hKey⟩ := List.mem_map.mp (hPerm.subset List.mem_cons_self)
      exact List.mem_map.mpr ⟨real.1, List.mem_of_getElem? (getElem?_of_mem_unused hReal).1, hKey⟩
    obtain ⟨real, hReal, hKey, hFound, -⟩ := hEnough.found hMask
    have hSplit := unused_perm hReal
    have hRest : incoming.Perm ((unused existing (real.2 :: used)).map fun real => maskKey real.1) := by
      have hCons := hPerm.trans (hSplit.map fun real => maskKey real.1)
      rw [List.map_cons, hKey] at hCons
      exact hCons.cons_inv
    rw [resolveKeys, hFound]
    exact ((ih hRest).cons real.1).trans (hSplit.map Prod.fst).symm

def texts (keys : List String) : Json := .arr (keys.map .str)

theorem resolveMaskedApiKeys_texts (incoming existing : List String) :
    resolveMaskedApiKeys (texts incoming) (texts existing) = texts (resolveKeys existing [] incoming) := by
  have hKeys (keys : List String) : keyList (texts keys) = keys := by
    simp [texts, keyList, text?, List.filterMap_map, Function.comp_def]
  change Json.arr ((resolveKeys (keyList (texts existing)) [] (keyList (texts incoming))).map .str) = _
  rw [hKeys, hKeys]
  rfl

/-- New keys stay in their places, and each mask is replaced by a stored key with it, no position of which serves twice.
The masks of all keys give back the keys, in the order in which they come. -/
theorem resolveMaskedApiKeys_fills {existing incoming : List String} (hEdits : Edits existing incoming) :
    (∃ entries : List (Option Nat × String),
      resolveMaskedApiKeys (texts incoming) (texts existing) = texts (entries.map Prod.snd) ∧
      List.Forall₂ (Fills existing) incoming entries ∧ (entries.filterMap Prod.fst).Nodup) ∧
    (incoming = existing.map maskKey → resolveMaskedApiKeys (texts incoming) (texts existing) = texts existing) ∧
    (incoming.Perm (existing.map maskKey) → ∃ keys : List String,
      resolveMaskedApiKeys (texts incoming) (texts existing) = texts keys ∧ keys.Perm existing) := by
  rw [resolveMaskedApiKeys_texts]
  refine ⟨?_, ?_, fun hPerm => ⟨_, rfl, ?_⟩⟩
  · obtain ⟨entries, hResult, hFills, hNodup, -⟩ := resolveKeys_fills (enough_of_edits hEdits)
    exact ⟨entries, congrArg texts hResult, hFills, hNodup⟩
  · rintro rfl
    exact congrArg texts (resolveKeys_masks [] existing [] (by simp))
  · rw [← map_unused_nil] at hPerm
    have hAll : (unused existing []).map Prod.fst = existing := by
      rw [show unused existing [] = existing.zipIdx from List.filter_eq_self.mpr fun _ _ => by simp]
      exact List.zipIdx_map_fst 0 existing
    exact (resolveKeys_perm hPerm).trans (.of_eq hAll)

theorem resolve_shared_mask :
    (∃ entries : List (Option Nat × String),
      resolveMaskedApiKeys (texts ["new", "****3456"]) (texts ["aaaa3456", "bbbb3456"]) =
        texts (entries.map Prod.snd) ∧
      List.Forall₂ (Fills ["aaaa3456", "bbbb3456"]) ["new", "****3456"] entries ∧
      (entries.filterMap Prod.fst).Nodup) :=
  (resolveMaskedApiKeys_fills ⟨["****3456"], ["new"], (by decide : ["****3456"].Sublist _).subperm, by decide,
    .swap _ _ _⟩).1

end FastVoice.Configuration
