import FastVoice.CallConcurrency.RateLimiter
import FastVoice.Redis.SlidingWindow

/-! # The one-second window of the rate limiter

The token script records a grant under its own clock reading. As long as no grant meets a set that
already holds its reading, the set counts the grants of the last second and the limit is strict. A
grant at a recorded reading is not counted, and can then be repeated without end.
-/
namespace FastVoice.CallConcurrency
open Async Redis

structure RateLimit where
  organizationId : Nat
  rateLimit : Nat
  scopeKey : Option String

def RateLimit.key (L : RateLimit) : RateLimitKey := rateLimitKey L.organizationId L.scopeKey

/-- The keys of the limiter and the readings of the calls that returned `True`, latest first. -/
structure TokenLog where
  keys : Keyspace
  granted : List ℚ

def acquireTokenAt (L : RateLimit) (log : TokenLog) (now : UnixTime) : TokenLog :=
  let after := (acquireToken L.organizationId L.rateLimit L.scopeKey).eval execute
    (log.keys.advance now)
  ⟨after.2, if after.1 = .ok true then now.val :: log.granted else log.granted⟩

def acquireTokens (L : RateLimit) (log : TokenLog) (readings : List UnixTime) : TokenLog :=
  readings.foldl (acquireTokenAt L) log

namespace TokenLog

def grantedWithin (log : TokenLog) (t : ℚ) : Nat :=
  (log.granted.filter fun r => t - 1 < r ∧ r ≤ t).length

def StrictLimit (log : TokenLog) (rateLimit : Nat) : Prop := ∀ t, log.grantedWithin t ≤ rateLimit

def window (log : TokenLog) (L : RateLimit) (now : UnixTime) : SortedSet ℚ ℚ :=
  ((log.keys.tokens L.key).purge now.val).value.zremrangebyscore 0 (now.val - 1)

/-- The call finds room, but an earlier grant of the same reading already in the set. -/
def Overwrites (log : TokenLog) (L : RateLimit) (now : UnixTime) : Prop :=
  (log.window L now).Member now.val ∧ (log.window L now).zcard < L.rateLimit

def NeverOverwrites (L : RateLimit) : TokenLog → List UnixTime → Prop
  | _, [] => True
  | log, now :: readings => ¬log.Overwrites L now ∧
    NeverOverwrites L (acquireTokenAt L log now) readings

instance (log : TokenLog) (L : RateLimit) (now : UnixTime) : Decidable (log.Overwrites L now) :=
  inferInstanceAs (Decidable (_ ∧ _))

def decidableNeverOverwrites (L : RateLimit) :
    (log : TokenLog) → (readings : List UnixTime) → Decidable (NeverOverwrites L log readings)
  | _, [] => isTrue trivial
  | log, now :: readings =>
    have := decidableNeverOverwrites L (acquireTokenAt L log now) readings
    inferInstanceAs (Decidable (_ ∧ _))

instance (L : RateLimit) (log : TokenLog) (readings : List UnixTime) :
    Decidable (NeverOverwrites L log readings) := decidableNeverOverwrites L log readings

end TokenLog

section Call

variable {L : RateLimit} {log : TokenLog} {now : UnixTime}

theorem acquireTokenScript_granted {rateLimit : Nat} {now : ℚ} (tokens : Tokens)
    (h : (tokens.value.zremrangebyscore 0 (now - 1)).zcard < rateLimit) :
    acquireTokenScript rateLimit now tokens =
      (true, ((tokens.put (tokens.value.zremrangebyscore 0 (now - 1))).put
        ((tokens.value.zremrangebyscore 0 (now - 1)).zadd now now)).expire (now + 2)) := by
  simp only [acquireTokenScript, Volatile.value_put, if_pos h]

theorem acquireTokenScript_denied {rateLimit : Nat} {now : ℚ} (tokens : Tokens)
    (h : rateLimit ≤ (tokens.value.zremrangebyscore 0 (now - 1)).zcard) :
    acquireTokenScript rateLimit now tokens =
      (false, tokens.put (tokens.value.zremrangebyscore 0 (now - 1))) := by
  simp only [acquireTokenScript, Volatile.value_put, if_neg (not_lt.mpr h)]

theorem acquireTokenAt_eq (L : RateLimit) (log : TokenLog) (now : UnixTime) :
    let script := acquireTokenScript L.rateLimit now ((log.keys.advance now).tokens L.key)
    (acquireTokenAt L log now).granted =
      (if script.1 = true then now.val :: log.granted else log.granted) ∧
    (acquireTokenAt L log now).keys.tokens L.key = script.2 := by
  refine ⟨?_, Function.update_self ..⟩
  simp only [acquireTokenAt, acquireToken, orElse, call, Program.call, Program.tryCatch_await,
    Program.proceed_ok, Program.tryCatch_ret, Program.eval, execute, Except.ok.injEq]
  rfl

theorem acquireTokenAt_granted (h : (log.window L now).zcard < L.rateLimit) :
    (acquireTokenAt L log now).granted = now.val :: log.granted ∧
    (acquireTokenAt L log now).keys.tokens L.key =
      ((((log.keys.tokens L.key).purge now.val).put (log.window L now)).put
        ((log.window L now).zadd now.val now.val)).expire (now.val + 2) := by
  have hScript := acquireTokenScript_granted ((log.keys.advance now).tokens L.key) h
  have hCall := acquireTokenAt_eq L log now
  simp only [hScript, if_true] at hCall
  exact hCall

theorem acquireTokenAt_denied (h : L.rateLimit ≤ (log.window L now).zcard) :
    (acquireTokenAt L log now).granted = log.granted ∧ (acquireTokenAt L log now).keys.tokens L.key =
      ((log.keys.tokens L.key).purge now.val).put (log.window L now) := by
  have hScript := acquireTokenScript_denied ((log.keys.advance now).tokens L.key) h
  have hCall := acquireTokenAt_eq L log now
  simp only [hScript, Bool.false_eq_true, if_false] at hCall
  exact hCall

end Call

structure Windowed (L : RateLimit) (log : TokenLog) (latest : ℚ) : Prop where
  tracks : TracksFor 2 (log.keys.tokens L.key) log.granted (latest - 1)
  readings : ∀ r ∈ log.granted, 0 < r ∧ r ≤ latest
  distinct : (log.granted.filter (latest - 1 < ·)).Nodup
  limit : log.StrictLimit L.rateLimit

namespace Windowed

variable {L : RateLimit} {log : TokenLog} {latest : ℚ} {now : UnixTime}

theorem window_tracks (h : Windowed L log latest) (hNow : latest ≤ now.val) :
    TracksFor 2 (((log.keys.tokens L.key).purge now.val).put (log.window L now)) log.granted
      (now.val - 1) := by
  have hPurged := h.tracks.purge (sub_le_sub_right hNow 1) (sub_le_sub_left one_le_two now.val)
  exact hPurged.trim le_rfl

theorem window_members (h : Windowed L log latest) (hNow : latest ≤ now.val) :
    (log.window L now).entries.image Prod.fst = (log.granted.filter (now.val - 1 < ·)).toFinset := by
  have hPurged := h.tracks.purge (sub_le_sub_right hNow 1) (sub_le_sub_left one_le_two now.val)
  exact (hPurged.toTracks.trim le_rfl).members
    (hPurged.toTracks.inside_trim fun r hr => (h.readings r hr).1.le)

theorem distinct_now (h : Windowed L log latest) (hNow : latest ≤ now.val) :
    (log.granted.filter (now.val - 1 < ·)).Nodup := by
  refine h.distinct.sublist (List.monotone_filter_right _ fun r hr => ?_)
  simp only [decide_eq_true_eq] at hr ⊢
  exact (sub_le_sub_right hNow 1).trans_lt hr

theorem window_zcard (h : Windowed L log latest) (hNow : latest ≤ now.val) :
    (log.window L now).zcard = (log.granted.filter (now.val - 1 < ·)).length := by
  rw [SortedSet.zcard_eq_members, h.window_members hNow,
    List.toFinset_card_of_nodup (h.distinct_now hNow)]

theorem grant (h : Windowed L log latest) (hNow : latest ≤ now.val)
    (hRoom : (log.window L now).zcard < L.rateLimit) (hNew : ¬(log.window L now).Member now.val) :
    Windowed L (acquireTokenAt L log now) now.val := by
  obtain ⟨hGranted, hKey⟩ := acquireTokenAt_granted hRoom
  have hNotLogged : now.val ∉ log.granted.filter (now.val - 1 < ·) := by
    rw [SortedSet.Member, h.window_members hNow, List.mem_toFinset] at hNew
    exact hNew
  have hFilter : (now.val :: log.granted).filter (now.val - 1 < ·) =
      now.val :: log.granted.filter (now.val - 1 < ·) :=
    List.filter_cons_of_pos (decide_eq_true (sub_lt_self _ one_pos))
  refine ⟨?_, ?_, ?_, ?_⟩
  · rw [hGranted, hKey]
    have hTracks := h.window_tracks hNow
    have hLogged : ∀ r ∈ log.granted, r ≤ now.val := fun r hr => (h.readings r hr).2.trans hNow
    have hStamp := hTracks.stamp hLogged
    rwa [Volatile.value_put] at hStamp
  · rw [hGranted]
    intro r hr
    rcases List.mem_cons.mp hr with rfl | hr
    · exact ⟨now.property, le_rfl⟩
    · exact ⟨(h.readings r hr).1, (h.readings r hr).2.trans hNow⟩
  · rw [hGranted, hFilter]
    exact List.nodup_cons.mpr ⟨hNotLogged, h.distinct_now hNow⟩
  · intro t
    rw [TokenLog.grantedWithin, hGranted]
    by_cases ht : t - 1 < now.val ∧ now.val ≤ t
    · have hCons : (now.val :: log.granted).filter (fun r => decide (t - 1 < r ∧ r ≤ t)) =
          now.val :: log.granted.filter fun r => decide (t - 1 < r ∧ r ≤ t) :=
        List.filter_cons_of_pos (decide_eq_true ht)
      rw [hCons, List.length_cons]
      -- all grants of the window around `t` lie in the second before `now`
      have hSub : (log.granted.filter fun r => t - 1 < r ∧ r ≤ t).length ≤
          (log.granted.filter (now.val - 1 < ·)).length := by
        refine (List.monotone_filter_right _ fun r hr => ?_).length_le
        simp only [decide_eq_true_eq] at hr ⊢
        exact (sub_le_sub_right ht.2 1).trans_lt hr.1
      rw [← h.window_zcard hNow] at hSub
      exact (Nat.succ_le_succ hSub).trans hRoom
    · rw [List.filter_cons_of_neg (by simpa using ht)]
      exact h.limit t

theorem deny (h : Windowed L log latest) (hNow : latest ≤ now.val)
    (hFull : L.rateLimit ≤ (log.window L now).zcard) : Windowed L (acquireTokenAt L log now) now.val := by
  obtain ⟨hGranted, hKey⟩ := acquireTokenAt_denied hFull
  refine ⟨?_, ?_, ?_, ?_⟩
  · rw [hGranted, hKey]
    exact h.window_tracks hNow
  · rw [hGranted]
    exact fun r hr => ⟨(h.readings r hr).1, (h.readings r hr).2.trans hNow⟩
  · rw [hGranted]
    exact h.distinct_now hNow
  · intro t
    rw [TokenLog.grantedWithin, hGranted]
    exact h.limit t

theorem call (h : Windowed L log latest) (hNow : latest ≤ now.val) (hOver : ¬log.Overwrites L now) :
    Windowed L (acquireTokenAt L log now) now.val := by
  by_cases hRoom : (log.window L now).zcard < L.rateLimit
  · exact h.grant hNow hRoom fun hMember => hOver ⟨hMember, hRoom⟩
  · exact h.deny hNow (not_lt.mp hRoom)

theorem calls {readings : List UnixTime} (h : Windowed L log latest)
    (hLater : ∀ r ∈ readings, latest ≤ r.val) (hClock : readings.Pairwise (· ≤ ·))
    (hOver : TokenLog.NeverOverwrites L log readings) :
    (acquireTokens L log readings).StrictLimit L.rateLimit := by
  induction readings generalizing log latest with
  | nil => exact h.limit
  | cons now readings ih =>
    obtain ⟨hNext, hClock⟩ := List.pairwise_cons.mp hClock
    exact ih (h.call (hLater now List.mem_cons_self) hOver.1) (fun r hr => hNext r hr) hClock hOver.2

end Windowed

theorem overwrites_again {L : RateLimit} {log : TokenLog} {now : UnixTime} (h : log.Overwrites L now) :
    (acquireTokenAt L log now).granted = now.val :: log.granted ∧
      (acquireTokenAt L log now).Overwrites L now := by
  obtain ⟨hMember, hRoom⟩ := h
  obtain ⟨hGranted, hKey⟩ := acquireTokenAt_granted hRoom
  refine ⟨hGranted, ?_⟩
  have hNonempty : (log.window L now).zadd now.val now.val ≠ default := by
    intro hEmpty
    have hMem : (now.val, now.val) ∈ ((log.window L now).zadd now.val now.val).entries :=
      SortedSet.mem_zadd.mpr (.inl rfl)
    rw [hEmpty] at hMem
    exact absurd hMem (Finset.notMem_empty _)
  -- the refreshed key survives until the next call, whose prune finds nothing to remove
  have hWindow : (acquireTokenAt L log now).window L now =
      (log.window L now).zadd now.val now.val := by
    have hAlive : ∀ deadline ∈ ((acquireTokenAt L log now).keys.tokens L.key).deadline,
        ¬deadline < now.val := by
      rw [hKey, Volatile.deadline_expire _ _ (by rwa [Volatile.value_put])]
      rintro deadline ⟨⟩
      exact not_lt.mpr (le_add_of_nonneg_right zero_le_two)
    rw [TokenLog.window, Volatile.purge_of_alive hAlive, hKey, Volatile.value_expire,
      Volatile.value_put]
    ext e
    simp only [SortedSet.mem_zremrangebyscore, SortedSet.mem_zadd, and_iff_left_iff_imp]
    rintro (rfl | ⟨he, -⟩) hRange
    · exact absurd hRange.2 (not_le.mpr (sub_lt_self _ one_pos))
    · exact (SortedSet.mem_zremrangebyscore.mp he).2 hRange
  rw [TokenLog.Overwrites, hWindow]
  exact ⟨SortedSet.member_zadd.mpr (.inl rfl),
    (SortedSet.zcard_zadd_of_member hMember).trans_lt hRoom⟩

theorem overwrites_replicate {L : RateLimit} {log : TokenLog} {now : UnixTime}
    (h : log.Overwrites L now) (k : Nat) : (acquireTokens L log (List.replicate k now)).granted =
      List.replicate k now.val ++ log.granted := by
  induction k generalizing log with
  | zero => rfl
  | succ k ih =>
    obtain ⟨hGranted, hAgain⟩ := overwrites_again h
    have hRest := ih hAgain
    rw [hGranted] at hRest
    calc (acquireTokens L log (List.replicate (k + 1) now)).granted
        = List.replicate k now.val ++ now.val :: log.granted := hRest
      _ = List.replicate (k + 1) now.val ++ log.granted := by
        rw [List.replicate_succ', List.append_assoc, List.singleton_append]

theorem exists_overwrites {L : RateLimit} {log : TokenLog} {readings : List UnixTime}
    (h : ¬TokenLog.NeverOverwrites L log readings) : ∃ before now after, readings = before ++ now :: after ∧
      (acquireTokens L log before).Overwrites L now := by
  induction readings generalizing log with
  | nil => exact absurd trivial h
  | cons now readings ih =>
    by_cases hNow : log.Overwrites L now
    · exact ⟨[], now, readings, rfl, hNow⟩
    · obtain ⟨before, later, after, rfl, hLater⟩ := ih fun hRest => h ⟨hNow, hRest⟩
      exact ⟨now :: before, later, after, rfl, hLater⟩

/-- Along every non-decreasing clock the limit is strict as long as no call overwrites an earlier
grant, and a call that does can be repeated at its reading until the limit is broken. -/
theorem acquireToken_strict (L : RateLimit) (keys : Keyspace) (hAbsent : keys.tokens L.key = default)
    (readings : List UnixTime) (hClock : readings.Pairwise (· ≤ ·)) :
    (TokenLog.NeverOverwrites L ⟨keys, []⟩ readings →
      (acquireTokens L ⟨keys, []⟩ readings).StrictLimit L.rateLimit) ∧
    (¬TokenLog.NeverOverwrites L ⟨keys, []⟩ readings →
      ∃ before now after, readings = before ++ now :: after ∧
        ∃ k, ¬(acquireTokens L ⟨keys, []⟩ (before ++ List.replicate k now)).StrictLimit
          L.rateLimit) := by
  constructor
  · have hStart : Windowed L ⟨keys, []⟩ 0 :=
      ⟨hAbsent ▸ TracksFor.empty 2 (0 - 1), by simp, by simp, fun _ => Nat.zero_le _⟩
    exact hStart.calls (fun r _ => r.property.le) hClock
  · intro hOver
    obtain ⟨before, now, after, rfl, hNow⟩ := exists_overwrites hOver
    refine ⟨before, now, after, rfl, L.rateLimit + 1, fun hStrict => ?_⟩
    have hGranted := overwrites_replicate hNow (L.rateLimit + 1)
    rw [acquireTokens, acquireTokens, ← List.foldl_append, ← acquireTokens] at hGranted
    have hCounted : (List.replicate (L.rateLimit + 1) now.val).filter
        (fun r => decide (now.val - 1 < r ∧ r ≤ now.val)) =
          List.replicate (L.rateLimit + 1) now.val :=
      List.filter_replicate_of_pos (decide_eq_true ⟨sub_lt_self _ one_pos, le_rfl⟩)
    have hCount := hStrict now.val
    rw [TokenLog.grantedWithin, hGranted, List.filter_append, List.length_append, hCounted,
      List.length_replicate] at hCount
    omega

theorem acquireToken_strict_apart :
    (acquireTokens ⟨7, 2, none⟩ ⟨.fresh ⟨1, by decide⟩, []⟩
      [⟨2, by decide⟩, ⟨5 / 2, by decide +kernel⟩]).StrictLimit 2 :=
  (acquireToken_strict ⟨7, 2, none⟩ (.fresh ⟨1, by decide⟩) rfl
    [⟨2, by decide⟩, ⟨5 / 2, by decide +kernel⟩] (by decide +kernel)).1 (by decide +kernel)

/-- Three calls at one reading under a limit of two are all granted. -/
theorem acquireToken_not_strict :
    ¬∀ (L : RateLimit) (keys : Keyspace) (readings : List UnixTime), keys.tokens L.key = default →
      1 ≤ L.rateLimit → readings.Pairwise (· ≤ ·) →
      (acquireTokens L ⟨keys, []⟩ readings).StrictLimit L.rateLimit := by
  intro h
  have hStrict := h ⟨7, 2, none⟩ (.fresh ⟨1, by decide⟩)
    [⟨2, by decide⟩, ⟨2, by decide⟩, ⟨2, by decide⟩] rfl (by decide) (by decide +kernel) 2
  exact absurd hStrict (by decide +kernel)

end FastVoice.CallConcurrency
