import Stagewise.Proofs.Metrics.SessionQueue

/-! The metrics store is a bounded queue of sessions. Every call changes its two parts one after the
other, but to the same sessions, so whatever calls are made, in whatever order, all that can be seen
of the store is what the queue shows. -/

namespace Stagewise

namespace MetricsStore

/-- Within the limit there is room, or exactly the oldest one has to go. -/
theorem makeRoom_of_lt {limit : Nat} {order : List String} (h : order.length < limit)
    (sessions : Record (List MetricsRecord)) : makeRoom limit order sessions = (order, sessions) := by
  cases order with
  | nil => rfl
  | cons oldest rest => rw [makeRoom, if_neg (Nat.not_le.mpr h)]

theorem makeRoom_of_eq {limit : Nat} {oldest : String} {rest : List String}
    (h : (oldest :: rest).length = limit) (sessions : Record (List MetricsRecord)) :
    makeRoom limit (oldest :: rest) sessions = (rest, sessions.erase oldest) := by
  have hrest : rest.length < limit := by
    rw [← h]
    exact Nat.lt_succ_self rest.length
  rw [makeRoom, if_pos (Nat.le_of_eq h.symm), makeRoom_of_lt hrest]

theorem push_of_lt {limit : Nat} {rs : List MetricsRecord} (h : rs.length < limit)
    (r : MetricsRecord) : push limit rs r = rs ++ [r] := by
  rw [push, if_neg (Nat.not_le.mpr h)]

theorem push_of_eq {limit : Nat} {oldest : MetricsRecord} {rs : List MetricsRecord}
    (h : (oldest :: rs).length = limit) (r : MetricsRecord) :
    push limit (oldest :: rs) r = rs ++ [r] := by
  rw [push, if_pos (Nat.le_of_eq h.symm)]
  rfl

theorem push_ne_nil (limit : Nat) (rs : List MetricsRecord) (r : MetricsRecord) :
    push limit rs r ≠ [] := by
  simp [push]

theorem length_push_le {limit : Nat} {rs : List MetricsRecord} (hlimit : 1 ≤ limit)
    (h : rs.length ≤ limit) (r : MetricsRecord) : (push limit rs r).length ≤ limit := by
  unfold push
  split
  · simp only [List.length_append, List.length_drop, List.length_singleton]
    omega
  · simp only [List.length_append, List.length_singleton]
    omega

theorem record_of_present {store : MetricsStore} {id : String} {rs : List MetricsRecord}
    (h : store.sessions.get? id = some rs) (r : MetricsRecord) :
    store.record id r =
      { store with sessions := store.sessions.put id (push store.maxEntries rs r) } := by
  rw [record, h]

theorem record_of_absent {store : MetricsStore} {id : String}
    (h : store.sessions.get? id = none) (r : MetricsRecord) {order : List String}
    {sessions : Record (List MetricsRecord)}
    (hroom : makeRoom store.maxSessions store.order store.sessions = (order, sessions)) :
    store.record id r =
      { store with
        order := order ++ [id]
        sessions := sessions.put id (push store.maxEntries [] r) } := by
  rw [record, h, hroom]

namespace Holds

variable {store : MetricsStore} {q : SessionQueue}

theorem get?_of_mem (h : store.Holds q) {id : String} {rs : List MetricsRecord}
    (hmem : (id, rs) ∈ q) : store.sessions.get? id = some rs := by
  rw [h.lookup, h.distinct.get?_of_mem hmem]

theorem get?_of_absent (h : store.Holds q) {id : String} (habsent : id ∉ q.map Prod.fst) :
    store.sessions.get? id = none := by
  rw [h.lookup, Record.get?_eq_none_iff.mpr habsent]

theorem record_present {before after : SessionQueue} {id : String} {rs : List MetricsRecord}
    (h : store.Holds (before ++ (id, rs) :: after)) (r : MetricsRecord) :
    (store.record id r).Holds (before ++ (id, push store.maxEntries rs r) :: after) := by
  have hmem : (id, rs) ∈ before ++ (id, rs) :: after := by simp
  have hbefore := h.distinct.notMem_of_append.1
  have hnames : (before ++ (id, push store.maxEntries rs r) :: after).map Prod.fst =
      (before ++ (id, rs) :: after).map Prod.fst := by simp
  have hold {p : String × List MetricsRecord → Prop} (hall : ∀ s ∈ before ++ (id, rs) :: after, p s)
      (hnew : p (id, push store.maxEntries rs r)) :
      ∀ s ∈ before ++ (id, push store.maxEntries rs r) :: after, p s := by
    intro s hs
    rcases List.mem_append.mp hs with hs | hs
    · exact hall s (List.mem_append_left _ hs)
    · rcases List.mem_cons.mp hs with rfl | hs
      · exact hnew
      · exact hall s (List.mem_append_right _ (.tail _ hs))
  rw [record_of_present (h.get?_of_mem hmem)]
  exact {
    limits := h.limits
    order := h.order.trans hnames.symm
    distinct := by
      rw [Record.Distinct, hnames]
      exact h.distinct
    names := h.names.put id _
    lookup := by
      intro other
      by_cases hother : other = id
      · subst hother
        rw [Record.get?_put_self, Record.get?_append, Record.get?_eq_none_iff.mpr hbefore]
        simp [Record.get?]
      · rw [Record.get?_put_of_ne _ _ hother, h.lookup, Record.get?_append, Record.get?_append]
        simp [Record.get?, hother]
    nonempty := hold h.nonempty (push_ne_nil _ _ _)
    entries := hold h.entries (length_push_le h.limits.2 (h.entries _ hmem) r)
    sessions := by simpa using h.sessions }

/-- A new session joins a queue that has room for it. -/
theorem join {store' : MetricsStore} (h : store.Holds q) (hroom : q.length < store.maxSessions)
    {id : String} (habsent : id ∉ q.map Prod.fst) (r : MetricsRecord)
    (hnext : store' = { store with
      order := store.order ++ [id]
      sessions := store.sessions.put id (push store.maxEntries [] r) }) :
    store'.Holds (q ++ [(id, [r])]) := by
  have hpush : push store.maxEntries [] r = [r] := push_of_lt h.limits.2 r
  have hnames : (q ++ [(id, [r])]).map Prod.fst = q.map Prod.fst ++ [id] := by simp
  subst hnext
  exact {
    limits := h.limits
    order := by rw [hnames, h.order]
    distinct := by
      rw [Record.Distinct, hnames]
      exact List.nodup_append.mpr ⟨h.distinct, by simp, by
        rintro a ha b hb rfl
        exact habsent (List.mem_singleton.mp hb ▸ ha)⟩
    names := h.names.put id _
    lookup := by
      intro other
      by_cases hother : other = id
      · subst hother
        rw [Record.get?_put_self, Record.get?_append, Record.get?_eq_none_iff.mpr habsent, hpush]
        simp [Record.get?]
      · rw [Record.get?_put_of_ne _ _ hother, h.lookup, Record.get?_append]
        simp [Record.get?, hother]
    nonempty := by
      intro s hs
      rcases List.mem_append.mp hs with hs | hs
      · exact h.nonempty s hs
      · rw [List.mem_singleton.mp hs]
        exact List.cons_ne_nil r []
    entries := by
      intro s hs
      rcases List.mem_append.mp hs with hs | hs
      · exact h.entries s hs
      · rw [List.mem_singleton.mp hs]
        exact h.limits.2
    sessions := by
      rw [List.length_append, List.length_singleton]
      exact hroom }

/-- What is left when a session is taken from both parts. -/
theorem drop {before after : SessionQueue} {id : String} {rs : List MetricsRecord}
    (h : store.Holds (before ++ (id, rs) :: after)) {order : List String}
    (horder : order = (before ++ after).map Prod.fst) :
    ({ store with order := order, sessions := store.sessions.erase id } : MetricsStore).Holds
      (before ++ after) := by
  have hsublist : (before ++ after).Sublist (before ++ (id, rs) :: after) :=
    (List.sublist_cons_self _ _).append_left before
  obtain ⟨hbefore, hafter⟩ := h.distinct.notMem_of_append
  exact {
    limits := h.limits
    order := horder
    distinct := h.distinct.sublist (hsublist.map Prod.fst)
    names := h.names.erase id
    lookup := by
      intro other
      rw [Record.get?_append]
      by_cases hother : other = id
      · subst hother
        rw [Record.get?_erase_self, Record.get?_eq_none_iff.mpr hbefore,
          Record.get?_eq_none_iff.mpr hafter]
        rfl
      · rw [Record.get?_erase_of_ne _ hother, h.lookup, Record.get?_append]
        simp [Record.get?, hother]
    nonempty := fun s hs => h.nonempty s (hsublist.subset hs)
    entries := fun s hs => h.entries s (hsublist.subset hs)
    sessions := Nat.le_trans hsublist.length_le h.sessions }

theorem record_absent_room (h : store.Holds q) (hroom : q.length < store.maxSessions) {id : String}
    (habsent : id ∉ q.map Prod.fst) (r : MetricsRecord) :
    (store.record id r).Holds (q ++ [(id, [r])]) := by
  have hlength : store.order.length < store.maxSessions := by
    rw [h.order, List.length_map]
    exact hroom
  exact h.join hroom habsent r
    (record_of_absent (h.get?_of_absent habsent) r (makeRoom_of_lt hlength _))

theorem record_absent_full {oldest : String × List MetricsRecord} (h : store.Holds (oldest :: q))
    (hfull : (oldest :: q).length = store.maxSessions)
    {id : String} (habsent : id ∉ (oldest :: q).map Prod.fst) (r : MetricsRecord) :
    (store.record id r).Holds (q ++ [(id, [r])]) := by
  have horder : store.order = oldest.1 :: q.map Prod.fst := h.order
  have hlength : (oldest.1 :: q.map Prod.fst).length = store.maxSessions := by
    simpa using hfull
  have hroom : q.length < store.maxSessions := by
    rw [← hfull]
    exact Nat.lt_succ_self q.length
  have hhead : store.Holds ([] ++ (oldest.1, oldest.2) :: q) := h
  have hdropped := hhead.drop (rfl : q.map Prod.fst = ([] ++ q).map Prod.fst)
  have hrecord := record_of_absent (h.get?_of_absent habsent) r
    ((congrArg (fun order => makeRoom store.maxSessions order store.sessions) horder).trans
      (makeRoom_of_eq hlength store.sessions))
  exact hdropped.join hroom (fun hmem => habsent (.tail _ hmem)) r hrecord

theorem evict {before after : SessionQueue} {id : String} {rs : List MetricsRecord}
    (h : store.Holds (before ++ (id, rs) :: after)) :
    (store.evict id).2.Holds (before ++ after) := by
  obtain ⟨hbefore, hafter⟩ := h.distinct.notMem_of_append
  refine h.drop ?_
  have hkeep {names : List String} (hnames : id ∉ names) :
      names.filter (fun other => other ≠ id) = names :=
    List.filter_eq_self.mpr fun other hmem => by
      have hne : other ≠ id := fun he => hnames (he ▸ hmem)
      simpa using hne
  rw [h.order, List.map_append, List.map_cons, List.filter_append,
    List.filter_cons_of_neg (by simp), hkeep hbefore, hkeep hafter, List.map_append]

theorem evict_absent (h : store.Holds q) {id : String} (habsent : id ∉ q.map Prod.fst) :
    (store.evict id).2.Holds q := by
  have hne : ∀ other ∈ q.map Prod.fst, other ≠ id := fun other hmem he => habsent (he ▸ hmem)
  exact {
    limits := h.limits
    order := by
      rw [MetricsStore.evict, h.order]
      exact List.filter_eq_self.mpr fun other hmem => by simpa using hne other hmem
    distinct := h.distinct
    names := h.names.erase id
    lookup := by
      intro other
      by_cases hother : other = id
      · subst hother
        rw [← h.lookup, h.get?_of_absent habsent]
        exact Record.get?_erase_self _ _
      · rw [← h.lookup]
        exact Record.get?_erase_of_ne _ hother
    nonempty := h.nonempty
    entries := h.entries
    sessions := h.sessions }

theorem clear (h : store.Holds q) : store.clear.Holds [] where
  limits := h.limits
  order := rfl
  distinct := List.nodup_nil
  names := List.nodup_nil
  lookup _ := rfl
  nonempty := by simp
  entries := by simp
  sessions := Nat.zero_le _

theorem exists_record (h : store.Holds q) (id : String) (r : MetricsRecord) :
    ∃ next, SessionQueue.Step store.maxSessions store.maxEntries (.record id r) q .done next ∧
      (store.record id r).Holds next := by
  cases hfound : Record.get? q id with
  | some rs =>
    obtain ⟨before, after, rfl, -⟩ := Record.exists_append_of_get? hfound
    have hnext := h.record_present r
    have hle : rs.length ≤ store.maxEntries := h.entries (id, rs) (by simp)
    rcases Nat.lt_or_eq_of_le hle with hroom | hfull
    · rw [push_of_lt hroom] at hnext
      exact ⟨_, .append r hroom, hnext⟩
    · cases rs with
      | nil => exact absurd rfl (h.nonempty (id, []) (by simp))
      | cons oldest rs =>
        rw [push_of_eq hfull] at hnext
        exact ⟨_, .shift r hfull, hnext⟩
  | none =>
    have habsent := Record.get?_eq_none_iff.mp hfound
    rcases Nat.lt_or_eq_of_le h.sessions with hroom | hfull
    · exact ⟨_, .arrive r habsent hroom, h.record_absent_room hroom habsent r⟩
    · cases q with
      | nil => exact absurd h.limits.1 (by rw [← hfull]; decide)
      | cons oldest q =>
        exact ⟨_, .displace r habsent hfull, h.record_absent_full hfull habsent r⟩

theorem exists_evict (h : store.Holds q) (id : String) :
    ∃ next, SessionQueue.Step store.maxSessions store.maxEntries (.evict id) q
        (.existed (store.evict id).1) next ∧ (store.evict id).2.Holds next := by
  have hreply : (store.evict id).1 = (Record.get? q id).isSome := by
    rw [MetricsStore.evict, h.lookup]
  rw [hreply]
  cases hfound : Record.get? q id with
  | some rs =>
    obtain ⟨before, after, rfl, -⟩ := Record.exists_append_of_get? hfound
    exact ⟨_, .evict, h.evict⟩
  | none =>
    have habsent := Record.get?_eq_none_iff.mp hfound
    exact ⟨_, .evictNone habsent, h.evict_absent habsent⟩

theorem step_session (h : store.Holds q) (id : String) :
    SessionQueue.Step store.maxSessions store.maxEntries (.session id) q
      (.records (store.session id)) q := by
  rw [h.session]
  cases hfound : Record.get? q id with
  | some rs => exact .session (Record.mem_of_get? hfound)
  | none => exact .sessionNone (Record.get?_eq_none_iff.mp hfound)

theorem perform (h : store.Holds q) (call : StoreCall) :
    ∃ next, SessionQueue.Step store.maxSessions store.maxEntries call q (store.perform call).1 next ∧
      (store.perform call).2.Holds next := by
  cases call with
  | record id r => exact h.exists_record id r
  | evict id => exact h.exists_evict id
  | clear => exact ⟨[], .clear, h.clear⟩
  | session id => exact ⟨q, h.step_session id, h⟩
  | count =>
    have hstep : SessionQueue.Step store.maxSessions store.maxEntries .count q (.count q.length) q :=
      .count
    rw [← h.sessionCount] at hstep
    exact ⟨q, hstep, h⟩

end Holds

theorem limits_perform (store : MetricsStore) (call : StoreCall) :
    (store.perform call).2.maxSessions = store.maxSessions ∧
      (store.perform call).2.maxEntries = store.maxEntries := by
  cases call with
  | record id r =>
    change (store.record id r).maxSessions = _ ∧ (store.record id r).maxEntries = _
    unfold record
    split <;> exact ⟨rfl, rfl⟩
  | evict | clear | session | count => exact ⟨rfl, rfl⟩

theorem limits_performAll (store : MetricsStore) (calls : List StoreCall) :
    (store.performAll calls).2.maxSessions = store.maxSessions ∧
      (store.performAll calls).2.maxEntries = store.maxEntries := by
  induction calls generalizing store with
  | nil => exact ⟨rfl, rfl⟩
  | cons call calls ih =>
    obtain ⟨hsessions, hentries⟩ := ih (store.perform call).2
    have hstep := store.limits_perform call
    exact ⟨hsessions.trans hstep.1, hentries.trans hstep.2⟩

theorem Holds.performAll {store : MetricsStore} {q : SessionQueue} (h : store.Holds q)
    (calls : List StoreCall) :
    ∃ last, SessionQueue.Run store.maxSessions store.maxEntries calls q
        (store.performAll calls).1 last ∧ (store.performAll calls).2.Holds last := by
  induction calls generalizing store q with
  | nil => exact ⟨q, .nil, h⟩
  | cons call calls ih =>
    obtain ⟨next, hstep, hnext⟩ := h.perform call
    obtain ⟨last, hrun, hlast⟩ := ih hnext
    obtain ⟨hsessions, hentries⟩ := store.limits_perform call
    rw [hsessions, hentries] at hrun
    exact ⟨last, .cons hstep hrun, hlast⟩

/-- Whatever calls were made of a store, there is a queue that they lead to by the steps that it
allows and with the replies that were given, and the store shows this queue and nothing else. -/
theorem performAll_empty (maxSessions maxEntries : Nat) (calls : List StoreCall) :
    let run := (empty maxSessions maxEntries).performAll calls
    ∃ q, SessionQueue.Run (max 1 maxSessions) (max 1 maxEntries) calls [] run.1 q ∧
      run.2.toList = q ∧ run.2.order = q.map Prod.fst ∧
      (∀ id, run.2.session id = (Record.get? q id).getD []) ∧ run.2.sessionCount = q.length ∧
      (run.2.sessions.map Prod.fst).Perm run.2.order ∧ run.2.order.Nodup ∧
      (∀ s ∈ q, s.2 ≠ [] ∧ s.2.length ≤ max 1 maxEntries) ∧ q.length ≤ max 1 maxSessions := by
  intro run
  obtain ⟨q, hrun, hlast⟩ := (Holds.empty maxSessions maxEntries).performAll calls
  obtain ⟨hsessions, hentries⟩ := (empty maxSessions maxEntries).limits_performAll calls
  have hnodup : run.2.order.Nodup := by
    rw [hlast.order]
    exact hlast.distinct
  exact ⟨q, hrun, hlast.toList, hlast.order, hlast.session, hlast.sessionCount, hlast.names_perm,
    hnodup,
    fun s hs => ⟨hlast.nonempty s hs, Nat.le_trans (hlast.entries s hs) (Nat.le_of_eq hentries)⟩,
    Nat.le_trans hlast.sessions (Nat.le_of_eq hsessions)⟩

end MetricsStore

end Stagewise
