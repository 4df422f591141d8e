import Stagewise.Metrics
import Stagewise.Proofs.Record

/-! A queue of sessions, each with its records, as the metrics store is meant to keep it: one list, the
session that came first at its head. What each call may do to it is a relation that knows nothing of
how the store is kept. -/

namespace Stagewise

/-- The calls of a metrics store. A call has the store to itself, so the calls of several callers
come in one sequence, whichever way they mix. -/
inductive StoreCall where
  | record (id : String) (r : MetricsRecord)
  | evict (id : String)
  | clear
  | session (id : String)
  | count

inductive StoreReply where
  | done
  | existed (found : Bool)
  | records (rs : List MetricsRecord)
  | count (n : Nat)

abbrev SessionQueue := List (String × List MetricsRecord)

namespace SessionQueue

/-- What a call may do to a queue of at most so many sessions with at most so many records each. -/
inductive Step (maxSessions maxEntries : Nat) :
    StoreCall → SessionQueue → StoreReply → SessionQueue → Prop
  | append {before after : SessionQueue} {id : String} {rs : List MetricsRecord}
      (r : MetricsRecord) (room : rs.length < maxEntries) :
      Step maxSessions maxEntries (.record id r) (before ++ (id, rs) :: after) .done
        (before ++ (id, rs ++ [r]) :: after)
  | shift {before after : SessionQueue} {id : String} {oldest : MetricsRecord}
      {rs : List MetricsRecord} (r : MetricsRecord) (full : (oldest :: rs).length = maxEntries) :
      Step maxSessions maxEntries (.record id r) (before ++ (id, oldest :: rs) :: after) .done
        (before ++ (id, rs ++ [r]) :: after)
  | arrive {q : SessionQueue} {id : String} (r : MetricsRecord) (absent : id ∉ q.map Prod.fst)
      (room : q.length < maxSessions) :
      Step maxSessions maxEntries (.record id r) q .done (q ++ [(id, [r])])
  | displace {oldest : String × List MetricsRecord} {q : SessionQueue} {id : String}
      (r : MetricsRecord) (absent : id ∉ (oldest :: q).map Prod.fst)
      (full : (oldest :: q).length = maxSessions) :
      Step maxSessions maxEntries (.record id r) (oldest :: q) .done (q ++ [(id, [r])])
  | evict {before after : SessionQueue} {id : String} {rs : List MetricsRecord} :
      Step maxSessions maxEntries (.evict id) (before ++ (id, rs) :: after) (.existed true)
        (before ++ after)
  | evictNone {q : SessionQueue} {id : String} (absent : id ∉ q.map Prod.fst) :
      Step maxSessions maxEntries (.evict id) q (.existed false) q
  | clear {q : SessionQueue} : Step maxSessions maxEntries .clear q .done []
  | session {q : SessionQueue} {id : String} {rs : List MetricsRecord} (present : (id, rs) ∈ q) :
      Step maxSessions maxEntries (.session id) q (.records rs) q
  | sessionNone {q : SessionQueue} {id : String} (absent : id ∉ q.map Prod.fst) :
      Step maxSessions maxEntries (.session id) q (.records []) q
  | count {q : SessionQueue} : Step maxSessions maxEntries .count q (.count q.length) q

/-- Calls one after another, each with its reply. -/
inductive Run (maxSessions maxEntries : Nat) :
    List StoreCall → SessionQueue → List StoreReply → SessionQueue → Prop
  | nil {q : SessionQueue} : Run maxSessions maxEntries [] q [] q
  | cons {call : StoreCall} {calls : List StoreCall} {reply : StoreReply}
      {replies : List StoreReply} {q next last : SessionQueue}
      (step : Step maxSessions maxEntries call q reply next)
      (rest : Run maxSessions maxEntries calls next replies last) :
      Run maxSessions maxEntries (call :: calls) q (reply :: replies) last

end SessionQueue

namespace MetricsStore

def perform (store : MetricsStore) : StoreCall → StoreReply × MetricsStore
  | .record id r => (.done, store.record id r)
  | .evict id => (.existed (store.evict id).1, (store.evict id).2)
  | .clear => (.done, store.clear)
  | .session id => (.records (store.session id), store)
  | .count => (.count store.sessionCount, store)

def performAll (store : MetricsStore) : List StoreCall → List StoreReply × MetricsStore
  | [] => ([], store)
  | call :: calls =>
    let (reply, next) := store.perform call
    let (replies, last) := performAll next calls
    (reply :: replies, last)

/-- The store holds the sessions of the queue, in its order in one of its parts and by name in the
other, and keeps to its limits. -/
structure Holds (store : MetricsStore) (q : SessionQueue) : Prop where
  limits : 1 ≤ store.maxSessions ∧ 1 ≤ store.maxEntries
  order : store.order = q.map Prod.fst
  distinct : Record.Distinct q
  names : store.sessions.Distinct
  lookup : ∀ id, store.sessions.get? id = Record.get? q id
  nonempty : ∀ s ∈ q, s.2 ≠ []
  entries : ∀ s ∈ q, s.2.length ≤ store.maxEntries
  sessions : q.length ≤ store.maxSessions

namespace Holds

variable {store : MetricsStore} {q : SessionQueue}

theorem empty (maxSessions maxEntries : Nat) : (empty maxSessions maxEntries).Holds [] where
  limits := ⟨Nat.le_max_left _ _, Nat.le_max_left _ _⟩
  order := rfl
  distinct := List.nodup_nil
  names := List.nodup_nil
  lookup _ := rfl
  nonempty := by simp
  entries := by simp
  sessions := Nat.zero_le _

theorem session (h : store.Holds q) (id : String) :
    store.session id = (Record.get? q id).getD [] := by
  rw [MetricsStore.session, h.lookup]

/-- Both parts of the store name the same sessions. -/
theorem names_perm (h : store.Holds q) : (store.sessions.map Prod.fst).Perm store.order := by
  rw [h.order]
  refine (List.perm_ext_iff_of_nodup h.names h.distinct).mpr fun id => ?_
  rw [← Record.isSome_get?_iff, ← Record.isSome_get?_iff, h.lookup]

theorem sessionCount (h : store.Holds q) : store.sessionCount = q.length := by
  have hlength := h.names_perm.length_eq
  rw [h.order, List.length_map, List.length_map] at hlength
  exact hlength

theorem toList (h : store.Holds q) : store.toList = q := by
  have hself : ∀ s ∈ q, (s.1, store.session s.1) = s := by
    intro s hs
    rw [h.session, h.distinct.get?_of_mem hs]
    rfl
  rw [MetricsStore.toList, h.order, List.map_map]
  exact (List.map_congr_left hself).trans (List.map_id q)

end Holds

end MetricsStore

end Stagewise
