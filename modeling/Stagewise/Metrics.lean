import Stagewise.Result

/-! Records of past generations, kept by session. The number of sessions and of records in each is
bounded, and the oldest go first. -/

namespace Stagewise

structure MetricsRecord where
  mode : Mode
  success : Bool
  retryCount : UInt32
  metrics : GenerationMetrics
deriving DecidableEq

def MetricsRecord.toJson (r : MetricsRecord) : Json :=
  .ofFields
    [("mode", r.mode.toJson),
     ("success", .bool r.success),
     ("retryCount", .int r.retryCount.toNat),
     ("metrics", r.metrics.toJson)]

structure MetricsStore where
  maxSessions : Nat
  maxEntries : Nat
  /-- The sessions in the order in which they came, the oldest first. -/
  order : List String
  /-- The records of each session, the oldest first. -/
  sessions : Record (List MetricsRecord)

namespace MetricsStore

/-- A store without sessions. A limit below one is raised to one. -/
def empty (maxSessions maxEntries : Nat) : MetricsStore where
  maxSessions := max 1 maxSessions
  maxEntries := max 1 maxEntries
  order := []
  sessions := []

/-- The limits of a store for which none are given. -/
def standard : MetricsStore := empty 1024 64

/-- Drops the oldest sessions until there is room for one more. -/
def makeRoom (limit : Nat) (order : List String) (sessions : Record (List MetricsRecord)) :
    List String × Record (List MetricsRecord) :=
  match order with
  | [] => ([], sessions)
  | oldest :: rest =>
    if limit ≤ (oldest :: rest).length then makeRoom limit rest (sessions.erase oldest)
    else (oldest :: rest, sessions)

/-- A record more, for which the oldest makes room when there is none. -/
def push (limit : Nat) (records : List MetricsRecord) (r : MetricsRecord) : List MetricsRecord :=
  (if limit ≤ records.length then records.drop 1 else records) ++ [r]

def record (store : MetricsStore) (sessionId : String) (r : MetricsRecord) : MetricsStore :=
  match store.sessions.get? sessionId with
  | some records =>
    { store with sessions := store.sessions.put sessionId (push store.maxEntries records r) }
  | none =>
    let (order, sessions) := makeRoom store.maxSessions store.order store.sessions
    { store with
      order := order ++ [sessionId]
      sessions := sessions.put sessionId (push store.maxEntries [] r) }

/-- The records of a session, the oldest first. -/
def session (store : MetricsStore) (sessionId : String) : List MetricsRecord :=
  (store.sessions.get? sessionId).getD []

/-- Drops a session, and tells whether it was there. -/
def evict (store : MetricsStore) (sessionId : String) : Bool × MetricsStore :=
  ((store.sessions.get? sessionId).isSome,
   { store with
     order := store.order.filter fun id => id ≠ sessionId
     sessions := store.sessions.erase sessionId })

def clear (store : MetricsStore) : MetricsStore :=
  { store with order := [], sessions := [] }

def sessionCount (store : MetricsStore) : Nat :=
  store.sessions.length

/-- The sessions with their records, in the order in which they came. -/
def toList (store : MetricsStore) : List (String × List MetricsRecord) :=
  store.order.map fun id => (id, store.session id)

end MetricsStore

end Stagewise
