-- The permission side of the app as futures: each command and the permission subscription's
-- loop is a state machine with one state per `.await`, and a poll runs it to its next one.
-- A lock is taken by the poll that finds it free and kept to the end of its scope.
import Notif.AgentManagement.State

namespace agent_management

/-! ## `get_sessions` -/

/-- The rows of `get_sessions`: every key of `queues` or `active` once (the `HashSet` of both
key sets, in the model's order), with its pending count, for the sessions with one. -/
def sessionsOf (queues : HashMap (List PermissionRequest)) (active : HashMap PermissionRequest) :
    List SessionInfo :=
  (queues.keys ++ active.keys).dedup.filterMap fun session_id =>
    let queue_count := ((queues.lookup session_id).map List.length).getD 0
    let has_active := (active.lookup session_id).isSome
    let total := queue_count + if has_active then 1 else 0
    if total > 0 then
      let cwd := ((active.lookup session_id).orElse fun _ =>
        (queues.lookup session_id).bind List.head?).bind PermissionRequest.cwd
      some { session_id, cwd, queue_count := total }
    else none

/-- The await points of `get_sessions`. -/
inductive GetSessions where
  | start
  /-- Holding `queues`, at `state.active.lock().await`. -/
  | queues_locked
  | done (ret : List SessionInfo)

def GetSessions.poll (st : AppState) : GetSessions → Option GetSessions
  | .start => some .queues_locked
  | .queues_locked => some (.done (sessionsOf st.queues st.active))
  | .done _ => none

/-! ## `get_current_permission` -/

/-- The await points of `get_current_permission`. -/
inductive GetCurrentPermission where
  | start
  /-- Holding `active`, where the session has no request, at `state.queues.lock().await`. -/
  | active_locked
  | done (ret : Option PermissionRequest)

/-- The active request of the session, or else the front of its queue, made active. -/
def GetCurrentPermission.poll (session_id : String) (st : AppState) :
    GetCurrentPermission → Option (GetCurrentPermission × AppState × List Obs)
  | .start =>
    match st.active.lookup session_id with
    | some req => some (.done (some req), st, [])
    | none => some (.active_locked, st, [])
  | .active_locked =>
    match st.queues.lookup session_id with
    | some (req :: rest) =>
      some (.done (some req),
        { st with queues := st.queues.insert session_id rest,
                  active := st.active.insert session_id req },
        [.activated session_id req])
    | _ => some (.done none, st, [])
  | .done _ => none

/-! ## `respond_permission` -/

/-- The await points of `respond_permission`. -/
inductive RespondPermission where
  | start
  /-- `active` released, at `client.emit(..).await`. -/
  | emitting
  | done (ret : Except String Unit)

/-- The session's active request is removed, whatever it is, then the response is emitted;
the call returns what the emit returned. -/
def RespondPermission.poll (session_id decision : String) (message : Option String)
    (st : AppState) (emit : EmitResult) :
    RespondPermission → Option (RespondPermission × AppState × List Obs)
  | .start =>
    some (.emitting, { st with active := st.active.erase session_id },
      (st.active.lookup session_id).toList.map (.removed session_id))
  | .emitting =>
    some (.done emit, st,
      [.emitted "claude.permission.response" (permissionResponse session_id decision message)
        emit.toBool])
  | .done _ => none

/-! ## `get_badge_counts` -/

/-- The counts of `get_badge_counts`: every queued request and every active one, and the busy
agents. -/
def badgeCounts (st : AppState) : BadgeCounts where
  permissions :=
    (st.queues.entries.map fun e => e.2.length).foldl (· + ·) 0 + st.active.entries.length
  agents_busy := st.agents.entries.countP fun e => e.2.status matches some .Busy

/-- The await points of `get_badge_counts`. -/
inductive GetBadgeCounts where
  | start
  /-- Holding `queues`, at `state.active.lock().await`. -/
  | queues_locked
  /-- Holding `queues` and `active`, at `state.agents.lock().await`. -/
  | active_locked
  | done (ret : BadgeCounts)

def GetBadgeCounts.poll (st : AppState) : GetBadgeCounts → Option GetBadgeCounts
  | .start => some .queues_locked
  | .queues_locked => some .active_locked
  | .active_locked => some (.done (badgeCounts st))
  | .done _ => none

/-! ## `start_permission_subscription` -/

/-- The await points of the permission subscription's loop. -/
inductive PermissionSubscription where
  /-- At `stream.next().await`. -/
  | waiting
  /-- At `state.queues.lock().await`, with a decoded request and its session. -/
  | queues_locking (session_id : String) (request : PermissionRequest)

/-- The loop body on an `Ok(event)`, where `decoded` is
`serde_json::from_value::<PermissionRequest>(event.data)`: a request without an id takes the
event's, a request without a session goes to `"default"`. -/
def PermissionSubscription.receive (event_id : String)
    (decoded : Except serde_json.Error PermissionRequest) :
    PermissionSubscription → Option PermissionSubscription
  | .waiting =>
    match decoded with
    | .ok request =>
      let request := if request.id.isNone then { request with id := some event_id } else request
      some (.queues_locking (request.session_id.getD "default") request)
    | .error _ => some .waiting
  | .queues_locking _ _ => none

/-- `queues.entry(session_id).or_insert_with(VecDeque::new).push_back(request)`. -/
def PermissionSubscription.poll (st : AppState) :
    PermissionSubscription → Option (PermissionSubscription × AppState × List Obs)
  | .waiting => none
  | .queues_locking session_id request =>
    some (.waiting,
      { st with queues := st.queues.insert session_id
                  ((st.queues.lookup session_id).getD [] ++ [request]) },
      [.enqueued session_id request])

end agent_management
